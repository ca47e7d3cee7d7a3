import Testbed.Program.Tool

/-!
# Arguments

Every tool knows a flag for a dry run and an option with the file of a topology. Both have a short
and a long form. Short forms can be grouped behind one hyphen, and the value of an option can follow
in the same argument, with or without an equals sign, or in the next one. Other arguments are
operands, and behind two hyphens all are.

Nothing may be given twice, nothing may be empty, and a value in an argument of its own does not
start with a hyphen. A single hyphen is an ordinary word.
-/

namespace Testbed.Program

structure Arguments where
  folder : Option String := none
  topology : Option String := none
  dryRun : Bool := false
deriving DecidableEq, Repr

namespace Arguments

/-- The arguments with the folder, which is given once. -/
def withFolder? (arguments : Arguments) (folder : String) : Option Arguments :=
  if folder.isEmpty || arguments.folder.isSome then none
  else some { arguments with folder }

def withTopology? (arguments : Arguments) (topology : String) : Option Arguments :=
  if topology.isEmpty || arguments.topology.isSome then none
  else some { arguments with topology }

def withDryRun? (arguments : Arguments) : Option Arguments :=
  if arguments.dryRun then none else some { arguments with dryRun := true }

end Arguments

/-- What the next argument can be: anything, the value of an option, or an operand only. -/
inductive Expected where
  | anything
  | topology
  | operand
deriving DecidableEq, Repr

/-- The arguments read so far, and what can follow. -/
structure Reading where
  arguments : Arguments := {}
  expected : Expected := .anything
deriving DecidableEq, Repr

/-- Reads the letters behind one hyphen. -/
def readLetters : List Char → Arguments → Option Reading
  | [], arguments => some ⟨arguments, .anything⟩
  | 'n' :: letters, arguments => do readLetters letters (← arguments.withDryRun?)
  | ['t'], arguments => some ⟨arguments, .topology⟩
  | 't' :: '=' :: value, arguments => do
    return ⟨← arguments.withTopology? (String.ofList value), .anything⟩
  | 't' :: value, arguments => do
    return ⟨← arguments.withTopology? (String.ofList value), .anything⟩
  | _ :: _, _ => none

/-- Reads the name behind two hyphens and the value behind its equals sign. -/
def readName (name : String) (value : Option String) (arguments : Arguments) : Option Reading :=
  match name, value with
  | "dry-run", none => do return ⟨← arguments.withDryRun?, .anything⟩
  | "topology", none => some ⟨arguments, .topology⟩
  | "topology", some value => do return ⟨← arguments.withTopology? value, .anything⟩
  | _, _ => none

def Reading.next (reading : Reading) (argument : String) : Option Reading :=
  let arguments := reading.arguments
  match reading.expected, argument.toList with
  | .operand, _ => do return ⟨← arguments.withFolder? argument, .operand⟩
  | .topology, '-' :: _ :: _ => none
  | .topology, _ => do return ⟨← arguments.withTopology? argument, .anything⟩
  | .anything, ['-', '-'] => some ⟨arguments, .operand⟩
  | .anything, '-' :: '-' :: word =>
    let value := (word.dropWhile (· != '=')).tail?
    readName (String.ofList (word.takeWhile (· != '='))) (value.map String.ofList) arguments
  | .anything, '-' :: letter :: letters => readLetters (letter :: letters) arguments
  | .anything, _ => do return ⟨← arguments.withFolder? argument, .anything⟩

def Tool.parse? (tool : Tool) (words : List String) : Option Arguments := do
  let reading ← words.foldlM Reading.next {}
  if reading.expected = .topology ∨ reading.arguments.folder.isSome ≠ tool.takesFolder then none
  else some reading.arguments

end Testbed.Program
