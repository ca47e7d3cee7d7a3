import Testbed.Text.Utf8

/-!
# A machine that starts programs

The machine on which a lab runs, seen through what can be observed of it: which programs there are,
which of them it does not let be started, what the process listing prints, and what the programs that
are started answer. It keeps the list of everything it has started. Only the outermost program of a
command is started by name, so a command that is handed to another program counts as that program's
arguments.

Results: `started_start` (a machine does not forget what it has started).
-/

namespace Testbed.Lab

inductive Ending where
  | exited (status : UInt8)
  | killed (signal : Nat)
deriving DecidableEq, Repr

namespace Ending

/-- The names of the signals from 1 on. -/
def signalNames : List String :=
  ["HUP", "INT", "QUIT", "ILL", "TRAP", "ABRT", "BUS", "FPE", "KILL", "USR1", "SEGV", "USR2",
   "PIPE", "ALRM", "TERM", "STKFLT", "CHLD", "CONT", "STOP", "TSTP", "TTIN", "TTOU", "URG", "XCPU",
   "XFSZ", "VTALRM", "PROF", "WINCH", "IO", "PWR", "SYS"]

def signalName? (signal : Nat) : Option String :=
  if signal = 0 then none else signalNames[signal - 1]?

def status? : Ending → Option UInt8
  | exited status => some status
  | killed _ => none

/-- The ending as a number: the exit status, or minus one for a program that was killed. -/
def code (ending : Ending) : Int :=
  match ending.status? with
  | some status => status.toNat
  | none => -1

def render : Ending → String
  | exited status => "exit status: " ++ toString status.toNat
  | killed signal =>
    "signal: " ++ toString signal ++
      match signalName? signal with
      | some name => " (SIG" ++ name ++ ")"
      | none => ""

end Ending

/-- What a program leaves behind: its ending and what it wrote. -/
structure Reply where
  ending : Ending := .exited 0
  output : List UInt8 := []
  errors : List UInt8 := []
deriving DecidableEq, Repr

inductive StartError where
  | notFound
  | nulByte
  | other (text : String)
deriving DecidableEq, Repr

def StartError.message : StartError → String
  | .notFound => "No such file or directory (os error 2)"
  | .nulByte => "nul byte found in provided data"
  | .other text => text

/-- The observable state of a machine. -/
structure Machine where
  /-- What the process listing leaves behind. -/
  listing : Reply := {}
  /-- The names of the programs on the search path. -/
  programs : List String := ["ps", "sudo", "mxexec"]
  /-- The paths, as they are typed, behind which there are programs. -/
  paths : List String := []
  /-- Why a program that is there is not started with these words, if it is not. Its file may not be
  executable, or the words may be too many. -/
  refusal? : List String → Option String := fun _ => none
  /-- What the next programs leave behind, the process listing apart. When the list is used up,
  programs succeed silently. -/
  replies : List Reply := []
  /-- The argument vectors of all programs that were started, oldest first. -/
  started : List (List String) := []

namespace Machine

/-- Whether a text holds the NUL character, which no argument can. -/
def hasNul (text : String) : Bool := text.toList.contains '\x00'

/-- Whether a program is there. A name with a slash is a path, and any other name is looked for on
the search path. -/
def offers (machine : Machine) (program : String) : Bool :=
  if program.toList.contains '/' then machine.paths.contains program
  else machine.programs.contains program

/-- Why a program cannot be started, if it cannot. The first of the words is its name. -/
def obstacle? (machine : Machine) (words : List String) : Option StartError :=
  if words.any hasNul then some .nulByte
  else if words.head?.any machine.offers then (machine.refusal? words).map .other
  else some .notFound

/-- Starts a program and waits for its end. -/
def start (machine : Machine) (program : String) (arguments : List String) :
    Except StartError Reply × Machine :=
  match machine.obstacle? (program :: arguments) with
  | some error => (.error error, machine)
  | none =>
    let recorded := { machine with started := machine.started ++ [program :: arguments] }
    if program = "ps" then (.ok machine.listing, recorded)
    else (.ok (machine.replies.headD {}), { recorded with replies := machine.replies.tail })

/-- A machine does not forget what it has started. -/
theorem started_start (machine : Machine) (program : String) (arguments : List String) :
    machine.started <+: (machine.start program arguments).2.started := by
  unfold start
  split
  · exact List.prefix_refl _
  · split <;> exact List.prefix_append _ _

end Machine

end Testbed.Lab
