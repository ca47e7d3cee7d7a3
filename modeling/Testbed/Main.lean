import Testbed.Program.Run

/-!
# The command line

The first argument names the tool, and the others are the tool's own. A dry run prints its lines.
Any other run takes the process listing from the standard input and prints the commands that it
starts, one line for a shell each.

The files of a run are read beforehand: first the topology, and then the saved configurations that
the steps may ask for.
-/

namespace Testbed.Program

def causeOf : IO.Error → Files.ReadError
  | .noFileOrDirectory _ _ _ => .notFound
  | .inappropriateType none _ _ => .isFolder
  | .inappropriateType _ _ "not a directory" => .notFolder
  | .invalidArgument _ 22 _ => .nulByte
  | .invalidArgument _ _ "name too long" => .nameTooLong
  | error => .other (toString error)

def readText (path : String) : IO (Except Files.ReadError String) := do
  try
    let bytes ← IO.FS.readBinFile path
    return (Text.Utf8.decode bytes.toList).mapError fun _ => .notText
  catch error => return .error (causeOf error)

def readBeforehand (paths : List String) : IO Files.Reader := do
  let texts ← paths.mapM fun path => return (path, ← readText path)
  return fun path => (texts.lookup path).getD (.error .notFound)

/-- The machine with the process listing that is given to the program. -/
def givenMachine (settings : Lab.Settings) : IO Lab.Machine := do
  let listing ← (← IO.getStdin).readToEnd
  return {
    listing := { output := Text.Utf8.encode listing }
    programs := ["ps", "sudo", settings.execTool]
    paths := [settings.execTool] }

/-- Shows how a tool ended and passes on its exit status. -/
def finish (ended : Ended) : IO UInt32 := do
  IO.print ended.printed
  for command in ended.machine.started.filter fun command => command != ["ps", "ax"] do
    IO.println (Shell.quoteAll command)
  if let .error problem := ended.result then IO.eprintln problem.message
  return ended.status.toUInt32

def runTool (tool : Tool) (words : List String) : IO UInt32 := do
  match tool.parse? words with
  | none => finish ⟨.error .arguments, "", {}⟩
  | some arguments =>
    match chooseTopology tool arguments (← readBeforehand arguments.topology.toList) with
    | .error cause => finish ⟨.error (.topology cause), "", {}⟩
    | .ok topology =>
      let files := (arguments.steps tool).flatMap fun step => step.files topology
      let machine ← if arguments.dryRun then pure {} else givenMachine topology.settings
      finish (perform tool arguments topology (← readBeforehand files) machine)

/-- Runs the tool that the first word names with the other words. -/
def call : List String → IO UInt32
  | name :: words =>
    match Tool.ofName? name with
    | some tool => runTool tool words
    | none => finish ⟨.error .arguments, "", {}⟩
  | [] => finish ⟨.error .arguments, "", {}⟩

end Testbed.Program

def main (words : List String) : IO UInt32 := Testbed.Program.call words
