import Testbed.Lab.Executor
import Testbed.Lab.Namespace

/-!
# The live lab

The live lab looks up the process of a node in the process listing of the machine, afresh for every
command, and runs the command in the namespaces of that process. Without a process nothing is
started.
-/

namespace Testbed.Lab

/-- Words with one blank between them, as messages show a command. -/
def spoken (command : List String) : String := " ".intercalate command

namespace Machine

def processTable (machine : Machine) : Except LabError String × Machine :=
  let (listed, machine) := machine.start "ps" ["ax"]
  let text := do
    let reply ← listed.mapError LabError.process
    (Text.Utf8.decode reply.output).mapError LabError.encoding
  (text, machine)

/-- The process of a node: the first process that the node's filter accepts. -/
def findProcess (filter : Filter) (machine : Machine) :
    Turn Machine (Except LabError (Option Nat)) :=
  let announced := LogEntry.about filter.name .trace "`ps ax`"
  match machine.processTable with
  | (.error error, machine) => ⟨.error error, [announced], machine⟩
  | (.ok table, machine) =>
    let found := pids filter table
    let choice := match found with
      | first :: _ :: _ =>
        [LogEntry.about filter.name .warn
          (toString found.length ++ " processes match, choosing " ++ toString first)]
      | _ => []
    ⟨.ok found.head?, announced :: choice, machine⟩

def findNamespace (settings : Settings) (filter : Filter) (machine : Machine) :
    Turn Machine (Except LabError (Option Namespace)) :=
  (findProcess filter machine).andThen fun found machine =>
    ⟨found.map fun pid? => pid?.map (Namespace.ofProcess settings filter.name), [], machine⟩

/-- One stream that a program wrote, under its title. An empty stream is left out. -/
def shownStream (title : String) (bytes : List UInt8) : String :=
  if bytes.isEmpty then "" else "\n" ++ title ++ ":\n" ++ Text.Utf8.decodeLossy bytes

/-- Runs a command in the namespaces of a process and waits for its end. -/
def runInside (space : Namespace) (command : List String) (machine : Machine) :
    Turn Machine (Except LabError Ending) :=
  let words := spoken command
  let announced := LogEntry.about space.name .trace ("`" ++ words ++ "`")
  let (program, arguments) := space.wrap command
  match machine.start program arguments with
  | (.error error, machine) =>
    let failure := LogEntry.about space.name .error (words ++ " failed: " ++ error.message)
    ⟨.error (.process error), [announced, failure], machine⟩
  | (.ok reply, machine) =>
    let shown :=
      if reply.output.isEmpty && reply.errors.isEmpty then []
      else
        [LogEntry.about space.name .debug
          (words ++ " returned " ++ reply.ending.render ++ shownStream "STDOUT" reply.output ++
            shownStream "STDERR" reply.errors)]
    ⟨.ok reply.ending, announced :: shown, machine⟩

end Machine

def live (settings : Settings) : Executor Machine where
  run filter command machine :=
    (machine.findNamespace settings filter).andThen fun found machine =>
      match found with
      | .error error => ⟨.error error, [], machine⟩
      | .ok none => ⟨.ok .missing, [], machine⟩
      | .ok (some space) =>
        (machine.runInside space command).andThen fun ended machine =>
          ⟨ended.map fun ending => .executed space.pid ending.code, [], machine⟩

end Testbed.Lab
