import Testbed.Lab.DryRun
import Testbed.Program.Arguments
import Testbed.Topology.Decode

/-!
# Running a tool

A tool reads its arguments, chooses its topology and takes its steps. With the flag for a dry run it
prints its commands, and otherwise it runs them on the machine. It ends with the status of the last
command that was executed, or with a status of its own if it could not do its job.

Results: `run_dry_machine` (a dry run starts nothing).
-/

namespace Testbed.Program

open Testbed.Lab Testbed.Replay

inductive Problem where
  | arguments
  | topology (cause : Topology.LoadError)
  | configuration (cause : Replay.LoadError)

namespace Problem

def status : Problem → UInt8
  | arguments => 2
  | topology _ | configuration _ => 1

def message : Problem → String
  | arguments => "Unusable arguments"
  | topology cause => cause.message?.getD "Malformed topology"
  | configuration cause => cause.message

end Problem

/-- How a tool ended: the exit code of its run or its problem, what it printed, and the machine that
it leaves behind. -/
structure Ended where
  result : Except Problem Int
  printed : String
  machine : Machine

/-- The exit status of a tool. It keeps the last eight bits of the exit code. -/
def Ended.status (ended : Ended) : UInt8 :=
  match ended.result with
  | .error problem => problem.status
  | .ok code => UInt8.ofInt code

/-- The topology of a tool: the one of a file if one is given. -/
def chooseTopology (tool : Tool) (arguments : Arguments) (read : Files.Reader) :
    Except Topology.LoadError Topology :=
  match arguments.topology with
  | some path => Topology.load read path
  | none => .ok tool.topology

def resultOf {State : Type} (turn : Turn (Progress State) (Except Replay.LoadError Unit)) :
    Except Problem Int :=
  match turn.answer with
  | .error cause => .error (.configuration cause)
  | .ok _ => .ok turn.state.summary.exitCode

def Arguments.steps (arguments : Arguments) (tool : Tool) : List Step :=
  tool.steps (arguments.folder.getD "")

def perform (tool : Tool) (arguments : Arguments) (topology : Topology) (read : Files.Reader)
    (machine : Machine) : Ended :=
  if arguments.dryRun then
    let turn := performAll (dryRun topology.settings) topology read (arguments.steps tool) ⟨"", {}⟩
    ⟨resultOf turn, turn.state.lab, machine⟩
  else
    let turn :=
      performAll (live topology.settings) topology read (arguments.steps tool) ⟨machine, {}⟩
    ⟨resultOf turn, "", turn.state.lab⟩

def run (tool : Tool) (words : List String) (read : Files.Reader) (machine : Machine) : Ended :=
  match tool.parse? words with
  | none => ⟨.error .arguments, "", machine⟩
  | some arguments =>
    match chooseTopology tool arguments read with
    | .error cause => ⟨.error (.topology cause), "", machine⟩
    | .ok topology => perform tool arguments topology read machine

/-- A dry run starts nothing. -/
theorem run_dry_machine {tool : Tool} {words : List String} {arguments : Arguments}
    (parsed : tool.parse? words = some arguments) (dry : arguments.dryRun = true)
    (read : Files.Reader) (machine : Machine) :
    (run tool words read machine).machine = machine := by
  unfold run
  rw [parsed]
  dsimp only
  split
  · rfl
  · simp [perform, dry]

end Testbed.Program
