import Testbed.Lab.Machine
import Testbed.Lab.Process
import Testbed.Log

/-!
# Executors

An executor is asked to run a command on a node. It remembers whatever it needs between two
commands, so asking it takes its state to a new one. Everything that talks to a lab does so through
this interface, and whatever is true for every executor is true for the real lab, for a dry run and
for a rehearsal with prepared answers.
-/

namespace Testbed.Lab

/-- What a step of a run leaves behind: its answer, what it reported, and the new state. -/
structure Turn (State Answer : Type) where
  answer : Answer
  log : Log
  state : State

namespace Turn

variable {State Answer Next : Type}

/-- A second step that depends on the answer of the first. -/
def andThen (turn : Turn State Answer) (next : Answer → State → Turn State Next) :
    Turn State Next :=
  let second := next turn.answer turn.state
  ⟨second.answer, turn.log ++ second.log, second.state⟩

/-- The same step with a report in front. -/
def after (report : Log) (turn : Turn State Answer) : Turn State Answer :=
  { turn with log := report ++ turn.log }

end Turn

inductive Outcome where
  | executed (pid : Nat) (status : Int)
  | missing
  | printed
deriving DecidableEq, Repr

/-- Why an executor could not run a command. -/
inductive LabError where
  | process (error : StartError)
  | encoding (fault : Text.Utf8.Fault)
deriving DecidableEq, Repr

namespace LabError

def message : LabError → String
  | process error => "Process error: " ++ error.message
  | encoding fault => "Cannot parse output as UTF-8: " ++ fault.message

def commandMessage (error : LabError) : String :=
  "Namespace error: " ++ error.message

end LabError

abbrev Answer := Except LabError Outcome

structure Executor (State : Type) where
  run : Filter → List String → State → Turn State Answer

/-- A command that an executor was asked to run. -/
structure Call where
  filter : Filter
  command : List String
deriving DecidableEq, Repr

namespace Executor

variable {State : Type}

/-- The executor that also keeps a list of the commands it was asked to run, oldest first. -/
def recording (executor : Executor State) : Executor (State × List Call) where
  run filter command state :=
    let turn := executor.run filter command state.1
    ⟨turn.answer, turn.log, turn.state, state.2 ++ [⟨filter, command⟩]⟩

end Executor

end Testbed.Lab
