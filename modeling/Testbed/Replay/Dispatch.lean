import Testbed.Lab.Live

/-!
# Dispatching commands

Commands are dispatched to the nodes of a lab one after the other. What comes of a command never
stops the run: it is reported and counted, and the next command follows. The counts are kept in a
summary, and the last exit status decides how the whole run ends.

Results: `dispatch_state` (a command reaches the executor exactly once, with the filter of its
node).
-/

namespace Testbed.Replay

open Testbed.Lab

inductive NodeKind where
  | host
  | router
deriving DecidableEq, Repr

structure Node where
  kind : NodeKind
  name : String
deriving DecidableEq, Repr

/-- What the process of a host holds and the process of its router does not. -/
def hostMark : String := "host"

/-- The condition that recognises the process of a node. A host may be named after its router, so a
router's condition excludes hosts. -/
def Node.filter (settings : Settings) (node : Node) : Filter :=
  match node.kind with
  | .host => .ofNode settings node.name
  | .router => (Filter.ofNode settings node.name).excluding hostMark

structure Summary where
  executed : Nat := 0
  unsuccessful : Nat := 0
  missing : List String := []
  failed : Nat := 0
  printed : Nat := 0
  lastStatus : Option Int := none
deriving DecidableEq, Repr

namespace Summary

/-- The counts after one more answer about a node. -/
def record (name : String) (answer : Answer) (summary : Summary) : Summary :=
  match answer with
  | .error _ => { summary with failed := summary.failed + 1 }
  | .ok (.executed _ status) =>
    { summary with
      executed := summary.executed + 1
      unsuccessful := summary.unsuccessful + if status = 0 then 0 else 1
      lastStatus := some status }
  | .ok .missing => { summary with missing := summary.missing ++ [name] }
  | .ok .printed => { summary with printed := summary.printed + 1 }

/-- The status of the whole run: that of the last command that was executed. -/
def exitCode (summary : Summary) : Int := summary.lastStatus.getD 0

/-- The counts as one line. The missing nodes are named once each. -/
def render (summary : Summary) : String :=
  toString summary.executed ++ " executed (" ++ toString summary.unsuccessful ++
    " unsuccessful), " ++ toString summary.printed ++ " printed, " ++ toString summary.failed ++
    " failed, " ++ toString summary.missing.length ++ " missing" ++
    if summary.missing.isEmpty then ""
    else " (" ++ ", ".intercalate summary.missing.eraseDups ++ ")"

end Summary

/-- What is reported about the answer to a command. -/
def verdict (name program : String) : Answer → Log
  | .error error =>
    [.about name .error ("Cannot run `" ++ program ++ "`: " ++ error.commandMessage)]
  | .ok (.executed pid status) =>
    let process := " (pid " ++ toString pid ++ ")"
    if status = 0 then [.about name .debug ("`" ++ program ++ "` done" ++ process)]
    else
      [.about name .warn ("`" ++ program ++ "` exited with " ++ toString status ++ process)]
  | .ok .missing => [.about name .warn ("No process found! Skipping `" ++ program ++ "`")]
  | .ok .printed => []

/-- A run in progress: the executor's state and the counts so far. -/
structure Progress (State : Type) where
  lab : State
  summary : Summary := {}

variable {State : Type}

/-- Runs a command on a node, reports what came of it and counts it. -/
def dispatch (executor : Executor State) (settings : Settings) (node : Node)
    (command : List String) (progress : Progress State) : Turn (Progress State) Answer :=
  let turn := executor.run (node.filter settings) command progress.lab
  ⟨turn.answer,
    .about node.name .trace (spoken command) ::
      (turn.log ++ verdict node.name (command.headD "") turn.answer),
    ⟨turn.state, progress.summary.record node.name turn.answer⟩⟩

/-- A command reaches the executor exactly once, with the filter of its node. -/
theorem dispatch_state (executor : Executor State) (settings : Settings) (node : Node)
    (command : List String) (progress : Progress State) :
    (dispatch executor settings node command progress).state =
      let turn := executor.run (node.filter settings) command progress.lab
      ⟨turn.state, progress.summary.record node.name turn.answer⟩ :=
  rfl

end Testbed.Replay
