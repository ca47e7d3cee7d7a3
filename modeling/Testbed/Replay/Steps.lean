import Testbed.Replay.Hosts
import Testbed.Replay.Routers

/-!
# Steps of a run

A run takes steps, one after the other, and keeps one summary for all of them. A step configures
the hosts, or replays the router configurations that are saved in a folder. Only a step of the
second sort can fail, and it ends the run.
-/

namespace Testbed.Replay

open Testbed.Lab

inductive Step where
  | hosts
  | routers (folder : String) (scope : Scope)
deriving DecidableEq, Repr

variable {State : Type}

def Step.perform (executor : Executor State) (topology : Topology) (read : Files.Reader)
    (progress : Progress State) : Step → Turn (Progress State) (Except LoadError Unit)
  | .hosts =>
    (configureHosts executor topology progress).andThen fun _ progress => ⟨.ok (), [], progress⟩
  | .routers folder scope => replayRouters executor topology read folder scope progress

/-- Takes one step after the other, up to the first that fails. -/
def performAll (executor : Executor State) (topology : Topology) (read : Files.Reader) :
    List Step → Progress State → Turn (Progress State) (Except LoadError Unit)
  | [], progress => ⟨.ok (), [], progress⟩
  | step :: later, progress =>
    (step.perform executor topology read progress).andThen fun result progress =>
      match result with
      | .error error => ⟨.error error, [], progress⟩
      | .ok _ => performAll executor topology read later progress

def Step.files (topology : Topology) : Step → List String
  | .hosts => []
  | .routers folder scope =>
    topology.routers.flatMap fun router =>
      scope.sources.map fun source => savedPath folder router source.1

end Testbed.Replay
