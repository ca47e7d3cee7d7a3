import Testbed.Proofs.Plan

/-!
# Journals and accounts

A journal lists the commands that an executor was asked to run, each with the answer that it gave.
The summary of a run is an account of the journal: every answer is counted once, the nodes without a
process are named in order, and the last status is that of the last command that was executed.

Results:
1. `serve_eq_carryOut`: whatever is requested of a dispatcher, it only dispatches commands.
2. `carryOut_journaling`: keeping a journal changes nothing else.
3. `Accounts.record`, `carryOut_accounts`: one more answer keeps the accounts, and so does a run.
4. `summary_of_journal`: the accounts of every run.
-/

namespace Testbed.Lab

/-- A command that an executor was asked to run, with the answer that it gave. -/
structure Entry where
  call : Call
  answer : Answer

namespace Entry

/-- The process and the exit status, if the command was executed. -/
def executed? (entry : Entry) : Option (Nat × Int) :=
  match entry.answer with
  | .ok (.executed pid status) => some (pid, status)
  | _ => none

def missing? (entry : Entry) : Option String :=
  match entry.answer with
  | .ok .missing => some entry.call.filter.name
  | _ => none

end Entry

/-- The processes and the exit statuses of the commands that were executed, oldest first. -/
def executions (journal : List Entry) : List (Nat × Int) := journal.filterMap Entry.executed?

def statuses (journal : List Entry) : List Int := (executions journal).map Prod.snd

variable {State : Type}

/-- The executor that also keeps a journal, oldest entry first. -/
def Executor.journaling (executor : Executor State) : Executor (State × List Entry) where
  run filter command state :=
    let turn := executor.run filter command state.1
    ⟨turn.answer, turn.log, turn.state, state.2 ++ [⟨⟨filter, command⟩, turn.answer⟩]⟩

end Testbed.Lab

namespace Testbed.Replay

open Testbed.Lab

variable {State : Type}

/-! ## Requests -/

/-- What can be requested of a dispatcher. Files may change between two requests. -/
inductive Request where
  | dispatch (order : Order)
  | hosts (topology : Topology)
  | routers (topology : Topology) (read : Files.Reader) (folder : String) (scope : Scope)

namespace Request

def perform (executor : Executor State) (settings : Settings) (progress : Progress State) :
    Request → Progress State
  | dispatch order => (Replay.dispatch executor settings order.node order.command progress).state
  | hosts topology => (configureHosts executor { topology with settings } progress).state
  | routers topology read folder scope =>
    (replayRouters executor { topology with settings } read folder scope progress).state

def orders (settings : Settings) : Request → List Order
  | dispatch order => [order]
  | hosts topology => (assignments topology).flatMap Assignment.orders
  | routers topology read folder scope =>
    (routersPlan settings read folder scope topology.routers).orders

end Request

/-- Does what is requested, one request after the other. A request that fails does not keep the
others from being served. -/
def serve (executor : Executor State) (settings : Settings) (requests : List Request)
    (progress : Progress State) : Progress State :=
  requests.foldl (Request.perform executor settings) progress

theorem perform_eq_carryOut (executor : Executor State) (settings : Settings)
    (progress : Progress State) (request : Request) :
    request.perform executor settings progress =
      carryOut executor settings (request.orders settings) progress := by
  cases request with
  | dispatch order => rfl
  | hosts topology => exact assignAll_state executor settings (assignments topology) progress
  | routers topology read folder scope =>
    exact (replayRouters_eq_plan executor { topology with settings } read folder scope progress).2

/-- Whatever is requested, commands are dispatched one after the other and nothing else is done. -/
theorem serve_eq_carryOut (executor : Executor State) (settings : Settings)
    (requests : List Request) (progress : Progress State) :
    serve executor settings requests progress =
      carryOut executor settings (requests.flatMap (Request.orders settings)) progress := by
  induction requests generalizing progress with
  | nil => rfl
  | cons request later ih =>
    rw [List.flatMap_cons, carryOut_append, ← perform_eq_carryOut]
    exact ih _

/-- Keeping a journal changes nothing else. -/
theorem carryOut_journaling (executor : Executor State) (settings : Settings)
    (orders : List Order) (progress : Progress State) (journal : List Entry) :
    let plain := carryOut executor settings orders progress
    let kept := carryOut executor.journaling settings orders
      ⟨(progress.lab, journal), progress.summary⟩
    kept.lab.1 = plain.lab ∧ kept.summary = plain.summary := by
  induction orders generalizing progress journal with
  | nil => exact ⟨rfl, rfl⟩
  | cons order later ih =>
    exact ih (dispatch executor settings order.node order.command progress).state _

/-! ## Accounts -/

/-- The summary is an account of the journal. -/
structure Accounts (journal : List Entry) (summary : Summary) : Prop where
  total : summary.executed + summary.missing.length + summary.failed + summary.printed =
    journal.length
  executed : summary.executed = (statuses journal).length
  unsuccessful : summary.unsuccessful = (statuses journal).countP (· ≠ 0)
  missing : summary.missing = journal.filterMap Entry.missing?
  lastStatus : summary.lastStatus = (statuses journal).getLast?

theorem name_filter (settings : Settings) (node : Node) :
    (node.filter settings).name = node.name := by
  cases node with
  | mk kind name => cases kind <;> rfl

theorem Accounts.empty : Accounts [] {} := ⟨rfl, rfl, rfl, rfl, rfl⟩

theorem statuses_concat (journal : List Entry) (entry : Entry) :
    statuses (journal ++ [entry]) =
      statuses journal ++ (entry.executed?.map Prod.snd).toList := by
  cases executed : entry.executed? <;> simp [statuses, executions, executed]

/-- One more answer keeps the accounts. -/
theorem Accounts.record {journal : List Entry} {summary : Summary}
    (accounts : Accounts journal summary) (entry : Entry) :
    Accounts (journal ++ [entry]) (summary.record entry.call.filter.name entry.answer) := by
  obtain ⟨total, executed, unsuccessful, missing, lastStatus⟩ := accounts
  obtain ⟨call, answer⟩ := entry
  have behind := statuses_concat journal ⟨call, answer⟩
  -- The four ways to answer touch different counts.
  refine ⟨?total, ?executed, ?unsuccessful, ?missing, ?lastStatus⟩
  case total =>
    rcases answer with error | ⟨pid, status⟩ | _ | _
    all_goals
      simp only [Summary.record, List.length_append, List.length_singleton]
      omega
  case executed =>
    rw [behind, List.length_append, ← executed]
    rcases answer with error | ⟨pid, status⟩ | _ | _ <;> rfl
  case unsuccessful =>
    rw [behind, List.countP_append, ← unsuccessful]
    rcases answer with error | ⟨pid, status⟩ | _ | _
    case ok.executed =>
      by_cases succeeded : status = 0 <;> simp [Summary.record, Entry.executed?, succeeded]
    all_goals rfl
  case missing =>
    rw [List.filterMap_append, ← missing]
    rcases answer with error | ⟨pid, status⟩ | _ | _ <;>
      simp [Summary.record, Entry.missing?]
  case lastStatus =>
    rw [behind, List.getLast?_append, ← lastStatus]
    rcases answer with error | ⟨pid, status⟩ | _ | _ <;> rfl

theorem carryOut_accounts (executor : Executor State) (settings : Settings) (orders : List Order)
    (progress : Progress (State × List Entry))
    (accounts : Accounts progress.lab.2 progress.summary) :
    let final := carryOut executor.journaling settings orders progress
    Accounts final.lab.2 final.summary := by
  induction orders generalizing progress with
  | nil => exact accounts
  | cons order later ih =>
    refine ih _ ?_
    have recorded := accounts.record ⟨order.call settings,
      (executor.run (order.node.filter settings) order.command progress.lab.1).answer⟩
    rw [Order.call, name_filter] at recorded
    exact recorded

/-- The summary of a dispatcher, whatever was requested of it. Every call of the executor is counted
once. The commands that ended with a status other than zero are counted, the nodes without a process
are named in the order of the calls, and the last status is that of the last command that was
executed, also if other answers follow. The exit code is this status, or zero. -/
theorem summary_of_journal (executor : Executor State) (settings : Settings)
    (requests : List Request) (lab : State) :
    let plain := serve executor settings requests ⟨lab, {}⟩
    let kept := serve executor.journaling settings requests ⟨(lab, []), {}⟩
    let journal := kept.lab.2
    let summary := kept.summary
    (plain.lab = kept.lab.1 ∧ plain.summary = summary) ∧
    summary.executed + summary.missing.length + summary.failed + summary.printed =
      journal.length ∧
    summary.executed = (statuses journal).length ∧
    summary.unsuccessful = (statuses journal).countP (· ≠ 0) ∧
    summary.unsuccessful ≤ summary.executed ∧
    summary.missing = journal.filterMap Entry.missing? ∧
    (summary.lastStatus = none ↔ summary.executed = 0) ∧
    summary.lastStatus = (statuses journal).getLast? ∧
    summary.exitCode = (statuses journal).getLast?.getD 0 := by
  intro plain kept journal summary
  have same := carryOut_journaling executor settings
    (requests.flatMap (Request.orders settings)) ⟨lab, {}⟩ []
  have accounts : Accounts journal summary := by
    have run := carryOut_accounts executor settings (requests.flatMap (Request.orders settings))
      ⟨(lab, []), {}⟩ Accounts.empty
    rw [← serve_eq_carryOut] at run
    exact run
  dsimp only at same
  rw [← serve_eq_carryOut, ← serve_eq_carryOut] at same
  refine ⟨⟨same.1.symm, same.2.symm⟩, accounts.total, accounts.executed, accounts.unsuccessful,
    ?_, accounts.missing, ?_, accounts.lastStatus, ?_⟩
  · rw [accounts.unsuccessful, accounts.executed]
    exact List.countP_le_length
  · rw [accounts.lastStatus, accounts.executed, List.getLast?_eq_none_iff, List.length_eq_zero_iff]
  · rw [Summary.exitCode, accounts.lastStatus]

end Testbed.Replay
