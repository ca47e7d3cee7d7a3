import Testbed.Proofs.Journal

/-!
# Visits

A command that is dispatched to the live lab visits the machine: it lists the processes, looks for
the process of its node, and enters the namespaces of that process. Each of these can fail, and then
the visit ends. Only a visit that enters takes one of the prepared replies. How a visit ends follows
from the process listing and the programs of the machine, which no visit changes, so a visit that
fails leaves the later ones as they are.

Results:
1. `live_run`: one visit.
2. `carryOut_live`: a run is its visits one after the other.
3. `visit_eq_entered_iff`: when a visit enters a process.
4. `live_runs_by_visits`: what a run starts, and the replies that it pairs with its commands.
-/

namespace Testbed.Lab

open Testbed.Text

/-! ## Definitions -/

def listingWords : List String := ["ps", "ax"]

def Settings.entryProgram (settings : Settings) : String :=
  if settings.superuser then "sudo" else settings.execTool

/-- The words that run a command in the namespaces of a process. -/
def Call.entryWords (settings : Settings) (call : Call) (pid : Nat) : List String :=
  (Namespace.ofProcess settings call.filter.name pid).entry ++ call.command

inductive Visit where
  | unlisted (error : StartError)
  | illegible (fault : Utf8.Fault)
  | missing
  | refused (error : StartError)
  | entered (pid : Nat)
deriving DecidableEq, Repr

def Machine.visit (settings : Settings) (call : Call) (machine : Machine) : Visit :=
  match machine.obstacle? listingWords with
  | some error => .unlisted error
  | none =>
    match Utf8.decode machine.listing.output with
    | .error fault => .illegible fault
    | .ok table =>
      match (pids call.filter table).head? with
      | none => .missing
      | some pid =>
        match machine.obstacle? (call.entryWords settings pid) with
        | some error => .refused error
        | none => .entered pid

namespace Visit

def pid? : Visit → Option Nat
  | entered pid => some pid
  | _ => none

def started (settings : Settings) (call : Call) : Visit → List (List String)
  | unlisted _ => []
  | illegible _ | missing | refused _ => [listingWords]
  | entered pid => [listingWords, call.entryWords settings pid]

/-- The answer that a visit leads to. A visit that enters takes the first of the replies. -/
def answer (replies : List Reply) : Visit → Answer
  | unlisted error | refused error => .error (.process error)
  | illegible fault => .error (.encoding fault)
  | missing => .ok .missing
  | entered pid => .ok (.executed pid (replies.headD {}).ending.code)

def rest (replies : List Reply) (visit : Visit) : List Reply :=
  replies.drop visit.pid?.toList.length

def leave (settings : Settings) (call : Call) (machine : Machine) (visit : Visit) : Machine :=
  { machine with
    started := machine.started ++ visit.started settings call
    replies := visit.rest machine.replies }

def answers : List Reply → List Visit → List Answer
  | _, [] => []
  | replies, visit :: later => visit.answer replies :: answers (visit.rest replies) later

end Visit

/-! ## One visit -/

theorem processTable_eq (machine : Machine) :
    machine.processTable =
      match machine.obstacle? listingWords with
      | some error => (.error (.process error), machine)
      | none =>
        ((Utf8.decode machine.listing.output).mapError .encoding,
          { machine with started := machine.started ++ [listingWords] }) := by
  unfold Machine.processTable Machine.start
  rw [listingWords]
  cases machine.obstacle? ["ps", "ax"] <;> rfl

theorem findProcess_eq (filter : Filter) (machine : Machine) :
    let turn := machine.findProcess filter
    match machine.obstacle? listingWords with
    | some error => turn.answer = .error (.process error) ∧ turn.state = machine
    | none =>
      turn.answer =
          (match Utf8.decode machine.listing.output with
          | .error fault => .error (.encoding fault)
          | .ok table => .ok (pids filter table).head?) ∧
        turn.state = { machine with started := machine.started ++ [listingWords] } := by
  unfold Machine.findProcess
  rw [processTable_eq]
  cases machine.obstacle? listingWords with
  | some error => exact ⟨rfl, rfl⟩
  | none =>
    cases Utf8.decode machine.listing.output with
    | error fault => exact ⟨rfl, rfl⟩
    | ok table => exact ⟨rfl, rfl⟩

/-- A command in the namespaces of a process takes a reply, unless it cannot be started. -/
theorem runInside_eq {settings : Settings} (proper : settings.entryProgram ≠ "ps")
    (name : String) (pid : Nat) (command : List String) (machine : Machine) :
    let space := Namespace.ofProcess settings name pid
    let turn := machine.runInside space command
    match machine.obstacle? (space.entry ++ command) with
    | some error => turn.answer = .error (.process error) ∧ turn.state = machine
    | none =>
      turn.answer = .ok (machine.replies.headD {}).ending ∧
        turn.state = { machine with
          started := machine.started ++ [space.entry ++ command]
          replies := machine.replies.tail } := by
  intro space turn
  have words := space.wrap_eq command
  have program : (space.wrap command).1 = settings.entryProgram := by
    unfold Namespace.wrap Settings.entryProgram
    rw [apply_ite Prod.fst]
    rfl
  rw [program] at words
  simp only [turn, Machine.runInside, Machine.start, program, words, if_neg proper]
  cases machine.obstacle? (space.entry ++ command) <;> exact ⟨rfl, rfl⟩

theorem live_run {settings : Settings} (proper : settings.entryProgram ≠ "ps") (call : Call)
    (machine : Machine) :
    let turn := (live settings).run call.filter call.command machine
    let visit := machine.visit settings call
    turn.answer = visit.answer machine.replies ∧
      turn.state = visit.leave settings call machine := by
  intro turn visit
  have found := findProcess_eq call.filter machine
  have turned : turn = (live settings).run call.filter call.command machine := rfl
  have ended : visit = machine.visit settings call := rfl
  simp only [live, Machine.findNamespace, Turn.andThen] at turned
  rw [Machine.visit] at ended
  cases unlisted : machine.obstacle? listingWords with
  | some error =>
    simp only [unlisted] at found ended
    rw [found.1, found.2] at turned
    rw [turned, ended]
    exact ⟨rfl, by simp [Except.map, Visit.leave, Visit.started, Visit.rest, Visit.pid?]⟩
  | none =>
    simp only [unlisted] at found ended
    rw [found.1, found.2] at turned
    cases decoded : Utf8.decode machine.listing.output with
    | error fault =>
      simp only [decoded] at turned ended
      rw [turned, ended]
      exact ⟨rfl, rfl⟩
    | ok table =>
      simp only [decoded, Except.map] at turned ended
      cases chosen : (pids call.filter table).head? with
      | none =>
        simp only [chosen] at turned ended
        rw [turned, ended]
        exact ⟨rfl, rfl⟩
      | some pid =>
        simp only [chosen, Option.map_some] at turned ended
        have inside := runInside_eq proper call.filter.name pid call.command
          { machine with started := machine.started ++ [listingWords] }
        -- Whether the command can be started does not depend on what was started before.
        have same : Machine.obstacle? { machine with started := machine.started ++ [listingWords] }
            ((Namespace.ofProcess settings call.filter.name pid).entry ++ call.command) =
              machine.obstacle? (call.entryWords settings pid) := rfl
        simp only [same] at inside
        cases refused : machine.obstacle? (call.entryWords settings pid) with
        | some error =>
          simp only [refused] at inside ended
          rw [turned, ended, inside.1, inside.2]
          exact ⟨rfl, rfl⟩
        | none =>
          simp only [refused] at inside ended
          rw [turned, ended, inside.1, inside.2]
          refine ⟨rfl, ?_⟩
          simp [Visit.leave, Visit.started, Visit.rest, Visit.pid?, Call.entryWords]

/-! ## Visits one after the other -/

/-- How visits end does not depend on the visits before. -/
theorem visit_leave (settings : Settings) (call other : Call) (machine : Machine)
    (visit : Visit) :
    (visit.leave settings call machine).visit settings other = machine.visit settings other :=
  rfl

/-- When a visit enters a process: the processes can be listed, the whole listing is text, the
process is the first that the filter accepts, and the command can be started. -/
theorem visit_eq_entered_iff {settings : Settings} {call : Call} {machine : Machine} {pid : Nat} :
    machine.visit settings call = .entered pid ↔
      machine.obstacle? listingWords = none ∧
      (∃ table, Utf8.decode machine.listing.output = .ok table ∧
        (pids call.filter table).head? = some pid) ∧
      machine.obstacle? (call.entryWords settings pid) = none := by
  constructor
  · intro entered
    unfold Machine.visit at entered
    split at entered
    · cases entered
    · next listed =>
      split at entered
      · cases entered
      · next table decoded =>
        split at entered
        · cases entered
        · next first chosen =>
          split at entered
          · cases entered
          · next startable =>
            cases entered
            exact ⟨listed, ⟨table, decoded, chosen⟩, startable⟩
  · rintro ⟨listed, ⟨table, decoded, chosen⟩, startable⟩
    simp only [Machine.visit, listed, decoded, chosen, startable]

/-- A visit starts nothing exactly if the processes cannot be listed. -/
theorem started_visit_eq_nil_iff {settings : Settings} {call : Call} {machine : Machine} :
    (machine.visit settings call).started settings call = [] ↔
      machine.obstacle? listingWords ≠ none := by
  unfold Machine.visit
  split
  · next error unlisted => simp [Visit.started, unlisted]
  · next listed =>
    -- Every visit behind the listing starts with it.
    split
    · simp [Visit.started, listed]
    · split
      · simp [Visit.started, listed]
      · split <;> simp [Visit.started, listed]

theorem executed?_answer (call : Call) (replies : List Reply) (visit : Visit) :
    (Entry.mk call (visit.answer replies)).executed? =
      visit.pid?.map fun pid => (pid, (replies.headD {}).ending.code) := by
  cases visit <;> rfl

/-- The entries of visits are about their calls, and those that enter are executions. -/
theorem entries_zipWith (calls : List Call) (replies : List Reply) (visits : List Visit)
    (sameLength : calls.length = visits.length) :
    let entries := List.zipWith Entry.mk calls (Visit.answers replies visits)
    entries.map Entry.call = calls ∧
      entries.map (fun entry => entry.executed?.map Prod.fst) = visits.map Visit.pid? := by
  induction visits generalizing calls replies with
  | nil =>
    rw [List.length_nil, List.length_eq_zero_iff] at sameLength
    rw [sameLength]
    exact ⟨rfl, rfl⟩
  | cons visit later ih =>
    cases calls with
    | nil => cases sameLength
    | cons call calls =>
      have behind := ih calls (visit.rest replies) (Nat.succ.inj sameLength)
      dsimp only at behind
      rw [Visit.answers, List.zipWith_cons_cons]
      refine ⟨congrArg (call :: ·) behind.1, ?_⟩
      rw [List.map_cons, List.map_cons, behind.2, executed?_answer, Option.map_map]
      exact congrArg (· :: _) Option.map_id'

/-- The visits that enter take the replies one after the other. -/
theorem executions_zipWith (calls : List Call) (replies : List Reply) (visits : List Visit)
    (sameLength : calls.length = visits.length) :
    executions (List.zipWith Entry.mk calls (Visit.answers replies visits)) =
      (visits.filterMap Visit.pid?).mapIdx fun n pid =>
        (pid, (replies.getD n {}).ending.code) := by
  induction visits generalizing calls replies with
  | nil => rw [Visit.answers, List.zipWith_nil_right]; rfl
  | cons visit later ih =>
    cases calls with
    | nil => cases sameLength
    | cons call calls =>
      have behind := ih calls (visit.rest replies) (Nat.succ.inj sameLength)
      have first := executed?_answer call replies visit
      rw [executions, Visit.rest] at behind
      rw [Visit.answers, List.zipWith_cons_cons, executions, Visit.rest]
      cases entered : visit.pid? with
      | none =>
        rw [entered] at first behind
        rw [List.filterMap_cons_none first, List.filterMap_cons_none entered]
        exact behind
      | some pid =>
        rw [entered] at first behind
        have head : replies.headD {} = replies.getD 0 {} := by cases replies <;> rfl
        rw [List.filterMap_cons_some first, List.filterMap_cons_some entered, List.mapIdx_cons,
          behind, head]
        simp

end Testbed.Lab

namespace Testbed.Replay

open Testbed.Lab

/-- The processes that calls enter, in order. -/
def enteredBy (settings : Settings) (machine : Machine) (calls : List Call) : List Nat :=
  (calls.map (machine.visit settings ·)).filterMap Visit.pid?

/-- The programs that calls start, in order. -/
def startedBy (settings : Settings) (machine : Machine) (calls : List Call) :
    List (List String) :=
  calls.flatMap fun call => (machine.visit settings call).started settings call

theorem dispatch_live {settings : Settings} (proper : settings.entryProgram ≠ "ps")
    (order : Order) (machine : Machine) (journal : List Entry) (summary : Summary) :
    let call := order.call settings
    let visit := machine.visit settings call
    let answer := visit.answer machine.replies
    (dispatch (live settings).journaling settings order.node order.command
        ⟨(machine, journal), summary⟩).state =
      ⟨(visit.leave settings call machine, journal ++ [⟨call, answer⟩]),
        summary.record order.node.name answer⟩ := by
  intro call visit answer
  obtain ⟨answered, left⟩ := live_run proper call machine
  dsimp only [call, Order.call] at answered left
  rw [dispatch_state]
  dsimp only [Executor.journaling]
  rw [answered, left]
  rfl

/-- A run of the live lab is its visits one after the other. -/
theorem carryOut_live {settings : Settings} (proper : settings.entryProgram ≠ "ps")
    (orders : List Order) (machine : Machine) (journal : List Entry) (summary : Summary) :
    let calls := orders.map (Order.call settings)
    let final :=
      (carryOut (live settings).journaling settings orders ⟨(machine, journal), summary⟩).lab
    final.1 = { machine with
        started := machine.started ++ startedBy settings machine calls
        replies := machine.replies.drop (enteredBy settings machine calls).length } ∧
      final.2 = journal ++ List.zipWith Entry.mk calls
        (Visit.answers machine.replies (calls.map (machine.visit settings ·))) := by
  induction orders generalizing machine journal summary with
  | nil => simp [carryOut, startedBy, enteredBy, Visit.answers]
  | cons order later ih =>
    intro calls final
    have first := dispatch_live proper order machine journal summary
    dsimp only at first
    have behind := ih ((machine.visit settings (order.call settings)).leave settings
      (order.call settings) machine)
    simp only [startedBy, enteredBy, visit_leave] at behind
    simp only [final, calls, carryOut, first, behind, startedBy, enteredBy]
    refine ⟨?_, ?_⟩
    · cases entered : (machine.visit settings (order.call settings)).pid? <;>
        simp [Visit.leave, Visit.rest, entered, Nat.add_comm]
    · simp [Visit.answers, Visit.leave]

/-- A visit that ends with an error enters no process and starts nothing behind the listing. -/
theorem visit_of_error (settings : Settings) (call : Call) {replies : List Reply} {visit : Visit}
    {error : LabError} (fails : visit.answer replies = .error error) :
    visit.pid? = none ∧
      (visit.started settings call = [] ∨ visit.started settings call = [listingWords]) := by
  cases visit with
  | unlisted | illegible | refused => simp [Visit.pid?, Visit.started]
  | missing | entered => cases fails

/-- The commands behind a command that fails are carried out as if it had not been dispatched. -/
theorem carryOut_of_error {settings : Settings} (proper : settings.entryProgram ≠ "ps")
    (failing : Order) (later : List Order) (machine : Machine) (journal : List Entry)
    (summary : Summary) {error : LabError}
    (fails : (machine.visit settings (failing.call settings)).answer machine.replies =
      .error error) :
    let start : Progress (Machine × List Entry) := ⟨(machine, journal), summary⟩
    let spared := (carryOut (live settings).journaling settings later start).lab
    let failed := (carryOut (live settings).journaling settings (failing :: later) start).lab
    ∃ listed started entries, (listed = [] ∨ listed = [listingWords]) ∧
      spared.1.started = machine.started ++ started ∧
      failed.1.started = machine.started ++ listed ++ started ∧
      failed.1.replies = spared.1.replies ∧
      spared.2 = journal ++ entries ∧
      failed.2 = journal ++ ⟨failing.call settings, .error error⟩ :: entries := by
  intro start spared failed
  obtain ⟨unentered, listed⟩ := visit_of_error settings (failing.call settings) fails
  have sparedRun := carryOut_live proper later machine journal summary
  have failedRun := carryOut_live proper (failing :: later) machine journal summary
  dsimp only at sparedRun failedRun
  have noReply : (machine.visit settings (failing.call settings)).rest machine.replies =
      machine.replies := by
    rw [Visit.rest, unentered]
    rfl
  have entered : enteredBy settings machine ((failing :: later).map (Order.call settings)) =
      enteredBy settings machine (later.map (Order.call settings)) :=
    List.filterMap_cons_none unentered
  refine ⟨_, startedBy settings machine (later.map (Order.call settings)), _, listed,
    congrArg Machine.started sparedRun.1, ?_, ?_, sparedRun.2, ?_⟩
  · rw [List.append_assoc]
    exact congrArg Machine.started failedRun.1
  · rw [congrArg Machine.replies failedRun.1, congrArg Machine.replies sparedRun.1, entered]
  · rw [failedRun.2, List.map_cons, List.map_cons, Visit.answers, noReply, fails,
      List.zipWith_cons_cons]

/-- What a run of the live lab starts is put together from its commands. A command starts nothing if
the processes cannot be listed, or the listing alone, or the listing and then itself in the
namespaces of a process. For that the whole listing is text, the process is the first of the node,
and the command can be started. The commands that are run take the prepared replies one after the
other, and each is answered by its process and the ending of its reply. Behind a command that fails
everything goes on as without it. -/
theorem live_runs_by_visits {settings : Settings} (proper : settings.entryProgram ≠ "ps")
    (machine : Machine) :
    let run orders :=
      (carryOut (live settings).journaling settings orders ⟨(machine, []), {}⟩).lab
    let part call := (machine.visit settings call).started settings call
    (∀ orders : List Order,
      let calls := orders.map (Order.call settings)
      let entered := (calls.map (machine.visit settings ·)).filterMap Visit.pid?
      (carryOut (live settings) settings orders ⟨machine, {}⟩).lab = (run orders).1 ∧
      (run orders).1.started = machine.started ++ calls.flatMap part ∧
      (run orders).1.replies = machine.replies.drop entered.length ∧
      (run orders).2.map Entry.call = calls ∧
      (run orders).2.map (fun entry => entry.executed?.map Prod.fst) =
        calls.map (fun call => (machine.visit settings call).pid?) ∧
      executions (run orders).2 =
        entered.mapIdx fun n pid => (pid, (machine.replies.getD n {}).ending.code)) ∧
    (∀ call : Call,
      (part call = [] ↔ machine.obstacle? ["ps", "ax"] ≠ none) ∧
      (part call = [] ∨ part call = [["ps", "ax"]] ∨
        ∃ pid, machine.visit settings call = .entered pid ∧
          part call = [["ps", "ax"],
            (Namespace.ofProcess settings call.filter.name pid).entry ++ call.command]) ∧
      ∀ pid, machine.visit settings call = .entered pid ↔
        machine.obstacle? ["ps", "ax"] = none ∧
        (∃ table, Text.Utf8.decode machine.listing.output = .ok table ∧
          (pids call.filter table).head? = some pid) ∧
        machine.obstacle?
          ((Namespace.ofProcess settings call.filter.name pid).entry ++ call.command) = none) ∧
    ∀ (earlier : List Order) (failing : Order) (later : List Order) (error : LabError),
      (run (earlier ++ [failing])).2.getLast?.map Entry.answer = some (.error error) →
      let spared := run (earlier ++ later)
      let failed := run (earlier ++ failing :: later)
      ∃ listed started entries, (listed = [] ∨ listed = [["ps", "ax"]]) ∧
        spared.1.started = (run earlier).1.started ++ started ∧
        failed.1.started = (run earlier).1.started ++ listed ++ started ∧
        failed.1.replies = spared.1.replies ∧
        spared.2 = (run earlier).2 ++ entries ∧
        failed.2 = (run earlier).2 ++ ⟨failing.call settings, .error error⟩ :: entries := by
  intro run part
  refine ⟨fun orders => ?_, fun call => ⟨started_visit_eq_nil_iff, ?_, fun pid =>
    visit_eq_entered_iff⟩, fun earlier failing later error fails => ?_⟩
  · intro calls entered
    obtain ⟨lab, journal⟩ := carryOut_live proper orders machine [] {}
    have sameLength : calls.length = (calls.map (machine.visit settings ·)).length :=
      List.length_map _ |>.symm
    have entries := entries_zipWith calls machine.replies _ sameLength
    rw [List.nil_append] at journal
    refine ⟨(carryOut_journaling (live settings) settings orders ⟨machine, {}⟩ []).1.symm,
      congrArg Machine.started lab, congrArg Machine.replies lab, ?_, ?_, ?_⟩
    · rw [journal]
      exact entries.1
    · rw [journal]
      exact entries.2.trans List.map_map
    · rw [journal]
      exact executions_zipWith calls machine.replies _ sameLength
  · dsimp only [part]
    cases ended : machine.visit settings call with
    | unlisted error => exact .inl rfl
    | illegible fault => exact .inr (.inl rfl)
    | missing => exact .inr (.inl rfl)
    | refused error => exact .inr (.inl rfl)
    | entered pid => exact .inr (.inr ⟨pid, rfl, rfl⟩)
  · simp only [run, carryOut_append] at fails ⊢
    generalize carryOut (live settings).journaling settings earlier ⟨(machine, []), {}⟩ = before
      at fails ⊢
    obtain ⟨⟨machine, journal⟩, summary⟩ := before
    rw [carryOut, carryOut, dispatch_live proper, List.getLast?_concat] at fails
    exact carryOut_of_error proper failing later machine journal summary (Option.some.inj fails)

/-- A listing with the processes of a router and of its host. -/
def sampleListing : String :=
  "PID COMMAND\n4242 bash mininet:SEAT\n4243 bash mininet:SEAT-host\n"

/-- A machine with this listing, a tool that is run by its path, a command that it refuses, and two
replies, of which the second is a death by signal. -/
def sampleMachine : Machine where
  listing := { output := Text.Utf8.encode sampleListing }
  paths := ["/opt/mininet/bin/mxexec"]
  refusal? words := if words.getLast? = some "halt" then some "Permission denied" else none
  replies := [{ ending := .exited 3 }, { ending := .killed 9 }]

/-- The settings that name the tool by its path. -/
def byPath : Settings where
  superuser := false
  execTool := "/opt/mininet/bin/mxexec"

/-- Of five commands, the first and the last are run and take the replies, whether the tool is
searched for or named by its path. The second goes to a node without a process, the third is no
argument vector, and the fourth is refused. -/
theorem live_runs_by_visits_sampleMachine :
    let orders : List Order :=
      [⟨⟨.router, "SEAT"⟩, ["vtysh"]⟩, ⟨⟨.router, "NEWY"⟩, ["vtysh"]⟩,
       ⟨⟨.host, "SEAT-host"⟩, ["echo", "\x00"]⟩, ⟨⟨.host, "SEAT-host"⟩, ["halt"]⟩,
       ⟨⟨.host, "SEAT-host"⟩, ["ifconfig"]⟩]
    let final settings :=
      (carryOut (live settings).journaling settings orders ⟨(sampleMachine, []), {}⟩).lab
    let started tool :=
      [["ps", "ax"], tool ++ ["-a", "4242", "-b", "4242", "-k", "4242", "vtysh"],
       ["ps", "ax"], ["ps", "ax"], ["ps", "ax"],
       ["ps", "ax"], tool ++ ["-a", "4243", "-b", "4243", "-k", "4243", "ifconfig"]]
    (Settings.entryProgram {} ≠ "ps" ∧ byPath.entryProgram ≠ "ps") ∧
    (final {}).1.started = started ["sudo", "mxexec"] ∧
    (final byPath).1.started = started ["/opt/mininet/bin/mxexec"] ∧
    (final byPath).1.replies = [] ∧ executions (final byPath).2 = [(4242, 3), (4243, -1)] := by
  intro orders final started
  have proper : Settings.entryProgram {} ≠ "ps" := by decide
  have properToo : byPath.entryProgram ≠ "ps" := by decide
  have searched := (live_runs_by_visits proper sampleMachine).1 orders
  have named := (live_runs_by_visits properToo sampleMachine).1 orders
  refine ⟨⟨proper, properToo⟩, searched.2.1.trans ?_, named.2.1.trans ?_, named.2.2.1.trans ?_,
    named.2.2.2.2.2.trans ?_⟩
  all_goals decide +kernel

end Testbed.Replay
