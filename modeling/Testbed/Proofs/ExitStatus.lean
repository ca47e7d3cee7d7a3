import Testbed.Proofs.Abort
import Testbed.Proofs.Journal
import Testbed.Proofs.Phases

/-!
# The exit status of a tool

A tool ends with status 1 if it has no topology or if a file of its steps cannot be read. Otherwise
it ends like the last command that it executed: the status goes as a number through the summary, of
which the tool keeps the last eight bits, and it comes out as it went in. A command that was killed
counts as 255. Commands without a process and commands that could not be started leave the status as
it was, and a tool that has executed nothing ends with 0.

Results:
1. `ofInt_code`: what becomes of the ending of a command.
2. `statuses_live`: the statuses in the journal are the endings of the commands that were executed.
3. `stepsPlan_error_iff`: when the steps of a tool fail.
4. `status_of_run`: the exit status of a tool.
-/

namespace Testbed.Lab

/-! ## Endings of commands -/

/-- The ending of a command as an exit status, with 255 for a command that was killed. -/
def Ending.exitStatus : Ending → UInt8
  | exited status => status
  | killed _ => 255

/-- The ending of the command of a call, if a process is found for it and it can be started. -/
def Machine.ending? (settings : Settings) (call : Call) (machine : Machine) : Option Ending :=
  let found := machine.findNamespace settings call.filter
  match found.answer with
  | .ok (some space) => (found.state.runInside space call.command).answer.toOption
  | _ => none

def Machine.after (settings : Settings) (calls : List Call) (machine : Machine) : Machine :=
  calls.foldl (fun machine call => ((live settings).run call.filter call.command machine).state)
    machine

/-- The endings of the commands that some calls execute, oldest first. -/
def endings (settings : Settings) : List Call → Machine → List Ending
  | [], _ => []
  | call :: later, machine =>
    (machine.ending? settings call).toList ++ endings settings later (machine.after settings [call])

/-- The last eight bits of an ending's number are its exit status. -/
theorem ofInt_code (ending : Ending) : UInt8.ofInt ending.code = ending.exitStatus := by
  cases ending with
  | exited status =>
    have fits : (status.toNat : Int) % 2 ^ 8 = status.toNat :=
      Int.emod_eq_of_lt (Int.natCast_nonneg _) (by exact_mod_cast status.toNat_lt)
    show UInt8.ofInt (status.toNat : Int) = status
    rw [UInt8.ofInt, fits, Int.toNat_natCast, UInt8.ofNat_toNat]
  | killed signal => rfl

theorem exitStatus_eq_zero_iff {ending : Ending} :
    ending.exitStatus = 0 ↔ ending = .exited 0 := by
  cases ending with
  | exited status => simp [Ending.exitStatus]
  | killed signal => simp [Ending.exitStatus]

theorem endings_append (settings : Settings) (earlier later : List Call) (machine : Machine) :
    endings settings (earlier ++ later) machine =
      endings settings earlier machine ++
        endings settings later (machine.after settings earlier) := by
  induction earlier generalizing machine with
  | nil => rfl
  | cons call earlier ih =>
    rw [List.cons_append, endings, endings, ih, List.append_assoc]
    rfl

/-- The commands behind the last one that is executed add no ending. -/
theorem getLast?_endings {settings : Settings} {machine : Machine} {call : Call} {ending : Ending}
    {earlier later : List Call}
    (isLast : (machine.after settings earlier).ending? settings call = some ending)
    (nothing : endings settings later (machine.after settings (earlier ++ [call])) = []) :
    (endings settings (earlier ++ call :: later) machine).getLast? = some ending := by
  have behind : (machine.after settings earlier).after settings [call] =
      machine.after settings (earlier ++ [call]) := (List.foldl_append).symm
  rw [endings_append, endings, isLast, behind, nothing]
  exact List.getLast?_concat

theorem executed?_live (settings : Settings) (call : Call) (machine : Machine) :
    (Entry.mk call ((live settings).run call.filter call.command machine).answer).executed?.map
        Prod.snd =
      (machine.ending? settings call).map Ending.code := by
  unfold live Machine.ending? Turn.andThen
  dsimp only
  cases (machine.findNamespace settings call.filter).answer with
  | error error => rfl
  | ok found =>
    cases found with
    | none => rfl
    | some space =>
      dsimp only
      cases ((machine.findNamespace settings call.filter).state.runInside space
        call.command).answer with
      | error error => rfl
      | ok ending => rfl

end Testbed.Lab

namespace Testbed.Replay

open Testbed.Lab

/-! ## Endings of a run -/

theorem statuses_live (settings : Settings) (orders : List Order) (machine : Machine)
    (journal : List Entry) (summary : Summary) :
    let start : Progress (Machine × List Entry) := ⟨(machine, journal), summary⟩
    statuses (carryOut (live settings).journaling settings orders start).lab.2 =
      statuses journal ++
        (endings settings (orders.map (Order.call settings)) machine).map Ending.code := by
  induction orders generalizing machine journal summary with
  | nil => exact (List.append_nil _).symm
  | cons order later ih =>
    let answer := ((live settings).run (order.node.filter settings) order.command machine).answer
    have executed : (Entry.mk (order.call settings) answer).executed?.map Prod.snd =
        (machine.ending? settings (order.call settings)).map Ending.code :=
      executed?_live settings (order.call settings) machine
    have behind := ih (machine.after settings [order.call settings])
      (journal ++ [⟨order.call settings, answer⟩]) (summary.record order.node.name answer)
    refine behind.trans ?_
    rw [statuses_concat, executed, List.map_cons, endings, List.map_append, List.append_assoc,
      Option.toList_map]

/-- The last status of a run of the live lab is that of the last command that was executed. -/
theorem exitCode_live (settings : Settings) (orders : List Order) (machine : Machine) :
    (carryOut (live settings) settings orders ⟨machine, {}⟩).summary.exitCode =
      ((endings settings (orders.map (Order.call settings)) machine).getLast?.map
        Ending.code).getD 0 := by
  have kept := carryOut_journaling (live settings) settings orders ⟨machine, {}⟩ []
  have accounts := carryOut_accounts (live settings) settings orders ⟨(machine, []), {}⟩
    Accounts.empty
  have journal := statuses_live settings orders machine [] {}
  dsimp only at kept accounts journal
  rw [← kept.2, Summary.exitCode, accounts.lastStatus, journal, ← List.getLast?_map]
  rfl

theorem carryOut_live_lab (settings : Settings) (orders : List Order)
    (progress : Progress Machine) :
    (carryOut (live settings) settings orders progress).lab =
      progress.lab.after settings (orders.map (Order.call settings)) := by
  induction orders generalizing progress with
  | nil => rfl
  | cons order later ih => exact ih _

/-- A dry run executes nothing. -/
theorem exitCode_dryRun (settings : Settings) (orders : List Order) (progress : Progress String) :
    (carryOut (dryRun settings) settings orders progress).summary.exitCode =
      progress.summary.exitCode := by
  induction orders generalizing progress with
  | nil => rfl
  | cons order later ih => exact ih _

/-! ## Files that cannot be read -/

theorem sequence_error_iff {plans : List Plan} :
    (∃ error, (Plan.sequence plans).result = .error error) ↔
      ∃ plan ∈ plans, ∃ error, plan.result = .error error := by
  induction plans with
  | nil => simp [Plan.sequence]
  | cons plan later ih =>
    cases result : plan.result with
    | error error => simp [Plan.sequence, result]
    | ok _ => simp [Plan.sequence, result, ih]

theorem plan_error_iff {topology : Topology} {read : Files.Reader} {step : Step} :
    (∃ error, (step.plan topology read).result = .error error) ↔
      ∃ file ∈ step.files topology, ∃ cause, read file = .error cause := by
  cases step with
  | hosts => simp [Step.plan, Step.files]
  | routers folder scope =>
    constructor
    · rintro ⟨error, fails⟩
      obtain ⟨router, isRouter, source, isSource, unreadable⟩ := exists_unreadable_of_error fails
      exact ⟨_, List.mem_flatMap.mpr ⟨router, isRouter, List.mem_map_of_mem isSource⟩, unreadable⟩
    · rintro ⟨file, isFile, unreadable⟩
      obtain ⟨router, isRouter, isFile⟩ := List.mem_flatMap.mp isFile
      obtain ⟨source, isSource, rfl⟩ := List.mem_map.mp isFile
      obtain ⟨error, first⟩ := exists_firstUnreadable
        ⟨router, isRouter, source, isSource, unreadable⟩
      exact ⟨error, routersPlan_error_iff.mpr first⟩

theorem stepsPlan_error_iff {topology : Topology} {read : Files.Reader} {steps : List Step} :
    (∃ error, (stepsPlan topology read steps).result = .error error) ↔
      ∃ step ∈ steps, ∃ file ∈ step.files topology, ∃ cause, read file = .error cause := by
  rw [stepsPlan, sequence_error_iff]
  constructor
  · rintro ⟨plan, isPlan, fails⟩
    obtain ⟨step, isStep, rfl⟩ := List.mem_map.mp isPlan
    exact ⟨step, isStep, plan_error_iff.mp fails⟩
  · rintro ⟨step, isStep, unreadable⟩
    exact ⟨_, List.mem_map_of_mem isStep, plan_error_iff.mpr unreadable⟩

end Testbed.Replay

namespace Testbed.Program

open Testbed.Lab Testbed.Replay

/-! ## The status of a tool -/

def Unreadable (tool : Tool) (arguments : Arguments) (topology : Topology) (read : Files.Reader) :
    Prop :=
  ∃ step ∈ arguments.steps tool, ∃ file ∈ step.files topology, ∃ cause, read file = .error cause

section

variable {tool : Tool} {arguments : Arguments} {topology : Topology} {read : Files.Reader}

theorem status_of_unreadable (unreadable : Unreadable tool arguments topology read)
    (machine : Machine) : (perform tool arguments topology read machine).status = 1 := by
  obtain ⟨cause, fails⟩ := stepsPlan_error_iff.mpr unreadable
  rw [Ended.status,
    (perform_error_iff tool arguments topology read machine _).mpr ⟨cause, fails, rfl⟩]
  rfl

theorem stepsPlan_of_readable (readable : ¬ Unreadable tool arguments topology read) :
    (stepsPlan topology read (arguments.steps tool)).result = .ok () := by
  cases result : (stepsPlan topology read (arguments.steps tool)).result with
  | error cause => exact absurd (stepsPlan_error_iff.mp ⟨cause, result⟩) readable
  | ok _ => rfl

theorem status_of_dry (readable : ¬ Unreadable tool arguments topology read)
    (dry : arguments.dryRun = true) (machine : Machine) :
    (perform tool arguments topology read machine).status = 0 := by
  have performed := performAll_eq_plan (dryRun topology.settings) topology read
    (arguments.steps tool) ⟨"", {}⟩
  dsimp only at performed
  have result : (perform tool arguments topology read machine).result = .ok 0 := by
    rw [perform, if_pos dry]
    simp only [resultOf, performed.1, performed.2, stepsPlan_of_readable readable, exitCode_dryRun]
    rfl
  rw [Ended.status, result]
  rfl

/-- A tool ends like the last command that it executed. -/
theorem status_of_live (readable : ¬ Unreadable tool arguments topology read)
    (isLive : arguments.dryRun = false) (machine : Machine) :
    (perform tool arguments topology read machine).status =
      ((endings topology.settings (handed tool arguments topology read machine)
        machine).getLast?.map Ending.exitStatus).getD 0 := by
  have performed := performAll_eq_plan (live topology.settings) topology read
    (arguments.steps tool) ⟨machine, {}⟩
  dsimp only at performed
  have result : (perform tool arguments topology read machine).result =
      .ok (((endings topology.settings (handed tool arguments topology read machine)
        machine).getLast?.map Ending.code).getD 0) := by
    rw [perform, if_neg (by simp [isLive]), handed_eq_plan]
    simp only [resultOf, performed.1, performed.2, stepsPlan_of_readable readable, exitCode_live]
  rw [Ended.status, result]
  cases (endings topology.settings (handed tool arguments topology read machine)
    machine).getLast? with
  | none => rfl
  | some ending => exact ofInt_code ending

theorem machine_of_live (isLive : arguments.dryRun = false) (machine : Machine) :
    (perform tool arguments topology read machine).machine =
      machine.after topology.settings (handed tool arguments topology read machine) := by
  have performed := performAll_eq_plan (live topology.settings) topology read
    (arguments.steps tool) ⟨machine, {}⟩
  dsimp only at performed
  rw [perform, if_neg (by simp [isLive]), handed_eq_plan]
  simp only [performed.2, carryOut_live_lab]

end

/-- A tool with usable arguments ends with status 1 if it has no topology or if a file of its steps
cannot be read. Otherwise it ends with 0 in a dry run, and else like the last command that it
executed, or with 0 if there is none. So the status is 0 behind an executed command only if this
command ended with 0, and calls behind it that execute nothing leave the status as it is. -/
theorem status_of_run {tool : Tool} {words : List String} {arguments : Arguments}
    (parsed : tool.parse? words = some arguments) (read : Files.Reader) (machine : Machine) :
    let ended := run tool words read machine
    match chooseTopology tool arguments read with
    | .error _ => ended.status = 1
    | .ok topology =>
      let settings := topology.settings
      let calls := handed tool arguments topology read machine
      (Unreadable tool arguments topology read → ended.status = 1) ∧
      (¬ Unreadable tool arguments topology read → arguments.dryRun = true →
        ended.status = 0) ∧
      (¬ Unreadable tool arguments topology read → arguments.dryRun = false →
        ended.machine = machine.after settings calls ∧
        ended.status =
          ((endings settings calls machine).getLast?.map Ending.exitStatus).getD 0 ∧
        ∀ earlier call later ending, calls = earlier ++ call :: later →
          (machine.after settings earlier).ending? settings call = some ending →
          endings settings later (machine.after settings (earlier ++ [call])) = [] →
          ended.status = ending.exitStatus ∧ (ended.status = 0 ↔ ending = .exited 0)) := by
  intro ended
  cases chosen : chooseTopology tool arguments read with
  | error cause =>
    have isEnded : ended = _ := run_of_no_topology parsed chosen machine
    rw [isEnded]
    rfl
  | ok topology =>
    have isEnded : ended = _ := run_of_topology parsed chosen machine
    rw [isEnded]
    refine ⟨fun unreadable => status_of_unreadable unreadable machine,
      fun readable dry => status_of_dry readable dry machine, fun readable isLive => ?_⟩
    have status := status_of_live readable isLive machine
    refine ⟨machine_of_live isLive machine, status, ?_⟩
    intro earlier call later ending isSplit isLast nothing
    have last := getLast?_endings isLast nothing
    rw [← isSplit] at last
    rw [last, Option.map_some, Option.getD_some] at status
    rw [status]
    exact ⟨rfl, exitStatus_eq_zero_iff⟩

/-- A machine with two hosts of the Abilene lab. Of their commands the last one is killed. -/
def killingMachine : Machine where
  listing := { output :=
    Text.Utf8.encode "4243 bash mininet:SEAT-host\n4244 bash mininet:LOSA-host\n" }
  replies := [{}, { ending := .exited 3 }, {}, { ending := .killed 9 }]

/-- The other hosts have no process, and so the tool ends like the command that was killed. -/
theorem status_of_run_killingMachine :
    Tool.configHosts.parse? [] = some {} ∧
    (¬ Unreadable .configHosts {} .abilene sampleFiles.read) ∧
    endings {} (handed .configHosts {} .abilene sampleFiles.read killingMachine) killingMachine =
      [.exited 0, .exited 3, .exited 0, .killed 9] ∧
    (run .configHosts [] sampleFiles.read killingMachine).status = 255 := by
  have parsed : Tool.configHosts.parse? [] = some {} := by decide
  have readable : ¬ Unreadable .configHosts {} .abilene sampleFiles.read := by
    rintro ⟨step, isStep, file, isFile, -⟩
    cases List.mem_singleton.mp isStep
    cases isFile
  have ended : endings {} (handed .configHosts {} .abilene sampleFiles.read killingMachine)
      killingMachine = [.exited 0, .exited 3, .exited 0, .killed 9] := by
    decide +kernel
  obtain ⟨-, -, general⟩ := status_of_run parsed sampleFiles.read killingMachine
  refine ⟨parsed, readable, ended, (general readable rfl).2.1.trans ?_⟩
  exact congrArg (fun list => (list.getLast?.map Ending.exitStatus).getD 0) ended

end Testbed.Program
