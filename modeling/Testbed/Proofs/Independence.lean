import Testbed.Program.Run
import Testbed.Proofs.Content

/-!
# Runs do not depend on the lab

Two runs with the same topology and the same files ask the same commands of their executors, however
different the executors and their answers are. So a dry run prints what a live run would hand over
to the machine.

Results:
1. `performAll_recording`: the calls of a tool's steps, beside a run that is otherwise the same.
2. `perform_dry`: what a dry run prints.
3. `calls_independent_of_executor`: two executors, and a dry run beside a live one.
-/

namespace Testbed.Program

open Testbed.Lab Testbed.Replay

variable {State : Type}

/-- An executor receives the calls of the plan, and recording them changes nothing else. -/
theorem performAll_recording (executor : Executor State) (topology : Topology)
    (read : Files.Reader) (steps : List Step) (progress : Progress State) (calls : List Call) :
    let plain := performAll executor topology read steps progress
    let recorded :=
      performAll executor.recording topology read steps ⟨(progress.lab, calls), progress.summary⟩
    let plan := stepsPlan topology read steps
    recorded.answer = plain.answer ∧
      recorded.state =
        ⟨(plain.state.lab, calls ++ plan.orders.map (Order.call topology.settings)),
          plain.state.summary⟩ := by
  have plain := performAll_eq_plan executor topology read steps progress
  have recorded := performAll_eq_plan executor.recording topology read steps
    ⟨(progress.lab, calls), progress.summary⟩
  dsimp only at plain recorded ⊢
  rw [recorded.1, recorded.2, plain.1, plain.2]
  exact ⟨rfl, carryOut_recording executor topology.settings _ progress calls⟩

theorem perform_dry (tool : Tool) (arguments : Arguments) (dry : arguments.dryRun = true)
    (topology : Topology) (read : Files.Reader) (machine : Machine) :
    (perform tool arguments topology read machine).printed =
      String.join (((stepsPlan topology read (arguments.steps tool)).orders.map
        (Order.call topology.settings)).map fun call =>
          pipeline topology.settings call.filter call.command ++ "\n") := by
  have printed := (performAll_eq_plan (dryRun topology.settings) topology read
    (arguments.steps tool) ⟨"", {}⟩).2
  rw [perform, if_pos dry]
  dsimp only at printed ⊢
  rw [printed, carryOut_dryRun, String.empty_append]

theorem resultOf_eq_error_iff {turn : Turn (Progress State) (Except Replay.LoadError Unit)}
    {problem : Problem} :
    resultOf turn = .error problem ↔
      ∃ cause, turn.answer = .error cause ∧ problem = .configuration cause := by
  unfold resultOf
  cases turn.answer with
  | error cause =>
    constructor
    · intro isProblem
      cases isProblem
      exact ⟨cause, rfl, rfl⟩
    · rintro ⟨_, isCause, rfl⟩
      cases isCause
      rfl
  | ok _ =>
    constructor
    · intro isProblem
      cases isProblem
    · rintro ⟨_, isCause, _⟩
      cases isCause

/-- A tool fails exactly if its plan does, whether it only prints or not. -/
theorem perform_error_iff (tool : Tool) (arguments : Arguments) (topology : Topology)
    (read : Files.Reader) (machine : Machine) (problem : Problem) :
    (perform tool arguments topology read machine).result = .error problem ↔
      ∃ cause, (stepsPlan topology read (arguments.steps tool)).result = .error cause ∧
        problem = .configuration cause := by
  unfold perform
  split
  · rw [resultOf_eq_error_iff,
      (performAll_eq_plan (dryRun topology.settings) topology read _ _).1]
  · rw [resultOf_eq_error_iff,
      (performAll_eq_plan (live topology.settings) topology read _ _).1]

/-- A tool that performs its steps live leaves the machine that a recorded run leaves. -/
theorem perform_live_machine (tool : Tool) (arguments : Arguments)
    (isLive : arguments.dryRun = false) (topology : Topology) (read : Files.Reader)
    (machine : Machine) :
    let handed := performAll (live topology.settings).recording topology read
      (arguments.steps tool) ⟨(machine, []), {}⟩
    handed.state.lab.1 = (perform tool arguments topology read machine).machine ∧
      handed.state.lab.2 =
        (stepsPlan topology read (arguments.steps tool)).orders.map
          (Order.call topology.settings) := by
  have recorded := (performAll_recording (live topology.settings) topology read
    (arguments.steps tool) ⟨machine, {}⟩ []).2
  dsimp only at recorded ⊢
  rw [recorded, perform, if_neg (by simp [isLive])]
  exact ⟨rfl, rfl⟩

theorem run_of_topology {tool : Tool} {words : List String} {arguments : Arguments}
    {topology : Topology} {read : Files.Reader} (parsed : tool.parse? words = some arguments)
    (chosen : chooseTopology tool arguments read = .ok topology) (machine : Machine) :
    run tool words read machine = perform tool arguments topology read machine := by
  simp only [run, parsed, chosen]

theorem run_of_no_topology {tool : Tool} {words : List String} {arguments : Arguments}
    {cause : Topology.LoadError} {read : Files.Reader}
    (parsed : tool.parse? words = some arguments)
    (unusable : chooseTopology tool arguments read = .error cause) (machine : Machine) :
    run tool words read machine = ⟨.error (.topology cause), "", machine⟩ := by
  simp only [run, parsed, unusable]

/-- What an executor answers changes neither the commands that follow nor the results of the steps:
any two executors receive the same calls, and every step ends alike. So a tool prints in a dry run
exactly the calls that it hands to the machine when it is run with the same arguments and files. It
starts nothing then, and it fails in the same cases. -/
theorem calls_independent_of_executor {Other : Type} (executor : Executor State)
    (other : Executor Other) (topology : Topology) (read : Files.Reader) (steps : List Step)
    (lab : State) (otherLab : Other) (summary otherSummary : Summary) :
    (let one := performEach executor.recording topology read steps ⟨(lab, []), summary⟩
      let two := performEach other.recording topology read steps ⟨(otherLab, []), otherSummary⟩
      one.answer = two.answer ∧ one.state.lab.2 = two.state.lab.2) ∧
    ∀ (tool : Tool) (dryWords liveWords : List String) (arguments : Arguments)
      (machine liveMachine : Machine),
      tool.parse? dryWords = some { arguments with dryRun := true } →
      tool.parse? liveWords = some { arguments with dryRun := false } →
      let dry := run tool dryWords read machine
      let real := run tool liveWords read liveMachine
      dry.machine = machine ∧
      (∀ problem, dry.result = .error problem ↔ real.result = .error problem) ∧
      match chooseTopology tool arguments read with
      | .error _ => dry.printed = "" ∧ real.machine = liveMachine
      | .ok topology =>
        let handed := performAll (live topology.settings).recording topology read
          (arguments.steps tool) ⟨(liveMachine, []), {}⟩
        handed.state.lab.1 = real.machine ∧
          dry.printed = String.join (handed.state.lab.2.map fun call =>
            pipeline topology.settings call.filter call.command ++ "\n") := by
  refine ⟨?_, ?_⟩
  · have one := performEach_eq_plan executor.recording topology read steps ⟨(lab, []), summary⟩
    have two := performEach_eq_plan other.recording topology read steps
      ⟨(otherLab, []), otherSummary⟩
    dsimp only at one two ⊢
    rw [one.1, two.1, one.2, two.2]
    rw [carryOut_recording executor topology.settings _ ⟨lab, summary⟩,
      carryOut_recording other topology.settings _ ⟨otherLab, otherSummary⟩]
    exact ⟨rfl, rfl⟩
  · intro tool dryWords liveWords arguments machine liveMachine dryParsed liveParsed
    have starts := run_dry_machine dryParsed rfl read machine
    refine ⟨starts, ?_⟩
    cases chosen : chooseTopology tool arguments read with
    | error cause =>
      rw [run_of_no_topology dryParsed chosen, run_of_no_topology liveParsed chosen]
      exact ⟨fun problem => Iff.rfl, rfl, rfl⟩
    | ok topology =>
      rw [run_of_topology dryParsed chosen, run_of_topology liveParsed chosen]
      have handed := perform_live_machine tool { arguments with dryRun := false } rfl topology
        read liveMachine
      have printed := perform_dry tool { arguments with dryRun := true } rfl topology read machine
      dsimp only [Arguments.steps] at handed printed ⊢
      refine ⟨fun problem => ?_, handed.1, ?_⟩
      · rw [perform_error_iff, perform_error_iff]
        rfl
      · rw [printed, handed.2]

/-- The replay of `sampleTree` in the Abilene lab is printed up to the router without files. -/
theorem dry_run_of_sampleTree :
    let dry := run .loadConfigs ["-n", "saved"] sampleTree.read {}
    let real := run .loadConfigs ["saved"] sampleTree.read {}
    Tool.loadConfigs.parse? ["-n", "saved"] = some ⟨some "saved", none, true⟩ ∧
    Tool.loadConfigs.parse? ["saved"] = some ⟨some "saved", none, false⟩ ∧
    dry.machine = {} ∧
    (∀ problem, dry.result = .error problem ↔ real.result = .error problem) ∧
    dry.printed =
      pipeline {} ((Node.mk .router "SEAT").filter {})
        ["vtysh", "-c", "conf ter", "-c", "interface seat", "-c", " ip address 4.109.0.2/24",
          "-c", "router ospf", "-c", " network 4.0.0.0/8 area 0", "-c", "exit"] ++ "\n" := by
  have dryParsed : Tool.loadConfigs.parse? ["-n", "saved"] = some ⟨some "saved", none, true⟩ := by
    decide +kernel
  have liveParsed : Tool.loadConfigs.parse? ["saved"] = some ⟨some "saved", none, false⟩ := by
    decide +kernel
  have compared := (calls_independent_of_executor rehearsal rehearsal sampleLab sampleTree.read []
    {} {} {} {}).2 .loadConfigs ["-n", "saved"] ["saved"] ⟨some "saved", none, false⟩ {} {}
    dryParsed liveParsed
  refine ⟨dryParsed, liveParsed, compared.1, compared.2.1, compared.2.2.2.trans ?_⟩
  decide +kernel

end Testbed.Program
