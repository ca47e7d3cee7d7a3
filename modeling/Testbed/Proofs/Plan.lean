import Testbed.Lab.DryRun
import Testbed.Replay.Steps

/-!
# Plans

What a step asks of the nodes is settled before its first command runs. It follows from the topology
and the files, and no answer of an executor changes it. A plan states the commands in their order,
and how the step ends.

Results:
1. `perform_eq_plan`, `performEach_eq_plan`, `performAll_eq_plan`: a step, all steps of a list, and
   the steps up to the first that fails only carry out their plans.
2. `carryOut_recording`: the calls that an executor receives are the orders of the plan.
3. `carryOut_dryRun`: a dry run prints one line for every order.
4. `sequence_of_ok`, `sequence_of_failure`: what becomes of plans that are carried out in turn.
-/

namespace Testbed.Replay

open Testbed.Lab Testbed.Vtysh

/-! ## Definitions -/

structure Order where
  node : Node
  command : List String
deriving DecidableEq, Repr

/-- The call by which an order reaches the executor. -/
def Order.call (settings : Settings) (order : Order) : Call :=
  ⟨order.node.filter settings, order.command⟩

/-- What a part of a run does, whatever the executor answers. -/
structure Plan where
  orders : List Order
  result : Except LoadError Unit

/-- One plan after the other, up to the first that fails. -/
def Plan.sequence : List Plan → Plan
  | [] => ⟨[], .ok ()⟩
  | plan :: later =>
    match plan.result with
    | .error error => ⟨plan.orders, .error error⟩
    | .ok _ => ⟨plan.orders ++ (sequence later).orders, (sequence later).result⟩

def Assignment.orders (assignment : Assignment) : List Order :=
  assignment.commands.map fun command => ⟨⟨.host, assignment.host⟩, command⟩

/-- The order that replays directives on a router, if there are any. -/
def replayOrders (settings : Settings) (router : String) (directives : List Directive) :
    List Order :=
  ((Command.configure? settings.vtysh directives).map fun command =>
    ⟨⟨.router, router⟩, command.arguments⟩).toList

def routerPlan (settings : Settings) (read : Files.Reader) (folder : String) (scope : Scope)
    (router : String) : Plan :=
  match (readRouter read folder scope router).1 with
  | .error error => ⟨[], .error error⟩
  | .ok directives => ⟨replayOrders settings router directives, .ok ()⟩

def routersPlan (settings : Settings) (read : Files.Reader) (folder : String) (scope : Scope)
    (routers : List String) : Plan :=
  .sequence (routers.map (routerPlan settings read folder scope))

def Step.plan (topology : Topology) (read : Files.Reader) : Step → Plan
  | .hosts => ⟨(assignments topology).flatMap Assignment.orders, .ok ()⟩
  | .routers folder scope => routersPlan topology.settings read folder scope topology.routers

def stepsPlan (topology : Topology) (read : Files.Reader) (steps : List Step) : Plan :=
  .sequence (steps.map (Step.plan topology read))

variable {State : Type}

/-- Dispatches the orders one after the other. -/
def carryOut (executor : Executor State) (settings : Settings) :
    List Order → Progress State → Progress State
  | [], progress => progress
  | order :: later, progress =>
    carryOut executor settings later
      (dispatch executor settings order.node order.command progress).state

/-- Takes every step, also those behind a step that fails. -/
def performEach (executor : Executor State) (topology : Topology) (read : Files.Reader) :
    List Step → Progress State → Turn (Progress State) (List (Except LoadError Unit))
  | [], progress => ⟨[], [], progress⟩
  | step :: later, progress =>
    (step.perform executor topology read progress).andThen fun result progress =>
      (performEach executor topology read later progress).andThen fun results progress =>
        ⟨result :: results, [], progress⟩

/-! ## Orders -/

theorem carryOut_append (executor : Executor State) (settings : Settings)
    (earlier later : List Order) (progress : Progress State) :
    carryOut executor settings (earlier ++ later) progress =
      carryOut executor settings later (carryOut executor settings earlier progress) := by
  induction earlier generalizing progress with
  | nil => rfl
  | cons order earlier ih =>
    rw [List.cons_append, carryOut, carryOut]
    exact ih _

/-- The calls that an executor receives are the orders, and recording them changes nothing else. -/
theorem carryOut_recording (executor : Executor State) (settings : Settings) (orders : List Order)
    (progress : Progress State) (calls : List Call) :
    carryOut executor.recording settings orders ⟨(progress.lab, calls), progress.summary⟩ =
      ⟨((carryOut executor settings orders progress).lab,
          calls ++ orders.map (Order.call settings)),
        (carryOut executor settings orders progress).summary⟩ := by
  induction orders generalizing progress calls with
  | nil => rw [List.map_nil, List.append_nil]; rfl
  | cons order later ih =>
    have step := ih (dispatch executor settings order.node order.command progress).state
      (calls ++ [order.call settings])
    rw [List.append_assoc, List.singleton_append] at step
    exact step

theorem carryOut_dryRun (settings : Settings) (orders : List Order) (progress : Progress String) :
    (carryOut (dryRun settings) settings orders progress).lab =
      progress.lab ++ String.join ((orders.map (Order.call settings)).map fun call =>
        pipeline settings call.filter call.command ++ "\n") := by
  induction orders generalizing progress with
  | nil => simp [carryOut]
  | cons order later ih =>
    rw [carryOut, ih]
    simp [dispatch_state, dryRun, Order.call, String.append_assoc]

/-! ## Plans in turn -/

/-- Plans that all succeed are carried out to the end. -/
theorem sequence_of_ok {plans : List Plan} (succeed : ∀ plan ∈ plans, plan.result = .ok ()) :
    Plan.sequence plans = ⟨plans.flatMap Plan.orders, .ok ()⟩ := by
  induction plans with
  | nil => rfl
  | cons plan later ih =>
    have rest := ih fun plan isLater => succeed plan (.tail _ isLater)
    rw [Plan.sequence, succeed plan (.head _), rest]
    rfl

/-- The first plan that fails is the last that is carried out. -/
theorem sequence_of_failure {earlier : List Plan} {failing : Plan} {error : LoadError}
    (succeed : ∀ plan ∈ earlier, plan.result = .ok ()) (fails : failing.result = .error error)
    (later : List Plan) :
    Plan.sequence (earlier ++ failing :: later) =
      ⟨earlier.flatMap Plan.orders ++ failing.orders, .error error⟩ := by
  induction earlier with
  | nil => rw [List.nil_append, Plan.sequence, fails]; rfl
  | cons plan earlier ih =>
    have rest := ih fun plan isEarlier => succeed plan (.tail _ isEarlier)
    rw [List.cons_append, Plan.sequence, succeed plan (.head _), rest, List.flatMap_cons,
      List.append_assoc]

/-! ## Steps carry out their plans -/

theorem assignAll_state (executor : Executor State) (settings : Settings)
    (assignments : List Assignment) (progress : Progress State) :
    (assignAll executor settings assignments progress).state =
      carryOut executor settings (assignments.flatMap Assignment.orders) progress := by
  induction assignments generalizing progress with
  | nil => rfl
  | cons assignment later ih =>
    rw [List.flatMap_cons, carryOut_append]
    exact ih _

theorem replayRouter_state (executor : Executor State) (settings : Settings) (router : String)
    (directives : List Directive) (progress : Progress State) :
    (replayRouter executor settings router directives progress).state =
      carryOut executor settings (replayOrders settings router directives) progress := by
  cases directives with
  | nil => rfl
  | cons first rest => rfl

/-- Replaying routers carries out their plans in turn. -/
theorem replayAll_eq_plan (executor : Executor State) (settings : Settings) (read : Files.Reader)
    (folder : String) (scope : Scope) (routers : List String) (progress : Progress State) :
    let turn := replayAll executor settings read folder scope routers progress
    let plan := routersPlan settings read folder scope routers
    turn.answer = plan.result ∧ turn.state = carryOut executor settings plan.orders progress := by
  induction routers generalizing progress with
  | nil => exact ⟨rfl, rfl⟩
  | cons router later ih =>
    dsimp only
    rw [routersPlan, List.map_cons, Plan.sequence, replayAll]
    cases found : readRouter read folder scope router with
    | mk content log =>
      cases content with
      | error error =>
        rw [routerPlan, found]
        exact ⟨rfl, rfl⟩
      | ok directives =>
        -- The later routers start where the plan for this one ends.
        have rest := ih (replayRouter executor settings router directives progress).state
        rw [replayRouter_state] at rest
        rw [routerPlan, found]
        dsimp only
        rw [carryOut_append]
        refine ⟨?_, ?_⟩
        · rw [← routersPlan, ← rest.1, ← replayRouter_state]
          rfl
        · rw [← routersPlan, ← rest.2, ← replayRouter_state]
          rfl

theorem replayRouters_eq_plan (executor : Executor State) (topology : Topology)
    (read : Files.Reader) (folder : String) (scope : Scope) (progress : Progress State) :
    let turn := replayRouters executor topology read folder scope progress
    let plan := routersPlan topology.settings read folder scope topology.routers
    turn.answer = plan.result ∧
      turn.state = carryOut executor topology.settings plan.orders progress :=
  replayAll_eq_plan executor topology.settings read folder scope topology.routers progress

theorem replayRouters_recording (executor : Executor State) (topology : Topology)
    (read : Files.Reader) (folder : String) (scope : Scope) (lab : State) (calls : List Call)
    (summary : Summary) :
    let turn := replayRouters executor.recording topology read folder scope
      ⟨(lab, calls), summary⟩
    let plan := routersPlan topology.settings read folder scope topology.routers
    turn.answer = plan.result ∧
      turn.state.lab.2 = calls ++ plan.orders.map (Order.call topology.settings) := by
  have performed := replayRouters_eq_plan executor.recording topology read folder scope
    ⟨(lab, calls), summary⟩
  dsimp only at performed ⊢
  rw [performed.1, performed.2, carryOut_recording executor topology.settings _ ⟨lab, summary⟩]
  exact ⟨rfl, rfl⟩

theorem perform_eq_plan (executor : Executor State) (topology : Topology) (read : Files.Reader)
    (step : Step) (progress : Progress State) :
    let turn := step.perform executor topology read progress
    let plan := step.plan topology read
    turn.answer = plan.result ∧
      turn.state = carryOut executor topology.settings plan.orders progress := by
  cases step with
  | hosts =>
    exact ⟨rfl, assignAll_state executor topology.settings (assignments topology) progress⟩
  | routers folder scope =>
    exact replayRouters_eq_plan executor topology read folder scope progress

/-- All steps of a list carry out their plans, whether they fail or not. -/
theorem performEach_eq_plan (executor : Executor State) (topology : Topology)
    (read : Files.Reader) (steps : List Step) (progress : Progress State) :
    let turn := performEach executor topology read steps progress
    let plans := steps.map (Step.plan topology read)
    turn.answer = plans.map Plan.result ∧
      turn.state = carryOut executor topology.settings (plans.flatMap Plan.orders) progress := by
  induction steps generalizing progress with
  | nil => exact ⟨rfl, rfl⟩
  | cons step later ih =>
    have first := perform_eq_plan executor topology read step progress
    have rest := ih (step.perform executor topology read progress).state
    dsimp only at first rest ⊢
    rw [List.map_cons, List.map_cons, List.flatMap_cons, carryOut_append, ← first.1, ← first.2,
      ← rest.1, ← rest.2]
    exact ⟨rfl, rfl⟩

/-- A tool's steps carry out their plans up to the first that fails. -/
theorem performAll_eq_plan (executor : Executor State) (topology : Topology) (read : Files.Reader)
    (steps : List Step) (progress : Progress State) :
    let turn := performAll executor topology read steps progress
    let plan := stepsPlan topology read steps
    turn.answer = plan.result ∧
      turn.state = carryOut executor topology.settings plan.orders progress := by
  induction steps generalizing progress with
  | nil => exact ⟨rfl, rfl⟩
  | cons step later ih =>
    have first := perform_eq_plan executor topology read step progress
    have rest := ih (step.perform executor topology read progress).state
    dsimp only at first rest ⊢
    rw [stepsPlan, List.map_cons, Plan.sequence, ← stepsPlan, performAll, Turn.andThen]
    cases answer : (step.perform executor topology read progress).answer with
    | error error =>
      rw [← first.1, answer]
      exact ⟨rfl, first.2⟩
    | ok _ =>
      rw [← first.1, answer]
      dsimp only
      rw [carryOut_append, ← first.2]
      exact rest

end Testbed.Replay
