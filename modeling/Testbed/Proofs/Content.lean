import Mathlib.Control.Monad.Basic
import Testbed.Lab.Rehearsal
import Testbed.Proofs.Blocks
import Testbed.Proofs.Plan

/-!
# What a replay hands over

If all saved configurations can be read, every router with something to replay receives one command,
and its words are those of the saved sections, file after file.

Results:
1. `directives_eq_nil_iff`: a text has nothing to replay if no line opens a section.
2. `routerPlan_of_readable`: the plan for a router whose files can be read.
3. `replayRouters_calls`: the calls of a replay.
-/

namespace Testbed.Saved

open Testbed.Vtysh

/-- Whether a line of the text opens a section of one of the kinds. -/
def holdsOpening (kinds : List Kind) (text : String) : Bool :=
  (Text.lines text).any (isOpening kinds)

/-- The words that replay the sections of a text: the lines of every section, and `exit` behind
those that a terminator ends and that are no static routes. -/
def replayedTexts (kinds : List Kind) (text : String) : List String :=
  (sections kinds text).flatMap fun part =>
    part.lines ++ if part.terminated = true ∧ part.kind ≠ .staticRoute then ["exit"] else []

theorem Section.texts_directives (part : Section) :
    part.directives.map Directive.text =
      part.lines ++ if part.terminated = true ∧ part.kind ≠ .staticRoute then ["exit"] else [] := by
  have isText : Directive.text ∘ Directive.line = id := rfl
  rw [directives_eq, List.map_append, List.map_map, isText, List.map_id]
  congr 1
  split <;> rfl

theorem texts_directives (kinds : List Kind) (text : String) :
    (directives kinds text).map Directive.text = replayedTexts kinds text := by
  rw [directives, List.map_flatMap, replayedTexts]
  exact congrArg (sections kinds text).flatMap (funext Section.texts_directives)

theorem Section.directives_ne_nil (part : Section) : part.directives ≠ [] := by
  rw [directives, lines, List.map_cons, List.cons_append]
  exact List.cons_ne_nil _ _

theorem directives_eq_nil_iff {kinds : List Kind} {text : String} :
    directives kinds text = [] ↔ holdsOpening kinds text = false := by
  rw [holdsOpening, ← sectionsOf_eq_nil_iff, directives, List.flatMap_eq_nil_iff]
  constructor
  · intro allEmpty
    rw [List.eq_nil_iff_forall_not_mem]
    intro part isPart
    exact part.directives_ne_nil (allEmpty part isPart)
  · intro none part isPart
    rw [sections, none] at isPart
    cases isPart

end Testbed.Saved

namespace Testbed.Replay

open Testbed.Lab Testbed.Saved Testbed.Vtysh

/-- What stands in the saved configurations: a text for every router and daemon. -/
abbrev Contents := String → Daemon → String

def Contents.directives (contents : Contents) (scope : Scope) (router : String) :
    List Directive :=
  scope.sources.flatMap fun source => Saved.directives source.2 (contents router source.1)

theorem readSources_of_readable {read : Files.Reader} {folder router : String}
    {contents : Contents} {sources : List (Daemon × List Kind)}
    (readable : ∀ source ∈ sources,
      read (savedPath folder router source.1) = .ok (contents router source.1)) :
    (readSources read folder router sources).1 =
      .ok (sources.flatMap fun source => directives source.2 (contents router source.1)) := by
  induction sources with
  | nil => rfl
  | cons source later ih =>
    have behind := ih fun source isLater => readable source (.tail _ isLater)
    obtain ⟨daemon, kinds⟩ := source
    simp only [readSources, readable _ (.head _)]
    rw [behind]
    rfl

theorem routerPlan_of_readable (settings : Settings) {read : Files.Reader} {folder router : String}
    {scope : Scope} {contents : Contents}
    (readable : ∀ source ∈ scope.sources,
      read (savedPath folder router source.1) = .ok (contents router source.1)) :
    routerPlan settings read folder scope router =
      ⟨replayOrders settings router (contents.directives scope router), .ok ()⟩ := by
  rw [routerPlan, readRouter, readSources_of_readable readable]
  rfl

/-- Whether a file of the router holds a line that opens a section taken from this file. -/
def Contents.isReplayed (contents : Contents) (scope : Scope) (router : String) : Bool :=
  scope.sources.any fun source => holdsOpening source.2 (contents router source.1)

/-- The words that replay a router. Each file is cut into sections on its own. -/
def Contents.texts (contents : Contents) (scope : Scope) (router : String) : List String :=
  scope.sources.flatMap fun source => replayedTexts source.2 (contents router source.1)

/-- The call that replays a router. -/
def Contents.call (contents : Contents) (settings : Settings) (scope : Scope) (router : String) :
    Call :=
  ⟨Node.filter settings ⟨.router, router⟩,
    [settings.vtysh, "-c", "conf ter"] ++
      (contents.texts scope router).flatMap fun text => ["-c", text]⟩

theorem Contents.directives_eq_nil_iff {contents : Contents} {scope : Scope} {router : String} :
    contents.directives scope router = [] ↔ contents.isReplayed scope router = false := by
  rw [directives, isReplayed, List.flatMap_eq_nil_iff, List.any_eq_false]
  constructor
  · intro allEmpty source isSource
    rw [Saved.directives_eq_nil_iff.mp (allEmpty source isSource)]
    exact Bool.false_ne_true
  · intro none source isSource
    exact Saved.directives_eq_nil_iff.mpr (Bool.eq_false_iff.mpr (none source isSource))

theorem Contents.texts_directives (contents : Contents) (scope : Scope) (router : String) :
    (contents.directives scope router).map Directive.text = contents.texts scope router := by
  rw [directives, List.map_flatMap, texts]
  exact congrArg scope.sources.flatMap (funext fun source => Saved.texts_directives _ _)

theorem calls_replayOrders (settings : Settings) (contents : Contents) (scope : Scope)
    (router : String) :
    (replayOrders settings router (contents.directives scope router)).map (Order.call settings) =
      if contents.isReplayed scope router then [contents.call settings scope router] else [] := by
  cases replayed : contents.isReplayed scope router with
  | false =>
    rw [Contents.directives_eq_nil_iff.mpr replayed]
    rfl
  | true =>
    have nonempty : contents.directives scope router ≠ [] := by
      intro empty
      rw [Contents.directives_eq_nil_iff, replayed] at empty
      cases empty
    rw [replayOrders, configure?_of_ne_nil nonempty, if_pos rfl, Contents.call,
      ← Contents.texts_directives, List.flatMap_map]
    rfl

/-- A choice for every element is a choice among the elements. -/
theorem flatMap_ite_eq_map_filter {α β : Type} (test : α → Bool) (image : α → β) (xs : List α) :
    (xs.flatMap fun x => if test x then [image x] else []) = (xs.filter test).map image := by
  induction xs with
  | nil => rfl
  | cons x rest ih =>
    rw [List.flatMap_cons, ih]
    cases chosen : test x with
    | false => rw [List.filter_cons_of_neg (by simp [chosen])]; rfl
    | true => rw [List.filter_cons_of_pos chosen]; rfl

theorem routersPlan_of_readable (settings : Settings) {read : Files.Reader} {folder : String}
    {scope : Scope} {contents : Contents} {routers : List String}
    (readable : ∀ router ∈ routers, ∀ source ∈ scope.sources,
      read (savedPath folder router source.1) = .ok (contents router source.1)) :
    (routersPlan settings read folder scope routers).result = .ok () ∧
      (routersPlan settings read folder scope routers).orders.map (Order.call settings) =
        (routers.filter (contents.isReplayed scope)).map (contents.call settings scope) := by
  have plans : routers.map (routerPlan settings read folder scope) =
      routers.map fun router =>
        ⟨replayOrders settings router (contents.directives scope router), .ok ()⟩ :=
    List.map_congr_left fun router isRouter =>
      routerPlan_of_readable settings (readable router isRouter)
  rw [routersPlan, plans, sequence_of_ok (by simp)]
  refine ⟨rfl, ?_⟩
  rw [← flatMap_ite_eq_map_filter, List.flatMap_map, List.map_flatMap]
  exact congrArg routers.flatMap
    (funext fun router => calls_replayOrders settings contents scope router)

variable {State : Type}

/-- If all saved configurations can be read, a replay succeeds. Its calls go to the routers with a
line that opens a section, in the order of the topology and one for each. A call looks for the
router's process, and its words are those of the router's sections, file after file. -/
theorem replayRouters_calls (executor : Executor State) (topology : Topology)
    (read : Files.Reader) (folder : String) (scope : Scope) (contents : Contents)
    (readable : ∀ router ∈ topology.routers, ∀ source ∈ scope.sources,
      read (savedPath folder router source.1) = .ok (contents router source.1))
    (lab : State) (calls : List Call) (summary : Summary) :
    let turn := replayRouters executor.recording topology read folder scope
      ⟨(lab, calls), summary⟩
    turn.answer = .ok () ∧
      turn.state.lab.2 = calls ++
        (topology.routers.filter (contents.isReplayed scope)).map
          (contents.call topology.settings scope) := by
  have performed := replayRouters_eq_plan executor.recording topology read folder scope
    ⟨(lab, calls), summary⟩
  have planned := routersPlan_of_readable topology.settings readable
  dsimp only at performed ⊢
  rw [performed.1, performed.2,
    carryOut_recording executor topology.settings _ ⟨lab, summary⟩ calls, planned.1, planned.2]
  exact ⟨rfl, rfl⟩

/-- Saved configurations of which the first ends inside a section, and some hold no section. -/
def sampleContents : Contents
  | "SEAT", .zebra => "log file x\ninterface seat\n ip address 4.109.0.2/24"
  | "SEAT", .ospfd => "router ospf\n network 4.0.0.0/8 area 0\n!\n!\n"
  | _, _ => "log file x\n!\n"

/-- The files of `sampleContents`. A file is missing for one of the routers. -/
def sampleTree : Files.Tree :=
  [("SEAT", .zebra), ("SEAT", .ospfd), ("LOSA", .zebra), ("LOSA", .ospfd), ("KANS", .zebra)].foldl
    (fun tree (router, daemon) => tree.add (savedPath "saved" router daemon)
      (.file (Text.Utf8.encode (sampleContents router daemon)))) ⟨[]⟩

def sampleLab : Topology where
  gatewayOctet := 1
  routers := ["SEAT", "LOSA", "SEAT"]

/-- The router that is named twice is called twice, the one without sections is passed over, and the
section that the first file leaves open does not go on in the second one. -/
theorem replayRouters_calls_sampleLab :
    (∀ router ∈ sampleLab.routers, ∀ source ∈ Scope.singleSystem.sources,
      sampleTree.read (savedPath "saved" router source.1) =
        .ok (sampleContents router source.1)) ∧
    let turn := replayRouters rehearsal.recording sampleLab sampleTree.read "saved" .singleSystem
      ⟨({}, []), {}⟩
    let call : Call :=
      ⟨⟨"SEAT", "mininet:SEAT", "bash", ["mxexec", "host"]⟩,
        ["vtysh", "-c", "conf ter", "-c", "interface seat", "-c", " ip address 4.109.0.2/24",
          "-c", "router ospf", "-c", " network 4.0.0.0/8 area 0", "-c", "exit"]⟩
    turn.answer = .ok () ∧ turn.state.lab.2 = [call, call] := by
  have readable : ∀ router ∈ sampleLab.routers, ∀ source ∈ Scope.singleSystem.sources,
      sampleTree.read (savedPath "saved" router source.1) =
        .ok (sampleContents router source.1) := by
    decide +kernel
  have replayed := replayRouters_calls rehearsal sampleLab sampleTree.read "saved" .singleSystem
    sampleContents readable {} [] {}
  refine ⟨readable, replayed.1, replayed.2.trans ?_⟩
  decide +kernel

end Testbed.Replay
