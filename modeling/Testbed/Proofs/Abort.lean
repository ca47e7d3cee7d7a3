import Testbed.Proofs.Content

/-!
# A replay that is cut short

A saved configuration that cannot be read ends a replay. The run stands then where a shorter run
ends, one whose topology stops in front of the router with that file.

Results:
1. `exists_firstUnreadable`, `routersPlan_of_firstUnreadable`: there is a first file that cannot be
   read, and what is planned for the routers in front of it.
2. `replayAll_of_unreadable`: what stands behind a router that cannot be read is never looked at.
3. `replayRouters_abort`: all of this for a run.
-/

namespace Testbed.Replay

open Testbed.Lab Testbed.Saved

/-! ## Files that cannot be read -/

/-- The file named by `error` cannot be read, and it is the first such file: those of the routers
`earlier` can be read, and so can those of `router` in front of it. -/
structure FirstUnreadable (read : Files.Reader) (folder : String) (scope : Scope)
    (routers : List String) (error : LoadError) (earlier : List String) (router : String) :
    Prop where
  position : ∃ later, routers = earlier ++ router :: later
  earlier_readable : ∀ other ∈ earlier, ∀ source ∈ scope.sources,
    ∃ text, read (savedPath folder other source.1) = .ok text
  first : ∃ passed source rest, scope.sources = passed ++ source :: rest ∧
    error.path = savedPath folder router source.1 ∧ read error.path = .error error.cause ∧
    ∀ before ∈ passed, ∃ text, read (savedPath folder router before.1) = .ok text

theorem exists_first {α : Type} {test : α → Prop} {xs : List α} (some_ : ∃ x ∈ xs, test x) :
    ∃ earlier x later, xs = earlier ++ x :: later ∧ test x ∧ ∀ y ∈ earlier, ¬ test y := by
  classical
  have isFound : (xs.find? fun x => decide (test x)).isSome := by
    simpa only [List.find?_isSome, decide_eq_true_eq] using some_
  obtain ⟨x, found⟩ := Option.isSome_iff_exists.mp isFound
  obtain ⟨passes, earlier, later, isSplit, fail⟩ := List.find?_eq_some_iff_append.mp found
  refine ⟨earlier, x, later, isSplit, of_decide_eq_true passes, fun y isEarlier => ?_⟩
  simpa using fail y isEarlier

theorem readable_of_not_unreadable {read : Files.Reader} {path : String}
    (none : ¬ ∃ cause, read path = .error cause) : ∃ text, read path = .ok text := by
  cases found : read path with
  | error cause => exact absurd ⟨cause, found⟩ none
  | ok text => exact ⟨text, rfl⟩

theorem exists_firstUnreadable {read : Files.Reader} {folder : String} {scope : Scope}
    {routers : List String}
    (unreadable : ∃ router ∈ routers, ∃ source ∈ scope.sources, ∃ cause,
      read (savedPath folder router source.1) = .error cause) :
    ∃ error earlier router, FirstUnreadable read folder scope routers error earlier router := by
  -- The first router with such a file, and then the first such file of this router.
  obtain ⟨earlier, router, later, isSplit, fails, pass⟩ := exists_first unreadable
  obtain ⟨passed, source, rest, isSplitHere, ⟨cause, isError⟩, passHere⟩ := exists_first fails
  refine ⟨⟨savedPath folder router source.1, cause⟩, earlier, router, ⟨later, isSplit⟩, ?_,
    passed, source, rest, isSplitHere, rfl, isError, ?_⟩
  · intro other isEarlier source isSource
    exact readable_of_not_unreadable fun isUnreadable =>
      pass other isEarlier ⟨source, isSource, isUnreadable⟩
  · intro before isPassed
    exact readable_of_not_unreadable (passHere before isPassed)

/-! ## The plan of a replay that is cut short -/

/-- What is stored, with an empty text for every file that cannot be read. -/
def stored (read : Files.Reader) (folder : String) : Contents := fun router daemon =>
  (read (savedPath folder router daemon)).toOption.getD ""

theorem read_eq_stored {read : Files.Reader} {folder router : String} {daemon : Daemon}
    (readable : ∃ text, read (savedPath folder router daemon) = .ok text) :
    read (savedPath folder router daemon) = .ok (stored read folder router daemon) := by
  obtain ⟨text, found⟩ := readable
  rw [stored, found]
  rfl

theorem readSources_of_unreadable {read : Files.Reader} {folder router : String}
    {passed rest : List (Daemon × List Kind)} {source : Daemon × List Kind}
    {cause : Files.ReadError}
    (readable : ∀ before ∈ passed, ∃ text, read (savedPath folder router before.1) = .ok text)
    (fails : read (savedPath folder router source.1) = .error cause) :
    (readSources read folder router (passed ++ source :: rest)).1 =
      .error ⟨savedPath folder router source.1, cause⟩ := by
  induction passed with
  | nil => simp only [List.nil_append, readSources, fails]
  | cons before passed ih =>
    have behind := ih fun other isPassed => readable other (.tail _ isPassed)
    obtain ⟨text, found⟩ := readable before (.head _)
    simp only [List.cons_append, readSources, found]
    rw [behind]
    rfl

theorem FirstUnreadable.readRouter {read : Files.Reader} {folder : String} {scope : Scope}
    {routers earlier : List String} {error : LoadError} {router : String}
    (isFirst : FirstUnreadable read folder scope routers error earlier router) :
    (readRouter read folder scope router).1 = .error error := by
  obtain ⟨passed, source, rest, isSplit, isPath, isError, readable⟩ := isFirst.first
  rw [isPath] at isError
  rw [Replay.readRouter, isSplit, readSources_of_unreadable readable isError, ← isPath]

/-- The routers in front of the first file that cannot be read are replayed, and no other. -/
theorem routersPlan_of_firstUnreadable (settings : Settings) {read : Files.Reader}
    {folder : String} {scope : Scope} {routers earlier : List String} {error : LoadError}
    {router : String} (isFirst : FirstUnreadable read folder scope routers error earlier router) :
    routersPlan settings read folder scope routers =
        ⟨(routersPlan settings read folder scope earlier).orders, .error error⟩ ∧
      (routersPlan settings read folder scope earlier).result = .ok () := by
  obtain ⟨later, rfl⟩ := isFirst.position
  have succeed : ∀ plan ∈ earlier.map (routerPlan settings read folder scope),
      plan.result = .ok () := by
    intro plan isPlan
    obtain ⟨other, isEarlier, rfl⟩ := List.mem_map.mp isPlan
    rw [routerPlan_of_readable settings fun source isSource =>
      read_eq_stored (isFirst.earlier_readable other isEarlier source isSource)]
  have fails : routerPlan settings read folder scope router = ⟨[], .error error⟩ := by
    rw [routerPlan, isFirst.readRouter]
  rw [routersPlan, routersPlan, List.map_append, List.map_cons,
    sequence_of_failure succeed (by rw [fails]), sequence_of_ok succeed, fails, List.append_nil]
  exact ⟨rfl, rfl⟩

theorem exists_unreadable_of_error {settings : Settings} {read : Files.Reader} {folder : String}
    {scope : Scope} {routers : List String} {error : LoadError}
    (fails : (routersPlan settings read folder scope routers).result = .error error) :
    ∃ router ∈ routers, ∃ source ∈ scope.sources, ∃ cause,
      read (savedPath folder router source.1) = .error cause := by
  refine Classical.byContradiction fun none => ?_
  -- The stored texts would then be all that is read, and the plan for them does not fail.
  have readable : ∀ router ∈ routers, ∀ source ∈ scope.sources,
      read (savedPath folder router source.1) = .ok (stored read folder router source.1) := by
    intro router isRouter source isSource
    refine read_eq_stored (readable_of_not_unreadable fun isUnreadable => ?_)
    exact none ⟨router, isRouter, source, isSource, isUnreadable⟩
  rw [(routersPlan_of_readable settings readable).1] at fails
  cases fails

theorem routersPlan_error_iff {settings : Settings} {read : Files.Reader} {folder : String}
    {scope : Scope} {routers : List String} {error : LoadError} :
    (routersPlan settings read folder scope routers).result = .error error ↔
      ∃ earlier router, FirstUnreadable read folder scope routers error earlier router := by
  constructor
  · intro fails
    obtain ⟨found, earlier, router, isFirst⟩ :=
      exists_firstUnreadable (exists_unreadable_of_error fails)
    rw [(routersPlan_of_firstUnreadable settings isFirst).1] at fails
    cases fails
    exact ⟨earlier, router, isFirst⟩
  · rintro ⟨earlier, router, isFirst⟩
    rw [(routersPlan_of_firstUnreadable settings isFirst).1]

/-! ## The run -/

variable {State : Type}

/-- A router that cannot be read hides all that stand behind it. -/
theorem replayAll_of_unreadable (executor : Executor State) (settings : Settings)
    {read : Files.Reader} {folder : String} {scope : Scope} {router : String} {error : LoadError}
    (fails : (readRouter read folder scope router).1 = .error error)
    (earlier later : List String) (progress : Progress State) :
    replayAll executor settings read folder scope (earlier ++ router :: later) progress =
      replayAll executor settings read folder scope (earlier ++ [router]) progress := by
  induction earlier generalizing progress with
  | nil =>
    rw [List.nil_append, List.nil_append, replayAll, replayAll]
    cases found : readRouter read folder scope router with
    | mk content log =>
      rw [found] at fails
      dsimp only at fails ⊢
      rw [fails]
  | cons other earlier ih =>
    rw [List.cons_append, List.cons_append, replayAll, replayAll]
    cases readRouter read folder scope other with
    | mk content log =>
      cases content with
      | error _ => rfl
      | ok directives => simp only [ih]

/-- A run that is cut short takes no notice of the routers behind the first file that cannot be read
and of their files. -/
theorem replayRouters_of_firstUnreadable (executor : Executor State) {topology : Topology}
    {read other : Files.Reader} {folder : String} {scope : Scope} {error : LoadError}
    {earlier : List String} {router : String}
    (isFirst : FirstUnreadable read folder scope topology.routers error earlier router)
    (same : ∀ name ∈ earlier ++ [router], ∀ source ∈ scope.sources,
      read (savedPath folder name source.1) = other (savedPath folder name source.1))
    (others : List String) (progress : Progress State) :
    replayRouters executor { topology with routers := earlier ++ router :: others } other folder
        scope progress =
      replayRouters executor topology read folder scope progress := by
  obtain ⟨later, isSplit⟩ := isFirst.position
  have fails := isFirst.readRouter
  have failsToo : (readRouter other folder scope router).1 = .error error := by
    rw [readRouter, ← readSources_congr (same router (by simp))]
    exact fails
  rw [replayRouters, replayRouters, isSplit]
  dsimp only
  -- Both runs end at `router`, so both can be cut there before their files are compared.
  rw [replayAll_of_unreadable executor topology.settings failsToo earlier others,
    replayAll_of_unreadable executor topology.settings fails earlier later]
  exact (replayAll_congr executor topology.settings same progress).symm

/-- A replay fails exactly if a required file cannot be read, and its error names the first such
file, in the order of the routers and of their daemons. It leaves then what a successful replay
leaves that ends in front of the router with this file: the calls, the executor's state and the
summary. The later routers and their files make no difference. -/
theorem replayRouters_abort (executor : Executor State) (topology : Topology)
    (read : Files.Reader) (folder : String) (scope : Scope) (lab : State) (calls : List Call)
    (summary : Summary) :
    let start : Progress (State × List Call) := ⟨(lab, calls), summary⟩
    let turn := replayRouters executor.recording topology read folder scope start
    ((∃ error, turn.answer = .error error) ↔
      ∃ router ∈ topology.routers, ∃ source ∈ scope.sources, ∃ cause,
        read (savedPath folder router source.1) = .error cause) ∧
    (∀ error, turn.answer = .error error ↔
      ∃ earlier router,
        FirstUnreadable read folder scope topology.routers error earlier router) ∧
    ∀ error earlier router,
      FirstUnreadable read folder scope topology.routers error earlier router →
      let shorter := replayRouters executor.recording { topology with routers := earlier } read
        folder scope start
      shorter.answer = .ok () ∧ turn.state = shorter.state ∧
      ∀ (others : List String) (other : Files.Reader),
        (∀ name ∈ earlier ++ [router], ∀ source ∈ scope.sources,
          read (savedPath folder name source.1) = other (savedPath folder name source.1)) →
        replayRouters executor.recording
          { topology with routers := earlier ++ router :: others } other folder scope start =
            turn := by
  intro start turn
  have performed := replayRouters_eq_plan executor.recording topology read folder scope start
  refine ⟨⟨?_, ?_⟩, fun error => ?_, fun error earlier router isFirst => ?_⟩
  · rintro ⟨error, isError⟩
    rw [performed.1] at isError
    exact exists_unreadable_of_error isError
  · intro unreadable
    obtain ⟨error, first⟩ := exists_firstUnreadable unreadable
    exact ⟨error, performed.1.trans (routersPlan_error_iff.mpr first)⟩
  · rw [performed.1]
    exact routersPlan_error_iff
  · have planned := routersPlan_of_firstUnreadable topology.settings isFirst
    have shorter := replayRouters_eq_plan executor.recording { topology with routers := earlier }
      read folder scope start
    dsimp only at shorter
    refine ⟨?_, ?_, fun others other same => ?_⟩
    · rw [shorter.1, planned.2]
    · rw [performed.2, shorter.2, planned.1]
    · exact replayRouters_of_firstUnreadable executor.recording isFirst same others start

/-- The second router has one file that can be read, and still nothing is replayed on it. -/
theorem replayRouters_abort_sampleTree :
    let start : Progress (Script × List Call) := ⟨({}, []), {}⟩
    let turn := replayRouters rehearsal.recording
      { sampleLab with routers := ["SEAT", "KANS", "LOSA"] } sampleTree.read "saved"
      .singleSystem start
    let shorter := replayRouters rehearsal.recording { sampleLab with routers := ["SEAT"] }
      sampleTree.read "saved" .singleSystem start
    turn.answer = .error ⟨"saved/KANS/ospfd.conf.sav", .notFound⟩ ∧
      shorter.answer = .ok () ∧ turn.state = shorter.state := by
  have earlier : ∀ source ∈ Scope.singleSystem.sources,
      sampleTree.read (savedPath "saved" "SEAT" source.1) =
        .ok (sampleContents "SEAT" source.1) := by
    decide +kernel
  have passed : sampleTree.read (savedPath "saved" "KANS" .zebra) =
      .ok (sampleContents "KANS" .zebra) := by
    decide +kernel
  have isFirst : FirstUnreadable sampleTree.read "saved" .singleSystem ["SEAT", "KANS", "LOSA"]
      ⟨"saved/KANS/ospfd.conf.sav", .notFound⟩ ["SEAT"] "KANS" := by
    refine ⟨⟨["LOSA"], rfl⟩, ?_, [(.zebra, [.interface])], (.ospfd, [.interface, .ospf]), [], rfl,
      by decide +kernel, by decide +kernel, ?_⟩
    · intro other isEarlier source isSource
      rw [List.mem_singleton] at isEarlier
      subst isEarlier
      exact ⟨_, earlier source isSource⟩
    · intro before isPassed
      rw [List.mem_singleton] at isPassed
      subst isPassed
      exact ⟨_, passed⟩
  have aborted := replayRouters_abort rehearsal
    { sampleLab with routers := ["SEAT", "KANS", "LOSA"] } sampleTree.read "saved" .singleSystem
    {} [] {}
  have rest := aborted.2.2 _ _ _ isFirst
  exact ⟨(aborted.2.1 _).mpr ⟨_, _, isFirst⟩, rest.1, rest.2.1⟩

end Testbed.Replay
