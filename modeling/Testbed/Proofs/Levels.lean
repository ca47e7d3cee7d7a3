import Mathlib.Data.List.Induction
import Testbed.Proofs.Content

/-!
# Levels of the router shell

A router shell is in configuration mode or inside a block. The opening of an interface, of OSPF or
of BGP enters a block, whatever block the shell was in before, and the word `exit` goes one level
down. A replay should leave every block that it enters. Whether it does depends on the captured
lines, since a section takes every line up to its terminator: a captured `exit` leaves the block too
early, and a block that a static route has taken with it is never left.

Results:
1. `levelBehind_eq_one_iff`: the shell is inside a block if the last block that was entered is not
   left.
2. `balanced_iff`: when texts that start in configuration mode end there and never fall below it.
3. `returnsToTop_iff`: several sections return to configuration mode if each of them does.
4. `returnsToTop_sections`: when the sections of a saved configuration do.
-/

namespace Testbed.Text

theorem trim_prefix (text : List Char) : trim text <+: text.dropWhile isBlank := by
  have isSuffix := List.dropWhile_suffix (l := (text.dropWhile isBlank).reverse) isBlank
  rw [← List.reverse_prefix, List.reverse_reverse] at isSuffix
  exact isSuffix

end Testbed.Text

namespace Testbed.Saved

open Testbed.Text Testbed.Vtysh

/-! ## Definitions -/

def entersBlock (text : String) : Bool :=
  [Kind.interface, .ospf, .bgp].any fun kind => kind.opens text

def leavesBlock (text : String) : Bool := trim text.toList == "exit".toList

/-- The level behind a text. Configuration mode is level 0 and the inside of a block level 1. -/
def nextLevel (level : Int) (text : String) : Int :=
  if entersBlock text then 1 else if leavesBlock text then level - 1 else level

/-- The level behind some texts, of which the first finds the shell in configuration mode. -/
def levelBehind (texts : List String) : Int := texts.foldl nextLevel 0

/-- Whether a block has been entered and nothing behind its opening leaves it. -/
def LeavesOpen (texts : List String) : Prop :=
  ∃ before opening behind, texts = before ++ opening :: behind ∧ entersBlock opening = true ∧
    ∀ text ∈ behind, leavesBlock text = false

/-- Every text that leaves a block finds one open, and no block is open at the end. -/
structure Balanced (texts : List String) : Prop where
  opened : ∀ front text back, texts = front ++ text :: back → leavesBlock text = true →
    LeavesOpen front
  closed : ¬ LeavesOpen texts

def textsOf (parts : List Section) : List String :=
  (parts.flatMap Section.directives).map Directive.text

/-- The shell never falls below configuration mode, and every section starts and ends there. -/
structure ReturnsToTop (parts : List Section) : Prop where
  never_below : ∀ fed, fed <+: textsOf parts → 0 ≤ levelBehind fed
  before_section : ∀ earlier part later, parts = earlier ++ part :: later →
    levelBehind (textsOf earlier) = 0
  at_end : levelBehind (textsOf parts) = 0

/-! ## One text -/

theorem not_leavesBlock_of_entersBlock {text : String} (enters : entersBlock text = true) :
    leavesBlock text = false := by
  obtain ⟨kind, isBlock, opened⟩ := List.any_eq_true.mp enters
  obtain ⟨rest, isText, -⟩ := Kind.opens_iff.mp opened
  have first : ∃ c tail, isBlank c = false ∧ c ≠ 'e' ∧ text.toList = c :: tail := by
    rw [isText]
    cases kind with
    | interface => exact ⟨'i', "nterface".toList ++ rest, by decide, by decide, rfl⟩
    | staticRoute => exact absurd isBlock (by decide)
    | ospf => exact ⟨'r', "outer ospf".toList ++ rest, by decide, by decide, rfl⟩
    | bgp => exact ⟨'r', "outer bgp".toList ++ rest, by decide, by decide, rfl⟩
  obtain ⟨c, tail, notBlank, notFirst, isCons⟩ := first
  rw [leavesBlock, beq_eq_false_iff_ne]
  intro isExit
  have isPrefix := trim_prefix text.toList
  rw [isExit, isCons, List.dropWhile_cons_of_neg (by simp [notBlank])] at isPrefix
  obtain ⟨behind, whole⟩ := isPrefix
  exact notFirst (List.cons.inj whole).1.symm

theorem nextLevel_of_enters {text : String} (enters : entersBlock text = true) (level : Int) :
    nextLevel level text = 1 :=
  if_pos enters

theorem nextLevel_of_leaves {text : String} (leaves : leavesBlock text = true) (level : Int) :
    nextLevel level text = level - 1 := by
  have other : entersBlock text = false := by
    cases enters : entersBlock text with
    | false => rfl
    | true => rw [not_leavesBlock_of_entersBlock enters] at leaves; cases leaves
  rw [nextLevel, other, leaves]
  rfl

theorem nextLevel_of_stays {text : String} (enters : entersBlock text = false)
    (leaves : leavesBlock text = false) (level : Int) : nextLevel level text = level := by
  rw [nextLevel, enters, leaves]
  rfl

/-! ## Some texts -/

theorem levelBehind_concat (texts : List String) (text : String) :
    levelBehind (texts ++ [text]) = nextLevel (levelBehind texts) text :=
  List.foldl_append

/-- Texts behind others that end in configuration mode are read as if they came first. -/
theorem levelBehind_append_of_top {earlier : List String} (top : levelBehind earlier = 0)
    (later : List String) : levelBehind (earlier ++ later) = levelBehind later := by
  rw [levelBehind, List.foldl_append, show earlier.foldl nextLevel 0 = 0 from top]
  rfl

/-- Blocks do not nest. -/
theorem levelBehind_le_one (texts : List String) : levelBehind texts ≤ 1 := by
  induction texts using List.reverseRecOn with
  | nil => exact Int.zero_le_ofNat 1
  | append_singleton earlier text ih =>
    rw [levelBehind_concat, nextLevel]
    split
    · exact Int.le_refl 1
    · split
      · omega
      · exact ih

theorem not_leavesOpen_nil : ¬ LeavesOpen [] := by
  rintro ⟨before, opening, behind, isNil, -⟩
  exact List.append_ne_nil_of_right_ne_nil before (List.cons_ne_nil opening behind) isNil.symm

theorem leavesOpen_concat_of_enters (earlier : List String) {text : String}
    (enters : entersBlock text = true) : LeavesOpen (earlier ++ [text]) :=
  ⟨earlier, text, [], rfl, enters, fun _ isNone => absurd isNone List.not_mem_nil⟩

/-- A text that enters no block keeps a block open if it does not leave it. -/
theorem leavesOpen_concat_iff {earlier : List String} {text : String}
    (enters : entersBlock text = false) :
    LeavesOpen (earlier ++ [text]) ↔ LeavesOpen earlier ∧ leavesBlock text = false := by
  constructor
  · rintro ⟨before, opening, behind, whole, opens, stays⟩
    cases behind using List.reverseRecOn with
    | nil =>
      obtain ⟨-, isLast⟩ := List.append_inj' whole rfl
      cases isLast
      rw [opens] at enters
      cases enters
    | append_singleton behind last =>
      rw [← List.cons_append, ← List.append_assoc] at whole
      obtain ⟨isEarlier, isLast⟩ := List.append_inj' whole rfl
      cases isLast
      exact ⟨⟨before, opening, behind, isEarlier, opens, fun text isBehind =>
          stays text (List.mem_append_left _ isBehind)⟩,
        stays text (List.mem_append_right _ (.head _))⟩
  · rintro ⟨⟨before, opening, behind, rfl, opens, stays⟩, last⟩
    refine ⟨before, opening, behind ++ [text], List.append_assoc .., opens, ?_⟩
    intro other isBehind
    rcases List.mem_append.mp isBehind with inside | isLast
    · exact stays other inside
    · cases List.mem_singleton.mp isLast
      exact last

/-- The shell is inside a block exactly if a block is left open, however far it fell before. -/
theorem levelBehind_eq_one_iff (texts : List String) :
    levelBehind texts = 1 ↔ LeavesOpen texts := by
  induction texts using List.reverseRecOn with
  | nil => exact iff_of_false (by decide) not_leavesOpen_nil
  | append_singleton earlier text ih =>
    rw [levelBehind_concat]
    cases enters : entersBlock text with
    | true =>
      exact iff_of_true (nextLevel_of_enters enters _) (leavesOpen_concat_of_enters earlier enters)
    | false =>
      rw [leavesOpen_concat_iff enters, ← ih]
      cases leaves : leavesBlock text with
      | true =>
        have atMost := levelBehind_le_one earlier
        rw [nextLevel_of_leaves leaves]
        exact iff_of_false (by omega) fun both => Bool.noConfusion both.2
      | false =>
        rw [nextLevel_of_stays enters leaves]
        exact ⟨fun inside => ⟨inside, rfl⟩, And.left⟩

/-- The shell never falls below configuration mode if every text that leaves a block finds one. -/
theorem never_below_iff (texts : List String) :
    (∀ fed, fed <+: texts → 0 ≤ levelBehind fed) ↔
      ∀ front text back, texts = front ++ text :: back → leavesBlock text = true →
        LeavesOpen front := by
  constructor
  · rintro never front text back rfl leaves
    have here := never (front ++ [text]) ⟨back, List.append_assoc ..⟩
    rw [levelBehind_concat, nextLevel_of_leaves leaves] at here
    have atMost := levelBehind_le_one front
    exact (levelBehind_eq_one_iff front).mp (by omega)
  · intro opened fed isPrefix
    induction fed using List.reverseRecOn with
    | nil => exact Int.le_refl 0
    | append_singleton front text ih =>
      obtain ⟨back, rfl⟩ := isPrefix
      have before := ih ⟨[text] ++ back, (List.append_assoc ..).symm⟩
      rw [levelBehind_concat]
      cases enters : entersBlock text with
      | true => rw [nextLevel_of_enters enters]; decide
      | false =>
        cases leaves : leavesBlock text with
        | true =>
          have isOpen := opened front text back (List.append_assoc ..) leaves
          rw [nextLevel_of_leaves leaves, (levelBehind_eq_one_iff front).mpr isOpen]
          decide
        | false => rwa [nextLevel_of_stays enters leaves]

theorem balanced_iff (texts : List String) :
    Balanced texts ↔ (∀ fed, fed <+: texts → 0 ≤ levelBehind fed) ∧ levelBehind texts = 0 := by
  rw [never_below_iff]
  constructor
  · rintro ⟨opened, closed⟩
    have notBelow := (never_below_iff texts).mpr opened texts (List.prefix_refl texts)
    have atMost := levelBehind_le_one texts
    have notInside := mt (levelBehind_eq_one_iff texts).mp closed
    exact ⟨opened, by omega⟩
  · rintro ⟨opened, top⟩
    refine ⟨opened, fun isOpen => ?_⟩
    rw [(levelBehind_eq_one_iff texts).mpr isOpen] at top
    exact absurd top (by decide)

/-! ## Several sections -/

theorem textsOf_cons (part : Section) (later : List Section) :
    textsOf (part :: later) = part.directives.map Directive.text ++ textsOf later := by
  rw [textsOf, List.flatMap_cons, List.map_append]
  rfl

theorem returnsToTop_nil : ReturnsToTop [] where
  never_below fed isPrefix := by
    rw [List.prefix_nil.mp isPrefix]
    exact Int.le_refl 0
  before_section earlier part later isNil :=
    absurd isNil.symm (List.append_ne_nil_of_right_ne_nil earlier (List.cons_ne_nil part later))
  at_end := rfl

/-- The first section returns to configuration mode, and so the others start there. -/
theorem returnsToTop_cons (part : Section) (later : List Section) :
    ReturnsToTop (part :: later) ↔
      Balanced (part.directives.map Directive.text) ∧ ReturnsToTop later := by
  rw [balanced_iff]
  constructor
  · rintro ⟨never, before, atEnd⟩
    rw [textsOf_cons] at never atEnd
    have top : levelBehind (part.directives.map Directive.text) = 0 := by
      cases later with
      | nil => rwa [show textsOf [] = [] from rfl, List.append_nil] at atEnd
      | cons second others =>
        have second := before [part] second others rfl
        rwa [textsOf_cons, show textsOf [] = [] from rfl, List.append_nil] at second
    refine ⟨⟨fun fed isPrefix => never fed (isPrefix.trans (List.prefix_append _ _)), top⟩,
      ?_, ?_, ?_⟩
    · rintro fed ⟨back, whole⟩
      have here := never (part.directives.map Directive.text ++ fed)
        ⟨back, by rw [List.append_assoc, whole]⟩
      rwa [levelBehind_append_of_top top] at here
    · rintro earlier other others rfl
      have here := before (part :: earlier) other others rfl
      rwa [textsOf_cons, levelBehind_append_of_top top] at here
    · rwa [levelBehind_append_of_top top] at atEnd
  · rintro ⟨⟨never, top⟩, neverLater, before, atEnd⟩
    refine ⟨?_, ?_, ?_⟩
    · rintro fed ⟨back, whole⟩
      rw [textsOf_cons] at whole
      rcases List.append_eq_append_iff.mp whole with ⟨inside, isFirst, -⟩ | ⟨inside, isFed, isLater⟩
      · exact never fed ⟨inside, isFirst.symm⟩
      · rw [isFed, levelBehind_append_of_top top]
        exact neverLater inside ⟨back, isLater.symm⟩
    · intro earlier other others split
      cases earlier with
      | nil => rfl
      | cons first earlier =>
        obtain ⟨isFirst, isLater⟩ := List.cons.inj split
        rw [← isFirst, textsOf_cons, levelBehind_append_of_top top]
        exact before earlier other others isLater
    · rw [textsOf_cons, levelBehind_append_of_top top]
      exact atEnd

/-- Sections return to configuration mode exactly if each of them is balanced on its own. -/
theorem returnsToTop_iff (parts : List Section) :
    ReturnsToTop parts ↔ ∀ part ∈ parts, Balanced (part.directives.map Directive.text) := by
  induction parts with
  | nil => exact iff_of_true returnsToTop_nil fun _ isNone => absurd isNone List.not_mem_nil
  | cons part later ih => rw [returnsToTop_cons, ih, List.forall_mem_cons]

/-! ## Sections of a saved configuration -/

theorem opens_of_mem_sections {kinds : List Kind} {text : String} {part : Section}
    (isPart : part ∈ sections kinds text) : part.kind.opens part.opening = true := by
  rw [sections, sectionsOf_eq_blockSections, blockSections] at isPart
  have isFirst : Kind.ofLine? kinds part.opening = some part.kind := by
    rcases List.mem_append.mp isPart with inClosed | inLast
    · obtain ⟨block, -, found⟩ := List.mem_filterMap.mp inClosed
      exact (of_blockSection? found).1
    · obtain ⟨block, -, found⟩ := List.mem_filterMap.mp inLast
      exact (of_blockSection? found).1
  exact (Kind.ofLine?_eq_some_iff.mp isFirst).2

theorem Section.texts_of_terminated {part : Section} (terminated : part.terminated = true) :
    part.directives.map Directive.text =
      part.lines ++ if part.kind = .staticRoute then [] else ["exit"] := by
  rw [texts_directives, terminated]
  cases part.kind <;> rfl

theorem opened_of_stays {texts : List String} (stays : ∀ text ∈ texts, leavesBlock text = false)
    (front : List String) (text : String) (back : List String)
    (isSplit : texts = front ++ text :: back) (leaves : leavesBlock text = true) :
    LeavesOpen front := by
  rw [isSplit] at stays
  rw [stays text (List.mem_append_right _ (.head _))] at leaves
  cases leaves

/-- A block whose lines leave no block is left by the `exit` behind it. -/
theorem balanced_block {opening : String} {body : List String}
    (enters : entersBlock opening = true)
    (stays : ∀ line ∈ opening :: body, leavesBlock line = false) :
    Balanced (opening :: body ++ ["exit"]) := by
  have inside : levelBehind (opening :: body) = 1 :=
    (levelBehind_eq_one_iff _).mpr
      ⟨[], opening, body, rfl, enters, fun line isBody => stays line (.tail _ isBody)⟩
  have top : levelBehind (opening :: body ++ ["exit"]) = 0 := by
    rw [levelBehind_concat, inside]
    rfl
  rw [balanced_iff]
  refine ⟨fun fed isPrefix => ?_, top⟩
  rcases List.prefix_concat_iff.mp isPrefix with rfl | isBefore
  · exact Int.le_of_eq top.symm
  · exact (never_below_iff _).mpr (opened_of_stays stays) fed isBefore

/-- Texts of which none leaves a block are balanced if none enters one either. -/
theorem balanced_iff_of_stays {texts : List String}
    (stays : ∀ text ∈ texts, leavesBlock text = false) :
    Balanced texts ↔ ∀ text ∈ texts, entersBlock text = false := by
  constructor
  · intro balanced text isText
    cases enters : entersBlock text with
    | false => rfl
    | true =>
      obtain ⟨before, behind, rfl⟩ := List.append_of_mem isText
      refine absurd ⟨before, text, behind, rfl, enters, fun other isBehind => ?_⟩ balanced.closed
      exact stays other (List.mem_append_right _ (.tail _ isBehind))
  · intro none
    refine ⟨opened_of_stays stays, ?_⟩
    rintro ⟨before, opening, behind, rfl, enters, -⟩
    rw [none opening (List.mem_append_right _ (.head _))] at enters
    cases enters

/-- If no captured line leaves a block, only a static route can be unbalanced: one that holds the
opening of a block. -/
theorem Section.balanced_lines_iff {part : Section}
    (opened : part.kind.opens part.opening = true)
    (stays : ∀ line ∈ part.lines, leavesBlock line = false) :
    Balanced (part.lines ++ if part.kind = .staticRoute then [] else ["exit"]) ↔
      (part.kind = .staticRoute → ∀ line ∈ part.lines, entersBlock line = false) := by
  by_cases isRoute : part.kind = .staticRoute
  · rw [if_pos isRoute, List.append_nil, balanced_iff_of_stays stays]
    exact ⟨fun none _ => none, fun none => none isRoute⟩
  · have enters : entersBlock part.opening = true := by
      refine List.any_eq_true.mpr ⟨part.kind, ?_, opened⟩
      cases isKind : part.kind with
      | staticRoute => exact absurd isKind isRoute
      | interface | ospf | bgp => decide
    rw [if_neg isRoute]
    exact iff_of_true (balanced_block enters stays) fun isSame => absurd isSame isRoute

/-- A replay of terminated sections returns to configuration mode exactly if every section is
balanced on its own, with the `exit` that follows it unless it is a static route. If no captured
line leaves a block, this means that no static route has taken the opening of a block with it. -/
theorem returnsToTop_sections (kinds : List Kind) (text : String)
    (terminated : ∀ part ∈ sections kinds text, part.terminated = true) :
    let parts := sections kinds text
    textsOf parts = (directives kinds text).map Directive.text ∧
    (ReturnsToTop parts ↔ ∀ part ∈ parts,
      Balanced (part.lines ++ if part.kind = .staticRoute then [] else ["exit"])) ∧
    ((∀ part ∈ parts, ∀ line ∈ part.lines, leavesBlock line = false) →
      (ReturnsToTop parts ↔ ∀ part ∈ parts, part.kind = .staticRoute →
        ∀ line ∈ part.lines, entersBlock line = false)) := by
  have whole : ReturnsToTop (sections kinds text) ↔ ∀ part ∈ sections kinds text,
      Balanced (part.lines ++ if part.kind = .staticRoute then [] else ["exit"]) := by
    rw [returnsToTop_iff]
    refine forall₂_congr fun part isPart => ?_
    rw [Section.texts_of_terminated (terminated part isPart)]
  refine ⟨rfl, whole, fun stays => whole.trans ?_⟩
  exact forall₂_congr fun part isPart =>
    Section.balanced_lines_iff (opens_of_mem_sections isPart) (stays part isPart)

/-- An OSPF section that takes an interface with it. -/
def blockOverBlock : String := "router ospf\n network 4.0.0.0/8 area 0\ninterface seat\n!\n"

/-- Both blocks are left together. -/
theorem returnsToTop_sections_blockOverBlock :
    (∀ part ∈ sections [.interface, .ospf] blockOverBlock, part.terminated = true) ∧
    ReturnsToTop (sections [.interface, .ospf] blockOverBlock) := by
  have terminated : ∀ part ∈ sections [.interface, .ospf] blockOverBlock,
      part.terminated = true := by
    decide +kernel
  have general := returnsToTop_sections [.interface, .ospf] blockOverBlock terminated
  refine ⟨terminated, (general.2.2 ?_).mpr ?_⟩
  · decide +kernel
  · decide +kernel

/-- A static route that takes an interface with it. -/
def routeOverBlock : String := "ip route 6.0.0.0/16 10.0.0.2\ninterface seat\n!\n"

/-- An interface with an `exit` of its own. -/
def blockWithExit : String := "interface seat\n exit\n!\n"

/-- Not every replay of terminated sections returns to configuration mode: a static route leaves the
shell inside of the block that it took with it, and behind an `exit` of its own a block is left
twice. -/
theorem not_returnsToTop :
    (∀ part ∈ sections [.interface, .staticRoute] routeOverBlock, part.terminated = true) ∧
    levelBehind (textsOf (sections [.interface, .staticRoute] routeOverBlock)) = 1 ∧
    ¬ ReturnsToTop (sections [.interface, .staticRoute] routeOverBlock) ∧
    (∀ part ∈ sections [.interface] blockWithExit, part.terminated = true) ∧
    levelBehind (textsOf (sections [.interface] blockWithExit)) = -1 ∧
    ¬ ReturnsToTop (sections [.interface] blockWithExit) := by
  have inside : levelBehind (textsOf (sections [.interface, .staticRoute] routeOverBlock)) = 1 := by
    decide +kernel
  have below : levelBehind (textsOf (sections [.interface] blockWithExit)) = -1 := by
    decide +kernel
  refine ⟨by decide +kernel, inside, fun returns => ?_, by decide +kernel, below, fun returns => ?_⟩
  · exact absurd (inside.symm.trans returns.at_end) (by decide)
  · exact absurd (below.symm.trans returns.at_end) (by decide)

end Testbed.Saved
