import Mathlib.Data.List.Pairwise
import Mathlib.Logic.ExistsUnique
import Testbed.Proofs.Blocks

/-!
# Which lines are captured

A line is captured or not by what stands in front of it in its block: it is captured exactly if it
is no terminator and an opening line stands at or before it with no terminator between them. So
nothing has to be known of what stands before the nearest terminator, and whether some of the kinds
or the others capture a line can be asked apart.

Results:
1. `first?_spec`, `Place.isNext`: what the scan returns, as a statement about the lines.
2. `mem_places_iff`: the positions of all sections at or after a position.
3. `places_pairwise`: sections stand one behind the other.
4. `captured_iff`: the captured positions of all lines, with those for more kinds.
-/

namespace Testbed.Saved

/-! ## Definitions -/

/-- A section, and the position of its first line. -/
structure Place where
  start : Nat
  part : Section
deriving DecidableEq, Repr

namespace Place

def stop (place : Place) : Nat := place.start + place.part.lines.length

def positions (place : Place) : List Nat := List.range' place.start place.part.lines.length

end Place

/-- The sections at or after a position, each found behind the one before it. How many lines a
section takes tells where it starts. -/
def places (kinds : List Kind) (lines : List String) (position : Nat) : List Place :=
  match _found : next kinds lines position with
  | (none, _) => []
  | (some part, after) => ⟨after - part.extent, part⟩ :: places kinds lines after
termination_by lines.length - position
decreasing_by
  have atMost := next_position_le kinds lines position
  have further : position < (next kinds lines position).2 := lt_next_position (by rw [_found])
  rw [_found] at atMost further
  dsimp only at atMost further
  omega

def capturedPositions (kinds : List Kind) (lines : List String) : List Nat :=
  (places kinds lines 0).flatMap Place.positions

/-- No line from one position to another closes a section. -/
def Uninterrupted (lines : List String) (first last : Nat) : Prop :=
  ∀ i, first ≤ i → i ≤ last → ∃ line, lines[i]? = some line ∧ isTerminator line = false

/-- A line that opens a section stands at or after a position and at or before a line, and nothing
from there to this line closes it. -/
def ReachedFrom (kinds : List Kind) (lines : List String) (position i : Nat) : Prop :=
  ∃ j, position ≤ j ∧ j ≤ i ∧
    (∃ opening, lines[j]? = some opening ∧ isOpening kinds opening = true) ∧
    Uninterrupted lines j i

/-- What a scan has found: the lines that it passed over, a section, and the lines behind it. -/
structure Found (kinds : List Kind) (passed : List String) (part : Section)
    (behind : List String) : Prop where
  passed_over : ∀ line ∈ passed, isOpening kinds line = false
  opens : Kind.ofLine? kinds part.opening = some part.kind
  unclosed : ∀ line ∈ part.lines, isTerminator line = false
  terminated_eq : part.terminated = !behind.isEmpty
  closed : ∀ line, behind.head? = some line → isTerminator line = true

/-- The next section at or after a position has a place and ends before another position. -/
structure Place.IsNext (kinds : List Kind) (lines : List String) (position : Nat) (place : Place)
    (after : Nat) : Prop where
  position_le : position ≤ place.start
  after_eq : after = place.start + place.part.extent
  passed_over : ∀ i, position ≤ i → i < place.start → ∀ line, lines[i]? = some line →
    isOpening kinds line = false
  opens : ∃ line, lines[place.start]? = some line ∧ isOpening kinds line = true
  own : ∀ i, place.start ≤ i → i < place.stop → lines[i]? = place.part.lines[i - place.start]?
  unclosed : ∀ i, place.start ≤ i → i < place.stop →
    ∃ line, lines[i]? = some line ∧ isTerminator line = false
  closed : ∀ line, lines[place.stop]? = some line →
    isTerminator line = true ∧ after = place.stop + 1

/-! ## One section -/

/-- A section takes the lines from the first one that opens one to the next terminator. -/
theorem first?_spec {kinds : List Kind} {lines : List String} {skipped : Nat} {part : Section}
    (found : first? kinds lines = some (skipped, part)) :
    ∃ passed behind, lines = passed ++ (part.lines ++ behind) ∧ passed.length = skipped ∧
      Found kinds passed part behind := by
  induction lines generalizing skipped part with
  | nil => cases found
  | cons line following ih =>
    simp only [first?] at found
    split at found
    · next kind isKind =>
      cases found
      have opened := (Kind.ofLine?_eq_some_iff.mp isKind).2
      refine ⟨[], following.dropWhile Section.continues, ?_, rfl, ?_⟩
      · simp [Section.opened, Section.lines]
      · refine ⟨by simp, isKind, ?_, rfl, fun terminator isHead => ?_⟩
        · intro own isOwn
          rcases List.mem_cons.mp isOwn with rfl | inBody
          · exact not_isTerminator_of_opens opened
          · simpa [Section.continues] using List.all_eq_true.mp List.all_takeWhile own inBody
        · have := List.head?_dropWhile_not Section.continues following
          rw [isHead] at this
          simpa [Section.continues] using this
    · next noKind =>
      obtain ⟨⟨before, part⟩, isFound, isSame⟩ := Option.map_eq_some_iff.mp found
      cases isSame
      obtain ⟨passed, behind, isLines, isLength, spec⟩ := ih isFound
      refine ⟨line :: passed, behind, ?_, ?_, { spec with passed_over := ?_ }⟩
      · rw [isLines, List.cons_append]
      · rw [List.length_cons, isLength]
      · intro other isOther
        rcases List.mem_cons.mp isOther with rfl | inPassed
        · exact not_isOpening_of_ofLine? noKind
        · exact spec.passed_over other inPassed

/-- What stands where, if the lines from a position on are three lists one behind the other. -/
theorem getElem?_of_drop_eq {lines passed own behind : List String} {position : Nat}
    (cut : lines.drop position = passed ++ (own ++ behind)) :
    (∀ n < passed.length, lines[position + n]? = passed[n]?) ∧
    (∀ n < own.length, lines[position + passed.length + n]? = own[n]?) ∧
    lines[position + passed.length + own.length]? = behind.head? := by
  have line_at (n : Nat) : lines[position + n]? = (passed ++ (own ++ behind))[n]? := by
    rw [← cut, List.getElem?_drop]
  refine ⟨fun n inside => ?_, fun n inside => ?_, ?_⟩
  · rw [line_at, List.getElem?_append_left inside]
  · rw [Nat.add_assoc, line_at, List.getElem?_append_right (Nat.le_add_right _ _),
      Nat.add_sub_cancel_left, List.getElem?_append_left inside]
  · rw [Nat.add_assoc, line_at, ← List.append_assoc, ← List.length_append,
      List.getElem?_append_right (Nat.le_refl _), Nat.sub_self, List.head?_eq_getElem?]

theorem Place.isNext {kinds : List Kind} {lines : List String} {position after : Nat}
    {part : Section} (found : next kinds lines position = (some part, after)) :
    IsNext kinds lines position ⟨after - part.extent, part⟩ after := by
  unfold next at found
  split at found
  · cases found
  · next skipped first isFirst =>
    cases found
    obtain ⟨passed, behind, isLines, rfl, spec⟩ := first?_spec isFirst
    obtain ⟨passed_at, own_at, behind_at⟩ := getElem?_of_drop_eq isLines
    rw [Nat.add_sub_cancel]
    refine ⟨Nat.le_add_right _ _, rfl, ?_, ?_, ?_, ?_, ?_⟩
    · intro i atLeast before line isLine
      obtain ⟨n, rfl⟩ := Nat.exists_eq_add_of_le atLeast
      rw [passed_at n (Nat.lt_of_add_lt_add_left before)] at isLine
      exact spec.passed_over line (List.mem_of_getElem? isLine)
    · exact ⟨part.opening, own_at 0 (Nat.succ_pos _), isOpening_of_ofLine? spec.opens⟩
    · intro i atLeast before
      obtain ⟨n, rfl⟩ := Nat.exists_eq_add_of_le atLeast
      rw [Nat.add_sub_cancel_left]
      exact own_at n (Nat.lt_of_add_lt_add_left before)
    · intro i atLeast before
      obtain ⟨n, rfl⟩ := Nat.exists_eq_add_of_le atLeast
      have inside : n < part.lines.length := Nat.lt_of_add_lt_add_left before
      exact ⟨part.lines[n], (own_at n inside).trans (List.getElem?_eq_getElem inside),
        spec.unclosed _ (List.getElem_mem inside)⟩
    · intro line isLine
      have isHead : behind.head? = some line := behind_at.symm.trans isLine
      have nonempty : behind.isEmpty = false := by
        cases behind with
        | nil => cases isHead
        | cons first rest => rfl
      refine ⟨spec.closed line isHead, ?_⟩
      rw [Section.extent, spec.terminated_eq, nonempty]
      rfl

theorem Place.IsNext.stop_le {kinds : List Kind} {lines : List String} {position after : Nat}
    {place : Place} (isNext : IsNext kinds lines position place after) : place.stop ≤ after := by
  rw [isNext.after_eq]
  exact Nat.add_le_add_left (Nat.le_add_right _ _) _

theorem Place.IsNext.le_after {kinds : List Kind} {lines : List String} {position after : Nat}
    {place : Place} (isNext : IsNext kinds lines position place after) : position ≤ after :=
  calc position ≤ place.start := isNext.position_le
    _ ≤ place.stop := Nat.le_add_right _ _
    _ ≤ after := isNext.stop_le

/-- Without a next section no line opens one. -/
theorem not_isOpening_of_next {kinds : List Kind} {lines : List String} {position : Nat}
    (absent : (next kinds lines position).1 = none) {i : Nat} (atLeast : position ≤ i)
    {line : String} (isLine : lines[i]? = some line) : isOpening kinds line = false := by
  have none_open := sectionsOf_eq_nil_iff.mp (sectionsFrom_of_none absent)
  refine Bool.eq_false_iff.mpr (List.any_eq_false.mp none_open line ?_)
  refine List.mem_of_getElem? (i := i - position) ?_
  rw [List.getElem?_drop, Nat.add_sub_cancel' atLeast, isLine]

/-- A line is reached from a position if it belongs to the next section, or if it is reached from
the position behind this section. -/
theorem Place.IsNext.reachedFrom_iff {kinds : List Kind} {lines : List String}
    {position after : Nat} {place : Place} (isNext : IsNext kinds lines position place after)
    (i : Nat) :
    ReachedFrom kinds lines position i ↔
      place.start ≤ i ∧ i < place.stop ∨ ReachedFrom kinds lines after i := by
  constructor
  · rintro ⟨j, atLeast, atMost, ⟨opening, isLine, opens⟩, clear⟩
    have fromStart : place.start ≤ j := by
      refine Nat.le_of_not_lt fun before => ?_
      rw [isNext.passed_over j atLeast before opening isLine] at opens
      cases opens
    by_cases within : i < place.stop
    · exact .inl ⟨Nat.le_trans fromStart atMost, within⟩
    · -- The section ends before `i`, so its terminator stands between `i` and everything in it.
      have behindStop : place.stop < j := by
        refine Nat.lt_of_not_le fun before => ?_
        obtain ⟨line, isStop, goesOn⟩ := clear place.stop before (Nat.le_of_not_lt within)
        rw [(isNext.closed line isStop).1] at goesOn
        cases goesOn
      have inLines : place.stop < lines.length :=
        Nat.lt_trans behindStop (List.getElem?_eq_some_iff.mp isLine).1
      have isAfter := (isNext.closed _ (List.getElem?_eq_getElem inLines)).2
      exact .inr ⟨j, by omega, atMost, ⟨opening, isLine, opens⟩, clear⟩
  · rintro (⟨fromStart, within⟩ | ⟨j, atLeast, atMost, isOpening, clear⟩)
    · refine ⟨place.start, isNext.position_le, fromStart, isNext.opens, fun k first last => ?_⟩
      exact isNext.unclosed k first (by omega)
    · exact ⟨j, Nat.le_trans isNext.le_after atLeast, atMost, isOpening, clear⟩

/-! ## All sections -/

theorem Place.mem_positions_iff {place : Place} {i : Nat} :
    i ∈ place.positions ↔ place.start ≤ i ∧ i < place.stop := by
  rw [positions, List.mem_range'_1, stop]

/-- The lines of the sections at or after a position are those that are reached from there. -/
theorem mem_places_iff {kinds : List Kind} {lines : List String} {position i : Nat} :
    (∃ place ∈ places kinds lines position, i ∈ place.positions) ↔
      ReachedFrom kinds lines position i := by
  fun_induction places kinds lines position with
  | case1 position after absent =>
    constructor
    · rintro ⟨place, isPlace, -⟩
      cases isPlace
    · rintro ⟨j, atLeast, -, ⟨opening, isLine, opens⟩, -⟩
      rw [not_isOpening_of_next (by rw [absent]) atLeast isLine] at opens
      cases opens
  | case2 position part after found ih =>
    rw [(Place.isNext found).reachedFrom_iff, ← ih, ← Place.mem_positions_iff]
    simp only [List.mem_cons, or_and_right, exists_or, exists_eq_left]

/-- Every section is the next one of some position. -/
theorem isNext_of_mem_places {kinds : List Kind} {lines : List String} {position : Nat}
    {place : Place} (isPlace : place ∈ places kinds lines position) :
    ∃ later after, position ≤ later ∧ place.IsNext kinds lines later after := by
  fun_induction places kinds lines position with
  | case1 position after absent => cases isPlace
  | case2 position part after found ih =>
    have isNext := Place.isNext found
    rcases List.mem_cons.mp isPlace with rfl | behind
    · exact ⟨position, after, Nat.le_refl _, isNext⟩
    · obtain ⟨later, next, atLeast, isLater⟩ := ih behind
      exact ⟨later, next, Nat.le_trans isNext.le_after atLeast, isLater⟩

/-- Sections stand one behind the other. -/
theorem places_pairwise (kinds : List Kind) (lines : List String) (position : Nat) :
    (places kinds lines position).Pairwise fun earlier later => earlier.stop ≤ later.start := by
  fun_induction places kinds lines position with
  | case1 position after absent => exact .nil
  | case2 position part after found ih =>
    refine .cons (fun place isPlace => ?_) ih
    obtain ⟨later, next, atLeast, isNext⟩ := isNext_of_mem_places isPlace
    exact Nat.le_trans (Place.isNext found).stop_le (Nat.le_trans atLeast isNext.position_le)

/-- A line belongs to one section only. -/
theorem place_unique {kinds : List Kind} {lines : List String} {position i : Nat}
    {left right : Place} (isLeft : left ∈ places kinds lines position)
    (isRight : right ∈ places kinds lines position) (inLeft : i ∈ left.positions)
    (inRight : i ∈ right.positions) : left = right := by
  have symmetric : Std.Symm fun left right : Place => i ∈ left.positions → i ∉ right.positions :=
    ⟨fun _ _ apart inRight inLeft => apart inLeft inRight⟩
  have disjoint : (places kinds lines position).Pairwise fun left right =>
      i ∈ left.positions → i ∉ right.positions := by
    refine (places_pairwise kinds lines position).imp fun {_ _} behind isEarly isLate => ?_
    rw [Place.mem_positions_iff] at isEarly isLate
    omega
  exact Decidable.byContradiction fun different =>
    disjoint.forall isLeft isRight different inLeft inRight

theorem parts_places (kinds : List Kind) (lines : List String) (position : Nat) :
    (places kinds lines position).map Place.part = sectionsFrom kinds lines position := by
  fun_induction places kinds lines position with
  | case1 position after absent => rw [sectionsFrom_of_none (by rw [absent]), List.map_nil]
  | case2 position part after found ih =>
    rw [sectionsFrom_of_some (by rw [found]), List.map_cons, ih, found]

/-! ## Captured positions -/

theorem isOpening_iff {kinds : List Kind} {line : String} :
    isOpening kinds line = true ↔ ∃ kind ∈ kinds, kind.opens line = true := by
  simp only [isOpening, Option.isSome_iff_exists, Kind.ofLine?_eq_some_iff]

theorem mem_capturedPositions_iff {kinds : List Kind} {lines : List String} {i : Nat} :
    i ∈ capturedPositions kinds lines ↔ ReachedFrom kinds lines 0 i := by
  rw [capturedPositions, List.mem_flatMap, mem_places_iff]

/-- Kinds are captured apart: what is reached from a line that opens one of them does not depend on
the others. -/
theorem reachedFrom_append_iff {kinds more : List Kind} {lines : List String} {position i : Nat} :
    ReachedFrom (kinds ++ more) lines position i ↔
      ReachedFrom kinds lines position i ∨ ReachedFrom more lines position i := by
  have opens_iff : ∀ line, isOpening (kinds ++ more) line = true ↔
      isOpening kinds line = true ∨ isOpening more line = true := by
    intro line
    simp only [isOpening_iff, List.mem_append, or_and_right, exists_or]
  constructor
  · rintro ⟨j, atLeast, atMost, ⟨opening, isLine, opens⟩, clear⟩
    exact ((opens_iff opening).mp opens).imp
      (fun own => ⟨j, atLeast, atMost, ⟨opening, isLine, own⟩, clear⟩)
      fun own => ⟨j, atLeast, atMost, ⟨opening, isLine, own⟩, clear⟩
  · rintro (⟨j, atLeast, atMost, ⟨opening, isLine, own⟩, clear⟩ |
      ⟨j, atLeast, atMost, ⟨opening, isLine, own⟩, clear⟩)
    · exact ⟨j, atLeast, atMost, ⟨opening, isLine, (opens_iff opening).mpr (.inl own)⟩, clear⟩
    · exact ⟨j, atLeast, atMost, ⟨opening, isLine, (opens_iff opening).mpr (.inr own)⟩, clear⟩

/-- The sections that repeated requests return hold the lines at their positions. A line is
captured exactly if it closes no section and an opening line stands at or before it with nothing
between them that closes one. It belongs to one section then, sections stand in the order of their
lines, and more kinds capture what each of them captures. -/
theorem captured_iff (kinds : List Kind) (lines : List String) :
    ((places kinds lines 0).map Place.part = sectionsFrom kinds lines 0 ∧
      ∀ place ∈ places kinds lines 0, ∀ i ∈ place.positions,
        lines[i]? = place.part.lines[i - place.start]?) ∧
    (∀ i, i ∈ capturedPositions kinds lines ↔
      (∃ line, lines[i]? = some line ∧ isTerminator line = false) ∧
        ∃ j ≤ i, (∃ opening, lines[j]? = some opening ∧
          ∃ kind ∈ kinds, kind.opens opening = true) ∧ Uninterrupted lines j i) ∧
    (∀ i ∈ capturedPositions kinds lines,
      ∃! place, place ∈ places kinds lines 0 ∧ i ∈ place.positions) ∧
    (places kinds lines 0).Pairwise (fun earlier later =>
      ∀ i ∈ earlier.positions, ∀ j ∈ later.positions, i < j) ∧
    ∀ more i, i ∈ capturedPositions (kinds ++ more) lines ↔
      i ∈ capturedPositions kinds lines ∨ i ∈ capturedPositions more lines := by
  have ordered : (places kinds lines 0).Pairwise fun earlier later =>
      ∀ i ∈ earlier.positions, ∀ j ∈ later.positions, i < j := by
    refine (places_pairwise kinds lines 0).imp fun {earlier later} behind i isEarly j isLate => ?_
    rw [Place.mem_positions_iff] at isEarly isLate
    omega
  refine ⟨⟨parts_places kinds lines 0, fun place isPlace i isOwn => ?_⟩, fun i => ?_,
    fun i isCaptured => ?_, ordered, fun more i => ?_⟩
  · obtain ⟨later, after, -, isNext⟩ := isNext_of_mem_places isPlace
    obtain ⟨atLeast, before⟩ := Place.mem_positions_iff.mp isOwn
    exact isNext.own i atLeast before
  · rw [mem_capturedPositions_iff]
    constructor
    · rintro ⟨j, -, atMost, ⟨opening, isLine, opens⟩, clear⟩
      exact ⟨clear i atMost (Nat.le_refl _), j, atMost,
        ⟨opening, isLine, isOpening_iff.mp opens⟩, clear⟩
    · rintro ⟨-, j, atMost, ⟨opening, isLine, opens⟩, clear⟩
      exact ⟨j, Nat.zero_le _, atMost, ⟨opening, isLine, isOpening_iff.mpr opens⟩, clear⟩
  · obtain ⟨place, isPlace, isOwn⟩ := List.mem_flatMap.mp isCaptured
    exact ⟨place, ⟨isPlace, isOwn⟩, fun other ⟨isOther, inOther⟩ =>
      place_unique isOther isPlace inOther isOwn⟩
  · simp only [mem_capturedPositions_iff, reachedFrom_append_iff]

/-- With a kind more the first section begins a line earlier. The terminator and the line behind it
are captured for neither kind. -/
example :
    let lines := ["log file", "interface a", "router ospf", "!", " area 0", "router ospf"]
    capturedPositions [.ospf] lines = [2, 5] ∧
      capturedPositions [.ospf, .interface] lines = [1, 2, 5] := by
  decide +kernel

end Testbed.Saved
