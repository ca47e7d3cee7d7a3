import Mathlib.Data.List.ReduceOption
import Testbed.Proofs.CapturedLines

/-!
# Where the sections end

Every request for a section moves the position on, by a line that opens one at least, so the lines
run out after as many requests as there are lines. From then on nothing is returned. Only the last
section can lack a terminator, because it has taken all lines that were left, and this is what a
warning is about. So of a whole configuration there is at most one warning, and nothing is reported
behind it.

Results:
1. `length_sectionsFrom_le`, `reduceOption_answers`: how many sections requests return.
2. `terminated_of_later`: a section with another one behind it has a terminator.
3. `stop_of_mem_places`, `exists_place_at_end_iff`: when a section takes the last line.
4. `flatMap_report`: what is reported about all sections.
5. `requests_end`: the above for requests from any position, and for the report on a text.
-/

namespace Testbed.Saved

/-! ## Definitions -/

def Section.announcement (node : String) (part : Section) : LogEntry :=
  .about node .trace (part.kind.label ++ " section " ++ "`" ++ part.opening ++ "`" ++ " with " ++
    toString part.lines.length ++ " lines")

def Section.warning (node : String) (part : Section) : LogEntry :=
  .about node .warn (part.kind.label ++ " section " ++ "`" ++ part.opening ++ "`" ++
    " is not terminated by `!`")

/-- The last section, if it has no terminator. -/
def unclosed? (parts : List Section) : Option Section :=
  parts.getLast?.filter fun part => !part.terminated

/-! ## Requests -/

theorem length_sectionsOf_le (kinds : List Kind) (lines : List String) :
    (sectionsOf kinds lines).length ≤ lines.length := by
  fun_induction sectionsOf kinds lines with
  | case1 lines absent => exact Nat.zero_le _
  | case2 lines skipped part found ih =>
    have bound := first?_bound found
    have taken := part.extent_pos
    rw [List.length_drop] at ih
    rw [List.length_cons]
    omega

theorem length_sectionsFrom_le (kinds : List Kind) (lines : List String) (position : Nat) :
    (sectionsFrom kinds lines position).length ≤ lines.length - position := by
  rw [← List.length_drop]
  exact length_sectionsOf_le kinds (lines.drop position)

theorem getElem?_answers {kinds : List Kind} {lines : List String} {requests position i : Nat}
    (asked : i < requests) :
    (answers kinds lines requests position)[i]? = some (sectionsFrom kinds lines position)[i]? := by
  rw [answers_eq, List.getElem?_map, List.getElem?_range asked, Option.map_some]

theorem lt_of_getElem?_answers {kinds : List Kind} {lines : List String}
    {requests position i : Nat} {answer : Option Section}
    (given : (answers kinds lines requests position)[i]? = some answer) : i < requests := by
  have inside := (List.getElem?_eq_some_iff.mp given).1
  rwa [answers_eq, List.length_map, List.length_range] at inside

/-- Requests return the sections in order, as many as are asked for. -/
theorem reduceOption_answers (kinds : List Kind) (lines : List String) (requests position : Nat) :
    (answers kinds lines requests position).reduceOption =
      (sectionsFrom kinds lines position).take requests := by
  induction requests generalizing position with
  | zero => rfl
  | succ requests ih =>
    rw [answers]
    cases found : (next kinds lines position).1 with
    | none =>
      rw [List.reduceOption_cons_of_none, ih, next_position_of_none found, sectionsFrom_length,
        sectionsFrom_of_none found, List.take_nil, List.take_nil]
    | some part =>
      rw [List.reduceOption_cons_of_some, ih, sectionsFrom_of_some found, List.take_succ_cons]

theorem terminated_of_mem_dropLast_sectionsFrom {kinds : List Kind} {lines : List String}
    {position : Nat} {part : Section}
    (isEarlier : part ∈ (sectionsFrom kinds lines position).dropLast) :
    part.terminated = true := by
  rw [sectionsFrom, sectionsOf_eq_blockSections] at isEarlier
  exact terminated_of_mem_dropLast isEarlier

theorem terminated_of_later {kinds : List Kind} {lines : List String} {position i j : Nat}
    {part later : Section} (before : i < j)
    (isPart : (sectionsFrom kinds lines position)[i]? = some part)
    (isLater : (sectionsFrom kinds lines position)[j]? = some later) : part.terminated = true := by
  have inside := (List.getElem?_eq_some_iff.mp isLater).1
  have isEarlier : part ∈ (sectionsFrom kinds lines position).dropLast := by
    refine List.mem_of_getElem? (i := i) ?_
    rw [List.getElem?_dropLast, if_pos (by omega), isPart]
  exact terminated_of_mem_dropLast_sectionsFrom isEarlier

/-! ## The last line -/

theorem exists_next_of_mem_places {kinds : List Kind} {lines : List String} {position : Nat}
    {place : Place} (isPlace : place ∈ places kinds lines position) :
    ∃ later after, next kinds lines later = (some place.part, after) ∧
      place.start = after - place.part.extent := by
  fun_induction places kinds lines position with
  | case1 position after absent => cases isPlace
  | case2 position part after found ih =>
    rcases List.mem_cons.mp isPlace with rfl | behind
    · exact ⟨position, after, found, rfl⟩
    · exact ih behind

/-- A section has no terminator exactly if it ends with the last line. -/
theorem stop_of_mem_places {kinds : List Kind} {lines : List String} {position : Nat}
    {place : Place} (isPlace : place ∈ places kinds lines position) :
    place.stop ≤ lines.length ∧ (place.stop = lines.length ↔ place.part.terminated = false) := by
  obtain ⟨later, after, found, isStart⟩ := exists_next_of_mem_places isPlace
  obtain ⟨start, part⟩ := place
  dsimp only at found isStart
  subst isStart
  have isNext := Place.isNext found
  have inLines : after ≤ lines.length := by
    have atMost := next_position_le kinds lines later
    rwa [found] at atMost
  have isAfter : after = Place.stop ⟨after - part.extent, part⟩ + part.terminated.toNat :=
    isNext.after_eq.trans (Nat.add_assoc _ _ _).symm
  cases closed : part.terminated with
  | true =>
    rw [closed, Bool.toNat_true] at isAfter
    exact ⟨by omega, iff_of_false (by omega) (by decide)⟩
  | false =>
    rw [closed, Bool.toNat_false] at isAfter
    have atEnd : ¬ Place.stop ⟨after - part.extent, part⟩ < lines.length := by
      intro inside
      have isTerminated := (isNext.closed _ (List.getElem?_eq_getElem inside)).2
      omega
    exact ⟨by omega, iff_of_true (by omega) rfl⟩

/-- A section ends with the last line exactly if a line that opens one has no terminator behind it.
-/
theorem exists_place_at_end_iff {kinds : List Kind} {lines : List String} :
    (∃ place ∈ places kinds lines 0, place.stop = lines.length) ↔
      ∃ i opening, lines[i]? = some opening ∧ isOpening kinds opening = true ∧
        ∀ line ∈ lines.drop i, isTerminator line = false := by
  constructor
  · rintro ⟨place, isPlace, atEnd⟩
    obtain ⟨later, after, -, isNext⟩ := isNext_of_mem_places isPlace
    obtain ⟨opening, isLine, opens⟩ := isNext.opens
    refine ⟨place.start, opening, isLine, opens, fun line isLater => ?_⟩
    obtain ⟨n, inside, rfl⟩ := List.getElem_of_mem isLater
    rw [List.length_drop] at inside
    obtain ⟨own, isOwn, goesOn⟩ := isNext.unclosed (place.start + n) (by omega) (by omega)
    rw [List.getElem?_eq_getElem (by omega), Option.some.injEq] at isOwn
    rwa [List.getElem_drop, isOwn]
  · rintro ⟨i, opening, isLine, opens, unclosed⟩
    have inside := (List.getElem?_eq_some_iff.mp isLine).1
    -- The last line is reached from the one that opens a section, so it belongs to a section.
    have reached : ReachedFrom kinds lines 0 (lines.length - 1) := by
      refine ⟨i, Nat.zero_le _, by omega, ⟨opening, isLine, opens⟩, fun k first last => ?_⟩
      have isLater : lines[k]? = some lines[k] := List.getElem?_eq_getElem (by omega)
      refine ⟨lines[k], isLater, unclosed _ (List.mem_of_getElem? (i := k - i) ?_)⟩
      rw [List.getElem?_drop, Nat.add_sub_cancel' first, isLater]
    obtain ⟨place, isPlace, isOwn⟩ := mem_places_iff.mpr reached
    have behind := (Place.mem_positions_iff.mp isOwn).2
    have atMost := (stop_of_mem_places isPlace).1
    exact ⟨place, isPlace, by omega⟩

/-! ## The report -/

theorem unclosed?_eq_some_iff {parts : List Section}
    (closed : ∀ part ∈ parts.dropLast, part.terminated = true) {part : Section} :
    unclosed? parts = some part ↔ part ∈ parts ∧ part.terminated = false := by
  rw [unclosed?, Option.filter_eq_some_iff]
  constructor
  · rintro ⟨isLast, isOpen⟩
    exact ⟨List.mem_of_getLast? isLast, by simpa using isOpen⟩
  · rintro ⟨isPart, isOpen⟩
    refine ⟨?_, by simpa using isOpen⟩
    obtain ⟨earlier, last, rfl⟩ :=
      (List.eq_nil_or_concat' parts).resolve_left (List.ne_nil_of_mem isPart)
    rw [List.dropLast_concat] at closed
    rcases List.mem_append.mp isPart with isEarlier | isLast
    · rw [closed part isEarlier] at isOpen
      cases isOpen
    · rw [List.getLast?_concat, List.mem_singleton.mp isLast]

/-- If only the last section can lack a terminator, all warnings stand behind the rest. -/
theorem flatMap_report (node : String) {parts : List Section}
    (closed : ∀ part ∈ parts.dropLast, part.terminated = true) :
    parts.flatMap (Section.report node) =
      parts.map (Section.announcement node) ++
        (unclosed? parts).toList.map (Section.warning node) := by
  have single (part : Section) : part.report node =
      part.announcement node :: if part.terminated then [] else [part.warning node] := rfl
  induction parts with
  | nil => rfl
  | cons part later ih =>
    cases later with
    | nil => cases ends : part.terminated <;> simp [single, unclosed?, Option.filter_some, ends]
    | cons second later =>
      rw [List.dropLast_cons_cons] at closed
      have behind := ih fun part isLater => closed part (.tail _ isLater)
      rw [List.flatMap_cons, single, closed part (.head _), behind, unclosed?, unclosed?,
        List.getLast?_cons_cons]
      rfl

theorem isSome_unclosed?_iff {kinds : List Kind} {lines : List String} :
    (unclosed? (sectionsFrom kinds lines 0)).isSome = true ↔
      ∃ place ∈ places kinds lines 0, place.stop = lines.length := by
  have unclosed_iff (part : Section) : unclosed? (sectionsFrom kinds lines 0) = some part ↔
      part ∈ sectionsFrom kinds lines 0 ∧ part.terminated = false :=
    unclosed?_eq_some_iff fun _ => terminated_of_mem_dropLast_sectionsFrom
  rw [Option.isSome_iff_exists]
  constructor
  · rintro ⟨part, isLast⟩
    obtain ⟨isPart, isOpen⟩ := (unclosed_iff part).mp isLast
    rw [← parts_places] at isPart
    obtain ⟨place, isPlace, rfl⟩ := List.mem_map.mp isPart
    exact ⟨place, isPlace, (stop_of_mem_places isPlace).2.mpr isOpen⟩
  · rintro ⟨place, isPlace, atEnd⟩
    have isPart : place.part ∈ sectionsFrom kinds lines 0 := by
      rw [← parts_places]
      exact List.mem_map_of_mem isPlace
    exact ⟨place.part, (unclosed_iff _).mpr ⟨isPart, (stop_of_mem_places isPlace).2.mp atEnd⟩⟩

/-- From any position, also one behind the lines, the next section is not empty and moves the
position on, but never behind the lines, and without a next section the position is at their end. So
requests return at most as many sections as there are lines left, and nothing more once they have
returned nothing. A section that is returned before another one has a terminator.

The report on a text announces every section, and behind that there is at most one warning. There is
one exactly if a section ends with the last line of the text, and so exactly if a line that opens a
section has no terminator behind it. -/
theorem requests_end (kinds : List Kind) :
    (∀ (lines : List String) (position : Nat),
      (next kinds lines position).2 ≤ lines.length ∧
      (∀ part, (next kinds lines position).1 = some part →
        0 < part.lines.length ∧ position < (next kinds lines position).2) ∧
      ((next kinds lines position).1 = none → (next kinds lines position).2 = lines.length) ∧
      ∀ requests,
        let run := answers kinds lines requests position
        run.reduceOption.length ≤ lines.length - position ∧
        (∀ i < requests, lines.length - position ≤ i → run[i]? = some none) ∧
        (∀ i j, i ≤ j → j < requests → run[i]? = some none → run[j]? = some none) ∧
        ∀ (i j : Nat) (part later : Section), i < j →
          run[i]? = some (some part) → run[j]? = some (some later) → part.terminated = true) ∧
    ∀ node text : String,
      let lines := Text.lines text
      report node kinds text =
        (sections kinds text).map (Section.announcement node) ++
          (unclosed? (sections kinds text)).toList.map (Section.warning node) ∧
      ((unclosed? (sections kinds text)).isSome = true ↔
        ∃ place ∈ places kinds lines 0, place.stop = lines.length) ∧
      ((unclosed? (sections kinds text)).isSome = true ↔
        ∃ i opening, lines[i]? = some opening ∧ isOpening kinds opening = true ∧
          ∀ line ∈ lines.drop i, isTerminator line = false) := by
  refine ⟨fun lines position => ⟨next_position_le kinds lines position, fun part found =>
    ⟨Nat.succ_pos _, lt_next_position found⟩, next_position_of_none, fun requests => ?_⟩,
    fun node text => ⟨?_, isSome_unclosed?_iff, ?_⟩⟩
  · have count := length_sectionsFrom_le kinds lines position
    refine ⟨?_, fun i asked behind => ?_, fun i j order asked absent => ?_,
      fun i j part later before isPart isLater => ?_⟩
    · rw [reduceOption_answers]
      exact Nat.le_trans (List.length_take_le' _ _) count
    · rw [getElem?_answers asked, List.getElem?_eq_none (by omega)]
    · rw [getElem?_answers (Nat.lt_of_le_of_lt order asked), Option.some.injEq,
        List.getElem?_eq_none_iff] at absent
      rw [getElem?_answers asked, List.getElem?_eq_none (by omega)]
    · have askedLater := lt_of_getElem?_answers isLater
      rw [getElem?_answers (Nat.lt_trans before askedLater), Option.some.injEq] at isPart
      rw [getElem?_answers askedLater, Option.some.injEq] at isLater
      exact terminated_of_later before isPart isLater
  · have closed : ∀ part ∈ (sectionsFrom kinds (Text.lines text) 0).dropLast,
        part.terminated = true := fun _ => terminated_of_mem_dropLast_sectionsFrom
    exact flatMap_report node closed
  · exact isSome_unclosed?_iff.trans exists_place_at_end_iff

/-- The first section is closed by a terminator, and the last one by the end of the text. -/
example :
    (report "SEAT" [.interface, .ospf] "interface a\n!\nrouter ospf\n area 0").map LogEntry.render =
      ["TRACE [SEAT] Interface section `interface a` with 1 lines",
       "TRACE [SEAT] Ospf section `router ospf` with 2 lines",
       "WARN [SEAT] Ospf section `router ospf` is not terminated by `!`"] := by
  decide +kernel

end Testbed.Saved
