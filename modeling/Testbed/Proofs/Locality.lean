import Testbed.Proofs.WriteBack

/-!
# What the next section depends on

The next section at or after a position is a matter of a few lines. What stands in front of the
position is not looked at, so the section is the first one of the lines that are left, and only the
position behind it is counted from the start of the file. What stands behind a terminator is not
looked at either.

The same section is found by a walk through the lines that carries the position of every line with
it: it searches for a line that opens a section and then takes lines up to a terminator.

Results:
1. `next_eq_walk`: the walk finds the next section and the position behind it.
2. `Found.first?_eq`: together with `first?_spec`, what the scan finds in which lines.
3. `first?_take_append`: a terminated section does not depend on the lines behind it.
4. `next_local`: the above for the next section at or after a position.
-/

namespace Testbed.Saved

/-! ## Definitions -/

/-- The first of some numbered lines that opens a section, with its number and its kind. -/
def search (kinds : List Kind) : List (String × Nat) → Option (Nat × Kind × String)
  | [] => none
  | (line, index) :: later =>
    match Kind.ofLine? kinds line with
    | some kind => some (index, kind, line)
    | none => search kinds later

/-- What a section takes of numbered lines: the lines up to a terminator, whether there is one, and
the number behind it. Without a terminator this is the number of all lines. -/
def capture (total : Nat) : List (String × Nat) → List String × Bool × Nat
  | [] => ([], false, total)
  | (line, index) :: later =>
    if isTerminator line then ([], true, index + 1)
    else
      let (body, rest) := capture total later
      (line :: body, rest)

/-- The next section and the position behind it, found by a walk through the numbered lines. -/
def walk (kinds : List Kind) (lines : List String) (position : Nat) : Option Section × Nat :=
  match search kinds (lines.zipIdx.drop position) with
  | none => (none, lines.length)
  | some (start, kind, opening) =>
    let (body, terminated, after) := capture lines.length (lines.zipIdx.drop (start + 1))
    (some ⟨kind, opening, body, terminated⟩, after)

/-! ## Numbered lines -/

theorem drop_zipIdx (lines : List String) (position : Nat) :
    lines.zipIdx.drop position = (lines.drop position).zipIdx position := by
  have numbered (start : Nat) : (lines.zipIdx start).drop position =
      (lines.drop position).zipIdx (start + position) := by
    induction lines generalizing position start with
    | nil => simp
    | cons line rest ih =>
      cases position with
      | zero => rfl
      | succ position =>
        rw [List.zipIdx_cons, List.drop_succ_cons, List.drop_succ_cons, ih, Nat.add_assoc,
          Nat.add_comm 1]
  simpa using numbered 0

theorem search_zipIdx (kinds : List Kind) (lines : List String) (start : Nat) :
    search kinds (lines.zipIdx start) =
      (first? kinds lines).map fun found =>
        (start + found.1, found.2.kind, found.2.opening) := by
  induction lines generalizing start with
  | nil => rfl
  | cons line following ih =>
    rw [List.zipIdx_cons, search, first?]
    cases Kind.ofLine? kinds line with
    | some kind => rfl
    | none =>
      dsimp only
      rw [ih, Option.map_map]
      congr 1
      funext found
      rw [Function.comp_apply, Nat.add_assoc, Nat.add_comm 1]

theorem capture_zipIdx {total start : Nat} {lines : List String}
    (isTotal : total = start + lines.length) :
    capture total (lines.zipIdx start) =
      let closed := !(lines.dropWhile Section.continues).isEmpty
      (lines.takeWhile Section.continues, closed,
        start + (lines.takeWhile Section.continues).length + closed.toNat) := by
  induction lines generalizing start with
  | nil => simp [capture, isTotal]
  | cons line rest ih =>
    rw [List.zipIdx_cons, capture]
    cases terminates : isTerminator line with
    | true =>
      have stops : ¬ Section.continues line = true := by simp [Section.continues, terminates]
      rw [List.takeWhile_cons_of_neg stops, List.dropWhile_cons_of_neg stops]
      rfl
    | false =>
      have goesOn : Section.continues line = true := by simp [Section.continues, terminates]
      rw [List.length_cons] at isTotal
      rw [List.takeWhile_cons_of_pos goesOn, List.dropWhile_cons_of_pos goesOn, ih (by omega)]
      simp only [Bool.false_eq_true, if_false, List.length_cons, Prod.mk.injEq, true_and]
      omega

theorem opened_of_first? {kinds : List Kind} {lines : List String} {skipped : Nat}
    {part : Section} (found : first? kinds lines = some (skipped, part)) :
    ∃ kind opening, part = .opened kind opening (lines.drop (skipped + 1)) := by
  induction lines generalizing skipped part with
  | nil => cases found
  | cons line following ih =>
    rw [first?] at found
    split at found
    · next kind isKind =>
      cases found
      exact ⟨kind, line, rfl⟩
    · obtain ⟨⟨before, part⟩, isFound, isSame⟩ := Option.map_eq_some_iff.mp found
      cases isSame
      exact ih isFound

/-- Counting lines from the start of the file and from the position comes to the same. -/
theorem next_eq_walk (kinds : List Kind) (lines : List String) (position : Nat) :
    next kinds lines position = walk kinds lines position := by
  rw [walk, drop_zipIdx, search_zipIdx, next]
  cases found : first? kinds (lines.drop position) with
  | none => rfl
  | some first =>
    obtain ⟨skipped, part⟩ := first
    obtain ⟨kind, opening, isPart⟩ := opened_of_first? found
    have bound := first?_bound found
    have taken := part.extent_pos
    rw [List.drop_drop, ← Nat.add_assoc] at isPart
    rw [List.length_drop] at bound
    have total : lines.length =
        position + skipped + 1 + (lines.drop (position + skipped + 1)).length := by
      rw [List.length_drop]
      omega
    simp only [Option.map_some]
    rw [drop_zipIdx, capture_zipIdx total, isPart]
    simp only [Section.opened, Section.extent, Section.lines, List.length_cons, Prod.mk.injEq,
      true_and]
    omega

/-! ## Lines behind a section -/

/-- A section that stands in some lines as the scan would find it is found. -/
theorem Found.first?_eq {kinds : List Kind} {passed behind : List String} {part : Section}
    (found : Found kinds passed part behind) :
    first? kinds (passed ++ (part.lines ++ behind)) = some (passed.length, part) := by
  have goesOn := found.wellFormed.continues
  obtain ⟨passed_over, opens, -, terminated_eq, closed⟩ := found
  induction passed with
  | nil =>
    have ends : behind.takeWhile Section.continues = [] ∧
        behind.dropWhile Section.continues = behind := by
      cases behind with
      | nil => exact ⟨rfl, rfl⟩
      | cons terminator later =>
        have stops : ¬ Section.continues terminator = true := by
          simp [Section.continues, closed terminator rfl]
        exact ⟨List.takeWhile_cons_of_neg stops, List.dropWhile_cons_of_neg stops⟩
    have isPart : Section.opened part.kind part.opening (part.body ++ behind) = part := by
      rw [Section.opened, List.takeWhile_append_of_pos goesOn, List.dropWhile_append_of_pos goesOn,
        ends.1, ends.2, List.append_nil, ← terminated_eq]
    rw [List.nil_append, Section.lines, List.cons_append, first?, opens]
    simp only [isPart, List.length_nil]
  | cons line passed ih =>
    have outside : Kind.ofLine? kinds line = none := by
      simpa [isOpening] using passed_over line (.head _)
    rw [List.cons_append, first?, outside]
    simp only [ih fun other inPassed => passed_over other (.tail _ inPassed), Option.map_some,
      List.length_cons]

/-- Whatever stands behind the terminator of a section, the section is found. -/
theorem first?_take_append {kinds : List Kind} {lines : List String} {skipped : Nat}
    {part : Section} (found : first? kinds lines = some (skipped, part))
    (closed : part.terminated = true) (others : List String) :
    first? kinds (lines.take (skipped + part.extent) ++ others) = some (skipped, part) := by
  obtain ⟨passed, behind, isLines, isLength, spec⟩ := first?_spec found
  obtain ⟨terminator, later, isBehind⟩ : ∃ terminator later, behind = terminator :: later := by
    refine List.exists_cons_of_ne_nil fun isEmpty => ?_
    have isOpen := spec.terminated_eq
    rw [closed, isEmpty] at isOpen
    cases isOpen
  have kept : lines.take (skipped + part.extent) = passed ++ (part.lines ++ [terminator]) := by
    have whole : lines = passed ++ (part.lines ++ [terminator]) ++ later := by
      simp [isLines, isBehind]
    have extent : skipped + part.extent = (passed ++ (part.lines ++ [terminator])).length := by
      rw [Section.extent, closed, ← isLength, List.length_append, List.length_append]
      rfl
    rw [extent, whole, List.take_left]
  -- Of the lines behind a section only the first one matters.
  have replaced : Found kinds passed part (terminator :: others) := by
    rw [isBehind] at spec
    exact { spec with }
  rw [kept, ← isLength, ← replaced.first?_eq]
  simp

/-! ## The next section -/

/-- The section is the first one of the lines that are left, and the position behind it is counted
on. -/
theorem next_eq_shift (kinds : List Kind) {lines : List String} {position : Nat}
    (inside : position ≤ lines.length) :
    next kinds lines position =
      ((next kinds (lines.drop position) 0).1,
        (next kinds (lines.drop position) 0).2 + position) := by
  unfold next
  rw [List.drop_zero]
  cases first? kinds (lines.drop position) with
  | none =>
    rw [List.length_drop, Nat.sub_add_cancel inside]
  | some found =>
    obtain ⟨skipped, part⟩ := found
    simp only [Prod.mk.injEq, true_and]
    omega

theorem next_take_append {kinds : List Kind} {lines : List String} {position after : Nat}
    {part : Section} (found : next kinds lines position = (some part, after))
    (closed : part.terminated = true) (others : List String) :
    next kinds (lines.take after ++ others) position = (some part, after) := by
  have atMost := next_position_le kinds lines position
  rw [found] at atMost
  unfold next at found
  split at found
  · cases found
  · next skipped first isFirst =>
    cases found
    have left : (lines.take (position + skipped + part.extent) ++ others).drop position =
        (lines.drop position).take (skipped + part.extent) ++ others := by
      rw [List.drop_append_of_le_length (by rw [List.length_take]; omega), List.drop_take]
      congr 2
      omega
    rw [next, left, first?_take_append isFirst closed]

/-- The next section at or after a position in the lines is found by walking through them line by
line. It is the first section of the lines from the position on, and the position behind it is that
of the shorter lines moved on. So other lines in front of the position change nothing, and if the
section has a terminator, other lines behind this change nothing either. -/
theorem next_local (kinds : List Kind) {lines : List String} {position : Nat}
    (inside : position ≤ lines.length) :
    next kinds lines position = walk kinds lines position ∧
    next kinds lines position =
      ((next kinds (lines.drop position) 0).1,
        (next kinds (lines.drop position) 0).2 + position) ∧
    (∀ front : List String, front.length = position →
      next kinds (front ++ lines.drop position) position = next kinds lines position) ∧
    ∀ part after, next kinds lines position = (some part, after) → part.terminated = true →
      ∀ back, next kinds (lines.take after ++ back) position = (some part, after) := by
  refine ⟨next_eq_walk kinds lines position, next_eq_shift kinds inside, fun front isLength => ?_,
    fun part after found closed back => next_take_append found closed back⟩
  have left : (front ++ lines.drop position).drop position = lines.drop position := by
    rw [← isLength, List.drop_left]
  have stillInside : position ≤ (front ++ lines.drop position).length := by
    rw [List.length_append, isLength]
    exact Nat.le_add_right _ _
  rw [next_eq_shift kinds stillInside, left, ← next_eq_shift kinds inside]

/-- From the third line on. A section in front of it is gone with other lines there, and one behind
the terminator goes on for longer with other lines there. -/
theorem next_local_secondBlock :
    let lines :=
      ["router ospf", "!", "log file", "interface a", " ip ospf cost 1", "!", "interface b"]
    let part : Section := ⟨.interface, "interface a", [" ip ospf cost 1"], true⟩
    2 ≤ lines.length ∧
    next [.interface, .ospf] lines 2 = (some part, 6) ∧
    next [.interface, .ospf] (["interface c", "interface d"] ++ lines.drop 2) 2 = (some part, 6) ∧
    next [.interface, .ospf] (lines.take 6 ++ ["router ospf", " area 0"]) 2 = (some part, 6) := by
  intro lines part
  have inside : 2 ≤ lines.length := by decide
  have found : next [.interface, .ospf] lines 2 = (some part, 6) := by decide +kernel
  obtain ⟨-, -, front, back⟩ := next_local [.interface, .ospf] inside
  exact ⟨inside, found, (front ["interface c", "interface d"] rfl).trans found,
    back part 6 found rfl ["router ospf", " area 0"]⟩

end Testbed.Saved
