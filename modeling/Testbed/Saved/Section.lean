import Testbed.Log
import Testbed.Saved.Kind
import Testbed.Text.Lines
import Testbed.Vtysh

/-!
# Sections of a saved configuration

A section starts at the first line that opens one and takes every line up to the next terminator,
whatever these lines are. A section that no terminator closes ends with the file. `next` finds the
first section at or after a position, and `sectionsFrom` gives all of them.

What is replayed of a section are its lines and, if a terminator closed it, the return to the
enclosing level.

Results: `next_position_le` (a position never leaves the lines), `lt_next_position` (a section moves
the position on), `sectionsFrom_eq` (repeating `next` finds all sections).
-/

namespace Testbed.Saved

open Testbed.Vtysh

/-- A part of a saved configuration: the line that opens it and the lines that follow. -/
structure Section where
  kind : Kind
  opening : String
  body : List String
  terminated : Bool
deriving DecidableEq, Repr

namespace Section

def lines (part : Section) : List String := part.opening :: part.body

/-- How many lines of the file a section takes, with the terminator. -/
def extent (part : Section) : Nat := part.lines.length + part.terminated.toNat

def directives (part : Section) : List Directive :=
  part.lines.map Directive.line ++
    if part.terminated && part.kind.closesWithExit then [Directive.exit] else []

def report (node : String) (part : Section) : Log :=
  let title := part.kind.label ++ " section " ++ "`" ++ part.opening ++ "`"
  .about node .trace (title ++ " with " ++ toString part.lines.length ++ " lines") ::
    if part.terminated then []
    else [.about node .warn (title ++ " is not terminated by `!`")]

/-- Whether a line belongs to the section in front of it. -/
def continues (line : String) : Bool := !isTerminator line

/-- The section that a line opens in front of the given lines. -/
def opened (kind : Kind) (opening : String) (following : List String) : Section :=
  ⟨kind, opening, following.takeWhile continues, !(following.dropWhile continues).isEmpty⟩

theorem extent_pos (part : Section) : 0 < part.extent := by
  simp only [extent, lines, List.length_cons]
  omega

theorem extent_opened_le (kind : Kind) (opening : String) (following : List String) :
    (opened kind opening following).extent ≤ following.length + 1 := by
  have both : (following.takeWhile continues).length + (following.dropWhile continues).length =
      following.length := by
    rw [← List.length_append, List.takeWhile_append_dropWhile]
  simp only [extent, lines, opened, List.length_cons]
  cases behind : following.dropWhile continues with
  | nil =>
    rw [behind] at both
    simp only [List.length_nil, List.isEmpty_nil, Bool.not_true, Bool.toNat_false] at both ⊢
    omega
  | cons line later =>
    rw [behind] at both
    simp only [List.length_cons, List.isEmpty_cons, Bool.not_false, Bool.toNat_true] at both ⊢
    omega

end Section

/-- The first section of the lines, with the number of lines in front of it. -/
def first? (kinds : List Kind) : List String → Option (Nat × Section)
  | [] => none
  | line :: following =>
    match Kind.ofLine? kinds line with
    | some kind => some (0, .opened kind line following)
    | none => (first? kinds following).map fun found => (found.1 + 1, found.2)

/-- The first section at or after a position, and the position after it. Without a section the
position is the number of lines. -/
def next (kinds : List Kind) (lines : List String) (position : Nat) : Option Section × Nat :=
  match first? kinds (lines.drop position) with
  | none => (none, lines.length)
  | some (skipped, part) => (some part, position + skipped + part.extent)

theorem first?_bound {kinds : List Kind} {lines : List String} {skipped : Nat} {part : Section}
    (found : first? kinds lines = some (skipped, part)) :
    skipped + part.extent ≤ lines.length := by
  induction lines generalizing skipped part with
  | nil => simp [first?] at found
  | cons line following ih =>
    simp only [first?] at found
    split at found
    · simp only [Option.some.injEq, Prod.mk.injEq] at found
      obtain ⟨rfl, rfl⟩ := found
      simpa using Section.extent_opened_le _ line following
    · simp only [Option.map_eq_some_iff, Prod.mk.injEq, Prod.exists] at found
      obtain ⟨before, other, isFound, rfl, rfl⟩ := found
      have := ih isFound
      simp only [List.length_cons]
      omega

theorem next_position_le (kinds : List Kind) (lines : List String) (position : Nat) :
    (next kinds lines position).2 ≤ lines.length := by
  unfold next
  split
  · exact Nat.le_refl _
  · rename_i skipped part found
    have bound := first?_bound found
    have := part.extent_pos
    simp only [List.length_drop] at bound
    simp only
    omega

theorem lt_next_position {kinds : List Kind} {lines : List String} {position : Nat}
    {part : Section} (found : (next kinds lines position).1 = some part) :
    position < (next kinds lines position).2 := by
  unfold next at found ⊢
  split at found
  · simp at found
  · rename_i skipped other isFirst
    have := other.extent_pos
    simp only
    omega

def sectionsOf (kinds : List Kind) (lines : List String) : List Section :=
  match _found : first? kinds lines with
  | none => []
  | some (skipped, part) => part :: sectionsOf kinds (lines.drop (skipped + part.extent))
termination_by lines.length
decreasing_by
  have := first?_bound _found
  have := part.extent_pos
  rw [List.length_drop]
  omega

def sectionsFrom (kinds : List Kind) (lines : List String) (position : Nat) : List Section :=
  sectionsOf kinds (lines.drop position)

/-- The sections are found by moving from one position to the next. -/
theorem sectionsFrom_eq (kinds : List Kind) (lines : List String) (position : Nat) :
    sectionsFrom kinds lines position =
      match next kinds lines position with
      | (none, _) => []
      | (some part, after) => part :: sectionsFrom kinds lines after := by
  unfold sectionsFrom next
  rw [sectionsOf]
  split
  · rename_i absent
    rw [absent]
  · rename_i skipped part found
    simp only [found, List.drop_drop, Nat.add_assoc]

def sections (kinds : List Kind) (text : String) : List Section :=
  sectionsOf kinds (Text.lines text)

def directives (kinds : List Kind) (text : String) : List Directive :=
  (sections kinds text).flatMap Section.directives

def report (node : String) (kinds : List Kind) (text : String) : Log :=
  (sections kinds text).flatMap (Section.report node)

end Testbed.Saved
