/-!
# White space

The white space of a line is the property `White_Space` of Unicode, which is larger than the ASCII
blanks: a no-break space or an ideographic space counts, a zero width space does not.

Results: `isBlank_of_isDigit` (no digit is white space), `firstWord?_append` (the first word of a text
that is put together from its parts), `firstWord?_append_blank` (white space at the end does not
matter).
-/

namespace Testbed.Text

/-- The code points with the property `White_Space`, as ranges. -/
def blankRanges : List (Nat × Nat) :=
  [(0x9, 0xD), (0x20, 0x20), (0x85, 0x85), (0xA0, 0xA0), (0x1680, 0x1680), (0x2000, 0x200A),
   (0x2028, 0x2029), (0x202F, 0x202F), (0x205F, 0x205F), (0x3000, 0x3000)]

/-- Whether a code point lies in one of the ranges, both ends included. -/
def inRanges (ranges : List (Nat × Nat)) (c : Char) : Bool :=
  ranges.any fun range => range.1 ≤ c.toNat && c.toNat ≤ range.2

def isBlank (c : Char) : Bool := inRanges blankRanges c

def trim (text : List Char) : List Char :=
  ((text.dropWhile isBlank).reverse.dropWhile isBlank).reverse

/-- The first run of characters that are not white space, if there is one. -/
def firstWord? (text : List Char) : Option (List Char) :=
  match text.dropWhile isBlank with
  | [] => none
  | c :: rest => some ((c :: rest).takeWhile fun d => !isBlank d)

theorem isBlank_of_isDigit {c : Char} (digit : c.isDigit = true) : isBlank c = false := by
  have bounds : 48 ≤ c.toNat ∧ c.toNat ≤ 57 := by
    simpa [Char.isDigit, UInt32.le_iff_toNat_le] using digit
  simp only [isBlank, inRanges, blankRanges, List.any_cons, List.any_nil, Bool.or_false,
    Bool.or_eq_false_iff, Bool.and_eq_false_iff, decide_eq_false_iff_not]
  omega

/-- White space in front of the first word and all that follows it do not belong to it. -/
theorem firstWord?_append {front word : List Char} (blankFront : ∀ c ∈ front, isBlank c = true)
    (nonempty : word ≠ []) (noBlank : ∀ c ∈ word, isBlank c = false) {back : List Char}
    (blankBack : ∀ c ∈ back.head?, isBlank c = true) :
    firstWord? (front ++ word ++ back) = some word := by
  obtain ⟨c, rest, rfl⟩ := List.exists_cons_of_ne_nil nonempty
  have skipped : (front ++ (c :: rest) ++ back).dropWhile isBlank = c :: (rest ++ back) := by
    rw [List.append_assoc, List.dropWhile_append_of_pos blankFront, List.cons_append,
      List.dropWhile_cons_of_neg (by simp [noBlank c (.head _)])]
  have ended : back.takeWhile (fun d => !isBlank d) = [] := by
    cases back with
    | nil => rfl
    | cons d back => simp [blankBack d rfl]
  have taken : (c :: (rest ++ back)).takeWhile (fun d => !isBlank d) = c :: rest := by
    rw [← List.cons_append, List.takeWhile_append_of_pos (by simpa using noBlank), ended,
      List.append_nil]
  rw [firstWord?, skipped]
  exact congrArg some taken

/-- White space at the end does not change the first word. -/
theorem firstWord?_append_blank (text : List Char) {c : Char} (blank : isBlank c = true) :
    firstWord? (text ++ [c]) = firstWord? text := by
  have noBlank : ∀ word : List Char, (word ++ [c]).takeWhile (fun d => !isBlank d) =
      word.takeWhile fun d => !isBlank d := by
    intro word
    induction word with
    | nil => simp [blank]
    | cons d word ih => simp [List.takeWhile_cons, ih]
  unfold firstWord?
  rw [List.dropWhile_append]
  cases text.dropWhile isBlank with
  | nil => simp [blank]
  | cons d rest => exact congrArg some (noBlank (d :: rest))

end Testbed.Text
