/-!
# Pieces and numerals

Two small readings that addresses, paths and tables share: a text is cut at every occurrence of a
separator, and a piece of decimal digits is read as a number.

Results: `pieces_append` (a piece without the separator is cut off), `pieces_separator` (a separator
cuts a text in two, each with its own pieces), `decimal?_toString` (a number is read back from its
decimal form), `length_toString_le` (how many digits this form has), `head?_toString_ne` (no zero
stands in front of it).
-/

namespace Testbed.Text

/-- The pieces between the separators, in order. There is one piece more than separators. -/
def pieces (separator : Char) : List Char → List (List Char)
  | [] => [[]]
  | c :: rest =>
    if c = separator then [] :: pieces separator rest
    else
      match pieces separator rest with
      | [] => [[c]]
      | piece :: later => (c :: piece) :: later

theorem pieces_ne_nil (separator : Char) (text : List Char) : pieces separator text ≠ [] := by
  cases text with
  | nil => simp [pieces]
  | cons c rest =>
    simp only [pieces]
    split
    · simp
    · split <;> simp

theorem pieces_of_not_mem {separator : Char} {text : List Char} (absent : separator ∉ text) :
    pieces separator text = [text] := by
  induction text with
  | nil => rfl
  | cons c rest ih =>
    simp only [List.mem_cons, not_or] at absent
    simp [pieces, Ne.symm absent.1, ih absent.2]

/-- What stands before the first separator is the first piece. -/
theorem pieces_append {separator : Char} {piece : List Char} (absent : separator ∉ piece)
    (rest : List Char) :
    pieces separator (piece ++ separator :: rest) = piece :: pieces separator rest := by
  induction piece with
  | nil => simp [pieces]
  | cons c tail ih =>
    simp only [List.mem_cons, not_or] at absent
    simp [pieces, Ne.symm absent.1, ih absent.2]

/-- A separator cuts a text in two, and each part has its own pieces. -/
theorem pieces_separator (separator : Char) (earlier later : List Char) :
    pieces separator (earlier ++ separator :: later) =
      pieces separator earlier ++ pieces separator later := by
  induction earlier with
  | nil => simp [pieces]
  | cons c rest ih =>
    rw [List.cons_append, pieces, pieces, ih]
    split
    · rfl
    · obtain ⟨piece, others, isSplit⟩ :=
        List.exists_cons_of_ne_nil (pieces_ne_nil separator rest)
      rw [isSplit]
      rfl

/-- The number that a nonempty sequence of decimal digits stands for. -/
def decimal? (digits : List Char) : Option Nat :=
  if digits ≠ [] ∧ digits.all Char.isDigit then some (Nat.ofDigitChars 10 digits 0) else none

theorem toList_toString (n : Nat) : (toString n).toList = Nat.toDigits 10 n := by
  simp [toString, Nat.repr]

theorem isDigit_of_mem_toString {n : Nat} {c : Char} (isMember : c ∈ (toString n).toList) :
    c.isDigit = true := by
  rw [toList_toString] at isMember
  exact Nat.isDigit_of_mem_toDigits (by decide) (by decide) isMember

theorem not_mem_toString {c : Char} (notDigit : c.isDigit = false) (n : Nat) :
    c ∉ (toString n).toList := by
  intro isMember
  rw [isDigit_of_mem_toString isMember] at notDigit
  cases notDigit

theorem toList_toString_ne_nil (n : Nat) : (toString n).toList ≠ [] := by
  intro isEmpty
  have := Nat.length_toDigits_pos (b := 10) (n := n)
  rw [toList_toString] at isEmpty
  simp [isEmpty] at this

/-- A number is read back from its decimal form. -/
theorem decimal?_toString (n : Nat) : decimal? (toString n).toList = some n := by
  have allDigits : (toString n).toList.all Char.isDigit = true :=
    List.all_eq_true.mpr fun c => isDigit_of_mem_toString
  rw [decimal?, if_pos ⟨toList_toString_ne_nil n, allDigits⟩, toList_toString,
    Nat.ofDigitChars_toDigits (by decide) (by decide)]

/-- A number below a power of ten has at most as many digits as the power has zeros. -/
theorem length_toString_le {n digits : Nat} (nonempty : 0 < digits) (below : n < Nat.pow 10 digits) :
    (toString n).toList.length ≤ digits := by
  rw [toList_toString]
  exact (Nat.length_toDigits_le_iff (by decide) nonempty).mpr below

/-- The decimal form of a positive number does not begin with a zero. -/
theorem head?_toString_ne {n : Nat} (positive : 0 < n) : (toString n).toList.head? ≠ some '0' := by
  rw [toList_toString]
  induction n using Nat.base_induction 10 (by decide) with
  | single digit small =>
    rw [Nat.toDigits_of_lt_base small, List.head?_cons, ne_eq, Option.some.injEq,
      Nat.digitChar_eq_zero]
    exact Nat.ne_of_gt positive
  | digit front last small frontPositive ih =>
    obtain ⟨first, rest, isFront⟩ :=
      List.exists_cons_of_ne_nil (Nat.toDigits_ne_nil (n := front) (b := 10))
    have isFirst := ih frontPositive
    rw [isFront] at isFirst
    rw [← Nat.toDigits_append_toDigits (by decide) frontPositive small, isFront]
    exact isFirst

end Testbed.Text
