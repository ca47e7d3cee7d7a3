/-!
# Lines of a text

A text is cut at its line feeds. One carriage return directly before a line feed belongs to the
line end and is dropped with it, so files with either line ending read alike. What follows the last
line feed is a line of its own only if it is not empty, and keeps a carriage return at its end.

Results: `splitLines_line_feed`, `splitLines_cons`, `splitLines_append_line_feed` (how one line is cut
off), `not_mem_of_mem_splitLines` (no line holds a line feed), `lines_joinLines`, `lines_intercalate`
(lines are read back as they were written).
-/

namespace Testbed.Text

def splitLines : List Char → List (List Char)
  | [] => []
  | '\n' :: rest => [] :: splitLines rest
  | '\r' :: '\n' :: rest => [] :: splitLines rest
  | c :: rest =>
    match splitLines rest with
    | [] => [[c]]
    | line :: lines => (c :: line) :: lines

def lines (text : String) : List String :=
  (splitLines text.toList).map String.ofList

/-- A text that is one line wherever it is written: it holds no line feed, and no carriage return at
its end. -/
def IsWhole (line : String) : Prop := '\n' ∉ line.toList ∧ line.toList.getLast? ≠ some '\r'

instance (line : String) : Decidable (IsWhole line) := inferInstanceAs (Decidable (_ ∧ _))

/-- The text of some lines. Every line is ended. -/
def joinLines (texts : List String) : String := String.join (texts.map (· ++ "\n"))

@[simp] theorem splitLines_line_feed (rest : List Char) :
    splitLines ('\n' :: rest) = [] :: splitLines rest := by
  simp [splitLines]

@[simp] theorem splitLines_return_line_feed (rest : List Char) :
    splitLines ('\r' :: '\n' :: rest) = [] :: splitLines rest := by
  simp [splitLines]

/-- A character that is part of no line end is put in front of the first line that follows. -/
theorem splitLines_cons {c : Char} {rest : List Char} (noLineFeed : c ≠ '\n')
    (noLineEnd : c = '\r' → rest.head? ≠ some '\n') :
    splitLines (c :: rest) =
      match splitLines rest with
      | [] => [[c]]
      | line :: lines => (c :: line) :: lines := by
  rw [splitLines.eq_4]
  · intro isLineFeed
    exact absurd isLineFeed noLineFeed
  · intro tail isReturn isTail
    exact absurd (by simp [isTail]) (noLineEnd isReturn)

/-- A line that holds no line feed and does not end with a carriage return is cut off as it is. -/
theorem splitLines_append_line_feed {line : List Char} (noLineFeed : '\n' ∉ line)
    (noReturn : line.getLast? ≠ some '\r') (rest : List Char) :
    splitLines (line ++ '\n' :: rest) = line :: splitLines rest := by
  induction line with
  | nil => exact splitLines_line_feed rest
  | cons c tail ih =>
    simp only [List.mem_cons, not_or] at noLineFeed
    have behind : splitLines (tail ++ '\n' :: rest) = tail :: splitLines rest := by
      refine ih noLineFeed.2 fun isReturn => noReturn ?_
      rw [List.getLast?_cons, isReturn, Option.getD_some]
    have noLineEnd : c = '\r' → (tail ++ '\n' :: rest).head? ≠ some '\n' := by
      rintro rfl
      cases tail with
      | nil => exact absurd rfl noReturn
      | cons d tail =>
        simp only [List.cons_append, List.head?_cons, ne_eq, Option.some.injEq]
        rintro rfl
        exact noLineFeed.2 (.head _)
    rw [List.cons_append, splitLines_cons (Ne.symm noLineFeed.1) noLineEnd, behind]

theorem not_mem_of_mem_splitLines {text line : List Char} (isLine : line ∈ splitLines text) :
    '\n' ∉ line := by
  fun_induction splitLines text generalizing line with
  | case1 => simp at isLine
  | case2 rest ih =>
    rcases List.mem_cons.mp isLine with rfl | later
    · simp
    · exact ih later
  | case3 rest ih =>
    rcases List.mem_cons.mp isLine with rfl | later
    · simp
    · exact ih later
  | case4 c rest noLineFeed _ isLast ih =>
    simp only [List.mem_cons, List.not_mem_nil, or_false] at isLine
    subst isLine
    simpa using Ne.symm noLineFeed
  | case5 c rest noLineFeed _ first later cut ih =>
    rcases List.mem_cons.mp isLine with rfl | inLater
    · have : '\n' ∉ first := ih (by simp [cut])
      simp [this, Ne.symm noLineFeed]
    · exact ih (by simp [cut, inLater])

/-! ## Lines that are written -/

theorem lines_append_line_feed {line : String} (whole : IsWhole line) (rest : String) :
    lines (line ++ "\n" ++ rest) = line :: lines rest := by
  have parts : (line ++ "\n" ++ rest).toList = line.toList ++ '\n' :: rest.toList := by simp
  rw [lines, parts, splitLines_append_line_feed whole.1 whole.2, List.map_cons,
    String.ofList_toList]
  rfl

theorem joinLines_cons (line : String) (later : List String) :
    joinLines (line :: later) = line ++ "\n" ++ joinLines later := by
  rw [joinLines, List.map_cons, String.join_cons]
  rfl

/-- Lines are read back if all of them are ended. -/
theorem lines_joinLines {texts : List String} (whole : ∀ line ∈ texts, IsWhole line) :
    lines (joinLines texts) = texts := by
  induction texts with
  | nil => rfl
  | cons line later ih =>
    rw [joinLines_cons, lines_append_line_feed (whole line (.head _)),
      ih fun line isLater => whole line (.tail _ isLater)]

/-- What follows the last line feed is one line, unless it is empty. -/
theorem splitLines_of_not_mem {line : List Char} (noLineFeed : '\n' ∉ line) (nonempty : line ≠ []) :
    splitLines line = [line] := by
  induction line with
  | nil => exact absurd rfl nonempty
  | cons c rest ih =>
    simp only [List.mem_cons, not_or] at noLineFeed
    have noLineEnd : c = '\r' → rest.head? ≠ some '\n' :=
      fun _ isHead => noLineFeed.2 (List.mem_of_head? isHead)
    rw [splitLines_cons (Ne.symm noLineFeed.1) noLineEnd]
    cases rest with
    | nil => rfl
    | cons d rest => rw [ih noLineFeed.2 (List.cons_ne_nil d rest)]

/-- Lines with line feeds between them are read back too, but an empty last line is lost. -/
theorem lines_intercalate {texts : List String} (whole : ∀ line ∈ texts, IsWhole line) :
    texts = lines ("\n".intercalate texts) ∨ texts = lines ("\n".intercalate texts) ++ [""] := by
  induction texts with
  | nil => exact .inl rfl
  | cons line later ih =>
    cases later with
    | nil =>
      rw [String.intercalate_singleton]
      by_cases isEmpty : line = ""
      · exact .inr (by rw [isEmpty]; rfl)
      · have isLast := splitLines_of_not_mem (whole line (.head _)).1
          fun noChar => isEmpty (String.toList_eq_nil_iff.mp noChar)
        exact .inl (by rw [lines, isLast, List.map_singleton, String.ofList_toList])
    | cons second later =>
      rw [String.intercalate_cons_cons, lines_append_line_feed (whole line (.head _))]
      rcases ih fun line isLater => whole line (.tail _ isLater) with same | same
      · exact .inl (congrArg (line :: ·) same)
      · exact .inr (congrArg (line :: ·) same)

end Testbed.Text
