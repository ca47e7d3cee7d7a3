import Mathlib.Data.List.Basic
import Testbed.Lab.Process

/-!
# What is read from a process table

A process table is a number of lines with line feeds between them. A row begins with the number of a
process; other lines, such as a header or an empty line, begin with something that no process number
is written as. What is read from a table are the numbers of the rows that a filter accepts. Each
line is read on its own: whatever stands in the other lines, it adds its number or nothing.

Results:
1. `pid?_isSome_iff`: the texts that are read as a process number.
2. `readPid?_row`, `wellFormed_other_iff`: what is read from one line.
3. `pids_intercalate`: what is read from lines with line feeds between them.
4. `pids_tableText`: the above for a table of rows and other lines.
-/

namespace Testbed.Lab

open Testbed.Text

/-! ## Definitions -/

/-- A text is written like a process number: a plus sign or none, digits, and a value that fits in
32 bits. -/
def IsNumeral (word : List Char) : Prop :=
  ∃ digits, (word = digits ∨ word = '+' :: digits) ∧ digits ≠ [] ∧
    (∀ c ∈ digits, c.isDigit = true) ∧ Nat.ofDigitChars 10 digits 0 < pidLimit

inductive TableLine where
  | row (indent : String) (pid : Nat) (gap : Char) (rest : String)
  | other (text : String)
deriving DecidableEq, Repr

namespace TableLine

def text : TableLine → String
  | row indent pid gap rest => indent ++ toString pid ++ String.singleton gap ++ rest
  | other text => text

/-- The number of the process that a row is about. -/
def number? : TableLine → Option Nat
  | row _ pid _ _ => some pid
  | other _ => none

/-- A row has only white space before and directly behind a number that fits in 32 bits. Any other
line is empty, or its first column is not written like a number. -/
def WellFormed : TableLine → Prop
  | row indent pid gap _ =>
    indent.toList.all isBlank = true ∧ pid < pidLimit ∧ isBlank gap = true
  | other text => ∀ word, firstWord? text.toList = some word → ¬ IsNumeral word

/-- What a line adds to the numbers that are found with a filter. -/
def found? (filter : Filter) (line : TableLine) : Option Nat :=
  if filter.accepts line.text then line.number? else none

end TableLine

def tableText (table : List TableLine) : String :=
  "\n".intercalate (table.map TableLine.text)

def readPid? (line : String) : Option Nat := (firstWord? line.toList).bind pid?

/-! ## Process numbers -/

/-- The value of digits, if there are any and the value fits. -/
theorem isSome_fitting_iff {digits : List Char} :
    ((decimal? digits).bind fun value => if value < pidLimit then some value else none).isSome =
        true ↔
      digits ≠ [] ∧ (∀ c ∈ digits, c.isDigit = true) ∧
        Nat.ofDigitChars 10 digits 0 < pidLimit := by
  unfold decimal?
  split
  · next isDecimal =>
    rw [Option.bind_some, Option.isSome_ite]
    exact ⟨fun fits => ⟨isDecimal.1, List.all_eq_true.mp isDecimal.2, fits⟩, fun all => all.2.2⟩
  · next notDecimal =>
    rw [Option.bind_none, Option.isSome_none]
    refine ⟨nofun, fun all => absurd ⟨all.1, ?_⟩ notDecimal⟩
    exact List.all_eq_true.mpr all.2.1

/-- Exactly the texts that are written like a process number are read as one. -/
theorem pid?_isSome_iff {word : List Char} : (pid? word).isSome = true ↔ IsNumeral word := by
  have noDigit : '+'.isDigit = false := by decide
  unfold pid?
  split
  · next digits =>
    refine isSome_fitting_iff.trans ⟨fun isDecimal => ⟨digits, .inr rfl, isDecimal⟩, ?_⟩
    rintro ⟨other, rfl | same, isDecimal⟩
    · rw [isDecimal.2.1 '+' (.head _)] at noDigit
      cases noDigit
    · exact (List.cons.inj same).2 ▸ isDecimal
  · next unsigned =>
    refine isSome_fitting_iff.trans ⟨fun isDecimal => ⟨word, .inl rfl, isDecimal⟩, ?_⟩
    rintro ⟨other, rfl | same, isDecimal⟩
    · exact isDecimal
    · exact absurd same (unsigned other)

theorem pid?_eq_none_iff {word : List Char} : pid? word = none ↔ ¬ IsNumeral word := by
  rw [← Option.not_isSome_iff_eq_none, pid?_isSome_iff]

/-! ## One line -/

theorem readPid?_row {indent rest : String} {pid : Nat} {gap : Char}
    (wellFormed : (TableLine.row indent pid gap rest).WellFormed) :
    readPid? (TableLine.row indent pid gap rest).text = some pid := by
  obtain ⟨blankIndent, fits, blankGap⟩ := wellFormed
  have parts : (TableLine.row indent pid gap rest).text.toList =
      indent.toList ++ (toString pid).toList ++ gap :: rest.toList := by
    simp [TableLine.text]
  have word : firstWord? (TableLine.row indent pid gap rest).text.toList =
      some (toString pid).toList := by
    rw [parts]
    refine firstWord?_append (List.all_eq_true.mp blankIndent) (toList_toString_ne_nil pid) ?_ ?_
    · exact fun c isDigit => isBlank_of_isDigit (isDigit_of_mem_toString isDigit)
    · rintro c ⟨⟩
      exact blankGap
  rw [readPid?, word, Option.bind_some, pid?_toString fits]

theorem wellFormed_other_iff {text : String} :
    (TableLine.other text).WellFormed ↔ readPid? text = none := by
  rw [readPid?, Option.bind_eq_none_iff]
  exact forall₂_congr fun word _ => pid?_eq_none_iff.symm

instance : DecidablePred TableLine.WellFormed
  | .row indent pid gap _ =>
    inferInstanceAs <| Decidable <|
      indent.toList.all isBlank = true ∧ pid < pidLimit ∧ isBlank gap = true
  | .other _ => decidable_of_iff _ wellFormed_other_iff.symm

theorem TableLine.WellFormed.readPid?_text {line : TableLine} (wellFormed : line.WellFormed) :
    readPid? line.text = line.number? := by
  cases line with
  | row indent pid gap rest => exact readPid?_row wellFormed
  | other text => exact wellFormed_other_iff.mp wellFormed

/-! ## All lines -/

def readAccepted? (filter : Filter) (line : String) : Option Nat :=
  if filter.accepts line then readPid? line else none

theorem TableLine.WellFormed.readAccepted?_text {line : TableLine} (wellFormed : line.WellFormed)
    (filter : Filter) : readAccepted? filter line.text = line.found? filter := by
  rw [readAccepted?, wellFormed.readPid?_text, found?]

theorem pids_intercalate (filter : Filter) {texts : List String}
    (whole : ∀ line ∈ texts, IsWhole line) :
    pids filter ("\n".intercalate texts) = texts.filterMap (readAccepted? filter) := by
  have byLines : pids filter ("\n".intercalate texts) =
      (lines ("\n".intercalate texts)).filterMap (readAccepted? filter) :=
    List.filterMap_filter
  have fromEmpty : readAccepted? filter "" = none := ite_self none
  rw [byLines]
  rcases lines_intercalate whole with same | same
  · rw [← same]
  · have lost := congrArg (List.filterMap (readAccepted? filter)) same
    rw [List.filterMap_append, List.filterMap_cons_none fromEmpty, List.filterMap_nil,
      List.append_nil] at lost
    exact lost.symm

theorem pids_eq_filterMap (filter : Filter) {table : List TableLine}
    (wellFormed : ∀ line ∈ table, line.WellFormed) (whole : ∀ line ∈ table, IsWhole line.text) :
    pids filter (tableText table) = table.filterMap (TableLine.found? filter) := by
  have wholeTexts : ∀ text ∈ table.map TableLine.text, IsWhole text := by
    intro text isText
    obtain ⟨line, isLine, rfl⟩ := List.mem_map.mp isText
    exact whole line isLine
  rw [tableText, pids_intercalate filter wholeTexts, List.filterMap_map]
  exact List.filterMap_congr fun line isLine => (wellFormed line isLine).readAccepted?_text filter

theorem found?_eq_none {filter : Filter} {line : TableLine}
    (adds : filter.accepts line.text = false ∨ line.number? = none) :
    line.found? filter = none := by
  rw [TableLine.found?]
  rcases adds with notAccepted | noRow
  · rw [notAccepted]
    rfl
  · rw [noRow, ite_self]

theorem filterMap_found?_append_cons (filter : Filter) (front back : List TableLine)
    (line : TableLine) :
    (front ++ line :: back).filterMap (TableLine.found? filter) =
      front.filterMap (TableLine.found? filter) ++ (line.found? filter).toList ++
        back.filterMap (TableLine.found? filter) := by
  rw [List.filterMap_append, List.filterMap_cons, List.append_assoc]
  cases line.found? filter with
  | none => rfl
  | some pid => rfl

/-- What is read from a table are the numbers of the rows that the filter accepts, in the order of
the table and as often as they stand there. Every line adds its own part between those of the lines
before and behind it, so a line that is not accepted or is no row changes nothing. -/
theorem pids_tableText (filter : Filter) {table : List TableLine}
    (wellFormed : ∀ line ∈ table, line.WellFormed) (whole : ∀ line ∈ table, IsWhole line.text) :
    pids filter (tableText table) =
      (table.filter fun line => filter.accepts line.text).filterMap TableLine.number? ∧
    ∀ front line back, table = front ++ line :: back →
      pids filter (tableText table) =
        pids filter (tableText front) ++ (line.found? filter).toList ++
          pids filter (tableText back) ∧
      (filter.accepts line.text = false ∨ line.number? = none →
        pids filter (tableText table) = pids filter (tableText (front ++ back))) := by
  have readPart : ∀ part : List TableLine, part ⊆ table →
      pids filter (tableText part) = part.filterMap (TableLine.found? filter) :=
    fun part included => pids_eq_filterMap filter
      (fun line inPart => wellFormed line (included inPart))
      fun line inPart => whole line (included inPart)
  have readAll := readPart table (List.Subset.refl table)
  refine ⟨?_, fun front line back isTable => ?_⟩
  · rw [readAll, List.filterMap_filter]
    rfl
  · have inFront : front ⊆ table := isTable ▸ List.subset_append_left front (line :: back)
    have inBack : back ⊆ table := by
      rw [isTable]
      exact fun other isBack => List.mem_append_right front (.tail line isBack)
    have byLine : pids filter (tableText table) =
        pids filter (tableText front) ++ (line.found? filter).toList ++
          pids filter (tableText back) := by
      rw [readAll, readPart front inFront, readPart back inBack, isTable,
        filterMap_found?_append_cons]
    refine ⟨byLine, fun adds => ?_⟩
    rw [byLine, found?_eq_none adds, readPart front inFront, readPart back inBack,
      readPart (front ++ back) (List.append_subset.mpr ⟨inFront, inBack⟩), List.filterMap_append,
      Option.toList_none, List.append_nil]

/-- A table with a header, a number that does not fit, a signed number, empty lines, and a process
that is listed twice. -/
def sampleTable : List TableLine :=
  [.other "  PID TTY      STAT   TIME COMMAND",
   .row "   " 4242 ' ' "pts/0    Ss+    0:00 bash -is mininet:SEAT",
   .other "4294967296 pts/1 Ss+ 0:00 bash -is mininet:SEAT",
   .row "" 4294967295 '\t' "pts/2 Ss+ 0:00 bash -is mininet:SEAT",
   .other "",
   .row "\u00a0" 7 ' ' "pts/3 Ss+ 0:00 bash -is mininet:SEAT-host",
   .other "-8 pts/4 Ss+ 0:00 bash -is mininet:SEAT",
   .row " " 4242 ' ' "pts/0 Ss+ 0:00 bash -is mininet:SEAT",
   .other ""]

/-- The greatest number that fits is read, and the first one that does not is passed over. Without
the line of the latter the same numbers are read. -/
theorem pids_tableText_sampleTable :
    let filter := (Filter.ofNode {} "SEAT").excluding "host"
    (∀ line ∈ sampleTable, line.WellFormed) ∧ (∀ line ∈ sampleTable, IsWhole line.text) ∧
    pids filter (tableText sampleTable) = [4242, 4294967295, 4242] ∧
    pids filter (tableText (sampleTable.take 2 ++ sampleTable.drop 3)) =
      [4242, 4294967295, 4242] := by
  intro filter
  have wellFormed : ∀ line ∈ sampleTable, line.WellFormed := by decide +kernel
  have whole : ∀ line ∈ sampleTable, IsWhole line.text := by decide +kernel
  obtain ⟨numbers, byLine⟩ := pids_tableText filter wellFormed whole
  have isRead : pids filter (tableText sampleTable) = [4242, 4294967295, 4242] :=
    numbers.trans (by decide +kernel)
  refine ⟨wellFormed, whole, isRead, ?_⟩
  exact ((byLine _ _ _ rfl).2 (.inr rfl)).symm.trans isRead

end Testbed.Lab
