import Testbed.Proofs.DryRunLine

/-!
# The printed lookup and the filter

A filter that is typed for a shell is a chain of `grep` commands between the listing of the
processes and `awk`. The text can be read back: it holds one stage for every text of the filter,
and nothing else. Each stage passes on a part of what it reads, and what comes out of the last one
are the lines that the filter accepts, in the order of the listing. So the filter is known from
what is typed for it.

Results:
1. `isPlain_of_isSimple`, `isFixed_of_isSimple`: texts that neither a shell nor `grep` takes for
   anything but themselves.
2. `read_lookup`: what is read of a filter that was typed.
3. `runStages_stages`: what the chain lets through.
4. `stages_select_accepted`: the above together, with what the typed form says about a filter.
-/

namespace Testbed.Lab

open Testbed.Shell Testbed.Text

/-! ## Definitions -/

/-- Whether a character stands for itself in a pattern and on a command line. -/
def isSimpleChar (c : Char) : Bool := c.isAlphanum || "_:/-".toList.contains c

/-- Whether a text stands for itself as the pattern of a `grep`: it is no option either. -/
def isSimple (text : List Char) : Bool :=
  !text.isEmpty && text.head? != some '-' && text.all isSimpleChar

namespace Filter

/-- The texts that a filter is about: those that a line has to hold, and those that it may not. -/
def texts (filter : Filter) : List String := filter.mark :: filter.shell :: filter.excluded

def stages (filter : Filter) : List (List Word) :=
  [[.literal "grep", .literal filter.mark], [.literal "grep", .literal filter.shell]] ++
    filter.excluded.map fun text => [.literal "grep", .literal "-v", .literal text]

end Filter

/-! ## Simple texts -/

theorem isPlainChar_of_isSimpleChar {c : Char} (simple : isSimpleChar c = true) :
    isPlainChar c = true := by
  have included : "_:/-".toList.all "-_./:=@%+,".toList.contains = true := by decide
  simp only [isSimpleChar, Bool.or_eq_true, List.contains_iff_mem] at simple
  rw [isPlainChar, Bool.or_eq_true, List.contains_iff_mem]
  exact simple.imp_right fun inText =>
    List.contains_iff_mem.mp (List.all_eq_true.mp included c inText)

theorem not_patternChar_of_isSimpleChar {c : Char} (simple : isSimpleChar c = true) :
    c ∉ patternChars := by
  have excluded : patternChars.all (fun c => !isSimpleChar c) = true := by decide
  intro special
  have notSimple := List.all_eq_true.mp excluded c special
  rw [simple] at notSimple
  cases notSimple

theorem isSimple_iff {text : List Char} :
    isSimple text = true ↔
      text ≠ [] ∧ text.head? ≠ some '-' ∧ ∀ c ∈ text, isSimpleChar c = true := by
  simp [isSimple, and_assoc]

theorem isPlain_of_isSimple {text : List Char} (simple : isSimple text = true) :
    isPlain text = true := by
  obtain ⟨nonempty, -, chars⟩ := isSimple_iff.mp simple
  exact isPlain_iff.mpr ⟨nonempty, fun c inText => isPlainChar_of_isSimpleChar (chars c inText)⟩

theorem isFixed_of_isSimple {text : List Char} (simple : isSimple text = true) :
    isFixed text = true := by
  obtain ⟨-, noOption, chars⟩ := isSimple_iff.mp simple
  rw [isFixed, Bool.and_eq_true, bne_iff_ne, List.all_eq_true]
  refine ⟨noOption, fun c inText => ?_⟩
  simpa using not_patternChar_of_isSimpleChar (chars c inText)

/-! ## Stages and patterns -/

theorem Filter.stages_eq (filter : Filter) :
    filter.stages = filter.patterns.map Pattern.stage := by
  simp [stages, patterns, Pattern.stage, Function.comp_def]

theorem Filter.texts_eq (filter : Filter) : filter.patterns.map Pattern.text = filter.texts := by
  simp [texts, patterns, Function.comp_def]

theorem simple_of_mem_patterns {filter : Filter}
    (simple : ∀ text ∈ filter.texts, isSimple text.toList = true) :
    ∀ pattern ∈ filter.patterns, isSimple pattern.text.toList = true := by
  intro pattern isPattern
  refine simple pattern.text ?_
  rw [← filter.texts_eq]
  exact List.mem_map_of_mem isPattern

theorem stage_injective : Function.Injective Pattern.stage := by
  rintro ⟨left, leftOver⟩ ⟨right, rightOver⟩ same
  cases leftOver <;> cases rightOver <;> simp_all [Pattern.stage]

theorem lookupStages_injective : Function.Injective lookupStages := by
  intro left right same
  rw [lookupStages, lookupStages, List.append_cancel_right_eq, List.append_cancel_left_eq] at same
  exact stage_injective.list_map same

/-- A filter accepts lines by its patterns only, and not by its name. -/
theorem accepts_congr {left right : Filter} (same : left.patterns = right.patterns)
    (line : String) : left.accepts line = right.accepts line := by
  rw [← String.ofList_toList (s := line), accepts_ofList, accepts_ofList, same]

/-! ## Reading the chain back -/

theorem read_lookup {filter : Filter}
    (plain : ∀ pattern ∈ filter.patterns, isPlain pattern.text.toList = true) :
    (read filter.shellText.toList).map partsOf =
        some [[[.assignment "pid" filter.lookupText]]] ∧
      (read filter.lookupText).map partsOf = some [lookupStages filter.patterns] :=
  ⟨(isStage_shellText plain).isPart.read, (isPart_lookupText plain).read⟩

/-- Filters that are typed alike have the same patterns. -/
theorem patterns_of_shellText {left right : Filter}
    (plainLeft : ∀ pattern ∈ left.patterns, isPlain pattern.text.toList = true)
    (plainRight : ∀ pattern ∈ right.patterns, isPlain pattern.text.toList = true)
    (same : left.shellText = right.shellText) : left.patterns = right.patterns := by
  obtain ⟨readLeft, stagesLeft⟩ := read_lookup plainLeft
  obtain ⟨readRight, stagesRight⟩ := read_lookup plainRight
  rw [same, readRight] at readLeft
  have sameScript : right.lookupText = left.lookupText := by simpa using readLeft
  rw [← sameScript, stagesRight] at stagesLeft
  have sameStages : lookupStages right.patterns = lookupStages left.patterns := by
    simpa using stagesLeft
  exact (lookupStages_injective sameStages).symm

/-! ## Running the chain -/

theorem runStages_stages {filter : Filter}
    (fixed : ∀ pattern ∈ filter.patterns, isFixed pattern.text.toList = true)
    (listing : List Char) (written : Written) :
    ∃ kept, runStages listing filter.stages written = some kept ∧
      feedLines kept.output =
        (feedLines written.output).filter fun line => filter.accepts (String.ofList line) := by
  obtain ⟨kept, isKept, linesKept⟩ := runStages_patterns listing fixed written
  refine ⟨kept, ?_, ?_⟩
  · rw [filter.stages_eq, isKept]
  · simp only [linesKept, accepts_ofList]

/-- What is typed for a filter is read as the listing of the processes, one `grep` for each text
that a line has to hold, one `grep -v` for each that it may not, and the program that prints the
first column. The lines of a listing that come out of the chain are those that the filter accepts,
in their order, which are the lines that the live lab accepts but for carriage returns at their
ends. Filters that are typed alike accept the same lines. -/
theorem stages_select_accepted {filter : Filter}
    (simple : ∀ text ∈ filter.texts, isSimple text.toList = true) :
    (read filter.shellText.toList).map partsOf =
      some [[[.assignment "pid" filter.lookupText]]] ∧
    (read filter.lookupText).map partsOf =
      some [[[.literal "eval", .literal "ps", .literal "ax"]] ++ filter.stages ++
        [[.literal "awk", .literal "\x7bprint $1\x7d;"]]] ∧
    (∀ table : String, ∃ kept,
      runStages table.toList filter.stages ⟨table.toList, true⟩ = some kept ∧
      feedLines kept.output =
        (feedLines table.toList).filter (fun line => filter.accepts (String.ofList line)) ∧
      List.Forall₂ (fun raw line => raw = line.toList ∨ raw = line.toList ++ ['\r'])
        (feedLines kept.output) ((lines table).filter filter.accepts)) ∧
    ∀ other : Filter, (∀ text ∈ other.texts, isSimple text.toList = true) →
      other.shellText = filter.shellText → ∀ line, other.accepts line = filter.accepts line := by
  have own := simple_of_mem_patterns simple
  have plain := fun pattern isPattern => isPlain_of_isSimple (own pattern isPattern)
  have fixed := fun pattern isPattern => isFixed_of_isSimple (own pattern isPattern)
  obtain ⟨readAssignment, readStages⟩ := read_lookup plain
  refine ⟨readAssignment, ?_, fun table => ?_, fun other otherSimple same line => ?_⟩
  · rw [readStages, lookupStages, filter.stages_eq]
  · obtain ⟨kept, isKept, linesKept⟩ := runStages_stages fixed table.toList ⟨table.toList, true⟩
    refine ⟨kept, isKept, linesKept, ?_⟩
    rw [linesKept, lines, List.filter_map, List.forall₂_map_right_iff]
    simpa [Function.comp_def] using forall₂_accepted plain table.toList
  · have otherPlain := fun pattern isPattern =>
      isPlain_of_isSimple (simple_of_mem_patterns otherSimple pattern isPattern)
    exact accepts_congr (patterns_of_shellText otherPlain plain same) line

/-- The filter of a router whose name is a part of the name of its host, and which is typed with two
texts to pass over. A line with a carriage return at its end comes out with it. -/
theorem stages_select_accepted_seattle :
    (∀ text ∈ seattle.texts, isSimple text.toList = true) ∧
    (read seattle.lookupText).map partsOf =
      some [[[.literal "eval", .literal "ps", .literal "ax"],
        [.literal "grep", .literal "mininet:SEAT"], [.literal "grep", .literal "bash"],
        [.literal "grep", .literal "-v", .literal "mxexec"],
        [.literal "grep", .literal "-v", .literal "host"],
        [.literal "awk", .literal "\x7bprint $1\x7d;"]]] ∧
    let table := "7 bash mininet:SEAT\r\n8 bash mininet:SEAT-host\n9 bash mininet:SEAT"
    ∃ kept, runStages table.toList seattle.stages ⟨table.toList, true⟩ = some kept ∧
      feedLines kept.output =
        ["7 bash mininet:SEAT\r".toList, "9 bash mininet:SEAT".toList] := by
  have simple : ∀ text ∈ seattle.texts, isSimple text.toList = true := by decide
  obtain ⟨-, readStages, selected, -⟩ := stages_select_accepted simple
  refine ⟨simple, readStages, ?_⟩
  obtain ⟨kept, isKept, linesKept, -⟩ :=
    selected "7 bash mininet:SEAT\r\n8 bash mininet:SEAT-host\n9 bash mininet:SEAT"
  exact ⟨kept, isKept, linesKept.trans (by decide +kernel)⟩

end Testbed.Lab
