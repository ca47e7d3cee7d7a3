import Testbed.Lab.Process
import Testbed.Proofs.ShellReading

/-!
# What a shell does with a line

A shell runs the parts of a line one after the other, as long as each succeeds. An assignment of a
command in backquotes runs the pipeline between them, and it succeeds if the last program of the
pipeline does. A variable outside of quotes is cut into fields, of which each is a word of its own. The
programs that look up a process are modelled by what they write: `ps`, `grep` with patterns that mean
only themselves, and `awk` with the program that prints the first column. All other commands are only
recorded. Names of files are not filled in, as after `set -f`, and a line that holds anything else has
no result.

Results:
1. `feedLines_ended`, `fields_ended`: lines and fields are read back as they were written.
2. `runStages_patterns`, `runStages_lookup`: a chain of `grep` keeps the lines that every pattern lets
   through, and the lookup behind it always succeeds.
3. `run_assignment`: a line that assigns a variable and then runs a command with it.
-/

namespace Testbed.Shell

open Testbed.Lab

/-! ## Definitions -/

/-- The lines of a text for the programs of a pipeline. They end at line feeds only. -/
def feedLines : List Char → List (List Char)
  | [] => []
  | '\n' :: rest => [] :: feedLines rest
  | c :: rest =>
    match feedLines rest with
    | [] => [[c]]
    | line :: lines => (c :: line) :: lines

/-- Lines as a program writes them. -/
def ended (lines : List (List Char)) : List Char := lines.flatMap fun line => line ++ ['\n']

/-- Whether a character stands between two fields. -/
def isGap (c : Char) : Bool := c == ' ' || c == '\t' || c == '\n'

def column (line : List Char) : List Char :=
  (line.dropWhile isGap).takeWhile fun c => !isGap c

def fields (value : List Char) : List (List Char) :=
  (value.splitOnP isGap).filter fun field => !field.isEmpty

/-- The characters with a meaning in a pattern. -/
def patternChars : List Char := ['.', '[', ']', '*', '^', '$', '\\', '\n']

/-- Whether `grep` takes a text for a pattern that means only itself. -/
def isFixed (pattern : List Char) : Bool :=
  pattern.head? != some '-' && pattern.all fun c => !patternChars.contains c

/-- What a program of a pipeline leaves behind. -/
structure Written where
  output : List Char
  succeeded : Bool
deriving DecidableEq, Repr

/-- The lines that a pattern occurs in, or all others. -/
def grep (pattern : String) (others : Bool) (input : List Char) : Option Written :=
  if isFixed pattern.toList then
    let selected := (feedLines input).filter fun line => occursIn pattern.toList line != others
    some ⟨ended selected, !selected.isEmpty⟩
  else none

def Word.isPlain : Word → Bool
  | literal text => Shell.isPlain text.toList
  | _ => false

/-- Runs one program of a pipeline. The process listing has to be text. -/
def runStage (listing : List Char) : List Word → List Char → Option Written
  | [.literal "ps", .literal "ax"], _ =>
    if '\x00' ∈ listing then none else some ⟨listing, true⟩
  | .literal "eval" :: words, input =>
    if words.all Word.isPlain then runStage listing words input else none
  | [.literal "grep", .literal pattern], input => grep pattern false input
  | [.literal "grep", .literal "-v", .literal pattern], input => grep pattern true input
  | [.literal "awk", .literal "\x7bprint $1\x7d;"], input =>
    some ⟨ended ((feedLines input).map column), true⟩
  | _, _ => none

def runStages (listing : List Char) : List (List Word) → Written → Option Written
  | [], written => some written
  | words :: later, written =>
    (runStage listing words written.output).bind (runStages listing later)

/-- Runs a command in backquotes, without any input. -/
def substitute (listing script : List Char) : Option Written := do
  match partsOf (← read script) with
  | [stages] => runStages listing stages ⟨[], true⟩
  | _ => none

/-- The variables that are set, with their values. -/
abbrev Environment := List (String × List Char)

/-- The words that a word expands to. -/
def Word.expand (environment : Environment) : Word → Option (List String)
  | literal text => some [text]
  | expansion name => some ((fields ((environment.lookup name).getD [])).map String.ofList)
  | assignment _ _ | other => none

def expandAll (environment : Environment) : List Word → Option (List String)
  | [] => some []
  | word :: later => do
    let first ← word.expand environment
    let behind ← expandAll environment later
    some (first ++ behind)

/-- The words that are no commands where a command begins. -/
def reservedWords : List String :=
  ["case", "coproc", "do", "done", "elif", "else", "esac", "fi", "for", "function", "if", "in",
   "select", "then", "time", "until", "while"]

def isProgram (word : String) : Bool := !reservedWords.contains word && !word.toList.contains '='

def command? (environment : Environment) : List Word → Option (List String)
  | .literal program :: words =>
    if isProgram program then (expandAll environment words).map (program :: ·) else none
  | _ => none

/-- Runs the parts of a list, and lists the commands that are run. What comes of a command is not
known, so it is the last one. -/
def runParts (listing : List Char) :
    Environment → List (List (List Word)) → Option (List (List String))
  | _, [] => some []
  | environment, [[.assignment name script]] :: later => do
    let written ← substitute listing script
    if written.succeeded then
      let value := (written.output.reverse.dropWhile (· == '\n')).reverse
      runParts listing ((name, value) :: environment) later
    else some []
  | environment, [[words]] => (command? environment words).map ([·])
  | _, _ => none

/-- The commands that a line runs on a machine with this process listing, those in backquotes apart. -/
def run (listing line : String) : Option (List (List String)) := do
  runParts listing.toList [] (partsOf (← read line.toList))

/-! ## Lines and fields -/

theorem feedLines_cons {c : Char} (noLineFeed : c ≠ '\n') (rest : List Char) :
    feedLines (c :: rest) =
      match feedLines rest with
      | [] => [[c]]
      | line :: lines => (c :: line) :: lines := by
  rw [feedLines.eq_3]
  exact noLineFeed

theorem feedLines_append_line_feed {line : List Char} (noLineFeed : '\n' ∉ line)
    (rest : List Char) : feedLines (line ++ '\n' :: rest) = line :: feedLines rest := by
  induction line with
  | nil => rfl
  | cons c line ih =>
    simp only [List.mem_cons, not_or] at noLineFeed
    rw [List.cons_append, feedLines_cons (Ne.symm noLineFeed.1), ih noLineFeed.2]

theorem feedLines_ended {lines : List (List Char)} (whole : ∀ line ∈ lines, '\n' ∉ line) :
    feedLines (ended lines) = lines := by
  induction lines with
  | nil => rfl
  | cons line lines ih =>
    have behind := ih fun other isOther => whole other (.tail _ isOther)
    simp only [ended, List.flatMap_cons, List.append_assoc, List.singleton_append] at behind ⊢
    rw [feedLines_append_line_feed (whole line (.head _)), behind]

theorem not_mem_of_mem_feedLines {text line : List Char} (isLine : line ∈ feedLines text) :
    '\n' ∉ line := by
  fun_induction feedLines text generalizing line with
  | case1 => simp at isLine
  | case2 rest ih =>
    rcases List.mem_cons.mp isLine with rfl | later
    · simp
    · exact ih later
  | case3 c rest noLineFeed isLast ih =>
    simp only [List.mem_cons, List.not_mem_nil, or_false] at isLine
    subst isLine
    simpa using Ne.symm noLineFeed
  | case4 c rest noLineFeed first later cut ih =>
    rcases List.mem_cons.mp isLine with rfl | inLater
    · simpa [Ne.symm noLineFeed] using ih (by simp [cut] : first ∈ feedLines rest)
    · exact ih (by simp [cut, inLater])

theorem isGap_iff {c : Char} : isGap c = true ↔ c = ' ' ∨ c = '\t' ∨ c = '\n' := by
  simp [isGap, or_assoc]

theorem fields_append_gap {c : Char} (gap : isGap c = true) (front back : List Char) :
    fields (front ++ c :: back) = fields front ++ fields back := by
  rw [fields, List.splitOnP_append_cons front back gap, List.filter_append]
  rfl

theorem fields_of_gaps {text : List Char} (gaps : ∀ c ∈ text, isGap c = true) :
    fields text = [] := by
  induction text with
  | nil => rfl
  | cons c text ih =>
    have behind := ih fun d inText => gaps d (.tail _ inText)
    rw [← List.nil_append (c :: text), fields_append_gap (gaps c (.head _)), behind]
    rfl

/-- Gaps at the end of a text add no field. -/
theorem fields_append_gaps {gaps : List Char} (areGaps : ∀ c ∈ gaps, isGap c = true)
    (text : List Char) : fields (text ++ gaps) = fields text := by
  cases gaps with
  | nil => rw [List.append_nil]
  | cons c gaps =>
    rw [fields_append_gap (areGaps c (.head _)),
      fields_of_gaps fun d inGaps => areGaps d (.tail _ inGaps), List.append_nil]

/-- Line feeds at the end of a value add no field. -/
theorem fields_dropEnd (value : List Char) :
    fields (value.reverse.dropWhile (· == '\n')).reverse = fields value := by
  have split : value = (value.reverse.dropWhile (· == '\n')).reverse ++
      (value.reverse.takeWhile (· == '\n')).reverse := by
    rw [← List.reverse_append, List.takeWhile_append_dropWhile, List.reverse_reverse]
  have gaps : ∀ c ∈ (value.reverse.takeWhile (· == '\n')).reverse, isGap c = true := by
    intro c isMember
    rw [List.mem_reverse] at isMember
    have isLineFeed := List.all_eq_true.mp List.all_takeWhile c isMember
    rw [beq_iff_eq] at isLineFeed
    rw [isLineFeed]
    rfl
  conv => rhs; rw [split, fields_append_gaps gaps]

theorem fields_of_word {word : List Char} (nonempty : word ≠ [])
    (noGap : ∀ c ∈ word, isGap c = false) : fields word = [word] := by
  rw [fields, List.splitOnP_eq_singleton noGap]
  simp [nonempty]

/-- Words are read back from the lines that they were written in. -/
theorem fields_ended {words : List (List Char)} (nonempty : ∀ word ∈ words, word ≠ [])
    (noGap : ∀ word ∈ words, ∀ c ∈ word, isGap c = false) : fields (ended words) = words := by
  induction words with
  | nil => rfl
  | cons word words ih =>
    have behind := ih (fun other isOther => nonempty other (.tail _ isOther))
      fun other isOther => noGap other (.tail _ isOther)
    have first := fields_of_word (nonempty word (.head _)) (noGap word (.head _))
    simp only [ended, List.flatMap_cons, List.append_assoc, List.singleton_append] at behind ⊢
    rw [fields_append_gap rfl, first, behind]
    rfl

theorem not_gap_of_mem_column {line : List Char} {c : Char} (inColumn : c ∈ column line) :
    isGap c = false := by
  simpa using List.all_eq_true.mp List.all_takeWhile c inColumn

theorem column_ne_nil {line : List Char} {c : Char} (inLine : c ∈ line) (noGap : isGap c = false) :
    column line ≠ [] := by
  induction line with
  | nil => cases inLine
  | cons d line ih =>
    cases gap : isGap d with
    | false => simp [column, gap]
    | true =>
      rcases List.mem_cons.mp inLine with rfl | inRest
      · rw [gap] at noGap
        cases noGap
      · simpa [column, gap] using ih inRest

/-! ## Chains of patterns -/

/-- A text that lines hold, or, if it is passed over, do not hold. -/
structure Pattern where
  text : String
  passedOver : Bool
deriving DecidableEq, Repr

namespace Pattern

def keeps (pattern : Pattern) (line : List Char) : Bool :=
  occursIn pattern.text.toList line != pattern.passedOver

def stage (pattern : Pattern) : List Word :=
  .literal "grep" :: (if pattern.passedOver then [.literal "-v"] else []) ++ [.literal pattern.text]

end Pattern

theorem runStage_pattern (listing input : List Char) {pattern : Pattern}
    (fixed : isFixed pattern.text.toList = true) :
    runStage listing pattern.stage input =
      some ⟨ended ((feedLines input).filter pattern.keeps),
        !((feedLines input).filter pattern.keeps).isEmpty⟩ := by
  obtain ⟨text, passedOver⟩ := pattern
  cases passedOver with
  | false =>
    simp only [Pattern.stage, Bool.false_eq_true, if_false, List.cons_append, List.nil_append,
      runStage]
    exact if_pos fixed
  | true =>
    simp only [Pattern.stage, if_true, List.cons_append, List.nil_append, runStage]
    exact if_pos fixed

/-- A chain of patterns keeps the lines that every pattern lets through, in order. -/
theorem runStages_patterns (listing : List Char) {patterns : List Pattern}
    (fixed : ∀ pattern ∈ patterns, isFixed pattern.text.toList = true) (written : Written) :
    ∃ kept, runStages listing (patterns.map Pattern.stage) written = some kept ∧
      feedLines kept.output =
        (feedLines written.output).filter fun line => patterns.all (·.keeps line) := by
  induction patterns generalizing written with
  | nil => exact ⟨written, rfl, (List.filter_eq_self.mpr fun _ _ => rfl).symm⟩
  | cons pattern patterns ih =>
    have first := runStage_pattern listing written.output (fixed pattern (.head _))
    obtain ⟨kept, isKept, linesKept⟩ :=
      ih (fun other isOther => fixed other (.tail _ isOther))
        ⟨ended ((feedLines written.output).filter pattern.keeps),
          !((feedLines written.output).filter pattern.keeps).isEmpty⟩
    refine ⟨kept, ?_, ?_⟩
    · rw [List.map_cons, runStages, first, Option.bind_some, isKept]
    · have whole : ∀ line ∈ (feedLines written.output).filter pattern.keeps, '\n' ∉ line :=
        fun line isLine => not_mem_of_mem_feedLines (List.mem_filter.mp isLine).1
      rw [linesKept, feedLines_ended whole, List.filter_filter]
      simp [Bool.and_comm]

theorem runStages_append (listing : List Char) (front back : List (List Word)) (written : Written) :
    runStages listing (front ++ back) written =
      (runStages listing front written).bind (runStages listing back) := by
  induction front generalizing written with
  | nil => rfl
  | cons words front ih =>
    simp only [List.cons_append, runStages]
    cases runStage listing words written.output with
    | none => rfl
    | some next => exact ih next

/-- The stages that look up first columns. -/
def lookupStages (patterns : List Pattern) : List (List Word) :=
  [[.literal "eval", .literal "ps", .literal "ax"]] ++ patterns.map Pattern.stage ++
    [[.literal "awk", .literal "\x7bprint $1\x7d;"]]

theorem runStages_lookup {listing : List Char} (isText : '\x00' ∉ listing) {patterns : List Pattern}
    (fixed : ∀ pattern ∈ patterns, isFixed pattern.text.toList = true) (written : Written) :
    runStages listing (lookupStages patterns) written =
      some ⟨ended (((feedLines listing).filter fun line =>
        patterns.all (·.keeps line)).map column), true⟩ := by
  have listed : runStages listing [[.literal "eval", .literal "ps", .literal "ax"]] written =
      some ⟨listing, true⟩ := by
    simp only [runStages, runStage, if_neg isText]
    rfl
  obtain ⟨kept, isKept, linesKept⟩ := runStages_patterns listing fixed ⟨listing, true⟩
  rw [lookupStages, runStages_append, runStages_append, listed, Option.bind_some, isKept,
    Option.bind_some, ← linesKept]
  rfl

/-! ## Lines that assign a variable -/

theorem substitute_of_isPart {script : List Char} {stages : List (List Word)}
    (isPart : IsPart script stages) (listing : List Char) :
    substitute listing script = runStages listing stages ⟨[], true⟩ := by
  obtain ⟨symbols, isRead, isParts⟩ := Option.map_eq_some_iff.mp isPart.read
  simp only [substitute, isRead, bind, Option.bind_some, isParts]

theorem expandAll_append {environment : Environment} {front back : List Word}
    {before behind : List String} (isFront : expandAll environment front = some before)
    (isBack : expandAll environment back = some behind) :
    expandAll environment (front ++ back) = some (before ++ behind) := by
  induction front generalizing before with
  | nil =>
    cases isFront
    exact isBack
  | cons word front ih =>
    simp only [expandAll, bind, Option.bind_eq_some_iff] at isFront
    obtain ⟨first, isFirst, later, isLater, isBefore⟩ := isFront
    cases isBefore
    simp only [List.cons_append, expandAll, isFirst, ih isLater, bind, Option.bind_some,
      List.append_assoc]

theorem expandAll_literal (environment : Environment) (words : List String) :
    expandAll environment (words.map .literal) = some words := by
  induction words with
  | nil => rfl
  | cons word words ih => simp [expandAll, Word.expand, ih]

/-- A line that assigns a variable and then runs a command. The fields of the value are the lines of
the output. -/
theorem run_assignment {listing line name program : String} {script : List Char}
    {words : List Word} {columns : List (List Char)}
    (isLine : (read line.toList).map partsOf =
      some [[[.assignment name script]], [.literal program :: words]])
    (isOutput : substitute listing.toList script = some ⟨ended columns, true⟩)
    (nonempty : ∀ word ∈ columns, word ≠ [])
    (noGap : ∀ word ∈ columns, ∀ c ∈ word, isGap c = false) :
    ∃ value, fields value = columns ∧
      run listing line = (command? [(name, value)] (.literal program :: words)).map ([·]) := by
  obtain ⟨symbols, isRead, isParts⟩ := Option.map_eq_some_iff.mp isLine
  refine ⟨_, (fields_dropEnd (ended columns)).trans (fields_ended nonempty noGap), ?_⟩
  simp only [run, isRead, isParts, isOutput, runParts, bind, Option.bind_some, if_true]

end Testbed.Shell
