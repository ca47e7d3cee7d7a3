import Testbed.Lab.DryRun
import Testbed.Proofs.Recognition
import Testbed.Proofs.ShellRun

/-!
# What a shell does with the line of a dry run

The line of a dry run looks up the process of a node and runs a command in its namespaces, as the live
lab does. But the lookup succeeds whatever it finds, and its result is cut into words, so the line
always runs exactly one command, and the tool that enters namespaces gets every first column that was
found, three times. This is the command of the live lab exactly if one line of the process listing is
accepted for the node and its first column is the decimal form of a process number. If no line is
accepted, the live lab starts no command and the shell runs one without a process, and if several are,
the live lab takes the first of them and the shell all.

Results:
1. `run_pipeline`: the command that a shell runs.
2. `pids_eq_of_typable`: what the live lab finds in the same listing.
3. `pipeline_performs_iff`: when both are the same.
-/

namespace Testbed.Lab

open Testbed.Shell Testbed.Text

/-! ## Definitions -/

def Filter.patterns (filter : Filter) : List Pattern :=
  ⟨filter.mark, false⟩ :: ⟨filter.shell, false⟩ :: filter.excluded.map fun text => ⟨text, true⟩

/-- The command in backquotes that looks up the process of a node. -/
def Filter.lookupText (filter : Filter) : List Char :=
  "eval ps ax | grep \"".toList ++ filter.mark.toList ++ "\" | grep ".toList ++
    filter.shell.toList ++
    (filter.excluded.flatMap fun text => " | grep -v ".toList ++ text.toList) ++
    " | awk '\x7bprint $1\x7d;'".toList

/-- The first columns of the lines that a filter accepts, as the programs of a pipeline see them. -/
def Filter.columns (filter : Filter) (table : String) : List String :=
  ((feedLines table.toList).filter fun line => filter.accepts (String.ofList line)).map fun line =>
    String.ofList (column line)

/-- The words that enter namespaces, with any words in place of the process number. -/
def Settings.entryWith (settings : Settings) (columns : List String) : List String :=
  settings.entryProgram :: (if settings.superuser then [settings.execTool] else []) ++
    ["-a", "-b", "-k"].flatMap fun option => option :: columns

/-- The commands that the live lab runs for a call when this table is listed. -/
def Call.performed (settings : Settings) (call : Call) (table : String) : List (List String) :=
  ((pids call.filter table).head?.map (call.entryWords settings)).toList

/-- The settings and the filter are made of plain words. None of the filter's texts has a meaning to
`grep`, and what stands in front of the command is the name of a program. -/
structure Typable (settings : Settings) (filter : Filter) : Prop where
  plain : ∀ pattern ∈ filter.patterns, isPlain pattern.text.toList = true
  fixed : ∀ pattern ∈ filter.patterns, isFixed pattern.text.toList = true
  tool : isPlain settings.execTool.toList = true
  program : isProgram settings.entryProgram = true

/-! ## Reading the line -/

section

variable (filter : Filter)

theorem mark_mem_patterns : ⟨filter.mark, false⟩ ∈ filter.patterns := .head _

theorem shell_mem_patterns : ⟨filter.shell, false⟩ ∈ filter.patterns := .tail _ (.head _)

theorem excluded_mem_patterns {text : String} (isExcluded : text ∈ filter.excluded) :
    ⟨text, true⟩ ∈ filter.patterns :=
  .tail _ (.tail _ (List.mem_map.mpr ⟨text, isExcluded, rfl⟩))

end

theorem accepts_ofList (filter : Filter) (line : List Char) :
    filter.accepts (String.ofList line) = filter.patterns.all (·.keeps line) := by
  simp [Filter.accepts, Filter.patterns, Pattern.keeps, List.all_map, Function.comp_def,
    Bool.and_assoc, List.not_any_eq_all_not]

theorem shellText_eq (filter : Filter) :
    filter.shellText.toList = "pid=".toList ++ ('\x60' :: filter.lookupText ++ ['\x60']) := by
  have opening : "pid=\x60eval ps ax | grep \"".toList =
      "pid=".toList ++ '\x60' :: "eval ps ax | grep \"".toList := by decide +kernel
  have closing : " | awk '\x7bprint $1\x7d;'\x60".toList =
      " | awk '\x7bprint $1\x7d;'".toList ++ ['\x60'] := by decide +kernel
  unfold Filter.shellText Filter.lookupText
  simp only [String.toList_append, String.toList_join, List.flatMap_map]
  rw [opening, closing]
  simp only [List.append_assoc, List.cons_append]

theorem isStage_pattern (pattern : Pattern) {typed : List Char}
    (isTyped : IsStage typed [.literal pattern.text]) :
    IsStage ((if pattern.passedOver then " grep -v ".toList else " grep ".toList) ++ typed ++ [' '])
      pattern.stage := by
  have back : IsStage (typed ++ [' ']) [.literal pattern.text] := isTyped.append .nil
  cases passedOver : pattern.passedOver with
  | false =>
    have front : IsStage " grep".toList [.literal "grep"] :=
      ⟨_, rfl, by decide, by decide, by decide +kernel⟩
    simpa [Pattern.stage, passedOver] using front.append back
  | true =>
    have front : IsStage " grep -v".toList [.literal "grep", .literal "-v"] :=
      ⟨_, rfl, by decide, by decide, by decide +kernel⟩
    simpa [Pattern.stage, passedOver] using front.append back

/-- The stages behind the shell's own pattern, with the blank in front of them. -/
theorem isPart_excluded {excluded : List String}
    (plain : ∀ text ∈ excluded, isPlain text.toList = true) :
    ∃ rest, (excluded.flatMap fun text => " | grep -v ".toList ++ text.toList) ++
        " | awk '\x7bprint $1\x7d;'".toList = ' ' :: '|' :: rest ∧
      IsPart rest (excluded.map (fun text => (Pattern.mk text true).stage) ++
        [[.literal "awk", .literal "\x7bprint $1\x7d;"]]) := by
  induction excluded with
  | nil =>
    have columns : IsStage " awk '\x7bprint $1\x7d;'".toList
        [.literal "awk", .literal "\x7bprint $1\x7d;"] :=
      ⟨_, rfl, by decide, by decide, by decide +kernel⟩
    exact ⟨_, rfl, columns.isPart⟩
  | cons text excluded ih =>
    obtain ⟨rest, isRest, isPart⟩ := ih fun other isOther => plain other (.tail _ isOther)
    have stage := isStage_pattern ⟨text, true⟩ (isStage_plain (plain text (.head _)))
    have whole := IsPart.cons stage isPart
    rw [List.flatMap_cons, List.append_assoc, isRest, List.map_cons, List.cons_append]
    exact ⟨_, by simp, whole⟩

theorem isPart_lookupText {filter : Filter}
    (plain : ∀ pattern ∈ filter.patterns, isPlain pattern.text.toList = true) :
    IsPart filter.lookupText (lookupStages filter.patterns) := by
  have markPlain := plain _ (mark_mem_patterns filter)
  have shellPlain := plain _ (shell_mem_patterns filter)
  have excludedPlain : ∀ text ∈ filter.excluded, isPlain text.toList = true :=
    fun text isText => plain ⟨text, true⟩ (excluded_mem_patterns filter isText)
  have areSpecial : ∀ c ∈ ['"', '\\', '$', '\x60'], c ∈ specialChars := by simp [specialChars]
  have unescaped : ∀ c ∈ filter.mark.toList, c ∉ ['"', '\\', '$', '\x60'] :=
    fun c inMark escaped => not_special_of_isPlain markPlain c inMark (areSpecial c escaped)
  have listing : IsStage "eval ps ax ".toList [.literal "eval", .literal "ps", .literal "ax"] :=
    ⟨_, rfl, by decide, by decide, by decide +kernel⟩
  have mark := isStage_pattern ⟨filter.mark, false⟩ (isStage_double unescaped)
  have shell := isStage_pattern ⟨filter.shell, false⟩ (isStage_plain shellPlain)
  obtain ⟨rest, isRest, isPart⟩ := isPart_excluded excludedPlain
  have opening : "eval ps ax | grep \"".toList =
      "eval ps ax ".toList ++ '|' :: (" grep ".toList ++ ['"']) := by decide +kernel
  have between : "\" | grep ".toList = '"' :: ' ' :: '|' :: " grep ".toList := by decide +kernel
  have whole := IsPart.cons listing (IsPart.cons mark (IsPart.cons shell isPart))
  unfold Filter.lookupText
  rw [List.append_assoc _ _ (String.toList _), isRest, opening, between]
  simpa [lookupStages, Filter.patterns, Function.comp_def] using whole

/-- Nothing in the command in backquotes is escaped or ends it. -/
theorem unescaped_lookupText {filter : Filter}
    (plain : ∀ pattern ∈ filter.patterns, isPlain pattern.text.toList = true) :
    ∀ c ∈ filter.lookupText, c ∉ ['\x60', '\\'] := by
  have areSpecial : ∀ c ∈ ['\x60', '\\'], c ∈ specialChars := by simp [specialChars]
  have word : ∀ pattern ∈ filter.patterns, ∀ c ∈ pattern.text.toList, c ∉ ['\x60', '\\'] :=
    fun pattern isPattern c inWord escaped =>
      not_special_of_isPlain (plain pattern isPattern) c inWord (areSpecial c escaped)
  unfold Filter.lookupText
  simp only [List.forall_mem_append, List.mem_flatMap, forall_exists_index, and_imp]
  refine ⟨⟨⟨⟨⟨by simp, word _ (mark_mem_patterns filter)⟩, by simp⟩,
    word _ (shell_mem_patterns filter)⟩, fun c text isText inText => ?_⟩, by simp⟩
  rcases List.mem_append.mp inText with inOption | inWord
  · have : ∀ d ∈ " | grep -v ".toList, d ∉ ['\x60', '\\'] := by simp
    exact this c inOption
  · exact word _ (excluded_mem_patterns filter isText) c inWord

theorem isStage_shellText {filter : Filter}
    (plain : ∀ pattern ∈ filter.patterns, isPlain pattern.text.toList = true) :
    IsStage filter.shellText.toList [.assignment "pid" filter.lookupText] := by
  have name : read "pid=".toList = some ("pid=".toList.map .bare) := by decide
  have isRead := read_append name (read_script (unescaped_lookupText plain))
  have isWord : wordOf ("pid=".toList.map .bare ++ [.script filter.lookupText]) =
      .assignment "pid" filter.lookupText := rfl
  rw [← shellText_eq] at isRead
  have isStage := isStage_of_read isRead (by simp) (by simp [separators])
  rwa [isWord] at isStage

def Settings.commandWords (settings : Settings) (command : List String) : List Word :=
  .literal settings.entryProgram ::
    ((if settings.superuser then [settings.execTool] else []).map .literal ++
      ["-a", "-b", "-k"].flatMap (fun option => [.literal option, .expansion "pid"]) ++
        command.map .literal)

/-- The command behind the lookup, with a text in the place of the process number. In the line this
is the variable. -/
def commandText (settings : Settings) (place : String) (command : List String) : String :=
  (if settings.superuser then "sudo " else "") ++ settings.execTool ++
    " -a " ++ place ++ " -b " ++ place ++ " -k " ++ place ++ " " ++ Shell.quoteAll command

theorem pipeline_eq_commandText (settings : Settings) (filter : Filter) (command : List String) :
    pipeline settings filter command =
      filter.shellText ++ " && " ++ commandText settings "$pid" command := by
  have options : " -a $pid -b $pid -k $pid " =
      " -a " ++ "$pid" ++ " -b " ++ "$pid" ++ " -k " ++ "$pid" ++ " " := by decide +kernel
  unfold pipeline commandText
  rw [options]
  simp only [String.append_assoc]

theorem isStage_variable : IsStage "$pid".toList [.expansion "pid"] :=
  ⟨_, rfl, by decide, by decide, by decide +kernel⟩

/-- Every word of the command is read as it is, and the text in the place of the process number as
the word that it is. -/
theorem isStage_commandText {settings : Settings} (plain : isPlain settings.execTool.toList = true)
    {place : String} {word : Word} (isPlace : IsStage place.toList [word]) (command : List String) :
    IsStage (commandText settings place command).toList
      (.literal settings.entryProgram ::
        ((if settings.superuser then [settings.execTool] else []).map .literal ++
          ["-a", "-b", "-k"].flatMap (fun option => [.literal option, word]) ++
            command.map .literal)) := by
  have option : ∀ text, isPlain text.toList = true →
      IsStage (text.toList ++ ' ' :: place.toList) [.literal text, word] :=
    fun text plainText => (isStage_plain plainText).append isPlace
  have options := (option "-a" (by decide)).append
    ((option "-b" (by decide)).append (option "-k" (by decide)))
  have front : IsStage "sudo".toList [.literal "sudo"] := isStage_plain (by decide)
  have behind := (isStage_plain plain).append (options.append (isStage_quoteAll command))
  unfold commandText
  cases superuser : settings.superuser with
  | false => simpa [Settings.entryProgram, superuser] using behind
  | true => simpa [Settings.entryProgram, superuser] using front.append behind

/-- The parts of the line: the lookup, and the command behind it. -/
theorem read_pipeline {settings : Settings} {filter : Filter} (typable : Typable settings filter)
    (command : List String) :
    (read (pipeline settings filter command).toList).map partsOf =
      some [[[.assignment "pid" filter.lookupText]], [settings.commandWords command]] := by
  have left := (isStage_shellText typable.plain).append .nil
  have right := IsStage.nil.append (isStage_commandText typable.tool isStage_variable command)
  have between : " && ".toList = ' ' :: "&&".toList ++ [' '] := by decide
  have isRead := read_parts left.isPart right.isPart
  rw [pipeline_eq_commandText]
  simp only [String.toList_append, between]
  simpa [Settings.commandWords] using isRead

/-! ## Running the line -/

theorem entry_eq_entryWith (settings : Settings) (name : String) (pid : Nat) :
    (Namespace.ofProcess settings name pid).entry = settings.entryWith [toString pid] := by
  unfold Namespace.entry Settings.entryWith Settings.entryProgram Namespace.ofProcess
  cases settings.superuser <;> rfl

theorem expandAll_commandWords (settings : Settings) (value : List Char) (command : List String) :
    expandAll [("pid", value)] (settings.commandWords command) =
      some (settings.entryWith ((fields value).map String.ofList) ++ command) := by
  have options : expandAll [("pid", value)]
      (["-a", "-b", "-k"].flatMap fun option => [.literal option, .expansion "pid"]) =
        some (["-a", "-b", "-k"].flatMap fun option =>
          option :: (fields value).map String.ofList) := by
    simp [expandAll, Word.expand]
  have expanded := expandAll_append
    (expandAll_append (expandAll_literal _ (if settings.superuser then [settings.execTool] else []))
      options) (expandAll_literal _ command)
  rw [Settings.commandWords, expandAll, expanded]
  rfl

theorem command?_commandWords {settings : Settings} (program : isProgram settings.entryProgram = true)
    (value : List Char) (command : List String) :
    command? [("pid", value)] (settings.commandWords command) =
      some (settings.entryWith ((fields value).map String.ofList) ++ command) := by
  rw [← expandAll_commandWords, Settings.commandWords, command?, if_pos program, expandAll]
  cases expandAll [("pid", value)] _ with
  | none => rfl
  | some words => rfl

/-- The lookup succeeds with the first columns of all lines that are accepted. -/
theorem substitute_lookupText {settings : Settings} {filter : Filter}
    (typable : Typable settings filter) {table : String} (isText : '\x00' ∉ table.toList) :
    substitute table.toList filter.lookupText =
      some ⟨ended ((filter.columns table).map String.toList), true⟩ := by
  rw [substitute_of_isPart (isPart_lookupText typable.plain), runStages_lookup isText typable.fixed]
  simp [Filter.columns, accepts_ofList, Function.comp_def]

/-- A line that is accepted holds the node's mark, so it has a first column. -/
theorem exists_not_gap_of_accepts {settings : Settings} {filter : Filter}
    (typable : Typable settings filter) {line : List Char}
    (accepted : filter.accepts (String.ofList line) = true) :
    ∃ c ∈ line, isGap c = false := by
  have plain := typable.plain _ (mark_mem_patterns filter)
  have gapsSpecial : ∀ c, isGap c = true → c ∈ specialChars := by
    intro c gap
    rcases isGap_iff.mp gap with rfl | rfl | rfl <;> decide
  obtain ⟨holdsMark, -⟩ := Filter.accepts_iff.mp accepted
  rw [String.toList_ofList] at holdsMark
  obtain ⟨c, inMark⟩ := List.exists_mem_of_ne_nil _ (isPlain_iff.mp plain).1
  refine ⟨c, holdsMark.subset inMark, ?_⟩
  rw [Bool.eq_false_iff]
  exact fun gap => not_special_of_isPlain plain c inMark (gapsSpecial c gap)

/-- A shell runs exactly one command: the tool gets all first columns that were found. -/
theorem run_pipeline {settings : Settings} {filter : Filter} (typable : Typable settings filter)
    {table : String} (isText : '\x00' ∉ table.toList) (command : List String) :
    Shell.run table (pipeline settings filter command) =
      some [settings.entryWith (filter.columns table) ++ command] := by
  have isColumn : ∀ word ∈ (filter.columns table).map String.toList,
      ∃ line, filter.accepts (String.ofList line) = true ∧ column line = word := by
    intro word isMember
    simp only [Filter.columns, List.map_map, List.mem_map, List.mem_filter, Function.comp_apply,
      String.toList_ofList] at isMember
    obtain ⟨line, ⟨-, accepted⟩, isWord⟩ := isMember
    exact ⟨line, accepted, isWord⟩
  have nonempty : ∀ word ∈ (filter.columns table).map String.toList, word ≠ [] := by
    intro word isMember
    obtain ⟨line, accepted, rfl⟩ := isColumn word isMember
    obtain ⟨c, inLine, noGap⟩ := exists_not_gap_of_accepts typable accepted
    exact column_ne_nil inLine noGap
  have noGap : ∀ word ∈ (filter.columns table).map String.toList, ∀ c ∈ word, isGap c = false := by
    intro word isMember c inWord
    obtain ⟨line, -, rfl⟩ := isColumn word isMember
    exact not_gap_of_mem_column inWord
  obtain ⟨value, isValue, isRun⟩ := run_assignment (read_pipeline typable command)
    (substitute_lookupText typable isText) nonempty noGap
  have expanded := command?_commandWords typable.program value command
  have columns : ((filter.columns table).map String.toList).map String.ofList =
      filter.columns table := by
    simp [Function.comp_def]
  rw [isValue, columns] at expanded
  rw [isRun, ← Settings.commandWords, expanded, Option.map_some]

/-! ## What the live lab finds -/

/-- The programs of a pipeline see the same lines as the live lab, but for carriage returns at their
ends. -/
theorem forall₂_feedLines_splitLines (text : List Char) :
    List.Forall₂ (fun raw line => raw = line ∨ raw = line ++ ['\r']) (feedLines text)
      (splitLines text) := by
  fun_induction splitLines text with
  | case1 => exact .nil
  | case2 rest ih => exact .cons (.inl rfl) ih
  | case3 rest ih => exact .cons (.inr rfl) ih
  | case4 c rest noLineFeed _ isLast ih =>
    rw [isLast, List.forall₂_nil_right_iff] at ih
    rw [feedLines_cons noLineFeed, ih]
    exact .cons (.inl rfl) .nil
  | case5 c rest noLineFeed _ first later cut ih =>
    rw [cut, List.forall₂_cons_right_iff] at ih
    obtain ⟨raw, raws, same, behind, isRaw⟩ := ih
    rw [feedLines_cons noLineFeed, isRaw]
    refine .cons ?_ behind
    rcases same with rfl | rfl
    · exact .inl rfl
    · exact .inr rfl

/-- A carriage return at the end of a line does not matter to a filter of plain words. -/
theorem accepts_append_return {filter : Filter}
    (plain : ∀ pattern ∈ filter.patterns, isPlain pattern.text.toList = true) (line : List Char) :
    filter.accepts (String.ofList (line ++ ['\r'])) = filter.accepts (String.ofList line) := by
  have keeps : ∀ pattern ∈ filter.patterns,
      pattern.keeps (line ++ ['\r']) = pattern.keeps line := by
    intro pattern isPattern
    have absent : '\r' ∉ pattern.text.toList := fun inText =>
      absurd ((isPlain_iff.mp (plain pattern isPattern)).2 _ inText) (by decide)
    have occurs : occursIn pattern.text.toList (line ++ ['\r']) =
        occursIn pattern.text.toList line := by
      rw [Bool.eq_iff_iff, occursIn_iff, occursIn_iff, infix_append_cons_iff absent]
      refine ⟨fun either => either.elim id fun isEmpty => ?_, .inl⟩
      rw [List.infix_nil.mp isEmpty]
      exact List.nil_infix
    rw [Pattern.keeps, occurs, Pattern.keeps]
  rw [accepts_ofList, accepts_ofList, Bool.eq_iff_iff, List.all_eq_true, List.all_eq_true]
  exact forall₂_congr fun pattern isPattern => by rw [keeps pattern isPattern]

/-- The programs of a pipeline and the live lab accept the same lines. -/
theorem forall₂_accepted {filter : Filter}
    (plain : ∀ pattern ∈ filter.patterns, isPlain pattern.text.toList = true) (text : List Char) :
    List.Forall₂ (fun raw line => raw = line ∨ raw = line ++ ['\r'])
      ((feedLines text).filter fun line => filter.accepts (String.ofList line))
      ((splitLines text).filter fun line => filter.accepts (String.ofList line)) := by
  have cut := forall₂_feedLines_splitLines text
  generalize feedLines text = raws, splitLines text = lines at cut ⊢
  induction cut with
  | nil => exact .nil
  | @cons raw line raws lines alike _ ih =>
    have accepted : filter.accepts (String.ofList raw) = filter.accepts (String.ofList line) := by
      rcases alike with rfl | rfl
      · rfl
      · exact accepts_append_return plain line
    simp only [List.filter_cons, accepted]
    split
    · exact .cons alike ih
    · exact ih

theorem pids_eq_of_typable {settings : Settings} {filter : Filter}
    (typable : Typable settings filter) (table : String) :
    pids filter table =
      ((feedLines table.toList).filter fun line => filter.accepts (String.ofList line)).filterMap
        fun line => (firstWord? line).bind pid? := by
  have accepted := forall₂_accepted typable.plain table.toList
  rw [pids, lines, List.filter_map, List.filterMap_map]
  simp only [Function.comp_def, String.toList_ofList]
  generalize (feedLines table.toList).filter (fun line => filter.accepts (String.ofList line)) =
    raws, (splitLines table.toList).filter (fun line => filter.accepts (String.ofList line)) =
    lines at accepted ⊢
  induction accepted with
  | nil => rfl
  | @cons raw line raws lines alike _ ih =>
    have first : firstWord? raw = firstWord? line := by
      rcases alike with rfl | rfl
      · rfl
      · exact firstWord?_append_blank line (by decide)
    simp only [List.filterMap_cons, first, ih]

theorem firstWord?_of_column {line word : List Char} (isColumn : column line = word)
    (nonempty : word ≠ []) (noBlank : ∀ c ∈ word, isBlank c = false) :
    firstWord? line = some word := by
  have blank : ∀ c, isGap c = true → isBlank c = true := by
    intro c gap
    rcases isGap_iff.mp gap with rfl | rfl | rfl <;> decide
  have split : line = line.takeWhile isGap ++ word ++
      (line.dropWhile isGap).dropWhile fun c => !isGap c := by
    rw [← isColumn, column, List.append_assoc, List.takeWhile_append_dropWhile,
      List.takeWhile_append_dropWhile]
  rw [split]
  refine firstWord?_append (fun c inFront => ?_) nonempty noBlank fun c isHead => ?_
  · exact blank c (List.all_eq_true.mp List.all_takeWhile c inFront)
  · have := List.head?_dropWhile_not (fun c => !isGap c) (line.dropWhile isGap)
    rw [isHead] at this
    exact blank c (by simpa using this)

theorem pids_of_columns {settings : Settings} {filter : Filter} (typable : Typable settings filter)
    {table : String} {pid : Nat} (fits : pid < pidLimit)
    (single : filter.columns table = [toString pid]) : pids filter table = [pid] := by
  rw [Filter.columns, List.map_eq_singleton_iff] at single
  obtain ⟨line, isAccepted, isColumn⟩ := single
  have isWord : column line = (toString pid).toList := by rw [← isColumn, String.toList_ofList]
  have first := firstWord?_of_column isWord (toList_toString_ne_nil pid) fun c inDigits =>
    isBlank_of_isDigit (isDigit_of_mem_toString inDigits)
  rw [pids_eq_of_typable typable, isAccepted, List.filterMap_cons, first, Option.bind_some,
    pid?_toString fits]
  rfl

/-! ## When both do the same -/

theorem hasNul_eq_false_iff {word : String} :
    Machine.hasNul word = false ↔ '\x00' ∉ word.toList := by
  simp [Machine.hasNul]

theorem hasNul_of_isPlain {word : String} (plain : isPlain word.toList = true) :
    Machine.hasNul word = false :=
  hasNul_eq_false_iff.mpr fun inWord =>
    absurd ((isPlain_iff.mp plain).2 _ inWord) (by decide)

theorem hasNul_toString (n : Nat) : Machine.hasNul (toString n) = false :=
  hasNul_eq_false_iff.mpr fun inDigits => absurd (isDigit_of_mem_toString inDigits) (by decide)

theorem obstacle?_entryWords {settings : Settings} {filter : Filter}
    (typable : Typable settings filter) {machine : Machine}
    (offered : machine.offers settings.entryProgram = true) {command : List String}
    (noNul : ∀ word ∈ command, Machine.hasNul word = false) (pid : Nat) :
    let words := Call.entryWords settings ⟨filter, command⟩ pid
    machine.obstacle? words = (machine.refusal? words).map .other := by
  have tool := hasNul_of_isPlain typable.tool
  have program : Machine.hasNul settings.entryProgram = false := by
    unfold Settings.entryProgram
    split
    · decide
    · exact tool
  have words : ∀ word ∈ settings.entryWith [toString pid] ++ command,
      Machine.hasNul word = false := by
    intro word isMember
    simp only [Settings.entryWith, List.mem_append, List.mem_cons, List.mem_flatMap,
      List.not_mem_nil, or_false] at isMember
    rcases isMember with ((rfl | isTool) | ⟨option, isOption, rfl | rfl⟩) | isArgument
    · exact program
    · split at isTool
      · rwa [List.mem_singleton.mp isTool]
      · cases isTool
    · rcases isOption with rfl | rfl | rfl <;> decide
    · exact hasNul_toString pid
    · exact noNul word isArgument
  have whole : (settings.entryWith [toString pid] ++ command).any Machine.hasNul = false := by
    rw [List.any_eq_false]
    exact fun word isMember => by rw [words word isMember]; decide
  dsimp only
  rw [Call.entryWords, entry_eq_entryWith, Machine.obstacle?, whole]
  exact if_pos offered

/-- The tool gets a single word as the process number only if there is a single one. -/
theorem entryWith_injective {settings : Settings} {columns command : List String} {word : String}
    (same : settings.entryWith columns ++ command = settings.entryWith [word] ++ command) :
    columns = [word] := by
  simp only [Settings.entryWith, List.append_cancel_right_eq, List.append_cancel_left_eq,
    List.flatMap_cons, List.flatMap_nil, List.append_nil] at same
  have sameLength := congrArg List.length same
  simp only [List.length_append, List.length_cons, List.length_nil] at sameLength
  obtain ⟨first, rfl⟩ := List.length_eq_one_iff.mp (by omega : columns.length = 1)
  simp only [List.cons_append, List.nil_append, List.cons.injEq] at same
  rw [same.2.1]

theorem lt_of_mem_pids {filter : Filter} {table : String} {pid : Nat}
    (isFound : pid ∈ pids filter table) : pid < pidLimit := by
  obtain ⟨line, -, isPid⟩ := List.mem_filterMap.mp isFound
  obtain ⟨word, -, isPid⟩ := Option.bind_eq_some_iff.mp isPid
  exact lt_of_pid? isPid

/-- The live lab lists the processes and then runs the commands of the call that the machine does not
refuse. It reports a missing node exactly if there are none. -/
theorem live_run_performed {settings : Settings} (proper : settings.entryProgram ≠ "ps")
    {filter : Filter} (typable : Typable settings filter) {command : List String}
    (noNul : ∀ word ∈ command, Machine.hasNul word = false) {machine : Machine}
    (listed : machine.obstacle? listingWords = none) {table : String}
    (decoded : Utf8.decode machine.listing.output = .ok table)
    (offered : machine.offers settings.entryProgram = true) :
    let turn := (live settings).run filter command machine
    let performed := Call.performed settings ⟨filter, command⟩ table
    turn.state.started = machine.started ++ listingWords ::
        performed.filter (fun words => (machine.refusal? words).isNone) ∧
      (turn.answer = .ok .missing ↔ performed = []) := by
  intro turn performed
  have answered : turn.answer =
      (machine.visit settings ⟨filter, command⟩).answer machine.replies :=
    (live_run proper ⟨filter, command⟩ machine).1
  have started : turn.state.started = machine.started ++
      (machine.visit settings ⟨filter, command⟩).started settings ⟨filter, command⟩ := by
    rw [(live_run proper ⟨filter, command⟩ machine).2, Visit.leave]
  cases found : (pids filter table).head? with
  | none =>
    have ended : machine.visit settings ⟨filter, command⟩ = .missing := by
      simp only [Machine.visit, listed, decoded, found]
    have nothing : performed = [] := by
      simp only [performed, Call.performed, found, Option.map_none, Option.toList_none]
    rw [answered, started, ended, nothing]
    exact ⟨rfl, fun _ => rfl, fun _ => rfl⟩
  | some pid =>
    have single : performed = [Call.entryWords settings ⟨filter, command⟩ pid] := by
      simp only [performed, Call.performed, found, Option.map_some, Option.toList_some]
    have obstacle := obstacle?_entryWords typable offered noNul pid
    have ended : machine.visit settings ⟨filter, command⟩ =
        ((machine.refusal? (Call.entryWords settings ⟨filter, command⟩ pid)).map
          StartError.other).elim (.entered pid) .refused := by
      dsimp only at obstacle
      simp only [Machine.visit, listed, decoded, found, obstacle]
      cases machine.refusal? (Call.entryWords settings ⟨filter, command⟩ pid) <;> rfl
    rw [answered, started, ended, single, List.filter_singleton]
    -- Whether the command is refused or entered, the node is not missing.
    cases machine.refusal? (Call.entryWords settings ⟨filter, command⟩ pid) <;>
      exact ⟨rfl, iff_of_false (by simp [Visit.answer]) (List.cons_ne_nil _ _)⟩

/-- The line of a dry run always runs exactly one command, and it does what the live lab does exactly
if a single line of the table is accepted and its first column is the decimal form of a process
number. What the live lab does is started on every machine that has the program, unless the machine
refuses it. -/
theorem pipeline_performs_iff {settings : Settings} {filter : Filter}
    (typable : Typable settings filter) {table : String} (isText : '\x00' ∉ table.toList)
    (command : List String) :
    let line := pipeline settings filter command
    let performed := Call.performed settings ⟨filter, command⟩ table
    Shell.run table line = some [settings.entryWith (filter.columns table) ++ command] ∧
    (Shell.run table line = some performed ↔
      ∃ pid < pidLimit, filter.columns table = [toString pid]) ∧
    ∀ machine : Machine, settings.entryProgram ≠ "ps" →
      machine.obstacle? listingWords = none →
      Utf8.decode machine.listing.output = .ok table →
      machine.offers settings.entryProgram = true →
      (∀ word ∈ command, Machine.hasNul word = false) →
      let turn := (live settings).run filter command machine
      turn.state.started = machine.started ++ listingWords ::
          performed.filter (fun words => (machine.refusal? words).isNone) ∧
        (turn.answer = .ok .missing ↔ performed = []) := by
  intro line performed
  have ran := run_pipeline typable isText command
  refine ⟨ran, ?_, fun machine proper listed decoded offered noNul =>
    live_run_performed proper typable noNul listed decoded offered⟩
  rw [ran, Option.some.injEq]
  constructor
  · intro same
    cases found : (pids filter table).head? with
    | none =>
      simp only [performed, Call.performed, found] at same
      cases same
    | some pid =>
      simp only [performed, Call.performed, found, Option.map_some, Option.toList_some,
        List.cons.injEq, and_true, Call.entryWords, entry_eq_entryWith] at same
      exact ⟨pid, lt_of_mem_pids (List.mem_of_mem_head? found), entryWith_injective same⟩
  · rintro ⟨pid, fits, single⟩
    have found := pids_of_columns typable fits single
    simp only [performed, Call.performed, found, single, List.head?_cons, Option.map_some,
      Option.toList_some, Call.entryWords, entry_eq_entryWith]

/-- The filter of a router that has a host. -/
def seattle : Filter := (Filter.ofNode {} "SEAT").excluding "host"

def listingMachine (table : String) : Machine := { listing := { output := Utf8.encode table } }

/-- With a single process of the router, the shell and the live lab run the same command. -/
theorem pipeline_performs_seattle :
    let table := "PID COMMAND\n 4242 bash mininet:SEAT\n 4243 bash mininet:SEAT-host\n"
    let performed := Call.performed {} ⟨seattle, ["true"]⟩ table
    Typable {} seattle ∧ '\x00' ∉ table.toList ∧
    Shell.run table (pipeline {} seattle ["true"]) = some performed ∧
    ((live {}).run seattle ["true"] (listingMachine table)).state.started =
      listingWords :: performed := by
  intro table performed
  have typable : Typable {} seattle := ⟨by decide, by decide, by decide, by decide⟩
  have isText : '\x00' ∉ table.toList := by decide
  have both := pipeline_performs_iff typable isText ["true"]
  have decoded : Utf8.decode (listingMachine table).listing.output = .ok table := by decide +kernel
  exact ⟨typable, isText, both.2.1.mpr ⟨4242, by decide, by decide +kernel⟩,
    (both.2.2 (listingMachine table) (by decide) (by decide) decoded (by decide)
      (by decide)).1.trans (congrArg (listingWords :: ·) (List.filter_true _))⟩

/-- Without a process of the router, the live lab reports it missing, and the shell runs the tool
without a process number. -/
theorem pipeline_of_missing_seattle :
    let table := "PID COMMAND\n 4243 bash mininet:SEAT-host\n"
    Typable {} seattle ∧
    ((live {}).run seattle ["true"] (listingMachine table)).answer = .ok .missing ∧
    Shell.run table (pipeline {} seattle ["true"]) =
      some [["sudo", "mxexec", "-a", "-b", "-k", "true"]] := by
  intro table
  have typable : Typable {} seattle := ⟨by decide, by decide, by decide, by decide⟩
  have isText : '\x00' ∉ table.toList := by decide
  have nothing : seattle.columns table = [] := by decide +kernel
  refine ⟨typable, by decide +kernel, ?_⟩
  rw [run_pipeline typable isText, nothing]
  rfl

end Testbed.Lab
