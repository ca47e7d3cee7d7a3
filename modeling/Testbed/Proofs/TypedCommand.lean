import Mathlib.Data.List.Flatten
import Testbed.Proofs.PrintedWords
import Testbed.Vtysh

/-!
# A command as it is executed and as it is typed

A command for a router shell exists as a vector of words and as a line that can be typed. In the
line every text stands in single quotes as it is. So a shell gets the same words from the line,
whatever blanks, double quotes, backslashes and dollar signs the texts hold, exactly if no text
holds a single quote. One that does ends the quotes too early, and nothing that follows can make up
for it: to get a single quote out of a line takes a backslash or double quotes, and these are lost
on the way.

Results:
1. `sublist_of_words?`: the words of a line are spelled by its characters, in order.
2. `sublist_readFrom`, `countP_readFrom_lt`: what is lost when a line is read.
3. `isStage_shellText_of_unquoted`: the words of a line without single quotes in its texts.
4. `words?_shellText_iff`: when the line and the vector agree.
-/

namespace Testbed.Shell

/-! ## What words are spelled with -/

/-- The character that a symbol puts into a word. -/
def Symbol.spelling : Symbol → List Char
  | bare c | quoted c => [c]
  | blank | pipe | both | opening | script _ => []

def spelled (symbols : List Symbol) : List Char := symbols.flatMap Symbol.spelling

/-- The characters of a word that is known as it stands. -/
def Word.spelling : Word → List Char
  | literal text => text.toList
  | expansion _ | assignment _ _ | other => []

theorem spelled_cons (symbol : Symbol) (symbols : List Symbol) :
    spelled (symbol :: symbols) = symbol.spelling ++ spelled symbols := rfl

theorem spelled_append (front back : List Symbol) :
    spelled (front ++ back) = spelled front ++ spelled back :=
  List.flatMap_append

theorem spelled_of_text? {symbols : List Symbol} {text : List Char}
    (isText : text? symbols = some text) : spelled symbols = text := by
  induction symbols generalizing text with
  | nil =>
    cases isText
    rfl
  | cons symbol later ih =>
    simp only [text?, bind, Option.bind_eq_some_iff] at isText
    obtain ⟨first, isFirst, behind, isBehind, isWhole⟩ := isText
    cases isWhole
    have spells : symbol.spelling = first := by
      cases symbol <;> simp_all [Symbol.text?, Symbol.spelling]
    rw [spelled_cons, spells, ih isBehind]

theorem sublist_wordOf (symbols : List Symbol) :
    ((wordOf symbols).spelling).Sublist (spelled symbols) := by
  cases isText : text? symbols with
  | some text =>
    rw [wordOf_of_text? isText, spelled_of_text? isText, Word.spelling, String.toList_ofList]
  | none =>
    have unknown : (wordOf symbols).spelling = [] := by
      simp only [wordOf, isText]
      split
      · cases variableName? _ <;> rfl
      · cases variableName? _ <;> rfl
      · rfl
    rw [unknown]
    exact List.nil_sublist _

/-- The pieces of a line are spelled by the characters of the line, in order. -/
theorem sublist_splitOnP (cuts : Symbol → Bool) (symbols : List Symbol) :
    ((symbols.splitOnP cuts).flatMap spelled).Sublist (spelled symbols) := by
  induction symbols with
  | nil => exact List.Sublist.refl _
  | cons symbol later ih =>
    rw [List.splitOnP_cons_eq_if_modifyHead, spelled_cons]
    split
    · exact ih.trans (List.sublist_append_right _ _)
    · obtain ⟨piece, pieces, isCut⟩ := List.exists_cons_of_ne_nil (List.splitOnP_ne_nil cuts later)
      rw [isCut] at ih ⊢
      rw [List.modifyHead_cons, List.flatMap_cons, spelled_cons, List.append_assoc]
      exact ih.append_left _

theorem sublist_wordsOf (symbols : List Symbol) :
    ((wordsOf symbols).flatMap Word.spelling).Sublist (spelled symbols) := by
  have pieces := List.Sublist.flatMap_right (symbols.splitOnP (· == .blank))
    fun piece _ => sublist_wordOf piece
  rw [wordsOf, List.flatMap_map]
  exact (List.filter_sublist.flatMap _).trans (pieces.trans (sublist_splitOnP _ symbols))

theorem sublist_expandAll {words : List Word} {command : List String}
    (expanded : expandAll [] words = some command) :
    (command.flatMap String.toList).Sublist (words.flatMap Word.spelling) := by
  induction words generalizing command with
  | nil =>
    cases expanded
    exact List.Sublist.refl _
  | cons word words ih =>
    simp only [expandAll, bind, Option.bind_eq_some_iff] at expanded
    obtain ⟨first, isFirst, behind, isBehind, isCommand⟩ := expanded
    cases isCommand
    have own : first.flatMap String.toList = word.spelling := by
      cases word with
      | literal text =>
        cases isFirst
        exact List.append_nil _
      | expansion name =>
        cases isFirst
        rfl
      | assignment name script => cases isFirst
      | other => cases isFirst
    rw [List.flatMap_append, List.flatMap_cons, own]
    exact (ih isBehind).append_left _

theorem sublist_of_splitOnP_eq {cuts : Symbol → Bool} {symbols piece : List Symbol}
    (uncut : symbols.splitOnP cuts = [piece]) : (spelled piece).Sublist (spelled symbols) := by
  have pieces := sublist_splitOnP cuts symbols
  rwa [uncut, List.flatMap_singleton] at pieces

/-- The words of a command are spelled by the characters of its line, in order. -/
theorem sublist_of_words? {text : String} {command : List String}
    (isCommand : words? [] text = some command) :
    ∃ symbols, read text.toList = some symbols ∧
      (command.flatMap String.toList).Sublist (spelled symbols) := by
  simp only [words?, bind, Option.bind_eq_some_iff] at isCommand
  obtain ⟨symbols, isRead, expanded⟩ := isCommand
  refine ⟨symbols, isRead, ?_⟩
  split at expanded
  · next words isSingle =>
    obtain ⟨part, isPart, isStages⟩ := List.map_eq_singleton_iff.mp isSingle
    obtain ⟨stage, isStage, rfl⟩ := List.map_eq_singleton_iff.mp isStages
    calc (command.flatMap String.toList).Sublist ((wordsOf stage).flatMap Word.spelling) :=
          sublist_expandAll expanded
      List.Sublist _ (spelled stage) := sublist_wordsOf stage
      List.Sublist _ (spelled part) := sublist_of_splitOnP_eq isStage
      List.Sublist _ (spelled symbols) := sublist_of_splitOnP_eq isPart
  · cases expanded

/-! ## What is lost when a line is read -/

/-- What was read and may still become a part of a word. -/
def Mode.held : Mode → List Char
  | doubleEscaped => ['\\']
  | _ => []

/-- Whether a single quote that is read next can stand for itself. -/
def Mode.isShielded : Mode → Bool
  | escaped | double | doubleEscaped => true
  | bare | ampersand | single | script _ | scriptEscaped _ => false

/-- The characters that make a single quote stand for itself. -/
def isShield (c : Char) : Bool := c == '\\' || c == '"'

theorem sublist_ofBare (c : Char) : (spelled [.ofBare c]).Sublist [c] := by
  unfold Symbol.ofBare
  split
  · exact List.nil_sublist _
  · split
    · exact List.nil_sublist _
    · exact List.Sublist.refl _

/-- A step makes words of nothing but the character that is read, and of what was held back. -/
theorem sublist_step {mode next : Mode} {c : Char} {symbols : List Symbol}
    (stepped : mode.step c = some (symbols, next)) :
    (spelled symbols ++ next.held).Sublist (mode.held ++ [c]) := by
  unfold Mode.step at stepped
  split at stepped <;> cases stepped
  case h_6.refl => simpa [Mode.held] using sublist_ofBare c
  case h_19.refl =>
    -- A backslash in double quotes stays if it protects nothing.
    split
    · exact .cons _ (.refl _)
    · exact .refl _
  all_goals simp [Mode.held, spelled, Symbol.spelling]

theorem sublist_readFrom {mode : Mode} {text : List Char} {symbols : List Symbol}
    (isRead : readFrom mode text = some symbols) :
    (spelled symbols).Sublist (mode.held ++ text) := by
  induction text generalizing mode symbols with
  | nil =>
    rw [(eq_nil_of_readFrom_nil isRead).2]
    exact List.nil_sublist _
  | cons c text ih =>
    obtain ⟨first, next, later, stepped, readLater, rfl⟩ := readFrom_cons_eq_some isRead
    rw [spelled_append]
    calc (spelled first ++ spelled later).Sublist (spelled first ++ (next.held ++ text)) :=
          (ih readLater).append_left _
      List.Sublist _ (mode.held ++ c :: text) := by
          simpa using (sublist_step stepped).append_right text

/-- Without a shield a quote is not read as itself, and what is read as a shield is lost. -/
theorem step_of_unshielded {mode next : Mode} {c : Char} {symbols : List Symbol}
    (unshielded : mode.isShielded = false) (stepped : mode.step c = some (symbols, next)) :
    next.isShielded = false ∧ '\'' ∉ spelled symbols ∨
      isShield c = true ∧ spelled symbols = [] ∧ next.held = [] := by
  unfold Mode.step at stepped
  split at stepped <;> cases stepped
  case h_6.refl noQuote _ _ _ _ =>
    refine .inl ⟨rfl, fun isQuote => noQuote ?_⟩
    exact (List.mem_singleton.mp ((sublist_ofBare c).subset isQuote)).symm
  case h_12.refl noQuote =>
    exact .inl ⟨rfl, fun isQuote => noQuote (List.mem_singleton.mp isQuote).symm⟩
  all_goals simp_all [Mode.isShielded, Mode.held, spelled, Symbol.spelling, isShield]

theorem held_of_unshielded {mode : Mode} (unshielded : mode.isShielded = false) :
    mode.held = [] := by
  cases mode <;> first | rfl | cases unshielded

/-- A single quote that is read as itself costs a shield. -/
theorem countP_readFrom_lt {mode : Mode} {text : List Char} {symbols : List Symbol}
    (unshielded : mode.isShielded = false) (isRead : readFrom mode text = some symbols)
    (isQuote : '\'' ∈ spelled symbols) :
    (spelled symbols).countP isShield < text.countP isShield := by
  induction text generalizing mode symbols with
  | nil =>
    rw [(eq_nil_of_readFrom_nil isRead).2] at isQuote
    cases isQuote
  | cons c text ih =>
    obtain ⟨first, next, later, stepped, readLater, rfl⟩ := readFrom_cons_eq_some isRead
    rw [spelled_append, List.countP_append]
    have split : ([c] ++ text).countP isShield = [c].countP isShield + text.countP isShield :=
      List.countP_append
    rw [List.singleton_append] at split
    rcases step_of_unshielded unshielded stepped with ⟨open_, noQuote⟩ | ⟨shield, nothing, free⟩
    · have inLater : '\'' ∈ spelled later := by
        rw [spelled_append] at isQuote
        exact (List.mem_append.mp isQuote).resolve_left noQuote
      have own : (spelled first).Sublist [c] := by
        simpa [held_of_unshielded unshielded, held_of_unshielded open_] using sublist_step stepped
      have fewer := own.countP_le (p := isShield)
      have behind := ih open_ readLater inLater
      omega
    · have atMost := (sublist_readFrom readLater).countP_le (p := isShield)
      rw [free, List.nil_append] at atMost
      simp only [nothing, split, List.countP_nil, List.countP_singleton, shield, if_true]
      omega

end Testbed.Shell

namespace Testbed.Vtysh

open Testbed.Shell

/-! ## The two forms of a command -/

/-- The texts of a command's options, the one that enters configuration mode first. -/
def Command.texts (command : Command) : List String :=
  enterConfiguration :: command.directives.map Directive.text

/-- Options as they are typed. -/
def typedOptions (texts : List String) : List Char :=
  texts.flatMap fun text => "-c '".toList ++ text.toList ++ "' ".toList

theorem arguments_eq (command : Command) :
    command.arguments = command.program :: command.texts.flatMap fun text => ["-c", text] := by
  simp [Command.arguments, Command.texts, List.flatMap_map]

theorem shellText_eq (command : Command) :
    command.shellText.toList = command.program.toList ++ ' ' :: typedOptions command.texts := by
  have first : " -c '".toList = ' ' :: "-c '".toList := by decide
  simp [Command.shellText, Command.texts, typedOptions, Directive.fragment, first,
    String.toList_join, List.flatMap_map]

theorem isStage_typedOptions {texts : List String}
    (unquoted : ∀ text ∈ texts, '\'' ∉ text.toList) :
    IsStage (typedOptions texts) ((texts.flatMap fun text => ["-c", text]).map .literal) := by
  induction texts with
  | nil => exact .nil
  | cons text texts ih =>
    have option : IsStage "-c".toList [.literal "-c"] := isStage_plain (by decide)
    have word := isStage_single (unquoted text (.head _))
    have behind := ih fun other isOther => unquoted other (.tail _ isOther)
    have opening : "-c '".toList = "-c".toList ++ [' ', '\''] := by decide
    have closing : "' ".toList = ['\'', ' '] := by decide
    have whole := option.append (word.append behind)
    rw [typedOptions, List.flatMap_cons, opening, closing]
    simpa [typedOptions] using whole

theorem isStage_shellText_of_unquoted {command : Command}
    (plain : isPlain command.program.toList = true)
    (unquoted : ∀ directive ∈ command.directives, '\'' ∉ directive.text.toList) :
    IsStage command.shellText.toList (command.arguments.map .literal) := by
  have texts : ∀ text ∈ command.texts, '\'' ∉ text.toList := by
    simp only [Command.texts, List.forall_mem_cons, List.forall_mem_map]
    exact ⟨by decide, unquoted⟩
  rw [shellText_eq, arguments_eq]
  exact (isStage_plain plain).append (isStage_typedOptions texts)

/-- What is typed around the texts shields nothing. -/
theorem countP_typedOptions (texts : List String) :
    (typedOptions texts).countP isShield =
      ((texts.flatMap fun text => ["-c", text]).flatMap String.toList).countP isShield := by
  induction texts with
  | nil => rfl
  | cons text texts ih =>
    have opening : "-c '".toList.countP isShield = "-c".toList.countP isShield := by decide
    have closing : "' ".toList.countP isShield = 0 := by decide
    simp only [typedOptions, List.flatMap_cons, List.countP_append, List.flatMap_append,
      List.flatMap_nil, opening, closing] at ih ⊢
    rw [ih]
    simp [Nat.add_assoc]

theorem countP_shellText (command : Command) :
    command.shellText.toList.countP isShield =
      (command.arguments.flatMap String.toList).countP isShield := by
  have blank : isShield ' ' = false := by decide
  rw [shellText_eq, arguments_eq, List.countP_append, List.countP_cons_of_neg (by simp [blank]),
    countP_typedOptions, List.flatMap_cons, List.countP_append]

/-- The line of a command is read as the vector that is executed exactly if no text holds a single
quote. Variables do not matter then: a dollar sign in a text is no variable. -/
theorem words?_shellText_iff {command : Command} (plain : isPlain command.program.toList = true) :
    (words? [] command.shellText = some command.arguments ↔
      ∀ directive ∈ command.directives, '\'' ∉ directive.text.toList) ∧
    ((∀ directive ∈ command.directives, '\'' ∉ directive.text.toList) →
      ∀ environment, words? environment command.shellText = some command.arguments) := by
  have agree : (∀ directive ∈ command.directives, '\'' ∉ directive.text.toList) →
      ∀ environment, words? environment command.shellText = some command.arguments := by
    intro unquoted environment
    rw [words?_of_isStage (isStage_shellText_of_unquoted plain unquoted), expandAll_literal]
  refine ⟨⟨fun same directive isDirective inText => ?_, fun unquoted => agree unquoted []⟩, agree⟩
  obtain ⟨symbols, isRead, spells⟩ := sublist_of_words? same
  have isQuote : '\'' ∈ command.arguments.flatMap String.toList := by
    refine List.mem_flatMap.mpr ⟨directive.text, ?_, inText⟩
    rw [arguments_eq]
    refine .tail _ (List.mem_flatMap.mpr ⟨directive.text, ?_, by simp⟩)
    exact .tail _ (List.mem_map_of_mem isDirective)
  -- The quote costs a shield, and all shields of the line are needed for the words.
  have lost := countP_readFrom_lt rfl isRead (spells.subset isQuote)
  have kept := spells.countP_le (p := isShield)
  rw [countP_shellText] at lost
  omega

/-- Texts with double quotes, a backslash, a dollar sign, blanks at both ends and nothing at all. -/
def samplePasswords : Command :=
  ⟨"vtysh", [.line " password \"a\\b\" $HOME  ", .line "", .exit]⟩

theorem words?_shellText_iff_samplePasswords :
    isPlain samplePasswords.program.toList = true ∧
    (∀ directive ∈ samplePasswords.directives, '\'' ∉ directive.text.toList) ∧
    words? [] samplePasswords.shellText =
      some ["vtysh", "-c", "conf ter", "-c", " password \"a\\b\" $HOME  ", "-c", "", "-c",
        "exit"] := by
  have plain : isPlain samplePasswords.program.toList = true := by decide
  have unquoted : ∀ directive ∈ samplePasswords.directives, '\'' ∉ directive.text.toList := by
    decide
  exact ⟨plain, unquoted, (words?_shellText_iff plain).1.mpr unquoted⟩

def sampleDescription : Command := ⟨"vtysh", [.line " description 'to losa'"]⟩

/-- Its quotes are taken for those of the line, so that a word more is typed than executed. -/
theorem words?_shellText_sampleDescription :
    Command.configure? "vtysh" [.line " description 'to losa'"] = some sampleDescription ∧
    sampleDescription.arguments = ["vtysh", "-c", "conf ter", "-c", " description 'to losa'"] ∧
    words? [] sampleDescription.shellText =
      some ["vtysh", "-c", "conf ter", "-c", " description to", "losa"] := by
  refine ⟨rfl, rfl, ?_⟩
  decide +kernel

end Testbed.Vtysh
