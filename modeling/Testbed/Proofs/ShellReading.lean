import Testbed.Shell.Quote

/-!
# How a shell reads a line

A shell reads a line character by character. Quotes and backslashes take the meaning from the
characters that they protect, and blanks, `|` and `&&` cut what is left into words, stages and parts.
The reading here covers the lines that are printed for a shell: quotes of both kinds, commands in
backquotes, variables, assignments, pipelines and lists with `&&`. It has no answer for a line that is
not finished and for an expansion inside double quotes, and a word with any other character that has
a meaning to a shell is `Word.other`.

Results:
1. `read_append`: a text is read from the readings of its parts.
2. `read_bare`, `read_double`, `read_single`, `read_script`, `read_quoteChars`: the texts of which
   lines are made.
3. `IsStage.append`, `IsPart.cons`, `read_parts`: how a line is cut.
4. `isStage_quoteAll`: a command that is quoted for a shell is read back as it is.
-/

namespace Testbed.Shell

/-! ## Definitions -/

/-- What a character of a line is to the shell. -/
inductive Symbol where
  | blank
  | pipe
  | both
  | bare (c : Char)
  | quoted (c : Char)
  /-- An opening quote. It makes a word of what it stands in, even if nothing is quoted. -/
  | opening
  | script (text : List Char)
deriving DecidableEq, Repr

/-- Where in a line the shell is. -/
inductive Mode where
  | bare
  | ampersand
  | escaped
  | single
  | double
  | doubleEscaped
  | script (text : List Char)
  | scriptEscaped (text : List Char)
deriving DecidableEq, Repr

/-- What a character stands for outside of quotes, if it is none of the `modeChars`. -/
def Symbol.ofBare (c : Char) : Symbol :=
  if c = ' ' ∨ c = '\t' then .blank else if c = '|' then .pipe else .bare c

/-- The characters that change how the line is read behind them. -/
def modeChars : List Char := ['\'', '"', '\\', '\x60', '&']

/-- One character further. -/
def Mode.step : Mode → Char → Option (List Symbol × Mode)
  | bare, '\'' => some ([.opening], single)
  | bare, '"' => some ([.opening], double)
  | bare, '\\' => some ([], escaped)
  | bare, '\x60' => some ([], script [])
  | bare, '&' => some ([], ampersand)
  | bare, c => some ([.ofBare c], bare)
  | ampersand, '&' => some ([.both], bare)
  | ampersand, _ => none
  | escaped, '\n' => some ([], bare)
  | escaped, c => some ([.quoted c], bare)
  | single, '\'' => some ([], bare)
  | single, c => some ([.quoted c], single)
  | double, '"' => some ([], bare)
  | double, '\\' => some ([], doubleEscaped)
  | double, '$' => none
  | double, '\x60' => none
  | double, c => some ([.quoted c], double)
  | doubleEscaped, '\n' => some ([], double)
  | doubleEscaped, c =>
    some (if c ∈ ['$', '\x60', '"', '\\'] then [.quoted c] else [.quoted '\\', .quoted c], double)
  | script text, '\x60' => some ([.script text], bare)
  | script text, '\\' => some ([], scriptEscaped text)
  | script text, c => some ([], script (text ++ [c]))
  | scriptEscaped text, c =>
    some ([], script (text ++ if c ∈ ['$', '\x60', '\\'] then [c] else ['\\', c]))

/-- The symbols of a text that is read from a mode on, if the text ends outside of quotes. -/
def readFrom : Mode → List Char → Option (List Symbol)
  | mode, [] => if mode = .bare then some [] else none
  | mode, c :: rest => do
    let (symbols, next) ← mode.step c
    let later ← readFrom next rest
    some (symbols ++ later)

def read (text : List Char) : Option (List Symbol) := readFrom .bare text

/-- The characters that mean something to a shell where they are not quoted. -/
def specialChars : List Char :=
  ['|', '&', ';', '<', '>', '(', ')', '$', '\x60', '\\', '"', '\'', ' ', '\t', '\n', '*', '?',
   '[', ']', '#', '~', '\x7b', '\x7d', '!', '^']

def Symbol.text? : Symbol → Option (List Char)
  | bare c => if c ∈ specialChars then none else some [c]
  | quoted c => some [c]
  | opening => some []
  | blank | pipe | both | script _ => none

def text? : List Symbol → Option (List Char)
  | [] => some []
  | symbol :: later => do
    let text ← symbol.text?
    let behind ← text? later
    some (text ++ behind)

inductive Word where
  | literal (text : String)
  | expansion (name : String)
  | assignment (name : String) (script : List Char)
  | other
deriving DecidableEq, Repr

/-- Whether a character may stand in the name of a variable. -/
def isVariableChar (c : Char) : Bool := c.isAlphanum || c == '_'

def variableName? (symbols : List Symbol) : Option String :=
  match text? symbols with
  | some (c :: rest) =>
    if symbols = (c :: rest).map .bare ∧ (c :: rest).all isVariableChar ∧ ¬ c.isDigit then
      some (String.ofList (c :: rest))
    else none
  | _ => none

def wordOf (symbols : List Symbol) : Word :=
  match text? symbols with
  | some text => .literal (String.ofList text)
  | none =>
    match symbols, symbols.reverse with
    | .bare '$' :: name, _ => (variableName? name).elim .other .expansion
    | _, .script text :: .bare '=' :: name =>
      (variableName? name.reverse).elim .other fun name => .assignment name text
    | _, _ => .other

def wordsOf (symbols : List Symbol) : List Word :=
  ((symbols.splitOnP (· == .blank)).filter fun piece => !piece.isEmpty).map wordOf

def stagesOf (symbols : List Symbol) : List (List Word) :=
  (symbols.splitOnP (· == .pipe)).map wordsOf

def partsOf (symbols : List Symbol) : List (List (List Word)) :=
  (symbols.splitOnP (· == .both)).map stagesOf

/-! ## Reading a text -/

theorem readFrom_cons_eq_some {mode : Mode} {c : Char} {text : List Char} {symbols : List Symbol}
    (isRead : readFrom mode (c :: text) = some symbols) :
    ∃ first next later, mode.step c = some (first, next) ∧ readFrom next text = some later ∧
      symbols = first ++ later := by
  simp only [readFrom, bind, Option.bind_eq_some_iff] at isRead
  obtain ⟨⟨first, next⟩, stepped, later, readLater, isSymbols⟩ := isRead
  exact ⟨first, next, later, stepped, readLater, (Option.some.inj isSymbols).symm⟩

theorem eq_nil_of_readFrom_nil {mode : Mode} {symbols : List Symbol}
    (isRead : readFrom mode [] = some symbols) : mode = .bare ∧ symbols = [] := by
  simp only [readFrom, Option.ite_none_right_eq_some, Option.some.injEq] at isRead
  exact ⟨isRead.1, isRead.2.symm⟩

theorem readFrom_append {mode : Mode} {text : List Char} {symbols : List Symbol}
    (isRead : readFrom mode text = some symbols) (rest : List Char) :
    readFrom mode (text ++ rest) = (read rest).map (symbols ++ ·) := by
  induction text generalizing mode symbols with
  | nil =>
    obtain ⟨rfl, rfl⟩ := eq_nil_of_readFrom_nil isRead
    exact (Option.map_id' (x := read rest)).symm
  | cons c text ih =>
    obtain ⟨first, next, later, stepped, readLater, rfl⟩ := readFrom_cons_eq_some isRead
    simp only [List.cons_append, readFrom, stepped, bind, Option.bind_some, ih readLater]
    cases read rest <;> simp

theorem read_append {front back : List Char} {left right : List Symbol}
    (readFront : read front = some left) (readBack : read back = some right) :
    read (front ++ back) = some (left ++ right) := by
  rw [read, readFrom_append readFront, readBack, Option.map_some]

/-! ### Characters that do not change the mode -/

theorem step_bare {c : Char} (ordinary : c ∉ modeChars) :
    Mode.step .bare c = some ([.ofBare c], .bare) := by
  simp only [modeChars, List.mem_cons, List.not_mem_nil, or_false, not_or] at ordinary
  unfold Mode.step
  split <;> simp_all

theorem step_single {c : Char} (ordinary : c ≠ '\'') :
    Mode.step .single c = some ([.quoted c], .single) := by
  unfold Mode.step
  split <;> simp_all

theorem step_double {c : Char} (ordinary : c ∉ ['"', '\\', '$', '\x60']) :
    Mode.step .double c = some ([.quoted c], .double) := by
  simp only [List.mem_cons, List.not_mem_nil, or_false, not_or] at ordinary
  unfold Mode.step
  split <;> simp_all

theorem step_script (text : List Char) {c : Char} (ordinary : c ∉ ['\x60', '\\']) :
    Mode.step (.script text) c = some ([], .script (text ++ [c])) := by
  simp only [List.mem_cons, List.not_mem_nil, or_false, not_or] at ordinary
  unfold Mode.step
  split <;> simp_all

theorem read_bare {text : List Char} (ordinary : ∀ c ∈ text, c ∉ modeChars) :
    read text = some (text.map .ofBare) := by
  induction text with
  | nil => rfl
  | cons c text ih =>
    have behind := ih fun d inText => ordinary d (.tail _ inText)
    rw [read] at behind
    simp only [read, readFrom, step_bare (ordinary c (.head _)), bind, Option.bind_some, behind]
    rfl

/-- What stands in double quotes is read as it is, if it holds nothing to expand or to escape. -/
theorem read_double {text : List Char}
    (ordinary : ∀ c ∈ text, c ∉ ['"', '\\', '$', '\x60']) :
    read ('"' :: text ++ ['"']) = some (.opening :: text.map .quoted) := by
  have inside : readFrom .double (text ++ ['"']) = some (text.map .quoted) := by
    induction text with
    | nil => rfl
    | cons c text ih =>
      have behind := ih fun d inText => ordinary d (.tail _ inText)
      simp only [List.cons_append, readFrom, step_double (ordinary c (.head _)), bind,
        Option.bind_some, behind]
      rfl
  simp only [read, List.cons_append, readFrom, Mode.step, bind, Option.bind_some, inside]
  rfl

/-- What stands in single quotes is read as it is. -/
theorem read_single {text : List Char} (noQuote : '\'' ∉ text) :
    read ('\'' :: text ++ ['\'']) = some (.opening :: text.map .quoted) := by
  have inside : readFrom .single (text ++ ['\'']) = some (text.map .quoted) := by
    induction text with
    | nil => rfl
    | cons c text ih =>
      simp only [List.mem_cons, not_or] at noQuote
      simp only [List.cons_append, readFrom, step_single (Ne.symm noQuote.1), bind,
        Option.bind_some, ih noQuote.2]
      rfl
  simp only [read, List.cons_append, readFrom, Mode.step, bind, Option.bind_some, inside]
  rfl

/-- What stands in backquotes is kept as it is, if nothing in it is escaped. -/
theorem read_script {text : List Char} (ordinary : ∀ c ∈ text, c ∉ ['\x60', '\\']) :
    read ('\x60' :: text ++ ['\x60']) = some [.script text] := by
  have inside : ∀ front, readFrom (.script front) (text ++ ['\x60']) =
      some [.script (front ++ text)] := by
    induction text with
    | nil => intro front; rw [List.append_nil]; rfl
    | cons c text ih =>
      intro front
      have behind := ih (fun d inText => ordinary d (.tail _ inText)) (front ++ [c])
      simp only [List.cons_append, readFrom, step_script front (ordinary c (.head _)), bind,
        Option.bind_some, behind]
      simp
  simp only [read, List.cons_append, readFrom, Mode.step, bind, Option.bind_some, inside]
  rfl

/-! ## Reading a quoted word -/

/-- The symbols of the inside of single quotes. A quote in it leaves them and enters them again. -/
def escapeSymbols (word : List Char) : List Symbol :=
  word.flatMap fun c => if c = '\'' then [.quoted c, .opening] else [.quoted c]

def quoteSymbols (word : List Char) : List Symbol :=
  if isPlain word then word.map .bare else .opening :: escapeSymbols word

theorem not_special_of_isPlain {word : List Char} (plain : isPlain word = true) :
    ∀ c ∈ word, c ∉ specialChars := by
  have excluded : specialChars.all (fun c => !isPlainChar c) = true := by decide
  intro c inWord special
  have notPlain := List.all_eq_true.mp excluded c special
  rw [(isPlain_iff.mp plain).2 c inWord] at notPlain
  cases notPlain

theorem mem_specialChars_of_mem_modeChars {c : Char} (isMode : c ∈ modeChars) :
    c ∈ specialChars := by
  have included : modeChars.all specialChars.contains = true := by decide
  exact List.contains_iff_mem.mp (List.all_eq_true.mp included c isMode)

theorem ofBare_of_not_special {c : Char} (ordinary : c ∉ specialChars) :
    Symbol.ofBare c = .bare c := by
  have noBlank : ¬ (c = ' ' ∨ c = '\t') := by
    rintro (rfl | rfl) <;> exact ordinary (by decide)
  have noPipe : c ≠ '|' := by
    rintro rfl
    exact ordinary (by decide)
  rw [Symbol.ofBare, if_neg noBlank, if_neg noPipe]

/-- A text without special characters is read as it is. -/
theorem read_of_not_special {text : List Char} (ordinary : ∀ c ∈ text, c ∉ specialChars) :
    read text = some (text.map .bare) := by
  rw [read_bare fun c inText isMode => ordinary c inText (mem_specialChars_of_mem_modeChars isMode)]
  exact congrArg some (List.map_congr_left fun c inText => ofBare_of_not_special (ordinary c inText))

theorem readFrom_escapeQuotes (word : List Char) :
    readFrom .single (escapeQuotes word ++ ['\'']) = some (escapeSymbols word) := by
  induction word with
  | nil => rfl
  | cons c word ih =>
    simp only [escapeQuotes, escapeSymbols, List.flatMap_cons, List.append_assoc] at ih ⊢
    by_cases isQuote : c = '\''
    · subst isQuote
      simp [readFrom, Mode.step, ih]
    · simp [readFrom, step_single isQuote, isQuote, ih]

theorem read_quoteChars (word : List Char) : read (quoteChars word) = some (quoteSymbols word) := by
  unfold quoteChars quoteSymbols
  split
  · next plain => exact read_of_not_special (not_special_of_isPlain plain)
  · simp only [read, List.cons_append, readFrom, Mode.step, bind, Option.bind_some,
      readFrom_escapeQuotes]
    rfl

theorem text?_bare {text : List Char} (ordinary : ∀ c ∈ text, c ∉ specialChars) :
    text? (text.map .bare) = some text := by
  induction text with
  | nil => rfl
  | cons c text ih =>
    have behind := ih fun d inText => ordinary d (.tail _ inText)
    simp [text?, Symbol.text?, ordinary c (.head _), behind]

theorem text?_quoted (text : List Char) : text? (text.map .quoted) = some text := by
  induction text with
  | nil => rfl
  | cons c text ih => simp [text?, Symbol.text?, ih]

theorem text?_escapeSymbols (word : List Char) : text? (escapeSymbols word) = some word := by
  induction word with
  | nil => rfl
  | cons c word ih =>
    simp only [escapeSymbols, List.flatMap_cons] at ih ⊢
    split <;> simp [text?, Symbol.text?, ih]

theorem text?_quoteSymbols (word : List Char) : text? (quoteSymbols word) = some word := by
  unfold quoteSymbols
  split
  · next plain => exact text?_bare (not_special_of_isPlain plain)
  · simp [text?, Symbol.text?, text?_escapeSymbols]

/-! ## Cutting a line -/

def separators : List Symbol := [.blank, .pipe, .both]

/-- A symbol that stands for text cuts nothing. -/
theorem not_mem_separators_of_text? {symbols : List Symbol} {text : List Char}
    (isText : text? symbols = some text) : ∀ symbol ∈ symbols, symbol ∉ separators := by
  induction symbols generalizing text with
  | nil => simp
  | cons symbol later ih =>
    simp only [text?, bind, Option.bind_eq_some_iff] at isText
    obtain ⟨first, isFirst, behind, isBehind, -⟩ := isText
    intro other isOther
    rcases List.mem_cons.mp isOther with rfl | inLater
    · cases other <;> simp_all [Symbol.text?, separators]
    · exact ih isBehind other inLater

/-- A text that is a single stage with these words. -/
def IsStage (text : List Char) (words : List Word) : Prop :=
  ∃ symbols, read text = some symbols ∧ .pipe ∉ symbols ∧ .both ∉ symbols ∧
    wordsOf symbols = words

/-- A text that is a single part with these stages. -/
def IsPart (text : List Char) (stages : List (List Word)) : Prop :=
  ∃ symbols, read text = some symbols ∧ .both ∉ symbols ∧ stagesOf symbols = stages

theorem splitOnP_of_not_mem {separator : Symbol} {symbols : List Symbol}
    (absent : separator ∉ symbols) : symbols.splitOnP (· == separator) = [symbols] := by
  refine List.splitOnP_eq_singleton fun symbol isMember => ?_
  rw [beq_eq_false_iff_ne]
  rintro rfl
  exact absent isMember

theorem wordsOf_append_blank (left right : List Symbol) :
    wordsOf (left ++ .blank :: right) = wordsOf left ++ wordsOf right := by
  rw [wordsOf, List.splitOnP_append_cons left right (by decide), List.filter_append, List.map_append]
  rfl

/-- Symbols without separators are one word. -/
theorem isStage_of_read {text : List Char} {symbols : List Symbol}
    (isRead : read text = some symbols) (nonempty : symbols ≠ [])
    (whole : ∀ symbol ∈ symbols, symbol ∉ separators) : IsStage text [wordOf symbols] := by
  refine ⟨symbols, isRead, fun inside => whole _ inside (by decide),
    fun inside => whole _ inside (by decide), ?_⟩
  rw [wordsOf, splitOnP_of_not_mem fun inside => whole _ inside (by decide)]
  simp [nonempty]

theorem IsStage.nil : IsStage [] [] := ⟨[], rfl, by decide, by decide, rfl⟩

theorem IsStage.append {left right : List Char} {before behind : List Word}
    (isLeft : IsStage left before) (isRight : IsStage right behind) :
    IsStage (left ++ ' ' :: right) (before ++ behind) := by
  obtain ⟨front, readFront, noPipe, noBoth, isFront⟩ := isLeft
  obtain ⟨back, readBack, noPipe', noBoth', isBack⟩ := isRight
  have readBlank : read [' '] = some [.blank] := rfl
  refine ⟨front ++ .blank :: back, ?_, by simp [noPipe, noPipe'], by simp [noBoth, noBoth'], ?_⟩
  · exact read_append readFront (read_append readBlank readBack)
  · rw [wordsOf_append_blank, isFront, isBack]

theorem IsStage.isPart {text : List Char} {words : List Word} (isStage : IsStage text words) :
    IsPart text [words] := by
  obtain ⟨symbols, isRead, noPipe, noBoth, isWords⟩ := isStage
  refine ⟨symbols, isRead, noBoth, ?_⟩
  rw [stagesOf, splitOnP_of_not_mem noPipe, List.map_singleton, isWords]

theorem IsPart.cons {left right : List Char} {words : List Word} {stages : List (List Word)}
    (isStage : IsStage left words) (isPart : IsPart right stages) :
    IsPart (left ++ '|' :: right) (words :: stages) := by
  obtain ⟨front, readFront, noBoth, isFront⟩ := isStage.isPart
  obtain ⟨back, readBack, noBoth', isBack⟩ := isPart
  have readPipe : read ['|'] = some [.pipe] := rfl
  refine ⟨front ++ .pipe :: back, ?_, by simp [noBoth, noBoth'], ?_⟩
  · exact read_append readFront (read_append readPipe readBack)
  · rw [stagesOf] at isFront isBack ⊢
    rw [List.splitOnP_append_cons front back (by decide), List.map_append, isFront, isBack]
    rfl

theorem partsOf_of_not_mem {symbols : List Symbol} (noBoth : .both ∉ symbols) :
    partsOf symbols = [stagesOf symbols] := by
  rw [partsOf, splitOnP_of_not_mem noBoth, List.map_singleton]

theorem IsPart.read {text : List Char} {stages : List (List Word)} (isPart : IsPart text stages) :
    (Shell.read text).map partsOf = some [stages] := by
  obtain ⟨symbols, isRead, noBoth, isStages⟩ := isPart
  rw [isRead, Option.map_some, partsOf_of_not_mem noBoth, isStages]

theorem read_parts {left right : List Char} {before behind : List (List Word)}
    (isLeft : IsPart left before) (isRight : IsPart right behind) :
    (read (left ++ "&&".toList ++ right)).map partsOf = some [before, behind] := by
  obtain ⟨front, readFront, noBoth, isFront⟩ := isLeft
  obtain ⟨back, readBack, noBoth', isBack⟩ := isRight
  have readBoth : read "&&".toList = some [.both] := rfl
  have cut : partsOf (front ++ .both :: back) = partsOf front ++ partsOf back := by
    rw [partsOf, List.splitOnP_append_cons front back rfl, List.map_append]
    rfl
  rw [read_append (read_append readFront readBoth) readBack, Option.map_some, List.append_assoc,
    List.singleton_append, cut, partsOf_of_not_mem noBoth, partsOf_of_not_mem noBoth', isFront,
    isBack]
  rfl

/-! ## Quoted words of a line -/

theorem wordOf_of_text? {symbols : List Symbol} {text : List Char}
    (isText : text? symbols = some text) : wordOf symbols = .literal (String.ofList text) := by
  simp only [wordOf, isText]

theorem quoteSymbols_ne_nil (word : List Char) : quoteSymbols word ≠ [] := by
  unfold quoteSymbols
  split
  · next plain => simpa using (isPlain_iff.mp plain).1
  · simp

/-- A word that is quoted for a shell is read back as it is. -/
theorem isStage_quote (word : String) : IsStage (quote word).toList [.literal word] := by
  have isText := text?_quoteSymbols word.toList
  have isStage := isStage_of_read (read_quoteChars word.toList) (quoteSymbols_ne_nil _)
    (not_mem_separators_of_text? isText)
  rw [wordOf_of_text? isText, String.ofList_toList] at isStage
  rwa [quote, String.toList_ofList]

theorem isStage_plain {word : String} (plain : isPlain word.toList = true) :
    IsStage word.toList [.literal word] := by
  have := isStage_quote word
  rwa [quote_of_plain plain] at this

theorem isStage_of_protected {text : List Char} {word : String}
    (isRead : read text = some (.opening :: word.toList.map .quoted)) :
    IsStage text [.literal word] := by
  have isText : text? (.opening :: word.toList.map .quoted) = some word.toList := by
    simp [text?, Symbol.text?, text?_quoted]
  have isStage := isStage_of_read isRead (List.cons_ne_nil _ _)
    (not_mem_separators_of_text? isText)
  rwa [wordOf_of_text? isText, String.ofList_toList] at isStage

theorem isStage_double {word : String}
    (ordinary : ∀ c ∈ word.toList, c ∉ ['"', '\\', '$', '\x60']) :
    IsStage ('"' :: word.toList ++ ['"']) [.literal word] :=
  isStage_of_protected (read_double ordinary)

/-- A word in single quotes is read as it is, if it holds none of them. -/
theorem isStage_single {word : String} (noQuote : '\'' ∉ word.toList) :
    IsStage ('\'' :: word.toList ++ ['\'']) [.literal word] :=
  isStage_of_protected (read_single noQuote)

/-- A command that is quoted for a shell is read back as it is. -/
theorem isStage_quoteAll (command : List String) :
    IsStage (quoteAll command).toList (command.map .literal) := by
  rw [quoteAll, String.toList_intercalate, List.map_map]
  induction command with
  | nil => exact .nil
  | cons word command ih =>
    cases command with
    | nil => simpa using isStage_quote word
    | cons next command =>
      have := (isStage_quote word).append ih
      simpa [List.intercalate_cons_cons] using this

example : (read (quoteAll ["it's", "", "a\nb"]).toList).map wordsOf =
    some [.literal "it's", .literal "", .literal "a\nb"] := by decide +kernel

end Testbed.Shell
