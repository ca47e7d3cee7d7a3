/-!
# Tokens of a TOML document

A document is cut into tokens from left to right, the same way everywhere in it. Which tokens form a
number, a date or a dotted key depends on where they stand and is decided later, so a bare word may
become any of them, and a point is a token of its own.

A carriage return counts only as part of a line end. Texts come in four forms: in double quotes with
escapes or in single quotes without, each on one line or, with three quotes, on several.

Results: `length_escape`, `length_stringRest`, `length_next` (what is left after a token is no
longer than what followed its first character).
-/

namespace Testbed.Toml

inductive Token where
  | newline
  | blank (text : String)
  | comment
  | equals
  | period
  | comma
  | colon
  | plus
  | leftBrace
  | rightBrace
  | leftBracket
  | rightBracket
  | bare (word : String)
  | quoted (text : String) (multiline : Bool)
deriving DecidableEq, Repr

/-- The characters of a document with every line end as one line feed. -/
def foldLineEnds : List Char → List Char
  | [] => []
  | '\r' :: '\n' :: rest => '\n' :: foldLineEnds rest
  | c :: rest => c :: foldLineEnds rest

def isBareChar (c : Char) : Bool := c.isAlphanum || c = '-' || c = '_'

def isCommentChar (c : Char) : Bool := c = '\t' || ' ' ≤ c

/-- The characters that stand for themselves in a text. -/
def isTextChar (c : Char) : Bool := c = '\t' || (' ' ≤ c && c ≠ '\x7f')

def isInlineBlank (c : Char) : Bool := c = ' ' || c = '\t'

def hexValue? (c : Char) : Option Nat :=
  if c.isDigit then some (c.toNat - '0'.toNat)
  else if 'a' ≤ c ∧ c ≤ 'f' then some (c.toNat - 'a'.toNat + 10)
  else if 'A' ≤ c ∧ c ≤ 'F' then some (c.toNat - 'A'.toNat + 10)
  else none

/-- The character with the code point that so many hexadecimal digits give. -/
def codePoint? (count : Nat) (text : List Char) : Option Char := do
  let digits := text.take count
  if digits.length ≠ count then none
  let value ← digits.foldlM (fun value c => return value * 16 + (← hexValue? c)) 0
  if value.isValidChar then some (Char.ofNat value) else none

/-- What a backslash and the characters behind it stand for, and what follows. In a text of several
lines a backslash at the end of a line joins the line with the next text. -/
def escape (multiline : Bool) : List Char → Option (List Char × List Char)
  | '"' :: rest => some (['"'], rest)
  | '\\' :: rest => some (['\\'], rest)
  | 'b' :: rest => some (['\x08'], rest)
  | 'f' :: rest => some (['\x0c'], rest)
  | 'n' :: rest => some (['\n'], rest)
  | 'r' :: rest => some (['\r'], rest)
  | 't' :: rest => some (['\t'], rest)
  | 'u' :: rest => (codePoint? 4 rest).map fun c => ([c], rest.drop 4)
  | 'U' :: rest => (codePoint? 8 rest).map fun c => ([c], rest.drop 8)
  | text =>
    match multiline, text.dropWhile isInlineBlank with
    | true, '\n' :: rest => some ([], rest.dropWhile fun c => isInlineBlank c || c = '\n')
    | _, _ => none

theorem length_dropWhile_le (p : Char → Bool) (text : List Char) :
    (text.dropWhile p).length ≤ text.length :=
  (List.dropWhile_sublist p).length_le

theorem length_escape {multiline : Bool} {text chars rest : List Char}
    (escaped : escape multiline text = some (chars, rest)) : rest.length ≤ text.length := by
  unfold escape at escaped
  split at escaped
  case h_8 =>
    obtain ⟨c, -, pair⟩ := Option.map_eq_some_iff.mp escaped
    obtain ⟨-, rfl⟩ := Prod.mk.inj pair
    simp only [List.length_drop, List.length_cons]
    omega
  case h_9 =>
    obtain ⟨c, -, pair⟩ := Option.map_eq_some_iff.mp escaped
    obtain ⟨-, rfl⟩ := Prod.mk.inj pair
    simp only [List.length_drop, List.length_cons]
    omega
  case h_10 =>
    split at escaped
    · rename_i joined
      obtain ⟨-, rfl⟩ := Prod.mk.inj (Option.some.inj escaped)
      have first := length_dropWhile_le isInlineBlank text
      rename_i rest
      have second := length_dropWhile_le (fun c => isInlineBlank c || c = '\n') rest
      rw [joined, List.length_cons] at first
      omega
    · simp at escaped
  all_goals
    obtain ⟨-, rfl⟩ := Prod.mk.inj (Option.some.inj escaped)
    simp

/-- The text up to its closing quotes, and what follows them. In a text of several lines up to two
quotes in front of the closing ones belong to the text. -/
def stringRest (quote : Char) (multiline : Bool) : List Char → Option (List Char × List Char)
  | [] => none
  | c :: rest =>
    if c = quote then
      if multiline then
        if (rest.take 2).all (· = quote) && 2 ≤ rest.length then
          let more := ((rest.drop 2).take 2).takeWhile (· = quote)
          some (more, (rest.drop 2).drop more.length)
        else (stringRest quote multiline rest).map fun found => (quote :: found.1, found.2)
      else some ([], rest)
    else if c = '\\' ∧ quote = '"' then
      match _escaped : escape multiline rest with
      | none => none
      | some (chars, after) =>
        (stringRest quote multiline after).map fun found => (chars ++ found.1, found.2)
    else if c = '\n' ∧ multiline ∨ isTextChar c then
      (stringRest quote multiline rest).map fun found => (c :: found.1, found.2)
    else none
termination_by text => text.length
decreasing_by
  · simp
  · have := length_escape _escaped
    simp only [List.length_cons]
    omega
  · simp

theorem length_stringRest {quote : Char} {multiline : Bool} {text chars rest : List Char}
    (found : stringRest quote multiline text = some (chars, rest)) :
    rest.length ≤ text.length := by
  fun_induction stringRest quote multiline text generalizing chars rest with
  | case1 => simp at found
  | case2 =>
    obtain ⟨-, rfl⟩ := Prod.mk.inj (Option.some.inj found)
    simp only [List.length_drop, List.length_cons]
    omega
  | case3 _ _ _ ih =>
    obtain ⟨later, isLater, pair⟩ := Option.map_eq_some_iff.mp found
    obtain ⟨-, rfl⟩ := Prod.mk.inj pair
    have := ih isLater
    simp only [List.length_cons]
    omega
  | case4 =>
    obtain ⟨-, rfl⟩ := Prod.mk.inj (Option.some.inj found)
    simp
  | case5 => simp at found
  | case6 _ _ _ _ _ after escaped ih =>
    obtain ⟨later, isLater, pair⟩ := Option.map_eq_some_iff.mp found
    obtain ⟨-, rfl⟩ := Prod.mk.inj pair
    have := ih isLater
    have := length_escape escaped
    simp only [List.length_cons]
    omega
  | case7 _ _ _ _ _ ih =>
    obtain ⟨later, isLater, pair⟩ := Option.map_eq_some_iff.mp found
    obtain ⟨-, rfl⟩ := Prod.mk.inj pair
    have := ih isLater
    simp only [List.length_cons]
    omega
  | case8 => simp at found

/-- A text behind its first quote. Three quotes open a text of several lines, whose first line feed
is dropped if it follows directly, and two quotes are an empty text. -/
def string (quote : Char) (text : List Char) : Option (Token × List Char) :=
  let finish (multiline : Bool) (found : List Char × List Char) : Token × List Char :=
    (.quoted (String.ofList found.1) multiline, found.2)
  match text with
  | c :: d :: rest =>
    if c = quote then
      if d = quote then
        let body := match rest with
          | '\n' :: body => body
          | body => body
        (stringRest quote true body).map (finish true)
      else some (.quoted "" false, d :: rest)
    else (stringRest quote false text).map (finish false)
  | _ => (stringRest quote false text).map (finish false)

theorem length_string {quote : Char} {text rest : List Char} {token : Token}
    (found : string quote text = some (token, rest)) : rest.length ≤ text.length := by
  unfold string at found
  dsimp only at found
  split at found
  · split at found
    · split at found
      · obtain ⟨later, isLater, pair⟩ := Option.map_eq_some_iff.mp found
        obtain ⟨-, rfl⟩ := Prod.mk.inj pair
        have bound := length_stringRest isLater
        split at bound <;> simp only [List.length_cons] at bound ⊢ <;> omega
      · obtain ⟨-, rfl⟩ := Prod.mk.inj (Option.some.inj found)
        simp
    · obtain ⟨later, isLater, pair⟩ := Option.map_eq_some_iff.mp found
      obtain ⟨-, rfl⟩ := Prod.mk.inj pair
      exact length_stringRest isLater
  · obtain ⟨later, isLater, pair⟩ := Option.map_eq_some_iff.mp found
    obtain ⟨-, rfl⟩ := Prod.mk.inj pair
    exact length_stringRest isLater

/-- The run of characters of a class that a character starts. -/
def run (inside : Char → Bool) (first : Char) (rest : List Char) : String :=
  String.ofList (first :: rest.takeWhile inside)

def punctuation? : Char → Option Token
  | '\n' => some .newline
  | '=' => some .equals
  | '.' => some .period
  | ',' => some .comma
  | ':' => some .colon
  | '+' => some .plus
  | '\x7b' => some .leftBrace
  | '\x7d' => some .rightBrace
  | '[' => some .leftBracket
  | ']' => some .rightBracket
  | _ => none

/-- The token that a character starts, and what follows it. -/
def next (first : Char) (rest : List Char) : Option (Token × List Char) :=
  match punctuation? first with
  | some token => some (token, rest)
  | none =>
    if isInlineBlank first then
      some (.blank (run isInlineBlank first rest), rest.dropWhile isInlineBlank)
    else if first = '#' then some (.comment, rest.dropWhile isCommentChar)
    else if first = '\'' ∨ first = '"' then string first rest
    else if isBareChar first then
      some (.bare (run isBareChar first rest), rest.dropWhile isBareChar)
    else none

theorem length_next {first : Char} {rest after : List Char} {token : Token}
    (found : next first rest = some (token, after)) : after.length ≤ rest.length := by
  unfold next at found
  split at found
  · obtain ⟨-, rfl⟩ := Prod.mk.inj (Option.some.inj found)
    exact Nat.le_refl _
  · split at found
    · obtain ⟨-, rfl⟩ := Prod.mk.inj (Option.some.inj found)
      exact length_dropWhile_le _ _
    · split at found
      · obtain ⟨-, rfl⟩ := Prod.mk.inj (Option.some.inj found)
        exact length_dropWhile_le _ _
      · split at found
        · exact length_string found
        · split at found
          · obtain ⟨-, rfl⟩ := Prod.mk.inj (Option.some.inj found)
            exact length_dropWhile_le _ _
          · simp at found

/-- The tokens of a document whose line ends are folded. -/
def tokensOf : List Char → Option (List Token)
  | [] => some []
  | first :: rest =>
    match _found : next first rest with
    | none => none
    | some (token, after) => (tokensOf after).map (token :: ·)
termination_by text => text.length
decreasing_by
  have := length_next _found
  simp only [List.length_cons]
  omega

/-- The tokens of a document. A byte order mark at its start is passed over. -/
def tokens (document : String) : Option (List Token) :=
  let chars := foldLineEnds document.toList
  tokensOf (match chars with
    | '\uFEFF' :: rest => rest
    | chars => chars)

end Testbed.Toml
