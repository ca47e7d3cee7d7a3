import Testbed.Toml.Scalar

/-!
# Lines and blocks of a TOML document

A document is a sequence of lines. A line is a header or a key with its value, and only arrays and
texts of several lines reach over a line end. A header opens a block, to which the lines up to the
next header belong. The lines in front of the first header form a block without a name.

Every reader returns what it has read together with the tokens that follow, which are fewer than
before. So reading ends with the tokens.
-/

namespace Testbed.Toml

/-- What was read at the start of the tokens, and the fewer tokens that follow. -/
structure Read (Part : Type) (tokens : List Token) where
  part : Part
  rest : List Token
  shorter : rest.length < tokens.length

/-- Blanks inside a line. -/
def Token.isBlank : Token → Bool
  | .blank _ => true
  | _ => false

/-- Blanks, line ends and comments, which may stand anywhere in an array. -/
def Token.isSpacing : Token → Bool
  | .blank _ | .newline | .comment => true
  | _ => false

/-- The tokens behind the blanks of a line. -/
def skipBlank (tokens : List Token) : List Token := tokens.dropWhile Token.isBlank

def skipSpacing (tokens : List Token) : List Token := tokens.dropWhile Token.isSpacing

theorem length_skipBlank (tokens : List Token) : (skipBlank tokens).length ≤ tokens.length :=
  (List.dropWhile_sublist _).length_le

theorem length_skipSpacing (tokens : List Token) : (skipSpacing tokens).length ≤ tokens.length :=
  (List.dropWhile_sublist _).length_le

/-- One key: a bare word or a text on one line. -/
def key? : (tokens : List Token) → Option (Read String tokens)
  | .bare word :: rest => some ⟨word, rest, by simp⟩
  | .quoted text false :: rest => some ⟨text, rest, by simp⟩
  | _ => none

/-- A path of keys with points between them, and the blanks behind it. -/
def path? (tokens : List Token) : Option (Read (List String) tokens) :=
  match key? tokens with
  | none => none
  | some first =>
    match _behind : skipBlank first.rest with
    | .period :: rest =>
      match path? (skipBlank rest) with
      | none => none
      | some later => some ⟨first.part :: later.part, later.rest, by
          have := first.shorter
          have := length_skipBlank first.rest
          have := later.shorter
          have := length_skipBlank rest
          rw [_behind, List.length_cons] at *
          omega⟩
    | rest => some ⟨[first.part], rest, by
        have := first.shorter
        have := length_skipBlank first.rest
        rw [_behind] at this
        omega⟩
termination_by tokens.length
decreasing_by
  have := first.shorter
  have := length_skipBlank first.rest
  have := length_skipBlank rest
  rw [_behind, List.length_cons] at *
  omega

mutual

def value? (tokens : List Token) : Option (Read Value tokens) :=
  match tokens with
  | .leftBracket :: rest =>
    match elements? rest with
    | none => none
    | some items => some ⟨.array items.part, items.rest, by
        have := items.shorter
        simp only [List.length_cons]
        omega⟩
  | .leftBrace :: rest =>
    match _behind : skipBlank rest with
    | .rightBrace :: after => some ⟨.table .inline [], after, by
        have := length_skipBlank rest
        rw [_behind, List.length_cons] at this
        simp only [List.length_cons]
        omega⟩
    | inner =>
      match members? inner [] with
      | none => none
      | some members => some ⟨.table .inline members.part, members.rest, by
          have := members.shorter
          have := length_skipBlank rest
          rw [_behind] at this
          simp only [List.length_cons]
          omega⟩
  | tokens =>
    match _found : scalar? tokens with
    | none => none
    | some (value, rest) => some ⟨value, rest, length_scalar _found⟩
termination_by 2 * tokens.length
decreasing_by
  · simp only [List.length_cons]
    omega
  · have := length_skipBlank rest
    rw [_behind] at this
    simp only [List.length_cons]
    omega

/-- The elements of an array up to its closing bracket. A comma may follow the last one. -/
def elements? (tokens : List Token) : Option (Read (List Value) tokens) :=
  match _before : skipSpacing tokens with
  | .rightBracket :: rest => some ⟨[], rest, by
      have := length_skipSpacing tokens
      rw [_before, List.length_cons] at this
      omega⟩
  | inner =>
    match value? inner with
    | none => none
    | some first =>
      match _behind : skipSpacing first.rest with
      | .comma :: rest =>
        match elements? rest with
        | none => none
        | some later => some ⟨first.part :: later.part, later.rest, by
            have := length_skipSpacing tokens
            have := first.shorter
            have := length_skipSpacing first.rest
            have := later.shorter
            rw [_behind, List.length_cons] at *
            rw [_before] at *
            omega⟩
      | .rightBracket :: rest => some ⟨[first.part], rest, by
          have := length_skipSpacing tokens
          have := first.shorter
          have := length_skipSpacing first.rest
          rw [_behind, List.length_cons] at *
          rw [_before] at *
          omega⟩
      | _ => none
termination_by 2 * tokens.length + 1
decreasing_by
  · have := length_skipSpacing tokens
    rw [_before] at this
    omega
  · have := length_skipSpacing tokens
    have := first.shorter
    have := length_skipSpacing first.rest
    rw [_behind, List.length_cons] at *
    rw [_before] at *
    omega

/-- The members of an inline table up to its closing brace, added to those in front of them. -/
def members? (tokens : List Token) (before : List (String × Value)) :
    Option (Read (List (String × Value)) tokens) :=
  match path? tokens with
  | none => none
  | some path =>
    match _equals : path.rest with
    | .equals :: inner =>
      match value? (skipBlank inner) with
      | none => none
      | some value =>
        match insert value.part path.part before with
        | none => none
        | some members =>
          match _behind : skipBlank value.rest with
          | .rightBrace :: rest => some ⟨members, rest, by
              have := path.shorter
              have := length_skipBlank inner
              have := value.shorter
              have := length_skipBlank value.rest
              rw [_behind, List.length_cons] at *
              rw [_equals, List.length_cons] at *
              omega⟩
          | .comma :: rest =>
            match members? (skipBlank rest) members with
            | none => none
            | some later => some ⟨later.part, later.rest, by
                have := path.shorter
                have := length_skipBlank inner
                have := value.shorter
                have := length_skipBlank value.rest
                have := length_skipBlank rest
                have := later.shorter
                rw [_behind, List.length_cons] at *
                rw [_equals, List.length_cons] at *
                omega⟩
          | _ => none
    | _ => none
termination_by 2 * tokens.length + 1
decreasing_by
  · have := path.shorter
    have := length_skipBlank inner
    rw [_equals, List.length_cons] at *
    omega
  · have := path.shorter
    have := length_skipBlank inner
    have := value.shorter
    have := length_skipBlank value.rest
    have := length_skipBlank rest
    rw [_behind, List.length_cons] at *
    rw [_equals, List.length_cons] at *
    omega

end

/-- A line that is not empty. -/
inductive Line where
  | header (path : List String) (isArray : Bool)
  | member (path : List String) (value : Value)

/-- The tokens behind the end of a line, where nothing but blanks and a comment may stand. -/
def lineEnd? (tokens : List Token) : Option (List Token) :=
  match skipBlank tokens with
  | [] => some []
  | .newline :: rest => some rest
  | .comment :: [] => some []
  | .comment :: .newline :: rest => some rest
  | _ => none

/-- The path in a header and the tokens behind its closing brackets. -/
def header? (isArray : Bool) (tokens : List Token) : Option (Line × List Token) := do
  let path ← path? (skipBlank tokens)
  match isArray, path.rest with
  | false, .rightBracket :: rest => some (.header path.part isArray, rest)
  | true, .rightBracket :: .rightBracket :: rest => some (.header path.part isArray, rest)
  | _, _ => none

def member? (tokens : List Token) : Option (Line × List Token) := do
  let path ← path? tokens
  match path.rest with
  | .equals :: rest => do
    let value ← value? (skipBlank rest)
    some (.member path.part value.part, value.rest)
  | _ => none

/-- A header or a member, and the tokens behind it. -/
def content? : List Token → Option (Line × List Token)
  | .leftBracket :: .leftBracket :: rest => header? true rest
  | .leftBracket :: rest => header? false rest
  | tokens => member? tokens

def line? (tokens : List Token) : Option (Line × List Token) := do
  let (line, behind) ← content? tokens
  let rest ← lineEnd? behind
  return (line, rest)

theorem length_lineEnd {tokens rest : List Token} (found : lineEnd? tokens = some rest) :
    rest.length ≤ tokens.length := by
  have before := length_skipBlank tokens
  unfold lineEnd? at found
  split at found <;> rename_i isRest
  all_goals first
    | (simp at found; done)
    | (obtain rfl := Option.some.inj found
       rw [isRest] at before
       simp only [List.length_cons, List.length_nil] at before ⊢
       omega)

theorem length_header {isArray : Bool} {tokens rest : List Token} {line : Line}
    (found : header? isArray tokens = some (line, rest)) : rest.length ≤ tokens.length := by
  simp only [header?, bind, Option.bind_eq_some_iff] at found
  obtain ⟨path, -, found⟩ := found
  have inner := path.shorter
  have before := length_skipBlank tokens
  split at found <;> rename_i isRest
  · obtain ⟨-, rfl⟩ := Prod.mk.inj (Option.some.inj found)
    rw [isRest, List.length_cons] at inner
    omega
  · obtain ⟨-, rfl⟩ := Prod.mk.inj (Option.some.inj found)
    rw [isRest, List.length_cons, List.length_cons] at inner
    omega
  · simp at found

theorem length_member {tokens rest : List Token} {line : Line}
    (found : member? tokens = some (line, rest)) : rest.length < tokens.length := by
  simp only [member?, bind, Option.bind_eq_some_iff] at found
  obtain ⟨path, -, found⟩ := found
  have outer := path.shorter
  split at found
  · rename_i inner isRest
    simp only [Option.bind_eq_some_iff] at found
    obtain ⟨value, -, found⟩ := found
    obtain ⟨-, rfl⟩ := Prod.mk.inj (Option.some.inj found)
    have later := value.shorter
    have before := length_skipBlank inner
    rw [isRest, List.length_cons] at outer
    omega
  · simp at found

theorem length_content {tokens rest : List Token} {line : Line}
    (found : content? tokens = some (line, rest)) : rest.length < tokens.length := by
  unfold content? at found
  split at found
  · have := length_header found
    simp only [List.length_cons]
    omega
  · have := length_header found
    simp only [List.length_cons]
    omega
  · exact length_member found

theorem length_line {tokens rest : List Token} {line : Line}
    (found : line? tokens = some (line, rest)) : rest.length < tokens.length := by
  simp only [line?, bind, Option.bind_eq_some_iff] at found
  obtain ⟨⟨_, behind⟩, isContent, after, isEnd, found⟩ := found
  obtain ⟨-, rfl⟩ := Prod.mk.inj (Option.some.inj found)
  have inside : behind.length < tokens.length := length_content isContent
  have later : after.length ≤ behind.length := length_lineEnd isEnd
  exact Nat.lt_of_le_of_lt later inside

def lines? (tokens : List Token) : Option (List Line) :=
  match _before : skipSpacing tokens with
  | [] => some []
  | first :: rest =>
    match _found : line? (first :: rest) with
    | none => none
    | some (line, after) => (lines? after).map (line :: ·)
termination_by tokens.length
decreasing_by
  have := length_line _found
  have := length_skipSpacing tokens
  rw [_before] at *
  omega

/-- The members between two headers. The block in front of all headers has an empty path. -/
structure Block where
  path : List String
  isArray : Bool
  members : List (String × Value)

/-- The blocks of the lines behind an opened block. A block without a path is left out if it has no
members. -/
def blocks? (opened : Block) : List Line → Option (List Block)
  | [] => some (if opened.path.isEmpty && opened.members.isEmpty then [] else [opened])
  | .header path isArray :: later => do
    let closed := if opened.path.isEmpty && opened.members.isEmpty then [] else [opened]
    return closed ++ (← blocks? ⟨path, isArray, []⟩ later)
  | .member path value :: later => do
    let members ← insert value path opened.members
    blocks? { opened with members } later

/-- The blocks of a document, if it is well formed. -/
def blocksOf? (document : String) : Option (List Block) := do
  let tokens ← tokens document
  let lines ← lines? tokens
  blocks? ⟨[], false, []⟩ lines

end Testbed.Toml
