import Testbed.Text.Pieces
import Testbed.Toml.Token
import Testbed.Toml.Value

/-!
# Scalars of a TOML document

Numbers and dates are made of several tokens. A bare word that looks like a date is one, whatever
its digits are, and dates are not checked further. Any other bare word that starts with a digit or a
minus sign is a number. Digits may be grouped by single underscores, and a decimal number has no
superfluous zero in front.

Results: `length_scalar` (a scalar takes at least one token).
-/

namespace Testbed.Toml

open Testbed.Text Testbed.Number

/-- The digits of a numeral with its sign, and what follows them in the word. -/
structure Numeral where
  negative : Bool
  digits : List Char
  suffix : List Char

def isDigitIn (base : Nat) (c : Char) : Bool :=
  match hexValue? c with
  | some value => value < base
  | none => false

structure NumeralRule where
  base : Nat := 10
  signed : Bool := false
  leadingZeros : Bool := true

/-- The numeral at the start of a word. -/
def NumeralRule.read? (rule : NumeralRule) (word : List Char) : Option Numeral :=
  let (negative, unsigned) := match rule.signed, word with
    | true, '-' :: rest => (true, rest)
    | true, '+' :: rest => (false, rest)
    | _, word => (false, word)
  let inside := fun c => isDigitIn rule.base c || c = '_'
  let groups := pieces '_' (unsigned.takeWhile inside)
  let digits := groups.flatten
  if groups.any List.isEmpty then none
  else if !rule.leadingZeros && digits.head? = some '0' && 1 < digits.length then none
  else some ⟨negative, digits, unsigned.dropWhile inside⟩

def digitsValue (base : Nat) (digits : List Char) : Nat :=
  digits.foldl (fun value c => value * base + (hexValue? c).getD 0) 0

def signed (negative : Bool) (magnitude : Nat) : Int :=
  if negative then -(magnitude : Int) else magnitude

/-- The first positive number that does not fit in 64 bits with a sign. -/
def integerLimit : Int := 9223372036854775808

/-- An integer that makes up a whole word and fits in 64 bits. -/
def integer? (rule : NumeralRule) (word : List Char) : Option Value := do
  let numeral ← rule.read? word
  let value := signed numeral.negative (digitsValue rule.base numeral.digits)
  if numeral.suffix.isEmpty ∧ -integerLimit ≤ value ∧ value < integerLimit then
    some (.integer value)
  else none

/-- A decimal numeral without superfluous zeros. -/
def decimalRule : NumeralRule := { signed := true, leadingZeros := false }

/-- The exponent that makes up a whole word. -/
def wholeExponent? (rule : NumeralRule) (word : List Char) : Option Int := do
  let numeral ← rule.read? word
  if numeral.suffix.isEmpty then some (signed numeral.negative (digitsValue 10 numeral.digits))
  else none

/-- The exponent that a word's suffix and the tokens behind it give. A plus sign in an exponent is a
token of its own, so the digits are then a word of their own. -/
def exponent? (suffix : List Char) (rest : List Token) : Option (Int × List Token) :=
  match suffix, rest with
  | [], rest => some (0, rest)
  | [mark], .plus :: .bare word :: rest =>
    if mark = 'e' ∨ mark = 'E' then (wholeExponent? {} word.toList).map (·, rest) else none
  | mark :: digits, rest =>
    if mark = 'e' ∨ mark = 'E' then (wholeExponent? { signed := true } digits).map (·, rest)
    else none

/-- The digits behind the point of a number, and what follows them in their word. Without a point
the suffix of the digits in front counts. -/
def places? (integral : Numeral) : Option (List Char) → Option (List Char × List Char)
  | none => some ([], integral.suffix)
  | some word =>
    if integral.suffix.isEmpty then
      (NumeralRule.read? {} word).map fun numeral => (numeral.digits, numeral.suffix)
    else none

/-- The number with a fraction or an exponent that a word and the word behind its point give. A
number too large to be finite is refused. -/
def float? (word : List Char) (fraction : Option (List Char)) (rest : List Token) :
    Option (Value × List Token) := do
  let integral ← decimalRule.read? word
  let (places, suffix) ← places? integral fraction
  let (exponent, rest) ← exponent? suffix rest
  let value := Binary64.ofDecimal integral.negative (digitsValue 10 (integral.digits ++ places))
    (exponent - places.length)
  if value.isFinite then some (.float value, rest) else none

def number? (word : List Char) (rest : List Token) : Option (Value × List Token) :=
  match word with
  | '0' :: 'x' :: digits => (integer? { base := 16 } digits).map (·, rest)
  | '0' :: 'o' :: digits => (integer? { base := 8 } digits).map (·, rest)
  | '0' :: 'b' :: digits => (integer? { base := 2 } digits).map (·, rest)
  | word =>
    if word.contains 'e' || word.contains 'E' then float? word none rest
    else
      match rest with
      | .period :: .bare fraction :: rest => float? word (some fraction.toList) rest
      | .period :: _ => none
      | rest =>
        if word = "inf".toList then some (.float (.infinite false), rest)
        else if word = "-inf".toList then some (.float (.infinite true), rest)
        else if word = "nan".toList ∨ word = "-nan".toList then some (.float .nan, rest)
        else (integer? decimalRule word).map (·, rest)

/-- Passes over a mark and the word behind it, if the mark is there. -/
def optionalPart (mark : Token) : List Token → Option (List Token)
  | [] => some []
  | token :: rest =>
    if token = mark then
      match rest with
      | .bare _ :: rest => some rest
      | _ => none
    else some (token :: rest)

/-- Passes over the minutes, the seconds and the offset of a time, behind the colon of the hour. -/
def minutes? : List Token → Option (List Token)
  | .bare _ :: .colon :: .bare _ :: rest => do
    let rest ← optionalPart .period rest
    let rest ← optionalPart .plus rest
    optionalPart .colon rest
  | _ => none

/-- Passes over the hour behind a date: one blank and a word. -/
def skipHour : List Token → List Token
  | .blank " " :: .bare _ :: rest => rest
  | rest => rest

/-- Whether a word looks like a date: it holds the mark in front of a time, or a minus sign that
belongs to no exponent. -/
def looksLikeDate (word : List Char) : Bool :=
  let pairs := word.zip word.tail
  word.contains 'T' || word.contains 't' ||
    (word.tail.contains '-' && !pairs.contains ('e', '-') && !pairs.contains ('E', '-'))

def numberOrDate? (word : List Char) (rest : List Token) : Option (Value × List Token) :=
  if looksLikeDate word then
    match skipHour rest with
    | .colon :: rest => (minutes? rest).map (.date, ·)
    | rest => some (.date, rest)
  else
    match rest with
    | .colon :: rest => (minutes? (skipHour rest)).map (.date, ·)
    | rest => number? word rest

def startsNumber (word : String) : Bool :=
  word = "inf" || word = "nan" || word.toList.head?.any fun c => c = '-' || c.isDigit

def scalar? : List Token → Option (Value × List Token)
  | .quoted text _ :: rest => some (.string text, rest)
  | .bare "true" :: rest => some (.boolean true, rest)
  | .bare "false" :: rest => some (.boolean false, rest)
  | .bare word :: rest => if startsNumber word then numberOrDate? word.toList rest else none
  | .plus :: .bare word :: rest => number? word.toList rest
  | _ => none

/-! A scalar never takes tokens from outside, so what follows it is no longer than before. -/

theorem length_map {α : Type} {rest after : List Token} {value : α} {read : Option α}
    (found : read.map (·, rest) = some (value, after)) : after.length ≤ rest.length := by
  obtain ⟨_, -, pair⟩ := Option.map_eq_some_iff.mp found
  obtain ⟨-, rfl⟩ := Prod.mk.inj pair
  exact Nat.le_refl _

theorem length_exponent {suffix : List Char} {rest after : List Token} {value : Int}
    (found : exponent? suffix rest = some (value, after)) : after.length ≤ rest.length := by
  unfold exponent? at found
  split at found
  · obtain ⟨-, rfl⟩ := Prod.mk.inj (Option.some.inj found)
    exact Nat.le_refl _
  · split at found
    · have := length_map found
      simp only [List.length_cons]
      omega
    · simp at found
  · split at found
    · exact length_map found
    · simp at found

theorem length_float {word : List Char} {fraction : Option (List Char)} {rest after : List Token}
    {value : Value} (found : float? word fraction rest = some (value, after)) :
    after.length ≤ rest.length := by
  simp only [float?, bind, Option.bind_eq_some_iff] at found
  obtain ⟨_, -, _, -, _, isExponent, found⟩ := found
  split at found
  · obtain ⟨-, rfl⟩ := Prod.mk.inj (Option.some.inj found)
    exact length_exponent isExponent
  · simp at found

theorem length_number {word : List Char} {rest after : List Token} {value : Value}
    (found : number? word rest = some (value, after)) : after.length ≤ rest.length := by
  unfold number? at found
  split at found
  · exact length_map found
  · exact length_map found
  · exact length_map found
  · split at found
    · exact length_float found
    · split at found
      · have := length_float found
        simp only [List.length_cons]
        omega
      · simp at found
      · split at found
        · obtain ⟨-, rfl⟩ := Prod.mk.inj (Option.some.inj found)
          exact Nat.le_refl _
        · split at found
          · obtain ⟨-, rfl⟩ := Prod.mk.inj (Option.some.inj found)
            exact Nat.le_refl _
          · split at found
            · obtain ⟨-, rfl⟩ := Prod.mk.inj (Option.some.inj found)
              exact Nat.le_refl _
            · exact length_map found

theorem length_optionalPart {mark : Token} {rest after : List Token}
    (found : optionalPart mark rest = some after) : after.length ≤ rest.length := by
  unfold optionalPart at found
  split at found
  · simp_all
  · split at found
    · split at found
      · obtain rfl := Option.some.inj found
        simp only [List.length_cons]
        omega
      · simp at found
    · obtain rfl := Option.some.inj found
      exact Nat.le_refl _

theorem length_minutes {rest after : List Token} (found : minutes? rest = some after) :
    after.length ≤ rest.length := by
  unfold minutes? at found
  split at found
  · simp only [bind, Option.bind_eq_some_iff] at found
    obtain ⟨_, isFraction, _, isOffset, isLast⟩ := found
    have := length_optionalPart isFraction
    have := length_optionalPart isOffset
    have := length_optionalPart isLast
    simp only [List.length_cons]
    omega
  · simp at found

theorem length_skipHour (rest : List Token) : (skipHour rest).length ≤ rest.length := by
  unfold skipHour
  split
  · simp only [List.length_cons]
    omega
  · exact Nat.le_refl _

theorem length_numberOrDate {word : List Char} {rest after : List Token} {value : Value}
    (found : numberOrDate? word rest = some (value, after)) : after.length ≤ rest.length := by
  have hour := length_skipHour rest
  unfold numberOrDate? at found
  split at found
  · split at found
    · rename_i behind isColon
      obtain ⟨_, isTime, pair⟩ := Option.map_eq_some_iff.mp found
      obtain ⟨-, rfl⟩ := Prod.mk.inj pair
      have := length_minutes isTime
      rw [isColon, List.length_cons] at hour
      omega
    · obtain ⟨-, rfl⟩ := Prod.mk.inj (Option.some.inj found)
      exact hour
  · split at found
    · rename_i behind
      obtain ⟨_, isTime, pair⟩ := Option.map_eq_some_iff.mp found
      obtain ⟨-, rfl⟩ := Prod.mk.inj pair
      have := length_minutes isTime
      have := length_skipHour behind
      simp only [List.length_cons]
      omega
    · exact length_number found

theorem length_scalar {tokens after : List Token} {value : Value}
    (found : scalar? tokens = some (value, after)) : after.length < tokens.length := by
  unfold scalar? at found
  split at found
  · obtain ⟨-, rfl⟩ := Prod.mk.inj (Option.some.inj found)
    simp
  · obtain ⟨-, rfl⟩ := Prod.mk.inj (Option.some.inj found)
    simp
  · obtain ⟨-, rfl⟩ := Prod.mk.inj (Option.some.inj found)
    simp
  · split at found
    · have := length_numberOrDate found
      simp only [List.length_cons]
      omega
    · simp at found
  · have := length_number found
    simp only [List.length_cons]
    omega
  · simp at found

end Testbed.Toml
