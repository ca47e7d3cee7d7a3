/-!
# Bytes as text

Bytes are read as UTF-8 in two ways. The strict reading, `decode`, stops at the first sequence that
is no character and says where it is. The lenient reading, `decodeLossy`, puts one replacement
character in the place of every such sequence.

A faulty sequence is as long as it could still have been the start of a character: a byte that
starts none counts alone, and a byte that cannot continue belongs to what follows. Bytes that end
before their character does are incomplete.
-/

namespace Testbed.Text.Utf8

inductive Fault where
  | invalid (length index : Nat)
  | incomplete (index : Nat)
deriving DecidableEq, Repr

def Fault.message : Fault → String
  | .invalid length index =>
    "invalid utf-8 sequence of " ++ toString length ++ " bytes from index " ++ toString index
  | .incomplete index => "incomplete utf-8 byte sequence from index " ++ toString index

/-- What the bytes start with. Each length counts the bytes after the first. -/
inductive Sequence where
  | character (char : Char) (more : Nat)
  | invalid (more : Nat)
  | incomplete
deriving DecidableEq, Repr

/-- Whether a byte lies in a range, both ends included. -/
def within (least greatest byte : UInt8) : Bool := least ≤ byte && byte ≤ greatest

def continues (byte : UInt8) : Bool := within 0x80 0xBF byte

/-- The second bytes that can follow a first byte of three or four. The limits exclude overlong
forms, surrogates and values past the last code point. -/
def secondRange (first : UInt8) : UInt8 × UInt8 :=
  if first = 0xE0 then (0xA0, 0xBF)
  else if first = 0xED then (0x80, 0x9F)
  else if first = 0xF0 then (0x90, 0xBF)
  else if first = 0xF4 then (0x80, 0x8F)
  else (0x80, 0xBF)

/-- The code point of a first byte, from which the length mark has been taken, and the low six bits
of the bytes that continue it. -/
def codePoint (top : Nat) (bytes : List UInt8) : Char :=
  Char.ofNat (bytes.foldl (fun value byte => value * 64 + byte.toNat % 64) top)

/-- The character or the faulty sequence that the bytes start with. -/
def sequence (first : UInt8) (rest : List UInt8) : Sequence :=
  if first < 0x80 then .character (Char.ofNat first.toNat) 0
  else if within 0xC2 0xDF first then
    match rest with
    | [] => .incomplete
    | second :: _ =>
      if continues second then .character (codePoint (first.toNat % 32) [second]) 1
      else .invalid 0
  else if within 0xE0 0xEF first then
    match rest with
    | [] => .incomplete
    | second :: rest =>
      if within (secondRange first).1 (secondRange first).2 second then
        match rest with
        | [] => .incomplete
        | third :: _ =>
          if continues third then .character (codePoint (first.toNat % 16) [second, third]) 2
          else .invalid 1
      else .invalid 0
  else if within 0xF0 0xF4 first then
    match rest with
    | [] => .incomplete
    | second :: rest =>
      if within (secondRange first).1 (secondRange first).2 second then
        match rest with
        | [] => .incomplete
        | third :: rest =>
          if continues third then
            match rest with
            | [] => .incomplete
            | fourth :: _ =>
              if continues fourth then
                .character (codePoint (first.toNat % 8) [second, third, fourth]) 3
              else .invalid 2
          else .invalid 1
      else .invalid 0
  else .invalid 0

/-- The strict reading of bytes that start at an index. -/
def decodeFrom (index : Nat) : List UInt8 → Except Fault (List Char)
  | [] => .ok []
  | first :: rest =>
    match sequence first rest with
    | .character char more => do
      let chars ← decodeFrom (index + 1 + more) (rest.drop more)
      return char :: chars
    | .invalid more => .error (.invalid (more + 1) index)
    | .incomplete => .error (.incomplete index)
termination_by bytes => bytes.length
decreasing_by simp only [List.length_drop, List.length_cons]; omega

def decode (bytes : List UInt8) : Except Fault String :=
  (decodeFrom 0 bytes).map String.ofList

/-- The lenient reading, as characters. -/
def replaceFaults : List UInt8 → List Char
  | [] => []
  | first :: rest =>
    match sequence first rest with
    | .character char more => char :: replaceFaults (rest.drop more)
    | .invalid more => '\uFFFD' :: replaceFaults (rest.drop more)
    | .incomplete => ['\uFFFD']
termination_by bytes => bytes.length
decreasing_by all_goals simp only [List.length_drop, List.length_cons]; omega

def decodeLossy (bytes : List UInt8) : String :=
  String.ofList (replaceFaults bytes)

def encode (text : String) : List UInt8 := text.toUTF8.toList

end Testbed.Text.Utf8
