import Testbed.Text.Pieces

/-!
# IPv4 addresses

An address is four octets, written in decimal with points between them. A network address carries
the length of the network's prefix behind a slash and keeps its host bits.

Two forms of an octet are in use. A plain address admits no superfluous zeros in front. In a network
address zeros may stand in front, as long as an octet has at most three digits and the prefix length
at most two.

Results: `Address.withLastOctet_octets` (a peer shares the first three octets).
-/

namespace Testbed.Net

open Testbed.Text

structure Address where
  first : UInt8
  second : UInt8
  third : UInt8
  fourth : UInt8
deriving DecidableEq, Repr

/-- An address with the length of its network's prefix. -/
structure NetworkAddress where
  address : Address
  length : Fin 33
deriving DecidableEq, Repr

inductive AddressError where
  | plain
  | network
deriving DecidableEq, Repr

def AddressError.message : AddressError → String
  | .plain => "invalid IPv4 address syntax"
  | .network => "invalid IP address syntax"

/-- Whether zeros may stand in front of an octet. -/
inductive ZeroRule where
  | strict
  | lenient
deriving DecidableEq, Repr

/-- Whether a numeral obeys the rule: no zero stands in front of another digit. -/
def ZeroRule.admits : ZeroRule → List Char → Bool
  | .lenient, _ => true
  | .strict, '0' :: _ :: _ => false
  | .strict, _ => true

/-- A numeral of at most so many digits with a value below the bound. -/
def boundedNumeral? (maxDigits bound : Nat) (digits : List Char) : Option (Fin bound) := do
  let value ← decimal? digits
  if within : digits.length ≤ maxDigits ∧ value < bound then some ⟨value, within.2⟩ else none

def octet? (rule : ZeroRule) (digits : List Char) : Option UInt8 := do
  let value ← boundedNumeral? 3 256 digits
  if rule.admits digits then some (UInt8.ofNat value.val) else none

def address? (rule : ZeroRule) (text : List Char) : Option Address :=
  match pieces '.' text with
  | [first, second, third, fourth] => do
    some ⟨← octet? rule first, ← octet? rule second, ← octet? rule third, ← octet? rule fourth⟩
  | _ => none

namespace Address

def parse (text : String) : Except AddressError Address :=
  match address? .strict text.toList with
  | some address => .ok address
  | none => .error .plain

def render (address : Address) : String :=
  toString address.first.toNat ++ "." ++ toString address.second.toNat ++ "." ++
    toString address.third.toNat ++ "." ++ toString address.fourth.toNat

/-- The address that differs at most in the last octet. -/
def withLastOctet (address : Address) (octet : UInt8) : Address :=
  { address with fourth := octet }

theorem withLastOctet_octets (address : Address) (octet : UInt8) :
    (address.withLastOctet octet).first = address.first ∧
      (address.withLastOctet octet).second = address.second ∧
      (address.withLastOctet octet).third = address.third ∧
      (address.withLastOctet octet).fourth = octet :=
  ⟨rfl, rfl, rfl, rfl⟩

end Address

namespace NetworkAddress

def parse (text : String) : Except AddressError NetworkAddress :=
  match pieces '/' text.toList with
  | [address, length] =>
    match address? .lenient address, boundedNumeral? 2 33 length with
    | some address, some length => .ok ⟨address, length⟩
    | _, _ => .error .network
  | _ => .error .network

def render (network : NetworkAddress) : String :=
  network.address.render ++ "/" ++ toString network.length.val

end NetworkAddress

end Testbed.Net
