/-!
# Binary floating point numbers

A number of 64 bits as its parts: a significand below 2^53 and the power of two that it counts. A
decimal number is read as the nearest such number, and of two equally near ones as the one with the
even significand. Everything is exact arithmetic on natural numbers.
-/

namespace Testbed.Number

/-- A number of 64 bits. The finite number is the significand times two to the exponent. -/
inductive Binary64 where
  | nan
  | infinite (negative : Bool)
  | finite (negative : Bool) (significand : Nat) (exponent : Int)
deriving DecidableEq, Repr

namespace Binary64

def minExponent : Int := -1074

def maxExponent : Int := 971

/-- How many bits a significand has. -/
def precision : Nat := 53

/-- A quotient rounded to the nearest natural number, a half to the even one. -/
def roundedQuotient (numerator denominator : Nat) : Nat :=
  let quotient := numerator / denominator
  let twice := 2 * (numerator % denominator)
  if twice < denominator ∨ (twice = denominator ∧ quotient % 2 = 0) then quotient else quotient + 1

/-- Two to the exponent times the quotient of two numbers, as such a quotient again. -/
def scaleBinary (numerator denominator : Nat) (exponent : Int) : Nat × Nat :=
  match exponent with
  | .ofNat power => (numerator * Nat.pow 2 power, denominator)
  | .negSucc power => (numerator, denominator * Nat.pow 2 (power + 1))

/-- The nearest number to a positive quotient. -/
def ofQuotient (negative : Bool) (numerator denominator : Nat) : Binary64 :=
  let magnitude : Int := (numerator.log2 : Int) - (denominator.log2 : Int)
  -- The quotient lies between the powers of two next to its magnitude, so the exponent is this one
  -- or the one below.
  let upper := magnitude - (precision - 1 : Nat)
  let significandAt (exponent : Int) : Nat :=
    let (above, below) := scaleBinary numerator denominator (-exponent)
    roundedQuotient above below
  let reaches (exponent : Int) : Bool :=
    let (above, below) := scaleBinary numerator denominator (-exponent)
    Nat.pow 2 (precision - 1) * below ≤ above
  let exponent := max minExponent (if reaches upper then upper else upper - 1)
  let significand := significandAt exponent
  let (significand, exponent) :=
    if significand = Nat.pow 2 precision then (Nat.pow 2 (precision - 1), exponent + 1)
    else (significand, exponent)
  if maxExponent < exponent then .infinite negative else .finite negative significand exponent

def zero (negative : Bool) : Binary64 := .finite negative 0 minExponent

/-- The number that decimal digits and a power of ten stand for. Powers far outside the range are
decided by the number of digits alone. -/
def ofDecimal (negative : Bool) (digits : Nat) (power : Int) : Binary64 :=
  if digits = 0 then zero negative
  else
    let reach : Int := (Nat.toDigits 10 digits).length + power
    if 400 < reach then .infinite negative
    else if reach < -400 then zero negative
    else
      match power with
      | .ofNat power => ofQuotient negative (digits * Nat.pow 10 power) 1
      | .negSucc power => ofQuotient negative digits (Nat.pow 10 (power + 1))

def isFinite : Binary64 → Bool
  | .finite .. => true
  | _ => false

end Binary64

end Testbed.Number
