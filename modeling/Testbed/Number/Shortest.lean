import Testbed.Number.Binary64

/-!
# The shortest decimal form

A finite binary number is shown by the fewest decimal digits that are nearer to it than to any other
such number, and of several such forms by the nearest. The form is positional whatever the
magnitude, and a whole number keeps a point and one zero.

With any number of digits only the two neighbours of the number on the decimal grid can be the form:
if some point of the grid rounds to the number, then one of its neighbours does.
-/

namespace Testbed.Number

structure Decimal where
  digits : Nat
  power : Int
deriving DecidableEq, Repr

namespace Binary64

/-- The values that round to a number, as numerators over one denominator: the number itself and
the ends of the interval, which belong to it if the significand is even. -/
structure Interval where
  low : Nat
  value : Nat
  high : Nat
  denominator : Nat
  closed : Bool

/-- The interval of a positive number. Below a power of two the numbers are twice as dense, so there
the lower end is nearer. -/
def interval (significand : Nat) (exponent : Int) : Interval :=
  let narrow := significand = Nat.pow 2 (precision - 1) ∧ minExponent < exponent
  let unit := scaleBinary 1 1 (exponent - 2)
  { low := (4 * significand - if narrow then 1 else 2) * unit.1
    value := 4 * significand * unit.1
    high := (4 * significand + 2) * unit.1
    denominator := unit.2
    closed := significand % 2 = 0 }

/-- The number of digits in front of the point. It is zero or negative for a number below one, by
the zeros that follow the point. -/
def integerDigits (span : Interval) : Int :=
  if span.denominator ≤ span.value then (Nat.toDigits 10 (span.value / span.denominator)).length
  else
    let inverse := (span.denominator + span.value - 1) / span.value
    1 - (Nat.toDigits 10 (inverse - 1)).length

/-- The neighbour on the grid of a power of ten that stands for the number, if one does. -/
def onGrid? (span : Interval) (power : Int) : Option Decimal :=
  let (up, down) := match power with
    | .ofNat power => (1, Nat.pow 10 power)
    | .negSucc power => (Nat.pow 10 (power + 1), 1)
  let unit := span.denominator * down
  let below := span.value * up / unit
  let above := below + 1
  let inside (digits : Nat) : Bool :=
    if span.closed then span.low * up ≤ digits * unit && digits * unit ≤ span.high * up
    else span.low * up < digits * unit && digits * unit < span.high * up
  if inside below && (!inside above || 2 * (span.value * up) < (below + above) * unit) then
    some ⟨below, power⟩
  else if inside above then some ⟨above, power⟩
  else none

/-- The shortest form of a positive number. Seventeen digits always suffice. -/
def shortest (significand : Nat) (exponent : Int) : Decimal :=
  let span := interval significand exponent
  let integral := integerDigits span
  ((List.range 17).findSome? fun digits => onGrid? span (integral - (digits + 1 : Nat))).getD ⟨0, 0⟩

end Binary64

/-- The positional form, with at least one digit on both sides of the point. -/
def Decimal.positional (decimal : Decimal) : String :=
  let digits := Nat.toDigits 10 decimal.digits
  match decimal.power with
  | .ofNat power => String.ofList (digits ++ List.replicate power '0' ++ ['.', '0'])
  | .negSucc power =>
    let places := power + 1
    let padded := List.replicate (places + 1 - digits.length) '0' ++ digits
    let fraction := (padded.drop (padded.length - places)).reverse.dropWhile (· == '0')
    String.ofList
      (padded.take (padded.length - places) ++ '.' ::
        if fraction.isEmpty then ['0'] else fraction.reverse)

def Binary64.render : Binary64 → String
  | .nan => "NaN"
  | .infinite negative => (if negative then "-" else "") ++ "inf"
  | .finite negative significand exponent =>
    (if negative then "-" else "") ++
      if significand = 0 then "0.0" else (shortest significand exponent).positional

end Testbed.Number
