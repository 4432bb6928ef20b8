import LineGreeting.Decimal.Binary64

/-! # The shortest decimal of a number

A finite number is written with as few digits as tell it from its neighbours.
Of two such decimals the nearer one is taken, and the larger one if both are
equally near. The digits are written in full, without an exponent.
-/

namespace LineGreeting.Decimal

/-- A positive number with the interval of all that rounds to it. All four
are multiples of `1 / unit`. -/
structure Neighbourhood where
  low : Nat
  value : Nat
  high : Nat
  unit : Nat
  /-- Whether the ends of the interval belong to it. -/
  closed : Bool

namespace Neighbourhood

/-- The neighbourhood of `significand * 2 ^ exponent`. Below a power of two the
numbers lie twice as dense. -/
def ofSignificand (significand : Nat) (exponent : Int) : Neighbourhood :=
  let below :=
    if significand = 1 <<< (Binary64.precision - 1) ∧ Binary64.minExponent < exponent then 1 else 2
  let (factor, unit) := scale (exponent - 2) 1 1
  { low := (4 * significand - below) * factor
    value := 4 * significand * factor
    high := (4 * significand + 2) * factor
    unit
    closed := significand % 2 = 0 }

/-- Whether `digits * 10 ^ power / divisor` lies in the interval. -/
def contains (around : Neighbourhood) (digits factor divisor : Nat) : Bool :=
  let point := digits * factor * around.unit
  let low := around.low * divisor
  let high := around.high * divisor
  if around.closed then low ≤ point && point ≤ high else low < point && point < high

/-- The decimals with one digit at `10 ^ exponent` that are next to the value: the
one in the interval, the nearer of the two if both are. -/
def nearest? (around : Neighbourhood) (exponent : Int) : Option Nat :=
  let (factor, divisor) : Nat × Nat := match exponent with
    | .ofNat power => (Nat.pow 10 power, 1)
    | .negSucc power => (1, Nat.pow 10 (power + 1))
  let step := factor * around.unit
  let value := around.value * divisor
  let below := value / step
  match around.contains below factor divisor, around.contains (below + 1) factor divisor with
  | true, true => some (if 2 * (value % step) < step then below else below + 1)
  | true, false => some below
  | false, true => some (below + 1)
  | false, false => none

/-- The largest power of ten, from some power downwards, at which a decimal lies
in the interval, and the digits of that decimal. -/
def shortest (around : Neighbourhood) : Nat → Int → Nat × Int
  | 0, exponent => ((around.nearest? exponent).getD 0, exponent)
  | more + 1, exponent =>
    match around.nearest? exponent with
    | some digits => if digits = 0 then shortest around more (exponent - 1) else (digits, exponent)
    | none => shortest around more (exponent - 1)

end Neighbourhood

/-- Digits times a power of ten, written in full. -/
def positional (digits : Nat) (exponent : Int) : String :=
  let shown := Nat.toDigits 10 digits
  match exponent with
  | .ofNat power => String.ofList (shown ++ List.replicate power '0')
  | .negSucc power =>
    let places := power + 1
    let padded := List.replicate (places + 1 - shown.length) '0' ++ shown
    let whole := padded.length - places
    String.ofList (padded.take whole ++ '.' :: padded.drop whole)

/-- A finite number without its sign, written in full. -/
def magnitudeText (significand : Nat) (exponent : Int) : String :=
  if significand = 0 then "0"
  else
    let around := Neighbourhood.ofSignificand significand exponent
    let top : Int := (Nat.toDigits 10 (around.high / around.unit)).length
    let (digits, exponent) := around.shortest 360 top
    positional digits exponent

/-- A number as text. A whole number has no point. -/
def Binary64.text : Binary64 → String
  | nan => "NaN"
  | infinite negative => if negative then "-inf" else "inf"
  | finite negative significand exponent =>
    (if negative then "-" else "") ++ magnitudeText significand exponent

end LineGreeting.Decimal
