/-! # Floating point numbers of 64 bits

A finite number is a whole multiple of a power of two. A decimal stands for
the number nearest to it, and for the one with the even multiple if two are
equally near. Decimals that are far too large or too small are settled before
any power is formed.
-/

namespace LineGreeting.Decimal

/-- A floating point number of 64 bits. -/
inductive Binary64 where
  /-- No number. -/
  | nan
  /-- Beyond all finite numbers. -/
  | infinite (negative : Bool)
  /-- The number `significand * 2 ^ exponent`, or its negative. -/
  | finite (negative : Bool) (significand : Nat) (exponent : Int)
deriving DecidableEq, Repr

/-- Division to the nearest whole number; a half goes to the even neighbour. -/
def divideToEven (dividend divisor : Nat) : Nat :=
  let quotient := dividend / divisor
  let remainder := dividend % divisor
  if 2 * remainder < divisor then quotient
  else if divisor < 2 * remainder then quotient + 1
  else if quotient % 2 = 0 then quotient
  else quotient + 1

/-- A ratio of two numbers times a power of two, as a ratio. -/
def scale (exponent : Int) (dividend divisor : Nat) : Nat × Nat :=
  match exponent with
  | .ofNat power => (dividend <<< power, divisor)
  | .negSucc power => (dividend, divisor <<< (power + 1))

namespace Binary64

/-- The least exponent. -/
def minExponent : Int := -1074

/-- The greatest exponent. -/
def maxExponent : Int := 971

/-- How many bits a significand has. -/
def precision : Nat := 53

/-- The number nearest to a positive ratio, or its negative. -/
def ofRatio (negative : Bool) (dividend divisor : Nat) : Binary64 :=
  let guess : Int := (dividend.log2 : Int) - divisor.log2 - precision
  let fits (exponent : Int) : Bool :=
    let (dividend, divisor) := scale (-exponent) dividend divisor
    dividend < divisor <<< precision
  let exponent :=
    max minExponent
      (if fits guess then guess else if fits (guess + 1) then guess + 1 else guess + 2)
  let (dividend, divisor) := scale (-exponent) dividend divisor
  let significand := divideToEven dividend divisor
  let (significand, exponent) :=
    if significand = 1 <<< precision then (1 <<< (precision - 1), exponent + 1)
    else (significand, exponent)
  if maxExponent < exponent then infinite negative
  else finite negative significand exponent

/-- The number nearest to `digits * 10 ^ exponent`, or its negative. -/
def ofDecimal (negative : Bool) (digits : Nat) (exponent : Int) : Binary64 :=
  let magnitude : Int := (Nat.toDigits 10 digits).length + exponent
  if digits = 0 ∨ magnitude < -330 then finite negative 0 minExponent
  else if 310 < magnitude then infinite negative
  else match exponent with
    | .ofNat power => ofRatio negative (digits * Nat.pow 10 power) 1
    | .negSucc power => ofRatio negative digits (Nat.pow 10 (power + 1))

end Binary64

end LineGreeting.Decimal
