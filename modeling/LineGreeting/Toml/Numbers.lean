import LineGreeting.Decimal.Binary64
import LineGreeting.Text.Number
import LineGreeting.Toml.Value

/-! # Numbers of a configuration document

A number is whole if it has neither a fraction nor an exponent. Single
underscores may stand between digits. Whole numbers have 64 bits with a sign;
others are rounded to floating point numbers, and none may be rounded up beyond
all finite ones.
-/

namespace LineGreeting.Toml

/-- Reads on in a run of digits. The digits found so far are in `found`, last
one first. -/
def moreDigits (base : Nat) (found : List Char) : List Char → List Char × List Char
  | '_' :: char :: rest =>
    if Text.isDigit base char then moreDigits base (char :: found) rest
    else (found.reverse, '_' :: char :: rest)
  | char :: rest =>
    if Text.isDigit base char then moreDigits base (char :: found) rest
    else (found.reverse, char :: rest)
  | [] => (found.reverse, [])

/-- Reads a run of digits. -/
def readDigits (base : Nat) : List Char → Option (List Char × List Char)
  | char :: rest => if Text.isDigit base char then some (moreDigits base [char] rest) else none
  | [] => none

/-- Reads decimal digits without a leading zero. -/
def readWhole : List Char → Option (List Char × List Char)
  | '0' :: rest => some (['0'], rest)
  | text => readDigits 10 text

/-- Reads a sign, if there is one: whether it is a minus. -/
def readSign : List Char → Bool × List Char
  | '+' :: rest => (false, rest)
  | '-' :: rest => (true, rest)
  | text => (false, text)

/-- A whole number, if it has 64 bits. -/
def integer? (negative : Bool) (magnitude : Nat) : Option Value :=
  if negative then
    if magnitude ≤ Text.maxInt64 + 1 then some (.integer (-magnitude)) else none
  else if magnitude ≤ Text.maxInt64 then some (.integer magnitude) else none

/-- Reads a whole number in a base other than ten, behind its mark. -/
def readBased (base : Nat) (text : List Char) : Option (Value × List Char) := do
  let (digits, rest) ← readDigits base text
  return (← integer? false (Text.ofDigits base digits), rest)

/-- Reads a whole number. -/
def readInteger : List Char → Option (Value × List Char)
  | '0' :: 'x' :: rest => readBased 16 rest
  | '0' :: 'o' :: rest => readBased 8 rest
  | '0' :: 'b' :: rest => readBased 2 rest
  | text => do
    let (negative, text) := readSign text
    let (digits, rest) ← readWhole text
    return (← integer? negative (Text.ofDigits 10 digits), rest)

/-- Reads an exponent. -/
def readExponent : List Char → Option (Int × List Char)
  | char :: rest =>
    if char = 'e' ∨ char = 'E' then do
      let (negative, rest) := readSign rest
      let (digits, rest) ← readDigits 10 rest
      let magnitude : Int := Text.ofDigits 10 digits
      return (if negative then -magnitude else magnitude, rest)
    else none
  | [] => none

/-- Reads a fraction: the digits behind the point. -/
def readFraction : List Char → Option (List Char × List Char)
  | '.' :: rest => readDigits 10 rest
  | _ => none

/-- A number with a fraction or an exponent. -/
def float? (negative : Bool) (digits : List Char) (exponent : Int) : Option Value :=
  match Decimal.Binary64.ofDecimal negative (Text.ofDigits 10 digits) exponent with
  | .infinite false => none
  | number => some (.float number)

/-- Reads a number that has no digits. -/
def readSpecial (negative : Bool) : List Char → Option (Value × List Char)
  | 'i' :: 'n' :: 'f' :: rest => some (.float (.infinite negative), rest)
  | 'n' :: 'a' :: 'n' :: rest => some (.float .nan, rest)
  | _ => none

/-- Reads a number with a fraction or an exponent, or one without digits. -/
def readFloat (text : List Char) : Option (Value × List Char) :=
  let (negative, text) := readSign text
  match readWhole text with
  | none => readSpecial negative text
  | some (whole, text) =>
    match readExponent text with
    | some (exponent, rest) => do return (← float? negative whole exponent, rest)
    | none => do
      let (fraction, text) ← readFraction text
      let (exponent, rest) := (readExponent text).getD (0, text)
      return (← float? negative (whole ++ fraction) (exponent - fraction.length), rest)

end LineGreeting.Toml
