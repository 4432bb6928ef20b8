/-! # Numbers in text

Whole numbers are read digit by digit, and the first character that cannot be
taken decides what is wrong: it is no digit, or the number has grown beyond its
bounds.
-/

namespace LineGreeting.Text

/-- The value of a digit in a base up to sixteen. -/
def digit? (base : Nat) (char : Char) : Option Nat :=
  let code := char.toNat
  let value :=
    if '0' ≤ char ∧ char ≤ '9' then some (code - '0'.toNat)
    else if 'a' ≤ char ∧ char ≤ 'f' then some (code - 'a'.toNat + 10)
    else if 'A' ≤ char ∧ char ≤ 'F' then some (code - 'A'.toNat + 10)
    else none
  value.filter (· < base)

/-- Whether a character is a digit in a base. -/
def isDigit (base : Nat) (char : Char) : Bool :=
  (digit? base char).isSome

/-- The number that some digits stand for; other characters count as zero. -/
def ofDigits (base : Nat) (digits : List Char) : Nat :=
  digits.foldl (fun value char => value * base + (digit? base char).getD 0) 0

/-- What is wrong with a number. -/
inductive NumberFault where
  | empty | invalidDigit | tooLarge | tooSmall
deriving DecidableEq, Repr

/-- What is wrong with a number, in words. -/
def NumberFault.message : NumberFault → String
  | empty => "cannot parse integer from empty string"
  | invalidDigit => "invalid digit found in string"
  | tooLarge => "number too large to fit in target type"
  | tooSmall => "number too small to fit in target type"

/-- Reads decimal digits up to a bound. -/
def readDigits (bound : Nat) (excess : NumberFault) (value : Nat) :
    List Char → Except NumberFault Nat
  | [] => .ok value
  | char :: rest =>
    match digit? 10 char with
    | none => .error .invalidDigit
    | some digit =>
      let value := value * 10 + digit
      if value ≤ bound then readDigits bound excess value rest else .error excess

/-- Reads a number from zero to a bound. A plus sign may stand in front. -/
def readNat (bound : Nat) (text : List Char) : Except NumberFault Nat :=
  match text with
  | [] => .error .empty
  | ['+'] => .error .invalidDigit
  | '+' :: digits => readDigits bound .tooLarge 0 digits
  | digits => readDigits bound .tooLarge 0 digits

/-- The largest number of 64 bits with a sign. -/
def maxInt64 : Nat := UInt64.size / 2 - 1

/-- The largest number of 64 bits without a sign. -/
def maxUInt64 : Nat := UInt64.size - 1

/-- Reads a number of 64 bits with a sign. -/
def readInt64 (text : List Char) : Except NumberFault Int :=
  match text with
  | ['-'] => .error .invalidDigit
  | '-' :: digits =>
    (readDigits (maxInt64 + 1) .tooSmall 0 digits).map fun value => -(value : Int)
  | text => (readNat maxInt64 text).map Int.ofNat

end LineGreeting.Text
