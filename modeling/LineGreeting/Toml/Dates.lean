import LineGreeting.Text.Number

/-! # Dates and times of a configuration document

A date has a year, a month and a day; a time has hours, minutes and seconds. A
time may follow a date, and then a distance from universal time may follow.
Only what exists is read: there is no thirtieth of February. The readers give
the rest of the text.
-/

namespace LineGreeting.Toml

/-- Reads a number of exactly so many digits. -/
def readFixed (count : Nat) (text : List Char) : Option (Nat × List Char) :=
  let digits := text.take count
  if digits.length = count ∧ digits.all (Text.isDigit 10) then
    some (Text.ofDigits 10 digits, text.drop count)
  else none

/-- Reads a number of two digits between bounds. -/
def readBetween (low high : Nat) (text : List Char) : Option (Nat × List Char) :=
  (readFixed 2 text).filter fun (number, _) => low ≤ number ∧ number ≤ high

/-- Reads a character that has to be there. -/
def readMark (mark : Char) : List Char → Option (List Char)
  | char :: rest => if char = mark then some rest else none
  | [] => none

/-- How many days a month has. -/
def daysIn (year month : Nat) : Nat :=
  if month = 2 then
    if year % 4 = 0 ∧ (year % 100 ≠ 0 ∨ year % 400 = 0) then 29 else 28
  else if month ∈ [4, 6, 9, 11] then 30
  else 31

/-- Reads a day of the calendar. -/
def readDay (text : List Char) : Option (List Char) := do
  let (year, text) ← readFixed 4 text
  let (month, text) ← readBetween 1 12 (← readMark '-' text)
  let (_, text) ← readBetween 1 (daysIn year month) (← readMark '-' text)
  return text

/-- Leaves out a fraction of a second, if there is one. -/
def skipSecondFraction : List Char → List Char
  | '.' :: char :: rest =>
    if Text.isDigit 10 char then rest.dropWhile (Text.isDigit 10) else '.' :: char :: rest
  | text => text

/-- Reads a time of the day. A minute may have a leap second. -/
def readTime (text : List Char) : Option (List Char) := do
  let (_, text) ← readBetween 0 23 text
  let (_, text) ← readBetween 0 59 (← readMark ':' text)
  let (_, text) ← readBetween 0 60 (← readMark ':' text)
  return skipSecondFraction text

/-- Reads a distance from universal time. -/
def readOffset : List Char → Option (List Char)
  | char :: rest =>
    if char = 'Z' ∨ char = 'z' then some rest
    else if char = '+' ∨ char = '-' then do
      let (_, text) ← readBetween 0 23 rest
      let (_, text) ← readBetween 0 59 (← readMark ':' text)
      return text
    else none
  | [] => none

/-- Leaves out the time behind a date, if there is one. -/
def skipTimeOfDay (text : List Char) : List Char :=
  match text with
  | char :: rest =>
    if char = 'T' ∨ char = 't' ∨ char = ' ' then
      match readTime rest with
      | some rest => (readOffset rest).getD rest
      | none => text
    else text
  | [] => []

/-- Reads a date, a time, or a date with a time. -/
def readMoment (text : List Char) : Option (List Char) :=
  match readDay text with
  | some rest => some (skipTimeOfDay rest)
  | none => readTime text

end LineGreeting.Toml
