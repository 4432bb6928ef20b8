/-! # Text without terminal control

A terminal takes some characters for commands: control characters, and
sequences that begin with an escape character. A foreign text in a message is
shown without them, so that it can command nothing. Among the control
characters only the ones that move on are shown: tabulators and line ends.
-/

namespace LineGreeting.Text

/-- Whether a character moves on to another column or line. -/
def movesOn (char : Char) : Bool :=
  char = '\t' || char = '\n' || char = '\x0C' || char = '\r'

/-- Whether a character is shown outside of sequences. -/
def isShown (char : Char) : Bool :=
  (' ' ≤ char && char ≠ '\x7F') || movesOn char

/-- Where a terminal stands between two characters. -/
inductive TerminalMode where
  /-- Outside of sequences. -/
  | outside
  /-- Behind the escape character, at the first or at a later character. -/
  | escape | escapeIntermediate
  /-- In a control sequence: at its first character, among its parameters, behind
  them, or in one that is malformed. -/
  | control | controlParameter | controlIntermediate | controlMalformed
  /-- In the head of a string for a device: at its first character, among its
  parameters, or behind them. -/
  | device | deviceParameter | deviceIntermediate
  /-- In a string for a device or for a program. -/
  | string
  /-- In a command for the system around the terminal. -/
  | command
deriving DecidableEq, Repr

namespace TerminalMode

/-- Whether a character lies in a range. -/
def within (char first last : Char) : Bool :=
  first ≤ char && char ≤ last

/-- The byte that ends a string, which may be a part of a character. -/
def stringEnd : UInt8 := 0x9C

/-- The mode behind a character that neither begins nor breaks off a sequence. -/
def continued (mode : TerminalMode) (char : Char) : TerminalMode :=
  let middle := within char ' ' '/'
  let final := within char '@' '~'
  match mode with
  | outside => outside
  | escape =>
    if middle then escapeIntermediate
    else if char = '[' then control
    else if char = ']' then command
    else if char = 'P' then device
    else if char = 'X' ∨ char = '^' ∨ char = '_' then string
    else if within char '0' '~' then outside
    else escape
  | escapeIntermediate => if within char '0' '~' then outside else escapeIntermediate
  | control =>
    if middle then controlIntermediate
    else if within char '0' '?' then controlParameter
    else if final then outside
    else control
  | controlParameter =>
    if middle then controlIntermediate
    else if within char '<' '?' then controlMalformed
    else if final then outside
    else controlParameter
  | controlIntermediate =>
    if within char '0' '?' then controlMalformed
    else if final then outside
    else controlIntermediate
  | controlMalformed => if final then outside else controlMalformed
  | device =>
    if middle then deviceIntermediate
    else if within char '0' '?' then deviceParameter
    else if final then string
    else device
  | deviceParameter =>
    if middle then deviceIntermediate
    else if within char '<' '~' then string
    else deviceParameter
  | deviceIntermediate => if within char '0' '~' then string else deviceIntermediate
  | string => if stringEnd ∈ String.utf8EncodeChar char then outside else string
  | command => if char = '\x07' then outside else command

/-- Whether the terminal reads no string and no command for others. -/
def reads : TerminalMode → Bool
  | device | deviceParameter | deviceIntermediate | string | command => false
  | _ => true

/-- The mode behind a character, and whether the character is shown. An escape
character begins a sequence wherever it stands; two other control characters
break one off, and so do those that move on. -/
def step (mode : TerminalMode) (char : Char) : TerminalMode × Bool :=
  if char = '\x1B' then (escape, false)
  else if char = '\x18' ∨ char = '\x1A' then (outside, false)
  else if mode = outside then (outside, isShown char)
  else if mode.reads && movesOn char then (outside, true)
  else (mode.continued char, false)

/-- What is shown of some characters. -/
def shown (mode : TerminalMode) : List Char → List Char
  | [] => []
  | char :: rest =>
    let (next, shows) := mode.step char
    if shows then char :: next.shown rest else next.shown rest

end TerminalMode

/-- A text without terminal control. -/
def plain (text : String) : String :=
  String.ofList (TerminalMode.outside.shown text.toList)

end LineGreeting.Text
