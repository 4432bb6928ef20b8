import LineGreeting.Text.Letters
import LineGreeting.Text.Number

/-! # Patterns for values

A pattern is a regular expression. It knows groups with and without names,
choices, repetitions, sets of characters and flags, but no class of characters
beyond ASCII and no way to ignore the case of letters beyond ASCII; so a
pattern that needs one of those is refused, and so is one that would match a
part of a character. What a pattern matches is of no concern here. Where
patterns stand they hold no comma and no closing brace, so no repetition is
counted: a brace that opens is never closed.
-/

namespace LineGreeting.Log

/-- Why a pattern is refused. -/
inductive PatternFault where
  /-- It is no pattern, or one beyond what patterns know. -/
  | malformed
  /-- It asks where words begin or end, in all scripts. -/
  | wordBoundary
deriving DecidableEq, Repr

/-- Why a pattern is refused, in words. -/
def PatternFault.message : PatternFault → String
  | malformed => "error building NFA"
  | wordBoundary =>
    "unsupported regex feature for DFAs: cannot build DFAs for regexes with Unicode word " ++
      "boundaries; switch to ASCII word boundaries, or heuristically enable Unicode word " ++
      "boundaries or use a different regex engine"

namespace Pattern

/-! ## Flags -/

/-- How a part of a pattern is meant. -/
structure Flags where
  /-- Whether the case of letters counts for nothing. -/
  caseless : Bool := false
  /-- Whether a pattern speaks of characters; else it speaks of bytes. -/
  unicode : Bool := true
  /-- Whether blanks and comments in the pattern count for nothing. -/
  spaced : Bool := false
deriving DecidableEq, Repr

/-- The letters of the flags. -/
def flagLetters : List Char := ['i', 'm', 's', 'U', 'u', 'R', 'x']

/-- Sets a flag or clears it. -/
def Flags.set (flags : Flags) (letter : Char) (value : Bool) : Flags :=
  if letter = 'i' then { flags with caseless := value }
  else if letter = 'u' then { flags with unicode := value }
  else if letter = 'x' then { flags with spaced := value }
  else flags

/-- Reads flags up to a colon or a closing parenthesis. No flag may be given
twice; those behind the one minus sign are cleared, and there has to be one. -/
def readFlags (given : List Char) (flags : Flags) : List Char → Option (Flags × List Char)
  | [] => none
  | char :: rest =>
    if char = ':' ∨ char = ')' then
      if given.head? = some '-' then none else some (flags, char :: rest)
    else if char ∈ given ∨ ¬ (char = '-' ∨ char ∈ flagLetters) then none
    else readFlags (char :: given) (flags.set char (decide ('-' ∉ given))) rest

/-- A comment up to the end of its line. -/
def skipComment (text : List Char) : List Char :=
  (text.dropWhile (· ≠ '\n')).drop 1

theorem length_skipComment_le (text : List Char) : (skipComment text).length ≤ text.length := by
  have hdrop := (List.dropWhile_sublist (· ≠ '\n') (l := text)).length_le
  simp only [skipComment, List.length_drop]
  omega

/-- A text without the blanks and comments at its beginning. -/
def skipSpace : List Char → List Char
  | [] => []
  | char :: rest =>
    if Text.isBlank char then skipSpace rest
    else if char = '#' then skipSpace (skipComment rest)
    else char :: rest
termination_by text => text.length
decreasing_by
  · simp
  · have hcomment := length_skipComment_le rest
    simp only [List.length_cons]
    omega

/-- A text without what counts for nothing at its beginning. -/
def Flags.skip (flags : Flags) (text : List Char) : List Char :=
  if flags.spaced then skipSpace text else text

/-! ## Single characters -/

/-- What a part of a pattern stands for. -/
inductive Atom where
  /-- A character; or a byte, given by its number. -/
  | single (char : Char) (byNumber : Bool)
  /-- A class of ASCII characters, or all others. -/
  | ascii (negated : Bool)
  /-- A place between two characters. -/
  | place
  /-- A place where a word begins or ends. -/
  | wordBoundary
deriving DecidableEq, Repr

/-- The characters that mean something of their own in a pattern. -/
def metaCharacters : List Char :=
  "\\.+*?()|[]\x7b\x7d^$#&-~".toList

/-- The character of a fixed number of hexadecimal digits. -/
def readNumber (count : Nat) (text : List Char) : Option (Atom × List Char) :=
  let digits := text.take count
  let code := Text.ofDigits 16 digits
  if digits.length = count ∧ digits.all (Text.isDigit 16) ∧ code.isValidChar then
    some (.single (Char.ofNat code) (count = 2), text.drop count)
  else none

/-- Reads what stands behind a backslash. -/
def readEscape : List Char → Option (Atom × List Char)
  | [] => none
  | char :: rest =>
    if char = 'x' then readNumber 2 rest
    else if char = 'u' then readNumber 4 rest
    else if char = 'U' then readNumber 8 rest
    else if char ∈ ['d', 's', 'w'] then some (.ascii false, rest)
    else if char ∈ ['D', 'S', 'W'] then some (.ascii true, rest)
    else if char ∈ ['A', 'z'] then some (.place, rest)
    else if char ∈ ['b', 'B', '<', '>'] then some (.wordBoundary, rest)
    else if char ∈ ['a', 'f', 't', 'n', 'r', 'v'] then some (.single char false, rest)
    else if char ∈ metaCharacters ∨ (char.toNat < 0x80 ∧ ¬ char.isAlphanum) then
      some (.single char false, rest)
    else none

/-- Whether a character may stand where flags are set: a letter whose case counts
for nothing would need all scripts, and a byte beyond ASCII is a part of a
character. -/
def Atom.isFine (flags : Flags) : Atom → Bool
  | .single char byNumber =>
    if flags.unicode then !flags.caseless else !byNumber || char.toNat < 0x80
  | .ascii negated => !flags.unicode && !negated
  | .place | .wordBoundary => true

/-! ## Sets of characters -/

/-- Whether an atom may stand in a set. A set of bytes has none beyond ASCII. -/
def Atom.isMember (flags : Flags) : Atom → Bool
  | .single char _ => flags.unicode || char.toNat < 0x80
  | .ascii negated => !flags.unicode && !negated
  | .place | .wordBoundary => false

/-- The names of the classes of ASCII characters. -/
def asciiClasses : List String :=
  ["alnum", "alpha", "ascii", "blank", "cntrl", "digit", "graph", "lower", "print", "punct",
    "space", "upper", "word", "xdigit"]

/-- Reads a class of ASCII characters by its name, behind its opening bracket:
whether all others are meant. -/
def readAsciiClass (text : List Char) : Option (Bool × List Char) := do
  let .cons ':' rest := text | none
  let (negated, rest) := match rest with
    | '^' :: rest => (true, rest)
    | rest => (false, rest)
  let name := String.ofList (rest.takeWhile (· ≠ ':'))
  match rest.dropWhile (· ≠ ':') with
  | ':' :: ']' :: rest => if name ∈ asciiClasses then some (negated, rest) else none
  | _ => none

/-- Reads a member of a set. -/
def readMember : List Char → Option (Atom × List Char)
  | [] => none
  | '\\' :: rest => readEscape rest
  | char :: rest => some (.single char false, rest)

/-- Reads a member of a set, or a range from one character to another. -/
def readRange (flags : Flags) (text : List Char) : Option (List Char) := do
  let (first, rest) ← readMember text
  if !first.isMember flags then none
  else match flags.skip rest with
    | [] => none
    | '-' :: behind =>
      match flags.skip behind with
      | ']' :: _ | '-' :: _ => some ('-' :: behind)
      | behind =>
        let (last, rest) ← readMember behind
        match first, last with
        | .single first _, .single char _ =>
          if last.isMember flags ∧ first ≤ char then some rest else none
        | _, _ => none
    | rest => some rest

/-- Reads what opens a set, behind its bracket: a sign that all others are meant,
dashes that stand for themselves, and a bracket that does if it comes first. -/
def openSet (flags : Flags) (text : List Char) : Option (List Char) := do
  let text := flags.skip text
  let text ← match text with
    | '^' :: rest => if flags.unicode then some (flags.skip rest) else none
    | text => some text
  match text with
  | ']' :: rest => some rest
  | text => some (text.dropWhile (· = '-'))

/-- Reads the rest of some sets, one in the other, by so many steps. -/
def readSets (flags : Flags) (steps depth : Nat) (text : List Char) : Option (List Char) :=
  match steps with
  | 0 => none
  | steps + 1 =>
    match flags.skip text with
    | [] => none
    | '[' :: rest =>
      match readAsciiClass rest with
      | some (negated, rest) =>
        if negated ∧ ¬ flags.unicode then none else readSets flags steps depth rest
      | none => do readSets flags steps (depth + 1) (← openSet flags rest)
    | ']' :: rest => if depth = 0 then some rest else readSets flags steps (depth - 1) rest
    | '&' :: '&' :: rest | '-' :: '-' :: rest | '~' :: '~' :: rest =>
      readSets flags steps depth rest
    | text => do readSets flags steps depth (← readRange flags text)

/-- Reads a set of characters, behind its opening bracket. -/
def readSet (flags : Flags) (text : List Char) : Option (List Char) := do
  if flags.unicode ∧ flags.caseless then none
  else readSets flags (text.length + 1) 0 (← openSet flags text)

/-! ## Groups -/

/-- Where a reader of patterns stands. -/
structure Cursor where
  flags : Flags := {}
  /-- The flags that hold again behind the groups that are open. -/
  outer : List Flags := []
  /-- The names of groups. -/
  names : List String := []
  /-- Whether what stands right before may be repeated. -/
  repeatable : Bool := false
  /-- Whether the pattern asks where words begin or end, in all scripts. -/
  words : Bool := false
deriving DecidableEq, Repr

/-- Whether a text is the name of a group. -/
def isName : List Char → Bool
  | [] => false
  | first :: rest =>
    (first = '_' || (Text.isAlphanumeric first && !first.isDigit)) &&
      rest.all fun char => char ∈ ['_', '.', '[', ']'] || Text.isAlphanumeric char

/-- Opens a group. -/
def Cursor.enter (cursor : Cursor) (inner : Flags) : Cursor :=
  { cursor with flags := inner, outer := cursor.flags :: cursor.outer, repeatable := false }

/-- Opens a group with a name, which ends with an angle. -/
def openNamed (cursor : Cursor) (text : List Char) : Option (Cursor × List Char) :=
  let name := text.takeWhile (· ≠ '>')
  let named := String.ofList name
  match text.dropWhile (· ≠ '>') with
  | [] => none
  | _ :: rest =>
    if isName name ∧ named ∉ cursor.names then
      some ({ cursor with names := named :: cursor.names }.enter cursor.flags, rest)
    else none

/-- Opens a group, or sets flags, behind the opening parenthesis. A group cannot
look around. -/
def openGroup (cursor : Cursor) (text : List Char) : Option (Cursor × List Char) :=
  match cursor.flags.skip text with
  | '?' :: 'P' :: '<' :: rest => openNamed cursor rest
  | '?' :: '<' :: rest => openNamed cursor rest
  | '?' :: rest => do
    let (flags, behind) ← readFlags [] cursor.flags rest
    match behind with
    | ':' :: behind => some (cursor.enter flags, behind)
    | _ :: behind =>
      if rest.head? = some ')' then none
      else some ({ cursor with flags, repeatable := false }, behind)
    | [] => none
  | text => some (cursor.enter cursor.flags, text)

/-- Closes a group, if one is open. -/
def Cursor.leave (cursor : Cursor) : Option Cursor :=
  match cursor.outer with
  | [] => none
  | flags :: outer => some { cursor with flags, outer, repeatable := true }

/-- Takes an atom. -/
def Cursor.take (cursor : Cursor) (atom : Atom) : Option Cursor :=
  if atom.isFine cursor.flags then
    some { cursor with
      repeatable := true
      words := cursor.words || (atom = .wordBoundary && cursor.flags.unicode) }
  else none

/-! ## Patterns -/

/-- Reads the rest of a pattern, by so many steps. -/
def readPattern (steps : Nat) (cursor : Cursor) (text : List Char) : Option Cursor :=
  match steps with
  | 0 => none
  | steps + 1 =>
    match cursor.flags.skip text with
    | [] => if cursor.outer = [] then some cursor else none
    | '(' :: rest => do
      let (cursor, rest) ← openGroup cursor rest
      readPattern steps cursor rest
    | ')' :: rest => do readPattern steps (← cursor.leave) rest
    | '|' :: rest => readPattern steps { cursor with repeatable := false } rest
    | '[' :: rest => do
      let rest ← readSet cursor.flags rest
      readPattern steps { cursor with repeatable := true } rest
    | '?' :: rest | '*' :: rest | '+' :: rest =>
      if !cursor.repeatable then none
      else match rest with
        | '?' :: rest => readPattern steps cursor rest
        | rest => readPattern steps cursor rest
    | '\x7b' :: _ => none
    | '\\' :: rest => do
      let (atom, rest) ← readEscape rest
      readPattern steps (← cursor.take atom) rest
    | '^' :: rest | '$' :: rest => do readPattern steps (← cursor.take .place) rest
    | '.' :: rest =>
      if cursor.flags.unicode then readPattern steps { cursor with repeatable := true } rest
      else none
    | char :: rest => do readPattern steps (← cursor.take (.single char false)) rest

/-- A text without a sign in front. -/
def unsigned : List Char → List Char
  | '+' :: rest | '-' :: rest => rest
  | text => text

/-- Whether a text is a number, with or without a sign, a point and an exponent. -/
def isNumber (text : List Char) : Bool :=
  let text := (unsigned text).map Char.toLower
  let whole := text.takeWhile Char.isDigit
  let (places, rest) := match text.dropWhile Char.isDigit with
    | '.' :: rest => (rest.takeWhile Char.isDigit, rest.dropWhile Char.isDigit)
    | rest => ([], rest)
  let exponent := match rest with
    | [] => true
    | 'e' :: rest => unsigned rest ≠ [] && (unsigned rest).all Char.isDigit
    | _ => false
  text ∈ ["inf", "infinity", "nan"].map String.toList || (whole ++ places ≠ [] && exponent)

/-- Why a text is refused where a value is asked for: it has to be a number or a
pattern. -/
def fault? (text : List Char) : Option PatternFault :=
  if isNumber text then none
  else match readPattern (text.length + 1) {} text with
    | none => some .malformed
    | some cursor => if cursor.words then some .wordBoundary else none

end Pattern

end LineGreeting.Log
