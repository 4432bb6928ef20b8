import LineGreeting.Toml.Dates
import LineGreeting.Toml.Draft
import LineGreeting.Toml.Numbers
import LineGreeting.Toml.Strings

/-! # Reading a configuration document

A document is a sequence of statements, one a line: a key with a value, or the
header of a table. Values may be nested, and keys may have parts, up to a fixed
depth. A document that breaks a rule anywhere stands for nothing at all.
-/

namespace LineGreeting.Toml

/-- Whether a character may stand in a key without quotes. -/
def isBare (char : Char) : Bool :=
  char.isAlphanum || char = '-' || char = '_'

/-- Reads one part of a key. -/
def readKeyPart (text : List Char) : Option (String × List Char) :=
  match text with
  | '"' :: rest => readInline '"' [] rest
  | '\'' :: rest => readInline '\'' [] rest
  | text =>
    match text.takeWhile isBare with
    | [] => none
    | part => some (String.ofList part, text.dropWhile isBare)

/-- Reads a key of at most so many parts: the parts in front, and the last. -/
def readKey : Nat → List Char → Option (List String × String × List Char)
  | 0, _ => none
  | room + 1, text => do
    let (part, text) ← readKeyPart (skipBlanks text)
    match skipBlanks text with
    | '.' :: text =>
      let (path, key, text) ← readKey room text
      return (part :: path, key, text)
    | text => return ([], part, text)

/-- Reads a value of some kind at the front of a text. -/
abbrev ValueReader := List Char → Option (Value × List Char)

/-- A value and its key: the parts in front of the last point, and the last. -/
structure Pair where
  path : List String
  key : String
  value : Value

/-- Reads a key, an equals sign and a value, up to the blanks behind it. -/
def readPair (readValue : ValueReader) (text : List Char) : Option (Pair × List Char) := do
  let (path, key, text) ← readKey maxDepth text
  let (value, text) ← readValue (skipBlanks (← readMark '=' text))
  return (⟨path, key, value⟩, skipBlanks text)

/-- Reads the elements of an array, behind its opening bracket. -/
def readElements (readValue : ValueReader) :
    Nat → List Value → List Char → Option (Value × List Char)
  | 0, _, _ => none
  | fuel + 1, found, text =>
    match skipLayout text with
    | ']' :: rest => some (.array found.reverse, rest)
    | text => do
      let (value, text) ← readValue text
      match skipLayout text with
      | ',' :: rest => readElements readValue fuel (value :: found) rest
      | ']' :: rest => return (.array (value :: found).reverse, rest)
      | _ => none

/-- Reads the entries of a table on one line, behind its opening brace and the
entries in `found`. -/
def readEntries (readValue : ValueReader) :
    Nat → Entries → List Char → Option (Value × List Char)
  | 0, _, _ => none
  | fuel + 1, found, text => do
    let (pair, text) ← readPair readValue text
    let found ← found.insert pair.path pair.key pair.value
    match text with
    | ',' :: rest => readEntries readValue fuel found rest
    | '}' :: rest => return (.table (finishEntries found), rest)
    | _ => none

/-- Reads a number or a date. -/
def readPlain (text : List Char) : Option (Value × List Char) :=
  match readMoment text with
  | some rest => some (.date, rest)
  | none =>
    match readFloat text with
    | some found => some found
    | none => readInteger text

/-- Reads a value in which arrays and tables are nested at most so deep. -/
def readValue (room : Nat) (text : List Char) : Option (Value × List Char) :=
  match text with
  | '"' :: _ | '\'' :: _ => (readString text).map fun (string, rest) => (.string string, rest)
  | '[' :: rest =>
    match room with
    | 0 => none
    | room + 1 => readElements (readValue room) (rest.length + 1) [] rest
  | '{' :: rest =>
    match room with
    | 0 => none
    | room + 1 =>
      match skipBlanks rest with
      | '}' :: rest => some (.table [], rest)
      | rest => readEntries (readValue room) (rest.length + 1) [] rest
  | 't' :: 'r' :: 'u' :: 'e' :: rest => some (.boolean true, rest)
  | 'f' :: 'a' :: 'l' :: 's' :: 'e' :: rest => some (.boolean false, rest)
  | text => readPlain text

/-- The header of a table. -/
structure Header where
  path : List String
  key : String
  /-- Whether there may be several tables of that name. -/
  repeated : Bool

/-- One statement of a document. -/
inductive Statement where
  | pair (pair : Pair)
  | header (header : Header)

/-- Reads a statement, up to the next line. -/
def readStatement (text : List Char) : Option (Statement × List Char) :=
  match text with
  | '[' :: '[' :: text => do
    let (path, key, text) ← readKey maxDepth text
    return (.header ⟨path, key, true⟩, ← readLineEnd (← readMark ']' (← readMark ']' text)))
  | '[' :: text => do
    let (path, key, text) ← readKey maxDepth text
    return (.header ⟨path, key, false⟩, ← readLineEnd (← readMark ']' text))
  | text => do
    let (pair, text) ← readPair (readValue maxDepth) text
    return (.pair pair, ← readLineEnd text)

/-- Reads all statements of a text. Those found so far are in `found`, last one
first. -/
def readStatements : Nat → List Statement → List Char → Option (List Statement)
  | 0, _, _ => none
  | fuel + 1, found, text =>
    match skipBlankLines text with
    | [] => some found.reverse
    | '#' :: rest =>
      match readLineEnd ('#' :: rest) with
      | some rest => readStatements fuel found rest
      | none => none
    | text =>
      match readStatement text with
      | some (statement, rest) => readStatements fuel (statement :: found) rest
      | none => none

/-- The pairs in front of all headers, and each header with the pairs up to the
next. -/
def sections (statements : List Statement) : List Pair × List (Header × List Pair) :=
  statements.foldr
    (fun statement (pairs, sections) => match statement with
      | .pair pair => (pair :: pairs, sections)
      | .header header => ([], (header, pairs) :: sections))
    ([], [])

/-- Puts pairs into a table. -/
def fill (pairs : List Pair) (entries : Entries) : Option Entries :=
  pairs.foldlM (fun entries pair => entries.insert pair.path pair.key pair.value) entries

/-- Adds a table with a header to a document. -/
def addSection (entries : Entries) (header : Header) (pairs : List Pair) : Option Entries :=
  if header.repeated then entries.append header.path header.key (fill pairs)
  else entries.declare header.path header.key (fill pairs)

/-- The table that a document stands for. A byte order mark may stand in front. -/
def parse? (text : String) : Option Table := do
  let text := match text.toList with
    | '\ufeff' :: rest => rest
    | text => text
  let statements ← readStatements (text.length + 1) [] text
  let (pairs, sections) := sections statements
  let entries ← sections.foldlM (fun entries (header, pairs) => addSection entries header pairs)
    (← fill pairs [])
  return finishEntries entries

end LineGreeting.Toml
