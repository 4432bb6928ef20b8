import LineGreeting.Text.Number
import LineGreeting.Toml.Layout

/-! # Strings of a configuration document

A string stands between two quotes, or between two runs of three quotes and may
then run over several lines. Between double quotes a backslash escapes; between
single quotes nothing does. All line ends inside a string become newlines.
-/

namespace LineGreeting.Toml

/-- The character of a fixed number of hexadecimal digits. -/
def hexChar? (count : Nat) (text : List Char) : Option Char :=
  let digits := text.take count
  let code := Text.ofDigits 16 digits
  if digits.length = count ∧ digits.all (Text.isDigit 16) ∧ code.isValidChar then
    some (Char.ofNat code)
  else none

/-- What stands behind a backslash: the character meant, and the length. -/
def escaped? : List Char → Option (Char × Nat)
  | 'b' :: _ => some ('\x08', 1)
  | 't' :: _ => some ('\t', 1)
  | 'n' :: _ => some ('\n', 1)
  | 'f' :: _ => some ('\x0C', 1)
  | 'r' :: _ => some ('\r', 1)
  | '"' :: _ => some ('"', 1)
  | '\\' :: _ => some ('\\', 1)
  | 'u' :: rest => (hexChar? 4 rest).map (·, 5)
  | 'U' :: rest => (hexChar? 8 rest).map (·, 9)
  | _ => none

/-- Reads a string on one line, behind its opening quote. The characters found
so far are in `found`, last one first. -/
def readInline (quote : Char) (found : List Char) : List Char → Option (String × List Char)
  | [] => none
  | char :: rest =>
    if char = quote then some (String.ofList found.reverse, rest)
    else if char = '\\' ∧ quote = '"' then
      match escaped? rest with
      | some (meant, length) => readInline quote (meant :: found) (rest.drop length)
      | none => none
    else if isPlain char then readInline quote (char :: found) rest
    else none
termination_by text => text.length
decreasing_by all_goals simp only [List.length_drop, List.length_cons]; omega

/-- The text behind a backslash that ends its line, without the blank lines that
it swallows. -/
def joinedLine? (text : List Char) : Option (List Char) :=
  (readNewline (skipBlanks text)).map skipBlankLines

theorem length_of_joinedLine? {text rest : List Char} (hjoined : joinedLine? text = some rest) :
    rest.length < text.length := by
  obtain ⟨behind, hnewline, rfl⟩ := Option.map_eq_some_iff.1 hjoined
  have hblanks := length_skipBlanks_le text
  have hbehind := length_of_readNewline hnewline
  have hlines := length_skipBlankLines_le behind
  omega

/-- Reads a string over several lines, behind its opening quotes. Up to two
quotes in front of the closing ones belong to the string. -/
def readBlock (quote : Char) (found : List Char) : List Char → Option (String × List Char)
  | [] => none
  | char :: rest =>
    if char = quote then
      match rest.takeWhile (· = quote) with
      | [] => readBlock quote (char :: found) rest
      | [_] => readBlock quote (char :: char :: found) (rest.drop 1)
      | quotes =>
        let inner := min 2 (quotes.length - 2)
        let text := List.replicate inner quote ++ found
        some (String.ofList text.reverse, rest.drop (inner + 2))
    else if char = '\\' ∧ quote = '"' then
      match _ : joinedLine? rest with
      | some rest => readBlock quote found rest
      | none =>
        match escaped? rest with
        | some (meant, length) => readBlock quote (meant :: found) (rest.drop length)
        | none => none
    else if char = '\n' then readBlock quote ('\n' :: found) rest
    else if char = '\r' then
      match rest with
      | '\n' :: rest => readBlock quote ('\n' :: found) rest
      | _ => none
    else if isPlain char then readBlock quote (char :: found) rest
    else none
termination_by text => text.length
decreasing_by
  all_goals simp only [List.length_drop, List.length_cons]
  all_goals try omega
  exact Nat.lt_succ_of_lt (length_of_joinedLine? ‹joinedLine? _ = _›)

/-- Reads a string. -/
def readString : List Char → Option (String × List Char)
  | '"' :: '"' :: '"' :: rest => readBlock '"' [] ((readNewline rest).getD rest)
  | '\'' :: '\'' :: '\'' :: rest => readBlock '\'' [] ((readNewline rest).getD rest)
  | '"' :: rest => readInline '"' [] rest
  | '\'' :: rest => readInline '\'' [] rest
  | _ => none

end LineGreeting.Toml
