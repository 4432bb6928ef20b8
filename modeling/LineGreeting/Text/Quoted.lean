import LineGreeting.Text.Glyph

/-! # Quoted text

Inside a message, a foreign text stands between double quotes and a foreign
character between single ones, so that the message stays on one line and shows
every character.
-/

namespace LineGreeting.Text

/-- The hexadecimal digits of a number, in lower case and without leading zeros. -/
def hex (number : Nat) : String :=
  String.ofList (Nat.toDigits 16 number)

/-- How one character is written between quotes of some kind. -/
def escape (quote char : Char) : String :=
  match char with
  | '\x00' => "\\0"
  | '\t' => "\\t"
  | '\r' => "\\r"
  | '\n' => "\\n"
  | '\\' => "\\\\"
  | _ =>
    if char = quote then "\\" ++ String.singleton char
    else if hasGlyph char then String.singleton char
    else "\\u\x7b" ++ hex char.toNat ++ "\x7d"

/-- A text between double quotes, its own quotes, backslashes and characters
without a glyph escaped. -/
def quoted (text : String) : String :=
  "\"" ++ text.toList.foldl (fun written char => written ++ escape '"' char) "" ++ "\""

/-- A character between single quotes. -/
def quotedChar (char : Char) : String :=
  "'" ++ escape '\x27' char ++ "'"

end LineGreeting.Text
