/-! # Text as bytes

A text travels as its UTF-8 bytes. Reading bytes back never fails: every
maximal prefix of a character that cannot be completed counts as one U+FFFD,
as the Unicode standard recommends. The decoder is a state machine that takes
one byte at a time, so what it makes of a stream does not depend on how the
stream is cut.
-/

namespace LineGreeting

/-- What travels on a connection. -/
abbrev Bytes := List UInt8

namespace Text

/-- The bytes of a text. -/
def utf8 (text : String) : Bytes :=
  text.toList.flatMap String.utf8EncodeChar

/-- Stands for bytes that are no character. -/
def replacement : Char := '\ufffd'

/-- Where a decoder stands between two bytes. -/
inductive Cursor where
  /-- Between two characters. -/
  | between
  /-- Inside a character: after the next byte, which has to lie in `low` to
  `high`, there are `more` continuation bytes to come. The bits of the bytes
  before it are `bits`. -/
  | inside (more bits : Nat) (low high : UInt8)
deriving DecidableEq, Repr

namespace Cursor

/-- The first byte of a character, or one that is part of none. The ranges
leave out overlong forms, surrogates and what lies above U+10FFFF. -/
def start (byte : UInt8) : Cursor × List Char :=
  if byte < 0x80 then (between, [Char.ofNat byte.toNat])
  else if byte < 0xC2 then (between, [replacement])
  else if byte < 0xE0 then (inside 0 (byte.toNat - 0xC0) 0x80 0xBF, [])
  else if byte < 0xF0 then
    let low : UInt8 := if byte = 0xE0 then 0xA0 else 0x80
    let high : UInt8 := if byte = 0xED then 0x9F else 0xBF
    (inside 1 (byte.toNat - 0xE0) low high, [])
  else if byte < 0xF5 then
    let low : UInt8 := if byte = 0xF0 then 0x90 else 0x80
    let high : UInt8 := if byte = 0xF4 then 0x8F else 0xBF
    (inside 2 (byte.toNat - 0xF0) low high, [])
  else (between, [replacement])

/-- One more byte: where the decoder stands after it, and the characters that
are settled by it. A byte that does not continue the character begun is read
again as a first byte. -/
def step : Cursor → UInt8 → Cursor × List Char
  | between, byte => start byte
  | inside more bits low high, byte =>
    if low ≤ byte ∧ byte ≤ high then
      let bits := bits * 64 + (byte.toNat - 0x80)
      match more with
      | 0 => (between, [Char.ofNat bits])
      | more + 1 => (inside more bits 0x80 0xBF, [])
    else
      let (cursor, chars) := start byte
      (cursor, replacement :: chars)

/-- What is left to say at the end of the bytes. -/
def finish : Cursor → List Char
  | between => []
  | inside .. => [replacement]

end Cursor

/-- A decoder: where it stands, and the text so far, last character first. -/
structure Decoder where
  cursor : Cursor := .between
  settled : List Char := []

/-- Gives one byte to a decoder. -/
def Decoder.push (decoder : Decoder) (byte : UInt8) : Decoder :=
  let (cursor, chars) := decoder.cursor.step byte
  ⟨cursor, chars.reverseAux decoder.settled⟩

/-- The text of a decoder whose bytes have come to an end. -/
def Decoder.close (decoder : Decoder) : List Char :=
  decoder.settled.reverse ++ decoder.cursor.finish

/-- The characters of some bytes, with U+FFFD for what is none. -/
def lossyChars (bytes : Bytes) : List Char :=
  (bytes.foldl Decoder.push {}).close

/-- The text of some bytes, with U+FFFD for what is no character. -/
def lossy (bytes : Bytes) : String :=
  String.ofList (lossyChars bytes)

/-- The text of some bytes, if they are the bytes of a text. -/
def ofUtf8? (bytes : Bytes) : Option String :=
  String.fromUTF8? (ByteArray.mk bytes.toArray)

@[simp] theorem lossyChars_nil : lossyChars [] = [] := rfl

end Text

end LineGreeting
