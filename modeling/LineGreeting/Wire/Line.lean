import LineGreeting.Text.Utf8

/-! # Lines on the wire

Each side of a connection sends one line. A line ends at a newline; a carriage
return right before it is dropped as well. There is no length in front and no
handshake. A reader keeps the first `maxLineLength` bytes of a line, its end
included, and drops what exceeds them, so a peer cannot make it hold more.
-/

namespace LineGreeting.Wire

/-- The byte that ends a line. -/
def newline : UInt8 := 0x0A

/-- The byte that is dropped in front of a newline. -/
def carriageReturn : UInt8 := 0x0D

/-- The most bytes that are kept of a line, its end included. -/
def maxLineLength : Nat := 64 * 1024

/-- What is printed in front of a received text. -/
def receivedPrefix : String := "Message Received: "

/-- A text as a line. -/
def encodeLine (text : String) : Bytes :=
  Text.utf8 text ++ [newline]

/-- The printed line for what was received; nothing received prints as an empty text. -/
def received (request : Option String) : String :=
  receivedPrefix ++ request.getD ""

/-- A line without its end. A carriage return belongs to the end only together
with a newline. -/
def stripTerminator (line : Bytes) : Bytes :=
  if line.getLast? = some newline then
    let body := line.dropLast
    if body.getLast? = some carriageReturn then body.dropLast else body
  else line

/-- The text of the bytes of a line, its end included if it has one. -/
def decodeLine (line : Bytes) : String :=
  Text.lossy (stripTerminator (line.take maxLineLength))

/-- A line in the making. -/
structure Partial where
  /-- The bytes kept. -/
  kept : Array UInt8 := #[]
  /-- How many bytes were dropped. -/
  dropped : Nat := 0
deriving DecidableEq, Repr

namespace Partial

/-- Takes in some more bytes of the line: those that fit are kept, the others
are counted. -/
def absorb (line : Partial) (bytes : Bytes) : Partial :=
  let room := maxLineLength - line.kept.size
  { kept := line.kept.appendList (bytes.take room)
    dropped := line.dropped + (bytes.drop room).length }

/-- How many bytes have been taken in. -/
def length (line : Partial) : Nat :=
  line.kept.size + line.dropped

/-- The text of a line that has come to its end. -/
def text (line : Partial) : String :=
  Text.lossy (stripTerminator line.kept.toList)

/-- What was read if the bytes end here: nothing, or a line. -/
def close (line : Partial) : Option String :=
  if line.length = 0 then none else some line.text

@[simp] theorem kept_absorb (line : Partial) (bytes : Bytes) :
    (line.absorb bytes).kept.toList =
      line.kept.toList ++ bytes.take (maxLineLength - line.kept.size) := by
  simp [absorb]

/-- No byte is taken in twice or lost from the count. -/
theorem length_absorb (line : Partial) (bytes : Bytes) :
    (line.absorb bytes).length = line.length + bytes.length := by
  have hkept : (line.absorb bytes).kept.size =
      line.kept.size + (bytes.take (maxLineLength - line.kept.size)).length := by
    rw [← Array.length_toList, kept_absorb, List.length_append, Array.length_toList]
  have hdropped : (line.absorb bytes).dropped =
      line.dropped + (bytes.drop (maxLineLength - line.kept.size)).length := rfl
  simp only [length, hkept, hdropped, List.length_take, List.length_drop]
  omega

end Partial

end LineGreeting.Wire
