import LineGreeting.Text.Lines
import LineGreeting.Text.Utf8

/-! # Transcripts

A transcript captures what is printed on its consoles, byte by byte, and shows
it as lines.
-/

namespace LineGreeting

/-- The bytes printed so far. -/
structure Transcript where
  captured : Bytes := []
deriving DecidableEq, Repr

namespace Transcript

/-- Takes in some bytes as they are. -/
def write (transcript : Transcript) (bytes : Bytes) : Transcript :=
  ⟨transcript.captured ++ bytes⟩

/-- Prints a text and ends the line. -/
def line (transcript : Transcript) (text : String) : Transcript :=
  (transcript.write (Text.utf8 text)).write [0x0A]

/-- The lines printed so far. -/
def lines (transcript : Transcript) : List String :=
  Text.lines (Text.lossy transcript.captured)

@[simp] theorem lines_empty : lines {} = [] := rfl

theorem captured_line (transcript : Transcript) (text : String) :
    (transcript.line text).captured = transcript.captured ++ (Text.utf8 text ++ [0x0A]) := by
  simp [line, write]

theorem captured_foldl_line (transcript : Transcript) (texts : List String) :
    (texts.foldl line transcript).captured =
      transcript.captured ++ texts.flatMap fun text => Text.utf8 text ++ [0x0A] := by
  induction texts generalizing transcript with
  | nil => simp
  | cons text texts ih => simp [ih, captured_line]

end Transcript

end LineGreeting
