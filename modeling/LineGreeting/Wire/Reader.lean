import LineGreeting.Delayed
import LineGreeting.Log.Entry
import LineGreeting.Wire.Line

/-! # Reading lines

A peer is known by what successive reads give. A buffered reader fetches a
piece only when its buffer is empty, and takes a line from as many pieces as it
needs. Where the pieces are cut shows nowhere in the lines.
-/

namespace LineGreeting.Wire

/-- What one read of a peer comes to. -/
inductive ReadEvent where
  /-- Some bytes; no bytes are the end of the stream, for this read. -/
  | data (bytes : Bytes)
  /-- The read fails. -/
  | fault (fault : Fault)
  /-- Nothing happens for some milliseconds. -/
  | wait (pause : Nat)
  /-- Nothing happens any more. -/
  | silence
deriving DecidableEq, Repr

/-- What a peer will do. After the last event the stream is at its end. -/
abbrev Script := List ReadEvent

namespace Script

/-- How many bytes a peer has yet to give. -/
def size : Script → Nat
  | [] => 0
  | .data bytes :: rest => bytes.length + size rest
  | _ :: rest => size rest

/-- The pieces that a peer has yet to give. -/
def pieces (script : Script) : List Bytes :=
  script.filterMap fun
    | .data bytes => some bytes
    | .fault _ | .wait _ | .silence => none

/-- One read into a buffer with some room: its result, and what the peer will do
after it. Bytes without room wait for the next read. -/
def read (room : Nat) : Script → Delayed (Except Fault Bytes × Script)
  | [] => .ready 0 (.ok [], [])
  | .data bytes :: rest =>
    match bytes.drop room with
    | [] => .ready 0 (.ok bytes, rest)
    | more => .ready 0 (.ok (bytes.take room), .data more :: rest)
  | .fault fault :: rest => .ready 0 (.error fault, rest)
  | .wait pause :: rest => (read room rest).postpone pause
  | .silence :: _ => .never

/-- What a read into a buffer with some room comes to: after how many milliseconds, with
what result, and what the peer will do after it. -/
inductive Gives (room : Nat) : Script → Nat → Except Fault Bytes → Script → Prop
  | atEnd : Gives room [] 0 (.ok []) []
  | whole {bytes : Bytes} {rest : Script} (hfits : bytes.length ≤ room) :
      Gives room (.data bytes :: rest) 0 (.ok bytes) rest
  | part {bytes : Bytes} {rest : Script} (hmore : room < bytes.length) :
      Gives room (.data bytes :: rest) 0 (.ok (bytes.take room)) (.data (bytes.drop room) :: rest)
  | fault {cause : Fault} {rest : Script} : Gives room (.fault cause :: rest) 0 (.error cause) rest
  | wait {script rest : Script} {pause after : Nat} {result : Except Fault Bytes}
      (hlater : Gives room script after result rest) :
      Gives room (.wait pause :: script) (pause + after) result rest

/-- Whether a read comes to nothing, ever. -/
inductive Pends : Script → Prop
  | silence {rest : Script} : Pends (.silence :: rest)
  | wait {script : Script} {pause : Nat} (hlater : Pends script) : Pends (.wait pause :: script)

variable {room after : Nat} {script rest : Script} {result : Except Fault Bytes}

theorem gives_of_read (hread : read room script = .ready after (result, rest)) :
    Gives room script after result rest := by
  induction script generalizing after with
  | nil =>
    cases hread
    exact .atEnd
  | cons event script ih =>
    cases event with
    | data given =>
      rw [read] at hread
      split at hread
      next hnone =>
        cases hread
        exact .whole (List.drop_eq_nil_iff.1 hnone)
      next hmore =>
        cases hread
        exact .part (Nat.not_le.1 fun hle => hmore (List.drop_eq_nil_iff.2 hle))
    | fault cause =>
      cases hread
      exact .fault
    | wait pause =>
      rw [read] at hread
      cases hlater : read room script with
      | ready later value =>
        rw [hlater] at hread
        cases hread
        exact .wait (ih hlater)
      | never =>
        rw [hlater] at hread
        cases hread
    | silence => cases hread

theorem pends_of_read (hread : read room script = .never) : Pends script := by
  induction script with
  | nil => cases hread
  | cons event script ih =>
    cases event with
    | data given =>
      rw [read] at hread
      split at hread <;> cases hread
    | fault cause => cases hread
    | wait pause =>
      rw [read] at hread
      cases hlater : read room script with
      | ready later value =>
        rw [hlater] at hread
        cases hread
      | never => exact .wait (ih hlater)
    | silence => exact .silence

/-- A read takes its bytes from those to come. -/
theorem Gives.size_eq {bytes : Bytes} (hgives : Gives room script after result rest)
    (hresult : result = .ok bytes) : bytes.length + size rest = size script := by
  induction hgives with
  | atEnd | whole =>
    cases hresult
    rfl
  | part =>
    cases hresult
    simp only [size, ← Nat.add_assoc, ← List.length_append, List.take_append_drop]
  | fault => cases hresult
  | wait _ ih => exact ih hresult

theorem size_read {bytes : Bytes} (hread : read room script = .ready after (.ok bytes, rest)) :
    bytes.length + size rest = size script :=
  (gives_of_read hread).size_eq rfl

end Script

/-- A buffered reader. -/
structure Reader where
  /-- The most bytes fetched at once. -/
  capacity : Nat := 8192
  /-- Bytes fetched and not used yet. -/
  buffer : Bytes := []
  /-- What the peer will do. -/
  script : Script
deriving Repr

namespace Reader

/-- How many bytes no line has used yet. -/
def left (reader : Reader) : Nat :=
  reader.buffer.length + reader.script.size

/-- Goes on reading a line of which some bytes are there already, `elapsed`
milliseconds after the start. A fault loses those bytes. -/
def finishLine (elapsed : Nat) (reader : Reader) (line : Partial) :
    Delayed (Except Fault (Option String) × Reader) :=
  match _ : reader.buffer with
  | byte :: more =>
    let chunk := byte :: more
    match chunk.dropWhile (· ≠ newline) with
    | stop :: rest =>
      let line := line.absorb (chunk.takeWhile (· ≠ newline) ++ [stop])
      .ready elapsed (.ok line.close, { reader with buffer := rest })
    | [] => finishLine elapsed { reader with buffer := [] } (line.absorb chunk)
  | [] =>
    match _ : reader.script.read reader.capacity with
    | .never => .never
    | .ready after (.error fault, rest) =>
      .ready (elapsed + after) (.error fault, { reader with script := rest })
    | .ready after (.ok [], rest) =>
      .ready (elapsed + after) (.ok line.close, { reader with script := rest })
    | .ready after (.ok (byte :: more), rest) =>
      finishLine (elapsed + after) { reader with buffer := byte :: more, script := rest } line
termination_by (reader.script.size, reader.buffer.length)
decreasing_by
  · apply Prod.Lex.right
    simp [‹reader.buffer = _›]
  · apply Prod.Lex.left
    have hsize := Script.size_read ‹reader.script.read reader.capacity = _›
    simp only [List.length_cons] at hsize
    omega

/-- Reads one line: `none` if the peer closed the stream without sending a
byte. A last line without an end counts as a line. -/
def readLine (reader : Reader) : Delayed (Except Fault (Option String) × Reader) :=
  finishLine 0 reader {}

/-- What the log says when a reader has become another one by reading a line: how
much of a line that is too long was kept, and how much was not. -/
def lineEntries (reader next : Reader) : List Log.Entry :=
  let length := reader.left - next.left
  if length ≤ maxLineLength then []
  else [{
    level := .debug, topic := Log.sharedTopic "protocol", text := "Truncated long line"
    values := [("kept", toString maxLineLength),
      ("discarded", toString (length - maxLineLength))] }]

end Reader

end LineGreeting.Wire
