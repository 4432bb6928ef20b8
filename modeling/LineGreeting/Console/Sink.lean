import LineGreeting.Fault
import LineGreeting.Text.Utf8

/-! # Consoles on faulty sinks

A console prints a line by writing the text, then the newline, and then
flushing. The sink behind it may take part of what it is given, fail or panic.
The first failure ends the line and nothing else: losing the console must not
end an exchange, and the next line finds the sink as if nothing had happened.
-/

namespace LineGreeting

/-- What a sink does with one call. -/
inductive SinkAction where
  /-- It takes all it is given. -/
  | all
  /-- It takes at most so many bytes. -/
  | upTo (count : Nat)
  /-- It fails. -/
  | fails (kind : FaultKind)
  /-- It panics. -/
  | panics
deriving DecidableEq, Repr

/-- What ends a line before its end. -/
inductive Mishap where
  /-- The rest of the line is lost, and the caller does not notice. -/
  | lost
  /-- The panic of the sink reaches the caller. -/
  | panicked
deriving DecidableEq, Repr

/-- A sink: what it will do, and what has been done with it. After the actions
listed it takes everything. -/
structure Sink where
  /-- What the coming write calls do. -/
  writes : List SinkAction := []
  /-- What the coming flushes do. -/
  flushes : List SinkAction := []
  /-- The bytes taken. -/
  data : Array UInt8 := #[]
  /-- How many write calls were made. -/
  writeCalls : Nat := 0
  /-- How many flushes were asked for. -/
  flushCalls : Nat := 0
deriving DecidableEq, Repr

namespace Sink

/-- The sink after one write call that took some bytes. -/
def accept (sink : Sink) (bytes : Bytes) : Sink :=
  { sink with
    writes := sink.writes.tail
    data := sink.data.appendList bytes
    writeCalls := sink.writeCalls + 1 }

/-- Writes all of some bytes. A disturbed call is made again; a call that takes
no byte ends the line. -/
def writeAll (sink : Sink) (bytes : Bytes) : Except Mishap Unit × Sink :=
  match bytes with
  | [] => (.ok (), sink)
  | byte :: more =>
    match _ : sink.writes with
    | [] | .all :: _ => (.ok (), sink.accept (byte :: more))
    | .upTo 0 :: _ => (.error .lost, sink.accept [])
    | .upTo (count + 1) :: _ =>
      writeAll (sink.accept (byte :: more.take count)) (more.drop count)
    | .fails kind :: _ =>
      if kind = .interrupted then writeAll (sink.accept []) (byte :: more)
      else (.error .lost, sink.accept [])
    | .panics :: _ => (.error .panicked, sink.accept [])
termination_by sink.writes.length
decreasing_by all_goals simp [accept, ‹sink.writes = _›]

/-- Flushes what was taken. -/
def flush (sink : Sink) : Except Mishap Unit × Sink :=
  let result := match sink.flushes with
    | .fails _ :: _ => .error .lost
    | .panics :: _ => .error .panicked
    | _ => .ok ()
  (result, { sink with flushes := sink.flushes.tail, flushCalls := sink.flushCalls + 1 })

/-- Prints a line: says whether it ended before its end, and how. -/
def line (sink : Sink) (text : String) : Except Mishap Unit × Sink :=
  match sink.writeAll (Text.utf8 text) with
  | (.error mishap, sink) => (.error mishap, sink)
  | (.ok (), sink) =>
    match sink.writeAll [0x0A] with
    | (.error mishap, sink) => (.error mishap, sink)
    | (.ok (), sink) => sink.flush

/-- Only a call that is made uses up an action. -/
@[simp] theorem writeAll_nil (sink : Sink) : sink.writeAll [] = (.ok (), sink) := by
  rw [writeAll]

end Sink

end LineGreeting
