import LineGreeting.Fault
import LineGreeting.Wire.Line

/-! # Writing lines

A writer takes the bytes of a line in as many calls as it likes, and may stop
taking any at some point. A line is written when all of its bytes are taken and
the writer has been flushed once after them. The first call that fails ends it.
-/

namespace LineGreeting.Wire

/-- A point behind which a writer takes no byte. -/
structure Barrier where
  /-- How many bytes are taken before it. -/
  position : Nat
  /-- The fault of a call there. Without one, the call takes no byte. -/
  fault : Option Fault := none
deriving DecidableEq, Repr

/-- What a writer does with the next call. -/
inductive Grant where
  /-- It takes all it is given. -/
  | all
  /-- It takes at most so many bytes. -/
  | upTo (count : Nat)
  /-- It fails. -/
  | refused (fault : Fault)
deriving DecidableEq, Repr

/-- A writer: how it behaves, and what has been done with it so far. -/
structure Writer where
  /-- The most bytes that each call takes, if there is a limit. -/
  grain : Nat → Option Nat := fun _ => none
  /-- Where the writer stops. -/
  barrier : Option Barrier := none
  /-- The fault of every flush. -/
  flushFault : Option Fault := none
  /-- The fault of every shutdown. -/
  shutdownFault : Option Fault := none
  /-- The bytes taken. -/
  taken : Array UInt8 := #[]
  /-- How many write calls were made. -/
  calls : Nat := 0
  /-- How many flushes were asked for. -/
  flushes : Nat := 0
  /-- How many shutdowns were asked for. -/
  shutdowns : Nat := 0

/-- A fault as a result. -/
def failWith : Option Fault → Except Fault Unit
  | none => .ok ()
  | some fault => .error fault

namespace Writer

/-- What the writer grants if it has not stopped. -/
def grantUpTo (most : Option Nat) : Grant :=
  match most with
  | none => .all
  | some count => .upTo count

/-- What the writer does with the next call. -/
def grant (writer : Writer) : Grant :=
  match writer.barrier with
  | none => grantUpTo (writer.grain writer.calls)
  | some barrier =>
    let before := barrier.position - writer.taken.size
    match before, barrier.fault with
    | 0, none => .upTo 0
    | 0, some fault => .refused fault
    | before, _ =>
      .upTo (match writer.grain writer.calls with
        | none => before
        | some count => min count before)

/-- The writer after a call that took some bytes. -/
def accept (writer : Writer) (bytes : Bytes) : Writer :=
  { writer with taken := writer.taken.appendList bytes, calls := writer.calls + 1 }

/-- Writes all of some bytes. A call that takes no byte ends it. -/
def writeAll (writer : Writer) (bytes : Bytes) : Except Fault Unit × Writer :=
  match bytes with
  | [] => (.ok (), writer)
  | byte :: more =>
    match writer.grant with
    | .all => (.ok (), writer.accept (byte :: more))
    | .upTo 0 => (.error .writeZero, writer.accept [])
    | .upTo (count + 1) =>
      writeAll (writer.accept (byte :: more.take count)) (more.drop count)
    | .refused fault => (.error fault, writer.accept [])
termination_by bytes.length
decreasing_by
  simp only [List.length_drop, List.length_cons]
  omega

/-- Asks the writer to send on what it has taken. -/
def flush (writer : Writer) : Except Fault Unit × Writer :=
  (failWith writer.flushFault, { writer with flushes := writer.flushes + 1 })

/-- Tells the peer that nothing follows. -/
def shutdown (writer : Writer) : Except Fault Unit × Writer :=
  (failWith writer.shutdownFault, { writer with shutdowns := writer.shutdowns + 1 })

/-- Writes a text as one line and flushes it. -/
def writeLine (writer : Writer) (text : String) : Except Fault Unit × Writer :=
  match writer.writeAll (encodeLine text) with
  | (.ok (), writer) => writer.flush
  | (.error fault, writer) => (.error fault, writer)

end Writer

end LineGreeting.Wire
