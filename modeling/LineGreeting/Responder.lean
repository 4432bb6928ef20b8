import LineGreeting.Console.Transcript
import LineGreeting.Wire.Reader
import LineGreeting.Wire.Writer

/-! # Answering one request

A responder reads one line, prints it, waits a while, sends its reply and tells
the peer that nothing follows. What it sends does not depend on what it read. A
fault ends the exchange where it arises.
-/

namespace LineGreeting

/-- How requests are answered. Times are in milliseconds. -/
structure Responder where
  /-- The text sent back. -/
  reply : String
  /-- How long the reply is held back after the request. -/
  replyDelay : Nat := 0
  /-- How long the request may take. -/
  readTimeout : Option Nat := none
deriving DecidableEq, Repr

/-- An exchange as it stands when one stops watching it. -/
structure Exchange where
  /-- How the exchange ended: with the request, or with a fault. -/
  outcome : Delayed (Except Fault (Option String))
  /-- What has been printed. -/
  transcript : Transcript
  /-- What has been written, and how often it was flushed and shut down. -/
  writer : Wire.Writer

namespace Responder

/-- Reads the request. The timeout covers the whole line. -/
def hear (responder : Responder) (script : Wire.Script) :
    Delayed (Except Fault (Option String)) :=
  (Wire.Reader.readLine { script }).map Prod.fst |>.withTimeout responder.readTimeout

/-- Sends the reply and ends the stream. -/
def answer (responder : Responder) (writer : Wire.Writer) : Except Fault Unit × Wire.Writer :=
  match writer.writeLine responder.reply with
  | (.ok (), writer) => writer.shutdown
  | (.error fault, writer) => (.error fault, writer)

/-- One exchange with a peer, watched for `patience` milliseconds. -/
def respond (responder : Responder) (patience : Nat) (script : Wire.Script)
    (writer : Wire.Writer) (transcript : Transcript) : Exchange :=
  match (responder.hear script).within patience with
  | .never => ⟨.never, transcript, writer⟩
  | .ready heard (.error fault) => ⟨.ready heard (.error fault), transcript, writer⟩
  | .ready heard (.ok request) =>
    let transcript := transcript.line (Wire.received request)
    let due := heard + responder.replyDelay
    if due ≤ patience then
      let (result, writer) := responder.answer writer
      ⟨.ready due (result.map fun _ => request), transcript, writer⟩
    else ⟨.never, transcript, writer⟩

variable {responder : Responder} {patience heard : Nat} {script : Wire.Script}

/-- As long as nothing has been read, nothing is printed and nothing is written. -/
theorem respond_of_never (hnever : (responder.hear script).within patience = .never)
    (writer : Wire.Writer) (transcript : Transcript) :
    responder.respond patience script writer transcript = ⟨.never, transcript, writer⟩ := by
  rw [respond, hnever]

/-- If the request cannot be read, nothing is printed and nothing is written. -/
theorem respond_of_hear_error {fault : Fault}
    (hheard : responder.hear script = .ready heard (.error fault)) (hle : heard ≤ patience)
    (writer : Wire.Writer) (transcript : Transcript) :
    responder.respond patience script writer transcript =
      ⟨.ready heard (.error fault), transcript, writer⟩ := by
  rw [respond, hheard, Delayed.within_of_le _ hle]

/-- A request that has been read is printed at once, and answered when it is time. -/
theorem respond_of_hear_ok {request : Option String}
    (hheard : responder.hear script = .ready heard (.ok request)) (hle : heard ≤ patience)
    (writer : Wire.Writer) (transcript : Transcript) :
    responder.respond patience script writer transcript =
      if heard + responder.replyDelay ≤ patience then
        ⟨.ready (heard + responder.replyDelay) ((responder.answer writer).1.map fun _ => request),
          transcript.line (Wire.received request), (responder.answer writer).2⟩
      else ⟨.never, transcript.line (Wire.received request), writer⟩ := by
  rw [respond, hheard, Delayed.within_of_le _ hle]

end Responder

end LineGreeting
