import LineGreeting.Proofs.Exchange.Deadline

/-! # The reply knows nothing of the request

Two peers that get a request through, however different their requests are and however much
they send behind them, get the same bytes at the same time after it, and see the same end.
Both ways of a connection share one object with a buffer for what comes in, so what a peer
has sent too much lies there while the reply is written; the reply passes it by.
-/

namespace LineGreeting

namespace Delayed

variable {α β : Type}

theorem within_map (patience : Nat) (change : α → β) (operation : Delayed α) :
    (operation.map change).within patience = (operation.within patience).map change := by
  cases operation with
  | never => rfl
  | ready after value =>
      rw [map, within, within]
      split <;> rfl

theorem withTimeout_map (limit : Option Nat) (change : α → β)
    (operation : Delayed (Except Fault α)) :
    (operation.map (Except.map change)).withTimeout limit =
      (operation.withTimeout limit).map (Except.map change) := by
  cases limit with
  | none => rfl
  | some limit =>
      rw [withTimeout, withTimeout, within_map]
      cases operation.within limit <;> rfl

end Delayed

namespace Wire

/-- Both ways of one connection. What is read goes through a buffer; what is written does
not. -/
structure Duplex where
  reader : Reader
  writer : Writer

namespace Duplex

/-- Reads a line, within some time for it. What lies behind the line stays in the buffer. -/
def readLine (limit : Option Nat) (duplex : Duplex) :
    Delayed (Except Fault (Option String × Duplex)) :=
  (duplex.reader.readLine.map fun (answer, reader) =>
    answer.map fun text => (text, { duplex with reader })).withTimeout limit

def writeLine (duplex : Duplex) (text : String) : Except Fault Unit × Duplex :=
  let (result, writer) := duplex.writer.writeLine text
  (result, { duplex with writer })

def shutdown (duplex : Duplex) : Except Fault Unit × Duplex :=
  let (result, writer) := duplex.writer.shutdown
  (result, { duplex with writer })

/-- Sends the only line and tells the peer that nothing follows. -/
def close (duplex : Duplex) (text : String) : Except Fault Unit × Duplex :=
  match duplex.writeLine text with
  | (.ok (), duplex) => duplex.shutdown
  | (.error fault, duplex) => (.error fault, duplex)

end Duplex

end Wire

/-- An exchange together with the connection it has left. -/
structure Conversation where
  outcome : Delayed (Except Fault (Option String))
  transcript : Transcript
  duplex : Wire.Duplex

namespace Conversation

def exchange (conversation : Conversation) : Exchange :=
  ⟨conversation.outcome, conversation.transcript, conversation.duplex.writer⟩

end Conversation

namespace Responder

open Wire (Duplex Reader Script Writer)

variable {responder : Responder} {script script' : Script} {writer : Writer}
variable {transcript : Transcript} {heard heard' : Nat} {request request' : Option String}

/-! ## Both ways through one object -/

/-- One exchange on a connection, watched for `patience` milliseconds. -/
def converse (responder : Responder) (patience : Nat) (duplex : Duplex)
    (transcript : Transcript) : Conversation :=
  match (duplex.readLine responder.readTimeout).within patience with
  | .never => ⟨.never, transcript, duplex⟩
  | .ready heard (.error fault) => ⟨.ready heard (.error fault), transcript, duplex⟩
  | .ready heard (.ok (request, duplex)) =>
    let transcript := transcript.line (Wire.received request)
    let due := heard + responder.replyDelay
    if due ≤ patience then
      let (result, duplex) := duplex.close responder.reply
      ⟨.ready due (result.map fun _ => request), transcript, duplex⟩
    else ⟨.never, transcript, duplex⟩

/-- The reply is written as if nothing were in the buffer, and leaves the buffer as it is. -/
theorem close_eq (responder : Responder) (duplex : Duplex) :
    duplex.close responder.reply =
      ((responder.answer duplex.writer).1,
        { duplex with writer := (responder.answer duplex.writer).2 }) := by
  rw [Duplex.close, Duplex.writeLine, answer]
  cases hwritten : duplex.writer.writeLine responder.reply with
  | mk result writer => cases result <;> rfl

/-- The request is read from the connection as from the script alone, and only what is left
to read has changed. -/
theorem exists_readLine_eq (responder : Responder) (script : Script) (writer : Writer) :
    ∃ left, Duplex.readLine responder.readTimeout ⟨{ script }, writer⟩ =
      (responder.hear script).map (Except.map fun request => (request, ⟨left, writer⟩)) := by
  rw [hear, Duplex.readLine]
  cases Reader.readLine { script } with
  | never =>
      refine ⟨{ script }, ?_⟩
      rw [← Delayed.withTimeout_map]
      rfl
  | ready after result =>
      obtain ⟨answer, left⟩ := result
      refine ⟨left, ?_⟩
      rw [← Delayed.withTimeout_map]
      rfl

/-- With both ways in one object an exchange is what it is with each way apart. -/
theorem exchange_converse (responder : Responder) (patience : Nat) (script : Script)
    (writer : Writer) (transcript : Transcript) :
    (responder.converse patience ⟨{ script }, writer⟩ transcript).exchange =
      responder.respond patience script writer transcript := by
  obtain ⟨left, hread⟩ := responder.exists_readLine_eq script writer
  rw [converse, respond, hread, Delayed.within_map]
  cases (responder.hear script).within patience with
  | never => rfl
  | ready heard answer =>
      cases answer with
      | error fault => rfl
      | ok request =>
          simp only [Delayed.map, Except.map, close_eq]
          split <;> rfl

/-! ## Two requests -/

/-- Two exchanges that differ in their requests and in when these were there, looked at when
as much time has passed since. -/
structure Alike (responder : Responder) (elapsed heard heard' : Nat)
    (request request' : Option String) (first second : Exchange) : Prop where
  /-- The same bytes in as many calls, and as many flushes and shutdowns. -/
  writer_eq : first.writer = second.writer
  pending : elapsed < responder.replyDelay → first.outcome = .never ∧ second.outcome = .never
  ended : responder.replyDelay ≤ elapsed → ∃ result : Except Fault Unit,
    first.outcome = .ready (heard + responder.replyDelay) (result.map fun _ => request) ∧
      second.outcome = .ready (heard' + responder.replyDelay) (result.map fun _ => request')

/-- Of any two requests that are read, be they text or none, whole or cut, valid or not, the
exchanges go on alike, whatever the writer does; only what is printed of the request and the
value returned differ. Nor does it matter that both ways share one connection. -/
theorem respond_independent (hheard : responder.hear script = .ready heard (.ok request))
    (hheard' : responder.hear script' = .ready heard' (.ok request')) (writer : Writer)
    (transcript transcript' : Transcript) :
    (∀ elapsed,
      responder.Alike elapsed heard heard' request request'
        (responder.respond (heard + elapsed) script writer transcript)
        (responder.respond (heard' + elapsed) script' writer transcript') ∧
      (responder.respond (heard + elapsed) script writer transcript).transcript =
        transcript.line ("Message Received: " ++ request.getD "") ∧
      (responder.respond (heard' + elapsed) script' writer transcript').transcript =
        transcript'.line ("Message Received: " ++ request'.getD "")) ∧
    ∀ patience,
      (responder.converse patience ⟨{ script }, writer⟩ transcript).exchange =
          responder.respond patience script writer transcript ∧
      (responder.converse patience ⟨{ script := script' }, writer⟩ transcript').exchange =
          responder.respond patience script' writer transcript' := by
  refine ⟨?_, fun patience => ⟨exchange_converse .., exchange_converse ..⟩⟩
  intro elapsed
  rw [respond_of_hear_ok hheard (Nat.le_add_right heard elapsed),
    respond_of_hear_ok hheard' (Nat.le_add_right heard' elapsed)]
  simp only [Nat.add_le_add_iff_left]
  by_cases hdue : responder.replyDelay ≤ elapsed
  · rw [if_pos hdue, if_pos hdue]
    refine ⟨⟨rfl, fun hless => absurd hdue (Nat.not_le.mpr hless), fun _ => ?_⟩, rfl, rfl⟩
    exact ⟨(responder.answer writer).1, rfl, rfl⟩
  · rw [if_neg hdue, if_neg hdue]
    exact ⟨⟨rfl, fun _ => ⟨rfl, rfl⟩, fun hle => absurd hle hdue⟩, rfl, rfl⟩

/-- A peer that sends two bytes that are no characters, and then ends its stream. -/
def garbledScript : Script := [.wait 1, .data [0xFF], .wait 2, .data [0xFE], .data []]

theorem respond_independent_garbled :
    sampleResponder.hear garbledScript = .ready 3 (.ok (some "\ufffd\ufffd")) ∧
    sampleResponder.hear [] = .ready 0 (.ok none) ∧
    (sampleResponder.respond 10 garbledScript brokenWriter {}).writer =
      (sampleResponder.respond 7 [] brokenWriter {}).writer ∧
    (∃ result : Except Fault Unit,
      (sampleResponder.respond 10 garbledScript brokenWriter {}).outcome =
          .ready 10 (result.map fun _ => some "\ufffd\ufffd") ∧
        (sampleResponder.respond 7 [] brokenWriter {}).outcome =
          .ready 7 (result.map fun _ => none)) ∧
    (sampleResponder.respond 7 [] brokenWriter {}).transcript =
      Transcript.line {} "Message Received: " := by
  have hgarbled : sampleResponder.hear garbledScript =
      .ready 3 (.ok (some "\ufffd\ufffd")) := by
    obtain ⟨answer, rest, hnext, hheard⟩ :=
      @hear_of_le sampleResponder garbledScript 3 (by decide) (by rintro _ ⟨⟩)
    have hanswer : garbledScript.stream.next? = some (.ok (some "\ufffd\ufffd"), []) := by
      decide +kernel
    cases hnext.symm.trans hanswer
    exact hheard
  have hnothing : sampleResponder.hear [] = .ready 0 (.ok none) := by
    obtain ⟨answer, rest, hnext, hheard⟩ :=
      @hear_of_le sampleResponder [] 0 (by decide) (by rintro _ ⟨⟩)
    cases hnext
    exact hheard
  obtain ⟨halike, -, hprinted⟩ :=
    (respond_independent hgarbled hnothing brokenWriter {} {}).1 7
  exact ⟨hgarbled, hnothing, halike.writer_eq, halike.ended le_rfl, hprinted⟩

end Responder

end LineGreeting
