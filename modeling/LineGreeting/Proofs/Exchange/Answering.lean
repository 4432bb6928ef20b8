import LineGreeting.Proofs.Wire.Stream
import LineGreeting.Proofs.Wire.Writing
import LineGreeting.Responder

/-! # One exchange under faults

A request can fail to come or come too late, and its answer can fail while it is
written, flushed or ended. However the peer behaves, what has been printed and
sent by the end is what the stages before the first fault do, and this fault is
what the exchange ends with.
-/

namespace LineGreeting

namespace Wire.Writer

/-- The first fault met when a line is written and flushed and the stream is ended. -/
def firstFault? (writer : Writer) (line : Bytes) : Option Fault :=
  if writer.accepts line = line then writer.flushFault.or writer.shutdownFault
  else some writer.stopFault

/-- What a line leaves of a writer that is to be ended after it: a part of the line from
its beginning, a flush only of the whole line and an end only after a good flush. -/
structure Sent (before : Writer) (line : Bytes) (after : Writer) : Prop where
  isPrefix : before.accepts line <+: line
  taken_eq : after.taken.toList = before.taken.toList ++ before.accepts line
  flushes_eq : after.flushes = before.flushes + if before.accepts line = line then 1 else 0
  shutdowns_eq : after.shutdowns = before.shutdowns +
    if before.accepts line = line ∧ before.flushFault = none then 1 else 0

end Wire.Writer

namespace Responder

open Wire (Reader Script Writer)

variable {responder : Responder} {script : Script} {writer : Writer} {transcript : Transcript}

theorem answer_eq (responder : Responder) (hwriter : writer.Steady) :
    (responder.answer writer).1 =
        Wire.failWith (writer.firstFault? (Wire.encodeLine responder.reply)) ∧
      writer.Sent (Wire.encodeLine responder.reply) (responder.answer writer).2 := by
  obtain ⟨taken, calls, htaken, hwritten⟩ := hwriter.writeLine_eq responder.reply
  have hprefix := writer.accepts_isPrefix (Wire.encodeLine responder.reply)
  rw [answer, hwritten, Writer.firstFault?]
  by_cases hall : writer.accepts (Wire.encodeLine responder.reply) =
      Wire.encodeLine responder.reply
  · rw [if_pos hall, if_pos hall]
    cases hflush : writer.flushFault with
    | none =>
        refine ⟨by simp [Wire.failWith, Writer.shutdown], hprefix, htaken, ?_, ?_⟩
        · simp [Wire.failWith, Writer.shutdown, hall]
        · simp [Wire.failWith, Writer.shutdown, hall, hflush]
    | some fault =>
        refine ⟨by simp [Wire.failWith], hprefix, htaken, ?_, ?_⟩
        · simp [Wire.failWith, hall]
        · simp [Wire.failWith, hflush]
  · rw [if_neg hall, if_neg hall]
    exact ⟨rfl, hprefix, htaken, by simp [hall], by simp [hall]⟩

/-! ## Hearing the request -/

/-- What becomes of reading a request: it is what the peer's stream says, or it is too
late, or it never comes and nobody minds. -/
inductive Hears (responder : Responder) (script : Script) :
    Delayed (Except Fault (Option String)) → Prop
  | read {after : Nat} {answer : Wire.Answer} {rest : Wire.Stream}
      (hnext : script.stream.next? = some (answer, rest))
      (hintime : ∀ limit, responder.readTimeout = some limit → after ≤ limit) :
      Hears responder script (.ready after answer)
  | late {limit : Nat} (hlimit : responder.readTimeout = some limit)
      (hlate : ∀ after result, Reader.readLine { script } = .ready after result → limit < after) :
      Hears responder script (.ready limit (.error (.timedOut limit)))
  | silent (hlimit : responder.readTimeout = none) (hnext : script.stream.next? = none) :
      Hears responder script .never

theorem hears_hear (responder : Responder) (script : Script) :
    responder.Hears script (responder.hear script) := by
  have hstream := Reader.readLine_eq_next?_of_script script
  rw [hear]
  cases hread : Reader.readLine { script } with
  | ready after result =>
      obtain ⟨answer, next⟩ := result
      rw [hread] at hstream
      cases hlimit : responder.readTimeout with
      | none => exact .read hstream.symm (by simp [hlimit])
      | some limit =>
          rw [Delayed.map]
          by_cases hintime : after ≤ limit
          · rw [Delayed.withTimeout_of_le _ hintime]
            refine .read hstream.symm ?_
            rintro _ hsome
            cases hlimit.symm.trans hsome
            exact hintime
          · rw [Delayed.withTimeout_of_lt _ (Nat.not_le.mp hintime)]
            refine .late hlimit ?_
            rintro _ _ hready
            cases hread.symm.trans hready
            exact Nat.not_le.mp hintime
  | never =>
      rw [hread] at hstream
      cases hlimit : responder.readTimeout with
      | none => exact .silent hlimit hstream.symm
      | some limit =>
          refine .late hlimit ?_
          rintro _ _ hready
          cases hread.symm.trans hready

/-! ## The whole exchange -/

/-- What an exchange has come to after `patience` milliseconds if its request was there
after `heard`. -/
structure Answers (responder : Responder) (patience heard : Nat) (request : Option String)
    (writer : Writer) (transcript : Transcript) (exchange : Exchange) : Prop where
  printed : exchange.transcript.captured =
    transcript.captured ++ (Text.utf8 ("Message Received: " ++ request.getD "") ++ [0x0A])
  pending : patience < heard + responder.replyDelay →
    exchange.outcome = .never ∧ exchange.writer = writer
  sent : heard + responder.replyDelay ≤ patience →
    writer.Sent (Wire.encodeLine responder.reply) exchange.writer
  succeeds : heard + responder.replyDelay ≤ patience →
    writer.firstFault? (Wire.encodeLine responder.reply) = none →
    exchange.outcome = .ready (heard + responder.replyDelay) (.ok request)
  fails : heard + responder.replyDelay ≤ patience →
    ∀ fault, writer.firstFault? (Wire.encodeLine responder.reply) = some fault →
    exchange.outcome = .ready (heard + responder.replyDelay) (.error fault)

theorem answers_respond {patience heard : Nat} {request : Option String}
    (hwriter : writer.Steady) (hheard : responder.hear script = .ready heard (.ok request))
    (hpatience : heard ≤ patience) (transcript : Transcript) :
    responder.Answers patience heard request writer transcript
      (responder.respond patience script writer transcript) := by
  obtain ⟨hresult, hsent⟩ := responder.answer_eq hwriter
  rw [respond_of_hear_ok hheard hpatience]
  by_cases hdue : heard + responder.replyDelay ≤ patience
  · rw [if_pos hdue]
    refine ⟨transcript.captured_line _, fun hless => absurd hdue (Nat.not_le.mpr hless),
      fun _ => hsent, fun _ hnone => ?_, fun _ fault hsome => ?_⟩
    · rw [hresult, hnone]
      rfl
    · rw [hresult, hsome]
      rfl
  · rw [if_neg hdue]
    exact ⟨transcript.captured_line _, fun _ => ⟨rfl, rfl⟩, fun hle => absurd hle hdue,
      fun hle => absurd hle hdue, fun hle => absurd hle hdue⟩

/-- Whatever a peer sends and however it takes the reply, nothing is printed and nothing is
done with the writer as long as no request has been read, and for good if reading fails or
takes too long. A request that has been read is printed once; then as much of the reply is
sent as the peer takes, and the exchange ends with the request or with the first fault. -/
theorem respond_answers (responder : Responder) (script : Script) (writer : Writer)
    (transcript : Transcript) (hwriter : writer.Steady) :
    responder.Hears script (responder.hear script) ∧
    ∀ patience,
      ((responder.hear script).within patience = .never →
        responder.respond patience script writer transcript = ⟨.never, transcript, writer⟩) ∧
      (∀ heard fault, responder.hear script = .ready heard (.error fault) → heard ≤ patience →
        responder.respond patience script writer transcript =
          ⟨.ready heard (.error fault), transcript, writer⟩) ∧
      ∀ heard request, responder.hear script = .ready heard (.ok request) → heard ≤ patience →
        responder.Answers patience heard request writer transcript
          (responder.respond patience script writer transcript) := by
  refine ⟨responder.hears_hear script, fun patience => ⟨?_, ?_, ?_⟩⟩
  · intro hnever
    exact respond_of_never hnever writer transcript
  · intro heard fault hheard hpatience
    exact respond_of_hear_error hheard hpatience writer transcript
  · intro heard request hheard hpatience
    exact answers_respond hwriter hheard hpatience transcript

/-- A peer that sends its request late and breaks down within the reply. -/
def sampleResponder : Responder where
  reply := "hi"
  replyDelay := 7

def sampleScript : Script := [.wait 5, .data [0x61, 0x0D, 0x0A, 0x62]]

def brokenWriter : Writer where
  grain _ := some 1
  barrier := some ⟨2, some (.system .brokenPipe)⟩

theorem respond_answers_brokenWriter : brokenWriter.Steady ∧
    (sampleResponder.respond 20 sampleScript brokenWriter {}).outcome =
      .ready 12 (.error (.system .brokenPipe)) ∧
    (sampleResponder.respond 20 sampleScript brokenWriter {}).writer.taken.toList =
      [0x68, 0x69] := by
  have hsteady : brokenWriter.Steady := ⟨by simp [brokenWriter]⟩
  have hheard : sampleResponder.hear sampleScript = .ready 5 (.ok (some "a")) := by
    rw [hear, Reader.readLine, Reader.finishLine]
    change ((Reader.finishLine 5 { buffer := [0x61, 0x0D, 0x0A, 0x62], script := [] } {}).map
      Prod.fst).withTimeout none = _
    rw [Reader.finishLine]
    decide +kernel
  obtain ⟨-, -, hanswers⟩ :=
    (respond_answers sampleResponder sampleScript brokenWriter {} hsteady).2 20
  obtain ⟨-, -, hsent, -, hfails⟩ := hanswers 5 (some "a") hheard (by decide)
  refine ⟨hsteady, ?_, ?_⟩
  · exact hfails (by decide) _ (by decide +kernel)
  · rw [(hsent (by decide)).taken_eq]
    decide +kernel

end Responder

end LineGreeting
