import LineGreeting.Proofs.Exchange.Deadline
import LineGreeting.Proofs.Text.Cutting
import LineGreeting.Proofs.Wire.RoundTrip
import LineGreeting.Server.AcceptLoop

/-! # What peers can print

A request is printed on the console as a peer sent it. So much depends on what a peer can
make of a line: a request has no newline, whatever its bytes are, and the transcript cuts
its bytes at newlines only. Each printed line stays the line that it is, and a peer has
its own lines and no others.
-/

namespace LineGreeting

/-- Whether a transcript is empty or ends with a line end, so that what is printed next
begins a line. -/
def Transcript.Ended (transcript : Transcript) : Prop :=
  transcript.captured = [] ∨ transcript.captured.getLast? = some 0x0A

/-- A text without one carriage return at its end. -/
def Text.withoutReturn (text : String) : String :=
  .ofList (dropFinal '\r' text.toList)

/-- Whether a text is one that a line on the wire can say. -/
structure Wire.FitsLine (text : String) : Prop where
  no_newline : '\n' ∉ text.toList
  length_le : text.length ≤ maxLineLength

/-- Something that prints on a transcript. -/
inductive Printing where
  /-- The program itself prints a line. -/
  | line (text : String)
  /-- A peer has an exchange. -/
  | exchange (responder : Responder) (patience : Nat) (script : Wire.Script)
      (writer : Wire.Writer)

namespace Printing

/-- The transcript after something has printed on it. -/
def apply (transcript : Transcript) : Printing → Transcript
  | line text => transcript.line text
  | exchange responder patience script writer =>
    (responder.respond patience script writer transcript).transcript

/-- The lines that something shows on a transcript of its own. -/
def shown (printing : Printing) : List String :=
  (printing.apply {}).lines

end Printing

/-! ## Lines of a transcript -/

namespace Transcript

variable {transcript : Transcript} {text : String}

theorem ended_line (transcript : Transcript) (text : String) : (transcript.line text).Ended := by
  right
  rw [captured_line, ← List.append_assoc, List.getLast?_concat]

theorem lines_write (hended : transcript.Ended) (bytes : Bytes) :
    (transcript.write bytes).lines = transcript.lines ++ (write {} bytes).lines := by
  rcases hended with hempty | hlast
  · rw [lines, lines, write, hempty]
    rfl
  · obtain ⟨front, hfront⟩ := List.getLast?_eq_some_iff.mp hlast
    have hchars (rest : Bytes) : Text.lossyChars (front ++ 0x0A :: rest) =
        Text.lossyChars front ++ '\n' :: Text.lossyChars rest :=
      Text.lossyChars_append_cons (by decide) front rest
    simp only [lines, write, hfront, Text.lines, Text.lossy, String.toList_ofList,
      List.append_assoc, List.singleton_append, List.nil_append, hchars, Text.lossyChars_nil]
    rw [← List.map_append, ← Text.linesOf_ended_append, List.append_assoc, List.singleton_append]

/-- A printed text shows what it shows alone. -/
theorem lines_line (hended : transcript.Ended) (text : String) :
    (transcript.line text).lines = transcript.lines ++ (line {} text).lines := by
  have hwrite (transcript : Transcript) :
      transcript.line text = transcript.write (Text.utf8 text ++ [0x0A]) := by
    rw [line, write, write, write, List.append_assoc]
  rw [hwrite, hwrite, lines_write hended]

/-- A printed text without a newline shows as one line. -/
theorem lines_line_empty (hnewline : '\n' ∉ text.toList) :
    (line {} text).lines = [Text.withoutReturn text] := by
  have hchars : Text.lossyChars (Text.utf8 text ++ [0x0A]) = text.toList ++ ['\n'] :=
    Text.lossyChars_utf8_append text [0x0A]
  rw [lines, captured_line, List.nil_append, Text.lines, Text.lossy, hchars, String.toList_ofList,
    Text.linesOf_line hnewline]
  rfl

end Transcript

/-! ## Requests -/

namespace Wire

open Text (lossyChars)

theorem length_stripTerminator_le (line : Bytes) :
    (stripTerminator line).length ≤ line.length := by
  rw [stripTerminator]
  split
  · dsimp only
    split <;> simp only [List.length_dropLast] <;> omega
  · exact Nat.le_refl _

theorem fitsLine_decodeLine {line : Bytes} (hbody : newline ∉ line.dropLast) :
    FitsLine (decodeLine line) where
  no_newline := newline_not_mem_decodeLine hbody
  length_le := by
    rw [decodeLine, Text.lossy, String.length_ofList]
    calc (lossyChars (stripTerminator (line.take maxLineLength))).length
        ≤ (stripTerminator (line.take maxLineLength)).length := Text.length_lossyChars_le _
      _ ≤ (line.take maxLineLength).length := length_stripTerminator_le _
      _ ≤ maxLineLength := List.length_take_le _ _

theorem fitsLine_of_lineOf {line : Bytes} {text : String} (hbody : newline ∉ line.dropLast)
    (hline : lineOf line = some text) : FitsLine text := by
  rw [lineOf] at hline
  split at hline
  · cases hline
  · cases hline
    exact fitsLine_decodeLine hbody

/-- Whatever a stream gives, its lines are lines. -/
theorem Stream.fitsLine_of_next? {stream rest : Stream} {text : String}
    (hnext : stream.next? = some (.ok (some text), rest)) : FitsLine text := by
  -- A line goes on only as long as no newline comes.
  have hbytes : newline ∉ (stream.takeWhile Symbol.goesOn).filterMap Symbol.byte? := by
    intro hmem
    obtain ⟨symbol, hsymbol, hbyte⟩ := List.mem_filterMap.mp hmem
    have hgoesOn := List.mem_takeWhile_imp hsymbol
    cases symbol with
    | byte given =>
        cases hbyte
        simp [Symbol.goesOn] at hgoesOn
    | close => cases hbyte
    | fault fault => cases hbyte
    | silence => cases hbyte
  have hdropLast : newline ∉
      ((stream.takeWhile Symbol.goesOn).filterMap Symbol.byte?).dropLast :=
    fun hmem => hbytes (List.mem_of_mem_dropLast hmem)
  rw [Stream.next?] at hnext
  split at hnext
  next =>
    simp only [Option.some.injEq, Prod.mk.injEq, Except.ok.injEq] at hnext
    exact fitsLine_of_lineOf hdropLast hnext.1
  next symbol after _ =>
    cases symbol with
    | byte stop =>
        simp only [ended, Option.some.injEq, Prod.mk.injEq, Except.ok.injEq] at hnext
        refine fitsLine_of_lineOf ?_ hnext.1
        rwa [List.dropLast_concat]
    | close =>
        simp only [ended, Option.some.injEq, Prod.mk.injEq, Except.ok.injEq] at hnext
        exact fitsLine_of_lineOf hdropLast hnext.1
    | fault fault => cases hnext
    | silence => cases hnext

theorem Reader.fitsLine_of_readLine {reader next : Reader} {after : Nat} {text : String}
    (hcapacity : 1 ≤ reader.capacity)
    (hread : reader.readLine = .ready after (.ok (some text), next)) : FitsLine text := by
  have hstream := readLine_eq_next? reader hcapacity
  rw [hread] at hstream
  exact Stream.fitsLine_of_next? hstream.symm

theorem lines_received {request : Option String} (hrequest : '\n' ∉ (request.getD "").toList) :
    (Transcript.line {} (received request)).lines =
      [receivedPrefix ++ Text.withoutReturn (request.getD "")] := by
  -- The prefix ends with a blank, so a carriage return at the end is the request's own.
  have hblank : receivedPrefix.toList = "Message Received:".toList ++ [' '] := by decide
  have hdrop (chars : List Char) : Text.dropFinal '\r' (receivedPrefix.toList ++ chars) =
      receivedPrefix.toList ++ Text.dropFinal '\r' chars := by
    rw [hblank, List.append_assoc, List.append_assoc]
    exact Text.dropFinal_append_cons _ _ (by decide) _ _
  have hnewline : '\n' ∉ (received request).toList := by
    rw [received, String.toList_append, List.mem_append, not_or]
    exact ⟨by decide, hrequest⟩
  rw [Transcript.lines_line_empty hnewline, Text.withoutReturn, received, String.toList_append,
    hdrop, String.ofList_append, String.ofList_toList]
  rfl

end Wire

namespace Responder

open Wire (Script Writer)

variable {responder : Responder} {script : Script} {transcript : Transcript}

theorem fitsLine_of_hear {heard : Nat} {text : String}
    (hheard : responder.hear script = .ready heard (.ok (some text))) : Wire.FitsLine text := by
  have hhears := responder.hears_hear script
  rw [hheard] at hhears
  cases hhears with
  | read hnext _ => exact Wire.Stream.fitsLine_of_next? hnext

theorem newline_not_mem_of_hear {heard : Nat} {request : Option String}
    (hheard : responder.hear script = .ready heard (.ok request)) :
    '\n' ∉ (request.getD "").toList := by
  cases request with
  | none => exact List.not_mem_nil
  | some text => exact (fitsLine_of_hear hheard).no_newline

/-- An exchange prints one line if it hears a request, and nothing else. -/
theorem transcript_respond_cases (responder : Responder) (patience : Nat) (script : Script)
    (writer : Writer) :
    (∃ heard request, responder.hear script = .ready heard (.ok request) ∧ heard ≤ patience ∧
      ∀ transcript, (responder.respond patience script writer transcript).transcript =
        transcript.line (Wire.received request)) ∨
    (∀ heard request, responder.hear script = .ready heard (.ok request) → patience < heard) ∧
      ∀ transcript, (responder.respond patience script writer transcript).transcript =
        transcript := by
  cases hheard : responder.hear script with
  | never =>
      refine .inr ⟨nofun, fun transcript => ?_⟩
      rw [respond_of_never (by rw [hheard]; rfl)]
  | ready heard answer =>
      rcases Nat.lt_or_ge patience heard with hlate | hintime
      · refine .inr ⟨?_, fun transcript => ?_⟩
        · rintro _ _ ⟨⟩
          exact hlate
        · rw [respond_of_never (by rw [hheard, Delayed.within_of_lt _ hlate])]
      · cases answer with
        | error fault =>
            refine .inr ⟨nofun, fun transcript => ?_⟩
            rw [respond_of_hear_error hheard hintime]
        | ok request =>
            refine .inl ⟨heard, request, rfl, hintime, fun transcript => ?_⟩
            rw [respond_of_hear_ok hheard hintime]
            split <;> rfl

end Responder

/-! ## Whole transcripts -/

namespace Printing

variable {transcript : Transcript}

theorem ended_apply (hended : transcript.Ended) (printing : Printing) :
    (printing.apply transcript).Ended := by
  cases printing with
  | line text => exact transcript.ended_line text
  | exchange responder patience script writer =>
      rcases responder.transcript_respond_cases patience script writer with
        ⟨heard, request, -, -, hprints⟩ | ⟨-, hprints⟩
      · rw [apply, hprints]
        exact transcript.ended_line _
      · rwa [apply, hprints]

theorem lines_apply (hended : transcript.Ended) (printing : Printing) :
    (printing.apply transcript).lines = transcript.lines ++ printing.shown := by
  cases printing with
  | line text => exact Transcript.lines_line hended text
  | exchange responder patience script writer =>
      rcases responder.transcript_respond_cases patience script writer with
        ⟨heard, request, -, -, hprints⟩ | ⟨-, hprints⟩
      · rw [shown, apply, apply, hprints, hprints, Transcript.lines_line hended]
      · rw [shown, apply, apply, hprints, hprints, Transcript.lines_empty, List.append_nil]

/-- Whoever prints in whatever order, each shows the lines that it shows alone. -/
theorem lines_foldl_apply (printings : List Printing) (hended : transcript.Ended) :
    (printings.foldl apply transcript).lines =
      transcript.lines ++ printings.flatMap shown := by
  induction printings generalizing transcript with
  | nil => exact (List.append_nil _).symm
  | cons printing printings ih =>
      rw [List.foldl_cons, ih (ended_apply hended printing), lines_apply hended,
        List.flatMap_cons, List.append_assoc]

theorem shown_exchange {responder : Responder} {patience heard : Nat} {script : Wire.Script}
    {request : Option String} (hheard : responder.hear script = .ready heard (.ok request))
    (hpatience : heard ≤ patience) (writer : Wire.Writer) :
    (exchange responder patience script writer).shown =
      [Wire.receivedPrefix ++ Text.withoutReturn (request.getD "")] := by
  rcases responder.transcript_respond_cases patience script writer with
    ⟨_, _, hheard', -, hprints⟩ | ⟨hlate, -⟩
  · cases hheard.symm.trans hheard'
    rw [shown, apply, hprints, Wire.lines_received (Responder.newline_not_mem_of_hear hheard)]
  · exact absurd hpatience (Nat.not_le.mpr (hlate heard request hheard))

theorem shown_exchange_of_not_heard {responder : Responder} {patience : Nat}
    {script : Wire.Script}
    (hlate : ∀ heard request, responder.hear script = .ready heard (.ok request) →
      patience < heard) (writer : Wire.Writer) :
    (exchange responder patience script writer).shown = [] := by
  rcases responder.transcript_respond_cases patience script writer with
    ⟨heard, request, hheard, hpatience, -⟩ | ⟨-, hprints⟩
  · exact absurd hpatience (Nat.not_le.mpr (hlate heard request hheard))
  · rw [shown, apply, hprints, Transcript.lines_empty]

end Printing

/-- The lines on a server's console are its banner and then, for each line printed, what this
line shows alone. -/
theorem Server.lines_transcript (server : Server) :
    server.transcript.lines = Server.banner ::
      server.printed.flatMap fun (_, text) => (Printing.line text).shown := by
  have hfold : server.transcript =
      (server.printed.map fun (_, text) => Printing.line text).foldl Printing.apply
        Server.firstLines := by
    rw [List.foldl_map]
    rfl
  have hended : Server.firstLines.Ended := Transcript.ended_line _ _
  have hfirst : Server.firstLines.lines = [Server.banner] := by decide +kernel
  rw [hfold, Printing.lines_foldl_apply _ hended, hfirst, List.flatMap_map]
  rfl

namespace Responder

open Wire (Reader Script Writer)

/-- Whatever bytes a peer sends in whatever pieces, an exchange adds no line to an ended
transcript or just one, which shows the request. The request is one line of bounded length,
so nothing that is printed before, in between or after becomes other lines by what peers
send. -/
theorem respond_prints (responder : Responder) (script : Script) (writer : Writer)
    (transcript : Transcript) (hended : transcript.Ended) :
    (∀ patience, (responder.respond patience script writer transcript).transcript.Ended) ∧
    (∀ patience,
      (∀ heard request, responder.hear script = .ready heard (.ok request) → patience < heard) →
      (responder.respond patience script writer transcript).transcript.lines =
        transcript.lines) ∧
    (∀ patience heard request, responder.hear script = .ready heard (.ok request) →
      heard ≤ patience →
      (responder.respond patience script writer transcript).transcript.lines =
        transcript.lines ++ ["Message Received: " ++ Text.withoutReturn (request.getD "")]) ∧
    (∀ (reader next : Reader) (after : Nat) (text : String), 1 ≤ reader.capacity →
      reader.readLine = .ready after (.ok (some text), next) →
      '\n' ∉ text.toList ∧ text.length ≤ 65536) ∧
    ∀ printings : List Printing, (printings.foldl Printing.apply transcript).lines =
      transcript.lines ++ printings.flatMap Printing.shown := by
  refine ⟨?_, ?_, ?_, ?_, ?_⟩
  · intro patience
    exact Printing.ended_apply hended (.exchange responder patience script writer)
  · intro patience hlate
    have hlines := Printing.lines_apply hended (.exchange responder patience script writer)
    rwa [Printing.shown_exchange_of_not_heard hlate, List.append_nil] at hlines
  · intro patience heard request hheard hpatience
    have hlines := Printing.lines_apply hended (.exchange responder patience script writer)
    rwa [Printing.shown_exchange hheard hpatience] at hlines
  · intro reader next after text hcapacity hread
    have hfits := Reader.fitsLine_of_readLine hcapacity hread
    exact ⟨hfits.no_newline, hfits.length_le⟩
  · exact fun printings => Printing.lines_foldl_apply printings hended

/-- A peer that sends carriage returns, a line separator in two parts and a byte that is no
character. -/
def craftyScript : Script :=
  [.data [0x61, 0x0D, 0xE2, 0x80], .wait 3, .data [0xA8, 0xFF, 0x0D, 0x0D, 0x0A, 0x62, 0x0A]]

theorem respond_prints_crafty : Server.firstLines.Ended ∧
    (sampleResponder.respond 3 craftyScript {} Server.firstLines).transcript.lines =
      ["Server TCP", "Message Received: a\r\u2028\ufffd"] := by
  have hended : Server.firstLines.Ended := Transcript.ended_line _ _
  have htime : craftyScript.lineTime = some 3 := by decide
  obtain ⟨answer, rest, hnext, hheard⟩ := @hear_of_le sampleResponder _ 3 htime (by rintro _ ⟨⟩)
  have hanswer : craftyScript.stream.next? =
      some (.ok (some "a\r\u2028\ufffd\r"), [.byte 0x62, .byte 0x0A]) := by decide +kernel
  cases hnext.symm.trans hanswer
  obtain ⟨-, -, hlines, -⟩ :=
    respond_prints sampleResponder craftyScript {} Server.firstLines hended
  refine ⟨hended, ?_⟩
  rw [hlines 3 3 _ hheard le_rfl]
  decide +kernel

end Responder

end LineGreeting
