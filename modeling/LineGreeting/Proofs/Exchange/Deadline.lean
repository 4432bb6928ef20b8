import LineGreeting.Proofs.Exchange.Answering

/-! # One deadline for the whole request

A peer may drip its line byte by byte, with any pauses in between. What counts is the
sum of the pauses before the piece that completes the line: at that time the request
is there, and the deadline is held against this sum and against nothing else. Neither
a piece that comes in between nor the delay of the reply moves it.
-/

namespace LineGreeting

namespace Wire

/-- After how many milliseconds a peer has given all of its first line, or the end or the
fault that comes instead; nothing if it falls silent before. -/
def Script.lineTime : Script → Option Nat
  | [] => some 0
  | .data bytes :: rest => if bytes = [] ∨ newline ∈ bytes then some 0 else lineTime rest
  | .fault _ :: _ => some 0
  | .wait pause :: rest => (lineTime rest).map (pause + ·)
  | .silence :: _ => none

/-- What a read gives, as something that a peer does. -/
def ReadEvent.ofResult : Except Fault Bytes → ReadEvent
  | .ok bytes => .data bytes
  | .error cause => .fault cause

/-- After how long an operation comes to its end. -/
def time? {α : Type} : Delayed α → Option Nat
  | .ready after _ => some after
  | .never => none

/-- Whether a writer takes something with each call and never fails. -/
structure Writer.FaultFree (writer : Writer) : Prop where
  grain_ne_zero : ∀ call, writer.grain call ≠ some 0
  barrier_eq : writer.barrier = none
  flushFault_eq : writer.flushFault = none
  shutdownFault_eq : writer.shutdownFault = none

variable {script rest : Script}

/-! ## When a line is there -/

/-- A piece that is fetched in two parts completes the line at the same time. -/
theorem Script.lineTime_part {bytes : Bytes} {room : Nat} (hroom : 1 ≤ room)
    (hmore : room < bytes.length) :
    lineTime (.data bytes :: rest) =
      lineTime (.data (bytes.take room) :: .data (bytes.drop room) :: rest) := by
  have hwhole : bytes ≠ [] := List.ne_nil_of_length_pos (Nat.zero_lt_of_lt hmore)
  have hfront : bytes.take room ≠ [] := by
    rw [Ne, List.take_eq_nil_iff, not_or]
    exact ⟨by omega, hwhole⟩
  have hback : bytes.drop room ≠ [] := List.drop_eq_nil_iff.not.mpr (Nat.not_le.mpr hmore)
  have hmem : newline ∈ bytes ↔ newline ∈ bytes.take room ∨ newline ∈ bytes.drop room := by
    rw [← List.mem_append, List.take_append_drop]
  simp only [lineTime, hwhole, hfront, hback, hmem, false_or]
  by_cases hnewline : newline ∈ bytes.take room
  · simp [hnewline]
  · simp [hnewline]

/-- A read takes the pauses off and leaves the rest of the way to the end of the line. -/
theorem Script.lineTime_of_read {room after : Nat} (hroom : 1 ≤ room)
    {result : Except Fault Bytes} (hread : script.read room = .ready after (result, rest)) :
    script.lineTime = (lineTime (.ofResult result :: rest)).map (after + ·) := by
  have hgives := gives_of_read hread
  clear hread
  induction hgives with
  | atEnd | fault => rfl
  | whole => simp [ReadEvent.ofResult]
  | part hmore =>
      rw [ReadEvent.ofResult, ← lineTime_part hroom hmore]
      simp
  | wait _ ih =>
      rw [lineTime, ih, Option.map_map]
      congr 1
      funext time
      exact (Nat.add_assoc ..).symm

theorem Script.lineTime_of_read_never {room : Nat} (hread : script.read room = .never) :
    script.lineTime = none := by
  have hpends := pends_of_read hread
  clear hread
  induction hpends with
  | silence => rfl
  | wait _ ih =>
      rw [lineTime, ih]
      rfl

namespace Reader

/-- After how many milliseconds a reader has fetched all of a line. -/
def lineTime (reader : Reader) : Option Nat :=
  if newline ∈ reader.buffer then some 0 else reader.script.lineTime

/-- The time that has passed is only added to: no piece that was fetched starts it anew. -/
theorem time?_finishLine (elapsed : Nat) (reader : Reader) (line : Partial)
    (hcapacity : 1 ≤ reader.capacity) :
    time? (finishLine elapsed reader line) = reader.lineTime.map (elapsed + ·) := by
  -- A newline in the buffer ends the line at once; else what the peer does next decides.
  fun_induction finishLine elapsed reader line with
  | case1 elapsed reader line byte more hbuffer chunk stop rest hstop whole =>
      obtain ⟨hnewline, -, hchunk⟩ := piece_split hstop
      have hmem : newline ∈ reader.buffer := by
        rw [hbuffer, ← hnewline]
        change stop ∈ chunk
        rw [hchunk]
        exact List.mem_append_right _ List.mem_cons_self
      rw [lineTime, if_pos hmem]
      rfl
  | case2 elapsed reader line byte more hbuffer chunk hstop ih =>
      have hchunk : newline ∉ reader.buffer := by
        rw [hbuffer]
        exact newline_not_mem_of_dropWhile hstop
      rw [ih hcapacity, lineTime, lineTime, if_neg hchunk, if_neg List.not_mem_nil]
  | case3 elapsed reader line hbuffer hread =>
      rw [lineTime, hbuffer, if_neg List.not_mem_nil, Script.lineTime_of_read_never hread]
      rfl
  | case4 elapsed reader line hbuffer after fault rest hread =>
      rw [lineTime, hbuffer, if_neg List.not_mem_nil, Script.lineTime_of_read hcapacity hread]
      rfl
  | case5 elapsed reader line hbuffer after rest hread =>
      rw [lineTime, hbuffer, if_neg List.not_mem_nil, Script.lineTime_of_read hcapacity hread]
      rfl
  | case6 elapsed reader line hbuffer after byte more rest hread ih =>
      have hrest : lineTime { reader with buffer := byte :: more, script := rest } =
          Script.lineTime (.data (byte :: more) :: rest) := by
        simp [lineTime, Script.lineTime]
      rw [ih hcapacity, hrest, lineTime, hbuffer, if_neg List.not_mem_nil,
        Script.lineTime_of_read hcapacity hread, Option.map_map]
      congr 1
      funext time
      exact Nat.add_assoc elapsed after time

theorem time?_readLine (script : Script) : time? (readLine { script }) = script.lineTime := by
  rw [readLine, time?_finishLine 0 { script } {} (by change 1 ≤ 8192; decide), lineTime,
    if_neg List.not_mem_nil]
  simp

/-- A line is read when the peer has given it, and says what the stream says. -/
theorem readLine_of_lineTime {heard : Nat} (htime : script.lineTime = some heard) :
    ∃ answer next, readLine { script } = .ready heard (answer, next) ∧
      script.stream.next? = some (answer, next.stream) := by
  have hstream := readLine_eq_next?_of_script script
  rw [← time?_readLine] at htime
  cases hread : readLine { script } with
  | ready after result =>
      obtain ⟨answer, next⟩ := result
      rw [hread] at htime hstream
      cases htime
      exact ⟨answer, next, rfl, hstream.symm⟩
  | never =>
      rw [hread] at htime
      cases htime

end Reader

namespace Writer.FaultFree

variable {writer : Writer}

theorem steady (hwriter : writer.FaultFree) : writer.Steady :=
  ⟨hwriter.grain_ne_zero⟩

theorem firstFault?_eq (hwriter : writer.FaultFree) (line : Bytes) :
    writer.firstFault? line = none := by
  rw [firstFault?, if_pos (accepts_of_barrier_eq_none hwriter.barrier_eq line),
    hwriter.flushFault_eq, hwriter.shutdownFault_eq]
  rfl

end Writer.FaultFree

end Wire

namespace Responder

open Wire (Script Writer)

variable {responder : Responder} {script : Script} {writer : Writer} {transcript : Transcript}
variable {heard limit patience : Nat}

/-! ## Hearing in time -/

theorem hear_of_le (htime : script.lineTime = some heard)
    (hintime : ∀ limit, responder.readTimeout = some limit → heard ≤ limit) :
    ∃ answer rest, script.stream.next? = some (answer, rest) ∧
      responder.hear script = .ready heard answer := by
  obtain ⟨answer, next, hread, hnext⟩ := Wire.Reader.readLine_of_lineTime htime
  refine ⟨answer, next.stream, hnext, ?_⟩
  rw [hear, hread, Delayed.map]
  cases hlimit : responder.readTimeout with
  | none => rfl
  | some limit => exact Delayed.withTimeout_of_le _ (hintime limit hlimit)

theorem hear_of_lt (hlimit : responder.readTimeout = some limit)
    (hlate : ∀ heard, script.lineTime = some heard → limit < heard) :
    responder.hear script = .ready limit (.error (.timedOut limit)) := by
  have htime := Wire.Reader.time?_readLine script
  rw [hear, hlimit]
  cases hread : Wire.Reader.readLine { script } with
  | ready after result =>
      rw [hread] at htime
      exact Delayed.withTimeout_of_lt _ (hlate after htime.symm)
  | never => rfl

theorem hear_of_silent (hlimit : responder.readTimeout = none) (htime : script.lineTime = none) :
    responder.hear script = .never := by
  rw [← Wire.Reader.time?_readLine] at htime
  rw [hear, hlimit]
  cases hread : Wire.Reader.readLine { script } with
  | ready after result =>
      rw [hread] at htime
      cases htime
  | never => rfl

/-- A request is heard only in time, and then when the peer has given it. -/
theorem lineTime_of_hear_ok {request : Option String} (hlimit : responder.readTimeout = some limit)
    (hheard : responder.hear script = .ready heard (.ok request)) :
    script.lineTime = some heard ∧ heard ≤ limit := by
  by_cases hlate : ∀ heard, script.lineTime = some heard → limit < heard
  · rw [hear_of_lt hlimit hlate] at hheard
    cases hheard
  · push Not at hlate
    obtain ⟨time, htime, hle⟩ := hlate
    obtain ⟨answer, rest, -, hready⟩ := @hear_of_le responder script time htime
      fun _ hsome => Option.some_inj.mp (hlimit.symm.trans hsome) ▸ hle
    rw [hready] at hheard
    cases hheard
    exact ⟨htime, hle⟩

/-- The same responder with another limit. -/
def within (responder : Responder) (readTimeout : Option Nat) : Responder :=
  { responder with readTimeout }

theorem respond_congr {first second : Option Nat}
    (hhear : (responder.within first).hear script = (responder.within second).hear script)
    (patience : Nat) (writer : Writer) (transcript : Transcript) :
    (responder.within first).respond patience script writer transcript =
      (responder.within second).respond patience script writer transcript := by
  rw [respond, respond, hhear]
  rfl

/-- A limit that the request keeps is as good as none. -/
theorem hear_within_of_le (htime : script.lineTime = some heard) (hle : heard ≤ limit) :
    (responder.within (some limit)).hear script = (responder.within none).hear script := by
  obtain ⟨answer, rest, hnext, hready⟩ := @hear_of_le (responder.within (some limit)) script heard
    htime (by rintro _ ⟨⟩; exact hle)
  obtain ⟨answer', rest', hnext', hready'⟩ := @hear_of_le (responder.within none) script heard
    htime (by rintro _ ⟨⟩)
  cases hnext.symm.trans hnext'
  rw [hready, hready']

theorem hear_of_respond_ok {after : Nat} {request : Option String}
    (houtcome : (responder.respond patience script writer transcript).outcome =
      .ready after (.ok request)) :
    ∃ heard, responder.hear script = .ready heard (.ok request) := by
  cases hheard : responder.hear script with
  | never =>
      rw [respond_of_never (by rw [hheard]; rfl)] at houtcome
      cases houtcome
  | ready heard answer =>
      rcases Nat.lt_or_ge patience heard with hlate | hintime
      · rw [respond_of_never (by rw [hheard, Delayed.within_of_lt _ hlate])] at houtcome
        cases houtcome
      · cases answer with
        | error fault =>
            rw [respond_of_hear_error hheard hintime] at houtcome
            cases houtcome
        | ok other =>
            rw [respond_of_hear_ok hheard hintime] at houtcome
            split at houtcome
            · cases hresult : (responder.answer writer).1 with
              | ok =>
                  rw [hresult] at houtcome
                  cases houtcome
                  exact ⟨heard, rfl⟩
              | error fault =>
                  rw [hresult] at houtcome
                  cases houtcome
            · cases houtcome

/-! ## The whole exchange -/

/-- What an exchange with a writer without faults comes to if `answer` was there after
`heard` milliseconds. -/
structure Concludes (responder : Responder) (heard : Nat) (answer : Wire.Answer)
    (writer : Writer) (transcript : Transcript) (exchange : Exchange) : Prop where
  of_ok : ∀ request, answer = .ok request →
    exchange.outcome = .ready (heard + responder.replyDelay) (.ok request) ∧
      exchange.transcript = transcript.line (Wire.received request) ∧
      exchange.writer.taken.toList = writer.taken.toList ++ Wire.encodeLine responder.reply
  of_error : ∀ fault, answer = .error fault →
    exchange = ⟨.ready heard (.error fault), transcript, writer⟩

theorem concludes_respond {answer : Wire.Answer} (hwriter : writer.FaultFree)
    (hheard : responder.hear script = .ready heard answer)
    (hpatience : heard + responder.replyDelay ≤ patience) (transcript : Transcript) :
    responder.Concludes heard answer writer transcript
      (responder.respond patience script writer transcript) := by
  have hle : heard ≤ patience := Nat.le_of_add_right_le hpatience
  constructor
  · rintro request rfl
    have hanswers := answers_respond hwriter.steady hheard hle transcript
    refine ⟨hanswers.succeeds hpatience (hwriter.firstFault?_eq _), ?_, ?_⟩
    · rw [respond_of_hear_ok hheard hle, if_pos hpatience]
    · rw [(hanswers.sent hpatience).taken_eq,
        Writer.accepts_of_barrier_eq_none hwriter.barrier_eq]
  · rintro fault rfl
    exact respond_of_hear_error hheard hle writer transcript

/-- The sum of the pauses before the first line is complete decides: if it keeps the limit,
or there is none, then the line, the end or the fault is there at just this time, and the
reply follows after its delay, however long. Else the exchange ends at the limit, with
nothing printed or written, whatever has come before. So a higher limit spoils nothing, and
one that is kept is as good as none. -/
theorem respond_deadline (responder : Responder) (script : Script) (writer : Writer)
    (transcript : Transcript) (hwriter : writer.FaultFree) :
    (∀ heard, script.lineTime = some heard →
      (∀ limit, responder.readTimeout = some limit → heard ≤ limit) →
      ∃ answer rest, script.stream.next? = some (answer, rest) ∧
        responder.hear script = .ready heard answer ∧
        ∀ patience, heard + responder.replyDelay ≤ patience →
          responder.Concludes heard answer writer transcript
            (responder.respond patience script writer transcript)) ∧
    (∀ limit, responder.readTimeout = some limit →
      (∀ heard, script.lineTime = some heard → limit < heard) →
      ∃ fault : Fault, fault.kind = .timedOut ∧
        fault.message = "timed out after " ++ toString limit ++ "ms" ∧
        ∀ patience, limit ≤ patience →
          responder.respond patience script writer transcript =
            ⟨.ready limit (.error fault), transcript, writer⟩) ∧
    (responder.readTimeout = none → script.lineTime = none → ∀ patience,
      responder.respond patience script writer transcript = ⟨.never, transcript, writer⟩) ∧
    (∀ limit higher patience after request, limit ≤ higher →
      ((responder.within (some limit)).respond patience script writer transcript).outcome =
        .ready after (.ok request) →
      (responder.within (some higher)).respond patience script writer transcript =
        (responder.within (some limit)).respond patience script writer transcript) ∧
    ∀ heard limit, script.lineTime = some heard → heard ≤ limit → ∀ patience,
      (responder.within (some limit)).respond patience script writer transcript =
        (responder.within none).respond patience script writer transcript := by
  refine ⟨?_, ?_, ?_, ?_, ?_⟩
  · intro heard htime hintime
    obtain ⟨answer, rest, hnext, hheard⟩ := hear_of_le htime hintime
    exact ⟨answer, rest, hnext, hheard, fun patience hpatience =>
      concludes_respond hwriter hheard hpatience transcript⟩
  · intro limit hlimit hlate
    refine ⟨.timedOut limit, Fault.kind_timedOut limit, Fault.message_timedOut limit, ?_⟩
    intro patience hpatience
    exact respond_of_hear_error (hear_of_lt hlimit hlate) hpatience writer transcript
  · intro hlimit htime patience
    have hnever : (responder.hear script).within patience = .never := by
      rw [hear_of_silent hlimit htime]
      rfl
    exact respond_of_never hnever writer transcript
  · intro limit higher patience after request hle houtcome
    obtain ⟨heard, hheard⟩ := hear_of_respond_ok houtcome
    obtain ⟨htime, hkept⟩ := lineTime_of_hear_ok rfl hheard
    apply respond_congr
    rw [hear_within_of_le htime (hkept.trans hle), hear_within_of_le htime hkept]
  · intro heard limit htime hle patience
    exact respond_congr (hear_within_of_le htime hle) patience writer transcript

/-- A peer that sends a byte every four milliseconds. -/
def drippingScript : Script :=
  [.data [0x61], .wait 4, .data [0x62], .wait 4, .data [0x63], .wait 4, .data [0x0A, 0x64]]

theorem respond_deadline_dripping : Writer.FaultFree {} ∧
    (sampleResponder.within (some 12)).respond 30 drippingScript {} {} =
      (sampleResponder.within none).respond 30 drippingScript {} {} ∧
    ((sampleResponder.within (some 12)).respond 30 drippingScript {} {}).outcome =
      .ready 19 (.ok (some "abc")) ∧
    ∃ fault : Fault, fault.message = "timed out after 11ms" ∧
      (sampleResponder.within (some 11)).respond 30 drippingScript {} {} =
        ⟨.ready 11 (.error fault), {}, {}⟩ := by
  have hwriter : Writer.FaultFree {} := ⟨fun _ => nofun, rfl, rfl, rfl⟩
  have htime : drippingScript.lineTime = some 12 := by decide
  obtain ⟨hintime, -, -, -, hsame⟩ :=
    respond_deadline (sampleResponder.within (some 12)) drippingScript {} {} hwriter
  obtain ⟨-, hlate, -⟩ :=
    respond_deadline (sampleResponder.within (some 11)) drippingScript {} {} hwriter
  obtain ⟨answer, rest, hnext, -, hconcludes⟩ := hintime 12 htime (by rintro _ ⟨⟩; decide)
  obtain ⟨fault, -, hmessage, hends⟩ := hlate 11 rfl (by
    intro heard hheard
    cases htime.symm.trans hheard
    decide)
  refine ⟨hwriter, hsame 12 12 htime le_rfl 30, ?_, fault, hmessage, hends 30 (by decide)⟩
  have hanswer : drippingScript.stream.next? =
      some (.ok (some "abc"), [Wire.Symbol.byte 0x64]) := by decide +kernel
  cases hnext.symm.trans hanswer
  exact ((hconcludes 30 (by decide)).of_ok _ rfl).1

end Responder

end LineGreeting
