import LineGreeting.Proofs.Exchange.Hearing
import LineGreeting.Proofs.Server.Moves
import LineGreeting.Proofs.Server.Ledger

/-! # One exchange step by step

A server takes an exchange step by step and sees of its peer only what has come by then. The
responder has the exchange as a whole and is told beforehand all that its peer will do, and
when. As long as the steps are taken on time both agree about how far the exchange is, and
the step that ends it ends it as the responder does.
-/

namespace LineGreeting.Server

open Wire (Script)

variable {setup : Setup} {connection : Connection} {step : Advance}
variable {since elapsed pause : Nat} {script : Script} {bytes : Bytes}
variable {outcome : Except Fault (Option String)}

/-! ## What a connection says of its peer -/

namespace Connection

/-- What the reader has met of the peer by now, if nothing has been read yet. -/
def met (connection : Connection) : Script :=
  connection.arrived.map .data ++
    match connection.peerEnd with
    | .sending => []
    | .finished | .closed => [.data []]
    | .reset => [.fault (.system .connectionReset)]

/-- Whether what has been read of the peer is what a script gives in some time, be it a line
or only the beginning of one. -/
inductive Awaits (script : Script) (time : Nat) (connection : Connection) : Prop
  | begun (hbegins : script.Begins time connection.arrived.flatten)
      (hpieces : [] ∉ connection.arrived) (hsending : connection.peerEnd = .sending) :
      Awaits script time connection
  | complete {answer : Wire.Answer} {left : Wire.Stream}
      (hcompletes : script.Completes time answer)
      (hnext : connection.script.stream.next? = some (answer, left)) :
      Awaits script time connection

theorem awaits_of_closed (hbegins : script.Begins elapsed connection.arrived.flatten)
    (hpieces : [] ∉ connection.arrived)
    (hend : connection.peerEnd = .finished ∨ connection.peerEnd = .closed) :
    connection.Awaits (script ++ [.data []]) elapsed := by
  have hscript : connection.script = connection.arrived.map .data ++ [] := by
    rcases hend with hend | hend <;> rw [Connection.script, hend]
  have hnext : connection.script.stream.next? =
      some (.ok (Wire.lineOf connection.arrived.flatten), []) := by
    rw [hscript, Script.stream_pieces hpieces]
    exact (List.append_nil _).symm ▸ Wire.Stream.next?_bytes hbegins.newline_not_mem
  exact .complete hbegins.close hnext

theorem awaits_of_reset (hbegins : script.Begins elapsed connection.arrived.flatten)
    (hpieces : [] ∉ connection.arrived) (hend : connection.peerEnd = .reset) :
    connection.Awaits (script ++ [.fault (.system .connectionReset)]) elapsed := by
  have hscript : connection.script =
      connection.arrived.map .data ++ [.fault (.system .connectionReset)] := by
    rw [Connection.script, hend]
  have hnext : connection.script.stream.next? =
      some (.error (.system .connectionReset), []) := by
    rw [hscript, Script.stream_pieces hpieces]
    exact Wire.Stream.next?_bytes_append_cons hbegins.newline_not_mem rfl []
  exact .complete (hbegins.fault _) hnext

theorem awaits_met (hpieces : [] ∉ connection.arrived) : connection.Awaits connection.met 0 := by
  rcases Script.begins_or_completes connection.arrived hpieces with
    hbegins | ⟨answer, hcompletes⟩
  · cases hend : connection.peerEnd with
    | sending =>
        rw [met, hend]
        exact .begun ((List.append_nil _).symm ▸ hbegins) hpieces hend
    | finished =>
        rw [met, hend]
        exact awaits_of_closed hbegins hpieces (.inl hend)
    | closed =>
        rw [met, hend]
        exact awaits_of_closed hbegins hpieces (.inr hend)
    | reset =>
        rw [met, hend]
        exact awaits_of_reset hbegins hpieces hend
  · obtain ⟨left, hnext⟩ := hcompletes.next?_append _
    exact .complete (hcompletes.append _) hnext

namespace Awaits

variable {after : Nat} {answer : Wire.Answer} {rest : Wire.Reader}

theorem completes_of_ready (hawaits : connection.Awaits script elapsed)
    (hread : Wire.Reader.readLine { script := connection.script } = .ready after (answer, rest)) :
    script.Completes elapsed answer := by
  have hstream := Wire.Reader.readLine_eq_next?_of_script connection.script
  rw [hread] at hstream
  cases hawaits with
  | begun hbegins hpieces hsending =>
      rw [Connection.script, hsending, Script.stream_pieces hpieces, Script.stream,
        Wire.Stream.next?_bytes_append_cons hbegins.newline_not_mem rfl] at hstream
      cases hstream
  | complete hcompletes hnext =>
      cases hstream.trans hnext
      exact hcompletes

/-- A line that cannot be read yet has only begun. -/
theorem begins_of_never (hawaits : connection.Awaits script elapsed)
    (hread : Wire.Reader.readLine { script := connection.script } = .never) :
    script.Begins elapsed connection.arrived.flatten ∧ [] ∉ connection.arrived ∧
      connection.peerEnd = .sending := by
  cases hawaits with
  | begun hbegins hpieces hsending => exact ⟨hbegins, hpieces, hsending⟩
  | complete hcompletes hnext =>
      have hstream := Wire.Reader.readLine_eq_next?_of_script connection.script
      rw [hread, hnext] at hstream
      cases hstream

end Awaits

theorem awaits_send (hbegins : script.Begins elapsed connection.arrived.flatten)
    (hpieces : [] ∉ connection.arrived) (hsending : connection.peerEnd = .sending)
    (hstage : connection.stage = .reading since) (hbytes : bytes ≠ []) :
    (connection.send bytes).Awaits (script ++ [.data bytes]) elapsed := by
  have hsend : connection.send bytes =
      { connection with arrived := connection.arrived ++ [bytes] } := by
    rw [send, if_neg (by simp [hsending, hbytes]), hstage]
  have hall : [] ∉ connection.arrived ++ [bytes] := by
    rw [List.mem_append, not_or, List.mem_singleton]
    exact ⟨hpieces, Ne.symm hbytes⟩
  have hflatten : (connection.arrived ++ [bytes]).flatten = connection.arrived.flatten ++ bytes := by
    rw [List.flatten_append, List.flatten_singleton]
  rw [hsend]
  by_cases hnewline : Wire.newline ∈ bytes
  · obtain ⟨answer, hcompletes, hline⟩ := hbegins.line hnewline
    obtain ⟨left, hleft⟩ := hline [.silence]
    have hnext : Wire.Stream.next? (Script.stream
        ((connection.arrived ++ [bytes]).map .data ++ [.silence])) = some (answer, left) := by
      rw [Script.stream_pieces hall, hflatten]
      exact hleft
    refine .complete hcompletes (?_ : _ = some (answer, left))
    rw [Connection.script, hsending]
    exact hnext
  · refine .begun ?_ hall hsending
    dsimp only
    rw [hflatten]
    exact hbegins.data hbytes hnewline

theorem room_send (connection : Connection) (bytes : Bytes) :
    (connection.send bytes).room = connection.room := by
  rw [send]
  split
  · rfl
  · split <;> rfl

theorem room_finish (connection : Connection) : connection.finish.room = connection.room := by
  rw [finish]
  split <;> rfl

theorem room_close (hroom : connection.room = none) : connection.close.room = none := by
  rw [close]
  split
  · exact hroom
  · split
    · exact hroom
    · rfl

theorem room_reset (connection : Connection) : connection.reset.room = connection.room := by
  rw [reset]
  split <;> rfl

theorem allow_none (hroom : connection.room = none) : connection.allow none = connection := by
  rw [allow, ← hroom]

/-! ## How far an exchange is -/

/-- What is there of an exchange some time after the connection was accepted, by what its reader
has met since then. -/
inductive Progresses (setup : Setup) (since : Nat) (script : Script) (elapsed : Nat)
    (connection : Connection) : Prop
  | accepted (hstage : connection.stage = .accepted) (hstart : elapsed = 0)
      (hawaits : connection.Awaits script 0) :
      Progresses setup since script elapsed connection
  | reading (hstage : connection.stage = .reading since)
      (hintime : ∀ limit, setup.responder.readTimeout = some limit → elapsed ≤ limit)
      (hawaits : connection.Awaits script elapsed) :
      Progresses setup since script elapsed connection
  | replying {request : Option String} {heard : Nat}
      (hstage : connection.stage = .replying request (since + heard))
      (hintime : ∀ limit, setup.responder.readTimeout = some limit → heard ≤ limit)
      (hcompletes : script.Completes heard (.ok request)) (hheard : heard ≤ elapsed)
      (hdue : elapsed ≤ heard + setup.responder.replyDelay) :
      Progresses setup since script elapsed connection

/-- Whether an exchange is under way with a peer that takes up whatever it is sent, and has not
been sent anything yet. -/
structure UnderWay (setup : Setup) (since : Nat) (script : Script) (elapsed : Nat)
    (connection : Connection) : Prop where
  room_eq : connection.room = none
  sent_eq : connection.sent = []
  progresses : connection.Progresses setup since script elapsed

/-- Whether the responder comes to an outcome just then with a peer that gives a script and then
nothing more. It prints some lines, the one that announces the peer in front, and leaves a
writer behind. -/
def Responds (setup : Setup) (script : Script) (elapsed : Nat)
    (outcome : Except Fault (Option String)) (lines : List String) (writer : Wire.Writer)
    (connection : Connection) : Prop :=
  ∀ patience transcript, elapsed ≤ patience →
    setup.responder.respond patience (script ++ [.silence]) connection.writer
        (transcript.line (setup.announcement connection.peer)) =
      ⟨.ready elapsed outcome, lines.foldl Transcript.line transcript, writer⟩

theorem responds_of_fault {fault : Fault}
    (hheard : setup.responder.hear (script ++ [.silence]) = .ready elapsed (.error fault)) :
    connection.Responds setup script elapsed (.error fault)
      [setup.announcement connection.peer] connection.writer := by
  intro patience transcript hpatience
  exact Responder.respond_of_hear_error hheard hpatience _ _

theorem responds_of_reply {request : Option String} {heard : Nat} {result : Except Fault Unit}
    {writer : Wire.Writer} (hcompletes : script.Completes heard (.ok request))
    (hintime : ∀ limit, setup.responder.readTimeout = some limit → heard ≤ limit)
    (htime : heard + setup.responder.replyDelay = elapsed)
    (hanswer : setup.responder.answer connection.writer = (result, writer)) :
    connection.Responds setup script elapsed (result.map fun _ => request)
      [setup.announcement connection.peer, Wire.received request] writer := by
  intro patience transcript hpatience
  have hheard := Responder.hear_of_completes hcompletes hintime [.silence]
  have hle : heard ≤ patience := by omega
  rw [Responder.respond_of_hear_ok hheard hle, htime, if_pos hpatience, hanswer]
  rfl

namespace UnderWay

theorem stage_ne_waiting (hunderWay : connection.UnderWay setup since script elapsed) :
    connection.stage ≠ .waiting := by
  intro hwaiting
  cases hunderWay.progresses with
  | accepted hstage | reading hstage | replying hstage => cases hwaiting.symm.trans hstage

theorem stage_ne_concluded (hunderWay : connection.UnderWay setup since script elapsed)
    (outcome : Except Fault (Option String)) : connection.stage ≠ .concluded outcome := by
  intro hconcluded
  cases hunderWay.progresses with
  | accepted hstage | reading hstage | replying hstage => cases hconcluded.symm.trans hstage

/-- Each step takes the exchange on, up to the one that ends it. -/
theorem advance (hunderWay : connection.UnderWay setup since script elapsed)
    (hstep : connection.advance? setup (since + elapsed) = some step) :
    step.connection.UnderWay setup since script elapsed ∨ step.connection.isOver = true := by
  obtain ⟨hroom, hsent, hprogresses⟩ := hunderWay
  cases advance_cases hstep with
  | announce hstage =>
      left
      cases hprogresses with
      | accepted _ hstart hawaits =>
          subst hstart
          refine ⟨hroom, hsent, .reading rfl (fun _ _ => Nat.zero_le _) ?_⟩
          cases hawaits with
          | begun hbegins hpieces hsending => exact .begun hbegins hpieces hsending
          | complete hcompletes hnext => exact .complete hcompletes hnext
      | reading hother | replying hother => cases hstage.symm.trans hother
  | hear hstage hread =>
      left
      cases hprogresses with
      | reading _ hintime hawaits =>
          exact ⟨hroom, hsent, .replying rfl hintime (hawaits.completes_of_ready hread) le_rfl
            (Nat.le_add_right _ _)⟩
      | accepted hother | replying hother => cases hstage.symm.trans hother
  | push hstage hdue hlimit =>
      obtain ⟨-, hsome, -⟩ := limit?_eq_some_iff.mp hlimit
      cases hroom.symm.trans hsome
  | lose | expire | reply => exact .inr rfl

theorem taken_writer (connection : Connection) : connection.writer.taken = #[] := by
  unfold writer
  split <;> rfl

/-- The step that ends the exchange ends it as the responder does that knew all along what the
reader would meet. -/
theorem responds (hunderWay : connection.UnderWay setup since script elapsed)
    (hstep : connection.advance? setup (since + elapsed) = some step)
    (hend : step.connection.stage = .concluded outcome) {lines : List String}
    (hshows : connection.Shows setup lines) :
    ∃ writer : Wire.Writer, writer.taken.toList = step.connection.sent ∧
      connection.Responds setup script elapsed outcome lines writer := by
  obtain ⟨-, hsent, hprogresses⟩ := hunderWay
  have hunsent : connection.writer.taken.toList = connection.sent := by
    rw [taken_writer, hsent]
  cases advance_cases hstep with
  | announce | hear => cases hend
  | push hstage =>
      dsimp only at hend
      cases hstage.symm.trans hend
  | lose hstage hread =>
      cases hend
      cases hprogresses with
      | reading _ hintime hawaits =>
          rw [Shows, hstage] at hshows
          subst hshows
          have hcompletes := hawaits.completes_of_ready hread
          exact ⟨_, hunsent, responds_of_fault (Responder.hear_of_completes hcompletes hintime _)⟩
      | accepted hother | replying hother => cases hstage.symm.trans hother
  | @expire begun limit hstage hread hlimit hdue =>
      cases hend
      cases hprogresses with
      | reading hbegun hintime hawaits =>
          rw [Shows, hstage] at hshows
          subst hshows
          cases hstage.symm.trans hbegun
          -- Nothing that is due was passed, so the deadline is now.
          have htime : limit = elapsed :=
            Nat.le_antisymm (Nat.le_of_add_le_add_left hdue) (hintime limit hlimit)
          have hbegins := (hawaits.begins_of_never hread).1
          exact ⟨_, hunsent, responds_of_fault (htime ▸ Responder.hear_of_begins hbegins hlimit)⟩
      | accepted hother | replying hother => cases hstage.symm.trans hother
  | @reply begun request result writer hstage hdue hlimit hanswer =>
      cases hend
      cases hprogresses with
      | @replying _ heard hbegun hintime hcompletes _ hlast =>
          rw [Shows, hstage] at hshows
          subst hshows
          cases hstage.symm.trans hbegun
          have htime : heard + setup.responder.replyDelay = elapsed := by omega
          exact ⟨writer, rfl, responds_of_reply hcompletes hintime htime hanswer⟩
      | accepted hother | reading hother => cases hstage.symm.trans hother

/-- At rest the request is not there yet and not late, or the reply is not due. -/
theorem cases_of_rest (hunderWay : connection.UnderWay setup since script elapsed)
    (hrest : connection.advance? setup (since + elapsed) = none) :
    (connection.stage = .reading since ∧
      (∀ limit, setup.responder.readTimeout = some limit → elapsed < limit) ∧
      script.Begins elapsed connection.arrived.flatten ∧ [] ∉ connection.arrived ∧
      connection.peerEnd = .sending) ∨
    ∃ request heard, connection.stage = .replying request (since + heard) ∧
      (∀ limit, setup.responder.readTimeout = some limit → heard ≤ limit) ∧
      script.Completes heard (.ok request) ∧ heard ≤ elapsed ∧
      elapsed < heard + setup.responder.replyDelay := by
  obtain ⟨hroom, -, hprogresses⟩ := hunderWay
  cases hprogresses with
  | accepted hstage => simp [advance?, hstage] at hrest
  | reading hstage hintime hawaits =>
      left
      simp only [advance?, hstage] at hrest
      split at hrest
      · cases hrest
      · cases hrest
      next hread =>
        refine ⟨hstage, fun limit hlimit => ?_, hawaits.begins_of_never hread⟩
        simp only [hlimit, Nat.add_le_add_iff_left] at hrest
        split at hrest
        · cases hrest
        next hearly => exact Nat.not_le.mp hearly
  | @replying request heard hstage hintime hcompletes hheard hdue =>
      refine .inr ⟨request, heard, hstage, hintime, hcompletes, hheard, Nat.not_le.mp fun hlate => ?_⟩
      have hlimit (line : Bytes) : connection.limit? line = none := by
        rw [limit?, hroom]
        cases connection.peerEnd <;> rfl
      simp [advance?, hstage, hlimit, Nat.add_assoc, hlate] at hrest

theorem wait (hunderWay : connection.UnderWay setup since script elapsed)
    (hrest : connection.advance? setup (since + elapsed) = none)
    (hquiet : ∀ due, connection.alarm? setup = some due → since + elapsed < due →
      since + elapsed + pause ≤ due) :
    connection.UnderWay setup since (script ++ [.wait pause]) (elapsed + pause) := by
  refine ⟨hunderWay.room_eq, hunderWay.sent_eq, ?_⟩
  rcases hunderWay.cases_of_rest hrest with
    ⟨hstage, hintime, hbegins, hpieces, hsending⟩ |
      ⟨request, heard, hstage, hintime, hcompletes, hheard, hdue⟩
  · refine .reading hstage (fun limit hlimit => ?_)
      (.begun (hbegins.wait pause) hpieces hsending)
    have hless := hintime limit hlimit
    have hle := hquiet (since + limit) (by simp [alarm?, hstage, hlimit]) (by omega)
    omega
  · -- The reply is an alarm too, so its time is not passed either.
    have hle := hquiet (since + heard + setup.responder.replyDelay) (by simp [alarm?, hstage])
      (by omega)
    exact .replying hstage hintime (hcompletes.append _) (by omega) (by omega)

/-- What the peer does at rest the reader meets, if it still reads. -/
theorem meet {later : Connection} {met : Script}
    (hunderWay : connection.UnderWay setup since script elapsed)
    (hrest : connection.advance? setup (since + elapsed) = none) (hlike : connection.Like later)
    (hroom : later.room = none)
    (hawaits : connection.stage = .reading since → script.Begins elapsed connection.arrived.flatten →
      [] ∉ connection.arrived → connection.peerEnd = .sending →
      later.Awaits (script ++ met) elapsed) :
    later.UnderWay setup since (script ++ met) elapsed := by
  refine ⟨hroom, hlike.sent.trans hunderWay.sent_eq, ?_⟩
  rcases hunderWay.cases_of_rest hrest with
    ⟨hstage, hintime, hbegins, hpieces, hsending⟩ |
      ⟨request, heard, hstage, hintime, hcompletes, hheard, hdue⟩
  · exact .reading (hlike.stage.trans hstage) (fun limit hlimit => (hintime limit hlimit).le)
      (hawaits hstage hbegins hpieces hsending)
  · exact .replying (hlike.stage.trans hstage) hintime (hcompletes.append _) hheard hdue.le

theorem send (hunderWay : connection.UnderWay setup since script elapsed)
    (hrest : connection.advance? setup (since + elapsed) = none) (hbytes : bytes ≠ []) :
    (connection.send bytes).UnderWay setup since (script ++ [.data bytes]) elapsed := by
  have hroom := (room_send connection bytes).trans hunderWay.room_eq
  exact hunderWay.meet hrest (like_send connection bytes) hroom
    fun hstage hbegins hpieces hsending => awaits_send hbegins hpieces hsending hstage hbytes

theorem finish (hunderWay : connection.UnderWay setup since script elapsed)
    (hrest : connection.advance? setup (since + elapsed) = none) :
    connection.finish.UnderWay setup since (script ++ [.data []]) elapsed := by
  have hroom := (room_finish connection).trans hunderWay.room_eq
  refine hunderWay.meet hrest connection.like_finish hroom fun _ hbegins hpieces hsending => ?_
  rw [Connection.finish, if_pos hsending]
  exact awaits_of_closed hbegins hpieces (.inl rfl)

theorem close (hunderWay : connection.UnderWay setup since script elapsed)
    (hrest : connection.advance? setup (since + elapsed) = none) :
    connection.close.UnderWay setup since (script ++ [.data []]) elapsed := by
  have hroom := room_close hunderWay.room_eq
  refine hunderWay.meet hrest connection.like_close hroom fun _ hbegins hpieces hsending => ?_
  rw [Connection.close, if_neg (by simp [hsending]), if_neg (by simp [hunderWay.sent_eq])]
  exact awaits_of_closed hbegins hpieces (.inr rfl)

theorem reset (hunderWay : connection.UnderWay setup since script elapsed)
    (hrest : connection.advance? setup (since + elapsed) = none) :
    connection.reset.UnderWay setup since
      (script ++ [.fault (.system .connectionReset)]) elapsed := by
  have hroom := (room_reset connection).trans hunderWay.room_eq
  refine hunderWay.meet hrest connection.like_reset hroom fun _ hbegins hpieces hsending => ?_
  rw [Connection.reset, if_neg (by simp [hsending])]
  exact awaits_of_reset hbegins hpieces rfl

end UnderWay

/-- Whether a connection is in the queue, with a peer that takes up whatever it is sent. -/
structure Queued (connection : Connection) : Prop where
  stage_eq : connection.stage = .waiting
  room_eq : connection.room = none
  sent_eq : connection.sent = []
  pieces : [] ∉ connection.arrived

namespace Queued

theorem send (hqueued : connection.Queued) (bytes : Bytes) : (connection.send bytes).Queued := by
  have hlike := connection.like_send bytes
  refine ⟨hlike.stage.trans hqueued.stage_eq, (room_send connection bytes).trans hqueued.room_eq,
    hlike.sent.trans hqueued.sent_eq, ?_⟩
  rw [Connection.send]
  split
  · exact hqueued.pieces
  next hsending =>
    rw [hqueued.stage_eq]
    simp_all

theorem finish (hqueued : connection.Queued) : connection.finish.Queued := by
  have hlike := connection.like_finish
  refine ⟨hlike.stage.trans hqueued.stage_eq, (room_finish connection).trans hqueued.room_eq,
    hlike.sent.trans hqueued.sent_eq, ?_⟩
  rw [Connection.finish]
  split <;> exact hqueued.pieces

theorem close (hqueued : connection.Queued) : connection.close.Queued := by
  have hlike := connection.like_close
  refine ⟨hlike.stage.trans hqueued.stage_eq, room_close hqueued.room_eq,
    hlike.sent.trans hqueued.sent_eq, ?_⟩
  rw [Connection.close]
  split
  · exact hqueued.pieces
  · split <;> exact hqueued.pieces

theorem reset (hqueued : connection.Queued) : connection.reset.Queued := by
  have hlike := connection.like_reset
  refine ⟨hlike.stage.trans hqueued.stage_eq, (room_reset connection).trans hqueued.room_eq,
    hlike.sent.trans hqueued.sent_eq, ?_⟩
  rw [Connection.reset]
  split <;> exact hqueued.pieces

end Queued

/-- Accepted, it has met what has come while it was in the queue. -/
theorem Queued.underWay (hqueued : connection.Queued) :
    { connection with stage := .accepted }.UnderWay setup since connection.met 0 := by
  refine ⟨hqueued.room_eq, hqueued.sent_eq, .accepted rfl rfl ?_⟩
  exact @awaits_met { connection with stage := .accepted } hqueued.pieces

end Connection

end LineGreeting.Server
