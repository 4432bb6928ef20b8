import LineGreeting.Proofs.Server.OnTime
import LineGreeting.Proofs.Server.UnderWay

/-! # Exchanges of a server and of its responder

A server takes the steps of all its exchanges in between each other. What its responder has is
one exchange by itself. In a run they come to the same: an exchange that is over is the one
that the responder has with a peer that gives what the reader met of this peer, from when the
connection was accepted to when the exchange was over, pauses included.
-/

namespace LineGreeting.Server

open Relation (ReflTransGen)
open Wire (Script)

variable {setup : Setup} {server next first last : Server} {connection : Connection}
variable {slots index since elapsed : Nat} {script : Script} {event : Event} {step : Advance}
variable {outcome : Except Fault (Option String)}

/-! ## Among all connections -/

/-- What an event does to the connection at some place. -/
def Event.change (index : Nat) (event : Event) (connection : Connection) : Connection :=
  match event with
  | .send place bytes => if place = index then connection.send bytes else connection
  | .finish place => if place = index then connection.finish else connection
  | .close place => if place = index then connection.close else connection
  | .reset place => if place = index then connection.reset else connection
  | .allow place room => if place = index then connection.allow room else connection
  | .connect _ | .wait _ | .stop | .starve | .feed | .refuse _ => connection

/-- What the reader of the connection at some place meets of an event. -/
def Event.met (index : Nat) : Event → Script
  | .send place bytes => if place = index ∧ bytes ≠ [] then [.data bytes] else []
  | .finish place | .close place => if place = index then [.data []] else []
  | .reset place => if place = index then [.fault (.system .connectionReset)] else []
  | .wait pause => [.wait pause]
  | .connect _ | .allow .. | .stop | .starve | .feed | .refuse _ => []

theorem getElem?_modify_eq_some (change : Connection → Connection) (place : Nat)
    (hget : server.connections[index]? = some connection) :
    (server.modify place change).connections[index]? =
      some (if place = index then change connection else connection) := by
  rw [modify]
  by_cases hplace : place = index
  · rw [hplace, List.getElem?_modify_eq, hget, if_pos rfl]
    rfl
  · rw [List.getElem?_modify_ne _ _ hplace, hget, if_neg hplace]

theorem getElem?_apply (event : Event) (hget : server.connections[index]? = some connection) :
    (event.apply server).connections[index]? = some (event.change index connection) := by
  cases event with
  | connect peer =>
      have hlength := (List.getElem?_eq_some_iff.mp hget).1
      exact (List.getElem?_append_left hlength).trans hget
  | send place bytes => exact getElem?_modify_eq_some _ place hget
  | finish place => exact getElem?_modify_eq_some _ place hget
  | close place => exact getElem?_modify_eq_some _ place hget
  | reset place => exact getElem?_modify_eq_some _ place hget
  | allow place room => exact getElem?_modify_eq_some _ place hget
  | wait | stop | starve | feed | refuse => exact hget

theorem linesOf_apply (event : Event) (server : Server) (index : Nat) :
    (event.apply server).linesOf index = server.linesOf index := by
  cases event <;> rfl

theorem Event.change_like (event : Event) (index : Nat) (connection : Connection) :
    connection.Like (event.change index connection) := by
  have hsame : connection.Like connection := ⟨rfl, rfl, rfl⟩
  have hsplit (place : Nat) {other : Connection} (hother : connection.Like other) :
      connection.Like (if place = index then other else connection) := by
    split
    · exact hother
    · exact hsame
  cases event with
  | send place bytes => exact hsplit place (connection.like_send bytes)
  | finish place => exact hsplit place connection.like_finish
  | close place => exact hsplit place connection.like_close
  | reset place => exact hsplit place connection.like_reset
  | allow place room => exact hsplit place (connection.like_allow room)
  | connect | wait | stop | starve | feed | refuse => exact hsame

theorem Event.change_allow (hroom : connection.room = none) {place : Nat} {room : Option Nat}
    (htaken : ∀ count, Event.allow place room ≠ .allow index (some count)) :
    (Event.allow place room).change index connection = connection := by
  rw [change]
  split
  next hplace =>
    cases room with
    | none => exact Connection.allow_none hroom
    | some count => exact absurd (hplace ▸ rfl) (htaken count)
  next => rfl

theorem Connection.Queued.change (hqueued : connection.Queued)
    (htaken : ∀ room, event ≠ .allow index (some room)) :
    (event.change index connection).Queued := by
  have hsplit (place : Nat) {other : Connection} (hother : other.Queued) :
      (if place = index then other else connection).Queued := by
    split
    · exact hother
    · exact hqueued
  cases event with
  | send place bytes => exact hsplit place (hqueued.send bytes)
  | finish place => exact hsplit place hqueued.finish
  | close place => exact hsplit place hqueued.close
  | reset place => exact hsplit place hqueued.reset
  | allow place room => exact (Event.change_allow hqueued.room_eq htaken).symm ▸ hqueued
  | connect | wait | stop | starve | feed | refuse => exact hqueued

/-- What happens at rest, or only bears on whether clients can be accepted, is what the reader
meets of it. -/
theorem Connection.UnderWay.change (hunderWay : connection.UnderWay setup since script elapsed)
    (hget : server.connections[index]? = some connection) (hnow : server.now = since + elapsed)
    (hrest : event.feeds = false → AtRest setup server)
    (hquiet : ∀ pause, event = .wait pause → ∀ due, server.nextAlarm? setup = some due →
      server.now + pause ≤ due)
    (htaken : ∀ room, event ≠ .allow index (some room)) :
    ∃ later, (event.apply server).now = since + later ∧
      (event.change index connection).UnderWay setup since (script ++ event.met index) later := by
  have hstays : connection.UnderWay setup since (script ++ []) elapsed :=
    (List.append_nil script).symm ▸ hunderWay
  have hnone (hfeeds : event.feeds = false) : connection.advance? setup (since + elapsed) = none :=
    hnow ▸ (hrest hfeeds).advance?_eq_none hget
  -- What happens to another connection is nothing to this one.
  have hsplit (place : Nat) {later : Connection} {met : Script}
      (hlater : later.UnderWay setup since (script ++ met) elapsed) :
      (if place = index then later else connection).UnderWay setup since
        (script ++ if place = index then met else []) elapsed := by
    by_cases hplace : place = index
    · rw [if_pos hplace, if_pos hplace]
      exact hlater
    · rw [if_neg hplace, if_neg hplace]
      exact hstays
  cases event with
  | connect | stop | starve | feed | refuse => exact ⟨elapsed, hnow, hstays⟩
  | send place bytes =>
      refine ⟨elapsed, hnow, ?_⟩
      rw [Event.change, Event.met]
      by_cases hbytes : bytes = []
      · have hsame : connection.send bytes = connection := by
          rw [Connection.send, if_pos (.inr hbytes)]
        rw [if_neg (by simp [hbytes]), hsame, ite_self]
        exact hstays
      · simp only [ne_eq, hbytes, not_false_eq_true, and_true]
        exact hsplit place (hunderWay.send (hnone rfl) hbytes)
  | finish place => exact ⟨elapsed, hnow, hsplit place (hunderWay.finish (hnone rfl))⟩
  | close place => exact ⟨elapsed, hnow, hsplit place (hunderWay.close (hnone rfl))⟩
  | reset place => exact ⟨elapsed, hnow, hsplit place (hunderWay.reset (hnone rfl))⟩
  | allow place room =>
      refine ⟨elapsed, hnow, ?_⟩
      rw [Event.change_allow hunderWay.room_eq htaken]
      exact hstays
  | wait pause =>
      refine ⟨elapsed + pause, ?_, hunderWay.wait (hnone rfl) fun due halarm hless => ?_⟩
      · exact (congrArg (· + pause) hnow).trans (Nat.add_assoc ..)
      · rw [← hnow] at hless ⊢
        refine le_of_quiet (hquiet pause rfl) ?_ hless
        exact List.mem_append_right _
          (List.mem_filterMap.mpr ⟨connection, List.mem_of_getElem? hget, halarm⟩)

/-- What a step of a server is to the connection at some place. -/
inductive StepAt (setup : Setup) (index : Nat) (server next : Server) : Prop
  /-- Another connection or the loop takes it. -/
  | aside (hconnection : next.connections[index]? = server.connections[index]?)
      (hlines : next.linesOf index = server.linesOf index)
  | accept {connection : Connection} (hget : server.connections[index]? = some connection)
      (hstage : connection.stage = .waiting)
      (hnext : next.connections[index]? = some { connection with stage := .accepted })
  | advance {connection : Connection} {step : Advance}
      (hget : server.connections[index]? = some connection)
      (hstep : connection.advance? setup server.now = some step)
      (hnext : next.connections[index]? = some step.connection)
      (hlines : next.linesOf index = server.linesOf index ++ step.printed.toList)

theorem Works.stepAt (hworks : Works setup server next) (index : Nat) :
    StepAt setup index server next := by
  cases hworks with
  | loop hloop =>
      obtain ⟨after, races, hafter, rfl⟩ := loop_cases hloop
      cases hafter with
      | @accept place _ hwaiting =>
          obtain ⟨hlength, hfirst, -⟩ := List.findIdx?_eq_some_iff_getElem.mp hwaiting
          by_cases hplace : place = index
          · subst hplace
            refine .accept (List.getElem?_eq_getElem hlength) (Stage.isWaiting_iff.mp hfirst) ?_
            dsimp only
            rw [connections_accept, List.getElem?_modify_eq, List.getElem?_eq_getElem hlength]
            rfl
          · refine .aside ?_ (linesOf_accept setup place server index)
            dsimp only
            rw [connections_accept, List.getElem?_modify_ne _ _ hplace]
      | takeSlot | refuse | starve | shutDown | turn | retry | giveUp => exact .aside rfl rfl
  | @exchange place connection step hget hstep =>
      by_cases hplace : place = index
      · subst hplace
        refine .advance hget hstep ?_ ?_
        · rw [connections_proceed, List.getElem?_modify_eq, hget]
          rfl
        · rw [linesOf_proceed, if_pos rfl]
      · refine .aside ?_ ?_
        · rw [connections_proceed, List.getElem?_modify_ne _ _ hplace]
        · rw [linesOf_proceed, if_neg hplace, List.append_nil]

/-! ## Exchanges in a run -/

/-- Moves on time, and what the reader of the connection at some place meets on the way. Its peer
takes up whatever it is sent. -/
inductive Attends (setup : Setup) (index : Nat) (first : Server) : Script → Server → Prop
  | refl : Attends setup index first [] first
  | works {script : Script} {server next : Server} (hattends : Attends setup index first script server)
      (hworks : Works setup server next) : Attends setup index first script next
  | event {script : Script} {server : Server} {event : Event}
      (hattends : Attends setup index first script server)
      (hrest : event.feeds = false → AtRest setup server)
      (hquiet : ∀ pause, event = .wait pause → ∀ due, server.nextAlarm? setup = some due →
        server.now + pause ≤ due)
      (htaken : ∀ room, event ≠ .allow index (some room)) :
      Attends setup index first (script ++ event.met index) (event.apply server)

/-- Whether an exchange that is over is the one that the responder has with a peer that gives
what the reader met of this one since it was accepted, and takes the reply as this one did. -/
inductive Answered (setup : Setup) (index : Nat) (server : Server)
    (outcome : Except Fault (Option String)) : Prop
  | intro {first last : Server} {queued served : Connection} {script : Script} {elapsed : Nat}
      {writer : Wire.Writer} (hqueued : queued.Queued)
      (hfirst : first.connections[index]? = some { queued with stage := .accepted })
      (hattends : Attends setup index first script last)
      (hlast : last.connections[index]? = some served) (hnow : last.now = first.now + elapsed)
      (hsent : writer.taken.toList = server.sentTo index)
      (hresponds : served.Responds setup (queued.met ++ script) elapsed outcome
        (server.linesOf index) writer) : Answered setup index server outcome

/-- What a run on time has come to for the connection at some place. -/
inductive Course (setup : Setup) (index : Nat) (server : Server) : Prop
  | absent (hlength : server.connections.length ≤ index)
  | queued {connection : Connection} (hget : server.connections[index]? = some connection)
      (hqueued : connection.Queued)
  | underWay {first : Server} {queued connection : Connection} {script : Script} {elapsed : Nat}
      (hqueued : queued.Queued)
      (hfirst : first.connections[index]? = some { queued with stage := .accepted })
      (hattends : Attends setup index first script server)
      (hget : server.connections[index]? = some connection)
      (hnow : server.now = first.now + elapsed)
      (hunderWay : connection.UnderWay setup first.now (queued.met ++ script) elapsed)
  | concluded {connection : Connection} {outcome : Except Fault (Option String)}
      (hget : server.connections[index]? = some connection)
      (hstage : connection.stage = .concluded outcome)
      (hanswered : Answered setup index server outcome)

theorem Answered.congr (hanswered : Answered setup index server outcome)
    (hsent : next.sentTo index = server.sentTo index)
    (hlines : next.linesOf index = server.linesOf index) :
    Answered setup index next outcome := by
  obtain ⟨hqueued, hfirst, hattends, hlast, hnow, htaken, hresponds⟩ := hanswered
  exact ⟨hqueued, hfirst, hattends, hlast, hnow, htaken.trans hsent.symm, hlines ▸ hresponds⟩

theorem Connection.exists_outcome (hover : connection.isOver = true) :
    ∃ outcome, connection.stage = .concluded outcome := by
  rw [isOver] at hover
  cases hstage : connection.stage with
  | concluded outcome => exact ⟨outcome, rfl⟩
  | _ => simp [hstage, Stage.outcome?] at hover

/-- A step that ends an exchange prints nothing. -/
theorem Connection.printed_of_concluded {now : Nat} (hstep : connection.advance? setup now = some step)
    (hend : step.connection.stage = .concluded outcome) : step.printed = none := by
  cases advance_cases hstep with
  | announce | hear => cases hend
  | push | lose | expire | reply => rfl

theorem sentTo_congr (hsame : next.connections[index]? = server.connections[index]?) :
    next.sentTo index = server.sentTo index := by
  rw [sentTo, hsame, sentTo]

theorem Works.length_eq (hworks : Works setup server next) :
    next.connections.length = server.connections.length :=
  (hworks.sameAhead 0).length_eq.symm

namespace Course

/-- A step of an exchange that is under way takes it on or ends it. -/
theorem of_advance {queued : Connection} (hledger : Ledger setup server)
    (hworks : Works setup server next) (hqueued : queued.Queued)
    (hfirst : first.connections[index]? = some { queued with stage := .accepted })
    (hattends : Attends setup index first script server)
    (hget : server.connections[index]? = some connection)
    (htime : server.now = first.now + elapsed)
    (hunderWay : connection.UnderWay setup first.now (queued.met ++ script) elapsed)
    (hstep : connection.advance? setup server.now = some step)
    (hnext : next.connections[index]? = some step.connection)
    (hlines : next.linesOf index = server.linesOf index ++ step.printed.toList) :
    Course setup index next := by
  rw [htime] at hstep
  rcases hunderWay.advance hstep with hlater | hover
  · exact .underWay hqueued hfirst (hattends.works hworks) hnext (hworks.now_eq.trans htime) hlater
  · obtain ⟨outcome, hend⟩ := Connection.exists_outcome hover
    have hshows := (hledger.booked index connection hget).shows
    obtain ⟨writer, hsent, hresponds⟩ := hunderWay.responds hstep hend hshows
    have hquiet : next.linesOf index = server.linesOf index := by
      rw [hlines, Connection.printed_of_concluded hstep hend, Option.toList_none, List.append_nil]
    have htaken : writer.taken.toList = next.sentTo index := by
      rw [hsent, sentTo, hnext]
      rfl
    exact .concluded hnext hend
      ⟨hqueued, hfirst, hattends, hget, htime, htaken, hquiet ▸ hresponds⟩

theorem works (hcourse : Course setup index server) (hledger : Ledger setup server)
    (hworks : Works setup server next) : Course setup index next := by
  cases hcourse with
  | absent hlength => exact .absent (hworks.length_eq ▸ hlength)
  | @queued connection hget hqueued =>
      cases hworks.stepAt index with
      | aside hsame => exact .queued (hsame.trans hget) hqueued
      | accept hother _ hnext =>
          cases hget.symm.trans hother
          exact .underWay hqueued hnext .refl hnext (Nat.add_zero _).symm
            ((List.append_nil _).symm ▸ hqueued.underWay)
      | advance hother hstep =>
          cases hget.symm.trans hother
          simp [Connection.advance?, hqueued.stage_eq] at hstep
  | @underWay first queued connection script elapsed hqueued hfirst hattends hget htime hunderWay =>
      cases hworks.stepAt index with
      | aside hsame =>
          exact .underWay hqueued hfirst (hattends.works hworks) (hsame.trans hget)
            (hworks.now_eq.trans htime) hunderWay
      | accept hother hstage =>
          cases hget.symm.trans hother
          exact absurd hstage hunderWay.stage_ne_waiting
      | advance hother hstep hnext hlines =>
          cases hget.symm.trans hother
          exact of_advance hledger hworks hqueued hfirst hattends hget htime hunderWay hstep hnext
            hlines
  | concluded hget hstage hanswered =>
      cases hworks.stepAt index with
      | aside hsame hlines =>
          exact .concluded (hsame.trans hget) hstage (hanswered.congr (sentTo_congr hsame) hlines)
      | accept hother hwaiting =>
          cases hget.symm.trans hother
          cases hwaiting.symm.trans hstage
      | advance hother hstep =>
          cases hget.symm.trans hother
          simp [Connection.advance?, hstage] at hstep

theorem apply (hcourse : Course setup index server)
    (hrest : event.feeds = false → AtRest setup server)
    (hquiet : ∀ pause, event = .wait pause → ∀ due, server.nextAlarm? setup = some due →
      server.now + pause ≤ due)
    (htaken : ∀ room, event ≠ .allow index (some room)) :
    Course setup index (event.apply server) := by
  cases hcourse with
  | absent hlength =>
      cases event with
      | connect peer =>
          by_cases hindex : server.connections.length = index
          · have hget : ((Event.connect peer).apply server).connections[index]? =
                some ({ peer } : Connection) := hindex ▸ List.getElem?_concat_length
            exact .queued hget ⟨rfl, rfl, rfl, List.not_mem_nil⟩
          · refine .absent ?_
            simp only [Event.apply, List.length_append, List.length_singleton]
            omega
      | send | finish | close | reset | allow =>
          exact .absent ((List.length_modify ..).trans_le hlength)
      | wait | stop | starve | feed | refuse => exact .absent hlength
  | @queued connection hget hqueued =>
      exact .queued (getElem?_apply event hget) (hqueued.change htaken)
  | @underWay first queued connection script elapsed hqueued hfirst hattends hget htime hunderWay =>
      obtain ⟨later, hnow, hlater⟩ :=
        hunderWay.change hget htime hrest hquiet htaken
      exact .underWay hqueued hfirst (hattends.event hrest hquiet htaken)
        (getElem?_apply event hget) hnow (List.append_assoc .. ▸ hlater)
  | @concluded connection outcome hget hstage hanswered =>
      have hlike := event.change_like index connection
      refine .concluded (getElem?_apply event hget) (hlike.stage.trans hstage)
        (hanswered.congr ?_ (linesOf_apply event server index))
      rw [sentTo, getElem?_apply event hget, sentTo, hget]
      exact hlike.sent

theorem goesOn (hcourse : Course setup index server) (hledger : Ledger setup server)
    (hgoesOn : GoesOn setup server next) : Course setup index next := by
  cases hgoesOn with
  | works hworks => exact hcourse.works hledger hworks
  | @feeds event hfeeds =>
      refine hcourse.apply (fun hnot => ?_) (fun pause hwait => ?_) fun room hallow => ?_
      · cases hfeeds.symm.trans hnot
      · exact absurd hwait (Event.ne_wait_of_feeds hfeeds pause)
      · subst hallow
        cases hfeeds
  | @wait _ pause hrest hquiet =>
      refine hcourse.apply (fun _ => hrest) ?_ nofun
      rintro _ ⟨⟩
      exact hquiet

theorem endures {happened : List (Nat × Event)} (hcourse : Course setup index server)
    (hreachable : Reachable setup slots server) (hendures : Endures setup server happened last)
    (htaken : ∀ time room, (time, Event.allow index (some room)) ∉ happened) :
    Course setup index last := by
  -- First over what the server does between two events, then over the events.
  have hrest {first rested : Server} (hfirst : Course setup index first)
      (hbefore : Reachable setup slots first) (hgoesOn : ReflTransGen (GoesOn setup) first rested) :
      Course setup index rested := by
    induction hgoesOn with
    | refl => exact hfirst
    | tail hearlier hlast ih =>
        have hmiddle : Reachable setup slots _ := hbefore.trans (leads_of_goesOn hearlier)
        exact ih.goesOn hmiddle.ledger hlast
  induction hendures with
  | rest hgoesOn => exact hrest hcourse hreachable hgoesOn
  | @event server rested last event happened hgoesOn hatRest hevent _ ih =>
      have hreached := hreachable.trans (leads_of_goesOn hgoesOn)
      have happlied : Course setup index (event.apply rested) := by
        refine (hrest hcourse hreachable hgoesOn).apply (fun _ => hatRest) (fun pause hwait => ?_)
          fun room hallow => ?_
        · exact absurd hwait (hevent pause)
        · exact htaken rested.now room (hallow ▸ List.mem_cons_self)
      exact ih happlied (hreached.tail (.event event rested)) fun time room hmem =>
        htaken time room (List.mem_cons_of_mem _ hmem)

end Course

theorem mem_of_mem_timed {time now : Nat} {events : List Event}
    (hmem : (time, event) ∈ timed now events) : event ∈ events := by
  induction events generalizing now with
  | nil => cases hmem
  | cons first events ih =>
      by_cases hwait : ∃ pause, first = .wait pause
      · obtain ⟨pause, rfl⟩ := hwait
        exact List.mem_cons_of_mem _ (ih hmem)
      · rw [timed_of_ne_wait fun pause heq => hwait ⟨pause, heq⟩] at hmem
        split at hmem
        · exact List.mem_cons_of_mem _ (ih hmem)
        · rcases List.mem_cons.mp hmem with heq | hlater
          · cases heq
            exact List.mem_cons_self
          · exact List.mem_cons_of_mem _ (ih hlater)

/-- In every run, an exchange that is over was that of the responder, unless its peer kept the
reply waiting. -/
theorem answered_run (setup : Setup) (slots : Nat) (events : List Event)
    (htaken : ∀ room, Event.allow index (some room) ∉ events)
    (hget : ((initial setup.mode slots).run setup events).connections[index]? = some connection)
    (hend : connection.stage = .concluded outcome) :
    Answered setup index ((initial setup.mode slots).run setup events) outcome := by
  have hinitial : Course setup index (initial setup.mode slots) := .absent (Nat.zero_le index)
  obtain ⟨hendures, -⟩ := endures_run setup (initial setup.mode slots) events
  have hcourse := hinitial.endures .refl hendures fun time room hmem =>
    htaken room (mem_of_mem_timed hmem)
  cases hcourse with
  | absent hlength =>
      rw [List.getElem?_eq_none hlength] at hget
      cases hget
  | queued hother hqueued =>
      cases hget.symm.trans hother
      cases hend.symm.trans hqueued.stage_eq
  | underWay _ _ _ hother _ hunderWay =>
      cases hget.symm.trans hother
      exact absurd hend (hunderWay.stage_ne_concluded outcome)
  | concluded hother hstage hanswered =>
      cases hget.symm.trans hother
      cases hend.symm.trans hstage
      exact hanswered

end LineGreeting.Server
