import LineGreeting.Server.Run
import Mathlib.Data.Nat.Basic
import Mathlib.Logic.Relation

/-! # Moves of a server

A server takes its steps one after the other, but nobody promises the order in
which the loop and the exchanges come to their turns. A move is any one of them
that can be taken, or anything that happens meanwhile. What all moves keep holds
in every run, and in every other interleaving of the same steps.
-/

namespace LineGreeting.Server

variable {setup : Setup} {server next : Server} {index : Nat} {connection : Connection}

/-- One step of the loop or of any exchange, while nothing happens. -/
inductive Works (setup : Setup) : Server → Server → Prop
  | loop {server next : Server} (hloop : server.loop? setup = some next) :
      Works setup server next
  | exchange {server : Server} {index : Nat} {connection : Connection} {step : Advance}
      (hget : server.connections[index]? = some connection)
      (hstep : connection.advance? setup server.now = some step) :
      Works setup server (server.proceed setup index step)

/-- One step of the loop or of any exchange, or something that happens. The clock may go
on at any time, so what is due may also be late. -/
inductive Moves (setup : Setup) : Server → Server → Prop
  | loop {server next : Server} (hloop : server.loop? setup = some next) :
      Moves setup server next
  | exchange {server : Server} {index : Nat} {connection : Connection} {step : Advance}
      (hget : server.connections[index]? = some connection)
      (hstep : connection.advance? setup server.now = some step) :
      Moves setup server (server.proceed setup index step)
  | event (event : Event) (server : Server) : Moves setup server (event.apply server)

/-- Some moves, one after the other. -/
abbrev Leads (setup : Setup) : Server → Server → Prop :=
  Relation.ReflTransGen (Moves setup)

/-- Whether a server can come about from its start with some slots. -/
def Reachable (setup : Setup) (slots : Nat) (server : Server) : Prop :=
  Leads setup (initial setup.mode slots) server

/-! ## Runs -/

theorem Works.moves (hworks : Works setup server next) : Moves setup server next := by
  cases hworks with
  | loop hloop => exact .loop hloop
  | exchange hget hstep => exact .exchange hget hstep

theorem Works.of_next? (hnext : server.next? setup = some next) : Works setup server next := by
  rw [next?] at hnext
  split at hnext
  next after hloop =>
    cases hnext
    exact .loop hloop
  · simp only [exchange?, Option.bind_eq_bind, Option.bind_eq_some_iff, Option.pure_def,
      Option.some.injEq] at hnext
    obtain ⟨index, _, connection, hget, step, hstep, rfl⟩ := hnext
    exact .exchange hget hstep

theorem Moves.of_next? (hnext : server.next? setup = some next) : Moves setup server next :=
  (Works.of_next? hnext).moves

theorem leads_settle (setup : Setup) (server : Server) :
    Leads setup server (server.settle setup) := by
  refine settle_induction ?_ server .refl
  intro middle next hmiddle hnext
  exact hmiddle.tail (Moves.of_next? hnext)

/-- Time that passes with stops is one of the ways in which it can pass. -/
theorem leads_elapse (setup : Setup) (server : Server) (pause : Nat) :
    Leads setup server (server.elapse setup pause) := by
  fun_induction elapse setup server pause with
  | case1 server pause => exact .single (.event (.wait pause) server)
  | case2 server pause due hdue hless ih =>
      exact .head (.event (.wait _) server) ((leads_settle setup _).trans ih)
  | case3 server pause => exact .single (.event (.wait pause) server)

/-- Only the passing of time takes more than the event by itself. -/
theorem occur_eq_apply {event : Event} (hevent : ∀ pause, event ≠ .wait pause) :
    event.occur setup server = event.apply server := by
  cases event with
  | wait pause => exact absurd rfl (hevent pause)
  | _ => rfl

theorem leads_occur (setup : Setup) (event : Event) (server : Server) :
    Leads setup server (event.occur setup server) := by
  by_cases hwait : ∃ pause, event = .wait pause
  · obtain ⟨pause, rfl⟩ := hwait
    exact leads_elapse setup server pause
  · rw [occur_eq_apply fun pause heq => hwait ⟨pause, heq⟩]
    exact .single (.event event server)

theorem leads_step (setup : Setup) (server : Server) (event : Event) :
    Leads setup server (server.step setup event) :=
  (leads_occur setup event server).trans (leads_settle setup _)

theorem leads_run (setup : Setup) (server : Server) (events : List Event) :
    Leads setup server (server.run setup events) := by
  rw [run]
  refine (leads_settle setup server).trans ?_
  generalize server.settle setup = middle
  induction events generalizing middle with
  | nil => exact .refl
  | cons event events ih => exact (leads_step setup middle event).trans (ih _)

/-- Every state of every run is reached by moves. -/
theorem reachable_run (setup : Setup) (slots : Nat) (events : List Event) :
    Reachable setup slots ((initial setup.mode slots).run setup events) :=
  leads_run setup _ events

/-- The server after its next step, if there is one. -/
def stepped (setup : Setup) (server : Server) : Server :=
  (server.next? setup).getD server

theorem moves_stepped (hnext : (server.next? setup).isSome) :
    Moves setup server (server.stepped setup) := by
  obtain ⟨next, hsome⟩ := Option.isSome_iff_exists.mp hnext
  rw [stepped, hsome]
  exact .of_next? hsome

/-- A server at rest can take no step of its loop. -/
theorem AtRest.loop?_eq_none (hrest : AtRest setup server) : server.loop? setup = none := by
  rw [AtRest, next?] at hrest
  split at hrest
  · cases hrest
  next hloop => exact hloop

/-- A loop that serves rests only as long as the exchange is not over. -/
theorem AtRest.exists_open (hrest : AtRest setup server) (hphase : server.phase = .serving index) :
    ∃ connection, server.connections[index]? = some connection ∧ connection.isOver = false := by
  have hloop := hrest.loop?_eq_none
  simp only [loop?, hphase] at hloop
  split at hloop
  · cases hloop
  next hopen =>
    cases hget : server.connections[index]? with
    | none => exact absurd (by rw [hget, Option.all_none]) hopen
    | some connection =>
        rw [hget, Option.all_some, Bool.not_eq_true] at hopen
        exact ⟨connection, rfl, hopen⟩

/-- A server at rest can take no step of any exchange. -/
theorem AtRest.advance?_eq_none (hrest : AtRest setup server)
    (hget : server.connections[index]? = some connection) :
    connection.advance? setup server.now = none := by
  have hexchange : server.exchange? setup = none := by
    have hloop := hrest.loop?_eq_none
    rw [AtRest, next?, hloop] at hrest
    exact hrest
  cases hadvance : connection.advance? setup server.now with
  | none => rfl
  | some step =>
      -- If somebody can go on then it is somebody's turn, perhaps another's.
      have hturn : ∃ turn other, server.turn? setup = some turn ∧
          server.connections[turn]? = some other ∧ other.advance? setup server.now ≠ none := by
        rw [turn?]
        split
        next first hfirst =>
          obtain ⟨hlength, haccepted, _⟩ := List.findIdx?_eq_some_iff_getElem.mp hfirst
          refine ⟨first, _, rfl, List.getElem?_eq_getElem hlength, ?_⟩
          cases hstage : server.connections[first].stage with
          | accepted => simp [Connection.advance?, hstage]
          | _ => simp [hstage, Stage.isAccepted] at haccepted
        · have hany : (server.connections.findIdx? fun connection =>
              (connection.advance? setup server.now).isSome).isSome := by
            rw [List.findIdx?_isSome, List.any_eq_true]
            exact ⟨connection, List.mem_of_getElem? hget, by rw [hadvance]; rfl⟩
          obtain ⟨turn, hturn⟩ := Option.isSome_iff_exists.mp hany
          obtain ⟨hlength, hsteps, _⟩ := List.findIdx?_eq_some_iff_getElem.mp hturn
          exact ⟨turn, _, hturn, List.getElem?_eq_getElem hlength,
            Option.isSome_iff_ne_none.mp hsteps⟩
      obtain ⟨turn, other, hturn, hother, hsteps⟩ := hturn
      obtain ⟨step, hstep⟩ := Option.ne_none_iff_exists'.mp hsteps
      simp [exchange?, hturn, hother, hstep] at hexchange

/-- A server rests if neither its loop nor any exchange can go on. -/
theorem atRest_of_none (hloop : server.loop? setup = none)
    (hadvance : ∀ connection ∈ server.connections,
      connection.advance? setup server.now = none) : AtRest setup server := by
  have hturn : server.turn? setup = none := by
    have haccepted : server.connections.findIdx? (·.stage.isAccepted) = none := by
      refine List.findIdx?_eq_none_iff.mpr fun connection hmem => ?_
      have hnone := hadvance connection hmem
      cases hstage : connection.stage with
      | accepted => simp [Connection.advance?, hstage] at hnone
      | _ => rfl
    rw [turn?, haccepted]
    refine List.findIdx?_eq_none_iff.mpr fun connection hmem => ?_
    rw [hadvance connection hmem]
    rfl
  rw [AtRest, next?, hloop, exchange?, hturn]
  rfl

/-! ## What a move can be -/

/-- A step of the loop, but for the count of the races. -/
inductive LoopStep (setup : Setup) (server : Server) : Server → Prop
  | takeSlot (hphase : server.phase = .awaitingSlot) (hslots : 0 < server.slots) :
      LoopStep setup server { server with phase := .accepting, slots := server.slots - 1 }
  | accept {index : Nat} (hphase : server.phase = .accepting)
      (hwaiting : server.firstWaiting? = some index) (hfed : server.starved = false)
      (hrefusals : server.refusals = []) :
      LoopStep setup server (server.accept setup index)
  | refuse {cause : Fault} {later : List Fault} (hphase : server.phase = .accepting)
      (hrefusals : server.refusals = cause :: later) :
      LoopStep setup server ({ server with refusals := later }.backOff cause)
  | starve {index : Nat} (hphase : server.phase = .accepting)
      (hwaiting : server.firstWaiting? = some index) (hstarved : server.starved = true)
      (hrefusals : server.refusals = []) :
      LoopStep setup server (server.backOff (.system .noDescriptorLeft))
  | shutDown (hphase : server.phase = .awaitingSlot ∨ server.phase = .accepting)
      (hstopping : server.stopping = true) : LoopStep setup server (server.shutDown setup)
  | turn {index : Nat} (hphase : server.phase = .serving index)
      (hover : server.connections[index]?.all Connection.isOver) :
      LoopStep setup server { server.setActivity .listening with phase := .accepting }
  | retry {due : Nat} (hphase : server.phase = .backingOff due) (hdue : due ≤ server.now)
      (hmode : setup.mode = .sequential) :
      LoopStep setup server { server with phase := .accepting }
  | giveUp {due : Nat} (hphase : server.phase = .backingOff due) (hdue : due ≤ server.now)
      (hmode : setup.mode = .concurrent) :
      LoopStep setup server
        { server with phase := .awaitingSlot, slots := server.slots + 1 }

theorem attempt?_eq_none_iff :
    server.attempt? setup = none ↔ server.refusals = [] ∧ server.firstWaiting? = none := by
  rw [attempt?]
  split <;> simp_all

theorem contend_cases {goOn : Option Server}
    (hcontend : server.contend setup goOn = some next) :
    (∃ after races, goOn = some after ∧ next = { after with races }) ∨
      server.stopping = true ∧ ∃ races, next = { server.shutDown setup with races } := by
  unfold contend at hcontend
  split at hcontend
  next hstopping =>
    split at hcontend
    · cases hcontend
      exact .inr ⟨hstopping, _, rfl⟩
    next after =>
      cases hcontend
      dsimp only
      split
      · exact .inl ⟨after, _, rfl, rfl⟩
      · exact .inr ⟨hstopping, _, rfl⟩
  · exact .inl ⟨next, _, hcontend, rfl⟩

theorem attempt_cases (hphase : server.phase = .accepting)
    (hattempt : server.attempt? setup = some next) : LoopStep setup server next := by
  rw [attempt?] at hattempt
  split at hattempt
  next hrefusals =>
    cases hattempt
    exact .refuse hphase hrefusals
  next hrefusals =>
    obtain ⟨index, hwaiting, rfl⟩ := Option.map_eq_some_iff.mp hattempt
    split
    next hstarved => exact .starve hphase hwaiting hstarved hrefusals
    next hfed => exact .accept hphase hwaiting (by simpa using hfed) hrefusals

theorem loop_cases (hloop : server.loop? setup = some next) :
    ∃ after races, LoopStep setup server after ∧ next = { after with races } := by
  rw [loop?] at hloop
  cases hphase : server.phase with
  | awaitingSlot =>
      simp only [hphase] at hloop
      rcases contend_cases hloop with ⟨after, races, hgoOn, rfl⟩ | ⟨hstopping, races, rfl⟩
      · split at hgoOn
        next hslots =>
          cases hgoOn
          exact ⟨_, races, .takeSlot hphase hslots, rfl⟩
        · cases hgoOn
      · exact ⟨_, races, .shutDown (.inl hphase) hstopping, rfl⟩
  | accepting =>
      simp only [hphase] at hloop
      rcases contend_cases hloop with ⟨after, races, hgoOn, rfl⟩ | ⟨hstopping, races, rfl⟩
      · exact ⟨after, races, attempt_cases hphase hgoOn, rfl⟩
      · exact ⟨_, races, .shutDown (.inr hphase) hstopping, rfl⟩
  | serving index =>
      simp only [hphase] at hloop
      split at hloop
      next hover =>
        cases hloop
        exact ⟨_, server.races, .turn hphase hover, rfl⟩
      · cases hloop
  | backingOff due =>
      simp only [hphase] at hloop
      split at hloop
      next hdue =>
        split at hloop
        next hmode =>
          cases hloop
          exact ⟨_, server.races, .retry hphase hdue hmode, rfl⟩
        next hmode =>
          cases hloop
          exact ⟨_, server.races, .giveUp hphase hdue hmode, rfl⟩
      · cases hloop
  | ended => simp [hphase] at hloop

inductive Connection.Steps (setup : Setup) (now : Nat) (connection : Connection) :
    Advance → Prop
  | announce (hstage : connection.stage = .accepted) :
      Steps setup now connection {
        connection := { connection with stage := .reading now }
        printed := some (setup.announcement connection.peer) }
  | hear {since after : Nat} {request : Option String} {rest : Wire.Reader}
      (hstage : connection.stage = .reading since)
      (hread : Wire.Reader.readLine { script := connection.script } =
        .ready after (.ok request, rest)) :
      Steps setup now connection {
        connection := { connection with
          stage := .replying request now
          arrived := rest.script.pieces }
        printed := some (Wire.received request)
        logged := Wire.Reader.lineEntries { script := connection.script } rest }
  | lose {since after : Nat} {fault : Fault} {rest : Wire.Reader}
      (hstage : connection.stage = .reading since)
      (hread : Wire.Reader.readLine { script := connection.script } =
        .ready after (.error fault, rest)) :
      Steps setup now connection
        ({ connection with arrived := rest.script.pieces }.conclude (.error fault))
  | expire {since limit : Nat} (hstage : connection.stage = .reading since)
      (hread : Wire.Reader.readLine { script := connection.script } = .never)
      (hlimit : setup.responder.readTimeout = some limit) (hdue : since + limit ≤ now) :
      Steps setup now connection
        ({ connection with arrived := [] }.conclude (.error (.timedOut limit)))
  | push {since limit : Nat} {request : Option String}
      (hstage : connection.stage = .replying request since)
      (hdue : since + setup.responder.replyDelay ≤ now)
      (hlimit : connection.limit? (Wire.encodeLine setup.responder.reply) = some limit)
      (hless : connection.sent.length < limit) :
      Steps setup now connection {
        connection := { connection with
          sent := (Wire.encodeLine setup.responder.reply).take limit } }
  | reply {since : Nat} {request : Option String} {result : Except Fault Unit}
      {writer : Wire.Writer} (hstage : connection.stage = .replying request since)
      (hdue : since + setup.responder.replyDelay ≤ now)
      (hlimit : connection.limit? (Wire.encodeLine setup.responder.reply) = none)
      (hanswer : setup.responder.answer connection.writer = (result, writer)) :
      Steps setup now connection
        ({ connection with sent := writer.taken.toList }.conclude
          (result.map fun _ => request))

theorem advance_cases {now : Nat} {step : Advance}
    (hstep : connection.advance? setup now = some step) :
    connection.Steps setup now step := by
  rw [Connection.advance?] at hstep
  cases hstage : connection.stage with
  | waiting => simp [hstage] at hstep
  | accepted =>
      simp only [hstage, Option.some_inj] at hstep
      subst step
      exact .announce hstage
  | reading since =>
      simp only [hstage] at hstep
      split at hstep
      next hread =>
        cases hstep
        exact .hear hstage hread
      next hread =>
        cases hstep
        exact .lose hstage hread
      next hread =>
        split at hstep
        · cases hstep
        next hlimit =>
          split at hstep
          next hdue =>
            cases hstep
            exact .expire hstage hread hlimit hdue
          · cases hstep
  | replying request since =>
      simp only [hstage] at hstep
      split at hstep
      next hdue =>
        split at hstep
        next hlimit =>
          split at hstep
          next hless =>
            cases hstep
            simpa only [hstage] using Connection.Steps.push hstage hdue hlimit hless
          · cases hstep
        next hlimit =>
          cases hstep
          exact .reply hstage hdue hlimit rfl
      · cases hstep
  | concluded outcome => simp [hstage] at hstep

/-- What a peer does changes neither the stage of its connection nor what it was sent. -/
structure Connection.Like (connection other : Connection) : Prop where
  peer : other.peer = connection.peer
  stage : other.stage = connection.stage
  sent : other.sent = connection.sent

theorem Connection.like_send (connection : Connection) (bytes : Bytes) :
    connection.Like (connection.send bytes) := by
  refine ⟨?_, stage_send connection bytes, ?_⟩
  all_goals
    rw [send]
    split
    · rfl
    · split <;> rfl

theorem Connection.like_finish (connection : Connection) : connection.Like connection.finish := by
  refine ⟨?_, stage_finish connection, ?_⟩ <;> rw [finish] <;> split <;> rfl

theorem Connection.like_close (connection : Connection) : connection.Like connection.close := by
  refine ⟨?_, stage_close connection, ?_⟩
  all_goals
    rw [close]
    split
    · rfl
    · split <;> rfl

theorem Connection.like_reset (connection : Connection) : connection.Like connection.reset := by
  refine ⟨?_, stage_reset connection, ?_⟩ <;> rw [reset] <;> split <;> rfl

theorem Connection.like_allow (connection : Connection) (room : Option Nat) :
    connection.Like (connection.allow room) :=
  ⟨rfl, rfl, rfl⟩

/-- What happens to a server by itself: a client comes, or a peer does something, or
nothing happens to any connection. -/
inductive EventStep (server : Server) : Server → Prop
  | connect (peer : Net.Endpoint) :
      EventStep server { server with connections := server.connections ++ [{ peer }] }
  | peer (index : Nat) {change : Connection → Connection}
      (hchange : ∀ connection : Connection, connection.Like (change connection)) :
      EventStep server (server.modify index change)
  | around (now : Nat) (stopping starved : Bool) (refusals : List Fault) :
      EventStep server { server with now, stopping, starved, refusals }

theorem event_cases (event : Event) (server : Server) :
    EventStep server (event.apply server) := by
  cases event with
  | connect peer => exact .connect peer
  | send index bytes => exact .peer index (Connection.like_send · bytes)
  | finish index => exact .peer index Connection.like_finish
  | close index => exact .peer index Connection.like_close
  | reset index => exact .peer index Connection.like_reset
  | allow index room => exact .peer index (Connection.like_allow · room)
  | wait pause =>
      exact .around (server.now + pause) server.stopping server.starved server.refusals
  | stop => exact .around server.now true server.starved server.refusals
  | starve => exact .around server.now server.stopping true server.refusals
  | feed => exact .around server.now server.stopping false server.refusals
  | refuse cause =>
      exact .around server.now server.stopping server.starved (server.refusals ++ [cause])

@[simp] theorem phase_apply (event : Event) (server : Server) :
    (event.apply server).phase = server.phase := by
  cases event <;> rfl

@[simp] theorem slots_apply (event : Event) (server : Server) :
    (event.apply server).slots = server.slots := by
  cases event <;> rfl

end LineGreeting.Server
