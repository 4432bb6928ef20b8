import LineGreeting.Proofs.Server.Interleaving
import LineGreeting.Proofs.Server.Slots

/-! # Isolation of connections

While nobody has to wait for a slot, what becomes of a connection until the server
rests again depends on that connection and the time alone. So whatever one client
does, nobody else can tell.
-/

namespace LineGreeting.Server

variable {setup : Setup} {server next rested first second : Server} {slots index place : Nat}
variable {connection : Connection} {event : Event} {events common : List Event}

/-! ## What lies ahead of a connection -/

/-- The connection when the server has done all it can for it, with all lines printed
on the way. -/
def Connection.progress (setup : Setup) (now : Nat) (connection : Connection) :
    Connection × List String :=
  match _ : connection.advance? setup now with
  | none => (connection, [])
  | some step =>
    let (last, lines) := step.connection.progress setup now
    (last, step.printed.toList ++ lines)
termination_by connection.rank
decreasing_by exact Connection.rank_advance? ‹connection.advance? setup now = some step›

/-- The connection once it is accepted. -/
def Connection.admitted (connection : Connection) : Connection :=
  if connection.stage.isWaiting then { connection with stage := .accepted } else connection

/-- What a connection comes to before the server rests, if it need not wait, and all lines
that are printed for it by then. -/
def prospect (setup : Setup) (server : Server) (place : Nat) : Option Connection × List String :=
  let ahead := server.connections[place]?.map (·.admitted.progress setup server.now)
  (ahead.map Prod.fst, server.linesOf place ++ (ahead.map Prod.snd).getD [])

namespace Connection

variable {now : Nat} {step : Advance}

theorem progress_of_none (hnone : connection.advance? setup now = none) :
    connection.progress setup now = (connection, []) := by
  rw [progress]
  split
  · rfl
  next hsome => cases hnone.symm.trans hsome

theorem progress_of_some (hstep : connection.advance? setup now = some step) :
    connection.progress setup now =
      ((step.connection.progress setup now).1,
        step.printed.toList ++ (step.connection.progress setup now).2) := by
  rw [progress]
  split
  next hnone => cases hstep.symm.trans hnone
  next other hother =>
    cases hstep.symm.trans hother
    rfl

theorem progress_of_isOver (hover : connection.isOver = true) :
    connection.progress setup now = (connection, []) := by
  apply progress_of_none
  rw [isOver] at hover
  cases hstage : connection.stage with
  | concluded outcome => simp [advance?, hstage]
  | _ => simp [hstage, Stage.outcome?] at hover

/-- In the end nothing is left to do for the connection. -/
theorem advance?_progress (setup : Setup) (now : Nat) (connection : Connection) :
    (connection.progress setup now).1.advance? setup now = none := by
  induction hrank : connection.rank using Nat.strong_induction_on generalizing connection with
  | _ rank ih =>
      cases hstep : connection.advance? setup now with
      | none => rwa [progress_of_none hstep]
      | some step =>
          rw [progress_of_some hstep]
          exact ih _ (hrank ▸ rank_advance? hstep) _ rfl

theorem admitted_of_not_waiting (hwaiting : connection.stage.isWaiting = false) :
    connection.admitted = connection := by
  rw [admitted, hwaiting]
  rfl

end Connection

theorem prospect_congr (hnow : next.now = server.now)
    (hconnection : next.connections[place]? = server.connections[place]?)
    (hlines : next.linesOf place = server.linesOf place) :
    next.prospect setup place = server.prospect setup place := by
  rw [prospect, prospect, hnow, hconnection, hlines]

/-- To be accepted is part of the prospect of whoever waits. -/
theorem prospect_accept (hwaiting : server.firstWaiting? = some index) :
    (server.accept setup index).prospect setup place = server.prospect setup place := by
  obtain ⟨hlength, hfirst, _⟩ := List.findIdx?_eq_some_iff_getElem.mp hwaiting
  by_cases hplace : index = place
  · subst place
    rw [prospect, prospect, now_accept, linesOf_accept, connections_accept, List.getElem?_modify_eq,
      List.getElem?_eq_getElem hlength]
    simp only [Option.map_eq_map, Option.map_some, Connection.admitted, hfirst, ↓reduceIte]
    rfl
  · refine prospect_congr (now_accept ..) ?_ (linesOf_accept ..)
    rw [connections_accept, List.getElem?_modify_ne _ _ hplace]

theorem prospect_proceed {step : Advance} (hget : server.connections[index]? = some connection)
    (hstep : connection.advance? setup server.now = some step) :
    (server.proceed setup index step).prospect setup place = server.prospect setup place := by
  have hsteps := advance_cases hstep
  by_cases hplace : index = place
  · subst place
    have hbefore := (Connection.isInFlight_iff.mp hsteps.isInFlight).1
    have hnow : (server.proceed setup index step).now = server.now := rfl
    rw [prospect, prospect, hnow, linesOf_proceed, connections_proceed, List.getElem?_modify_eq,
      hget]
    simp only [Option.map_eq_map, Option.map_some, Option.getD_some, ↓reduceIte]
    rw [Connection.admitted_of_not_waiting hbefore,
      Connection.admitted_of_not_waiting hsteps.not_isWaiting, Connection.progress_of_some hstep,
      List.append_assoc]
  · refine prospect_congr rfl ?_ ?_
    · rw [connections_proceed, List.getElem?_modify_ne _ _ hplace]
    · rw [linesOf_proceed, if_neg hplace, List.append_nil]

/-- Whether the same lies ahead of all connections but one. -/
structure SameAhead (setup : Setup) (index : Nat) (first second : Server) : Prop where
  now_eq : first.now = second.now
  length_eq : first.connections.length = second.connections.length
  prospect_eq : ∀ place, place ≠ index → first.prospect setup place = second.prospect setup place

theorem SameAhead.symm (hahead : SameAhead setup index first second) :
    SameAhead setup index second first :=
  ⟨hahead.now_eq.symm, hahead.length_eq.symm,
    fun place hplace => (hahead.prospect_eq place hplace).symm⟩

theorem SameAhead.trans {third : Server} (hahead : SameAhead setup index first second)
    (hahead' : SameAhead setup index second third) : SameAhead setup index first third :=
  ⟨hahead.now_eq.trans hahead'.now_eq, hahead.length_eq.trans hahead'.length_eq,
    fun place hplace => (hahead.prospect_eq place hplace).trans (hahead'.prospect_eq place hplace)⟩

theorem Works.sameAhead (hworks : Works setup server next) (index : Nat) :
    SameAhead setup index server next := by
  cases hworks with
  | loop hloop =>
      obtain ⟨after, races, hafter, rfl⟩ := loop_cases hloop
      cases hafter with
      | @accept place _ hwaiting =>
          refine ⟨(now_accept ..).symm, ?_, fun place _ => (prospect_accept hwaiting).symm⟩
          dsimp only
          rw [connections_accept, List.length_modify]
      | takeSlot | refuse | starve | shutDown | turn | retry | giveUp =>
          exact ⟨rfl, rfl, fun _ _ => rfl⟩
  | exchange hget hstep =>
      exact ⟨rfl, (List.length_modify ..).symm, fun _ _ => (prospect_proceed hget hstep).symm⟩

theorem Settles.sameAhead (hsettles : Settles setup server rested) (index : Nat) :
    SameAhead setup index server rested := by
  obtain ⟨hworks, -⟩ := hsettles
  induction hworks with
  | refl => exact ⟨rfl, rfl, fun _ _ => rfl⟩
  | tail _ hlast ih => exact ih.trans (hlast.sameAhead index)

/-! ## Runs in which nobody has to wait -/

/-- How many clients are there whose exchange is not over: those in flight and those in
the queue. -/
def present (server : Server) : Nat :=
  server.connections.countP (!·.isOver)

/-- What keeps nobody waiting: the server goes on, clients can be accepted, and there are
no more of them than slots. -/
structure Unhindered (slots : Nat) (server : Server) : Prop where
  going : server.stopping = false
  not_backingOff : ∀ due, server.phase ≠ .backingOff due
  present_le : server.present ≤ slots

/-- A server at rest where everybody has been accepted. -/
structure Attended (setup : Setup) (slots : Nat) (server : Server) : Prop where
  reachable : Reachable setup slots server
  atRest : AtRest setup server
  not_waiting : ∀ connection ∈ server.connections, connection.stage.isWaiting = false

theorem present_eq :
    server.present = server.inFlight + server.connections.countP (·.stage.isWaiting) := by
  apply countP_eq_add
  intro connection
  rw [Connection.isOver]
  cases connection.stage <;> rfl

theorem Moves.stopping_of_ended (hmove : Moves setup server next)
    (hended : server.phase = .ended → server.stopping = true) (hlast : next.phase = .ended) :
    next.stopping = true := by
  cases hmove with
  | loop hloop =>
      obtain ⟨after, races, hafter, rfl⟩ := loop_cases hloop
      cases hafter with
      | shutDown _ hstopping => exact hstopping
      | accept =>
          dsimp only at hlast
          rw [phase_accept] at hlast
          cases hmode : setup.mode <;> rw [hmode] at hlast <;> cases hlast
      | takeSlot | refuse | starve | turn | retry | giveUp => cases hlast
  | exchange => exact hended hlast
  | event event =>
      cases event with
      | stop => rfl
      | connect | send | finish | close | reset | allow | wait | starve | feed | refuse =>
          exact hended hlast

/-- Only a server that shall end does. -/
theorem Reachable.stopping_of_ended (hreachable : Reachable setup slots server)
    (hended : server.phase = .ended) : server.stopping = true := by
  induction hreachable with
  | refl =>
      cases hmode : setup.mode <;> rw [hmode] at hended <;> cases hended
  | tail _ hmove ih => exact hmove.stopping_of_ended ih hended

/-- Where the loop rests it waits for a client, or all slots are taken; in either case
nobody is left in the queue. -/
theorem attended_of_unhindered (hmode : setup.mode = .concurrent)
    (hreachable : Reachable setup slots server) (hrest : AtRest setup server)
    (hunhindered : Unhindered slots server) : Attended setup slots server := by
  obtain ⟨hgoing, hnotBack, hpresent⟩ := hunhindered
  refine ⟨hreachable, hrest, ?_⟩
  have hloop := hrest.loop?_eq_none
  have hbalanced := hreachable.balanced hmode
  have hslots := hbalanced.slots_eq
  rw [loop?] at hloop
  cases hphase : server.phase with
  | awaitingSlot =>
      have hnoSlot : server.slots = 0 := by
        simpa [hphase, contend, hgoing] using hloop
      -- With all slots in flight there is room for nobody else.
      rw [hphase, hnoSlot, Phase.held] at hslots
      rw [present_eq] at hpresent
      have hnone : server.connections.countP (·.stage.isWaiting) = 0 := by omega
      intro connection hmem
      simpa using List.countP_eq_zero.mp hnone connection hmem
  | accepting =>
      have hnone : server.attempt? setup = none := by
        simpa [hphase, contend, hgoing] using hloop
      exact List.findIdx?_eq_none_iff.mp (attempt?_eq_none_iff.mp hnone).2
  | serving place => exact absurd hphase (hbalanced.not_serving place)
  | backingOff due => exact absurd hphase (hnotBack due)
  | ended =>
      rw [hreachable.stopping_of_ended hphase] at hgoing
      cases hgoing

/-- At rest nothing lies ahead of who does not wait. -/
theorem AtRest.prospect_eq (hrest : AtRest setup server)
    (hwaiting : ∀ connection, server.connections[place]? = some connection →
      connection.stage.isWaiting = false) :
    server.prospect setup place = (server.connections[place]?, server.linesOf place) := by
  rw [prospect]
  cases hget : server.connections[place]? with
  | none => simp
  | some connection =>
      have hnone := hrest.advance?_eq_none hget
      simp [Connection.admitted_of_not_waiting (hwaiting connection hget),
        Connection.progress_of_none hnone]

theorem Attended.prospect_eq (hattended : Attended setup slots server) (place : Nat) :
    server.prospect setup place = (server.connections[place]?, server.linesOf place) :=
  hattended.atRest.prospect_eq fun connection hget =>
    hattended.not_waiting connection (List.mem_of_getElem? hget)

/-- Whether two servers are the same at the same time but for one connection. -/
structure SameBut (index : Nat) (first second : Server) : Prop where
  now_eq : first.now = second.now
  length_eq : first.connections.length = second.connections.length
  connection_eq : ∀ place, place ≠ index → first.connections[place]? = second.connections[place]?
  linesOf_eq : ∀ place, place ≠ index → first.linesOf place = second.linesOf place

theorem SameBut.sameAhead (hsame : SameBut index first second) :
    SameAhead setup index first second where
  now_eq := hsame.now_eq
  length_eq := hsame.length_eq
  prospect_eq place hplace :=
    prospect_congr hsame.now_eq (hsame.connection_eq place hplace) (hsame.linesOf_eq place hplace)

theorem SameAhead.sameBut (hahead : SameAhead setup index first second)
    (hfirst : Attended setup slots first) (hsecond : Attended setup slots second) :
    SameBut index first second := by
  have hboth (place : Nat) (hplace : place ≠ index) :
      (first.connections[place]?, first.linesOf place) =
        (second.connections[place]?, second.linesOf place) := by
    rw [← hfirst.prospect_eq, ← hsecond.prospect_eq]
    exact hahead.prospect_eq place hplace
  exact ⟨hahead.now_eq, hahead.length_eq, fun place hplace => congrArg Prod.fst (hboth place hplace),
    fun place hplace => congrArg Prod.snd (hboth place hplace)⟩

/-! ## Events -/

/-- Whether an event is something that the client of one connection does. -/
def Event.concerns (index : Nat) : Event → Bool
  | .send place _ | .finish place | .close place | .reset place | .allow place _ => place = index
  | .connect _ | .wait _ | .stop | .starve | .feed | .refuse _ => false

/-- All that happens apart from what one client does. -/
def elsewhere (index : Nat) (events : List Event) : List Event :=
  events.filter (!·.concerns index)

theorem elsewhere_cons_of_concerns (hconcerns : event.concerns index = true)
    (events : List Event) : elsewhere index (event :: events) = elsewhere index events :=
  List.filter_cons_of_neg (by simp [hconcerns])

theorem elsewhere_cons_of_not_concerns (hconcerns : event.concerns index = false)
    (events : List Event) : elsewhere index (event :: events) = event :: elsewhere index events :=
  List.filter_cons_of_pos (by simp [hconcerns])

theorem sameBut_modify (change : Connection → Connection) (server : Server) (index : Nat) :
    SameBut index (server.modify index change) server where
  now_eq := rfl
  length_eq := List.length_modify ..
  connection_eq _ hplace := List.getElem?_modify_ne _ _ hplace.symm
  linesOf_eq _ _ := rfl

theorem sameBut_apply (hconcerns : event.concerns index = true) (server : Server) :
    SameBut index (event.apply server) server := by
  cases event with
  | send | finish | close | reset | allow =>
      cases of_decide_eq_true hconcerns
      exact sameBut_modify ..
  | connect | wait | stop | starve | feed | refuse => cases hconcerns

theorem SameBut.modify (hsame : SameBut index first second) (place : Nat)
    (change : Connection → Connection) :
    SameBut index (first.modify place change) (second.modify place change) := by
  refine ⟨hsame.now_eq, ?_, ?_, hsame.linesOf_eq⟩
  · simp [Server.modify, hsame.length_eq]
  · intro other hother
    simp [Server.modify, List.getElem?_modify, hsame.connection_eq other hother]

theorem SameBut.apply (hsame : SameBut index first second) (event : Event) :
    SameBut index (event.apply first) (event.apply second) := by
  cases event with
  | connect peer =>
      refine ⟨hsame.now_eq, ?_, ?_, hsame.linesOf_eq⟩
      · simp [Event.apply, hsame.length_eq]
      · intro place hplace
        simp [Event.apply, List.getElem?_append, hsame.length_eq, hsame.connection_eq place hplace]
  | send | finish | close | reset | allow => exact hsame.modify _ _
  | wait pause => exact { hsame with now_eq := congrArg (· + pause) hsame.now_eq }
  | stop | starve | feed | refuse => exact { hsame with }

/-! ## While time passes -/

namespace Connection

variable {now middle later since : Nat}

/-- It does not matter how late a reply is that is due. -/
theorem progress_of_due {request : Option String}
    (hstage : connection.stage = .replying request since)
    (hdue : since + setup.responder.replyDelay ≤ now) (hle : now ≤ later) :
    connection.progress setup later = connection.progress setup now := by
  induction hrank : connection.rank using Nat.strong_induction_on generalizing connection with
  | _ rank ih =>
      have hsame : connection.advance? setup later = connection.advance? setup now := by
        simp only [advance?, hstage, if_pos hdue, if_pos (le_trans hdue hle)]
      cases hstep : connection.advance? setup now with
      | none => rw [progress_of_none hstep, progress_of_none (hsame.trans hstep)]
      | some step =>
          rw [progress_of_some hstep, progress_of_some (hsame.trans hstep)]
          have hless : step.connection.rank < rank := hrank ▸ rank_advance? hstep
          have hnext : step.connection.stage = .replying request since ∨
              step.connection.isOver = true := by
            cases advance_cases hstep with
            | push => exact .inl hstage
            | reply => exact .inr rfl
            | announce hother | hear hother | lose hother | expire hother =>
                cases hstage.symm.trans hother
          rcases hnext with hagain | hover
          · rw [ih _ hless hagain rfl]
          · rw [progress_of_isOver hover, progress_of_isOver hover]

/-- What comes of a connection at rest by some time comes of it in two stages as well. -/
theorem progress_of_rest (hrest : connection.advance? setup now = none) (hle : middle ≤ later) :
    connection.progress setup later =
      (((connection.progress setup middle).1.progress setup later).1,
        (connection.progress setup middle).2 ++
          ((connection.progress setup middle).1.progress setup later).2) := by
  cases hstep : connection.advance? setup middle with
  | none => simp [progress_of_none hstep]
  | some step =>
      cases advance_cases hstep with
      | announce hstage => simp [advance?, hstage] at hrest
      | hear hstage hread | lose hstage hread => simp [advance?, hstage, hread] at hrest
      | @expire since limit hstage hread hlimit hdue =>
          have hlate : connection.advance? setup later =
              some ({ connection with arrived := [] }.conclude (.error (.timedOut limit))) := by
            simp [advance?, hstage, hread, hlimit, le_trans hdue hle]
          have hend (time : Nat) := @progress_of_isOver setup
            ({ connection with arrived := [] }.conclude (.error (.timedOut limit))).connection time
            rfl
          simp only [progress_of_some hstep, progress_of_some hlate, hend, List.append_nil]
      | push hstage hdue | reply hstage hdue =>
          have hsame := progress_of_due hstage hdue hle
          have hlast := advance?_progress setup later connection
          rw [hsame] at hlast ⊢
          simp [progress_of_none hlast]

end Connection

theorem Works.not_waiting (hworks : Works setup server next)
    (hbefore : ∀ connection, server.connections[place]? = some connection →
      connection.stage.isWaiting = false) :
    ∀ connection, next.connections[place]? = some connection →
      connection.stage.isWaiting = false := by
  cases hworks with
  | loop hloop =>
      obtain ⟨after, races, hafter, rfl⟩ := loop_cases hloop
      cases hafter with
      | accept =>
          dsimp only
          rw [connections_accept]
          intro connection hget
          rcases getElem?_modify_cases hget with ⟨-, hold⟩ | ⟨-, before, -, rfl⟩
          · exact hbefore connection hold
          · rfl
      | takeSlot | refuse | starve | shutDown | turn | retry | giveUp => exact hbefore
  | exchange hget hstep =>
      intro connection hother
      rcases getElem?_modify_cases hother with ⟨-, hold⟩ | ⟨-, before, -, rfl⟩
      · exact hbefore connection hold
      · exact (advance_cases hstep).not_isWaiting

theorem prospect_wait (pause : Nat)
    (hwaiting : ∀ connection, server.connections[place]? = some connection →
      connection.stage.isWaiting = false) :
    ((Event.wait pause).apply server).prospect setup place =
      (server.connections[place]?.map fun connection =>
          (connection.progress setup (server.now + pause)).1,
        server.linesOf place ++ (server.connections[place]?.map fun connection =>
          (connection.progress setup (server.now + pause)).2).getD []) := by
  have hconnections : ((Event.wait pause).apply server).connections = server.connections := rfl
  have hnow : ((Event.wait pause).apply server).now = server.now + pause := rfl
  have hlines : ((Event.wait pause).apply server).linesOf place = server.linesOf place := rfl
  rw [prospect, hconnections, hnow, hlines]
  cases hget : server.connections[place]? with
  | none => rfl
  | some connection => simp [Connection.admitted_of_not_waiting (hwaiting connection hget)]

/-- Who does not wait cannot tell at which alarms the clock stops. -/
theorem Elapses.prospect_eq {pause : Nat} (helapses : Elapses setup server pause next)
    (hrest : AtRest setup server)
    (hwaiting : ∀ connection, server.connections[place]? = some connection →
      connection.stage.isWaiting = false) :
    next.now = server.now + pause ∧
      next.connections.length = server.connections.length ∧
      next.prospect setup place = ((Event.wait pause).apply server).prospect setup place := by
  induction helapses with
  | quiet => exact ⟨rfl, rfl, rfl⟩
  | @alarm server rested last due pause halarm hless hsettles _ ih =>
      have hahead := hsettles.sameAhead (place + 1)
      have hrested := hsettles.kept (fun _ _ hbefore hworks => hworks.not_waiting hbefore) hwaiting
      obtain ⟨hnow, hlength, hlater⟩ := ih hsettles.atRest hrested
      have hdue := (nextAlarm?_eq_some_iff.mp halarm).1.2
      have hstop : server.now + (due - server.now) = due := by omega
      have hrestedNow : rested.now = due := hahead.now_eq.symm.trans hstop
      refine ⟨by omega, hlength.trans hahead.length_eq.symm, hlater.trans ?_⟩
      -- What is there at the alarm is what lay ahead of the rest before.
      have hmiddle := hahead.prospect_eq place (Nat.ne_of_lt (Nat.lt_succ_self place))
      rw [hsettles.atRest.prospect_eq hrested, prospect_wait _ hwaiting, hstop] at hmiddle
      obtain ⟨hconnection, hlines⟩ := Prod.mk.inj hmiddle
      rw [prospect_wait _ hrested, prospect_wait _ hwaiting, ← hconnection, ← hlines, hrestedNow]
      have hend : due + (server.now + pause - due) = server.now + pause := by omega
      rw [hend]
      cases hget : server.connections[place]? with
      | none => simp
      | some connection =>
          have hstages :=
            Connection.progress_of_rest (hrest.advance?_eq_none hget) (le_of_lt hless)
          simp [hstages]

/-- The same lies ahead of who does not wait, however an event comes about. -/
theorem Occurs.prospect_eq (hoccurs : Occurs setup event server next)
    (hrest : AtRest setup server)
    (hwaiting : ∀ connection, server.connections[place]? = some connection →
      connection.stage.isWaiting = false) :
    next.now = (event.apply server).now ∧
      next.connections.length = (event.apply server).connections.length ∧
      next.prospect setup place = (event.apply server).prospect setup place := by
  cases hoccurs with
  | wait helapses => exact helapses.prospect_eq hrest hwaiting
  | event => exact ⟨rfl, rfl, rfl⟩

theorem Occurs.sameAhead_of_concerns (hoccurs : Occurs setup event server next)
    (hconcerns : event.concerns index = true) : SameAhead setup index server next := by
  cases hoccurs with
  | wait => cases hconcerns
  | event => exact (sameBut_apply hconcerns server).sameAhead.symm

theorem Attended.sameAhead (hattended : Attended setup slots server)
    (hoccurs : Occurs setup event server next) :
    SameAhead setup index (event.apply server) next := by
  have hall (place : Nat) := @Occurs.prospect_eq _ _ _ place _ hoccurs hattended.atRest
    fun connection hget => hattended.not_waiting connection (List.mem_of_getElem? hget)
  exact ⟨(hall 0).1.symm, (hall 0).2.1.symm, fun place _ => (hall place).2.2.symm⟩

/-! ## Two runs -/

theorem Passes.attended (hmode : setup.mode = .concurrent)
    (hpasses : Passes setup (Unhindered slots) server events next)
    (hreachable : Reachable setup slots server) : Attended setup slots next :=
  attended_of_unhindered hmode (hreachable.trans hpasses.leads) hpasses.atRest hpasses.allowed

/-- Nothing that the one client does matters to anybody else. -/
theorem Passes.sameAhead {allowed : Server → Prop}
    (hpasses : Passes setup allowed server events next) (hquiet : elsewhere index events = []) :
    SameAhead setup index server next := by
  induction hpasses with
  | rest hsettles => exact hsettles.sameAhead index
  | @event _ rested _ _ event events hsettles _ hoccurs _ ih =>
      have hconcerns : event.concerns index = true := by
        by_contra hother
        rw [elsewhere_cons_of_not_concerns (by simpa using hother)] at hquiet
        cases hquiet
      rw [elsewhere_cons_of_concerns hconcerns] at hquiet
      have hskipped := hoccurs.sameAhead_of_concerns hconcerns
      exact (hsettles.sameAhead index).trans (hskipped.trans (ih hquiet))

/-- A run comes to a rest before the next thing that happens elsewhere. -/
theorem Passes.exists_rest (hmode : setup.mode = .concurrent)
    (hpasses : Passes setup (Unhindered slots) server events next)
    (hreachable : Reachable setup slots server)
    (helsewhere : elsewhere index events = event :: common) :
    ∃ rested started later, SameAhead setup index server rested ∧
      Attended setup slots rested ∧ Occurs setup event rested started ∧
      Passes setup (Unhindered slots) started later next ∧ elsewhere index later = common := by
  induction hpasses with
  | rest => cases helsewhere
  | @event server rested _ _ first events hsettles hunhindered hoccurs hlater ih =>
      have hreached := hreachable.trans hsettles.leads
      have hahead := hsettles.sameAhead index
      cases hconcerns : first.concerns index with
      | false =>
          rw [elsewhere_cons_of_not_concerns hconcerns] at helsewhere
          cases helsewhere
          exact ⟨rested, _, events, hahead,
            attended_of_unhindered hmode hreached hsettles.atRest hunhindered, hoccurs, hlater, rfl⟩
      | true =>
          rw [elsewhere_cons_of_concerns hconcerns] at helsewhere
          obtain ⟨middle, started, later, hmiddle, hattended, hstarted, hpasses, hrest⟩ :=
            ih (hreached.trans hoccurs.leads) helsewhere
          have hskipped := (hoccurs.sameAhead_of_concerns hconcerns).trans hmiddle
          exact ⟨middle, started, later, hahead.trans hskipped, hattended, hstarted, hpasses, hrest⟩

theorem Passes.sameBut {server' next' : Server} {events' : List Event}
    (hmode : setup.mode = .concurrent)
    (hpasses : Passes setup (Unhindered slots) server events next)
    (hpasses' : Passes setup (Unhindered slots) server' events' next')
    (hreachable : Reachable setup slots server) (hreachable' : Reachable setup slots server')
    (hahead : SameAhead setup index server server')
    (helsewhere : elsewhere index events = elsewhere index events') :
    SameBut index next next' := by
  -- What happens elsewhere is common to both runs, and leads from rest to rest.
  generalize hcommon : elsewhere index events' = common at helsewhere
  induction common generalizing server server' events events' with
  | nil =>
      have hquiet := hpasses.sameAhead helsewhere
      have hquiet' := hpasses'.sameAhead hcommon
      exact (hquiet.symm.trans (hahead.trans hquiet')).sameBut
        (hpasses.attended hmode hreachable) (hpasses'.attended hmode hreachable')
  | cons event common ih =>
      obtain ⟨rested, started, later, hrested, hattended, hoccurs, hlater, hrest⟩ :=
        hpasses.exists_rest hmode hreachable helsewhere
      obtain ⟨rested', started', later', hrested', hattended', hoccurs', hlater', hrest'⟩ :=
        hpasses'.exists_rest hmode hreachable' hcommon
      have hsame := (hrested.symm.trans (hahead.trans hrested')).sameBut hattended hattended'
      have hstarted := (hattended.sameAhead hoccurs).symm.trans
        ((hsame.apply event).sameAhead.trans (hattended'.sameAhead hoccurs'))
      exact ih hlater hlater' (hattended.reachable.trans hoccurs.leads)
        (hattended'.reachable.trans hoccurs'.leads) hstarted hrest' hrest

/-! ## As many slots as clients -/

/-- Whether nothing keeps a server from accepting clients, now or since it started. -/
structure Open (server : Server) : Prop where
  going : server.stopping = false
  fed : server.starved = false
  unrefused : server.refusals = []
  not_backingOff : ∀ due, server.phase ≠ .backingOff due

theorem Works.isOpen (hworks : Works setup server next) (hopen : Open server) : Open next := by
  obtain ⟨hgoing, hfed, hunrefused, hnotBack⟩ := hopen
  cases hworks with
  | loop hloop =>
      obtain ⟨after, races, hafter, rfl⟩ := loop_cases hloop
      cases hafter with
      | accept =>
          unfold accept
          split <;> exact ⟨hgoing, hfed, hunrefused, fun _ => nofun⟩
      | refuse _ hrefusals => cases hunrefused.symm.trans hrefusals
      | starve _ _ hstarved =>
          rw [hfed] at hstarved
          cases hstarved
      | shutDown _ hstopping =>
          rw [hgoing] at hstopping
          cases hstopping
      | takeSlot | turn | retry | giveUp => exact ⟨hgoing, hfed, hunrefused, fun _ => nofun⟩
  | exchange => exact ⟨hgoing, hfed, hunrefused, hnotBack⟩

/-- Whether an event leaves open a server that is. -/
def Event.opens : Event → Bool
  | .stop | .starve | .refuse _ => false
  | .connect _ | .send .. | .finish _ | .close _ | .reset _ | .allow .. | .wait _ | .feed => true

theorem Open.apply (hopen : Open server) (hopens : event.opens = true) :
    Open (event.apply server) := by
  obtain ⟨hgoing, hfed, hunrefused, hnotBack⟩ := hopen
  cases event with
  | stop | starve | refuse => cases hopens
  | feed => exact ⟨hgoing, rfl, hunrefused, hnotBack⟩
  | connect | send | finish | close | reset | allow | wait =>
      exact ⟨hgoing, hfed, hunrefused, hnotBack⟩

/-- Whether somebody comes. -/
def Event.isConnect : Event → Bool
  | .connect _ => true
  | _ => false

theorem length_apply (event : Event) (server : Server) :
    (event.apply server).connections.length =
      server.connections.length + event.isConnect.toNat := by
  cases event <;> simp [Event.apply, Server.modify, Event.isConnect]

/-- Whether a server is open and so many have come. -/
def OpenTo (count : Nat) (server : Server) : Prop :=
  Open server ∧ server.connections.length = count

theorem Works.openTo {count : Nat} (hworks : Works setup server next)
    (hopen : OpenTo count server) : OpenTo count next :=
  ⟨hworks.isOpen hopen.1, (hworks.sameAhead 0).length_eq.symm.trans hopen.2⟩

theorem Occurs.openTo {count : Nat} (hoccurs : Occurs setup event server next)
    (hopens : event.opens = true) (hopen : OpenTo count server) :
    OpenTo (count + event.isConnect.toNat) next := by
  cases hoccurs with
  | wait helapses =>
      exact helapses.kept (fun _ _ hbefore hworks => hworks.openTo hbefore)
        (fun _ _ hbefore => ⟨hbefore.1.apply rfl, hbefore.2⟩) hopen
  | event => exact ⟨hopen.1.apply hopens, by rw [length_apply, hopen.2]⟩

theorem openTo_run (setup : Setup) {count : Nat} (hopen : OpenTo count server)
    (hopens : ∀ event ∈ events, event.opens = true) :
    OpenTo (count + events.countP Event.isConnect) (server.run setup events) := by
  have hrested : OpenTo count (server.settle setup) :=
    (settles_settle setup server).kept (fun _ _ hbefore hworks => hworks.openTo hbefore) hopen
  induction events generalizing server count with
  | nil => exact hrested
  | cons event events ih =>
      rw [List.forall_mem_cons] at hopens
      have hnext := (occurs_occur setup event _).openTo hopens.1 hrested
      have hcount : (event :: events).countP Event.isConnect =
          event.isConnect.toNat + events.countP Event.isConnect := by
        rw [List.countP_cons, Nat.add_comm]
        cases event.isConnect <;> rfl
      rw [run_cons, hcount, ← Nat.add_assoc]
      exact ih hnext hopens.2 ((settles_settle setup _).kept
        (fun _ _ hbefore hworks => hworks.openTo hbefore) hnext)

/-- If there is a slot for everybody who ever comes then nobody has to wait. -/
theorem unhindered_run (hopen : Open server) (hopens : ∀ event ∈ events, event.opens = true)
    (hslots : server.connections.length + events.countP Event.isConnect ≤ slots)
    {front : List Event} (hfront : front <+: events) :
    Unhindered slots (server.run setup front) := by
  have hfrontOpens : ∀ event ∈ front, event.opens = true :=
    fun event hmem => hopens event (hfront.subset hmem)
  obtain ⟨hafter, hlength⟩ := openTo_run setup ⟨hopen, rfl⟩ hfrontOpens
  refine ⟨hafter.going, hafter.not_backingOff, ?_⟩
  calc (server.run setup front).present
      ≤ (server.run setup front).connections.length := List.countP_le_length
    _ = server.connections.length + front.countP Event.isConnect := hlength
    _ ≤ server.connections.length + events.countP Event.isConnect :=
      Nat.add_le_add_left hfront.sublist.countP_le _
    _ ≤ slots := hslots

theorem open_initial (mode : ServerMode) (slots : Nat) : Open (initial mode slots) := by
  refine ⟨rfl, rfl, rfl, ?_⟩
  cases mode <;> exact fun _ => nofun

/-! ## Counts -/

/-- What the connection at some place adds to a count. -/
def share (counts : Stage → Bool) (server : Server) (place : Nat) : Nat :=
  (server.connections[place]?.any fun connection => counts connection.stage).toNat

theorem SameBut.countP_eq (hsame : SameBut index first second) (counts : Stage → Bool) :
    first.connections.countP (fun connection => counts connection.stage) +
        second.share counts index =
      second.connections.countP (fun connection => counts connection.stage) +
        first.share counts index := by
  rw [share, share]
  -- The connections differ at one place at most, which is what each side makes up for.
  cases hfirst : first.connections[index]? with
  | none =>
      have hlength := List.getElem?_eq_none_iff.mp hfirst
      have hsecond : second.connections[index]? = none := by
        rw [List.getElem?_eq_none_iff, ← hsame.length_eq]
        exact hlength
      have heq : first.connections = second.connections := by
        apply List.ext_getElem?
        intro place
        by_cases hplace : place = index
        · rw [hplace, hfirst, hsecond]
        · exact hsame.connection_eq place hplace
      rw [heq, hsecond]
  | some connection =>
      obtain ⟨other, hsecond⟩ : ∃ other, second.connections[index]? = some other := by
        have hlength := (List.getElem?_eq_some_iff.mp hfirst).1
        rw [hsame.length_eq] at hlength
        exact ⟨_, List.getElem?_eq_getElem hlength⟩
      have heq : first.connections = second.connections.modify index fun _ => connection := by
        apply List.ext_getElem?
        intro place
        by_cases hplace : place = index
        · rw [hplace, hfirst, List.getElem?_modify_eq, hsecond]
          rfl
        · rw [List.getElem?_modify_ne _ _ (Ne.symm hplace)]
          exact hsame.connection_eq place hplace
      rw [heq, hsecond]
      exact countP_modify (fun connection => counts connection.stage) _ hsecond

theorem Attended.accepted_eq (hattended : Attended setup slots server) :
    server.stats.accepted = server.connections.length := by
  have hledger := hattended.reachable.ledger
  apply Nat.le_antisymm hledger.accepted_le
  by_contra hless
  have hget := List.getElem?_eq_getElem (Nat.not_le.mp hless)
  have hwaiting := (hledger.booked _ _ hget).waiting_iff.mpr Nat.le.refl
  rw [hattended.not_waiting _ (List.mem_of_getElem? hget)] at hwaiting
  cases hwaiting

/-- What two servers have in common if they differ in what one client did: all about
every other connection, at the same time, and the counts but for the share of this
client. -/
structure Isolated (index : Nat) (first second : Server) : Prop extends
    SameBut index first second where
  accepted_eq : first.stats.accepted = second.stats.accepted
  completed_eq : first.stats.completed + second.share Stage.isCompleted index =
    second.stats.completed + first.share Stage.isCompleted index
  failed_eq : first.stats.failed + second.share Stage.isFailed index =
    second.stats.failed + first.share Stage.isFailed index

theorem SameBut.isolated (hsame : SameBut index first second)
    (hfirst : Attended setup slots first) (hsecond : Attended setup slots second) :
    Isolated index first second where
  toSameBut := hsame
  accepted_eq := by rw [hfirst.accepted_eq, hsecond.accepted_eq, hsame.length_eq]
  completed_eq := by
    rw [hfirst.reachable.ledger.completed_eq, hsecond.reachable.ledger.completed_eq]
    exact hsame.countP_eq Stage.isCompleted
  failed_eq := by
    rw [hfirst.reachable.ledger.failed_eq, hsecond.reachable.ledger.failed_eq]
    exact hsame.countP_eq Stage.isFailed

/-- If two runs differ in what one client does, and in neither anybody has to wait for a
slot, then whenever the same has happened elsewhere all is the same about every other
client, at the same time and in whatever order the steps came, and the counts are the same
but for the share of the one. -/
theorem others_isolated (setup : Setup) (hmode : setup.mode = .concurrent) (slots index : Nat) :
    (∀ events events' : List Event,
      (∀ front, front <+: events →
        Unhindered slots ((initial .concurrent slots).run setup front)) →
      (∀ front, front <+: events' →
        Unhindered slots ((initial .concurrent slots).run setup front)) →
      ∀ front front', front <+: events → front' <+: events' →
        elsewhere index front = elsewhere index front' →
        Isolated index ((initial .concurrent slots).run setup front)
          ((initial .concurrent slots).run setup front')) ∧
    ∀ events events' last last',
      Passes setup (Unhindered slots) (initial .concurrent slots) events last →
      Passes setup (Unhindered slots) (initial .concurrent slots) events' last' →
      elsewhere index events = elsewhere index events' → Isolated index last last' := by
  have hreachable : Reachable setup slots (initial .concurrent slots) := by
    rw [Reachable, hmode]
  have hall (events events' : List Event) (last last' : Server)
      (hpasses : Passes setup (Unhindered slots) (initial .concurrent slots) events last)
      (hpasses' : Passes setup (Unhindered slots) (initial .concurrent slots) events' last')
      (helsewhere : elsewhere index events = elsewhere index events') :
      Isolated index last last' :=
    (hpasses.sameBut hmode hpasses' hreachable hreachable ⟨rfl, rfl, fun _ _ => rfl⟩
      helsewhere).isolated (hpasses.attended hmode hreachable)
        (hpasses'.attended hmode hreachable)
  refine ⟨?_, hall⟩
  intro events events' hevents hevents' front front' hfront hfront' helsewhere
  refine hall front front' _ _ (passes_run _ _ _ ?_) (passes_run _ _ _ ?_) helsewhere
  · exact fun first hfirst => hevents first (hfirst.trans hfront)
  · exact fun first hfirst => hevents' first (hfirst.trans hfront')

/-- Two clients of which the first sends nothing. -/
def silentFirst : List Event :=
  [.connect ⟨.v4 .loopback, 1⟩, .connect ⟨.v4 .loopback, 2⟩, .send 1 [0x0A], .wait 10]

/-- The same, but the first breaks off in the middle of a line. -/
def brokenFirst : List Event :=
  [.connect ⟨.v4 .loopback, 1⟩, .send 0 [0x41], .connect ⟨.v4 .loopback, 2⟩, .reset 0,
    .send 1 [0x0A], .wait 10]

theorem others_isolated_brokenFirst : concurrentSetup.mode = .concurrent ∧
    (∀ front, front <+: silentFirst →
      Unhindered 2 ((initial .concurrent 2).run concurrentSetup front)) ∧
    (∀ front, front <+: brokenFirst →
      Unhindered 2 ((initial .concurrent 2).run concurrentSetup front)) ∧
    elsewhere 0 silentFirst = elsewhere 0 brokenFirst ∧
    Isolated 0 ((initial .concurrent 2).run concurrentSetup silentFirst)
      ((initial .concurrent 2).run concurrentSetup brokenFirst) := by
  have hsilent (front : List Event) (hfront : front <+: silentFirst) :
      Unhindered 2 ((initial .concurrent 2).run concurrentSetup front) :=
    unhindered_run (open_initial _ _) (by decide) (by decide) hfront
  have hbroken (front : List Event) (hfront : front <+: brokenFirst) :
      Unhindered 2 ((initial .concurrent 2).run concurrentSetup front) :=
    unhindered_run (open_initial _ _) (by decide) (by decide) hfront
  have helsewhere : elsewhere 0 silentFirst = elsewhere 0 brokenFirst := by decide
  obtain ⟨hruns, -⟩ := others_isolated concurrentSetup rfl 2 0
  exact ⟨rfl, hsilent, hbroken, helsewhere, hruns _ _ hsilent hbroken _ _ List.prefix_rfl
    List.prefix_rfl helsewhere⟩

end LineGreeting.Server
