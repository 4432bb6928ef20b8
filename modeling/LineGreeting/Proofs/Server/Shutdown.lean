import LineGreeting.Proofs.Server.Isolation
import LineGreeting.Proofs.Server.Returning
import LineGreeting.Proofs.Server.Sequential
import LineGreeting.Proofs.Wire.Stream

/-! # The end of a server

A server that shall end notices it where its loop waits. A concurrent loop waits for a slot
or a client at almost any time, so it ends at once, however many exchanges go on; a
sequential loop first sees the exchange through that it is busy with. After the end nobody
is accepted. An exchange that goes on when the server shall end owes nothing to the loop any
more, so it comes to the same as if the server went on.
-/

namespace LineGreeting.Server

variable {setup : Setup} {server next rested last first second : Server} {slots index : Nat}
variable {connection : Connection} {event : Event} {events : List Event}
variable {allowed allowed' : Server → Prop}

/-- Whether nobody is in the queue, and no attempt to accept is about to fail. -/
structure QueueEmpty (server : Server) : Prop where
  refusals : server.refusals = []
  not_waiting : ∀ connection ∈ server.connections, connection.stage.isWaiting = false

/-- Whether nothing but the end of the server is due where its loop waits: it does not wait to
try again, and nobody is in the queue, or all slots are taken and no exchange is about to
go on. -/
structure Undisturbed (setup : Setup) (slots : Nat) (server : Server) : Prop where
  not_backingOff : ∀ due, server.phase ≠ .backingOff due
  queue : server.QueueEmpty ∨
    setup.mode = .concurrent ∧ server.inFlight = slots ∧ AtRest setup server

/-! ## Only a server that shall end ends -/

theorem Works.stopping_eq (hworks : Works setup server next) :
    next.stopping = server.stopping := by
  cases hworks with
  | loop hloop =>
      obtain ⟨after, races, hafter, rfl⟩ := loop_cases hloop
      cases hafter with
      | accept =>
          unfold accept
          split <;> rfl
      | takeSlot | refuse | starve | shutDown | turn | retry | giveUp => rfl
  | exchange => rfl

theorem Settles.stopping_eq (hsettles : Settles setup server rested) :
    rested.stopping = server.stopping :=
  hsettles.kept (fun _ _ hbefore hworks => hworks.stopping_eq.trans hbefore) rfl

theorem Occurs.stopping_eq (hoccurs : Occurs setup event server next) (hevent : event ≠ .stop) :
    next.stopping = server.stopping := by
  cases hoccurs with
  | wait helapses =>
      exact helapses.kept (fun _ _ hbefore hworks => hworks.stopping_eq.trans hbefore)
        (fun _ _ hbefore => hbefore) rfl
  | event =>
      cases event with
      | stop => exact absurd rfl hevent
      | connect | send | finish | close | reset | allow | wait | starve | feed | refuse => rfl

theorem Passes.stop_mem (hpasses : Passes setup allowed server events last)
    (hgoing : server.stopping = false) (hstopping : last.stopping = true) :
    .stop ∈ events := by
  induction hpasses with
  | rest hsettles =>
      rw [hsettles.stopping_eq, hgoing] at hstopping
      cases hstopping
  | @event _ rested _ _ event events hsettles _ hoccurs _ ih =>
      by_cases hevent : event = .stop
      · exact hevent ▸ List.mem_cons_self
      · refine List.mem_cons_of_mem event (ih ?_ hstopping)
        rw [hoccurs.stopping_eq hevent, hsettles.stopping_eq, hgoing]

/-! ## After the end -/

theorem Moves.ended (hmove : Moves setup server next) (hended : server.phase = .ended) :
    next.phase = .ended ∧ next.stats.accepted = server.stats.accepted := by
  cases hmove with
  | loop hloop => simp [loop?, hended] at hloop
  | exchange => exact ⟨hended, by rw [stats_proceed]⟩
  | event event => exact ⟨(phase_apply event server).trans hended, by cases event <;> rfl⟩

theorem Leads.ended (hleads : Leads setup server next) (hended : server.phase = .ended) :
    next.phase = .ended ∧ next.stats.accepted = server.stats.accepted := by
  induction hleads with
  | refl => exact ⟨hended, rfl⟩
  | tail _ hmove ih =>
      obtain ⟨hphase, haccepted⟩ := hmove.ended ih.1
      exact ⟨hphase, haccepted.trans ih.2⟩

/-! ## With nobody in the queue -/

/-- A server that shall end, with nobody who could still be accepted. -/
structure Closing (server : Server) : Prop where
  stopping : server.stopping = true
  not_backingOff : ∀ due, server.phase ≠ .backingOff due
  queueEmpty : server.QueueEmpty

theorem QueueEmpty.firstWaiting?_eq (hempty : server.QueueEmpty) :
    server.firstWaiting? = none :=
  List.findIdx?_eq_none_iff.mpr hempty.not_waiting

theorem QueueEmpty.modify (hempty : server.QueueEmpty) {change : Connection → Connection}
    (hchange : ∀ before, server.connections[index]? = some before →
      (change before).stage.isWaiting = false) :
    (server.modify index change).QueueEmpty := by
  refine ⟨hempty.refusals, ?_⟩
  intro connection hmem
  obtain ⟨place, hget⟩ := List.mem_iff_getElem?.mp hmem
  rcases getElem?_modify_cases hget with ⟨-, hold⟩ | ⟨rfl, before, hold, rfl⟩
  · exact hempty.not_waiting connection (List.mem_of_getElem? hold)
  · exact hchange before hold

theorem Works.closing (hworks : Works setup server next) (hclosing : Closing server) :
    Closing next ∧ next.stats.accepted = server.stats.accepted := by
  obtain ⟨hstopping, hnotBack, hempty⟩ := hclosing
  cases hworks with
  | loop hloop =>
      obtain ⟨after, races, hafter, rfl⟩ := loop_cases hloop
      cases hafter with
      | accept _ hwaiting | starve _ hwaiting =>
          rw [hempty.firstWaiting?_eq] at hwaiting
          cases hwaiting
      | refuse _ hrefusals => cases hempty.refusals.symm.trans hrefusals
      | retry hphase | giveUp hphase => exact absurd hphase (hnotBack _)
      | takeSlot | shutDown | turn =>
          exact ⟨⟨hstopping, fun _ => nofun, hempty.refusals, hempty.not_waiting⟩, rfl⟩
  | @exchange index _ step hget hstep =>
      have hnext : (server.modify index fun _ => step.connection).QueueEmpty :=
        hempty.modify fun _ _ => (advance_cases hstep).not_isWaiting
      exact ⟨⟨hstopping, hnotBack, hnext.refusals, hnext.not_waiting⟩, by rw [stats_proceed]⟩

theorem Works.closing_since (hworks : Works setup server next)
    (hbefore : Closing server ∧ server.stats.accepted = first.stats.accepted) :
    Closing next ∧ next.stats.accepted = first.stats.accepted := by
  obtain ⟨hnext, haccepted⟩ := hworks.closing hbefore.1
  exact ⟨hnext, haccepted.trans hbefore.2⟩

theorem Settles.closing (hsettles : Settles setup server rested) (hclosing : Closing server) :
    Closing rested ∧ rested.stats.accepted = server.stats.accepted :=
  hsettles.kept (fun _ _ hbefore hworks => hworks.closing_since hbefore) ⟨hclosing, rfl⟩

/-- A loop that shall end does not rest where it waits for a slot or a client. -/
theorem AtRest.phase_of_stopping (hrest : AtRest setup server)
    (hstopping : server.stopping = true) :
    server.phase ≠ .awaitingSlot ∧ server.phase ≠ .accepting := by
  have hloop := hrest.loop?_eq_none
  have hcontend (goOn : Option Server) : server.contend setup goOn ≠ none := by
    simp only [contend, hstopping, ↓reduceIte]
    split <;> exact Option.some_ne_none _
  constructor
  · intro hphase
    rw [loop?, hphase] at hloop
    exact hcontend _ hloop
  · intro hphase
    rw [loop?, hphase] at hloop
    exact hcontend _ hloop

/-- A loop that shall end rests only while it serves. -/
theorem Closing.serves_of_atRest (hclosing : Closing server) (hrest : AtRest setup server) :
    server.phase = .ended ∨ ∃ index, server.phase = .serving index ∧ server.Serves index := by
  obtain ⟨hawaiting, haccepting⟩ := hrest.phase_of_stopping hclosing.stopping
  cases hphase : server.phase with
  | awaitingSlot => exact absurd hphase hawaiting
  | accepting => exact absurd hphase haccepting
  | backingOff due => exact absurd hphase (hclosing.not_backingOff due)
  | ended => exact .inl rfl
  | serving index =>
      obtain ⟨connection, hget, hopen⟩ := hrest.exists_open hphase
      refine .inr ⟨index, rfl, connection, hget, Connection.isInFlight_iff.mpr ⟨?_, hopen⟩⟩
      exact hclosing.queueEmpty.not_waiting connection (List.mem_of_getElem? hget)

theorem Undisturbed.closing (hundisturbed : Undisturbed setup slots server)
    (hempty : server.QueueEmpty) : Closing (Event.stop.apply server) :=
  ⟨rfl, hundisturbed.not_backingOff, hempty.refusals, hempty.not_waiting⟩

/-! ## The end of a concurrent server -/

/-- With all slots taken and no exchange about to go on, the end is all there is. -/
theorem Works.ended_of_full (hmode : setup.mode = .concurrent)
    (hreachable : Reachable setup slots server) (hrest : AtRest setup server)
    (hfull : server.inFlight = slots) (hworks : Works setup (Event.stop.apply server) next) :
    next.phase = .ended ∧ next.stats.accepted = server.stats.accepted := by
  have hslots := (hreachable.balanced hmode).slots_eq
  have hnoSlot : server.slots = 0 := by omega
  have hnotHeld : server.phase.held = 0 := by omega
  cases hworks with
  | loop hloop =>
      obtain ⟨after, races, hafter, rfl⟩ := loop_cases hloop
      cases hafter with
      | takeSlot _ hfree => exact absurd hnoSlot (Nat.ne_of_gt hfree)
      | accept hphase | refuse hphase | starve hphase | retry hphase | giveUp hphase =>
          change server.phase = _ at hphase
          rw [hphase] at hnotHeld
          cases hnotHeld
      | turn hphase => exact absurd hphase ((hreachable.balanced hmode).not_serving _)
      | shutDown => exact ⟨rfl, rfl⟩
  | exchange hget hstep =>
      have hnone := hrest.advance?_eq_none hget
      change _ = some _ at hstep
      cases hnone.symm.trans hstep

theorem Settles.ended (hmode : setup.mode = .concurrent)
    (hreachable : Reachable setup slots server) (hundisturbed : Undisturbed setup slots server)
    (hsettles : Settles setup (Event.stop.apply server) rested) :
    rested.phase = .ended ∧ rested.stats.accepted = server.stats.accepted := by
  have hstopped : Reachable setup slots (Event.stop.apply server) :=
    hreachable.tail (.event .stop server)
  have hrested := hstopped.trans hsettles.leads
  have hbalanced := Reachable.balanced hmode hrested
  rcases hundisturbed.queue with hempty | ⟨-, hfull, hrest⟩
  · obtain ⟨hclosing, haccepted⟩ := hsettles.closing (hundisturbed.closing hempty)
    rcases hclosing.serves_of_atRest hsettles.atRest with hended | ⟨index, hphase, -⟩
    · exact ⟨hended, haccepted⟩
    · exact absurd hphase (hbalanced.not_serving index)
  · rcases Relation.ReflTransGen.cases_head hsettles.works with rfl | ⟨middle, hfirst, hlater⟩
    · -- Where nothing can be done the loop is over: it holds no slot and does not wait.
      obtain ⟨hawaiting, haccepting⟩ := hsettles.atRest.phase_of_stopping rfl
      refine ⟨?_, rfl⟩
      cases hphase : (Event.stop.apply server).phase with
      | ended => rfl
      | awaitingSlot => exact absurd hphase hawaiting
      | accepting => exact absurd hphase haccepting
      | serving index => exact absurd hphase (hbalanced.not_serving index)
      | backingOff due => exact absurd hphase (hundisturbed.not_backingOff due)
    · obtain ⟨hended, haccepted⟩ := hfirst.ended_of_full hmode hreachable hrest hfull
      have hlast : Leads setup middle rested := hlater.lift id fun _ _ => Works.moves
      obtain ⟨hphase, hsame⟩ := hlast.ended hended
      exact ⟨hphase, hsame.trans haccepted⟩

theorem Passes.ended (hmode : setup.mode = .concurrent)
    (hreachable : Reachable setup slots server) (hundisturbed : Undisturbed setup slots server)
    (hpasses : Passes setup allowed (Event.stop.apply server) events last) :
    last.phase = .ended ∧ last.stats.accepted = server.stats.accepted := by
  cases hpasses with
  | rest hsettles => exact hsettles.ended hmode hreachable hundisturbed
  | event hsettles _ hoccurs hlater =>
      obtain ⟨hended, haccepted⟩ := hsettles.ended hmode hreachable hundisturbed
      obtain ⟨hphase, hsame⟩ := Leads.ended (hoccurs.leads.trans hlater.leads) hended
      exact ⟨hphase, hsame.trans haccepted⟩

/-! ## The end of a sequential server -/

/-- Whether an event gives the loop somebody to accept, or an attempt that fails. -/
def Event.isAttempt : Event → Bool
  | .connect _ | .refuse _ => true
  | .send .. | .finish _ | .close _ | .reset _ | .allow .. | .wait _ | .stop | .starve | .feed =>
      false

/-- Who comes while the loop is busy changes nothing, nor does a failure to come. -/
theorem AtRest.attempt (hrest : AtRest setup server) (hserves : server.Serves index)
    (hphase : server.phase = .serving index) (hattempt : event.isAttempt = true) :
    AtRest setup (event.apply server) := by
  obtain ⟨connection, hget, hflight⟩ := hserves
  have hopen := (Connection.isInFlight_iff.mp hflight).2
  cases event with
  | connect peer =>
      refine atRest_of_none ?_ ?_
      · have hlength := (List.getElem?_eq_some_iff.mp hget).1
        have hget' : (server.connections ++ [({ peer } : Connection)])[index]? =
            some connection := by
          rw [List.getElem?_append_left hlength, hget]
        simp [loop?, Event.apply, hphase, hget', hopen]
      · intro other hmem
        rcases List.mem_append.mp hmem with hold | hnew
        · obtain ⟨place, hother⟩ := List.mem_iff_getElem?.mp hold
          exact hrest.advance?_eq_none hother
        · rw [List.mem_singleton.mp hnew]
          rfl
  | refuse cause =>
      refine atRest_of_none ?_ ?_
      · simp [loop?, Event.apply, hphase, hget, hopen]
      · intro other hmem
        obtain ⟨place, hother⟩ := List.mem_iff_getElem?.mp hmem
        exact hrest.advance?_eq_none hother
  | send | finish | close | reset | allow | wait | stop | starve | feed => cases hattempt

theorem not_queueEmpty_apply (hattempt : event.isAttempt = true) (server : Server) :
    ¬ (event.apply server).QueueEmpty := by
  rintro ⟨hrefusals, hnobody⟩
  cases event with
  | connect peer => cases hnobody { peer } (List.mem_append_right _ List.mem_cons_self)
  | refuse cause => exact List.append_ne_nil_of_right_ne_nil _ (List.cons_ne_nil _ _) hrefusals
  | send | finish | close | reset | allow | wait | stop | starve | feed => cases hattempt

theorem Settles.eq_of_atRest (hsettles : Settles setup server rested)
    (hrest : AtRest setup server) : rested = server := by
  rcases Relation.ReflTransGen.cases_head hsettles.works with heq | ⟨middle, hfirst, -⟩
  · exact heq.symm
  · exact absurd hfirst hrest.not_works

theorem Passes.exists_settles (hpasses : Passes setup allowed server events last) :
    ∃ rested, Settles setup server rested ∧ allowed rested := by
  cases hpasses with
  | rest hsettles hallowed => exact ⟨_, hsettles, hallowed⟩
  | event hsettles hallowed => exact ⟨_, hsettles, hallowed⟩

theorem Closing.modify (hclosing : Closing server) {change : Connection → Connection}
    (hchange : ∀ connection : Connection, connection.Like (change connection)) (index : Nat) :
    Closing (server.modify index change) := by
  obtain ⟨hstopping, hnotBack, hempty⟩ := hclosing
  have hnext : (server.modify index change).QueueEmpty := hempty.modify fun before hbefore => by
    rw [(hchange before).stage]
    exact hempty.not_waiting before (List.mem_of_getElem? hbefore)
  exact ⟨hstopping, hnotBack, hnext⟩

theorem Closing.apply (hclosing : Closing server) (hevent : event.isAttempt = false) :
    Closing (event.apply server) := by
  obtain ⟨hstopping, hnotBack, hrefusals, hnobody⟩ := id hclosing
  cases event with
  | connect | refuse => cases hevent
  | send index bytes => exact hclosing.modify (Connection.like_send · bytes) index
  | finish index => exact hclosing.modify Connection.like_finish index
  | close index => exact hclosing.modify Connection.like_close index
  | reset index => exact hclosing.modify Connection.like_reset index
  | allow index room => exact hclosing.modify (Connection.like_allow · room) index
  | stop => exact ⟨rfl, hnotBack, hrefusals, hnobody⟩
  | wait | starve | feed => exact ⟨hstopping, hnotBack, hrefusals, hnobody⟩

theorem Occurs.closing (hoccurs : Occurs setup event server next) (hclosing : Closing server)
    (hevent : event.isAttempt = false) :
    Closing next ∧ next.stats.accepted = server.stats.accepted := by
  cases hoccurs with
  | wait helapses =>
      exact helapses.kept (fun _ _ hbefore hworks => hworks.closing_since hbefore)
        (fun _ _ hbefore => ⟨hbefore.1.apply rfl, hbefore.2⟩) ⟨hclosing, rfl⟩
  | event => exact ⟨hclosing.apply hevent, by cases event <;> rfl⟩

/-- If nobody comes before the end, the server accepts nobody and only waits for what it
serves. -/
theorem Passes.closing
    (hpasses : Passes setup (fun rested => rested.phase = .ended ∨ rested.QueueEmpty) server
      events last) (hclosing : Closing server) :
    (last.phase = .ended ∨ Closing last) ∧ last.stats.accepted = server.stats.accepted := by
  induction hpasses with
  | rest hsettles =>
      obtain ⟨hrested, haccepted⟩ := hsettles.closing hclosing
      exact ⟨.inr hrested, haccepted⟩
  | @event server rested next last event events hsettles _ hoccurs hlater ih =>
      obtain ⟨hrested, haccepted⟩ := hsettles.closing hclosing
      rcases hrested.serves_of_atRest hsettles.atRest with hended | ⟨index, hphase, hserves⟩
      · obtain ⟨hlast, hsame⟩ := Leads.ended (hoccurs.leads.trans hlater.leads) hended
        exact ⟨.inl hlast, hsame.trans haccepted⟩
      · have hevent : event.isAttempt = false := by
          rw [← Bool.not_eq_true]
          intro hattempt
          -- The loop is busy, so the attempt would still be ahead at the next rest.
          have hrest := hsettles.atRest.attempt hserves hphase hattempt
          have hnext : next = event.apply rested := by
            cases hoccurs with
            | wait => cases hattempt
            | event => rfl
          subst next
          obtain ⟨first, hfirst, hallowed⟩ := hlater.exists_settles
          cases hfirst.eq_of_atRest hrest
          rcases hallowed with hended | hempty
          · rw [phase_apply, hphase] at hended
            cases hended
          · exact not_queueEmpty_apply hattempt rested hempty
        obtain ⟨hnext, hsame⟩ := hoccurs.closing hrested hevent
        obtain ⟨hlast, hlater⟩ := ih hnext
        exact ⟨hlast, hlater.trans (hsame.trans haccepted)⟩

/-- Whether a server can come about and has accepted the client at some place. -/
structure Accepted (setup : Setup) (slots index : Nat) (server : Server) : Prop where
  reachable : Reachable setup slots server
  lt_accepted : index < server.stats.accepted

theorem Accepted.leads (haccepted : Accepted setup slots index server)
    (hleads : Leads setup server next) : Accepted setup slots index next :=
  ⟨haccepted.reachable.trans hleads,
    Nat.lt_of_lt_of_le haccepted.lt_accepted hleads.stats_le.1⟩

theorem Accepted.lt_length (haccepted : Accepted setup slots index server) :
    index < server.connections.length :=
  Nat.lt_of_lt_of_le haccepted.lt_accepted haccepted.reachable.ledger.accepted_le

theorem Accepted.not_waiting (haccepted : Accepted setup slots index server)
    (hget : server.connections[index]? = some connection) :
    connection.stage.isWaiting = false := by
  rw [← Bool.not_eq_true,
    (haccepted.reachable.ledger.booked index connection hget).waiting_iff]
  exact Nat.not_le.mpr haccepted.lt_accepted

theorem Serves.accepted (hreachable : Reachable setup slots server)
    (hserves : server.Serves index) : Accepted setup slots index server := by
  obtain ⟨connection, hget, hflight⟩ := hserves
  exact ⟨hreachable, hreachable.ledger.lt_accepted hget (Connection.isInFlight_iff.mp hflight).1⟩

/-- Who is in flight has been so since the last client was accepted. -/
theorem Serves.earlier {earlier : Server} (hreachable : Reachable setup slots earlier)
    (hleads : Leads setup earlier server) (hserves : server.Serves index)
    (haccepted : server.stats.accepted = earlier.stats.accepted) : earlier.Serves index := by
  have hindex := (hserves.accepted (hreachable.trans hleads)).lt_accepted
  have hearlier : Accepted setup slots index earlier := ⟨hreachable, haccepted ▸ hindex⟩
  obtain ⟨before, hbefore⟩ : ∃ before, earlier.connections[index]? = some before :=
    ⟨_, List.getElem?_eq_getElem hearlier.lt_length⟩
  have hwaiting := hearlier.not_waiting hbefore
  obtain ⟨connection, hget, hflight⟩ := hserves
  obtain ⟨later, hlater, honward⟩ := hleads.onward hbefore
  cases hget.symm.trans hlater
  -- An exchange that is over has nothing left to do, then and later.
  have hrank := (Connection.isInFlight_iff_rank.mp hflight).1
  have hpos : 0 < before.stage.rank := by
    rcases honward.further with ⟨hstage, -⟩ | hless
    · rwa [← hstage]
    · omega
  refine ⟨before, hbefore, Connection.isInFlight_iff.mpr ⟨hwaiting, ?_⟩⟩
  rw [Connection.isOver]
  cases hstage : before.stage with
  | concluded outcome =>
      rw [hstage] at hpos
      cases hpos
  | waiting | accepted | reading | replying => rfl

theorem InTurn.ended_iff (hturn : InTurn server) (hledger : Ledger setup server)
    (hclosing : server.phase = .ended ∨ Closing server) (hrest : AtRest setup server) :
    server.phase = .ended ↔ ∀ index, ¬ server.Serves index := by
  constructor
  · rintro hended index ⟨connection, hget, hflight⟩
    cases hended.symm.trans (hturn.phase_eq hledger hget hflight)
  · intro hnone
    rcases hclosing with hended | hclosing
    · exact hended
    · rcases hclosing.serves_of_atRest hrest with hended | ⟨index, -, hserves⟩
      · exact hended
      · exact absurd hserves (hnone index)

theorem Passes.ended_iff (hmode : setup.mode = .sequential)
    (hreachable : Reachable setup slots server) (hundisturbed : Undisturbed setup slots server)
    (hpasses : Passes setup (fun rested => rested.phase = .ended ∨ rested.QueueEmpty)
      (Event.stop.apply server) events last) :
    last.stats.accepted = server.stats.accepted ∧
      (last.phase = .ended ↔ ∀ index, server.Serves index → ¬ last.Serves index) := by
  have hempty : server.QueueEmpty := by
    rcases hundisturbed.queue with hempty | ⟨hconcurrent, -⟩
    · exact hempty
    · cases hmode.symm.trans hconcurrent
  have hleads : Leads setup server last := .head (.event .stop server) hpasses.leads
  have hlast : Reachable setup slots last := hreachable.trans hleads
  obtain ⟨hclosing, haccepted⟩ := hpasses.closing (hundisturbed.closing hempty)
  refine ⟨haccepted, ?_⟩
  rw [(hlast.inTurn hmode).ended_iff hlast.ledger hclosing hpasses.atRest]
  constructor
  · exact fun hnone index _ => hnone index
  · intro hnone index hserves
    exact hnone index (hserves.earlier hreachable hleads haccepted) hserves

/-! ## Exchanges that go on -/

/-- Whether two servers are the same at the same time about one connection. -/
structure SameAt (index : Nat) (first second : Server) : Prop where
  now_eq : first.now = second.now
  connection_eq : first.connections[index]? = second.connections[index]?
  linesOf_eq : first.linesOf index = second.linesOf index

theorem Settles.prospect_eq (hsettles : Settles setup server rested) (index : Nat) :
    rested.now = server.now ∧ rested.prospect setup index = server.prospect setup index := by
  have hahead := hsettles.sameAhead (index + 1)
  exact ⟨hahead.now_eq.symm, (hahead.prospect_eq index (Nat.ne_of_lt (Nat.lt_succ_self _))).symm⟩

/-- Where the same lies ahead of a connection that has been accepted, the same is there at
rest. -/
theorem Settles.sameAt {rested' : Server} (hsettles : Settles setup first rested)
    (hsettles' : Settles setup second rested') (hfirst : Accepted setup slots index first)
    (hsecond : Accepted setup slots index second) (hnow : first.now = second.now)
    (hahead : first.prospect setup index = second.prospect setup index) :
    SameAt index rested rested' := by
  obtain ⟨hnow₁, hahead₁⟩ := hsettles.prospect_eq index
  obtain ⟨hnow₂, hahead₂⟩ := hsettles'.prospect_eq index
  have hboth : (rested.connections[index]?, rested.linesOf index) =
      (rested'.connections[index]?, rested'.linesOf index) := by
    calc (rested.connections[index]?, rested.linesOf index)
        = rested.prospect setup index := (hsettles.atRest.prospect_eq fun _ =>
            (hfirst.leads hsettles.leads).not_waiting).symm
      _ = rested'.prospect setup index := by rw [hahead₁, hahead, hahead₂]
      _ = (rested'.connections[index]?, rested'.linesOf index) :=
          hsettles'.atRest.prospect_eq fun _ => (hsecond.leads hsettles'.leads).not_waiting
  exact ⟨by rw [hnow₁, hnow, hnow₂], congrArg Prod.fst hboth, congrArg Prod.snd hboth⟩

theorem SameAt.apply (hsame : SameAt index first second) (event : Event)
    (hfirst : index < first.connections.length) (hsecond : index < second.connections.length) :
    SameAt index (event.apply first) (event.apply second) := by
  obtain ⟨hnow, hconnection, hlines⟩ := hsame
  have hmodify (place : Nat) (change : Connection → Connection) :
      SameAt index (first.modify place change) (second.modify place change) := by
    refine ⟨hnow, ?_, hlines⟩
    simp only [Server.modify, List.getElem?_modify, hconnection]
  cases event with
  | connect peer =>
      refine ⟨hnow, ?_, hlines⟩
      simp only [Event.apply, List.getElem?_append_left hfirst,
        List.getElem?_append_left hsecond, hconnection]
  | send | finish | close | reset | allow => exact hmodify _ _
  | wait pause => exact ⟨congrArg (· + pause) hnow, hconnection, hlines⟩
  | stop | starve | feed | refuse => exact ⟨hnow, hconnection, hlines⟩

/-- Two runs through the same events come to the same about a connection if they start so,
whatever else is different. -/
theorem Passes.sameAt {last' : Server} (hpasses : Passes setup allowed first events last)
    (hpasses' : Passes setup allowed' second events last')
    (hfirst : Accepted setup slots index first) (hsecond : Accepted setup slots index second)
    (hnow : first.now = second.now)
    (hahead : first.prospect setup index = second.prospect setup index) :
    SameAt index last last' := by
  induction hpasses generalizing second with
  | rest hsettles =>
      cases hpasses' with
      | rest hsettles' => exact hsettles.sameAt hsettles' hfirst hsecond hnow hahead
  | @event _ rested next _ event events hsettles _ hoccurs _ ih =>
      cases hpasses' with
      | @event _ rested' next' _ _ _ hsettles' _ hoccurs' hlater' =>
          have hrested := hfirst.leads hsettles.leads
          have hrested' := hsecond.leads hsettles'.leads
          have hsame := (hsettles.sameAt hsettles' hfirst hsecond hnow hahead).apply event
            hrested.lt_length hrested'.lt_length
          obtain ⟨hnow₁, -, hahead₁⟩ :=
            hoccurs.prospect_eq hsettles.atRest fun _ => hrested.not_waiting
          obtain ⟨hnow₂, -, hahead₂⟩ :=
            hoccurs'.prospect_eq hsettles'.atRest fun _ => hrested'.not_waiting
          refine ih hlater' (hrested.leads hoccurs.leads) (hrested'.leads hoccurs'.leads) ?_ ?_
          · rw [hnow₁, hsame.now_eq, hnow₂]
          · rw [hahead₁, hahead₂]
            exact prospect_congr hsame.now_eq hsame.connection_eq hsame.linesOf_eq

/-- What two servers have in common about the exchange of one connection: all about it, at
the same time, and what it adds to the counts. -/
structure SameExchange (index : Nat) (first second : Server) : Prop extends
    SameAt index first second where
  sentTo_eq : first.sentTo index = second.sentTo index
  completed_eq : first.share Stage.isCompleted index = second.share Stage.isCompleted index
  failed_eq : first.share Stage.isFailed index = second.share Stage.isFailed index

theorem SameAt.sameExchange (hsame : SameAt index first second) :
    SameExchange index first second where
  toSameAt := hsame
  sentTo_eq := by rw [sentTo, hsame.connection_eq, sentTo]
  completed_eq := by rw [share, hsame.connection_eq, share]
  failed_eq := by rw [share, hsame.connection_eq, share]

theorem Passes.sameExchange {last' : Server} (hreachable : Reachable setup slots server)
    (hserves : server.Serves index)
    (hpasses : Passes setup allowed (Event.stop.apply server) events last)
    (hpasses' : Passes setup allowed' server events last') : SameExchange index last last' := by
  have hserver := hserves.accepted hreachable
  have hstopped := hserver.leads (.single (.event .stop server))
  exact (hpasses.sameAt hpasses' hstopped hserver rfl rfl).sameExchange

/-! ## The end -/

/-- What comes of a server that can come about when it shall end, in whatever order its steps
come. -/
structure Concludes (setup : Setup) (slots : Nat) (server : Server) : Prop where
  ended_of_concurrent : setup.mode = .concurrent → Undisturbed setup slots server →
    ∀ allowed events last, Passes setup allowed (Event.stop.apply server) events last →
      last.phase = .ended ∧ last.stats.accepted = server.stats.accepted
  ended_iff_of_sequential : setup.mode = .sequential → Undisturbed setup slots server →
    ∀ events last,
      Passes setup (fun rested => rested.phase = .ended ∨ rested.QueueEmpty)
        (Event.stop.apply server) events last →
      last.stats.accepted = server.stats.accepted ∧
        (last.phase = .ended ↔ ∀ index, server.Serves index → ¬ last.Serves index)
  leftAlone_of_ended : server.phase = .ended → ∀ later, Leads setup server later →
    later.phase = .ended ∧ later.stats.accepted = server.stats.accepted ∧
      ∀ index, server.stats.accepted ≤ index → later.LeftAlone index
  sameExchange_of_serves : ∀ index, server.Serves index →
    ∀ allowed allowed' events last last',
      Passes setup allowed (Event.stop.apply server) events last →
      Passes setup allowed' server events last' → SameExchange index last last'

theorem Reachable.concludes (hreachable : Reachable setup slots server) :
    Concludes setup slots server where
  ended_of_concurrent hmode hundisturbed _ _ _ hpasses :=
    hpasses.ended hmode hreachable hundisturbed
  ended_iff_of_sequential hmode hundisturbed _ _ hpasses :=
    hpasses.ended_iff hmode hreachable hundisturbed
  leftAlone_of_ended := by
    intro hended later hleads
    obtain ⟨hphase, haccepted⟩ := hleads.ended hended
    have hlater : Reachable setup slots later := hreachable.trans hleads
    exact ⟨hphase, haccepted, fun index hindex => hlater.ledger.leftAlone (haccepted ▸ hindex)⟩
  sameExchange_of_serves _ hserves _ _ _ _ _ hpasses hpasses' :=
    hpasses.sameExchange hreachable hserves hpasses'

/-- A server whose only slot is held by a silent client, while another waits. -/
def heldServer : Server :=
  stepped concurrentSetup besetServer

end LineGreeting.Server
