import LineGreeting.Proofs.Server.Interleaving
import LineGreeting.Proofs.Server.Sequential
import LineGreeting.Proofs.Server.Slots

/-! # One slot is sequential service

A concurrent server with a single slot takes the slot where a sequential one waits
for a client, and waits for it to come back where the other serves. Step by step it
does the same for the same clients at the same times, so nobody but the watched
activity tells the two apart.
-/

namespace LineGreeting.Server

variable {setup : Setup} {server next sequential oneSlot : Server} {slots index : Nat}
variable {connection : Connection} {event : Event}

/-- The same setup in some mode. -/
def Setup.inMode (setup : Setup) (mode : ServerMode) : Setup :=
  { setup with mode }

/-- Whether the exchange at some place is over, if there is one. -/
def overAt (server : Server) (index : Nat) : Bool :=
  server.connections[index]?.all Connection.isOver

/-- The places of two loops that stand for each other: where the sequential server waits
for a client the other has its slot or is about to take it, and while the one serves the
slot of the other is with the exchange. -/
inductive SamePlace (sequential oneSlot : Server) : Prop
  | accepting (hphase : sequential.phase = .accepting) (hphase' : oneSlot.phase = .accepting)
      (hslots : oneSlot.slots = 0)
  | takingSlot (hphase : sequential.phase = .accepting)
      (hphase' : oneSlot.phase = .awaitingSlot) (hslots : oneSlot.slots = 1)
  | serving {index : Nat} (hphase : sequential.phase = .serving index)
      (hphase' : oneSlot.phase = .awaitingSlot)
      (hslots : oneSlot.slots = (sequential.overAt index).toNat)
  | backingOff {due : Nat} (hphase : sequential.phase = .backingOff due)
      (hphase' : oneSlot.phase = .backingOff due) (hslots : oneSlot.slots = 0)

/-- A server with one slot that goes along with a sequential one. -/
structure Mirrors (sequential oneSlot : Server) : Prop where
  now_eq : sequential.now = oneSlot.now
  connections_eq : sequential.connections = oneSlot.connections
  stats_eq : sequential.stats = oneSlot.stats
  printed_eq : sequential.printed = oneSlot.printed
  starved_eq : sequential.starved = oneSlot.starved
  refusals_eq : sequential.refusals = oneSlot.refusals
  going : sequential.stopping = false
  going' : oneSlot.stopping = false
  place : SamePlace sequential oneSlot

theorem SamePlace.congr {after after' : Server} (hplace : SamePlace sequential oneSlot)
    (hphase : after.phase = sequential.phase) (hphase' : after'.phase = oneSlot.phase)
    (hslots : after'.slots = oneSlot.slots)
    (hover : ∀ index, sequential.phase = .serving index →
      after.overAt index = sequential.overAt index) : SamePlace after after' := by
  cases hplace with
  | accepting hfirst hsecond hfree =>
      exact .accepting (hphase.trans hfirst) (hphase'.trans hsecond) (hslots.trans hfree)
  | takingSlot hfirst hsecond hfree =>
      exact .takingSlot (hphase.trans hfirst) (hphase'.trans hsecond) (hslots.trans hfree)
  | serving hfirst hsecond hfree =>
      rw [← hover _ hfirst, ← hslots] at hfree
      exact .serving (hphase.trans hfirst) (hphase'.trans hsecond) hfree
  | backingOff hfirst hsecond hfree =>
      exact .backingOff (hphase.trans hfirst) (hphase'.trans hsecond) (hslots.trans hfree)

theorem SamePlace.of_accepting (hplace : SamePlace sequential oneSlot)
    (hphase : oneSlot.phase = .accepting) :
    sequential.phase = .accepting ∧ oneSlot.slots = 0 := by
  cases hplace with
  | accepting hfirst _ hslots => exact ⟨hfirst, hslots⟩
  | takingSlot _ hother | serving _ hother | backingOff _ hother =>
      cases hphase.symm.trans hother

/-! ## Steps -/

theorem contend_of_going (hgoing : server.stopping = false) (goOn : Option Server) :
    server.contend setup goOn = goOn := by
  simp [contend, hgoing]

theorem Mirrors.firstWaiting?_eq (hmirrors : Mirrors sequential oneSlot) :
    sequential.firstWaiting? = oneSlot.firstWaiting? := by
  rw [firstWaiting?, hmirrors.connections_eq, firstWaiting?]

theorem Mirrors.refusals_nil (hmirrors : Mirrors sequential oneSlot)
    (hrefusals : oneSlot.refusals = []) : sequential.refusals = [] :=
  hmirrors.refusals_eq.trans hrefusals

theorem Mirrors.races (hmirrors : Mirrors sequential oneSlot) (races : Nat) :
    Mirrors sequential { oneSlot with races } :=
  { hmirrors with place := hmirrors.place.congr rfl rfl rfl fun _ _ => rfl }

theorem Mirrors.accept (hmirrors : Mirrors sequential oneSlot) (hslots : oneSlot.slots = 0)
    (hwaiting : oneSlot.firstWaiting? = some index) :
    Mirrors (sequential.accept (setup.inMode .sequential) index)
      (oneSlot.accept (setup.inMode .concurrent) index) where
  now_eq := hmirrors.now_eq
  connections_eq := by
    rw [connections_accept, connections_accept, hmirrors.connections_eq]
  stats_eq := by rw [stats_accept, stats_accept, hmirrors.stats_eq]
  printed_eq := by rw [printed_accept, printed_accept, hmirrors.printed_eq]
  starved_eq := hmirrors.starved_eq
  refusals_eq := hmirrors.refusals_eq
  going := hmirrors.going
  going' := hmirrors.going'
  place := by
    have hlength := (List.findIdx?_eq_some_iff_getElem.mp hwaiting).1
    refine .serving rfl rfl ?_
    rw [slots_accept, hslots, overAt, connections_accept, hmirrors.connections_eq,
      List.getElem?_modify_eq, List.getElem?_eq_getElem hlength]
    rfl

/-- Where one takes its slot the other has waited for the exchange, or for a client all
along. -/
theorem Mirrors.takeSlot (hmirrors : Mirrors sequential oneSlot)
    (hphase : oneSlot.phase = .awaitingSlot) (hfree : 0 < oneSlot.slots) :
    let next := { oneSlot with phase := .accepting, slots := oneSlot.slots - 1 }
    Mirrors sequential next ∨
      ∃ after, Works (setup.inMode .sequential) sequential after ∧ Mirrors after next := by
  cases hmirrors.place with
  | takingSlot hwaits _ hslots =>
      exact .inl { hmirrors with place := .accepting hwaits rfl (by simp [hslots]) }
  | @serving index hserving _ hslots =>
      -- The slot is back, so the exchange is over and the other loop turns away.
      have hover : sequential.overAt index = true := by
        by_contra hopen
        rw [Bool.not_eq_true] at hopen
        simp [hslots, hopen] at hfree
      refine .inr ⟨{ sequential.setActivity .listening with phase := .accepting }, .loop ?_,
        { hmirrors with place := .accepting rfl rfl (by simp [hslots, hover]) }⟩
      rw [overAt] at hover
      simp [loop?, hserving, hover]
  | accepting _ hother | backingOff _ hother => cases hphase.symm.trans hother

theorem Mirrors.loop (hmirrors : Mirrors sequential oneSlot)
    (hloop : LoopStep (setup.inMode .concurrent) oneSlot next) :
    Mirrors sequential next ∨
      ∃ after, Works (setup.inMode .sequential) sequential after ∧ Mirrors after next := by
  -- Taking the slot has no match in sequential mode; every other step is matched by one.
  cases hloop with
  | takeSlot hphase hfree => exact hmirrors.takeSlot hphase hfree
  | accept hphase hwaiting hfed hrefusals =>
      obtain ⟨haccepting, hslots⟩ := hmirrors.place.of_accepting hphase
      refine .inr ⟨_, .loop ?_, hmirrors.accept hslots hwaiting⟩
      rw [← hmirrors.firstWaiting?_eq] at hwaiting
      rw [← hmirrors.starved_eq] at hfed
      simp [loop?, haccepting, contend_of_going hmirrors.going, attempt?, hwaiting, hfed,
        hmirrors.refusals_nil hrefusals]
  | @refuse cause later hphase hrefusals =>
      obtain ⟨haccepting, hslots⟩ := hmirrors.place.of_accepting hphase
      refine .inr ⟨{ sequential with refusals := later }.backOff cause, .loop ?_,
        { hmirrors with refusals_eq := rfl, place := ?_ }⟩
      · rw [← hmirrors.refusals_eq] at hrefusals
        simp [loop?, haccepting, contend_of_going hmirrors.going, attempt?, hrefusals]
      · exact .backingOff rfl (by rw [hmirrors.now_eq]; rfl) hslots
  | starve hphase hwaiting hstarved hrefusals =>
      obtain ⟨haccepting, hslots⟩ := hmirrors.place.of_accepting hphase
      refine .inr ⟨sequential.backOff (.system .noDescriptorLeft), .loop ?_,
        { hmirrors with place := ?_ }⟩
      · rw [← hmirrors.firstWaiting?_eq] at hwaiting
        rw [← hmirrors.starved_eq] at hstarved
        simp [loop?, haccepting, contend_of_going hmirrors.going, attempt?, hwaiting, hstarved,
          hmirrors.refusals_nil hrefusals]
      · exact .backingOff rfl (by rw [hmirrors.now_eq]; rfl) hslots
  | shutDown hphase hstopping =>
      rw [hmirrors.going'] at hstopping
      cases hstopping
  | turn hphase =>
      cases hmirrors.place with
      | accepting _ hother | takingSlot _ hother | serving _ hother | backingOff _ hother =>
          cases hphase.symm.trans hother
  | retry hphase hdue hmode => cases hmode
  | giveUp hphase hdue =>
      cases hmirrors.place with
      | backingOff hback hother hslots =>
          cases hphase.symm.trans hother
          refine .inr ⟨{ sequential with phase := .accepting }, .loop ?_,
            { hmirrors with place := .takingSlot rfl rfl (by simp [hslots]) }⟩
          rw [← hmirrors.now_eq] at hdue
          simp [loop?, hback, hdue, Setup.inMode]
      | accepting _ hother | takingSlot _ hother | serving _ hother =>
          cases hphase.symm.trans hother

/-- An exchange goes on in the same way: its peer, the clock and the responder are the
same, and the slot comes back in the step that ends it. -/
theorem Mirrors.proceed {step : Advance} (hmirrors : Mirrors sequential oneSlot)
    (hserving : sequential.phase = .serving index)
    (hget : sequential.connections[index]? = some connection)
    (hopen : connection.isOver = false) :
    Mirrors (sequential.proceed (setup.inMode .sequential) index step)
      (oneSlot.proceed (setup.inMode .concurrent) index step) where
  now_eq := hmirrors.now_eq
  connections_eq := by
    rw [connections_proceed, connections_proceed, hmirrors.connections_eq]
  stats_eq := by rw [stats_proceed, stats_proceed, hmirrors.stats_eq]
  printed_eq := congrArg (· ++ step.printed.toList.map (index, ·)) hmirrors.printed_eq
  starved_eq := hmirrors.starved_eq
  refusals_eq := hmirrors.refusals_eq
  going := hmirrors.going
  going' := hmirrors.going'
  place := by
    cases hmirrors.place with
    | serving hplace hother hslots =>
        cases hserving.symm.trans hplace
        refine .serving hserving hother ?_
        rw [overAt, hget, Option.all_some, hopen] at hslots
        rw [slots_proceed rfl, hslots, overAt, connections_proceed, List.getElem?_modify_eq, hget]
        exact Nat.zero_add _
    | accepting hplace | takingSlot hplace | backingOff hplace =>
        cases hserving.symm.trans hplace

/-- Each step with one slot is a step in sequence, or the loop just takes its slot. -/
theorem Mirrors.works (hmirrors : Mirrors sequential oneSlot) (hturn : InTurn sequential)
    (hledger : Ledger (setup.inMode .sequential) sequential)
    (hworks : Works (setup.inMode .concurrent) oneSlot next) :
    Mirrors sequential next ∨
      ∃ after, Works (setup.inMode .sequential) sequential after ∧ Mirrors after next := by
  cases hworks with
  | loop hloop =>
      obtain ⟨after, races, hafter, rfl⟩ := loop_cases hloop
      rcases hmirrors.loop hafter with hsame | ⟨later, hlater, hsame⟩
      · exact .inl (hsame.races races)
      · exact .inr ⟨later, hlater, hsame.races races⟩
  | exchange hget hstep =>
      rw [← hmirrors.connections_eq] at hget
      rw [← hmirrors.now_eq] at hstep
      have hflight := (advance_cases hstep).isInFlight
      refine .inr ⟨_, .exchange hget hstep, ?_⟩
      exact hmirrors.proceed (hturn.phase_eq hledger hget hflight) hget
        (Connection.isInFlight_iff.mp hflight).2

theorem Mirrors.atRest (hmirrors : Mirrors sequential oneSlot)
    (hrest : AtRest (setup.inMode .concurrent) oneSlot) :
    AtRest (setup.inMode .sequential) sequential := by
  have hloop := hrest.loop?_eq_none
  apply atRest_of_none
  · cases hmirrors.place with
    | accepting hphase hother =>
        rw [loop?, hother] at hloop
        dsimp only at hloop
        rw [contend_of_going hmirrors.going', attempt?_eq_none_iff] at hloop
        have hnone : sequential.attempt? (setup.inMode .sequential) = none :=
          attempt?_eq_none_iff.mpr ⟨hmirrors.refusals_nil hloop.1,
            hmirrors.firstWaiting?_eq.trans hloop.2⟩
        simp [loop?, hphase, contend_of_going hmirrors.going, hnone]
    | takingSlot hphase hother hslots =>
        simp [loop?, hother, contend_of_going hmirrors.going', hslots] at hloop
    | @serving place hphase hother hslots =>
        -- The slot would not lie around if the exchange were over.
        have hopen : sequential.overAt place = false := by
          by_contra hover
          rw [Bool.not_eq_false] at hover
          simp [loop?, hother, contend_of_going hmirrors.going', hslots, hover] at hloop
        rw [overAt] at hopen
        simp [loop?, hphase, hopen]
    | @backingOff due hphase hother =>
        have hearly : ¬ due ≤ sequential.now := by
          intro hdue
          rw [hmirrors.now_eq] at hdue
          simp [loop?, hother, hdue, Setup.inMode] at hloop
        simp [loop?, hphase, hearly]
  · intro connection hmem
    rw [hmirrors.connections_eq] at hmem
    obtain ⟨index, hget⟩ := List.getElem?_of_mem hmem
    rw [hmirrors.now_eq]
    exact hrest.advance?_eq_none hget

/-! ## Between two events -/

theorem InTurn.unique (hturn : InTurn server) (hledger : Ledger setup server) {other : Server}
    (hfirst : Works setup server next) (hsecond : Works setup server other) : next = other := by
  -- An exchange that can go on is the one that the loop waits for.
  have hwaits (index : Nat) (connection : Connection) (step : Advance)
      (hget : server.connections[index]? = some connection)
      (hstep : connection.advance? setup server.now = some step) :
      server.phase = .serving index ∧ server.loop? setup = none := by
    have hflight := (advance_cases hstep).isInFlight
    have hphase := hturn.phase_eq hledger hget hflight
    have hopen := (Connection.isInFlight_iff.mp hflight).2
    exact ⟨hphase, by simp [loop?, hphase, hget, hopen]⟩
  cases hfirst with
  | loop hloop =>
      cases hsecond with
      | loop hother => exact Option.some_inj.mp (hloop.symm.trans hother)
      | exchange hget hstep => cases hloop.symm.trans (hwaits _ _ _ hget hstep).2
  | exchange hget hstep =>
      have hplace := hwaits _ _ _ hget hstep
      cases hsecond with
      | loop hother => cases hother.symm.trans hplace.2
      | exchange hget' hstep' =>
          cases hplace.1.symm.trans (hwaits _ _ _ hget' hstep').1
          cases hget.symm.trans hget'
          cases hstep.symm.trans hstep'
          rfl

theorem Works.reachable (hreachable : Reachable setup slots server)
    (hworks : Works setup server next) : Reachable setup slots next :=
  hreachable.tail hworks.moves

/-- A sequential server comes to rest in one state only. -/
theorem Settles.unique {rested other : Server} (hmode : setup.mode = .sequential)
    (hreachable : Reachable setup slots server) (hfirst : Settles setup server rested)
    (hsecond : Settles setup server other) : rested = other := by
  obtain ⟨hworks, hrest⟩ := hfirst
  obtain ⟨hworks', hrest'⟩ := hsecond
  induction hworks using Relation.ReflTransGen.head_induction_on with
  | refl =>
      rcases hworks'.cases_head with rfl | ⟨middle, hnext, -⟩
      · rfl
      · exact absurd hnext hrest.not_works
  | @head server middle hnext hlater ih =>
      rcases hworks'.cases_head with rfl | ⟨middle', hnext', hlater'⟩
      · exact absurd hnext hrest'.not_works
      · cases (hreachable.inTurn hmode).unique hreachable.ledger hnext hnext'
        exact ih (hnext.reachable hreachable) hlater'

theorem Mirrors.settles {rested : Server} (hmirrors : Mirrors sequential oneSlot)
    (hreachable : Reachable (setup.inMode .sequential) slots sequential)
    (hsettles : Settles (setup.inMode .concurrent) oneSlot rested) :
    ∃ resting, Settles (setup.inMode .sequential) sequential resting ∧ Mirrors resting rested := by
  obtain ⟨hworks, hrest⟩ := hsettles
  -- A step that just takes the slot has no counterpart, so the two runs differ in length.
  induction hworks using Relation.ReflTransGen.head_induction_on generalizing sequential with
  | refl => exact ⟨sequential, ⟨.refl, hmirrors.atRest hrest⟩, hmirrors⟩
  | head hnext hlater ih =>
      rcases hmirrors.works (hreachable.inTurn rfl) hreachable.ledger hnext with
        hsame | ⟨after, hafter, hsame⟩
      · exact ih hsame hreachable
      · obtain ⟨resting, ⟨hresting, hatRest⟩, hlast⟩ := ih hsame (hafter.reachable hreachable)
        exact ⟨resting, ⟨.head hafter hresting, hatRest⟩, hlast⟩

/-! ## Events -/

theorem EventStep.overAt_eq (hevent : EventStep server next)
    (hindex : index < server.connections.length) : next.overAt index = server.overAt index := by
  rw [overAt, overAt]
  cases hevent with
  | connect peer => rw [List.getElem?_append_left hindex]
  | peer place hchange =>
      rw [modify, List.getElem?_modify]
      cases server.connections[index]? with
      | none => rfl
      | some connection =>
          by_cases hplace : place = index
          · simp [hplace, Connection.isOver, (hchange connection).stage]
          · simp [hplace]
  | around => rfl

theorem Mirrors.apply (hmirrors : Mirrors sequential oneSlot)
    (hreachable : Reachable (setup.inMode .sequential) slots sequential)
    (hgoing : event ≠ .stop) : Mirrors (event.apply sequential) (event.apply oneSlot) := by
  have hplace : SamePlace (event.apply sequential) (event.apply oneSlot) := by
    refine hmirrors.place.congr (phase_apply ..) (phase_apply ..) (slots_apply ..) ?_
    intro index hserving
    have haccepted := (hreachable.inTurn rfl).accepted_of_serving index hserving
    have hle := hreachable.ledger.accepted_le
    exact (event_cases event sequential).overAt_eq (by omega)
  obtain ⟨hnow, hconnections, hstats, hprinted, hstarved, hrefusals, hgoes, hgoes', -⟩ := hmirrors
  cases event with
  | connect | send | finish | close | reset | allow =>
      exact ⟨hnow, by simp only [Event.apply, modify, hconnections], hstats, hprinted, hstarved,
        hrefusals, hgoes, hgoes', hplace⟩
  | wait pause =>
      exact ⟨congrArg (· + pause) hnow, hconnections, hstats, hprinted, hstarved, hrefusals, hgoes,
        hgoes', hplace⟩
  | stop => exact absurd rfl hgoing
  | starve | feed =>
      exact ⟨hnow, hconnections, hstats, hprinted, rfl, hrefusals, hgoes, hgoes', hplace⟩
  | refuse cause =>
      exact ⟨hnow, hconnections, hstats, hprinted, hstarved, congrArg (· ++ [cause]) hrefusals,
        hgoes, hgoes', hplace⟩

/-- The clock stops for both at the same alarms. -/
theorem Mirrors.nextAlarm?_eq (hmirrors : Mirrors sequential oneSlot) :
    sequential.nextAlarm? (setup.inMode .sequential) =
      oneSlot.nextAlarm? (setup.inMode .concurrent) := by
  have hphase : sequential.phase.alarm? = oneSlot.phase.alarm? := by
    cases hmirrors.place with
    | accepting hfirst hsecond | takingSlot hfirst hsecond | serving hfirst hsecond
    | backingOff hfirst hsecond => simp [hfirst, hsecond, Phase.alarm?]
  rw [nextAlarm?, nextAlarm?, alarms, alarms, hphase, hmirrors.now_eq, hmirrors.connections_eq]
  rfl

theorem Mirrors.elapses {pause : Nat} {next' : Server} (hmirrors : Mirrors sequential oneSlot)
    (hreachable : Reachable (setup.inMode .sequential) slots sequential)
    (helapses : Elapses (setup.inMode .sequential) sequential pause next)
    (helapses' : Elapses (setup.inMode .concurrent) oneSlot pause next') :
    Mirrors next next' := by
  have halarms : sequential.nextAlarm? (setup.inMode .sequential) =
      oneSlot.nextAlarm? (setup.inMode .concurrent) := hmirrors.nextAlarm?_eq
  have hnow := hmirrors.now_eq
  induction helapses generalizing oneSlot with
  | quiet hquiet =>
      cases helapses' with
      | quiet => exact hmirrors.apply hreachable nofun
      | alarm halarm hless => exact absurd (hquiet _ (halarms.trans halarm)) (by omega)
  | @alarm sequential rested last due pause halarm hless hsettles _ ih =>
      cases helapses' with
      | quiet hquiet => exact absurd (hquiet _ (halarms.symm.trans halarm)) (by omega)
      | @alarm _ rested' _ due' _ halarm' _ hsettles' hlater' =>
          cases halarm.symm.trans (halarms.trans halarm')
          rw [← hnow] at hsettles' hlater'
          have hstopped : Mirrors ((Event.wait (due - sequential.now)).apply sequential)
              ((Event.wait (due - sequential.now)).apply oneSlot) :=
            hmirrors.apply hreachable nofun
          have hreached : Reachable (setup.inMode .sequential) slots _ :=
            hreachable.tail (.event (.wait (due - sequential.now)) sequential)
          obtain ⟨resting, hresting, hrested⟩ := hstopped.settles hreached hsettles'
          cases hsettles.unique rfl hreached hresting
          exact ih hrested (hreached.trans hsettles.leads) hlater' hrested.nextAlarm?_eq
            hrested.now_eq

theorem Mirrors.occurs {next' : Server} (hmirrors : Mirrors sequential oneSlot)
    (hreachable : Reachable (setup.inMode .sequential) slots sequential) (hgoing : event ≠ .stop)
    (hoccurs : Occurs (setup.inMode .sequential) event sequential next)
    (hoccurs' : Occurs (setup.inMode .concurrent) event oneSlot next') :
    Mirrors next next' := by
  cases hoccurs with
  | wait helapses =>
      cases hoccurs' with
      | wait helapses' => exact hmirrors.elapses hreachable helapses helapses'
      | event hevent => exact absurd rfl (hevent _)
  | event hevent =>
      cases hoccurs' with
      | wait => exact absurd rfl (hevent _)
      | event => exact hmirrors.apply hreachable hgoing

/-! ## Runs -/

theorem Mirrors.passes {allowed allowed' : Server → Prop} {events : List Event}
    {last last' : Server} (hmirrors : Mirrors sequential oneSlot)
    (hreachable : Reachable (setup.inMode .sequential) slots sequential)
    (hgoing : .stop ∉ events)
    (hsequential : Passes (setup.inMode .sequential) allowed sequential events last)
    (honeSlot : Passes (setup.inMode .concurrent) allowed' oneSlot events last') :
    Mirrors last last' := by
  induction events generalizing sequential oneSlot with
  | nil =>
      cases hsequential with
      | rest hsettles =>
          cases honeSlot with
          | rest hsettles' =>
              obtain ⟨resting, hresting, hrested⟩ := hmirrors.settles hreachable hsettles'
              cases hsettles.unique rfl hreachable hresting
              exact hrested
  | cons event events ih =>
      cases hsequential with
      | event hsettles _ hoccurs hlater =>
          cases honeSlot with
          | event hsettles' _ hoccurs' hlater' =>
              obtain ⟨resting, hresting, hrested⟩ := hmirrors.settles hreachable hsettles'
              cases hsettles.unique rfl hreachable hresting
              have hreached := hreachable.trans hsettles.leads
              refine ih (hrested.occurs hreached ?_ hoccurs hoccurs')
                (hreached.trans hoccurs.leads) ?_ hlater hlater'
              · exact fun hstop => hgoing (hstop ▸ List.mem_cons_self)
              · exact fun hstop => hgoing (List.mem_cons_of_mem _ hstop)

theorem mirrors_initial (slots : Nat) :
    Mirrors (initial .sequential slots) (initial .concurrent 1) where
  now_eq := rfl
  connections_eq := rfl
  stats_eq := rfl
  printed_eq := rfl
  starved_eq := rfl
  refusals_eq := rfl
  going := rfl
  going' := rfl
  place := .takingSlot rfl rfl rfl

/-- How the connection at some place has been closed, if it has. -/
def endingOf (server : Server) (index : Nat) : Option Ending :=
  server.connections[index]?.bind Connection.ending?

/-- What two servers have in common if nobody but a watcher of their activity can tell
them apart: the time, what each client was sent, whether its connection is over and how,
the counts, and all that was printed. -/
structure Indistinguishable (first second : Server) : Prop where
  now_eq : first.now = second.now
  connections_eq : first.connections = second.connections
  sentTo_eq : ∀ index, first.sentTo index = second.sentTo index
  endingOf_eq : ∀ index, first.endingOf index = second.endingOf index
  stats_eq : first.stats = second.stats
  transcript_eq : first.transcript = second.transcript

theorem Mirrors.indistinguishable (hmirrors : Mirrors sequential oneSlot) :
    Indistinguishable sequential oneSlot where
  now_eq := hmirrors.now_eq
  connections_eq := hmirrors.connections_eq
  sentTo_eq _ := by rw [sentTo, sentTo, hmirrors.connections_eq]
  endingOf_eq _ := by rw [endingOf, endingOf, hmirrors.connections_eq]
  stats_eq := hmirrors.stats_eq
  transcript_eq := by rw [transcript, transcript, hmirrors.printed_eq]

/-- As long as nobody stops them, a sequential server and a concurrent one with a single
slot cannot be told apart whenever they rest, in whatever order their steps come. -/
theorem oneSlot_eq_sequential (setup : Setup) (slots : Nat) (events : List Event)
    (hgoing : .stop ∉ events) :
    Indistinguishable ((initial .sequential slots).run (setup.inMode .sequential) events)
      ((initial .concurrent 1).run (setup.inMode .concurrent) events) ∧
    ∀ sequential oneSlot,
      Passes (setup.inMode .sequential) (fun _ => True) (initial .sequential slots) events
        sequential →
      Passes (setup.inMode .concurrent) (fun _ => True) (initial .concurrent 1) events
        oneSlot →
      Indistinguishable sequential oneSlot := by
  have hall (sequential oneSlot : Server)
      (hsequential : Passes (setup.inMode .sequential) (fun _ => True)
        (initial .sequential slots) events sequential)
      (honeSlot : Passes (setup.inMode .concurrent) (fun _ => True)
        (initial .concurrent 1) events oneSlot) : Indistinguishable sequential oneSlot :=
    ((mirrors_initial slots).passes .refl hgoing hsequential honeSlot).indistinguishable
  refine ⟨hall _ _ ?_ ?_, hall⟩ <;> exact passes_run _ _ _ fun _ _ => trivial

/-- Two clients come at once, and the second cannot be accepted for a while. -/
def queueing : List Event :=
  [.connect ⟨.v4 .loopback, 1⟩, .connect ⟨.v4 .loopback, 2⟩, .starve, .finish 0, .wait 100,
    .feed, .wait 100, .reset 1]

theorem oneSlot_eq_sequential_queueing : .stop ∉ queueing ∧
    Indistinguishable
      ((initial .sequential 1).run (sequentialSetup.inMode .sequential) queueing)
      ((initial .concurrent 1).run (sequentialSetup.inMode .concurrent) queueing) := by
  have hgoing : .stop ∉ queueing := by decide
  exact ⟨hgoing, (oneSlot_eq_sequential sequentialSetup 1 queueing hgoing).1⟩

end LineGreeting.Server
