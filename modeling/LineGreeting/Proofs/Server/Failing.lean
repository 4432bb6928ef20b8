import LineGreeting.Proofs.Server.OnTime

/-! # Clients that cannot be accepted

Any attempt to accept a client can fail, for any cause, and the loop then waits and tries
again. A failure may come wherever the loop accepts, whoever waits, and as often as it likes.
It touches nothing but the place of the loop and the log, so no client, slot or count is
lost, the queue is served as it stands when accepting works again, and the exchanges that go
on meanwhile cannot tell.
-/

namespace LineGreeting.Server

open Relation (ReflTransGen)

variable {setup : Setup} {server next rested later failed : Server}
variable {slots index due : Nat} {connection : Connection}

/-! ## What failures leave alone -/

/-- Whether the next client in the order in which they came has been accepted from the queue,
and nobody else. -/
structure Admits (server next : Server) : Prop where
  accepted_eq : next.stats.accepted = server.stats.accepted + 1
  waiting : ∃ connection, server.connections[server.stats.accepted]? = some connection ∧
    connection.stage = .waiting
  connections_eq : next.connections = server.connections.modify server.stats.accepted
    fun connection => { connection with stage := .accepted }

theorem Moves.accepted_cases (hmove : Moves setup server next) (hledger : Ledger setup server) :
    next.stats.accepted = server.stats.accepted ∨ Admits server next := by
  cases hmove with
  | exchange => exact .inl (by rw [stats_proceed])
  | event event => exact .inl (by cases event <;> rfl)
  | loop hloop =>
      obtain ⟨after, races, hafter, rfl⟩ := loop_cases hloop
      cases hafter with
      | accept _ hwaiting =>
          obtain ⟨rfl, hfirst⟩ := hledger.firstWaiting?_eq hwaiting
          exact .inr ⟨by rw [stats_accept], hfirst, connections_accept ..⟩
      | takeSlot | refuse | starve | shutDown | turn | retry | giveUp => exact .inl rfl

/-- What a failure leaves as it is. -/
structure Unharmed (server next : Server) : Prop where
  now_eq : next.now = server.now
  stats_eq : next.stats = server.stats
  watched_eq : next.watched = server.watched
  printed_eq : next.printed = server.printed
  connections_eq : next.connections = server.connections
  slots_eq : next.slots = server.slots
  stopping_eq : next.stopping = server.stopping

/-- The loop comes to wait by a failure only, and then for just so long. -/
theorem Moves.unharmed (hmove : Moves setup server next)
    (hbefore : ∀ due, server.phase ≠ .backingOff due) (hphase : next.phase = .backingOff due) :
    Unharmed server next ∧ server.phase = .accepting ∧ due = server.now + backoff := by
  cases hmove with
  | exchange => exact absurd hphase (hbefore due)
  | event event =>
      rw [phase_apply] at hphase
      exact absurd hphase (hbefore due)
  | loop hloop =>
      obtain ⟨after, races, hafter, rfl⟩ := loop_cases hloop
      cases hafter with
      | refuse haccepting | starve haccepting =>
          cases hphase
          exact ⟨⟨rfl, rfl, rfl, rfl, rfl, rfl, rfl⟩, haccepting, rfl⟩
      | accept =>
          dsimp only at hphase
          rw [phase_accept] at hphase
          cases hmode : setup.mode <;> rw [hmode] at hphase <;> cases hphase
      | takeSlot | shutDown | turn | retry | giveUp => cases hphase

/-! ## Until it is time -/

theorem Moves.now_le (hmove : Moves setup server next) : server.now ≤ next.now := by
  cases hmove with
  | loop hloop => exact le_of_eq (Works.loop hloop).now_eq.symm
  | exchange => exact le_rfl
  | event event =>
      cases event with
      | wait pause => exact Nat.le_add_right _ _
      | connect | send | finish | close | reset | allow | stop | starve | feed | refuse =>
          exact le_rfl

/-- The only step that a waiting loop can take is the one that ends its wait. -/
theorem due_le_of_loop? (hphase : server.phase = .backingOff due)
    (hloop : server.loop? setup = some next) : due ≤ server.now := by
  simp only [loop?, hphase] at hloop
  split at hloop
  next hdue => exact hdue
  next => cases hloop

theorem Moves.held (hmove : Moves setup server next) (hphase : server.phase = .backingOff due) :
    next.phase = .backingOff due ∧ next.stats.accepted = server.stats.accepted ∨
      due ≤ next.now := by
  cases hmove with
  | exchange => exact .inl ⟨hphase, by rw [stats_proceed]⟩
  | event event => exact .inl ⟨(phase_apply event server).trans hphase, by cases event <;> rfl⟩
  | loop hloop =>
      rw [(Works.loop hloop).now_eq]
      exact .inr (due_le_of_loop? hphase hloop)

/-- Until it is time the loop does nothing, not even end, whatever happens. -/
theorem Leads.held (hleads : Leads setup server later) (hphase : server.phase = .backingOff due)
    (hearly : later.now < due) :
    later.phase = .backingOff due ∧ later.stats.accepted = server.stats.accepted := by
  have hheld : (later.phase = .backingOff due ∧
      later.stats.accepted = server.stats.accepted) ∨ due ≤ later.now := by
    clear hearly
    induction hleads with
    | refl => exact .inl ⟨hphase, rfl⟩
    | tail _ hlast ih =>
        rcases ih with ⟨hmiddle, haccepted⟩ | hdue
        · rcases hlast.held hmiddle with ⟨hnext, hsame⟩ | hdue
          · exact .inl ⟨hnext, hsame.trans haccepted⟩
          · exact .inr hdue
        · exact .inr (hdue.trans hlast.now_le)
  exact hheld.resolve_right (Nat.not_le.mpr hearly)

/-! ## Trying again -/

/-- How far a loop that goes on is with another try that is due at some time. -/
inductive Retrying (due : Nat) (server : Server) : Prop
  /-- It waits. -/
  | held (hgoing : server.stopping = false) (hphase : server.phase = .backingOff due)
      (hnow : server.now ≤ due)
  /-- It has given its slot back and takes it again. -/
  | freed (hgoing : server.stopping = false) (hphase : server.phase = .awaitingSlot)
      (hslots : 0 < server.slots) (hnow : server.now = due)

/-- Whether the loop accepts at some time. -/
def AcceptsAt (due : Nat) (server : Server) : Prop :=
  server.phase = .accepting ∧ server.now = due

/-- Whether the server shall end by some time. -/
def StopsBy (due : Nat) (server : Server) : Prop :=
  server.stopping = true ∧ server.now ≤ due

/-- Whether all that is due at some time has been done. -/
def DoneBy (setup : Setup) (due : Nat) (server : Server) : Prop :=
  due < server.now ∨ due = server.now ∧ AtRest setup server

/-- Whether some state is met on time on the way from one to another. -/
def Meets (setup : Setup) (met : Server → Prop) (server later : Server) : Prop :=
  ∃ middle, ReflTransGen (OnTime setup) server middle ∧
    ReflTransGen (OnTime setup) middle later ∧ met middle

theorem Meets.tail {met : Server → Prop} (hmeets : Meets setup met server next)
    (honTime : OnTime setup next later) : Meets setup met server later := by
  obtain ⟨middle, hbefore, hafter, hmet⟩ := hmeets
  exact ⟨middle, hbefore, hafter.tail honTime, hmet⟩

theorem slots_le_proceed (setup : Setup) (server : Server) (index : Nat) (step : Advance) :
    server.slots ≤ (server.proceed setup index step).slots := by
  rw [proceed]
  dsimp only
  split <;> omega

namespace Retrying

theorem works (hretrying : Retrying due server) (hworks : Works setup server next) :
    Retrying due next ∨ AcceptsAt due next := by
  cases hworks with
  | exchange =>
      cases hretrying with
      | held hgoing hphase hnow => exact .inl (.held hgoing hphase hnow)
      | freed hgoing hphase hslots hnow =>
          exact .inl (.freed hgoing hphase (hslots.trans_le (slots_le_proceed ..)) hnow)
  | loop hloop =>
      have hnext := (Works.loop hloop).now_eq
      cases hretrying with
      | held hgoing hphase hnow =>
          have hdue : server.now = due := le_antisymm hnow (due_le_of_loop? hphase hloop)
          obtain ⟨after, races, hafter, rfl⟩ := loop_cases hloop
          cases hafter with
          | retry => exact .inr ⟨rfl, hdue⟩
          | giveUp => exact .inl (.freed hgoing rfl (Nat.succ_pos _) hdue)
          | takeSlot hother | accept hother | refuse hother | starve hother | turn hother =>
              cases hphase.symm.trans hother
          | shutDown _ hstopping => cases hgoing.symm.trans hstopping
      | freed hgoing hphase hslots hnow =>
          obtain ⟨after, races, hafter, rfl⟩ := loop_cases hloop
          cases hafter with
          | takeSlot => exact .inr ⟨rfl, hnow⟩
          | accept hother | refuse hother | starve hother | turn hother | retry hother
          | giveUp hother => cases hphase.symm.trans hother
          | shutDown _ hstopping => cases hgoing.symm.trans hstopping

theorem apply {event : Event} (hretrying : Retrying due server)
    (hevent : ∀ pause, event ≠ .wait pause) :
    Retrying due (event.apply server) ∨ StopsBy due (event.apply server) := by
  cases event with
  | wait pause => exact absurd rfl (hevent pause)
  | stop =>
      cases hretrying with
      | held _ _ hnow => exact .inr ⟨rfl, hnow⟩
      | freed _ _ _ hnow => exact .inr ⟨rfl, le_of_eq hnow⟩
  | connect | send | finish | close | reset | allow | starve | feed | refuse =>
      cases hretrying with
      | held hgoing hphase hnow => exact .inl (.held hgoing hphase hnow)
      | freed hgoing hphase hslots hnow => exact .inl (.freed hgoing hphase hslots hnow)

/-- At rest it is not yet time. -/
theorem lt_due (hretrying : Retrying due server) (hrest : AtRest setup server) :
    server.now < due ∧ server.phase = .backingOff due := by
  have hloop := hrest.loop?_eq_none
  cases hretrying with
  | held hgoing hphase hnow =>
      refine ⟨Nat.not_le.mp fun hdue => ?_, hphase⟩
      simp only [loop?, hphase, if_pos hdue] at hloop
      split at hloop <;> cases hloop
  | freed hgoing hphase hslots => simp [loop?, hphase, contend, hgoing, hslots] at hloop

/-- No time passes the alarm of a loop that waits. -/
theorem wait {pause : Nat} (hretrying : Retrying due server) (hrest : AtRest setup server)
    (hquiet : ∀ due, server.nextAlarm? setup = some due → server.now + pause ≤ due) :
    Retrying due ((Event.wait pause).apply server) := by
  obtain ⟨hless, hphase⟩ := hretrying.lt_due hrest
  have hgoing : server.stopping = false := by cases hretrying <;> assumption
  have halarm : due ∈ server.alarms setup := by simp [alarms, hphase, Phase.alarm?]
  exact .held hgoing hphase (le_of_quiet hquiet halarm hless)

theorem onTime (hretrying : Retrying due server) (honTime : OnTime setup server next) :
    Retrying due next ∨ AcceptsAt due next ∨ StopsBy due next := by
  cases honTime with
  | event hevent => exact (hretrying.apply hevent).imp_right .inr
  | goesOn hgoesOn =>
      cases hgoesOn with
      | works hworks => exact (hretrying.works hworks).imp_right .inl
      | feeds hfeeds => exact (hretrying.apply (Event.ne_wait_of_feeds hfeeds)).imp_right .inr
      | wait hrest hquiet => exact .inl (hretrying.wait hrest hquiet)

theorem leads (hretrying : Retrying due server)
    (honTime : ReflTransGen (OnTime setup) server later) :
    Retrying due later ∨ Meets setup (AcceptsAt due) server later ∨
      Meets setup (StopsBy due) server later := by
  induction honTime with
  | refl => exact .inl hretrying
  | @tail middle last hbefore hlast ih =>
      rcases ih with hmiddle | haccepts | hstops
      -- What has been met once stays met; only a retry that is still due goes on.
      · have hthrough := hbefore.tail hlast
        rcases hmiddle.onTime hlast with hnext | haccepts | hstops
        · exact .inl hnext
        · exact .inr (.inl ⟨last, hthrough, .refl, haccepts⟩)
        · exact .inr (.inr ⟨last, hthrough, .refl, hstops⟩)
      · exact .inr (.inl (haccepts.tail hlast))
      · exact .inr (.inr (hstops.tail hlast))

theorem not_doneBy (hretrying : Retrying due server) : ¬ DoneBy setup due server := by
  rintro (hless | ⟨hdue, hrest⟩)
  · cases hretrying with
    | held _ _ hnow => exact Nat.not_le.mpr hless hnow
    | freed _ _ _ hnow => exact Nat.ne_of_gt hless hnow
  · exact Nat.ne_of_lt (hretrying.lt_due hrest).1 hdue.symm

end Retrying

/-- The loop accepts again just when it is time, or it shall end by then. -/
theorem meets_of_backingOff (hphase : server.phase = .backingOff due) (hnow : server.now ≤ due)
    (honTime : ReflTransGen (OnTime setup) server later) (hdone : DoneBy setup due later) :
    Meets setup (AcceptsAt due) server later ∨ Meets setup (StopsBy due) server later := by
  cases hstopping : server.stopping with
  | true => exact .inr ⟨server, .refl, honTime, hstopping, hnow⟩
  | false =>
      -- What is done by that time cannot be retrying any more.
      have hretrying : Retrying due server := .held hstopping hphase hnow
      exact (hretrying.leads honTime).resolve_left fun hlater => hlater.not_doneBy hdone

theorem Moves.stopping (hmove : Moves setup server next) (hstopping : server.stopping = true) :
    next.stopping = true := by
  cases hmove with
  | loop hloop => exact (Works.loop hloop).stopping_eq.trans hstopping
  | exchange => exact hstopping
  | event event => cases event <;> first | exact hstopping | rfl

theorem Leads.stopping (hleads : Leads setup server later) (hstopping : server.stopping = true) :
    later.stopping = true := by
  induction hleads with
  | refl => exact hstopping
  | tail _ hlast ih => exact hlast.stopping ih

/-- As long as the server goes on, the loop accepts again just when it is time. -/
theorem meets_of_going (hmeets : Meets setup (AcceptsAt due) server later ∨
    Meets setup (StopsBy due) server later) (hgoing : later.stopping = false) :
    Meets setup (AcceptsAt due) server later := by
  refine hmeets.resolve_right ?_
  rintro ⟨middle, -, hafter, hstopping, -⟩
  cases hgoing.symm.trans (Leads.stopping (leads_of_onTime hafter) hstopping)

/-! ## The queue when accepting works -/

/-- Whether all have been accepted for whom there is room. -/
def TakenIn (setup : Setup) (slots : Nat) (server : Server) : Prop :=
  server.QueueEmpty ∨ setup.mode = .concurrent ∧ server.inFlight = slots ∨
    setup.mode = .sequential ∧ ∃ index, server.Serves index

/-- Whether accepting works and nothing else keeps the loop from it. -/
structure Fed (server : Server) : Prop where
  going : server.stopping = false
  fed : server.starved = false
  unrefused : server.refusals = []
  due_le : ∀ due, server.phase = .backingOff due → due ≤ server.now

theorem Works.fed (hworks : Works setup server next) (hfed : Fed server) : Fed next := by
  obtain ⟨hgoing, hnotStarved, hunrefused, hdue⟩ := hfed
  cases hworks with
  | exchange => exact ⟨hgoing, hnotStarved, hunrefused, hdue⟩
  | loop hloop =>
      obtain ⟨after, races, hafter, rfl⟩ := loop_cases hloop
      cases hafter with
      | accept =>
          unfold accept
          split <;> exact ⟨hgoing, hnotStarved, hunrefused, fun _ => nofun⟩
      | refuse _ hrefusals => cases hunrefused.symm.trans hrefusals
      | starve _ _ hstarved => cases hnotStarved.symm.trans hstarved
      | shutDown _ hstopping => cases hgoing.symm.trans hstopping
      | takeSlot | turn | retry | giveUp =>
          exact ⟨hgoing, hnotStarved, hunrefused, fun _ => nofun⟩

namespace Reachable

/-- What a loop waits for with its client is an exchange that is not over. -/
theorem serves_of_atRest (hreachable : Reachable setup slots server)
    (hmode : setup.mode = .sequential) (hrest : AtRest setup server)
    (hphase : server.phase = .serving index) : server.Serves index := by
  obtain ⟨connection, hget, hopen⟩ := hrest.exists_open hphase
  have haccepted := (hreachable.inTurn hmode).accepted_of_serving index hphase
  refine ⟨connection, hget, Connection.isInFlight_iff.mpr ⟨?_, hopen⟩⟩
  rw [← Bool.not_eq_true, (hreachable.ledger.booked index connection hget).waiting_iff]
  omega

/-- A loop that goes on rests only where it has to wait, be it to try again. -/
theorem takenIn_of_atRest (hreachable : Reachable setup slots server)
    (hrest : AtRest setup server) (hgoing : server.stopping = false) :
    (∃ due, server.phase = .backingOff due ∧ server.now < due) ∨ TakenIn setup slots server := by
  have hloop := hrest.loop?_eq_none
  rw [loop?] at hloop
  cases hphase : server.phase with
  | awaitingSlot =>
      have hnoSlot : server.slots = 0 := by simpa [hphase, contend, hgoing] using hloop
      cases hmode : setup.mode with
      | sequential => exact absurd hphase (hreachable.inTurn hmode).not_awaiting
      | concurrent =>
          have hslots := (hreachable.balanced hmode).slots_eq
          rw [hphase, hnoSlot, Phase.held] at hslots
          exact .inr (.inr (.inl ⟨hmode, by omega⟩))
  | accepting =>
      have hnone : server.attempt? setup = none := by
        simpa [hphase, contend, hgoing] using hloop
      obtain ⟨hrefusals, hnobody⟩ := attempt?_eq_none_iff.mp hnone
      exact .inr (.inl ⟨hrefusals, List.findIdx?_eq_none_iff.mp hnobody⟩)
  | serving index =>
      cases hmode : setup.mode with
      | concurrent => exact absurd hphase ((hreachable.balanced hmode).not_serving index)
      | sequential =>
          exact .inr (.inr (.inr ⟨hmode, index, hreachable.serves_of_atRest hmode hrest hphase⟩))
  | backingOff due =>
      refine .inl ⟨due, rfl, Nat.not_le.mp fun hdue => ?_⟩
      simp only [hphase, if_pos hdue] at hloop
      split at hloop <;> cases hloop
  | ended => cases hgoing.symm.trans (hreachable.stopping_of_ended hphase)

end Reachable

theorem Fed.takenIn (hfed : Fed server) (hrested : Reachable setup slots rested)
    (hsettles : Settles setup server rested) : TakenIn setup slots rested := by
  have hlast := hsettles.kept (fun _ _ hbefore hworks => hworks.fed hbefore) hfed
  refine (hrested.takenIn_of_atRest hsettles.atRest hlast.going).resolve_left ?_
  rintro ⟨due, hphase, hless⟩
  exact Nat.not_le.mpr hless (hlast.due_le due hphase)

/-! ## Nothing is lost -/

/-- What failures leave of a server with some slots, from now on. -/
structure Persists (setup : Setup) (slots : Nat) (server : Server) : Prop where
  stopping_of_ended : server.phase = .ended → server.stopping = true
  slots_eq : setup.mode = .concurrent →
    server.slots + server.inFlight + server.phase.held = slots
  /-- A failure is the only way to wait for another try. -/
  unharmed : ∀ failed due, Moves setup server failed →
    (∀ due, server.phase ≠ .backingOff due) → failed.phase = .backingOff due →
    Unharmed server failed ∧ server.phase = .accepting ∧ due = server.now + 100
  /-- The end of the server is not noticed either. -/
  held : ∀ due later, server.phase = .backingOff due → Leads setup server later →
    later.now < due → later.phase = .backingOff due ∧ later.stats.accepted = server.stats.accepted
  /-- The next try comes just so long after a failure, unless the server shall end by then. -/
  retried : ∀ failed due later, Moves setup server failed →
    (∀ due, server.phase ≠ .backingOff due) → failed.phase = .backingOff due →
    ReflTransGen (OnTime setup) failed later → DoneBy setup (server.now + 100) later →
    Meets setup (AcceptsAt (server.now + 100)) failed later ∨
      Meets setup (StopsBy (server.now + 100)) failed later
  /-- Those in the queue are the last ones. -/
  waiting_iff : ∀ index connection, server.connections[index]? = some connection →
    (connection.stage = .waiting ↔ server.stats.accepted ≤ index)
  accepted_cases : ∀ next, Moves setup server next →
    next.stats.accepted = server.stats.accepted ∨ Admits server next
  /-- Nobody gets lost, changes places or goes back to the queue. -/
  onward : ∀ (later : Server) (index : Nat) (connection : Connection), Leads setup server later →
    server.connections[index]? = some connection →
    ∃ other, later.connections[index]? = some other ∧ connection.Onward other
  takenIn_of_atRest : AtRest setup server → server.stopping = false →
    (∃ due, server.phase = .backingOff due ∧ server.now < due) ∨ TakenIn setup slots server
  takenIn_of_fed : Fed server → ∀ rested, Settles setup server rested →
    TakenIn setup slots rested
  sameExchange : ∀ index, server.Serves index → ∀ happened last last',
    Endures setup server happened last → Endures setup server happened last' →
    last.now = last'.now → SameExchange index last last'

theorem Reachable.persists (hreachable : Reachable setup slots server) :
    Persists setup slots server where
  stopping_of_ended := hreachable.stopping_of_ended
  slots_eq hmode := (hreachable.balanced hmode).slots_eq
  unharmed _ _ hmove hbefore hphase := hmove.unharmed hbefore hphase
  held _ _ hphase hleads hearly := hleads.held hphase hearly
  retried failed due later hmove hbefore hphase honTime hdone := by
    obtain ⟨hunharmed, -, rfl⟩ := hmove.unharmed hbefore hphase
    have hnow : failed.now ≤ server.now + backoff :=
      (le_of_eq hunharmed.now_eq).trans (Nat.le_add_right _ _)
    exact meets_of_backingOff hphase hnow honTime hdone
  waiting_iff index connection hget := by
    rw [← Stage.isWaiting_iff]
    exact (hreachable.ledger.booked index connection hget).waiting_iff
  accepted_cases _ hmove := hmove.accepted_cases hreachable.ledger
  onward _ _ _ hleads hget := hleads.onward hget
  takenIn_of_atRest hrest hgoing := hreachable.takenIn_of_atRest hrest hgoing
  takenIn_of_fed hfed rested hsettles :=
    hfed.takenIn (hreachable.trans hsettles.leads) hsettles
  sameExchange index hserves _ _ _ hendures hendures' hnow := by
    have haccepted := hserves.accepted hreachable
    exact (hendures.sameAt hendures' hnow haccepted haccepted fun _ => rfl).sameExchange

/-- A server that has announced its first client and accepts the next. -/
def servingServer : Server :=
  let server := (Event.connect ⟨.v4 .loopback, 1⟩).apply (initial .concurrent 2)
  let server := stepped concurrentSetup (stepped concurrentSetup server)
  stepped concurrentSetup (stepped concurrentSetup server)

/-- The same server when the next attempt is about to fail. -/
def refusedServer : Server :=
  (Event.refuse (.system .connectionReset)).apply servingServer

/-- The same server when it has failed. -/
def failedServer : Server :=
  stepped concurrentSetup refusedServer

end LineGreeting.Server
