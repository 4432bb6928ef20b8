import LineGreeting.Proofs.Server.Shutdown

/-! # What is done on time

In a run the clock goes on at rest only and stops at every alarm, so whatever is due is done
just then. Between two of the things that happen to the clients a server goes on by itself:
it takes its steps, time passes, and attempts to accept begin to fail or work again. What
comes of an exchange that has begun by some point of time owes nothing to how that goes.
-/

namespace LineGreeting.Server

open Relation (ReflTransGen)

variable {setup : Setup} {server next rested last later first second : Server}
variable {slots index due time pause : Nat} {event : Event} {events : List Event}
variable {happened : List (Nat × Event)} {allowed : Server → Prop}

/-- Whether an event says no more than whether clients can be accepted. -/
def Event.feeds : Event → Bool
  | .starve | .feed | .refuse _ => true
  | .connect _ | .send .. | .finish _ | .close _ | .reset _ | .allow .. | .wait _ | .stop => false

/-- A step, or some time at rest that passes no alarm, or a change in whether clients can be
accepted. -/
inductive GoesOn (setup : Setup) : Server → Server → Prop
  | works {server next : Server} (hworks : Works setup server next) : GoesOn setup server next
  | feeds {event : Event} (hfeeds : event.feeds = true) (server : Server) :
      GoesOn setup server (event.apply server)
  | wait {server : Server} {pause : Nat} (hrest : AtRest setup server)
      (hquiet : ∀ due, server.nextAlarm? setup = some due → server.now + pause ≤ due) :
      GoesOn setup server ((Event.wait pause).apply server)

/-- Any of this, or anything that happens but the passing of time. -/
inductive OnTime (setup : Setup) : Server → Server → Prop
  | goesOn {server next : Server} (hgoesOn : GoesOn setup server next) : OnTime setup server next
  | event {event : Event} (hevent : ∀ pause, event ≠ .wait pause) (server : Server) :
      OnTime setup server (event.apply server)

theorem GoesOn.moves (hgoesOn : GoesOn setup server next) : Moves setup server next := by
  cases hgoesOn with
  | works hworks => exact hworks.moves
  | feeds | wait => exact .event _ server

theorem OnTime.moves (honTime : OnTime setup server next) : Moves setup server next := by
  cases honTime with
  | goesOn hgoesOn => exact hgoesOn.moves
  | event => exact .event _ server

theorem leads_of_goesOn (hgoesOn : ReflTransGen (GoesOn setup) server next) :
    Leads setup server next :=
  hgoesOn.lift id fun _ _ => GoesOn.moves

theorem leads_of_onTime (honTime : ReflTransGen (OnTime setup) server next) :
    Leads setup server next :=
  honTime.lift id fun _ _ => OnTime.moves

theorem onTime_of_goesOn (hgoesOn : ReflTransGen (GoesOn setup) server next) :
    ReflTransGen (OnTime setup) server next :=
  hgoesOn.lift id fun _ _ => .goesOn

/-- No time at rest passes an alarm. -/
theorem le_of_quiet (hquiet : ∀ due, server.nextAlarm? setup = some due → server.now + pause ≤ due)
    (halarm : due ∈ server.alarms setup) (hless : server.now < due) : server.now + pause ≤ due := by
  have hmin : (server.nextAlarm? setup).isSome := by
    rw [nextAlarm?, Option.isSome_iff_ne_none, ne_eq, List.min?_eq_none_iff]
    exact List.ne_nil_of_mem (List.mem_filter.mpr ⟨halarm, by simpa using hless⟩)
  obtain ⟨first, hfirst⟩ := Option.isSome_iff_exists.mp hmin
  have hle := (nextAlarm?_eq_some_iff.mp hfirst).2 due halarm hless
  exact (hquiet first hfirst).trans hle

theorem Works.now_eq (hworks : Works setup server next) : next.now = server.now :=
  (hworks.sameAhead 0).now_eq.symm

theorem now_apply (hevent : ∀ pause, event ≠ .wait pause) (server : Server) :
    (event.apply server).now = server.now := by
  cases event with
  | wait pause => exact absurd rfl (hevent pause)
  | _ => rfl

theorem Event.ne_wait_of_feeds (hfeeds : event.feeds = true) (pause : Nat) :
    event ≠ .wait pause := by
  rintro rfl
  cases hfeeds

theorem GoesOn.now_le (hgoesOn : GoesOn setup server next) : server.now ≤ next.now := by
  cases hgoesOn with
  | works hworks => exact le_of_eq hworks.now_eq.symm
  | feeds hfeeds => exact le_of_eq (now_apply (Event.ne_wait_of_feeds hfeeds) server).symm
  | wait => exact Nat.le_add_right _ _

theorem Settles.goesOn (hsettles : Settles setup server rested) :
    ReflTransGen (GoesOn setup) server rested :=
  hsettles.works.lift id fun _ _ => .works

theorem Settles.now_eq (hsettles : Settles setup server rested) : rested.now = server.now :=
  (hsettles.sameAhead 0).now_eq.symm

/-- Time that stops at the alarms passes none of them. -/
theorem Elapses.goesOn (helapses : Elapses setup server pause next) (hrest : AtRest setup server) :
    ReflTransGen (GoesOn setup) server next := by
  induction helapses with
  | quiet hquiet => exact .single (.wait hrest hquiet)
  | @alarm server rested last due pause halarm hless hsettles _ ih =>
      have hdue := (nextAlarm?_eq_some_iff.mp halarm).1.2
      refine .head (.wait hrest fun other hother => ?_) (hsettles.goesOn.trans (ih hsettles.atRest))
      cases halarm.symm.trans hother
      omega

theorem Elapses.now_eq (helapses : Elapses setup server pause next) :
    next.now = server.now + pause := by
  induction helapses with
  | quiet => rfl
  | @alarm server rested last due pause halarm hless hsettles _ ih =>
      have hdue := (nextAlarm?_eq_some_iff.mp halarm).1.2
      have hrested : rested.now = server.now + (due - server.now) := hsettles.now_eq
      omega

/-! ## What lies ahead of a connection at some time -/

/-- What a connection comes to by some time if nothing happens to it, and all lines that are
printed for it by then. -/
def outlook (setup : Setup) (server : Server) (time place : Nat) :
    Option Connection × List String :=
  let (ahead, lines) := server.prospect setup place
  (ahead.map fun connection => (connection.progress setup time).1,
    lines ++ (ahead.map fun connection => (connection.progress setup time).2).getD [])

theorem AtRest.outlook_eq (hrest : AtRest setup server)
    (hwaiting : ∀ connection, server.connections[index]? = some connection →
      connection.stage.isWaiting = false) :
    server.outlook setup server.now index = (server.connections[index]?, server.linesOf index) := by
  rw [outlook, hrest.prospect_eq hwaiting]
  cases hget : server.connections[index]? with
  | none => simp
  | some connection =>
      have hnone := hrest.advance?_eq_none hget
      simp [Connection.progress_of_none hnone]

theorem outlook_wait (hrest : AtRest setup server) (hle : server.now + pause ≤ time)
    (hwaiting : ∀ connection, server.connections[index]? = some connection →
      connection.stage.isWaiting = false) :
    ((Event.wait pause).apply server).outlook setup time index =
      server.outlook setup time index := by
  rw [outlook, outlook, hrest.prospect_eq hwaiting, prospect_wait pause hwaiting]
  cases hget : server.connections[index]? with
  | none => simp
  | some connection =>
      have hstages := Connection.progress_of_rest (hrest.advance?_eq_none hget) hle
      simp [hstages]

theorem GoesOn.outlook_eq (hgoesOn : GoesOn setup server next) (hle : next.now ≤ time)
    (hwaiting : ∀ connection, server.connections[index]? = some connection →
      connection.stage.isWaiting = false) :
    next.outlook setup time index = server.outlook setup time index := by
  cases hgoesOn with
  | works hworks =>
      have hahead := hworks.sameAhead (index + 1)
      rw [outlook, outlook, hahead.prospect_eq index (Nat.ne_of_lt (Nat.lt_succ_self index))]
  | @feeds event hfeeds =>
      cases event with
      | starve | feed | refuse => rfl
      | connect | send | finish | close | reset | allow | wait | stop => cases hfeeds
  | wait hrest => exact outlook_wait hrest hle hwaiting

theorem outlook_of_goesOn (hgoesOn : ReflTransGen (GoesOn setup) server next)
    (haccepted : Accepted setup slots index server) (hle : next.now ≤ time) :
    next.outlook setup time index = server.outlook setup time index := by
  induction hgoesOn with
  | refl => rfl
  | tail hbefore hlast ih =>
      have hmiddle := haccepted.leads (leads_of_goesOn hbefore)
      rw [hlast.outlook_eq hle fun _ => hmiddle.not_waiting, ih (hlast.now_le.trans hle)]

theorem SameAt.outlook_eq (hsame : SameAt index first second) (time : Nat) :
    first.outlook setup time index = second.outlook setup time index := by
  rw [outlook, outlook, prospect_congr hsame.now_eq hsame.connection_eq hsame.linesOf_eq]

/-! ## Runs on time -/

/-- Runs on time to a rest. What happens is kept with the time at which it does, and comes at
rest. -/
inductive Endures (setup : Setup) : Server → List (Nat × Event) → Server → Prop
  | rest {server rested : Server} (hgoesOn : ReflTransGen (GoesOn setup) server rested)
      (hrest : AtRest setup rested) : Endures setup server [] rested
  | event {server rested last : Server} {event : Event} {happened : List (Nat × Event)}
      (hgoesOn : ReflTransGen (GoesOn setup) server rested) (hrest : AtRest setup rested)
      (hevent : ∀ pause, event ≠ .wait pause)
      (hlater : Endures setup (event.apply rested) happened last) :
      Endures setup server ((rested.now, event) :: happened) last

/-- What happens from some time on and when, but that clients can be accepted or not. -/
def timed (now : Nat) : List Event → List (Nat × Event)
  | [] => []
  | .wait pause :: events => timed (now + pause) events
  | event :: events =>
    if event.feeds then timed now events else (now, event) :: timed now events

/-- How much time passes in all. -/
def span : List Event → Nat
  | [] => 0
  | .wait pause :: events => pause + span events
  | _ :: events => span events

theorem Endures.head (hgoesOn : ReflTransGen (GoesOn setup) server next)
    (hendures : Endures setup next happened last) : Endures setup server happened last := by
  cases hendures with
  | rest hlater hrest => exact .rest (hgoesOn.trans hlater) hrest
  | event hlater hrest hevent hlast => exact .event (hgoesOn.trans hlater) hrest hevent hlast

theorem Endures.onTime (hendures : Endures setup server happened last) :
    ReflTransGen (OnTime setup) server last := by
  induction hendures with
  | rest hgoesOn => exact onTime_of_goesOn hgoesOn
  | event hgoesOn _ hevent _ ih => exact (onTime_of_goesOn hgoesOn).trans (.head (.event hevent _) ih)

theorem timed_of_ne_wait (hevent : ∀ pause, event ≠ .wait pause) (now : Nat)
    (events : List Event) :
    timed now (event :: events) =
      if event.feeds then timed now events else (now, event) :: timed now events := by
  cases event with
  | wait pause => exact absurd rfl (hevent pause)
  | _ => rfl

theorem span_of_ne_wait (hevent : ∀ pause, event ≠ .wait pause) (events : List Event) :
    span (event :: events) = span events := by
  cases event with
  | wait pause => exact absurd rfl (hevent pause)
  | _ => rfl

/-- A run from rest to rest is on time, in whatever order its steps come. -/
theorem Passes.endures (hpasses : Passes setup allowed server events last) :
    Endures setup server (timed server.now events) last ∧ last.now = server.now + span events := by
  induction hpasses with
  | rest hsettles => exact ⟨.rest hsettles.goesOn hsettles.atRest, hsettles.now_eq⟩
  | @event server rested next last event events hsettles _ hoccurs _ ih =>
      obtain ⟨hlater, hlast⟩ := ih
      rw [← hsettles.now_eq]
      cases hoccurs with
      | @wait _ _ pause helapses =>
          have hgoesOn := hsettles.goesOn.trans (helapses.goesOn hsettles.atRest)
          rw [helapses.now_eq] at hlater hlast
          exact ⟨hlater.head hgoesOn, hlast.trans (Nat.add_assoc ..)⟩
      | event hevent =>
          rw [now_apply hevent] at hlater hlast
          refine ⟨?_, hlast.trans (by rw [span_of_ne_wait hevent])⟩
          rw [timed_of_ne_wait hevent]
          split
          next hfeeds => exact hlater.head (hsettles.goesOn.tail (.feeds hfeeds rested))
          next => exact .event hsettles.goesOn hsettles.atRest hevent hlater

/-- What the program does is on time. -/
theorem endures_run (setup : Setup) (server : Server) (events : List Event) :
    Endures setup server (timed server.now events) (server.run setup events) ∧
      (server.run setup events).now = server.now + span events := by
  have hpasses : Passes setup (fun _ => True) server events (server.run setup events) :=
    passes_run setup server events fun _ _ => trivial
  exact hpasses.endures

/-- Where two servers come to rest at the same time, the same is there if the same lay ahead. -/
theorem sameAt_of_goesOn {rested' : Server} (hfirst : Accepted setup slots index first)
    (hsecond : Accepted setup slots index second)
    (houtlook : ∀ time, first.outlook setup time index = second.outlook setup time index)
    (hgoesOn : ReflTransGen (GoesOn setup) first rested) (hrest : AtRest setup rested)
    (hgoesOn' : ReflTransGen (GoesOn setup) second rested') (hrest' : AtRest setup rested')
    (hnow : rested.now = rested'.now) : SameAt index rested rested' := by
  have hrested := hfirst.leads (leads_of_goesOn hgoesOn)
  have hrested' := hsecond.leads (leads_of_goesOn hgoesOn')
  have hboth : (rested.connections[index]?, rested.linesOf index) =
      (rested'.connections[index]?, rested'.linesOf index) := by
    calc (rested.connections[index]?, rested.linesOf index)
        = rested.outlook setup rested.now index :=
          (hrest.outlook_eq fun _ => hrested.not_waiting).symm
      _ = first.outlook setup rested.now index := outlook_of_goesOn hgoesOn hfirst le_rfl
      _ = second.outlook setup rested'.now index := by rw [houtlook, hnow]
      _ = rested'.outlook setup rested'.now index :=
          (outlook_of_goesOn hgoesOn' hsecond le_rfl).symm
      _ = (rested'.connections[index]?, rested'.linesOf index) :=
          hrest'.outlook_eq fun _ => hrested'.not_waiting
  exact ⟨hnow, congrArg Prod.fst hboth, congrArg Prod.snd hboth⟩

/-- Two runs in which the same happens at the same times come to the same about an exchange
that has begun, whatever failures to accept there are in either. -/
theorem Endures.sameAt {last' : Server} (hendures : Endures setup first happened last)
    (hendures' : Endures setup second happened last') (hnow : last.now = last'.now)
    (hfirst : Accepted setup slots index first) (hsecond : Accepted setup slots index second)
    (houtlook : ∀ time, first.outlook setup time index = second.outlook setup time index) :
    SameAt index last last' := by
  induction hendures generalizing second with
  | rest hgoesOn hrest =>
      cases hendures' with
      | rest hgoesOn' hrest' =>
          exact sameAt_of_goesOn hfirst hsecond houtlook hgoesOn hrest hgoesOn' hrest' hnow
  | @event first rested last event happened hgoesOn hrest hevent _ ih =>
      generalize hall : (rested.now, event) :: happened = all at hendures'
      cases hendures' with
      | rest => cases hall
      | @event _ rested' _ _ _ hgoesOn' hrest' _ hlater' =>
          obtain ⟨hpair, rfl⟩ := List.cons.inj hall
          obtain ⟨htime, rfl⟩ := Prod.mk.inj hpair
          have hsame := sameAt_of_goesOn hfirst hsecond houtlook hgoesOn hrest hgoesOn' hrest' htime
          have hrested := hfirst.leads (leads_of_goesOn hgoesOn)
          have hrested' := hsecond.leads (leads_of_goesOn hgoesOn')
          have happlied := hsame.apply event hrested.lt_length hrested'.lt_length
          exact ih hlater' hnow (hrested.leads (.single (.event event _)))
            (hrested'.leads (.single (.event event _))) fun time => happlied.outlook_eq time

end LineGreeting.Server
