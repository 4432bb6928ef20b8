import LineGreeting.Server.Work

/-! # Runs of a server

What clients, the clock and the operating system do comes as events. After each
event the server does all that it can do, so a run goes from rest to rest. Time
passes at rest only, and the clock stops at each point of time at which something
is due, so nothing is done late.
-/

namespace LineGreeting.Server

/-- What happens to a server. Connections are known by their place in the order in
which they came. -/
inductive Event where
  /-- A client connects. -/
  | connect (peer : Net.Endpoint)
  /-- A client sends something. -/
  | send (index : Nat) (bytes : Bytes)
  /-- A client sends nothing more. -/
  | finish (index : Nat)
  /-- A client goes. -/
  | close (index : Nat)
  /-- A client breaks the connection off. -/
  | reset (index : Nat)
  /-- A client takes up so many bytes in all for the time being, or any number. -/
  | allow (index : Nat) (room : Option Nat)
  /-- Time passes, in milliseconds. -/
  | wait (pause : Nat)
  /-- The server shall end. -/
  | stop
  /-- From now on clients cannot be accepted. -/
  | starve
  /-- From now on clients can be accepted again. -/
  | feed
  /-- One more attempt to accept a client fails. -/
  | refuse (cause : Fault)
deriving DecidableEq, Repr

/-- What an event changes by itself. -/
def Event.apply (event : Event) (server : Server) : Server :=
  match event with
  | connect peer => { server with connections := server.connections ++ [{ peer }] }
  | send index bytes => server.modify index (·.send bytes)
  | finish index => server.modify index (·.finish)
  | close index => server.modify index (·.close)
  | reset index => server.modify index (·.reset)
  | allow index room => server.modify index (·.allow room)
  | wait pause => { server with now := server.now + pause }
  | stop => { server with stopping := true }
  | starve => { server with starved := true }
  | feed => { server with starved := false }
  | refuse cause => { server with refusals := server.refusals ++ [cause] }

/-- Whether nothing is left to do until something happens. -/
def AtRest (setup : Setup) (server : Server) : Prop :=
  server.next? setup = none

/-- The server after all that it can do. -/
def settle (setup : Setup) (server : Server) : Server :=
  match _ : server.next? setup with
  | none => server
  | some next => settle setup next
termination_by server.work
decreasing_by exact work_next? ‹server.next? setup = some next›

/-! ## The clock -/

/-- When the loop can go on just because time has passed. -/
def Phase.alarm? : Phase → Option Nat
  | backingOff due => some due
  | awaitingSlot | accepting | serving _ | ended => none

/-- When the loop or an exchange can go on just because time has passed. -/
def alarms (setup : Setup) (server : Server) : List Nat :=
  server.phase.alarm?.toList ++ server.connections.filterMap (·.alarm? setup)

/-- The next point of time at which that is so, if there is one. -/
def nextAlarm? (setup : Setup) (server : Server) : Option Nat :=
  ((server.alarms setup).filter (server.now < ·)).min?

theorem nextAlarm?_eq_some_iff {setup : Setup} {server : Server} {due : Nat} :
    server.nextAlarm? setup = some due ↔
      (due ∈ server.alarms setup ∧ server.now < due) ∧
        ∀ other ∈ server.alarms setup, server.now < other → due ≤ other := by
  simp [nextAlarm?, List.min?_eq_some_iff]

/-- The server when some time has passed since it was at rest. Whatever becomes due
before the time is over is done just then. -/
def elapse (setup : Setup) (server : Server) (pause : Nat) : Server :=
  match _ : server.nextAlarm? setup with
  | none => (Event.wait pause).apply server
  | some due =>
    if due < server.now + pause then
      elapse setup (((Event.wait (due - server.now)).apply server).settle setup)
        (server.now + pause - due)
    else (Event.wait pause).apply server
termination_by pause
decreasing_by
  have hdue := (nextAlarm?_eq_some_iff.1 ‹server.nextAlarm? setup = some due›).1.2
  omega

/-- What an event makes of a server at rest. -/
def Event.occur (setup : Setup) (event : Event) (server : Server) : Server :=
  match event with
  | wait pause => server.elapse setup pause
  | event => event.apply server

/-! ## Runs -/

/-- The server after an event and all that it can do then. -/
def step (setup : Setup) (server : Server) (event : Event) : Server :=
  (event.occur setup server).settle setup

/-- The server after some events. -/
def run (setup : Setup) (server : Server) (events : List Event) : Server :=
  events.foldl (step setup) (server.settle setup)

/-- What holds before a step and is kept by every step holds at rest. -/
theorem settle_induction {setup : Setup} {motive : Server → Prop}
    (hkept : ∀ server next, motive server → server.next? setup = some next → motive next)
    (server : Server) (hserver : motive server) : motive (server.settle setup) := by
  fun_induction settle setup server with
  | case1 server hnext => exact hserver
  | case2 server next hnext ih => exact ih (hkept server next hserver hnext)

theorem atRest_settle (setup : Setup) (server : Server) :
    AtRest setup (server.settle setup) := by
  fun_induction settle setup server with
  | case1 server hnext => exact hnext
  | case2 server next hnext ih => exact ih

theorem settle_of_atRest {setup : Setup} {server : Server} (hrest : AtRest setup server) :
    server.settle setup = server := by
  unfold settle
  split
  · rfl
  next next hnext => exact absurd (hrest.symm.trans hnext) (by simp)

/-- Between events, a server is at rest. -/
theorem atRest_run (setup : Setup) (server : Server) (events : List Event) :
    AtRest setup (server.run setup events) := by
  suffices ∀ server, AtRest setup server → AtRest setup (events.foldl (step setup) server) from
    this _ (atRest_settle setup server)
  induction events with
  | nil => exact fun _ hrest => hrest
  | cons event events ih => exact fun server _ => ih _ (atRest_settle setup _)

end LineGreeting.Server
