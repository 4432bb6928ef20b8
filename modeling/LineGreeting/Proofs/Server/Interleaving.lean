import LineGreeting.Proofs.Server.Moves

/-! # Runs in any order of their steps

Between two events a server takes all the steps that it can take, but nobody
promises their order. A run passes from rest to rest in whatever order the steps
between them come; the one that takes them as they stand is one of these runs. While
time passes there is a rest at each alarm.
-/

namespace LineGreeting.Server

variable {setup : Setup} {server rested next last : Server} {event : Event}
variable {events : List Event} {pause : Nat}

/-- Whether some order of its steps brings a server to rest in some state. -/
structure Settles (setup : Setup) (server rested : Server) : Prop where
  works : Relation.ReflTransGen (Works setup) server rested
  atRest : AtRest setup rested

/-- How time passes from a rest. The clock stops at every alarm before its end, for all that
can be done then, in some order. -/
inductive Elapses (setup : Setup) : Server → Nat → Server → Prop
  | quiet {server : Server} {pause : Nat}
      (hquiet : ∀ due, server.nextAlarm? setup = some due → server.now + pause ≤ due) :
      Elapses setup server pause ((Event.wait pause).apply server)
  | alarm {server rested last : Server} {due pause : Nat}
      (halarm : server.nextAlarm? setup = some due) (hless : due < server.now + pause)
      (hsettles : Settles setup ((Event.wait (due - server.now)).apply server) rested)
      (hlater : Elapses setup rested (server.now + pause - due) last) :
      Elapses setup server pause last

/-- What can come of an event at a rest. -/
inductive Occurs (setup : Setup) : Event → Server → Server → Prop
  | wait {server next : Server} {pause : Nat} (helapses : Elapses setup server pause next) :
      Occurs setup (.wait pause) server next
  | event {event : Event} (hevent : ∀ pause, event ≠ .wait pause) (server : Server) :
      Occurs setup event server (event.apply server)

/-- Runs through some events to their last rest, allowed states at rest only. -/
inductive Passes (setup : Setup) (allowed : Server → Prop) : Server → List Event → Server → Prop
  | rest {server rested : Server} (hsettles : Settles setup server rested)
      (hallowed : allowed rested) : Passes setup allowed server [] rested
  | event {server rested next last : Server} {event : Event} {events : List Event}
      (hsettles : Settles setup server rested) (hallowed : allowed rested)
      (hoccurs : Occurs setup event rested next)
      (hlater : Passes setup allowed next events last) :
      Passes setup allowed server (event :: events) last

theorem AtRest.not_works (hrest : AtRest setup server) : ¬ Works setup server next := by
  intro hworks
  cases hworks with
  | loop hloop => simp [hrest.loop?_eq_none] at hloop
  | exchange hget hstep => simp [hrest.advance?_eq_none hget] at hstep

theorem Settles.leads (hsettles : Settles setup server rested) : Leads setup server rested :=
  hsettles.works.lift id fun _ _ => Works.moves

/-- What every step keeps is there at rest, in whatever order the steps come. -/
theorem Settles.kept {kept : Server → Prop} (hsettles : Settles setup server rested)
    (hworks : ∀ server next, kept server → Works setup server next → kept next)
    (hserver : kept server) : kept rested := by
  obtain ⟨hsteps, -⟩ := hsettles
  induction hsteps with
  | refl => exact hserver
  | tail _ hlast ih => exact hworks _ _ ih hlast

theorem settles_settle (setup : Setup) (server : Server) :
    Settles setup server (server.settle setup) := by
  refine ⟨settle_induction ?_ server .refl, atRest_settle setup server⟩
  intro middle next hmiddle hnext
  exact hmiddle.tail (Works.of_next? hnext)

theorem elapses_elapse (setup : Setup) (server : Server) (pause : Nat) :
    Elapses setup server pause (server.elapse setup pause) := by
  fun_induction elapse setup server pause with
  | case1 server pause hnone => exact .quiet fun due hdue => by simp [hnone] at hdue
  | case2 server pause due hdue hless ih => exact .alarm hdue hless (settles_settle _ _) ih
  | case3 server pause due hdue hless =>
      refine .quiet fun other hother => ?_
      cases hdue.symm.trans hother
      exact Nat.not_lt.mp hless

theorem occurs_occur (setup : Setup) (event : Event) (server : Server) :
    Occurs setup event server (event.occur setup server) := by
  by_cases hwait : ∃ pause, event = .wait pause
  · obtain ⟨pause, rfl⟩ := hwait
    exact .wait (elapses_elapse setup server pause)
  · have hevent : ∀ pause, event ≠ .wait pause := fun pause heq => hwait ⟨pause, heq⟩
    rw [occur_eq_apply hevent]
    exact .event hevent server

theorem Elapses.leads (helapses : Elapses setup server pause next) :
    Leads setup server next := by
  induction helapses with
  | quiet => exact .single (.event _ _)
  | alarm _ _ hsettles _ ih => exact .head (.event _ _) (hsettles.leads.trans ih)

/-- What every step and the clock keep is there when time has passed. -/
theorem Elapses.kept {kept : Server → Prop} (helapses : Elapses setup server pause next)
    (hworks : ∀ server next, kept server → Works setup server next → kept next)
    (hwait : ∀ server pause, kept server → kept ((Event.wait pause).apply server))
    (hserver : kept server) : kept next := by
  induction helapses with
  | quiet => exact hwait _ _ hserver
  | alarm _ _ hsettles _ ih => exact ih (hsettles.kept hworks (hwait _ _ hserver))

theorem Occurs.leads (hoccurs : Occurs setup event server next) : Leads setup server next := by
  cases hoccurs with
  | wait helapses => exact helapses.leads
  | event _ => exact .single (.event _ _)

theorem run_cons (setup : Setup) (server : Server) (event : Event) (events : List Event) :
    server.run setup (event :: events) =
      (event.occur setup (server.settle setup)).run setup events := rfl

/-- The run that takes the steps as they stand is one of the runs. -/
theorem passes_run {allowed : Server → Prop} (setup : Setup) (server : Server)
    (events : List Event)
    (hallowed : ∀ front, front <+: events → allowed (server.run setup front)) :
    Passes setup allowed server events (server.run setup events) := by
  induction events generalizing server with
  | nil => exact .rest (settles_settle setup server) (hallowed [] List.prefix_rfl)
  | cons event events ih =>
      refine .event (settles_settle setup server) (hallowed [] List.nil_prefix)
        (occurs_occur setup event _) ?_
      rw [run_cons]
      apply ih
      intro front hfront
      rw [← run_cons]
      exact hallowed (event :: front) (List.cons_prefix_cons.mpr ⟨rfl, hfront⟩)

theorem Passes.leads {allowed : Server → Prop}
    (hpasses : Passes setup allowed server events last) : Leads setup server last := by
  induction hpasses with
  | rest hsettles => exact hsettles.leads
  | event hsettles _ hoccurs _ ih => exact hsettles.leads.trans (hoccurs.leads.trans ih)

theorem Passes.atRest {allowed : Server → Prop}
    (hpasses : Passes setup allowed server events last) : AtRest setup last := by
  induction hpasses with
  | rest hsettles => exact hsettles.atRest
  | event _ _ _ _ ih => exact ih

theorem Passes.allowed {allowed : Server → Prop}
    (hpasses : Passes setup allowed server events last) : allowed last := by
  induction hpasses with
  | rest _ hallowed => exact hallowed
  | event _ _ _ _ ih => exact ih

end LineGreeting.Server
