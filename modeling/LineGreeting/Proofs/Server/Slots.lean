import LineGreeting.Proofs.Server.Ledger

/-! # Slots of a concurrent server

A slot is free, or goes with an exchange, or is held by the loop while it waits
for a client or to try again. However exchanges end, however often a client
cannot be accepted and whenever the server ends, no slot is lost and none comes
back twice. So a client that comes while all exchanges are taken is left alone.
-/

namespace LineGreeting.Server

variable {setup : Setup} {server next : Server} {slots index : Nat} {connection : Connection}

/-- How many slots the loop holds. -/
def Phase.held : Phase → Nat
  | .accepting | .backingOff _ => 1
  | .awaitingSlot | .serving _ | .ended => 0

/-- All slots of a concurrent server, wherever they are. -/
structure Balanced (slots : Nat) (server : Server) : Prop where
  not_serving : ∀ index, server.phase ≠ .serving index
  slots_eq : server.slots + server.inFlight + server.phase.held = slots
  watched_eq : server.watched = []

/-! ## Exchanges in flight -/

theorem inFlight_eq_countP : server.inFlight = server.connections.countP Connection.isInFlight :=
  rfl

theorem inFlight_accept (hwaiting : server.firstWaiting? = some index) :
    (server.accept setup index).inFlight = server.inFlight + 1 :=
  countP_accept (fun stage => !stage.isWaiting && !stage.outcome?.isSome) hwaiting

/-- An exchange that ends is in flight no more. -/
theorem inFlight_proceed {step : Advance} (hget : server.connections[index]? = some connection)
    (hsteps : connection.Steps setup server.now step) :
    (server.proceed setup index step).inFlight + step.connection.isOver.toNat =
      server.inFlight := by
  have hsum := countP_modify Connection.isInFlight (fun _ => step.connection) hget
  have hafter : step.connection.isInFlight = !step.connection.isOver := by
    rw [Connection.isInFlight, hsteps.not_isWaiting]
    rfl
  rw [hsteps.isInFlight, hafter] at hsum
  rw [inFlight_eq_countP, connections_proceed, inFlight_eq_countP]
  cases hover : step.connection.isOver <;> simp_all

theorem EventStep.inFlight_eq (hevent : EventStep server next) :
    next.inFlight = server.inFlight :=
  hevent.countP_eq (fun stage => !stage.isWaiting && !stage.outcome?.isSome) rfl

theorem slots_proceed (hmode : setup.mode = .concurrent) (step : Advance) :
    (server.proceed setup index step).slots = server.slots + step.connection.isOver.toNat := by
  rw [proceed, Connection.isOver, hmode]
  cases step.connection.stage.outcome? <;> rfl

/-! ## What keeps the balance -/

theorem slots_shutDown (hmode : setup.mode = .concurrent)
    (hphase : server.phase = .awaitingSlot ∨ server.phase = .accepting) :
    (server.shutDown setup).slots = server.slots + server.phase.held := by
  simp only [shutDown, log, hmode]
  rcases hphase with hphase | hphase <;> rw [hphase] <;> rfl

theorem LoopStep.balanced (hmode : setup.mode = .concurrent)
    (hloop : LoopStep setup server next) (hbalanced : Balanced slots server) :
    Balanced slots next := by
  obtain ⟨hserving, hslots, hwatched⟩ := hbalanced
  -- A slot is free, held by the loop or with an exchange, and every step only hands it on.
  cases hloop with
  | takeSlot hphase hfree =>
      refine ⟨fun _ => nofun, ?_, hwatched⟩
      rw [hphase, Phase.held] at hslots
      change server.slots - 1 + server.inFlight + 1 = slots
      omega
  | @accept place hphase hwaiting =>
      have hafter := phase_accept setup place server
      rw [hmode] at hafter
      refine ⟨?_, ?_, ?_⟩
      · intro _
        rw [hafter]
        nofun
      · rw [hphase, Phase.held] at hslots
        rw [hafter, slots_accept, inFlight_accept hwaiting, Phase.held]
        omega
      · rw [watched_accept, hmode, hwatched]
        rfl
  | refuse hphase | starve hphase =>
      rw [hphase] at hslots
      exact ⟨fun _ => nofun, hslots, hwatched⟩
  | shutDown hphase =>
      refine ⟨fun _ => nofun, ?_, hwatched⟩
      rw [slots_shutDown hmode hphase]
      change server.slots + server.phase.held + server.inFlight + 0 = slots
      omega
  | turn hphase => exact absurd hphase (hserving _)
  | retry hphase hdue hsequential =>
      rw [hmode] at hsequential
      cases hsequential
  | giveUp hphase =>
      refine ⟨fun _ => nofun, ?_, hwatched⟩
      rw [hphase, Phase.held] at hslots
      change server.slots + 1 + server.inFlight + 0 = slots
      omega

theorem EventStep.balanced (hevent : EventStep server next) (hbalanced : Balanced slots server) :
    Balanced slots next := by
  obtain ⟨hserving, hslots, hwatched⟩ := hbalanced
  have hflight := hevent.inFlight_eq
  rw [← hflight] at hslots
  cases hevent with
  | connect | peer | around => exact ⟨hserving, hslots, hwatched⟩

theorem Moves.balanced (hmode : setup.mode = .concurrent) (hmove : Moves setup server next)
    (hbalanced : Balanced slots server) : Balanced slots next := by
  cases hmove with
  | loop hloop =>
      obtain ⟨after, races, hafter, rfl⟩ := loop_cases hloop
      exact { hafter.balanced hmode hbalanced with }
  | @exchange _ _ _ step hget hstep =>
      -- The slot that comes back is the one of the exchange that ends, if it does.
      have hflight := inFlight_proceed hget (advance_cases hstep)
      refine ⟨hbalanced.not_serving, ?_, hbalanced.watched_eq⟩
      rw [slots_proceed hmode]
      have hslots := hbalanced.slots_eq
      change _ + server.phase.held = slots
      omega
  | event event => exact (event_cases event server).balanced hbalanced

theorem Reachable.balanced (hmode : setup.mode = .concurrent)
    (hreachable : Reachable setup slots server) : Balanced slots server := by
  induction hreachable with
  | refl =>
      rw [hmode]
      exact ⟨fun _ => nofun, rfl, rfl⟩
  | tail _ hmove ih => exact hmove.balanced hmode ih

/-! ## The account -/

/-- What a concurrent server with some slots accounts for at any time. -/
structure Accounts (slots : Nat) (server : Server) : Prop where
  slots_eq : server.slots + server.inFlight + server.phase.held = slots
  inFlight_le : server.inFlight ≤ slots
  accepted_eq : server.stats.accepted =
    server.stats.completed + server.stats.failed + server.inFlight
  completed_eq : server.stats.completed = server.connections.countP (·.stage.isCompleted)
  failed_eq : server.stats.failed = server.connections.countP (·.stage.isFailed)
  waiting_iff : ∀ index connection, server.connections[index]? = some connection →
    (connection.stage = .waiting ↔ server.stats.accepted ≤ index)
  activity_eq : server.activity = .listening
  watched_eq : server.watched = []

theorem accounts_of_reachable (hmode : setup.mode = .concurrent)
    (hreachable : Reachable setup slots server) : Accounts slots server := by
  obtain ⟨-, hslots, hwatched⟩ := hreachable.balanced hmode
  have hledger := hreachable.ledger
  refine ⟨hslots, by omega, hledger.accepted_eq, hledger.completed_eq, hledger.failed_eq,
    ?_, ?_, hwatched⟩
  · intro index connection hget
    rw [← Stage.isWaiting_iff]
    exact (hledger.booked index connection hget).waiting_iff
  · rw [activity, hwatched]
    rfl

/-- In every run, and in every other order of its steps, the account holds, exchanges
stay as they ended, and as long as all slots are taken and no exchange ends, everybody
else is left alone. -/
theorem concurrent_accounts (setup : Setup) (slots : Nat) (hmode : setup.mode = .concurrent) :
    (∀ events, Reachable setup slots ((initial setup.mode slots).run setup events)) ∧
    ∀ server, Reachable setup slots server → Accounts slots server ∧
      ∀ later, Leads setup server later →
        (∀ (index : Nat) (connection : Connection) (outcome : Except Fault (Option String)),
          server.connections[index]? = some connection → connection.stage = .concluded outcome →
          ∃ last : Connection, later.connections[index]? = some last ∧
            last.stage = .concluded outcome) ∧
        (server.inFlight = slots →
          later.stats.completed + later.stats.failed =
            server.stats.completed + server.stats.failed →
          later.inFlight = slots ∧ later.stats.accepted = server.stats.accepted ∧
            ∀ index, server.stats.accepted ≤ index → later.LeftAlone index) := by
  refine ⟨reachable_run setup slots, ?_⟩
  intro server hreachable
  have haccounts := accounts_of_reachable hmode hreachable
  refine ⟨haccounts, fun later hleads => ⟨?_, fun hfull hnone => ?_⟩⟩
  · exact fun index connection outcome hget hstage => hleads.outcome?_eq hget hstage
  · have hlater : Reachable setup slots later := hreachable.trans hleads
    have hledger := hlater.ledger
    have hmost := (accounts_of_reachable hmode hlater).inFlight_le
    have hmore := hleads.stats_le.1
    have hbefore := haccounts.accepted_eq
    have hafter := hledger.accepted_eq
    -- All slots were taken and none came back, so nobody else can have been accepted.
    have haccepted : later.stats.accepted = server.stats.accepted := by omega
    refine ⟨by omega, haccepted, ?_⟩
    intro index hindex
    exact hledger.leftAlone (haccepted ▸ hindex)

def concurrentSetup : Setup where
  mode := .concurrent
  responder := { reply := "hi" }
  resolveHostnames := false
  names _ := none

/-- A server whose only slot is taken. -/
def fullServer : Server :=
  let server := (Event.connect ⟨.v4 .loopback, 1⟩).apply (initial .concurrent 1)
  stepped concurrentSetup (stepped concurrentSetup server)

/-- The same server when another client has come and sent something. -/
def besetServer : Server :=
  (Event.send 1 [0x0A]).apply ((Event.connect ⟨.v4 .loopback, 2⟩).apply fullServer)

theorem concurrent_accounts_besetServer : concurrentSetup.mode = .concurrent ∧
    fullServer.inFlight = 1 ∧ Accounts 1 fullServer ∧ besetServer.LeftAlone 1 := by
  have hreachable : Reachable concurrentSetup 1 fullServer :=
    .tail (.tail (.single (.event (.connect _) _)) (moves_stepped rfl)) (moves_stepped rfl)
  have hleads : Leads concurrentSetup fullServer besetServer :=
    .tail (.single (.event (.connect _) _)) (.event (.send 1 _) _)
  obtain ⟨haccounts, hlater⟩ := (concurrent_accounts concurrentSetup 1 rfl).2 _ hreachable
  obtain ⟨-, -, halone⟩ := (hlater _ hleads).2 (by decide +kernel) rfl
  exact ⟨rfl, by decide +kernel, haccounts, halone 1 (by decide +kernel)⟩

end LineGreeting.Server
