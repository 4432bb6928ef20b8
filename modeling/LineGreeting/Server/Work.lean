import LineGreeting.Server.AcceptLoop

/-! # What is left to do

Every step of a server leaves less to do, for the loop goes once around for each
client, and each exchange only goes forward. So the steps come to an end, after
which the server rests until something happens.
-/

namespace LineGreeting.Server

/-- How many steps the loop can take from somewhere without an exchange. -/
def Phase.rank (now : Nat) : Phase → Nat
  | awaitingSlot => 2
  | accepting => 1
  | serving _ => 2
  | backingOff due => if due ≤ now then 3 else 0
  | ended => 0

/-- How much is left to do for some connections. -/
def openWork : List Connection → Nat
  | [] => 0
  | connection :: rest => connection.rank + openWork rest

/-- How much is left to do. -/
def work (server : Server) : Nat :=
  server.phase.rank server.now + openWork server.connections

theorem openWork_modify {connections : List Connection} {index : Nat} {connection : Connection}
    (change : Connection → Connection) (hget : connections[index]? = some connection) :
    openWork (connections.modify index change) + connection.rank =
      openWork connections + (change connection).rank := by
  induction connections generalizing index with
  | nil => simp at hget
  | cons first rest ih =>
    cases index with
    | zero =>
      simp only [List.getElem?_cons_zero, Option.some.injEq] at hget
      subst hget
      simp only [List.modify_zero_cons, openWork]
      omega
    | succ index =>
      simp only [List.getElem?_cons_succ] at hget
      have hrest := ih hget
      simp only [List.modify_succ_cons, openWork]
      omega

theorem work_proceed {setup : Setup} {server : Server} {index : Nat} {connection : Connection}
    {step : Advance} (hget : server.connections[index]? = some connection)
    (hstep : connection.advance? setup server.now = some step) :
    (server.proceed setup index step).work < server.work := by
  have hsum := openWork_modify (fun _ => step.connection) hget
  have hrank := Connection.rank_advance? hstep
  simp only [work, proceed]
  omega

theorem work_shutDown {setup : Setup} {server : Server}
    (hphase : 0 < server.phase.rank server.now) :
    (server.shutDown setup).work < server.work := by
  have hafter : (server.shutDown setup).work =
      0 + openWork server.connections := rfl
  rw [hafter, work]
  omega

theorem work_contend {setup : Setup} {server next : Server} {goOn : Option Server}
    (hphase : 0 < server.phase.rank server.now)
    (hgoOn : ∀ after, goOn = some after → after.work < server.work)
    (hcontend : server.contend setup goOn = some next) : next.work < server.work := by
  unfold contend at hcontend
  split at hcontend
  · split at hcontend
    · cases hcontend
      exact work_shutDown hphase
    next after =>
      cases hcontend
      change (if _ then after else _).work < _
      split
      · exact hgoOn after rfl
      · exact work_shutDown hphase
  · exact hgoOn next hcontend

theorem work_backOff {server : Server} (cause : Fault) (hphase : server.phase = .accepting) :
    (server.backOff cause).work < server.work := by
  have hlater : ¬ server.now + backoff ≤ server.now := by simp [backoff]
  simp only [work, backOff, log, Phase.rank, hphase, hlater, ↓reduceIte]
  omega

theorem Connection.rank_accepted {connection : Connection}
    (hwaiting : connection.stage.isWaiting = true) :
    { connection with stage := .accepted }.rank + 6 = connection.rank := by
  cases hstage : connection.stage with
  | waiting =>
    simp only [rank, hasRoom, hstage, Stage.rank]
    omega
  | _ => simp [hstage, Stage.isWaiting] at hwaiting

theorem work_accept {setup : Setup} {server : Server} {index : Nat}
    (hphase : server.phase = .accepting) (hwaiting : server.firstWaiting? = some index) :
    (server.accept setup index).work < server.work := by
  obtain ⟨hlength, hstage, _⟩ := List.findIdx?_eq_some_iff_getElem.1 hwaiting
  have hrank := Connection.rank_accepted hstage
  have hsum := openWork_modify (fun connection => { connection with stage := .accepted })
    (List.getElem?_eq_getElem hlength)
  unfold accept
  split <;>
    simp only [work, Phase.rank, setActivity, log, modify, hphase] <;>
    omega

theorem work_attempt? {setup : Setup} {server next : Server}
    (hphase : server.phase = .accepting) (hattempt : server.attempt? setup = some next) :
    next.work < server.work := by
  unfold attempt? at hattempt
  split at hattempt
  next cause later _ =>
    cases hattempt
    exact @work_backOff { server with refusals := later } cause hphase
  · obtain ⟨index, hwaiting, rfl⟩ := Option.map_eq_some_iff.1 hattempt
    split
    · exact work_backOff _ hphase
    · exact work_accept hphase hwaiting

theorem work_loop? {setup : Setup} {server next : Server}
    (hloop : server.loop? setup = some next) : next.work < server.work := by
  unfold loop? at hloop
  cases hphase : server.phase with
  | awaitingSlot =>
    simp only [hphase] at hloop
    refine work_contend (by simp [hphase, Phase.rank]) (fun after hafter => ?_) hloop
    split at hafter
    · cases hafter
      simp only [work, hphase, Phase.rank]
      omega
    · cases hafter
  | accepting =>
    simp only [hphase] at hloop
    refine work_contend (by simp [hphase, Phase.rank]) (fun after hafter => ?_) hloop
    exact work_attempt? hphase hafter
  | serving index =>
    simp only [hphase] at hloop
    split at hloop
    · cases hloop
      simp only [work, setActivity, hphase, Phase.rank]
      omega
    · cases hloop
  | backingOff due =>
    simp only [hphase] at hloop
    split at hloop
    next hdue =>
      split at hloop <;>
        (cases hloop
         simp only [work, hphase, Phase.rank, hdue, ↓reduceIte]
         omega)
    · cases hloop
  | ended => simp [hphase] at hloop

/-- Every step leaves less to do. -/
theorem work_next? {setup : Setup} {server next : Server}
    (hnext : server.next? setup = some next) : next.work < server.work := by
  unfold next? at hnext
  split at hnext
  next after hloop =>
    cases hnext
    exact work_loop? hloop
  · simp only [exchange?, Option.bind_eq_bind, Option.bind_eq_some_iff, Option.pure_def,
      Option.some.injEq] at hnext
    obtain ⟨index, _, connection, hget, step, hstep, rfl⟩ := hnext
    exact work_proceed hget hstep

end LineGreeting.Server
