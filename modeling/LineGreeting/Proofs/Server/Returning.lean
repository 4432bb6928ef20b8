import LineGreeting.Proofs.Server.Moves

/-! # How the accept loop returns

An account of slots can be closed for good. Who asks a closed account for a slot is refused,
and the accept loop returns with the refusal; else it returns without a fault when the
server ends. Here the loop is laid down with both ways to return. Nobody closes the account,
so in every order of the steps it goes step for step with the loop that knows of neither,
and does not return before the server shall end.
-/

namespace LineGreeting.Server

variable {setup : Setup} {server next : Server} {slots : Nat}

/-- A server whose accept loop has been started, and what has become of the loop. -/
structure Running where
  server : Server
  /-- Whether the account of the slots is closed for good. -/
  closed : Bool
  /-- What the loop has returned. -/
  returned : Option (Except Fault Unit)

namespace Running

/-- Why a closed account gives no slot. -/
def accountClosed : Fault := .worded .other "semaphore closed"

/-- What becomes of asking for a slot, unless one has to wait. -/
def askForSlot (running : Running) : Option (Except Fault Server) :=
  if running.closed then some (.error accountClosed)
  else if 0 < running.server.slots then
    some (.ok { running.server with
      phase := .accepting
      slots := running.server.slots - 1 })
  else none

/-- What comes of waiting for the next client, if anything does. No failure of that ends
the loop. -/
def awaitClient (setup : Setup) (running : Running) : Option (Except Fault Server) :=
  (running.server.attempt? setup).map .ok

/-- Goes on from what has come, or returns with a fault. -/
def goOn (running : Running) : Except Fault Server → Running
  | .ok server => { running with server }
  | .error fault => { running with returned := some (.error fault) }

/-- Leaves the loop and returns. -/
def leave (setup : Setup) (running : Running) : Running :=
  { running with
    server := running.server.shutDown setup
    returned := some (.ok ()) }

/-- Goes on if something has come, and leaves if the server shall end. If both are due, the
setup says which wins. -/
def contend (setup : Setup) (running : Running) (come : Option (Except Fault Server)) :
    Option Running :=
  if running.server.stopping then
    match come with
    | none => some (running.leave setup)
    | some result =>
      let winner :=
        if setup.clientWins running.server.races then running.goOn result
        else running.leave setup
      some { winner with
        server := { winner.server with races := running.server.races + 1 } }
  else come.map running.goOn

/-- The next step of the loop, if there is one and it has not returned. -/
def loop? (setup : Setup) (running : Running) : Option Running :=
  match running.returned, running.server.phase with
  | some _, _ | none, .ended => none
  | none, .awaitingSlot => running.contend setup running.askForSlot
  | none, .accepting => running.contend setup (running.awaitClient setup)
  | none, .serving _ | none, .backingOff _ =>
    (running.server.loop? setup).map fun server => { running with server }

/-- One step of the loop or of any exchange, or something that happens. -/
inductive Moves (setup : Setup) : Running → Running → Prop
  | loop {running next : Running} (hloop : running.loop? setup = some next) :
      Moves setup running next
  | exchange {running : Running} {index : Nat} {connection : Connection} {step : Advance}
      (hget : running.server.connections[index]? = some connection)
      (hstep : connection.advance? setup running.server.now = some step) :
      Moves setup running { running with server := running.server.proceed setup index step }
  | event (event : Event) (running : Running) :
      Moves setup running { running with server := event.apply running.server }

/-- A server with an open account whose loop has returned just if the server has ended. -/
def ofServer (server : Server) : Running where
  server
  closed := false
  returned := if server.phase = .ended then some (.ok ()) else none

/-! ## Step for step -/

theorem ofServer_of_ne (hphase : server.phase ≠ .ended) :
    ofServer server = ⟨server, false, none⟩ := by
  rw [ofServer, if_neg hphase]

/-- With an open account the loop waits for the same things. -/
theorem contend_ofServer {come : Option Server} (hphase : server.phase ≠ .ended)
    (hcome : ∀ after, come = some after → after.phase ≠ .ended) :
    (ofServer server).contend setup (come.map .ok) =
      (server.contend setup come).map ofServer := by
  rw [ofServer_of_ne hphase]
  cases hstopping : server.stopping with
  | false =>
      simp only [contend, Server.contend, hstopping, Bool.false_eq_true, ↓reduceIte]
      cases come with
      | none => rfl
      | some after => exact congrArg some (ofServer_of_ne (hcome after rfl)).symm
  | true =>
      simp only [contend, Server.contend, hstopping, ↓reduceIte]
      cases come with
      | none => rfl
      | some after =>
          have hafter : ({ after with races := server.races + 1 } : Server).phase ≠ .ended :=
            hcome after rfl
          cases setup.clientWins server.races with
          | false => rfl
          | true =>
              simp only [Option.map_some, ↓reduceIte, ofServer_of_ne hafter]
              rfl

theorem phase_accept_ne (setup : Setup) (index : Nat) (server : Server) :
    (server.accept setup index).phase ≠ .ended := by
  unfold accept
  split <;> nofun

theorem askForSlot_ofServer (server : Server) :
    (ofServer server).askForSlot =
      (if 0 < server.slots then
        some { server with phase := .accepting, slots := server.slots - 1 }
      else none).map .ok := by
  by_cases hfree : 0 < server.slots
  · simp [askForSlot, ofServer, hfree]
  · simp [askForSlot, ofServer, hfree]

theorem phase_attempt?_ne (hattempt : server.attempt? setup = some next) :
    next.phase ≠ .ended := by
  rw [attempt?] at hattempt
  split at hattempt
  · cases hattempt
    simp [backOff, log]
  · obtain ⟨index, -, rfl⟩ := Option.map_eq_some_iff.mp hattempt
    split
    · simp [backOff, log]
    · exact phase_accept_ne setup index server

/-- Where the loop is busy it does not come to its end. -/
theorem phase_loop?_ne (hphase : server.phase ≠ .awaitingSlot ∧ server.phase ≠ .accepting)
    (hloop : server.loop? setup = some next) : next.phase ≠ .ended := by
  obtain ⟨after, races, hafter, rfl⟩ := loop_cases hloop
  cases hafter with
  | takeSlot hother => exact absurd hother hphase.1
  | accept hother | refuse hother | starve hother => exact absurd hother hphase.2
  | shutDown hother =>
      rcases hother with hother | hother
      · exact absurd hother hphase.1
      · exact absurd hother hphase.2
  | turn | retry | giveUp => nofun

/-- The loop with an open account goes step for step with the loop of the server. -/
theorem loop?_ofServer (setup : Setup) (server : Server) :
    (ofServer server).loop? setup = (server.loop? setup).map ofServer := by
  cases hphase : server.phase with
  | awaitingSlot =>
      have hopen : server.phase ≠ .ended := by simp [hphase]
      have hloop : (ofServer server).loop? setup =
          (ofServer server).contend setup (ofServer server).askForSlot := by
        simp [ofServer_of_ne hopen, loop?, hphase]
      rw [hloop, askForSlot_ofServer, contend_ofServer hopen, Server.loop?, hphase]
      intro after hafter
      split at hafter
      · cases hafter
        simp
      · cases hafter
  | accepting =>
      have hopen : server.phase ≠ .ended := by simp [hphase]
      have hloop : (ofServer server).loop? setup =
          (ofServer server).contend setup ((ofServer server).awaitClient setup) := by
        simp [ofServer_of_ne hopen, loop?, hphase]
      rw [hloop, awaitClient, contend_ofServer hopen, Server.loop?, hphase]
      · rfl
      · exact fun after hafter => phase_attempt?_ne hafter
  | serving | backingOff =>
      have hopen : server.phase ≠ .ended := by simp [hphase]
      have hloop : (ofServer server).loop? setup =
          (server.loop? setup).map fun server => ⟨server, false, none⟩ := by
        simp [ofServer_of_ne hopen, loop?, hphase]
      rw [hloop]
      refine Option.map_congr fun next hnext => (ofServer_of_ne ?_).symm
      exact phase_loop?_ne (by simp [hphase]) hnext
  | ended => simp [loop?, Server.loop?, ofServer, hphase]

theorem ofServer_congr (hphase : next.phase = server.phase) :
    { ofServer server with server := next } = ofServer next := by
  rw [ofServer, ofServer, hphase]

/-- What can become of a server is what can become of it with its account. -/
theorem moves_ofServer_iff {running : Running} :
    Moves setup (ofServer server) running ↔
      ∃ next, Server.Moves setup server next ∧ running = ofServer next := by
  constructor
  · intro hmove
    generalize hbefore : ofServer server = before at hmove
    cases hmove with
    | loop hloop =>
        rw [← hbefore, loop?_ofServer] at hloop
        obtain ⟨next, hnext, rfl⟩ := Option.map_eq_some_iff.mp hloop
        exact ⟨next, .loop hnext, rfl⟩
    | @exchange _ index connection step hget hstep =>
        subst hbefore
        exact ⟨_, .exchange hget hstep, ofServer_congr rfl⟩
    | event event =>
        subst hbefore
        exact ⟨_, .event event server, ofServer_congr (phase_apply event server)⟩
  · rintro ⟨next, hmove, rfl⟩
    cases hmove with
    | loop hloop =>
        refine .loop ?_
        rw [loop?_ofServer, hloop]
        rfl
    | @exchange _ index connection step hget hstep =>
        rw [← @ofServer_congr server (server.proceed setup index step) rfl]
        exact @Moves.exchange setup (ofServer server) index connection step hget hstep
    | event event =>
        rw [← @ofServer_congr server (event.apply server) (phase_apply event server)]
        exact .event event (ofServer server)

/-- Whatever comes of a server with its account: the account stays open, and the loop has
returned without a fault if the server has ended, and else not at all. -/
theorem leads_ofServer_iff {running : Running} :
    Relation.ReflTransGen (Moves setup) (ofServer server) running ↔
      ∃ later, Leads setup server later ∧ running = ofServer later := by
  constructor
  · intro hleads
    induction hleads with
    | refl => exact ⟨server, .refl, rfl⟩
    | tail _ hmove ih =>
        obtain ⟨middle, hmiddle, rfl⟩ := ih
        obtain ⟨later, hlast, rfl⟩ := moves_ofServer_iff.mp hmove
        exact ⟨later, hmiddle.tail hlast, rfl⟩
  · rintro ⟨later, hleads, rfl⟩
    exact hleads.lift ofServer fun _ _ hmove => moves_ofServer_iff.mpr ⟨_, hmove, rfl⟩

end Running

end LineGreeting.Server
