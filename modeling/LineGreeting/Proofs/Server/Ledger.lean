import LineGreeting.Proofs.Server.Moves

/-! # The ledger of a server

In either mode clients are accepted in the order in which they came, so the count
of them says which ones wait. Each exchange that ends is counted once, by how it
ends, and what has been printed for a connection goes with how far it is.
-/

namespace LineGreeting.Server

variable {setup : Setup} {server next : Server} {index : Nat} {connection : Connection}

/-! ## Counting -/

section Counting

variable {α : Type} {counts : α → Bool} {items : List α} {item : α}

theorem countP_modify (counts : α → Bool) (change : α → α) (hget : items[index]? = some item) :
    (items.modify index change).countP counts + (counts item).toNat =
      items.countP counts + (counts (change item)).toNat := by
  obtain ⟨hlength, rfl⟩ := List.getElem?_eq_some_iff.mp hget
  have hsplit : items.countP counts = (items.take index ++
      items[index] :: items.drop (index + 1)).countP counts := by
    rw [← List.drop_eq_getElem_cons hlength, List.take_append_drop]
  rw [List.modify_eq_take_cons_drop hlength, hsplit]
  simp only [List.countP_append, List.countP_cons]
  cases counts items[index] <;> cases counts (change items[index]) <;> simp <;> omega

theorem countP_modify_of_eq {change : α → α}
    (hchange : ∀ item, counts (change item) = counts item) (index : Nat) :
    (items.modify index change).countP counts = items.countP counts := by
  rcases hget : items[index]? with _ | item
  · rw [List.modify_eq_self (List.getElem?_eq_none_iff.mp hget)]
  · have hsum := countP_modify counts change hget
    rw [hchange] at hsum
    omega

/-- What counts for one of two reasons, but never for both, can be counted apart. -/
theorem countP_eq_add {first second : α → Bool} (items : List α)
    (hcounts : ∀ item, (counts item).toNat = (first item).toNat + (second item).toNat) :
    items.countP counts = items.countP first + items.countP second := by
  induction items with
  | nil => rfl
  | cons item rest ih =>
      have hone (counts : Bool) : (if counts = true then 1 else 0) = counts.toNat := by
        cases counts <;> rfl
      simp only [List.countP_cons, hone, hcounts item, ih]
      omega

/-- If just the items before some place count, their number is that place. -/
theorem countP_eq_of_lt_iff {place : Nat} (hplace : place ≤ items.length)
    (hcounts : ∀ index item, items[index]? = some item → (counts item = true ↔ index < place)) :
    items.countP counts = place := by
  induction items generalizing place with
  | nil => exact (Nat.le_zero.mp hplace).symm
  | cons first rest ih =>
      have hfirst := hcounts 0 first rfl
      -- Behind place zero nothing counts, so the rest has place zero again.
      have hrest (before : Nat) (hbefore : place = before + 1 ∨ before = 0 ∧ place = 0) :=
        @ih before (by simp only [List.length_cons] at hplace; omega) fun index item hget => by
          exact (hcounts (index + 1) item hget).trans (by omega)
      cases place with
      | zero =>
          rw [List.countP_cons_of_neg (by simpa using hfirst), hrest 0 (.inr ⟨rfl, rfl⟩)]
      | succ before =>
          rw [List.countP_cons_of_pos (hfirst.mpr (Nat.succ_pos _)), hrest before (.inl rfl)]

theorem getElem?_concat_cases {last : α} (hget : (items ++ [last])[index]? = some item) :
    items[index]? = some item ∨ index = items.length ∧ item = last := by
  rw [List.getElem?_append] at hget
  split at hget
  · exact .inl hget
  next hlength =>
    obtain ⟨hindex, hlast⟩ := List.getElem?_eq_some_iff.mp hget
    simp only [List.length_singleton, Nat.lt_one_iff] at hindex
    refine .inr ⟨by omega, ?_⟩
    simpa [hindex] using hlast.symm

theorem getElem?_modify_cases {change : α → α} {place : Nat}
    (hget : (items.modify place change)[index]? = some item) :
    (index ≠ place ∧ items[index]? = some item) ∨
      index = place ∧ ∃ before, items[index]? = some before ∧ item = change before := by
  by_cases hplace : place = index
  · subst place
    rw [List.getElem?_modify_eq] at hget
    obtain ⟨before, hbefore, rfl⟩ := Option.map_eq_some_iff.mp hget
    exact .inr ⟨rfl, before, hbefore, rfl⟩
  · rw [List.getElem?_modify_ne _ _ hplace] at hget
    exact .inl ⟨fun heq => hplace heq.symm, hget⟩

end Counting

/-! ## Connections -/

/-- Whether an exchange came to its end with a request. -/
def Stage.isCompleted : Stage → Bool
  | .concluded (.ok _) => true
  | _ => false

/-- Whether an exchange ended with a fault. -/
def Stage.isFailed : Stage → Bool
  | .concluded (.error _) => true
  | _ => false

theorem Stage.isCompleted_of_open {stage : Stage} (hopen : stage.outcome?.isSome = false) :
    stage.isCompleted = false := by
  cases stage with
  | concluded => cases hopen
  | _ => rfl

theorem Stage.isFailed_of_open {stage : Stage} (hopen : stage.outcome?.isSome = false) :
    stage.isFailed = false := by
  cases stage with
  | concluded => cases hopen
  | _ => rfl

/-- Whether a connection has been accepted and its exchange is not over. -/
def Connection.isInFlight (connection : Connection) : Bool :=
  !connection.stage.isWaiting && !connection.isOver

theorem Connection.isInFlight_iff : connection.isInFlight = true ↔
    connection.stage.isWaiting = false ∧ connection.isOver = false := by
  simp [isInFlight]

/-- What has been printed for a connection: nothing before it is announced, and the
request unless the exchange failed without one. -/
def Connection.Shows (setup : Setup) (connection : Connection) (lines : List String) : Prop :=
  let announcement := setup.announcement connection.peer
  match connection.stage with
  | .waiting | .accepted => lines = []
  | .reading _ => lines = [announcement]
  | .replying request _ | .concluded (.ok request) =>
    lines = [announcement, Wire.received request]
  | .concluded (.error _) =>
    lines = [announcement] ∨ ∃ request, lines = [announcement, Wire.received request]

namespace Connection

variable {now : Nat} {step : Advance} {lines : List String}

theorem Steps.isInFlight (hsteps : connection.Steps setup now step) :
    connection.isInFlight = true := by
  cases hsteps with
  | announce hstage | hear hstage | lose hstage | expire hstage | push hstage | reply hstage =>
      simp [Connection.isInFlight, isOver, hstage, Stage.isWaiting, Stage.outcome?]

theorem Steps.not_isWaiting (hsteps : connection.Steps setup now step) :
    step.connection.stage.isWaiting = false := by
  cases hsteps with
  | push hstage =>
      dsimp only
      rw [hstage]
      rfl
  | announce | hear | lose | expire | reply => rfl

theorem Steps.peer_eq (hsteps : connection.Steps setup now step) :
    step.connection.peer = connection.peer := by
  cases hsteps <;> rfl

theorem Steps.shows (hsteps : connection.Steps setup now step)
    (hshows : connection.Shows setup lines) :
    step.connection.Shows setup (lines ++ step.printed.toList) := by
  cases hsteps with
  | announce hstage | hear hstage =>
      simp only [Shows, hstage] at hshows
      rw [hshows]
      rfl
  | lose hstage | expire hstage =>
      simp only [Shows, hstage] at hshows
      rw [hshows]
      exact .inl rfl
  | push hstage =>
      simp only [Shows, hstage] at hshows ⊢
      rw [hshows]
      rfl
  | @reply since request result writer hstage =>
      simp only [Shows, hstage] at hshows
      rw [hshows]
      cases result with
      | ok => rfl
      | error fault => exact .inr ⟨request, rfl⟩

end Connection

/-! ## The ledger -/

/-- The lines printed for the connection at some place. -/
def linesOf (server : Server) (index : Nat) : List String :=
  server.printed.filterMap fun (place, line) => if place = index then some line else none

/-- What has been sent to the peer of the connection at some place. -/
def sentTo (server : Server) (index : Nat) : Bytes :=
  (server.connections[index]?.map (·.sent)).getD []

/-- What the ledger says of one connection. -/
structure Booked (setup : Setup) (accepted index : Nat) (lines : List String)
    (connection : Connection) : Prop where
  waiting_iff : connection.stage.isWaiting = true ↔ accepted ≤ index
  shows : connection.Shows setup lines
  unsent : connection.stage = .waiting → connection.sent = []

/-- What the counts and the printed lines have to do with the connections. -/
structure Ledger (setup : Setup) (server : Server) : Prop where
  accepted_le : server.stats.accepted ≤ server.connections.length
  completed_eq : server.stats.completed = server.connections.countP (·.stage.isCompleted)
  failed_eq : server.stats.failed = server.connections.countP (·.stage.isFailed)
  booked : ∀ index connection, server.connections[index]? = some connection →
    Booked setup server.stats.accepted index (server.linesOf index) connection
  unprinted : ∀ index, server.stats.accepted ≤ index → server.linesOf index = []

theorem Stage.isWaiting_iff {stage : Stage} : stage.isWaiting = true ↔ stage = .waiting := by
  cases stage <;> simp [isWaiting]

/-- Whether a client is left alone: it waits if it is there at all, and nothing has been
printed for it or sent to it. -/
structure LeftAlone (server : Server) (index : Nat) : Prop where
  waiting : ∀ connection, server.connections[index]? = some connection →
    connection.stage = .waiting
  linesOf_eq : server.linesOf index = []
  sentTo_eq : server.sentTo index = []

theorem Ledger.leftAlone (hledger : Ledger setup server)
    (hindex : server.stats.accepted ≤ index) : server.LeftAlone index := by
  have hwaiting (connection : Connection) (hget : server.connections[index]? = some connection) :
      connection.stage = .waiting :=
    Stage.isWaiting_iff.mp ((hledger.booked index connection hget).waiting_iff.mpr hindex)
  refine ⟨hwaiting, hledger.unprinted index hindex, ?_⟩
  rw [sentTo]
  cases hget : server.connections[index]? with
  | none => rfl
  | some connection =>
      exact (hledger.booked index connection hget).unsent (hwaiting connection hget)

theorem linesOf_proceed (step : Advance) (place : Nat) :
    (server.proceed setup index step).linesOf place =
      server.linesOf place ++ if index = place then step.printed.toList else [] := by
  rw [linesOf, proceed, List.filterMap_append]
  refine congrArg _ ?_
  cases hprinted : step.printed with
  | none => simp
  | some line =>
      by_cases hplace : index = place
      · simp [hplace]
      · simp [hplace]

theorem Ledger.lt_accepted (hledger : Ledger setup server)
    (hget : server.connections[index]? = some connection)
    (hwaiting : connection.stage.isWaiting = false) : index < server.stats.accepted := by
  rw [← Nat.not_le, ← (hledger.booked index connection hget).waiting_iff, hwaiting]
  exact Bool.false_ne_true

theorem Ledger.firstWaiting?_eq (hledger : Ledger setup server)
    (hwaiting : server.firstWaiting? = some index) :
    index = server.stats.accepted ∧ ∃ connection, server.connections[index]? = some connection ∧
      connection.stage = .waiting := by
  obtain ⟨hlength, hfirst, hbefore⟩ := List.findIdx?_eq_some_iff_getElem.mp hwaiting
  have hget := List.getElem?_eq_getElem hlength
  have hle := (hledger.booked index _ hget).waiting_iff.mp hfirst
  refine ⟨Nat.le_antisymm (Nat.not_lt.mp ?_) hle, _, hget, ?_⟩
  · intro hlt
    have hget' := List.getElem?_eq_getElem (Nat.lt_trans hlt hlength)
    exact hbefore _ hlt ((hledger.booked _ _ hget').waiting_iff.mpr Nat.le.refl)
  · exact Stage.isWaiting_iff.mp hfirst

/-- Every exchange that is over is counted, as completed or as failed. -/
theorem Ledger.over_eq (hledger : Ledger setup server) :
    server.connections.countP Connection.isOver =
      server.stats.completed + server.stats.failed := by
  rw [hledger.completed_eq, hledger.failed_eq]
  apply countP_eq_add
  intro connection
  rw [Connection.isOver]
  cases connection.stage with
  | concluded outcome => cases outcome <;> rfl
  | _ => rfl

/-- Every connection that has been accepted is counted as completed or failed, or is
in flight. -/
theorem Ledger.accepted_eq (hledger : Ledger setup server) :
    server.stats.accepted = server.stats.completed + server.stats.failed + server.inFlight := by
  -- Those that do not wait are the first ones, so they are as many as were accepted.
  have haccepted : server.connections.countP (fun connection => !connection.stage.isWaiting) =
      server.stats.accepted := by
    apply countP_eq_of_lt_iff hledger.accepted_le
    intro index connection hget
    have hiff := (hledger.booked index connection hget).waiting_iff
    rw [Bool.not_eq_true', ← Bool.not_eq_true, hiff, Nat.not_le]
  rw [← haccepted, ← hledger.over_eq, inFlight]
  apply countP_eq_add
  intro connection
  rw [Connection.isOver]
  cases connection.stage <;> rfl

/-! ## What keeps the ledger -/

theorem ledger_initial (setup : Setup) (mode : ServerMode) (slots : Nat) :
    Ledger setup (initial mode slots) where
  accepted_le := Nat.le.refl
  completed_eq := rfl
  failed_eq := rfl
  booked := by
    rintro index connection ⟨⟩
  unprinted _ _ := rfl

theorem Booked.like {accepted : Nat} {lines : List String} {other : Connection}
    (hbooked : Booked setup accepted index lines connection) (hlike : connection.Like other) :
    Booked setup accepted index lines other := by
  obtain ⟨hwaiting, hshows, hunsent⟩ := hbooked
  refine ⟨?_, ?_, ?_⟩
  · rwa [hlike.stage]
  · rwa [Connection.Shows, hlike.stage, hlike.peer]
  · rwa [hlike.stage, hlike.sent]

/-- What counts by the stage alone and not while a client waits is left by all events. -/
theorem EventStep.countP_eq (hevent : EventStep server next) (counts : Stage → Bool)
    (hcounts : counts .waiting = false) :
    next.connections.countP (fun connection => counts connection.stage) =
      server.connections.countP (fun connection => counts connection.stage) := by
  cases hevent with
  | connect peer => simp [hcounts]
  | peer place hchange =>
      apply countP_modify_of_eq _ place
      intro connection
      rw [(hchange connection).stage]
  | around => rfl

theorem EventStep.ledger (hevent : EventStep server next) (hledger : Ledger setup server) :
    Ledger setup next := by
  have hcompleted := hevent.countP_eq Stage.isCompleted rfl
  have hfailed := hevent.countP_eq Stage.isFailed rfl
  cases hevent with
  | connect peer =>
      refine ⟨?_, hledger.completed_eq.trans hcompleted.symm,
        hledger.failed_eq.trans hfailed.symm, ?_, hledger.unprinted⟩
      · exact Nat.le_trans hledger.accepted_le (by simp)
      · intro index connection hget
        rcases getElem?_concat_cases hget with hold | ⟨rfl, rfl⟩
        · exact hledger.booked index connection hold
        · exact ⟨iff_of_true rfl hledger.accepted_le, hledger.unprinted _ hledger.accepted_le,
            fun _ => rfl⟩
  | peer place hchange =>
      refine ⟨?_, hledger.completed_eq.trans hcompleted.symm,
        hledger.failed_eq.trans hfailed.symm, ?_, hledger.unprinted⟩
      · exact Nat.le_trans hledger.accepted_le (by simp [modify])
      · intro index connection hget
        rcases getElem?_modify_cases hget with ⟨_, hold⟩ | ⟨rfl, before, hold, rfl⟩
        · exact hledger.booked index connection hold
        · exact (hledger.booked index before hold).like (hchange before)
  | around now stopping starved => exact { hledger with }

@[simp] theorem connections_accept (setup : Setup) (index : Nat) (server : Server) :
    (server.accept setup index).connections =
      server.connections.modify index fun connection => { connection with stage := .accepted } := by
  unfold accept
  split <;> rfl

@[simp] theorem now_accept (setup : Setup) (index : Nat) (server : Server) :
    (server.accept setup index).now = server.now := by
  unfold accept
  split <;> rfl

@[simp] theorem stats_accept (setup : Setup) (index : Nat) (server : Server) :
    (server.accept setup index).stats =
      { server.stats with accepted := server.stats.accepted + 1 } := by
  unfold accept
  split <;> rfl

@[simp] theorem printed_accept (setup : Setup) (index : Nat) (server : Server) :
    (server.accept setup index).printed = server.printed := by
  unfold accept
  split <;> rfl

@[simp] theorem linesOf_accept (setup : Setup) (index : Nat) (server : Server) (place : Nat) :
    (server.accept setup index).linesOf place = server.linesOf place := by
  rw [linesOf, printed_accept, linesOf]

@[simp] theorem slots_accept (setup : Setup) (index : Nat) (server : Server) :
    (server.accept setup index).slots = server.slots := by
  unfold accept
  split <;> rfl

theorem phase_accept (setup : Setup) (index : Nat) (server : Server) :
    (server.accept setup index).phase = match setup.mode with
      | .sequential => .serving index
      | .concurrent => .awaitingSlot := by
  unfold accept
  cases setup.mode <;> rfl

theorem watched_accept (setup : Setup) (index : Nat) (server : Server) :
    (server.accept setup index).watched = server.watched ++ match setup.mode with
      | .sequential => [.serving]
      | .concurrent => [] := by
  unfold accept
  cases setup.mode with
  | sequential => rfl
  | concurrent => exact (List.append_nil _).symm

theorem countP_accept (counts : Stage → Bool) (hwaiting : server.firstWaiting? = some index) :
    (server.accept setup index).connections.countP (fun connection => counts connection.stage) +
        (counts .waiting).toNat =
      server.connections.countP (fun connection => counts connection.stage) +
        (counts .accepted).toNat := by
  obtain ⟨hlength, hfirst, _⟩ := List.findIdx?_eq_some_iff_getElem.mp hwaiting
  have hsum := countP_modify (fun connection : Connection => counts connection.stage)
    (fun connection => { connection with stage := .accepted }) (List.getElem?_eq_getElem hlength)
  rw [Stage.isWaiting_iff.mp hfirst] at hsum
  rw [connections_accept]
  exact hsum

theorem Ledger.accept (hledger : Ledger setup server)
    (hwaiting : server.firstWaiting? = some index) : Ledger setup (server.accept setup index) := by
  have hcompleted := @countP_accept setup _ _ Stage.isCompleted hwaiting
  have hfailed := @countP_accept setup _ _ Stage.isFailed hwaiting
  obtain ⟨rfl, first, hfirst, hstage⟩ := hledger.firstWaiting?_eq hwaiting
  have hlength := (List.getElem?_eq_some_iff.mp hfirst).1
  refine ⟨?_, ?_, ?_, ?_, ?_⟩
  · rwa [connections_accept, List.length_modify, stats_accept]
  · rw [stats_accept]
    exact hledger.completed_eq.trans hcompleted.symm
  · rw [stats_accept]
    exact hledger.failed_eq.trans hfailed.symm
  · intro index connection hget
    rw [connections_accept] at hget
    rw [stats_accept, linesOf_accept]
    rcases getElem?_modify_cases hget with ⟨hne, hold⟩ | ⟨rfl, before, hold, rfl⟩
    · obtain ⟨hwaits, hshows, hunsent⟩ := hledger.booked index connection hold
      exact ⟨hwaits.trans (by dsimp only; omega), hshows, hunsent⟩
    · exact ⟨by simp [Stage.isWaiting], hledger.unprinted _ Nat.le.refl, nofun⟩
  · intro index hindex
    rw [stats_accept] at hindex
    rw [linesOf_accept]
    exact hledger.unprinted index (Nat.le_of_succ_le hindex)

theorem LoopStep.ledger (hloop : LoopStep setup server next) (hledger : Ledger setup server) :
    Ledger setup next := by
  cases hloop with
  | accept hphase hwaiting => exact hledger.accept hwaiting
  | takeSlot | refuse | starve | shutDown | turn | retry | giveUp => exact { hledger with }

@[simp] theorem connections_proceed (step : Advance) :
    (server.proceed setup index step).connections =
      server.connections.modify index fun _ => step.connection := rfl

theorem stats_proceed (step : Advance) :
    (server.proceed setup index step).stats = {
      accepted := server.stats.accepted
      completed := server.stats.completed + step.connection.stage.isCompleted.toNat
      failed := server.stats.failed + step.connection.stage.isFailed.toNat } := by
  rw [proceed]
  cases step.connection.stage with
  | concluded outcome => cases outcome <;> rfl
  | _ => rfl

theorem Ledger.proceed {step : Advance} (hledger : Ledger setup server)
    (hget : server.connections[index]? = some connection)
    (hsteps : connection.Steps setup server.now step) :
    Ledger setup (server.proceed setup index step) := by
  have hbefore := hledger.booked index connection hget
  have hflight := Connection.isInFlight_iff.mp hsteps.isInFlight
  have haccepted := hledger.lt_accepted hget hflight.1
  refine ⟨?_, ?_, ?_, ?_, ?_⟩
  · rw [stats_proceed]
    simpa using hledger.accepted_le
  · -- Only this connection may have come to its end, and then it is counted.
    have hsum := countP_modify (·.stage.isCompleted) (fun _ => step.connection) hget
    rw [Stage.isCompleted_of_open hflight.2] at hsum
    rw [stats_proceed]
    exact (congrArg (· + _) hledger.completed_eq).trans hsum.symm
  · have hsum := countP_modify (·.stage.isFailed) (fun _ => step.connection) hget
    rw [Stage.isFailed_of_open hflight.2] at hsum
    rw [stats_proceed]
    exact (congrArg (· + _) hledger.failed_eq).trans hsum.symm
  · intro place other hother
    rw [stats_proceed, linesOf_proceed]
    rcases getElem?_modify_cases hother with ⟨hne, hold⟩ | ⟨rfl, before, hold, rfl⟩
    · rw [if_neg hne.symm, List.append_nil]
      exact hledger.booked place other hold
    · rw [if_pos rfl]
      have hwaiting := hsteps.not_isWaiting
      refine ⟨?_, hsteps.shows hbefore.shows, ?_⟩
      · rw [hwaiting]
        exact iff_of_false Bool.false_ne_true (Nat.not_le.mpr haccepted)
      · intro hstage
        rw [hstage] at hwaiting
        cases hwaiting
  · intro place hplace
    rw [stats_proceed] at hplace
    rw [linesOf_proceed, if_neg (Nat.ne_of_lt (Nat.lt_of_lt_of_le haccepted hplace)),
      List.append_nil]
    exact hledger.unprinted place hplace

theorem Moves.ledger (hmove : Moves setup server next) (hledger : Ledger setup server) :
    Ledger setup next := by
  cases hmove with
  | loop hloop =>
      obtain ⟨after, races, hafter, rfl⟩ := loop_cases hloop
      exact { hafter.ledger hledger with }
  | exchange hget hstep => exact hledger.proceed hget (advance_cases hstep)
  | event event => exact (event_cases event server).ledger hledger

theorem Reachable.ledger {slots : Nat} (hreachable : Reachable setup slots server) :
    Ledger setup server := by
  induction hreachable with
  | refl => exact ledger_initial setup setup.mode slots
  | tail _ hmove ih => exact hmove.ledger ih

/-! ## What no move takes back -/

theorem Moves.stats_le (hmove : Moves setup server next) :
    server.stats.accepted ≤ next.stats.accepted ∧
      server.stats.completed ≤ next.stats.completed ∧
      server.stats.failed ≤ next.stats.failed := by
  cases hmove with
  | loop hloop =>
      obtain ⟨after, races, hafter, rfl⟩ := loop_cases hloop
      cases hafter with
      | accept => simp
      | takeSlot | refuse | starve | shutDown | turn | retry | giveUp =>
          exact ⟨le_rfl, le_rfl, le_rfl⟩
  | exchange => simp [stats_proceed]
  | event event => cases event <;> exact ⟨le_rfl, le_rfl, le_rfl⟩

theorem Leads.stats_le (hleads : Leads setup server next) :
    server.stats.accepted ≤ next.stats.accepted ∧
      server.stats.completed ≤ next.stats.completed ∧
      server.stats.failed ≤ next.stats.failed := by
  induction hleads with
  | refl => exact ⟨le_rfl, le_rfl, le_rfl⟩
  | tail _ hmove ih =>
      obtain ⟨haccepted, hcompleted, hfailed⟩ := hmove.stats_le
      exact ⟨le_trans ih.1 haccepted, le_trans ih.2.1 hcompleted, le_trans ih.2.2 hfailed⟩

/-- A connection later on: it is where it was and its peer has been sent no less, or it is
further. -/
structure Connection.Onward (connection later : Connection) : Prop where
  peer : later.peer = connection.peer
  further : later.stage = connection.stage ∧ connection.sent.length ≤ later.sent.length ∨
    later.stage.rank < connection.stage.rank

theorem Connection.Like.onward {later : Connection} (hlike : connection.Like later) :
    connection.Onward later :=
  ⟨hlike.peer, .inl ⟨hlike.stage, by rw [hlike.sent]⟩⟩

theorem Connection.Onward.refl (connection : Connection) : connection.Onward connection :=
  ⟨rfl, .inl ⟨rfl, le_rfl⟩⟩

theorem Connection.Steps.onward {now : Nat} {step : Advance}
    (hsteps : connection.Steps setup now step) : connection.Onward step.connection := by
  refine ⟨hsteps.peer_eq, ?_⟩
  cases hsteps with
  | announce hstage | hear hstage | lose hstage | expire hstage | reply hstage =>
      right
      rw [hstage]
      simp [Stage.rank, conclude]
  | @push since limit request hstage hdue hlimit hless =>
      left
      refine ⟨rfl, ?_⟩
      dsimp only
      rw [List.length_take, Nat.min_eq_left (le_of_lt (limit?_eq_some_iff.mp hlimit).2.2)]
      exact le_of_lt hless

theorem Connection.Onward.trans {middle later : Connection} (hfirst : connection.Onward middle)
    (hsecond : middle.Onward later) : connection.Onward later := by
  refine ⟨hsecond.peer.trans hfirst.peer, ?_⟩
  rcases hfirst.further with ⟨hstage, hsent⟩ | hless
  · rcases hsecond.further with ⟨hstage', hsent'⟩ | hless'
    · exact .inl ⟨hstage'.trans hstage, le_trans hsent hsent'⟩
    · exact .inr (hstage ▸ hless')
  · rcases hsecond.further with ⟨hstage', _⟩ | hless'
    · exact .inr (hstage' ▸ hless)
    · exact .inr (lt_trans hless' hless)

theorem exists_onward_modify {connections : List Connection} {place : Nat}
    {change : Connection → Connection}
    (hchange : ∀ before, connections[place]? = some before → before.Onward (change before))
    (hget : connections[index]? = some connection) :
    ∃ later, (connections.modify place change)[index]? = some later ∧
      connection.Onward later := by
  by_cases hplace : place = index
  · subst place
    refine ⟨change connection, ?_, hchange connection hget⟩
    rw [List.getElem?_modify_eq, hget]
    rfl
  · refine ⟨connection, ?_, .refl connection⟩
    rwa [List.getElem?_modify_ne _ _ hplace]

theorem Moves.onward (hmove : Moves setup server next)
    (hget : server.connections[index]? = some connection) :
    ∃ later, next.connections[index]? = some later ∧ connection.Onward later := by
  have hsame := Connection.Onward.refl connection
  cases hmove with
  | loop hloop =>
      obtain ⟨after, races, hafter, rfl⟩ := loop_cases hloop
      cases hafter with
      | @accept place _ hwaiting =>
          -- The client that is accepted was waiting, so it does not go back.
          dsimp only
          rw [connections_accept]
          refine exists_onward_modify (fun before hbefore => ⟨rfl, .inr ?_⟩) hget
          obtain ⟨hlength, hfirst, _⟩ := List.findIdx?_eq_some_iff_getElem.mp hwaiting
          cases (List.getElem?_eq_getElem hlength).symm.trans hbefore
          cases hstage : server.connections[place].stage <;> simp_all [Stage.isWaiting, Stage.rank]
      | takeSlot | refuse | starve | shutDown | turn | retry | giveUp =>
          exact ⟨connection, hget, hsame⟩
  | @exchange _ place other step hother hstep =>
      refine exists_onward_modify ?_ hget
      intro before hbefore
      cases hother.symm.trans hbefore
      exact (advance_cases hstep).onward
  | event event =>
      have hevent := event_cases event server
      generalize event.apply server = after at hevent
      cases hevent with
      | connect peer =>
          refine ⟨connection, ?_, hsame⟩
          exact List.getElem?_append_left (List.getElem?_eq_some_iff.mp hget).1 ▸ hget
      | peer place hchange =>
          exact exists_onward_modify (fun before _ => (hchange before).onward) hget
      | around => exact ⟨connection, hget, hsame⟩

theorem Leads.onward (hleads : Leads setup server next)
    (hget : server.connections[index]? = some connection) :
    ∃ later, next.connections[index]? = some later ∧ connection.Onward later := by
  induction hleads with
  | refl => exact ⟨connection, hget, .refl connection⟩
  | tail _ hmove ih =>
      obtain ⟨middle, hmiddle, hfirst⟩ := ih
      obtain ⟨later, hlater, hsecond⟩ := hmove.onward hmiddle
      exact ⟨later, hlater, hfirst.trans hsecond⟩

/-- How an exchange ended never changes. -/
theorem Leads.outcome?_eq {outcome : Except Fault (Option String)}
    (hleads : Leads setup server next) (hget : server.connections[index]? = some connection)
    (houtcome : connection.stage = .concluded outcome) :
    ∃ later : Connection, next.connections[index]? = some later ∧
      later.stage = .concluded outcome := by
  obtain ⟨later, hlater, honward⟩ := hleads.onward hget
  rcases honward.further with ⟨hstage, _⟩ | hless
  · exact ⟨later, hlater, hstage.trans houtcome⟩
  · simp [houtcome, Stage.rank] at hless

/-- Whether the exchange of the connection at some place has begun and is not over. -/
def Serves (server : Server) (index : Nat) : Prop :=
  ∃ connection, server.connections[index]? = some connection ∧ connection.isInFlight = true

theorem Connection.isInFlight_iff_rank :
    connection.isInFlight = true ↔ 0 < connection.stage.rank ∧ connection.stage.rank < 6 := by
  cases hstage : connection.stage <;>
    simp [isInFlight, isOver, hstage, Stage.isWaiting, Stage.outcome?, Stage.rank]

/-- An exchange that goes on goes on all the while before. -/
theorem Serves.between {middle : Server} (hserves : server.Serves index)
    (hfirst : Leads setup server middle) (hsecond : Leads setup middle next)
    (hlast : next.Serves index) : middle.Serves index := by
  obtain ⟨connection, hget, hflight⟩ := hserves
  obtain ⟨other, hother, honward⟩ := hfirst.onward hget
  obtain ⟨later, hlater, honward'⟩ := hsecond.onward hother
  obtain ⟨last, hget', hflight'⟩ := hlast
  cases hlater.symm.trans hget'
  -- Ranks never grow: this one is already below that of a client that waits, and not
  -- yet zero.
  rw [Connection.isInFlight_iff_rank] at hflight hflight'
  refine ⟨other, hother, Connection.isInFlight_iff_rank.mpr ⟨?_, ?_⟩⟩
  · rcases honward'.further with ⟨hstage, _⟩ | hless
    · exact hstage ▸ hflight'.1
    · omega
  · rcases honward.further with ⟨hstage, _⟩ | hless
    · exact hstage ▸ hflight.2
    · omega

end LineGreeting.Server
