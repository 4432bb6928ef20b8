import LineGreeting.Proofs.Server.Ledger
import Mathlib.Data.List.Basic

/-! # Sequential service

A server in sequential mode serves one client at a time, in the order in which
they came. What it shows of itself, its counts and its transcript follow from how
many clients it has accepted and how many it is done with: it turns to one with
each acceptance and away from it at the end of its exchange, and prints for no
other in between.
-/

namespace LineGreeting.Server

variable {setup : Setup} {server next : Server} {slots index : Nat} {connection : Connection}

/-- How many connections the loop has turned away from. -/
def doneWith (server : Server) : Nat :=
  match server.phase with
  | .serving index => index
  | .awaitingSlot | .accepting | .backingOff _ | .ended => server.stats.accepted

/-- So many activities, one for each turn to a client and away from it. -/
def turns (count : Nat) : List Activity :=
  (List.range count).map fun turn => if turn % 2 = 0 then .serving else .listening

/-- What keeps a sequential server in turn. -/
structure InTurn (server : Server) : Prop where
  not_awaiting : server.phase ≠ .awaitingSlot
  accepted_of_serving : ∀ index, server.phase = .serving index → server.stats.accepted = index + 1
  isOver_of_lt : ∀ index connection, server.connections[index]? = some connection →
    index < server.doneWith → connection.isOver = true
  watched_eq : server.watched = turns (server.stats.accepted + server.doneWith)
  printed_eq : server.printed =
    (List.range server.stats.accepted).flatMap fun index => (server.linesOf index).map (index, ·)

/-! ## Turns -/

theorem turns_succ (count : Nat) :
    turns (count + 1) = turns count ++ [if count % 2 = 0 then .serving else .listening] := by
  rw [turns, List.range_succ, List.map_append]
  rfl

theorem count_turns (count : Nat) :
    (turns count).count .serving = (count + 1) / 2 ∧
      (turns count).count .listening = count / 2 := by
  induction count with
  | zero => exact ⟨rfl, rfl⟩
  | succ count ih =>
      rw [turns_succ, List.count_append, List.count_append, ih.1, ih.2]
      rcases Nat.mod_two_eq_zero_or_one count with heven | hodd
      · rw [if_pos heven, List.count_singleton_self,
          List.count_eq_zero_of_not_mem (by simp)]
        omega
      · rw [if_neg (by omega), List.count_singleton_self,
          List.count_eq_zero_of_not_mem (by simp)]
        omega

/-- A server shows what it has turned to last. -/
theorem getLast?_turns (count : Nat) :
    (turns count).getLast?.getD .listening =
      if count % 2 = 1 then .serving else .listening := by
  cases count with
  | zero => rfl
  | succ count =>
      rw [turns_succ, List.getLast?_concat, Option.getD_some]
      rcases Nat.mod_two_eq_zero_or_one count with heven | hodd
      · rw [if_pos heven, if_pos (by omega)]
      · rw [if_neg (by omega), if_neg (by omega)]

/-! ## What keeps the turn -/

theorem doneWith_of_serving (hphase : server.phase = .serving index) :
    server.doneWith = index := by
  rw [doneWith, hphase]

theorem InTurn.doneWith_le (hturn : InTurn server) :
    server.doneWith ≤ server.stats.accepted := by
  rw [doneWith]
  split
  next index hphase =>
    rw [hturn.accepted_of_serving index hphase]
    exact Nat.le_succ index
  all_goals exact Nat.le.refl

/-- The loop is with the connection whose exchange goes on. -/
theorem InTurn.phase_eq (hturn : InTurn server) (hledger : Ledger setup server)
    (hget : server.connections[index]? = some connection)
    (hflight : connection.isInFlight = true) : server.phase = .serving index := by
  obtain ⟨hwaiting, hover⟩ := Connection.isInFlight_iff.mp hflight
  -- What lies between those that are over and those that wait is what is served.
  have hbefore := hledger.lt_accepted hget hwaiting
  have hafter : server.doneWith ≤ index := by
    rw [← Nat.not_lt]
    intro hless
    rw [hturn.isOver_of_lt index connection hget hless] at hover
    cases hover
  cases hphase : server.phase with
  | serving place =>
      rw [doneWith_of_serving hphase] at hafter
      rw [hturn.accepted_of_serving place hphase] at hbefore
      rw [Nat.le_antisymm hafter (Nat.le_of_lt_succ hbefore)]
  | _ =>
      rw [doneWith, hphase] at hafter
      exact absurd hafter (Nat.not_le.mpr hbefore)

theorem inTurn_initial (slots : Nat) : InTurn (initial .sequential slots) where
  not_awaiting := nofun
  accepted_of_serving _ := nofun
  isOver_of_lt := by
    rintro index connection ⟨⟩
  watched_eq := rfl
  printed_eq := rfl

/-- Where the loop goes without a client, the turn stays as it is. -/
theorem InTurn.idle (hturn : InTurn server) (hbefore : server.doneWith = server.stats.accepted)
    {phase : Phase} (hphase : phase = .accepting ∨ phase = .ended ∨ ∃ due, phase = .backingOff due)
    (slots : Nat) (refusals : List Fault) (logged : List Log.Entry) :
    InTurn { server with phase, slots, refusals, logged } := by
  have hafter : doneWith { server with phase, slots, refusals, logged } = server.doneWith := by
    rw [hbefore]
    rcases hphase with rfl | rfl | ⟨due, rfl⟩ <;> rfl
  refine ⟨?_, ?_, ?_, ?_, hturn.printed_eq⟩
  · rcases hphase with rfl | rfl | ⟨due, rfl⟩ <;> nofun
  · intro index hserving
    rcases hphase with rfl | rfl | ⟨due, rfl⟩ <;> cases hserving
  · intro index connection hget hless
    exact hturn.isOver_of_lt index connection hget (hafter ▸ hless)
  · rw [hafter]
    exact hturn.watched_eq

theorem InTurn.accept (hmode : setup.mode = .sequential) (hledger : Ledger setup server)
    (hturn : InTurn server) (hphase : server.phase = .accepting)
    (hwaiting : server.firstWaiting? = some index) : InTurn (server.accept setup index) := by
  obtain ⟨rfl, -⟩ := hledger.firstWaiting?_eq hwaiting
  have hserving := phase_accept setup server.stats.accepted server
  rw [hmode] at hserving
  have hbefore : server.doneWith = server.stats.accepted := by rw [doneWith, hphase]
  have hafter := doneWith_of_serving hserving
  refine ⟨?_, ?_, ?_, ?_, ?_⟩
  · rw [hserving]
    nofun
  · intro index hindex
    rw [hserving] at hindex
    cases hindex
    rw [stats_accept]
  · intro index connection hget hless
    rw [hafter] at hless
    rw [connections_accept, List.getElem?_modify_ne _ _ (Nat.ne_of_gt hless)] at hget
    exact hturn.isOver_of_lt index connection hget (hbefore ▸ hless)
  · rw [watched_accept, hmode, hafter, stats_accept, hturn.watched_eq, hbefore,
      Nat.add_right_comm, turns_succ, if_pos (by omega)]
  · simp only [printed_accept, stats_accept, linesOf_accept]
    rw [List.range_succ, List.flatMap_append, List.flatMap_singleton,
      hledger.unprinted _ Nat.le.refl, List.map_nil, List.append_nil]
    exact hturn.printed_eq

/-- The loop turns away from a connection when its exchange is over. -/
theorem InTurn.turn (hturn : InTurn server) (hphase : server.phase = .serving index)
    (hover : server.connections[index]?.all Connection.isOver) :
    InTurn { server.setActivity .listening with phase := .accepting } := by
  have haccepted := hturn.accepted_of_serving index hphase
  refine ⟨nofun, fun _ => nofun, ?_, ?_, hturn.printed_eq⟩
  · intro place connection hget hless
    change place < server.stats.accepted at hless
    change server.connections[place]? = some connection at hget
    rw [haccepted] at hless
    rcases Nat.lt_succ_iff_lt_or_eq.mp hless with hbefore | rfl
    · exact hturn.isOver_of_lt place connection hget (doneWith_of_serving hphase ▸ hbefore)
    · rw [hget] at hover
      exact hover
  · change server.watched ++ [.listening] = turns (server.stats.accepted + server.stats.accepted)
    rw [hturn.watched_eq, doneWith_of_serving hphase, haccepted]
    change _ = turns (index + 1 + index + 1)
    rw [turns_succ, if_neg (by omega)]

theorem LoopStep.inTurn (hmode : setup.mode = .sequential) (hledger : Ledger setup server)
    (hloop : LoopStep setup server next) (hturn : InTurn server) : InTurn next := by
  cases hloop with
  | takeSlot hphase => exact absurd hphase hturn.not_awaiting
  | accept hphase hwaiting => exact hturn.accept hmode hledger hphase hwaiting
  | refuse hphase =>
      exact hturn.idle (by rw [doneWith, hphase]) (.inr (.inr ⟨_, rfl⟩)) server.slots _ _
  | starve hphase =>
      exact hturn.idle (by rw [doneWith, hphase]) (.inr (.inr ⟨_, rfl⟩)) server.slots _ _
  | shutDown hphase =>
      rcases hphase with hphase | hphase
      · exact absurd hphase hturn.not_awaiting
      · exact hturn.idle (by rw [doneWith, hphase]) (.inr (.inl rfl)) _ server.refusals _
  | turn hphase hover => exact hturn.turn hphase hover
  | retry hphase =>
      exact hturn.idle (by rw [doneWith, hphase]) (.inl rfl) server.slots server.refusals server.logged
  | giveUp hphase hdue hconcurrent =>
      rw [hmode] at hconcurrent
      cases hconcurrent

theorem InTurn.proceed {step : Advance} (hturn : InTurn server) (hledger : Ledger setup server)
    (hget : server.connections[index]? = some connection)
    (hsteps : connection.Steps setup server.now step) :
    InTurn (server.proceed setup index step) := by
  have hphase := hturn.phase_eq hledger hget hsteps.isInFlight
  have hafter : (server.proceed setup index step).phase = .serving index := hphase
  have haccepted := hturn.accepted_of_serving index hphase
  have hdone := doneWith_of_serving hphase
  refine ⟨hturn.not_awaiting, ?_, ?_, ?_, ?_⟩
  · intro place hplace
    rw [stats_proceed]
    exact hturn.accepted_of_serving place hplace
  · intro place other hother hless
    rw [doneWith_of_serving hafter] at hless
    rw [connections_proceed, List.getElem?_modify_ne _ _ (Nat.ne_of_gt hless)] at hother
    exact hturn.isOver_of_lt place other hother (hdone ▸ hless)
  · rw [stats_proceed, doneWith_of_serving hafter, ← hdone]
    exact hturn.watched_eq
  · -- The lines go to the last connection there is, so its block stays the last one.
    have hearlier : (List.range index).flatMap (fun place =>
        ((server.proceed setup index step).linesOf place).map (place, ·)) =
        (List.range index).flatMap fun place => (server.linesOf place).map (place, ·) := by
      apply List.flatMap_congr
      intro place hplace
      rw [linesOf_proceed, if_neg (Nat.ne_of_gt (List.mem_range.mp hplace)), List.append_nil]
    have hprinted := hturn.printed_eq
    rw [haccepted, List.range_succ, List.flatMap_append, List.flatMap_singleton] at hprinted
    simp only [stats_proceed]
    rw [haccepted, List.range_succ, List.flatMap_append, hearlier, List.flatMap_singleton,
      linesOf_proceed, if_pos rfl, List.map_append, ← List.append_assoc, ← hprinted]
    rfl

theorem EventStep.inTurn (hevent : EventStep server next) (hledger : Ledger setup server)
    (hturn : InTurn server) : InTurn next := by
  have hle := Nat.le_trans hturn.doneWith_le hledger.accepted_le
  cases hevent with
  | connect peer =>
      refine { hturn with isOver_of_lt := ?_ }
      intro index connection hget hless
      change index < server.doneWith at hless
      rcases getElem?_concat_cases hget with hold | ⟨rfl, rfl⟩
      · exact hturn.isOver_of_lt index connection hold hless
      · exact absurd hle (Nat.not_le.mpr hless)
  | peer place hchange =>
      refine { hturn with isOver_of_lt := ?_ }
      intro index connection hget hless
      rcases getElem?_modify_cases hget with ⟨_, hold⟩ | ⟨rfl, before, hold, rfl⟩
      · exact hturn.isOver_of_lt index connection hold hless
      · rw [Connection.isOver, (hchange before).stage]
        exact hturn.isOver_of_lt index before hold hless
  | around => exact { hturn with }

theorem Moves.inTurn (hmode : setup.mode = .sequential) (hmove : Moves setup server next)
    (hledger : Ledger setup server) (hturn : InTurn server) : InTurn next := by
  cases hmove with
  | loop hloop =>
      obtain ⟨after, races, hafter, rfl⟩ := loop_cases hloop
      exact { hafter.inTurn hmode hledger hturn with }
  | exchange hget hstep => exact hturn.proceed hledger hget (advance_cases hstep)
  | event event => exact (event_cases event server).inTurn hledger hturn

theorem Reachable.inTurn (hmode : setup.mode = .sequential)
    (hreachable : Reachable setup slots server) : InTurn server := by
  induction hreachable with
  | refl =>
      rw [hmode]
      exact inTurn_initial slots
  | tail hbefore hmove ih => exact hmove.inTurn hmode (Reachable.ledger hbefore) ih

/-! ## While a connection is served -/

/-- Whether nothing has been printed for any connection but one, and nothing sent to
any other. -/
structure OnlyFor (index : Nat) (server next : Server) : Prop where
  printed : ∃ lines : List String, next.printed = server.printed ++ lines.map (index, ·)
  sentTo : ∀ other, other ≠ index → next.sentTo other = server.sentTo other

theorem OnlyFor.trans {middle : Server} (hfirst : OnlyFor index server middle)
    (hsecond : OnlyFor index middle next) : OnlyFor index server next := by
  obtain ⟨⟨lines, hprinted⟩, hsent⟩ := hfirst
  obtain ⟨⟨more, hprinted'⟩, hsent'⟩ := hsecond
  refine ⟨⟨lines ++ more, ?_⟩, ?_⟩
  · rw [hprinted', hprinted, List.map_append, List.append_assoc]
  · intro other hother
    rw [hsent' other hother, hsent other hother]

theorem EventStep.onlyFor (hevent : EventStep server next) (index : Nat) :
    OnlyFor index server next := by
  cases hevent with
  | connect peer =>
      refine ⟨⟨[], (List.append_nil _).symm⟩, ?_⟩
      intro other _
      rw [Server.sentTo, Server.sentTo]
      rcases Nat.lt_or_ge other server.connections.length with hless | hle
      · rw [List.getElem?_append_left hless]
      · rw [List.getElem?_append_right hle, List.getElem?_eq_none hle]
        cases other - server.connections.length <;> rfl
  | peer place hchange =>
      refine ⟨⟨[], (List.append_nil _).symm⟩, ?_⟩
      intro other _
      rw [Server.sentTo, Server.sentTo, modify, List.getElem?_modify]
      cases server.connections[other]? with
      | none => rfl
      | some connection =>
          by_cases hplace : place = other
          · simp [hplace, (hchange connection).sent]
          · simp [hplace]
  | around => exact ⟨⟨[], (List.append_nil _).symm⟩, fun _ _ => rfl⟩

theorem onlyFor_proceed (step : Advance) :
    OnlyFor index server (server.proceed setup index step) := by
  refine ⟨⟨step.printed.toList, rfl⟩, ?_⟩
  intro other hother
  rw [sentTo, connections_proceed, List.getElem?_modify_ne _ _ hother.symm, sentTo]

/-- While the loop is with a connection nothing comes of the others. -/
theorem InTurn.onlyFor (hturn : InTurn server) (hledger : Ledger setup server)
    (hserves : server.Serves index) (hmove : Moves setup server next) :
    OnlyFor index server next := by
  obtain ⟨connection, hget, hflight⟩ := hserves
  have hphase := hturn.phase_eq hledger hget hflight
  cases hmove with
  | loop hloop =>
      -- The loop waits for the exchange, so it takes no step.
      obtain ⟨after, races, hafter, rfl⟩ := loop_cases hloop
      cases hafter with
      | @turn place hplace hover =>
          cases hphase.symm.trans hplace
          rw [hget, Option.all_some] at hover
          simp [Connection.isInFlight, hover] at hflight
      | shutDown hother =>
          rcases hother with hother | hother <;> cases hphase.symm.trans hother
      | takeSlot hother | accept hother | refuse hother | starve hother | retry hother
      | giveUp hother => cases hphase.symm.trans hother
  | exchange hother hstep =>
      have hplace := hturn.phase_eq hledger hother (advance_cases hstep).isInFlight
      cases hphase.symm.trans hplace
      exact onlyFor_proceed _
  | event event => exact (event_cases event server).onlyFor index

theorem Reachable.onlyFor {later : Server} (hmode : setup.mode = .sequential)
    (hreachable : Reachable setup slots server) (hserves : server.Serves index)
    (hleads : Leads setup server later) (hlast : later.Serves index) :
    OnlyFor index server later := by
  induction hleads with
  | refl => exact ⟨⟨[], (List.append_nil _).symm⟩, fun _ _ => rfl⟩
  | @tail middle later hfirst hmove ih =>
      have hmiddle := hserves.between hfirst (.single hmove) hlast
      have hbefore : Reachable setup slots middle := hreachable.trans hfirst
      exact (ih hmiddle).trans ((hbefore.inTurn hmode).onlyFor hbefore.ledger hmiddle hmove)

/-! ## At rest -/

/-- The address and the name with which a client is announced. -/
def Setup.nameOf (setup : Setup) (peer : Net.Endpoint) : String :=
  (Net.PeerName.lookup setup.names setup.resolveHostnames peer.address).text

/-- What a sequential server shows whenever it rests. -/
structure Orderly (setup : Setup) (server : Server) : Prop where
  inFlight_le : server.inFlight ≤ 1
  activity_eq : server.activity = if server.inFlight = 1 then .serving else .listening
  accepted_eq : server.stats.accepted = server.stats.completed + server.stats.failed +
    if server.activity = .serving then 1 else 0
  watched_eq : server.watched =
    turns (server.stats.accepted + (server.stats.completed + server.stats.failed))
  count_serving : server.watched.count .serving = server.stats.accepted
  count_listening : server.watched.count .listening =
    server.stats.completed + server.stats.failed
  completed_eq : server.stats.completed = server.connections.countP (·.stage.isCompleted)
  failed_eq : server.stats.failed = server.connections.countP (·.stage.isFailed)
  waiting_iff : ∀ index connection, server.connections[index]? = some connection →
    (connection.stage = .waiting ↔ server.stats.accepted ≤ index)
  /-- The console shows one line, and then the lines of one connection after the other. -/
  captured_eq : server.transcript.captured =
    ("Server TCP" :: (List.range server.stats.accepted).flatMap server.linesOf).flatMap
      fun line => Text.utf8 line ++ [0x0A]
  block : ∀ index connection, server.connections[index]? = some connection →
    index < server.stats.accepted →
    server.linesOf index = ["Pripojil se klient z: " ++ setup.nameOf connection.peer] ∨
      ∃ text, server.linesOf index =
        ["Pripojil se klient z: " ++ setup.nameOf connection.peer, "Message Received: " ++ text]
  block_of_completed : ∀ index connection request, server.connections[index]? = some connection →
    connection.stage = .concluded (.ok request) →
    server.linesOf index = ["Pripojil se klient z: " ++ setup.nameOf connection.peer,
      "Message Received: " ++ request.getD ""]

/-- At rest the exchange that the loop waits for is the only one that is not over. -/
theorem InTurn.over_iff (hturn : InTurn server) (hledger : Ledger setup server)
    (hrest : AtRest setup server) (hget : server.connections[index]? = some connection) :
    connection.isOver = true ↔ index < server.doneWith := by
  refine ⟨?_, hturn.isOver_of_lt index connection hget⟩
  intro hover
  have haccepted : index < server.stats.accepted := by
    apply hledger.lt_accepted hget
    rw [Connection.isOver] at hover
    cases hstage : connection.stage with
    | waiting =>
        rw [hstage] at hover
        cases hover
    | _ => rfl
  cases hphase : server.phase with
  | serving place =>
      rw [hturn.accepted_of_serving place hphase] at haccepted
      rw [doneWith_of_serving hphase]
      rcases Nat.lt_succ_iff_lt_or_eq.mp haccepted with hless | rfl
      · exact hless
      · have hloop := hrest.loop?_eq_none
        simp [loop?, hphase, hget, hover] at hloop
  | _ =>
      rw [doneWith, hphase]
      exact haccepted

theorem transcript_eq_foldl (server : Server) : server.transcript =
    ("Server TCP" :: server.printed.map Prod.snd).foldl Transcript.line {} := by
  rw [transcript, List.foldl_cons, List.foldl_map]
  rfl

theorem InTurn.captured_eq (hturn : InTurn server) : server.transcript.captured =
    ("Server TCP" :: (List.range server.stats.accepted).flatMap server.linesOf).flatMap
      fun line => Text.utf8 line ++ [0x0A] := by
  rw [transcript_eq_foldl, Transcript.captured_foldl_line, List.nil_append, hturn.printed_eq,
    List.map_flatMap]
  simp only [List.map_map, Function.comp_def, List.map_id']

/-- At rest every connection that has been accepted is announced. -/
theorem Ledger.block (hledger : Ledger setup server) (hrest : AtRest setup server)
    (hget : server.connections[index]? = some connection)
    (haccepted : index < server.stats.accepted) :
    server.linesOf index = ["Pripojil se klient z: " ++ setup.nameOf connection.peer] ∨
      ∃ text, server.linesOf index =
        ["Pripojil se klient z: " ++ setup.nameOf connection.peer,
          "Message Received: " ++ text] := by
  obtain ⟨hwaiting, hshows, -⟩ := hledger.booked index connection hget
  have hadvance := hrest.advance?_eq_none hget
  rw [Connection.Shows] at hshows
  cases hstage : connection.stage with
  | waiting => exact absurd (hwaiting.mp (by rw [hstage]; rfl)) (Nat.not_le.mpr haccepted)
  | accepted => simp [Connection.advance?, hstage] at hadvance
  | reading since =>
      rw [hstage] at hshows
      exact .inl hshows
  | replying request since =>
      rw [hstage] at hshows
      exact .inr ⟨_, hshows⟩
  | concluded outcome =>
      rw [hstage] at hshows
      cases outcome with
      | ok request => exact .inr ⟨_, hshows⟩
      | error fault =>
          rcases hshows with hannounced | ⟨text, hheard⟩
          · exact .inl hannounced
          · exact .inr ⟨_, hheard⟩

theorem Ledger.block_of_completed {request : Option String} (hledger : Ledger setup server)
    (hget : server.connections[index]? = some connection)
    (hstage : connection.stage = .concluded (.ok request)) :
    server.linesOf index = ["Pripojil se klient z: " ++ setup.nameOf connection.peer,
      "Message Received: " ++ request.getD ""] := by
  have hshows := (hledger.booked index connection hget).shows
  rw [Connection.Shows, hstage] at hshows
  exact hshows

theorem orderly_of_atRest (hmode : setup.mode = .sequential)
    (hreachable : Reachable setup slots server) (hrest : AtRest setup server) :
    Orderly setup server := by
  have hledger := hreachable.ledger
  have hturn := hreachable.inTurn hmode
  -- Those that are over come first in the queue, so there are as many as the loop is done with.
  have hdone : server.doneWith = server.stats.completed + server.stats.failed := by
    rw [← hledger.over_eq]
    symm
    apply countP_eq_of_lt_iff
    · exact Nat.le_trans hturn.doneWith_le hledger.accepted_le
    · intro index connection hget
      exact hturn.over_iff hledger hrest hget
  have haccepted := hledger.accepted_eq
  have hflight : server.inFlight ≤ 1 := by
    cases hphase : server.phase with
    | serving index =>
        rw [doneWith_of_serving hphase] at hdone
        have hindex := hturn.accepted_of_serving index hphase
        omega
    | _ =>
        rw [doneWith, hphase] at hdone
        dsimp only at hdone
        omega
  have hwatched := hturn.watched_eq
  rw [hdone] at hwatched
  have hactivity : server.activity = if server.inFlight = 1 then .serving else .listening := by
    rw [activity, hwatched, getLast?_turns]
    exact if_congr (by omega) rfl rfl
  refine ⟨hflight, hactivity, ?_, hwatched, ?_, ?_, hledger.completed_eq, hledger.failed_eq,
    ?_, hturn.captured_eq, fun index connection hget => hledger.block hrest hget,
    fun index connection request hget => hledger.block_of_completed hget⟩
  · rw [hactivity]
    split <;> simp <;> omega
  · rw [hwatched, (count_turns _).1]
    omega
  · rw [hwatched, (count_turns _).2]
    omega
  · intro index connection hget
    rw [← Stage.isWaiting_iff]
    exact (hledger.booked index connection hget).waiting_iff

/-- In every run, and in every other order of its steps, a sequential server shows at
rest which one client it is with, counts and prints them one after the other, takes no
count back, and while it is with one client nothing comes of the others, up to and
with the move that ends it. -/
theorem sequential_orderly (setup : Setup) (slots : Nat) (hmode : setup.mode = .sequential) :
    (∀ events, Reachable setup slots ((initial setup.mode slots).run setup events) ∧
      AtRest setup ((initial setup.mode slots).run setup events)) ∧
    ∀ server, Reachable setup slots server →
      (AtRest setup server → Orderly setup server) ∧
      ∀ later, Leads setup server later →
        server.stats.accepted ≤ later.stats.accepted ∧
        server.stats.completed ≤ later.stats.completed ∧
        server.stats.failed ≤ later.stats.failed ∧
        ∀ index next, server.Serves index → later.Serves index → Moves setup later next →
          OnlyFor index server next := by
  refine ⟨fun events => ⟨reachable_run setup slots events, atRest_run setup _ events⟩,
    fun server hreachable => ⟨orderly_of_atRest hmode hreachable, fun later hleads => ?_⟩⟩
  obtain ⟨haccepted, hcompleted, hfailed⟩ := hleads.stats_le
  refine ⟨haccepted, hcompleted, hfailed, ?_⟩
  intro index next hserves hlast hmove
  have hlater : Reachable setup slots later := hreachable.trans hleads
  have hbetween := hreachable.onlyFor hmode hserves hleads hlast
  exact hbetween.trans ((hlater.inTurn hmode).onlyFor hlater.ledger hlast hmove)

def sequentialSetup : Setup where
  mode := .sequential
  responder := { reply := "hi" }
  resolveHostnames := false
  names _ := none

/-- A server with one of two clients, which has not sent anything yet. -/
def busyServer : Server :=
  let server := (Event.connect ⟨.v4 .loopback, 1⟩).apply (initial .sequential 1)
  let server := (Event.connect ⟨.v4 .loopback, 2⟩).apply server
  stepped sequentialSetup (stepped sequentialSetup server)

theorem sequential_orderly_busyServer : sequentialSetup.mode = .sequential ∧
    Orderly sequentialSetup busyServer ∧
    busyServer.transcript.captured =
      Text.utf8 "Server TCP\nPripojil se klient z: 127.0.0.1/127.0.0.1\n" ∧
    busyServer.Serves 0 ∧
    OnlyFor 0 busyServer ((Event.send 1 [0x0A]).apply busyServer) := by
  have hreachable : Reachable sequentialSetup 1 busyServer :=
    .tail (.tail (.tail (.single (.event (.connect _) _)) (.event (.connect _) _))
      (moves_stepped rfl)) (moves_stepped rfl)
  have hrest : AtRest sequentialSetup busyServer := by
    have hconnections : busyServer.connections =
        [{ peer := ⟨.v4 .loopback, 1⟩, stage := .reading 0 }, { peer := ⟨.v4 .loopback, 2⟩ }] :=
      rfl
    apply atRest_of_none rfl
    intro connection hmem
    rw [hconnections] at hmem
    rcases List.mem_pair.mp hmem with rfl | rfl
    · have hread : Wire.Reader.readLine { script := [.silence] } = .never := by
        rw [Wire.Reader.readLine, Wire.Reader.finishLine]
        rfl
      simp [Connection.advance?, Connection.script, hread, sequentialSetup]
    · rfl
  have hserves : busyServer.Serves 0 := ⟨_, rfl, rfl⟩
  obtain ⟨horderly, hlater⟩ := (sequential_orderly sequentialSetup 1 rfl).2 _ hreachable
  obtain ⟨-, -, -, honly⟩ := hlater _ .refl
  refine ⟨rfl, horderly hrest, (horderly hrest).captured_eq.trans (by decide +kernel), hserves, ?_⟩
  exact honly 0 _ hserves hserves (.event (.send 1 _) _)

end LineGreeting.Server
