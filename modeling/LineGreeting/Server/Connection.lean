import LineGreeting.Server.Basic

/-! # One connection of a server

A connection waits until it is accepted, is announced, has its request read and
is sent the reply. What its peer sends is kept from the start; the reader gets it
piece by piece, and what arrives while nobody reads is one piece. What is never read
breaks the connection off when the server closes it. A peer that has closed its side
can still be written to, for nobody has noticed yet; a peer that broke the connection
off cannot. A peer that takes up no more bytes for a while keeps the reply waiting.
-/

namespace LineGreeting.Server

/-- What the peer has done with its end. -/
inductive PeerEnd where
  /-- It may still send. -/
  | sending
  /-- It sends nothing more and still receives. -/
  | finished
  /-- It is gone. -/
  | closed
  /-- It broke the connection off. -/
  | reset
deriving DecidableEq, Repr

/-- How far the server is with a connection. -/
inductive Stage where
  /-- In the queue of clients to accept. -/
  | waiting
  /-- Accepted and not announced yet. -/
  | accepted
  /-- The request is read, from a point of time on. -/
  | reading (since : Nat)
  /-- The request is there, and the reply held back from a point of time on. -/
  | replying (request : Option String) (since : Nat)
  /-- The exchange is over, and the connection closed. -/
  | concluded (outcome : Except Fault (Option String))

/-- How much is left to do in a stage. Acceptance takes the accept loop a step
further, which is why a connection that waits counts more than it has steps. -/
def Stage.rank : Stage → Nat
  | waiting => 6
  | accepted => 3
  | reading _ => 2
  | replying .. => 1
  | concluded _ => 0

/-- Whether a connection is in the queue. -/
def Stage.isWaiting : Stage → Bool
  | waiting => true
  | _ => false

/-- Whether a connection has to be announced. -/
def Stage.isAccepted : Stage → Bool
  | accepted => true
  | _ => false

/-- How the exchange ended, if it is over. -/
def Stage.outcome? : Stage → Option (Except Fault (Option String))
  | concluded outcome => some outcome
  | _ => none

/-- How a connection is closed for its peer. -/
inductive Ending where
  /-- The stream ends behind what the peer was sent. -/
  | clean
  /-- The connection is broken off, for bytes of the peer were left unread. -/
  | broken
deriving DecidableEq, Repr

/-- A connection. -/
structure Connection where
  peer : Net.Endpoint
  /-- What the peer has sent and nobody has read, in the pieces in which it is read. -/
  arrived : List Bytes := []
  peerEnd : PeerEnd := .sending
  stage : Stage := .waiting
  /-- What the peer has been sent. -/
  sent : Bytes := []
  /-- How many bytes the peer takes up in all for the time being, unless it takes any
  number. -/
  room : Option Nat := none

/-- A step in the exchange of a connection: the connection after it, the line it
prints and what it logs. -/
structure Advance where
  connection : Connection
  printed : Option String := none
  logged : List Log.Entry := []

namespace Connection

/-- What the reader of the request meets: what has arrived, and then silence, the
end of the stream or a broken connection. -/
def script (connection : Connection) : Wire.Script :=
  connection.arrived.map .data ++
    match connection.peerEnd with
    | .sending => [.silence]
    | .finished | .closed => []
    | .reset => [.fault (.system .connectionReset)]

/-- What the reply is written to when nothing keeps it waiting any more. -/
def writer (connection : Connection) : Wire.Writer :=
  match connection.peerEnd with
  | .reset =>
    { barrier := some ⟨connection.sent.length, some (.system .connectionReset)⟩ }
  | _ => {}

/-- How many bytes of a line the peer takes up before the rest has to wait, if it has
to. Nothing waits for a peer that broke the connection off. -/
def limit? (connection : Connection) (line : Bytes) : Option Nat :=
  match connection.peerEnd with
  | .reset => none
  | _ => connection.room.filter (· < line.length)

/-- Whether the peer takes up more than it has been sent. -/
def hasRoom (connection : Connection) : Bool :=
  connection.room.any (connection.sent.length < ·)

/-- How much is left to do for a connection, a write that has to wait included. -/
def rank (connection : Connection) : Nat :=
  2 * connection.stage.rank + connection.hasRoom.toNat

/-- Whether the exchange is over. -/
def isOver (connection : Connection) : Bool :=
  connection.stage.outcome?.isSome

/-- How the server has closed the connection, if it has. -/
def ending? (connection : Connection) : Option Ending :=
  if connection.isOver then
    some (if connection.arrived.flatten = [] then .clean else .broken)
  else none

/-- A log entry about the peer of a connection. -/
def entry (connection : Connection) (level : Log.Level) (text : String)
    (values : List (String × String) := []) : Log.Entry :=
  { level, topic, text, values := ("peer", connection.peer.text) :: values }

/-- What the log says when an exchange is over. -/
def lastEntries (connection : Connection) : Except Fault (Option String) → List Log.Entry
  | .ok request =>
    let shown := match request with
      | none => "None"
      | some text => "Some(" ++ Text.quoted text ++ ")"
    [connection.entry .trace "Exchange complete" [("request", shown)],
      connection.entry .debug "Connection closed"]
  | .error fault => [connection.entry .warn "Connection error" [("error", fault.message)]]

/-- Ends the exchange. -/
def conclude (connection : Connection) (outcome : Except Fault (Option String)) : Advance where
  connection := { connection with stage := .concluded outcome }
  logged := connection.lastEntries outcome

/-- What the server can do next for a connection that it has accepted, if there is
anything. A request that is there at the deadline is in time. -/
def advance? (setup : Setup) (now : Nat) (connection : Connection) : Option Advance :=
  match connection.stage with
  | .waiting => none
  | .accepted =>
    some {
      connection := { connection with stage := .reading now }
      printed := some (setup.announcement connection.peer) }
  | .reading since =>
    let reader : Wire.Reader := { script := connection.script }
    match reader.readLine with
    | .ready _ (.ok request, next) =>
      some {
        connection := { connection with
          stage := .replying request now
          arrived := next.script.pieces }
        printed := some (Wire.received request)
        logged := reader.lineEntries next }
    | .ready _ (.error fault, next) =>
      some ({ connection with arrived := next.script.pieces }.conclude (.error fault))
    | .never =>
      match setup.responder.readTimeout with
      | none => none
      | some limit =>
        if since + limit ≤ now then
          some ({ connection with arrived := [] }.conclude (.error (.timedOut limit)))
        else none
  | .replying request since =>
    if since + setup.responder.replyDelay ≤ now then
      let line := Wire.encodeLine setup.responder.reply
      match connection.limit? line with
      | some limit =>
        if connection.sent.length < limit then
          some { connection := { connection with sent := line.take limit } }
        else none
      | none =>
        let (result, writer) := setup.responder.answer connection.writer
        some ({ connection with sent := writer.taken.toList }.conclude
          (result.map fun _ => request))
    else none
  | .concluded _ => none

/-- From when on a connection at rest can go on just because time has passed, if it
ever can. -/
def alarm? (setup : Setup) (connection : Connection) : Option Nat :=
  match connection.stage with
  | .reading since => setup.responder.readTimeout.map (since + ·)
  | .replying _ since => some (since + setup.responder.replyDelay)
  | .waiting | .accepted | .concluded _ => none

/-! ## What the peer does -/

/-- Takes in what the peer sends: more of the one piece before the connection is
announced, and a piece of its own after that. What comes behind the request nobody
reads. -/
def send (connection : Connection) (bytes : Bytes) : Connection :=
  if connection.peerEnd ≠ .sending ∨ bytes = [] then connection
  else match connection.stage with
    | .waiting | .accepted =>
      { connection with arrived := [connection.arrived.flatten ++ bytes] }
    | .reading _ | .replying .. | .concluded _ =>
      { connection with arrived := connection.arrived ++ [bytes] }

/-- The peer sends nothing more. -/
def finish (connection : Connection) : Connection :=
  if connection.peerEnd = .sending then { connection with peerEnd := .finished } else connection

/-- The peer goes. In the middle of the reply that breaks the connection off. -/
def close (connection : Connection) : Connection :=
  if connection.peerEnd = .reset then connection
  else if connection.sent ≠ [] ∧ ¬ connection.isOver then { connection with peerEnd := .reset }
  else { connection with peerEnd := .closed, room := none }

/-- The peer breaks the connection off. -/
def reset (connection : Connection) : Connection :=
  if connection.peerEnd = .closed then connection else { connection with peerEnd := .reset }

/-- The peer takes up so many bytes in all, or any number. -/
def allow (connection : Connection) (room : Option Nat) : Connection :=
  { connection with room }

/-! ## Laws -/

@[simp] theorem stage_send (connection : Connection) (bytes : Bytes) :
    (connection.send bytes).stage = connection.stage := by
  unfold send
  split
  · rfl
  · split <;> rfl

@[simp] theorem stage_finish (connection : Connection) :
    connection.finish.stage = connection.stage := by
  unfold finish
  split <;> rfl

@[simp] theorem stage_close (connection : Connection) :
    connection.close.stage = connection.stage := by
  unfold close
  split
  · rfl
  · split <;> rfl

@[simp] theorem stage_reset (connection : Connection) :
    connection.reset.stage = connection.stage := by
  unfold reset
  split <;> rfl

theorem rank_lt_of_stage {connection other : Connection}
    (hstage : other.stage.rank < connection.stage.rank) : other.rank < connection.rank := by
  have hother : other.hasRoom.toNat ≤ 1 := Bool.toNat_le _
  simp only [rank]
  omega

theorem limit?_eq_some_iff {connection : Connection} {line : Bytes} {limit : Nat} :
    connection.limit? line = some limit ↔
      connection.peerEnd ≠ .reset ∧ connection.room = some limit ∧ limit < line.length := by
  unfold limit?
  split <;> simp_all [Option.filter_eq_some_iff]

/-- A peer that has been sent all that it takes up has no room left. -/
theorem rank_lt_of_limit {connection : Connection} {line : Bytes} {limit : Nat}
    (hlimit : connection.limit? line = some limit) (hsent : connection.sent.length < limit) :
    { connection with sent := line.take limit }.rank < connection.rank := by
  obtain ⟨-, hroom, hless⟩ := limit?_eq_some_iff.1 hlimit
  simp only [rank, hasRoom, hroom, Option.any_some, hsent, decide_true, List.length_take,
    Nat.min_eq_left (Nat.le_of_lt hless), Nat.lt_irrefl, decide_false, Bool.toNat_true,
    Bool.toNat_false]
  omega

/-- Every step brings an exchange nearer to its end. -/
theorem rank_advance? {setup : Setup} {now : Nat} {connection : Connection} {next : Advance}
    (hadvance : connection.advance? setup now = some next) :
    next.connection.rank < connection.rank := by
  unfold advance? at hadvance
  cases hstage : connection.stage with
  | waiting => simp [hstage] at hadvance
  | accepted =>
    simp only [hstage, Option.some.injEq] at hadvance
    apply rank_lt_of_stage
    simp [← hadvance, hstage, Stage.rank]
  | reading since =>
    simp only [hstage] at hadvance
    apply rank_lt_of_stage
    rw [hstage]
    split at hadvance
    · cases hadvance
      simp [Stage.rank]
    · cases hadvance
      simp [conclude, Stage.rank]
    · split at hadvance
      · cases hadvance
      · split at hadvance
        · cases hadvance
          simp [conclude, Stage.rank]
        · cases hadvance
  | replying request since =>
    simp only [hstage] at hadvance
    split at hadvance
    · split at hadvance
      next limit hlimit =>
        split at hadvance
        next hsent =>
          cases hadvance
          simpa only [hstage] using rank_lt_of_limit hlimit hsent
        · cases hadvance
      · cases hadvance
        apply rank_lt_of_stage
        simp [conclude, hstage, Stage.rank]
    · cases hadvance
  | concluded outcome => simp [hstage] at hadvance

end Connection

end LineGreeting.Server
