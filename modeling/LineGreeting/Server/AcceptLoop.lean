import LineGreeting.Console.Transcript
import LineGreeting.Server.Connection

/-! # The accept loop

A server in sequential mode accepts a client, serves it to the end and then
accepts the next. In concurrent mode it takes a slot, accepts a client and leaves
it with the slot, which comes back when the exchange is over. If an attempt to
accept a client fails then whoever is in the queue stays there, and the loop tries
again after a while; it keeps its slot until then. The end of the server is noticed
only where the loop waits for a slot or a client.

All that can be done is done one step at a time: first what the loop can do, then
what announces accepted clients, then what brings exchanges further.
-/

namespace LineGreeting

open Server (Activity Connection Setup Stats)

/-- Where the accept loop is. -/
inductive Server.Phase where
  /-- It waits for a slot. -/
  | awaitingSlot
  /-- It waits for a client. -/
  | accepting
  /-- It serves a connection, known by its place among all connections. -/
  | serving (index : Nat)
  /-- It waits for a point of time to try again. -/
  | backingOff (due : Nat)
  /-- It is over. -/
  | ended
deriving DecidableEq, Repr

/-- A server with all its connections, at some point of time. -/
structure Server where
  now : Nat := 0
  /-- The connections, in the order in which the clients came. -/
  connections : List Connection := []
  phase : Server.Phase
  /-- How many slots are free. -/
  slots : Nat
  /-- Whether clients cannot be accepted for want of a descriptor. -/
  starved : Bool := false
  /-- Why the next attempts to accept a client fail, whoever may be there. -/
  refusals : List Fault := []
  /-- Whether the server shall end. -/
  stopping : Bool := false
  /-- How often a client and the end of the server were due at once. -/
  races : Nat := 0
  stats : Stats := {}
  /-- The activities that the server was set to, one after the other. -/
  watched : List Activity := []
  /-- The lines printed for connections, each with the place of its connection. -/
  printed : List (Nat × String) := []
  logged : List Log.Entry := []

namespace Server

/-- The server before its first client. -/
def initial (mode : ServerMode) (slots : Nat) : Server where
  phase := match mode with
    | .sequential => .accepting
    | .concurrent => .awaitingSlot
  slots

/-- What the server does, as far as it shows. -/
def activity (server : Server) : Activity :=
  server.watched.getLast?.getD .listening

/-- The lines of the console before the server listens. -/
def firstLines : Transcript :=
  Transcript.line {} banner

/-- All that is printed. -/
def transcript (server : Server) : Transcript :=
  server.printed.foldl (fun transcript (_, line) => transcript.line line) firstLines

/-- How many exchanges are not over yet. -/
def inFlight (server : Server) : Nat :=
  server.connections.countP fun connection => !connection.stage.isWaiting && !connection.isOver

/-- Logs something. -/
def log (server : Server) (entries : List Log.Entry) : Server :=
  { server with logged := server.logged ++ entries }

/-- Shows another activity, or the same again. -/
def setActivity (server : Server) (activity : Activity) : Server :=
  { server with
    watched := server.watched ++ [activity]
    logged := server.logged ++
      [{ level := .trace, topic, text := "State change", values := [("state", activity.name)] }] }

/-- Changes one connection. -/
def modify (server : Server) (index : Nat) (change : Connection → Connection) : Server :=
  { server with connections := server.connections.modify index change }

/-! ## Steps of the loop -/

/-- The place of the client that is first in the queue. -/
def firstWaiting? (server : Server) : Option Nat :=
  server.connections.findIdx? (·.stage.isWaiting)

/-- What is logged when a client cannot be accepted. -/
def failedToAccept (fault : Fault) : Log.Entry where
  level := .error
  topic := topic
  text := "Failed to accept connection"
  values := [("error", fault.message)]

/-- Fails to accept a client, and waits. -/
def backOff (cause : Fault) (server : Server) : Server :=
  { server with phase := .backingOff (server.now + backoff) }.log [failedToAccept cause]

/-- Accepts the client at some place. -/
def accept (setup : Setup) (index : Nat) (server : Server) : Server :=
  let accepted := { server with
    stats := { server.stats with accepted := server.stats.accepted + 1 } }.modify index
      fun connection => { connection with stage := .accepted }
  let accepted := accepted.log
    ((server.connections[index]?.map (·.entry .debug "New connection")).toList)
  match setup.mode with
  | .sequential => { accepted.setActivity .serving with phase := .serving index }
  | .concurrent => { accepted with phase := .awaitingSlot }

/-- What comes of an attempt to accept a client, if anything does. -/
def attempt? (setup : Setup) (server : Server) : Option Server :=
  match server.refusals with
  | cause :: later => some ({ server with refusals := later }.backOff cause)
  | [] => server.firstWaiting?.map fun index =>
      if server.starved then server.backOff (.system .noDescriptorLeft)
      else server.accept setup index

/-- Ends the loop. A slot that waits for a client comes back. -/
def shutDown (setup : Setup) (server : Server) : Server :=
  { server with
    phase := .ended
    slots := match server.phase, setup.mode with
      | .accepting, .concurrent => server.slots + 1
      | _, _ => server.slots }.log
    [{ level := .info, topic, text := "Server shutting down" }]

/-- Goes on if that is possible, and ends if the server shall end. If both are
due, the setup says which wins. -/
def contend (setup : Setup) (server : Server) (goOn : Option Server) : Option Server :=
  if server.stopping then
    match goOn with
    | none => some (server.shutDown setup)
    | some next =>
      let winner := if setup.clientWins server.races then next else server.shutDown setup
      some { winner with races := server.races + 1 }
  else goOn

/-- The next step of the loop, if there is one. -/
def loop? (setup : Setup) (server : Server) : Option Server :=
  match server.phase with
  | .awaitingSlot =>
    server.contend setup
      (if 0 < server.slots then
        some { server with phase := .accepting, slots := server.slots - 1 }
      else none)
  | .accepting => server.contend setup (server.attempt? setup)
  | .serving index =>
    if server.connections[index]?.all Connection.isOver then
      some { server.setActivity .listening with phase := .accepting }
    else none
  | .backingOff due =>
    if due ≤ server.now then
      match setup.mode with
      | .sequential => some { server with phase := .accepting }
      | .concurrent => some { server with phase := .awaitingSlot, slots := server.slots + 1 }
    else none
  | .ended => none

/-! ## Steps of the exchanges -/

/-- Takes a step in the exchange of the connection at some place. An exchange that
comes to its end is counted, and gives its slot back. -/
def proceed (setup : Setup) (server : Server) (index : Nat) (step : Advance) : Server :=
  { server with
    connections := server.connections.modify index fun _ => step.connection
    stats := match step.connection.stage.outcome? with
      | some outcome => server.stats.count outcome
      | none => server.stats
    slots := match setup.mode, step.connection.stage.outcome? with
      | .concurrent, some _ => server.slots + 1
      | _, _ => server.slots
    printed := server.printed ++ step.printed.toList.map (index, ·)
    logged := server.logged ++ step.logged }

/-- The place of the connection whose turn it is: the first that has to be
announced, else the first that can go on. -/
def turn? (setup : Setup) (server : Server) : Option Nat :=
  match server.connections.findIdx? (·.stage.isAccepted) with
  | some index => some index
  | none => server.connections.findIdx? fun connection =>
      (connection.advance? setup server.now).isSome

/-- The next step in some exchange, if there is one. -/
def exchange? (setup : Setup) (server : Server) : Option Server := do
  let index ← server.turn? setup
  let connection ← server.connections[index]?
  let step ← connection.advance? setup server.now
  return server.proceed setup index step

/-- The next step of all, if there is one. -/
def next? (setup : Setup) (server : Server) : Option Server :=
  match server.loop? setup with
  | some next => some next
  | none => server.exchange? setup

end Server

end LineGreeting
