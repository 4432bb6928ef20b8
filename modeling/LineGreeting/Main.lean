import LineGreeting.Program
import Std.Async.DNS
import Std.Async.Signal
import Std.Async.TCP
import Std.Async.Timer
import Std.Sync.Mutex

/-! # Command line

The first argument says which of the two programs runs; the other arguments are
its own. What happens on sockets, to the clock and to the process becomes events
of the server or an encounter of the client, and what the server prints, logs and
sends is printed, logged and sent. Nothing is decided here.
-/

namespace LineGreeting.Main

open Std.Async (Async)
open Std.Async.TCP (Socket.Client Socket.Server)
open Std.Net (IPAddr IPv4Addr IPv6Addr SocketAddress)

/-! ## The world outside -/

/-- An address of the operating system. -/
def addressOf : IPAddr → Net.Address
  | .v4 address =>
    .v4 ⟨address.octets[0], address.octets[1], address.octets[2], address.octets[3]⟩
  | .v6 address => .v6 address.segments

/-- An endpoint of the operating system. -/
def endpointOf : SocketAddress → Net.Endpoint
  | .v4 socket => ⟨addressOf (.v4 socket.addr), socket.port⟩
  | .v6 socket => ⟨addressOf (.v6 socket.addr), socket.port⟩

/-- An endpoint for the operating system. -/
def socketAddress (endpoint : Net.Endpoint) : SocketAddress :=
  match endpoint.address with
  | .v4 octets =>
    .v4 ⟨.ofParts octets.first octets.second octets.third octets.fourth, endpoint.port⟩
  | .v6 groups => .v6 ⟨⟨groups⟩, endpoint.port⟩

/-- The number of an error, which may have come as a negative one. -/
def codeOf : IO.Error → Option Nat
  | .alreadyExists _ code _ | .otherError code _ | .resourceBusy code _
  | .resourceVanished code _ | .unsupportedOperation code _ | .hardwareFault code _
  | .unsatisfiedConstraints code _ | .illegalOperation code _ | .protocolError code _
  | .timeExpired code _ | .interrupted _ code _ | .noFileOrDirectory _ code _
  | .invalidArgument _ code _ | .permissionDenied _ code _ | .resourceExhausted _ code _
  | .inappropriateType _ code _ | .noSuchThing _ code _ =>
    some (code.toInt32.toInt.natAbs)
  | .unexpectedEof | .userError _ => none

/-- A fault of the operating system. -/
def faultOf (error : IO.Error) : Fault :=
  match (codeOf error).bind SystemFault.ofCode? with
  | some cause => .system cause
  | none => .worded .other (toString error)

/-- What an action comes to. -/
def attempt {α : Type} (action : IO α) : IO (Except Fault α) := do
  match ← action.toBaseIO with
  | .ok value => return .ok value
  | .error error => return .error (faultOf error)

/-- The text of the one file that a program reads. -/
def readTextOf (path : Option String) : IO ReadText := do
  let some path := path | return fun _ => .error (.system .noSuchFile)
  let bytes ← attempt (IO.FS.readBinFile path)
  return ReadBytes.text fun _ => bytes.map (·.toList)

/-- The addresses of the host in a text. -/
def hostsFor (target : String) : IO (String → List Net.Address) := do
  let .ok named := Net.HostPort.parse target | return fun _ => []
  if (Net.Address.ofHost? named.host).isSome then return fun _ => []
  let found ← attempt (Std.Async.DNS.getAddrInfo named.host "").block
  let addresses := match found with
    | .ok found => found.toList.map addressOf
    | .error _ => []
  return fun host => if host = named.host then addresses else []

/-- The names of one address. -/
def namesFor (address : Net.Address) : IO Net.Names := do
  let found ← attempt (Std.Async.DNS.getNameInfo (socketAddress ⟨address, 0⟩)).block
  let name := match found with
    | .ok info => if info.host = address.text then none else some info.host
    | .error _ => none
  return fun other => if other = address then name else none

/-- Shows some log entries. -/
def showEntries (filter : Log.Filter) (entries : List Log.Entry) : IO Unit :=
  (entries.filter filter.shows).forM fun entry => IO.eprintln entry.line

/-- Shows the end of a program, of which some lines were shown already. -/
def finish (linesShown : Nat) (outcome : Program.Outcome) : IO UInt32 := do
  outcome.complaints.forM fun line => IO.eprintln line
  (outcome.console.drop linesShown).forM fun line => IO.println line
  outcome.logged.forM fun entry => IO.eprintln entry.line
  outcome.lastWords.forM fun line => IO.eprintln line
  return UInt32.ofNat (outcome.exitCode.getD Program.panicCode)

/-! ## The server -/

/-- A server at work. -/
structure Live where
  setup : Server.Setup
  server : Server
  filter : Log.Filter
  /-- The sockets of its connections, in order. -/
  sockets : Array Socket.Client := #[]
  /-- When it was last looked at, in milliseconds. -/
  seen : Nat

/-- Sends what is to be sent on a connection, and ends the stream. -/
def conclude (socket : Socket.Client) (bytes : Bytes) : Async Unit := do
  try
    if bytes ≠ [] then socket.send (ByteArray.mk bytes.toArray)
    socket.shutdown
  catch _ => pure ()

/-- Shows and does what a server wants shown and done since it was last looked at. -/
def express (live : Live) (before : Server) : IO Unit := do
  let after := live.server
  (after.printed.drop before.printed.length).forM fun (_, line) => IO.println line
  (← IO.getStdout).flush
  showEntries live.filter (after.logged.drop before.logged.length)
  let concluded := (List.range after.connections.length).filterMap fun index => do
    let connection ← after.connections[index]?
    let socket ← live.sockets[index]?
    let overBefore := before.connections[index]?.any (·.isOver)
    if connection.isOver && !overBefore then some (socket, connection.sent) else none
  concluded.forM fun (socket, bytes) => discard (conclude socket bytes).toIO

/-- Lets time pass up to now, and then something happen. -/
def happen (live : Std.Mutex Live) (change : Live → IO (Live × Option Server.Event)) : IO Unit :=
  live.atomically do
    let (state, event) ← change (← get)
    let now ← IO.monoMsNow
    let events := Server.Event.wait (now - state.seen) :: event.toList
    let server := events.foldl (Server.step state.setup) state.server
    let state := { state with server, seen := now }
    express state (← get).server
    set state

/-- Reads what a client sends, until it ends. -/
partial def hearClient (live : Std.Mutex Live) (socket : Socket.Client) (index : Nat) :
    Async Unit := do
  let told ← try
      pure (Except.ok (← socket.recv? 8192))
    catch error => pure (Except.error error)
  match told with
  | .ok (some bytes) =>
    happen live fun state => return (state, some (.send index bytes.toList))
    hearClient live socket index
  | .ok none => happen live fun state => return (state, some (.finish index))
  | .error _ => happen live fun state => return (state, some (.reset index))

/-- Takes in one client. -/
def welcome (live : Std.Mutex Live) (socket : Socket.Client) (peer : Net.Endpoint) : IO Unit := do
  let resolve ← live.atomically do return (← get).setup.resolveHostnames
  let found ← if resolve then namesFor peer.address else pure fun _ => none
  let index ← live.atomically do return (← get).sockets.size
  happen live fun state =>
    let names := fun address => (found address).or (state.setup.names address)
    return ({ state with
      setup := { state.setup with names }
      sockets := state.sockets.push socket }, some (.connect peer))
  discard (hearClient live socket index).toIO

/-- Waits until the server has seen every failure to accept, and tries again. -/
partial def untilAccepting (live : Std.Mutex Live) : Async Unit := do
  let server := (← live.atomically get).server
  if !server.refusals.isEmpty || server.phase.alarm?.isSome then
    Std.Async.sleep 5
    untilAccepting live

/-- Takes in clients as they come, when the server accepts them. -/
partial def acceptClients (live : Std.Mutex Live) (listener : Socket.Server) : Async Unit := do
  try
    let socket ← listener.accept
    welcome live socket (endpointOf (← socket.getPeerName))
  catch error =>
    happen live fun state => return (state, some (.refuse (faultOf error)))
    untilAccepting live
  acceptClients live listener

/-- Lets time pass until the server has ended. -/
partial def watch (live : Std.Mutex Live) : IO Unit := do
  IO.sleep 5
  happen live fun state => return (state, none)
  let ended ← live.atomically do return decide ((← get).server.phase = .ended)
  if ended then return
  watch live

/-- Tries to listen on some endpoints, up to the first that works. -/
def listenOnFirst (backlog : UInt32) :
    List Net.Endpoint → IO (List (Net.Endpoint × Except Fault Net.Endpoint) × Option Socket.Server)
  | [] => return ([], none)
  | endpoint :: rest => do
    let result ← attempt do
      let listener ← Std.Async.TCP.Socket.Server.mk
      listener.bind (socketAddress endpoint)
      listener.listen (Net.Network.queueLength backlog).toUInt32
      return (listener, endpointOf (← listener.getSockName))
    match result with
    | .ok (listener, bound) => return ([(endpoint, .ok bound)], some listener)
    | .error fault =>
      let (results, listener) ← listenOnFirst backlog rest
      return ((endpoint, .error fault) :: results, listener)

/-- A network on which nobody is reached and nobody has a name yet. -/
def networkOf (hosts : String → List Net.Address)
    (results : List (Net.Endpoint × Except Fault Net.Endpoint)) : Net.Network where
  hosts
  names := fun _ => none
  listenOn := fun endpoint =>
    (results.lookup endpoint).getD (.error (.system .addressNotAvailable))
  connect := fun _ => .never

/-- How long what was sent may take to go out at the end, in milliseconds. -/
def lastPause : UInt32 := 20

/-- Serves until interrupted. -/
def serve (filter : Log.Filter) (listening : Server.Listening) (listener : Socket.Server) :
    IO UInt32 := do
  Server.firstLines.lines.forM fun line => IO.println line
  let live ← Std.Mutex.new ({
    setup := listening.setup
    server := listening.server.settle listening.setup
    filter
    seen := ← IO.monoMsNow } : Live)
  discard (acceptClients live listener).toIO
  let interrupt ← Std.Async.Signal.Waiter.mk .sigint false
  discard <| IO.mapTask (t := ← interrupt.wait) fun _ =>
    happen live fun state =>
      return ({ state with server := state.server.log [Program.interruptEntry] }, some .stop)
  watch live
  IO.sleep lastPause
  return 0

/-- The server program with a configuration and a log filter. -/
def runConfigured (filter : Log.Filter) (complaints : List String) (config : ServerConfig) :
    IO UInt32 := do
  let hosts ← hostsFor config.listen
  let endpoints := ((networkOf hosts []).resolve config.listen).toOption.getD []
  let (results, listener) ← listenOnFirst config.backlog endpoints
  let network := networkOf hosts results
  match Server.start network config, listener with
  | .ok listening, some listener =>
    complaints.forM fun line => IO.eprintln line
    showEntries filter (Program.startingEntry config :: Server.startEntries network config)
    serve filter listening listener
  | _, _ => finish 0 (Program.serveFiltered filter complaints network config [])

/-- The server program. -/
def runServer (arguments : List String) : IO UInt32 := do
  let environment ← IO.getEnv Program.filterVariable
  let readText ← readTextOf ((Config.ServerOptions.parse arguments).toOption.bind (·.config))
  match ServerConfig.load readText arguments with
  | .error fault => finish 0 (Program.withoutConfig fault)
  | .ok config =>
    match Log.Filter.choose environment config.logLevel with
    | .error cause => finish 0 (Program.withoutFilter cause)
    | .ok (filter, complaints) => runConfigured filter complaints config

/-! ## The client -/

/-- What an action comes to within some milliseconds, if there is a limit. -/
def within {α : Type} (limit : Option Nat) (action : Async α) : Async (Option α) :=
  match limit with
  | none => some <$> action
  | some limit =>
    Async.race (some <$> action) (do Std.Async.sleep (.ofNat limit); return none)

/-- Connects to the first endpoint that can be reached. -/
def connectToFirst (fault : Fault) :
    List Net.Endpoint → IO (Except Fault (Socket.Client × Net.Endpoint))
  | [] => return .error fault
  | endpoint :: rest => do
    let result ← attempt do
      let socket ← Std.Async.TCP.Socket.Client.mk
      (socket.connect (socketAddress endpoint)).block
      return socket
    match result with
    | .ok socket => return .ok (socket, endpoint)
    | .error fault => connectToFirst fault rest

/-- Hears what the server says up to the end of a line, with the pauses in between. -/
partial def hearServer (socket : Socket.Client) (limit : Option Nat) (since : Nat) :
    IO Wire.Script := do
  let heard ← attempt (within limit (socket.recv? 8192)).block
  let now ← IO.monoMsNow
  let pause := Wire.ReadEvent.wait (now - since)
  match heard with
  | .error fault => return [pause, .fault fault]
  | .ok none => return [.silence]
  | .ok (some none) => return [pause]
  | .ok (some (some bytes)) =>
    let piece := [pause, .data bytes.toList]
    if bytes.toList.contains Wire.newline then return piece
    let left := limit.map (· - (now - since))
    return piece ++ (← hearServer socket left now)

/-- The client program with a configuration and a log filter. -/
def greetConfigured (filter : Log.Filter) (complaints : List String) (config : ClientConfig) :
    IO UInt32 := do
  let target := Client.target config
  let network := networkOf (← hostsFor target) []
  let connected ← match network.resolve target with
    | .error fault => pure (some (.error fault))
    | .ok endpoints =>
      let limit := config.connectTimeout.map Duration.millis
      (within limit (connectToFirst .unresolved endpoints)).block
  match connected with
  | none =>
    finish 0 (Program.greetFiltered filter complaints network.names config
      { connected := .never })
  | some (.error fault) =>
    finish 0 (Program.greetFiltered filter complaints network.names config
      { connected := .ready 0 (.error fault) })
  | some (.ok (socket, remote)) =>
    let names ← namesFor remote.address
    IO.println (Client.announcement names config remote.address)
    let sent ← attempt (socket.send (ByteArray.mk (Wire.encodeLine config.message).toArray)).block
    let writer : Wire.Writer := match sent with
      | .ok () => {}
      | .error fault => { barrier := some ⟨0, some fault⟩ }
    let limit := config.readTimeout.map Duration.millis
    let script ← hearServer socket limit (← IO.monoMsNow)
    finish 1 (Program.greetFiltered filter complaints names config
      { connected := .ready 0 (.ok remote), writer, script })

/-- The client program. -/
def runClient (arguments : List String) : IO UInt32 := do
  let environment ← IO.getEnv Program.filterVariable
  let readText ← readTextOf ((Config.ClientOptions.parse arguments).toOption.bind (·.config))
  match ClientConfig.load readText arguments with
  | .error fault => finish 0 (Program.withoutConfig fault)
  | .ok config =>
    match Log.Filter.choose environment config.logLevel with
    | .error cause => finish 0 (Program.withoutFilter cause)
    | .ok (filter, complaints) => greetConfigured filter complaints config

end LineGreeting.Main

/-- Runs the program that the first argument names. -/
def main (arguments : List String) : IO UInt32 := do
  match arguments with
  | "server" :: rest => LineGreeting.Main.runServer rest
  | "client" :: rest => LineGreeting.Main.runClient rest
  | _ =>
    IO.eprintln "usage: line-greeting (server | client) [OPTIONS]"
    return 2
