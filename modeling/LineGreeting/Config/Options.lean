import LineGreeting.CommandLine.Reading
import LineGreeting.Config.Basic

/-! # Options of the server and the client

Each option sets the field of its name and nothing else. A field that no option
sets is left to the configuration document.
-/

namespace LineGreeting.Config

open CommandLine (Effect Opt Program anyText numberUpTo oneOf someText word64)

/-- What the arguments of the server say. -/
structure ServerOptions where
  config : Option String := none
  listen : Option String := none
  backlog : Option UInt32 := none
  reply : Option String := none
  mode : Option ServerMode := none
  maxConnections : Option UInt64 := none
  replyDelayMs : Option UInt64 := none
  readTimeoutMs : Option UInt64 := none
  noResolve : Bool := false
  logLevel : Option String := none
deriving DecidableEq, Repr

/-- What the arguments of the client say. -/
structure ClientOptions where
  config : Option String := none
  host : Option String := none
  port : Option UInt16 := none
  message : Option String := none
  connectTimeoutMs : Option UInt64 := none
  readTimeoutMs : Option UInt64 := none
  logLevel : Option String := none
deriving DecidableEq, Repr

/-- An option that sets something to its value. -/
def sets {σ α : Type} (read : String → Except CommandLine.ValueFault α) (put : σ → α → σ) :
    Effect σ :=
  .value fun value settings => (read value).map (put settings)

/-- The options that every program has. -/
def commonOptions (σ : Type) : List (Opt σ) :=
  [{ long := "help", short := 'h', effect := .help, about := "Print help" },
    { long := "version", short := 'V', effect := .version, about := "Print version" }]

/-- What the log levels are. -/
def logLevelHelp : String := "Log level (trace, debug, info, warn, error)"

/-- What the document is. -/
def documentHelp : String := "Path to TOML configuration file"

/-- The server and its options. -/
def serverProgram : Program ServerOptions where
  name := "hallo-server"
  version := "0.1.0"
  about := "Line greeting TCP server"
  options := [
    { long := "config", short := 'c', about := documentHelp
      effect := sets someText fun options config => { options with config := some config } },
    { long := "listen", short := 'l', about := "Address to bind to (e.g., 127.0.0.1:10001)"
      effect := sets anyText fun options listen => { options with listen := some listen } },
    { long := "backlog", short := 'b', about := "Listen backlog"
      effect := sets (numberUpTo (UInt32.size - 1)) fun options backlog =>
        { options with backlog := some (UInt32.ofNat backlog) } },
    { long := "reply", short := 'r', about := "Reply line sent to every client"
      effect := sets anyText fun options reply => { options with reply := some reply } },
    { long := "mode", about := "Connection scheduling mode"
      effect := sets (oneOf ServerMode.variants) fun options mode =>
        { options with mode := some mode }
      choices := [
        ("sequential", "Serve one connection at a time, inline in the accept loop"),
        ("concurrent", "Serve each connection in its own task")] },
    { long := "max-connections"
      about := "Maximum number of connections served at once in concurrent mode"
      effect := sets word64 fun options maxConnections =>
        { options with maxConnections := some maxConnections } },
    { long := "reply-delay-ms", about := "Delay before sending the reply, in milliseconds"
      effect := sets word64 fun options replyDelayMs =>
        { options with replyDelayMs := some replyDelayMs } },
    { long := "read-timeout-ms"
      about := "Give up on a client that sends nothing for this long, in milliseconds"
      effect := sets word64 fun options readTimeoutMs =>
        { options with readTimeoutMs := some readTimeoutMs } },
    { long := "no-resolve", about := "Skip reverse DNS lookups of client addresses"
      effect := .flag fun options => { options with noResolve := true } },
    { long := "log-level", about := logLevelHelp
      effect := sets anyText fun options logLevel =>
        { options with logLevel := some logLevel } }] ++
    commonOptions ServerOptions

/-- The client and its options. -/
def clientProgram : Program ClientOptions where
  name := "hallo-client"
  version := "0.1.0"
  about := "Line greeting TCP client"
  options := [
    { long := "config", short := 'c', about := documentHelp
      effect := sets someText fun options config => { options with config := some config } },
    { long := "host", short := 'H', about := "Server host name or address"
      effect := sets anyText fun options host => { options with host := some host } },
    { long := "port", short := 'p', about := "Server port"
      effect := sets (numberUpTo (UInt16.size - 1)) fun options port =>
        { options with port := some (UInt16.ofNat port) } },
    { long := "message", short := 'm', about := "Line to send"
      effect := sets anyText fun options message => { options with message := some message } },
    { long := "connect-timeout-ms", about := "Connect timeout in milliseconds"
      effect := sets word64 fun options connectTimeoutMs =>
        { options with connectTimeoutMs := some connectTimeoutMs } },
    { long := "read-timeout-ms", about := "Reply timeout in milliseconds"
      effect := sets word64 fun options readTimeoutMs =>
        { options with readTimeoutMs := some readTimeoutMs } },
    { long := "log-level", about := logLevelHelp
      effect := sets anyText fun options logLevel =>
        { options with logLevel := some logLevel } }] ++
    commonOptions ClientOptions

namespace ServerOptions

/-- What the arguments of the server say. -/
def parse (arguments : List String) : Except CommandLine.ArgumentFault ServerOptions :=
  serverProgram.parse {} arguments

end ServerOptions

namespace ClientOptions

/-- What the arguments of the client say. -/
def parse (arguments : List String) : Except CommandLine.ArgumentFault ClientOptions :=
  clientProgram.parse {} arguments

end ClientOptions

end LineGreeting.Config
