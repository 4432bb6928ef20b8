import LineGreeting.Client
import LineGreeting.Config.Load
import LineGreeting.Log.Filter
import LineGreeting.Server.Run
import LineGreeting.Server.Start

/-! # The two programs

Each program loads its configuration, sets up its log and then does its work. A
fault ends it with its last words. The console carries the lines of the exchange,
and nothing else is said there.
-/

namespace LineGreeting.Program

/-- The environment variable that sets which log entries are shown. -/
def filterVariable : String := "RUST_LOG"

/-- What is seen of a program that ran. -/
structure Outcome where
  /-- The exit code, unless the program is still running. -/
  exitCode : Option Nat
  /-- The lines of the console. -/
  console : List String := []
  /-- The complaints about the log filter. -/
  complaints : List String := []
  /-- The log entries that are shown. -/
  logged : List Log.Entry := []
  /-- What the program says when it ends badly. -/
  lastWords : Option String := none

/-- The exit code after a fault. -/
def faultCode : Nat := 1

/-- The exit code of a program that gives up in the middle. -/
def panicCode : Nat := 101

/-- What is left to say of a fault when it ends a program. -/
def farewell (report : String) : String :=
  "Error: " ++ report

/-- A program that gets no configuration. What arguments can ask for is answered on
the console; all else ends it badly. -/
def withoutConfig : LoadFault → Outcome
  | .arguments cause =>
    if cause.isAnswer then
      { exitCode := some cause.exitCode, console := Text.lines cause.message }
    else { exitCode := some cause.exitCode, lastWords := some cause.message }
  | .config cause => { exitCode := some faultCode, lastWords := some (farewell cause.report) }

/-- A program that gives up over its log filter. -/
def withoutFilter (cause : Text.Misplaced) : Outcome where
  exitCode := some panicCode
  lastWords := some cause.message

/-! ## The server -/

/-- The topic of what the server program logs by itself. -/
def serverTopic : String := "hallo_server"

/-- What the server program logs before anything else. -/
def startingEntry (config : ServerConfig) : Log.Entry where
  level := .info
  topic := serverTopic
  text := "Starting hallo server"
  values := [("listen", config.listen), ("backlog", toString config.backlog.toNat),
    ("mode", config.mode.label), ("reply_delay_ms", toString config.replyDelayMs.toNat)]

/-- What the server program logs when it is interrupted. -/
def interruptEntry : Log.Entry where
  level := .info
  topic := serverTopic
  text := "Interrupt received"

/-- A server that runs through some events and is then interrupted. -/
def interrupted (listening : Server.Listening) (events : List Server.Event) : Server :=
  ((listening.server.run listening.setup events).log [interruptEntry]).step listening.setup .stop

/-- The server program with a configuration and a log filter, of which there may
have been complaints. -/
def serveFiltered (filter : Log.Filter) (complaints : List String) (network : Net.Network)
    (config : ServerConfig) (events : List Server.Event) : Outcome :=
  let entries := startingEntry config :: Server.startEntries network config
  match Server.start network config with
  | .error (.cannotListen fault) => {
      exitCode := some faultCode
      console := Server.firstLines.lines
      complaints
      logged := entries.filter filter.shows
      lastWords := some (farewell fault.report) }
  | .error .tooManySlots => {
      exitCode := some panicCode
      console := Server.firstLines.lines
      complaints
      logged := entries.filter filter.shows
      lastWords := some Server.tooManySlotsText }
  | .ok listening =>
    let server := interrupted listening events
    { exitCode := if server.phase = .ended then some 0 else none
      console := server.transcript.lines
      complaints
      logged := (entries ++ server.logged).filter filter.shows }

/-- The server program with a configuration. -/
def serve (network : Net.Network) (environment : Option String) (config : ServerConfig)
    (events : List Server.Event) : Outcome :=
  match Log.Filter.choose environment config.logLevel with
  | .error cause => withoutFilter cause
  | .ok (filter, complaints) => serveFiltered filter complaints network config events

/-- The server program: with arguments, files and the filter that the environment
sets, through some events up to an interrupt. -/
def runServer (network : Net.Network) (environment : Option String) (readText : ReadText)
    (arguments : List String) (events : List Server.Event) : Outcome :=
  match ServerConfig.load readText arguments with
  | .error fault => withoutConfig fault
  | .ok config => serve network environment config events

/-! ## The client -/

/-- The client program with a configuration and a log filter, of which there may
have been complaints. -/
def greetFiltered (filter : Log.Filter) (complaints : List String) (names : Net.Names)
    (config : ClientConfig) (encounter : Client.Encounter) : Outcome :=
  let exchange := Client.exchange names config encounter {}
  let shown : Outcome := {
    exitCode := none
    console := exchange.transcript.lines
    complaints
    logged := exchange.logged.filter filter.shows }
  match exchange.outcome with
  | .never => shown
  | .ready _ (.ok _) => { shown with exitCode := some 0 }
  | .ready _ (.error fault) =>
    { shown with exitCode := some faultCode, lastWords := some (farewell fault.report) }

/-- The client program with a configuration. -/
def greet (names : Net.Names) (environment : Option String) (config : ClientConfig)
    (encounter : Client.Encounter) : Outcome :=
  match Log.Filter.choose environment config.logLevel with
  | .error cause => withoutFilter cause
  | .ok (filter, complaints) => greetFiltered filter complaints names config encounter

/-- The client program: with arguments, files and the filter that the environment
sets, meeting what it meets where its configuration leads it. -/
def runClient (names : Net.Names) (environment : Option String) (readText : ReadText)
    (arguments : List String) (encounter : ClientConfig → Client.Encounter) : Outcome :=
  match ClientConfig.load readText arguments with
  | .error fault => withoutConfig fault
  | .ok config => greet names environment config (encounter config)

end LineGreeting.Program
