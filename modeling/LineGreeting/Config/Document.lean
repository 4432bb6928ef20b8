import LineGreeting.Config.Basic
import LineGreeting.Toml.Decode
import LineGreeting.Toml.Document

/-! # The configuration document

A document has a section for the server, one for the client and one for the
log, and both programs may share it. A section may be missing, and so may each of
its keys: there is a default for every key of a section that is there, and one
for every section as a whole. What a document says of unknown things is left
alone. Both programs read all of it, so a wrong value in the section of the other
one is wrong too.
-/

namespace LineGreeting.Config

/-! ## Defaults of keys -/

def defaultPort : UInt16 := 10001

def defaultListen : String :=
  "127.0.0.1:" ++ toString defaultPort.toNat

def defaultBacklog : UInt32 := 10

def defaultReply : String := "Hallo"

def defaultMaxConnections : UInt64 := 1024

def defaultResolveHostnames : Bool := true

def defaultHost : String := "127.0.0.1"

def defaultMessage : String := "HalloXXXX"

def defaultLogLevel : String := "info"

/-! ## Sections -/

/-- What a document says about the server. -/
structure ServerSection where
  listen : String
  backlog : UInt32
  reply : String
  mode : ServerMode
  maxConnections : UInt64
  replyDelayMs : UInt64
  readTimeoutMs : Option UInt64
  resolveHostnames : Bool
deriving DecidableEq, Repr

/-- The section if a document has none. -/
def ServerSection.default : ServerSection where
  listen := defaultListen
  backlog := defaultBacklog
  reply := defaultReply
  mode := .default
  maxConnections := defaultMaxConnections
  replyDelayMs := 0
  readTimeoutMs := none
  resolveHostnames := defaultResolveHostnames

/-- What a document says about the client. -/
structure ClientSection where
  host : String
  port : UInt16
  message : String
  connectTimeoutMs : Option UInt64
  readTimeoutMs : Option UInt64
deriving DecidableEq, Repr

/-- The section if a document has none. -/
def ClientSection.default : ClientSection where
  host := defaultHost
  port := defaultPort
  message := defaultMessage
  connectTimeoutMs := none
  readTimeoutMs := none

/-- What a document says about the log. -/
structure LoggingSection where
  level : String
deriving DecidableEq, Repr

/-- The section if a document has none. -/
def LoggingSection.default : LoggingSection where
  level := defaultLogLevel

/-- What a document says. -/
structure Document where
  server : ServerSection
  client : ClientSection
  logging : LoggingSection
deriving DecidableEq, Repr

/-- What is said if there is no document. -/
def Document.default : Document where
  server := .default
  client := .default
  logging := .default

/-- Why a document is refused. -/
inductive DocumentFault where
  /-- It breaks the rules of the format. -/
  | malformed
  /-- It has a value of the wrong kind. -/
  | mismatch (mismatch : Toml.Mismatch)

open Toml (Layout Mismatch Value)

variable {σ : Type}

/-- A field with a text. -/
def stringField (name : String) (put : σ → String → σ) : Toml.Field σ :=
  { name, set := fun value sect => (Toml.expectString value).map (put sect) }

/-- A field with a number of 64 bits. -/
def wordField (name kind : String) (put : σ → UInt64 → σ) (omissible : Bool) : Toml.Field σ :=
  { name, omissible
    set := fun value sect =>
      (Toml.expectNat UInt64.size kind value).map fun number => put sect (UInt64.ofNat number) }

/-! ## Reading a section -/

/-- The keys that have been read of a section about the server. -/
structure ServerSection.Entries where
  listen : Option String := none
  backlog : Option UInt32 := none
  reply : Option String := none
  mode : Option ServerMode := none
  maxConnections : Option UInt64 := none
  replyDelayMs : Option UInt64 := none
  readTimeoutMs : Option UInt64 := none
  resolveHostnames : Option Bool := none

namespace ServerSection

/-- The section, with a default for each key that is missing. -/
def Entries.complete (entries : Entries) : ServerSection where
  listen := entries.listen.getD defaultListen
  backlog := entries.backlog.getD defaultBacklog
  reply := entries.reply.getD defaultReply
  mode := entries.mode.getD .default
  maxConnections := entries.maxConnections.getD defaultMaxConnections
  replyDelayMs := entries.replyDelayMs.getD 0
  readTimeoutMs := entries.readTimeoutMs
  resolveHostnames := entries.resolveHostnames.getD defaultResolveHostnames

/-- The keys of the section. -/
def layout : Layout Entries where
  name := "ServerSection"
  fields := [
    stringField "listen" fun entries listen => { entries with listen := some listen },
    { name := "backlog"
      set := fun value entries => (Toml.expectNat UInt32.size "u32" value).map fun number =>
        { entries with backlog := some (UInt32.ofNat number) } },
    stringField "reply" fun entries reply => { entries with reply := some reply },
    { name := "mode"
      set := fun value entries => (Toml.expectChoice ServerMode.variants value).map fun mode =>
        { entries with mode := some mode } },
    wordField "max_connections" "usize"
      (fun entries number => { entries with maxConnections := some number }) true,
    wordField "reply_delay_ms" "u64"
      (fun entries delay => { entries with replyDelayMs := some delay }) true,
    wordField "read_timeout_ms" "u64"
      (fun entries limit => { entries with readTimeoutMs := some limit }) false,
    { name := "resolve_hostnames"
      set := fun value entries => (Toml.expectBool value).map fun resolve =>
        { entries with resolveHostnames := some resolve } }]

/-- Reads the section. -/
def read (value : Value) : Except Mismatch ServerSection :=
  (layout.read {} value).map Entries.complete

end ServerSection

/-- The keys that have been read of a section about the client. -/
structure ClientSection.Entries where
  host : Option String := none
  port : Option UInt16 := none
  message : Option String := none
  connectTimeoutMs : Option UInt64 := none
  readTimeoutMs : Option UInt64 := none

namespace ClientSection

/-- The section, with a default for each key that is missing. -/
def Entries.complete (entries : Entries) : ClientSection where
  host := entries.host.getD defaultHost
  port := entries.port.getD defaultPort
  message := entries.message.getD defaultMessage
  connectTimeoutMs := entries.connectTimeoutMs
  readTimeoutMs := entries.readTimeoutMs

/-- The keys of the section. -/
def layout : Layout Entries where
  name := "ClientSection"
  fields := [
    stringField "host" fun entries host => { entries with host := some host },
    { name := "port"
      set := fun value entries => (Toml.expectNat UInt16.size "u16" value).map fun number =>
        { entries with port := some (UInt16.ofNat number) } },
    stringField "message" fun entries message => { entries with message := some message },
    wordField "connect_timeout_ms" "u64"
      (fun entries limit => { entries with connectTimeoutMs := some limit }) false,
    wordField "read_timeout_ms" "u64"
      (fun entries limit => { entries with readTimeoutMs := some limit }) false]

/-- Reads the section. -/
def read (value : Value) : Except Mismatch ClientSection :=
  (layout.read {} value).map Entries.complete

end ClientSection

/-- The keys that have been read of a section about the log. -/
structure LoggingSection.Entries where
  level : Option String := none

namespace LoggingSection

/-- The section, with a default for its key if that is missing. -/
def Entries.complete (entries : Entries) : LoggingSection where
  level := entries.level.getD defaultLogLevel

/-- The keys of the section. -/
def layout : Layout Entries where
  name := "LoggingSection"
  fields := [stringField "level" fun entries level => { entries with level := some level }]

/-- Reads the section. -/
def read (value : Value) : Except Mismatch LoggingSection :=
  (layout.read {} value).map Entries.complete

end LoggingSection

/-! ## Reading a document -/

/-- The sections that have been read of a document. -/
structure Document.Entries where
  server : Option ServerSection := none
  client : Option ClientSection := none
  logging : Option LoggingSection := none

namespace Document

/-- The document, with a default for each section that is missing. -/
def Entries.complete (entries : Entries) : Document where
  server := entries.server.getD .default
  client := entries.client.getD .default
  logging := entries.logging.getD .default

/-- The sections of the document. -/
def layout : Layout Entries where
  name := "Document"
  fields := [
    { name := "server"
      set := fun value entries => (ServerSection.read value).map fun server =>
        { entries with server := some server } },
    { name := "client"
      set := fun value entries => (ClientSection.read value).map fun client =>
        { entries with client := some client } },
    { name := "logging"
      set := fun value entries => (LoggingSection.read value).map fun logging =>
        { entries with logging := some logging } }]

/-- Reads the values of a document. -/
def ofTable (table : Toml.Table) : Except Mismatch Document :=
  (layout.read {} (.table table)).map Entries.complete

/-- Reads a document. -/
def parse (text : String) : Except DocumentFault Document :=
  match Toml.parse? text with
  | none => .error .malformed
  | some table => (ofTable table).mapError .mismatch

end Document

end LineGreeting.Config
