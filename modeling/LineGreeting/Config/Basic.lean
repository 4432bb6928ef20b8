import LineGreeting.Duration

/-! # Configurations

What the server and the client need to know. The numbers have the widths that
the options and the document allow.
-/

namespace LineGreeting

/-- How the server schedules the connections it accepts. -/
inductive ServerMode where
  /-- One connection at a time. -/
  | sequential
  /-- Each connection on its own. -/
  | concurrent
deriving DecidableEq, Repr

namespace ServerMode

/-- The modes and their names. -/
def variants : List (String × ServerMode) :=
  [("sequential", sequential), ("concurrent", concurrent)]

/-- The name of a mode. -/
def name : ServerMode → String
  | sequential => "sequential"
  | concurrent => "concurrent"

/-- The name of a mode in the log. -/
def label : ServerMode → String
  | sequential => "Sequential"
  | concurrent => "Concurrent"

/-- The mode if nobody chooses one. -/
def default : ServerMode := sequential

theorem lookup_name (mode : ServerMode) : variants.lookup mode.name = some mode := by
  cases mode <;> decide

end ServerMode

/-- What the server needs to know. -/
structure ServerConfig where
  /-- The address to listen on. -/
  listen : String
  /-- How many clients may wait to be accepted. -/
  backlog : UInt32
  /-- The line sent to every client. -/
  reply : String
  mode : ServerMode
  /-- How many connections are served at once in concurrent mode. -/
  maxConnections : UInt64
  /-- How long the reply is held back. -/
  replyDelay : Duration
  /-- How long a request may take. -/
  readTimeout : Option Duration
  /-- Whether clients are shown with their names. -/
  resolveHostnames : Bool
  logLevel : String
deriving DecidableEq, Repr

/-- What the client needs to know. -/
structure ClientConfig where
  /-- The name or address of the server. -/
  host : String
  port : UInt16
  /-- The line to send. -/
  message : String
  /-- How long connecting may take. -/
  connectTimeout : Option Duration
  /-- How long the reply may take. -/
  readTimeout : Option Duration
  logLevel : String
deriving DecidableEq, Repr

end LineGreeting
