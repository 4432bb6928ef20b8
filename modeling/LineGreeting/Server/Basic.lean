import LineGreeting.Config.Basic
import LineGreeting.Log.Entry
import LineGreeting.Net.Endpoint
import LineGreeting.Net.PeerName
import LineGreeting.Responder

/-! # What a server works with

A server is set up from its configuration. It counts connections, and shows
whether it waits for a client or is busy with one.
-/

namespace LineGreeting.Server

/-- What a server prints before it begins to listen. -/
def banner : String := "Server TCP"

/-- How long the server waits after it could not accept a client, in milliseconds. -/
def backoff : Nat := 100

/-- The most slots that a server can keep account of. -/
def maxSlots : Nat := UInt64.size / 8 - 1

/-- The topic of what the server logs. -/
def topic : String := Log.sharedTopic "server"

/-- What the accept loop does, as far as it shows. -/
inductive Activity where
  /-- It waits for the next client. -/
  | listening
  /-- It is busy with the exchange of one client. -/
  | serving
deriving DecidableEq, Repr

/-- The name of an activity. -/
def Activity.name : Activity → String
  | listening => "Listening"
  | serving => "Serving"

/-- How many connections there were. -/
structure Stats where
  accepted : Nat := 0
  completed : Nat := 0
  failed : Nat := 0
deriving DecidableEq, Repr

/-- Counts an exchange that is over. -/
def Stats.count {α : Type} (stats : Stats) : Except Fault α → Stats
  | .ok _ => { stats with completed := stats.completed + 1 }
  | .error _ => { stats with failed := stats.failed + 1 }

/-- How a server works. -/
structure Setup where
  mode : ServerMode
  responder : Responder
  /-- Whether clients are shown with their names. -/
  resolveHostnames : Bool
  /-- The names of addresses. -/
  names : Net.Names
  /-- Which of the two wins when both a client and the end of the server are
  due: the end unless this says that the client does. Such races are counted
  from zero. -/
  clientWins : Nat → Bool := fun _ => false

/-- How a server with some configuration works. -/
def Setup.ofConfig (names : Net.Names) (config : ServerConfig) : Setup where
  mode := config.mode
  responder := {
    reply := config.reply
    replyDelay := config.replyDelay.millis
    readTimeout := config.readTimeout.map Duration.millis }
  resolveHostnames := config.resolveHostnames
  names

/-- The line that announces a client. -/
def Setup.announcement (setup : Setup) (peer : Net.Endpoint) : String :=
  "Pripojil se klient z: " ++
    (Net.PeerName.lookup setup.names setup.resolveHostnames peer.address).text

end LineGreeting.Server
