import LineGreeting.Net.Network
import LineGreeting.Server.AcceptLoop

/-! # Starting a server

A server prints its banner, begins to listen and lays out its slots, in this order.
Where the account of the slots is too small for them, the server gives up although
it listens already.
-/

namespace LineGreeting.Server

/-- Why a server does not start. -/
inductive StartFault where
  /-- It cannot listen. -/
  | cannotListen (cause : Fault)
  /-- It has more slots than it can keep account of. -/
  | tooManySlots
deriving DecidableEq, Repr

/-- A server that listens. -/
structure Listening where
  /-- Where it listens. -/
  endpoint : Net.Endpoint
  /-- How many clients the system is asked to let wait. -/
  queue : Int32
  setup : Setup
  server : Server

/-- The last words of a server with too many slots. -/
def tooManySlotsText : String :=
  "a semaphore may not have more than MAX_PERMITS permits (" ++ toString maxSlots ++ ")"

/-- Starts a server. -/
def start (network : Net.Network) (config : ServerConfig) : Except StartFault Listening := do
  let endpoint ← (network.bind config.listen).mapError .cannotListen
  let slots := config.maxConnections.toNat
  if maxSlots < slots then .error .tooManySlots
  else return {
    endpoint
    queue := Net.Network.queueLength config.backlog
    setup := .ofConfig network.names config
    server := initial config.mode slots }

/-- What the log says when a server starts. -/
def startEntries (network : Net.Network) (config : ServerConfig) : List Log.Entry :=
  network.bindEntries config.listen ++
    match network.bind config.listen with
    | .error _ => []
    | .ok endpoint => [{
        level := .info, topic, text := "Server listening"
        values := [("address", endpoint.text), ("backlog", toString config.backlog.toNat),
          ("mode", config.mode.label)] }]

/-- A server whose address can be had starts exactly if its slots can be counted. -/
theorem start_of_bind {network : Net.Network} {config : ServerConfig} {endpoint : Net.Endpoint}
    (hbind : network.bind config.listen = .ok endpoint)
    (hslots : config.maxConnections.toNat ≤ maxSlots) :
    start network config =
      .ok ⟨endpoint, Net.Network.queueLength config.backlog, .ofConfig network.names config,
        initial config.mode config.maxConnections.toNat⟩ := by
  have hnot : ¬ maxSlots < config.maxConnections.toNat := Nat.not_lt.2 hslots
  simp only [start, hbind, hnot, ↓reduceIte]
  rfl

end LineGreeting.Server
