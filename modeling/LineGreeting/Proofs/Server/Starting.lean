import LineGreeting.Program
import Mathlib.Control.Monad.Basic

/-! # Configurations that start a server

A configuration that has been merged holds no value that is refused. What a server makes of
its numbers on the way is faithful: milliseconds come through as they are, and only a queue
longer than any system keeps is cut. The number of slots goes unchecked to an account that
cannot hold all numbers of 64 bits, so for the largest ones the server gives up, after it
has begun to listen.
-/

namespace LineGreeting

open Config (ServerOptions Document)

variable {options : ServerOptions} {document : Document} {config : ServerConfig}
variable {network : Net.Network} {endpoint : Net.Endpoint}

namespace ServerConfig

theorem pos_of_merge (hmerge : merge options document = .ok config) :
    0 < config.backlog.toNat ∧ 0 < config.maxConnections.toNat := by
  have hvalid := (merge_eq_ok_iff.mp hmerge).2
  rw [invalid?] at hvalid
  split at hvalid
  · cases hvalid
  next hbacklog =>
    split at hvalid
    · cases hvalid
    next hslots =>
      refine ⟨Nat.pos_of_ne_zero fun hzero => hbacklog ?_, Nat.pos_of_ne_zero fun hzero =>
        hslots ?_⟩
      · exact UInt32.toNat_inj.mp hzero
      · exact UInt64.toNat_inj.mp hzero

end ServerConfig

namespace Server

/-- A server that has started as its options and its document ask for, with nothing done
yet. -/
structure Listening.Fresh (listening : Listening) (endpoint : Net.Endpoint)
    (options : ServerOptions) (document : Document) : Prop where
  endpoint_eq : listening.endpoint = endpoint
  activity_eq : listening.server.activity = .listening
  stats_eq : listening.server.stats = {}
  connections_eq : listening.server.connections = []
  mode_eq : listening.setup.mode = options.mode.getD document.server.mode
  slots_eq : listening.server.slots =
    (options.maxConnections.getD document.server.maxConnections).toNat
  slots_pos : 0 < listening.server.slots
  queue_eq : listening.queue.toInt =
    min (options.backlog.getD document.server.backlog).toNat 2147483647
  queue_pos : 0 < listening.queue.toInt
  replyDelay_eq : listening.setup.responder.replyDelay =
    (options.replyDelayMs.getD document.server.replyDelayMs).toNat
  readTimeout_eq : listening.setup.responder.readTimeout =
    (options.readTimeoutMs.or document.server.readTimeoutMs).map UInt64.toNat

theorem fresh_of_merge (hmerge : ServerConfig.merge options document = .ok config) :
    Listening.Fresh ⟨endpoint, Net.Network.queueLength config.backlog,
      .ofConfig network.names config, initial config.mode config.maxConnections.toNat⟩
      endpoint options document := by
  obtain ⟨hbacklog, hslots⟩ := ServerConfig.pos_of_merge hmerge
  have hqueue := Net.Network.toInt_queueLength config.backlog
  have hmax : Net.Network.maxQueue.toNat = 2147483647 := rfl
  obtain ⟨rfl, -⟩ := ServerConfig.merge_eq_ok_iff.mp hmerge
  constructor
  case endpoint_eq => rfl
  case activity_eq => rfl
  case stats_eq => rfl
  case connections_eq => rfl
  case mode_eq => rfl
  case slots_eq => rfl
  case slots_pos => exact hslots
  case queue_eq => exact hqueue
  case queue_pos =>
    rw [hqueue, hmax]
    omega
  case replyDelay_eq => exact Duration.millis_ofMillis _
  case readTimeout_eq =>
    have hmillis : Duration.millis ∘ Duration.ofMillis = UInt64.toNat := by
      funext millis
      rw [Function.comp_apply, Duration.millis_ofMillis]
    change Option.map Duration.millis (Option.map Duration.ofMillis _) = _
    rw [Option.map_map, hmillis]

theorem start_of_lt (hbind : network.bind config.listen = .ok endpoint)
    (hslots : maxSlots < config.maxConnections.toNat) :
    start network config = .error .tooManySlots := by
  simp only [start, hbind, hslots, ↓reduceIte]
  rfl

/-- A merged configuration whose address can be had starts a server that listens and has
done nothing yet, unless it asks for more slots than can be kept account of. Then the server
gives up, and with it the program. -/
theorem start_of_merge (network : Net.Network) (options : ServerOptions) (document : Document)
    (config : ServerConfig) (endpoint : Net.Endpoint)
    (hmerge : ServerConfig.merge options document = .ok config)
    (hbind : network.bind config.listen = .ok endpoint) :
    (config.maxConnections.toNat ≤ 2305843009213693951 →
      ∃ listening, start network config = .ok listening ∧
        listening.Fresh endpoint options document) ∧
    (2305843009213693951 < config.maxConnections.toNat →
      start network config = .error .tooManySlots) ∧
    ∀ filter complaints events,
      (Program.serveFiltered filter complaints network config events).exitCode =
          some Program.panicCode ↔
        2305843009213693951 < config.maxConnections.toNat := by
  have hmax : maxSlots = 2305843009213693951 := rfl
  rw [← hmax]
  refine ⟨fun hslots => ?_, start_of_lt hbind, fun filter complaints events => ?_⟩
  · exact ⟨_, start_of_bind hbind hslots, fresh_of_merge hmerge⟩
  · by_cases hslots : maxSlots < config.maxConnections.toNat
    · refine iff_of_true ?_ hslots
      rw [Program.serveFiltered, start_of_lt hbind hslots]
    · refine iff_of_false ?_ hslots
      rw [Program.serveFiltered, start_of_bind hbind (Nat.not_lt.mp hslots)]
      dsimp only
      split <;> decide

/-- The network of a host on which nobody listens yet. -/
def quietNetwork : Net.Network := .isolated (fun _ => none) [] 40000

/-- The options of a server with as many slots as can be kept account of, and the longest
queue of all. -/
def fullOptions : ServerOptions where
  backlog := some 4294967295
  mode := some .concurrent
  maxConnections := some 2305843009213693951

theorem start_of_merge_full :
    ServerConfig.merge fullOptions .default = .ok (ServerConfig.build fullOptions .default) ∧
    quietNetwork.bind "127.0.0.1:10001" = .ok ⟨.v4 .loopback, 10001⟩ ∧
    ∃ listening, start quietNetwork (ServerConfig.build fullOptions .default) = .ok listening ∧
      listening.Fresh ⟨.v4 .loopback, 10001⟩ fullOptions .default := by
  have hmerge : ServerConfig.merge fullOptions .default =
      .ok (ServerConfig.build fullOptions .default) := by decide +kernel
  have hbind : quietNetwork.bind "127.0.0.1:10001" = .ok ⟨.v4 .loopback, 10001⟩ := by
    decide +kernel
  obtain ⟨hstarts, -⟩ := start_of_merge quietNetwork fullOptions .default _ _ hmerge hbind
  exact ⟨hmerge, hbind, hstarts (by decide +kernel)⟩

/-- The options of a server with one slot more. -/
def crowdedOptions : ServerOptions := { maxConnections := some 2305843009213693952 }

theorem not_forall_merged_start :
    ServerOptions.parse ["--max-connections", "2305843009213693952"] = .ok crowdedOptions ∧
    ¬ ∀ (network : Net.Network) (options : ServerOptions) (document : Document)
      (config : ServerConfig) (endpoint : Net.Endpoint),
      ServerConfig.merge options document = .ok config →
      network.bind config.listen = .ok endpoint →
      ∃ listening, start network config = .ok listening ∧
        listening.server.activity = .listening ∧ listening.server.stats = {} := by
  refine ⟨by decide +kernel, fun hstarts => ?_⟩
  have hmerge : ServerConfig.merge crowdedOptions .default =
      .ok (ServerConfig.build crowdedOptions .default) := by decide +kernel
  have hbind : quietNetwork.bind "127.0.0.1:10001" = .ok ⟨.v4 .loopback, 10001⟩ := by
    decide +kernel
  obtain ⟨listening, hstart, -⟩ := hstarts quietNetwork crowdedOptions .default _ _ hmerge hbind
  rw [start_of_lt hbind (by decide +kernel)] at hstart
  cases hstart

end Server

end LineGreeting
