import LineGreeting.Delayed
import LineGreeting.Log.Entry
import LineGreeting.Net.Endpoint
import LineGreeting.Net.PeerName

/-! # The network around a program

What a program sees of the network: which hosts have addresses, which addresses
have names, and what becomes of an attempt to listen or to connect.
-/

namespace LineGreeting.Net

/-- A network, as seen from one host. -/
structure Network where
  /-- The addresses of a name. -/
  hosts : String → List Address
  /-- The names of addresses. -/
  names : Names
  /-- What becomes of listening on an endpoint: where one listens then, or why it
  fails. -/
  listenOn : Endpoint → Except Fault Endpoint
  /-- What becomes of connecting to an endpoint: how long it takes, and why it
  fails. -/
  connect : Endpoint → Delayed (Except Fault Unit)

namespace Network

/-- How long it takes at least to look up a host, in milliseconds. -/
def lookupTime : Nat := 1

/-- The longest queue of clients that the system can be asked for. -/
def maxQueue : UInt32 := 0x7FFFFFFF

/-- The queue of clients that the system is asked for: the longest one where a longer one is
wished for. -/
def queueLength (backlog : UInt32) : Int32 :=
  if backlog ≤ maxQueue then backlog.toInt32 else .maxValue

/-- The endpoints that a text names. -/
def resolve (network : Network) (text : String) : Except Fault (List Endpoint) :=
  match Endpoint.parse? text with
  | some endpoint => .ok [endpoint]
  | none => do
    let target ← HostPort.parse text
    let addresses := match Address.ofHost? target.host with
      | some address => [address]
      | none => network.hosts target.host
    match addresses with
    | [] => .error .unresolved
    | addresses => return addresses.map fun address => ⟨address, target.port⟩

/-- The attempts to listen on some endpoints, one after the other, up to the first
that works. -/
def attempts (network : Network) : List Endpoint → List (Endpoint × Except Fault Endpoint)
  | [] => []
  | endpoint :: rest =>
    match network.listenOn endpoint with
    | .ok bound => [(endpoint, .ok bound)]
    | .error fault => (endpoint, .error fault) :: network.attempts rest

/-- Begins to listen where a text says: what the last attempt came to. -/
def bind (network : Network) (listen : String) : Except Fault Endpoint := do
  match (network.attempts (← network.resolve listen)).getLast? with
  | some (_, result) => result
  | none => .error (.worded .addrNotAvailable
      ("'" ++ listen ++ "' did not resolve to any address"))

/-- What the log says about listening where a text says: each attempt that failed. -/
def bindEntries (network : Network) (listen : String) : List Log.Entry :=
  match network.resolve listen with
  | .error _ => []
  | .ok endpoints => (network.attempts endpoints).filterMap fun (endpoint, result) =>
    match result with
    | .ok _ => none
    | .error fault => some {
        level := .debug, topic := Log.sharedTopic "net", text := "Bind attempt failed"
        values := [("addr", endpoint.text), ("error", fault.message)] }

/-- Connects to the first endpoint where that works. If it works on none, the
last fault counts. -/
def connectToFirst (network : Network) (fault : Fault) :
    List Endpoint → Delayed (Except Fault Endpoint)
  | [] => .ready 0 (.error fault)
  | endpoint :: rest =>
    match network.connect endpoint with
    | .never => .never
    | .ready after (.ok ()) => .ready after (.ok endpoint)
    | .ready after (.error fault) => (network.connectToFirst fault rest).postpone after

/-- Connects where a text says. Only an endpoint needs no time to be looked up. -/
def connectTo (network : Network) (target : String) : Delayed (Except Fault Endpoint) :=
  let connected := match network.resolve target with
    | .error fault => .ready 0 (.error fault)
    | .ok endpoints =>
      network.connectToFirst
        (.fixed .invalidInput "could not resolve to any addresses") endpoints
  if (Endpoint.parse? target).isSome then connected else connected.postpone lookupTime

/-! ## A host by itself -/

/-- The names of the host itself, in any case of letters. -/
def ownHosts (host : String) : List Address :=
  if host.toLower = "localhost" then [.v4 .loopback] else []

/-- Ports below this one are reserved. -/
def firstOpenPort : UInt16 := 1024

/-- Whether two endpoints of one port are in each other's way: they have the same
address, or one has the address that stands for all. -/
def collides (first second : Endpoint) : Bool :=
  let all : Address := .v4 .unspecified
  first.port = second.port &&
    (first.address = second.address || first.address = all || second.address = all)

/-- What becomes of listening where others listen already and a free port is given
to who asks for any. -/
def listenBeside (taken : List Endpoint) (freePort : UInt16) (endpoint : Endpoint) :
    Except Fault Endpoint :=
  if endpoint.port = 0 then .ok { endpoint with port := freePort }
  else if endpoint.port < firstOpenPort then .error (.system .notPermitted)
  else if taken.any (collides endpoint) then .error (.system .addressInUse)
  else .ok endpoint

/-- A host without any network, not even to itself. It may listen on every
address, for it knows of none that is not its own; and nobody can be reached. -/
def isolated (names : Names) (taken : List Endpoint) (freePort : UInt16) : Network where
  hosts := ownHosts
  names
  listenOn := listenBeside taken freePort
  connect := fun _ => .ready 0 (.error (.system .networkUnreachable))

/-- A host whose process may open nothing more: no file with names, and no
connection. -/
def exhausted (network : Network) : Network :=
  { network with
    hosts := fun _ => []
    connect := fun _ => .ready 0 (.error (.system .noDescriptorLeft)) }

/-- No wish for a long queue becomes a negative number. -/
theorem toInt_queueLength (backlog : UInt32) :
    (queueLength backlog).toInt = min backlog.toNat maxQueue.toNat := by
  have hmax : maxQueue.toNat = 2 ^ 31 - 1 := rfl
  rw [queueLength, hmax]
  split
  next hle =>
    rw [UInt32.le_iff_toNat_le, hmax] at hle
    rw [Nat.min_eq_left hle]
    apply BitVec.toInt_eq_toNat_of_lt
    change 2 * backlog.toNat < 2 ^ 32
    omega
  next hgt =>
    rw [UInt32.le_iff_toNat_le, hmax] at hgt
    rw [Nat.min_eq_right (by omega)]
    rfl

end Network

end LineGreeting.Net
