import LineGreeting.Fault
import LineGreeting.Net.Address

/-! # Endpoints and the texts that name them

An endpoint is an address with a port. A text names endpoints by a host and a
port with a colon between them; a host is a name or an address. Hosts may be
numbers in the old forms too: up to four parts, in base ten, eight or sixteen,
of which the last stands for all octets that are left.
-/

namespace LineGreeting.Net

/-- An address with a port. -/
structure Endpoint where
  address : Address
  port : UInt16
deriving DecidableEq, Repr

/-- An endpoint as text. -/
def Endpoint.text (endpoint : Endpoint) : String :=
  match endpoint.address with
  | .v4 octets => octets.text ++ ":" ++ toString endpoint.port.toNat
  | .v6 groups => "[" ++ v6Text groups ++ "]:" ++ toString endpoint.port.toNat

/-- A host and a port, as they are named. -/
structure HostPort where
  host : String
  port : UInt16
deriving DecidableEq, Repr

/-- Splits a text at its last colon. -/
def splitAtLastColon (text : List Char) : Option (List Char × List Char) :=
  let behind := (text.reverse.takeWhile (· ≠ ':')).reverse
  match text.reverse.dropWhile (· ≠ ':') with
  | [] => none
  | _ :: front => some (front.reverse, behind)

/-- Reads a host and a port. -/
def HostPort.parse (text : String) : Except Fault HostPort :=
  match splitAtLastColon text.toList with
  | none => .error (.fixed .invalidInput "invalid socket address")
  | some (host, port) =>
    match Text.readNat 65535 port with
    | .error _ => .error (.fixed .invalidInput "invalid port value")
    | .ok port =>
      if host.contains '\x00' then .error .zeroInName
      else .ok ⟨String.ofList host, UInt16.ofNat port⟩

/-! ## Hosts that are numbers -/

/-- The value of one part of a host in the old form: in base sixteen behind
`0x`, in base eight behind `0`, else in base ten. -/
def partValue? (part : List Char) : Option Nat :=
  let value (base : Nat) (digits : List Char) : Option Nat :=
    if digits ≠ [] ∧ digits.all (Text.isDigit base) then some (Text.ofDigits base digits)
    else none
  match part with
  | '0' :: 'x' :: digits => value 16 digits
  | '0' :: 'X' :: digits => value 16 digits
  | '0' :: digits => if digits = [] then some 0 else value 8 digits
  | digits => value 10 digits

/-- The number that the parts of a host stand for: each part but the last is one
octet, and the last is the `rest` octets that are left. -/
def hostValue? (rest : Nat) : List Nat → Option Nat
  | [] => none
  | [last] => if last < Nat.pow 256 rest then some last else none
  | part :: parts =>
    match rest with
    | 0 => none
    | rest + 1 =>
      if part < 256 then (hostValue? rest parts).map (part * Nat.pow 256 rest + ·) else none

/-- The octets of a number. -/
def Octets.ofNat (number : Nat) : Octets :=
  ⟨UInt8.ofNat (number >>> 24), UInt8.ofNat (number >>> 16), UInt8.ofNat (number >>> 8),
    UInt8.ofNat number⟩

/-- The address of a host that is a number in one of the old forms. -/
def Octets.ofHost? (host : String) : Option Octets := do
  let parts := host.splitOn "."
  if 4 < parts.length then none
  else
    let values ← parts.mapM fun part => partValue? part.toList
    let value ← hostValue? 4 values
    return .ofNat value

/-- The address of a host that is no name. -/
def Address.ofHost? (host : String) : Option Address :=
  match Octets.ofHost? host with
  | some octets => some (.v4 octets)
  | none => Address.parse? host

/-! ## Endpoints -/

/-- Reads the port of an endpoint: digits and nothing else. -/
def readPort (text : List Char) : Option UInt16 :=
  match text, Text.readDigits 65535 .tooLarge 0 text with
  | _ :: _, .ok port => some (UInt16.ofNat port)
  | _, _ => none

/-- The endpoint that a text stands for as a whole: four octets, or groups between
brackets, with a port behind a colon. -/
def Endpoint.parse? (text : String) : Option Endpoint :=
  match text.toList with
  | '[' :: rest => do
    let (groups, rest) ← readV6 rest
    let port ← readPort (← readChar ':' (← readChar ']' rest))
    return ⟨.v6 groups, port⟩
  | text => do
    let (octets, rest) ← readOctets text
    let port ← readPort (← readChar ':' rest)
    return ⟨.v4 octets, port⟩

end LineGreeting.Net
