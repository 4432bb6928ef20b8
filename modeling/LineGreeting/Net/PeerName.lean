import LineGreeting.Net.Address

/-! # Names of peers

A peer is shown with its address and its name. Its address is its name too if
nobody asked for another one, or if it has none.
-/

namespace LineGreeting.Net

/-- The other end of a connection. -/
structure PeerName where
  address : Address
  host : String
deriving DecidableEq, Repr

/-- The names that addresses have. -/
abbrev Names := Address → Option String

namespace PeerName

/-- A peer that is named by its address. -/
def numeric (address : Address) : PeerName :=
  ⟨address, address.text⟩

/-- A peer with the name of its address, if names are asked for and it has one. -/
def lookup (names : Names) (resolve : Bool) (address : Address) : PeerName :=
  match if resolve then names address else none with
  | some host => ⟨address, host⟩
  | none => numeric address

/-- A peer as text. -/
def text (peer : PeerName) : String :=
  peer.address.text ++ "/" ++ peer.host

end PeerName

end LineGreeting.Net
