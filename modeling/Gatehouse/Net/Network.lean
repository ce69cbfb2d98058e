import Gatehouse.Net.Socket

/-!
The network as it shows itself to a program: which addresses can be listened on, and what comes of an
attempt to connect.
-/

namespace Gatehouse.Net

/-! ## Listening -/

/-- What the system says of an address on which someone listens already. -/
def addressInUseText : Text := "Address already in use (os error 98)"

/-- What the system says of a port that is kept for the system. -/
def permissionText : Text := "Permission denied (os error 13)"

def firstFreePort : Nat := 1024

/-- The address that stands for all addresses of the host. -/
def anyIpv4 : Ip := .v4 (.ofNat 0)

/-- Whether two listeners would take the same connections. -/
def Socket.clashes (a b : Socket) : Bool :=
  a.port == b.port && (a.ip == b.ip || a.ip == anyIpv4 || b.ip == anyIpv4)

/-- What the system says when a program wants to listen on an address while others listen on `taken`;
nothing if it may. Port zero stands for any free port. -/
def listenFault? (taken : List Socket) (address : Socket) : Option Text :=
  if address.port = 0 then none
  else if address.port < firstFreePort then some permissionText
  else if taken.any address.clashes then some addressInUseText
  else none

/-! ## Connecting -/

/-- What comes of an attempt to connect. -/
inductive Attempt where
  | established
  /-- It fails, and the system says this. -/
  | failed (detail : Text)
  /-- Nothing comes of it before the time limit is over. -/
  | pending
  deriving DecidableEq

/-- What comes of attempts to connect to a host, by its name or address, and a port. -/
abbrev Network := Text → Nat → Attempt

/-- What the system says when a connection has no way to go. -/
def unreachableText : Text := "Network is unreachable (os error 101)"

/-- A host without a network, where no connection comes about. -/
def noNetwork : Network := fun _ _ => .failed unreachableText

end Gatehouse.Net
