import Gatehouse.Dns.Zone
import Gatehouse.HostName
import Gatehouse.Net.Subnet
import Gatehouse.Route.Basic
import Gatehouse.Table
import Gatehouse.Time

/-!
The registry of endpoints. A host holds one address and one lease, and every port that is open on its
address has a listener with a route. What an operation asks of the system, and whether that succeeds, is
kept in a list of calls beside the registry.

An operation that changes something has the registry for itself until it is done, so operations follow one another. What
the system says is given for each operation (`Conditions`). The connections of a listener are left out, and so is a
listener that outlasts its stop.
-/

namespace Gatehouse

open Net

namespace Registry

/-- What a host holds: its address, the end of its lease, and the route of each port. -/
structure Entry where
  ip : Ipv4
  lease : Time
  listeners : Table Nat Route

/-- One port of a host, as the registry reports it. -/
structure Endpoint where
  host : Text
  ip : Ipv4
  port : Nat
  route : Route
  lease : Time

def Entry.endpoint (e : Entry) (host : Text) (port : Nat) (route : Route) : Endpoint :=
  ⟨host, e.ip, port, route, e.lease⟩

/-- What the system is asked to do, and whether it did it. -/
inductive Call where
  /-- An address is bound to the interface. -/
  | addAlias (ip : Ipv4) (done : Bool)
  | removeAlias (ip : Ipv4) (done : Bool)
  /-- A listener starts at an address and a port. -/
  | listen (ip : Ipv4) (port : Nat) (done : Bool)
  /-- A listener stops, with all its connections. -/
  | stop (ip : Ipv4) (port : Nat)
  /-- The system's resolver is sent to the name server for a domain. -/
  | point (domain : Text) (done : Bool)
  deriving DecidableEq

/-- What the system will say to each call during one operation: nothing where it does what is asked. -/
structure Conditions where
  addAlias : Ipv4 → Option Text
  removeAlias : Ipv4 → Option Text
  listen : Socket → Option Text
  point : Text → Option Text

def Conditions.clear : Conditions where
  addAlias _ := none
  removeAlias _ := none
  listen _ := none
  point _ := none

end Registry

/-- The hosts in order, the host of the control interface, and the zone of the name server; with the subnet
that addresses come from and the length of a lease. -/
structure Registry where
  subnet : Subnet
  leaseLength : Duration
  hosts : Table Text Registry.Entry
  controlHost : Option Text
  zone : Dns.Zone

namespace Registry

def empty (subnet : Subnet) (leaseLength : Duration) : Registry := ⟨subnet, leaseLength, [], none, .empty⟩

def Entry.endpoints (e : Entry) (host : Text) : List Endpoint :=
  e.listeners.map fun listener => e.endpoint host listener.1 listener.2

def list (r : Registry) : List Endpoint := r.hosts.flatMap fun host => host.2.endpoints host.1

def inUse (r : Registry) : List Ipv4 := r.hosts.map fun host => host.2.ip

/-- What became of an operation: its result, the registry after it, and the calls made, in order. -/
structure Outcome (α : Type) where
  result : Except Fault α
  after : Registry
  calls : List Call

/-- The outcome of an operation that fails before it has done anything. -/
def Outcome.refuse {α : Type} (r : Registry) (f : Fault) : Outcome α := ⟨.error f, r, []⟩

end Registry
end Gatehouse
