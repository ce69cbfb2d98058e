import Gatehouse.Proofs.HostName
import Gatehouse.Proofs.Table
import Gatehouse.Registry.Operations

/-!
The elementary changes that operations of the registry are made of, each with the calls that go with it,
and chains of them. Main statement: what every elementary change keeps, a chain keeps (`Chain.preserves`).
-/

namespace Gatehouse.Registry

open Net

/-- The registry with the entry of a host set. -/
def put (r : Registry) (host : Text) (entry : Entry) : Registry :=
  { r with hosts := r.hosts.insert host entry }

theorem get?_put (r : Registry) (host host' : Text) (entry : Entry) :
    (r.put host entry).hosts.get? host' = if host' = host then some entry else r.hosts.get? host' :=
  Table.get?_insert host' host entry r.hosts

theorem get?_put_self (r : Registry) (host : Text) (entry : Entry) :
    (r.put host entry).hosts.get? host = some entry :=
  Table.get?_insert_self host entry r.hosts

/-- The calls that stop all listeners of a host. -/
def Entry.stops (e : Entry) : List Call := e.listeners.map fun listener => .stop e.ip listener.1

/-- The domain of a host is registered: it was before, or it is now and the system's resolver is told. -/
inductive Registers (domains : List Text) (host : Text) : List Text → List Call → Prop where
  | known {domain : Text} (last : HostName.domain? host = some domain) (there : domain ∈ domains) :
      Registers domains host domains []
  | new {domain : Text} (done : Bool) (last : HostName.domain? host = some domain)
      (unknown : domain ∉ domains) : Registers domains host (domains ++ [domain]) [.point domain done]

/-- The changes of creating, renewing and attaching. -/
inductive Opening : Registry → List Call → Registry → Prop where
  /-- A port that is open gets another route. -/
  | retarget {r : Registry} {host : Text} {entry : Entry} {port : Nat} (route : Route)
      (here : r.hosts.get? host = some entry) (runs : (entry.listeners.get? port).isSome) :
      Opening r [] (r.put host { entry with listeners := entry.listeners.insert port route })
  /-- A host gets another lease. -/
  | renew {r : Registry} {host : Text} {entry : Entry} (lease : Time)
      (here : r.hosts.get? host = some entry) : Opening r [] (r.put host { entry with lease := lease })
  /-- A further port of a host is opened. -/
  | openPort {r : Registry} {host : Text} {entry : Entry} {port : Nat} (route : Route)
      (here : r.hosts.get? host = some entry) (idle : entry.listeners.get? port = none) :
      Opening r [.listen entry.ip port true]
        (r.put host { entry with listeners := entry.listeners.insert port route })
  /-- The name of a host is published once more. -/
  | republish {r : Registry} {host : Text} {entry : Entry} (here : r.hosts.get? host = some entry) :
      Opening r [] { r with zone := r.zone.set host entry.ip }
  /-- A host is opened with its first port. -/
  | openHost {r : Registry} {host : Text} {ip : Ipv4} {domains : List Text} {told : List Call}
      (now : Time) (port : Nat) (route : Route) (name : HostName.IsCanonical host)
      (free : r.controlHost ≠ some host) (absent : r.hosts.get? host = none)
      (found : r.subnet.allocate r.inUse = some ip) (registers : Registers r.zone.domains host domains told) :
      Opening r (.addAlias ip true :: told ++ [.listen ip port true])
        { r with
          zone := Dns.Zone.set { r.zone with domains } host ip
          hosts := r.hosts.insert host ⟨ip, now, Table.insert port route []⟩ }
  /-- The first listener of a new host does not start, and the address of the host is given back. -/
  | rollBack {r : Registry} {host : Text} {ip : Ipv4} {domains : List Text} {told : List Call} (port : Nat)
      (done : Bool) (name : HostName.IsCanonical host) (found : r.subnet.allocate r.inUse = some ip)
      (registers : Registers r.zone.domains host domains told) :
      Opening r (.addAlias ip true :: told ++ [.listen ip port false, .removeAlias ip done])
        { r with zone := { r.zone with domains } }
  /-- The address of a new host is refused. -/
  | aliasRefused {r : Registry} {ip : Ipv4} (found : r.subnet.allocate r.inUse = some ip) :
      Opening r [.addAlias ip false] r
  /-- A further listener of a host does not start. -/
  | listenRefused {r : Registry} (ip : Ipv4) (port : Nat) : Opening r [.listen ip port false] r

/-- The changes of tearing down. -/
inductive Closing : Registry → List Call → Registry → Prop where
  /-- A host goes, with its address and its name. -/
  | close {r : Registry} {host : Text} {entry : Entry} (here : r.hosts.get? host = some entry) :
      Closing r (entry.stops ++ [.removeAlias entry.ip true])
        { r with hosts := r.hosts.erase host, zone := r.zone.remove host }
  /-- A host stays without listeners, since its address cannot be given back. -/
  | keep {r : Registry} {host : Text} {entry : Entry} (here : r.hosts.get? host = some entry) :
      Closing r (entry.stops ++ [.removeAlias entry.ip false]) (r.put host { entry with listeners := [] })

/-! ## Chains -/

/-- Changes one after the other, with all their calls. -/
inductive Chain (R : Registry → List Call → Registry → Prop) : Registry → List Call → Registry → Prop where
  | nil (r : Registry) : Chain R r [] r
  | cons {r r' r'' : Registry} {calls later : List Call} (first : R r calls r')
      (rest : Chain R r' later r'') : Chain R r (calls ++ later) r''

section Chains

variable {R : Registry → List Call → Registry → Prop} {r r' r'' : Registry} {calls later : List Call}

theorem Chain.single (h : R r calls r') : Chain R r calls r' := by
  have := Chain.cons h (.nil r')
  rwa [List.append_nil] at this

theorem Chain.append (h : Chain R r calls r') (h' : Chain R r' later r'') :
    Chain R r (calls ++ later) r'' := by
  induction h with
  | nil r => exact h'
  | cons first rest ih =>
    rw [List.append_assoc]
    exact .cons first (ih h')

/-- What each change keeps of a registry and the calls so far, a chain of changes keeps. -/
theorem Chain.preserves {I : Registry → List Call → Prop}
    (step : ∀ r before calls r', I r before → R r calls r' → I r' (before ++ calls))
    (h : Chain R r calls r') (before : List Call) (hi : I r before) : I r' (before ++ calls) := by
  induction h generalizing before with
  | nil r => rwa [List.append_nil]
  | cons first rest ih =>
    rw [← List.append_assoc]
    exact ih _ (step _ _ _ _ hi first)

/-- What each change keeps of a registry, whatever the calls, a chain of changes keeps. -/
theorem Chain.keeps {I : Registry → Prop} (step : ∀ r calls r', I r → R r calls r' → I r')
    (h : Chain R r calls r') (hi : I r) : I r' := by
  induction h with
  | nil r => exact hi
  | cons first rest ih => exact ih (step _ _ _ hi first)

end Chains

end Gatehouse.Registry
