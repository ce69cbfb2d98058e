import Gatehouse.HostName
import Gatehouse.Net.Ipv4

/-!
The zone: the domains that the name server answers for, and the addresses of the hosts in them.
-/

namespace Gatehouse.Dns

open Net

/-- The registered domains, in the order of their registration, and the hosts with their addresses. -/
structure Zone where
  domains : List Text
  hosts : List (Text × Ipv4)

namespace Zone

def empty : Zone := ⟨[], []⟩

/-- The zone with a domain registered, and whether the domain is new. -/
def register (z : Zone) (domain : Text) : Bool × Zone :=
  let key := HostName.zoneKey domain
  if key ∈ z.domains then (false, z) else (true, { z with domains := z.domains ++ [key] })

def isRegistered (z : Zone) (domain : Text) : Bool := z.domains.contains (HostName.zoneKey domain)

def isManaged (z : Zone) (name : Text) : Bool := (HostName.domain? name).any z.domains.contains

/-- The zone with the address of a host set. -/
def set (z : Zone) (host : Text) (ip : Ipv4) : Zone :=
  let key := HostName.zoneKey host
  { z with hosts := z.hosts.filter (·.1 ≠ key) ++ [(key, ip)] }

def remove (z : Zone) (host : Text) : Zone :=
  { z with hosts := z.hosts.filter (·.1 ≠ HostName.zoneKey host) }

def lookup (z : Zone) (name : Text) : Option Ipv4 := z.hosts.lookup (HostName.zoneKey name)

end Zone
end Gatehouse.Dns
