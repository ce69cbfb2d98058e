import Gatehouse.Dns.Server
import Gatehouse.Net.Network

/-!
A name server run by a script: domains and hosts come and go, and queries arrive one after the other. The
system's own resolver is told of every new domain, and may refuse.
-/

namespace Gatehouse.Dns.Script

open Net

/-- The zone, and what the system's resolver says to a new domain if it refuses. -/
structure State where
  zone : Zone
  refusal : Option Text

/-- One step of a script. -/
inductive Step where
  | refuse (refusal : Option Text)
  | register (domain : Text)
  | isRegistered (domain : Text)
  | isManaged (name : Text)
  | set (host : Text) (ip : Ipv4)
  | remove (host : Text)
  | lookup (name : Text)
  | query (datagram : Bytes) (forwarder : Server.Forwarder)

/-- What a step shows. -/
inductive Shown where
  | done
  | flag (b : Bool)
  | address (ip : Option Ipv4)
  /-- Whether the domain is new, or the refusal; and the domains that the system's resolver was told. -/
  | registered (isNew : Except Text Bool) (told : List Text)
  | handled (h : Server.Handling)

/-- The other name server as it appears when an attempt to connect to it ends like this. -/
def seen (attempt : Attempt) (forwarder : Server.Forwarder) : Server.Forwarder :=
  match attempt with
  | .established => forwarder
  | .failed _ => .unreachable
  | .pending => .unreachable

/-- What became of a query as it is seen from outside: the other name server reads a message from the stream. -/
def observed (h : Server.Handling) : Server.Handling := { h with forwarded := h.stream?.bind Server.unframed? }

/-- Registers a domain. The domain stays registered even if the system's resolver refuses. -/
def register (s : State) (domain : Text) : State × Shown :=
  let (isNew, zone) := s.zone.register domain
  let s' : State := { s with zone := zone }
  if isNew then
    let told := [HostName.zoneKey domain]
    match s.refusal with
    | some refusal => (s', .registered (.error refusal) told)
    | none => (s', .registered (.ok true) told)
  else (s', .registered (.ok false) [])

def step (attempt : Attempt) (ttl : Nat) (s : State) : Step → State × Shown
  | .refuse refusal => ({ s with refusal := refusal }, .done)
  | .register domain => register s domain
  | .isRegistered domain => (s, .flag (s.zone.isRegistered domain))
  | .isManaged name => (s, .flag (s.zone.isManaged name))
  | .set host ip => ({ s with zone := s.zone.set host ip }, .done)
  | .remove host => ({ s with zone := s.zone.remove host }, .done)
  | .lookup name => (s, .address (s.zone.lookup name))
  | .query datagram forwarder =>
    (s, .handled (observed (Server.handle s.zone ttl (seen attempt forwarder) datagram)))

/-- What the steps of a script show. -/
def run (attempt : Attempt) (ttl : Nat) : State → List Step → List Shown
  | _, [] => []
  | s, next :: rest =>
    let (s', shown) := step attempt ttl s next
    shown :: run attempt ttl s' rest

end Gatehouse.Dns.Script
