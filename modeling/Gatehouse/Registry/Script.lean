import Gatehouse.Control.Api
import Gatehouse.Net.Network

/-!
A registry run by a script: operations, changes in what the system refuses, and looks from outside. Every
step takes place a little later than the one before.
-/

namespace Gatehouse.Registry.Script

open Net

/-- What the system says to the calls of each kind while it refuses them. -/
structure Refusals where
  addAlias : Option Text
  removeAlias : Option Text
  point : Option Text

/-- The registry and what is around it: what the system refuses, on which addresses others listen, the
time, and the last known end of the lease of each host. -/
structure State where
  registry : Registry
  refusals : Refusals
  occupied : List Socket
  now : Time
  leases : List (Text × Time)

def State.start (registry : Registry) (now : Time) : State := ⟨registry, ⟨none, none, none⟩, [], now, []⟩

def pace : Int := 1000

def listening (r : Registry) : List Socket := r.list.map fun e => Socket.ofIpv4 e.ip e.port

def State.taken (s : State) : List Socket := s.occupied ++ listening s.registry

/-- What the system will say to the calls of the next operation. -/
def State.conditions (s : State) : Conditions where
  addAlias _ := s.refusals.addAlias
  removeAlias _ := s.refusals.removeAlias
  listen socket := listenFault? s.taken socket
  point _ := s.refusals.point

/-- One step of a script. -/
inductive Step where
  | create (host : Text) (port : Nat) (target : Text)
  | attach (host : Text) (port : Nat) (scheme target : Text)
  | delete (host : Text)
  | publish (host : Text)
  | closeAll
  /-- A sweep at a time after the last known end of the lease of a host, or after now. -/
  | expire (host : Text) (delay : Int)
  /-- Sweeps in intervals, until no endpoint is left or the time is over. -/
  | reap (interval limit : Int)
  | refuse (refusals : Refusals)
  | occupy (address : Socket)
  | vacate
  | connect (host : Text) (port : Nat)
  | lookup (host : Text)
  | isManaged (host : Text)
  | list
  | request (r : Http.Request)

/-- What a step shows, before what it left behind. -/
inductive Shown where
  | done
  | fault (f : Fault)
  | endpoint (e : Endpoint)
  | published (ip : Ipv4)
  | address (ip : Option Ipv4)
  | removed (hosts : List Text)
  | neverGranted
  | flag (b : Bool)
  | inUse (detail : Text)
  | unreachable (detail : Text)
  | response (r : Http.Response)

/-- The report of a step: what it shows, the endpoints after it, and the calls made. -/
structure Report where
  shown : Shown
  rows : List Endpoint
  calls : List Call

/-- The last known ends of leases, with those of the hosts that are there. -/
def remembered (leases : List (Text × Time)) (r : Registry) : List (Text × Time) :=
  (r.list.map fun e => (e.host, e.lease)) ++ leases

/-- Ends a step: the registry after it, what it shows, and the calls made. -/
def State.finish (s : State) (r : Registry) (shown : Shown) (calls : List Call) : State × Report :=
  ({ s with registry := r, now := s.now + pace, leases := remembered s.leases r },
   ⟨shown, r.list, calls⟩)

def State.operated {α : Type} (s : State) (o : Outcome α) (shown : α → Shown) : State × Report :=
  s.finish o.after (match o.result with
    | .ok a => shown a
    | .error f => .fault f) o.calls

def State.looked (s : State) (shown : Shown) : State × Report := s.finish s.registry shown []

def State.sweepTime? (s : State) (host : Text) (delay : Int) : Option Time :=
  if host = [] then some (s.now + delay) else (s.leases.lookup host).map (· + delay)

/-- The times of sweeps in intervals, up to a limit after now. -/
def sweepTimes (now : Time) (interval limit : Int) : List Time :=
  if interval ≤ 0 then [now + limit]
  else (List.range (limit / interval).toNat).map fun (n : Nat) => now + (n + 1 : Int) * interval

def step (network : Network) (s : State) : Step → State × Report
  | .create host port target =>
    s.operated (s.registry.create s.conditions s.now host port target) .endpoint
  | .attach host port scheme target =>
    s.operated (s.registry.attach s.conditions host port scheme target) .endpoint
  | .delete host => s.operated (s.registry.delete s.conditions host) fun _ => .done
  | .publish host => s.operated (s.registry.publish s.conditions host) .published
  | .closeAll =>
    let sweep := s.registry.closeAll s.conditions
    s.finish sweep.after .done sweep.calls
  | .expire host delay =>
    match s.sweepTime? host delay with
    | none => s.looked .neverGranted
    | some time =>
      let sweep := s.registry.expire s.conditions time
      s.finish sweep.after (.removed sweep.removed) sweep.calls
  | .reap interval limit =>
    let sweep := s.registry.reap s.conditions (sweepTimes s.now interval limit)
    s.finish sweep.after (.flag true) sweep.calls
  | .refuse refusals => { s with refusals := refusals }.looked .done
  | .occupy address =>
    match listenFault? s.taken address with
    | some detail => s.looked (.inUse detail)
    | none => { s with occupied := s.occupied ++ [address] }.looked .done
  | .vacate => { s with occupied := [] }.looked .done
  | .connect host port => s.looked (.flag (network host port == .established))
  | .lookup host => s.looked (.address (s.registry.zone.lookup host))
  | .isManaged host => s.looked (.flag (s.registry.zone.isManaged host))
  | .list => s.looked .done
  | .request r =>
    match network "127.0.0.1" Control.defaultPort with
    | .failed detail => s.looked (.unreachable detail)
    | _ =>
      let a := Control.handle s.registry s.conditions s.now r
      s.finish a.after (.response a.response) a.calls

/-- The reports of the steps of a script. -/
def run (network : Network) : State → List Step → List Report
  | _, [] => []
  | s, next :: rest =>
    let (s', report) := step network s next
    report :: run network s' rest

end Gatehouse.Registry.Script
