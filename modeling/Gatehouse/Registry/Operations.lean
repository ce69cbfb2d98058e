import Gatehouse.Registry.Basic

/-!
The operations of the registry: creating and renewing endpoints, attaching further ports, tearing hosts
down, and publishing the name of the control interface. The time is an argument of the operations that read the clock.
-/

namespace Gatehouse.Registry

open Net

/-! ## Parts of operations -/

/-- When a lease that is granted now ends; it must end at a time that has a date. -/
def leaseEnd (now : Time) (length : Duration) : Except Fault Time :=
  let stop := now + length
  if stop ≤ Time.last then .ok stop
  else .error (.internal ("lease of " ++ length.render ++ " is out of range"))

/-- The registry with the route of a port set, if the host is there. -/
def setRoute (r : Registry) (host : Text) (port : Nat) (route : Route) : Registry :=
  match r.hosts.get? host with
  | none => r
  | some entry =>
    { r with hosts := r.hosts.insert host { entry with listeners := entry.listeners.insert port route } }

/-- The registry with the lease of a host set, if the host is there. -/
def setLease (r : Registry) (host : Text) (lease : Time) : Registry :=
  match r.hosts.get? host with
  | none => r
  | some entry => { r with hosts := r.hosts.insert host { entry with lease := lease } }

/-- Registers the domain of a host. The system's resolver is told of a domain when it is new, and the
domain stays registered even if the resolver refuses. -/
def registerDomain (r : Registry) (w : Conditions) (host : Text) : Except Fault (Registry × List Call) :=
  match HostName.domain? host with
  | none => .error (.invalidHost host)
  | some domain =>
    let (isNew, zone) := r.zone.register domain
    if isNew then .ok ({ r with zone := zone }, [.point domain (w.point domain).isNone])
    else .ok (r, [])

/-- What starting a listener comes to: its fault, if the system refuses, and the call. -/
def startListener (w : Conditions) (ip : Ipv4) (port : Nat) : Except Fault Unit × Call :=
  let socket := Socket.ofIpv4 ip port
  match w.listen socket with
  | some cause => (.error (.bind socket cause), .listen ip port false)
  | none => (.ok (), .listen ip port true)

def releaseAlias (w : Conditions) (ip : Ipv4) : Call := .removeAlias ip (w.removeAlias ip).isNone

def reported (r : Registry) (host : Text) (port : Nat) : Except Fault Endpoint :=
  match r.hosts.get? host with
  | none => .error (.internal (host ++ " vanished during update"))
  | some entry =>
    match entry.listeners.get? port with
    | none => .error (.internal ("no listener on port " ++ Text.ofNat port))
    | some route => .ok (entry.endpoint host port route)

def route? (r : Registry) (host : Text) (port : Nat) : Option Route :=
  (r.hosts.get? host).bind fun entry => entry.listeners.get? port

def republish (r : Registry) (host : Text) (ip : Ipv4) : Registry :=
  { r with zone := r.zone.set host ip }

/-- What an operation that succeeded leaves behind, changed. -/
def Outcome.andThen (o : Outcome Unit) (change : Registry → Registry) : Outcome Unit :=
  match o.result with
  | .error _ => o
  | .ok () => { o with after := change o.after }

/-- The outcome with the report of a port, where it succeeded. -/
def Outcome.reporting (o : Outcome Unit) (host : Text) (port : Nat) : Outcome Endpoint :=
  match o.result with
  | .error e => ⟨.error e, o.after, o.calls⟩
  | .ok () => ⟨o.after.reported host port, o.after, o.calls⟩

/-! ## Creating and renewing -/

/-- Opens a host that is not there yet: finds it an address, binds the address to the interface, registers
its domain and starts its first listener. If that fails the address is given back. -/
def openHost (r : Registry) (w : Conditions) (now : Time) (host : Text) (port : Nat) (route : Route) :
    Outcome Unit :=
  match r.subnet.allocate r.inUse with
  | none => .refuse r (.poolExhausted r.subnet.render)
  | some ip =>
    match w.addAlias ip with
    | some detail => ⟨.error (.interface detail), r, [.addAlias ip false]⟩
    | none =>
      match r.registerDomain w host with
      | .error e => ⟨.error e, r, [.addAlias ip true, releaseAlias w ip]⟩
      | .ok (r, told) =>
        match startListener w ip port with
        | (.error e, call) => ⟨.error e, r, .addAlias ip true :: told ++ [call, releaseAlias w ip]⟩
        | (.ok (), call) =>
          ⟨.ok (),
           { r with
             zone := r.zone.set host ip
             hosts := r.hosts.insert host ⟨ip, now, Table.insert port route []⟩ },
           .addAlias ip true :: told ++ [call]⟩

def openPort (r : Registry) (w : Conditions) (host : Text) (ip : Ipv4) (port : Nat) (route : Route) :
    Outcome Unit :=
  match startListener w ip port with
  | (.error e, call) => ⟨.error e, r, [call]⟩
  | (.ok (), call) => ⟨.ok (), r.setRoute host port route, [call]⟩

/-- Opens a port, and its host, if they are not there. A port that is there is left alone. -/
def openMissing (r : Registry) (w : Conditions) (now : Time) (host : Text) (port : Nat) (route : Route) :
    Outcome Unit :=
  match r.hosts.get? host with
  | none => r.openHost w now host port route
  | some entry =>
    match entry.listeners.get? port with
    | some _ => ⟨.ok (), r, []⟩
    | none => (r.openPort w host entry.ip port route).andThen (·.republish host entry.ip)

/-- The registry with the route of a port set, if the port is open. -/
def retarget (r : Registry) (host : Text) (port : Nat) (route : Route) : Registry :=
  if (r.route? host port).isSome then r.setRoute host port route else r

/-- Grants a host a lease from now on, and opens what is missing of it. -/
def grant (r : Registry) (w : Conditions) (now : Time) (host : Text) (port : Nat) (route : Route) :
    Outcome Endpoint :=
  match leaseEnd now r.leaseLength with
  | .error e => .refuse r e
  | .ok lease =>
    ((r.openMissing w now host port route).andThen (·.setLease host lease)).reporting host port

/-- Creates an endpoint, or renews the lease of its host and sends its port to another target. A target
without a scheme keeps that of the listener on the port. A port that is open gets its route even if the
lease is refused. -/
def create (r : Registry) (w : Conditions) (now : Time) (host : Text) (port : Nat) (target : Text) :
    Outcome Endpoint :=
  match HostName.normalize host with
  | .error e => .refuse r e
  | .ok host =>
    if port = 0 then .refuse r (.invalidPort (Text.ofNat port))
    else if r.controlHost = some host then .refuse r (.invalidHost (host ++ " is reserved"))
    else
      match Route.parseWithDefault target (((r.route? host port).map (·.scheme)).getD .tcp) with
      | .error e => .refuse r e
      | .ok route => (r.retarget host port route).grant w now host port route

/-! ## Attaching -/

def parseAttachment (host : Text) (port : Nat) (scheme target : Text) : Except Fault (Text × Route) := do
  let host ← HostName.normalize host
  if port = 0 then .error (.invalidPort (Text.ofNat port))
  else if Text.trim scheme = [] then .error (.missingParameter "scheme")
  else do
    let scheme ← Scheme.parse (Text.trim scheme)
    let route ← Route.parse target (some scheme)
    pure (host, route)

/-- Starts a listener on a port of a host that is there, or sends the port to another target. The lease
stays as it is. -/
def attach (r : Registry) (w : Conditions) (host : Text) (port : Nat) (scheme target : Text) :
    Outcome Endpoint :=
  match parseAttachment host port scheme target with
  | .error e => .refuse r e
  | .ok (host, route) =>
    match r.hosts.get? host with
    | none => .refuse r (.unknownEndpoint host)
    | some entry =>
      let opened : Outcome Unit :=
        match entry.listeners.get? port with
        | some _ => ⟨.ok (), r.setRoute host port route, []⟩
        | none => r.openPort w host entry.ip port route
      opened.reporting host port

/-! ## Tearing down -/

/-- Tears a host down: stops its listeners, gives its address back and withdraws its name. If the address
cannot be given back the host stays, without listeners and with its name published. -/
def teardown (r : Registry) (w : Conditions) (host : Text) (entry : Entry) : Outcome Unit :=
  let stops := entry.listeners.map fun listener => Call.stop entry.ip listener.1
  match w.removeAlias entry.ip with
  | none =>
    ⟨.ok (), { r with hosts := r.hosts.erase host, zone := r.zone.remove host },
     stops ++ [.removeAlias entry.ip true]⟩
  | some detail =>
    ⟨.error (.interface detail),
     { r with hosts := r.hosts.insert host { entry with listeners := [] } },
     stops ++ [.removeAlias entry.ip false]⟩

def delete (r : Registry) (w : Conditions) (host : Text) : Outcome Unit :=
  match HostName.normalize host with
  | .error e => .refuse r e
  | .ok host =>
    match r.hosts.get? host with
    | none => .refuse r (.unknownEndpoint host)
    | some entry => r.teardown w host entry

/-- The hosts removed by a sweep, the registry after it, and the calls made. -/
structure Sweep where
  removed : List Text
  after : Registry
  calls : List Call

def teardownAll (r : Registry) (w : Conditions) : Table Text Entry → Sweep
  | [] => ⟨[], r, []⟩
  | (host, entry) :: rest =>
    let o := r.teardown w host entry
    let later := o.after.teardownAll w rest
    match o.result with
    | .ok () => ⟨host :: later.removed, later.after, o.calls ++ later.calls⟩
    | .error _ => ⟨later.removed, later.after, o.calls ++ later.calls⟩

/-- Tears down every host whose lease ended before `now`. -/
def expire (r : Registry) (w : Conditions) (now : Time) : Sweep :=
  r.teardownAll w (r.hosts.filter fun host => decide (host.2.lease < now))

/-- Tears all hosts down and forgets them, those that fail included. -/
def closeAll (r : Registry) (w : Conditions) : Sweep :=
  let sweep := r.teardownAll w r.hosts
  { sweep with after := { sweep.after with hosts := [] } }

/-- Sweeps at each of these times, until no endpoint is left. -/
def reap (r : Registry) (w : Conditions) : List Time → Sweep
  | [] => ⟨[], r, []⟩
  | now :: later =>
    if r.list.isEmpty then ⟨[], r, []⟩
    else
      let first := r.expire w now
      let rest := first.after.reap w later
      ⟨first.removed ++ rest.removed, rest.after, first.calls ++ rest.calls⟩

/-! ## The control interface -/

/-- Publishes the name of the control interface at the reserved address. -/
def publish (r : Registry) (w : Conditions) (host : Text) : Outcome Ipv4 :=
  match HostName.normalize host with
  | .error e => .refuse r e
  | .ok host =>
    match r.registerDomain w host with
    | .error e => .refuse r e
    | .ok (r, told) =>
      let ip := r.subnet.reserved
      ⟨.ok ip, { r with zone := r.zone.set host ip, controlHost := some host }, told⟩

end Gatehouse.Registry
