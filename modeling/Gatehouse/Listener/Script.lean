import Gatehouse.Listener.Basic

/-!
A listener run by a script: its route changes, clients try to connect, and at some point it stops.
-/

namespace Gatehouse.Listener.Script

open Net

/-- The listener, unless it has stopped, its address, and the connections that clients keep open. -/
structure State where
  listener : Option Listener
  address : Socket
  connections : List Text

/-- One step of a script. -/
inductive Step where
  /-- A client connects for one request or one exchange of bytes. -/
  | visit
  /-- A client connects and keeps the connection. -/
  | keep (id : Text)
  /-- A client uses a connection that it has kept. -/
  | use (id : Text)
  | route
  | address
  | setRoute (t : Text)
  | stop

/-- What a step shows. -/
inductive Shown where
  | done
  | attempt (a : Attempt)
  | noConnection
  | connection
  | text (t : Option Text)
  | fault (f : Fault)
  | stopped

def redirect (s : State) (t : Text) : State × Shown :=
  match Route.parse t none with
  | .error f => (s, .fault f)
  | .ok route =>
    match s.listener with
    | none => (s, .stopped)
    | some l => ({ s with listener := some (l.setRoute route) }, .done)

def step (network : Network) (s : State) : Step → State × Shown
  | .visit => (s, .attempt (network s.address.ip.render s.address.port))
  | .keep id =>
    match network s.address.ip.render s.address.port with
    | .established => ({ s with connections := id :: s.connections }, .attempt .established)
    | a => (s, .attempt a)
  | .use id => (s, if s.connections.contains id then .connection else .noConnection)
  | .route => (s, .text (s.listener.map fun l => l.route.render))
  | .address => (s, .text (s.listener.map fun l => l.address.render))
  | .setRoute t => redirect s t
  | .stop => ({ s with listener := none, connections := [] }, .done)

/-- What the steps of a script show. -/
def run (network : Network) : State → List Step → List Shown
  | _, [] => []
  | s, next :: rest =>
    let (s', shown) := step network s next
    shown :: run network s' rest

end Gatehouse.Listener.Script
