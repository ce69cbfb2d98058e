import Gatehouse.Net.Network
import Gatehouse.Route.Basic

/-!
A listener: an address on which connections are accepted, and the route that each new connection, and each
new request, takes. Another route can be set at any time; what is under way keeps its backend. Accepting connections and
TLS towards the client are left out; what a connection is served with stands in the modules of the backend and the relay.
-/

namespace Gatehouse

open Net

/-- A running listener. -/
structure Listener where
  host : Text
  address : Socket
  route : Route

namespace Listener

/-- What the system says when a program wants to listen on an address; nothing if it may. -/
abbrev Listening := Socket → Option Text

def start (refusal : Listening) (address : Socket) (host : Text) (route : Route) :
    Except Fault Listener :=
  match refusal address with
  | some cause => .error (.bind address cause)
  | none => .ok ⟨host, address, route⟩

def setRoute (l : Listener) (route : Route) : Listener := { l with route := route }

end Listener
end Gatehouse
