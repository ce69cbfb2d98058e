import Gatehouse.Locator
import Gatehouse.Net.Network
import Gatehouse.Route.Basic
import Gatehouse.Text.Utf8

/-!
Dialing the target of a route: where the connection leads, what comes of it, and the TLS handshake where
the listener of the route speaks TLS. The target is looked up anew for each connection, and one time limit is
set for all that is waited for.

The network, the handshakes and the number that an instance is drawn with are given (`Dialer`). A handshake is what comes
of it: encryption is left out, and so are certificates, of which a client accepts any.
-/

namespace Gatehouse.Backend

open Net

/-! ## The way to a target -/

/-- Where a connection leads: the host and port that are dialed, what the far end is called, and what it is
called when it cannot be reached. -/
structure Way where
  host : Text
  port : Nat
  peer : Text
  label : Text
  deriving DecidableEq

def Way.toAddress (address : Socket) : Way :=
  ⟨address.ip.render, address.port, address.render, address.render⟩

/-- The way to a target. An instance of a service is drawn at random; one without an address is reached by
a stream to another of the same id. -/
def way (locator : Option Locator) (draw : Nat) (target : Target) : Except Fault Way :=
  match target with
  | .fixed host port => .ok ⟨host, port, target.render, target.render⟩
  | .service app _ name port =>
    match locator with
    | none => .error (.noBackend target.label)
    | some l =>
      match Locator.choose draw (l.instances app name) with
      | none => .error (.noBackend target.label)
      | some found =>
        match found.ip with
        | some ip => .ok (.toAddress ⟨ip, port, 0⟩)
        | none => do
          let address ← l.streamAddress app found.id port
          .ok { Way.toAddress address with
            peer := app ++ "/" ++ found.id ++ ":" ++ Text.ofNat port }

/-! ## TLS towards the target -/

/-- Whether a label may stand in the name of a TLS server. -/
def isServerLabel (label : Text) : Bool :=
  label != [] && decide (label.length ≤ 63) && label.head? != some '-' && label.getLast? != some '-' &&
    label.all fun c => c.isAlphanum || c == '-' || c == '_'

/-- Whether a text is the name of a TLS server: labels with dots between them, the last one not all
digits, perhaps with a dot at the end. -/
def isServerName (t : Text) : Bool :=
  let labels := Text.split '.' t
  let named := if labels.getLast? = some [] then labels.dropLast else labels
  decide (Text.byteLength t ≤ 253) && named != [] && named.all isServerLabel &&
    named.getLast?.any fun label => !label.all Char.isDigit

/-- Whether a TLS client can name a host: by a name or by an address. -/
def canBeNamed (t : Text) : Bool := isServerName t || (Ip.parse? t).isSome

/-- The name by which a target is asked for its certificate. -/
def serverName : Target → Text
  | .fixed host _ => host
  | .service app _ name _ => name ++ "." ++ app

/-! ## Connections -/

/-- What comes of a TLS handshake. -/
inductive Negotiation where
  /-- It succeeds, and the peer has chosen this protocol, if any. -/
  | agreed (protocol : Option Text)
  /-- It fails, and this is said of it. -/
  | failed (detail : Text)
  /-- Nothing comes of it before the time limit is over. -/
  | pending
  deriving DecidableEq

/-- What comes of TLS handshakes with a peer when a protocol is offered. -/
abbrev Handshake := Text → Option Text → Negotiation

/-- An open connection: its peer, and the protocol that the peer chose. -/
structure Connection where
  peer : Text
  protocol : Option Text

/-- What dialing depends on: the locator, the time limit in milliseconds, the network, and what comes of TLS
handshakes. -/
structure Dialer where
  locator : Option Locator
  connectMillis : Nat
  network : Network
  handshake : Handshake

/-- What is said of a target that could not be dialed in time. -/
def lateFault (target : Target) (millis : Nat) : Fault :=
  .timeout ("dialing " ++ target.render ++ " took longer than " ++ Text.ofNat (millis / 1000) ++ "s")

def Dialer.dial (d : Dialer) (draw : Nat) (target : Target) : Except Fault Connection :=
  match way d.locator draw target with
  | .error e => .error e
  | .ok w =>
    match d.network w.host w.port with
    | .established => .ok ⟨w.peer, none⟩
    | .failed detail => .error (.backend (w.label ++ ": " ++ detail))
    | .pending => .error (lateFault target d.connectMillis)

/-- Connects for a route: with TLS if its listener speaks TLS, and then with an offer of a protocol. The handshake
has what is left of the time in which the target is dialed. -/
def Dialer.connect (d : Dialer) (draw : Nat) (route : Route) (offer : Option Text) :
    Except Fault Connection :=
  match d.dial draw route.target with
  | .error e => .error e
  | .ok c =>
    if route.scheme.terminatesTls then
      if canBeNamed (serverName route.target) then
        match d.handshake c.peer offer with
        | .agreed protocol => .ok { c with protocol := protocol }
        | .failed detail => .error (.backend ("TLS handshake with " ++ c.peer ++ " failed: " ++ detail))
        | .pending => .error (lateFault route.target d.connectMillis)
      else .error (.backend "invalid server name: invalid dns name")
    else .ok c

end Gatehouse.Backend
