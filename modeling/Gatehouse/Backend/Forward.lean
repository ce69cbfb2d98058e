import Gatehouse.Backend.Dial
import Gatehouse.Http.Message

/-!
Forwarding a request to the backend of a route: the fields that tell about the client are set, those of a
single hop removed, and the URI takes the form that the backend's protocol asks for.

What a backend answers is given (`Exchange`). Left out are the framing of HTTP, the bodies as streams, and what goes over
a connection after an upgrade.
-/

namespace Gatehouse.Backend

open Http

/-! ## The request that a backend is sent -/

/-- The authority that a request is for: that of its URI, else its `Host` field, else the target. -/
def authorityOf (r : Request) (route : Route) : Text :=
  match r.uri.authority? with
  | some authority => authority
  | none => (r.fields.text? "host").getD route.target.render

def uriFault (c : Uri.Complaint) : Fault :=
  .internal ("cannot build backend request URI: " ++ c.message)

/-- The fields with a `Host` field, if they have none and the text can be a value. -/
def withHost (fields : Fields) (authority : Text) : Fields :=
  if fields.has "host" then fields
  else if (Text.utf8 authority).all Fields.isValueByte then fields.put "host" (Text.utf8 authority)
  else fields

/-- The request that a backend is sent: over HTTP/2 with an absolute URI and no `Host` field, else with a
path and a `Host` field. A request for another protocol keeps its hop-by-hop fields. -/
def outgoing (r : Request) (route : Route) (overHttp2 upgrade : Bool) : Except Fault Request :=
  let path : Text := r.uri.pathText?.getD "/"
  let authority := authorityOf r route
  let fields := if upgrade then r.fields else r.fields.stripHopByHop
  if overHttp2 then
    let scheme : Text := if route.scheme.terminatesTls then "https" else "http"
    match Uri.parse (scheme ++ "://" ++ authority ++ path) with
    | .error c => .error (uriFault c)
    | .ok uri => .ok { r with uri := uri, version := .http2, fields := fields.remove "host" }
  else
    match Uri.parse path with
    | .error c => .error (uriFault c)
    | .ok uri => .ok { r with uri := uri, version := .http11, fields := withHost fields authority }

/-! ## Forwarding -/

def protocolHttp2 : Text := "h2"

def protocolHttp11 : Text := "http/1.1"

/-- Whether HTTP/2 is asked for: by what the client negotiated under `https`, else by its version; never
for a request for another protocol. -/
def wantsHttp2 (r : Request) (route : Route) (negotiated : Option Text) (upgrade : Bool) : Bool :=
  !upgrade && match route.scheme with
    | .https => negotiated == some protocolHttp2
    | _ => r.version == .http2

/-- What a backend does with a request over a connection: its response, or what went wrong. -/
abbrev Exchange := Connection → Request → Except Text Response

/-- The response as the client gets it: without the fields of a single hop, unless protocols switch. -/
def returned (r : Response) : Response :=
  if r.status = 101 then r else { r with fields := r.fields.stripHopByHop }

def forward (d : Dialer) (exchange : Exchange) (draw : Nat) (r : Request) (route : Route)
    (negotiated : Option Text) : Except Fault Response := do
  let upgrade := r.fields.isUpgrade
  let wanted := wantsHttp2 r route negotiated upgrade
  let c ← d.connect draw route (some (if wanted then protocolHttp2 else protocolHttp11))
  let overHttp2 := match route.scheme with
    | .https => c.protocol == some protocolHttp2
    | _ => wanted
  let request ← outgoing r route overHttp2 upgrade
  match exchange c request with
  | .ok response => .ok (returned response)
  | .error detail => .error (.backend (c.peer ++ ": " ++ detail))

/-- What a listener knows of a client: its address, the listener's port and scheme, and the protocol that
the client negotiated. -/
structure Client where
  peer : Text
  port : Nat
  scheme : Scheme
  negotiated : Option Text

/-- Answers a request to a listener: it is forwarded with the fields that tell about the client, and a
fault is reported to the client. -/
def answer (d : Dialer) (exchange : Exchange) (draw : Nat) (freshId : Text) (client : Client)
    (route : Route) (r : Request) : Response :=
  let (_, fields) := r.fields.withForwarding freshId client.peer client.port client.scheme
  match forward d exchange draw { r with fields := fields } route client.negotiated with
  | .ok response => response
  | .error e => .ofFault e

/-- The line that a client of a plain listener is told when its backend cannot be reached. -/
def diagnostic (e : Fault) : Text := "error: " ++ e.message ++ "\n"

/-- Serves a client of a plain listener: the connection that its bytes are relayed over, or what it is told before it is
left. -/
def serve (d : Dialer) (draw : Nat) (route : Route) (negotiated : Option Text) : Except Bytes Connection :=
  match d.connect draw route negotiated with
  | .ok c => .ok c
  | .error e => .error (Text.utf8 (diagnostic e))

end Gatehouse.Backend
