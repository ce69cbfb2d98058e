import Gatehouse.Control.Resource
import Gatehouse.Form
import Gatehouse.Http.Message
import Gatehouse.Registry.Operations

/-!
The control interface: HTTP requests that list, create and delete endpoints and attach ports to them.
Parameters are form fields in the query or the body. `handle` is what becomes of one request; connections are left out.
-/

namespace Gatehouse.Control

open Http Registry

def programName : Text := "vipgate"

def programVersion : Text := "0.1.0"

/-- The port on which the control interface listens unless the settings say otherwise. -/
def defaultPort : Nat := 9477

/-! ## Parameters -/

def formOf (r : Request) : Form := Form.ofRequest (r.uri.query?.getD []) (Text.ofUtf8Lossy r.body)

def required (form : Form) (name : Text) : Except Fault Text :=
  match (form.get? name).map Text.trim with
  | none => .error (.missingParameter name)
  | some [] => .error (.missingParameter name)
  | some value => .ok value

def port (t : Text) : Except Fault Nat :=
  match (Text.bounded? 65535 (Text.trim t)).filter (· ≠ 0) with
  | some n => .ok n
  | none => .error (.invalidPort t)

/-! ## Answers -/

def endpointJson (e : Endpoint) : Json :=
  .obj [("host", .str e.host), ("ip", .str e.ip.render), ("port", .num e.port),
    ("scheme", .str e.route.scheme.name), ("target", .str e.route.render),
    ("lease_expiry", .str (Time.render e.lease))]

def noContent : Response := ⟨204, [], []⟩

def notFoundAnswer : Response := Response.json 404 (.obj [("error", .str "not found")])

/-- A response, the registry after the request, and the calls made. -/
structure Answer where
  response : Response
  after : Registry
  calls : List Call

def Answer.plain (r : Registry) (response : Response) : Answer := ⟨response, r, []⟩

def Answer.ofOutcome {α : Type} (o : Outcome α) (respond : α → Response) : Answer :=
  match o.result with
  | .ok a => ⟨respond a, o.after, o.calls⟩
  | .error e => ⟨.ofFault e, o.after, o.calls⟩

def createEndpoint (r : Registry) (w : Conditions) (now : Time) (host : Text) (form : Form) : Answer :=
  let parameters : Except Fault (Nat × Text) := do
    let port ← port (← required form "port")
    let target ← required form "target"
    pure (port, target)
  match parameters with
  | .error e => .plain r (.ofFault e)
  | .ok (port, target) =>
    .ofOutcome (r.create w now host port target) fun e => .json 200 (endpointJson e)

def attachProxy (r : Registry) (w : Conditions) (host portText : Text) (form : Form) : Answer :=
  let parameters : Except Fault (Nat × Text × Text) := do
    let port ← port portText
    let scheme ← required form "scheme"
    let target ← required form "target"
    pure (port, scheme, target)
  match parameters with
  | .error e => .plain r (.ofFault e)
  | .ok (port, scheme, target) =>
    .ofOutcome (r.attach w host port scheme target) fun _ => noContent

def handle (r : Registry) (w : Conditions) (now : Time) (request : Request) : Answer :=
  match Resource.of request.method request.uri.path with
  | .health => .plain r (.json 200 (.obj [("status", .str "ok")]))
  | .version =>
    .plain r (.json 200 (.obj [("name", .str programName), ("version", .str programVersion)]))
  | .listEndpoints => .plain r (.json 200 (.arr (r.list.map endpointJson)))
  | .createEndpoint host => createEndpoint r w now host (formOf request)
  | .deleteEndpoint host => .ofOutcome (r.delete w host) fun _ => noContent
  | .attachProxy host port => attachProxy r w host port (formOf request)
  | .notFound => .plain r notFoundAnswer

end Gatehouse.Control
