import Gatehouse.Route.Scheme
import Gatehouse.Text.Blank
import Gatehouse.Text.Utf8

/-!
Header fields of requests and responses: a list of names and values in which a name may stand several
times, and the rewriting that a proxy does to it. Fields that belong to a single hop are removed, and
the fields that tell a backend about the client are replaced, never appended to.
-/

namespace Gatehouse.Http

/-- Header fields in the order in which they came; names are in lower case, values are bytes. -/
abbrev Fields := List (Text × Bytes)

namespace Fields

/-! ## Names and values -/

def isTokenChar (c : Char) : Bool := c.isAlphanum || ("!#$%&'*+-.^_\x60|~" : Text).contains c

/-- Whether a text is a field name: one or more token characters. -/
def isName (t : Text) : Bool := t != [] && t.all isTokenChar

/-- Whether a byte may stand in a field value: no control character except the tab. -/
def isValueByte (b : UInt8) : Bool := b == 9 || (32 ≤ b && b != 127)

/-- A value as text, if all its bytes are visible ASCII, spaces and tabs. -/
def readable? (value : Bytes) : Option Text :=
  if value.all fun b => b == 9 || (32 ≤ b && b < 127) then
    some (value.map fun b => Char.ofNat b.toNat)
  else none

/-- What keeps a field out of a header. -/
inductive Complaint where
  | name
  | value
  deriving DecidableEq

def field (name : Text) (value : Bytes) : Except Complaint (Text × Bytes) :=
  if isName name then
    if value.all isValueByte then .ok (Text.lower name, value) else .error .value
  else .error .name

/-- Header fields from names in any letter case, or the first complaint. -/
def ofList (fields : List (Text × Bytes)) : Except Complaint Fields :=
  fields.mapM fun f => field f.1 f.2

/-! ## Look-up and change -/

def values (fields : Fields) (name : Text) : List Bytes :=
  fields.filterMap fun f => if f.1 = name then some f.2 else none

def get? (fields : Fields) (name : Text) : Option Bytes := (fields.values name).head?

/-- The first value of a name, if it can be read as text. -/
def text? (fields : Fields) (name : Text) : Option Text := (fields.get? name).bind readable?

/-- Whether a name is present. -/
def has (fields : Fields) (name : Text) : Bool := fields.any (·.1 == name)

def remove (fields : Fields) (name : Text) : Fields := fields.filter (·.1 != name)

/-- The fields with this as the only value of its name. -/
def put (fields : Fields) (name : Text) (value : Bytes) : Fields :=
  fields.remove name ++ [(name, value)]

/-! ## Hop-by-hop fields -/

def hopByHop : List Text :=
  ["connection", "keep-alive", "proxy-authenticate", "proxy-authorization", "proxy-connection", "te",
   "trailer", "transfer-encoding"]

/-- The options of one `Connection` value: its comma-separated elements, trimmed, in lower case. -/
def connectionOptions (value : Bytes) : List Text :=
  match readable? value with
  | none => []
  | some t => ((Text.split ',' t).map fun option => Text.lower (Text.trim option)).filter (· ≠ [])

def allConnectionOptions (fields : Fields) : List Text :=
  (fields.values "connection").flatMap connectionOptions

/-- The fields without the hop-by-hop ones, those that `Connection` names, and `Upgrade`. -/
def stripHopByHop (fields : Fields) : Fields :=
  (((allConnectionOptions fields) ++ hopByHop).foldl remove fields).remove "upgrade"

/-- Whether a request asks for another protocol: its first `Connection` value mentions `upgrade`, and
it has an `Upgrade` field. -/
def isUpgrade (fields : Fields) : Bool :=
  (match fields.text? "connection" with
    | some t => Text.holds "upgrade" (Text.lower t)
    | none => false) && fields.has "upgrade"

/-! ## Forwarding fields -/

/-- The id of a request: the one it carries, if that can be read, or else `fresh`. -/
def requestId (fields : Fields) (fresh : Text) : Text := (fields.text? "x-request-id").getD fresh

/-- The fields that the backend is sent, and the id of the request: the client's address, the
listener's port and scheme, and the request's id replace whatever the client sent under their names. -/
def withForwarding (fields : Fields) (fresh peer : Text) (port : Nat) (scheme : Scheme) :
    Text × Fields :=
  let id := fields.requestId fresh
  (id, (((fields.put "x-request-id" (Text.utf8 id)).put "x-forwarded-for" (Text.utf8 peer)).put
    "x-forwarded-port" (Text.utf8 (Text.ofNat port))).put "x-forwarded-proto"
      (Text.utf8 scheme.name))

/-! ## Order for display -/

/-- The fields sorted by name, several values of one name in their order. -/
def sorted (fields : Fields) : Fields := fields.mergeSort fun a b => Text.le a.1 b.1

end Fields
end Gatehouse.Http
