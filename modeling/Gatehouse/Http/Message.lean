import Gatehouse.Http.Fields
import Gatehouse.Http.Uri

/-!
HTTP requests and responses, without the framing of the versions that carry them.
-/

namespace Gatehouse.Http

/-- A version of HTTP. -/
inductive Version where
  | http10
  | http11
  | http2
  deriving DecidableEq

/-- A request; the body is passed on as it comes. -/
structure Request where
  method : Text
  uri : Uri
  version : Version
  fields : Fields
  body : Bytes

/-- A response. -/
structure Response where
  status : Nat
  fields : Fields
  body : Bytes

namespace Response

def json (status : Nat) (body : Json) : Response :=
  ⟨status, [("content-type", Text.utf8 "application/json")], Text.utf8 body.render⟩

def ofFault (f : Fault) : Response :=
  ⟨f.status,
   [("content-type", Text.utf8 "application/json"), ("x-proxy-error", Text.utf8 f.code.name)],
   Text.utf8 f.body⟩

end Response
end Gatehouse.Http
