import Gatehouse.Net.Socket
import Gatehouse.Json

/-!
What can go wrong in the registry, the proxies and the control interface: the causes, their wording,
and the code and HTTP status under which a client sees them.
-/

namespace Gatehouse

open Net

/-- The cause of a failed operation. -/
inductive Fault where
  | missingParameter (name : Text)
  | invalidPort (text : Text)
  | invalidTarget (text : Text)
  | invalidScheme (text : Text)
  | invalidHost (text : Text)
  | unknownEndpoint (host : Text)
  | poolExhausted (subnet : Text)
  | interface (detail : Text)
  | bind (address : Socket) (cause : Text)
  | certificate (detail : Text)
  | noBackend (service : Text)
  | backend (detail : Text)
  | timeout (detail : Text)
  | internal (detail : Text)
  deriving DecidableEq

namespace Fault

def message : Fault → Text
  | missingParameter name => "missing required parameter: " ++ name
  | invalidPort text => "invalid port: " ++ text
  | invalidTarget text => "invalid target: " ++ text
  | invalidScheme text => "invalid scheme: " ++ text
  | invalidHost text => "invalid host: " ++ text
  | unknownEndpoint host => "no such endpoint: " ++ host
  | poolExhausted subnet => "no free address left in " ++ subnet
  | interface detail => "interface error: " ++ detail
  | bind address cause => "could not listen on " ++ address.render ++ ": " ++ cause
  | certificate detail => "certificate error: " ++ detail
  | noBackend service => "no backend available for " ++ service
  | backend detail => "backend error: " ++ detail
  | timeout detail => "backend timed out: " ++ detail
  | internal detail => detail

/-- The class of fault that a client is told. -/
inductive Code where
  | missingParameter
  | invalidParameter
  | unknownEndpoint
  | poolExhausted
  | systemError
  | certificateError
  | noBackend
  | connectionFailed
  | requestTimeout
  | internalError
  deriving DecidableEq

def Code.name : Code → Text
  | missingParameter => "MISSING_PARAMETER"
  | invalidParameter => "INVALID_PARAMETER"
  | unknownEndpoint => "UNKNOWN_ENDPOINT"
  | poolExhausted => "POOL_EXHAUSTED"
  | systemError => "SYSTEM_ERROR"
  | certificateError => "CERTIFICATE_ERROR"
  | noBackend => "NO_BACKEND"
  | connectionFailed => "CONNECTION_FAILED"
  | requestTimeout => "REQUEST_TIMEOUT"
  | internalError => "INTERNAL_ERROR"

/-- The HTTP status of a code: 4xx where the client is at fault, 5xx elsewhere. -/
def Code.status : Code → Nat
  | missingParameter => 400
  | invalidParameter => 400
  | unknownEndpoint => 404
  | poolExhausted => 503
  | systemError => 500
  | certificateError => 500
  | noBackend => 503
  | connectionFailed => 502
  | requestTimeout => 504
  | internalError => 500

def code : Fault → Code
  | missingParameter _ => .missingParameter
  | invalidPort _ => .invalidParameter
  | invalidTarget _ => .invalidParameter
  | invalidScheme _ => .invalidParameter
  | invalidHost _ => .invalidParameter
  | unknownEndpoint _ => .unknownEndpoint
  | poolExhausted _ => .poolExhausted
  | interface _ => .systemError
  | bind _ _ => .systemError
  | certificate _ => .certificateError
  | noBackend _ => .noBackend
  | backend _ => .connectionFailed
  | timeout _ => .requestTimeout
  | internal _ => .internalError

def status (f : Fault) : Nat := f.code.status

def body (f : Fault) : Text :=
  (Json.obj [("code", .str f.code.name), ("message", .str f.message), ("status", .num f.status)]).render

end Fault
end Gatehouse
