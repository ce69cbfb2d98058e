import Gatehouse.Fault

/-!
The four protocols that a listener can speak.
-/

namespace Gatehouse

/-- What a listener speaks with its clients. -/
inductive Scheme where
  | tcp
  | http
  | https
  | tls
  deriving DecidableEq

namespace Scheme

def name : Scheme → Text
  | tcp => "tcp"
  | http => "http"
  | https => "https"
  | tls => "tls"

/-- Whether the listener holds the TLS end of its connections. -/
def terminatesTls : Scheme → Bool
  | https => true
  | tls => true
  | _ => false

/-- Whether requests are forwarded one by one rather than bytes. -/
def isHttp : Scheme → Bool
  | http => true
  | https => true
  | _ => false

def parse (t : Text) : Except Fault Scheme :=
  let l := Text.lower t
  if l = "tcp" then .ok tcp
  else if l = "http" then .ok http
  else if l = "https" then .ok https
  else if l = "tls" then .ok tls
  else .error (.invalidScheme t)

theorem parse_name (s : Scheme) : parse s.name = .ok s := by cases s <;> rfl

end Scheme
end Gatehouse
