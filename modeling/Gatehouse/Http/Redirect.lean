import Gatehouse.Fault

/-!
Redirects: the `Location` that a request is sent to. The target gives scheme, host, port and a path in
which `*` stands for the path of the request.
-/

namespace Gatehouse.Http.Redirect

/-- Host and port of an authority; the brackets of an IPv6 address stay with the host, and an empty
port counts as none. -/
def splitAuthority (authority : Text) : Text × Option Text :=
  if authority.head? = some '[' then
    match Text.cutFirst ']' authority with
    | some (front, rest) =>
      (front ++ "]", match rest with
        | ':' :: port => if port = [] then none else some port
        | _ => none)
    | none => (authority, none)
  else
    match Text.cutLast ':' authority with
    | some (host, port) => (host, if port = [] then none else some port)
    | none => (authority, none)

/-- A redirect target, taken apart. -/
structure Pattern where
  scheme : Text
  authority : Text
  path : Text
  deriving DecidableEq

/-- The parts of a target, if it has a scheme that is not empty. -/
def Pattern.read? (target : Text) : Option Pattern := do
  let (scheme, rest) ← Text.cutAround "://" target
  if scheme = [] then none
  else some ⟨scheme, rest.takeWhile (· != '/'), rest.dropWhile (· != '/')⟩

def fillRooted (text : Text) : Text → Text
  | '/' :: '*' :: rest => text ++ fillRooted text rest
  | c :: rest => c :: fillRooted text rest
  | [] => []

theorem fillRooted_other {c : Char} {t : Text} (h : ∀ later, c = '/' → t = '*' :: later → False) (text : Text) :
    fillRooted text (c :: t) = c :: fillRooted text t := by
  rw [fillRooted]
  exact h

def fillStars (text path : Text) : Text := path.flatMap fun c => if c = '*' then text else [c]

/-- The path of the location: each `/*` of the target's path gives way to the path of the request, and
after that each `*` to that path without the slashes at its front. A target without a path keeps the
path of the request. -/
def newPath (targetPath requestPath : Text) : Text :=
  let path : Text := if requestPath = [] then "/" else requestPath
  if targetPath = [] then path
  else fillStars (Text.trimFront (· == '/') path) (fillRooted path targetPath)

/-- The host of the location: that of the target, or that of the request where the target has none. -/
def hostFor (targetHost : Text) (requestHost : Option Text) : Except Fault Text :=
  if targetHost = [] then
    match requestHost.map fun host => (splitAuthority host).1 with
    | none => .error (.invalidHost "request has no host")
    | some [] => .error (.invalidHost "request has no host")
    | some host => .ok host
  else .ok targetHost

/-- The location that a request for this host, path and query is redirected to. -/
def location (target : Text) (requestHost : Option Text) (path : Text) (query : Option Text) :
    Except Fault Text :=
  match Pattern.read? target with
  | none => .error (.invalidTarget target)
  | some pattern => do
    let (targetHost, port) := splitAuthority pattern.authority
    let host ← hostFor targetHost requestHost
    let portText : Text := match port with
      | some port => ":" ++ port
      | none => []
    let queryText : Text := match query with
      | some (c :: rest) => "?" ++ (c :: rest)
      | _ => []
    pure (pattern.scheme ++ "://" ++ host ++ portText ++ newPath pattern.path path ++ queryText)

end Gatehouse.Http.Redirect
