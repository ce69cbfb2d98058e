import Gatehouse.Fault
import Gatehouse.Text.Blank

/-!
Where a listener sends its traffic: a fixed host and port, or a service of an application that is
looked up when it is dialed.
-/

namespace Gatehouse

/-- The far end of a route. -/
inductive Target where
  /-- A fixed host and port. -/
  | fixed (host : Text) (port : Nat)
  /-- A service, written `app/kind/name:port`. -/
  | service (app kind name : Text) (port : Nat)
  deriving DecidableEq

namespace Target

def port : Target → Nat
  | fixed _ port => port
  | service _ _ _ port => port

def label : Target → Text
  | fixed host port => host ++ ":" ++ Text.ofNat port
  | service app kind name _ => app ++ "/" ++ kind ++ "/" ++ name

/-- The text of a target; a host with a colon stands in brackets. -/
def render : Target → Text
  | fixed host port =>
    if host.contains ':' then "[" ++ host ++ "]:" ++ Text.ofNat port
    else host ++ ":" ++ Text.ofNat port
  | service app kind name port => app ++ "/" ++ kind ++ "/" ++ name ++ ":" ++ Text.ofNat port

/-- The host, without brackets, and the port of an address that ends in a port other than zero. -/
def splitPort? (t : Text) : Option (Text × Nat) := do
  let (host, port) ← Text.cutLast ':' t
  let host := Text.trimEnd (· == ']') (Text.trimFront (· == '[') host)
  if host = [] then none
  else
    let n ← Text.bounded? 65535 port
    if n = 0 then none else some (host, n)

/-- The target whose path and port these are, if the path has no slash or three non-empty parts. -/
def ofPath? (path : Text) (port : Nat) : Option Target :=
  if path.contains '/' then
    match Text.split '/' path with
    | [app, kind, name] =>
      if app = [] ∨ kind = [] ∨ name = [] then none else some (service app kind name port)
    | _ => none
  else some (fixed path port)

/-- The target that a text spells, blanks around it apart. -/
def parse (t : Text) : Except Fault Target :=
  let t := Text.trim t
  match (splitPort? t).bind fun (path, port) => ofPath? path port with
  | some target => .ok target
  | none => .error (.invalidTarget t)

end Target
end Gatehouse
