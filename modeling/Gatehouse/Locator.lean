import Gatehouse.Fault
import Gatehouse.Settings.Basic

/-!
Where the instances of a service run. The instances are listed by `app/service`; an instance without an
address of its own is looked for among all services of its application.
-/

namespace Gatehouse

open Net Settings

/-- The instances of each service, by `app/service`. -/
structure Locator where
  services : List (Text × List Instance)

namespace Locator

/-- The key of a service. -/
def key (app service : Text) : Text := app ++ "/" ++ service

def instances (l : Locator) (app service : Text) : List Instance :=
  (l.services.lookup (key app service)).getD []

def instancesOf (l : Locator) (app : Text) : List Instance :=
  (l.services.filter fun service => (app ++ "/").isPrefixOf service.1).flatMap (·.2)

def find? (l : Locator) (app id : Text) : Option Instance :=
  (l.instancesOf app).find? fun i => i.id == id

def streamAddress (l : Locator) (app id : Text) (port : Nat) : Except Fault Socket :=
  match (l.find? app id).bind (·.ip) with
  | some ip => .ok ⟨ip, port, 0⟩
  | none => .error (.backend ("instance " ++ id ++ " of " ++ app ++ " is not reachable"))

def choose (draw : Nat) (instances : List Instance) : Option Instance :=
  instances[draw % instances.length]?

end Locator
end Gatehouse
