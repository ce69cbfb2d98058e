import Gatehouse.Route.Scheme
import Gatehouse.Route.Target

/-!
Routes: a target with the scheme in which its listener speaks, written `scheme://target`.
-/

namespace Gatehouse

/-- A target with the scheme of its listener. -/
structure Route where
  scheme : Scheme
  target : Target
  deriving DecidableEq

namespace Route

def render (r : Route) : Text := r.scheme.name ++ "://" ++ r.target.render

/-- The route that a text spells; without a scheme in front the target gets `default`. -/
def parseWithDefault (t : Text) (default : Scheme) : Except Fault Route :=
  let t := Text.trim t
  if t = [] then .error (.missingParameter "target")
  else
    match Text.cutAround "://" t with
    | some (front, address) => do
      let scheme ← Scheme.parse front
      let target ← Target.parse address
      pure ⟨scheme, target⟩
    | none => do
      let target ← Target.parse t
      pure ⟨default, target⟩

/-- The route that a text spells; a scheme given apart from the text wins over one in the text. -/
def parse (t : Text) (explicit : Option Scheme) : Except Fault Route := do
  let route ← parseWithDefault t .tcp
  pure { route with scheme := explicit.getD route.scheme }

end Route
end Gatehouse
