import Gatehouse.Launch.Balancer
import Gatehouse.Launch.Gateway

/-!
A program from its start to its end, with looks at it from outside while it runs.
-/

namespace Gatehouse.Launch

open Net Host

/-- The programs. -/
inductive Program where
  | gateway
  | balancer
  deriving DecidableEq

/-- A program that runs. -/
inductive Running where
  | gateway (g : Gateway)
  | balancer (limits : Settings.Proxy) (listeners : List Balancer.Running)

/-- What a program says when it does not start: the fault, and what lies behind it. -/
structure Refusal where
  message : Text
  cause : Option Text

def Refusal.report (r : Refusal) : Text :=
  let behind : Text := r.cause.elim [] fun cause => "\n\nCaused by:\n    " ++ cause
  "Error: " ++ r.message ++ behind ++ "\n"

/-- Starts a program with the settings of the named file, else of its own. -/
def Program.start (p : Program) (file : Option Text) : Launch Refusal Running :=
  match p with
  | gateway =>
    (Running.gateway <$> Gateway.start (file.getD Gateway.defaultFile)).adapt fun f => ⟨f.message, none⟩
  | balancer =>
    (Function.uncurry Running.balancer <$> Balancer.launch (file.getD Balancer.defaultFile)).adapt fun f =>
      ⟨f.message, f.cause?⟩

def Running.stop (r : Running) (m : Machine) : Machine :=
  match r with
  | gateway g => g.stop m
  | balancer limits listeners => Balancer.shutDown limits listeners m

/-! ## Looks from outside -/

/-- One look. -/
inductive Look where
  /-- At an address, by a connection. -/
  | connect (address : Socket)
  /-- At the first line of a file. -/
  | firstLine (path : Text)

/-- What a look shows. -/
inductive Shown where
  | attempt (a : Attempt)
  | line (t : Option Text)

def firstLine? (m : Machine) (path : Text) : Option Text :=
  match m.read path with
  | .ok content => some ((Text.split '\n' (Text.ofUtf8Lossy content)).headD [])
  | .error _ => none

def look (network : Network) (m : Machine) : Look → Shown
  | .connect address => .attempt (network address.ip.render address.port)
  | .firstLine path => .line (firstLine? m path)

/-! ## From start to end -/

/-- How a program ended, and what was seen of it. -/
structure Ending where
  status : Nat
  stderr : Text
  shown : List Shown
  /-- What is in the working folder afterwards. -/
  left : List Text

/-- Starts a program, looks at it, and ends it by a signal; without a signal a program that has started
never ends. A program that did not start is looked at all the same if it was to be looked at. -/
def session? (network : Network) (p : Program) (file : Option Text) (signalled : Bool)
    (looks : List Look) (m : Machine) : Option Ending :=
  let shownOn (m : Machine) : List Shown := if signalled then looks.map (look network m) else []
  match (p.start file).runOn m with
  | (.error refusal, m) => some ⟨1, refusal.report, shownOn m, m.listing⟩
  | (.ok running, m) =>
    if signalled then some ⟨0, [], shownOn m, (running.stop m).listing⟩ else none

end Gatehouse.Launch
