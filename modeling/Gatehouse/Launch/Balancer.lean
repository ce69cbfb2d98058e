import Gatehouse.Balancer
import Gatehouse.Launch.Machine

/-!
Starting and stopping the balancer as a program of its own.
-/

namespace Gatehouse.Balancer

open Net Host

/-- Why the balancer does not start. -/
inductive LaunchFault where
  | settings (f : Settings.LoadFault)
  /-- The settings of this file have no listener. -/
  | noListeners (path : Text)
  | start (f : StartFault)

def LaunchFault.message : LaunchFault → Text
  | settings f => f.message
  | noListeners path => "No balancer listeners configured in " ++ path
  | start f => f.message

/-- What lies behind a fault, if that is something that the system said. -/
def LaunchFault.cause? : LaunchFault → Option Text
  | start (.fault (.bind _ cause)) => some cause
  | _ => none

/-- The file that the settings are read from if no other is named. -/
def defaultFile : Text := "balancer.toml"

/-- Starts the balancer; tells what runs, and the limits that the settings give. -/
def launch (path : Text) : Launch LaunchFault (Settings.Proxy × List Running) := do
  let m ← get
  let s ← Launch.orFault (Settings.load ((m.read path).mapError Files.Fault.text) m.environment) .settings
  if s.listeners.isEmpty then throw (.noListeners path)
  let result ← Launch.act fun m =>
    let (result, calls) := start m.files m.working m.refusal m.taken s.proxy s.listeners
    (result, { m with taken := listening m.taken calls })
  let running ← Launch.orFault result .start
  pure (s.proxy, running)

def shutDown (limits : Settings.Proxy) (running : List Running) (m : Machine) : Machine :=
  { m with taken := listening m.taken (stopAll (.refusing m.refusal) (stopLimit limits) running) }

end Gatehouse.Balancer
