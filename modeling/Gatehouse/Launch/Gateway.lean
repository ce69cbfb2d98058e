import Gatehouse.Certificates
import Gatehouse.Control.Api
import Gatehouse.Launch.Machine
import Gatehouse.PidFile
import Gatehouse.Settings.Check
import Gatehouse.SystemResolver

/-!
Starting and stopping the gateway. It reads its settings, claims its PID file, makes its interface, and
then opens the name server and the control interface on it; if one of the last two steps fails the
interface and the PID file go again.

Left out are log output and the tasks that serve requests while the gateway runs, except that it answers one request of
its control interface after the other (`answer`). Nobody else touches the PID file during a start.
-/

namespace Gatehouse

open Net Host

/-- A gateway that runs: its settings, its endpoints, its certificates, and where its name server and its
control interface listen. -/
structure Gateway where
  settings : Settings
  registry : Registry
  authority : Authority
  nameServer : Socket
  control : Socket

namespace Gateway

/-! ## Faults -/

/-- Why the gateway does not start. -/
inductive StartFault where
  | settings (f : Settings.LoadFault)
  | pidFile (f : PidFile.Fault)
  | interface (name detail : Text)
  | rootCertificate (path detail : Text)
  | complaint (c : Settings.Complaint)
  | nameServer (address : Socket) (cause : Text)
  | control (address : Socket) (cause : Text)
  | fault (f : Fault)

def StartFault.message : StartFault → Text
  | settings f => f.message
  | pidFile f => f.message
  | interface name detail => "Failed to create interface " ++ name ++ ": " ++ detail
  | rootCertificate path detail => "Failed to write root certificate to " ++ path ++ ": " ++ detail
  | complaint c => c.message
  | nameServer address cause => "Failed to bind DNS socket " ++ address.render ++ ": " ++ cause
  | control address cause => "Failed to bind control API on " ++ address.render ++ ": " ++ cause
  | fault f => f.message

/-! ## The registry on a machine -/

def family (s : Settings) : Interface.Family := .ofDriver s.server.driver

def complaint? (result : Except Text Unit) : Option Text :=
  match result with
  | .ok () => none
  | .error detail => some detail

def conditions (m : Machine) (s : Settings) (nameServer : Socket) : Registry.Conditions where
  addAlias ip := complaint? (m.ask (family s) (.addAlias s.server.interface ip)).1
  removeAlias ip := complaint? (m.ask (family s) (.removeAlias s.server.interface ip)).1
  listen := m.refusal m.taken
  point domain :=
    complaint? ((SystemResolver.Method.ofSettings s.dns).configure m.files m.working domain nameServer).1

def carryOut (s : Settings) (nameServer : Socket) (m : Machine) : Registry.Call → Machine
  | .addAlias ip _ => (m.ask (family s) (.addAlias s.server.interface ip)).2
  | .removeAlias ip _ => (m.ask (family s) (.removeAlias s.server.interface ip)).2
  | .listen ip port true => { m with taken := m.taken ++ [.ofIpv4 ip port] }
  | .listen _ _ false => m
  | .stop ip port => { m with taken := m.taken.erase (.ofIpv4 ip port) }
  | .point domain _ =>
    { m with files :=
        ((SystemResolver.Method.ofSettings s.dns).configure m.files m.working domain nameServer).2 }

/-- What the calls of the registry change on a machine, one after the other. -/
def carryOutAll (s : Settings) (nameServer : Socket) (m : Machine) (calls : List Registry.Call) : Machine :=
  calls.foldl (carryOut s nameServer) m

/-! ## Settings -/

/-- The file that the settings are read from if no other is named. -/
def defaultFile : Text := "vipgate.toml"

/-- The settings of a file; if it is not there, those that hold without a document. -/
def loadSettings (m : Machine) (path : Text) : Except Settings.LoadFault Settings :=
  if m.has path then
    Settings.load ((m.read path).mapError Files.Fault.text) m.environment
  else ({} : Settings).completed m.environment

/-! ## Starting -/

def claimPidFile (s : Settings) : Launch StartFault Unit :=
  match s.server.pidFile with
  | none => pure ()
  | some path => do
    let result ← Launch.act fun m =>
      let (result, files) := PidFile.claimAt m.files m.locks m.working path m.process
      (result, { m with files := files })
    Launch.orFault result .pidFile

/-- Makes the interface with the reserved address, in the place of one that was left behind. -/
def makeInterface (s : Settings) (base : Ipv4) : Launch StartFault Unit := do
  let name := s.server.interface
  let _ ← Launch.act fun m => m.ask (family s) (.destroy name)
  let result ← Launch.act fun m => m.ask (family s) (.create name base)
  Launch.orFault result (.interface name)

/-- Writes the root certificate, if the settings name a file for it. -/
def writeRootCertificate (s : Settings) : Launch StartFault Unit :=
  match s.server.rootCertificateFile with
  | none => pure ()
  | some path => do
    let result ← Launch.act fun m =>
      match m.files.write m.working path m.rootText with
      | .ok files => (.ok (), { m with files := files })
      | .error f => (.error f.text, m)
    Launch.orFault result (.rootCertificate path)

/-- Publishes the name of the control interface in a new registry. -/
def publishControl (s : Settings) (pool : Subnet) (nameServer : Socket) : Launch StartFault Registry := do
  let result ← Launch.act fun m =>
    let outcome := (Registry.empty pool (.ofSeconds s.server.leaseSeconds)).publish (conditions m s nameServer)
      s.server.controlName
    (outcome.result.map fun _ => outcome.after, carryOutAll s nameServer m outcome.calls)
  Launch.orFault result .fault

/-- The authority with a certificate for the control interface, if that speaks TLS. -/
def controlCertificate (s : Settings) : Except Fault Authority :=
  if s.server.controlTls then
    match Authority.new.serve s.server.controlName with
    | (.ok _, authority) => .ok authority
    | (.error f, _) => .error f
  else .ok .new

/-- Listens on an address, for the name server or the control interface. -/
def listen (address : Socket) (fault : Socket → Text → StartFault) : Launch StartFault Unit := do
  let m ← get
  match m.refusal m.taken address with
  | some cause => throw (fault address cause)
  | none => pure ()

/-- Opens everything that the gateway offers on its interface. Datagrams and connections do not take
each other's addresses. -/
def openServices (s : Settings) (pool : Subnet) : Launch StartFault Gateway := do
  writeRootCertificate s
  let nameServer ← Launch.orFault (s.dns.bindSocket (.v4 pool.reserved)) .complaint
  let _ ← Launch.orFault s.dns.forwarderSocket .complaint
  listen nameServer .nameServer
  let registry ← publishControl s pool nameServer
  let authority ← Launch.orFault (controlCertificate s) .fault
  let control := Socket.ofIpv4 pool.reserved s.server.controlPort
  listen control .control
  modify fun m => { m with taken := m.taken ++ [control] }
  pure ⟨s, registry, authority, nameServer, control⟩

def clear (s : Settings) (m : Machine) : Machine :=
  let m := (m.ask (family s) (.destroy s.server.interface)).2
  s.server.pidFile.elim m m.discard

def start (path : Text) : Launch StartFault Gateway := do
  let s ← Launch.orFault (loadSettings (← get) path) .settings
  claimPidFile s
  let pool ← Launch.orFault s.server.pool .complaint
  makeInterface s pool.reserved
  tryCatch (openServices s pool) fun f => do
    modify (clear s)
    throw f

/-! ## Running and stopping -/

def answer (g : Gateway) (m : Machine) (now : Time) (request : Http.Request) :
    Http.Response × Gateway × Machine :=
  let a := Control.handle g.registry (conditions m g.settings g.nameServer) now request
  (a.response, { g with registry := a.after }, carryOutAll g.settings g.nameServer m a.calls)

/-- Stops a gateway: its endpoints go, then its interface and its PID file. -/
def stop (g : Gateway) (m : Machine) : Machine :=
  let sweep := g.registry.closeAll (conditions m g.settings g.nameServer)
  let m := carryOutAll g.settings g.nameServer m sweep.calls
  clear g.settings { m with taken := m.taken.erase g.control }

end Gateway
end Gatehouse
