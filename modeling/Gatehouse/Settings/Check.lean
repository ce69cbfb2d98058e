import Gatehouse.Net.Subnet
import Gatehouse.Settings.Decode
import Gatehouse.Text.Utf8

/-!
Settings that come from a document and from the environment, the values that the programs derive from
them, and the checks that they must pass before a program starts.
-/

namespace Gatehouse.Settings

open Net

/-- What is wrong with settings. -/
inductive Complaint where
  | subnet (text detail : Text)
  | noAddresses (subnet : Text)
  | domain (domain : Text)
  | interface
  | lease (seconds : Nat)
  | reapInterval (seconds lease : Nat)
  | forwarder (text : Text)
  | dnsBind (text : Text)
  | serviceKey (key : Text)
  | instanceId (key : Text)
  | balancerBind (text : Text)
  | certificatePair (bind : Text)
  deriving DecidableEq

def maxLease : Nat := 365 * 24 * 60 * 60

def Complaint.message : Complaint → Text
  | subnet text detail => "Invalid subnet '" ++ text ++ "': " ++ detail
  | noAddresses text => "Subnet " ++ text ++ " leaves no addresses for endpoints"
  | domain text => "Domain '" ++ text ++ "' must be a single label (e.g. \"convox\")"
  | interface => "Interface name must not be empty"
  | lease seconds =>
    "lease_secs (" ++ Text.ofNat seconds ++ ") must be between 1 and " ++ Text.ofNat maxLease
  | reapInterval seconds leased =>
    "reap_interval_secs (" ++ Text.ofNat seconds ++
      ") must be non-zero and smaller than lease_secs (" ++ Text.ofNat leased ++ ")"
  | forwarder text => "Invalid DNS upstream '" ++ text ++ "': " ++ Socket.syntaxComplaint
  | dnsBind text => "Invalid DNS bind address '" ++ text ++ "': invalid IP address syntax"
  | serviceKey key => "Locator service '" ++ key ++ "' must be written as app/service"
  | instanceId key => "Locator service '" ++ key ++ "' has an instance without an id"
  | balancerBind text => "Invalid balancer bind '" ++ text ++ "': " ++ Socket.syntaxComplaint
  | certificatePair bind => "Balancer listener " ++ bind ++ " needs both tls_cert and tls_key"

/-! ## Derived values -/

def Server.pool (s : Server) : Except Complaint Subnet :=
  match Subnet.parse s.subnet with
  | .ok subnet => .ok subnet
  | .error detail => .error (.subnet s.subnet detail)

/-- The name under which the control interface is published. -/
def Server.controlName (s : Server) : Text := s.controlHost.getD ("api." ++ s.domain)

def Dns.forwarderSocket (d : Dns) : Except Complaint Socket :=
  match Socket.parse? d.forwarder with
  | some socket => .ok socket
  | none => .error (.forwarder d.forwarder)

/-- Where the name server listens: at the reserved address unless an address is set. -/
def Dns.bindSocket (d : Dns) (reserved : Ip) : Except Complaint Socket :=
  match d.bind with
  | none => .ok ⟨reserved, d.port, 0⟩
  | some text =>
    match Ip.parse? text with
    | some ip => .ok ⟨ip, d.port, 0⟩
    | none => .error (.dnsBind text)

def Listener.bindSocket (l : Listener) : Except Complaint Socket :=
  match Socket.parse? l.bind with
  | some socket => .ok socket
  | none => .error (.balancerBind l.bind)

/-! ## Environment -/

def fromEnvironment? (env : List (Text × Text)) (name : Text) : Option Text :=
  (env.lookup name).filter (· ≠ [])

/-- The settings with the interface, subnet and domain that the environment sets. -/
def withEnvironment (s : Settings) (env : List (Text × Text)) : Settings :=
  { s with server := { s.server with
      interface := (fromEnvironment? env "VIPGATE_INTERFACE").getD s.server.interface
      subnet := (fromEnvironment? env "VIPGATE_SUBNET").getD s.server.subnet
      domain := (fromEnvironment? env "VIPGATE_DOMAIN").getD s.server.domain } }

/-! ## Checks -/

def require (condition : Bool) (complaint : Complaint) : Except Complaint Unit :=
  if condition then .ok () else .error complaint

def Server.check (s : Server) : Except Complaint Unit := do
  let pool ← s.pool
  require (pool.capacity ≠ 0) (.noAddresses s.subnet)
  let label := Text.trimBoth (· == '.') s.domain
  require (label ≠ [] && !label.contains '.') (.domain s.domain)
  require (s.interface ≠ []) .interface
  require (s.leaseSeconds ≠ 0 && s.leaseSeconds ≤ maxLease) (.lease s.leaseSeconds)
  require (s.reapSeconds ≠ 0 && s.reapSeconds < s.leaseSeconds)
    (.reapInterval s.reapSeconds s.leaseSeconds)

/-- Checks a service of the locator: its key has two parts, and its instances have ids. -/
def checkService (service : Text × List Instance) : Except Complaint Unit := do
  require ((Text.split '/' service.1).length = 2) (.serviceKey service.1)
  require (service.2.all (·.id ≠ [])) (.instanceId service.1)

def Listener.check (l : Listener) : Except Complaint Unit := do
  let _ ← l.bindSocket
  require (l.certificateFile.isSome == l.keyFile.isSome) (.certificatePair l.bind)

/-- Checks all settings, in this order: gateway, name server, services, balancer. -/
def check (s : Settings) : Except Complaint Unit := do
  s.server.check
  let _ ← s.dns.forwarderSocket
  s.services.forM checkService
  s.listeners.forM Listener.check

/-! ## Loading -/

/-- Why settings cannot be loaded. -/
inductive LoadFault where
  /-- The document could not be read. -/
  | file (detail : Text)
  /-- The document is no TOML, or spells no settings. -/
  | document
  | complaint (c : Complaint)

/-- The wording of a fault; that a document cannot be read is said without its details. -/
def LoadFault.message : LoadFault → Text
  | file detail => detail
  | document => "TOML parse error"
  | complaint c => c.message

/-- What reading a file gave: its bytes, or what the system said. -/
abbrev FileText := Except Text Bytes

/-- Settings with what the environment sets, if they pass the checks. -/
def completed (s : Settings) (env : List (Text × Text)) : Except LoadFault Settings :=
  let s := s.withEnvironment env
  match s.check with
  | .error c => .error (.complaint c)
  | .ok () => .ok s

/-- The settings of a document file and an environment, if they pass the checks. -/
def load (file : FileText) (env : List (Text × Text)) : Except LoadFault Settings :=
  match file with
  | .error detail => .error (.file detail)
  | .ok bytes =>
    match Text.ofUtf8? bytes with
    | none => .error (.file "stream did not contain valid UTF-8")
    | some document =>
      match read? document with
      | none => .error .document
      | some settings => settings.completed env

end Gatehouse.Settings
