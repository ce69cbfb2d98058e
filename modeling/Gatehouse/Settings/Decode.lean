import Gatehouse.Settings.Basic
import Gatehouse.Toml.Document

/-!
Settings from a TOML document. A record may be written as a table, in which unknown keys are ignored, or
as an array of its fields in order.
-/

namespace Gatehouse.Settings

open Toml

/-! ## Values -/

def text? : Value → Option Text
  | .text t => some t
  | _ => none

def boolean? : Value → Option Bool
  | .boolean b => some b
  | _ => none

/-- The natural number of a value, if it fits into so many bits. -/
def natural? (bits : Nat) : Value → Option Nat
  | .integer n => if 0 ≤ n ∧ n.toNat < Nat.pow 2 bits then some n.toNat else none
  | _ => none

def items? : Value → Option (List Value)
  | .array items => some items
  | .tables items => some items
  | _ => none

def isEmpty : Value → Bool
  | .array items => items.isEmpty
  | .tables items => items.isEmpty
  | .table _ members => members.isEmpty
  | _ => false

/-- The name of a choice: a text, or the only key of a table whose value is empty. -/
def choiceName? : Value → Option Text
  | .text t => some t
  | .table _ [(name, value)] => if isEmpty value then some name else none
  | _ => none

def choice? {α : Type} (choices : List (Text × α)) (value : Value) : Option α :=
  (choiceName? value).bind fun name => choices.lookup name

/-- The address of a value. -/
def ip? (value : Value) : Option Net.Ip := (text? value).bind Net.Ip.parse?

/-! ## Records -/

/-- A record as it is written. -/
inductive Written where
  /-- By the names of its fields. -/
  | named (members : Members)
  /-- By the place of its fields. -/
  | placed (items : List Value)

/-- A record that a value spells; a date counts as a table without fields. -/
def written? : Value → Option Written
  | .table _ members => some (.named members)
  | .array items => some (.placed items)
  | .tables items => some (.placed items)
  | .date => some (.named [])
  | _ => none

def Written.field? (w : Written) (place : Nat) (name : Text) : Option Value :=
  match w with
  | .named members => members.lookup name
  | .placed items => items[place]?

def Written.required {α : Type} (w : Written) (read : Value → Option α) (place : Nat) (name : Text) :
    Option α :=
  (w.field? place name).bind read

/-- A field that has a value of its own where it is left out. -/
def Written.orElse {α : Type} (w : Written) (default : α) (read : Value → Option α) (place : Nat)
    (name : Text) : Option α :=
  match w.field? place name with
  | none => some default
  | some value => read value

/-- A field that may be left out where fields have names. -/
def Written.optional {α : Type} (w : Written) (read : Value → Option α) (place : Nat) (name : Text) :
    Option (Option α) :=
  match w.field? place name, w with
  | some value, _ => (read value).map some
  | none, .named _ => some none
  | none, .placed _ => none

/-! ## Settings -/

def driverNames : List (Text × InterfaceDriver) :=
  [("auto", .auto), ("linux", .linux), ("darwin", .darwin), ("none", .none)]

def resolverNames : List (Text × SystemResolverKind) :=
  [("auto", .auto), ("resolver-dir", .resolverDirectory), ("dnsmasq", .dnsmasq), ("none", .none)]

def modeNames : List (Text × BalancerMode) := [("redirect", .redirect), ("proxy", .proxy)]

def server? (value : Value) : Option Server := do
  let w ← written? value
  let d : Server := {}
  let interface ← w.orElse d.interface text? 0 "interface"
  let driver ← w.orElse d.driver (choice? driverNames) 1 "interface_driver"
  let subnet ← w.orElse d.subnet text? 2 "subnet"
  let domain ← w.orElse d.domain text? 3 "domain"
  let controlHost ← w.optional text? 4 "api_hostname"
  let controlPort ← w.orElse d.controlPort (natural? 16) 5 "api_port"
  let controlTls ← w.orElse d.controlTls boolean? 6 "api_tls"
  let leaseSeconds ← w.orElse d.leaseSeconds (natural? 64) 7 "lease_secs"
  let reapSeconds ← w.orElse d.reapSeconds (natural? 64) 8 "reap_interval_secs"
  let rootCertificateFile ← w.optional text? 9 "ca_cert_file"
  let pidFile ← w.optional text? 10 "pid_file"
  pure ⟨interface, driver, subnet, domain, controlHost, controlPort, controlTls, leaseSeconds,
    reapSeconds, rootCertificateFile, pidFile⟩

def dns? (value : Value) : Option Dns := do
  let w ← written? value
  let d : Dns := {}
  let bind ← w.optional text? 0 "bind"
  let port ← w.orElse d.port (natural? 16) 1 "port"
  let forwarder ← w.orElse d.forwarder text? 2 "upstream"
  let forwarderMillis ← w.orElse d.forwarderMillis (natural? 64) 3 "upstream_timeout_ms"
  let ttl ← w.orElse d.ttl (natural? 32) 4 "ttl_secs"
  let systemResolver ← w.orElse d.systemResolver (choice? resolverNames) 5 "system_resolver"
  let resolverDirectory ← w.orElse d.resolverDirectory text? 6 "resolver_dir"
  let dnsmasqDirectory ← w.orElse d.dnsmasqDirectory text? 7 "dnsmasq_dir"
  let texts? : Value → Option (List Text) := fun v => (items? v).bind (·.mapM text?)
  let dnsmasqReload ← w.orElse d.dnsmasqReload texts? 8 "dnsmasq_reload"
  pure ⟨bind, port, forwarder, forwarderMillis, ttl, systemResolver, resolverDirectory,
    dnsmasqDirectory, dnsmasqReload⟩

def proxy? (value : Value) : Option Proxy := do
  let w ← written? value
  let d : Proxy := {}
  let handshake ← w.orElse d.handshake (natural? 64) 0 "handshake_timeout_secs"
  let connect ← w.orElse d.connect (natural? 64) 1 "connect_timeout_secs"
  let idle ← w.orElse d.idle (natural? 64) 2 "idle_timeout_secs"
  let stop ← w.orElse d.stop (natural? 64) 3 "stop_timeout_secs"
  pure ⟨handshake, connect, idle, stop⟩

def instance? (value : Value) : Option Instance := do
  let w ← written? value
  let id ← w.required text? 0 "id"
  let ip ← w.optional ip? 1 "ip"
  pure ⟨id, ip⟩

def services? : Value → Option (List (Text × List Instance))
  | .table _ members => members.mapM fun m => do
    let items ← items? m.2
    let instances ← items.mapM instance?
    pure (m.1, instances)
  | _ => none

def locator? (value : Value) : Option (List (Text × List Instance)) := do
  let w ← written? value
  w.orElse [] services? 0 "services"

def listener? (value : Value) : Option Listener := do
  let w ← written? value
  let bind ← w.required text? 0 "bind"
  let scheme ← w.orElse ("http" : Text) text? 1 "scheme"
  let mode ← w.orElse .proxy (choice? modeNames) 2 "mode"
  let target ← w.required text? 3 "target"
  let hostname ← w.orElse ("localhost" : Text) text? 4 "hostname"
  let certificateFile ← w.optional text? 5 "tls_cert"
  let keyFile ← w.optional text? 6 "tls_key"
  pure ⟨bind, scheme, mode, target, hostname, certificateFile, keyFile⟩

def balancer? (value : Value) : Option (List Listener) := do
  let w ← written? value
  w.orElse [] (fun v => (items? v).bind (·.mapM listener?)) 0 "listeners"

def ofMembers? (members : Members) : Option Settings := do
  let w : Written := .named members
  let server ← w.orElse {} server? 0 "server"
  let dns ← w.orElse {} dns? 1 "dns"
  let proxy ← w.orElse {} proxy? 2 "proxy"
  let services ← w.orElse [] locator? 3 "locator"
  let listeners ← w.orElse [] balancer? 4 "balancer"
  pure ⟨server, dns, proxy, services, listeners⟩

def read? (document : Text) : Option Settings := (Toml.parse document).bind ofMembers?

end Gatehouse.Settings
