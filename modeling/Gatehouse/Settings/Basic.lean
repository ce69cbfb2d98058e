import Gatehouse.Net.Socket

/-!
The settings of the programs, with the values that they have where a document does not say otherwise.
-/

namespace Gatehouse

open Net

/-- Which commands manage the virtual interface. -/
inductive InterfaceDriver where
  /-- Those of the running system. -/
  | auto
  | linux
  | darwin
  /-- None at all. -/
  | none
  deriving DecidableEq

/-- How the host's own resolver is pointed at the gateway's name server. -/
inductive SystemResolverKind where
  /-- As the running system does it. -/
  | auto
  /-- One file per domain in a directory. -/
  | resolverDirectory
  /-- A configuration file and a reload of dnsmasq. -/
  | dnsmasq
  | none
  deriving DecidableEq

/-- What a balancer listener does with a request. -/
inductive BalancerMode where
  | redirect
  | proxy
  deriving DecidableEq

namespace Settings

/-- The gateway itself: its interface, its addresses, its control interface and its leases. -/
structure Server where
  interface : Text := "vip0"
  driver : InterfaceDriver := .auto
  subnet : Text := "10.42.84.0/24"
  domain : Text := "convox"
  controlHost : Option Text := none
  controlPort : Nat := 9477
  controlTls : Bool := true
  leaseSeconds : Nat := 1800
  reapSeconds : Nat := 30
  rootCertificateFile : Option Text := none
  pidFile : Option Text := none

/-- The name server. -/
structure Dns where
  bind : Option Text := none
  port : Nat := 53
  forwarder : Text := "8.8.8.8:53"
  forwarderMillis : Nat := 3000
  ttl : Nat := 5
  systemResolver : SystemResolverKind := .auto
  resolverDirectory : Text := "/etc/resolver"
  dnsmasqDirectory : Text := "/etc/NetworkManager/dnsmasq.d"
  dnsmasqReload : List Text := ["systemctl", "restart", "NetworkManager"]

/-- The time limits of proxied connections, in seconds. -/
structure Proxy where
  handshake : Nat := 10
  connect : Nat := 10
  idle : Nat := 3600
  stop : Nat := 5

/-- A running instance of a service; one without an address is reached through another instance's
tunnel. -/
structure Instance where
  id : Text
  ip : Option Ip
  deriving DecidableEq

/-- One listener of the balancer. -/
structure Listener where
  bind : Text
  scheme : Text := "http"
  mode : BalancerMode := .proxy
  target : Text
  hostname : Text := "localhost"
  certificateFile : Option Text := none
  keyFile : Option Text := none

end Settings

/-- All settings: those of the gateway, and the listeners of the balancer. -/
structure Settings where
  server : Settings.Server := {}
  dns : Settings.Dns := {}
  proxy : Settings.Proxy := {}
  services : List (Text × List Settings.Instance) := []
  listeners : List Settings.Listener := []

def Settings.paths (s : Settings) : List Text :=
  s.server.pidFile.toList ++ s.server.rootCertificateFile.toList ++
    s.listeners.flatMap fun l => l.certificateFile.toList ++ l.keyFile.toList

end Gatehouse
