import Gatehouse.Net.Ipv4
import Gatehouse.Settings.Basic

/-!
The virtual interface that holds the addresses of the endpoints: what can be asked of it, and the commands
that do it. Each family of systems has its own command; a step that fails halfway is followed by one that
takes the half-made interface away again. What the commands make of the interface is left to the host.
-/

namespace Gatehouse.Interface

open Net

/-- A family of systems, by the command that manages their interfaces. -/
inductive Family where
  /-- Systems with `ip`. -/
  | linux
  /-- Systems with `ifconfig`. -/
  | darwin
  /-- The interface is not managed at all. -/
  | unmanaged
  deriving DecidableEq

def Family.ofDriver : InterfaceDriver → Family
  | .auto => linux
  | .linux => linux
  | .darwin => darwin
  | .none => unmanaged

/-- What is asked of an interface. -/
inductive Request where
  /-- Create it with a first address and bring it up. -/
  | create (name : Text) (base : Ipv4)
  /-- Remove it with its addresses. -/
  | destroy (name : Text)
  | addAlias (name : Text) (ip : Ipv4)
  | removeAlias (name : Text) (ip : Ipv4)

/-! ## Commands -/

/-- A command, by what it does. -/
inductive Command where
  /-- `ip link add`: a link without addresses. -/
  | linkAdd (name : Text)
  /-- `ip link set .. up`. -/
  | linkUp (name : Text)
  /-- `ip link del`: the link goes with its addresses. -/
  | linkDelete (name : Text)
  /-- `ip addr add`. -/
  | addressAdd (name : Text) (ip : Ipv4)
  /-- `ip addr del`. -/
  | addressDelete (name : Text) (ip : Ipv4)
  /-- `ifconfig .. create`: an interface without addresses. -/
  | create (name : Text)
  /-- `ifconfig .. inet .. up`: a first address. -/
  | assign (name : Text) (ip : Ipv4)
  /-- `ifconfig .. destroy`: the interface goes with its addresses. -/
  | destroy (name : Text)
  /-- `ifconfig .. alias`. -/
  | bind (name : Text) (ip : Ipv4)
  /-- `ifconfig .. -alias`. -/
  | unbind (name : Text) (ip : Ipv4)
  deriving DecidableEq

def hostMask : Text := "255.255.255.255"

def hostCidr (ip : Ipv4) : Text := ip.render ++ "/32"

def Command.program : Command → Text
  | linkAdd _ => "ip"
  | linkUp _ => "ip"
  | linkDelete _ => "ip"
  | addressAdd _ _ => "ip"
  | addressDelete _ _ => "ip"
  | create _ => "ifconfig"
  | assign _ _ => "ifconfig"
  | destroy _ => "ifconfig"
  | bind _ _ => "ifconfig"
  | unbind _ _ => "ifconfig"

def Command.arguments : Command → List Text
  | linkAdd name => ["link", "add", name, "type", "dummy"]
  | linkUp name => ["link", "set", name, "up"]
  | linkDelete name => ["link", "del", name]
  | addressAdd name ip => ["addr", "add", hostCidr ip, "dev", name]
  | addressDelete name ip => ["addr", "del", hostCidr ip, "dev", name]
  | create name => [name, "create"]
  | assign name ip => [name, "inet", ip.render, "netmask", hostMask, "up"]
  | destroy name => [name, "destroy"]
  | bind name ip => [name, "alias", ip.render, hostMask]
  | unbind name ip => [name, "-alias", ip.render]

/-! ## Plans -/

/-- A command, with the one that is run after it if it fails. -/
structure Stage where
  command : Command
  onFailure : Option Command

def isLoopback (name : Text) : Bool := ("lo" : Text).isPrefixOf name

def plan : Family → Request → List Stage
  | .linux, .create name base =>
    [⟨.linkAdd name, none⟩, ⟨.addressAdd name base, some (.linkDelete name)⟩,
     ⟨.linkUp name, some (.linkDelete name)⟩]
  | .linux, .destroy name => [⟨.linkDelete name, none⟩]
  | .linux, .addAlias name ip => [⟨.addressAdd name ip, none⟩]
  | .linux, .removeAlias name ip => [⟨.addressDelete name ip, none⟩]
  | .darwin, .create name base =>
    if isLoopback name then [⟨.bind name base, none⟩]
    else [⟨.create name, none⟩, ⟨.assign name base, some (.destroy name)⟩]
  | .darwin, .destroy name => if isLoopback name then [] else [⟨.destroy name, none⟩]
  | .darwin, .addAlias name ip => [⟨.bind name ip, none⟩]
  | .darwin, .removeAlias name ip => [⟨.unbind name ip, none⟩]
  | .unmanaged, _ => []

end Gatehouse.Interface
