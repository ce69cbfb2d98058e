import Gatehouse.Net.Ipv6

/-!
Socket addresses: an IP address of either family with a port, and their text.
-/

namespace Gatehouse.Net

/-- An IP address of either family. -/
inductive Ip where
  | v4 (ip : Ipv4)
  | v6 (ip : Ipv6)
  deriving DecidableEq

namespace Ip

def render : Ip → Text
  | v4 ip => ip.render
  | v6 ip => ip.render

def parse? (t : Text) : Option Ip :=
  match Ipv4.parse? t with
  | some ip => some (v4 ip)
  | none => (Ipv6.parse? t).map v6

end Ip

/-- An address with a port; the scope belongs to IPv6 only and is zero where none is meant. -/
structure Socket where
  ip : Ip
  port : Nat
  scope : Nat
  deriving DecidableEq

namespace Socket

def ofIpv4 (ip : Ipv4) (port : Nat) : Socket := ⟨.v4 ip, port, 0⟩

/-- A port: one or more digits, up to 65535. Leading zeros are allowed, a sign is not. -/
def port? (t : Text) : Option Nat := (Text.decimal? t).filter (· < 0x10000)

/-- The text of a socket address; an IPv6 address stands in brackets, with its scope if it has one. -/
def render (s : Socket) : Text :=
  match s.ip with
  | .v4 ip => ip.render ++ ":" ++ Text.ofNat s.port
  | .v6 ip =>
    let scope : Text := if s.scope = 0 then [] else "%" ++ Text.ofNat s.scope
    "[" ++ ip.render ++ scope ++ "]:" ++ Text.ofNat s.port

def bracketed? (t : Text) : Option (Ipv6 × Nat) :=
  match Text.cutFirst '%' t with
  | none => (Ipv6.parse? t).map fun ip => (ip, 0)
  | some (address, scope) => do
    let ip ← Ipv6.parse? address
    let n ← (Text.decimal? scope).filter (· < 0x100000000)
    pure (ip, n)

/-- The socket address that a text spells: `a.b.c.d:port` or `[address]:port`. -/
def parse? (t : Text) : Option Socket :=
  match t with
  | '[' :: rest => do
    let (inside, after) ← Text.cutFirst ']' rest
    let (ip, scope) ← bracketed? inside
    match after with
    | ':' :: port => (port? port).map fun p => ⟨.v6 ip, p, scope⟩
    | _ => none
  | _ => do
    let (address, port) ← Text.cutFirst ':' t
    let ip ← Ipv4.parse? address
    (port? port).map fun p => ⟨.v4 ip, p, 0⟩

def syntaxComplaint : Text := "invalid socket address syntax"

end Socket
end Gatehouse.Net
