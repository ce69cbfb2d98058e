import Gatehouse.Text.Basic

/-!
IPv4 addresses: the four octets as one number below 2^32, with the dotted text.
-/

namespace Gatehouse.Net

/-- An IPv4 address, as the number that its four octets spell. -/
structure Ipv4 where
  toNat : Nat
  lt_size : toNat < 0x100000000
  deriving DecidableEq

namespace Ipv4

def ofNat (n : Nat) : Ipv4 := ⟨n % 0x100000000, Nat.mod_lt _ (by decide)⟩

def ofOctets (a b c d : Nat) : Ipv4 := ofNat (((a * 256 + b) * 256 + c) * 256 + d)

instance : Inhabited Ipv4 := ⟨ofNat 0⟩

def octets (ip : Ipv4) : List Nat :=
  [ip.toNat / 0x1000000, ip.toNat / 0x10000 % 256, ip.toNat / 256 % 256, ip.toNat % 256]

def render (ip : Ipv4) : Text := Text.join "." (ip.octets.map Text.ofNat)

/-- One octet in decimal: one to three digits, up to 255. A leading zero is allowed only where `loose`. -/
def octet? (loose : Bool) (t : Text) : Option Nat :=
  if t.length ≤ 3 ∧ (loose ∨ t.length = 1 ∨ t.head? ≠ some '0') then
    (Text.decimal? t).filter (· ≤ 255)
  else none

/-- The address that a dotted text of four octets spells. -/
def read? (loose : Bool) (t : Text) : Option Ipv4 :=
  match (Text.split '.' t).mapM (octet? loose) with
  | some [a, b, c, d] => some (ofOctets a b c d)
  | _ => none

def parse? (t : Text) : Option Ipv4 := read? false t

/-- Addresses are ordered as numbers. -/
instance : LT Ipv4 := ⟨fun a b => a.toNat < b.toNat⟩

instance : LE Ipv4 := ⟨fun a b => a.toNat ≤ b.toNat⟩

instance (a b : Ipv4) : Decidable (a < b) := inferInstanceAs (Decidable (a.toNat < b.toNat))

instance (a b : Ipv4) : Decidable (a ≤ b) := inferInstanceAs (Decidable (a.toNat ≤ b.toNat))

/-- Whether the address is one of 127.0.0.0/8, the host's own. -/
def isLoopback (ip : Ipv4) : Bool := ip.toNat / 0x1000000 == 127

end Ipv4
end Gatehouse.Net
