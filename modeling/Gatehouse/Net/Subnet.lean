import Gatehouse.Net.Ipv4
import Gatehouse.Text.Blank

/-!
Subnets in CIDR notation and the pool of addresses that endpoints are given from one. The network and
broadcast addresses are never given out, and the first address after the network address is kept for
the gateway itself.
-/

namespace Gatehouse.Net

/-- A block of 2^(32 - prefix) addresses that starts at a multiple of its size. -/
structure Subnet where
  base : Nat
  prefixLength : Nat
  prefix_le : prefixLength ≤ 32
  base_lt : base < 0x100000000
  aligned : base % Nat.pow 2 (32 - prefixLength) = 0

namespace Subnet

/-- The subnet of this prefix length that holds the address. -/
def around (ip : Ipv4) (prefixLength : Nat) (h : prefixLength ≤ 32) : Subnet where
  base := ip.toNat - ip.toNat % Nat.pow 2 (32 - prefixLength)
  prefixLength := prefixLength
  prefix_le := h
  base_lt := Nat.lt_of_le_of_lt (Nat.sub_le _ _) ip.lt_size
  aligned := Nat.sub_mod_eq_zero_of_mod_eq (Nat.mod_mod _ _).symm

def size (s : Subnet) : Nat := Nat.pow 2 (32 - s.prefixLength)

def network (s : Subnet) : Ipv4 := .ofNat s.base

def broadcast (s : Subnet) : Ipv4 := .ofNat (s.base + s.size - 1)

/-- The address kept for the gateway itself: the first after the network address, or the network
address where the block is too small to have others. -/
def reserved (s : Subnet) : Ipv4 :=
  if s.prefixLength ≥ 31 then .ofNat s.base else .ofNat (s.base + 1)

/-- The number of addresses for endpoints. A block of at most two addresses has none, nor has the block of all
addresses, whose size is beyond the 32 bits that it is counted in. -/
def capacity (s : Subnet) : Nat := if 1 ≤ s.prefixLength ∧ s.prefixLength ≤ 30 then s.size - 3 else 0

def Contains (s : Subnet) (ip : Ipv4) : Prop := s.base ≤ ip.toNat ∧ ip.toNat < s.base + s.size

instance (s : Subnet) (ip : Ipv4) : Decidable (s.Contains ip) := inferInstanceAs (Decidable (_ ∧ _))

/-- The lowest of the `count` addresses from `start` on that is not in use. An address that is passed does not
come again, so what is in use in order is gone through once. -/
def firstFree (inUse : List Ipv4) (start : Nat) : Nat → Option Ipv4
  | 0 => none
  | count + 1 =>
    let ip := Ipv4.ofNat start
    if ip ∈ inUse then firstFree (inUse.erase ip) (start + 1) count else some ip

/-- The lowest address after the reserved one that is not in use. -/
def allocate (s : Subnet) (inUse : List Ipv4) : Option Ipv4 :=
  firstFree inUse (s.base + 2) s.capacity

/-! ## Text -/

def prefixLength? (t : Text) : Option Nat :=
  if t.length ≤ 2 then (Text.decimal? t).filter (· ≤ 32) else none

/-- The subnet that an address and a prefix length spell. -/
def read? (t : Text) : Option Subnet := do
  let (address, length) ← Text.cutFirst '/' t
  let ip ← Ipv4.read? true address
  let n ← prefixLength? length
  if h : n ≤ 32 then some (around ip n h) else none

/-- The subnet of a text in CIDR notation, or what is wrong with the text. -/
def parse (t : Text) : Except Text Subnet :=
  match read? (Text.trim t) with
  | some s => .ok s
  | none => .error ("bad subnet '" ++ Text.trim t ++ "': invalid IP address syntax")

def render (s : Subnet) : Text := s.network.render ++ "/" ++ Text.ofNat s.prefixLength

end Subnet
end Gatehouse.Net
