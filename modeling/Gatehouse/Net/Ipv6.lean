import Gatehouse.Net.Ipv4

/-!
IPv6 addresses: eight groups of sixteen bits, with the compressed text of RFC 5952.
-/

namespace Gatehouse.Net

/-- An IPv6 address, as its eight groups. -/
structure Ipv6 where
  groups : List Nat
  length_eq : groups.length = 8
  deriving DecidableEq

namespace Ipv6

/-! ## Reading -/

def group? (t : Text) : Option Nat :=
  if t ≠ [] ∧ t.length ≤ 4 then
    (t.mapM Text.hexDigit?).map fun ds => ds.foldl (fun n d => n * 16 + d) 0
  else none

/-- The groups of one side of an address, where a dotted address may stand for the last two. -/
def side? (dottedEnd : Bool) (t : Text) : Option (List Nat) :=
  if t = [] then some []
  else
    let pieces := Text.split ':' t
    match pieces.getLast?, dottedEnd && pieces.any (·.contains '.') with
    | some last, true => do
      let head ← pieces.dropLast.mapM group?
      let ip ← Ipv4.parse? last
      pure (head ++ [ip.toNat / 0x10000, ip.toNat % 0x10000])
    | _, _ => pieces.mapM group?

def ofGroups? (groups : List Nat) : Option Ipv6 :=
  if h : groups.length = 8 then some ⟨groups, h⟩ else none

/-- The address that a text spells: eight groups, or fewer with one `::` that stands for at least one
group of zeros. -/
def parse? (t : Text) : Option Ipv6 :=
  match Text.cutAround "::" t with
  | none => (side? true t).bind fun groups => if t = [] then none else ofGroups? groups
  | some (front, back) => do
    let front ← side? false front
    let back ← side? true back
    if front.length + back.length ≤ 7 then
      ofGroups? (front ++ List.replicate (8 - front.length - back.length) 0 ++ back)
    else none

/-! ## Printing -/

def renderGroup (g : Nat) : Text := Nat.toDigits 16 g

def zeroRun (groups : List Nat) : Nat := (groups.takeWhile (· == 0)).length

/-- Start and length of the longest run of zeros, the first of several equally long ones. -/
def longestZeros : Nat → List Nat → Nat × Nat
  | _, [] => (0, 0)
  | at_, g :: rest =>
    let here := zeroRun (g :: rest)
    let later := longestZeros (at_ + 1) rest
    if here ≥ later.2 then (at_, here) else later

def renderGroups (groups : List Nat) : Text := Text.join ":" (groups.map renderGroup)

/-- The text of an address: the longest run of two or more zero groups is written `::`, and an
address that carries an IPv4 address shows it in dotted form. -/
def render (ip : Ipv6) : Text :=
  match ip.groups with
  | [0, 0, 0, 0, 0, 0xFFFF, hi, lo] => "::ffff:" ++ (Ipv4.ofNat (hi * 0x10000 + lo)).render
  | groups =>
    let run := longestZeros 0 groups
    if run.2 ≥ 2 then
      renderGroups (groups.take run.1) ++ "::" ++ renderGroups (groups.drop (run.1 + run.2))
    else renderGroups groups

end Ipv6
end Gatehouse.Net
