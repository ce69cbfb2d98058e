import Gatehouse.Text.Basic

/-!
Numbers as keys hold them: bytes with the high one first, and powers and inverses modulo a number, found in
as many steps as the exponent has bits.
-/

namespace Gatehouse.Tls

/-! ## Bytes -/

def number (b : Bytes) : Nat := b.foldl (fun n d => 256 * n + d.toNat) 0

/-- A number in a fixed count of bytes, the high one first. -/
def bigEndian : Nat → Nat → Bytes
  | 0, _ => []
  | width + 1, n => bigEndian width (n / 256) ++ [UInt8.ofNat n]

def bitLength (n : Nat) : Nat := if n = 0 then 0 else n.log2 + 1

def byteWidth (n : Nat) : Nat := (bitLength n + 7) / 8

/-! ## Repetition -/

/-- What `n` times the same value gives under an associative operation with a unit. -/
def repeated {α : Type} (op : α → α → α) (unit value : α) : Nat → α
  | 0 => unit
  | n + 1 =>
    let half := repeated op unit value ((n + 1) / 2)
    let even := op half half
    if (n + 1) % 2 = 0 then even else op even value
termination_by n => n
decreasing_by omega

/-! ## Modular arithmetic -/

def minusMod (m a b : Nat) : Nat := (a + (m - b % m)) % m

def powerMod (m base exponent : Nat) : Nat := repeated (fun a b => a * b % m) (1 % m) (base % m) exponent

/-- What gives one modulo a prime when multiplied by `a`, which is no multiple of the prime. -/
def inverseMod (prime a : Nat) : Nat := powerMod prime a (prime - 2)

end Gatehouse.Tls
