import Gatehouse.Tls.Sha512

/-!
The curve `y² - x² = 1 + d x² y²` over the field of `2²⁵⁵ - 19` elements, with the public keys of its private
ones (RFC 8032).
-/

namespace Gatehouse.Tls.Edwards

def prime : Nat := 0x7fffffffffffffffffffffffffffffffffffffffffffffffffffffffffffffed

def factor : Nat := minusMod prime 0 (121665 * inverseMod prime 121666)

def base : Nat × Nat :=
  (0x216936d3cd6e53fec0a4e231fdd6dc5c692cc7609525a7b2c9562d608f25d51a,
    0x6666666666666666666666666666666666666666666666666666666666666658)

/-- The sum of two points. -/
def add (p q : Nat × Nat) : Nat × Nat :=
  let cross := factor * (p.1 * q.1 % prime) % prime * (p.2 * q.2 % prime) % prime
  let x := (p.1 * q.2 + p.2 * q.1) * inverseMod prime (1 + cross)
  let y := (p.2 * q.2 + p.1 * q.1) * inverseMod prime (minusMod prime 1 cross)
  (x % prime, y % prime)

/-- A point as bytes: `y` with the low byte first, and whether `x` is odd in the highest bit. -/
def encoded (p : Nat × Nat) : Bytes := (bigEndian 32 (p.2 + (p.1 % 2) <<< 255)).reverse

/-- The number that a seed of 32 bytes stands for: the front half of its hash, the low byte first, with
some bits set: the highest two are 0 and 1, the lowest three are 0. -/
def secret (seed : Bytes) : Nat :=
  let n := number ((Sha512.hash seed).take 32).reverse
  (n % (1 <<< 254)) / 8 * 8 + 1 <<< 254

def publicKey (seed : Bytes) : Bytes := encoded (repeated add (0, 1) base (secret seed))

end Gatehouse.Tls.Edwards
