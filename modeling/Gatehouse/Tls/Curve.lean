import Gatehouse.Tls.Der

/-!
Curves of the form `y² = x³ - 3x + b` over a prime field, with the points that a private key leads to: the
base point, as many times as the key says. Two curves are in use, of 256 and of 384 bits.
-/

namespace Gatehouse.Tls

/-- A curve. Its `b` does not matter for adding points. -/
structure Curve where
  /-- The size of the field. -/
  prime : Nat
  /-- How many multiples the base point has. -/
  order : Nat
  /-- The coordinates of the base point. -/
  base : Nat × Nat
  /-- The bytes of a coordinate and of a private key. -/
  width : Nat
  /-- The identifier of the curve, as an element. -/
  identifier : Bytes

namespace Curve

/-- A point: none but the one at infinity is without coordinates. -/
abbrev Point := Option (Nat × Nat)

/-- The third point on the line through two points with this slope, mirrored. -/
def mirrored (c : Curve) (slope x y x' : Nat) : Point :=
  let third := minusMod c.prime (slope * slope) (x + x')
  some (third, minusMod c.prime (slope * minusMod c.prime x third) y)

/-- The sum of two points. -/
def add (c : Curve) : Point → Point → Point
  | none, p => p
  | p, none => p
  | some (x, y), some (x', y') =>
    if x ≠ x' then
      let slope := minusMod c.prime y' y * inverseMod c.prime (minusMod c.prime x' x) % c.prime
      c.mirrored slope x y x'
    else if y = y' ∧ y ≠ 0 then
      let slope := 3 * minusMod c.prime (x * x) 1 * inverseMod c.prime (2 * y) % c.prime
      c.mirrored slope x y x
    else none

def multiple (c : Curve) (n : Nat) : Point := repeated c.add none (some c.base) n

/-- Both coordinates of a point behind a mark that says so; no point is at infinity here. -/
def encoded (c : Curve) : Point → Bytes
  | none => [0]
  | some (x, y) => 4 :: (bigEndian c.width x ++ bigEndian c.width y)

def publicKey (c : Curve) (secret : Nat) : Bytes := c.encoded (c.multiple secret)

def bits256 : Curve where
  prime := 0xffffffff00000001000000000000000000000000ffffffffffffffffffffffff
  order := 0xffffffff00000000ffffffffffffffffbce6faada7179e84f3b9cac2fc632551
  base :=
    (0x6b17d1f2e12c4247f8bce6e563a440f277037d812deb33a0f4a13945d898c296,
      0x4fe342e2fe1a7f9b8ee7eb4a7c0f9e162bce33576b315ececbb6406837bf51f5)
  width := 32
  identifier := Der.element Der.identifierTag [0x2a, 0x86, 0x48, 0xce, 0x3d, 0x03, 0x01, 0x07]

def bits384 : Curve where
  prime := 0xfffffffffffffffffffffffffffffffffffffffffffffffffffffffffffffffeffffffff0000000000000000ffffffff
  order := 0xffffffffffffffffffffffffffffffffffffffffffffffffc7634d81f4372ddf581a0db248b0a77aecec196accc52973
  base :=
    (0xaa87ca22be8b05378eb1c71ef320ad746e1d3b628ba79b9859f741e082542a385502f25dbf55296c3a545e3872760ab7,
      0x3617de4a96262c6f5d9e98bf9292dc29f8f41dbd289a147ce9da3113b5f0b8c00a60b1ce1d7e819d7a431d7c90ea0e5f)
  width := 48
  identifier := Der.element Der.identifierTag [0x2b, 0x81, 0x04, 0x00, 0x22]

end Curve
end Gatehouse.Tls
