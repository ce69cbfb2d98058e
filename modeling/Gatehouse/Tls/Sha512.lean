import Gatehouse.Tls.Arithmetic

/-!
The hash of 512 bits (FIPS 180-4). Its constants are bits behind the point of square and cube roots of
primes, and are found from them here.
-/

namespace Gatehouse.Tls.Sha512

/-! ## Constants -/

/-- The greatest number from `found` on, at most `count` bits further, whose image under a growing `f` does not
exceed `limit`: its bits are tried one after the other, the highest first. -/
def rootFrom (f : Nat → Nat) (limit found : Nat) : Nat → Nat
  | 0 => found
  | count + 1 =>
    let next := found + 1 <<< count
    rootFrom f limit (if f next ≤ limit then next else found) count

def isPrime (n : Nat) : Bool := 2 ≤ n && (List.range n).all fun d => d < 2 || n % d != 0

def primes : List Nat := (List.range 410).filter isPrime

/-- The first 64 bits behind the point of the square root of a number below 256. -/
def squareRootBits (n : Nat) : UInt64 := .ofNat (rootFrom (fun r => r * r) (n <<< 128) 0 68)

/-- The first 64 bits behind the point of the cube root of a number below 4096. -/
def cubeRootBits (n : Nat) : UInt64 := .ofNat (rootFrom (fun r => r * r * r) (n <<< 192) 0 68)

def initial : List UInt64 := (primes.take 8).map squareRootBits

def roundConstants : List UInt64 := primes.map cubeRootBits

/-! ## Rounds -/

def turn (w n : UInt64) : UInt64 := (w >>> n) ||| (w <<< (64 - n))

/-- The words for all rounds: sixteen from the block, and each of the others from four of the sixteen before
it, which stand with the latest in front. -/
def schedule (latest : List UInt64) : Nat → List UInt64
  | 0 => []
  | count + 1 =>
    let old (n : Nat) : UInt64 := latest.getD (n - 1) 0
    let near := turn (old 2) 19 ^^^ turn (old 2) 61 ^^^ (old 2 >>> 6)
    let far := turn (old 15) 1 ^^^ turn (old 15) 8 ^^^ (old 15 >>> 7)
    let next := near + old 7 + far + old 16
    next :: schedule (next :: latest.take 15) count

/-- One round, with the sum of its constant and its word. -/
def round (state : List UInt64) (added : UInt64) : List UInt64 :=
  match state with
  | [a, b, c, d, e, f, g, h] =>
    let chosen := (e &&& f) ^^^ (~~~e &&& g)
    let common := (a &&& b) ^^^ (a &&& c) ^^^ (b &&& c)
    let one := h + (turn e 14 ^^^ turn e 18 ^^^ turn e 41) + chosen + added
    let two := (turn a 28 ^^^ turn a 34 ^^^ turn a 39) + common
    [one + two, a, b, c, d + one, e, f, g]
  | _ => state

def words : Bytes → List UInt64
  | a :: b :: c :: d :: e :: f :: g :: h :: rest =>
    .ofNat (number [a, b, c, d, e, f, g, h]) :: words rest
  | _ => []

def block (state front : List UInt64) : List UInt64 :=
  let added := List.zipWith (· + ·) roundConstants (front ++ schedule front.reverse 64)
  List.zipWith (· + ·) state (added.foldl round state)

/-- The state after all words, sixteen at a time; `count` is the number of blocks. -/
def blocks (state : List UInt64) : Nat → List UInt64 → List UInt64
  | 0, _ => state
  | count + 1, ws => blocks (block state (ws.take 16)) count (ws.drop 16)

/-! ## Messages -/

/-- A message with what makes whole blocks of it: a mark, zeros, and the number of its bits. -/
def padded (message : Bytes) : Bytes :=
  let zeros := 127 - (message.length + 16) % 128
  message ++ 0x80 :: List.replicate zeros 0 ++ bigEndian 16 (8 * message.length)

def hash (message : Bytes) : Bytes :=
  let all := padded message
  (blocks initial (all.length / 128) (words all)).flatMap fun w => bigEndian 8 w.toNat

end Gatehouse.Tls.Sha512
