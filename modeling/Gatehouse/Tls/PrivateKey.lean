import Gatehouse.Tls.Curve
import Gatehouse.Tls.Edwards
import Gatehouse.Tls.Pem

/-!
Private keys and the public keys that belong to them. A key is for RSA (RFC 8017), for one of two curves
(RFC 5915) or for Edwards signatures (RFC 8032), and stands alone or is wrapped with the name of its
algorithm (RFC 5958). A key whose parts do not fit together is none.
-/

namespace Gatehouse.Tls.PrivateKey

open Der

/-! ## Algorithms -/

def rsaAlgorithm : Bytes :=
  element identifierTag [0x2a, 0x86, 0x48, 0x86, 0xf7, 0x0d, 0x01, 0x01, 0x01] ++ element nullTag []

def curveAlgorithm (c : Curve) : Bytes :=
  element identifierTag [0x2a, 0x86, 0x48, 0xce, 0x3d, 0x02, 0x01] ++ c.identifier

def edwardsAlgorithm : Bytes := element identifierTag [0x2b, 0x65, 0x70]

/-- A public key with its algorithm, as certificates hold it. -/
def publicInfo (algorithm key : Bytes) : Bytes := element sequenceTag algorithm ++ bitsElement key

/-! ## Wrapping -/

/-- A private key out of its wrapping, with the public key that stands beside it in the later version. -/
structure Wrapped where
  secret : Bytes
  publicKey : Option Bytes

/-- Reads a public key beside a private one: a row of bits that is known by its number, or one within an
element that is. -/
def besideKey : Reader Bytes := fun b =>
  if b.head? = some (numberedOuter 1) then inside (numberedOuter 1) bits b
  else do
    let (content, rest) ← expect (numbered 1) b
    match content with
    | 0 :: key => some (key, rest)
    | _ => none

/-- Reads a wrapped key for an algorithm. Only a key of the later version, where it is allowed, has its public
key beside it. -/
def wrapped (algorithm : Bytes) (allowsLater : Bool) : Reader Wrapped :=
  inside sequenceTag do
    let version ← natural
    let named ← expect sequenceTag
    guard (named = algorithm)
    guard (version = 0 ∨ (version = 1 ∧ allowsLater))
    let secret ← expect octetsTag
    let _attributes ← expectIfNext (numberedOuter 0)
    if version = 0 then pure ⟨secret, none⟩
    else do
      let key ← besideKey
      pure ⟨secret, some key⟩

def secret? (algorithm b : Bytes) : Option Bytes := (whole (wrapped algorithm false) b).map (·.secret)

/-! ## RSA -/

/-- The numbers of an RSA key. -/
structure Rsa where
  modulus : Nat
  publicExponent : Nat
  privateExponent : Nat
  firstPrime : Nat
  secondPrime : Nat
  firstExponent : Nat
  secondExponent : Nat
  coefficient : Nat

def Rsa.read : Reader Rsa :=
  inside sequenceTag do
    let version ← natural
    guard (version = 0)
    pure ⟨← natural, ← natural, ← natural, ← natural, ← natural, ← natural, ← natural, ← natural⟩

/-- Whether a number may be a prime of a modulus of so many bits. -/
def isHalf (modulusBits p : Nat) : Bool :=
  p % 2 == 1 && bitLength p == (modulusBits + 1) / 2 && bitLength p % 512 == 0

def isExponentFor (p e : Nat) : Bool := e % 2 == 1 && e < p

/-- Whether the numbers fit together, and are neither too small nor too large. -/
def Rsa.isSound (k : Rsa) : Bool :=
  let size := bitLength k.modulus
  k.modulus % 2 == 1 && 256 ≤ byteWidth k.modulus && size ≤ 4096 &&
  65537 ≤ k.publicExponent && bitLength k.publicExponent ≤ 33 && k.publicExponent % 2 == 1 &&
  isHalf size k.firstPrime && isHalf size k.secondPrime &&
  k.firstPrime * k.secondPrime % k.modulus == 0 &&
  k.privateExponent % 2 == 1 && k.privateExponent < k.modulus &&
  (size + 1) / 2 < bitLength k.privateExponent &&
  isExponentFor k.firstPrime k.firstExponent && isExponentFor k.secondPrime k.secondExponent &&
  k.coefficient < k.firstPrime && k.coefficient * k.secondPrime % k.firstPrime == 1

def rsaPublic? (b : Bytes) : Option Bytes := do
  let k ← whole Rsa.read b
  guard k.isSound
  pure (publicInfo rsaAlgorithm
    (element sequenceTag (naturalElement k.modulus ++ naturalElement k.publicExponent)))

/-! ## Curves -/

/-- The public key that belongs to a key on a curve. The key may name its curve, and has its public key in
it. -/
def curvePublic? (c : Curve) (b : Bytes) : Option Bytes := do
  let read : Reader (Bytes × Bytes) := inside sequenceTag do
    let version ← natural
    guard (version = 1)
    let secret ← expect octetsTag
    let named ← expectIfNext (numberedOuter 0)
    guard (named.all (· = c.identifier))
    let claimed ← inside (numberedOuter 1) bits
    pure (secret, claimed)
  let (secret, claimed) ← whole read b
  guard (secret.length = c.width ∧ 0 < number secret ∧ number secret < c.order)
  guard (claimed = c.publicKey (number secret))
  pure (publicInfo (curveAlgorithm c) claimed)

/-! ## Edwards signatures -/

/-- The public key that belongs to a wrapped key for Edwards signatures. -/
def edwardsPublic? (b : Bytes) : Option Bytes := do
  let key ← whole (wrapped edwardsAlgorithm true) b
  let seed ← whole (expect octetsTag) key.secret
  guard (seed.length = 32)
  guard (key.publicKey.all (· = Edwards.publicKey seed))
  pure (publicInfo edwardsAlgorithm (Edwards.publicKey seed))

/-! ## Keys of all kinds -/

/-- The public key that belongs to a private key, by the kind of its section. -/
def public? : Pem.Section → Option Bytes
  | ⟨.rsaKey, b⟩ => rsaPublic? b
  | ⟨.curveKey, b⟩ => curvePublic? .bits256 b <|> curvePublic? .bits384 b
  | ⟨.wrappedKey, b⟩ =>
    ((secret? rsaAlgorithm b).bind rsaPublic?) <|>
    ((secret? (curveAlgorithm .bits256) b).bind (curvePublic? .bits256)) <|>
    ((secret? (curveAlgorithm .bits384) b).bind (curvePublic? .bits384)) <|> edwardsPublic? b
  | _ => none

end Gatehouse.Tls.PrivateKey
