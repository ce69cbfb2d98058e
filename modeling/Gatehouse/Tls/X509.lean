import Gatehouse.Tls.Der

/-!
Certificates in their third version (RFC 5280), as far as the public key in them needs: what surrounds the key
has to be there in its right form, with extensions that are known or need not be.
-/

namespace Gatehouse.Tls.X509

open Der

/-- Why a certificate is of no use. -/
inductive Fault where
  | encoding
  | version
  | algorithms
  | extensionValue
  | criticalExtension
  deriving DecidableEq

def Fault.message : Fault → Text
  | encoding => "BadEncoding"
  | version => "Other(OtherError(UnsupportedCertVersion))"
  | algorithms => "Other(OtherError(SignatureAlgorithmMismatch))"
  | extensionValue => "Other(OtherError(ExtensionValueInvalid))"
  | criticalExtension => "Other(OtherError(UnsupportedCriticalExtension))"

/-- What a reader takes off the front of bytes, and what follows. -/
def take {α : Type} (r : Reader α) (b : Bytes) : Except Fault (α × Bytes) :=
  match r b with
  | some found => .ok found
  | none => .error .encoding

/-- What a reader finds in bytes of which it leaves nothing. -/
def takeAll {α : Type} (r : Reader α) (b : Bytes) : Except Fault α :=
  match whole r b with
  | some a => .ok a
  | none => .error .encoding

def longest : Nat := 0xFFFE

/-! ## Extensions -/

/-- An extension. -/
structure Extension where
  name : Bytes
  isCritical : Bool
  value : Bytes

def Extension.read : Reader Extension := do
  pure ⟨← expect identifierTag, ← flag, ← expect octetsTag⟩

/-- What names the extensions of the standard, with a number of their own behind it. -/
def standardArc : Bytes := [0x55, 0x1d]

/-- The number of the extension that says what a key is for. -/
def usageNumber : UInt8 := 15

/-- The numbers of the extensions of the standard that are known. -/
def knownNumbers : List UInt8 := [usageNumber, 17, 19, 30, 31, 37]

def Extension.number? (e : Extension) : Option UInt8 :=
  match e.name with
  | [a, b, n] => if [a, b] = standardArc ∧ knownNumbers.contains n then some n else none
  | _ => none

/-- Checks an extension, where those with the numbers in `seen` have come before. -/
def Extension.check (seen : List UInt8) (e : Extension) : Except Fault (List UInt8) :=
  match e.number? with
  | none => if e.isCritical then .error .criticalExtension else .ok seen
  | some n =>
    if seen.contains n then .error .extensionValue
    else if n = usageNumber ∨ (whole (expect sequenceTag) e.value).isSome then .ok (n :: seen)
    else .error .encoding

def checkEnd (rest : Bytes) : Except Fault Unit := if rest = [] then .ok () else .error .encoding

/-- Checks extensions one after the other; `count` bounds their number. -/
def checkExtensions (seen : List UInt8) : Nat → Bytes → Except Fault Unit
  | _, [] => .ok ()
  | 0, _ => .error .encoding
  | count + 1, b => do
    let (content, more) ← take (expect sequenceTag) b
    let (e, rest) ← take Extension.read content
    let seen ← e.check seen
    checkEnd rest
    checkExtensions seen count more

/-- Checks what follows the public key: nothing, or the extensions. -/
def checkTail (b : Bytes) : Except Fault Unit :=
  if b = [] then .ok ()
  else do
    let (outer, last) ← take (expect (numberedOuter 3)) b
    let (extensions, rest) ← take (expect sequenceTag) outer
    checkExtensions [] extensions.length extensions
    checkEnd rest
    checkEnd last

/-! ## Certificates -/

def checkVersion (content : Bytes) : Except Fault Unit := do
  let (version, rest) ← take natural content
  if 0xFF < version then .error .encoding
  else if version ≠ 2 ∨ rest ≠ [] then .error .version
  else .ok ()

/-- The public key with its algorithm, out of the part of a certificate that is signed with `algorithm`. -/
def keyInfoOf (algorithm signed : Bytes) : Except Fault Bytes :=
  match expect (numberedOuter 0) signed with
  | none => .error .version
  | some (version, b) => do
    checkVersion version
    let (_, b) ← take (expect integerTag) b
    let (named, b) ← take (expect sequenceTag) b
    if named ≠ algorithm then .error .algorithms
    else do
      let (_issuer, b) ← take (expect sequenceTag) b
      let (_validity, b) ← take (expect sequenceTag) b
      let (_subject, b) ← take (expect sequenceTag) b
      let (info, b) ← take (expect sequenceTag) b
      checkTail b
      pure info

def keyInfo (certificate : Bytes) : Except Fault Bytes := do
  let content ← takeAll (expect sequenceTag) certificate
  if longest < content.length then .error .encoding
  else do
    let (algorithm, signed) ← takeAll (do
      let signed ← expect sequenceTag
      let algorithm ← expect sequenceTag
      let _signature ← bits
      pure (algorithm, signed)) content
    keyInfoOf algorithm signed

end Gatehouse.Tls.X509
