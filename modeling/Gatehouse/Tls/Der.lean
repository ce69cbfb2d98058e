import Gatehouse.Tls.Arithmetic

/-!
Distinguished encoding (X.690): elements of a tag, the length of the content in its only allowed form, and
the content. Readers take elements off the front of bytes; lengths have two bytes at most.
-/

namespace Gatehouse.Tls.Der

/-! ## Tags -/

def booleanTag : UInt8 := 0x01
def integerTag : UInt8 := 0x02
def bitsTag : UInt8 := 0x03
def octetsTag : UInt8 := 0x04
def nullTag : UInt8 := 0x05
def identifierTag : UInt8 := 0x06
def sequenceTag : UInt8 := 0x30

def numbered (n : Nat) : UInt8 := UInt8.ofNat (0x80 + n)

/-- The tag of a part that is known by its number and has elements within. -/
def numberedOuter (n : Nat) : UInt8 := UInt8.ofNat (0xA0 + n)

/-! ## Reading -/

abbrev Reader := StateT Bytes Option

/-- The length of a content, in the shortest form that it has. -/
def length? : Bytes → Option (Nat × Bytes)
  | 0x81 :: n :: rest => if n < 0x80 then none else some (n.toNat, rest)
  | 0x82 :: high :: low :: rest => if high = 0 then none else some (number [high, low], rest)
  | n :: rest => if n < 0x80 then some (n.toNat, rest) else none
  | [] => none

/-- Takes an element with this tag, and gives its content. -/
def expect (tag : UInt8) : Reader Bytes
  | [] => none
  | t :: rest =>
    match length? rest with
    | none => none
    | some (n, rest) =>
      if t = tag ∧ n ≤ rest.length then some (rest.take n, rest.drop n) else none

def expectIfNext (tag : UInt8) : Reader (Option Bytes) := fun b =>
  if b.head? = some tag then (expect tag b).map fun (content, rest) => (some content, rest)
  else some (none, b)

/-- What a reader finds in bytes of which it leaves nothing. -/
def whole {α : Type} (r : Reader α) (b : Bytes) : Option α :=
  match r b with
  | some (a, []) => some a
  | _ => none

/-- Takes an element with this tag whose content is for another reader. -/
def inside {α : Type} (tag : UInt8) (r : Reader α) : Reader α := do
  let content ← expect tag
  whole r content

/-- Takes a number that is not negative: no byte more than it needs. -/
def natural : Reader Nat := do
  match ← expect integerTag with
  | [] => failure
  | [b] => if b < 0x80 then pure b.toNat else failure
  | 0 :: b :: rest => if b < 0x80 then failure else pure (number (b :: rest))
  | b :: rest => if b < 0x80 then pure (number (b :: rest)) else failure

def bits : Reader Bytes := do
  match ← expect bitsTag with
  | 0 :: rest => pure rest
  | _ => failure

/-- Takes a truth value, which is false if it is left out. -/
def flag : Reader Bool := do
  match ← expectIfNext booleanTag with
  | none => pure false
  | some [0xFF] => pure true
  | some [0x00] => pure false
  | some _ => failure

/-! ## Writing -/

def lengthBytes (n : Nat) : Bytes :=
  if n < 0x80 then [UInt8.ofNat n]
  else UInt8.ofNat (0x80 + byteWidth n) :: bigEndian (byteWidth n) n

def element (tag : UInt8) (content : Bytes) : Bytes := tag :: (lengthBytes content.length ++ content)

/-- A number that is not negative. A zero stands before a byte that would make it so. -/
def naturalElement (n : Nat) : Bytes :=
  element integerTag (bigEndian (bitLength n / 8 + 1) n)

def bitsElement (b : Bytes) : Bytes := element bitsTag (0 :: b)

end Gatehouse.Tls.Der
