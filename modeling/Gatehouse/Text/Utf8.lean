import Gatehouse.Text.Basic

/-!
Text as bytes: the UTF-8 encoding, its strict inverse, and a reading that puts U+FFFD for every faulty
piece. Main statement: decoding undoes encoding.
-/

namespace Gatehouse.Text

def utf8 (t : Text) : Bytes := t.flatMap String.utf8EncodeChar

/-- The text that the bytes encode, if they are valid UTF-8. -/
def ofUtf8? (b : Bytes) : Option Text := b.toByteArray.utf8Decode?.map Array.toList

theorem ofUtf8?_utf8 (t : Text) : ofUtf8? (utf8 t) = some t := by
  have h : (utf8 t).toByteArray = t.utf8Encode := rfl
  simp [ofUtf8?, h, List.utf8Decode?_utf8Encode]

/-- The number of bytes that the encoding of a text takes. -/
def byteLength (t : Text) : Nat := (utf8 t).length

/-- The range in which the second byte of a character must lie, by its first byte. -/
def secondByteRange (lead : UInt8) : UInt8 × UInt8 :=
  if lead = 0xE0 then (0xA0, 0xBF)
  else if lead = 0xED then (0x80, 0x9F)
  else if lead = 0xF0 then (0x90, 0xBF)
  else if lead = 0xF4 then (0x80, 0x8F)
  else (0x80, 0xBF)

/-- How many bytes a character takes, by its first byte; nothing if no character starts with it. -/
def sequenceLength (lead : UInt8) : Option Nat :=
  if lead < 0x80 then some 1
  else if lead < 0xC2 then none
  else if lead < 0xE0 then some 2
  else if lead < 0xF0 then some 3
  else if lead < 0xF5 then some 4
  else none

/-- How many of the bytes after `lead` continue its character, at most `wanted`. -/
def continuations (lead : UInt8) (rest : Bytes) (wanted : Nat) : Nat :=
  match wanted, rest with
  | w + 1, b :: more =>
    let range := secondByteRange lead
    if range.1 ≤ b && b ≤ range.2 then
      1 + ((more.take w).takeWhile fun c => 0x80 ≤ c && c ≤ 0xBF).length
    else 0
  | _, _ => 0

/-- One character from the front of the bytes, and how many bytes after the first it used. A faulty
piece, the longest start of some character that stands there, gives U+FFFD. -/
def lossyStep (lead : UInt8) (rest : Bytes) : Char × Nat :=
  match sequenceLength lead with
  | none => ('\uFFFD', 0)
  | some n =>
    let used := continuations lead rest (n - 1)
    if used + 1 = n then
      ((((lead :: rest.take used).toByteArray).utf8DecodeChar? 0).getD '\uFFFD', used)
    else ('\uFFFD', used)

/-- The reading from some place on, after `skip` bytes that belong to a character already read. -/
def lossyFrom : Nat → Bytes → Text
  | _, [] => []
  | skip + 1, _ :: rest => lossyFrom skip rest
  | 0, lead :: rest =>
    let step := lossyStep lead rest
    step.1 :: lossyFrom step.2 rest

/-- The text of the bytes, with U+FFFD in place of each faulty piece. -/
def ofUtf8Lossy (b : Bytes) : Text := lossyFrom 0 b

end Gatehouse.Text
