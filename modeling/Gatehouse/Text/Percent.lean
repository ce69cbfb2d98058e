import Gatehouse.Text.Utf8

/-!
Percent coding: a byte written as `%` and two hexadecimal digits.
-/

namespace Gatehouse.Text

/-- The value of a hexadecimal digit that is given as a byte. -/
def hexByteDigit? (b : UInt8) : Option Nat := hexDigit? (Char.ofNat b.toNat)

/-- The bytes with each `%` and two hexadecimal digits replaced by the byte they spell; a `%` without
two digits after it stands for itself. -/
def percentDecode : Bytes → Bytes
  | [] => []
  | 0x25 :: hi :: lo :: rest =>
    match hexByteDigit? hi, hexByteDigit? lo with
    | some h, some l => UInt8.ofNat (16 * h + l) :: percentDecode rest
    | _, _ => 0x25 :: percentDecode (hi :: lo :: rest)
  | b :: rest => b :: percentDecode rest
termination_by bytes => bytes.length

/-- The text that a percent-coded text stands for, if the bytes it spells are valid UTF-8. -/
def unescape? (t : Text) : Option Text := ofUtf8? (percentDecode (utf8 t))

/-- Whether a byte stands for itself in percent-coded text: a letter, a digit or one of `-_.~`. -/
def isUnreserved (b : UInt8) : Bool :=
  let c := Char.ofNat b.toNat
  b < 0x80 && (c.isAlphanum || c == '-' || c == '_' || c == '.' || c == '~')

def escapeByte (b : UInt8) : Text :=
  let c := Char.ofNat b.toNat
  if isUnreserved b then [c]
  else ['%', (Nat.digitChar (b.toNat / 16)).toUpper, (Nat.digitChar (b.toNat % 16)).toUpper]

/-- The text in percent coding, every byte that is not unreserved escaped. -/
def escape (t : Text) : Text := (utf8 t).flatMap escapeByte

end Gatehouse.Text
