import Gatehouse.Text.Basic

/-!
Base64 (RFC 4648) as PEM sections hold it: blanks may stand anywhere, and padding may be left out. The
characters are taken in blocks of eight, and each block may end in padding of its own.
-/

namespace Gatehouse.Tls.Base64

/-- Why bytes are not base64. -/
inductive Complaint where
  | character (b : UInt8)
  | earlyPadding
  | trailingPadding
  deriving DecidableEq

def Complaint.message : Complaint → Text
  | character b => "InvalidCharacter(" ++ Text.ofNat b.toNat ++ ")"
  | earlyPadding => "PrematurePadding"
  | trailingPadding => "InvalidTrailingPadding"

/-! ## Characters -/

/-- What a byte is in base64. -/
inductive Mark where
  | digit (value : Nat)
  | padding
  | blank
  deriving DecidableEq

def mark? (b : UInt8) : Option Mark :=
  let c := Char.ofNat b.toNat
  if c.isUpper then some (.digit (c.toNat - 65))
  else if c.isLower then some (.digit (c.toNat - 97 + 26))
  else if c.isDigit then some (.digit (c.toNat - 48 + 52))
  else if c = '+' then some (.digit 62)
  else if c = '/' then some (.digit 63)
  else if c = '=' then some .padding
  else if c = ' ' ∨ (9 ≤ b ∧ b ≤ 13) then some .blank
  else none

def Mark.value : Mark → Nat
  | digit n => n
  | padding => 0
  | blank => 0

/-! ## Blocks -/

def triple (a b c d : Nat) : Bytes :=
  [UInt8.ofNat (4 * a + b / 16), UInt8.ofNat (16 * b + c / 4), UInt8.ofNat (64 * c + d)]

def bytesOf : List Nat → Bytes
  | a :: b :: c :: d :: rest => triple a b c d ++ bytesOf rest
  | _ => []

/-- The bytes of a block of eight characters. Padding makes it shorter only at its end. -/
def ofBlock (block : List Mark) : Except Complaint Bytes :=
  let bytes := bytesOf (block.map Mark.value)
  if (block.take 6).contains .padding then .error .earlyPadding
  else
    match block.drop 6 with
    | [.padding, .padding] => .ok (bytes.take 4)
    | [_, .padding] => .ok (bytes.take 5)
    | _ => .ok bytes

def ofEnd : List Mark → Except Complaint Bytes
  | [] => .ok []
  | [.digit a, .digit b] => .ok ((triple a b 0 0).take 1)
  | [.digit a, .digit b, .padding, .padding] => .ok ((triple a b 0 0).take 1)
  | [.digit a, .digit b, .digit c] => .ok ((triple a b c 0).take 2)
  | [.digit a, .digit b, .digit c, .padding] => .ok ((triple a b c 0).take 2)
  | [.digit a, .digit b, .digit c, .digit d] => .ok (triple a b c d)
  | _ => .error .trailingPadding

/-- The bytes of a last block, which has fewer than eight characters. -/
def ofLastBlock (block : List Mark) : Except Complaint Bytes :=
  if block.length ≤ 4 then ofEnd block
  else if (block.take 4).contains .padding then .error .earlyPadding
  else (ofEnd (block.drop 4)).map (bytesOf ((block.take 4).map Mark.value) ++ ·)

def decodeFrom (block : List Mark) : Bytes → Except Complaint Bytes
  | [] => ofLastBlock block
  | b :: rest =>
    match mark? b with
    | none => .error (.character b)
    | some .blank => decodeFrom block rest
    | some m =>
      let block := block ++ [m]
      if block.length < 8 then decodeFrom block rest
      else
        match ofBlock block with
        | .error e => .error e
        | .ok front => (decodeFrom [] rest).map (front ++ ·)

def decode (b : Bytes) : Except Complaint Bytes := decodeFrom [] b

end Gatehouse.Tls.Base64
