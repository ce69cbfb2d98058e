import Gatehouse.Dns.NameText
import Gatehouse.Url

/-!
The data of records that tell which authorities may issue certificates for a domain (RFC 8659): a flag, a
tag, and a value whose form hangs on the tag.
-/

namespace Gatehouse.Dns.Authorization

/-- What the value of a record is. -/
inductive Property where
  /-- An authority, with parameters. -/
  | issuer
  /-- Where violations are reported. -/
  | report
  /-- Anything. -/
  | other
  deriving DecidableEq

def maxTagLength : Nat := 15

def isTag (tag : Bytes) : Bool :=
  tag != [] && tag.length ≤ maxTagLength && tag.all fun b => b < 128 && (Char.ofNat b.toNat).isAlphanum

/-- What the value behind a tag is; the case of its letters does not count. -/
def Property.ofTag (tag : Bytes) : Property :=
  let t := Text.lower (tag.map fun b => Char.ofNat b.toNat)
  if t = "issue".toList ∨ t = "issuewild".toList then issuer
  else if t = "iodef".toList then report
  else other

/-! ## Parameters -/

/-- Where the reading of parameters stands: between two of them, behind the first character of a key, within
a key, or in a value. -/
inductive Spot where
  | gap
  | initial
  | key
  | value
  deriving DecidableEq

/-- Where the reading stands after one more byte. A key has letters and digits, and hyphens from its third
character on; a value has neither blanks nor control characters. -/
def Spot.next? (spot : Spot) (b : UInt8) : Option Spot :=
  let c := Char.ofNat b.toNat
  match spot with
  | gap =>
    if c = ';' ∨ c = ' ' ∨ c = '\t' then some gap else if c.isAlphanum then some initial else none
  | initial => if c = '=' then some value else if c.isAlphanum then some key else none
  | key => if c = '=' then some value else if c.isAlphanum ∨ c = '-' then some key else none
  | value => if c = ';' then some gap else if isNameChar c then some value else none

/-- Whether bytes are parameters, read from a spot on; the last one must have a value, if an empty one. -/
def areParameters (spot : Spot) : Bytes → Bool
  | [] => spot == .gap || spot == .value
  | b :: rest =>
    match spot.next? b with
    | none => false
    | some spot => areParameters spot rest

/-! ## Values -/

/-- Whether a value is an authority: its name, which may be missing, and parameters behind a semicolon. -/
def isIssuer (data : Bytes) : Bool :=
  let name := data.takeWhile (· != 0x3B)
  (name == [] || ((Text.ofUtf8? name).bind Name.ofText?).isSome) &&
    areParameters .gap (data.drop (name.length + 1))

def isReport (data : Bytes) : Bool := (Text.ofUtf8? data).any Url.isUrl

def isValue (tag data : Bytes) : Bool :=
  match Property.ofTag tag with
  | .issuer => isIssuer data
  | .report => isReport data
  | .other => true

end Gatehouse.Dns.Authorization
