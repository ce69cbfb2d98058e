import Gatehouse.Dns.Name
import Gatehouse.Text.Blank
import Gatehouse.Text.Numeric

/-!
The names that texts spell: labels with dots between them, in which a backslash stands in front of a
character that counts as it is, or of a byte in octal.
-/

namespace Gatehouse.Dns

/-! ## Labels -/

def maxLabelLength : Nat := 63

/-- The label with these ASCII characters, all of which must be shown as they are, or be dots. -/
def Label.ofAscii? (t : Text) : Option Label :=
  let plain := fun isFirst (c : Char) => c == '.' || isPlain isFirst (UInt8.ofNat c.toNat)
  if Text.isAscii t ∧ t.length ≤ maxLabelLength ∧ t.head?.any (plain true) ∧ t.tail.all (plain false) then
    some (Text.utf8 t)
  else none

/-- ASCII characters that no international label may have: all but small letters, digits, hyphens and
dots. -/
def isRefused (c : Char) : Bool :=
  c.toNat < 128 && !(c.isLower || c.isDigit || c == '-' || c == '.')

/-- The label that a text spells: a lone asterisk, a text that starts with an underscore as it is, and any
other in punycode if need be. -/
def Label.ofText? (t : Text) : Option Label :=
  if t.head? = some '_' ∨ t = ['*'] then ofAscii? t else (Idna.toAscii? isRefused t).bind ofAscii?

/-! ## Names -/

def octalDigit? (c : Char) : Option Nat :=
  if '0' ≤ c ∧ c ≤ '7' then some (c.toNat - 48) else none

/-- Whether a character may stand in a name without a backslash: no blank and no control character. -/
def isNameChar (c : Char) : Bool :=
  !(c.toNat < 0x20 || (0x7F ≤ c.toNat && c.toNat < 0xA0) || Text.isBlank c)

/-- What has been read of a byte behind a backslash: nothing that counts, the backslash, or octal digits
that make a number so far. -/
inductive Escape where
  | none
  | mark
  | first (value : Nat)
  | second (value : Nat)

/-- What has been read of a name: the labels that are complete, the one that is not, and what stands behind
its last backslash. -/
structure Reading where
  labels : List Text
  label : Text
  escape : Escape

def Reading.next? (r : Reading) (c : Char) : Option Reading :=
  match r.escape with
  | .none =>
    if c = '.' then some ⟨r.labels ++ [r.label], [], .none⟩
    else if c = '\\' then some { r with escape := .mark }
    else if isNameChar c then some { r with label := r.label ++ [c] }
    else none
  | .mark =>
    if Text.isNumeric c then (octalDigit? c).map fun n => { r with escape := .first n }
    else some ⟨r.labels, r.label ++ [c], .none⟩
  | .first value => (octalDigit? c).map fun n => { r with escape := .second (8 * value + n) }
  | .second value =>
    (octalDigit? c).map fun n => ⟨r.labels, r.label ++ [Char.ofNat (8 * value + n)], .none⟩

/-- The texts of the labels of a name. An escape that the end cuts short does not count. -/
def labelTexts (t : Text) : Option (List Text) :=
  (t.foldlM Reading.next? ⟨[], [], .none⟩).map fun r =>
    if r.label = [] then r.labels else r.labels ++ [r.label]

/-- The bytes that the labels of a name take, each with its length byte. -/
def Name.labelBytes (name : Name) : Nat := name.foldl (fun n label => n + label.length + 1) 0

def Name.ofText? (t : Text) : Option Name :=
  if t = ['.'] then some []
  else do
    let texts ← labelTexts t
    let name ← texts.mapM Label.ofText?
    if Name.labelBytes name < maxNameLength then some name else none

end Gatehouse.Dns
