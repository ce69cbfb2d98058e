import Gatehouse.Idna.Label
import Gatehouse.Text.Utf8

/-!
Domain names as sequences of labels, and their displayed text: the text by which the zone is searched.
Labels may hold any byte; what is no letter, digit, underscore or inner hyphen is escaped, and a label in
punycode is shown in the characters that it stands for.
-/

namespace Gatehouse.Dns

abbrev Label := Bytes

abbrev Name := List Label

/-- The most bytes that a name takes, with the length bytes of its labels and that of the root. -/
def maxNameLength : Nat := 255

namespace Label

/-- Whether a byte is shown as it is in a label: letters, digits and underscores, a hyphen unless it comes
first, an asterisk only if it comes first. -/
def isPlain (isFirst : Bool) (b : UInt8) : Bool :=
  let c := Char.ofNat b.toNat
  b < 128 && (c.isAlphanum || c == '_' || (c == '-' && !isFirst) || (c == '*' && isFirst))

/-- One byte of a label, shown: other visible characters stand behind a backslash, and the rest are
three octal digits. -/
def showByte (isFirst : Bool) (b : UInt8) : Text :=
  let n := b.toNat
  if isPlain isFirst b then [Char.ofNat n]
  else if 0x20 < n ∧ n < 0x7F then ['\\', Char.ofNat n]
  else ['\\', Nat.digitChar (n / 64), Nat.digitChar (n / 8 % 8), Nat.digitChar (n % 8)]

def escaped : Label → Text
  | [] => []
  | b :: rest => showByte true b ++ rest.flatMap (showByte false)

/-- The characters of a label in punycode, if they can be shown. Other labels may follow in it, after dots;
bytes that are no UTF-8 cannot be shown. -/
def international? (label : Label) : Option Text :=
  if (Text.utf8 Idna.punycodeMark).isPrefixOf label then Idna.toUnicode? (Text.ofUtf8Lossy label) else none

def text (label : Label) : Text := (international? label).getD (escaped label)

end Label

/-- The displayed text of a name: its labels with dots between them and a dot at the end. -/
def Name.text (name : Name) : Text := Text.join "." (name.map Label.text) ++ "."

end Gatehouse.Dns
