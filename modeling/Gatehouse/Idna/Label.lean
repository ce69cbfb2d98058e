import Gatehouse.Idna.Joiner
import Gatehouse.Idna.Mapping
import Gatehouse.Idna.Punycode

/-!
Domain names with characters beyond ASCII (UTS 46, without transitional processing and without a check of
hyphens): as they are shown, and as they are sent.
-/

namespace Gatehouse.Idna

def punycodeMark : Text := "xn--"

/-- The most characters of a label in punycode after the mark. -/
def maxDigits : Nat := 2000

/-- The most characters of a label that are put into punycode. -/
def maxDecoded : Nat := 1000

/-- Whether the characters of a label may stand in this order and number. -/
def labelFits (label : Text) : Bool :=
  !(label.head?.any isMark) && joinersFit [] label && (Text.isAscii label || label.length ≤ maxDecoded)

/-- The label that digits in punycode stand for: allowed characters in composed form, not all of them
ASCII. -/
def decodeDigits? (digits : Text) : Option Text :=
  if Text.isAscii digits ∧ digits.getLast? ≠ some '-' ∧ digits.length ≤ maxDigits then do
    let label ← Punycode.decode digits
    if label.all allowed && !Text.isAscii label && composedForm label == label then some label else none
  else none

def decodeLabel? (label : Text) : Option Text :=
  (match Text.after? punycodeMark label with
    | none => some label
    | some digits => decodeDigits? digits).filter labelFits

/-- The labels of a name, none of whose ASCII characters is refused. -/
def labels? (refused : Char → Bool) (name : Text) : Option (List Text) := do
  let mapped ← mapText? name
  let composed := composedForm mapped
  if composed.any refused then none
  else
    let labels ← (Text.split '.' composed).mapM decodeLabel?
    if directionsFit labels then some labels else none

/-- The name with its labels in the characters that they stand for. -/
def toUnicode? (name : Text) : Option Text :=
  (labels? (fun _ => false) name).map (Text.join ".")

def asciiLabel (label : Text) : Text :=
  if Text.isAscii label then label else punycodeMark ++ Punycode.encode label

def toAscii? (refused : Char → Bool) (name : Text) : Option Text :=
  (labels? refused name).map fun labels => Text.join "." (labels.map asciiLabel)

end Gatehouse.Idna
