import Gatehouse.Fault
import Gatehouse.Text.Blank
import Gatehouse.Text.Utf8

/-!
Host names: labels of letters, digits and hyphens with dots between them, kept in lower case without a
dot at the end.
-/

namespace Gatehouse.HostName

def maxLength : Nat := 253

def maxLabelLength : Nat := 63

def withoutEndDots (t : Text) : Text := Text.trimEnd (· == '.') t

def isLabelChar (c : Char) : Bool := c.isAlphanum || c == '-'

/-- Whether a text is a label: 1 to 63 letters, digits and hyphens, no hyphen at either end. -/
def isLabel (label : Text) : Bool :=
  label != [] && decide (label.length ≤ maxLabelLength) && label.head? != some '-' &&
    label.getLast? != some '-' && label.all isLabelChar

/-- Whether a text is a host name: labels with dots between them, at most 253 bytes. -/
def isValid (t : Text) : Bool :=
  decide (Text.byteLength t ≤ maxLength) && (Text.split '.' t).all isLabel

/-- The form in which a host is registered: no blanks around it, no dots at its end, lower case. -/
def canonical (t : Text) : Text := Text.lower (withoutEndDots (Text.trim t))

def normalize (t : Text) : Except Fault Text :=
  let host := canonical t
  if host = [] then .error (.missingParameter "host")
  else if isValid host then .ok host
  else .error (.invalidHost host)

/-- The form under which a name is looked up in the zone: no dots at its end, lower case. -/
def zoneKey (t : Text) : Text := Text.lower (withoutEndDots t)

def domain? (t : Text) : Option Text :=
  match (Text.split '.' (zoneKey t)).getLast? with
  | some [] => none
  | label => label

end Gatehouse.HostName
