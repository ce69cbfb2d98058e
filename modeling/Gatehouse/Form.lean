import Gatehouse.Text.Percent

/-!
Form fields, as a query string or a request body carries them: `key=value` pairs joined by `&`, with
percent coding and `+` for a space. Of several values of one key the last counts.
-/

namespace Gatehouse

abbrev Form := List (Text × Text)

namespace Form

/-- The form with the field set, in the place of an earlier one of the same key. -/
def set (form : Form) (key value : Text) : Form :=
  if form.any (·.1 == key) then form.map fun field => if field.1 = key then (key, value) else field
  else form ++ [(key, value)]

def get? (form : Form) (key : Text) : Option Text := form.lookup key

/-- A key or value as it stands on the wire, read: `+` is a space, then percent coding is undone. -/
def decodePart? (t : Text) : Option Text :=
  Text.unescape? (t.map fun c => if c = '+' then ' ' else c)

/-- The field that one pair spells, unless its bytes are no text. -/
def decodePair? (pair : Text) : Option (Text × Text) := do
  let (key, value) := (Text.cutFirst '=' pair).getD (pair, [])
  let key ← decodePart? key
  let value ← decodePart? value
  pure (key, value)

/-- The fields that a text spells, in order; pairs that cannot be read are left out. -/
def pairs (t : Text) : List (Text × Text) :=
  ((Text.split '&' t).filter (· ≠ [])).filterMap decodePair?

def overlay (form : Form) (fields : List (Text × Text)) : Form :=
  fields.foldl (fun form field => form.set field.1 field.2) form

def parse (t : Text) : Form := overlay [] (pairs t)

/-- The form of a request: the fields of the query, overlaid by those of the body. -/
def ofRequest (query body : Text) : Form := overlay (parse query) (parse body)

end Form
end Gatehouse
