import Gatehouse.Text.Basic

/-!
Tables of characters, written as text: entries with blanks or line ends between them, whose parts are
separated by colons. Code points stand in hexadecimal.
-/

namespace Gatehouse.Text

def hexadecimal (t : Text) : Nat :=
  t.foldl (fun n c => 16 * n + (hexDigit? c).getD 0) 0

def character (t : Text) : Char := Char.ofNat (hexadecimal t)

def entries (table : String) : List (List Text) :=
  let blank := table.toList.map fun c => if c = '\n' then ' ' else c
  ((split ' ' blank).filter (· ≠ [])).map (split ':')

/-- Code points from a first one to a last one. -/
structure Range where
  first : Nat
  last : Nat

namespace Range

def holds (r : Range) (c : Char) : Bool := decide (r.first ≤ c.toNat) && decide (c.toNat ≤ r.last)

/-- The range that a text spells: its first and its last code point, or a single one. -/
def ofText (t : Text) : Range :=
  match cutFirst '-' t with
  | some (first, last) => ⟨hexadecimal first, hexadecimal last⟩
  | none => ⟨hexadecimal t, hexadecimal t⟩

def ofTable (table : String) : List Range := (entries table).flatMap (·.map ofText)

end Range

def within (ranges : List Range) (c : Char) : Bool := ranges.any (·.holds c)

end Gatehouse.Text
