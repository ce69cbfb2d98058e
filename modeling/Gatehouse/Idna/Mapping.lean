import Gatehouse.Idna.AllowedTable
import Gatehouse.Idna.MappingTable
import Gatehouse.Text.Range

/-!
The characters of internationalised labels: which of them may stand in a label as they are, which do not
count, and which stand for others, such as a capital for its small letter.
-/

namespace Gatehouse.Idna

open Text

def allowedRanges : List Range := Range.ofTable allowedText

def ignoredRanges : List Range := Range.ofTable ignoredText

/-- Characters at a steady distance from those that they stand for. -/
structure Series where
  range : Range
  step : Nat
  target : Nat

def series : List Series :=
  (entries seriesText).filterMap fun parts =>
    match parts with
    | [first, last, step, target] =>
      some ⟨⟨hexadecimal first, hexadecimal last⟩, Nat.ofDigitChars 10 step 0, hexadecimal target⟩
    | _ => none

def Series.target? (s : Series) (c : Char) : Option Text :=
  if s.range.holds c ∧ (c.toNat - s.range.first) % s.step = 0 then
    some [Char.ofNat (s.target + (c.toNat - s.range.first))]
  else none

/-- A row of neighbouring characters with the texts that they stand for. -/
structure Row where
  first : Nat
  targets : List Text

def rows : List Row :=
  (entries rowsText).filterMap fun parts =>
    match parts with
    | first :: targets =>
      some ⟨hexadecimal first, targets.map fun t => (split '+' t).map character⟩
    | [] => none

def Row.target? (r : Row) (c : Char) : Option Text :=
  if r.first ≤ c.toNat then r.targets[c.toNat - r.first]? else none

def allowed (c : Char) : Bool := within allowedRanges c

/-- What a character stands for in a label; nothing if no label may have it. -/
def mapped? (c : Char) : Option Text :=
  if allowed c then some [c]
  else if within ignoredRanges c then some []
  else
    match series.findSome? (·.target? c) with
    | some t => some t
    | none => rows.findSome? (·.target? c)

def mapText? (t : Text) : Option Text := (t.mapM mapped?).map List.flatten

end Gatehouse.Idna
