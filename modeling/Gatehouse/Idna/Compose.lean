import Gatehouse.Idna.ComposeTable
import Gatehouse.Text.Range

/-!
The composed form of a text (Unicode normalization form C): composed characters are taken apart, the marks
behind each letter are put in order, and what can be composed is composed again. It covers the characters
that a label may hold, so each of them that can be taken apart can be put together again.
-/

namespace Gatehouse.Idna

open Text

/-! ## Parts -/

/-- A composed character with its two parts. -/
structure Composed where
  whole : Char
  first : Char
  second : Char

def composedTable : List Composed :=
  (entries composedText).filterMap fun parts =>
    match parts with
    | [whole, first, second] => some ⟨character whole, character first, character second⟩
    | _ => none

/-- The first of the Korean syllables. Each of the 19 leading consonants has 588 of them: 28 for each of 21
vowels, the first of them without a trailing consonant. -/
def syllableBase : Nat := 0xAC00

def syllableParts? (c : Char) : Option (Char × Char) :=
  let n := c.toNat - syllableBase
  if c.toNat < syllableBase ∨ 11172 ≤ n then none
  else if n % 28 = 0 then some (Char.ofNat (0x1100 + n / 588), Char.ofNat (0x1161 + n % 588 / 28))
  else some (Char.ofNat (c.toNat - n % 28), Char.ofNat (0x11A7 + n % 28))

def syllable? (a b : Char) : Option Char :=
  let l := a.toNat - 0x1100
  let v := b.toNat - 0x1161
  let n := a.toNat - syllableBase
  let t := b.toNat - 0x11A7
  if 0x1100 ≤ a.toNat ∧ l < 19 ∧ 0x1161 ≤ b.toNat ∧ v < 21 then
    some (Char.ofNat (syllableBase + 588 * l + 28 * v))
  else if syllableBase ≤ a.toNat ∧ n < 11172 ∧ n % 28 = 0 ∧ 0x11A7 < b.toNat ∧ t < 28 then
    some (Char.ofNat (a.toNat + t))
  else none

def parts? (c : Char) : Option (Char × Char) :=
  match syllableParts? c with
  | some parts => some parts
  | none => (composedTable.find? (·.whole == c)).map fun e => (e.first, e.second)

def whole? (a b : Char) : Option Char :=
  match syllable? a b with
  | some c => some c
  | none => (composedTable.find? fun e => e.first == a && e.second == b).map (·.whole)

def takeApart : Nat → Char → Text
  | 0, c => [c]
  | depth + 1, c =>
    match parts? c with
    | none => [c]
    | some (a, b) => takeApart depth a ++ [b]

/-! ## Order -/

def markClasses : List (Nat × List Range) :=
  (entries classesText).filterMap fun parts =>
    match parts with
    | mark :: ranges => some (Nat.ofDigitChars 10 mark 0, ranges.map Range.ofText)
    | [] => none

/-- The class of a mark; all other characters have class 0. -/
def markClass (c : Char) : Nat := ((markClasses.find? fun e => within e.2 c).map (·.1)).getD 0

/-- Puts a character in front of a text in order: behind the marks there that have a lower class. -/
def insertMark (c : Char) : Text → Text
  | [] => [c]
  | d :: rest =>
    if markClass d ≠ 0 ∧ markClass d < markClass c then d :: insertMark c rest else c :: d :: rest

/-- A text with the marks behind each letter in the order of their classes. -/
def order (t : Text) : Text := t.foldr insertMark []

/-! ## Composing -/

/-- Composes a text that starts with a letter and those of its marks that stay: the next character joins the
letter unless a mark of the same or a higher class stands between. -/
def composeFrom (letter : Char) (marks : Text) : Text → Text
  | [] => letter :: marks
  | c :: rest =>
    let apart := marks.getLast?.any fun m => markClass c ≤ markClass m
    match if apart then none else whole? letter c with
    | some whole => composeFrom whole marks rest
    | none =>
      if markClass c = 0 then letter :: marks ++ composeFrom c [] rest
      else composeFrom letter (marks ++ [c]) rest

def compose : Text → Text
  | [] => []
  | c :: rest => if markClass c = 0 then composeFrom c [] rest else c :: compose rest

/-- The composed form of a text. No character is composed more than twice over. -/
def composedForm (t : Text) : Text := compose (order (t.flatMap (takeApart 2)))

end Gatehouse.Idna
