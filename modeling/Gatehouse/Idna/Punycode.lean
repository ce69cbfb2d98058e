import Gatehouse.Text.Basic

/-!
Punycode (RFC 3492): characters beyond ASCII as a run of digits behind the ASCII ones of a label. Each
number, of digits in base 36 with a threshold that adapts, tells how far to move on to the next character
and the place where to insert it.
-/

namespace Gatehouse.Idna.Punycode

open Text

/-! ## Digits -/

/-- The value of a digit: the letters come before the figures. -/
def digit? (c : Char) : Option Nat :=
  if 'a' ≤ c ∧ c ≤ 'z' then some (c.toNat - 97)
  else if 'A' ≤ c ∧ c ≤ 'Z' then some (c.toNat - 65)
  else if c.isDigit then some (c.toNat - 48 + 26)
  else none

def threshold (place bias : Nat) : Nat :=
  if place ≤ bias then 1 else if bias + 26 ≤ place then 26 else place - bias

/-- Divides by 35 until no more than 455 is left, and counts 36 for each division. -/
def damp (delta count : Nat) : Nat × Nat :=
  if 455 < delta then damp (delta / 35) (count + 36) else (delta, count)
termination_by delta
decreasing_by exact Nat.div_lt_self (by omega) (by decide)

/-- The bias after a number, where `points` characters are in place. -/
def adapt (delta points : Nat) (isFirst : Bool) : Nat :=
  let start := if isFirst then delta / 700 else delta / 2
  let (rest, count) := damp (start + start / points) 0
  count + 36 * rest / (rest + 38)

/-! ## Reading -/

def readNumber (bias place weight sum : Nat) : Text → Option (Nat × Text)
  | [] => none
  | c :: rest =>
    match digit? c with
    | none => none
    | some d =>
      let sum := sum + d * weight
      let t := threshold place bias
      if d < t then some (sum, rest) else readNumber bias (place + 36) (weight * (36 - t)) sum rest

/-- The character with this code point, beyond ASCII and no surrogate. -/
def charOf? (n : Nat) : Option Char :=
  if h : n.isValidChar then some (Char.ofNatAux n h) else none

/-- Inserts one character for each number: `next` is the least that may come, `place` where it may. -/
def insertAll (out : Text) (next place bias : Nat) (isFirst : Bool) (digits : Text) : Option Text :=
  if digits = [] then some out
  else
    match readNumber bias 36 1 0 digits with
    | none => none
    | some (delta, rest) =>
      let points := out.length + 1
      let moved := place + delta
      match charOf? (next + moved / points) with
      | none => none
      | some c =>
        let spot := moved % points
        if _h : rest.length < digits.length then
          insertAll (out.take spot ++ [c] ++ out.drop spot) (next + moved / points) (spot + 1)
            (adapt delta points isFirst) false rest
        else none
termination_by digits.length

/-- The characters that a punycode text stands for. A hyphen parts the ASCII characters from the digits;
without ASCII characters there is none. -/
def decode (t : Text) : Option Text :=
  match cutLast '-' t with
  | some ([], _) => none
  | some (plain, digits) => insertAll plain 128 0 72 true digits
  | none => insertAll [] 128 0 72 true t

/-! ## Writing -/

def digit (n : Nat) : Char := if n < 26 then Char.ofNat (97 + n) else Char.ofNat (22 + n)

theorem threshold_pos (place bias : Nat) : 0 < threshold place bias := by
  unfold threshold
  split
  · omega
  · split <;> omega

def writeNumber (bias place n : Nat) : Text :=
  let t := threshold place bias
  if n < t then [digit n]
  else digit (t + (n - t) % (36 - t)) :: writeNumber bias (place + 36) ((n - t) / (36 - t))
termination_by n
decreasing_by
  have h := threshold_pos place bias
  have := Nat.div_le_self (n - threshold place bias) (36 - threshold place bias)
  omega

/-- How far the writing has come: the digits, the steps since the last character that was inserted, the bias,
and how many characters are in place. -/
structure Writing where
  digits : Text
  delta : Nat
  bias : Nat
  points : Nat

/-- Passes over one character of the text, where those with code point `point` are inserted. -/
def Writing.visit (plain point : Nat) (w : Writing) (c : Char) : Writing :=
  if c.toNat < point then { w with delta := w.delta + 1 }
  else if c.toNat = point then
    ⟨w.digits ++ writeNumber w.bias 36 w.delta, 0, adapt w.delta (w.points + 1) (w.points == plain),
      w.points + 1⟩
  else w

/-- Inserts the characters with these code points, the lowest first; all below `next` are in place. -/
def writeAll (t : Text) (plain : Nat) (w : Writing) (next : Nat) : List Nat → Text
  | [] => w.digits
  | point :: rest =>
    let w := { w with delta := w.delta + (point - next) * (w.points + 1) }
    let w := t.foldl (Writing.visit plain point) w
    writeAll t plain { w with delta := w.delta + 1 } (point + 1) rest

/-- The punycode of a text: its ASCII characters with a hyphen behind them, if there are any, and the digits
for the others. -/
def encode (t : Text) : Text :=
  let plain := t.filter fun c => c.toNat < 128
  let points := (((t.map Char.toNat).filter (128 ≤ ·)).mergeSort).eraseDups
  let digits := writeAll t plain.length ⟨[], 0, 72, plain.length⟩ 128 points
  if plain = [] then digits else plain ++ '-' :: digits

end Gatehouse.Idna.Punycode
