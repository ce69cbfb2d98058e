/-!
Text as a list of characters, with the cuts and trims that the other modules read their inputs with, each with the law
that the others start from. A string literal stands for its characters wherever a `Text` is expected.
-/

namespace Gatehouse

abbrev Text := List Char

abbrev Bytes := List UInt8

instance : Coe String Text := ⟨String.toList⟩

namespace Text

/-! ## Cuts -/

def cutFirst (sep : Char) : Text → Option (Text × Text)
  | [] => none
  | c :: rest =>
    if c = sep then some ([], rest)
    else (cutFirst sep rest).map fun parts => (c :: parts.1, parts.2)

theorem cutFirst_append {sep : Char} {front : Text} (h : sep ∉ front) (rest : Text) :
    cutFirst sep (front ++ sep :: rest) = some (front, rest) := by
  induction front with
  | nil => exact if_pos rfl
  | cons c later ih =>
    have hc : c ≠ sep := fun heq => h (heq ▸ List.mem_cons_self)
    rw [List.cons_append, cutFirst, if_neg hc, ih fun hm => h (List.mem_cons_of_mem _ hm)]
    rfl

def cutLast (sep : Char) : Text → Option (Text × Text)
  | [] => none
  | c :: rest =>
    match cutLast sep rest with
    | some parts => some (c :: parts.1, parts.2)
    | none => if c = sep then some ([], rest) else none

theorem cutLast_of_not_mem {sep : Char} {t : Text} (h : sep ∉ t) : cutLast sep t = none := by
  induction t with
  | nil => rfl
  | cons c rest ih =>
    have hc : c ≠ sep := fun heq => h (heq ▸ List.mem_cons_self)
    rw [cutLast, ih fun hm => h (List.mem_cons_of_mem _ hm)]
    exact if_neg hc

def after? (head t : Text) : Option Text := head.isPrefixOf? t

/-- The parts before and after the first place where `sep` stands. -/
def cutAround (sep : Text) : Text → Option (Text × Text)
  | [] => if sep.isEmpty then some ([], []) else none
  | c :: rest =>
    match after? sep (c :: rest) with
    | some tail => some ([], tail)
    | none => (cutAround sep rest).map fun parts => (c :: parts.1, parts.2)

/-- The pieces between the separators; there is always at least one. -/
def split (sep : Char) : Text → List Text
  | [] => [[]]
  | c :: rest =>
    if c = sep then [] :: split sep rest
    else
      match split sep rest with
      | [] => [[c]]
      | piece :: pieces => (c :: piece) :: pieces

theorem split_ne_nil (sep : Char) (t : Text) : split sep t ≠ [] := by
  cases t with
  | nil => simp [split]
  | cons c rest =>
    simp only [split]
    split
    · simp
    · split <;> simp

def join (sep : Text) : List Text → Text
  | [] => []
  | [piece] => piece
  | piece :: pieces => piece ++ sep ++ join sep pieces

theorem join_cons (sep piece : Text) {pieces : List Text} (hne : pieces ≠ []) :
    join sep (piece :: pieces) = piece ++ sep ++ join sep pieces := by
  cases pieces with
  | nil => exact absurd rfl hne
  | cons _ _ => rfl

/-! ## Trims -/

def trimFront (p : Char → Bool) (t : Text) : Text := t.dropWhile p

def trimEnd (p : Char → Bool) : Text → Text
  | [] => []
  | c :: rest =>
    match trimEnd p rest with
    | [] => if p c then [] else [c]
    | kept => c :: kept

/-- Where nothing is to be trimmed, a text is left as it is. -/
theorem trimEnd_eq_self {p : Char → Bool} {t : Text} (h : ∀ c ∈ t, p c = false) : trimEnd p t = t := by
  induction t with
  | nil => rfl
  | cons c rest ih =>
    rw [trimEnd, ih fun d hm => h d (List.mem_cons_of_mem _ hm)]
    cases rest with
    | nil => simp [h c List.mem_cons_self]
    | cons _ _ => rfl

/-- The text without the characters of `p` at either end. -/
def trimBoth (p : Char → Bool) (t : Text) : Text := trimEnd p (trimFront p t)

/-! ## Letters -/

/-- The text with the letters A to Z in lower case and every other character as it was. -/
def lower (t : Text) : Text := t.map Char.toLower

def holds (part t : Text) : Bool := (cutAround part t).isSome

def isAscii (t : Text) : Bool := t.all fun c => c.toNat < 128

/-! ## Order -/

/-- Whether a text comes before another or is the same, by the code points of the characters. -/
def le (a b : Text) : Bool := decide (a < b) || a == b

/-! ## Numbers -/

def ofNat (n : Nat) : Text := Nat.toDigits 10 n

def decimal? (t : Text) : Option Nat :=
  if t ≠ [] ∧ t.all Char.isDigit then some (Nat.ofDigitChars 10 t 0) else none

/-- A decimal number up to `limit`, with an optional plus sign. -/
def bounded? (limit : Nat) (t : Text) : Option Nat :=
  let digits := match t with
    | '+' :: rest => rest
    | _ => t
  (decimal? digits).filter (· ≤ limit)

/-- The digit characters of a hexadecimal byte, in lower case. -/
def hexByte (b : Nat) : Text := [Nat.digitChar (b / 16 % 16), Nat.digitChar (b % 16)]

def hexDigit? (c : Char) : Option Nat :=
  if c.isDigit then some (c.toNat - 48)
  else if 'a' ≤ c ∧ c ≤ 'f' then some (c.toNat - 87)
  else if 'A' ≤ c ∧ c ≤ 'F' then some (c.toNat - 55)
  else none

end Text
end Gatehouse
