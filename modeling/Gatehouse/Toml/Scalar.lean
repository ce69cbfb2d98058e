import Gatehouse.Toml.Reader

/-!
Scalars of TOML 1.0: strings of four kinds, integers in four bases, floating-point numbers, dates and
times, booleans.
-/

namespace Gatehouse.Toml

/-! ## Strings -/

/-- Whether a character may stand for itself in a string: no control character except the tab. -/
def isPlainChar (c : Char) : Bool := c = '\t' || (32 ≤ c.toNat && c.toNat ≠ 127)

def hexValue? (digits : Text) : Option Nat :=
  (digits.mapM Text.hexDigit?).map fun ds => ds.foldl (fun n d => n * 16 + d) 0

/-- The character with this code point, which is no surrogate. -/
def charOf? (n : Nat) : Option Char :=
  if h : n.isValidChar then some (Char.ofNatAux n h) else none

/-- Takes a character that is given by `count` hexadecimal digits. -/
def readCodePoint (count : Nat) : Reader Char := fun s =>
  if s.length < count then none
  else ((hexValue? (s.take count)).bind charOf?).map fun c => (c, s.drop count)

def readEscape : Reader Char
  | 'b' :: rest => some ('\x08', rest)
  | 't' :: rest => some ('\t', rest)
  | 'n' :: rest => some ('\n', rest)
  | 'f' :: rest => some ('\x0c', rest)
  | 'r' :: rest => some ('\r', rest)
  | '"' :: rest => some ('"', rest)
  | '\\' :: rest => some ('\\', rest)
  | 'u' :: rest => readCodePoint 4 rest
  | 'U' :: rest => readCodePoint 8 rest
  | _ => none

/-- Takes one character of a string on one line that ends with `quote`; escapes count where the quote is
a double one. -/
def readStringChar (quote : Char) : Reader Char
  | '\\' :: rest => if quote = '"' then readEscape rest else some ('\\', rest)
  | c :: rest => if c ≠ quote ∧ isPlainChar c then some (c, rest) else none
  | [] => none

def readLineString (quote : Char) : Reader Text := fun s => do
  let (_, rest) ← readChar quote s
  let (t, rest) := readEach (readStringChar quote) rest
  let (_, rest) ← readChar quote rest
  pure (t, rest)

/-- Takes the end of a line and the blanks and line ends after it. -/
def readFold : Reader Unit := fun s => do
  let (_, rest) ← readNewline (skipSpaces s)
  pure ((), (readEach (fun s => match s with
    | ' ' :: r => some ((), r)
    | '\t' :: r => some ((), r)
    | _ => readNewline s) rest).2)

/-- Takes one piece of a string over several lines, quotes apart: a character, a line end, an escape, or
a backslash that folds the line. -/
def readBlockPiece (quote : Char) (s : Text) : Option (Text × Text) :=
  match readNewline s with
  | some (_, rest) => some (['\n'], rest)
  | none =>
    match s with
    | '\\' :: rest =>
      if quote = '"' then
        match readFold rest with
        | some (_, rest) => some ([], rest)
        | none => (readEscape rest).map fun (c, rest) => ([c], rest)
      else some (['\\'], rest)
    | c :: rest => if c ≠ quote ∧ isPlainChar c then some ([c], rest) else none
    | [] => none

/-- Takes a run of one or two quotes that does not end the string. -/
def readInnerQuotes (quote : Char) (s : Text) : Option (Text × Text) :=
  let run := s.takeWhile (· = quote)
  if 1 ≤ run.length ∧ run.length ≤ 2 then some (run, s.drop run.length) else none

/-- Takes a string over several lines. Up to two quotes may stand just before the three that end it. -/
def readBlockString (quote : Char) : Reader Text := fun s => do
  let (_, rest) ← readText [quote, quote, quote] s
  let rest := match readNewline rest with
    | some (_, rest) => rest
    | none => rest
  let (pieces, rest) := readEach (fun s => match readBlockPiece quote s with
    | some taken => some taken
    | none => readInnerQuotes quote s) rest
  let run := rest.takeWhile (· = quote)
  if 3 ≤ run.length then
    let kept := min (run.length - 3) 2
    pure (pieces.flatten ++ run.take kept, rest.drop (kept + 3))
  else none

def readString : Reader Text := fun s =>
  match s with
  | '"' :: '"' :: '"' :: _ => readBlockString '"' s
  | '"' :: _ => readLineString '"' s
  | '\'' :: '\'' :: '\'' :: _ => readBlockString '\'' s
  | '\'' :: _ => readLineString '\'' s
  | _ => none

/-! ## Numbers -/

/-- Takes one or more digits of a class, with single underscores between digits. -/
def readDigits (isDigit : Char → Bool) : Reader Text := fun s => do
  let one : Reader Char := fun s =>
    match s with
    | c :: rest => if isDigit c then some (c, rest) else none
    | [] => none
  let (first, rest) ← one s
  let (more, rest) := readEach (fun s => match s with
    | '_' :: rest => one rest
    | _ => one s) rest
  match rest with
  | '_' :: _ => none
  | _ => pure (first :: more, rest)

def readSign : Text → Bool × Text
  | '+' :: rest => (false, rest)
  | '-' :: rest => (true, rest)
  | s => (false, s)

/-- Takes decimal digits that do not start with a zero, or a single zero. -/
def readWhole : Reader Text := fun s =>
  match s with
  | '0' :: rest => some (['0'], rest)
  | _ => readDigits Char.isDigit s

def digitsValue (base : Nat) (digits : Text) : Nat :=
  digits.foldl (fun n c => n * base + (Text.hexDigit? c).getD 0) 0

def int64? (n : Int) : Option Int :=
  if -0x8000000000000000 ≤ n ∧ n < 0x8000000000000000 then some n else none

def readBased (base : Nat) : Reader Int := fun s => do
  let isDigit : Char → Bool := fun c => (Text.hexDigit? c).any (· < base)
  let (digits, rest) ← readDigits isDigit s
  let n ← int64? (digitsValue base digits)
  pure (n, rest)

def readInteger : Reader Int := fun s =>
  match s with
  | '0' :: 'x' :: rest => readBased 16 rest
  | '0' :: 'o' :: rest => readBased 8 rest
  | '0' :: 'b' :: rest => readBased 2 rest
  | _ => do
    let (negative, rest) := readSign s
    let (digits, rest) ← readWhole rest
    let n := Nat.ofDigitChars 10 digits 0
    let n ← int64? (if negative then -n else n)
    pure (n, rest)

/-- Whether digits, scaled by a power of ten, are beyond the numbers of double precision. -/
def overflows (digits : Text) (exponent : Int) : Bool :=
  let n := Nat.ofDigitChars 10 digits 0
  let limit := Nat.pow 2 1024 - Nat.pow 2 970
  if n = 0 then false
  else if 0 ≤ exponent then
    decide (exponent > 400) || decide (n * Nat.pow 10 exponent.toNat ≥ limit)
  else
    let down := (-exponent).toNat
    if down > digits.length then false else decide (n ≥ limit * Nat.pow 10 down)

def readFraction : Reader Text := fun s => do
  let (_, rest) ← readChar '.' s
  readDigits Char.isDigit rest

def readExponent : Reader Int := fun s =>
  match s with
  | c :: rest =>
    if c = 'e' ∨ c = 'E' then do
      let (negative, rest) := readSign rest
      let (digits, rest) ← readDigits Char.isDigit rest
      let n : Int := Nat.ofDigitChars 10 digits 0
      pure (if negative then -n else n, rest)
    else none
  | [] => none

/-- Takes a floating-point number that has a point, an exponent or both; it must be finite unless it is
negative. -/
def readDecimal : Reader Unit := fun s => do
  let (negative, rest) := readSign s
  let (whole, rest) ← readWhole rest
  let (fraction, rest, hasFraction) := match readFraction rest with
    | some (fraction, rest) => (fraction, rest, true)
    | none => (([] : Text), rest, false)
  let (exponent, rest, hasExponent) := match readExponent rest with
    | some (exponent, rest) => (exponent, rest, true)
    | none => ((0 : Int), rest, false)
  if !hasFraction && !hasExponent then none
  else if !negative && overflows (whole ++ fraction) (exponent - fraction.length) then none
  else pure ((), rest)

def readSpecial : Reader Unit := fun s =>
  let (_, rest) := readSign s
  match readText "inf" rest with
  | some taken => some taken
  | none => readText "nan" rest

/-! ## Dates and times -/

def readFixed (count low high : Nat) : Reader Nat := fun s =>
  let digits := s.take count
  if digits.length = count ∧ digits.all Char.isDigit then
    let n := Nat.ofDigitChars 10 digits 0
    if low ≤ n ∧ n ≤ high then some (n, s.drop count) else none
  else none

def daysIn (year month : Nat) : Nat :=
  if month = 2 then
    if year % 4 = 0 ∧ (year % 100 ≠ 0 ∨ year % 400 = 0) then 29 else 28
  else if month = 4 ∨ month = 6 ∨ month = 9 ∨ month = 11 then 30
  else 31

def readDay : Reader Unit := fun s => do
  let (year, rest) ← readFixed 4 0 9999 s
  let (_, rest) ← readChar '-' rest
  let (month, rest) ← readFixed 2 1 12 rest
  let (_, rest) ← readChar '-' rest
  let (_, rest) ← readFixed 2 1 (daysIn year month) rest
  pure ((), rest)

def readTime : Reader Unit := fun s => do
  let (_, rest) ← readFixed 2 0 23 s
  let (_, rest) ← readChar ':' rest
  let (_, rest) ← readFixed 2 0 59 rest
  let (_, rest) ← readChar ':' rest
  let (_, rest) ← readFixed 2 0 60 rest
  match rest with
  | '.' :: more =>
    match more.takeWhile Char.isDigit with
    | [] => none
    | digits => pure ((), more.drop digits.length)
  | _ => pure ((), rest)

def readOffset : Reader Unit := fun s =>
  match s with
  | 'Z' :: rest => some ((), rest)
  | 'z' :: rest => some ((), rest)
  | c :: rest =>
    if c = '+' ∨ c = '-' then do
      let (_, rest) ← readFixed 2 0 23 rest
      let (_, rest) ← readChar ':' rest
      let (_, rest) ← readFixed 2 0 59 rest
      pure ((), rest)
    else none
  | [] => none

/-- Takes a date, a time, or both with or without an offset. -/
def readDate : Reader Unit := fun s =>
  match readDay s with
  | none => readTime s
  | some (_, rest) =>
    match rest with
    | c :: more =>
      if c = 'T' ∨ c = 't' ∨ c = ' ' then
        match readTime more with
        | none => some ((), rest)
        | some (_, rest) =>
          match readOffset rest with
          | some taken => some taken
          | none => some ((), rest)
      else some ((), rest)
    | [] => some ((), rest)

end Gatehouse.Toml
