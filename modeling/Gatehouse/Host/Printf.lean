import Gatehouse.Text.Utf8

/-!
Texts with escapes and places for arguments, as the shell's `echo` and `printf` write them. An escape in
octal stands for one byte, so what is written need not be UTF-8.
-/

namespace Gatehouse.Host.Printf

/-- The letters that name a character behind a backslash. -/
def named : List (Char × UInt8) :=
  [('a', 7), ('b', 8), ('t', 9), ('n', 10), ('v', 11), ('f', 12), ('r', 13), ('\\', 0x5C)]

def isOctal (c : Char) : Bool := '0' ≤ c && c ≤ '7'

/-- The byte that stands behind a backslash, and how many characters spell it. Where nothing is spelled, the
backslash stands for itself. A leading zero does not count among the digits where `zero`. -/
def escape (zero : Bool) (t : Text) : UInt8 × Nat :=
  let skipped := if zero && t.head? == some '0' then 1 else 0
  let digits := ((t.drop skipped).take 3).takeWhile isOctal
  if digits ≠ [] then (UInt8.ofNat (Nat.ofDigitChars 8 digits 0), skipped + digits.length)
  else if skipped = 1 then (0, 1)
  else
    match t.head?.bind fun c => named.lookup c with
    | some b => (b, 1)
    | none => (0x5C, 0)

def unescape (zero : Bool) (t : Text) : Bytes :=
  match t with
  | [] => []
  | c :: rest =>
    if c = '\\' then (escape zero rest).1 :: unescape zero (rest.drop (escape zero rest).2)
    else Text.utf8 [c] ++ unescape zero rest
termination_by t.length
decreasing_by all_goals simp only [List.length_drop, List.length_cons]; omega

def shown (kind : Char) (argument : Text) : Bytes :=
  if kind = 'b' then unescape true argument
  else if kind = 's' then Text.utf8 argument
  else if kind = 'c' then Text.utf8 (argument.take 1)
  else Text.utf8 (if argument = [] then ['0'] else argument)

/-- A format with its escapes undone and its places filled, and the arguments that are left. -/
def fill (arguments : List Text) (t : Text) : Bytes × List Text :=
  match t with
  | [] => ([], arguments)
  | '%' :: '%' :: rest =>
    let filled := fill arguments rest
    (0x25 :: filled.1, filled.2)
  | '%' :: kind :: rest =>
    let filled := fill arguments.tail rest
    (shown kind (arguments.headD []) ++ filled.1, filled.2)
  | c :: rest =>
    if c = '\\' then
      let filled := fill arguments (rest.drop (escape false rest).2)
      ((escape false rest).1 :: filled.1, filled.2)
    else
      let filled := fill arguments rest
      (Text.utf8 [c] ++ filled.1, filled.2)
termination_by t.length
decreasing_by all_goals simp only [List.length_drop, List.length_cons]; omega

/-- A format filled again and again until no arguments are left, at most `rounds` times. -/
def fillAll (format : Text) : Nat → List Text → Bytes
  | 0, _ => []
  | rounds + 1, arguments =>
    let filled := fill arguments format
    if filled.2 = [] ∨ filled.2.length = arguments.length then filled.1
    else filled.1 ++ fillAll format rounds filled.2

def printf (format : Text) (arguments : List Text) : Bytes :=
  fillAll format (arguments.length + 1) arguments

def echo (arguments : List Text) : Bytes :=
  match arguments with
  | ['-', 'n'] :: rest => unescape true (Text.join " " rest)
  | _ => unescape true (Text.join " " arguments) ++ [10]

end Gatehouse.Host.Printf
