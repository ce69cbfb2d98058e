import Gatehouse.Text.Basic

/-!
Readers of TOML text: functions that take a value off the front of a text and give the rest back. This
module holds the general ones, and those for blanks, line ends and comments.
-/

namespace Gatehouse.Toml

/-- Takes a value off the front of a text, if one stands there. -/
abbrev Reader (α : Type) := Text → Option (α × Text)

def readChar (c : Char) : Reader Unit
  | d :: rest => if d = c then some ((), rest) else none
  | [] => none

def readText (t : Text) : Reader Unit := fun s => (Text.after? t s).map fun rest => ((), rest)

/-- Takes values as long as there are any, and at most so many. -/
def readUpTo {α : Type} (item : Reader α) : Nat → Text → List α × Text
  | 0, s => ([], s)
  | count + 1, s =>
    match item s with
    | none => ([], s)
    | some (a, rest) =>
      let more := readUpTo item count rest
      (a :: more.1, more.2)

/-- Takes values, each of which takes at least one character, as long as there are any. -/
def readEach {α : Type} (item : Reader α) (s : Text) : List α × Text := readUpTo item s.length s

/-- Takes values as long as there are any; a value that takes nothing ends the list. -/
def readMany {α : Type} (item : Reader α) (s : Text) : List α × Text :=
  match item s with
  | none => ([], s)
  | some (a, rest) =>
    if _h : rest.length < s.length then
      let more := readMany item rest
      (a :: more.1, more.2)
    else ([], s)
termination_by s.length

/-- Takes one value, and then each further one that follows a separator. A separator that no value
follows is left in place. -/
def readSeparated {α : Type} (item : Reader α) (sep : Reader Unit) : Reader (List α) := fun s => do
  let (first, rest) ← item s
  let (more, rest) := readMany (fun s => do let (_, s) ← sep s; item s) rest
  pure (first :: more, rest)

/-! ## Blanks, line ends, comments -/

def isSpace (c : Char) : Bool := c = ' ' || c = '\t'

def skipSpaces (s : Text) : Text := s.dropWhile isSpace

def readNewline : Reader Unit
  | '\n' :: rest => some ((), rest)
  | '\r' :: '\n' :: rest => some ((), rest)
  | _ => none

/-- Whether a character may stand in a comment: no control character except the tab. -/
def isCommentChar (c : Char) : Bool := c = '\t' || (32 ≤ c.toNat && c.toNat ≠ 127)

/-- The text after the comment that stands at its front, if one does. -/
def skipComment : Text → Text
  | '#' :: rest => rest.dropWhile isCommentChar
  | s => s

/-- Takes what may stand after an expression: blanks, a comment, and the end of the line or text. -/
def readLineEnd : Reader Unit := fun s =>
  match skipComment (skipSpaces s) with
  | [] => some ((), [])
  | rest => readNewline rest

/-- Takes one line that holds no more than blanks and a comment, or a blank. -/
def readGap : Reader Unit := fun s =>
  match skipSpaces s with
  | '#' :: rest => readNewline (rest.dropWhile isCommentChar)
  | rest =>
    match readNewline rest with
    | some taken => some taken
    | none => some ((), rest)

/-- The text after the blanks, comments and line ends at its front. -/
def skipGaps (s : Text) : Text := (readMany readGap s).2

end Gatehouse.Toml
