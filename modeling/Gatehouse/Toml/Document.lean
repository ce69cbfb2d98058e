import Gatehouse.Toml.Scalar
import Gatehouse.Toml.Value

/-!
TOML 1.0 documents: keys, values, and the lines that headers and pairs take. `parse` gives the table of
a whole document, or nothing if the text is not TOML.
-/

namespace Gatehouse.Toml

/-! ## Keys -/

/-- Whether a character may stand in a key without quotes. -/
def isBareChar (c : Char) : Bool := c.isAlphanum || c = '_' || c = '-'

def readKeyPart : Reader Text := fun s =>
  match s with
  | '"' :: _ => readLineString '"' s
  | '\'' :: _ => readLineString '\'' s
  | _ =>
    match s.takeWhile isBareChar with
    | [] => none
    | word => some (word, s.drop word.length)

/-- Values nest, and keys have parts, less than so often. -/
def depthLimit : Nat := 80

/-- Takes a key, of one or more parts with dots between them and blanks around them. -/
def readKey : Reader (List Text) := fun s => do
  let part : Reader Text := fun s => do
    let (t, rest) ← readKeyPart (skipSpaces s)
    pure (t, skipSpaces rest)
  let (parts, rest) ← readSeparated part (readChar '.') s
  if parts.length < depthLimit then pure (parts, rest) else none

/-! ## Values -/

def readNumber : Reader Value := fun s =>
  match readDate s with
  | some (_, rest) => some (.date, rest)
  | none =>
    match readDecimal s with
    | some (_, rest) => some (.float, rest)
    | none =>
      match readSpecial s with
      | some (_, rest) => some (.float, rest)
      | none => (readInteger s).map fun (n, rest) => (.integer n, rest)

/-- Takes the values of an array and its closing bracket; the last value may be followed by a comma. -/
def readItems (value : Reader Value) : Reader (List Value) := fun s => do
  let item : Reader Value := fun s => do
    let (v, rest) ← value (skipGaps s)
    pure (v, skipGaps rest)
  let (items, rest) := match readSeparated item (readChar ',') s with
    | some (items, rest) =>
      (items, match readChar ',' rest with
        | some (_, rest) => rest
        | none => rest)
    | none => ([], s)
  let (_, rest) ← readChar ']' (skipGaps rest)
  pure (items, rest)

def readPair (value : Reader Value) : Reader (List Text × Value) := fun s => do
  let (key, rest) ← readKey s
  let (_, rest) ← readChar '=' rest
  let (v, rest) ← value (skipSpaces rest)
  pure ((key, v), rest)

/-- Takes the pairs of a table in braces and its closing brace. -/
def readPairs (value : Reader Value) : Reader Value := fun s => do
  let pair : Reader (List Text × Value) := fun s => do
    let (p, rest) ← readPair value s
    pure (p, skipSpaces rest)
  let (pairs, rest) := (readSeparated pair (readChar ',') s).getD ([], s)
  let (_, rest) ← readChar '\x7d' (skipSpaces rest)
  let node ← Node.ofPairs pairs
  pure (.table node.origin node.members, rest)

/-- Takes a value whose brackets and braces nest less than so deep. -/
def readValue : Nat → Reader Value
  | 0, _ => none
  | depth + 1, s =>
    match s with
    | '[' :: rest =>
      if depth = 0 then none
      else (readItems (readValue depth) rest).map fun (items, rest) => (.array items, rest)
    | '\x7b' :: rest => if depth = 0 then none else readPairs (readValue depth) rest
    | _ =>
      match readString s with
      | some (t, rest) => some (.text t, rest)
      | none =>
        match readText "true" s with
        | some (_, rest) => some (.boolean true, rest)
        | none =>
          match readText "false" s with
          | some (_, rest) => some (.boolean false, rest)
          | none => readNumber s

/-! ## Documents -/

/-- One line of a document, or several where a value spans them. -/
inductive Line where
  | blank
  | pair (key : List Text) (value : Value)
  | header (key : List Text)
  | tables (key : List Text)

def readLineBody : Reader Line := fun s =>
  match skipSpaces s with
  | [] => some (.blank, [])
  | '#' :: rest => some (.blank, '#' :: rest)
  | '\n' :: rest => some (.blank, '\n' :: rest)
  | '\r' :: rest => some (.blank, '\r' :: rest)
  | '[' :: '[' :: rest => do
    let (key, rest) ← readKey rest
    let (_, rest) ← readText "]]" rest
    pure (.tables key, rest)
  | '[' :: rest => do
    let (key, rest) ← readKey rest
    let (_, rest) ← readChar ']' rest
    pure (.header key, rest)
  | rest => (readPair (readValue depthLimit) rest).map fun (p, rest) => (.pair p.1 p.2, rest)

def readLine : Reader Line := fun s => do
  let (line, rest) ← readLineBody s
  let (_, rest) ← readLineEnd rest
  pure (line, rest)

/-- A document that is being read: its table so far, and the header that pairs belong under. -/
structure Draft where
  root : Node
  current : List Text

/-- The draft with one more line. -/
def Draft.add (d : Draft) : Line → Option Draft
  | .blank => some d
  | .pair key value => do
    let root ← d.root.follow d.current (Node.assign key value)
    pure { d with root := root }
  | .header key => do
    let root ← d.root.open key
    pure ⟨root, key⟩
  | .tables key => do
    let root ← d.root.append key
    pure ⟨root, key⟩

def skipMark : Text → Text
  | '\uFEFF' :: rest => rest
  | s => s

def parse (t : Text) : Option Members := do
  let (lines, rest) := readMany readLine (skipMark t)
  if rest ≠ [] then none
  else
    let draft ← lines.foldlM Draft.add ⟨⟨.header, []⟩, []⟩
    pure draft.root.members

end Gatehouse.Toml
