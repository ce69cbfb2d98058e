import Gatehouse.Text.Basic

/-!
The values of a TOML document, and the tables that its headers and keys build up. A table remembers how
it came about, because that decides what may still be added to it.
-/

namespace Gatehouse.Toml

/-- How a table came about. -/
inductive Origin where
  /-- By a header of its own, or as the document itself. -/
  | header
  /-- On the way to the table of a longer header. -/
  | passage
  /-- By a dotted key. -/
  | dotted
  /-- In braces. -/
  | braces
  deriving DecidableEq

/-- A TOML value. Numbers that are no integers, and dates, are kept without their value. -/
inductive Value where
  | text (t : Text)
  | integer (n : Int)
  | float
  | boolean (b : Bool)
  | date
  /-- An array in brackets. -/
  | array (items : List Value)
  /-- The tables that headers in double brackets made. -/
  | tables (items : List Value)
  | table (origin : Origin) (members : List (Text × Value))

/-- The members of a table, in the order in which they came. -/
abbrev Members := List (Text × Value)

/-- The members with the value of a key changed, or set if there was none. -/
def Members.set (members : Members) (key : Text) (value : Value) : Members :=
  if members.any (·.1 == key) then members.map fun m => if m.1 = key then (key, value) else m
  else members ++ [(key, value)]

/-- A table while it is being built. -/
structure Node where
  origin : Origin
  members : Members

/-- Changes the table that a path leads to. Tables that are missing on the way are made with the given
origin. Where `closed` says so of a table on the way, the path may not pass through it. -/
def Node.change (made : Origin) (closed : Origin → Bool) (act : Node → Option Node) :
    List Text → Node → Option Node
  | [], node => act node
  | key :: path, node =>
    match node.members.lookup key with
    | none => do
      let inner ← change made closed act path ⟨made, []⟩
      pure { node with members := Members.set node.members key (.table inner.origin inner.members) }
    | some (.table origin members) =>
      if closed origin then none
      else do
        let inner ← change made closed act path ⟨origin, members⟩
        pure { node with members := Members.set node.members key (.table inner.origin inner.members) }
    | some (.tables items) =>
      match items.getLast? with
      | some (.table origin members) => do
        let inner ← change made closed act path ⟨origin, members⟩
        let items := items.dropLast ++ [.table inner.origin inner.members]
        pure { node with members := Members.set node.members key (.tables items) }
      | _ => none
    | some _ => none

/-- Adds a key that is not there yet. A dotted key may only add to a table that dotted keys made, a
plain one only to a table they did not make. -/
def Node.addKey (dottedKey : Bool) (key : Text) (value : Value) (node : Node) : Option Node :=
  if decide (node.origin = .dotted) ≠ dottedKey then none
  else if node.members.any (·.1 == key) then none
  else some { node with members := node.members ++ [(key, value)] }

/-- Adds the value of a key, whose parts before the last lead to the table it belongs in. -/
def Node.assign (path : List Text) (value : Value) (node : Node) : Option Node :=
  match path.getLast? with
  | none => none
  | some key =>
    let front := path.dropLast
    node.change .dotted (fun o => o = .header || o = .braces) (Node.addKey (front ≠ []) key value) front

/-- The way that headers take through tables: none is closed except those in braces. -/
def Node.follow (path : List Text) (act : Node → Option Node) (node : Node) : Option Node :=
  node.change .passage (· = .braces) act path

/-- Opens the table of a header: a new one, or one that headers have so far only passed through. -/
def Node.open (path : List Text) (node : Node) : Option Node :=
  match path.getLast? with
  | none => none
  | some key =>
    node.follow path.dropLast fun parent =>
      match parent.members.lookup key with
      | none => some { parent with members := parent.members ++ [(key, .table .header [])] }
      | some (.table .passage members) =>
        some { parent with members := Members.set parent.members key (.table .header members) }
      | some _ => none

/-- Adds a table to those of a header in double brackets. -/
def Node.append (path : List Text) (node : Node) : Option Node :=
  match path.getLast? with
  | none => none
  | some key =>
    node.follow path.dropLast fun parent =>
      match parent.members.lookup key with
      | none => some { parent with members := parent.members ++ [(key, .tables [.table .header []])] }
      | some (.tables items) =>
        let items := items ++ [.table .header []]
        some { parent with members := Members.set parent.members key (.tables items) }
      | some _ => none

def Node.ofPairs (pairs : List (List Text × Value)) : Option Node :=
  pairs.foldlM (fun node pair => node.assign pair.1 pair.2) ⟨.braces, []⟩

end Gatehouse.Toml
