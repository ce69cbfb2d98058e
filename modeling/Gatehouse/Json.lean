import Gatehouse.Text.Basic

/-!
JSON values and their compact text: no spaces, members in the order in which they are given.
-/

namespace Gatehouse

/-- A JSON value whose numbers are natural. -/
inductive Json where
  | null
  | bool (b : Bool)
  | num (n : Nat)
  | str (t : Text)
  | arr (items : List Json)
  | obj (members : List (Text × Json))

namespace Json

/-- One character of a string: quotes, backslashes and control characters are escaped. -/
def escapeChar (c : Char) : Text :=
  if c = '"' then "\\\""
  else if c = '\\' then "\\\\"
  else if c = '\x08' then "\\b"
  else if c = '\x0c' then "\\f"
  else if c = '\n' then "\\n"
  else if c = '\r' then "\\r"
  else if c = '\t' then "\\t"
  else if c.toNat < 32 then "\\u00" ++ Text.hexByte c.toNat
  else [c]

def quote (t : Text) : Text := "\"" ++ t.flatMap escapeChar ++ "\""

mutual

def render : Json → Text
  | null => "null"
  | bool true => "true"
  | bool false => "false"
  | num n => Text.ofNat n
  | str t => quote t
  | arr items => "[" ++ renderItems items ++ "]"
  | obj members => "\x7b" ++ renderMembers members ++ "\x7d"

def renderItems : List Json → Text
  | [] => []
  | [item] => render item
  | item :: rest => render item ++ "," ++ renderItems rest

def renderMembers : List (Text × Json) → Text
  | [] => []
  | [(name, value)] => quote name ++ ":" ++ render value
  | (name, value) :: rest => quote name ++ ":" ++ render value ++ "," ++ renderMembers rest

end

end Json
end Gatehouse
