import Gatehouse.Dns.Name

/-!
Places in a message and what is read there: numbers, strings, and names, which may end in a pointer to
labels that stand before them.
-/

namespace Gatehouse.Dns

/-- A place in a message: the bytes from there on, and how many came before. -/
structure Cursor where
  position : Nat
  rest : Bytes

namespace Cursor

def byte? (c : Cursor) : Option (Nat × Cursor) :=
  match c.rest with
  | [] => none
  | b :: rest => some (b.toNat, ⟨c.position + 1, rest⟩)

def word? (c : Cursor) : Option (Nat × Cursor) :=
  match c.rest with
  | hi :: lo :: rest => some (256 * hi.toNat + lo.toNat, ⟨c.position + 2, rest⟩)
  | _ => none

def take? (count : Nat) (c : Cursor) : Option (Bytes × Cursor) :=
  if count ≤ c.rest.length then some (c.rest.take count, ⟨c.position + count, c.rest.drop count⟩)
  else none

def skip? (count : Nat) (c : Cursor) : Option Cursor := (c.take? count).map (·.2)

def string? (c : Cursor) : Option (Bytes × Cursor) := do
  let (length, c) ← c.byte?
  c.take? length

end Cursor

/-! ## Names -/

/-- Takes the labels of a name that started at `start` and has `used` bytes so far. It must end before
`bound`. A pointer leads to a place before `start`, and the labels there must end before `start`. -/
def readLabels (message : Bytes) (start bound used : Nat) (c : Cursor) :
    Option (Name × Cursor) :=
  if bound ≤ c.position then none
  else
    match _h : c.rest with
    | [] => none
    | length :: rest =>
      let n := length.toNat
      if n = 0 then some ([], ⟨c.position + 1, rest⟩)
      else if 0xC0 ≤ n then
        match rest with
        | [] => none
        | low :: rest =>
          let target := 256 * (n - 0xC0) + low.toNat
          if _ht : target < start then
            (readLabels message target start used ⟨target, message.drop target⟩).map fun taken =>
              (taken.1, ⟨c.position + 2, rest⟩)
          else none
      else if n < 0x40 then
        if n ≤ rest.length ∧ used + n + 1 < maxNameLength then
          (readLabels message start bound (used + n + 1) ⟨c.position + 1 + n, rest.drop n⟩).map
            fun taken => (rest.take n :: taken.1, taken.2)
        else none
      else none
termination_by (start, c.rest.length)
decreasing_by
  all_goals simp_wf
  · exact Prod.Lex.left _ _ _ht
  · apply Prod.Lex.right
    simp only [_h, List.length_cons]
    omega

def readName (message : Bytes) (c : Cursor) : Option (Name × Cursor) :=
  readLabels message c.position (message.length + 1) 0 c

def skipName (message : Bytes) (c : Cursor) : Option Cursor := (readName message c).map (·.2)

end Gatehouse.Dns
