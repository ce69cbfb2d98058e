import Gatehouse.Dns.Message

/-!
Writing DNS messages. A name that ends in the same labels as one written before ends in a pointer to them.
-/

namespace Gatehouse.Dns

def maxMessageLength : Nat := 65535

/-- A message that is being written: its bytes, and the ends of names that a pointer may lead to, each
with the place where it stands. -/
structure Draft where
  bytes : Bytes
  suffixes : List (Name × Nat)

namespace Draft

def write (d : Draft) (b : Bytes) : Option Draft :=
  if d.bytes.length + b.length ≤ maxMessageLength then some { d with bytes := d.bytes ++ b } else none

def word (n : Nat) : Bytes := [UInt8.ofNat (n / 256), UInt8.ofNat n]

def long (n : Nat) : Bytes := word (n / 65536) ++ word n

def labelBytes (name : Name) : Bytes := name.flatMap fun label => UInt8.ofNat label.length :: label

def pointerLimit : Nat := 0x3FFF

/-- The draft with the labels of a name, and the pointer or root that ends it. The labels of the whole
name must have room even where a pointer then saves some. `last` is where they would end. -/
def writeLabels (last : Nat) (d : Draft) : Name → Option Draft
  | [] => d.write [0]
  | label :: rest =>
    match d.suffixes.lookup (label :: rest) with
    | some place => d.write (word (0xC000 + place % 0x4000))
    | none =>
      let here := d.bytes.length
      let suffixes := if last < pointerLimit then d.suffixes ++ [(label :: rest, here)] else d.suffixes
      let d : Draft := ⟨d.bytes ++ labelBytes [label], suffixes⟩
      writeLabels last d rest

def writeName (d : Draft) (name : Name) : Option Draft :=
  let last := d.bytes.length + (labelBytes name).length
  if last ≤ maxMessageLength then writeLabels last d name else none

def writeQuestion (d : Draft) (q : Question) : Option Draft := do
  let d ← d.writeName q.name
  d.write (word q.kind ++ word q.net)

def writeAnswer (d : Draft) (a : AddressRecord) : Option Draft := do
  let d ← d.writeName a.name
  d.write (word kindA ++ word netInternet ++ long a.ttl ++ word 4 ++ a.ip.octets.map UInt8.ofNat)

end Draft

def flag (b : Bool) (value : Nat) : Nat := if b then value else 0

def Reply.encode? (r : Reply) : Option Bytes := do
  let high := 128 + 8 * r.opcode.code + flag r.authoritative 4 + flag r.recursionDesired 1
  let low := flag r.recursionAvailable 128 + r.code.code
  let header := Draft.word r.id ++ [UInt8.ofNat high, UInt8.ofNat low] ++
    Draft.word r.questions.length ++ Draft.word r.answers.length ++ Draft.word 0 ++ Draft.word 0
  let d ← r.questions.foldlM Draft.writeQuestion ⟨header, []⟩
  let d ← r.answers.foldlM Draft.writeAnswer d
  pure d.bytes

end Gatehouse.Dns
