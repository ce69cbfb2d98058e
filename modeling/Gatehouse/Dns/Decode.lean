import Gatehouse.Dns.Message
import Gatehouse.Dns.RecordData

/-!
Reading DNS messages. Every record must be well formed, although the server uses the questions only.
-/

namespace Gatehouse.Dns

/-! ## Questions -/

def readQuestion (message : Bytes) (c : Cursor) : Option (Question × Cursor) := do
  let (name, c) ← readName message c
  let (kind, c) ← c.word?
  let (net, c) ← c.word?
  pure (⟨name, kind, net⟩, c)

def readQuestions (message : Bytes) : Nat → Cursor → Option (List Question × Cursor)
  | 0, c => some ([], c)
  | count + 1, c => do
    let (question, c) ← readQuestion message c
    let (more, c) ← readQuestions message count c
    pure (question :: more, c)

/-! ## Records -/

/-- Takes a record, and tells its type. Data of no length is allowed for every type. -/
def readRecord (message : Bytes) (c : Cursor) : Option (Nat × Cursor) := do
  let (name, c) ← readName message c
  let (kind, c) ← c.word?
  if kind = kindOpt ∧ name ≠ [] then none
  else
    let c ← c.skip? 6
    let (length, c) ← c.word?
    if c.rest.length < length then none
    else if length = 0 then pure (kind, c)
    else
      let stop := c.position + length
      let c ← skipData message kind length c
      if c.position = stop then pure (kind, c) else none

def readRecords (message : Bytes) : Nat → Cursor → Option (List Nat × Cursor)
  | 0, c => some ([], c)
  | count + 1, c => do
    let (kind, c) ← readRecord message c
    let (more, c) ← readRecords message count c
    pure (kind :: more, c)

/-! ## Messages -/

/-- The message that the bytes start with. Of the records among the additional ones, at most one may be
an extension record. Bytes after the message do not count. -/
def Query.decode? (message : Bytes) : Option Query := do
  let c : Cursor := ⟨0, message⟩
  let (id, c) ← c.word?
  let (flags, c) ← c.byte?
  let opcode ← Opcode.ofCode? (flags / 8 % 16)
  let (_, c) ← c.byte?
  let (questionCount, c) ← c.word?
  let (answerCount, c) ← c.word?
  let (authorityCount, c) ← c.word?
  let (additionalCount, c) ← c.word?
  let (questions, c) ← readQuestions message questionCount c
  let (_, c) ← readRecords message answerCount c
  let (_, c) ← readRecords message authorityCount c
  let (kinds, _) ← readRecords message additionalCount c
  if kinds.count kindOpt ≤ 1 then
    pure ⟨id, flags / 128 == 1, opcode, flags % 2 == 1, questions⟩
  else none

end Gatehouse.Dns
