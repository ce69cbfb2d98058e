import Gatehouse.Proofs.Dns.Encoding

/-!
Messages as a client reads them in full. Main statements: `query_of_decode?`, by which the server's own reader takes the
same from a message, and `decode?_encoding`, by which a reply is read as it was.
-/

namespace Gatehouse.Dns

open Draft (word long)

/-! ## Reading all of a message -/

/-- All that a message says whose answers are addresses. Of the records behind the answers the types are read, and
`left` is what comes after the message. -/
structure Message where
  id : Nat
  isResponse : Bool
  opcode : Opcode
  authoritative : Bool
  truncated : Bool
  recursionDesired : Bool
  recursionAvailable : Bool
  reserved : Nat
  code : Nat
  questions : List Question
  answers : List AddressRecord
  authority : List Nat
  additional : List Nat
  left : Bytes

def readAnswers (message : Bytes) : Nat → Cursor → Option (List AddressRecord × Cursor)
  | 0, c => some ([], c)
  | count + 1, c => do
    let (record, c) ← readAddress message c
    let (more, c) ← readAnswers message count c
    pure (record :: more, c)

def Message.decode? (message : Bytes) : Option Message := do
  let c : Cursor := ⟨0, message⟩
  let (id, c) ← c.word?
  let (flags, c) ← c.byte?
  let opcode ← Opcode.ofCode? (flags / 8 % 16)
  let (more, c) ← c.byte?
  let (questionCount, c) ← c.word?
  let (answerCount, c) ← c.word?
  let (authorityCount, c) ← c.word?
  let (additionalCount, c) ← c.word?
  let (questions, c) ← readQuestions message questionCount c
  let (answers, c) ← readAnswers message answerCount c
  let (authority, c) ← readRecords message authorityCount c
  let (additional, c) ← readRecords message additionalCount c
  pure {
    id := id
    isResponse := flags / 128 == 1
    opcode := opcode
    authoritative := flags / 4 % 2 == 1
    truncated := flags / 2 % 2 == 1
    recursionDesired := flags % 2 == 1
    recursionAvailable := more / 128 == 1
    reserved := more / 16 % 8
    code := more % 16
    questions := questions
    answers := answers
    authority := authority
    additional := additional
    left := c.rest }

/-- What the server's own reader takes from a message. -/
def Message.query (m : Message) : Query := ⟨m.id, m.isResponse, m.opcode, m.recursionDesired, m.questions⟩

variable {message bytes : Bytes} {c c' : Cursor} {position : Nat}

theorem skip?_of_word? {n : Nat} (h : c.word? = some (n, c')) (count : Nat) : c.skip? (count + 2) = c'.skip? count := by
  obtain ⟨position, rest⟩ := c
  match rest with
  | [] => cases h
  | [_] => cases h
  | hi :: lo :: rest =>
    obtain ⟨-, rfl⟩ := Prod.mk.inj (Option.some.inj h)
    simp only [Cursor.skip?, Cursor.take?, List.length_cons, Nat.add_le_add_iff_right]
    split
    · simp [Nat.add_left_comm, Nat.add_comm]
    · rfl

/-- What is read as an address is a record of its type. -/
theorem readRecord_of_readAddress {record : AddressRecord} (h : readAddress message c = some (record, c')) :
    readRecord message c = some (kindA, c') := by
  obtain ⟨⟨name, _⟩, hname, h⟩ := Option.bind_eq_some_iff.mp h
  obtain ⟨⟨kind, _⟩, hkind, h⟩ := Option.bind_eq_some_iff.mp h
  obtain ⟨⟨net, _⟩, hnet, h⟩ := Option.bind_eq_some_iff.mp h
  obtain ⟨⟨high, _⟩, hhigh, h⟩ := Option.bind_eq_some_iff.mp h
  obtain ⟨⟨low, behind⟩, hlow, h⟩ := Option.bind_eq_some_iff.mp h
  obtain ⟨⟨length, before⟩, hlength, h⟩ := Option.bind_eq_some_iff.mp h
  obtain ⟨⟨data, _⟩, hdata, h⟩ := Option.bind_eq_some_iff.mp h
  obtain ⟨⟨rfl, rfl, rfl⟩, h⟩ := Option.ite_none_right_eq_some.mp h
  obtain ⟨-, rfl⟩ := Prod.mk.inj (Option.some.inj h)
  -- class and time to live are passed over together, and the data is the four bytes that were taken
  have hnumbers : _ = some behind :=
    (skip?_of_word? hnet 4).trans ((skip?_of_word? hhigh 2).trans (skip?_of_word? hlow 0))
  have htaken := hdata
  rw [Cursor.take?, Option.ite_none_right_eq_some] at htaken
  obtain ⟨hroom, htaken⟩ := htaken
  obtain ⟨-, rfl⟩ := Prod.mk.inj (Option.some.inj htaken)
  have hskip : skipData message kindA 4 before = some ⟨before.position + 4, before.rest.drop 4⟩ := by
    rw [skipData, if_neg (by decide), if_pos (show kindA = 1 from rfl), Cursor.skip?, hdata]
    rfl
  refine Option.bind_eq_some_iff.mpr ⟨_, hname, ?_⟩
  refine Option.bind_eq_some_iff.mpr ⟨_, hkind, ?_⟩
  refine (if_neg fun hopt => absurd hopt.1 (by decide)).trans ?_
  refine Option.bind_eq_some_iff.mpr ⟨_, hnumbers, ?_⟩
  refine Option.bind_eq_some_iff.mpr ⟨_, hlength, ?_⟩
  refine (if_neg (Nat.not_lt.mpr hroom)).trans ((if_neg (by decide)).trans ?_)
  exact Option.bind_eq_some_iff.mpr ⟨_, hskip, if_pos rfl⟩

theorem readRecords_of_readAnswers {count : Nat} {records : List AddressRecord}
    (h : readAnswers message count c = some (records, c')) :
    ∃ kinds, readRecords message count c = some (kinds, c') := by
  induction count generalizing c records with
  | zero =>
    obtain ⟨-, rfl⟩ := Prod.mk.inj (Option.some.inj h)
    exact ⟨[], rfl⟩
  | succ count ih =>
    obtain ⟨⟨record, behind⟩, hrecord, h⟩ := Option.bind_eq_some_iff.mp h
    obtain ⟨⟨more, behind'⟩, hmore, h⟩ := Option.bind_eq_some_iff.mp h
    obtain ⟨-, rfl⟩ := Prod.mk.inj (Option.some.inj h)
    obtain ⟨kinds, hkinds⟩ := ih hmore
    refine ⟨kindA :: kinds, ?_⟩
    simp only [readRecords, bind, readRecord_of_readAddress hrecord, Option.bind_some, hkinds]
    rfl

/-- The server's own reader reads the same of a message, unless this has more than one extension record. -/
theorem query_of_decode? {m : Message} (h : Message.decode? message = some m) (hkinds : m.additional.count kindOpt ≤ 1) :
    Query.decode? message = some m.query := by
  obtain ⟨⟨id, _⟩, hid, h⟩ := Option.bind_eq_some_iff.mp h
  obtain ⟨⟨flags, _⟩, hflags, h⟩ := Option.bind_eq_some_iff.mp h
  obtain ⟨opcode, hopcode, h⟩ := Option.bind_eq_some_iff.mp h
  obtain ⟨⟨more, _⟩, hmore, h⟩ := Option.bind_eq_some_iff.mp h
  obtain ⟨⟨questionCount, _⟩, hquestionCount, h⟩ := Option.bind_eq_some_iff.mp h
  obtain ⟨⟨answerCount, _⟩, hanswerCount, h⟩ := Option.bind_eq_some_iff.mp h
  obtain ⟨⟨authorityCount, _⟩, hauthorityCount, h⟩ := Option.bind_eq_some_iff.mp h
  obtain ⟨⟨additionalCount, _⟩, hadditionalCount, h⟩ := Option.bind_eq_some_iff.mp h
  obtain ⟨⟨questions, _⟩, hquestions, h⟩ := Option.bind_eq_some_iff.mp h
  obtain ⟨⟨answers, _⟩, hanswers, h⟩ := Option.bind_eq_some_iff.mp h
  obtain ⟨⟨authority, _⟩, hauthority, h⟩ := Option.bind_eq_some_iff.mp h
  obtain ⟨⟨additional, _⟩, hadditional, h⟩ := Option.bind_eq_some_iff.mp h
  obtain rfl := Option.some.inj h
  obtain ⟨kinds, hrecords⟩ := readRecords_of_readAnswers hanswers
  refine Option.bind_eq_some_iff.mpr ⟨_, hid, ?_⟩
  refine Option.bind_eq_some_iff.mpr ⟨_, hflags, ?_⟩
  refine Option.bind_eq_some_iff.mpr ⟨_, hopcode, ?_⟩
  refine Option.bind_eq_some_iff.mpr ⟨_, hmore, ?_⟩
  refine Option.bind_eq_some_iff.mpr ⟨_, hquestionCount, ?_⟩
  refine Option.bind_eq_some_iff.mpr ⟨_, hanswerCount, ?_⟩
  refine Option.bind_eq_some_iff.mpr ⟨_, hauthorityCount, ?_⟩
  refine Option.bind_eq_some_iff.mpr ⟨_, hadditionalCount, ?_⟩
  refine Option.bind_eq_some_iff.mpr ⟨_, hquestions, ?_⟩
  refine Option.bind_eq_some_iff.mpr ⟨_, hrecords, ?_⟩
  refine Option.bind_eq_some_iff.mpr ⟨_, hauthority, ?_⟩
  refine Option.bind_eq_some_iff.mpr ⟨_, hadditional, ?_⟩
  exact if_pos hkinds

/-! ## Reading what was written -/

theorem take?_of_hasAt {part : Bytes} (h : HasAt message position part) :
    (Cursor.into message position).take? part.length = some (part, .into message (position + part.length)) := by
  rw [h.into_eq, Cursor.take?, if_pos (by simp), List.take_left, List.drop_left]
  rfl

/-- An answer stands at a place in a message, up to another. -/
def AnswerStands (message : Bytes) (position : Nat) (record : AddressRecord) (stop : Nat) : Prop :=
  ∃ behind, Stands message position position record.name behind ∧
    HasAt message behind (word kindA ++ (word netInternet ++ (long record.ttl ++ (word 4 ++
      record.ip.octets.map UInt8.ofNat)))) ∧ stop = behind + 14

theorem AnswerStands.grow {record : AddressRecord} {stop : Nat} (h : AnswerStands message position record stop)
    (grows : message <+: bytes) : AnswerStands bytes position record stop := by
  obtain ⟨behind, hname, hdata, hstop⟩ := h
  exact ⟨behind, hname.grow grows, hdata.grow grows, hstop⟩

theorem readAddress_of_stands {record : AddressRecord} {stop : Nat} (h : AnswerStands message position record stop)
    (hfits : record.name.Fits) (httl : record.ttl < 0x100000000) :
    readAddress message (.into message position) = some (record, .into message stop) := by
  obtain ⟨behind, hname, hdata, rfl⟩ := h
  obtain ⟨name, ttl, ip⟩ := record
  have hvalue : 0x10000 * (ttl / 0x10000 % 0x10000) + ttl % 0x10000 = ttl := by
    have hlt : ttl < 0x100000000 := httl
    omega
  refine Option.bind_eq_some_iff.mpr ⟨_, readName_of_stands hname hfits.short, ?_⟩
  refine Option.bind_eq_some_iff.mpr ⟨_, word?_mod_of_hasAt hdata.left, ?_⟩
  refine Option.bind_eq_some_iff.mpr ⟨_, word?_mod_of_hasAt hdata.right.left, ?_⟩
  refine Option.bind_eq_some_iff.mpr ⟨_, word?_mod_of_hasAt hdata.right.right.left.left, ?_⟩
  refine Option.bind_eq_some_iff.mpr ⟨_, word?_mod_of_hasAt hdata.right.right.left.right, ?_⟩
  refine Option.bind_eq_some_iff.mpr ⟨_, word?_mod_of_hasAt hdata.right.right.right.left, ?_⟩
  refine Option.bind_eq_some_iff.mpr ⟨_, take?_of_hasAt hdata.right.right.right.right, ?_⟩
  refine (if_pos ⟨rfl, rfl, rfl⟩).trans ?_
  rw [hvalue, foldl_octets]
  rfl

namespace Draft

variable {d : Draft}

theorem Known.putQuestions {questions : List Question} (hfits : ∀ q ∈ questions, q.name.Fits) (known : d.Known) :
    (questions.foldl putQuestion d).Known := by
  induction questions generalizing d with
  | nil => exact known
  | cons q rest ih =>
    exact ih (fun q hm => hfits q (List.mem_cons_of_mem _ hm)) (putQuestion_stands (hfits q List.mem_cons_self) known).2

theorem putAnswer_stands {record : AddressRecord} (hfits : record.name.Fits) (known : d.Known) :
    AnswerStands (d.putAnswer record).bytes d.bytes.length record (d.putAnswer record).bytes.length ∧
      (d.putAnswer record).Known := by
  obtain ⟨stands, known'⟩ := putName_stands hfits.labels known
  have hput : d.putAnswer record = (d.putName record.name).put (word kindA ++ (word netInternet ++ (long record.ttl ++
      (word 4 ++ record.ip.octets.map UInt8.ofNat)))) := by
    simp only [putAnswer, List.append_assoc]
  rw [hput]
  exact ⟨⟨_, stands.grow (put_grows _ _), hasAt_end _ _, List.length_append⟩, known'.put _⟩

/-- Answers that are put into a draft are read from there, in every message that begins with the draft. -/
theorem readAnswers_put {records : List AddressRecord}
    (hfits : ∀ record ∈ records, record.name.Fits ∧ record.ttl < 0x100000000) (known : d.Known)
    (grows : (records.foldl putAnswer d).bytes <+: message) :
    readAnswers message records.length (.into message d.bytes.length) =
      some (records, .into message (records.foldl putAnswer d).bytes.length) := by
  induction records generalizing d with
  | nil => rfl
  | cons record rest ih =>
    obtain ⟨hname, httl⟩ := hfits record List.mem_cons_self
    obtain ⟨stands, known'⟩ := putAnswer_stands hname known
    have hrecord := readAddress_of_stands (stands.grow ((foldl_grows putAnswer_grows _ rest).trans grows)) hname httl
    have hrest := ih (fun record hm => hfits record (List.mem_cons_of_mem _ hm)) known' grows
    simp only [List.length_cons, readAnswers, bind, hrecord, Option.bind_some, hrest]
    rfl

end Draft

/-- A reply whose numbers can be written in the bytes that there are for them. -/
structure Reply.Fits (r : Reply) : Prop where
  id : r.id < 0x10000
  questionCount : r.questions.length < 0x10000
  answerCount : r.answers.length < 0x10000
  questions : ∀ q ∈ r.questions, q.Fits
  answers : ∀ record ∈ r.answers, record.name.Fits ∧ record.ttl < 0x100000000

/-- The message that a reply is. -/
def Reply.said (r : Reply) : Message where
  id := r.id
  isResponse := true
  opcode := r.opcode
  authoritative := r.authoritative
  truncated := false
  recursionDesired := r.recursionDesired
  recursionAvailable := r.recursionAvailable
  reserved := 0
  code := r.code.code
  questions := r.questions
  answers := r.answers
  authority := []
  additional := []
  left := []

/-- The flags of a reply are read as they were written. -/
theorem flags_read (opcode : Opcode) (authoritative recursionDesired recursionAvailable : Bool) (code : ReplyCode) :
    let flags := (UInt8.ofNat (128 + 8 * opcode.code + flag authoritative 4 + flag recursionDesired 1)).toNat
    let more := (UInt8.ofNat (flag recursionAvailable 128 + code.code)).toNat
    (Opcode.ofCode? (flags / 8 % 16) = some opcode ∧ (flags / 128 == 1) = true ∧ (flags / 4 % 2 == 1) = authoritative ∧
      (flags / 2 % 2 == 1) = false ∧ (flags % 2 == 1) = recursionDesired) ∧
    (more / 128 == 1) = recursionAvailable ∧ more / 16 % 8 = 0 ∧ more % 16 = code.code := by
  refine ⟨?_, ?_⟩
  · cases opcode <;> cases authoritative <;> cases recursionDesired <;> decide
  · cases recursionAvailable <;> cases code <;> decide

variable {r : Reply}

theorem Reply.Fits.names (hfits : r.Fits) : ∀ q ∈ r.questions, q.name.Fits :=
  fun q hm => (hfits.questions q hm).name

theorem known_header (r : Reply) : Draft.Known ⟨header r, []⟩ := fun entry hm => by cases hm

theorem readQuestions_encoding (hfits : r.Fits) : readQuestions r.encoding r.questions.length (.into r.encoding 12) =
    some (r.questions, .into r.encoding r.asked.bytes.length) := by
  have asked : QuestionsStand r.asked.bytes 12 r.questions r.asked.bytes.length :=
    Draft.putQuestions_stand hfits.names (known_header r)
  exact readQuestions_of_stand (asked.grow (Draft.foldl_grows Draft.putAnswer_grows r.asked r.answers)) hfits.questions

theorem readAnswers_encoding (hfits : r.Fits) :
    readAnswers r.encoding r.answers.length (.into r.encoding r.asked.bytes.length) =
      some (r.answers, ⟨r.encoding.length, []⟩) := by
  have hend : Cursor.into r.encoding r.encoding.length = ⟨r.encoding.length, []⟩ := by
    rw [Cursor.into, List.drop_length]
  rw [← hend]
  exact Draft.readAnswers_put hfits.answers ((known_header r).putQuestions hfits.names) (List.prefix_refl _)

/-- A reply is read as it was, whatever the number of its bytes. -/
theorem decode?_encoding (hfits : r.Fits) : Message.decode? r.encoding = some r.said := by
  obtain ⟨behind, hbehind⟩ := header_encoding r
  have hplace : Cursor.into r.encoding 12 = ⟨12, behind⟩ := by
    rw [Cursor.into, ← hbehind]
    rfl
  have hstart : (⟨0, r.encoding⟩ : Cursor) = ⟨0, word r.id ++ (UInt8.ofNat (128 + 8 * r.opcode.code +
      flag r.authoritative 4 + flag r.recursionDesired 1) :: UInt8.ofNat (flag r.recursionAvailable 128 + r.code.code) ::
        (word r.questions.length ++ (word r.answers.length ++ (word 0 ++ (word 0 ++ behind)))))⟩ := by
    rw [← hbehind, header]
    simp only [List.append_assoc, List.cons_append]
  have hquestions := readQuestions_encoding hfits
  have hanswers := readAnswers_encoding hfits
  rw [hplace, ← Nat.mod_eq_of_lt hfits.questionCount] at hquestions
  rw [← Nat.mod_eq_of_lt hfits.answerCount] at hanswers
  obtain ⟨⟨hopcode, hresponse, hauthority, htruncated, hdesired⟩, havailable, hreserved, hcode⟩ :=
    flags_read r.opcode r.authoritative r.recursionDesired r.recursionAvailable r.code
  refine Option.bind_eq_some_iff.mpr ⟨_, (congrArg Cursor.word? hstart).trans (word?_word _ _), ?_⟩
  refine Option.bind_eq_some_iff.mpr ⟨_, byte?_cons _ _, ?_⟩
  refine Option.bind_eq_some_iff.mpr ⟨_, hopcode, ?_⟩
  refine Option.bind_eq_some_iff.mpr ⟨_, byte?_cons _ _, ?_⟩
  refine Option.bind_eq_some_iff.mpr ⟨_, word?_word _ _, ?_⟩
  refine Option.bind_eq_some_iff.mpr ⟨_, word?_word _ _, ?_⟩
  refine Option.bind_eq_some_iff.mpr ⟨_, word?_word _ _, ?_⟩
  refine Option.bind_eq_some_iff.mpr ⟨_, word?_word _ _, ?_⟩
  refine Option.bind_eq_some_iff.mpr ⟨_, hquestions, ?_⟩
  refine Option.bind_eq_some_iff.mpr ⟨_, hanswers, ?_⟩
  -- there are no records behind the answers, and nothing behind the message
  refine Option.bind_eq_some_iff.mpr ⟨([], _), rfl, ?_⟩
  refine Option.bind_eq_some_iff.mpr ⟨([], _), rfl, ?_⟩
  simp only [pure, Reply.said, hresponse, hauthority, htruncated, hdesired, havailable, hreserved, hcode,
    Nat.mod_eq_of_lt hfits.id]

end Gatehouse.Dns
