import Gatehouse.Dns.Decode
import Gatehouse.Dns.Encode
import Mathlib

/-!
Names in messages, as they are read and as they are written. Main statements: what is read is a name that may
be written (`readName_fits`), a name that is written first is written label by label, and read back as it was
(`readName_labelBytes`), and one that is written again is a pointer.
-/

namespace Gatehouse.Dns

open Draft (labelBytes)

variable {message : Bytes} {start bound used position : Nat} {c c' : Cursor} {name : Name} {label : Label}

/-- A name that a message can hold: labels of 1 to 63 bytes, less than 255 bytes in all with the bytes that tell
their lengths. -/
structure Name.Fits (name : Name) : Prop where
  labels : ∀ label ∈ name, label ≠ [] ∧ label.length < 0x40
  short : (Draft.labelBytes name).length < maxNameLength

theorem labelBytes_cons (label : Label) (name : Name) :
    labelBytes (label :: name) = UInt8.ofNat label.length :: label ++ labelBytes name := rfl

theorem length_labelBytes_cons (label : Label) (name : Name) :
    (labelBytes (label :: name)).length = label.length + 1 + (labelBytes name).length := by
  rw [labelBytes_cons, List.length_append, List.length_cons]

/-! ## Reading -/

theorem readLabels_fits (h : readLabels message start bound used c = some (name, c')) (hused : used < maxNameLength) :
    (∀ label ∈ name, label ≠ [] ∧ label.length < 0x40) ∧ used + (labelBytes name).length < maxNameLength := by
  fun_induction readLabels message start bound used c generalizing name c'
  case case3 =>
    -- the root
    obtain ⟨rfl, -⟩ := Prod.mk.inj (Option.some.inj h)
    exact ⟨fun label hm => (by cases hm), hused⟩
  case case5 ih =>
    -- a pointer to a place where the rest of the name stands
    obtain ⟨taken, htaken, heq⟩ := Option.map_eq_some_iff.mp h
    obtain ⟨rfl, -⟩ := Prod.mk.inj heq
    exact ih htaken hused
  case case7 n hnonzero hpointer hsmall hroom ih =>
    -- a label, and what follows
    obtain ⟨taken, htaken, heq⟩ := Option.map_eq_some_iff.mp h
    obtain ⟨rfl, -⟩ := Prod.mk.inj heq
    obtain ⟨hlabels, hshort⟩ := ih htaken hroom.2
    have hlength : (List.take n _).length = n := List.length_take_of_le hroom.1
    refine ⟨?_, ?_⟩
    · intro label hm
      rcases List.mem_cons.mp hm with rfl | hm
      · exact ⟨List.ne_nil_of_length_pos (by omega), by omega⟩
      · exact hlabels label hm
    · rw [length_labelBytes_cons, hlength]
      omega
  all_goals cases h

/-- What is read as a name can be written. -/
theorem readName_fits (h : readName message c = some (name, c')) : name.Fits := by
  obtain ⟨hlabels, hshort⟩ := readLabels_fits h (by decide)
  exact ⟨hlabels, by omega⟩

theorem readLabels_root (hbound : position < bound) (rest : Bytes) :
    readLabels message start bound used ⟨position, 0 :: rest⟩ = some ([], ⟨position + 1, rest⟩) := by
  rw [readLabels]
  simp [Nat.not_le.mpr hbound]

theorem readLabels_label (hbound : position < bound) (hne : label ≠ []) (hlength : label.length < 0x40)
    (hshort : used + label.length + 1 < maxNameLength) (rest : Bytes) :
    readLabels message start bound used ⟨position, UInt8.ofNat label.length :: label ++ rest⟩ =
      (readLabels message start bound (used + label.length + 1) ⟨position + 1 + label.length, rest⟩).map
        fun taken => (label :: taken.1, taken.2) := by
  have hn : (UInt8.ofNat label.length).toNat = label.length := by
    rw [UInt8.toNat_ofNat']
    omega
  have hpointer : ¬ 0xC0 ≤ label.length := by omega
  rw [readLabels]
  simp [Nat.not_le.mpr hbound, hn, hne, hpointer, hlength, hshort]

/-- A pointer is read as the labels where it leads. -/
theorem readLabels_pointer {target : Nat} (hbound : position < bound) (htarget : target < start)
    (hsmall : target < 0x4000) (rest : Bytes) :
    readLabels message start bound used ⟨position, Draft.word (0xC000 + target) ++ rest⟩ =
      (readLabels message target start used ⟨target, message.drop target⟩).map
        fun taken => (taken.1, ⟨position + 2, rest⟩) := by
  have hhigh : (UInt8.ofNat ((0xC000 + target) / 256)).toNat = 0xC0 + target / 256 := by
    rw [UInt8.toNat_ofNat']
    omega
  have hvalue : 256 * (target / 256) + target % 256 = target := Nat.div_add_mod target 256
  rw [readLabels]
  simp [Draft.word, Nat.not_le.mpr hbound, hhigh, hvalue, htarget]

/-- The bytes of a pointer to one of the first 256 places. -/
theorem word_pointer {target : Nat} (hsmall : target < 256) :
    Draft.word (0xC000 + target) = [0xC0, UInt8.ofNat target] := by
  have hhigh : (0xC000 + target) / 256 = 0xC0 := by omega
  have hlow : UInt8.ofNat (0xC000 + target) = UInt8.ofNat target := by
    rw [← UInt8.toNat_inj, UInt8.toNat_ofNat', UInt8.toNat_ofNat']
    omega
  rw [Draft.word, hhigh, hlow]
  rfl

/-- Labels that stand one after the other are read one after the other. -/
theorem readLabels_labelBytes (hlabels : ∀ label ∈ name, label ≠ [] ∧ label.length < 0x40)
    (hbound : position + (labelBytes name).length < bound) (hshort : used + (labelBytes name).length < maxNameLength)
    (rest : Bytes) :
    readLabels message start bound used ⟨position, labelBytes name ++ 0 :: rest⟩ =
      some (name, ⟨position + (labelBytes name).length + 1, rest⟩) := by
  induction name generalizing position used with
  | nil => exact readLabels_root hbound rest
  | cons label later ih =>
    obtain ⟨hne, hlength⟩ := hlabels label List.mem_cons_self
    rw [length_labelBytes_cons] at hbound hshort ⊢
    have hlater : readLabels message start bound (used + label.length + 1)
        ⟨position + 1 + label.length, labelBytes later ++ 0 :: rest⟩ =
        some (later, ⟨position + 1 + label.length + (labelBytes later).length + 1, rest⟩) :=
      ih (fun l hm => hlabels l (List.mem_cons_of_mem _ hm)) (by omega) (by omega)
    rw [labelBytes_cons, List.append_assoc, readLabels_label (by omega) hne hlength (by omega), hlater]
    simp only [Option.map_some, Option.some.injEq, Prod.mk.injEq, true_and, Cursor.mk.injEq, and_true]
    omega

theorem readName_labelBytes (hfits : name.Fits) (hroom : position + (labelBytes name).length ≤ message.length)
    (rest : Bytes) :
    readName message ⟨position, labelBytes name ++ 0 :: rest⟩ =
      some (name, ⟨position + (labelBytes name).length + 1, rest⟩) :=
  readLabels_labelBytes hfits.labels (Nat.lt_succ_of_le hroom) (by have := hfits.short; omega) rest

/-- A pointer to a name that stands before it is read as that name. -/
theorem readName_pointer {front after : Bytes} (hfits : name.Fits)
    (hmessage : message = front ++ (labelBytes name ++ 0 :: after)) (hsmall : front.length < 256)
    (hafter : front.length + (labelBytes name).length < position) (hroom : position ≤ message.length) (rest : Bytes) :
    readName message ⟨position, 0xC0 :: UInt8.ofNat front.length :: rest⟩ = some (name, ⟨position + 2, rest⟩) := by
  have hdrop : message.drop front.length = labelBytes name ++ 0 :: after := by rw [hmessage, List.drop_left]
  have htarget : front.length < position := by omega
  have hshort := hfits.short
  have hpointer : 0xC0 :: UInt8.ofNat front.length :: rest = Draft.word (0xC000 + front.length) ++ rest := by
    rw [word_pointer hsmall]
    rfl
  rw [readName, hpointer, readLabels_pointer (Nat.lt_succ_of_le hroom) htarget (by omega), hdrop,
    readLabels_labelBytes hfits.labels hafter (by omega)]
  rfl

/-! ## Numbers -/

theorem byte?_cons (b : UInt8) (rest : Bytes) :
    Cursor.byte? ⟨position, b :: rest⟩ = some (b.toNat, ⟨position + 1, rest⟩) := rfl

theorem word?_word (n : Nat) (rest : Bytes) :
    Cursor.word? ⟨position, Draft.word n ++ rest⟩ = some (n % 0x10000, ⟨position + 2, rest⟩) := by
  have hvalue : 256 * (UInt8.ofNat (n / 256)).toNat + (UInt8.ofNat n).toNat = n % 0x10000 := by
    rw [UInt8.toNat_ofNat', UInt8.toNat_ofNat']
    omega
  rw [← hvalue]
  rfl

theorem word?_lt {n : Nat} (h : c.word? = some (n, c')) : n < 0x10000 := by
  obtain ⟨position, rest⟩ := c
  match rest with
  | [] => cases h
  | [_] => cases h
  | hi :: lo :: rest =>
    obtain ⟨rfl, -⟩ := Prod.mk.inj (Option.some.inj h)
    have hhi := hi.toNat_lt
    have hlo := lo.toNat_lt
    omega

/-! ## Questions -/

/-- A question as it is written. -/
def questionBytes (q : Question) : Bytes := labelBytes q.name ++ 0 :: (Draft.word q.kind ++ Draft.word q.net)

theorem length_questionBytes (q : Question) : (questionBytes q).length = (labelBytes q.name).length + 5 := by
  simp [questionBytes, Draft.word]

theorem readQuestions_one (message : Bytes) (position : Nat) {q : Question} (hfits : q.name.Fits)
    (hroom : position + (labelBytes q.name).length ≤ message.length) (rest : Bytes) :
    readQuestions message 1 ⟨position, questionBytes q ++ rest⟩ =
      some ([⟨q.name, q.kind % 0x10000, q.net % 0x10000⟩], ⟨position + (questionBytes q).length, rest⟩) := by
  have hsplit : questionBytes q ++ rest =
      labelBytes q.name ++ 0 :: (Draft.word q.kind ++ (Draft.word q.net ++ rest)) := by simp [questionBytes]
  rw [readQuestions, readQuestion, hsplit, readName_labelBytes hfits hroom, length_questionBytes]
  simp [word?_word, readQuestions, Nat.add_assoc]

/-- A question that can be written: its name fits, and its type and class are numbers of two bytes. -/
structure Question.Fits (q : Question) : Prop where
  name : q.name.Fits
  kind : q.kind < 0x10000
  net : q.net < 0x10000

theorem readQuestion_fits {q : Question} (h : readQuestion message c = some (q, c')) : q.Fits := by
  obtain ⟨⟨name, _⟩, hname, h⟩ := Option.bind_eq_some_iff.mp h
  obtain ⟨⟨kind, _⟩, hkind, h⟩ := Option.bind_eq_some_iff.mp h
  obtain ⟨⟨net, _⟩, hnet, h⟩ := Option.bind_eq_some_iff.mp h
  obtain ⟨rfl, -⟩ := Prod.mk.inj (Option.some.inj h)
  exact ⟨readName_fits hname, word?_lt hkind, word?_lt hnet⟩

theorem readQuestions_fits {count : Nat} {questions : List Question}
    (h : readQuestions message count c = some (questions, c')) :
    questions.length = count ∧ ∀ q ∈ questions, q.Fits := by
  induction count generalizing c c' questions with
  | zero =>
    obtain ⟨rfl, -⟩ := Prod.mk.inj (Option.some.inj h)
    exact ⟨rfl, fun q hm => by cases hm⟩
  | succ count ih =>
    obtain ⟨⟨first, _⟩, hfirst, h⟩ := Option.bind_eq_some_iff.mp h
    obtain ⟨⟨more, _⟩, hmore, h⟩ := Option.bind_eq_some_iff.mp h
    obtain ⟨rfl, -⟩ := Prod.mk.inj (Option.some.inj h)
    obtain ⟨hcount, hfits⟩ := ih hmore
    refine ⟨congrArg (· + 1) hcount, ?_⟩
    intro q hm
    rcases List.mem_cons.mp hm with rfl | hm
    · exact readQuestion_fits hfirst
    · exact hfits q hm

/-- What is read of a query can be written: all its numbers are numbers of two bytes, and its names fit. -/
structure Query.Fits (query : Query) : Prop where
  id : query.id < 0x10000
  count : query.questions.length < 0x10000
  questions : ∀ q ∈ query.questions, q.Fits

theorem decode?_fits {query : Query} (h : Query.decode? message = some query) : query.Fits := by
  -- of what is read beside the questions, their number and the id matter
  obtain ⟨⟨id, _⟩, hid, h⟩ := Option.bind_eq_some_iff.mp h
  obtain ⟨_, -, h⟩ := Option.bind_eq_some_iff.mp h
  obtain ⟨_, -, h⟩ := Option.bind_eq_some_iff.mp h
  obtain ⟨_, -, h⟩ := Option.bind_eq_some_iff.mp h
  obtain ⟨⟨count, _⟩, hcount, h⟩ := Option.bind_eq_some_iff.mp h
  obtain ⟨_, -, h⟩ := Option.bind_eq_some_iff.mp h
  obtain ⟨_, -, h⟩ := Option.bind_eq_some_iff.mp h
  obtain ⟨_, -, h⟩ := Option.bind_eq_some_iff.mp h
  obtain ⟨⟨questions, _⟩, hquestions, h⟩ := Option.bind_eq_some_iff.mp h
  obtain ⟨_, -, h⟩ := Option.bind_eq_some_iff.mp h
  obtain ⟨_, -, h⟩ := Option.bind_eq_some_iff.mp h
  obtain ⟨_, -, h⟩ := Option.bind_eq_some_iff.mp h
  obtain ⟨-, h⟩ := Option.ite_none_right_eq_some.mp h
  obtain rfl := Option.some.inj h
  obtain ⟨hlength, hfits⟩ := readQuestions_fits hquestions
  exact ⟨word?_lt hid, hlength ▸ word?_lt hcount, hfits⟩

/-- A message with questions and no records is read up to its questions. -/
theorem decode?_of_questions {id count : Nat} {flags more : UInt8} {body : Bytes} {opcode : Opcode}
    {questions : List Question} {c : Cursor}
    (hmessage : message = Draft.word id ++ (flags :: more :: (Draft.word count ++
      (Draft.word 0 ++ (Draft.word 0 ++ (Draft.word 0 ++ body))))))
    (hopcode : Opcode.ofCode? (flags.toNat / 8 % 16) = some opcode)
    (hquestions : readQuestions message (count % 0x10000) ⟨12, body⟩ = some (questions, c)) :
    Query.decode? message =
      some ⟨id % 0x10000, flags.toNat / 128 == 1, opcode, flags.toNat % 2 == 1, questions⟩ := by
  have hstart : (⟨0, message⟩ : Cursor) = ⟨0, Draft.word id ++ _⟩ := congrArg (Cursor.mk 0) hmessage
  refine Option.bind_eq_some_iff.mpr ⟨_, (congrArg Cursor.word? hstart).trans (word?_word _ _), ?_⟩
  refine Option.bind_eq_some_iff.mpr ⟨_, byte?_cons _ _, ?_⟩
  refine Option.bind_eq_some_iff.mpr ⟨_, hopcode, ?_⟩
  refine Option.bind_eq_some_iff.mpr ⟨_, byte?_cons _ _, ?_⟩
  refine Option.bind_eq_some_iff.mpr ⟨_, word?_word _ _, ?_⟩
  refine Option.bind_eq_some_iff.mpr ⟨_, word?_word _ _, ?_⟩
  refine Option.bind_eq_some_iff.mpr ⟨_, word?_word _ _, ?_⟩
  refine Option.bind_eq_some_iff.mpr ⟨_, word?_word _ _, ?_⟩
  exact Option.bind_eq_some_iff.mpr ⟨_, hquestions, rfl⟩

/-- A query with one question, as a client sends it. -/
def asking (id : Nat) (q : Question) : Bytes :=
  Draft.word id ++ (0x01 :: 0x00 ::
    (Draft.word 1 ++ (Draft.word 0 ++ (Draft.word 0 ++ (Draft.word 0 ++ questionBytes q)))))

theorem decode?_asking {q : Question} (hfits : q.name.Fits) (hkind : q.kind < 0x10000) (hnet : q.net < 0x10000)
    (id : Nat) : Query.decode? (asking id q) = some ⟨id % 0x10000, false, .query, true, [q]⟩ := by
  have hquestions := readQuestions_one (asking id q) 12 hfits (by
    simp [asking, Draft.word, length_questionBytes]
    omega) []
  rw [List.append_nil, Nat.mod_eq_of_lt hkind, Nat.mod_eq_of_lt hnet] at hquestions
  exact decode?_of_questions rfl rfl hquestions

/-! ## Writing -/

namespace Draft

variable {d : Draft} {last : Nat}

theorem write_of_le {b : Bytes} (h : d.bytes.length + b.length ≤ maxMessageLength) :
    d.write b = some { d with bytes := d.bytes ++ b } := if_pos h

theorem length_append_label (bytes : Bytes) (label : Label) :
    (bytes ++ labelBytes [label]).length = bytes.length + (label.length + 1) := by
  rw [List.length_append, length_labelBytes_cons]
  rfl

theorem writeLabels_cons (label : Label) (rest : Name) (hlookup : d.suffixes.lookup (label :: rest) = none) :
    d.writeLabels last (label :: rest) =
      writeLabels last
        ⟨d.bytes ++ labelBytes [label],
          if last < pointerLimit then d.suffixes ++ [(label :: rest, d.bytes.length)] else d.suffixes⟩ rest := by
  rw [writeLabels, hlookup]

/-- A name none of whose ends was written before is written label by label. -/
theorem writeLabels_new (last : Nat) (hnew : ∀ entry ∈ d.suffixes, name.length < entry.1.length)
    (hroom : d.bytes.length + (labelBytes name).length + 1 ≤ maxMessageLength) :
    ∃ more, d.writeLabels last name = some ⟨d.bytes ++ (labelBytes name ++ [0]), d.suffixes ++ more⟩ := by
  induction name generalizing d with
  | nil =>
    refine ⟨[], ?_⟩
    rw [writeLabels, write_of_le (by simpa [labelBytes] using hroom), List.append_nil]
    rfl
  | cons label rest ih =>
    have hlookup : d.suffixes.lookup (label :: rest) = none := by
      rw [List.lookup_eq_none_iff]
      intro entry hm
      rw [bne_iff_ne]
      intro heq
      exact Nat.lt_irrefl _ (heq ▸ hnew entry hm)
    rw [writeLabels_cons label rest hlookup]
    rw [length_labelBytes_cons] at hroom
    have hbytes : d.bytes ++ labelBytes [label] ++ (labelBytes rest ++ [0]) =
        d.bytes ++ (labelBytes (label :: rest) ++ [0]) := by simp [labelBytes]
    have hroom' : (d.bytes ++ labelBytes [label]).length + (labelBytes rest).length + 1 ≤ maxMessageLength := by
      rw [length_append_label]
      omega
    -- the rest is shorter than all ends that were written before, and than the one that is added
    obtain ⟨added, hadded, hlonger⟩ : ∃ added,
        (if last < pointerLimit then d.suffixes ++ [(label :: rest, d.bytes.length)] else d.suffixes) =
          d.suffixes ++ added ∧ ∀ entry ∈ added, rest.length < entry.1.length := by
      split
      · refine ⟨[(label :: rest, d.bytes.length)], rfl, ?_⟩
        intro entry hm
        rw [List.mem_singleton.mp hm]
        exact Nat.lt_succ_self _
      · exact ⟨[], (List.append_nil _).symm, fun entry hm => by cases hm⟩
    obtain ⟨more, hmore⟩ := ih (d := ⟨d.bytes ++ labelBytes [label], d.suffixes ++ added⟩) (by
      intro entry hm
      rcases List.mem_append.mp hm with hm | hm
      · exact Nat.lt_of_succ_lt (hnew entry hm)
      · exact hlonger entry hm) hroom'
    refine ⟨added ++ more, ?_⟩
    rw [hadded, hmore, hbytes, List.append_assoc]

/-- The first name of a message is written label by label, and is known from then on if it has labels. -/
theorem writeName_first {bytes : Bytes} (hfits : name.Fits) (hsmall : bytes.length < 0x100) :
    ∃ suffixes, writeName ⟨bytes, []⟩ name = some ⟨bytes ++ (labelBytes name ++ [0]), suffixes⟩ ∧
      (name ≠ [] → suffixes.lookup name = some bytes.length) := by
  have hshort : (labelBytes name).length < 255 := hfits.short
  have hlast : bytes.length + (labelBytes name).length < pointerLimit := by
    rw [pointerLimit]
    omega
  have hmax : bytes.length + (labelBytes name).length + 1 ≤ maxMessageLength := by
    rw [maxMessageLength]
    omega
  rw [writeName, if_pos (Nat.le_of_succ_le hmax)]
  cases name with
  | nil => exact ⟨[], write_of_le (d := ⟨bytes, []⟩) hmax, fun hne => absurd rfl hne⟩
  | cons label rest =>
    have hnew : ∀ entry ∈ [(label :: rest, bytes.length)], rest.length < entry.1.length := by
      intro entry hm
      rw [List.mem_singleton.mp hm]
      exact Nat.lt_succ_self _
    have hroom : (bytes ++ labelBytes [label]).length + (labelBytes rest).length + 1 ≤ maxMessageLength := by
      rw [length_labelBytes_cons] at hmax
      rw [length_append_label]
      omega
    obtain ⟨more, hmore⟩ := writeLabels_new (bytes.length + (labelBytes (label :: rest)).length)
      (d := ⟨bytes ++ labelBytes [label], _⟩) hnew hroom
    refine ⟨(label :: rest, bytes.length) :: more, ?_, fun _ => List.lookup_cons_self⟩
    rw [writeLabels_cons label rest rfl, if_pos hlast]
    refine hmore.trans ?_
    simp [labelBytes]

/-- A name that was written is a pointer the next time. -/
theorem writeName_again {bytes : Bytes} {place : Nat} {suffixes : List (Name × Nat)} (hne : name ≠ [])
    (hfits : name.Fits) (hlookup : suffixes.lookup name = some place) (hplace : place < 0x100)
    (hroom : bytes.length < 0x1000) :
    writeName ⟨bytes, suffixes⟩ name = some ⟨bytes ++ [0xC0, UInt8.ofNat place], suffixes⟩ := by
  obtain ⟨label, rest, rfl⟩ := List.exists_cons_of_ne_nil hne
  have hshort : (labelBytes (label :: rest)).length < 255 := hfits.short
  have hmax : bytes.length + (labelBytes (label :: rest)).length ≤ maxMessageLength := by
    rw [maxMessageLength]
    omega
  have hpointer : word (0xC000 + place % 0x4000) = [0xC0, UInt8.ofNat place] := by
    have hhigh : (0xC000 + place % 0x4000) / 256 = 0xC0 := by omega
    have hlow : UInt8.ofNat (0xC000 + place % 0x4000) = UInt8.ofNat place := by
      rw [← UInt8.toNat_inj, UInt8.toNat_ofNat', UInt8.toNat_ofNat']
      omega
    rw [word, hhigh, hlow]
    rfl
  rw [writeName, if_pos hmax, writeLabels, hlookup]
  simp only [hpointer]
  exact write_of_le (by rw [maxMessageLength]; simp; omega)

/-- The first question of a message. -/
theorem writeQuestion_first (bytes : Bytes) {q : Question} (hfits : q.name.Fits) (hsmall : bytes.length < 0x100) :
    ∃ suffixes, writeQuestion ⟨bytes, []⟩ q = some ⟨bytes ++ questionBytes q, suffixes⟩ ∧
      (q.name ≠ [] → suffixes.lookup q.name = some bytes.length) := by
  obtain ⟨suffixes, hwrite, hlookup⟩ := writeName_first hfits hsmall
  have hshort : (labelBytes q.name).length < 255 := hfits.short
  refine ⟨suffixes, ?_, hlookup⟩
  rw [writeQuestion, hwrite]
  have hroom : (bytes ++ (labelBytes q.name ++ [0])).length + (word q.kind ++ word q.net).length ≤
      maxMessageLength := by
    simp [word, maxMessageLength]
    omega
  refine (write_of_le (d := ⟨_, suffixes⟩) hroom).trans ?_
  simp [questionBytes]

end Draft

end Gatehouse.Dns
