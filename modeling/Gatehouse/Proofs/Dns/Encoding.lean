import Gatehouse.Proofs.Dns.Answer
import Gatehouse.Proofs.Dns.Place

/-!
The bytes of a reply, whatever their number. Main statements: `encode?_eq_some_iff`, by which a reply can be written
exactly if these bytes fit into a message and each name has room before a pointer saves some, and `putQuestions_stand`, by
which questions stand in a message where they were put.
-/

namespace Gatehouse.Dns

open Draft (labelBytes word)

/-! ## Writing without a limit -/

namespace Draft

variable {α : Type} {d d' : Draft} {last : Nat} {name : Name}

/-- The draft with more bytes, however many there are. -/
def put (d : Draft) (b : Bytes) : Draft := { d with bytes := d.bytes ++ b }

/-- The draft with a label, after which the rest of a name is to come. -/
def putLabel (last : Nat) (d : Draft) (label : Label) (rest : Name) : Draft where
  bytes := d.bytes ++ labelBytes [label]
  suffixes := if last < pointerLimit then d.suffixes ++ [(label :: rest, d.bytes.length)] else d.suffixes

/-- The draft with the labels of a name, however long it gets. -/
def putLabels (last : Nat) (d : Draft) : Name → Draft
  | [] => d.put [0]
  | label :: rest =>
    match d.suffixes.lookup (label :: rest) with
    | some place => d.put (word (0xC000 + place % 0x4000))
    | none => putLabels last (d.putLabel last label rest) rest

def putName (d : Draft) (name : Name) : Draft := putLabels (d.bytes.length + (labelBytes name).length) d name

def putQuestion (d : Draft) (q : Question) : Draft := (d.putName q.name).put (word q.kind ++ word q.net)

def putAnswer (d : Draft) (a : AddressRecord) : Draft :=
  (d.putName a.name).put (word kindA ++ word netInternet ++ long a.ttl ++ word 4 ++ a.ip.octets.map UInt8.ofNat)

/-- All labels of a name have room, even if a pointer will save some of them. -/
def HasRoom (d : Draft) (name : Name) : Prop := d.bytes.length + (labelBytes name).length ≤ maxMessageLength

instance (d : Draft) (name : Name) : Decidable (d.HasRoom name) := inferInstanceAs (Decidable (_ ≤ _))

/-- The names of all parts have room, each where it is put. -/
def HaveRoom (put : Draft → α → Draft) (nameOf : α → Name) (d : Draft) : List α → Prop
  | [] => True
  | part :: rest => d.HasRoom (nameOf part) ∧ HaveRoom put nameOf (put d part) rest

theorem write_eq_some_iff {b : Bytes} :
    d.write b = some d' ↔ d' = d.put b ∧ (d.put b).bytes.length ≤ maxMessageLength := by
  rw [write, put, List.length_append, Option.ite_none_right_eq_some, Option.some_inj, and_comm, eq_comm]

theorem putLabels_known {label : Label} {rest : Name} {place : Nat}
    (hlookup : d.suffixes.lookup (label :: rest) = some place) :
    d.putLabels last (label :: rest) = d.put (word (0xC000 + place % 0x4000)) := by
  rw [putLabels, hlookup]

theorem putLabels_new {label : Label} {rest : Name} (hlookup : d.suffixes.lookup (label :: rest) = none) :
    d.putLabels last (label :: rest) = (d.putLabel last label rest).putLabels last rest := by
  rw [putLabels, hlookup]

theorem writeLabels_eq_some_iff : d.writeLabels last name = some d' ↔
    d' = d.putLabels last name ∧ (d.putLabels last name).bytes.length ≤ maxMessageLength := by
  induction name generalizing d with
  | nil => exact write_eq_some_iff
  | cons label rest ih =>
    cases hlookup : d.suffixes.lookup (label :: rest) with
    | some place =>
      rw [putLabels_known hlookup, writeLabels, hlookup]
      exact write_eq_some_iff
    | none =>
      rw [putLabels_new hlookup, writeLabels_cons label rest hlookup]
      exact ih

theorem writeName_eq_some_iff : d.writeName name = some d' ↔
    d' = d.putName name ∧ (d.putName name).bytes.length ≤ maxMessageLength ∧ d.HasRoom name := by
  simp only [writeName, HasRoom, putName]
  split
  case isTrue hroom => rw [writeLabels_eq_some_iff, and_iff_left hroom]
  case isFalse hroom => exact iff_of_false (fun h => by cases h) fun h => hroom h.2.2

/-- What is a name with some bytes behind it is written in full, or not at all. -/
theorem writeName_bind_eq_some_iff {b : Bytes} : (d.writeName name).bind (·.write b) = some d' ↔
    d' = (d.putName name).put b ∧ ((d.putName name).put b).bytes.length ≤ maxMessageLength ∧ d.HasRoom name := by
  simp only [Option.bind_eq_some_iff, writeName_eq_some_iff, write_eq_some_iff]
  refine ⟨?_, ?_⟩
  · rintro ⟨named, ⟨rfl, -, hroom⟩, rfl, hlength⟩
    exact ⟨rfl, hlength, hroom⟩
  · rintro ⟨rfl, hlength, hroom⟩
    refine ⟨_, ⟨rfl, ?_, hroom⟩, rfl, hlength⟩
    rw [put, List.length_append] at hlength
    omega

theorem writeQuestion_eq_some_iff {q : Question} : d.writeQuestion q = some d' ↔
    d' = d.putQuestion q ∧ (d.putQuestion q).bytes.length ≤ maxMessageLength ∧ d.HasRoom q.name :=
  writeName_bind_eq_some_iff

theorem writeAnswer_eq_some_iff {a : AddressRecord} : d.writeAnswer a = some d' ↔
    d' = d.putAnswer a ∧ (d.putAnswer a).bytes.length ≤ maxMessageLength ∧ d.HasRoom a.name :=
  writeName_bind_eq_some_iff

theorem put_grows (d : Draft) (b : Bytes) : d.bytes <+: (d.put b).bytes := List.prefix_append _ _

theorem putLabel_grows (d : Draft) (last : Nat) (label : Label) (rest : Name) :
    d.bytes <+: (d.putLabel last label rest).bytes := List.prefix_append _ _

theorem putLabels_grows (d : Draft) (last : Nat) (name : Name) : d.bytes <+: (d.putLabels last name).bytes := by
  induction name generalizing d with
  | nil => exact put_grows d _
  | cons label rest ih =>
    cases hlookup : d.suffixes.lookup (label :: rest) with
    | some place =>
      rw [putLabels_known hlookup]
      exact put_grows d _
    | none =>
      rw [putLabels_new hlookup]
      exact (putLabel_grows d last label rest).trans (ih _)

theorem putName_grows (d : Draft) (name : Name) : d.bytes <+: (d.putName name).bytes := putLabels_grows d _ name

theorem putQuestion_grows (d : Draft) (q : Question) : d.bytes <+: (d.putQuestion q).bytes :=
  (putName_grows d q.name).trans (put_grows _ _)

theorem putAnswer_grows (d : Draft) (a : AddressRecord) : d.bytes <+: (d.putAnswer a).bytes :=
  (putName_grows d a.name).trans (put_grows _ _)

variable {put : Draft → α → Draft} {nameOf : α → Name}

theorem foldl_grows (grows : ∀ d part, d.bytes <+: (put d part).bytes) (d : Draft) (parts : List α) :
    d.bytes <+: (parts.foldl put d).bytes := by
  induction parts generalizing d with
  | nil => exact List.prefix_refl _
  | cons part rest ih => exact (grows d part).trans (ih _)

/-- Parts are written one after the other, if the last of them still fits. -/
theorem foldlM_eq_some_iff {write : Draft → α → Option Draft} (grows : ∀ d part, d.bytes <+: (put d part).bytes)
    (writes : ∀ {d d' part}, write d part = some d' ↔
      d' = put d part ∧ (put d part).bytes.length ≤ maxMessageLength ∧ d.HasRoom (nameOf part))
    {parts : List α} (hd : d.bytes.length ≤ maxMessageLength) :
    parts.foldlM write d = some d' ↔ d' = parts.foldl put d ∧
      (parts.foldl put d).bytes.length ≤ maxMessageLength ∧ HaveRoom put nameOf d parts := by
  induction parts generalizing d with
  | nil =>
    simp only [List.foldlM_nil, List.foldl_nil, HaveRoom, hd, and_true, pure, Option.some_inj]
    exact eq_comm
  | cons part rest ih =>
    simp only [List.foldlM_cons, bind, Option.bind_eq_some_iff, writes, List.foldl_cons, HaveRoom]
    refine ⟨?_, ?_⟩
    · rintro ⟨next, ⟨rfl, hnext, hroom⟩, hrest⟩
      obtain ⟨rfl, hlength, hrooms⟩ := (ih hnext).mp hrest
      exact ⟨rfl, hlength, hroom, hrooms⟩
    · rintro ⟨rfl, hlength, hroom, hrooms⟩
      -- drafts only grow: what fits at the end fits here
      have hnext : (put d part).bytes.length ≤ maxMessageLength :=
        Nat.le_trans (foldl_grows grows (put d part) rest).length_le hlength
      exact ⟨_, ⟨rfl, hnext, hroom⟩, (ih hnext).mpr ⟨rfl, hlength, hrooms⟩⟩

theorem haveRoom_append {parts later : List α} : HaveRoom put nameOf d (parts ++ later) ↔
    HaveRoom put nameOf d parts ∧ HaveRoom put nameOf (parts.foldl put d) later := by
  induction parts generalizing d with
  | nil => exact (and_iff_right trivial).symm
  | cons part rest ih =>
    simp only [List.cons_append, HaveRoom, List.foldl_cons, ih, and_assoc]

/-- Names have room if the message leaves space for one more name. -/
theorem haveRoom_of_length (grows : ∀ d part, d.bytes <+: (put d part).bytes) {parts : List α}
    (hfits : ∀ part ∈ parts, (nameOf part).Fits)
    (hlength : (parts.foldl put d).bytes.length + maxNameLength ≤ maxMessageLength) : HaveRoom put nameOf d parts := by
  induction parts generalizing d with
  | nil => trivial
  | cons part rest ih =>
    refine ⟨?_, ih (fun part hm => hfits part (List.mem_cons_of_mem _ hm)) hlength⟩
    have hle : d.bytes.length ≤ ((part :: rest).foldl put d).bytes.length := (foldl_grows grows d _).length_le
    have hshort := (hfits part List.mem_cons_self).short
    rw [HasRoom]
    omega

end Draft

variable {r : Reply} {bytes : Bytes}

/-- The questions of a reply behind its header. -/
def Reply.asked (r : Reply) : Draft := r.questions.foldl Draft.putQuestion ⟨header r, []⟩

/-- The bytes of a reply, whatever their number. -/
def Reply.encoding (r : Reply) : Bytes := (r.answers.foldl Draft.putAnswer r.asked).bytes

theorem header_encoding (r : Reply) : header r <+: r.encoding :=
  (Draft.foldl_grows Draft.putQuestion_grows ⟨header r, []⟩ r.questions).trans
    (Draft.foldl_grows Draft.putAnswer_grows r.asked r.answers)

theorem encoding_of_unanswered (hanswers : r.answers = []) : r.encoding = r.asked.bytes := by
  rw [Reply.encoding, hanswers]
  rfl

/-- All names of a reply have room where they are written. -/
def Reply.HasRoom (r : Reply) : Prop :=
  Draft.HaveRoom Draft.putQuestion (·.name) ⟨header r, []⟩ r.questions ∧
    Draft.HaveRoom Draft.putAnswer (·.name) r.asked r.answers

/-- A reply can be written exactly if its bytes fit into a message and all of its names have room. -/
theorem encode?_eq_some_iff : r.encode? = some bytes ↔
    bytes = r.encoding ∧ r.encoding.length ≤ maxMessageLength ∧ r.HasRoom := by
  have hheader : (header r).length ≤ maxMessageLength := by
    rw [length_header]
    decide
  have hasked : r.asked.bytes.length ≤ r.encoding.length :=
    (Draft.foldl_grows Draft.putAnswer_grows r.asked r.answers).length_le
  have questions : ∀ d, r.questions.foldlM Draft.writeQuestion ⟨header r, []⟩ = some d ↔ d = r.asked ∧
      r.asked.bytes.length ≤ maxMessageLength ∧
      Draft.HaveRoom Draft.putQuestion (·.name) ⟨header r, []⟩ r.questions :=
    fun d => Draft.foldlM_eq_some_iff Draft.putQuestion_grows Draft.writeQuestion_eq_some_iff hheader
  have answers : r.asked.bytes.length ≤ maxMessageLength → ∀ d, r.answers.foldlM Draft.writeAnswer r.asked = some d ↔
      d = r.answers.foldl Draft.putAnswer r.asked ∧ r.encoding.length ≤ maxMessageLength ∧
      Draft.HaveRoom Draft.putAnswer (·.name) r.asked r.answers :=
    fun hlength d => Draft.foldlM_eq_some_iff Draft.putAnswer_grows Draft.writeAnswer_eq_some_iff hlength
  simp only [encode?_eq, Option.bind_eq_some_iff, Option.map_eq_some_iff, questions]
  refine ⟨?_, ?_⟩
  · rintro ⟨asked, ⟨rfl, hlength, hrooms⟩, answered, hanswered, rfl⟩
    obtain ⟨rfl, hlength', hrooms'⟩ := (answers hlength answered).mp hanswered
    exact ⟨rfl, hlength', hrooms, hrooms'⟩
  · rintro ⟨rfl, hlength, hrooms, hrooms'⟩
    have hlength' := Nat.le_trans hasked hlength
    exact ⟨r.asked, ⟨rfl, hlength', hrooms⟩, _, (answers hlength' _).mpr ⟨rfl, hlength, hrooms'⟩, rfl⟩

/-! ## Names that share no end -/

namespace Draft

variable {d : Draft} {last : Nat} {name other : Name}

/-- No end of a name is kept, so that no pointer saves any of it. -/
def Fresh (d : Draft) (name : Name) : Prop := ∀ s, s ≠ [] → s <:+ name → d.suffixes.lookup s = none

theorem lookup_putLabel (last : Nat) (label : Label) (rest : Name) {s : Name} (hne : s ≠ label :: rest) :
    (d.putLabel last label rest).suffixes.lookup s = d.suffixes.lookup s := by
  rw [putLabel]
  split
  · rw [List.lookup_append, List.lookup_cons, beq_eq_false_iff_ne.mpr hne, List.lookup_nil, Option.or_none]
  · rfl

/-- Putting a name keeps no other names than its ends. -/
theorem lookup_putLabels (last : Nat) {s : Name} (h : ¬ s <:+ name) :
    (d.putLabels last name).suffixes.lookup s = d.suffixes.lookup s := by
  induction name generalizing d with
  | nil => rfl
  | cons label rest ih =>
    cases hlookup : d.suffixes.lookup (label :: rest) with
    | some place => rw [putLabels_known hlookup]; rfl
    | none =>
      have hne : s ≠ label :: rest := fun heq => h (heq ▸ List.suffix_rfl)
      rw [putLabels_new hlookup, ih fun hs => h (hs.trans (List.suffix_cons label rest)), lookup_putLabel _ _ _ hne]

theorem lookup_putQuestion {q : Question} {s : Name} (h : ¬ s <:+ q.name) :
    (d.putQuestion q).suffixes.lookup s = d.suffixes.lookup s := lookup_putLabels _ h

/-- A fresh name is put in full. -/
theorem length_putLabels (last : Nat) (fresh : d.Fresh name) :
    (d.putLabels last name).bytes.length = d.bytes.length + (labelBytes name).length + 1 := by
  induction name generalizing d with
  | nil => exact List.length_append
  | cons label rest ih =>
    have later : (d.putLabel last label rest).Fresh rest := by
      intro s hne hs
      have hlonger : s ≠ label :: rest := by
        rintro rfl
        exact absurd hs.length_le (by simp)
      rw [lookup_putLabel _ _ _ hlonger]
      exact fresh s hne (hs.trans (List.suffix_cons label rest))
    have hlength : (d.putLabel last label rest).bytes.length = d.bytes.length + (label.length + 1) :=
      length_append_label d.bytes label
    rw [putLabels_new (fresh _ (List.cons_ne_nil _ _) List.suffix_rfl), ih later, hlength, length_labelBytes_cons]
    omega

theorem length_putQuestion {q : Question} (fresh : d.Fresh q.name) :
    (d.putQuestion q).bytes.length = d.bytes.length + (questionBytes q).length := by
  rw [putQuestion, put, List.length_append, putName, length_putLabels _ fresh, length_questionBytes]
  simp [word, Nat.add_assoc]

/-- A name that is known is put as a pointer. -/
theorem length_putQuestion_known {q : Question} {place : Nat} (hne : q.name ≠ [])
    (hlookup : d.suffixes.lookup q.name = some place) : (d.putQuestion q).bytes.length = d.bytes.length + 6 := by
  obtain ⟨name, kind, net⟩ := q
  obtain ⟨label, rest, rfl⟩ := List.exists_cons_of_ne_nil hne
  rw [putQuestion, putName, putLabels_known hlookup, put, put, List.length_append, List.length_append]
  rfl

/-- Questions of which no two names share an end, nor one with a name that is kept, are put in full. -/
theorem length_putQuestions {questions : List Question} (fresh : ∀ q ∈ questions, d.Fresh q.name)
    (apart : questions.Pairwise fun q q' => ∀ s, s ≠ [] → s <:+ q'.name → ¬ s <:+ q.name) :
    (questions.foldl putQuestion d).bytes.length =
      d.bytes.length + (questions.map fun q => (questionBytes q).length).sum := by
  induction questions generalizing d with
  | nil => rfl
  | cons q rest ih =>
    obtain ⟨hq, hrest⟩ := List.pairwise_cons.mp apart
    have later : ∀ q' ∈ rest, (d.putQuestion q).Fresh q'.name := by
      intro q' hm s hne hs
      rw [lookup_putQuestion (hq q' hm s hne hs)]
      exact fresh q' (List.mem_cons_of_mem _ hm) s hne hs
    rw [List.foldl_cons, ih later hrest, length_putQuestion (fresh q List.mem_cons_self), List.map_cons, List.sum_cons]
    omega

theorem lookup_putQuestions {questions : List Question} {s : Name} (h : ∀ q ∈ questions, ¬ s <:+ q.name) :
    (questions.foldl putQuestion d).suffixes.lookup s = d.suffixes.lookup s := by
  induction questions generalizing d with
  | nil => rfl
  | cons q rest ih =>
    rw [List.foldl_cons, ih fun q hm => h q (List.mem_cons_of_mem _ hm), lookup_putQuestion (h q List.mem_cons_self)]

/-- The name of a question is kept that is put where a pointer can lead. -/
theorem lookup_putQuestion_self {q : Question} (hne : q.name ≠ []) (hnew : d.suffixes.lookup q.name = none)
    (hlimit : d.bytes.length + (labelBytes q.name).length < pointerLimit) :
    (d.putQuestion q).suffixes.lookup q.name = some d.bytes.length := by
  obtain ⟨name, kind, net⟩ := q
  obtain ⟨label, rest, rfl⟩ := List.exists_cons_of_ne_nil hne
  have hlonger : ¬ label :: rest <:+ rest := fun h => absurd h.length_le (by simp)
  rw [putQuestion, put, putName, putLabels_new hnew, lookup_putLabels _ hlonger, putLabel, if_pos hlimit,
    List.lookup_append, hnew, Option.none_or, List.lookup_cons_self]

/-- Names that end in different labels share no end. -/
theorem apart_of_getLast? (h : name.getLast? ≠ other.getLast?) :
    ∀ s, s ≠ [] → s <:+ name → ¬ s <:+ other := by
  intro s hne hs hs'
  have getLast_eq : ∀ {t : Name}, s <:+ t → t.getLast? = s.getLast? := by
    rintro t ⟨front, rfl⟩
    exact List.getLast?_append_of_ne_nil front hne
  exact h ((getLast_eq hs).trans (getLast_eq hs').symm)

end Draft

/-! ## Reading what was written -/

/-- A name that a pointer may lead to: it stands before a place in the message, where the two bytes of a pointer can
lead. -/
def LeadsTo (message : Bytes) (bound : Nat) (entry : Name × Nat) : Prop :=
  entry.2 < 0x4000 ∧ ∃ stop ≤ bound, Stands message entry.2 entry.2 entry.1 stop

theorem LeadsTo.grow {message message' : Bytes} {bound bound' : Nat} {entry : Name × Nat}
    (h : LeadsTo message bound entry) (grows : message <+: message') (hle : bound ≤ bound') :
    LeadsTo message' bound' entry := by
  obtain ⟨hsmall, stop, hstop, stands⟩ := h
  exact ⟨hsmall, stop, Nat.le_trans hstop hle, stands.grow grows⟩

namespace Draft

variable {d : Draft} {last start : Nat} {name : Name}

/-- Pointers may lead to all the names that a draft keeps. -/
def Known (d : Draft) : Prop := ∀ entry ∈ d.suffixes, LeadsTo d.bytes d.bytes.length entry

theorem mem_suffixes_putLabel {label : Label} {rest : Name} {entry : Name × Nat}
    (h : entry ∈ (d.putLabel last label rest).suffixes) :
    entry ∈ d.suffixes ∨ (entry = (label :: rest, d.bytes.length) ∧ last < pointerLimit) := by
  simp only [putLabel] at h
  split at h
  · rename_i hlast
    rcases List.mem_append.mp h with hm | hm
    · exact .inl hm
    · exact .inr ⟨List.mem_singleton.mp hm, hlast⟩
  · exact .inl h

/-- The labels that are put into a draft stand there. The names that are kept are longer than the one that is being
put, or pointers of a name at `start` may lead to them. -/
theorem putLabels_stands (hlabels : ∀ label ∈ name, label ≠ [] ∧ label.length < 0x40) (hstart : start ≤ d.bytes.length)
    (hlast : d.bytes.length + (labelBytes name).length ≤ last)
    (known : ∀ entry ∈ d.suffixes, name.length < entry.1.length ∨ LeadsTo d.bytes start entry) :
    let d' := d.putLabels last name
    Stands d'.bytes start d.bytes.length name d'.bytes.length ∧
      ∀ entry ∈ d'.suffixes, entry ∈ d.suffixes ∨ LeadsTo d'.bytes d'.bytes.length entry := by
  intro d'
  induction name generalizing d with
  | nil =>
    refine ⟨?_, fun entry hm => .inl hm⟩
    have hlength : d'.bytes.length = d.bytes.length + 1 := List.length_append
    rw [hlength]
    exact .root (hasAt_end d.bytes [0])
  | cons label rest ih =>
    cases hlookup : d.suffixes.lookup (label :: rest) with
    | some place =>
      have hd' : d' = d.put (word (0xC000 + place % 0x4000)) := putLabels_known hlookup
      have hm : (label :: rest, place) ∈ d.suffixes := by
        obtain ⟨before, after, heq, -⟩ := List.lookup_eq_some_iff.mp hlookup
        rw [heq]
        exact List.mem_append_right _ List.mem_cons_self
      obtain hlonger | ⟨hsmall, stop, hstop, stands⟩ := known _ hm
      -- the entry was not kept while this name was put, since it would be longer
      · exact absurd hlonger (Nat.lt_irrefl _)
      rw [Nat.mod_eq_of_lt hsmall] at hd'
      have hlength : d'.bytes.length = d.bytes.length + 2 := by
        rw [hd']
        exact List.length_append
      refine ⟨?_, fun entry hm => .inl (by rwa [hd'] at hm)⟩
      have grows : d.bytes <+: d'.bytes := hd' ▸ put_grows d _
      rw [hlength]
      exact .pointer hsmall (hd' ▸ hasAt_end d.bytes _) (Nat.lt_of_lt_of_le stands.lt hstop) (stands.grow grows)
        hstop
    | none =>
      have hd' : d' = (d.putLabel last label rest).putLabels last rest := putLabels_new hlookup
      have hlength : (d.putLabel last label rest).bytes.length = d.bytes.length + (label.length + 1) :=
        length_append_label d.bytes label
      obtain ⟨nonempty, short⟩ := hlabels label List.mem_cons_self
      rw [length_labelBytes_cons] at hlast
      obtain ⟨stands, kept⟩ := ih (d := d.putLabel last label rest)
        (fun l hm => hlabels l (List.mem_cons_of_mem _ hm)) (by omega) (by omega) (by
          intro entry hm
          -- the entry of this label is one label longer than the rest
          rcases mem_suffixes_putLabel hm with hm | ⟨rfl, -⟩
          · rcases known entry hm with hlonger | leads
            · exact .inl (Nat.lt_of_succ_lt hlonger)
            · exact .inr (leads.grow (putLabel_grows d last label rest) (Nat.le_refl _))
          · exact .inl (Nat.lt_succ_self _))
      rw [← hd', hlength] at stands
      rw [← hd'] at kept
      have here : HasAt d'.bytes d.bytes.length (labelBytes [label]) :=
        (hasAt_end d.bytes (labelBytes [label])).grow (hd' ▸ putLabels_grows (d.putLabel last label rest) last rest)
      have stands' : Stands d'.bytes start d.bytes.length (label :: rest) d'.bytes.length :=
        .label nonempty short here stands
      refine ⟨stands', ?_⟩
      intro entry hm
      rcases kept entry hm with hm | leads
      · rcases mem_suffixes_putLabel hm with hm | ⟨rfl, hlimit⟩
        · exact .inl hm
        -- what is kept of this name stands up to the end of the draft
        · rw [pointerLimit] at hlimit
          exact .inr ⟨show d.bytes.length < 0x4000 by omega, _, Nat.le_refl _, stands'.mono hstart⟩
      · exact .inr leads

theorem putName_stands (hlabels : ∀ label ∈ name, label ≠ [] ∧ label.length < 0x40) (known : d.Known) :
    Stands (d.putName name).bytes d.bytes.length d.bytes.length name (d.putName name).bytes.length ∧
      (d.putName name).Known := by
  obtain ⟨stands, kept⟩ := putLabels_stands hlabels (Nat.le_refl _) (Nat.le_refl _) fun entry hm => .inr (known entry hm)
  refine ⟨stands, ?_⟩
  intro entry hm
  rcases kept entry hm with hm | leads
  · exact (known entry hm).grow (putName_grows d name) (putName_grows d name).length_le
  · exact leads

theorem Known.put (known : d.Known) (b : Bytes) : (d.put b).Known :=
  fun entry hm => (known entry hm).grow (put_grows d b) (put_grows d b).length_le

theorem putQuestion_stands {q : Question} (hfits : q.name.Fits) (known : d.Known) :
    QuestionStands (d.putQuestion q).bytes d.bytes.length q (d.putQuestion q).bytes.length ∧ (d.putQuestion q).Known := by
  obtain ⟨stands, known'⟩ := putName_stands hfits.labels known
  exact ⟨⟨_, stands.grow (put_grows _ _), hasAt_end _ _, List.length_append⟩, known'.put _⟩

/-- Questions that are put into a draft stand there. -/
theorem putQuestions_stand {questions : List Question} (hfits : ∀ q ∈ questions, q.name.Fits) (known : d.Known) :
    QuestionsStand (questions.foldl putQuestion d).bytes d.bytes.length questions
      (questions.foldl putQuestion d).bytes.length := by
  induction questions generalizing d with
  | nil => rfl
  | cons q rest ih =>
    obtain ⟨stands, known'⟩ := putQuestion_stands (hfits q List.mem_cons_self) known
    exact ⟨_, stands.grow (foldl_grows putQuestion_grows _ rest),
      ih (fun q hm => hfits q (List.mem_cons_of_mem _ hm)) known'⟩

end Draft

end Gatehouse.Dns
