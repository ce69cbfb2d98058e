import Gatehouse.Proofs.Dns.Wire

/-!
Names and questions where they stand in a message, with the pointers that end them. Main statements:
`readName_of_stands` and `readQuestions_of_stand`, by which they are read from there as they are, and `Stands.grow`,
by which they stay when the message grows.
-/

namespace Gatehouse.Dns

open Draft (labelBytes word)

variable {message : Bytes} {start start' position stop used bound : Nat} {name : Name} {part : Bytes}

/-! ## Parts of a message -/

/-- A message has these bytes at a place. -/
def HasAt (message : Bytes) (position : Nat) (part : Bytes) : Prop := part <+: message.drop position

instance (message : Bytes) (position : Nat) (part : Bytes) : Decidable (HasAt message position part) :=
  inferInstanceAs (Decidable (part <+: message.drop position))

/-- A place in a message, to read on from. -/
def Cursor.into (message : Bytes) (position : Nat) : Cursor := ⟨position, message.drop position⟩

theorem HasAt.grow {message' : Bytes} (h : HasAt message position part) (grows : message <+: message') :
    HasAt message' position part := by
  obtain ⟨more, rfl⟩ := grows
  rw [HasAt, List.drop_append]
  exact h.trans (List.prefix_append _ _)

/-- What is written at the end of a message stands there. -/
theorem hasAt_end (message part : Bytes) : HasAt (message ++ part) message.length part := by
  rw [HasAt, List.drop_left]

theorem HasAt.left {later : Bytes} (h : HasAt message position (part ++ later)) : HasAt message position part :=
  (List.prefix_append part later).trans h

theorem HasAt.drop_eq (h : HasAt message position part) :
    message.drop position = part ++ message.drop (position + part.length) := by
  obtain ⟨rest, hrest⟩ := h
  rw [← List.drop_drop, ← hrest, List.drop_left]

theorem HasAt.right {later : Bytes} (h : HasAt message position (part ++ later)) :
    HasAt message (position + part.length) later := by
  have hdrop := h.left.drop_eq
  rw [HasAt, hdrop] at h
  exact (List.prefix_append_right_inj part).mp h

theorem HasAt.le_length (h : HasAt message position part) (hne : part ≠ []) :
    position + part.length ≤ message.length := by
  have hlength := h.length_le
  have hpos := List.length_pos_iff.mpr hne
  rw [List.length_drop] at hlength
  omega

theorem HasAt.into_eq (h : HasAt message position part) :
    Cursor.into message position = ⟨position, part ++ message.drop (position + part.length)⟩ := by
  rw [Cursor.into, h.drop_eq]

/-! ## Names -/

/-- A name stands at a place in a message, up to another: the root, a label with the rest of the name behind it, or a
pointer to a place before `start`, where labels stand that end before `start`. -/
inductive Stands (message : Bytes) : Nat → Nat → Name → Nat → Prop where
  | root {start position : Nat} (here : HasAt message position [0]) : Stands message start position [] (position + 1)
  | label {start position stop : Nat} {label : Label} {rest : Name} (nonempty : label ≠ [])
    (short : label.length < 0x40) (here : HasAt message position (labelBytes [label]))
    (later : Stands message start (position + (label.length + 1)) rest stop) :
    Stands message start position (label :: rest) stop
  | pointer {start position target stop : Nat} {name : Name} (small : target < 0x4000)
    (here : HasAt message position (word (0xC000 + target))) (before : target < start)
    (there : Stands message target target name stop) (ends : stop ≤ start) :
    Stands message start position name (position + 2)

theorem length_labelBytes_singleton (label : Label) : (labelBytes [label]).length = label.length + 1 := by
  rw [length_labelBytes_cons]
  rfl

/-- Where a number is followed by so many bytes, there is a label. -/
theorem drop_label {bytes : Bytes} {position n : Nat} (hbyte : bytes[position]? = some (UInt8.ofNat n))
    (hroom : position + 1 + n ≤ bytes.length) :
    bytes.drop position = labelBytes [(bytes.drop (position + 1)).take n] ++ bytes.drop (position + 1 + n) := by
  have hlength : ((bytes.drop (position + 1)).take n).length = n := by
    rw [List.length_take, List.length_drop]
    omega
  obtain ⟨hlt, hget⟩ := List.getElem?_eq_some_iff.mp hbyte
  have hrest := List.take_append_drop n (bytes.drop (position + 1))
  rw [List.drop_drop] at hrest
  rw [List.drop_eq_getElem_cons hlt, hget, labelBytes_cons, hlength]
  simp [labelBytes]

namespace Stands

theorem lt (h : Stands message start position name stop) : position < stop := by
  induction h with
  | root _ => exact Nat.lt_succ_self _
  | label _ _ _ _ ih => omega
  | pointer _ _ _ _ _ _ => omega

theorem le_length (h : Stands message start position name stop) : stop ≤ message.length := by
  induction h with
  | root here => exact here.le_length (by simp)
  | label _ _ _ _ ih => exact ih
  | pointer _ here _ _ _ _ => exact here.le_length (by simp [word])

/-- A name stays where it stands when the message grows. -/
theorem grow {message' : Bytes} (h : Stands message start position name stop) (grows : message <+: message') :
    Stands message' start position name stop := by
  induction h with
  | root here => exact .root (here.grow grows)
  | label nonempty short here _ ih => exact .label nonempty short (here.grow grows) ih
  | pointer small here before _ ends ih => exact .pointer small (here.grow grows) before ih ends

/-- Pointers may lead to places as well that are before a later start. -/
theorem mono (h : Stands message start position name stop) (hle : start ≤ start') :
    Stands message start' position name stop := by
  induction h generalizing start' with
  | root here => exact .root here
  | label nonempty short here _ ih => exact .label nonempty short here (ih hle)
  | pointer small here before there ends _ =>
    exact .pointer small here (Nat.lt_of_lt_of_le before hle) there (Nat.le_trans ends hle)

/-- Labels that stand one after the other, with the root behind them. -/
theorem of_labelBytes (hlabels : ∀ label ∈ name, label ≠ [] ∧ label.length < 0x40)
    (h : HasAt message position (labelBytes name ++ [0])) :
    Stands message start position name (position + (labelBytes name).length + 1) := by
  induction name generalizing position with
  | nil => exact .root h
  | cons label rest ih =>
    obtain ⟨nonempty, short⟩ := hlabels label List.mem_cons_self
    have hsplit : labelBytes (label :: rest) ++ [0] = labelBytes [label] ++ (labelBytes rest ++ [0]) := by
      simp [labelBytes]
    rw [hsplit] at h
    have later := ih (fun l hm => hlabels l (List.mem_cons_of_mem _ hm)) h.right
    rw [length_labelBytes_singleton] at later
    rw [length_labelBytes_cons]
    refine .label nonempty short h.left ?_
    rwa [Nat.add_assoc position] at later

end Stands

theorem readLabels_of_stands (h : Stands message start position name stop) (hbound : stop ≤ bound)
    (hshort : used + (labelBytes name).length < maxNameLength) :
    readLabels message start bound used (.into message position) = some (name, .into message stop) := by
  induction h generalizing bound used with
  | root here =>
    rw [here.into_eq]
    exact readLabels_root hbound _
  | @label start position stop label rest nonempty short here later ih =>
    have hlt := later.lt
    rw [length_labelBytes_cons] at hshort
    have hlater : readLabels message start bound (used + label.length + 1)
        (.into message (position + (label.length + 1))) = some (rest, .into message stop) := ih hbound (by omega)
    have hplace : Cursor.into message (position + (label.length + 1)) =
        ⟨position + 1 + label.length, message.drop (position + (label.length + 1))⟩ := by
      rw [Cursor.into]
      congr 1
      omega
    have hbytes : labelBytes [label] = UInt8.ofNat label.length :: label := by simp [labelBytes]
    rw [here.into_eq, length_labelBytes_singleton, hbytes,
      readLabels_label (by omega) nonempty short (by omega), ← hplace, hlater]
    rfl
  | @pointer start position target stop name small here before there ends ih =>
    -- behind a pointer the bound is the start of this name, which the labels there keep
    have hthere : readLabels message target start used (.into message target) = some (name, .into message stop) :=
      ih ends hshort
    rw [here.into_eq, readLabels_pointer (by omega) before small, ← Cursor.into, hthere]
    rfl

/-- A name that stands in a message is read from there. -/
theorem readName_of_stands (h : Stands message position position name stop)
    (hshort : (labelBytes name).length < maxNameLength) :
    readName message (.into message position) = some (name, .into message stop) :=
  readLabels_of_stands h (Nat.le_succ_of_le h.le_length) (by omega)

/-! ## Questions -/

theorem word?_mod_of_hasAt {n : Nat} (h : HasAt message position (word n)) :
    (Cursor.into message position).word? = some (n % 0x10000, .into message (position + 2)) := by
  rw [h.into_eq, word?_word]
  rfl

theorem word?_of_hasAt {n : Nat} (h : HasAt message position (word n)) (hn : n < 0x10000) :
    (Cursor.into message position).word? = some (n, .into message (position + 2)) := by
  rw [word?_mod_of_hasAt h, Nat.mod_eq_of_lt hn]

/-- A question stands at a place in a message, up to another. -/
def QuestionStands (message : Bytes) (position : Nat) (q : Question) (stop : Nat) : Prop :=
  ∃ behind, Stands message position position q.name behind ∧ HasAt message behind (word q.kind ++ word q.net) ∧
    stop = behind + 4

/-- Questions stand at a place in a message, one after the other. -/
def QuestionsStand (message : Bytes) (position : Nat) : List Question → Nat → Prop
  | [], stop => stop = position
  | q :: rest, stop => ∃ behind, QuestionStands message position q behind ∧ QuestionsStand message behind rest stop

theorem QuestionStands.grow {message' : Bytes} {q : Question} (h : QuestionStands message position q stop)
    (grows : message <+: message') : QuestionStands message' position q stop := by
  obtain ⟨behind, hname, hnumbers, hstop⟩ := h
  exact ⟨behind, hname.grow grows, hnumbers.grow grows, hstop⟩

theorem QuestionsStand.grow {message' : Bytes} {questions : List Question}
    (h : QuestionsStand message position questions stop) (grows : message <+: message') :
    QuestionsStand message' position questions stop := by
  induction questions generalizing position with
  | nil => exact h
  | cons q rest ih =>
    obtain ⟨behind, hq, hrest⟩ := h
    exact ⟨behind, hq.grow grows, ih hrest⟩

theorem readQuestion_of_stands {q : Question} (h : QuestionStands message position q stop) (hfits : q.Fits) :
    readQuestion message (.into message position) = some (q, .into message stop) := by
  obtain ⟨behind, hname, hnumbers, rfl⟩ := h
  have hnet : (Cursor.into message (behind + 2)).word? = some (q.net, .into message (behind + 4)) :=
    word?_of_hasAt hnumbers.right hfits.net
  simp only [readQuestion, bind, readName_of_stands hname hfits.name.short, Option.bind_some,
    word?_of_hasAt hnumbers.left hfits.kind, hnet]
  rfl

/-- Questions that stand in a message are read from there. -/
theorem readQuestions_of_stand {questions : List Question} (h : QuestionsStand message position questions stop)
    (hfits : ∀ q ∈ questions, q.Fits) :
    readQuestions message questions.length (.into message position) = some (questions, .into message stop) := by
  induction questions generalizing position with
  | nil =>
    obtain rfl : stop = position := h
    rfl
  | cons q rest ih =>
    obtain ⟨behind, hq, hrest⟩ := h
    have hlater := ih hrest fun q hm => hfits q (List.mem_cons_of_mem _ hm)
    simp only [List.length_cons, readQuestions, bind, readQuestion_of_stands hq (hfits q List.mem_cons_self),
      Option.bind_some, hlater]
    rfl

/-- Questions that stand one after the other stand behind each other, if each stands wherever its bytes are. -/
theorem questionsStand_flatMap {α : Type} {parts : List α} {bytesOf : α → Bytes} {ask : α → Question} {floor : Nat}
    (stand : ∀ part ∈ parts, ∀ position, floor ≤ position → HasAt message position (bytesOf part) →
      QuestionStands message position (ask part) (position + (bytesOf part).length))
    (hfloor : floor ≤ position) (here : HasAt message position (parts.flatMap bytesOf)) :
    QuestionsStand message position (parts.map ask) (position + (parts.flatMap bytesOf).length) := by
  induction parts generalizing position with
  | nil => rfl
  | cons part rest ih =>
    rw [List.flatMap_cons] at here
    have later := ih (fun part hm => stand part (List.mem_cons_of_mem _ hm)) (Nat.le_add_right_of_le hfloor) here.right
    rw [List.flatMap_cons, List.length_append, ← Nat.add_assoc]
    exact ⟨_, stand part List.mem_cons_self position hfloor here.left, later⟩

theorem questionsStand_append {questions later : List Question} {stop' : Nat}
    (h : QuestionsStand message position questions stop) (h' : QuestionsStand message stop later stop') :
    QuestionsStand message position (questions ++ later) stop' := by
  induction questions generalizing position with
  | nil =>
    obtain rfl : stop = position := h
    exact h'
  | cons q rest ih =>
    obtain ⟨behind, hq, hrest⟩ := h
    exact ⟨behind, hq, ih hrest⟩

end Gatehouse.Dns
