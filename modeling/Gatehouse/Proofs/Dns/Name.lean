import Gatehouse.Dns.Name
import Gatehouse.Proofs.HostName
import Gatehouse.Proofs.Idna.Label

/-!
Names in queries and the hosts that they spell. Main statements: `zoneKey_text_eq_iff`, by which the displayed
text of a name leads to a host exactly if the name has the host's labels and none of its labels is shown in
characters beyond ASCII, and `domain?_capitals`, by which every domain can be asked for.
-/

namespace Gatehouse.Dns

open HostName (IsCanonical zoneKey isLabelChar withoutEndDots)

/-- The bytes of a label as characters. -/
def Label.chars (label : Label) : Text := label.map fun b => Char.ofNat b.toNat

namespace Name

/-- Whether the labels of a name are, one by one and up to the case of ASCII letters, those of a host. -/
def Spells (name : Name) (host : Text) : Prop :=
  name.map (fun label => Text.lower label.chars) = Text.split '.' host

instance (name : Name) (host : Text) : Decidable (name.Spells host) :=
  inferInstanceAs (Decidable (name.map (fun label => Text.lower label.chars) = Text.split '.' host))

/-- Whether no label of a name is shown in the characters that its punycode stands for. -/
def IsShownAsIs (name : Name) : Prop := ∀ label ∈ name, label.international? = none

instance (name : Name) : Decidable name.IsShownAsIs :=
  inferInstanceAs (Decidable (∀ label ∈ name, label.international? = none))

end Name

/-! ## Labels -/

namespace Label

variable {label : Label} {isFirst : Bool} {b : UInt8}

theorem isPlain_iff : isPlain isFirst b = true ↔ b < 128 ∧ ((Char.ofNat b.toNat).isAlphanum = true ∨
    Char.ofNat b.toNat = '_' ∨ (Char.ofNat b.toNat = '-' ∧ isFirst = false) ∨
    (Char.ofNat b.toNat = '*' ∧ isFirst = true)) := by
  simp [isPlain, or_assoc]

theorem showByte_of_isPlain (h : isPlain isFirst b = true) : showByte isFirst b = [Char.ofNat b.toNat] := if_pos h

/-- A byte that is not shown as it is comes with a backslash. -/
theorem backslash_mem_showByte (h : isPlain isFirst b = false) : '\\' ∈ showByte isFirst b := by
  simp only [showByte, h, Bool.false_eq_true, if_false]
  split <;> exact List.mem_cons_self

theorem ne_dot_of_isPlain (h : isPlain isFirst b = true) : Char.ofNat b.toNat ≠ '.' := by
  intro heq
  rw [isPlain_iff, heq] at h
  simp at h

theorem flatMap_showByte {rest : Label} (h : '\\' ∉ rest.flatMap (showByte false)) :
    rest.flatMap (showByte false) = chars rest ∧ '.' ∉ chars rest := by
  induction rest with
  | nil => exact ⟨rfl, List.not_mem_nil⟩
  | cons b rest ih =>
    rw [List.flatMap_cons, List.mem_append, not_or] at h
    obtain ⟨heq, hdot⟩ := ih h.2
    have hplain : isPlain false b = true := by
      by_contra hnot
      exact h.1 (backslash_mem_showByte (Bool.eq_false_iff.mpr hnot))
    refine ⟨?_, ?_⟩
    · rw [List.flatMap_cons, showByte_of_isPlain hplain, heq]
      rfl
    · rw [chars, List.map_cons, List.mem_cons, not_or]
      exact ⟨(ne_dot_of_isPlain hplain).symm, hdot⟩

/-- Without a backslash, a label is shown byte by byte, and has no dots. -/
theorem escaped_of_no_backslash (h : '\\' ∉ escaped label) : escaped label = chars label ∧ '.' ∉ chars label := by
  cases label with
  | nil => exact ⟨rfl, List.not_mem_nil⟩
  | cons b rest =>
    rw [escaped, List.mem_append, not_or] at h
    obtain ⟨heq, hdot⟩ := flatMap_showByte h.2
    have hplain : isPlain true b = true := by
      by_contra hnot
      exact h.1 (backslash_mem_showByte (Bool.eq_false_iff.mpr hnot))
    refine ⟨?_, ?_⟩
    · rw [escaped, showByte_of_isPlain hplain, heq]
      rfl
    · rw [chars, List.map_cons, List.mem_cons, not_or]
      exact ⟨(ne_dot_of_isPlain hplain).symm, hdot⟩

theorem isPlain_of_isLabelChar (h : isLabelChar (Char.ofNat b.toNat) = true)
    (hfirst : isFirst = true → Char.ofNat b.toNat ≠ '-') : isPlain isFirst b = true := by
  have hlt : b < 128 := by
    rw [UInt8.lt_iff_toNat_lt, ← Text.toNat_ofByte b]
    exact HostName.toNat_lt_of_isLabelChar h
  rw [isLabelChar, Bool.or_eq_true, beq_iff_eq] at h
  simp only [isPlain, hlt, decide_true, Bool.true_and]
  rcases h with h | h
  · simp [h]
  · cases isFirst with
    | true => exact absurd h (hfirst rfl)
    | false => simp [h]

/-- A label that spells a label of a host is shown byte by byte. -/
theorem escaped_of_isLabel (h : HostName.isLabel (Text.lower (chars label)) = true) : escaped label = chars label := by
  simp only [HostName.isLabel, Bool.and_eq_true] at h
  obtain ⟨⟨⟨-, hhead⟩, -⟩, hall⟩ := h
  have hchar : ∀ b ∈ label, isLabelChar (Char.ofNat b.toNat) = true := by
    intro b hm
    rw [← HostName.isLabelChar_toLower]
    exact List.all_eq_true.mp hall _ (List.mem_map_of_mem (List.mem_map_of_mem hm))
  cases label with
  | nil => rfl
  | cons b rest =>
    have hfirst : Char.ofNat b.toNat ≠ '-' := by
      intro heq
      simp [chars, Text.lower, heq] at hhead
    have hrest : rest.flatMap (showByte false) = chars rest := by
      rw [chars, ← List.flatMap_pure_eq_map]
      refine List.flatMap_congr fun b hm => ?_
      exact if_pos (isPlain_of_isLabelChar (hchar b (List.mem_cons_of_mem _ hm)) fun h => by cases h)
    have hplain : isPlain true b = true := isPlain_of_isLabelChar (hchar b List.mem_cons_self) fun _ => hfirst
    rw [escaped, showByte, if_pos hplain, hrest]
    rfl

/-- What is shown for punycode is beyond ASCII. -/
theorem international?_beyond_ascii {t : Text} (h : international? label = some t) : ∃ c ∈ t, 128 ≤ c.toNat := by
  rw [international?] at h
  split at h
  · rename_i hmark
    obtain ⟨rest, rfl⟩ := List.isPrefixOf_iff_prefix.mp hmark
    have hread : Text.ofUtf8Lossy (Text.utf8 Idna.punycodeMark ++ rest) =
        Idna.punycodeMark ++ Text.ofUtf8Lossy rest := by
      have hbytes : Text.utf8 Idna.punycodeMark ++ rest = 0x78 :: 0x6E :: 0x2D :: 0x2D :: rest := rfl
      rw [hbytes, Text.ofUtf8Lossy_cons (c := 'x') (by decide) (by decide),
        Text.ofUtf8Lossy_cons (c := 'n') (by decide) (by decide),
        Text.ofUtf8Lossy_cons (c := '-') (by decide) (by decide),
        Text.ofUtf8Lossy_cons (c := '-') (by decide) (by decide)]
      rfl
    rw [hread] at h
    exact Idna.toUnicode?_beyond_ascii h
  · cases h

end Label

/-! ## Names -/

namespace Name

variable {name : Name} {host : Text}

theorem text_of_isShownAsIs (h : name.IsShownAsIs) : name.text = Text.join "." (name.map Label.escaped) ++ "." := by
  have hmap : name.map Label.text = name.map Label.escaped := by
    refine List.map_congr_left ?_
    intro label hm
    rw [Label.text, h label hm]
    rfl
  rw [text, hmap]

/-- Of labels without dots, the dot behind them is all that is trimmed. -/
theorem zoneKey_join {labels : List Text} (h : ∀ label ∈ labels, label ≠ [] ∧ '.' ∉ label) :
    zoneKey (Text.join "." labels ++ ".") = Text.join "." (labels.map Text.lower) := by
  have hdot : (".".toList : Text) = ['.'] := rfl
  rw [zoneKey, withoutEndDots, hdot, Text.trimEnd_append_of_nil _ _ (by rfl), Text.trimEnd_join h, Text.lower_join]
  rfl

/-- A name that spells a host leads to it. -/
theorem zoneKey_of_spells (hlabels : ∀ label ∈ Text.split '.' host, HostName.isLabel label = true)
    (spells : name.Spells host) (shown : name.IsShownAsIs) : zoneKey name.text = host := by
  have hlabel : ∀ label ∈ name, HostName.isLabel (Text.lower label.chars) = true := by
    intro label hm
    refine hlabels _ ?_
    rw [← show _ = Text.split '.' host from spells]
    exact List.mem_map_of_mem hm
  have hescaped : name.map Label.escaped = name.map Label.chars :=
    List.map_congr_left fun label hm => Label.escaped_of_isLabel (hlabel label hm)
  have hdots : ∀ label ∈ name.map Label.chars, label ≠ [] ∧ '.' ∉ label := by
    intro chars hm
    obtain ⟨label, hlabelm, rfl⟩ := List.mem_map.mp hm
    have h := hlabel label hlabelm
    refine ⟨fun heq => HostName.label_ne_nil h (by rw [heq]; rfl), fun hdot => HostName.dot_not_mem_label h ?_⟩
    exact List.mem_map.mpr ⟨'.', hdot, rfl⟩
  calc zoneKey name.text
      = zoneKey (Text.join "." (name.map Label.chars) ++ ".") := by rw [text_of_isShownAsIs shown, hescaped]
    _ = Text.join "." ((name.map Label.chars).map Text.lower) := zoneKey_join hdots
    _ = Text.join "." (Text.split '.' host) := by rw [← show _ = Text.split '.' host from spells, List.map_map]; rfl
    _ = host := Text.join_split '.' host

/-- The characters of a displayed text that leads to a host are those of host names, or dots. -/
theorem char_of_zoneKey {t : Text} (hcanonical : IsCanonical host) (h : zoneKey t = host) {c : Char} (hm : c ∈ t) :
    isLabelChar c = true ∨ c = '.' := by
  rcases Text.mem_trimEnd (p := (· == '.')) hm with htrim | hdot
  · have hhost : c.toLower ∈ host := by
      rw [← h]
      exact List.mem_map_of_mem htrim
    rw [← HostName.isLabelChar_toLower, ← Text.toLower_eq_iff (c := c) (d := '.') (by decide)]
    exact HostName.char_of_mem hcanonical hhost
  · exact .inr (beq_iff_eq.mp hdot)

theorem char_of_mem_text (hcanonical : IsCanonical host) (h : zoneKey name.text = host) {label : Label} {c : Char}
    (hm : label ∈ name) (hc : c ∈ label.text) : isLabelChar c = true ∨ c = '.' :=
  char_of_zoneKey hcanonical h (List.mem_append_left _ (Text.mem_join (List.mem_map_of_mem hm) hc))

/-- A host name has no characters beyond ASCII, so that nothing is shown for punycode. -/
theorem isShownAsIs_of_zoneKey (hcanonical : IsCanonical host) (h : zoneKey name.text = host) : name.IsShownAsIs := by
  intro label hm
  cases hshown : label.international? with
  | none => rfl
  | some t =>
    obtain ⟨c, hc, hbeyond⟩ := Label.international?_beyond_ascii hshown
    rcases char_of_mem_text hcanonical h hm (by rw [Label.text, hshown]; exact hc) with hascii | rfl
    · exact absurd (HostName.toNat_lt_of_isLabelChar hascii) (by omega)
    · exact absurd hbeyond (by decide)

/-- Nor does it have a backslash, so that no byte is escaped. -/
theorem escaped_of_zoneKey (hcanonical : IsCanonical host) (h : zoneKey name.text = host) :
    ∀ label ∈ name, label.escaped = label.chars ∧ '.' ∉ label.chars := by
  intro label hm
  refine Label.escaped_of_no_backslash ?_
  intro hbackslash
  have hchar := char_of_mem_text hcanonical h hm
    (by rw [Label.text, isShownAsIs_of_zoneKey hcanonical h label hm]; exact hbackslash)
  exact absurd hchar (by decide)

/-- A name that leads to a host spells it. -/
theorem spells_of_zoneKey (hcanonical : IsCanonical host) (nonempty : ∀ label ∈ name, label ≠ [])
    (h : zoneKey name.text = host) : name.Spells host := by
  have hplain := escaped_of_zoneKey hcanonical h
  have hescaped : name.map Label.escaped = name.map Label.chars :=
    List.map_congr_left fun label hm => (hplain label hm).1
  have hdots : ∀ chars ∈ name.map Label.chars, chars ≠ [] ∧ '.' ∉ chars := by
    intro chars hm
    obtain ⟨label, hlabel, rfl⟩ := List.mem_map.mp hm
    exact ⟨fun heq => nonempty label hlabel (List.map_eq_nil_iff.mp heq), (hplain label hlabel).2⟩
  have hhost : Text.join "." (name.map fun label => Text.lower label.chars) = host := by
    rw [← h, text_of_isShownAsIs (isShownAsIs_of_zoneKey hcanonical h), hescaped, zoneKey_join hdots, List.map_map]
    rfl
  have hne : name.map (fun label => Text.lower label.chars) ≠ [] := by
    intro hnil
    rw [hnil] at hhost
    have hempty : [] ∈ Text.split '.' host := by rw [← hhost]; exact List.mem_singleton_self []
    exact HostName.label_ne_nil (HostName.isLabel_of_mem hcanonical hempty) rfl
  have hsplit := Text.split_join '.' hne ?_
  · rw [Spells, ← hsplit]
    exact congrArg (Text.split '.') hhost
  · intro lowered hm hdot
    obtain ⟨label, hlabel, rfl⟩ := List.mem_map.mp hm
    obtain ⟨c, hc, hlower⟩ := List.mem_map.mp hdot
    rw [Text.toLower_eq_iff (by decide)] at hlower
    exact (hplain label hlabel).2 (hlower ▸ hc)

theorem zoneKey_text_eq_iff (hcanonical : IsCanonical host) (nonempty : ∀ label ∈ name, label ≠ []) :
    zoneKey name.text = host ↔ name.Spells host ∧ name.IsShownAsIs :=
  ⟨fun h => ⟨spells_of_zoneKey hcanonical nonempty h, isShownAsIs_of_zoneKey hcanonical h⟩, fun h =>
    zoneKey_of_spells (fun _ hm => HostName.isLabel_of_mem hcanonical hm) h.1 h.2⟩

end Name

/-! ## A spelling for every domain -/

/-- The label with the characters of a text in capitals, in which no mark of punycode is seen. -/
def Label.capitals (t : Text) : Label := t.map fun c => UInt8.ofNat c.toUpper.toNat

variable {t : Text}

theorem toNat_ofNat_toUpper {c : Char} (h : isLabelChar c = true) :
    (UInt8.ofNat c.toUpper.toNat).toNat = c.toUpper.toNat := by
  have hupper : isLabelChar c.toUpper = true := by
    rwa [← HostName.isLabelChar_toLower, Char.toLower_toUpper_eq_toLower, HostName.isLabelChar_toLower]
  have hlt := HostName.toNat_lt_of_isLabelChar hupper
  rw [UInt8.toNat_ofNat']
  omega

theorem Label.chars_capitals (h : HostName.isLabel t = true) : chars (capitals t) = t.map Char.toUpper := by
  rw [HostName.isLabel, Bool.and_eq_true] at h
  rw [chars, capitals, List.map_map]
  refine List.map_congr_left ?_
  intro c hm
  have hbyte := toNat_ofNat_toUpper (List.all_eq_true.mp h.2 c hm)
  exact (congrArg Char.ofNat hbyte).trans (Char.ofNat_toNat _)

/-- No capital is the first letter of the mark of punycode. -/
theorem Label.international?_capitals (h : HostName.isLabel t = true) : international? (capitals t) = none := by
  refine if_neg ?_
  intro hmark
  obtain ⟨rest, hrest⟩ := List.isPrefixOf_iff_prefix.mp hmark
  have hchars : (t.map Char.toUpper).head? = some 'x' := by
    rw [← chars_capitals h, ← hrest]
    rfl
  rw [List.head?_map, Option.map_eq_some_iff] at hchars
  obtain ⟨c, -, hupper⟩ := hchars
  have hagain := Char.toUpper_toUpper_eq_toUpper (c := c)
  rw [hupper] at hagain
  exact absurd hagain (by decide)

/-- Every domain is the displayed domain of some name. -/
theorem Name.domain?_capitals (h : HostName.isLabel t = true) (hlower : Text.lower t = t) :
    HostName.domain? (Name.text [Label.capitals t]) = HostName.domain? t := by
  have hdot := HostName.dot_not_mem_label h
  have hsplit : Text.split '.' t = [t] := Text.split_of_not_mem hdot
  have spells : Name.Spells [Label.capitals t] t := by
    have hlowered : Text.lower (t.map Char.toUpper) = t := by
      calc Text.lower (t.map Char.toUpper)
          = t.map fun c => c.toUpper.toLower := List.map_map
        _ = Text.lower t := List.map_congr_left fun c _ => Char.toLower_toUpper_eq_toLower c
        _ = t := hlower
    rw [Spells, List.map_cons, List.map_nil, Label.chars_capitals h, hlowered, hsplit]
  have shown : Name.IsShownAsIs [Label.capitals t] := by
    intro label hm
    rw [List.mem_singleton.mp hm]
    exact Label.international?_capitals h
  have hkey : zoneKey (Name.text [Label.capitals t]) = t := by
    refine Name.zoneKey_of_spells ?_ spells shown
    rw [hsplit]
    intro label hm
    rwa [List.mem_singleton.mp hm]
  have hkey' : zoneKey t = t := by
    rw [zoneKey, withoutEndDots, Text.trimEnd_of_not_mem hdot, hlower]
  rw [HostName.domain?, HostName.domain?, hkey, hkey']

end Gatehouse.Dns
