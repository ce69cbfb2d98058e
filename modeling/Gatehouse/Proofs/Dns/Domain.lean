import Gatehouse.Proofs.Dns.Name

/-!
The domain of a name, which is cut off from its displayed text, told by the labels of the name. Main statements:
`Name.domain?_text`, by which only the last label counts, and `Label.domain?_text_iff`, by which the domain of a
label is the label itself, if it is displayed as it is, or what follows the last dot in it.
-/

namespace Gatehouse.Dns

open HostName (zoneKey withoutEndDots)

/-! ## Ends of texts -/

/-- Whether a text is a domain, or ends in a dot and the domain. -/
def EndsIn (t domain : Text) : Prop := t = domain ∨ ('.' :: domain) <:+ t

section
variable {t last domain : Text}

theorem endsIn_of_not_mem (h : '.' ∉ t) : EndsIn t domain ↔ t = domain := by
  refine or_iff_left ?_
  intro hsuffix
  exact h (hsuffix.subset List.mem_cons_self)

theorem endsIn_append_dot (t : Text) (hlast : '.' ∉ last) (hdomain : '.' ∉ domain) :
    EndsIn (t ++ '.' :: last) domain ↔ last = domain := by
  rw [EndsIn, ← Text.getLast?_split_iff hdomain, Text.getLast?_split_append, Text.split_of_not_mem hlast,
    List.getLast?_singleton, Option.some.injEq]

/-- A domain that a text ends in has the last character of the text. -/
theorem EndsIn.last_mem {c : Char} (h : EndsIn (t ++ [c]) domain) (hne : domain ≠ []) : c ∈ domain := by
  rcases h with rfl | ⟨front, heq⟩
  · exact List.mem_append_right t (List.mem_singleton_self c)
  · refine List.mem_of_getLast? ?_
    calc domain.getLast?
        = ('.' :: domain).getLast? := (List.getLast?_append_of_ne_nil ['.'] hne).symm
      _ = (front ++ '.' :: domain).getLast? := (List.getLast?_append_of_ne_nil front (List.cons_ne_nil _ _)).symm
      _ = some c := by rw [heq, List.getLast?_concat]

theorem domain?_iff_endsIn (hdomain : HostName.isLabel domain = true) :
    HostName.domain? t = some domain ↔ EndsIn (zoneKey t) domain := by
  rw [HostName.domain?_eq_some_iff, Text.getLast?_split_iff (HostName.dot_not_mem_label hdomain), EndsIn]
  exact and_iff_right (HostName.label_ne_nil hdomain)

end

namespace Label

/-- Whether a dot and the domain stand at the end of a label: in its bytes or, if it is displayed in other
characters, in these. -/
def IsDotted (label : Label) (domain : Text) : Prop :=
  match label.international? with
  | none => ('.' :: domain) <:+ Text.lower label.chars
  | some shown => ('.' :: domain) <:+ zoneKey shown

variable {label front back : Label} {domain : Text}

/-! ## Dots in labels -/

/-- A displayed byte has a dot in it only if it is one. -/
theorem dot_mem_showByte {isFirst : Bool} {b : UInt8} (h : '.' ∈ showByte isFirst b) : Char.ofNat b.toNat = '.' := by
  have hdigit : ∀ n < 8, Nat.digitChar n ≠ '.' := by decide
  have hb := b.toNat_lt
  rw [showByte] at h
  split at h
  · exact (List.mem_singleton.mp h).symm
  · split at h
    · simpa [eq_comm] using h
    · simp only [List.mem_cons, List.not_mem_nil, or_false] at h
      rcases h with h | h | h | h
      · cases h
      · exact absurd h.symm (hdigit _ (by omega))
      · exact absurd h.symm (hdigit _ (by omega))
      · exact absurd h.symm (hdigit _ (by omega))

theorem showByte_ne_nil (isFirst : Bool) (b : UInt8) : showByte isFirst b ≠ [] := by
  rw [showByte]
  split
  · exact List.cons_ne_nil _ _
  · split <;> exact List.cons_ne_nil _ _

theorem flatMap_showByte_ne_nil (hne : back ≠ []) : back.flatMap (showByte false) ≠ [] := by
  obtain ⟨b, rest, rfl⟩ := List.exists_cons_of_ne_nil hne
  rw [List.flatMap_cons]
  exact List.append_ne_nil_of_left_ne_nil (showByte_ne_nil false b) _

theorem dot_mem_escaped (h : '.' ∈ escaped label) : '.' ∈ chars label := by
  have hrest : ∀ rest : Label, '.' ∈ rest.flatMap (showByte false) → '.' ∈ chars rest := by
    intro rest hm
    obtain ⟨b, hb, hdot⟩ := List.mem_flatMap.mp hm
    exact List.mem_map.mpr ⟨b, hb, dot_mem_showByte hdot⟩
  cases label with
  | nil => cases h
  | cons b rest =>
    rcases List.mem_append.mp h with hfirst | hlater
    · exact List.mem_map.mpr ⟨b, List.mem_cons_self, dot_mem_showByte hfirst⟩
    · exact List.mem_cons_of_mem _ (hrest rest hlater)

/-- A dot in a label is displayed behind a backslash, and what follows it as in the middle of a label. -/
theorem escaped_append_dot (front back : Label) :
    escaped (front ++ 0x2E :: back) = escaped front ++ '\\' :: '.' :: back.flatMap (showByte false) := by
  have hdot : ∀ isFirst, showByte isFirst 0x2E = ['\\', '.'] := by decide
  cases front with
  | nil => exact congrArg (· ++ back.flatMap (showByte false)) (hdot true)
  | cons b rest =>
    rw [List.cons_append, escaped, escaped, List.flatMap_append, List.flatMap_cons, hdot, List.append_assoc]
    rfl

/-- A label without dots, or the part of one behind its last dot. -/
theorem eq_append_dot (label : Label) :
    '.' ∉ chars label ∨ ∃ front back, label = front ++ 0x2E :: back ∧ '.' ∉ chars back := by
  induction label with
  | nil => exact .inl List.not_mem_nil
  | cons b rest ih =>
    rcases ih with hrest | ⟨front, back, rfl, hback⟩
    · by_cases hb : Char.ofNat b.toNat = '.'
      · have hbyte : b = 0x2E := by
          rw [← UInt8.toNat_inj, ← Text.toNat_ofByte b, hb]
          rfl
        exact .inr ⟨[], rest, by rw [hbyte, List.nil_append], hrest⟩
      · refine .inl ?_
        rw [chars, List.map_cons, List.mem_cons, not_or]
        exact ⟨Ne.symm hb, hrest⟩
    · exact .inr ⟨b :: front, back, rfl, hback⟩

/-! ## The domain of a label -/

/-- The bytes of a label that spell a domain behind the first one are shown as they are. -/
theorem flatMap_showByte_of_isLabel (h : HostName.isLabel (Text.lower (chars back)) = true) :
    back.flatMap (showByte false) = chars back := by
  rw [HostName.isLabel, Bool.and_eq_true] at h
  rw [chars, ← List.flatMap_pure_eq_map]
  refine List.flatMap_congr fun b hm => ?_
  have hchar := List.all_eq_true.mp h.2 _ (List.mem_map_of_mem (List.mem_map_of_mem hm))
  rw [HostName.isLabelChar_toLower] at hchar
  exact if_pos (isPlain_of_isLabelChar hchar fun h => by cases h)

theorem backslash_not_mem_label (h : HostName.isLabel domain = true) : '\\' ∉ domain := by
  intro hm
  rw [HostName.isLabel, Bool.and_eq_true] at h
  exact absurd (List.all_eq_true.mp h.2 _ hm) (by decide)

theorem backslash_not_mem_of_lower {t : Text} (h : HostName.isLabel (Text.lower t) = true) : '\\' ∉ t :=
  fun hm => backslash_not_mem_label h (List.mem_map_of_mem hm)

theorem flatMap_showByte_iff (hdomain : HostName.isLabel domain = true) :
    Text.lower (back.flatMap (showByte false)) = domain ↔ Text.lower (chars back) = domain := by
  refine ⟨?_, ?_⟩
  · rintro rfl
    rw [(flatMap_showByte (backslash_not_mem_of_lower hdomain)).1]
  · rintro rfl
    rw [flatMap_showByte_of_isLabel hdomain]

theorem escaped_iff (hdomain : HostName.isLabel domain = true) :
    Text.lower (escaped label) = domain ↔ Text.lower (chars label) = domain := by
  refine ⟨?_, ?_⟩
  · rintro rfl
    rw [(escaped_of_no_backslash (backslash_not_mem_of_lower hdomain)).1]
  · rintro rfl
    rw [escaped_of_isLabel hdomain]

theorem dot_not_mem_lower {t : Text} (h : '.' ∉ t) : '.' ∉ Text.lower t := by
  intro hm
  obtain ⟨c, hc, heq⟩ := List.mem_map.mp hm
  exact h ((Text.toLower_eq_iff (by decide)).mp heq ▸ hc)

/-- A dot at the end of a label is trimmed, but not the backslash in front of it, which ends no domain. -/
theorem not_endsIn_dot (hdomain : HostName.isLabel domain = true) (shown : Text) :
    ¬ EndsIn (zoneKey (shown ++ ['\\', '.'])) domain := by
  have htrim : Text.trimEnd (· == '.') (shown ++ ['\\', '.']) = shown ++ ['\\'] :=
    Text.trimEnd_append _ _ (by decide)
  rw [zoneKey, withoutEndDots, htrim]
  intro h
  have hlast : EndsIn (Text.lower shown ++ ['\\']) domain := by simpa [Text.lower] using h
  exact backslash_not_mem_label hdomain (hlast.last_mem (HostName.label_ne_nil hdomain))

/-- What is displayed behind the last dot of a label is the domain if its bytes spell it. -/
theorem endsIn_append_shown (hdomain : HostName.isLabel domain = true) (hne : back ≠ []) (hback : '.' ∉ chars back)
    (shown : Text) : EndsIn (zoneKey (shown ++ ['\\', '.'] ++ back.flatMap (showByte false))) domain ↔
      Text.lower (chars back) = domain := by
  have hnodot : '.' ∉ back.flatMap (showByte false) := by
    intro hm
    obtain ⟨b, hb, hdot⟩ := List.mem_flatMap.mp hm
    exact hback (List.mem_map.mpr ⟨b, hb, dot_mem_showByte hdot⟩)
  have htrim : Text.trimEnd (· == '.') (back.flatMap (showByte false)) = back.flatMap (showByte false) :=
    Text.trimEnd_of_not_mem hnodot
  have hkept : Text.trimEnd (· == '.') (back.flatMap (showByte false)) ≠ [] := by
    rw [htrim]
    exact flatMap_showByte_ne_nil hne
  have hlowered : Text.lower (shown ++ ['\\', '.'] ++ back.flatMap (showByte false)) =
      Text.lower (shown ++ ['\\']) ++ '.' :: Text.lower (back.flatMap (showByte false)) := by
    simp [Text.lower]
  rw [zoneKey, withoutEndDots, Text.trimEnd_append _ _ hkept, htrim, hlowered,
    endsIn_append_dot _ (dot_not_mem_lower hnodot) (HostName.dot_not_mem_label hdomain)]
  exact flatMap_showByte_iff hdomain

/-- The domain of an escaped label is the label, or what follows its last dot. -/
theorem domain?_escaped_iff (hdomain : HostName.isLabel domain = true) :
    HostName.domain? (escaped label) = some domain ↔ EndsIn (Text.lower (chars label)) domain := by
  rw [domain?_iff_endsIn hdomain]
  rcases eq_append_dot label with hlabel | ⟨front, back, rfl, hback⟩
  · -- no dots: the whole label counts
    have hescaped : '.' ∉ escaped label := fun hm => hlabel (dot_mem_escaped hm)
    rw [zoneKey, withoutEndDots, Text.trimEnd_of_not_mem hescaped, endsIn_of_not_mem (dot_not_mem_lower hescaped),
      endsIn_of_not_mem (dot_not_mem_lower hlabel)]
    exact escaped_iff hdomain
  · -- a dot: what is behind the last one counts
    have hchars : Text.lower (chars (front ++ 0x2E :: back)) =
        Text.lower (chars front) ++ '.' :: Text.lower (chars back) := by
      simp only [chars, Text.lower, List.map_append, List.map_cons]
      rfl
    rw [hchars, endsIn_append_dot _ (dot_not_mem_lower hback) (HostName.dot_not_mem_label hdomain), escaped_append_dot]
    by_cases hempty : back = []
    · subst hempty
      exact iff_of_false (not_endsIn_dot hdomain (escaped front)) (HostName.label_ne_nil hdomain).symm
    · rw [← endsIn_append_shown hdomain hempty hback (escaped front), List.append_assoc]
      rfl

/-- A text beyond ASCII is no label of a host. -/
theorem zoneKey_ne_of_beyond_ascii {t : Text} (h : ∃ c ∈ t, 128 ≤ c.toNat) (hdomain : HostName.isLabel domain = true) :
    zoneKey t ≠ domain := by
  rintro rfl
  obtain ⟨c, hc, hbeyond⟩ := h
  rw [HostName.isLabel, Bool.and_eq_true] at hdomain
  rcases Text.mem_trimEnd (p := (· == '.')) hc with hm | hdot
  · have hchar := List.all_eq_true.mp hdomain.2 _ (List.mem_map_of_mem hm)
    rw [HostName.isLabelChar_toLower] at hchar
    exact absurd (HostName.toNat_lt_of_isLabelChar hchar) (by omega)
  · rw [beq_iff_eq.mp hdot] at hbeyond
    exact absurd hbeyond (by decide)

/-- The domain of a label is the label itself, if this is displayed as it is, or stands behind a dot in it. -/
theorem domain?_text_iff (hdomain : HostName.isLabel domain = true) :
    HostName.domain? label.text = some domain ↔
      (label.international? = none ∧ Text.lower label.chars = domain) ∨ label.IsDotted domain := by
  rw [text, IsDotted]
  cases hshown : label.international? with
  | none =>
    simp only [true_and]
    exact domain?_escaped_iff hdomain
  | some shown =>
    have hother := zoneKey_ne_of_beyond_ascii (international?_beyond_ascii hshown) hdomain
    simp only [reduceCtorEq, false_and, false_or]
    exact (domain?_iff_endsIn hdomain).trans (or_iff_right hother)

/-- The dots at the end of a label are not all that is displayed of it. -/
theorem withoutEndDots_text_ne_nil (hne : label ≠ []) : withoutEndDots label.text ≠ [] := by
  obtain ⟨c, hc, hdot⟩ : ∃ c ∈ label.text, (c == '.') = false := by
    rw [text]
    cases hshown : label.international? with
    | some shown =>
      obtain ⟨c, hc, hbeyond⟩ := international?_beyond_ascii hshown
      refine ⟨c, hc, ?_⟩
      rw [beq_eq_false_iff_ne]
      rintro rfl
      exact absurd hbeyond (by decide)
    | none =>
      obtain ⟨b, rest, rfl⟩ := List.exists_cons_of_ne_nil hne
      cases hplain : isPlain true b with
      | true =>
        refine ⟨Char.ofNat b.toNat, List.mem_append_left _ ?_, beq_eq_false_iff_ne.mpr (ne_dot_of_isPlain hplain)⟩
        rw [showByte_of_isPlain hplain]
        exact List.mem_singleton_self _
      | false => exact ⟨'\\', List.mem_append_left _ (backslash_mem_showByte hplain), by decide⟩
  rcases Text.mem_trimEnd (p := (· == '.')) hc with hm | htrimmed
  · exact List.ne_nil_of_mem hm
  · rw [hdot] at htrimmed
    cases htrimmed

end Label

/-! ## The domain of a name -/

/-- The domain of a name is that of its last label. The root has none. -/
theorem Name.domain?_text {name : Name} (nonempty : ∀ label ∈ name, label ≠ []) :
    HostName.domain? name.text = name.getLast?.bind fun label => HostName.domain? label.text := by
  rcases List.eq_nil_or_concat name with rfl | ⟨front, label, rfl⟩
  · decide
  have hdot : (".".toList : Text) = ['.'] := rfl
  have hlabel : Text.trimEnd (· == '.') label.text ≠ [] :=
    Label.withoutEndDots_text_ne_nil (nonempty label (by simp))
  have hkey : ∀ before : Text, zoneKey (before ++ label.text ++ ".") = Text.lower before ++ zoneKey label.text := by
    intro before
    rw [zoneKey, withoutEndDots, hdot, Text.trimEnd_append_of_nil _ _ (by rfl), Text.trimEnd_append _ _ hlabel]
    exact List.map_append
  rw [List.concat_eq_append, List.getLast?_concat, Option.bind_some, text, List.map_append, List.map_singleton]
  by_cases hfront : front = []
  · subst hfront
    have halone : zoneKey (label.text ++ ".") = zoneKey label.text := hkey []
    rw [List.map_nil, List.nil_append, Text.join, HostName.domain?, HostName.domain?, halone]
  · have hbefore : Text.join "." (front.map Label.text ++ [label.text]) ++ "." =
        Text.join "." (front.map Label.text) ++ ['.'] ++ label.text ++ "." := by
      rw [Text.join_concat _ _ (List.map_eq_nil_iff.not.mpr hfront), hdot]
    have hlowered : Text.lower (Text.join "." (front.map Label.text) ++ ['.']) ++ zoneKey label.text =
        Text.lower (Text.join "." (front.map Label.text)) ++ '.' :: zoneKey label.text := by
      simp [Text.lower]
    rw [HostName.domain?, HostName.domain?, hbefore, hkey, hlowered, Text.getLast?_split_append]

end Gatehouse.Dns
