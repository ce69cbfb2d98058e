import Gatehouse.HostName
import Gatehouse.Proofs.Text

/-!
Host names in canonical form. Main statements: what normalization accepts is in canonical form, a name in
canonical form is its own key in the zone, and its domain, the last of its labels, is its own key too.
-/

namespace Gatehouse.HostName

/-- A host name in the form in which hosts are registered. -/
structure IsCanonical (host : Text) : Prop where
  valid : isValid host = true
  lower_eq : Text.lower host = host
  key_eq : zoneKey host = host

/-! ## Normalization -/

theorem zoneKey_canonical (t : Text) : zoneKey (canonical t) = canonical t := by
  simp only [zoneKey, canonical, withoutEndDots]
  rw [Text.trimEnd_lower (by decide), Text.trimEnd_trimEnd, Text.lower_lower]

theorem normalize_eq_ok_iff {t host : Text} :
    normalize t = .ok host ↔ isValid (canonical t) = true ∧ canonical t = host := by
  rw [normalize]
  by_cases hempty : canonical t = []
  · have hinvalid : isValid [] = false := by decide
    simp [hempty, hinvalid]
  · by_cases hvalid : isValid (canonical t) = true <;> simp [hempty, hvalid]

theorem isCanonical_of_normalize {t host : Text} (h : normalize t = .ok host) : IsCanonical host := by
  obtain ⟨hvalid, rfl⟩ := normalize_eq_ok_iff.mp h
  exact ⟨hvalid, Text.lower_lower _, zoneKey_canonical t⟩

/-! ## Labels and the domain -/

theorem isLabelChar_toLower (c : Char) : isLabelChar c.toLower = isLabelChar c := by
  have hhyphen : (c.toLower == '-') = (c == '-') := by
    rw [Bool.eq_iff_iff, beq_iff_eq, beq_iff_eq]
    exact Text.toLower_eq_iff (by decide)
  rw [isLabelChar, isLabelChar, Text.isAlphanum_toLower, hhyphen]

/-- Characters of labels are ASCII. -/
theorem toNat_lt_of_isLabelChar {c : Char} (h : isLabelChar c = true) : c.toNat < 128 := by
  rw [isLabelChar, Bool.or_eq_true, beq_iff_eq] at h
  rcases h with h | rfl
  · exact Text.toNat_lt_of_isAlphanum h
  · decide

theorem isBlank_of_isLabelChar {c : Char} (h : isLabelChar c = true) : Text.isBlank c = false := by
  rw [isLabelChar, Bool.or_eq_true, beq_iff_eq] at h
  rcases h with h | rfl
  · have hval : c.toNat = c.val.toNat := rfl
    simp only [Char.isAlphanum, Char.isAlpha, Char.isUpper, Char.isLower, Char.isDigit, Bool.or_eq_true,
      Bool.and_eq_true, decide_eq_true_eq, ge_iff_le, UInt32.le_iff_toNat_le] at h
    simp [Text.isBlank, Text.blankRanges] at h ⊢
    omega
  · decide

theorem isLabel_lower (label : Text) : isLabel (Text.lower label) = isLabel label := by
  have hhyphen (c : Option Char) : (c.map Char.toLower != some '-') = (c != some '-') := by
    cases c with
    | none => rfl
    | some c =>
      rw [Bool.eq_iff_iff, Option.map_some, bne_iff_ne, bne_iff_ne, ne_eq, ne_eq, Option.some.injEq, Option.some.injEq,
        Text.toLower_eq_iff (by decide)]
  have hempty : (Text.lower label != []) = (label != []) := by cases label <;> rfl
  have hchars : (Text.lower label).all isLabelChar = label.all isLabelChar := by
    rw [Text.lower, List.all_map]
    exact List.all_congr rfl fun c => isLabelChar_toLower c
  simp only [isLabel, hempty, hchars]
  rw [Text.lower, List.length_map, List.head?_map, List.getLast?_map, hhyphen, hhyphen]

theorem isLabel_of_mem {host label : Text} (h : IsCanonical host) (hm : label ∈ Text.split '.' host) :
    isLabel label = true := by
  have hvalid := h.valid
  rw [isValid, Bool.and_eq_true] at hvalid
  exact List.all_eq_true.mp hvalid.2 label hm

theorem label_ne_nil {label : Text} (h : isLabel label = true) : label ≠ [] := by
  intro heq
  subst heq
  cases h

theorem length_label {label : Text} (h : isLabel label = true) : label.length ≤ maxLabelLength := by
  simp only [isLabel, Bool.and_eq_true, decide_eq_true_eq] at h
  exact h.1.1.1.2

theorem char_of_isLabel {label : Text} {c : Char} (h : isLabel label = true) (hm : c ∈ label) :
    isLabelChar c = true := by
  rw [isLabel, Bool.and_eq_true] at h
  exact List.all_eq_true.mp h.2 c hm

theorem dot_not_mem_label {label : Text} (h : isLabel label = true) : '.' ∉ label :=
  fun hm => absurd (char_of_isLabel h hm) (by decide)

/-- The characters of a name in canonical form. -/
theorem char_of_mem {host : Text} {c : Char} (h : IsCanonical host) (hm : c ∈ host) :
    isLabelChar c = true ∨ c = '.' := by
  rcases Text.mem_split_of_mem '.' hm with heq | ⟨label, hlabel, hc⟩
  · exact .inr heq
  · exact .inl (char_of_isLabel (isLabel_of_mem h hlabel) hc)

theorem canonical_of_chars {t : Text} (h : ∀ c ∈ t, isLabelChar c = true ∨ c = '.') : canonical t = zoneKey t := by
  have hblank : ∀ c ∈ t, Text.isBlank c = false := by
    intro c hm
    rcases h c hm with hc | rfl
    · exact isBlank_of_isLabelChar hc
    · decide
  rw [canonical, Text.trim, Text.trimBoth_eq_self hblank, zoneKey]

theorem lower_label {host label : Text} (h : IsCanonical host) (hm : label ∈ Text.split '.' host) :
    Text.lower label = label := by
  have hmap := Text.split_lower '.' (by decide) host
  rw [h.lower_eq] at hmap
  exact List.map_inj_left.mp (hmap.symm.trans (List.map_id _).symm) label hm

/-- A label of a name in canonical form is its own key. -/
theorem zoneKey_label {host label : Text} (h : IsCanonical host) (hm : label ∈ Text.split '.' host) :
    zoneKey label = label := by
  have hdots : withoutEndDots label = label :=
    Text.trimEnd_of_not_mem (dot_not_mem_label (isLabel_of_mem h hm))
  rw [zoneKey, hdots, lower_label h hm]

theorem domain?_eq_some_iff {t domain : Text} :
    domain? t = some domain ↔ domain ≠ [] ∧ (Text.split '.' (zoneKey t)).getLast? = some domain := by
  rw [domain?]
  cases hlast : (Text.split '.' (zoneKey t)).getLast? with
  | none => simp
  | some last =>
    cases last with
    | nil => simp [eq_comm]
    | cons c rest =>
      simp only [Option.some.injEq, iff_and_self]
      intro heq
      exact heq ▸ List.cons_ne_nil c rest

/-- The domain of a name in canonical form is the last of its labels. -/
theorem domain?_eq {host : Text} (h : IsCanonical host) :
    ∃ domain ∈ Text.split '.' host, (Text.split '.' host).getLast? = some domain ∧
      domain? host = some domain := by
  obtain ⟨domain, hlast⟩ : ∃ domain, (Text.split '.' host).getLast? = some domain := by
    rw [← Option.isSome_iff_exists, List.getLast?_isSome]
    exact Text.split_ne_nil '.' host
  have hm := List.mem_of_getLast? hlast
  refine ⟨domain, hm, hlast, ?_⟩
  rw [domain?, h.key_eq, hlast]
  cases domain with
  | nil => exact absurd rfl (label_ne_nil (isLabel_of_mem h hm))
  | cons _ _ => rfl

/-- A label of a name in canonical form is the only label of itself. -/
theorem domain?_label {host label : Text} (h : IsCanonical host) (hm : label ∈ Text.split '.' host) :
    domain? label = some label := by
  have isLabel := isLabel_of_mem h hm
  rw [domain?, zoneKey_label h hm, Text.split_of_not_mem (dot_not_mem_label isLabel)]
  cases label with
  | nil => exact absurd rfl (label_ne_nil isLabel)
  | cons _ _ => rfl

end Gatehouse.HostName
