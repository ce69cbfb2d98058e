import Gatehouse.Certificates
import Gatehouse.Proofs.SystemResolver
import Gatehouse.Registry.Operations

/-!
The name of a host in all parts of the gateway. Main statement: `normalize_agrees`, by which normalization accepts the
spellings of host names and no other texts, and by which the registry, the zone and the certificate authority keep an
accepted host under one and the same text.
-/

namespace Gatehouse.HostName

variable {t host label : Text}

/-! ## Host names -/

/-- A host name in lower case: short labels of letters, digits and hyphens with dots between them. -/
structure IsHost (host : Text) : Prop where
  ne_nil : ∀ label ∈ Text.split '.' host, label ≠ []
  short : ∀ label ∈ Text.split '.' host, label.length ≤ 63
  chars : ∀ label ∈ Text.split '.' host, ∀ c ∈ label, c.isLower = true ∨ c.isDigit = true ∨ c = '-'
  front : ∀ label ∈ Text.split '.' host, label.head? ≠ some '-'
  back : ∀ label ∈ Text.split '.' host, label.getLast? ≠ some '-'
  bytes : Text.byteLength host ≤ 253

/-- Whether a text is a host name up to letter case, with dots behind it and blanks around all of this. -/
def Spells (t host : Text) : Prop :=
  ∃ front core dots back, t = front ++ (core ++ dots) ++ back ∧ (∀ c ∈ front, Text.isBlank c = true) ∧
    (∀ c ∈ dots, c = '.') ∧ (∀ c ∈ back, Text.isBlank c = true) ∧ Text.lower core = host

theorem isLabel_iff : isLabel label = true ↔ label ≠ [] ∧ label.length ≤ 63 ∧ label.head? ≠ some '-' ∧
    label.getLast? ≠ some '-' ∧ ∀ c ∈ label, isLabelChar c = true := by
  simp only [isLabel, Bool.and_eq_true, bne_iff_ne, decide_eq_true_eq, List.all_eq_true, and_assoc]
  rfl

theorem isLabelChar_of_small {c : Char} (h : c.isLower = true ∨ c.isDigit = true ∨ c = '-') :
    isLabelChar c = true ∧ c.toLower = c := by
  refine ⟨?_, Char.toLower_eq_of_not_isUpper fun hupper => ?_⟩
  · rw [isLabelChar, Char.isAlphanum, Char.isAlpha]
    rcases h with h | h | rfl
    · simp [h]
    · simp [h]
    · rfl
  · rcases h with h | h | rfl
    · simp [Char.isLower, Char.isUpper, UInt32.le_iff_toNat_le] at h hupper
      omega
    · simp [Char.isDigit, Char.isUpper, UInt32.le_iff_toNat_le] at h hupper
      omega
    · exact absurd hupper (by decide)

theorem isHost_of_canonical (h : IsCanonical host) : IsHost host := by
  have hlabel : ∀ label ∈ Text.split '.' host, isLabel label = true := fun label hm => isLabel_of_mem h hm
  have hvalid := h.valid
  rw [isValid, Bool.and_eq_true, decide_eq_true_eq] at hvalid
  refine ⟨?_, ?_, ?_, ?_, ?_, hvalid.1⟩
  · exact fun label hm => (isLabel_iff.mp (hlabel label hm)).1
  · exact fun label hm => (isLabel_iff.mp (hlabel label hm)).2.1
  · exact fun label hm => (SystemResolver.isDomain_of_isLabel (hlabel label hm) (lower_label h hm)).chars
  · exact fun label hm => (isLabel_iff.mp (hlabel label hm)).2.2.1
  · exact fun label hm => (isLabel_iff.mp (hlabel label hm)).2.2.2.1

theorem IsHost.valid (h : IsHost host) : isValid host = true := by
  rw [isValid, Bool.and_eq_true, decide_eq_true_eq]
  refine ⟨h.bytes, List.all_eq_true.mpr fun label hm => isLabel_iff.mpr ?_⟩
  exact ⟨h.ne_nil label hm, h.short label hm, h.front label hm, h.back label hm,
    fun c hc => (isLabelChar_of_small (h.chars label hm c hc)).1⟩

theorem IsHost.lower_eq (h : IsHost host) : Text.lower host = host := by
  refine (List.map_congr_left fun c hm => ?_).trans (List.map_id host)
  rcases Text.mem_split_of_mem '.' hm with rfl | ⟨label, hlabel, hc⟩
  · rfl
  · exact (isLabelChar_of_small (h.chars label hlabel c hc)).2

/-- A host name has no dots at its end, since its last label is not empty. -/
theorem IsHost.trimEnd_eq (h : IsHost host) : Text.trimEnd (· == '.') host = host := by
  have hpieces : ∀ label ∈ Text.split '.' host, label ≠ [] ∧ '.' ∉ label := fun label hm =>
    ⟨h.ne_nil label hm, Text.not_mem_of_mem_split hm⟩
  have hjoined := Text.trimEnd_join hpieces
  rwa [Text.join_split] at hjoined

theorem IsHost.canonical (h : IsHost host) : IsCanonical host where
  valid := h.valid
  lower_eq := h.lower_eq
  key_eq := by rw [zoneKey, withoutEndDots, h.trimEnd_eq, h.lower_eq]

/-! ## Spellings -/

theorem spells_canonical (t : Text) : Spells t (canonical t) := by
  obtain ⟨back, hback, hblank⟩ := Text.exists_trimEnd_append Text.isBlank (t.dropWhile Text.isBlank)
  obtain ⟨dots, hdots, hdot⟩ := Text.exists_trimEnd_append (· == '.') (Text.trim t)
  refine ⟨t.takeWhile Text.isBlank, withoutEndDots (Text.trim t), dots, back, ?_, ?_, ?_, hblank, rfl⟩
  · calc t = t.takeWhile Text.isBlank ++ t.dropWhile Text.isBlank := List.takeWhile_append_dropWhile.symm
      _ = t.takeWhile Text.isBlank ++ (Text.trim t ++ back) := congrArg _ hback
      _ = t.takeWhile Text.isBlank ++ (withoutEndDots (Text.trim t) ++ dots) ++ back := by
        rw [List.append_assoc]
        exact congrArg (fun kept => t.takeWhile Text.isBlank ++ (kept ++ back)) hdots
  · exact fun c hm => List.mem_takeWhile_imp hm
  · exact fun c hm => beq_iff_eq.mp (hdot c hm)

/-- Characters of a host name in any letter case are no blanks. -/
theorem isBlank_of_core {core : Text} (h : IsHost (Text.lower core)) {c : Char} (hm : c ∈ core) : Text.isBlank c = false := by
  have hlower := char_of_mem h.canonical (List.mem_map_of_mem (f := Char.toLower) hm)
  rcases hlower with hlabel | hdot
  · rw [isLabelChar_toLower] at hlabel
    exact isBlank_of_isLabelChar hlabel
  · rw [Text.toLower_eq_iff (by decide)] at hdot
    subst hdot
    decide

theorem core_ne_nil {core : Text} (h : IsHost (Text.lower core)) : core ≠ [] := by
  rintro rfl
  exact h.ne_nil [] (by decide) rfl

theorem canonical_of_spells (h : IsHost host) (hspells : Spells t host) : canonical t = host := by
  obtain ⟨front, core, dots, back, rfl, hfront, hdots, hback, rfl⟩ := hspells
  have hkept : ∀ c ∈ core ++ dots, Text.isBlank c = false := by
    intro c hm
    rcases List.mem_append.mp hm with hcore | hdot
    · exact isBlank_of_core h hcore
    · obtain rfl := hdots c hdot
      decide
  have htrim : Text.trim (front ++ (core ++ dots) ++ back) = core ++ dots :=
    Text.trimBoth_between hfront hback hkept (List.append_ne_nil_of_left_ne_nil (core_ne_nil h) dots)
  have hcore : Text.trimEnd (· == '.') core = core := by
    have hlower := h.trimEnd_eq
    rw [Text.trimEnd_lower (by decide)] at hlower
    refine (Text.trimEnd_begins _ core).eq_of_length ?_
    have hlength := congrArg List.length hlower
    rwa [Text.lower, Text.lower, List.length_map, List.length_map] at hlength
  have hend : Text.trimEnd (· == '.') dots = [] := Text.trimEnd_eq_nil fun c hm => beq_iff_eq.mpr (hdots c hm)
  rw [canonical, htrim, withoutEndDots, Text.trimEnd_append_of_nil _ _ hend, hcore]

/-- What is accepted are the spellings of host names, and nothing else. -/
theorem normalize_iff_spells : normalize t = .ok host ↔ IsHost host ∧ Spells t host := by
  constructor
  · intro h
    obtain ⟨-, rfl⟩ := normalize_eq_ok_iff.mp h
    exact ⟨isHost_of_canonical (isCanonical_of_normalize h), spells_canonical t⟩
  · rintro ⟨h, hspells⟩
    have hcanonical := canonical_of_spells h hspells
    exact normalize_eq_ok_iff.mpr ⟨hcanonical.symm ▸ h.valid, hcanonical⟩

/-! ## One name everywhere -/

/-- The registration of a host's domain comes to a result. -/
theorem registerDomain_of_isHost (h : IsHost host) (r : Registry) (w : Registry.Conditions) :
    ∃ done, r.registerDomain w host = .ok done := by
  obtain ⟨domain, -, -, hdomain⟩ := domain?_eq h.canonical
  rw [Registry.registerDomain, hdomain]
  simp only
  split
  · exact ⟨_, rfl⟩
  · exact ⟨_, rfl⟩

/-- The certificate of a host is issued under the host's name. -/
theorem issue_of_isHost (h : IsHost host) (a : Authority) : ∃ n, (a.issue host).1 = .ok (n, Certificate.leaf host) := by
  have hname : Authority.cacheName host = host := h.canonical.key_eq
  have hne : host ≠ [] := by
    rintro rfl
    exact h.ne_nil [] (by decide) rfl
  have hascii : Text.isAscii host = true := by
    refine List.all_eq_true.mpr fun c hm => decide_eq_true ?_
    rcases char_of_mem h.canonical hm with hlabel | rfl
    · exact toNat_lt_of_isLabelChar hlabel
    · decide
  rw [Authority.issue, hname]
  simp only [if_neg hne, if_pos hascii]
  split
  · exact ⟨_, rfl⟩
  · exact ⟨_, rfl⟩

/-- What is accepted as a host are the spellings of host names: a host name in any letter case, with dots behind it and
blanks around all of this. An accepted host is accepted again as it is; it is its own key in the zone, its domain is the
last of its labels, so that the domain can always be registered, and its certificate is kept and issued under its own
name. Two texts that are accepted are the same host exactly if they are the same without blanks, dots and letter case. -/
theorem normalize_agrees :
    (∀ t host, normalize t = .ok host ↔ IsHost host ∧ Spells t host) ∧
    (∀ t host, normalize t = .ok host → normalize host = .ok host ∧ zoneKey host = host ∧
      domain? host = (Text.split '.' host).getLast? ∧ (domain? host).isSome = true ∧
      (∀ (r : Registry) w, ∃ done, r.registerDomain w host = .ok done) ∧ Authority.cacheName host = host ∧
      ∀ a : Authority, ∃ n, (a.issue host).1 = .ok (n, Certificate.leaf host)) ∧
    ∀ s t first second, normalize s = .ok first → normalize t = .ok second →
      (first = second ↔
        Text.lower (withoutEndDots (Text.trim s)) = Text.lower (withoutEndDots (Text.trim t))) := by
  refine ⟨fun t host => normalize_iff_spells, ?_, ?_⟩
  · intro t host hnormalize
    obtain ⟨h, -⟩ := normalize_iff_spells.mp hnormalize
    obtain ⟨domain, -, hlast, hdomain⟩ := domain?_eq h.canonical
    have hagain : normalize host = .ok host :=
      normalize_iff_spells.mpr ⟨h, [], host, [], [], by simp, by simp, by simp, by simp, h.lower_eq⟩
    refine ⟨hagain, h.canonical.key_eq, ?_, ?_, registerDomain_of_isHost h, h.canonical.key_eq, issue_of_isHost h⟩
    · rw [hdomain, hlast]
    · rw [hdomain]
      rfl
  · intro s t first second hs ht
    obtain ⟨-, rfl⟩ := normalize_eq_ok_iff.mp hs
    obtain ⟨-, rfl⟩ := normalize_eq_ok_iff.mp ht
    rfl

theorem webHost_agrees :
    normalize " WEB.Test.. " = .ok "web.test" ∧ normalize "web.tesT" = .ok "web.test" ∧
      normalize "web.test" = .ok "web.test" ∧ zoneKey "web.test" = "web.test" ∧ domain? "web.test" = some "test" ∧
      Text.lower (withoutEndDots (Text.trim " WEB.Test.. ")) = Text.lower (withoutEndDots (Text.trim "web.tesT")) := by
  have hspaced : normalize " WEB.Test.. " = .ok "web.test" := by rfl
  have hplain : normalize "web.tesT" = .ok "web.test" := by rfl
  obtain ⟨hagain, hzone, hdomain, -⟩ := normalize_agrees.2.1 " WEB.Test.. " "web.test" hspaced
  have hsame := (normalize_agrees.2.2 " WEB.Test.. " "web.tesT" "web.test" "web.test" hspaced hplain).mp rfl
  exact ⟨hspaced, hplain, hagain, hzone, hdomain.trans (by rfl), hsame⟩

end Gatehouse.HostName
