import Gatehouse.Http.Fields
import Gatehouse.Proofs.Text

/-!
What changes of header fields do to the values of each name. Main statements: `values_stripHopByHop`, which
says what is left when the fields of a single hop go, and `values_foldl_put` for fields that are set one
after the other.
-/

namespace Gatehouse.Http.Fields

/-! ## Names and values -/

theorem values_append (fields later : Fields) (name : Text) :
    values (fields ++ later) name = fields.values name ++ later.values name :=
  List.filterMap_append

theorem values_cons (first : Text) (value : Bytes) (rest : Fields) (name : Text) :
    values ((first, value) :: rest) name = (if first = name then [value] else []) ++ rest.values name := by
  unfold values
  rw [List.filterMap_cons]
  split <;> simp_all

/-- The values of a name are all kept or all lost where fields are kept by their names. -/
theorem values_filter (keep : Text → Bool) (fields : Fields) (name : Text) :
    values (fields.filter fun field => keep field.1) name = if keep name = true then fields.values name else [] := by
  unfold values
  rw [List.filterMap_filter]
  by_cases hname : keep name = true
  · rw [if_pos hname]
    apply List.filterMap_congr
    intro field _
    by_cases hfield : field.1 = name
    · simp [hfield, hname]
    · simp [hfield]
  · rw [if_neg hname]
    apply List.filterMap_eq_nil_iff.mpr
    intro field _
    by_cases hfield : field.1 = name
    · simp [hfield, hname]
    · simp [hfield]

theorem values_remove (fields : Fields) (other name : Text) :
    (fields.remove other).values name = if name = other then [] else fields.values name := by
  have hkept := values_filter (· != other) fields name
  rw [remove, hkept]
  by_cases h : name = other
  · simp [h]
  · simp [h]

theorem values_put (fields : Fields) (other : Text) (value : Bytes) (name : Text) :
    (fields.put other value).values name = if name = other then [value] else fields.values name := by
  unfold put
  rw [values_append, values_remove, values_cons]
  by_cases h : name = other
  · rw [if_pos h, if_pos h, if_pos h.symm]
    rfl
  · rw [if_neg h, if_neg h, if_neg (Ne.symm h)]
    exact List.append_nil _

/-- A name is present if it has a value. -/
theorem has_iff (fields : Fields) (name : Text) : fields.has name = true ↔ fields.values name ≠ [] := by
  unfold has values
  rw [List.any_eq_true, Ne, List.filterMap_eq_nil_iff]
  refine ⟨?_, ?_⟩
  · intro ⟨field, hm, heq⟩ hnone
    have := hnone field hm
    rw [if_pos (beq_iff_eq.mp heq)] at this
    cases this
  · intro hsome
    by_contra hnone
    apply hsome
    intro field hm
    apply if_neg
    intro heq
    exact hnone ⟨field, hm, beq_iff_eq.mpr heq⟩

/-! ## Values as text -/

/-- Whether a character can be read in a value. -/
def IsVisible (c : Char) : Prop := c.toNat = 9 ∨ 32 ≤ c.toNat ∧ c.toNat < 127

instance (c : Char) : Decidable (IsVisible c) := inferInstanceAs (Decidable (_ ∨ _))

theorem IsVisible.lt {c : Char} (h : IsVisible c) : c.toNat < 128 := by
  rcases h with htab | ⟨-, hlt⟩
  · omega
  · omega

/-- What is read of a value has one character for each byte, and all of them are visible. -/
theorem chars_of_readable {value : Bytes} {t : Text} (h : readable? value = some t) :
    t = value.map (fun b => Char.ofNat b.toNat) ∧ ∀ c ∈ t, IsVisible c := by
  rw [readable?, Option.ite_none_right_eq_some] at h
  obtain ⟨hall, htext⟩ := h
  obtain rfl := Option.some.inj htext
  refine ⟨rfl, fun c hm => ?_⟩
  obtain ⟨b, hb, rfl⟩ := List.mem_map.mp hm
  have hbyte := List.all_eq_true.mp hall b hb
  rw [IsVisible, Text.toNat_ofByte]
  simpa [← UInt8.toNat_inj, UInt8.le_iff_toNat_le, UInt8.lt_iff_toNat_lt] using hbyte

/-- A value is read as the text whose bytes it holds, if all of that is visible. -/
theorem readable?_eq_some_iff {value : Bytes} {t : Text} :
    readable? value = some t ↔ value = Text.utf8 t ∧ ∀ c ∈ t, IsVisible c := by
  refine ⟨?_, ?_⟩
  · intro h
    obtain ⟨htext, hvisible⟩ := chars_of_readable h
    refine ⟨?_, hvisible⟩
    rw [Text.utf8_of_ascii fun c hm => (hvisible c hm).lt, htext, List.map_map]
    refine (List.map_id'' (fun b => ?_) value).symm
    rw [Function.comp_apply, Text.toNat_ofByte, UInt8.ofNat_toNat]
  · rintro ⟨rfl, hvisible⟩
    have hbyte : ∀ c ∈ t, (UInt8.ofNat c.toNat).toNat = c.toNat := fun c hm =>
      UInt8.toNat_ofNat_of_lt' (Nat.lt_trans (hvisible c hm).lt (by decide))
    rw [readable?, Option.ite_none_right_eq_some, Option.some.injEq,
      Text.utf8_of_ascii fun c hm => (hvisible c hm).lt]
    refine ⟨?_, ?_⟩
    · rw [List.all_map, List.all_eq_true]
      intro c hm
      have hc := hvisible c hm
      rw [IsVisible, ← hbyte c hm] at hc
      simpa [← UInt8.toNat_inj, UInt8.le_iff_toNat_le, UInt8.lt_iff_toNat_lt] using hc
    · rw [List.map_map]
      refine (List.map_congr_left fun c hm => ?_).trans (List.map_id t)
      rw [Function.comp_apply, hbyte c hm, Char.ofNat_toNat]
      rfl

/-- What can be read can stand in a field. -/
theorem isValueByte_of_readable {value : Bytes} {t : Text} (h : readable? value = some t) :
    value.all isValueByte = true := by
  rw [readable?, Option.ite_none_right_eq_some] at h
  refine List.all_eq_true.mpr fun b hm => ?_
  have hbyte := List.all_eq_true.mp h.1 b hm
  simp only [Bool.or_eq_true, Bool.and_eq_true, beq_iff_eq, decide_eq_true_eq] at hbyte
  simp only [isValueByte, Bool.or_eq_true, Bool.and_eq_true, beq_iff_eq, decide_eq_true_eq, bne_iff_ne]
  exact hbyte.imp_right fun hin => ⟨hin.1, fun heq => absurd (heq ▸ hin.2) (by decide)⟩

/-! ## Several changes -/

/-- Names that are removed one after the other are removed at once. -/
theorem foldl_remove_eq_filter (names : List Text) (fields : Fields) :
    names.foldl remove fields = fields.filter fun field => decide (field.1 ∉ names) := by
  induction names generalizing fields with
  | nil => simp
  | cons first rest ih =>
    rw [List.foldl_cons, ih, remove, List.filter_filter]
    apply List.filter_congr
    intro field _
    rw [Bool.eq_iff_iff]
    simp [and_comm]

theorem values_eq_nil {fields : Fields} {name : Text} (h : name ∉ fields.map (·.1)) : fields.values name = [] := by
  apply List.filterMap_eq_nil_iff.mpr
  intro field hm
  apply if_neg
  intro heq
  exact h (List.mem_map.mpr ⟨field, hm, heq⟩)

/-- Where every name stands once, a field is the only one of its name. -/
theorem values_of_mem {fields : Fields} (once : (fields.map (·.1)).Nodup) {name : Text} {value : Bytes}
    (h : (name, value) ∈ fields) : fields.values name = [value] := by
  induction fields with
  | nil => cases h
  | cons first rest ih =>
    obtain ⟨hfirst, hrest⟩ := List.nodup_cons.mp once
    rw [values_cons]
    rcases List.mem_cons.mp h with heq | htail
    · subst heq
      rw [if_pos rfl, values_eq_nil hfirst]
      rfl
    · have hne : first.1 ≠ name := by
        intro heq
        exact hfirst (List.mem_map.mpr ⟨_, htail, heq.symm⟩)
      rw [if_neg hne]
      exact ih hrest htail

/-- Fields set one after the other stand, in their order, behind those of other names. -/
theorem foldl_put_eq_append {added : Fields} (once : (added.map (·.1)).Nodup) (fields : Fields) :
    added.foldl (fun kept field => kept.put field.1 field.2) fields =
      (fields.filter fun field => decide (field.1 ∉ added.map (·.1))) ++ added := by
  induction added generalizing fields with
  | nil => simp
  | cons first rest ih =>
    obtain ⟨hfirst, hrest⟩ := List.nodup_cons.mp once
    -- the first one is not set again, so it stays where it was put
    have hstays : [first].filter (fun field => decide (field.1 ∉ rest.map (·.1))) = [first] :=
      List.filter_eq_self.mpr fun field hm => by
        rw [List.mem_singleton.mp hm]
        exact decide_eq_true hfirst
    have hothers : (fields.remove first.1).filter (fun field => decide (field.1 ∉ rest.map (·.1))) =
        fields.filter fun field => decide (field.1 ∉ (first :: rest).map (·.1)) := by
      rw [remove, List.filter_filter]
      apply List.filter_congr
      intro field _
      rw [Bool.eq_iff_iff]
      simp [and_comm]
    rw [List.foldl_cons, ih hrest, put, List.filter_append, hstays, hothers, List.append_assoc, List.singleton_append]

/-- Fields set one after the other have their new values, and all others those that they had. -/
theorem values_foldl_put (added : Fields) (once : (added.map (·.1)).Nodup) (fields : Fields) (name : Text) :
    (added.foldl (fun kept field => kept.put field.1 field.2) fields).values name =
      if name ∈ added.map (·.1) then added.values name else fields.values name := by
  rw [foldl_put_eq_append once, values_append, values_filter fun name => decide (name ∉ added.map (·.1))]
  by_cases hname : name ∈ added.map (·.1)
  · rw [if_pos hname, if_neg (by simpa using hname), List.nil_append]
  · rw [if_neg hname, if_pos (decide_eq_true hname), values_eq_nil hname, List.append_nil]

/-! ## Hop-by-hop fields -/

/-- When the fields of a single hop go, those of all other names are left. -/
theorem stripHopByHop_eq (fields : Fields) :
    fields.stripHopByHop = fields.filter fun field : Text × Bytes =>
      decide ¬ (field.1 ∈ fields.allConnectionOptions ∨ field.1 ∈ hopByHop ∨ field.1 = "upgrade") := by
  rw [stripHopByHop, foldl_remove_eq_filter, remove, List.filter_filter]
  apply List.filter_congr
  intro field _
  rw [Bool.eq_iff_iff, Bool.and_eq_true, bne_iff_ne, decide_eq_true_eq, decide_eq_true_eq, List.mem_append, ← not_or,
    or_comm, or_assoc]

/-- The values of a name that is left when the fields of a single hop go are those that it had. -/
theorem values_stripHopByHop (fields : Fields) (name : Text) :
    fields.stripHopByHop.values name =
      if name ∈ fields.allConnectionOptions ∨ name ∈ hopByHop ∨ name = "upgrade" then []
      else fields.values name := by
  rw [stripHopByHop_eq, values_filter fun name =>
    decide ¬ (name ∈ fields.allConnectionOptions ∨ name ∈ hopByHop ∨ name = "upgrade")]
  simp only [decide_eq_true_eq, ite_not]

theorem allConnectionOptions_congr {fields other : Fields}
    (h : fields.values "connection" = other.values "connection") :
    fields.allConnectionOptions = other.allConnectionOptions := by
  rw [allConnectionOptions, h, allConnectionOptions]

theorem isUpgrade_congr {fields other : Fields} (hc : fields.values "connection" = other.values "connection")
    (hu : fields.values "upgrade" = other.values "upgrade") : fields.isUpgrade = other.isUpgrade := by
  have hhas : fields.has "upgrade" = other.has "upgrade" := by
    rw [Bool.eq_iff_iff, has_iff, has_iff, hu]
  simp only [isUpgrade, text?, get?, hc, hhas]

end Gatehouse.Http.Fields
