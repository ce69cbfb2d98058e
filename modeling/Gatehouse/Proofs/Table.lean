import Gatehouse.Table
import Mathlib.Order.RelClasses

/-!
The order of tables. Main statements: insertion and erasure keep the keys of a table strictly increasing, and
in such a table the entries are exactly what look-ups see. Of rows with distinct keys, look-ups see all, in whatever
order these stand.
-/

namespace Gatehouse.Table

variable {κ α : Type}

/-- The keys are strictly increasing. -/
def Sorted [LT κ] (t : Table κ α) : Prop := t.Pairwise fun a b => a.1 < b.1

theorem sorted_nil [LT κ] : Sorted ([] : Table κ α) := List.Pairwise.nil

theorem sorted_filter [LT κ] {t : Table κ α} (p : κ × α → Bool) (h : Sorted t) : Sorted (t.filter p) :=
  List.Pairwise.filter p h

variable [DecidableEq κ]

theorem get?_insert_self [LT κ] [DecidableLT κ] (k : κ) (v : α) (t : Table κ α) : get? (insert k v t) k = some v := by
  rw [get?_insert, if_pos rfl]

/-- What a table holds after an insertion was inserted or was there. -/
theorem mem_insert [LT κ] [DecidableLT κ] {k : κ} {v : α} {t : Table κ α} {entry : κ × α}
    (h : entry ∈ insert k v t) : entry = (k, v) ∨ entry ∈ t := by
  induction t with
  | nil => exact .inl (List.mem_singleton.mp h)
  | cons head rest ih =>
    obtain ⟨k', v'⟩ := head
    simp only [insert] at h
    split at h
    · rcases List.mem_cons.mp h with h | h
      · exact .inl h
      · exact .inr (List.mem_cons_of_mem _ h)
    · split at h
      · exact List.mem_cons.mp h
      · rcases List.mem_cons.mp h with h | h
        · exact .inr (h ▸ List.mem_cons_self)
        · exact (ih h).imp_right (List.mem_cons_of_mem _)

/-- Of two insertions of one key, the first leaves no trace. -/
theorem insert_insert [LT κ] [DecidableLT κ] (k : κ) (v v' : α) (t : Table κ α) :
    insert k v (insert k v' t) = insert k v t := by
  induction t with
  | nil => simp [insert]
  | cons head rest ih =>
    obtain ⟨k', v''⟩ := head
    by_cases hk : k = k'
    · simp [insert, hk]
    · by_cases hlt : k < k'
      · simp [insert, hk, hlt]
      · simp [insert, hk, hlt, ih]

theorem erase_sublist (k : κ) (t : Table κ α) : (erase k t).Sublist t := by
  induction t with
  | nil => exact List.Sublist.slnil
  | cons head rest ih =>
    obtain ⟨k', v'⟩ := head
    simp only [erase]
    split
    · exact ih.cons _
    · exact ih.cons_cons _

theorem sorted_erase [LT κ] {t : Table κ α} (k : κ) (h : Sorted t) : Sorted (erase k t) :=
  List.Pairwise.sublist (erase_sublist k t) h

theorem mem_of_get? {k : κ} {v : α} {t : Table κ α} (h : t.get? k = some v) : (k, v) ∈ t := by
  induction t with
  | nil => cases h
  | cons head rest ih =>
    obtain ⟨k', v'⟩ := head
    rw [get?_cons] at h
    split at h
    · rename_i hk
      rw [hk, Option.some.inj h]
      exact List.mem_cons_self
    · exact List.mem_cons_of_mem _ (ih h)

/-- A key that a table holds has a value. -/
theorem isSome_get?_of_mem {k : κ} {v : α} {t : Table κ α} (h : (k, v) ∈ t) : (t.get? k).isSome := by
  induction t with
  | nil => cases h
  | cons head rest ih =>
    obtain ⟨k', v'⟩ := head
    rw [get?_cons]
    split
    · rfl
    · rename_i hne
      rcases List.mem_cons.mp h with heq | htail
      · exact absurd (Prod.mk.inj heq).1 hne
      · exact ih htail

theorem isSome_get?_iff {k : κ} {t : Table κ α} : (t.get? k).isSome ↔ ∃ v, (k, v) ∈ t := by
  refine ⟨?_, ?_⟩
  · intro h
    obtain ⟨v, hv⟩ := Option.isSome_iff_exists.mp h
    exact ⟨v, mem_of_get? hv⟩
  · intro h'
    obtain ⟨v, hv⟩ := h'
    exact isSome_get?_of_mem hv

section Order

variable [LT κ] [IsStrictTotalOrder κ (· < ·)]

theorem sorted_insert [DecidableLT κ] {t : Table κ α} (k : κ) (v : α) (h : Sorted t) : Sorted (insert k v t) := by
  induction t with
  | nil => exact List.pairwise_singleton _ _
  | cons head rest ih =>
    obtain ⟨k', v'⟩ := head
    obtain ⟨hhead, hrest⟩ := List.pairwise_cons.mp h
    simp only [insert]
    split
    · rename_i hk
      subst hk
      exact List.pairwise_cons.mpr ⟨hhead, hrest⟩
    · split
      · rename_i hlt
        refine List.pairwise_cons.mpr ⟨?_, h⟩
        intro b hb
        rcases List.mem_cons.mp hb with rfl | hb
        · exact hlt
        · exact Trans.trans hlt (hhead b hb)
      · -- the key belongs behind the first entry, which stays the least
        rename_i hne hnlt
        refine List.pairwise_cons.mpr ⟨?_, ih hrest⟩
        intro b hb
        rcases mem_insert hb with rfl | hb
        · exact (trichotomous_of (· < ·) k' k).resolve_right (not_or.mpr ⟨Ne.symm hne, hnlt⟩)
        · exact hhead b hb

/-- In a sorted table a look-up sees every entry. -/
theorem get?_of_mem {t : Table κ α} (h : Sorted t) {k : κ} {v : α} (hm : (k, v) ∈ t) :
    t.get? k = some v := by
  induction t with
  | nil => cases hm
  | cons head rest ih =>
    obtain ⟨k', v'⟩ := head
    obtain ⟨hhead, hrest⟩ := List.pairwise_cons.mp h
    rw [get?_cons]
    rcases List.mem_cons.mp hm with heq | htail
    · rw [Prod.mk.injEq] at heq
      rw [if_pos heq.1, heq.2]
    · have hne : k ≠ k' := by
        intro heq
        subst heq
        exact irrefl_of (· < ·) k (hhead (k, v) htail)
      rw [if_neg hne]
      exact ih hrest htail

/-- In a sorted table, inserting under a key that is there replaces its value. -/
theorem insert_eq_map [DecidableLT κ] {t : Table κ α} (h : Sorted t) {k : κ} {v : α} (hget : t.get? k = some v)
    (v' : α) : insert k v' t = t.map fun entry => if entry.1 = k then (k, v') else entry := by
  induction t with
  | nil => cases hget
  | cons head rest ih =>
    obtain ⟨k', v''⟩ := head
    obtain ⟨hhead, hrest⟩ := List.pairwise_cons.mp h
    rw [get?_cons] at hget
    rw [List.map_cons]
    by_cases hk : k = k'
    · -- no later entry has this key
      subst hk
      have hlater : ∀ entry ∈ rest, (if entry.1 = k then (k, v') else entry) = entry := by
        intro entry hm
        rw [if_neg]
        rintro rfl
        exact irrefl_of (· < ·) entry.1 (hhead entry hm)
      rw [insert, if_pos rfl, if_pos rfl, List.map_congr_left hlater, List.map_id']
    · rw [if_neg hk] at hget
      have hlt : ¬ k < k' := fun hlt => asymm_of (· < ·) hlt (hhead (k, v) (mem_of_get? hget))
      rw [insert, if_neg hk, if_neg hlt, ih hrest hget, if_neg (Ne.symm hk)]

/-- In a sorted table, inserting what is there changes nothing. -/
theorem insert_of_get? [DecidableLT κ] {t : Table κ α} (h : Sorted t) {k : κ} {v : α} (hget : t.get? k = some v) :
    insert k v t = t := by
  have hsame : ∀ entry ∈ t, (if entry.1 = k then (k, v) else entry) = entry := by
    intro entry hm
    split
    · rename_i hk
      have hvalue := get?_of_mem h hm
      rw [hk, hget] at hvalue
      rw [← hk, Option.some.inj hvalue]
    · rfl
  rw [insert_eq_map h hget, List.map_congr_left hsame, List.map_id']

theorem mem_iff_get? {t : Table κ α} (h : Sorted t) {k : κ} {v : α} :
    (k, v) ∈ t ↔ t.get? k = some v :=
  ⟨get?_of_mem h, mem_of_get?⟩

end Order

/-! ## Rows with distinct keys -/

section Rows

variable [BEq κ] [LawfulBEq κ] {rows order : List (κ × α)} {k : κ} {v : α}

theorem lookup_iff_mem (h : (rows.map (·.1)).Nodup) : rows.lookup k = some v ↔ (k, v) ∈ rows := by
  induction rows with
  | nil => simp
  | cons row rest ih =>
    obtain ⟨k', v'⟩ := row
    rw [List.map_cons, List.nodup_cons] at h
    rw [List.lookup_cons, List.mem_cons, Prod.mk.injEq]
    by_cases hk : k = k'
    · -- no later row has this key
      subst hk
      have hlater : (k, v) ∉ rest := fun hm => h.1 (List.mem_map.mpr ⟨_, hm, rfl⟩)
      rw [beq_self_eq_true]
      simp only [Option.some.injEq, true_and, hlater, or_false]
      exact eq_comm
    · rw [beq_eq_false_iff_ne.mpr hk]
      simp only [hk, false_and, false_or]
      exact ih h.2

theorem lookup_perm (h : (rows.map (·.1)).Nodup) (perm : order.Perm rows) (k : κ) :
    order.lookup k = rows.lookup k := by
  have horder : (order.map (·.1)).Nodup := (perm.map (·.1)).nodup_iff.mpr h
  refine Option.ext fun v => ?_
  rw [lookup_iff_mem horder, lookup_iff_mem h, perm.mem_iff]

theorem lookup_filter (rows : List (κ × α)) (k k' : κ) :
    (rows.filter (·.1 ≠ k)).lookup k' = if k' = k then none else rows.lookup k' := by
  induction rows with
  | nil => simp
  | cons row rest ih =>
    obtain ⟨first, v⟩ := row
    by_cases hfirst : first = k
    · have hskip : List.filter (·.1 ≠ k) ((first, v) :: rest) = rest.filter (·.1 ≠ k) := by simp [hfirst]
      rw [hskip, ih, List.lookup_cons]
      by_cases hk : k' = k
      · rw [if_pos hk, if_pos hk]
      · have hne : (k' == first) = false := beq_eq_false_iff_ne.mpr (hfirst ▸ hk)
        rw [if_neg hk, if_neg hk, hne]
    · have hkeep : List.filter (·.1 ≠ k) ((first, v) :: rest) = (first, v) :: rest.filter (·.1 ≠ k) := by
        simp [hfirst]
      rw [hkeep, List.lookup_cons, List.lookup_cons, ih]
      cases hk : k' == first with
      | false => rfl
      | true =>
        have hne : k' ≠ k := beq_iff_eq.mp hk ▸ hfirst
        exact (if_neg hne).symm

/-- A row in the place of those with its key. -/
theorem lookup_replace (rows : List (κ × α)) (k k' : κ) (v : α) :
    (rows.filter (·.1 ≠ k) ++ [(k, v)]).lookup k' = if k' = k then some v else rows.lookup k' := by
  rw [List.lookup_append, lookup_filter, List.lookup_cons, List.lookup_nil]
  by_cases hk : k' = k
  · simp [hk]
  · simp [hk, beq_eq_false_iff_ne.mpr hk]

end Rows

end Gatehouse.Table
