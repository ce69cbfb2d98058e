import Gatehouse.Text.Basic

/-!
Tables: values by key, kept in the order of the keys. Main statements: a look-up sees the last insertion
of its key and no other, and insertion keeps the order.
-/

namespace Gatehouse

/-- Keys with their values, in increasing order of the keys. -/
abbrev Table (κ α : Type) := List (κ × α)

namespace Table

variable {κ α : Type} [DecidableEq κ]

def get? (t : Table κ α) (k : κ) : Option α := t.lookup k

def insert [LT κ] [DecidableLT κ] (k : κ) (v : α) : Table κ α → Table κ α
  | [] => [(k, v)]
  | (k', v') :: rest =>
    if k = k' then (k, v) :: rest
    else if k < k' then (k, v) :: (k', v') :: rest
    else (k', v') :: insert k v rest

def erase (k : κ) : Table κ α → Table κ α
  | [] => []
  | (k', v') :: rest => if k = k' then erase k rest else (k', v') :: erase k rest

@[simp] theorem get?_nil (k : κ) : get? ([] : Table κ α) k = none := rfl

theorem get?_cons (k k' : κ) (v : α) (t : Table κ α) :
    get? ((k', v) :: t) k = if k = k' then some v else get? t k := by
  by_cases h : k = k'
  · simp [get?, h]
  · simp [get?, List.lookup_cons, h, beq_eq_false_iff_ne.mpr h]

/-- A key that was set has its new value, and every other key the value that it had. -/
theorem get?_insert [LT κ] [DecidableLT κ] (k k' : κ) (v : α) (t : Table κ α) :
    get? (insert k' v t) k = if k = k' then some v else get? t k := by
  induction t with
  | nil => simp [insert, get?_cons]
  | cons entry rest ih =>
    obtain ⟨k'', v''⟩ := entry
    by_cases h : k' = k''
    · subst h
      by_cases hk : k = k' <;> simp [insert, get?_cons, hk]
    · by_cases hlt : k' < k''
      · simp [insert, h, hlt, get?_cons]
      · by_cases hk : k = k'
        · subst hk
          simp [insert, h, hlt, get?_cons, ih]
        · simp [insert, h, hlt, get?_cons, ih, hk]

/-- A key that was erased has no value, and every other key the value that it had. -/
theorem get?_erase (k k' : κ) (t : Table κ α) :
    get? (erase k' t) k = if k = k' then none else get? t k := by
  induction t with
  | nil => simp [erase]
  | cons entry rest ih =>
    obtain ⟨k'', v''⟩ := entry
    by_cases h : k' = k''
    · subst h
      by_cases hk : k = k'
      · subst hk
        simp [erase, ih]
      · simp [erase, get?_cons, ih, hk]
    · by_cases hk : k = k''
      · subst hk
        simp [erase, get?_cons, h, Ne.symm h]
      · simp [erase, get?_cons, h, hk, ih]

end Table
end Gatehouse
