import Gatehouse.Proofs.Registry.Change

/-!
Tearing hosts down. Main statements: `delete_chain`, `expire_chain` and `closeAll_chain`, by which the
operations are chains of `Closing`s, and `teardownAll_get?`, which says what a sweep leaves of each host.
-/

namespace Gatehouse.Registry

open Net

theorem teardown_closing {r : Registry} (w : Conditions) {host : Text} {entry : Entry}
    (here : r.hosts.get? host = some entry) :
    Closing r (r.teardown w host entry).calls (r.teardown w host entry).after := by
  simp only [teardown]
  split
  · exact .close here
  · exact .keep here

theorem teardown_calls (r : Registry) (w : Conditions) (host : Text) (entry : Entry) :
    (r.teardown w host entry).calls = entry.stops ++ [releaseAlias w entry.ip] := by
  unfold teardown releaseAlias
  split
  · rename_i hdone
    rw [hdone]
    rfl
  · rename_i hrefused
    rw [hrefused]
    rfl

theorem delete_chain (r : Registry) (w : Conditions) (host : Text) :
    Chain Closing r (r.delete w host).calls (r.delete w host).after := by
  simp only [delete]
  split
  · exact .nil r
  · split
    · exact .nil r
    · rename_i entry here
      exact .single (teardown_closing w here)

/-! ## Sweeps -/

/-- What tearing down leaves of a host. -/
def leftOf (w : Conditions) (entry : Entry) : Option Entry :=
  if (w.removeAlias entry.ip).isNone then none else some { entry with listeners := [] }

theorem teardown_get? (r : Registry) (w : Conditions) (host host' : Text) (entry : Entry) :
    (r.teardown w host entry).after.hosts.get? host' =
      if host' = host then leftOf w entry else r.hosts.get? host' := by
  simp only [teardown, leftOf]
  split
  · rename_i hdone
    simp only [hdone, Option.isNone_none, if_true]
    exact Table.get?_erase host' host r.hosts
  · rename_i hrefused
    simp only [hrefused, Option.isNone_some, Bool.false_eq_true, if_false]
    exact Table.get?_insert host' host _ r.hosts

theorem teardownAll_cons (r : Registry) (w : Conditions) (host : Text) (entry : Entry)
    (rest : Table Text Entry) :
    (r.teardownAll w ((host, entry) :: rest)).after = ((r.teardown w host entry).after.teardownAll w rest).after ∧
      (r.teardownAll w ((host, entry) :: rest)).calls =
        (r.teardown w host entry).calls ++ ((r.teardown w host entry).after.teardownAll w rest).calls := by
  simp only [teardownAll]
  split <;> exact ⟨rfl, rfl⟩

/-- A sweep leaves alone what it does not go through, and leaves of each other host what tearing it down
leaves. -/
theorem teardownAll_get? (w : Conditions) {rows : Table Text Entry} (hs : rows.Sorted) (r : Registry)
    (host : Text) :
    (r.teardownAll w rows).after.hosts.get? host =
      match rows.get? host with
      | none => r.hosts.get? host
      | some entry => leftOf w entry := by
  -- by induction on the rows, for every registry, since each teardown leaves another one
  induction rows generalizing r with
  | nil => rfl
  | cons row rest ih =>
    obtain ⟨first, entry⟩ := row
    obtain ⟨hfirst, hrest⟩ := List.pairwise_cons.mp hs
    rw [(teardownAll_cons r w first entry rest).1, ih hrest, Table.get?_cons]
    by_cases h : host = first
    · subst h
      -- the rows are in order, so that this host does not come again
      have habsent : Table.get? rest host = none := by
        cases hget : Table.get? rest host with
        | none => rfl
        | some later => exact absurd (hfirst _ (Table.mem_of_get? hget)) (irrefl_of (· < ·) host)
      rw [habsent, if_pos rfl, teardown_get?, if_pos rfl]
    · rw [if_neg h]
      cases Table.get? rest host with
      | none => exact (teardown_get? r w first host entry).trans (if_neg h)
      | some later => rfl

/-- The calls of a sweep: for one host after the other, the end of its listeners and then its address. -/
theorem teardownAll_calls (r : Registry) (w : Conditions) (rows : Table Text Entry) :
    (r.teardownAll w rows).calls = rows.flatMap fun row => row.2.stops ++ [releaseAlias w row.2.ip] := by
  induction rows generalizing r with
  | nil => rfl
  | cons row rest ih =>
    obtain ⟨first, entry⟩ := row
    rw [(teardownAll_cons r w first entry rest).2, teardown_calls, ih, List.flatMap_cons]

/-- The hosts that a sweep removes: those whose addresses are taken back. -/
theorem teardownAll_removed (r : Registry) (w : Conditions) (rows : Table Text Entry) :
    (r.teardownAll w rows).removed = (rows.filter fun row => (w.removeAlias row.2.ip).isNone).map (·.1) := by
  induction rows generalizing r with
  | nil => rfl
  | cons row rest ih =>
    obtain ⟨first, entry⟩ := row
    rw [teardownAll, List.filter_cons]
    cases released : w.removeAlias entry.ip with
    | none => simp only [teardown, released, Option.isNone_none, if_true, List.map_cons, ih]
    | some detail => simp only [teardown, released, Option.isNone_some, Bool.false_eq_true, if_false, ih]

theorem teardownAll_chain (w : Conditions) {rows : Table Text Entry} (hs : rows.Sorted) {r : Registry}
    (here : ∀ host entry, (host, entry) ∈ rows → r.hosts.get? host = some entry) :
    Chain Closing r (r.teardownAll w rows).calls (r.teardownAll w rows).after := by
  induction rows generalizing r with
  | nil => exact .nil r
  | cons row rest ih =>
    obtain ⟨first, entry⟩ := row
    obtain ⟨hfirst, hrest⟩ := List.pairwise_cons.mp hs
    rw [(teardownAll_cons r w first entry rest).1, (teardownAll_cons r w first entry rest).2]
    refine .cons (teardown_closing w (here first entry List.mem_cons_self)) (ih hrest ?_)
    intro host later hm
    -- the hosts that come later are still there after the first teardown
    have hne : host ≠ first := by
      intro heq
      subst heq
      exact irrefl_of (· < ·) host (hfirst _ hm)
    rw [teardown_get?, if_neg hne]
    exact here host later (List.mem_cons_of_mem _ hm)

theorem expire_chain {r : Registry} (w : Conditions) (now : Time) (hs : r.hosts.Sorted) :
    Chain Closing r (r.expire w now).calls (r.expire w now).after :=
  teardownAll_chain w (Table.sorted_filter _ hs) fun _ _ hm =>
    Table.get?_of_mem hs (List.mem_of_mem_filter hm)

/-- Closing all is a sweep over all hosts, after which those that it leaves have no listeners; then they
are forgotten. -/
theorem closeAll_chain {r : Registry} (w : Conditions) (hs : r.hosts.Sorted) :
    ∃ left, Chain Closing r (r.closeAll w).calls left ∧ (r.closeAll w).after = { left with hosts := [] } ∧
      ∀ host entry, left.hosts.get? host = some entry → entry.listeners = [] := by
  refine ⟨_, teardownAll_chain w hs fun _ _ hm => Table.get?_of_mem hs hm, rfl, ?_⟩
  intro host entry hleft
  rw [teardownAll_get? w hs] at hleft
  cases hget : r.hosts.get? host with
  | none => rw [hget] at hleft; simp at hleft
  | some before =>
    rw [hget] at hleft
    simp only [leftOf] at hleft
    split at hleft
    · cases hleft
    · cases hleft
      rfl

end Gatehouse.Registry
