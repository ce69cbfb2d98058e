import Gatehouse.Proofs.Registry.Invariant

/-!
The addresses that are bound to the interface. Main statement: `run_aliases`, by which an address that is
bound is held by a host, and is not bound a second time, unless an operation gave it up although the system
did not take it back. Tearing a host down keeps the host until the system does; a creation that is undone
and the closing of all hosts do not.
-/

namespace Gatehouse.Registry

open Net

/-! ## Calls with their operations -/

/-- Whether an operation keeps a host whose address the system does not take back. -/
def Operation.retries : Operation → Bool
  | .delete _ | .expire _ => true
  | _ => false

/-- Calls, each with the operation that made it. -/
def Operation.made (op : Operation) (calls : List Call) : List (Operation × Call) :=
  calls.map fun call => (op, call)

/-- All calls of a run, each with the operation that made it, in order. -/
def History.trace (s : History) : List (Operation × Call) :=
  s.events.flatMap fun event => event.operation.made event.calls

/-- The addresses that are bound to the interface after these calls. -/
def bound (trace : List (Operation × Call)) : Finset Ipv4 := aliases (trace.map (·.2))

/-- The addresses that were given up although the system did not take them back, after one more call. -/
def abandon (given : Finset Ipv4) : Operation × Call → Finset Ipv4
  | (op, .removeAlias ip false) => if op.retries then given else insert ip given
  | (_, .removeAlias ip true) => given.erase ip
  | (_, .addAlias ip true) => given.erase ip
  | _ => given

/-- The addresses that were given up although the system did not take them back, and that were neither
taken back nor bound once more since. -/
def abandoned (trace : List (Operation × Call)) : Finset Ipv4 := trace.foldl abandon ∅

/-- No address is bound while it is still bound, except those that were given up. -/
def Fresh (trace : List (Operation × Call)) : Prop :=
  ∀ before op ip done later, trace = before ++ (op, .addAlias ip done) :: later →
    ip ∈ bound before → ip ∈ abandoned before

variable {trace : List (Operation × Call)} {op : Operation} {call : Call} {calls told : List Call} {ip : Ipv4}

theorem Operation.made_append (op : Operation) (calls later : List Call) :
    op.made (calls ++ later) = op.made calls ++ op.made later :=
  List.map_append

theorem perform_operation (op : Operation) (r : Registry) (w : Conditions) :
    (op.perform r w).2.operation = op := by
  cases op <;> rfl

theorem History.trace_next (s : History) (step : Step) :
    (s.next step).trace =
      s.trace ++ step.operation.made (step.operation.perform s.registry step.conditions).2.calls := by
  simp [History.trace, History.next, perform_operation]

theorem History.trace_calls (s : History) : s.trace.map (·.2) = s.calls := by
  simp only [History.trace, History.calls, Operation.made, List.map_flatMap, List.map_map]
  apply List.flatMap_congr
  intro event _
  exact List.map_id _

/-! ## Single calls -/

theorem bound_snoc (trace : List (Operation × Call)) (op : Operation) (call : Call) :
    bound (trace ++ [(op, call)]) = Call.aliases (bound trace) call := by
  simp [bound, aliases]

theorem abandoned_snoc (trace : List (Operation × Call)) (op : Operation) (call : Call) :
    abandoned (trace ++ [(op, call)]) = abandon (abandoned trace) (op, call) :=
  List.foldl_append

theorem fresh_nil : Fresh [] := by
  intro before op ip done later heq
  exact absurd heq.symm (List.append_ne_nil_of_right_ne_nil _ (List.cons_ne_nil _ _))

theorem Fresh.snoc (h : Fresh trace)
    (last : ∀ ip done, call = .addAlias ip done → ip ∈ bound trace → ip ∈ abandoned trace) :
    Fresh (trace ++ [(op, call)]) := by
  intro before op' ip done later heq hm
  rcases List.eq_nil_or_concat later with rfl | ⟨later, final, rfl⟩
  · obtain ⟨rfl, hcall⟩ := List.append_inj' heq rfl
    exact last ip done (Prod.mk.inj (List.singleton_inj.mp hcall)).2 hm
  · have hsplit : trace ++ [(op, call)] = (before ++ (op', .addAlias ip done) :: later) ++ [final] := by
      simpa using heq
    exact h before op' ip done later (List.append_inj' hsplit rfl).1 hm

theorem Fresh.removeAlias {done : Bool} (h : Fresh trace) :
    Fresh (trace ++ [(op, Call.removeAlias ip done)]) := by
  apply h.snoc
  intro ip' done' heq
  cases heq

/-- Whether a call leaves the addresses of the interface alone. -/
def Call.Quiet : Call → Prop
  | .addAlias _ _ | .removeAlias _ _ => False
  | _ => True

theorem quiet_told {domains domains' : List Text} {host : Text}
    (registers : Registers domains host domains' told) : ∀ call ∈ told, call.Quiet := by
  cases registers <;> simp [Call.Quiet]

theorem quiet_start {domains domains' : List Text} {host : Text}
    (registers : Registers domains host domains' told) (ip : Ipv4) (port : Nat) (done : Bool) :
    ∀ call ∈ told ++ [.listen ip port done], call.Quiet := by
  intro call hm
  rcases List.mem_append.mp hm with htold | hlisten
  · exact quiet_told registers call htold
  · rw [List.mem_singleton.mp hlisten]
    trivial

theorem quiet_stops (entry : Entry) : ∀ call ∈ entry.stops, call.Quiet := by
  intro call hm
  obtain ⟨listener, -, rfl⟩ := List.mem_map.mp hm
  trivial

/-! ## What is held, bound and given up -/

/-- All addresses that are held are bound, and those that are bound are held or were given up. -/
structure Accounted (held : Ipv4 → Prop) (trace : List (Operation × Call)) : Prop where
  there : ∀ ip, held ip → ip ∈ bound trace
  known : ∀ ip ∈ bound trace, held ip ∨ ip ∈ abandoned trace
  fresh : Fresh trace

section Accounts

variable {held held' : Ipv4 → Prop}

theorem Accounted.congr (h : Accounted held trace) (same : ∀ ip, held' ip ↔ held ip) :
    Accounted held' trace := by
  have heq : held' = held := funext fun ip => propext (same ip)
  rwa [heq]

theorem Accounted.quiet (h : Accounted held trace) (quiet : ∀ call ∈ calls, call.Quiet) :
    Accounted held (trace ++ op.made calls) := by
  induction calls generalizing trace with
  | nil => simpa [Operation.made] using h
  | cons call rest ih =>
    have hquiet : call.Quiet := quiet call List.mem_cons_self
    have hbound : bound (trace ++ [(op, call)]) = bound trace := by
      rw [bound_snoc]
      cases call <;> first | rfl | exact hquiet.elim
    have habandoned : abandoned (trace ++ [(op, call)]) = abandoned trace := by
      rw [abandoned_snoc]
      cases call <;> first | rfl | exact hquiet.elim
    have hone : Accounted held (trace ++ [(op, call)]) := by
      refine ⟨?_, ?_, ?_⟩
      · rw [hbound]
        exact h.there
      · rw [hbound, habandoned]
        exact h.known
      · apply h.fresh.snoc
        intro ip done heq
        rw [heq] at hquiet
        exact hquiet.elim
    have hrest := ih hone fun later hm => quiet later (List.mem_cons_of_mem _ hm)
    rwa [List.append_assoc] at hrest

/-- An address that is not held is free to be bound, or was given up. -/
theorem Accounted.fresh_addAlias (h : Accounted held trace) (free : ¬ held ip) (done : Bool) :
    Fresh (trace ++ [(op, Call.addAlias ip done)]) := by
  apply h.fresh.snoc
  intro ip' done' heq hm
  obtain ⟨rfl, -⟩ := Call.addAlias.inj heq
  exact (h.known ip hm).resolve_left free

theorem Accounted.refuse (h : Accounted held trace) (free : ¬ held ip) :
    Accounted held (trace ++ [(op, Call.addAlias ip false)]) where
  there ip' hheld := by
    rw [bound_snoc]
    exact h.there ip' hheld
  known ip' hm := by
    rw [bound_snoc] at hm
    rw [abandoned_snoc]
    exact h.known ip' hm
  fresh := h.fresh_addAlias free false

theorem Accounted.bind (h : Accounted held trace) (free : ¬ held ip) :
    Accounted (fun ip' => ip' = ip ∨ held ip') (trace ++ [(op, Call.addAlias ip true)]) where
  there ip' hheld := by
    rw [bound_snoc]
    exact Finset.mem_insert.mpr (hheld.imp_right (h.there ip'))
  known ip' hm := by
    rw [bound_snoc] at hm
    rw [abandoned_snoc]
    show _ ∨ ip' ∈ (abandoned trace).erase ip
    by_cases heq : ip' = ip
    · exact .inl (.inl heq)
    · rcases h.known ip' ((Finset.mem_insert.mp hm).resolve_left heq) with hheld | hgiven
      · exact .inl (.inr hheld)
      · exact .inr (Finset.mem_erase.mpr ⟨heq, hgiven⟩)
  fresh := h.fresh_addAlias free true

theorem Accounted.release (h : Accounted held trace) :
    Accounted (fun ip' => ip' ≠ ip ∧ held ip') (trace ++ [(op, Call.removeAlias ip true)]) where
  there ip' hheld := by
    rw [bound_snoc]
    exact Finset.mem_erase.mpr ⟨hheld.1, h.there ip' hheld.2⟩
  known ip' hm := by
    rw [bound_snoc] at hm
    rw [abandoned_snoc]
    show _ ∨ ip' ∈ (abandoned trace).erase ip
    obtain ⟨hne, hbound⟩ := Finset.mem_erase.mp hm
    exact (h.known ip' hbound).imp (And.intro hne) fun hgiven => Finset.mem_erase.mpr ⟨hne, hgiven⟩
  fresh := h.fresh.removeAlias

theorem Accounted.keep (h : Accounted held trace) (hop : op.retries = true) :
    Accounted held (trace ++ [(op, Call.removeAlias ip false)]) where
  there ip' hheld := by
    rw [bound_snoc]
    exact h.there ip' hheld
  known ip' hm := by
    rw [bound_snoc] at hm
    rw [abandoned_snoc, abandon, if_pos hop]
    exact h.known ip' hm
  fresh := h.fresh.removeAlias

theorem Accounted.giveUp (h : Accounted held trace) (hop : op.retries = false) :
    Accounted (fun ip' => ip' ≠ ip ∧ held ip') (trace ++ [(op, Call.removeAlias ip false)]) where
  there ip' hheld := by
    rw [bound_snoc]
    exact h.there ip' hheld.2
  known ip' hm := by
    rw [bound_snoc] at hm
    rw [abandoned_snoc, abandon, if_neg (by simp [hop]), Finset.mem_insert]
    by_cases heq : ip' = ip
    · exact .inr (.inl heq)
    · exact (h.known ip' hm).imp (And.intro heq) .inr
  fresh := h.fresh.removeAlias

/-- An operation that does not keep hosts no longer holds an address, whether the system takes it back or
not. -/
theorem Accounted.drop (h : Accounted held trace) (hop : op.retries = false) (done : Bool) :
    Accounted (fun ip' => ip' ≠ ip ∧ held ip') (trace ++ [(op, Call.removeAlias ip done)]) := by
  cases done with
  | true => exact h.release
  | false => exact h.giveUp hop

end Accounts

/-! ## Changes -/

variable {r r' : Registry} {host : Text} {entry : Entry}

theorem mem_inUse_put (h : Sound r) (here : r.hosts.get? host = some entry) (lease : Time)
    (listeners : Table Nat Route) (ip : Ipv4) :
    ip ∈ (r.put host ⟨entry.ip, lease, listeners⟩).inUse ↔ ip ∈ r.inUse := by
  have hsorted : (r.put host ⟨entry.ip, lease, listeners⟩).hosts.Sorted := Table.sorted_insert host _ h.hosts
  rw [mem_inUse hsorted, mem_inUse h.hosts]
  exact exists_congr fun name => holds_put_same here lease listeners

theorem mem_inUse_insert (h : Sound r) (absent : r.hosts.get? host = none) (entry : Entry) (ip : Ipv4) :
    ip ∈ (r.put host entry).inUse ↔ ip = entry.ip ∨ ip ∈ r.inUse := by
  have hsorted : (r.put host entry).hosts.Sorted := Table.sorted_insert host _ h.hosts
  rw [mem_inUse hsorted, mem_inUse h.hosts]
  refine ⟨?_, ?_⟩
  · intro ⟨name, hold⟩
    rw [holds_put] at hold
    split at hold
    · exact .inl hold
    · exact .inr ⟨name, hold⟩
  · intro hip
    rcases hip with hip | ⟨name, hold⟩
    · exact ⟨host, (holds_put r host entry host ip).mpr (by rwa [if_pos rfl])⟩
    · have hname : name ≠ host := by
        intro heq
        obtain ⟨e, hget, -⟩ := hold
        rw [heq, absent] at hget
        cases hget
      exact ⟨name, (holds_put r host entry name ip).mpr (by rwa [if_neg hname])⟩

theorem mem_inUse_erase (h : Sound r) (here : r.hosts.get? host = some entry) (ip : Ipv4) :
    ip ∈ inUse { r with hosts := r.hosts.erase host } ↔ ip ≠ entry.ip ∧ ip ∈ r.inUse := by
  rw [mem_inUse (h.erase host).hosts, mem_inUse h.hosts]
  refine ⟨?_, ?_⟩
  · intro ⟨name, hold⟩
    obtain ⟨hname, e, hget, hip⟩ := (holds_erase r host name ip).mp hold
    refine ⟨?_, name, e, hget, hip⟩
    intro heq
    exact hname (h.distinct hget here (hip.trans heq))
  · intro ⟨hne, name, e, hget, hip⟩
    have hname : name ≠ host := by
      intro heq
      rw [heq, here] at hget
      exact hne (by rw [← hip, Option.some.inj hget])
    exact ⟨name, (holds_erase r host name ip).mpr ⟨hname, e, hget, hip⟩⟩

theorem Opening.accounted (o : Opening r calls r') (hop : op.retries = false) (hs : Sound r)
    (h : Accounted (· ∈ r.inUse) trace) : Accounted (· ∈ r'.inUse) (trace ++ op.made calls) := by
  have unchanged : Accounted (· ∈ r.inUse) (trace ++ op.made []) := by
    simpa [Operation.made] using h
  cases o with
  | retarget route here _ => exact unchanged.congr (mem_inUse_put hs here _ _)
  | renew lease here => exact unchanged.congr (mem_inUse_put hs here lease _)
  | openPort route here _ =>
    rename_i entry port _
    have started : Accounted (· ∈ r.inUse) (trace ++ op.made [Call.listen entry.ip port true]) :=
      h.quiet (by simp [Call.Quiet])
    exact started.congr (mem_inUse_put hs here _ _)
  | republish here => exact unchanged
  | openHost now port route name free absent found registers =>
    rename_i host ip domains told
    obtain ⟨-, hfree, -⟩ := Subnet.allocate_eq_some.mp found
    have opened : Accounted (fun ip' => ip' = ip ∨ ip' ∈ r.inUse)
        ((trace ++ [(op, Call.addAlias ip true)]) ++ op.made (told ++ [Call.listen ip port true])) :=
      (h.bind hfree).quiet (quiet_start registers ip port true)
    rw [List.append_assoc] at opened
    exact opened.congr (mem_inUse_insert hs absent ⟨ip, now, Table.insert port route []⟩)
  | rollBack port done _ found registers =>
    rename_i host ip domains told _
    obtain ⟨-, hfree, -⟩ := Subnet.allocate_eq_some.mp found
    -- for a moment the address is held, though by no host
    have started : Accounted (fun ip' => ip' = ip ∨ ip' ∈ r.inUse)
        ((trace ++ [(op, Call.addAlias ip true)]) ++ op.made (told ++ [Call.listen ip port false])) :=
      (h.bind hfree).quiet (quiet_start registers ip port false)
    have undone : Accounted (fun ip' => ip' ≠ ip ∧ (ip' = ip ∨ ip' ∈ r.inUse))
        (((trace ++ [(op, Call.addAlias ip true)]) ++ op.made (told ++ [Call.listen ip port false])) ++
          [(op, Call.removeAlias ip done)]) :=
      started.drop hop done
    have hcalls : Call.addAlias ip true :: told ++ [Call.listen ip port false, Call.removeAlias ip done] =
        [Call.addAlias ip true] ++ (told ++ [Call.listen ip port false]) ++ [Call.removeAlias ip done] := by
      simp
    rw [hcalls, Operation.made_append, Operation.made_append, ← List.append_assoc, ← List.append_assoc]
    apply undone.congr
    intro ip'
    refine ⟨?_, ?_⟩
    · intro hm
      refine ⟨?_, .inr hm⟩
      intro heq
      rw [heq] at hm
      exact hfree hm
    · intro ⟨hne, hm⟩
      exact hm.resolve_left hne
  | aliasRefused found =>
    obtain ⟨-, hfree, -⟩ := Subnet.allocate_eq_some.mp found
    exact h.refuse hfree
  | listenRefused ip port => exact h.quiet (by simp [Call.Quiet])

theorem Closing.accounted (c : Closing r calls r') (hop : op.retries = true) (hs : Sound r)
    (h : Accounted (· ∈ r.inUse) trace) : Accounted (· ∈ r'.inUse) (trace ++ op.made calls) := by
  cases c with
  | close here =>
    rename_i host entry
    have stopped : Accounted (· ∈ r.inUse) (trace ++ op.made entry.stops) := h.quiet (quiet_stops entry)
    have released : Accounted (fun ip => ip ≠ entry.ip ∧ ip ∈ r.inUse)
        ((trace ++ op.made entry.stops) ++ [(op, Call.removeAlias entry.ip true)]) := stopped.release
    rw [Operation.made_append, ← List.append_assoc]
    exact released.congr (mem_inUse_erase hs here)
  | keep here =>
    rename_i host entry
    have stopped : Accounted (· ∈ r.inUse) (trace ++ op.made entry.stops) := h.quiet (quiet_stops entry)
    rw [Operation.made_append, ← List.append_assoc]
    exact (stopped.keep hop).congr (mem_inUse_put hs here _ _)

/-- A sweep by an operation that does not keep hosts drops all their addresses. -/
theorem Accounted.sweep {held : Ipv4 → Prop} (h : Accounted held trace) (hop : op.retries = false) (r : Registry)
    (w : Conditions) (rows : Table Text Entry) :
    Accounted (fun ip => ip ∉ rows.map (·.2.ip) ∧ held ip) (trace ++ op.made (r.teardownAll w rows).calls) := by
  induction rows generalizing r trace held with
  | nil =>
    show Accounted _ (trace ++ [])
    rw [List.append_nil]
    exact h.congr fun ip => and_iff_right List.not_mem_nil
  | cons row rest ih =>
    obtain ⟨host, entry⟩ := row
    have stopped : Accounted held (trace ++ op.made entry.stops) := h.quiet (quiet_stops entry)
    have dropped : Accounted (fun ip => ip ≠ entry.ip ∧ held ip)
        ((trace ++ op.made entry.stops) ++ [(op, releaseAlias w entry.ip)]) := stopped.drop hop _
    have swept := ih dropped (r.teardown w host entry).after
    rw [(teardownAll_cons r w host entry rest).2, teardown_calls, Operation.made_append, Operation.made_append,
      ← List.append_assoc, ← List.append_assoc]
    apply swept.congr
    intro ip
    rw [List.map_cons, List.mem_cons, not_or]
    exact ⟨fun hip => ⟨hip.1.2, hip.1.1, hip.2⟩, fun hip => ⟨⟨hip.2.1, hip.1⟩, hip.2.2⟩⟩

/-! ## Runs -/

theorem closeAll_accounted (r : Registry) (w : Conditions) (hop : op.retries = false)
    (h : Accounted (· ∈ r.inUse) trace) :
    Accounted (· ∈ (r.closeAll w).after.inUse) (trace ++ op.made (r.closeAll w).calls) := by
  -- a sweep over all hosts drops all that is held, which is what forgetting the hosts leaves
  have swept : Accounted (fun ip => ip ∉ r.inUse ∧ ip ∈ r.inUse)
      (trace ++ op.made (r.teardownAll w r.hosts).calls) := h.sweep hop r w r.hosts
  apply swept.congr
  intro ip
  exact iff_of_false List.not_mem_nil fun hip => hip.1 hip.2

theorem publish_accounted (r : Registry) (w : Conditions) (host : Text) (h : Accounted (· ∈ r.inUse) trace) :
    Accounted (· ∈ (r.publish w host).after.inUse) (trace ++ op.made (r.publish w host).calls) := by
  rcases publish_cases r w host with ⟨e, -, heq⟩ | ⟨name, domains, told, -, registers, heq⟩
  · rw [heq]
    simpa [Outcome.refuse, Operation.made] using h
  · rw [heq]
    exact h.quiet (quiet_told registers)

/-- What every change keeps account of, a chain of changes by one operation does. -/
theorem Chain.accounted {R : Registry → List Call → Registry → Prop}
    (sound : ∀ {r calls r'}, R r calls r' → Sound r → Sound r')
    (accounted : ∀ {r calls r' trace}, R r calls r' → Sound r → Accounted (· ∈ r.inUse) trace →
      Accounted (· ∈ r'.inUse) (trace ++ op.made calls))
    (chain : Chain R r calls r') (hs : Sound r) (h : Accounted (· ∈ r.inUse) trace) :
    Accounted (· ∈ r'.inUse) (trace ++ op.made calls) := by
  have step : ∀ r before calls r', Sound r ∧ Accounted (· ∈ r.inUse) (trace ++ op.made before) →
      R r calls r' → Sound r' ∧ Accounted (· ∈ r'.inUse) (trace ++ op.made (before ++ calls)) := by
    intro r before calls r' hi change
    rw [Operation.made_append, ← List.append_assoc]
    exact ⟨sound change hi.1, accounted change hi.1 hi.2⟩
  have nothing : Accounted (· ∈ r.inUse) (trace ++ op.made []) := by
    simpa [Operation.made] using h
  exact (chain.preserves step [] ⟨hs, nothing⟩).2

theorem next_accounted {s : History} (hs : Sound s.registry) (h : Accounted (· ∈ s.registry.inUse) s.trace)
    (step : Step) : Accounted (· ∈ (s.next step).registry.inUse) (s.next step).trace := by
  rw [History.trace_next]
  obtain ⟨op, w⟩ := step
  have opening : op.retries = false → ∀ {calls r'}, Chain Opening s.registry calls r' →
      Accounted (· ∈ r'.inUse) (s.trace ++ op.made calls) :=
    fun hop _ _ chain => chain.accounted Opening.sound (fun o => o.accounted hop) hs h
  have closing : op.retries = true → ∀ {calls r'}, Chain Closing s.registry calls r' →
      Accounted (· ∈ r'.inUse) (s.trace ++ op.made calls) :=
    fun hop _ _ chain => chain.accounted Closing.sound (fun c => c.accounted hop) hs h
  cases op with
  | create now host port target => exact opening rfl (create_chain s.registry w now host port target)
  | attach host port scheme target => exact opening rfl (attach_chain s.registry w host port scheme target)
  | delete host => exact closing rfl (delete_chain s.registry w host)
  | expire now => exact closing rfl (expire_chain w now hs.hosts)
  | publish host => exact publish_accounted s.registry w host h
  | closeAll => exact closeAll_accounted s.registry w rfl h

theorem accounted_start (subnet : Subnet) (leaseLength : Duration) :
    Accounted (· ∈ (empty subnet leaseLength).inUse) [] where
  there _ hm := absurd hm List.not_mem_nil
  known ip hm := absurd hm (Finset.notMem_empty ip)
  fresh := fresh_nil

/-- In every state of every run, the address of every host is bound to the interface, and an address that is
bound is that of a host, unless an operation gave it up although the system did not take it back; and no
address is bound that was still bound, with the same exception. -/
theorem run_aliases (subnet : Subnet) (leaseLength : Duration) (steps : List Step) :
    let s := (History.start subnet leaseLength).run steps
    (∀ ip ∈ s.registry.inUse, ip ∈ aliases s.calls) ∧
    (∀ ip ∈ aliases s.calls, ip ∈ s.registry.inUse ∨ ip ∈ abandoned s.trace) ∧
    ∀ before op ip done later, s.trace = before ++ (op, .addAlias ip done) :: later →
      ip ∈ bound before → ip ∈ abandoned before := by
  intro s
  have h : Consistent subnet s.registry s.calls ∧ Accounted (· ∈ s.registry.inUse) s.trace := by
    refine History.run_keeps
      (I := fun s => Consistent subnet s.registry s.calls ∧ Accounted (· ∈ s.registry.inUse) s.trace)
      (P := fun _ => True) ?_ ?_ (fun _ _ => trivial)
    · intro s step _ hi
      exact ⟨next_consistent hi.1 step, next_accounted hi.1.sound hi.2 step⟩
    · exact ⟨run_consistent subnet leaseLength [], accounted_start subnet leaseLength⟩
  have hbound : bound s.trace = aliases s.calls := by
    rw [bound, History.trace_calls]
  rw [← hbound]
  exact ⟨h.2.there, h.2.known, h.2.fresh⟩

/-- Whether an address is bound while it is still bound. -/
def Reissued (trace : List (Operation × Call)) : Prop :=
  ∃ before op ip done later, trace = before ++ (op, .addAlias ip done) :: later ∧ ip ∈ bound before

/-- The first listener of a host does not start, the system does not take the address back, and another host
is created. -/
def undoing : List Step :=
  [creating "a.test" { Conditions.holding with listen := fun _ => some "in use" }, creating "b.test" .clear]

/-- All hosts are closed, the system does not take an address back, and another host is created. -/
def closing : List Step := [creating "a.test" .clear, ⟨.closeAll, .holding⟩, creating "b.test" .clear]

/-- An address that was given up is bound again, although the system still holds it. -/
theorem abandoned_reissued :
    Reissued ((History.start smallSubnet (.ofSeconds 60)).run undoing).trace ∧
      Reissued ((History.start smallSubnet (.ofSeconds 60)).run closing).trace := by
  refine ⟨?_, ?_⟩
  · refine ⟨((History.start smallSubnet (.ofSeconds 60)).run undoing).trace.take 4, _, .ofOctets 127 1 0 2, _, _, rfl, ?_⟩
    decide +kernel
  · refine ⟨((History.start smallSubnet (.ofSeconds 60)).run closing).trace.take 5, _, .ofOctets 127 1 0 2, _, _, rfl, ?_⟩
    decide +kernel

end Gatehouse.Registry
