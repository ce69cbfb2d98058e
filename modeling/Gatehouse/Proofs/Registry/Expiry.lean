import Gatehouse.Proofs.Registry.Isolation

/-!
What deleting a host and sweeping leave behind. Main statement: `run_teardown`, by which both take exactly the hosts
that they are about, each of which is gone if the system takes its address back and otherwise stays without listeners,
for another attempt.
-/

namespace Gatehouse.Registry

open Net

variable {subnet : Subnet} {r r' : Registry} {s s' s'' : History} {w : Conditions} {now lease : Time} {host : Text}
  {entry : Entry} {rows : Table Text Entry} {calls : List Call} {ip : Ipv4}

/-! ## Records of hosts -/

/-- Every host has a record in the zone. -/
def HasRecords (r : Registry) : Prop :=
  ∀ host entry, r.hosts.get? host = some entry → (r.zone.lookup host).isSome

theorem HasRecords.put (h : HasRecords r) (here : r.hosts.get? host = some entry) (entry' : Entry) :
    HasRecords (r.put host entry') := by
  intro other later hget
  rw [get?_put] at hget
  split at hget
  · rename_i heq
    exact h other entry (heq ▸ here)
  · exact h other later hget

/-- A name that gets a record takes none from another. -/
theorem isSome_lookup_set (zone : Dns.Zone) (name : Text) (ip : Ipv4) (canonical : HostName.IsCanonical host)
    (h : HostName.zoneKey name ≠ host → (zone.lookup name).isSome) : ((zone.set host ip).lookup name).isSome := by
  rw [Dns.Zone.lookup_set zone name ip canonical.key_eq]
  split
  · rfl
  · rename_i hne
    exact h hne

theorem Opening.hasRecords (o : Opening r calls r') (names : HasNames r) (h : HasRecords r) : HasRecords r' := by
  cases o with
  | retarget route here _ => exact h.put here _
  | renew lease here => exact h.put here _
  | openPort route here _ => exact h.put here _
  | republish here =>
    exact fun other later hget => isSome_lookup_set r.zone other _ (names _ _ here) fun _ => h other later hget
  | @openHost name ip domains told now port route canonical _ _ _ _ =>
    intro other later hget
    refine isSome_lookup_set { r.zone with domains } other ip canonical fun hne => ?_
    have hother : other ≠ name := fun heq => hne (heq ▸ canonical.key_eq)
    rw [Table.get?_insert, if_neg hother] at hget
    exact h other later hget
  | rollBack _ _ _ _ _ => exact h
  | aliasRefused _ => exact h
  | listenRefused _ _ => exact h

theorem Closing.hasRecords (c : Closing r calls r') (names : HasNames r) (h : HasRecords r) : HasRecords r' := by
  cases c with
  | @close name entry here =>
    intro other later hget
    rw [Table.get?_erase] at hget
    split at hget
    · cases hget
    · rename_i hne
      -- the record that goes is that of the host that goes
      have hkey : HostName.zoneKey other ≠ name := fun heq => hne ((names other later hget).key_eq.symm.trans heq)
      have hlookup := Dns.Zone.lookup_remove r.zone other (names name entry here).key_eq
      rw [if_neg hkey] at hlookup
      rw [hlookup]
      exact h other later hget
  | keep here => exact h.put here _

theorem publish_hasRecords (h : HasRecords r) (w : Conditions) (given : Text) :
    HasRecords (r.publish w given).after := by
  rcases publish_cases r w given with ⟨e, -, heq⟩ | ⟨name, domains, told, hname, -, heq⟩
  · rw [heq]
    exact h
  · rw [heq]
    intro other later hget
    refine isSome_lookup_set { r.zone with domains } other _ (HostName.isCanonical_of_normalize hname) ?_
    exact fun _ => h other later hget

/-! ## States of runs -/

/-- What sweeps rely on in every state of a run. -/
structure Settled (subnet : Subnet) (s : History) : Prop where
  consistent : Consistent subnet s.registry s.calls
  names : HasNames s.registry
  records : HasRecords s.registry

theorem next_settled (h : Settled subnet s) (step : Step) : Settled subnet (s.next step) := by
  have sorted := h.consistent.sound.hosts
  refine ⟨next_consistent h.consistent step, next_hasNames sorted h.names step, ?_⟩
  have both := History.next_preserves (I := fun r _ => HasNames r ∧ HasRecords r)
    (fun _ _ _ _ hi o => ⟨Opening.hasNames o hi.1, Opening.hasRecords o hi.1 hi.2⟩)
    (fun _ _ _ _ hi c => ⟨Closing.hasNames c hi.1, Closing.hasRecords c hi.1 hi.2⟩)
    ?_ ?_ sorted step ⟨h.names, h.records⟩
  · exact both.2
  · intro r _ w given hi
    refine ⟨?_, publish_hasRecords hi.2 w given⟩
    rcases publish_cases r w given with ⟨e, -, heq⟩ | ⟨name, domains, told, -, -, heq⟩ <;> rw [heq] <;> exact hi.1
  · exact fun _ _ _ _ => ⟨fun _ _ hget => (by cases hget), fun _ _ hget => (by cases hget)⟩

theorem Settled.run (h : Settled subnet s) (steps : List Step) : Settled subnet (s.run steps) :=
  History.run_keeps (I := Settled subnet) (P := fun _ => True) (fun _ step _ h => next_settled h step) h
    (fun _ _ => trivial)

theorem run_settled (subnet : Subnet) (leaseLength : Duration) (steps : List Step) :
    Settled subnet ((History.start subnet leaseLength).run steps) := by
  refine Settled.run ?_ steps
  exact ⟨run_consistent subnet leaseLength [], fun _ _ hget => (by cases hget), fun _ _ hget => (by cases hget)⟩

/-! ## What becomes of hosts -/

/-- A host is as it was: it has its entry and its record, and no call was about its address, so that its listeners run
and its address is bound as before. -/
structure History.Untouched (s s' : History) (host : Text) (entry : Entry) : Prop where
  kept : s'.registry.hosts.get? host = some entry
  record : s'.registry.zone.lookup host = s.registry.zone.lookup host
  unasked : ∃ later, s'.calls = s.calls ++ later ∧ ∀ call ∈ later, call.address? ≠ some entry.ip
  listeners : ∀ port, (entry.ip, port) ∈ listening s'.calls ↔ (entry.ip, port) ∈ listening s.calls
  bound : entry.ip ∈ aliases s'.calls ↔ entry.ip ∈ aliases s.calls

/-- A host is gone with its listeners and its record, and its address is free for others. -/
structure History.Gone (s : History) (host : Text) (ip : Ipv4) : Prop where
  absent : s.registry.hosts.get? host = none
  unknown : s.registry.zone.lookup host = none
  silent : ∀ port, (ip, port) ∉ listening s.calls
  unbound : ip ∉ aliases s.calls
  free : s.registry.subnet.InPool ip ∧ ip ∉ s.registry.inUse

/-- A host is left with its address, its lease and its record, but without listeners. -/
structure History.Stripped (s s' : History) (host : Text) (entry : Entry) : Prop where
  kept : s'.registry.hosts.get? host = some { entry with listeners := [] }
  published : (s.registry.zone.lookup host).isSome
  record : s'.registry.zone.lookup host = s.registry.zone.lookup host
  silent : ∀ port, (entry.ip, port) ∉ listening s'.calls
  bound : entry.ip ∈ aliases s'.calls ↔ entry.ip ∈ aliases s.calls

/-- Of the hosts that are there, those that are chosen are torn down, and those alone: each is gone if the system takes
its address back, and is left without listeners otherwise. -/
structure History.TearsDown (s s' : History) (w : Conditions) (chosen : Text → Entry → Prop) : Prop where
  untouched : ∀ host entry, s.registry.hosts.get? host = some entry → ¬ chosen host entry → s.Untouched s' host entry
  gone : ∀ host entry, s.registry.hosts.get? host = some entry → chosen host entry →
    w.removeAlias entry.ip = none → s'.Gone host entry.ip
  stripped : ∀ host entry, s.registry.hosts.get? host = some entry → chosen host entry →
    w.removeAlias entry.ip ≠ none → s.Stripped s' host entry
  unopened : ∀ host, s.registry.hosts.get? host = none → s'.registry.hosts.get? host = none

/-! ## Sweeps over some of the hosts -/

/-- Calls of which none binds an address leave those bound that they do not release. -/
theorem mem_aliases_append {before : List Call} (unbinding : ∀ call ∈ calls, ∀ ip done, call ≠ .addAlias ip done) :
    ip ∈ aliases (before ++ calls) ↔ ip ∈ aliases before ∧ .removeAlias ip true ∉ calls := by
  induction calls generalizing before with
  | nil => simp
  | cons call rest ih =>
    have hfirst : aliases (before ++ [call]) = Call.aliases (aliases before) call := by simp [aliases]
    rw [List.append_cons, ih fun later hm => unbinding later (List.mem_cons_of_mem _ hm), hfirst]
    cases call with
    | addAlias ip' done => exact absurd rfl (unbinding _ List.mem_cons_self ip' done)
    | removeAlias ip' done =>
      cases done with
      | false => simp [Call.aliases]
      | true =>
        simp only [Call.aliases, Finset.mem_erase, List.mem_cons, Call.removeAlias.injEq, and_true, not_or]
        tauto
    | listen ip' port done => cases done <;> simp [Call.aliases]
    | stop ip' port => simp [Call.aliases]
    | point domain done => simp [Call.aliases]

/-- A state in which some of the hosts of another have been torn down, one after the other. -/
structure Sweeps (s s' : History) (w : Conditions) (rows : Table Text Entry) : Prop where
  part : rows.Sublist s.registry.hosts
  after : s'.registry = (s.registry.teardownAll w rows).after
  calls : s'.calls = s.calls ++ (s.registry.teardownAll w rows).calls

/-- What a call of a sweep can be. -/
theorem mem_calls_teardownAll {call : Call} (hm : call ∈ (r.teardownAll w rows).calls) :
    ∃ host entry, (host, entry) ∈ rows ∧
      ((∃ port, call = .stop entry.ip port) ∨ call = releaseAlias w entry.ip) := by
  rw [teardownAll_calls] at hm
  obtain ⟨⟨host, entry⟩, hrow, hcall⟩ := List.mem_flatMap.mp hm
  refine ⟨host, entry, hrow, ?_⟩
  rcases List.mem_append.mp hcall with hstop | hrelease
  · obtain ⟨listener, -, rfl⟩ := List.mem_map.mp hstop
    exact .inl ⟨listener.1, rfl⟩
  · exact .inr (List.mem_singleton.mp hrelease)

theorem address?_teardownAll {call : Call} (hm : call ∈ (r.teardownAll w rows).calls) :
    ∃ host entry, (host, entry) ∈ rows ∧ call.address? = some entry.ip := by
  obtain ⟨host, entry, hrow, ⟨port, rfl⟩ | rfl⟩ := mem_calls_teardownAll hm
  · exact ⟨host, entry, hrow, rfl⟩
  · exact ⟨host, entry, hrow, rfl⟩

theorem unbinding_teardownAll (r : Registry) (w : Conditions) (rows : Table Text Entry) :
    ∀ call ∈ (r.teardownAll w rows).calls, ∀ ip done, call ≠ .addAlias ip done := by
  intro call hm ip done heq
  obtain ⟨host, entry, -, ⟨port, hcall⟩ | hcall⟩ := mem_calls_teardownAll hm
  · cases hcall.symm.trans heq
  · cases hcall.symm.trans heq

/-- The address of each host that a sweep goes through is asked back. -/
theorem releaseAlias_mem_teardownAll (r : Registry) (w : Conditions) (hrow : (host, entry) ∈ rows) :
    releaseAlias w entry.ip ∈ (r.teardownAll w rows).calls := by
  rw [teardownAll_calls]
  exact List.mem_flatMap.mpr ⟨_, hrow, List.mem_append_right _ (List.mem_singleton_self _)⟩

theorem teardown_lookup (r : Registry) (w : Conditions) (canonical : HostName.IsCanonical host) (entry : Entry)
    (name : Text) :
    (r.teardown w host entry).after.zone.lookup name =
      if HostName.zoneKey name = host ∧ w.removeAlias entry.ip = none then none else r.zone.lookup name := by
  cases released : w.removeAlias entry.ip with
  | none =>
    simp only [teardown, released, and_true]
    exact Dns.Zone.lookup_remove r.zone name canonical.key_eq
  | some detail => simp [teardown, released]

/-- A sweep leaves the records of the hosts that it does not remove. -/
theorem lookup_teardownAll_of_kept (canonical : ∀ row ∈ rows, HostName.IsCanonical row.1) (r : Registry)
    {name : Text} (kept : ∀ entry, (HostName.zoneKey name, entry) ∈ rows → w.removeAlias entry.ip ≠ none) :
    (r.teardownAll w rows).after.zone.lookup name = r.zone.lookup name := by
  induction rows generalizing r with
  | nil => rfl
  | cons row rest ih =>
    obtain ⟨first, entry⟩ := row
    rw [(teardownAll_cons r w first entry rest).1, ih (fun later hm => canonical later (List.mem_cons_of_mem _ hm))
      _ (fun later hm => kept later (List.mem_cons_of_mem _ hm)),
      teardown_lookup r w (canonical _ List.mem_cons_self), if_neg]
    rintro ⟨rfl, done⟩
    exact kept entry List.mem_cons_self done

/-- A sweep withdraws the records of the hosts that it removes. -/
theorem lookup_teardownAll_of_removed (canonical : ∀ row ∈ rows, HostName.IsCanonical row.1) (r : Registry)
    {name : Text} (hrow : (HostName.zoneKey name, entry) ∈ rows) (done : w.removeAlias entry.ip = none) :
    (r.teardownAll w rows).after.zone.lookup name = none := by
  induction rows generalizing r entry with
  | nil => cases hrow
  | cons row rest ih =>
    obtain ⟨first, entry'⟩ := row
    have later := fun row hm => canonical row (List.mem_cons_of_mem _ hm)
    rw [(teardownAll_cons r w first entry' rest).1]
    by_cases hagain : ∃ entry, (HostName.zoneKey name, entry) ∈ rest ∧ w.removeAlias entry.ip = none
    · obtain ⟨entry'', hm, done'⟩ := hagain
      exact ih later _ hm done'
    · -- the record goes with the first host and does not come back
      obtain ⟨rfl, rfl⟩ := Prod.mk.inj ((List.mem_cons.mp hrow).resolve_right fun hm => hagain ⟨entry, hm, done⟩)
      rw [lookup_teardownAll_of_kept later _ fun entry hm done' => hagain ⟨entry, hm, done'⟩,
        teardown_lookup r w (canonical _ List.mem_cons_self), if_pos ⟨rfl, done⟩]

namespace Sweeps

variable (swept : Sweeps s s' w rows) (h : Settled subnet s)
include swept h

theorem here_of_mem (hrow : (host, entry) ∈ rows) : s.registry.hosts.get? host = some entry :=
  Table.get?_of_mem h.consistent.sound.hosts (swept.part.subset hrow)

theorem get?_eq (host : Text) :
    s'.registry.hosts.get? host =
      match rows.get? host with
      | none => s.registry.hosts.get? host
      | some entry => leftOf w entry := by
  rw [swept.after]
  exact teardownAll_get? w (List.Pairwise.sublist swept.part h.consistent.sound.hosts) s.registry host

theorem get?_of_mem (hrow : (host, entry) ∈ rows) : s'.registry.hosts.get? host = leftOf w entry := by
  rw [swept.get?_eq h,
    Table.get?_of_mem (List.Pairwise.sublist swept.part h.consistent.sound.hosts) hrow]

theorem get?_of_not_mem (hrow : ∀ entry, (host, entry) ∉ rows) :
    s'.registry.hosts.get? host = s.registry.hosts.get? host := by
  rw [swept.get?_eq h]
  cases hget : Table.get? rows host with
  | none => rfl
  | some entry => exact absurd (Table.mem_of_get? hget) (hrow entry)

/-- Addresses do not change hands. -/
theorem holds_before {name : Text} (holds : s'.registry.Holds name ip) : s.registry.Holds name ip := by
  obtain ⟨entry', hget, rfl⟩ := holds
  rw [swept.get?_eq h] at hget
  cases hrow : Table.get? rows name with
  | none =>
    rw [hrow] at hget
    exact ⟨entry', hget, rfl⟩
  | some entry =>
    rw [hrow] at hget
    simp only [leftOf] at hget
    split at hget
    · cases hget
    · obtain rfl := Option.some.inj hget
      exact ⟨entry, swept.here_of_mem h (Table.mem_of_get? hrow), rfl⟩

theorem canonical : ∀ row ∈ rows, HostName.IsCanonical row.1 :=
  fun row hm => h.names row.1 row.2 (swept.here_of_mem h hm)

theorem lookup_of_kept (here : s.registry.hosts.get? host = some entry)
    (kept : ∀ entry, (host, entry) ∈ rows → w.removeAlias entry.ip ≠ none) :
    s'.registry.zone.lookup host = s.registry.zone.lookup host := by
  rw [swept.after]
  refine lookup_teardownAll_of_kept (swept.canonical h) s.registry ?_
  rwa [(h.names host entry here).key_eq]

omit h in
theorem mem_aliases_iff :
    ip ∈ aliases s'.calls ↔ ip ∈ aliases s.calls ∧ .removeAlias ip true ∉ (s.registry.teardownAll w rows).calls := by
  rw [swept.calls]
  exact mem_aliases_append (unbinding_teardownAll s.registry w rows)

/-- A host that a sweep does not go through. -/
theorem untouched (here : s.registry.hosts.get? host = some entry) (absent : ∀ entry, (host, entry) ∉ rows) :
    s.Untouched s' host entry := by
  have unasked : ∀ call ∈ (s.registry.teardownAll w rows).calls, call.address? ≠ some entry.ip := by
    intro call hm heq
    obtain ⟨other, entry', hrow, haddress⟩ := address?_teardownAll hm
    -- an address belongs to one host
    have hip : entry'.ip = entry.ip := Option.some.inj (haddress.symm.trans heq)
    obtain rfl := h.consistent.sound.distinct (swept.here_of_mem h hrow) here hip
    exact absent entry' hrow
  refine ⟨(swept.get?_of_not_mem h absent).trans here, ?_, ⟨_, swept.calls, unasked⟩, ?_, ?_⟩
  · exact swept.lookup_of_kept h here fun entry' hrow => absurd hrow (absent entry')
  · intro port
    rw [swept.calls]
    exact mem_listening_append fun call hm => Call.socket?_ne (unasked call hm) port
  · rw [swept.mem_aliases_iff]
    exact and_iff_left fun hm => unasked _ hm rfl

/-- A host that a sweep goes through and whose address is taken back. -/
theorem gone (h' : Settled subnet s') (hrow : (host, entry) ∈ rows) (done : w.removeAlias entry.ip = none) :
    s'.Gone host entry.ip := by
  have here := swept.here_of_mem h hrow
  have absent : s'.registry.hosts.get? host = none := by
    rw [swept.get?_of_mem h hrow, leftOf, done]
    rfl
  -- whoever held the address now would have held it before, and that was this host
  have unheld : ∀ name, ¬ s'.registry.Holds name entry.ip := by
    intro name holds
    obtain ⟨entry₀, hget₀, hip⟩ := swept.holds_before h holds
    obtain rfl := h.consistent.sound.distinct hget₀ here hip
    obtain ⟨entry', hget', -⟩ := holds
    rw [absent] at hget'
    cases hget'
  refine ⟨absent, ?_, ?_, ?_, ?_, ?_⟩
  · rw [swept.after]
    refine lookup_teardownAll_of_removed (swept.canonical h) s.registry ?_ done
    rwa [(h.names host entry here).key_eq]
  · intro port hm
    obtain ⟨name, entry', hget', hip, -⟩ := (h'.consistent.listens entry.ip port).mp hm
    exact unheld name ⟨entry', hget', hip⟩
  · rw [swept.mem_aliases_iff]
    intro hbound
    have hrelease := releaseAlias_mem_teardownAll s.registry w hrow
    rw [releaseAlias, done] at hrelease
    exact hbound.2 hrelease
  · rw [h'.consistent.subnet_eq, ← h.consistent.subnet_eq]
    exact h.consistent.sound.pool here
  · intro hm
    obtain ⟨name, holds⟩ := (mem_inUse h'.consistent.sound.hosts).mp hm
    exact unheld name holds

/-- A host that a sweep goes through and whose address is not taken back. -/
theorem stripped (h' : Settled subnet s') (hrow : (host, entry) ∈ rows) (refused : w.removeAlias entry.ip ≠ none) :
    s.Stripped s' host entry := by
  have here := swept.here_of_mem h hrow
  have kept : s'.registry.hosts.get? host = some { entry with listeners := [] } := by
    rw [swept.get?_of_mem h hrow, leftOf, if_neg fun hdone => refused (Option.isNone_iff_eq_none.mp hdone)]
  refine ⟨kept, h.records host entry here, ?_, ?_, ?_⟩
  · refine swept.lookup_of_kept h here fun entry' hrow' => ?_
    obtain rfl : entry = entry' := Option.some.inj (here.symm.trans (swept.here_of_mem h hrow'))
    exact refused
  · intro port hm
    have hopen := (h'.consistent.listens entry.ip port).mp hm
    have hport := (open_here h'.consistent.sound kept).mp hopen
    cases hport
  · rw [swept.mem_aliases_iff]
    refine and_iff_left ?_
    intro hm
    obtain ⟨name, entry', -, ⟨port, hcall⟩ | hcall⟩ := mem_calls_teardownAll hm
    · cases hcall
    · -- a release that succeeded is one that the system agreed to
      obtain ⟨hip, hdone⟩ := Call.removeAlias.inj hcall
      rw [← hip] at hdone
      exact refused (Option.isNone_iff_eq_none.mp hdone.symm)

theorem tearsDown (h' : Settled subnet s') {chosen : Text → Entry → Prop}
    (hrows : ∀ host entry, s.registry.hosts.get? host = some entry → ((host, entry) ∈ rows ↔ chosen host entry)) :
    s.TearsDown s' w chosen := by
  refine ⟨?_, ?_, ?_, ?_⟩
  · intro host entry here hchosen
    refine swept.untouched h here fun entry' hrow => hchosen ?_
    obtain rfl : entry = entry' := Option.some.inj (here.symm.trans (swept.here_of_mem h hrow))
    exact (hrows host entry here).mp hrow
  · exact fun host entry here hchosen done => swept.gone h h' ((hrows host entry here).mpr hchosen) done
  · exact fun host entry here hchosen refused => swept.stripped h h' ((hrows host entry here).mpr hchosen) refused
  · intro host absent
    refine (swept.get?_of_not_mem h fun entry hrow => ?_).trans absent
    rw [swept.here_of_mem h hrow] at absent
    cases absent

end Sweeps

/-! ## Deleting and sweeping -/

theorem next_expire (h : Settled subnet s) (now : Time) (w : Conditions) :
    s.TearsDown (s.next ⟨.expire now, w⟩) w fun _ entry => entry.lease < now := by
  have swept : Sweeps s (s.next ⟨.expire now, w⟩) w (s.registry.hosts.filter fun row => decide (row.2.lease < now)) :=
    ⟨List.filter_sublist, rfl, History.calls_next s _⟩
  refine swept.tearsDown h (next_settled h _) ?_
  intro host entry here
  rw [List.mem_filter, decide_eq_true_eq]
  exact and_iff_right (Table.mem_of_get? here)

theorem next_delete (h : Settled subnet s) (given : Text) (w : Conditions) :
    s.TearsDown (s.next ⟨.delete given, w⟩) w fun host _ => HostName.normalize given = .ok host := by
  have settled := next_settled h ⟨.delete given, w⟩
  have hafter : (s.next ⟨.delete given, w⟩).registry = (s.registry.delete w given).after := rfl
  have hcalls : (s.next ⟨.delete given, w⟩).calls = s.calls ++ (s.registry.delete w given).calls :=
    History.calls_next s _
  cases name_eq : HostName.normalize given with
  | error e =>
    have hrefused : s.registry.delete w given = .refuse s.registry e := by rw [delete, name_eq]
    rw [hrefused] at hafter hcalls
    have swept : Sweeps s (s.next ⟨.delete given, w⟩) w [] := ⟨List.nil_sublist _, hafter, hcalls⟩
    exact swept.tearsDown h settled fun host entry _ => iff_of_false List.not_mem_nil fun heq => by cases heq
  | ok name =>
    cases here : s.registry.hosts.get? name with
    | none =>
      have hrefused : s.registry.delete w given = .refuse s.registry (.unknownEndpoint name) := by
        simp only [delete, name_eq, here]
      rw [hrefused] at hafter hcalls
      have swept : Sweeps s (s.next ⟨.delete given, w⟩) w [] := ⟨List.nil_sublist _, hafter, hcalls⟩
      refine swept.tearsDown h settled fun host entry there => iff_of_false List.not_mem_nil fun heq => ?_
      obtain rfl := Except.ok.inj heq
      rw [here] at there
      cases there
    | some entry =>
      have htorn : s.registry.delete w given = s.registry.teardown w name entry := by
        simp only [delete, name_eq, here]
      obtain ⟨hrow, hrowCalls⟩ := teardownAll_cons s.registry w name entry []
      have swept : Sweeps s (s.next ⟨.delete given, w⟩) w [(name, entry)] := by
        refine ⟨List.singleton_sublist.mpr (Table.mem_of_get? here), ?_, ?_⟩
        · rw [hafter, htorn, hrow]
          rfl
        · rw [hcalls, htorn, hrowCalls]
          exact congrArg _ (List.append_nil _).symm
      refine swept.tearsDown h settled ?_
      intro host entry' there
      rw [List.mem_singleton, Prod.mk.injEq]
      refine ⟨fun heq => congrArg _ heq.1.symm, ?_⟩
      intro heq
      obtain rfl := Except.ok.inj heq
      exact ⟨rfl, Option.some.inj (there.symm.trans here)⟩

/-! ## Results -/

/-- A host that is chosen is gone exactly if its address is taken back, and one that is not chosen stays. -/
theorem History.TearsDown.absent_iff {chosen : Text → Entry → Prop} (torn : s.TearsDown s' w chosen)
    (here : s.registry.hosts.get? host = some entry) :
    s'.registry.hosts.get? host = none ↔ chosen host entry ∧ w.removeAlias entry.ip = none := by
  refine ⟨?_, fun hdone => (torn.gone host entry here hdone.1 hdone.2).absent⟩
  intro absent
  by_contra hkept
  by_cases hchosen : chosen host entry
  · have refused : w.removeAlias entry.ip ≠ none := fun done => hkept ⟨hchosen, done⟩
    rw [(torn.stripped host entry here hchosen refused).kept] at absent
    cases absent
  · rw [(torn.untouched host entry here hchosen).kept] at absent
    cases absent

theorem mem_removed_expire (hs : Sound r) :
    host ∈ (r.expire w now).removed ↔
      ∃ entry, r.hosts.get? host = some entry ∧ entry.lease < now ∧ w.removeAlias entry.ip = none := by
  rw [expire, teardownAll_removed, List.filter_filter]
  simp only [List.mem_map, List.mem_filter, Prod.exists, Bool.and_eq_true, decide_eq_true_eq,
    Option.isNone_iff_eq_none, Table.mem_iff_get? hs.hosts]
  refine ⟨?_, ?_⟩
  · rintro ⟨host', entry, ⟨here, released, lapsed⟩, rfl⟩
    exact ⟨entry, here, lapsed, released⟩
  · rintro ⟨entry, here, lapsed, released⟩
    exact ⟨host, entry, ⟨here, released, lapsed⟩, rfl⟩

/-- A sweep reports the hosts that it removes in their order. -/
theorem removed_expire_ordered (hs : Sound r) (w : Conditions) (now : Time) :
    (r.expire w now).removed.Pairwise (· < ·) := by
  rw [expire, teardownAll_removed, List.pairwise_map]
  exact Table.sorted_filter _ (Table.sorted_filter _ hs.hosts)

theorem delete_result (r : Registry) (w : Conditions) (given : Text) :
    (r.delete w given).result = .ok () ↔
      ∃ name entry, HostName.normalize given = .ok name ∧ r.hosts.get? name = some entry ∧
        w.removeAlias entry.ip = none := by
  unfold delete
  split
  · rename_i e name_eq
    refine iff_of_false (fun h => by cases h) ?_
    rintro ⟨name, entry, name_eq', -, -⟩
    cases name_eq'.symm.trans name_eq
  · rename_i name name_eq
    split
    · rename_i absent
      refine iff_of_false (fun h => by cases h) ?_
      rintro ⟨name', entry, name_eq', here, -⟩
      obtain rfl : name = name' := Except.ok.inj (name_eq.symm.trans name_eq')
      rw [absent] at here
      cases here
    · rename_i entry here
      cases released : w.removeAlias entry.ip with
      | none =>
        simp only [teardown, released]
        exact iff_of_true trivial ⟨name, entry, name_eq, here, released⟩
      | some detail =>
        simp only [teardown, released]
        refine iff_of_false (fun h => by cases h) ?_
        rintro ⟨name', entry', name_eq', here', released'⟩
        obtain rfl : name = name' := Except.ok.inj (name_eq.symm.trans name_eq')
        obtain rfl : entry = entry' := Option.some.inj (here.symm.trans here')
        cases released.symm.trans released'

/-! ## Attempts -/

/-- Whether an operation tries to tear down a host: its deletion does, and a sweep after the end of its lease. -/
def Operation.Attempts (op : Operation) (host : Text) (lease : Time) : Prop :=
  match op with
  | .delete given => HostName.normalize given = .ok host
  | .expire now => lease < now
  | _ => False

theorem next_attempt (h : Settled subnet s) (entry : Entry) {step : Step}
    (attempt : step.operation.Attempts host entry.lease) :
    ∃ chosen, s.TearsDown (s.next step) step.conditions chosen ∧ chosen host entry := by
  obtain ⟨op, w⟩ := step
  cases op with
  | delete given => exact ⟨_, next_delete h given w, attempt⟩
  | expire now => exact ⟨_, next_expire h now w, attempt⟩
  | create now host port target => exact attempt.elim
  | attach host port scheme target => exact attempt.elim
  | publish host => exact attempt.elim
  | closeAll => exact attempt.elim

theorem History.Stripped.trans (first : s.Stripped s' host entry)
    (later : s'.Stripped s'' host { entry with listeners := [] }) : s.Stripped s'' host entry where
  kept := later.kept
  published := first.published
  record := later.record.trans first.record
  silent := later.silent
  bound := later.bound.trans first.bound

/-- Attempts that fail leave the host as the first of them did. -/
theorem run_attempts (h : Settled subnet s) (here : s.registry.hosts.get? host = some entry) {attempts : List Step}
    (nonempty : attempts ≠ [])
    (fail : ∀ step ∈ attempts,
      step.operation.Attempts host entry.lease ∧ step.conditions.removeAlias entry.ip ≠ none) :
    s.Stripped (s.run attempts) host entry := by
  obtain ⟨first, rest, rfl⟩ := List.exists_cons_of_ne_nil nonempty
  obtain ⟨hfirst, hrest⟩ := List.forall_mem_cons.mp fail
  obtain ⟨chosen, torn, hchosen⟩ := next_attempt h entry hfirst.1
  -- by induction on the later attempts, each of which finds the host without listeners
  refine (History.run_keeps (I := fun later => Settled subnet later ∧ s.Stripped later host entry) ?_
    ⟨next_settled h first, torn.stripped host entry here hchosen hfirst.2⟩ hrest).2
  intro later step hstep hi
  obtain ⟨chosen, torn, hchosen⟩ := next_attempt hi.1 { entry with listeners := [] } hstep.1
  exact ⟨next_settled hi.1 step, hi.2.trans (torn.stripped host _ hi.2.kept hchosen hstep.2)⟩

/-- However many attempts have failed, one that the system agrees to leaves nothing of the host. -/
theorem run_retried (h : Settled subnet s) (here : s.registry.hosts.get? host = some entry) {attempts : List Step}
    (fail : ∀ step ∈ attempts,
      step.operation.Attempts host entry.lease ∧ step.conditions.removeAlias entry.ip ≠ none)
    {last : Step} (attempt : last.operation.Attempts host entry.lease)
    (released : last.conditions.removeAlias entry.ip = none) : ((s.run attempts).next last).Gone host entry.ip := by
  by_cases nonempty : attempts = []
  · subst nonempty
    obtain ⟨chosen, torn, hchosen⟩ := next_attempt h entry attempt
    exact torn.gone host entry here hchosen released
  · have stripped := run_attempts h here nonempty fail
    obtain ⟨chosen, torn, hchosen⟩ := next_attempt (h.run attempts) { entry with listeners := [] } attempt
    exact torn.gone host { entry with listeners := [] } stripped.kept hchosen released

/-- In every state of every run, whatever addresses the system takes back and whatever it does not: a sweep tears down
the hosts whose leases have ended and no others, and reports those that are gone, in their order; a deletion tears
down the host that it names, whatever its lease, and succeeds exactly if this host was there and is gone. What is torn
down is gone with its listeners and its record, and its address is free, if the system takes the address back; if not,
the host keeps its address, its lease and its record, without listeners. After any number of attempts that fail, one
that the system agrees to leaves nothing of the host. -/
theorem run_teardown (subnet : Subnet) (leaseLength : Duration) (steps : List Step) :
    let s := (History.start subnet leaseLength).run steps
    (∀ now w,
      let s' := s.next ⟨.expire now, w⟩
      let removed := (s.registry.expire w now).removed
      (s.TearsDown s' w fun _ entry => entry.lease < now) ∧
      (removed.Pairwise (· < ·) ∧ ∀ host, host ∈ removed ↔
        s.registry.hosts.get? host ≠ none ∧ s'.registry.hosts.get? host = none)) ∧
    (∀ given w,
      let s' := s.next ⟨.delete given, w⟩
      (s.TearsDown s' w fun host _ => HostName.normalize given = .ok host) ∧
      ((s.registry.delete w given).result = .ok () ↔ ∃ host, HostName.normalize given = .ok host ∧
        s.registry.hosts.get? host ≠ none ∧ s'.registry.hosts.get? host = none)) ∧
    ∀ host entry attempts, s.registry.hosts.get? host = some entry →
      (∀ step ∈ attempts,
        step.operation.Attempts host entry.lease ∧ step.conditions.removeAlias entry.ip ≠ none) →
      (attempts ≠ [] → s.Stripped (s.run attempts) host entry) ∧
      ∀ last : Step, last.operation.Attempts host entry.lease → last.conditions.removeAlias entry.ip = none →
        ((s.run attempts).next last).Gone host entry.ip := by
  intro s
  have h : Settled subnet s := run_settled subnet leaseLength steps
  refine ⟨?_, ?_, ?_⟩
  · intro now w s' removed
    have torn := next_expire h now w
    refine ⟨torn, removed_expire_ordered h.consistent.sound w now, ?_⟩
    intro host
    rw [mem_removed_expire h.consistent.sound]
    refine ⟨?_, ?_⟩
    · rintro ⟨entry, here, gone⟩
      exact ⟨Option.isSome_iff_ne_none.mp (Option.isSome_of_eq_some here), (torn.absent_iff here).mpr gone⟩
    · rintro ⟨hthere, absent⟩
      obtain ⟨entry, here⟩ := Option.ne_none_iff_exists'.mp hthere
      exact ⟨entry, here, (torn.absent_iff here).mp absent⟩
  · intro given w s'
    have torn := next_delete h given w
    refine ⟨torn, ?_⟩
    rw [delete_result]
    refine ⟨?_, ?_⟩
    · rintro ⟨name, entry, name_eq, here, released⟩
      exact ⟨name, name_eq, Option.isSome_iff_ne_none.mp (Option.isSome_of_eq_some here),
        (torn.absent_iff here).mpr ⟨name_eq, released⟩⟩
    · rintro ⟨name, name_eq, hthere, absent⟩
      obtain ⟨entry, here⟩ := Option.ne_none_iff_exists'.mp hthere
      exact ⟨name, entry, name_eq, here, ((torn.absent_iff here).mp absent).2⟩
  · intro host entry attempts here fail
    refine ⟨fun nonempty => run_attempts h here nonempty fail, ?_⟩
    exact fun last attempt released => run_retried h here fail attempt released

/-- Three hosts, of which the first two have their leases from the start of time and the third from half a minute
later. -/
def staggered : List Step :=
  [creating "a.test" .clear, creating "b.test" .clear,
    ⟨.create (30 * Time.second) "c.test" 80 "http://127.0.0.1:3000", .clear⟩]

/-- A system that does all that it is asked, but does not take back the address of the first host. -/
def Conditions.holdingFirst : Conditions :=
  { clear with removeAlias := fun ip => if ip = .ofOctets 127 1 0 2 then some "still in use" else none }

/-- What the hosts hold then. -/
theorem staggered_hosts :
    ((History.start smallSubnet (.ofSeconds 60)).run staggered).registry.hosts.map (fun row => (row.1, row.2.ip, row.2.lease)) =
      [("a.test".toList, .ofOctets 127 1 0 2, 60 * Time.second), ("b.test".toList, .ofOctets 127 1 0 3, 60 * Time.second),
        ("c.test".toList, .ofOctets 127 1 0 4, 90 * Time.second)] := by
  decide +kernel

/-- A sweep after a minute and a second reaches the first two hosts and removes the second; the first is deleted
later. -/
theorem staggered_swept :
    let s := (History.start smallSubnet (.ofSeconds 60)).run staggered
    let sweep : Step := ⟨.expire (61 * Time.second), .holdingFirst⟩
    ∃ a b c, s.registry.hosts = [("a.test".toList, a), ("b.test".toList, b), ("c.test".toList, c)] ∧
      s.Stripped (s.next sweep) "a.test" a ∧ (s.next sweep).Gone "b.test" b.ip ∧
      s.Untouched (s.next sweep) "c.test" c ∧
      ((s.next sweep).next ⟨.delete "A.Test.", .clear⟩).Gone "a.test" a.ip := by
  intro s sweep
  obtain ⟨sweeps, -, retries⟩ := run_teardown smallSubnet (.ofSeconds 60) staggered
  obtain ⟨torn, -⟩ := sweeps (61 * Time.second) .holdingFirst
  have hhosts := staggered_hosts
  simp only [List.map_eq_cons_iff, List.map_eq_nil_iff, Prod.mk.injEq] at hhosts
  obtain ⟨⟨_, a⟩, _, hs, ⟨rfl, ha, hal⟩, ⟨_, b⟩, _, rfl, ⟨rfl, hb, hbl⟩, ⟨_, c⟩, _, rfl, ⟨rfl, hc, hcl⟩, rfl⟩ := hhosts
  have hname : HostName.normalize "A.Test." = .ok "a.test".toList := by decide +kernel
  have hereA : s.registry.hosts.get? "a.test" = some a := by rw [hs]; rfl
  have hereB : s.registry.hosts.get? "b.test" = some b := by rw [hs]; rfl
  have hereC : s.registry.hosts.get? "c.test" = some c := by rw [hs]; rfl
  have held : Conditions.holdingFirst.removeAlias a.ip ≠ none := by rw [ha]; decide
  have lapsed : a.lease < 61 * Time.second := by rw [hal]; decide
  refine ⟨a, b, c, hs, torn.stripped _ a hereA lapsed held, torn.gone _ b hereB ?_ ?_, torn.untouched _ c hereC ?_, ?_⟩
  · rw [hbl]; decide
  · rw [hb]; decide
  · rw [hcl]; decide
  · refine (retries "a.test" a [sweep] hereA ?_).2 ⟨.delete "A.Test.", .clear⟩ hname rfl
    intro step hm
    obtain rfl := List.mem_singleton.mp hm
    exact ⟨lapsed, held⟩

end Gatehouse.Registry
