import Gatehouse.Proofs.Registry.Invariant
import Gatehouse.Proofs.Registry.Outcome

/-!
Leases over runs. Main statement: `run_leases`, by which the lease of a host always ends a fixed time after
the last creation of the host that succeeded, and no sweep touches the host before that.
-/

namespace Gatehouse.Registry

open Net

/-! ## Grants -/

/-- The time of an operation that granted a lease to a host: a creation that succeeded, under any spelling of
the host's name. -/
def Event.grant? (event : Event) (host : Text) : Option Time :=
  match event.operation, event.fault with
  | .create now given _ _, none => if (HostName.normalize given).toOption = some host then some now else none
  | _, _ => none

/-- When a host was last granted a lease. -/
def lastGrant? (events : List Event) (host : Text) : Option Time :=
  (events.filterMap (·.grant? host)).getLast?

theorem lastGrant?_snoc (events : List Event) (event : Event) (host : Text) :
    lastGrant? (events ++ [event]) host = (event.grant? host).or (lastGrant? events host) := by
  rw [lastGrant?, List.filterMap_append]
  cases hgrant : event.grant? host with
  | none => simp [hgrant, lastGrant?]
  | some granted => simp [hgrant]

variable {r r' : Registry} {w : Conditions} {now : Time} {host name target : Text} {port : Nat} {entry : Entry}
  {o : Outcome Endpoint}

theorem leaseEnd_eq {length : Duration} {lease : Time} (h : leaseEnd now length = .ok lease) :
    lease = now + length := by
  simp only [leaseEnd] at h
  split at h
  · exact (Except.ok.inj h).symm
  · cases h

/-! ## Changes of leases -/

/-- Every host that is there was there before, with the same lease. -/
def LeasesFrom (r r' : Registry) : Prop :=
  ∀ host entry', r'.hosts.get? host = some entry' → ∃ entry, r.hosts.get? host = some entry ∧ entry.lease = entry'.lease

theorem leasesFrom_of_hosts (h : r'.hosts = r.hosts) : LeasesFrom r r' := by
  intro host entry' hget
  exact ⟨entry', h ▸ hget, rfl⟩

/-- A host may get other listeners. -/
theorem leasesFrom_put (here : r.hosts.get? host = some entry) (listeners : Table Nat Route) :
    LeasesFrom r (r.put host { entry with listeners := listeners }) := by
  intro host' entry' hget
  rw [get?_put] at hget
  split at hget
  · rename_i hhost
    obtain rfl := Option.some.inj hget
    exact ⟨entry, hhost ▸ here, rfl⟩
  · exact ⟨entry', hget, rfl⟩

theorem leasesFrom_retarget (r : Registry) (host : Text) (port : Nat) (route : Route) :
    LeasesFrom r (r.retarget host port route) := by
  simp only [retarget]
  split
  · cases here : r.hosts.get? host with
    | none =>
      rw [setRoute, here]
      exact leasesFrom_of_hosts rfl
    | some entry =>
      rw [setRoute_eq_put here]
      exact leasesFrom_put here _
  · exact leasesFrom_of_hosts rfl

theorem Closing.leasesFrom {calls : List Call} (c : Closing r calls r') : LeasesFrom r r' := by
  cases c with
  | close here =>
    intro host' entry' hget
    rw [Table.get?_erase] at hget
    split at hget
    · cases hget
    · exact ⟨entry', hget, rfl⟩
  | keep here => exact leasesFrom_put here []

theorem Chain.leasesFrom {calls : List Call} (chain : Chain Closing r calls r') : LeasesFrom r r' := by
  induction chain with
  | nil r => exact leasesFrom_of_hosts rfl
  | cons first rest ih =>
    intro host entry'' hget
    obtain ⟨entry', hget', heq'⟩ := ih host entry'' hget
    obtain ⟨entry, hget, heq⟩ := first.leasesFrom host entry' hget'
    exact ⟨entry, hget, heq.trans heq'⟩

theorem Attachment.leasesFrom {scheme : Text} (a : Attachment r w host port scheme target o) :
    LeasesFrom r o.after := by
  cases a with
  | refused _ => exact leasesFrom_of_hosts rfl
  | portRefused _ _ _ => exact leasesFrom_of_hosts rfl
  | retargeted _ here _ => exact leasesFrom_put here _
  | opened _ here _ => exact leasesFrom_put here _

/-- A creation that fails changes no lease, and one that succeeds changes that of its host. -/
theorem Creation.leases (c : Creation r w now host port target o) :
    (o.fault?.isSome ∧ LeasesFrom r o.after) ∨
      o.fault? = none ∧ ∃ name entry, HostName.normalize host = .ok name ∧
        entry.lease = now + r.leaseLength ∧
        ∀ host', o.after.hosts.get? host' = if host' = name then some entry else r.hosts.get? host' := by
  cases c with
  | unread _ => exact .inl ⟨rfl, leasesFrom_of_hosts rfl⟩
  | leaseRefused _ _ => exact .inl ⟨rfl, leasesFrom_retarget r _ _ _⟩
  | exhausted _ _ _ _ => exact .inl ⟨rfl, leasesFrom_of_hosts rfl⟩
  | aliasRefused _ _ _ _ _ => exact .inl ⟨rfl, leasesFrom_of_hosts rfl⟩
  | hostRefused _ _ _ _ _ _ _ => exact .inl ⟨rfl, leasesFrom_of_hosts rfl⟩
  | portRefused _ _ _ _ _ => exact .inl ⟨rfl, leasesFrom_of_hosts rfl⟩
  | renewed asks granted _ _ =>
    exact .inr ⟨rfl, _, _, asks.name_eq, leaseEnd_eq granted, fun host' => Table.get?_insert host' _ _ _⟩
  | openedPort asks granted _ _ _ =>
    exact .inr ⟨rfl, _, _, asks.name_eq, leaseEnd_eq granted, fun host' => Table.get?_insert host' _ _ _⟩
  | openedHost asks granted _ _ _ _ _ =>
    exact .inr ⟨rfl, _, _, asks.name_eq, leaseEnd_eq granted, fun host' => Table.get?_insert host' _ _ _⟩

theorem Opening.leaseLength_eq {calls : List Call} (o : Opening r calls r') : r'.leaseLength = r.leaseLength := by
  cases o <;> rfl

theorem Closing.leaseLength_eq {calls : List Call} (c : Closing r calls r') : r'.leaseLength = r.leaseLength := by
  cases c <;> rfl

theorem Chain.leaseLength_eq {R : Registry → List Call → Registry → Prop} {calls : List Call}
    (same : ∀ {r calls r'}, R r calls r' → r'.leaseLength = r.leaseLength) (chain : Chain R r calls r') :
    r'.leaseLength = r.leaseLength := by
  induction chain with
  | nil r => rfl
  | cons first rest ih => exact ih.trans (same first)

/-! ## The invariant -/

/-- Every host has the lease that it was last granted, of the length that the registry gives. -/
structure Leased (leaseLength : Duration) (r : Registry) (events : List Event) : Prop where
  length : r.leaseLength = leaseLength
  granted : ∀ host entry, r.hosts.get? host = some entry →
    ∃ granted, lastGrant? events host = some granted ∧ entry.lease = granted + leaseLength

variable {leaseLength : Duration} {events : List Event} {event : Event}

/-- An operation that grants no lease and changes none. -/
theorem Leased.keep (h : Leased leaseLength r events) (length : r'.leaseLength = r.leaseLength)
    (leases : LeasesFrom r r') (ungranted : ∀ host, event.grant? host = none) :
    Leased leaseLength r' (events ++ [event]) := by
  refine ⟨length.trans h.length, ?_⟩
  intro host entry' hget
  obtain ⟨entry, hbefore, hlease⟩ := leases host entry' hget
  rw [lastGrant?_snoc, ungranted host, Option.none_or, ← hlease]
  exact h.granted host entry hbefore

theorem create_leased (h : Leased leaseLength r events) (w : Conditions) (now : Time) (host : Text) (port : Nat)
    (target : Text) :
    let o := r.create w now host port target
    Leased leaseLength o.after (events ++ [⟨.create now host port target, o.fault?, o.calls⟩]) := by
  intro o
  have length : o.after.leaseLength = r.leaseLength :=
    (create_chain r w now host port target).leaseLength_eq Opening.leaseLength_eq
  rcases (create_creation r w now host port target).leases with
    ⟨failed, leases⟩ | ⟨done, name, entry, name_eq, lease_eq, hosts⟩
  · obtain ⟨fault, hfault⟩ := Option.isSome_iff_exists.mp failed
    refine h.keep length leases ?_
    intro host'
    simp only [Event.grant?, o, hfault]
  · refine ⟨length.trans h.length, ?_⟩
    intro host' entry' hget
    have hgrant : Event.grant? ⟨.create now host port target, o.fault?, o.calls⟩ host' =
        if host' = name then some now else none := by
      have hname : (name = host') = (host' = name) := propext eq_comm
      simp only [Event.grant?, o, done, name_eq, Except.toOption, Option.some.injEq, hname]
    rw [lastGrant?_snoc, hgrant]
    rw [hosts] at hget
    -- the host of the creation has its new lease, and every other host what it had
    by_cases hhost : host' = name
    · rw [if_pos hhost] at hget ⊢
      obtain rfl := Option.some.inj hget
      exact ⟨now, rfl, by rw [lease_eq, h.length]⟩
    · rw [if_neg hhost] at hget ⊢
      exact h.granted host' entry' hget

theorem next_leased {subnet : Subnet} {s : History} (hs : Consistent subnet s.registry s.calls)
    (h : Leased leaseLength s.registry s.events) (step : Step) :
    Leased leaseLength (s.next step).registry (s.next step).events := by
  have closing : ∀ {calls r' event}, Chain Closing s.registry calls r' → (∀ host, Event.grant? event host = none) →
      Leased leaseLength r' (s.events ++ [event]) :=
    fun chain ungranted => h.keep (chain.leaseLength_eq Closing.leaseLength_eq) chain.leasesFrom ungranted
  obtain ⟨op, w⟩ := step
  cases op with
  | create now host port target => exact create_leased h w now host port target
  | attach host port scheme target =>
    have length := (attach_chain s.registry w host port scheme target).leaseLength_eq Opening.leaseLength_eq
    exact h.keep length (attach_attachment s.registry w host port scheme target).leasesFrom fun _ => rfl
  | delete host => exact closing (delete_chain s.registry w host) fun _ => rfl
  | expire now => exact closing (expire_chain w now hs.sound.hosts) fun _ => rfl
  | publish host =>
    rcases publish_cases s.registry w host with ⟨e, -, heq⟩ | ⟨name, domains, told, -, -, heq⟩
    · simp only [History.next, Operation.perform, heq]
      exact h.keep rfl (leasesFrom_of_hosts rfl) fun _ => rfl
    · simp only [History.next, Operation.perform, heq]
      exact h.keep rfl (leasesFrom_of_hosts rfl) fun _ => rfl
  | closeAll =>
    obtain ⟨left, chain, heq, -⟩ := closeAll_chain w hs.sound.hosts
    have hleft : Leased leaseLength left (s.events ++ [(Operation.closeAll.perform s.registry w).2]) :=
      closing chain fun _ => rfl
    simp only [History.next, Operation.perform, heq]
    exact ⟨hleft.length, fun host entry hget => by cases hget⟩

theorem run_leased (subnet : Subnet) (leaseLength : Duration) (steps : List Step) :
    Leased leaseLength ((History.start subnet leaseLength).run steps).registry
      ((History.start subnet leaseLength).run steps).events := by
  have start : Leased leaseLength (empty subnet leaseLength) [] := ⟨rfl, fun host entry hget => by cases hget⟩
  refine (History.run_keeps
    (I := fun s => Consistent subnet s.registry s.calls ∧ Leased leaseLength s.registry s.events)
    (P := fun _ => True) ?_ ⟨run_consistent subnet leaseLength [], start⟩ (fun _ _ => trivial)).2
  intro s step _ hi
  exact ⟨next_consistent hi.1 step, next_leased hi.1 hi.2 step⟩

/-! ## Sweeps -/

/-- A sweep removes only hosts that it goes through. -/
theorem mem_removed_teardownAll {rows : Table Text Entry} (h : host ∈ (r.teardownAll w rows).removed) :
    ∃ entry, (host, entry) ∈ rows := by
  rw [teardownAll_removed] at h
  obtain ⟨row, hm, rfl⟩ := List.mem_map.mp h
  exact ⟨row.2, List.mem_of_mem_filter hm⟩

/-- A sweep stops only listeners of hosts that it goes through. -/
theorem stop_mem_teardownAll {rows : Table Text Entry} {ip : Ipv4}
    (h : .stop ip port ∈ (r.teardownAll w rows).calls) : ∃ host entry, (host, entry) ∈ rows ∧ entry.ip = ip := by
  rw [teardownAll_calls] at h
  obtain ⟨⟨first, entry⟩, hm, hcall⟩ := List.mem_flatMap.mp h
  rcases List.mem_append.mp hcall with hstop | hrelease
  · obtain ⟨listener, -, heq⟩ := List.mem_map.mp hstop
    exact ⟨first, entry, hm, (Call.stop.inj heq).1⟩
  · cases List.mem_singleton.mp hrelease

/-- A sweep spares a host: the host keeps all that it has, and none of its listeners is stopped. -/
structure Sweep.Spares (sweep : Sweep) (host : Text) (entry : Entry) : Prop where
  kept : sweep.after.hosts.get? host = some entry
  unremoved : host ∉ sweep.removed
  unstopped : ∀ port, .stop entry.ip port ∉ sweep.calls

theorem expire_spares (hs : Sound r) (w : Conditions) (here : r.hosts.get? host = some entry)
    (due : now ≤ entry.lease) : (r.expire w now).Spares host entry := by
  -- the sweep does not go through the host, whose lease has not ended
  have absent : ∀ later, (host, later) ∉ r.hosts.filter fun row => decide (row.2.lease < now) := by
    intro later hm
    obtain ⟨hrow, hlt⟩ := List.mem_filter.mp hm
    obtain rfl : later = entry := Option.some.inj ((Table.get?_of_mem hs.hosts hrow).symm.trans here)
    exact absurd (of_decide_eq_true hlt) (Int.not_lt.mpr due)
  refine ⟨?_, ?_, ?_⟩
  · rw [expire, teardownAll_get? w (Table.sorted_filter _ hs.hosts)]
    cases hget : Table.get? (r.hosts.filter fun row => decide (row.2.lease < now)) host with
    | none => exact here
    | some later => exact absurd (Table.mem_of_get? hget) (absent later)
  · intro hm
    obtain ⟨later, hrow⟩ := mem_removed_teardownAll hm
    exact absent later hrow
  · intro port hm
    obtain ⟨host', later, hrow, hip⟩ := stop_mem_teardownAll hm
    -- an address belongs to one host
    have there := Table.get?_of_mem hs.hosts (List.mem_of_mem_filter hrow)
    obtain rfl : host' = host := hs.distinct there here hip
    exact absent later hrow

theorem reap_spares (hs : Sound r) (w : Conditions) (here : r.hosts.get? host = some entry) {times : List Time}
    (due : ∀ now ∈ times, now ≤ entry.lease) : (r.reap w times).Spares host entry := by
  induction times generalizing r with
  | nil => exact ⟨here, List.not_mem_nil, fun _ => List.not_mem_nil⟩
  | cons now later ih =>
    rw [reap]
    split
    · exact ⟨here, List.not_mem_nil, fun _ => List.not_mem_nil⟩
    · have first := expire_spares hs w here (due now List.mem_cons_self)
      have hs' : Sound (r.expire w now).after :=
        (expire_chain w now hs.hosts).keeps (fun _ _ _ hi c => Closing.sound c hi) hs
      have rest := ih hs' first.kept fun t ht => due t (List.mem_cons_of_mem _ ht)
      refine ⟨rest.kept, ?_, ?_⟩
      · exact fun hm => (List.mem_append.mp hm).elim first.unremoved rest.unremoved
      · exact fun port hm => (List.mem_append.mp hm).elim (first.unstopped port) (rest.unstopped port)

/-- In every state of every run, whatever the times at which its operations took place and whatever failed:
the lease of each host ends the length of a lease after the last creation of this host that succeeded, and
neither a sweep at a time up to this end nor a series of sweeps at such times touches the host. -/
theorem run_leases (subnet : Subnet) (leaseLength : Duration) (steps : List Step) :
    let s := (History.start subnet leaseLength).run steps
    ∀ host entry, s.registry.hosts.get? host = some entry →
      (∃ granted, lastGrant? s.events host = some granted ∧ entry.lease = granted + leaseLength) ∧
      (∀ w now, now ≤ entry.lease → (s.registry.expire w now).Spares host entry) ∧
      ∀ w times, (∀ now ∈ times, now ≤ entry.lease) → (s.registry.reap w times).Spares host entry := by
  intro s host entry here
  have hs : Sound s.registry := (run_consistent subnet leaseLength steps).sound
  refine ⟨?_, ?_, ?_⟩
  · exact (run_leased subnet leaseLength steps).granted host entry here
  · exact fun w now due => expire_spares hs w here due
  · exact fun w times due => reap_spares hs w here due

/-- A host is created, a port is attached, the host is renewed after half a minute under another spelling, and
a creation on a port that is taken fails. -/
def renewals : List Step :=
  [creating "a.test" .clear, ⟨.attach "a.test" 81 "tcp" "127.0.0.1:3000", .clear⟩,
    ⟨.create (30 * Time.second) "A.Test." 80 "127.0.0.1:4000", .clear⟩,
    ⟨.create (40 * Time.second) "a.test" 82 "127.0.0.1:5000", .occupied⟩]

theorem renewals_lease :
    ∃ entry, ((History.start smallSubnet (.ofSeconds 60)).run renewals).registry.hosts.get? "a.test" = some entry ∧
      entry.lease = 90 * Time.second ∧
      (((History.start smallSubnet (.ofSeconds 60)).run renewals).registry.expire .clear (90 * Time.second)).Spares
        "a.test" entry := by
  have isSome : (((History.start smallSubnet (.ofSeconds 60)).run renewals).registry.hosts.get? "a.test").isSome := by
    decide +kernel
  obtain ⟨entry, here⟩ := Option.isSome_iff_exists.mp isSome
  have hrun := run_leases smallSubnet (.ofSeconds 60) renewals _ _ here
  obtain ⟨granted, hlast, hlease⟩ := hrun.1
  have hrenewed : lastGrant? ((History.start smallSubnet (.ofSeconds 60)).run renewals).events "a.test" =
      some (30 * Time.second) := by decide +kernel
  obtain rfl : granted = 30 * Time.second := Option.some.inj (hlast.symm.trans hrenewed)
  have hend : entry.lease = 90 * Time.second := hlease
  exact ⟨entry, here, hend, hrun.2.1 .clear _ (Int.le_of_eq hend.symm)⟩

end Gatehouse.Registry
