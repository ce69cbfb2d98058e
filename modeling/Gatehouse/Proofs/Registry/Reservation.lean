import Gatehouse.Proofs.Dns.Zone
import Gatehouse.Proofs.Registry.Invariant
import Gatehouse.Proofs.Registry.Outcome

/-!
The name of the control interface. Main statement: `run_reservation`, by which a name that is published for the
control interface stays without a host and at the reserved address, whatever is done until another is published,
exactly if it was no host when it was published.
-/

namespace Gatehouse.Registry

open Net

variable {r r' r'' : Registry} {name host : Text} {calls : List Call} {w : Conditions}

/-! ## Names of hosts -/

/-- Every host has a name in the form in which hosts are registered. -/
def HasNames (r : Registry) : Prop := ∀ host entry, r.hosts.get? host = some entry → HostName.IsCanonical host

theorem HasNames.put (h : HasNames r) (canonical : HostName.IsCanonical host) (entry : Entry) :
    HasNames (r.put host entry) := by
  intro other later hget
  rw [get?_put] at hget
  split at hget
  · rename_i heq
    exact heq ▸ canonical
  · exact h other later hget

theorem Opening.hasNames (o : Opening r calls r') (h : HasNames r) : HasNames r' := by
  cases o with
  | retarget route here _ => exact h.put (h _ _ here) _
  | renew lease here => exact h.put (h _ _ here) _
  | openPort route here _ => exact h.put (h _ _ here) _
  | republish here => exact h
  | openHost now port route canonical free absent _ registers => exact h.put canonical _
  | rollBack _ _ _ _ registers => exact h
  | aliasRefused _ => exact h
  | listenRefused _ _ => exact h

theorem Closing.hasNames (c : Closing r calls r') (h : HasNames r) : HasNames r' := by
  cases c with
  | close here =>
    intro other later hget
    rw [Table.get?_erase] at hget
    split at hget
    · cases hget
    · exact h other later hget
  | keep here => exact h.put (h _ _ here) _

theorem next_hasNames {s : History} (hs : s.registry.hosts.Sorted) (h : HasNames s.registry) (step : Step) :
    HasNames (s.next step).registry := by
  obtain ⟨op, w⟩ := step
  rcases History.next_chain hs ⟨op, w⟩ with ⟨calls, chain⟩ | ⟨calls, chain⟩ | ⟨host, rfl⟩ | rfl
  · exact chain.keeps (fun _ _ _ hi o => Opening.hasNames o hi) h
  · exact chain.keeps (fun _ _ _ hi c => Closing.hasNames c hi) h
  · have hafter : (s.next ⟨.publish host, w⟩).registry = (s.registry.publish w host).after := rfl
    rw [hafter]
    rcases publish_cases s.registry w host with ⟨e, -, heq⟩ | ⟨name, domains, told, -, -, heq⟩ <;> rw [heq] <;> exact h
  · -- after the end of the run there are no hosts
    obtain ⟨left, -, hafter, -⟩ := closeAll_chain w hs
    intro other later hget
    have hempty : (s.next ⟨.closeAll, w⟩).registry.hosts = [] := congrArg Registry.hosts hafter
    rw [hempty] at hget
    cases hget

/-! ## What becomes of the name -/

/-- What becomes of a name in the registry and in the zone: nothing, unless it is a host that goes, and its record
with it. -/
inductive Fate (name : Text) (r r' : Registry) : Prop where
  | kept (hosts : (r'.hosts.get? name).isSome = (r.hosts.get? name).isSome)
      (lookup : r'.zone.lookup name = r.zone.lookup name)
  | withdrawn (here : (r.hosts.get? name).isSome = true) (gone : (r'.hosts.get? name).isSome = false)
      (unknown : r'.zone.lookup name = none)

theorem Fate.refl (name : Text) (r : Registry) : Fate name r r := .kept rfl rfl

theorem Fate.trans (h : Fate name r r') (h' : Fate name r' r'') : Fate name r r'' := by
  cases h with
  | kept hosts lookup =>
    cases h' with
    | kept hosts' lookup' => exact .kept (hosts'.trans hosts) (lookup'.trans lookup)
    | withdrawn here gone unknown => exact .withdrawn (hosts ▸ here) gone unknown
  | withdrawn here gone unknown =>
    cases h' with
    | kept hosts' lookup' => exact .withdrawn here (hosts'.trans gone) (lookup'.trans unknown)
    | withdrawn here' _ _ =>
      rw [gone] at here'
      cases here'

/-- A host that is there may get another lease and other listeners. -/
theorem Fate.put {entry : Entry} (here : r.hosts.get? host = some entry) (entry' : Entry) :
    Fate name r (r.put host entry') := by
  refine .kept ?_ rfl
  rw [get?_put]
  split
  · rename_i heq
    rw [heq, here]
    rfl
  · rfl

theorem Fate.retarget (r : Registry) (host : Text) (port : Nat) (route : Route) :
    Fate name r (r.retarget host port route) := by
  cases runs : r.route? host port with
  | none =>
    rw [retarget_of_none runs]
    exact .refl name r
  | some old =>
    obtain ⟨entry, here, -⟩ := Option.bind_eq_some_iff.mp runs
    rw [retarget_of_isSome (Option.isSome_of_eq_some runs), setRoute_eq_put here]
    exact .put here _

/-- The record and the entry of another name do not matter. -/
theorem Fate.other (canonical : HostName.IsCanonical name) (canonicalHost : HostName.IsCanonical host)
    (hne : name ≠ host) (entry : Entry) (domains : List Text) (ip : Ipv4) :
    Fate name r { r with
      zone := Dns.Zone.set { r.zone with domains } host ip
      hosts := r.hosts.insert host entry } := by
  refine .kept ?_ ?_
  · have hget : Table.get? (r.hosts.insert host entry) name = r.hosts.get? name :=
      (Table.get?_insert name host entry r.hosts).trans (if_neg hne)
    rw [hget]
  · refine (Dns.Zone.lookup_set _ name ip canonicalHost.key_eq).trans ?_
    rw [canonical.key_eq, if_neg hne]
    rfl

theorem Closing.fate (c : Closing r calls r') (h : HasNames r) (canonical : HostName.IsCanonical name) :
    Fate name r r' := by
  cases c with
  | @close host entry here =>
    have hlookup := Dns.Zone.lookup_remove r.zone name (h _ _ here).key_eq
    rw [canonical.key_eq] at hlookup
    by_cases hname : name = host
    · subst hname
      refine .withdrawn (Option.isSome_of_eq_some here) ?_ (hlookup.trans (if_pos rfl))
      rw [Table.get?_erase, if_pos rfl]
      rfl
    · refine .kept ?_ (hlookup.trans (if_neg hname))
      rw [Table.get?_erase, if_neg hname]
  | keep here => exact .put here _

theorem Chain.fate (chain : Chain Closing r calls r') (h : HasNames r) (canonical : HostName.IsCanonical name) :
    Fate name r r' := by
  have both : HasNames r' ∧ Fate name r r' := by
    refine chain.keeps (I := fun later => HasNames later ∧ Fate name r later) ?_ ⟨h, .refl name r⟩
    intro before _ after hi c
    exact ⟨c.hasNames hi.1, hi.2.trans (c.fate hi.1 canonical)⟩
  exact both.2

/-- Creating never touches the name of the control interface. -/
theorem Creation.fate {now : Time} {target : Text} {port : Nat} {o : Outcome Endpoint}
    (c : Creation r w now host port target o) (canonical : HostName.IsCanonical name)
    (reserved : r.controlHost = some name) : Fate name r o.after := by
  have other : ∀ {name' : Text} {route : Route}, Asks r host port target name' route →
      name ≠ name' ∧ HostName.IsCanonical name' := by
    intro name' route asks
    exact ⟨fun heq => asks.free (heq ▸ reserved), HostName.isCanonical_of_normalize asks.name_eq⟩
  cases c with
  | unread _ => exact .refl name r
  | leaseRefused _ _ => exact .retarget r _ port _
  | exhausted _ _ _ _ => exact .refl name r
  | aliasRefused _ _ _ _ _ => exact .refl name r
  | hostRefused _ _ _ _ _ _ _ => exact .kept rfl rfl
  | portRefused _ _ _ _ _ => exact .refl name r
  | renewed _ _ here _ => exact .put here _
  | openedPort asks _ _ _ _ => exact .other canonical (other asks).2 (other asks).1 _ _ _
  | openedHost asks _ _ _ _ _ _ => exact .other canonical (other asks).2 (other asks).1 _ _ _

theorem Attachment.fate {scheme target : Text} {port : Nat} {o : Outcome Endpoint}
    (a : Attachment r w host port scheme target o) : Fate name r o.after := by
  cases a with
  | refused _ => exact .refl name r
  | portRefused _ _ _ => exact .refl name r
  | retargeted _ here _ => exact .put here _
  | opened _ here _ => exact .put here _

theorem Opening.controlHost_eq (o : Opening r calls r') : r'.controlHost = r.controlHost := by
  cases o <;> rfl

theorem Closing.controlHost_eq (c : Closing r calls r') : r'.controlHost = r.controlHost := by
  cases c <;> rfl

/-! ## Steps and runs -/

/-- The name that an operation publishes for the control interface, if it does: it fails exactly if there is none. -/
def Operation.published? : Operation → Option Text
  | .publish host => (HostName.normalize host).toOption
  | _ => none

/-- A publication that publishes nothing changes nothing. -/
theorem publish_unpublished {s : History} (hpublishes : (Operation.publish host).published? = none) :
    (s.next ⟨.publish host, w⟩).registry = s.registry := by
  have hafter : (s.next ⟨.publish host, w⟩).registry = (s.registry.publish w host).after := rfl
  rw [hafter]
  rcases publish_cases s.registry w host with ⟨e, -, heq⟩ | ⟨name, domains, told, hname, -, -⟩
  · rw [heq]
    rfl
  · simp only [Operation.published?, hname] at hpublishes
    cases hpublishes

theorem next_controlHost {s : History} {step : Step} (hpublishes : step.operation.published? = none)
    (hclose : step.operation ≠ .closeAll) (hs : s.registry.hosts.Sorted) :
    (s.next step).registry.controlHost = s.registry.controlHost := by
  obtain ⟨op, w⟩ := step
  rcases History.next_chain hs ⟨op, w⟩ with ⟨calls, chain⟩ | ⟨calls, chain⟩ | ⟨host, rfl⟩ | rfl
  · exact chain.keeps (I := fun r => r.controlHost = s.registry.controlHost)
      (fun _ _ _ hi o => (Opening.controlHost_eq o).trans hi) rfl
  · exact chain.keeps (I := fun r => r.controlHost = s.registry.controlHost)
      (fun _ _ _ hi c => (Closing.controlHost_eq c).trans hi) rfl
  · rw [publish_unpublished hpublishes]
  · exact absurd rfl hclose

/-- What becomes of the name of the control interface in a step that neither publishes a name nor ends the run. -/
theorem next_fate {s : History} {step : Step} (hpublishes : step.operation.published? = none)
    (hclose : step.operation ≠ .closeAll) (hs : s.registry.hosts.Sorted) (h : HasNames s.registry)
    (canonical : HostName.IsCanonical name) (reserved : s.registry.controlHost = some name) :
    Fate name s.registry (s.next step).registry := by
  obtain ⟨op, w⟩ := step
  cases op with
  | create now host port target =>
    exact (create_creation s.registry w now host port target).fate canonical reserved
  | attach host port scheme target => exact (attach_attachment s.registry w host port scheme target).fate
  | delete host => exact (delete_chain s.registry w host).fate h canonical
  | expire now => exact (expire_chain w now hs).fate h canonical
  | publish host =>
    rw [publish_unpublished hpublishes]
    exact .refl name s.registry
  | closeAll => exact absurd rfl hclose

theorem run_hasNames (subnet : Subnet) (leaseLength : Duration) (steps : List Step) :
    HasNames ((History.start subnet leaseLength).run steps).registry := by
  have start : HasNames (History.start subnet leaseLength).registry := fun host entry hget => by cases hget
  refine (History.run_keeps (I := fun s => Consistent subnet s.registry s.calls ∧ HasNames s.registry)
    (P := fun _ => True) ?_ ⟨run_consistent subnet leaseLength [], start⟩ (fun _ _ => trivial)).2
  intro s step _ hi
  exact ⟨next_consistent hi.1 step, next_hasNames hi.1.sound.hosts hi.2 step⟩

/-- What becomes of the name of the control interface, from its publication on. -/
theorem run_fate {subnet : Subnet} {s : History} (hs : Consistent subnet s.registry s.calls)
    (h : HasNames s.registry) (canonical : HostName.IsCanonical name) (reserved : s.registry.controlHost = some name)
    {steps : List Step} (hsteps : ∀ step ∈ steps, step.operation.published? = none ∧ step.operation ≠ .closeAll) :
    (s.run steps).registry.controlHost = some name ∧ Fate name s.registry (s.run steps).registry := by
  refine (History.run_keeps
    (I := fun later => (Consistent subnet later.registry later.calls ∧ HasNames later.registry) ∧
      later.registry.controlHost = some name ∧ Fate name s.registry later.registry)
    (P := fun step => step.operation.published? = none ∧ step.operation ≠ .closeAll)
    ?_ ⟨⟨hs, h⟩, reserved, .refl name _⟩ hsteps).2
  intro later step hstep hi
  obtain ⟨⟨hconsistent, hnames⟩, hreserved, hfate⟩ := hi
  have sorted := hconsistent.sound.hosts
  exact ⟨⟨next_consistent hconsistent step, next_hasNames sorted hnames step⟩,
    (next_controlHost hstep.1 hstep.2 sorted).trans hreserved,
    hfate.trans (next_fate hstep.1 hstep.2 sorted hnames canonical hreserved)⟩

/-- Publishing a name leaves the hosts as they are, also one of this name. -/
theorem publish_reserves {s : History} {subnet : Subnet} (hs : s.registry.subnet = subnet) (w : Conditions)
    (hname : HostName.normalize host = .ok name) :
    let published := (s.next ⟨.publish host, w⟩).registry
    published.controlHost = some name ∧ published.hosts = s.registry.hosts ∧
      published.zone.lookup name = some subnet.reserved := by
  intro published
  have canonical := HostName.isCanonical_of_normalize hname
  have hafter : published = (s.registry.publish w host).after := rfl
  rcases publish_cases s.registry w host with ⟨e, herror, -⟩ | ⟨name', domains, told, hname', -, heq⟩
  · rw [hname] at herror
    cases herror
  · obtain rfl : name = name' := Except.ok.inj (hname.symm.trans hname')
    rw [hafter, heq]
    refine ⟨rfl, rfl, (Dns.Zone.lookup_set _ name _ canonical.key_eq).trans ?_⟩
    rw [canonical.key_eq, if_pos rfl, hs]

/-- A name that was published for the control interface, in every state until another name is published: it is no host
and has the reserved address exactly if it was no host when it was published. A host with this name stays one, with
the reserved address in the zone, until it is torn down, and then the name has no address at all. -/
theorem run_reservation (subnet : Subnet) (leaseLength : Duration) (before later : List Step) (w : Conditions)
    (hname : HostName.normalize host = .ok name)
    (hlater : ∀ step ∈ later, step.operation.published? = none ∧ step.operation ≠ .closeAll) :
    let found := ((History.start subnet leaseLength).run before).registry
    let r := ((History.start subnet leaseLength).run (before ++ ⟨.publish host, w⟩ :: later)).registry
    r.controlHost = some name ∧
      (r.hosts.get? name = none ∧ r.zone.lookup name = some subnet.reserved ↔ found.hosts.get? name = none) ∧
      (found.hosts.get? name ≠ none →
        (r.hosts.get? name ≠ none ∧ r.zone.lookup name = some subnet.reserved) ∨
        (r.hosts.get? name = none ∧ r.zone.lookup name = none)) := by
  intro found r
  have consistent := run_consistent subnet leaseLength before
  have names := run_hasNames subnet leaseLength before
  have canonical := HostName.isCanonical_of_normalize hname
  obtain ⟨reserved, hosts, lookup⟩ := publish_reserves consistent.subnet_eq w hname
  have hrun : r = ((((History.start subnet leaseLength).run before).next ⟨.publish host, w⟩).run later).registry :=
    congrArg History.registry (History.run_append _ before (⟨.publish host, w⟩ :: later))
  obtain ⟨hcontrol, fate⟩ := run_fate (next_consistent consistent ⟨.publish host, w⟩)
    (next_hasNames consistent.sound.hosts names ⟨.publish host, w⟩) canonical reserved hlater
  rw [← hrun] at hcontrol fate
  refine ⟨hcontrol, ?_⟩
  cases fate with
  | kept hosts' lookup' =>
    have hkept : r.zone.lookup name = some subnet.reserved := lookup'.trans lookup
    rw [hosts] at hosts'
    have hnone : r.hosts.get? name = none ↔ found.hosts.get? name = none := by
      rw [← Option.not_isSome_iff_eq_none, ← Option.not_isSome_iff_eq_none, hosts']
    exact ⟨⟨fun h => hnone.mp h.1, fun h => ⟨hnone.mpr h, hkept⟩⟩, fun h => .inl ⟨mt hnone.mp h, hkept⟩⟩
  | withdrawn here gone unknown =>
    rw [hosts] at here
    have hgone : r.hosts.get? name = none :=
      Option.not_isSome_iff_eq_none.mp (by rw [gone]; exact Bool.false_ne_true)
    have hfound : found.hosts.get? name ≠ none := Option.isSome_iff_ne_none.mp here
    refine ⟨⟨?_, fun h => absurd h hfound⟩, fun _ => .inr ⟨hgone, unknown⟩⟩
    intro h
    rw [unknown] at h
    cases h.2

/-- Another host is there when the control interface is published. -/
def beside : List Step := [creating "a.test" .clear]

/-- It goes, and the name of the control interface is refused to others. -/
def refused : List Step := [creating "balancer.test" .clear, ⟨.delete "a.test", .clear⟩]

theorem balancer_reserved :
    HostName.normalize "Balancer.test." = .ok "balancer.test" ∧
      (∀ step ∈ refused, step.operation.published? = none ∧ step.operation ≠ .closeAll) ∧
      ((History.start smallSubnet (.ofSeconds 60)).run
        (beside ++ ⟨.publish "Balancer.test.", .clear⟩ :: refused)).registry.zone.lookup "balancer.test" =
        some smallSubnet.reserved := by
  have hname : HostName.normalize "Balancer.test." = .ok "balancer.test" := by rfl
  have hsteps : ∀ step ∈ refused, step.operation.published? = none ∧ step.operation ≠ .closeAll := by
    simp [refused, creating, Operation.published?]
  have hrun := run_reservation smallSubnet (.ofSeconds 60) beside refused .clear hname hsteps
  exact ⟨hname, hsteps, (hrun.2.1.mpr (by rfl)).2⟩

/-- A host that is published for the control interface stays a host, and its end takes the name out of the zone. -/
theorem takenName_withdrawn :
    let published := [creating "api.test" .clear, ⟨.publish "api.test", .clear⟩]
    ((History.start smallSubnet (.ofSeconds 60)).run published).registry.hosts.get? "api.test" ≠ none ∧
      ((History.start smallSubnet (.ofSeconds 60)).run (published ++ [⟨.delete "api.test", .clear⟩])).registry.zone.lookup
        "api.test" = none := by
  exact ⟨Option.isSome_iff_ne_none.mp (by rfl), by rfl⟩

end Gatehouse.Registry
