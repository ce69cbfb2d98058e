import Gatehouse.Proofs.Dns.Zone
import Gatehouse.Proofs.Registry.Invariant

/-!
The registry and its zone. Main statement: `run_zone_exact`, by which in every state of a run that publishes
the control interface at most once, before anything else, the records of the zone are those of the control
interface and of the hosts, and no others.
-/

namespace Gatehouse.Registry

open Net

/-! ## Names and their addresses -/

/-- Whether a name stands for an address: the control interface for the reserved address, or a host for the
address that it holds. -/
def Stands (r : Registry) (name : Text) (ip : Ipv4) : Prop :=
  (r.controlHost = some name ∧ ip = r.subnet.reserved) ∨ r.Holds name ip

variable {r r' : Registry} {host name : Text} {entry : Entry} {ip : Ipv4} {calls told : List Call}
  {control : Option Text} {domains domains' : List Text}

theorem Registers.subset (registers : Registers domains host domains' told) : domains ⊆ domains' := by
  cases registers with
  | known _ _ => exact List.Subset.refl _
  | new _ _ _ => exact List.subset_append_left _ _

theorem Registers.last_mem (registers : Registers domains host domains' told) :
    ∃ domain ∈ domains', HostName.domain? host = some domain := by
  cases registers with
  | known last there => exact ⟨_, there, last⟩
  | new _ last _ => exact ⟨_, List.mem_append_right _ (List.mem_singleton_self _), last⟩

/-! ## The invariant -/

/-- The zone records what names stand for, and nothing else. -/
structure Agrees (control : Option Text) (r : Registry) : Prop where
  control_eq : r.controlHost = control
  records : ∀ name ip, (name, ip) ∈ r.zone.hosts ↔ r.Stands name ip
  functional : r.zone.Functional
  apart : ∀ {name ip}, r.Holds name ip → control ≠ some name
  canonical : ∀ {name ip}, r.Stands name ip → HostName.IsCanonical name
  registered : ∀ {name ip}, r.Stands name ip →
    ∃ domain ∈ r.zone.domains, HostName.domain? name = some domain

theorem agrees_empty (subnet : Subnet) (leaseLength : Duration) : Agrees none (empty subnet leaseLength) := by
  have nothing : ∀ {name ip}, ¬ (empty subnet leaseLength).Stands name ip := by
    intro name ip h'
    rcases h' with ⟨hcontrol, -⟩ | ⟨entry, hget, -⟩
    · cases hcontrol
    · cases hget
  refine ⟨?_, ?_, ?_, ?_, ?_, ?_⟩
  · rfl
  · exact fun name ip => iff_of_false List.not_mem_nil nothing
  · exact List.nodup_nil
  · exact fun hold => absurd (.inr hold) nothing
  · exact fun stand => absurd stand nothing
  · exact fun stand => absurd stand nothing

/-- A host that holds an address stands for this address only. -/
theorem Agrees.stands_iff (h : Agrees control r) (hold : r.Holds host ip) {ip' : Ipv4} :
    r.Stands host ip' ↔ ip' = ip := by
  obtain ⟨entry, hget, rfl⟩ := hold
  refine ⟨?_, ?_⟩
  · intro h'
    rcases h' with ⟨hcontrol, -⟩ | ⟨entry', hget', rfl⟩
    · rw [h.control_eq] at hcontrol
      exact absurd hcontrol (h.apart ⟨entry, hget, rfl⟩)
    · rw [hget] at hget'
      rw [Option.some.inj hget']
  · intro heq
    subst heq
    exact .inr ⟨entry, hget, rfl⟩

/-- What hosts hold, the control interface and the zone decide. -/
theorem Agrees.congr (h : Agrees control r) (zone : r'.zone = r.zone) (subnet : r'.subnet = r.subnet)
    (controlHost : r'.controlHost = r.controlHost) (holds : ∀ {name ip}, r'.Holds name ip ↔ r.Holds name ip) :
    Agrees control r' := by
  have stands : ∀ {name ip}, r'.Stands name ip ↔ r.Stands name ip := by
    intro name ip
    rw [Stands, Stands, controlHost, subnet, holds]
  refine ⟨?_, ?_, ?_, ?_, ?_, ?_⟩
  · rw [controlHost]
    exact h.control_eq
  · intro name ip
    rw [zone, stands]
    exact h.records name ip
  · rw [zone]
    exact h.functional
  · exact fun hold => h.apart (holds.mp hold)
  · exact fun stand => h.canonical (stands.mp stand)
  · rw [zone]
    exact fun stand => h.registered (stands.mp stand)

/-- Further domains do no harm. -/
theorem Agrees.register (h : Agrees control r) (registers : Registers r.zone.domains host domains told) :
    Agrees control { r with zone := { r.zone with domains } } where
  control_eq := h.control_eq
  records := h.records
  functional := h.functional
  apart := h.apart
  canonical := h.canonical
  registered stand := by
    obtain ⟨domain, hm, hlast⟩ := h.registered stand
    exact ⟨domain, registers.subset hm, hlast⟩

theorem Agrees.republish (h : Agrees control r) (hold : r.Holds host ip) :
    Agrees control (r.republish host ip) where
  control_eq := h.control_eq
  records name ip' := by
    refine (Dns.Zone.mem_set (h.canonical (.inr hold)).key_eq).trans ?_
    split
    · rename_i hname
      subst hname
      exact (h.stands_iff hold).symm
    · exact h.records name ip'
  functional := Dns.Zone.functional_set h.functional host ip
  apart := h.apart
  canonical := h.canonical
  registered := h.registered

/-! ## Changes -/

/-- A registry whose zone has one name more, set or new, agrees with it if this name stands for its address
and all others stand for what they stood for. -/
theorem Agrees.extend (h : Agrees control r) (canonical : HostName.IsCanonical host)
    (registers : Registers r.zone.domains host domains told) {control' : Option Text}
    (controlHost : r'.controlHost = control') (zone : r'.zone = Dns.Zone.set { r.zone with domains } host ip)
    (stands : ∀ {name ip'}, r'.Stands name ip' ↔ if name = host then ip' = ip else r.Stands name ip')
    (apart : ∀ {name ip'}, r'.Holds name ip' → control' ≠ some name) : Agrees control' r' := by
  have hknown := h.register registers
  refine ⟨controlHost, ?_, ?_, apart, ?_, ?_⟩
  · intro name ip'
    rw [zone, stands]
    apply (Dns.Zone.mem_set canonical.key_eq).trans
    split
    · exact Iff.rfl
    · exact h.records name ip'
  · rw [zone]
    exact Dns.Zone.functional_set hknown.functional host ip
  · intro name ip' stand
    have before := stands.mp stand
    split at before
    · rename_i hname
      rwa [hname]
    · exact h.canonical before
  · intro name ip' stand
    rw [zone]
    have before := stands.mp stand
    split at before
    · rename_i hname
      rw [hname]
      exact registers.last_mem
    · exact hknown.registered before

/-- A new host is recorded under its name, which the zone did not have. -/
theorem Agrees.openHost (h : Agrees control r) (canonical : HostName.IsCanonical host)
    (free : r.controlHost ≠ some host) (absent : r.hosts.get? host = none) (entry : Entry)
    (registers : Registers r.zone.domains host domains told) :
    Agrees control
      { r with zone := Dns.Zone.set { r.zone with domains } host entry.ip, hosts := r.hosts.insert host entry } := by
  refine Agrees.extend h canonical registers h.control_eq rfl ?_ ?_
  · intro name ip
    have holds := holds_put r host entry name ip
    split
    · rename_i hname
      subst hname
      rw [if_pos rfl] at holds
      exact (or_iff_right fun hcontrol => free hcontrol.1).trans holds
    · rename_i hname
      rw [if_neg hname] at holds
      exact or_congr_right holds
  · intro name ip hold
    have held := (holds_put r host entry name ip).mp hold
    split at held
    · rename_i hname
      rw [hname, ← h.control_eq]
      exact free
    · exact h.apart held

/-- A host that goes takes its record with it, and no other. -/
theorem Agrees.close (h : Agrees control r) (here : r.hosts.get? host = some entry) :
    Agrees control { r with hosts := r.hosts.erase host, zone := r.zone.remove host } := by
  have hold : r.Holds host entry.ip := ⟨entry, here, rfl⟩
  have stands : ∀ {name ip}, Stands { r with hosts := r.hosts.erase host, zone := r.zone.remove host } name ip ↔
      name ≠ host ∧ r.Stands name ip := by
    intro name ip
    have holds := holds_erase r host name ip
    -- a host is never the control interface, whose record therefore stays
    refine ⟨?_, ?_⟩
    · intro h'
      rcases h' with ⟨hcontrol, hip⟩ | hrest
      · refine ⟨?_, .inl ⟨hcontrol, hip⟩⟩
        intro heq
        subst heq
        exact h.apart hold (h.control_eq ▸ hcontrol)
      · exact ⟨(holds.mp hrest).1, .inr (holds.mp hrest).2⟩
    · intro h'
      rcases h' with ⟨hname, hcontrol | hrest⟩
      · exact .inl hcontrol
      · exact .inr (holds.mpr ⟨hname, hrest⟩)
  refine ⟨?_, ?_, ?_, ?_, ?_, ?_⟩
  · exact h.control_eq
  · intro name ip
    rw [stands, ← h.records]
    exact Dns.Zone.mem_remove (h.canonical (.inr hold)).key_eq
  · exact Dns.Zone.functional_remove h.functional host
  · exact fun held => h.apart ((holds_erase r host _ _).mp held).2
  · exact fun stand => h.canonical (stands.mp stand).2
  · exact fun stand => h.registered (stands.mp stand).2

theorem Opening.agrees (o : Opening r calls r') (h : Agrees control r) : Agrees control r' := by
  cases o with
  | retarget route here _ => exact h.congr rfl rfl rfl (holds_put_same here _ _)
  | renew lease here => exact h.congr rfl rfl rfl (holds_put_same here lease _)
  | openPort route here _ => exact h.congr rfl rfl rfl (holds_put_same here _ _)
  | republish here => exact h.republish ⟨_, here, rfl⟩
  | openHost now port route canonical free absent _ registers =>
    exact h.openHost canonical free absent ⟨_, now, Table.insert port route []⟩ registers
  | rollBack _ _ _ _ registers => exact h.register registers
  | aliasRefused _ => exact h
  | listenRefused _ _ => exact h

theorem Closing.agrees (c : Closing r calls r') (h : Agrees control r) : Agrees control r' := by
  cases c with
  | close here => exact h.close here
  | keep here => exact h.congr rfl rfl rfl (holds_put_same here _ _)

/-! ## Runs -/

/-- Whether an operation is one on endpoints, which neither publishes the control interface nor ends the run. -/
def Operation.OnEndpoints : Operation → Prop
  | .publish _ | .closeAll => False
  | _ => True

theorem next_agrees {s : History} {step : Step} (hop : step.operation.OnEndpoints)
    (hs : s.registry.hosts.Sorted) (h : Agrees control s.registry) : Agrees control (s.next step).registry := by
  have opening : ∀ {calls r'}, Chain Opening s.registry calls r' → Agrees control r' :=
    fun chain => chain.keeps (fun _ _ _ hi o => Opening.agrees o hi) h
  have closing : ∀ {calls r'}, Chain Closing s.registry calls r' → Agrees control r' :=
    fun chain => chain.keeps (fun _ _ _ hi c => Closing.agrees c hi) h
  obtain ⟨op, w⟩ := step
  cases op with
  | create now host port target => exact opening (create_chain s.registry w now host port target)
  | attach host port scheme target => exact opening (attach_chain s.registry w host port scheme target)
  | delete host => exact closing (delete_chain s.registry w host)
  | expire now => exact closing (expire_chain w now hs)
  | publish host => exact hop.elim
  | closeAll => exact hop.elim

/-- Publishing first, before there are hosts, records the control interface alone. -/
theorem publish_agrees (subnet : Subnet) (leaseLength : Duration) (w : Conditions) (host : Text) :
    Agrees (HostName.normalize host).toOption ((empty subnet leaseLength).publish w host).after := by
  have nothing := agrees_empty subnet leaseLength
  rcases publish_cases (empty subnet leaseLength) w host with
    ⟨e, hname, heq⟩ | ⟨name, domains, told, hname, registers, heq⟩
  · rw [heq, hname]
    exact nothing
  · rw [heq, hname]
    refine Agrees.extend nothing (HostName.isCanonical_of_normalize hname) registers rfl rfl ?_ ?_
    · intro name' ip
      refine ⟨?_, ?_⟩
      · intro stand
        rcases stand with ⟨hcontrol, hip⟩ | ⟨entry, hget, -⟩
        · rw [if_pos (Option.some.inj hcontrol).symm]
          exact hip
        · cases hget
      · intro before
        split at before
        · rename_i hname
          exact .inl ⟨congrArg some hname.symm, before⟩
        · rcases before with ⟨hcontrol, -⟩ | ⟨entry, hget, -⟩
          · cases hcontrol
          · cases hget
    · intro name' ip hold
      obtain ⟨entry, hget, -⟩ := hold
      cases hget

/-- The step that publishes the control interface, if one does. -/
def publication (published : Option (Text × Conditions)) : List Step :=
  (published.map fun p => ⟨.publish p.1, p.2⟩).toList

theorem run_agrees (subnet : Subnet) (leaseLength : Duration) (published : Option (Text × Conditions))
    {steps : List Step} (h : ∀ step ∈ steps, step.operation.OnEndpoints) :
    Agrees (published.bind fun p => (HostName.normalize p.1).toOption)
      ((History.start subnet leaseLength).run (publication published ++ steps)).registry := by
  have first := run_consistent subnet leaseLength (publication published)
  have opened : Agrees (published.bind fun p => (HostName.normalize p.1).toOption)
      ((History.start subnet leaseLength).run (publication published)).registry := by
    cases published with
    | none => exact agrees_empty subnet leaseLength
    | some p => exact publish_agrees subnet leaseLength p.2 p.1
  rw [History.run_append]
  -- the order of hosts, which sweeps need, comes from the other invariant
  refine (History.run_keeps
    (I := fun s => Consistent subnet s.registry s.calls ∧ Agrees _ s.registry)
    (P := fun step => step.operation.OnEndpoints) ?_ ⟨first, opened⟩ h).2
  intro s step hop hi
  exact ⟨next_consistent hi.1 step, next_agrees hop hi.1.sound.hosts hi.2⟩

/-- In every state of a run that publishes the control interface at most once, before any operation on
endpoints: every name has at most one record in the zone; the records are that of the control interface, if
its name was accepted, at the reserved address, and those of all hosts at their addresses; the control
interface is no host; and the last label of every recorded name is a registered domain. -/
theorem run_zone_exact (subnet : Subnet) (leaseLength : Duration) (published : Option (Text × Conditions))
    (steps : List Step) (h : ∀ step ∈ steps, step.operation.OnEndpoints) :
    let r := ((History.start subnet leaseLength).run (publication published ++ steps)).registry
    let control := published.bind fun p => (HostName.normalize p.1).toOption
    ((r.zone.hosts.map (·.1)).Nodup ∧ ∀ name ip, (name, ip) ∈ r.zone.hosts ↔
      (control = some name ∧ ip = subnet.reserved) ∨
        ∃ entry, r.hosts.get? name = some entry ∧ entry.ip = ip) ∧
    (r.controlHost = control ∧ ∀ name, control = some name → r.hosts.get? name = none) ∧
    ∀ name ip, (name, ip) ∈ r.zone.hosts →
      ∃ label, (Text.split '.' name).getLast? = some label ∧ r.zone.isRegistered label = true := by
  intro r control
  have hsubnet : r.subnet = subnet := (run_consistent subnet leaseLength _).subnet_eq
  have hagrees : Agrees control r := run_agrees subnet leaseLength published h
  refine ⟨⟨hagrees.functional, ?_⟩, ⟨hagrees.control_eq, ?_⟩, ?_⟩
  · intro name ip
    rw [hagrees.records, Stands, hagrees.control_eq, hsubnet]
    exact Iff.rfl
  · intro name hcontrol
    cases hget : r.hosts.get? name with
    | none => rfl
    | some entry => exact absurd hcontrol (hagrees.apart ⟨entry, hget, rfl⟩)
  · intro name ip hm
    have stand := (hagrees.records name ip).mp hm
    have canonical := hagrees.canonical stand
    obtain ⟨domain, hdomain, hlast⟩ := hagrees.registered stand
    obtain ⟨label, hlabel, hlabelLast, hlabelDomain⟩ := HostName.domain?_eq canonical
    -- the domain that was registered is the last label
    obtain rfl : label = domain := Option.some.inj (hlabelDomain.symm.trans hlast)
    refine ⟨label, hlabelLast, ?_⟩
    rw [Dns.Zone.isRegistered, HostName.zoneKey_label canonical hlabel]
    exact List.contains_iff_mem.mpr hdomain

/-- A host is created, and the system does not take its address back when it is deleted. -/
def undeleted : List Step := [creating "a.test" .clear, ⟨.delete "A.Test.", .holding⟩]

theorem undeleted_recorded :
    (∀ step ∈ undeleted, step.operation.OnEndpoints) ∧
      (("a.test" : Text), Ipv4.ofOctets 127 1 0 2) ∈ ((History.start smallSubnet (.ofSeconds 60)).run
        (publication (some ("balancer.test", .clear)) ++ undeleted)).registry.zone.hosts := by
  have hsteps : ∀ step ∈ undeleted, step.operation.OnEndpoints := by
    simp [undeleted, creating, Operation.OnEndpoints]
  have hrun := run_zone_exact smallSubnet (.ofSeconds 60) (some ("balancer.test", .clear)) undeleted hsteps
  exact ⟨hsteps, (hrun.1.2 _ _).mpr (.inr ⟨_, rfl, rfl⟩)⟩

end Gatehouse.Registry
