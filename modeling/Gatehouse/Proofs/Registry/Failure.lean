import Gatehouse.Proofs.Dns.Answer
import Gatehouse.Proofs.Registry.Invariant
import Gatehouse.Proofs.Registry.Outcome

/-!
Operations that fail. Main statements: `run_failures`, by which attaching that fails changes nothing, and
creating that fails keeps all endpoints unless it diverts an open port; and `create_domains`, by which it
keeps the registered domains unless it was about to open the first host of a domain.
-/

namespace Gatehouse.Registry

open Net

/-! ## Two exceptions -/

/-- The creation would send an open port elsewhere, but there is no end to its lease. -/
def Diverts (r : Registry) (now : Time) (host : Text) (port : Nat) (target : Text) : Prop :=
  ∃ name route old fault, Asks r host port target name route ∧ r.route? name port = some old ∧ route ≠ old ∧
    leaseEnd now r.leaseLength = .error fault

/-- The creation is that of a host under a domain that was not registered, and the first listener of the host
does not start. -/
def TakesOver (r : Registry) (host : Text) (fault : Fault) (domain : Text) : Prop :=
  ∃ name address cause, HostName.normalize host = .ok name ∧ r.hosts.get? name = none ∧
    HostName.domain? name = some domain ∧ domain ∉ r.zone.domains ∧ fault = .bind address cause

/-- The hosts are the same, with their addresses, leases and routes, and so are the addresses under which
names are known. -/
structure SameEndpoints (r r' : Registry) : Prop where
  hosts : r'.hosts = r.hosts
  lookup : ∀ name, r'.zone.lookup name = r.zone.lookup name

variable {r : Registry} {w : Conditions} {now : Time} {host name target : Text} {port : Nat} {route old : Route}
  {fault : Fault} {o : Outcome Endpoint}

/-! ## Endpoints -/

theorem create_of_leaseRefused (w : Conditions) (asks : Asks r host port target name route)
    (refused : leaseEnd now r.leaseLength = .error fault) :
    r.create w now host port target = .refuse (r.retarget name port route) fault := by
  rw [create_of_asks w now asks, grant, leaseLength_retarget, refused]

theorem route?_retarget (runs : r.route? name port = some old) (route : Route) :
    (r.retarget name port route).route? name port = some route := by
  rw [retarget_of_isSome (Option.isSome_of_eq_some runs)]
  cases here : r.hosts.get? name with
  | none => simp [route?, here] at runs
  | some entry =>
    rw [setRoute_eq_put here, route?, get?_put_self, Option.bind_some, Table.get?_insert_self]

theorem zone_retarget (r : Registry) (host : Text) (port : Nat) (route : Route) :
    (r.retarget host port route).zone = r.zone := by
  simp only [retarget, setRoute]
  split
  · split <;> rfl
  · rfl

/-- Setting a route that is set already changes nothing. -/
theorem retarget_of_route? (hs : Sound r) (runs : r.route? name port = some route) :
    r.retarget name port route = r := by
  rw [retarget_of_isSome (Option.isSome_of_eq_some runs)]
  cases here : r.hosts.get? name with
  | none => simp [route?, here] at runs
  | some entry =>
    rw [route?, here, Option.bind_some] at runs
    rw [setRoute_eq_put here, put, Table.insert_of_get? (hs.ports here) runs, Table.insert_of_get? hs.hosts here]

theorem Creation.sameEndpoints (c : Creation r w now host port target o) (hs : Sound r)
    (failed : o.result = .error fault) (stays : ¬ r.Diverts now host port target) : SameEndpoints r o.after := by
  cases c with
  | unread _ => exact ⟨rfl, fun _ => rfl⟩
  | @leaseRefused name route fault asks refused =>
    have same : r.retarget name port route = r := by
      cases runs : r.route? name port with
      | none => exact retarget_of_none runs
      | some old =>
        by_cases heq : route = old
        · exact retarget_of_route? hs (heq ▸ runs)
        · exact absurd ⟨name, route, old, fault, asks, runs, heq, refused⟩ stays
    simp only [Outcome.refuse, same]
    exact ⟨rfl, fun _ => rfl⟩
  | exhausted _ _ _ _ => exact ⟨rfl, fun _ => rfl⟩
  | aliasRefused _ _ _ _ _ => exact ⟨rfl, fun _ => rfl⟩
  | hostRefused _ _ _ _ _ _ _ => exact ⟨rfl, fun _ => rfl⟩
  | portRefused _ _ _ _ _ => exact ⟨rfl, fun _ => rfl⟩
  | renewed _ _ _ _ => cases failed
  | openedPort _ _ _ _ _ => cases failed
  | openedHost _ _ _ _ _ _ _ => cases failed

theorem Attachment.after_of_failed {scheme : Text} (a : Attachment r w host port scheme target o)
    (failed : o.result = .error fault) : o.after = r := by
  cases a with
  | refused _ => rfl
  | portRefused _ _ _ => rfl
  | retargeted _ _ _ => cases failed
  | opened _ _ _ => cases failed

/-- A creation that diverts a port gives it the route and changes nothing else. -/
theorem create_of_diverts (w : Conditions) (h : r.Diverts now host port target) :
    ∃ name route entry, Asks r host port target name route ∧ r.hosts.get? name = some entry ∧
      (r.create w now host port target).after =
        r.put name { entry with listeners := entry.listeners.insert port route } := by
  obtain ⟨name, route, old, fault, asks, runs, -, refused⟩ := h
  cases here : r.hosts.get? name with
  | none => simp [route?, here] at runs
  | some entry =>
    refine ⟨name, route, entry, asks, here, ?_⟩
    rw [create_of_leaseRefused w asks refused, ← setRoute_eq_put here]
    exact retarget_of_isSome (Option.isSome_of_eq_some runs)

theorem not_sameEndpoints_of_diverts (w : Conditions) (h : r.Diverts now host port target) :
    ¬ SameEndpoints r (r.create w now host port target).after := by
  obtain ⟨name, route, old, fault, asks, runs, hne, refused⟩ := h
  intro same
  have hroute := route?_retarget runs route
  rw [create_of_leaseRefused w asks refused] at same
  rw [route?, show (r.retarget name port route).hosts = r.hosts from same.hosts] at hroute
  exact hne (Option.some.inj (hroute.symm.trans runs))

/-! ## Domains -/

theorem not_takesOver (notBind : ∀ address cause, fault ≠ .bind address cause) (domain : Text) :
    ¬ r.TakesOver host fault domain := by
  intro h
  obtain ⟨name, address, cause, -, -, -, -, heq⟩ := h
  exact notBind address cause heq

theorem not_takesOver_of_here {entry : Entry} (name_eq : HostName.normalize host = .ok name)
    (here : r.hosts.get? name = some entry) (domain : Text) : ¬ r.TakesOver host fault domain := by
  intro h
  obtain ⟨name', address, cause, name_eq', absent, -, -, -⟩ := h
  obtain rfl : name = name' := Except.ok.inj (name_eq.symm.trans name_eq')
  rw [here] at absent
  cases absent

theorem leaseEnd_ne_bind {length : Duration} (h : leaseEnd now length = .error fault) (address : Socket)
    (cause : Text) : fault ≠ .bind address cause := by
  simp only [leaseEnd] at h
  split at h
  · cases h
  · obtain rfl := Except.error.inj h
    exact fun hbind => by cases hbind

/-- What a creation that fails does to the zone. -/
theorem Creation.zone_of_failed (c : Creation r w now host port target o) (failed : o.result = .error fault) :
    ((∀ domain, ¬ r.TakesOver host fault domain) ∧ o.after.zone = r.zone) ∨
      ∃ domain, r.TakesOver host fault domain ∧
        o.after.zone = { r.zone with domains := r.zone.domains ++ [domain] } := by
  cases c with
  | unread notBind =>
    obtain rfl := Except.error.inj failed
    exact .inl ⟨not_takesOver notBind, rfl⟩
  | @leaseRefused name route fault asks refused =>
    obtain rfl := Except.error.inj failed
    refine .inl ⟨not_takesOver (leaseEnd_ne_bind refused), ?_⟩
    exact zone_retarget r name port route
  | exhausted _ _ _ _ =>
    obtain rfl := Except.error.inj failed
    exact .inl ⟨not_takesOver fun _ _ hbind => (by cases hbind), rfl⟩
  | aliasRefused _ _ _ _ _ =>
    obtain rfl := Except.error.inj failed
    exact .inl ⟨not_takesOver fun _ _ hbind => (by cases hbind), rfl⟩
  | @hostRefused name route lease ip domains told cause asks _ absent _ _ registers _ =>
    obtain rfl := Except.error.inj failed
    cases registers with
    | @known domain last there =>
      refine .inl ⟨?_, rfl⟩
      intro domain' h
      obtain ⟨name', -, -, name_eq', -, last', unknown, -⟩ := h
      obtain rfl : name = name' := Except.ok.inj (asks.name_eq.symm.trans name_eq')
      rw [last] at last'
      exact unknown (Option.some.inj last' ▸ there)
    | @new domain done last unknown =>
      exact .inr ⟨domain, ⟨name, _, _, asks.name_eq, absent, last, unknown, rfl⟩, rfl⟩
  | portRefused asks _ here _ _ => exact .inl ⟨not_takesOver_of_here asks.name_eq here, rfl⟩
  | renewed _ _ _ _ => cases failed
  | openedPort _ _ _ _ _ => cases failed
  | openedHost _ _ _ _ _ _ _ => cases failed

theorem TakesOver.domain_eq {domain domain' : Text} (h : r.TakesOver host fault domain)
    (h' : r.TakesOver host fault domain') : domain = domain' := by
  obtain ⟨name, -, -, name_eq, -, last, -, -⟩ := h
  obtain ⟨name', -, -, name_eq', -, last', -, -⟩ := h'
  obtain rfl : name = name' := Except.ok.inj (name_eq.symm.trans name_eq')
  exact Option.some.inj (last.symm.trans last')

theorem TakesOver.unknown {domain : Text} (h : r.TakesOver host fault domain) : domain ∉ r.zone.domains := by
  obtain ⟨name, -, -, -, -, -, unknown, -⟩ := h
  exact unknown

/-- The domain that is taken over is a label in lower case, and lies in itself. -/
theorem TakesOver.domain_isLabel {domain : Text} (h : r.TakesOver host fault domain) :
    HostName.isLabel domain = true ∧ Text.lower domain = domain ∧ HostName.domain? domain = some domain := by
  obtain ⟨name, -, -, name_eq, -, last, -, -⟩ := h
  have canonical := HostName.isCanonical_of_normalize name_eq
  obtain ⟨label, hm, -, hlabel⟩ := HostName.domain?_eq canonical
  obtain rfl : label = domain := Option.some.inj (hlabel.symm.trans last)
  exact ⟨HostName.isLabel_of_mem canonical hm, HostName.lower_label canonical hm,
    HostName.domain?_label canonical hm⟩

/-- Whether names are managed changes with the first host of a domain, and only then. -/
theorem isManaged_iff (failed : (r.create w now host port target).result = .error fault) :
    (∀ name, (r.create w now host port target).after.zone.isManaged name = r.zone.isManaged name) ↔
      ∀ domain, ¬ r.TakesOver host fault domain := by
  rcases (create_creation r w now host port target).zone_of_failed failed with ⟨hno, hzone⟩ | ⟨domain, htakes, hzone⟩
  · rw [hzone]
    exact iff_of_true (fun _ => rfl) hno
  · refine iff_of_false ?_ fun hno => hno domain htakes
    intro same
    have hdomain := same domain
    rw [hzone] at hdomain
    simp [Dns.Zone.isManaged, htakes.domain_isLabel.2.2, htakes.unknown] at hdomain

/-- No query is kept from the other name server that was passed on to it before. -/
def KeepsForwarding (zone zone' : Dns.Zone) : Prop :=
  ∀ ttl forwarder datagram, (Dns.Server.handle zone ttl forwarder datagram).forwarded.isSome →
    (Dns.Server.handle zone' ttl forwarder datagram).forwarded.isSome

theorem TakesOver.not_keepsForwarding {domain : Text} (h : r.TakesOver host fault domain) :
    ¬ KeepsForwarding r.zone { r.zone with domains := r.zone.domains ++ [domain] } := by
  obtain ⟨hlabel, hlower, hself⟩ := h.domain_isLabel
  obtain ⟨datagram, hasks, hforwarded⟩ := Dns.Server.exists_asksIn hlabel hlower hself
  intro keeps
  have hbefore := hforwarded r.zone h.unknown 0
  have hafter := keeps 0 (.delivers []) datagram (Option.isSome_of_eq_some hbefore)
  rw [Dns.Server.forwarded_of_asksIn hasks (List.mem_append_right _ (List.mem_singleton_self domain))] at hafter
  cases hafter

/-- A creation that fails keeps the registered domains, and with them what becomes of every query, unless it
is that of a host under a new domain whose listener does not start. In that case the domain is registered; from
then on no query for the address of a name in it is passed on, and what becomes of all other queries is as
before. -/
theorem create_domains (failed : (r.create w now host port target).result = .error fault) :
    let zone := (r.create w now host port target).after.zone
    (zone.domains = r.zone.domains ↔ ∀ domain, ¬ r.TakesOver host fault domain) ∧
    (KeepsForwarding r.zone zone ↔ ∀ domain, ¬ r.TakesOver host fault domain) ∧
    ((∀ domain, ¬ r.TakesOver host fault domain) → zone = r.zone) ∧
    ∀ domain, r.TakesOver host fault domain → zone.domains = r.zone.domains ++ [domain] ∧
      ∀ ttl forwarder datagram,
        (Dns.Server.AsksIn domain datagram → (Dns.Server.handle zone ttl forwarder datagram).forwarded = none) ∧
        (¬ Dns.Server.AsksIn domain datagram →
          Dns.Server.handle zone ttl forwarder datagram = Dns.Server.handle r.zone ttl forwarder datagram) := by
  intro zone
  rcases (create_creation r w now host port target).zone_of_failed failed with ⟨hno, hzone⟩ | ⟨domain, htakes, hzone⟩
  · have hzone : zone = r.zone := hzone
    rw [hzone]
    refine ⟨iff_of_true rfl hno, iff_of_true (fun _ _ _ h => h) hno, fun _ => rfl, ?_⟩
    exact fun domain h => absurd h (hno domain)
  · have hzone : zone = { r.zone with domains := r.zone.domains ++ [domain] } := hzone
    have htaken : ¬ ∀ domain, ¬ r.TakesOver host fault domain := fun hno => hno domain htakes
    have hmem : domain ∈ r.zone.domains ++ [domain] := List.mem_append_right _ (List.mem_singleton_self domain)
    rw [hzone]
    refine ⟨iff_of_false ?_ htaken, iff_of_false htakes.not_keepsForwarding htaken, fun hno => absurd hno htaken, ?_⟩
    · exact fun heq => htakes.unknown (heq ▸ hmem)
    · intro domain' h
      obtain rfl := h.domain_eq htakes
      refine ⟨rfl, ?_⟩
      intro ttl forwarder datagram
      exact ⟨fun hasks => Dns.Server.forwarded_of_asksIn hasks hmem ttl forwarder,
        fun hother => Dns.Server.handle_append hother ttl forwarder⟩

/-- The first host of `test` is created in an empty registry, but its listener does not start. -/
def failedOpening : Outcome Endpoint :=
  (empty smallSubnet (.ofSeconds 60)).create .occupied 0 "a.test" 80 "http://127.0.0.1:3000"

theorem failedOpening_domains :
    failedOpening.result = .error (.bind (Socket.ofIpv4 (.ofOctets 127 1 0 2) 80) "in use") ∧
      failedOpening.after.zone.domains = ["test".toList] := by
  have failed : failedOpening.result =
      .error (.bind (Socket.ofIpv4 (.ofOctets 127 1 0 2) 80) "in use") := rfl
  obtain ⟨-, -, -, hdomains⟩ := create_domains failed
  have takes : (empty smallSubnet (.ofSeconds 60)).TakesOver "a.test"
      (.bind (Socket.ofIpv4 (.ofOctets 127 1 0 2) 80) "in use") "test" :=
    ⟨"a.test".toList, _, _, by decide +kernel, rfl, by decide +kernel, List.not_mem_nil, rfl⟩
  exact ⟨failed, (hdomains "test" takes).1⟩

/-- The name `b.test`. -/
def nameOfB : Dns.Name := [[0x62], [0x74, 0x65, 0x73, 0x74]]

/-- After the failure a query for the address of `b.test` is not passed on, which it was before. -/
theorem failedOpening_takes_domain :
    let query := Dns.asking 0x1234 (Dns.Server.addressOf nameOfB)
    failedOpening.fault?.isSome = true ∧
      failedOpening.after.zone.domains ≠ (empty smallSubnet (.ofSeconds 60)).zone.domains ∧
      (Dns.Server.handle (empty smallSubnet (.ofSeconds 60)).zone 5 (.delivers []) query).forwarded = some query ∧
      (Dns.Server.handle failedOpening.after.zone 5 (.delivers []) query).forwarded = none := by
  have hfits : Dns.Name.Fits nameOfB := ⟨by decide, by decide⟩
  obtain ⟨query, hdecode, asks⟩ := Dns.Server.exists_asks hfits 0x1234
  refine ⟨by decide +kernel, by decide +kernel, ?_, ?_⟩
  · have hunknown : (empty smallSubnet (.ofSeconds 60)).zone.isManaged (Dns.Name.text nameOfB) = false := by decide +kernel
    rw [Dns.Server.handle_of_unmanaged asks hdecode 5 _ hunknown]
    exact Dns.Server.sent?_asking (q := Dns.Server.addressOf nameOfB) hfits 0x1234 []
  · have hknown : failedOpening.after.zone.isManaged (Dns.Name.text nameOfB) = true := by decide +kernel
    obtain ⟨reply, -, -, heq⟩ := Dns.Server.handle_of_managed asks hdecode 5 (.delivers []) hknown
    rw [heq]

/-! ## Runs -/

/-- In every state of every run: a creation that fails leaves all endpoints and the addresses of all names as
they were, unless it diverts an open port, in which case the route of this port is all that changes; names are
managed as they were, unless it takes a domain over; and attaching that fails changes nothing. -/
theorem run_failures (subnet : Subnet) (leaseLength : Duration) (steps : List Step) :
    let r := ((History.start subnet leaseLength).run steps).registry
    (∀ w now host port target fault, (r.create w now host port target).result = .error fault →
      let after := (r.create w now host port target).after
      (SameEndpoints r after ↔ ¬ r.Diverts now host port target) ∧
      (r.Diverts now host port target → ∃ name route entry, Asks r host port target name route ∧
        r.hosts.get? name = some entry ∧
        after = r.put name { entry with listeners := entry.listeners.insert port route }) ∧
      ((∀ name, after.zone.isManaged name = r.zone.isManaged name) ↔
        ∀ domain, ¬ r.TakesOver host fault domain)) ∧
    ∀ w host port scheme target fault, (r.attach w host port scheme target).result = .error fault →
      (r.attach w host port scheme target).after = r := by
  intro r
  have hs : Sound r := (run_consistent subnet leaseLength steps).sound
  refine ⟨?_, ?_⟩
  · intro w now host port target fault failed after
    refine ⟨⟨?_, ?_⟩, create_of_diverts w, isManaged_iff failed⟩
    · exact fun same diverts => not_sameEndpoints_of_diverts w diverts same
    · exact (create_creation r w now host port target).sameEndpoints hs failed
  · intro w host port scheme target fault failed
    exact (attach_attachment r w host port scheme target).after_of_failed failed

/-- A host is created whose lease ends at the last point in time that has a date. -/
def lastLease : List Step := [⟨.create (Time.last - 60 * Time.second) "a.test" 80 "http://127.0.0.1:3000", .clear⟩]

/-- The registry with this host. -/
def endOfTime : Registry := ((History.start smallSubnet (.ofSeconds 60)).run lastLease).registry

/-- Nothing is left of time for a renewal of the host. -/
def lateRenewal : Outcome Endpoint :=
  endOfTime.create .clear (Time.last - 60 * Time.second + 1) "a.test" 80 "127.0.0.1:4000"

/-- The renewal fails and diverts the port; attaching a port that is taken fails and changes nothing. -/
theorem lateRenewal_diverts :
    endOfTime.Diverts (Time.last - 60 * Time.second + 1) "a.test" 80 "127.0.0.1:4000" ∧
      (endOfTime.attach .occupied "a.test" 81 "tcp" "127.0.0.1:4000").result =
        .error (.bind (Socket.ofIpv4 (.ofOctets 127 1 0 2) 81) "in use") ∧
      (endOfTime.attach .occupied "a.test" 81 "tcp" "127.0.0.1:4000").after = endOfTime := by
  obtain ⟨hcreate, hattach⟩ := run_failures smallSubnet (.ofSeconds 60) lastLease
  have refused : lateRenewal.result = .error (.internal "lease of 60s is out of range") := rfl
  have taken : (endOfTime.attach .occupied "a.test" 81 "tcp" "127.0.0.1:4000").result =
      .error (.bind (Socket.ofIpv4 (.ofOctets 127 1 0 2) 81) "in use") := rfl
  refine ⟨?_, taken, hattach _ _ _ _ _ _ taken⟩
  by_contra stays
  have same := (hcreate _ _ _ _ _ _ refused).1.mpr stays
  have moved : (lateRenewal.after.route? "a.test" 80).map (·.render) ≠
      (endOfTime.route? "a.test" 80).map (·.render) := by decide +kernel
  refine moved ?_
  rw [route?, route?, show lateRenewal.after.hosts = endOfTime.hosts from same.hosts]

/-- The port is sent to another target by the renewal that failed, and a host that is not created takes the
names of its domain. -/
theorem failures_leave_traces :
    (lateRenewal.fault? = some (.internal "lease of 60s is out of range") ∧
      endOfTime.list.map (·.route.render) = ["http://127.0.0.1:3000".toList] ∧
      lateRenewal.after.list.map (·.route.render) = ["http://127.0.0.1:4000".toList]) ∧
    failedOpening.fault?.isSome = true ∧
      (empty smallSubnet (.ofSeconds 60)).zone.isManaged "b.test" = false ∧
      failedOpening.after.zone.isManaged "b.test" = true := by
  decide +kernel

end Gatehouse.Registry
