import Gatehouse.Proofs.Registry.Change

/-!
Creating, renewing and attaching. Main statements: `create_chain` and `attach_chain`, by which both
operations are chains of `Opening`s, whatever the system refuses.
-/

namespace Gatehouse.Registry

open Net

/-! ## Parts of operations -/

theorem setRoute_eq_put {r : Registry} {host : Text} {entry : Entry} (here : r.hosts.get? host = some entry)
    (port : Nat) (route : Route) :
    r.setRoute host port route =
      r.put host { entry with listeners := entry.listeners.insert port route } := by
  simp only [setRoute, here, put]

theorem setLease_chain (r : Registry) (host : Text) (lease : Time) :
    Chain Opening r [] (r.setLease host lease) := by
  cases here : r.hosts.get? host with
  | none =>
    simp only [setLease, here]
    exact .nil r
  | some entry =>
    have h := Chain.single (Opening.renew lease here)
    simpa only [setLease, here, put] using h

theorem registerDomain_ok (r : Registry) (w : Conditions) {host : Text} (name : HostName.IsCanonical host) :
    ∃ domains told, Registers r.zone.domains host domains told ∧
      r.registerDomain w host = .ok ({ r with zone := { r.zone with domains } }, told) := by
  obtain ⟨domain, hm, -, hlast⟩ := HostName.domain?_eq name
  -- the domain is registered under its own name, not under another spelling
  have hkey := HostName.zoneKey_label name hm
  simp only [registerDomain, hlast, Dns.Zone.register, hkey]
  by_cases hknown : domain ∈ r.zone.domains
  · refine ⟨_, _, .known hlast hknown, ?_⟩
    rw [if_pos hknown]
    rfl
  · refine ⟨_, _, .new (w.point domain).isNone hlast hknown, ?_⟩
    rw [if_neg hknown]
    rfl

theorem startListener_cases (w : Conditions) (ip : Ipv4) (port : Nat) :
    (∃ e, startListener w ip port = (.error e, .listen ip port false)) ∨
      startListener w ip port = (.ok (), .listen ip port true) := by
  simp only [startListener]
  split
  · exact .inl ⟨_, rfl⟩
  · exact .inr rfl

theorem openHost_chain (r : Registry) (w : Conditions) (now : Time) {host : Text} (port : Nat)
    (route : Route) (name : HostName.IsCanonical host) (free : r.controlHost ≠ some host)
    (absent : r.hosts.get? host = none) :
    Chain Opening r (r.openHost w now host port route).calls (r.openHost w now host port route).after := by
  simp only [openHost]
  split
  · exact .nil r
  · rename_i ip found
    split
    · exact .single (.aliasRefused found)
    · obtain ⟨domains, told, registers, hregister⟩ := registerDomain_ok r w name
      rw [hregister]
      rcases startListener_cases w ip port with ⟨e, hstart⟩ | hstart
      · simp only [hstart, releaseAlias]
        exact .single (.rollBack port _ name found registers)
      · simp only [hstart]
        exact .single (.openHost now port route name free absent found registers)

theorem openPort_cases {r : Registry} (w : Conditions) {host : Text} {entry : Entry} (port : Nat)
    (route : Route) (here : r.hosts.get? host = some entry) :
    (∃ e, r.openPort w host entry.ip port route = ⟨.error e, r, [.listen entry.ip port false]⟩) ∨
      r.openPort w host entry.ip port route =
        ⟨.ok (), r.put host { entry with listeners := entry.listeners.insert port route },
          [.listen entry.ip port true]⟩ := by
  rcases startListener_cases w entry.ip port with ⟨e, hstart⟩ | hstart
  · exact .inl ⟨e, by simp only [openPort, hstart]⟩
  · exact .inr (by simp only [openPort, hstart, setRoute_eq_put here])

theorem openPort_chain {r : Registry} (w : Conditions) {host : Text} {entry : Entry} {port : Nat}
    (route : Route) (here : r.hosts.get? host = some entry) (idle : entry.listeners.get? port = none) :
    Chain Opening r (r.openPort w host entry.ip port route).calls
      (r.openPort w host entry.ip port route).after := by
  rcases openPort_cases w port route here with ⟨e, hopen⟩ | hopen
  · rw [hopen]
    exact .single (.listenRefused entry.ip port)
  · rw [hopen]
    exact .single (.openPort route here idle)

theorem Outcome.reporting_calls (o : Outcome Unit) (host : Text) (port : Nat) :
    (o.reporting host port).calls = o.calls := by
  simp only [reporting]
  split <;> rfl

theorem Outcome.reporting_after (o : Outcome Unit) (host : Text) (port : Nat) :
    (o.reporting host port).after = o.after := by
  simp only [reporting]
  split <;> rfl

theorem Outcome.andThen_chain {r : Registry} {o : Outcome Unit} {change : Registry → Registry}
    (h : Chain Opening r o.calls o.after)
    (hc : o.result = .ok () → Chain Opening o.after [] (change o.after)) :
    Chain Opening r (o.andThen change).calls (o.andThen change).after := by
  simp only [andThen]
  split
  · exact h
  · rename_i hok
    have := h.append (hc hok)
    rwa [List.append_nil] at this

/-! ## Operations -/

theorem retarget_chain (r : Registry) (host : Text) (port : Nat) (route : Route) :
    Chain Opening r [] (r.retarget host port route) := by
  simp only [retarget]
  split
  · rename_i runs
    cases here : r.hosts.get? host with
    | none => simp [route?, here] at runs
    | some entry =>
      -- the route that was found is that of the port of this entry
      rw [route?, here, Option.bind_some] at runs
      rw [setRoute_eq_put here]
      exact .single (.retarget route here runs)
  · exact .nil r

theorem openMissing_chain (r : Registry) (w : Conditions) (now : Time) {host : Text} (port : Nat)
    (route : Route) (name : HostName.IsCanonical host) (free : r.controlHost ≠ some host) :
    Chain Opening r (r.openMissing w now host port route).calls
      (r.openMissing w now host port route).after := by
  simp only [openMissing]
  split
  · rename_i absent
    exact openHost_chain r w now port route name free absent
  · rename_i entry here
    split
    · exact .nil r
    · rename_i idle
      refine Outcome.andThen_chain (openPort_chain w route here idle) ?_
      intro hok
      rcases openPort_cases w port route here with ⟨e, hopen⟩ | hopen
      · rw [hopen] at hok
        cases hok
      · -- the host is there when its name is published, with the port that was opened
        rw [hopen]
        have here' : (r.put host { entry with listeners := entry.listeners.insert port route }).hosts.get?
            host = some { entry with listeners := entry.listeners.insert port route } := get?_put_self r host _
        have published := Opening.republish here'
        exact .single published

theorem grant_chain (r : Registry) (w : Conditions) (now : Time) {host : Text} (port : Nat) (route : Route)
    (name : HostName.IsCanonical host) (free : r.controlHost ≠ some host) :
    Chain Opening r (r.grant w now host port route).calls (r.grant w now host port route).after := by
  simp only [grant]
  split
  · exact .nil r
  · rename_i lease _
    rw [Outcome.reporting_calls, Outcome.reporting_after]
    exact Outcome.andThen_chain (openMissing_chain r w now port route name free)
      fun _ => setLease_chain _ host lease

theorem controlHost_retarget (r : Registry) (host : Text) (port : Nat) (route : Route) :
    (r.retarget host port route).controlHost = r.controlHost := by
  simp only [retarget, setRoute]
  split
  · split <;> rfl
  · rfl

theorem create_chain (r : Registry) (w : Conditions) (now : Time) (host : Text) (port : Nat)
    (target : Text) :
    Chain Opening r (r.create w now host port target).calls (r.create w now host port target).after := by
  simp only [create]
  split
  · exact .nil r
  · rename_i host hname
    have name := HostName.isCanonical_of_normalize hname
    split
    · exact .nil r
    split
    · exact .nil r
    · rename_i free
      split
      · exact .nil r
      · rename_i route _
        -- the name that is kept for the control interface was compared before the route was set
        rw [← controlHost_retarget r host port route] at free
        exact (retarget_chain r host port route).append (grant_chain _ w now port route name free)

theorem attach_chain (r : Registry) (w : Conditions) (host : Text) (port : Nat) (scheme target : Text) :
    Chain Opening r (r.attach w host port scheme target).calls
      (r.attach w host port scheme target).after := by
  simp only [attach]
  split
  · exact .nil r
  · rename_i host route _
    split
    · exact .nil r
    · rename_i entry here
      rw [Outcome.reporting_calls, Outcome.reporting_after]
      split
      · rename_i runs
        rw [setRoute_eq_put here]
        exact .single (.retarget route here (Option.isSome_of_eq_some runs))
      · rename_i idle
        exact openPort_chain w route here idle

end Gatehouse.Registry
