import Gatehouse.Proofs.Registry.Invariant
import Gatehouse.Proofs.Registry.Outcome

/-!
The pool of addresses over runs. Main statement: `run_pool`, by which a new host is refused for want of an address
exactly if there are as many hosts as the pool has addresses, and otherwise the lowest address that no host holds is
tried for it.
-/

namespace Gatehouse.Registry

open Net

/-! ## Addresses that are tried -/

/-- The address that a call asks the system to bind. -/
def Call.tried? : Call → Option Ipv4
  | .addAlias ip _ => some ip
  | _ => none

variable {α : Type} {r : Registry} {w : Conditions} {now : Time} {host name target : Text} {port : Nat} {route : Route}
  {lease : Time}

/-- The addresses that an operation asked the system to bind, in order. -/
def Outcome.tried (o : Outcome α) : List Ipv4 := o.calls.filterMap Call.tried?

/-- An operation that was refused since no address was left. -/
def Outcome.IsExhausted (o : Outcome α) : Prop := ∃ subnet, o.result = .error (.poolExhausted subnet)

theorem tried_told {domains domains' : List Text} {told : List Call} (registers : Registers domains host domains' told) :
    told.filterMap Call.tried? = [] := by
  cases registers <;> rfl

theorem not_exhausted_reported (r : Registry) (host : Text) (port : Nat) (subnet : Text) :
    r.reported host port ≠ .error (.poolExhausted subnet) := by
  simp only [reported]
  split
  · exact fun h => by cases h
  · split <;> exact fun h => by cases h

/-- A lease and a report at the end of an operation try no address. -/
theorem tried_reporting (o : Outcome Unit) (change : Registry → Registry) (host : Text) (port : Nat) :
    ((o.andThen change).reporting host port).tried = o.tried := by
  rw [Outcome.tried, Outcome.reporting_calls, Outcome.andThen]
  split <;> rfl

theorem isExhausted_reporting (o : Outcome Unit) (change : Registry → Registry) (host : Text) (port : Nat) :
    ((o.andThen change).reporting host port).IsExhausted ↔ o.IsExhausted := by
  obtain ⟨result, after, calls⟩ := o
  cases result with
  | error e => exact ⟨fun ⟨subnet, h⟩ => ⟨subnet, congrArg _ (Except.error.inj h)⟩,
      fun ⟨subnet, h⟩ => ⟨subnet, congrArg _ (Except.error.inj h)⟩⟩
  | ok =>
    refine iff_of_false ?_ ?_
    · rintro ⟨subnet, h⟩
      exact not_exhausted_reported _ _ _ _ h
    · rintro ⟨subnet, h⟩
      cases h

/-! ## New hosts -/

/-- A host for which there is an address is not refused for want of one, and this address alone is tried. -/
theorem openHost_found {ip : Ipv4} (found : r.subnet.allocate r.inUse = some ip) (canonical : HostName.IsCanonical name) :
    ¬ (r.openHost w now name port route).IsExhausted ∧ (r.openHost w now name port route).tried = [ip] := by
  obtain ⟨domains, told, registers, hregister⟩ := registerDomain_ok r w canonical
  simp only [openHost, found]
  split
  · refine ⟨?_, rfl⟩
    rintro ⟨subnet, h⟩
    cases h
  · rw [hregister]
    cases hlisten : w.listen (Socket.ofIpv4 ip port) with
    | some cause =>
      simp only [startListener_refused hlisten, releaseAlias]
      refine ⟨?_, by simp [Outcome.tried, Call.tried?, tried_told registers]⟩
      rintro ⟨subnet, h⟩
      cases h
    | none =>
      simp only [startListener_done hlisten]
      refine ⟨?_, by simp [Outcome.tried, Call.tried?, tried_told registers]⟩
      rintro ⟨subnet, h⟩
      cases h

/-- The creation of a new host comes down to opening it. -/
theorem create_of_absent (w : Conditions) (asks : Asks r host port target name route)
    (absent : r.hosts.get? name = none) (granted : leaseEnd now r.leaseLength = .ok lease) :
    r.create w now host port target =
      ((r.openHost w now name port route).andThen (·.setLease name lease)).reporting name port := by
  have idle : r.route? name port = none := by rw [route?, absent]; rfl
  rw [create_of_asks w now asks, retarget_of_none idle, grant_eq granted, openMissing, absent]

/-- In every state of every run there are at most as many hosts as the pool has addresses. A new host is refused for
want of an address exactly if there are as many, those included that are left without listeners; otherwise the one
address that is tried for it is the lowest that no host holds, among the addresses of the subnet that are not its
first, its last or the reserved one. -/
theorem run_pool (subnet : Subnet) (leaseLength : Duration) (steps : List Step) :
    let r := ((History.start subnet leaseLength).run steps).registry
    r.hosts.length ≤ subnet.capacity ∧
    ∀ w now host port target name route lease, Asks r host port target name route → r.hosts.get? name = none →
      leaseEnd now r.leaseLength = .ok lease →
      let o := r.create w now host port target
      (o.IsExhausted ↔ r.hosts.length = subnet.capacity) ∧
      (r.hosts.length = subnet.capacity → o = .refuse r (.poolExhausted subnet.render)) ∧
      (r.hosts.length ≠ subnet.capacity → ∃ ip, o.tried = [ip] ∧
        (subnet.Contains ip ∧ ip ≠ subnet.network ∧ ip ≠ subnet.broadcast ∧ ip ≠ subnet.reserved) ∧
        (∀ other, ¬ r.Holds other ip) ∧
        ∀ lower, subnet.Contains lower → lower ≠ subnet.network → lower ≠ subnet.broadcast →
          lower ≠ subnet.reserved → lower < ip → ∃ other, r.Holds other lower) := by
  intro r
  have consistent := run_consistent subnet leaseLength steps
  have sound : Sound r := consistent.sound
  have hsubnet : r.subnet = subnet := consistent.subnet_eq
  have within : ∀ ip ∈ r.inUse, subnet.InPool ip := by
    intro ip hm
    obtain ⟨other, entry, hget, rfl⟩ := (mem_inUse sound.hosts).mp hm
    exact hsubnet ▸ sound.pool hget
  -- each host holds one address of the pool and no two hold the same, so that hosts count addresses
  have hlength : r.inUse.length = r.hosts.length := List.length_map _
  refine ⟨hlength ▸ Subnet.length_le_capacity (inUse_nodup sound) within, ?_⟩
  intro w now host port target name route lease asks absent granted o
  have canonical := HostName.isCanonical_of_normalize asks.name_eq
  have hcreate : o = _ := create_of_absent w asks absent granted
  have hfull := Subnet.allocate_eq_none_iff_length (inUse_nodup sound) within
  rw [hlength] at hfull
  cases found : r.subnet.allocate r.inUse with
  | none =>
    have hcount : r.hosts.length = subnet.capacity := hfull.mp (hsubnet ▸ found)
    have hrefused : o = .refuse r (.poolExhausted subnet.render) := by
      rw [hcreate, openHost, found, hsubnet]
      rfl
    refine ⟨iff_of_true ⟨_, congrArg Outcome.result hrefused⟩ hcount, fun _ => hrefused, ?_⟩
    exact fun hne => absurd hcount hne
  | some ip =>
    have hcount : r.hosts.length ≠ subnet.capacity := by
      intro heq
      rw [← hsubnet] at hfull heq
      rw [hfull.mpr heq] at found
      cases found
    obtain ⟨hleft, htried⟩ : ¬ (r.openHost w now name port route).IsExhausted ∧
        (r.openHost w now name port route).tried = [ip] := openHost_found found canonical
    have hopen : ¬ o.IsExhausted := by
      rw [hcreate, isExhausted_reporting]
      exact hleft
    refine ⟨iff_of_false hopen hcount, fun heq => absurd heq hcount, fun _ => ⟨ip, ?_, ?_, ?_, ?_⟩⟩
    · rw [hcreate, tried_reporting, htried]
    all_goals rw [hsubnet] at found
    all_goals obtain ⟨hpool, hfree, hlower⟩ := Subnet.allocate_eq_some.mp found
    · exact ⟨Subnet.contains_of_inPool hpool, Subnet.ne_of_inPool hpool⟩
    · exact fun other holds => hfree ((mem_inUse sound.hosts).mpr ⟨other, holds⟩)
    · intro lower hin hnetwork hbroadcast hreserved hlt
      have hpart := (Subnet.prefixLength_of_inPool hpool).1
      have hlowerPool := (Subnet.inPool_iff hpart).mpr ⟨hin, hnetwork, hbroadcast, hreserved⟩
      exact (mem_inUse sound.hosts).mp (hlower lower hlowerPool hlt)

/-- The subnet 127.1.0.0/30, with a single address for hosts. -/
def tinySubnet : Subnet := .around (.ofOctets 127 1 0 0) 30 (by decide)

/-- A host whose address cannot be given back is left without listeners. -/
def stuck : List Step := [creating "a.test" .clear, ⟨.delete "a.test", .holding⟩]

/-- The address of the host is not given to another. -/
theorem stuck_exhausted :
    let r := ((History.start tinySubnet (.ofSeconds 60)).run stuck).registry
    r.list.length = 0 ∧ r.hosts.length = 1 ∧ (r.create .clear 0 "b.test" 80 "127.0.0.1:3000").IsExhausted := by
  intro r
  obtain ⟨-, hrun⟩ := run_pool tinySubnet (.ofSeconds 60) stuck
  obtain ⟨route, hroute⟩ : ∃ route, Route.parseWithDefault "127.0.0.1:3000" .tcp = .ok route := ⟨_, rfl⟩
  have absent : r.hosts.get? "b.test" = none := by rfl
  have idle : r.route? "b.test" 80 = none := by rw [route?, absent]; rfl
  have asks : Asks r "b.test" 80 "127.0.0.1:3000" "b.test" route := by
    refine ⟨by rfl, by decide, ?_, ?_⟩
    · exact fun h => by cases h
    · rw [idle]
      exact hroute
  have hcount : r.hosts.length = tinySubnet.capacity := by rfl
  have granted : leaseEnd 0 r.leaseLength = .ok (0 + Duration.ofSeconds 60) := by
    have hlength : r.leaseLength = .ofSeconds 60 := by rfl
    rw [hlength, leaseEnd]
    exact if_pos (by decide)
  obtain ⟨hfull, -, -⟩ := hrun .clear 0 "b.test" 80 "127.0.0.1:3000" "b.test" route _ asks absent granted
  exact ⟨by rfl, by rfl, hfull.mpr hcount⟩

/-- An address that was given back is the first to be given out again. -/
example :
    let steps := [creating "a.test" .clear, creating "b.test" .clear, ⟨.delete "a.test", .clear⟩,
      creating "c.test" .clear]
    ((History.start smallSubnet (.ofSeconds 60)).run steps).registry.list.map (fun row => (row.host, row.ip)) =
      [("b.test".toList, .ofOctets 127 1 0 3), ("c.test".toList, .ofOctets 127 1 0 2)] := by
  decide +kernel

end Gatehouse.Registry
