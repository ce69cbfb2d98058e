import Gatehouse.Proofs.Registry.Failure
import Gatehouse.Proofs.Registry.Lease
import Gatehouse.Proofs.Route

/-!
Creating what is there already. Main statement: `run_renewal`, by which a creation that succeeded can be made again, under
any spelling of the host's name, without asking anything of the system and without changing anything but the lease of the
host.
-/

namespace Gatehouse.Registry

open Net

variable {r : Registry} {w : Conditions} {now lease : Time} {host name target : Text} {port : Nat} {route : Route}
  {entry : Entry} {row : Endpoint} {o : Outcome Endpoint}

/-! ## Leases -/

/-- The row with another lease, if it is a row of the host. -/
def Endpoint.leased (row : Endpoint) (host : Text) (lease : Time) : Endpoint :=
  if row.host = host then { row with lease := lease } else row

/-- A lease is granted if it ends at a time that has a date. -/
theorem leaseEnd_of_le {length : Duration} (h : now + length ≤ Time.last) :
    leaseEnd now length = .ok (now + length) := by
  simp only [leaseEnd, if_pos h]

theorem setLease_eq_put (here : r.hosts.get? name = some entry) (lease : Time) :
    r.setLease name lease = r.put name { entry with lease := lease } := by
  simp only [setLease, here, put]

/-- Another lease of a host shows in all its rows, and in nothing else. -/
theorem list_setLease (hs : Sound r) (here : r.hosts.get? name = some entry) (lease : Time) :
    (r.setLease name lease).list = r.list.map (·.leased name lease) := by
  rw [setLease_eq_put here, list, list, put, Table.insert_eq_map hs.hosts here, List.flatMap_map, List.map_flatMap]
  refine List.flatMap_congr fun host hm => ?_
  obtain ⟨other, entry'⟩ := host
  simp only [Entry.endpoints, List.map_map]
  split
  · rename_i hname
    obtain rfl : other = name := hname
    obtain rfl : entry' = entry := Option.some.inj ((Table.get?_of_mem hs.hosts hm).symm.trans here)
    exact List.map_congr_left fun listener _ => (if_pos rfl).symm
  · rename_i hname
    exact List.map_congr_left fun listener _ => (if_neg hname).symm

theorem route?_setLease (here : r.hosts.get? name = some entry) (lease : Time) (host : Text) (port : Nat) :
    (r.setLease name lease).route? host port = r.route? host port := by
  rw [setLease_eq_put here, route?, route?, get?_put]
  split
  · rename_i hname
    rw [hname, here, Option.bind_some, Option.bind_some]
  · rfl

theorem zone_setLease (r : Registry) (name : Text) (lease : Time) : (r.setLease name lease).zone = r.zone := by
  simp only [setLease]
  split <;> rfl

/-! ## Once more -/

/-- Where the route that a creation asks for is set, the same creation asks for the same route again: a target without a
scheme has that of the port, which is now the scheme of the route. -/
theorem Asks.again (asks : Asks r host port target name route) {r' : Registry} {host' : Text}
    (same : HostName.normalize host' = HostName.normalize host) (control : r'.controlHost = r.controlHost)
    (here : r'.hosts.get? name = some entry) (runs : entry.listeners.get? port = some route) :
    Asks r' host' port target name route where
  name_eq := same.trans asks.name_eq
  port_ne := asks.port_ne
  free := control ▸ asks.free
  route_eq := by
    rw [route?, here, Option.bind_some, runs]
    exact Route.parseWithDefault_again asks.route_eq

/-- What a creation that succeeds leaves: the port is open with the route that was asked for, and the same creation can
be asked for again. -/
theorem Creation.leaves (c : Creation r w now host port target o) (done : o.result = .ok row) :
    ∃ name route entry, row = ⟨name, entry.ip, port, route, entry.lease⟩ ∧
      o.after.hosts.get? name = some entry ∧ entry.listeners.get? port = some route ∧
      ∀ host', HostName.normalize host' = HostName.normalize host → Asks o.after host' port target name route := by
  cases c with
  | unread _ => cases done
  | leaseRefused _ _ => cases done
  | exhausted _ _ _ _ => cases done
  | aliasRefused _ _ _ _ _ => cases done
  | hostRefused _ _ _ _ _ _ _ => cases done
  | portRefused _ _ _ _ _ => cases done
  | @renewed name route old entry lease asks _ here _ =>
    have runs := Table.get?_insert_self port route entry.listeners
    have here' := get?_put_self r name ⟨entry.ip, lease, entry.listeners.insert port route⟩
    exact ⟨name, route, _, (Except.ok.inj done).symm, here', runs, fun host' same => asks.again same rfl here' runs⟩
  | @openedPort name route entry lease asks _ here _ _ =>
    have runs := Table.get?_insert_self port route entry.listeners
    have here' := get?_put_self r name ⟨entry.ip, lease, entry.listeners.insert port route⟩
    exact ⟨name, route, _, (Except.ok.inj done).symm, here', runs, fun host' same => asks.again same rfl here' runs⟩
  | @openedHost name route ip domains told lease asks _ _ _ _ _ _ =>
    have runs := Table.get?_insert_self port route []
    have here' := get?_put_self r name ⟨ip, lease, Table.insert port route []⟩
    exact ⟨name, route, _, (Except.ok.inj done).symm, here', runs, fun host' same => asks.again same rfl here' runs⟩

/-- A creation for which the route is set already sets the lease alone. -/
theorem create_again (hs : Sound r) (w : Conditions) (asks : Asks r host port target name route)
    (granted : leaseEnd now r.leaseLength = .ok lease) (here : r.hosts.get? name = some entry)
    (runs : entry.listeners.get? port = some route) :
    r.create w now host port target =
      ⟨.ok ⟨name, entry.ip, port, route, lease⟩, r.setLease name lease, []⟩ := by
  rw [create_of_runs w asks granted here runs, Table.insert_of_get? (hs.ports here) runs, setLease_eq_put here]

/-- In every state of every run: a creation that succeeded is made again, at any time from which a lease has an end and
whatever the system refuses by then, under any name that is registered in the same form. It succeeds with the same row but
for the lease, asks nothing of the system, and changes nothing but the lease of the host, which all rows of the host and no
others show. -/
theorem run_renewal (subnet : Subnet) (leaseLength : Duration) (steps : List Step) :
    let r := ((History.start subnet leaseLength).run steps).registry
    ∀ w now host port target row, (r.create w now host port target).result = .ok row →
      ∀ w' now' host', HostName.normalize host' = HostName.normalize host →
        now' + leaseLength ≤ Time.last →
        let lease := now' + leaseLength
        let first := (r.create w now host port target).after
        let second := first.create w' now' host' port target
        HostName.normalize host = .ok row.host ∧
        second.result = .ok { row with lease := lease } ∧
        second.calls = [] ∧
        second.after = first.setLease row.host lease ∧
        second.after.list = first.list.map (·.leased row.host lease) ∧
        (∀ name port, second.after.route? name port = first.route? name port) ∧
        second.after.zone = first.zone := by
  intro r w now host port target row done w' now' host' same inRange lease first second
  obtain ⟨name, route, entry, rfl, here, runs, again⟩ := (create_creation r w now host port target).leaves done
  have asks := again host' same
  -- the state after the first creation is that of a longer run
  let step : Step := ⟨.create now host port target, w⟩
  have hrun : ((History.start subnet leaseLength).run (steps ++ [step])).registry = first := by
    rw [History.run_append]
    rfl
  have hs : Sound first := hrun ▸ (run_consistent subnet leaseLength (steps ++ [step])).sound
  have length : first.leaseLength = leaseLength := hrun ▸ (run_leased subnet leaseLength (steps ++ [step])).length
  have granted : leaseEnd now' first.leaseLength = .ok lease := by
    rw [length]
    exact leaseEnd_of_le inRange
  have hsecond : second = _ := create_again hs w' asks granted here runs
  rw [hsecond]
  exact ⟨same ▸ asks.name_eq, rfl, rfl, rfl, list_setLease hs here lease, route?_setLease here lease,
    zone_setLease first name lease⟩

/-- A host with a second port, which is attached with a scheme of its own. -/
def attached : List Step := [creating "a.test" .clear, ⟨.attach "a.test" 81 "https" "127.0.0.1:3000", .clear⟩]

/-- A system that does nothing that it is asked. -/
def Conditions.refusing : Conditions where
  addAlias _ := some "refused"
  removeAlias _ := some "refused"
  listen _ := some "refused"
  point _ := some "refused"

/-- The second port is sent elsewhere by a target without a scheme, and keeps its scheme. Half a minute later the same is
asked of a system that refuses everything. -/
theorem attached_renewed :
    let r := ((History.start smallSubnet (.ofSeconds 60)).run attached).registry
    let first := r.create .clear 0 "a.test" 81 "127.0.0.1:4000"
    let second := first.after.create .refusing (30 * Time.second) "A.Test." 81 "127.0.0.1:4000"
    ∃ row, first.result = .ok row ∧ row.route.render = "https://127.0.0.1:4000".toList ∧
      HostName.normalize "A.Test." = HostName.normalize "a.test" ∧
      30 * Time.second + 60 * Time.second ≤ Time.last ∧
      second.result = .ok { row with lease := 90 * Time.second } ∧ second.calls = [] := by
  intro r first second
  have rendered : first.result.toOption.map (·.route.render) = some "https://127.0.0.1:4000".toList := by
    decide +kernel
  obtain ⟨row, hrow, hroute⟩ := Option.map_eq_some_iff.mp rendered
  have done : first.result = .ok row := by
    cases hresult : first.result with
    | error e =>
      rw [hresult] at hrow
      cases hrow
    | ok row' =>
      rw [hresult] at hrow
      rw [Option.some.inj hrow]
  have same : HostName.normalize "A.Test." = HostName.normalize "a.test" := by decide +kernel
  have inRange : 30 * Time.second + 60 * Time.second ≤ Time.last := by decide
  obtain ⟨-, hresult, hcalls, -⟩ := run_renewal smallSubnet (.ofSeconds 60) attached .clear 0 "a.test" 81 "127.0.0.1:4000" row done
    .refusing (30 * Time.second) "A.Test." same inRange
  exact ⟨row, done, hroute, same, inRange, hresult, hcalls⟩

end Gatehouse.Registry
