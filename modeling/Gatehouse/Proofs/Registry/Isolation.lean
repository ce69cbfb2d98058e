import Gatehouse.Proofs.Registry.Failure
import Gatehouse.Proofs.Registry.Reservation

/-!
What an operation on one host leaves alone. Main statement: `run_isolation`, by which creating, attaching and deleting
touch no other host, neither its entry nor its record nor its listeners; creating and attaching keep the other ports of
their own host, and no listener that runs is stopped or started again by them.
-/

namespace Gatehouse.Registry

open Net

/-! ## Calls -/

/-- The address that a call is about. -/
def Call.address? : Call → Option Ipv4
  | .addAlias ip _ => some ip
  | .removeAlias ip _ => some ip
  | .listen ip _ _ => some ip
  | .stop ip _ => some ip
  | .point _ _ => none

/-- The socket whose listener a call starts or stops. -/
def Call.socket? : Call → Option (Ipv4 × Nat)
  | .listen ip port _ => some (ip, port)
  | .stop ip port => some (ip, port)
  | _ => none

theorem Call.socket?_ne {call : Call} {ip : Ipv4} (h : call.address? ≠ some ip) (port : Nat) :
    call.socket? ≠ some (ip, port) := by
  cases call with
  | listen ip' port' done => exact fun heq => h (congrArg (·.map Prod.fst) heq)
  | stop ip' port' => exact fun heq => h (congrArg (·.map Prod.fst) heq)
  | addAlias ip' done => exact fun heq => by cases heq
  | removeAlias ip' done => exact fun heq => by cases heq
  | point domain done => exact fun heq => by cases heq

/-- A listener that no call is about runs on, or stays away. -/
theorem mem_listening_append {before calls : List Call} {socket : Ipv4 × Nat}
    (quiet : ∀ call ∈ calls, call.socket? ≠ some socket) :
    socket ∈ listening (before ++ calls) ↔ socket ∈ listening before := by
  induction calls generalizing before with
  | nil => rw [List.append_nil]
  | cons call rest ih =>
    have hcall := quiet call List.mem_cons_self
    rw [List.append_cons, ih fun later hm => quiet later (List.mem_cons_of_mem _ hm), listening_append]
    simp only [List.foldl_cons, List.foldl_nil]
    -- calls about listeners change the list at their own socket only
    cases call with
    | listen ip port done =>
      have hne : socket ≠ (ip, port) := fun heq => hcall (congrArg some heq.symm)
      cases done with
      | false => rfl
      | true => simp [Call.listening, hne]
    | stop ip port =>
      have hne : socket ≠ (ip, port) := fun heq => hcall (congrArg some heq.symm)
      simp [Call.listening, hne]
    | addAlias ip done => rfl
    | removeAlias ip done => rfl
    | point domain done => rfl

variable {r r' : Registry} {w : Conditions} {now : Time} {host given name scheme target : Text} {port : Nat}
  {entry : Entry} {o : Outcome Endpoint} {calls : List Call} {ip : Ipv4}

/-- All calls are about one address, or about none. -/
def OnlyAbout (ip : Ipv4) (calls : List Call) : Prop :=
  ∀ call ∈ calls, call.address? = none ∨ call.address? = some ip

theorem onlyAbout_told {domains domains' : List Text} {told : List Call}
    (registers : Registers domains host domains' told) (ip : Ipv4) : OnlyAbout ip told := by
  cases registers with
  | known _ _ => exact fun call hm => by cases hm
  | new done _ _ =>
    intro call hm
    rw [List.mem_singleton.mp hm]
    exact .inl rfl

theorem OnlyAbout.append {later : List Call} (h : OnlyAbout ip calls) (h' : OnlyAbout ip later) :
    OnlyAbout ip (calls ++ later) :=
  fun call hm => (List.mem_append.mp hm).elim (h call) (h' call)

theorem OnlyAbout.cons {call : Call} (hcall : call.address? = some ip) (h : OnlyAbout ip calls) :
    OnlyAbout ip (call :: calls) :=
  fun call' hm => (List.mem_cons.mp hm).elim (fun heq => .inr (heq ▸ hcall)) (h call')

theorem OnlyAbout.nil (ip : Ipv4) : OnlyAbout ip [] := fun _ hm => by cases hm

theorem OnlyAbout.single {call : Call} (hcall : call.address? = some ip) : OnlyAbout ip [call] := .cons hcall (.nil ip)

/-! ## Other hosts -/

/-- All that changes belongs to the host with this name, as it was given, and no call is about an address of another
host. -/
structure StaysWith (given : Text) (r : Registry) (calls : List Call) (r' : Registry) : Prop where
  hosts : ∀ other, HostName.normalize given ≠ .ok other → r'.hosts.get? other = r.hosts.get? other
  lookup : ∀ t, HostName.normalize given ≠ .ok (HostName.zoneKey t) → r'.zone.lookup t = r.zone.lookup t
  calls : ∀ other entry, HostName.normalize given ≠ .ok other → r.hosts.get? other = some entry →
    ∀ call ∈ calls, call.address? ≠ some entry.ip

theorem StaysWith.refl (given : Text) (r : Registry) : StaysWith given r [] r :=
  ⟨fun _ _ => rfl, fun _ _ => rfl, fun _ _ _ _ _ hm => by cases hm⟩

/-- An address that no host has, but possibly one. -/
def HeldAtMostBy (r : Registry) (name : Text) (ip : Ipv4) : Prop :=
  ∀ other entry, other ≠ name → r.hosts.get? other = some entry → ip ≠ entry.ip

theorem heldAtMostBy_of_found (hs : Sound r) (found : r.subnet.allocate r.inUse = some ip) (name : Text) :
    HeldAtMostBy r name ip := by
  intro other entry _ there heq
  obtain ⟨-, hfree, -⟩ := Subnet.allocate_eq_some.mp found
  exact hfree ((mem_inUse hs.hosts).mpr ⟨other, entry, there, heq.symm⟩)

theorem heldAtMostBy_of_here (hs : Sound r) (here : r.hosts.get? name = some entry) :
    HeldAtMostBy r name entry.ip :=
  fun _ _ hne there heq => hne (hs.distinct there here heq.symm)

/-- The entry and the record of the host itself may change, and calls may be about its own address. -/
theorem StaysWith.change (name_eq : HostName.normalize given = .ok name)
    (hosts : ∀ other, other ≠ name → r'.hosts.get? other = r.hosts.get? other)
    (lookup : ∀ t, HostName.zoneKey t ≠ name → r'.zone.lookup t = r.zone.lookup t)
    (held : HeldAtMostBy r name ip) (about : OnlyAbout ip calls) : StaysWith given r calls r' := by
  have other_ne : ∀ {other}, HostName.normalize given ≠ .ok other → other ≠ name :=
    fun hother heq => hother (heq ▸ name_eq)
  refine ⟨fun other h => hosts other (other_ne h), fun t h => lookup t (other_ne h), ?_⟩
  intro other entry hother there call hm heq
  rcases about call hm with hnone | hsome
  · rw [hnone] at heq
    cases heq
  · exact held other entry (other_ne hother) there (Option.some.inj (hsome.symm.trans heq))

theorem get?_put_of_ne {other : Text} (hne : other ≠ name) (entry : Entry) :
    (r.put name entry).hosts.get? other = r.hosts.get? other := by
  rw [get?_put, if_neg hne]

theorem lookup_set_of_ne (zone : Dns.Zone) (ip : Ipv4) (name_eq : HostName.normalize given = .ok name) {t : Text}
    (hne : HostName.zoneKey t ≠ name) : (zone.set name ip).lookup t = zone.lookup t := by
  rw [Dns.Zone.lookup_set zone t ip (HostName.isCanonical_of_normalize name_eq).key_eq, if_neg hne]

theorem hosts_retarget_of_ne (r : Registry) (port : Nat) (route : Route) {other : Text} (hne : other ≠ name) :
    (r.retarget name port route).hosts.get? other = r.hosts.get? other := by
  cases runs : r.route? name port with
  | none => rw [retarget_of_none runs]
  | some old =>
    obtain ⟨entry, here, -⟩ := Option.bind_eq_some_iff.mp runs
    rw [retarget_of_isSome (Option.isSome_of_eq_some runs), setRoute_eq_put here, get?_put_of_ne hne]

theorem Creation.staysWith (c : Creation r w now given port target o) (hs : Sound r) :
    StaysWith given r o.calls o.after := by
  cases c with
  | unread _ => exact .refl given r
  | @leaseRefused name route fault asks _ =>
    refine ⟨?_, fun t _ => congrArg (Dns.Zone.lookup · t) (zone_retarget r name port route), ?_⟩
    -- the route may have changed before the lease was refused
    · exact fun other hother => hosts_retarget_of_ne r port route fun heq => hother (heq ▸ asks.name_eq)
    · exact fun _ _ _ _ _ hm => by cases hm
  | exhausted _ _ _ _ => exact .refl given r
  | aliasRefused asks _ _ found _ =>
    exact .change asks.name_eq (fun _ _ => rfl) (fun _ _ => rfl) (heldAtMostBy_of_found hs found _) (.single rfl)
  | hostRefused asks _ _ found _ registers _ =>
    exact .change asks.name_eq (fun _ _ => rfl) (fun _ _ => rfl) (heldAtMostBy_of_found hs found _)
      (.cons rfl ((onlyAbout_told registers _).append (.cons rfl (.single rfl))))
  | portRefused asks _ here _ _ =>
    exact .change asks.name_eq (fun _ _ => rfl) (fun _ _ => rfl) (heldAtMostBy_of_here hs here) (.single rfl)
  | renewed asks _ here _ =>
    exact .change asks.name_eq (fun _ hne => get?_put_of_ne hne _) (fun _ _ => rfl) (heldAtMostBy_of_here hs here)
      (.nil _)
  | openedPort asks _ here _ _ =>
    exact .change asks.name_eq (fun _ hne => get?_put_of_ne hne _) (fun _ hne => lookup_set_of_ne _ _ asks.name_eq hne)
      (heldAtMostBy_of_here hs here) (.single rfl)
  | openedHost asks _ _ found _ registers _ =>
    exact .change asks.name_eq (fun _ hne => get?_put_of_ne hne _) (fun _ hne => lookup_set_of_ne _ _ asks.name_eq hne)
      (heldAtMostBy_of_found hs found _) (.cons rfl ((onlyAbout_told registers _).append (.single rfl)))

theorem Attachment.staysWith (a : Attachment r w given port scheme target o) (hs : Sound r) :
    StaysWith given r o.calls o.after := by
  cases a with
  | refused _ => exact .refl given r
  | portRefused name_eq here _ =>
    exact .change name_eq (fun _ _ => rfl) (fun _ _ => rfl) (heldAtMostBy_of_here hs here) (.single rfl)
  | retargeted name_eq here _ =>
    exact .change name_eq (fun _ hne => get?_put_of_ne hne _) (fun _ _ => rfl) (heldAtMostBy_of_here hs here) (.nil _)
  | opened name_eq here _ =>
    exact .change name_eq (fun _ hne => get?_put_of_ne hne _) (fun _ _ => rfl) (heldAtMostBy_of_here hs here)
      (.single rfl)

theorem onlyAbout_stops (entry : Entry) : OnlyAbout entry.ip entry.stops := by
  intro call hm
  obtain ⟨listener, -, rfl⟩ := List.mem_map.mp hm
  exact .inr rfl

theorem delete_staysWith (hs : Sound r) (w : Conditions) (given : Text) :
    StaysWith given r (r.delete w given).calls (r.delete w given).after := by
  simp only [delete]
  split
  · exact .refl given r
  · rename_i name name_eq
    split
    · exact .refl given r
    · rename_i entry here
      refine .change name_eq ?_ ?_ (heldAtMostBy_of_here hs here) ?_
      · intro other hne
        rw [teardown_get?, if_neg hne]
      · intro t hne
        simp only [teardown]
        split
        · have key_eq := (HostName.isCanonical_of_normalize name_eq).key_eq
          exact (Dns.Zone.lookup_remove r.zone t key_eq).trans (if_neg hne)
        · rfl
      · rw [teardown_calls]
        exact (onlyAbout_stops entry).append (.single rfl)

/-! ## Other ports -/

/-- What creating and attaching keep of the host that they are about: the routes of its other ports, and a route for the
port itself if it had one, in which case nothing is asked of the system. -/
structure KeepsPorts (given : Text) (port : Nat) (r : Registry) (calls : List Call) (r' : Registry) : Prop where
  routes : ∀ name port', HostName.normalize given = .ok name → port' ≠ port →
    r'.route? name port' = r.route? name port'
  runs : ∀ name, HostName.normalize given = .ok name → (r.route? name port).isSome →
    (r'.route? name port).isSome ∧ calls = []

/-- Calls start or stop no listener on a socket on which one runs. -/
def Unobtrusive (r : Registry) (calls : List Call) : Prop :=
  ∀ ip port, r.Open ip port → ∀ call ∈ calls, call.socket? ≠ some (ip, port)

theorem route?_insert (r : Registry) (zone : Dns.Zone) (name : Text) (entry : Entry) (port : Nat) :
    route? { r with zone, hosts := r.hosts.insert name entry } name port = entry.listeners.get? port := by
  simp only [route?, Table.get?_insert, if_true, Option.bind_some]

theorem route?_of_here (here : r.hosts.get? name = some entry) (port : Nat) :
    r.route? name port = entry.listeners.get? port := by
  rw [route?, here, Option.bind_some]

theorem KeepsPorts.refl_of_absent (name_eq : HostName.normalize given = .ok name)
    (absent : r.route? name port = none) (calls : List Call) (zone : Dns.Zone) :
    KeepsPorts given port r calls { r with zone } := by
  refine ⟨fun _ _ _ _ => rfl, ?_⟩
  intro name' name_eq' runs
  obtain rfl : name = name' := Except.ok.inj (name_eq.symm.trans name_eq')
  rw [absent] at runs
  cases runs

/-- A host may get another entry, if that has the same routes but for the port, and the port is not lost. -/
theorem KeepsPorts.change (name_eq : HostName.normalize given = .ok name) {zone : Dns.Zone}
    {listeners : Table Nat Route} {lease : Time} {route : Route}
    (routes : ∀ port', r.route? name port' = listeners.get? port')
    (silent : (listeners.get? port).isSome → calls = []) :
    KeepsPorts given port r calls
      { r with zone, hosts := r.hosts.insert name ⟨ip, lease, listeners.insert port route⟩ } := by
  refine ⟨?_, ?_⟩
  · intro name' port' name_eq' hne
    obtain rfl : name = name' := Except.ok.inj (name_eq.symm.trans name_eq')
    rw [route?_insert, routes, Table.get?_insert, if_neg hne]
  · intro name' name_eq' runs
    obtain rfl : name = name' := Except.ok.inj (name_eq.symm.trans name_eq')
    rw [route?_insert, Table.get?_insert_self]
    exact ⟨rfl, silent (routes port ▸ runs)⟩

theorem KeepsPorts.refl (given : Text) (port : Nat) (r : Registry) : KeepsPorts given port r [] r :=
  ⟨fun _ _ _ _ => rfl, fun _ _ runs => ⟨runs, rfl⟩⟩

theorem KeepsPorts.retarget (name_eq : HostName.normalize given = .ok name) (port : Nat) (route : Route) :
    KeepsPorts given port r [] (r.retarget name port route) := by
  cases runs : r.route? name port with
  | none =>
    rw [retarget_of_none runs]
    exact .refl given port r
  | some old =>
    obtain ⟨entry, here, -⟩ := Option.bind_eq_some_iff.mp runs
    rw [retarget_of_isSome (Option.isSome_of_eq_some runs), setRoute_eq_put here]
    exact .change name_eq (route?_of_here here) fun _ => rfl

theorem Creation.keepsPorts (c : Creation r w now given port target o) : KeepsPorts given port r o.calls o.after := by
  have absent_route : ∀ {name port'}, r.hosts.get? name = none → r.route? name port' = none :=
    fun absent => by rw [route?, absent]; rfl
  cases c with
  | unread _ => exact .refl given port r
  | leaseRefused asks _ => exact .retarget asks.name_eq port _
  | exhausted _ _ _ _ => exact .refl given port r
  | aliasRefused asks _ absent _ _ => exact .refl_of_absent asks.name_eq (absent_route absent) _ _
  | hostRefused asks _ absent _ _ _ _ => exact .refl_of_absent asks.name_eq (absent_route absent) _ _
  | portRefused asks _ here idle _ =>
    exact .refl_of_absent asks.name_eq ((route?_of_here here port).trans idle) _ _
  | renewed asks _ here _ => exact .change asks.name_eq (route?_of_here here) fun _ => rfl
  | openedPort asks _ here idle _ =>
    exact .change asks.name_eq (route?_of_here here) fun runs => by rw [idle] at runs; cases runs
  | openedHost asks _ absent _ _ _ _ =>
    exact .change asks.name_eq (fun port' => absent_route absent) fun runs => by cases runs

theorem Attachment.keepsPorts (a : Attachment r w given port scheme target o) :
    KeepsPorts given port r o.calls o.after := by
  cases a with
  | refused _ => exact .refl given port r
  | portRefused name_eq here idle => exact .refl_of_absent name_eq ((route?_of_here here port).trans idle) _ _
  | retargeted name_eq here _ => exact .change name_eq (route?_of_here here) fun _ => rfl
  | opened name_eq here idle =>
    exact .change name_eq (route?_of_here here) fun runs => by rw [idle] at runs; cases runs

/-! ## Listeners that run -/

theorem Unobtrusive.nil (r : Registry) : Unobtrusive r [] := fun _ _ _ _ hm => by cases hm

/-- Calls about an address that no host has. -/
theorem unobtrusive_of_found (hs : Sound r) (found : r.subnet.allocate r.inUse = some ip) (about : OnlyAbout ip calls) :
    Unobtrusive r calls := by
  rintro ip' port' ⟨other, entry, there, rfl, -⟩ call hm
  obtain ⟨-, hfree, -⟩ := Subnet.allocate_eq_some.mp found
  refine Call.socket?_ne ?_ port'
  intro heq
  rcases about call hm with hnone | hsome
  · rw [hnone] at heq
    cases heq
  · obtain rfl := Option.some.inj (hsome.symm.trans heq)
    exact hfree ((mem_inUse hs.hosts).mpr ⟨other, entry, there, rfl⟩)

/-- An attempt to listen on a port that is not open. -/
theorem unobtrusive_of_idle (hs : Sound r) (here : r.hosts.get? name = some entry)
    (idle : entry.listeners.get? port = none) (done : Bool) : Unobtrusive r [.listen entry.ip port done] := by
  intro ip' port' hopen call hm heq
  rw [List.mem_singleton.mp hm] at heq
  obtain ⟨rfl, rfl⟩ := Prod.mk.inj (Option.some.inj heq)
  rw [open_here hs here, idle] at hopen
  cases hopen

theorem Creation.unobtrusive (c : Creation r w now given port target o) (hs : Sound r) : Unobtrusive r o.calls := by
  cases c with
  | unread _ => exact .nil r
  | leaseRefused _ _ => exact .nil r
  | exhausted _ _ _ _ => exact .nil r
  | aliasRefused _ _ _ found _ => exact unobtrusive_of_found hs found (.single rfl)
  | hostRefused _ _ _ found _ registers _ =>
    exact unobtrusive_of_found hs found (.cons rfl ((onlyAbout_told registers _).append (.cons rfl (.single rfl))))
  | portRefused _ _ here idle _ => exact unobtrusive_of_idle hs here idle false
  | renewed _ _ _ _ => exact .nil r
  | openedPort _ _ here idle _ => exact unobtrusive_of_idle hs here idle true
  | openedHost _ _ _ found _ registers _ =>
    exact unobtrusive_of_found hs found (.cons rfl ((onlyAbout_told registers _).append (.single rfl)))

theorem Attachment.unobtrusive (a : Attachment r w given port scheme target o) (hs : Sound r) :
    Unobtrusive r o.calls := by
  cases a with
  | refused _ => exact .nil r
  | portRefused _ here idle => exact unobtrusive_of_idle hs here idle false
  | retargeted _ _ _ => exact .nil r
  | opened _ here idle => exact unobtrusive_of_idle hs here idle true

/-- Attaching keeps the address and the lease of its host. -/
theorem Attachment.kept (a : Attachment r w given port scheme target o) (here : r.hosts.get? name = some entry) :
    ∃ entry', o.after.hosts.get? name = some entry' ∧ entry'.ip = entry.ip ∧ entry'.lease = entry.lease := by
  have put : ∀ {name' : Text} {entry' : Entry} (listeners : Table Nat Route), r.hosts.get? name' = some entry' →
      ∃ e, (r.put name' { entry' with listeners := listeners }).hosts.get? name = some e ∧ e.ip = entry.ip ∧
        e.lease = entry.lease := by
    intro name' entry' listeners there
    rw [get?_put]
    split
    · rename_i heq
      obtain rfl := Option.some.inj (here.symm.trans (heq ▸ there))
      exact ⟨_, rfl, rfl, rfl⟩
    · exact ⟨entry, here, rfl, rfl⟩
  cases a with
  | refused _ => exact ⟨entry, here, rfl, rfl⟩
  | portRefused _ _ _ => exact ⟨entry, here, rfl, rfl⟩
  | retargeted _ there _ => exact put _ there
  | opened _ there _ => exact put _ there

/-! ## Runs -/

/-- The host that an operation is about, as it is given, if it is about one. -/
def Operation.host? : Operation → Option Text
  | .create _ host _ _ => some host
  | .attach host _ _ _ => some host
  | .delete host => some host
  | _ => none

/-- The port that an operation opens or sends elsewhere. -/
def Operation.port? : Operation → Option Nat
  | .create _ _ port _ => some port
  | .attach _ port _ _ => some port
  | _ => none

/-- The calls of the next step. -/
def History.callsOf (s : History) (step : Step) : List Call :=
  (step.operation.perform s.registry step.conditions).2.calls

theorem next_staysWith {s : History} {step : Step} (hs : Sound s.registry) (hhost : step.operation.host? = some given) :
    StaysWith given s.registry (s.callsOf step) (s.next step).registry := by
  obtain ⟨op, w⟩ := step
  cases op with
  | create now host port target =>
    obtain rfl := Option.some.inj hhost
    exact (create_creation s.registry w now host port target).staysWith hs
  | attach host port scheme target =>
    obtain rfl := Option.some.inj hhost
    exact (attach_attachment s.registry w host port scheme target).staysWith hs
  | delete host =>
    obtain rfl := Option.some.inj hhost
    exact delete_staysWith hs w host
  | expire now => cases hhost
  | publish host => cases hhost
  | closeAll => cases hhost

theorem next_keepsPorts {s : History} {step : Step} (hs : Sound s.registry)
    (hhost : step.operation.host? = some given) (hport : step.operation.port? = some port) :
    KeepsPorts given port s.registry (s.callsOf step) (s.next step).registry ∧
      Unobtrusive s.registry (s.callsOf step) := by
  obtain ⟨op, w⟩ := step
  cases op with
  | create now host port' target =>
    obtain rfl := Option.some.inj hhost
    obtain rfl := Option.some.inj hport
    have c := create_creation s.registry w now host port' target
    exact ⟨c.keepsPorts, c.unobtrusive hs⟩
  | attach host port' scheme target =>
    obtain rfl := Option.some.inj hhost
    obtain rfl := Option.some.inj hport
    have a := attach_attachment s.registry w host port' scheme target
    exact ⟨a.keepsPorts, a.unobtrusive hs⟩
  | delete host => cases hport
  | expire now => cases hhost
  | publish host => cases hhost
  | closeAll => cases hhost

/-- In every state of every run, whether the operation succeeds or not: creating, attaching and deleting leave every
other host as it is, with its address, lease, routes and record, and make no call about its address, so that its
listeners run on as they did; no other name becomes a host. Creating and attaching keep the routes of the other ports;
no listener that runs is stopped or started again; and a port that is open stays open, without any call to the system.
Attaching keeps the address and the lease of its host. -/
theorem run_isolation (subnet : Subnet) (leaseLength : Duration) (steps : List Step) (step : Step)
    (hhost : step.operation.host? = some given) :
    let s := (History.start subnet leaseLength).run steps
    let r := s.registry
    let r' := (s.next step).registry
    (∀ other, HostName.normalize given ≠ .ok other → r'.hosts.get? other = r.hosts.get? other ∧
      ∀ entry, r.hosts.get? other = some entry → r'.zone.lookup other = r.zone.lookup other ∧
        (∀ call ∈ s.callsOf step, call.address? ≠ some entry.ip) ∧
        ∀ port, (entry.ip, port) ∈ listening (s.next step).calls ↔ (entry.ip, port) ∈ listening s.calls) ∧
    (∀ port, step.operation.port? = some port →
      (∀ name port', HostName.normalize given = .ok name → port' ≠ port →
        r'.route? name port' = r.route? name port') ∧
      (∀ socket ∈ listening s.calls, socket ∈ listening (s.next step).calls ∧
        ∀ call ∈ s.callsOf step, call.socket? ≠ some socket) ∧
      ∀ name, HostName.normalize given = .ok name → (r.route? name port).isSome →
        (r'.route? name port).isSome ∧ s.callsOf step = []) ∧
    ∀ host port scheme target, step.operation = .attach host port scheme target →
      ∀ name entry, r.hosts.get? name = some entry →
        ∃ entry', r'.hosts.get? name = some entry' ∧ entry'.ip = entry.ip ∧ entry'.lease = entry.lease := by
  intro s r r'
  have consistent := run_consistent subnet leaseLength steps
  have hs : Sound r := consistent.sound
  have names := run_hasNames subnet leaseLength steps
  have stays : StaysWith given r (s.callsOf step) r' := next_staysWith hs hhost
  have hcalls : (s.next step).calls = s.calls ++ s.callsOf step := History.calls_next s step
  refine ⟨?_, ?_, ?_⟩
  · intro other hother
    refine ⟨stays.hosts other hother, ?_⟩
    intro entry there
    have quiet := stays.calls other entry hother there
    have key_eq : HostName.zoneKey other = other := (names other entry there).key_eq
    -- the name of a host is the key of its record
    refine ⟨stays.lookup other (by rw [key_eq]; exact hother), quiet, ?_⟩
    intro port
    rw [hcalls]
    exact mem_listening_append fun call hm => Call.socket?_ne (quiet call hm) port
  · intro port hport
    obtain ⟨keeps, unobtrusive⟩ := next_keepsPorts hs hhost hport
    refine ⟨keeps.routes, ?_, keeps.runs⟩
    intro socket hm
    -- listeners run on the ports that are open, and there alone
    have quiet := unobtrusive socket.1 socket.2 ((consistent.listens socket.1 socket.2).mp hm)
    refine ⟨?_, quiet⟩
    rw [hcalls]
    exact (mem_listening_append quiet).mpr hm
  · intro host port scheme target hattach name entry here
    obtain ⟨op, w⟩ := step
    cases hattach
    exact (attach_attachment r w host port scheme target).kept here

/-- Two hosts, each with a listener on port 80. -/
def neighbours : List Step := [creating "a.test" .clear, creating "b.test" .clear]

/-- The listener of a host is sent elsewhere: nothing is asked of the system, and the other host keeps its entry and its
listener. -/
theorem neighbours_undisturbed :
    let s := (History.start smallSubnet (.ofSeconds 60)).run neighbours
    let step : Step := ⟨.attach "a.test" 80 "tcp" "127.0.0.1:4000", .clear⟩
    (s.next step).registry.hosts.get? "b.test" = s.registry.hosts.get? "b.test" ∧
      (.ofOctets 127 1 0 3, 80) ∈ listening (s.next step).calls ∧ s.callsOf step = [] := by
  intro s step
  obtain ⟨hosts, ports, -⟩ := run_isolation smallSubnet (.ofSeconds 60) neighbours step rfl
  have hname : HostName.normalize "a.test" = .ok "a.test".toList := by rfl
  obtain ⟨keeps, -⟩ := hosts "b.test" (by rw [hname]; decide)
  obtain ⟨-, running, silent⟩ := ports 80 rfl
  obtain ⟨-, hcalls⟩ := silent "a.test" hname (by rfl)
  have hlistens : (Ipv4.ofOctets 127 1 0 3, 80) ∈ listening s.calls := by decide +kernel
  exact ⟨keeps, (running _ hlistens).1, hcalls⟩

end Gatehouse.Registry
