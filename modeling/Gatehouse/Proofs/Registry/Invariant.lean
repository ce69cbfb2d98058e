import Gatehouse.Proofs.Net.Subnet
import Gatehouse.Proofs.Registry.Run

/-!
The invariant of the registry. Main statement: `run_wellFormed`, by which in every state of every run hosts
have addresses of their own from the pool, the report is in order, and the sockets on which listeners run are
those that are reported.
-/

namespace Gatehouse.Registry

open Net

/-! ## Hosts -/

/-- Whether a host holds an address. -/
def Holds (r : Registry) (host : Text) (ip : Ipv4) : Prop :=
  ∃ entry, r.hosts.get? host = some entry ∧ entry.ip = ip

/-- The hosts and their ports are in order, and every host has an address of the pool for itself. -/
structure Sound (r : Registry) : Prop where
  hosts : r.hosts.Sorted
  ports : ∀ {host entry}, r.hosts.get? host = some entry → entry.listeners.Sorted
  pool : ∀ {host entry}, r.hosts.get? host = some entry → r.subnet.InPool entry.ip
  distinct : ∀ {host host' entry entry'}, r.hosts.get? host = some entry →
    r.hosts.get? host' = some entry' → entry.ip = entry'.ip → host = host'

theorem sound_empty (subnet : Subnet) (leaseLength : Duration) : Sound (empty subnet leaseLength) where
  hosts := Table.sorted_nil
  ports h := by cases h
  pool h := by cases h
  distinct h := by cases h

variable {r r' : Registry} {host name : Text} {entry : Entry} {ip : Ipv4} {calls before : List Call}

/-- Only hosts and the subnet count. -/
theorem Sound.congr (h : Sound r) (hosts : r'.hosts = r.hosts) (subnet : r'.subnet = r.subnet) :
    Sound r' := by
  refine ⟨?_, ?_, ?_, ?_⟩
  · rw [hosts]; exact h.hosts
  · rw [hosts]; exact h.ports
  · rw [hosts, subnet]; exact h.pool
  · rw [hosts]; exact h.distinct

theorem holds_put (r : Registry) (host : Text) (entry : Entry) (name : Text) (ip : Ipv4) :
    (r.put host entry).Holds name ip ↔ if name = host then ip = entry.ip else r.Holds name ip := by
  simp only [Holds, get?_put]
  split
  · simp [eq_comm]
  · exact Iff.rfl

/-- A host that gets another lease and other listeners keeps its address. -/
theorem holds_put_same (here : r.hosts.get? host = some entry) (lease : Time) (listeners : Table Nat Route) :
    (r.put host ⟨entry.ip, lease, listeners⟩).Holds name ip ↔ r.Holds name ip := by
  rw [holds_put]
  split
  · rename_i hname
    rw [hname, Holds, here]
    simp [eq_comm]
  · exact Iff.rfl

theorem holds_erase (r : Registry) (host name : Text) (ip : Ipv4) :
    Holds { r with hosts := r.hosts.erase host } name ip ↔ name ≠ host ∧ r.Holds name ip := by
  simp only [Holds, Table.get?_erase]
  split
  · rename_i hname
    simp [hname]
  · rename_i hname
    simp [hname]

theorem mem_inUse (hs : r.hosts.Sorted) : ip ∈ r.inUse ↔ ∃ host, r.Holds host ip := by
  simp only [inUse, Holds, List.mem_map, Prod.exists, Table.mem_iff_get? hs]

/-- A host that is there may get another lease and other listeners. -/
theorem Sound.put (h : Sound r) (here : r.hosts.get? host = some entry) (lease : Time)
    {listeners : Table Nat Route} (hports : listeners.Sorted) :
    Sound (r.put host ⟨entry.ip, lease, listeners⟩) := by
  -- whoever holds an address now held it before
  have holds : ∀ {name e}, (r.put host ⟨entry.ip, lease, listeners⟩).hosts.get? name = some e →
      ∃ e₀, r.hosts.get? name = some e₀ ∧ e.ip = e₀.ip := by
    intro name e hget
    rw [get?_put] at hget
    split at hget
    · rename_i hname
      subst hname
      obtain rfl := Option.some.inj hget
      exact ⟨entry, here, rfl⟩
    · exact ⟨e, hget, rfl⟩
  refine ⟨?_, ?_, ?_, ?_⟩
  · exact Table.sorted_insert host _ h.hosts
  · intro name e hget
    rw [get?_put] at hget
    split at hget
    · obtain rfl := Option.some.inj hget
      exact hports
    · exact h.ports hget
  · intro name e hget
    obtain ⟨e₀, hget₀, heq⟩ := holds hget
    rw [heq]
    exact h.pool hget₀
  · intro name name' e e' hget hget' hsame
    obtain ⟨e₀, hget₀, heq⟩ := holds hget
    obtain ⟨e₁, hget₁, heq'⟩ := holds hget'
    exact h.distinct hget₀ hget₁ (by rw [← heq, ← heq', hsame])

/-- A new host may get an address that is not in use. -/
theorem Sound.insert (h : Sound r) {ip : Ipv4} (hpool : r.subnet.InPool ip) (hfree : ip ∉ r.inUse)
    (lease : Time) {listeners : Table Nat Route} (hports : listeners.Sorted) :
    Sound (r.put host ⟨ip, lease, listeners⟩) := by
  have unused : ∀ {name e}, r.hosts.get? name = some e → e.ip ≠ ip := by
    intro name e hget heq
    exact hfree ((mem_inUse h.hosts).mpr ⟨name, e, hget, heq⟩)
  refine ⟨?_, ?_, ?_, ?_⟩
  · exact Table.sorted_insert host _ h.hosts
  · intro name e hget
    rw [get?_put] at hget
    split at hget
    · obtain rfl := Option.some.inj hget
      exact hports
    · exact h.ports hget
  · intro name e hget
    rw [get?_put] at hget
    split at hget
    · obtain rfl := Option.some.inj hget
      exact hpool
    · exact h.pool hget
  · intro name name' e e' hget hget' hsame
    rw [get?_put] at hget hget'
    split at hget <;> split at hget'
    · rename_i h₁ h₂
      rw [h₁, h₂]
    · obtain rfl := Option.some.inj hget
      exact absurd hsame.symm (unused hget')
    · obtain rfl := Option.some.inj hget'
      exact absurd hsame (unused hget)
    · exact h.distinct hget hget' hsame

theorem Sound.erase (h : Sound r) (host : Text) : Sound { r with hosts := r.hosts.erase host } := by
  have kept : ∀ {name e}, Table.get? (r.hosts.erase host) name = some e →
      r.hosts.get? name = some e := by
    intro name e hget
    rw [Table.get?_erase] at hget
    split at hget
    · cases hget
    · exact hget
  refine ⟨?_, ?_, ?_, ?_⟩
  · exact Table.sorted_erase host h.hosts
  · exact fun hget => h.ports (kept hget)
  · exact fun hget => h.pool (kept hget)
  · exact fun hget hget' => h.distinct (kept hget) (kept hget')

theorem Opening.sound (o : Opening r calls r') (h : Sound r) : Sound r' := by
  cases o with
  | retarget route here _ => exact h.put here _ (Table.sorted_insert _ route (h.ports here))
  | renew lease here => exact h.put here lease (h.ports here)
  | openPort route here _ => exact h.put here _ (Table.sorted_insert _ route (h.ports here))
  | republish _ => exact h.congr rfl rfl
  | openHost now port route _ _ _ found _ =>
    obtain ⟨hpool, hfree, -⟩ := Subnet.allocate_eq_some.mp found
    have hports : (Table.insert port route []).Sorted := Table.sorted_insert port route Table.sorted_nil
    exact (h.insert hpool hfree now hports).congr rfl rfl
  | rollBack _ _ _ _ _ => exact h.congr rfl rfl
  | aliasRefused _ => exact h
  | listenRefused _ _ => exact h

theorem Closing.sound (c : Closing r calls r') (h : Sound r) : Sound r' := by
  cases c with
  | close here => exact (h.erase _).congr rfl rfl
  | keep here => exact h.put here _ Table.sorted_nil

/-! ## Sockets -/

/-- Whether a host listens at an address and a port. -/
def Open (r : Registry) (ip : Ipv4) (port : Nat) : Prop :=
  ∃ host entry, r.hosts.get? host = some entry ∧ entry.ip = ip ∧ (entry.listeners.get? port).isSome

theorem open_put (h : Sound r) (here : r.hosts.get? host = some entry) {lease : Time}
    {listeners : Table Nat Route} {ip : Ipv4} {port : Nat} :
    (r.put host ⟨entry.ip, lease, listeners⟩).Open ip port ↔
      if ip = entry.ip then (listeners.get? port).isSome = true else r.Open ip port := by
  refine ⟨?_, ?_⟩
  · -- an open socket of another host has another address
    intro h'
    obtain ⟨name, e, hget, rfl, hport⟩ := h'
    rw [get?_put] at hget
    split at hget
    · obtain rfl := Option.some.inj hget
      rwa [if_pos rfl]
    · rename_i hname
      rw [if_neg fun heq => hname (h.distinct hget here heq)]
      exact ⟨name, e, hget, rfl, hport⟩
  · split
    · rename_i heq
      intro hport
      exact ⟨host, ⟨entry.ip, lease, listeners⟩, get?_put_self r host _, heq.symm, hport⟩
    · rename_i hne
      intro h'
      obtain ⟨name, e, hget, heq, hport⟩ := h'
      have hname : name ≠ host := by
        intro heq
        subst heq
        rw [here] at hget
        exact hne (by rw [← heq, Option.some.inj hget])
      exact ⟨name, e, by rw [get?_put, if_neg hname, hget], heq, hport⟩

theorem open_here (h : Sound r) (here : r.hosts.get? host = some entry) {port : Nat} :
    r.Open entry.ip port ↔ (entry.listeners.get? port).isSome := by
  refine ⟨?_, ?_⟩
  · intro h'
    obtain ⟨name, e, hget, heq, hport⟩ := h'
    obtain rfl := h.distinct hget here heq
    rw [here] at hget
    rwa [Option.some.inj hget]
  · exact fun hport => ⟨host, entry, here, rfl, hport⟩

theorem open_insert (absent : r.hosts.get? host = none) (entry : Entry) {ip : Ipv4} {port : Nat} :
    (r.put host entry).Open ip port ↔
      (entry.ip = ip ∧ (entry.listeners.get? port).isSome) ∨ r.Open ip port := by
  refine ⟨?_, ?_⟩
  · intro h'
    obtain ⟨name, e, hget, heq, hport⟩ := h'
    rw [get?_put] at hget
    split at hget
    · obtain rfl := Option.some.inj hget
      exact .inl ⟨heq, hport⟩
    · exact .inr ⟨name, e, hget, heq, hport⟩
  · intro h'
    rcases h' with ⟨heq, hport⟩ | ⟨name, e, hget, heq, hport⟩
    · exact ⟨host, entry, by rw [get?_put, if_pos rfl], heq, hport⟩
    · have hname : name ≠ host := by
        intro heq
        subst heq
        rw [absent] at hget
        cases hget
      exact ⟨name, e, by rw [get?_put, if_neg hname, hget], heq, hport⟩

theorem open_erase (h : Sound r) (here : r.hosts.get? host = some entry) {ip : Ipv4} {port : Nat} :
    Open { r with hosts := r.hosts.erase host } ip port ↔ ip ≠ entry.ip ∧ r.Open ip port := by
  refine ⟨?_, ?_⟩
  · intro h'
    obtain ⟨name, e, hget, heq, hport⟩ := h'
    rw [Table.get?_erase] at hget
    split at hget
    · cases hget
    · rename_i hname
      refine ⟨fun hip => hname (h.distinct hget here (heq.trans hip)), name, e, hget, heq, hport⟩
  · intro h'
    obtain ⟨hne, name, e, hget, heq, hport⟩ := h'
    have hname : name ≠ host := by
      intro heq
      subst heq
      rw [here] at hget
      exact hne (by rw [← heq, Option.some.inj hget])
    exact ⟨name, e, (Table.get?_erase name host r.hosts).trans ((if_neg hname).trans hget), heq, hport⟩

/-- The sockets on which listeners run are those of the hosts. -/
def Listens (r : Registry) (calls : List Call) : Prop :=
  ∀ ip port, (ip, port) ∈ listening calls ↔ r.Open ip port

theorem listening_append (before calls : List Call) :
    listening (before ++ calls) = calls.foldl Call.listening (listening before) :=
  List.foldl_append

theorem mem_listening_stops {ip : Ipv4} {port : Nat} (entry : Entry) (before : List Call) :
    (ip, port) ∈ listening (before ++ entry.stops) ↔
      (ip, port) ∈ listening before ∧ ¬ (ip = entry.ip ∧ (entry.listeners.get? port).isSome) := by
  rw [Table.isSome_get?_iff, Entry.stops]
  -- one listener after the other
  generalize entry.listeners = listeners
  induction listeners generalizing before with
  | nil => simp
  | cons listener rest ih =>
    obtain ⟨first, route⟩ := listener
    have happend : before ++ List.map (fun listener => Call.stop entry.ip listener.1) ((first, route) :: rest) =
        (before ++ [.stop entry.ip first]) ++ rest.map (fun listener => Call.stop entry.ip listener.1) := by
      simp
    rw [happend, ih, listening_append]
    simp only [List.foldl_cons, List.foldl_nil, Call.listening, Finset.mem_erase, ne_eq, List.mem_cons,
      Prod.mk.injEq]
    refine ⟨?_, ?_⟩
    · intro h'
      obtain ⟨⟨hne, hm⟩, hrest⟩ := h'
      refine ⟨hm, ?_⟩
      intro h'
      rcases h' with ⟨hip, v, (hfirst | hlater)⟩
      · exact hne ⟨hip, hfirst.1⟩
      · exact hrest ⟨hip, v, hlater⟩
    · intro h'
      obtain ⟨hm, hnone⟩ := h'
      refine ⟨⟨?_, hm⟩, ?_⟩
      · intro h'
        obtain ⟨hip, hport⟩ := h'
        exact hnone ⟨hip, route, .inl ⟨hport, rfl⟩⟩
      · intro h'
        obtain ⟨hip, v, hlater⟩ := h'
        exact hnone ⟨hip, v, .inr hlater⟩

/-- Calls to the system's resolver start and stop no listener. -/
theorem listening_told {domains domains' : List Text} {told : List Call}
    (registers : Registers domains host domains' told) (sockets : Finset (Ipv4 × Nat)) :
    told.foldl Call.listening sockets = sockets := by
  cases registers <;> rfl

theorem Opening.listens (o : Opening r calls r') (h : Sound r) (hl : Listens r before) :
    Listens r' (before ++ calls) := by
  intro ip port
  cases o with
  | retarget route here runs =>
    -- the port was open before, so that nothing changes
    rw [List.append_nil, hl, open_put h here]
    split
    · rename_i heq
      subst heq
      rw [open_here h here, Table.get?_insert]
      split
      · rename_i hport
        rw [hport]
        simpa using runs
      · exact Iff.rfl
    · exact Iff.rfl
  | renew lease here =>
    rw [List.append_nil, hl, open_put h here]
    split
    · rename_i heq
      rw [heq, open_here h here]
    · exact Iff.rfl
  | openPort route here idle =>
    rw [listening_append, open_put h here]
    simp only [List.foldl_cons, List.foldl_nil, Call.listening, Finset.mem_insert, hl ip port, Prod.mk.injEq]
    split
    · rename_i heq
      subst heq
      rw [open_here h here, Table.get?_insert]
      split
      · rename_i hport
        simp [hport]
      · rename_i hport
        simp [hport]
    · rename_i hne
      simp [hne]
  | republish here =>
    rw [List.append_nil]
    exact hl ip port
  | openHost now first route name free absent found registers =>
    -- the new socket is the only one of the new host
    refine Iff.trans ?_ (open_insert absent ⟨_, now, Table.insert first route []⟩).symm
    rw [listening_append]
    simp only [List.cons_append, List.foldl_cons, List.foldl_append, List.foldl_nil, Call.listening,
      listening_told registers, Finset.mem_insert, hl ip port, Prod.mk.injEq, Table.get?_insert]
    refine or_congr_left ?_
    refine ⟨?_, ?_⟩
    · intro h'
      obtain ⟨rfl, rfl⟩ := h'
      exact ⟨rfl, by simp⟩
    · intro h'
      obtain ⟨hip, hport⟩ := h'
      refine ⟨hip.symm, ?_⟩
      by_contra hne
      rw [if_neg hne] at hport
      cases hport
  | rollBack first done _ found registers =>
    rw [listening_append]
    simp only [List.cons_append, List.foldl_cons, List.foldl_append, List.foldl_nil, Call.listening,
      listening_told registers]
    cases done <;> exact hl ip port
  | aliasRefused found =>
    rw [listening_append]
    exact hl ip port
  | listenRefused =>
    rw [listening_append]
    exact hl ip port

theorem Closing.listens (c : Closing r calls r') (h : Sound r) (hl : Listens r before) :
    Listens r' (before ++ calls) := by
  intro ip port
  cases c with
  | close here =>
    -- all listeners of the host have stopped, and no other host has its address
    rw [← List.append_assoc, listening_append]
    simp only [List.foldl_cons, List.foldl_nil, Call.listening, mem_listening_stops, hl ip port]
    refine Iff.trans ?_ (open_erase h here).symm
    refine ⟨?_, ?_⟩
    · intro h'
      obtain ⟨hopen, hnot⟩ := h'
      refine ⟨?_, hopen⟩
      intro heq
      subst heq
      exact hnot ⟨rfl, (open_here h here).mp hopen⟩
    · intro h'
      obtain ⟨hne, hopen⟩ := h'
      exact ⟨hopen, fun hport => hne hport.1⟩
  | keep here =>
    rw [← List.append_assoc, listening_append, open_put h here]
    simp only [List.foldl_cons, List.foldl_nil, Call.listening, mem_listening_stops, hl ip port]
    split
    · rename_i heq
      subst heq
      refine ⟨?_, ?_⟩
      · intro h'
        obtain ⟨hopen, hnot⟩ := h'
        exact absurd ⟨rfl, (open_here h here).mp hopen⟩ hnot
      · intro hport
        cases hport
    · rename_i hne
      refine ⟨?_, ?_⟩
      · exact fun hopen => hopen.1
      · exact fun hopen => ⟨hopen, fun hport => hne hport.1⟩

/-! ## Runs -/

/-- What holds of a registry of a subnet and the calls made for it. -/
structure Consistent (subnet : Subnet) (r : Registry) (calls : List Call) : Prop where
  subnet_eq : r.subnet = subnet
  sound : Sound r
  listens : Listens r calls

variable {subnet : Subnet}

theorem Opening.consistent (h : Consistent subnet r before) (o : Opening r calls r') :
    Consistent subnet r' (before ++ calls) where
  subnet_eq := by cases o <;> exact h.subnet_eq
  sound := o.sound h.sound
  listens := o.listens h.sound h.listens

theorem Closing.consistent (h : Consistent subnet r before) (c : Closing r calls r') :
    Consistent subnet r' (before ++ calls) where
  subnet_eq := by cases c <;> exact h.subnet_eq
  sound := c.sound h.sound
  listens := c.listens h.sound h.listens

theorem publish_consistent (h : Consistent subnet r before) (w : Conditions) (host : Text) :
    Consistent subnet (r.publish w host).after (before ++ (r.publish w host).calls) := by
  rcases publish_cases r w host with ⟨e, -, heq⟩ | ⟨name, domains, told, -, registers, heq⟩
  · rw [heq]
    simpa only [Outcome.refuse, List.append_nil] using h
  · rw [heq]
    refine ⟨h.subnet_eq, h.sound.congr rfl rfl, ?_⟩
    intro ip port
    rw [listening_append, listening_told registers]
    exact h.listens ip port

theorem forget_consistent (h : Consistent subnet r before)
    (hnone : ∀ host entry, r.hosts.get? host = some entry → entry.listeners = []) :
    Consistent subnet { r with hosts := [] } before := by
  refine ⟨h.subnet_eq, (sound_empty subnet r.leaseLength).congr rfl h.subnet_eq, ?_⟩
  intro ip port
  rw [h.listens]
  refine ⟨?_, ?_⟩
  · intro h'
    obtain ⟨host, entry, hget, -, hport⟩ := h'
    rw [hnone host entry hget] at hport
    cases hport
  · intro h'
    obtain ⟨host, entry, hget, -⟩ := h'
    cases hget

theorem next_consistent {s : History} (h : Consistent subnet s.registry s.calls) (step : Step) :
    Consistent subnet (s.next step).registry (s.next step).calls :=
  History.next_preserves (fun _ _ _ _ hi o => Opening.consistent hi o) (fun _ _ _ _ hi c => Closing.consistent hi c)
    (fun _ _ w host hi => publish_consistent hi w host) (fun _ _ hi hnone => forget_consistent hi hnone)
    h.sound.hosts step h

/-- Every state of every run is consistent. -/
theorem run_consistent (subnet : Subnet) (leaseLength : Duration) (steps : List Step) :
    Consistent subnet ((History.start subnet leaseLength).run steps).registry
      ((History.start subnet leaseLength).run steps).calls := by
  refine History.run_keeps (I := fun s => Consistent subnet s.registry s.calls) (P := fun _ => True)
    (fun s step _ h => next_consistent h step) ?_ (fun _ _ => trivial)
  refine ⟨rfl, sound_empty subnet leaseLength, ?_⟩
  intro ip port
  refine ⟨?_, ?_⟩
  · intro hm
    exact absurd hm (Finset.notMem_empty _)
  · intro h'
    obtain ⟨host, entry, hget, -⟩ := h'
    cases hget

/-! ## The report -/

theorem mem_list (h : Sound r) {row : Endpoint} :
    row ∈ r.list ↔ ∃ host entry port route, r.hosts.get? host = some entry ∧
      entry.listeners.get? port = some route ∧ row = entry.endpoint host port route := by
  simp only [list, Entry.endpoints, List.mem_flatMap, List.mem_map, Prod.exists]
  refine ⟨?_, ?_⟩
  · intro h'
    obtain ⟨host, entry, hhost, port, route, hport, rfl⟩ := h'
    have hget := Table.get?_of_mem h.hosts hhost
    exact ⟨host, entry, port, route, hget, Table.get?_of_mem (h.ports hget) hport, rfl⟩
  · intro h'
    obtain ⟨host, entry, port, route, hget, hport, rfl⟩ := h'
    exact ⟨host, entry, Table.mem_of_get? hget, port, route, Table.mem_of_get? hport, rfl⟩

/-- Whether a row comes before another: by host, then by port. -/
def Endpoint.Before (a b : Endpoint) : Prop := a.host < b.host ∨ a.host = b.host ∧ a.port < b.port

theorem list_ordered (h : Sound r) : r.list.Pairwise Endpoint.Before := by
  rw [list, List.pairwise_flatMap]
  refine ⟨?_, ?_⟩
  · intro row hm
    obtain ⟨host, entry⟩ := row
    rw [Entry.endpoints, List.pairwise_map]
    refine (h.ports (Table.get?_of_mem h.hosts hm)).imp ?_
    intro a b hlt
    exact .inr ⟨rfl, hlt⟩
  · refine h.hosts.imp ?_
    intro a b hlt x hx y hy
    obtain ⟨first, -, rfl⟩ := List.mem_map.mp hx
    obtain ⟨second, -, rfl⟩ := List.mem_map.mp hy
    exact .inl hlt

theorem sockets_nodup (h : Sound r) : (r.list.map fun row => (row.ip, row.port)).Nodup := by
  rw [List.Nodup, List.pairwise_map]
  refine (list_ordered h).imp_of_mem ?_
  intro a b ha hb hbefore heq
  obtain ⟨host, entry, port, route, hget, -, rfl⟩ := (mem_list h).mp ha
  obtain ⟨host', entry', port', route', hget', -, rfl⟩ := (mem_list h).mp hb
  obtain ⟨hip, hport⟩ := Prod.mk.inj heq
  -- one address belongs to one host, so only the ports could differ
  obtain rfl := h.distinct hget hget' hip
  rcases hbefore with hlt | ⟨-, hlt⟩
  · exact irrefl_of (· < ·) host hlt
  · exact Nat.ne_of_lt hlt hport

theorem inUse_nodup (h : Sound r) : r.inUse.Nodup := by
  rw [inUse, List.Nodup, List.pairwise_map]
  refine h.hosts.imp_of_mem ?_
  intro a b ha hb hlt heq
  have := h.distinct (Table.get?_of_mem h.hosts ha) (Table.get?_of_mem h.hosts hb) heq
  rw [this] at hlt
  exact irrefl_of (· < ·) b.1 hlt

theorem open_iff_mem_list (h : Sound r) {ip : Ipv4} {port : Nat} :
    r.Open ip port ↔ ∃ row ∈ r.list, row.ip = ip ∧ row.port = port := by
  refine ⟨?_, ?_⟩
  · intro h'
    obtain ⟨host, entry, hget, hip, hport⟩ := h'
    obtain ⟨route, hroute⟩ := Option.isSome_iff_exists.mp hport
    exact ⟨_, (mem_list h).mpr ⟨host, entry, port, route, hget, hroute, rfl⟩, hip, rfl⟩
  · intro h'
    obtain ⟨row, hm, rfl, rfl⟩ := h'
    obtain ⟨host, entry, port, route, hget, hroute, rfl⟩ := (mem_list h).mp hm
    exact ⟨host, entry, hget, rfl, Option.isSome_of_eq_some hroute⟩

/-- In every state of every run: hosts have addresses of their own, which are addresses of the subnet but not
its first, its last or the reserved one; the report is strictly in the order of host and port, each of its
rows shows the address and the lease of the row's host, and no two rows share an address and a port; and
listeners run on exactly the sockets that are reported. -/
theorem run_wellFormed (subnet : Subnet) (leaseLength : Duration) (steps : List Step) :
    let s := (History.start subnet leaseLength).run steps
    (s.registry.inUse.Nodup ∧ ∀ ip ∈ s.registry.inUse,
      subnet.Contains ip ∧ ip ≠ subnet.network ∧ ip ≠ subnet.broadcast ∧ ip ≠ subnet.reserved) ∧
    (s.registry.list.Pairwise Endpoint.Before ∧
      (∀ row ∈ s.registry.list, ∃ entry, s.registry.hosts.get? row.host = some entry ∧
        row.ip = entry.ip ∧ row.lease = entry.lease) ∧
      (s.registry.list.map fun row => (row.ip, row.port)).Nodup) ∧
    ∀ ip port, (ip, port) ∈ listening s.calls ↔ ∃ row ∈ s.registry.list, row.ip = ip ∧ row.port = port := by
  intro s
  have h : Consistent subnet s.registry s.calls := run_consistent subnet leaseLength steps
  refine ⟨⟨inUse_nodup h.sound, ?_⟩, ⟨list_ordered h.sound, ?_, sockets_nodup h.sound⟩, ?_⟩
  · intro ip hm
    obtain ⟨host, entry, hget, rfl⟩ := (mem_inUse h.sound.hosts).mp hm
    have hpool := h.sound.pool hget
    rw [h.subnet_eq] at hpool
    exact ⟨Subnet.contains_of_inPool hpool, Subnet.ne_of_inPool hpool⟩
  · intro row hm
    obtain ⟨host, entry, port, route, hget, -, rfl⟩ := (mem_list h.sound).mp hm
    exact ⟨entry, hget, rfl, rfl⟩
  · intro ip port
    rw [h.listens ip port]
    exact open_iff_mem_list h.sound

/-- Hosts get the lowest addresses in the order in which they come, and are reported in the order of names. -/
example : ((History.start smallSubnet (.ofSeconds 60)).run
    [creating "b.test" .clear, creating "a.test" .clear]).registry.list.map (fun row => (row.host, row.ip)) =
    [("a.test".toList, .ofOctets 127 1 0 3), ("b.test".toList, .ofOctets 127 1 0 2)] := by
  decide +kernel

end Gatehouse.Registry
