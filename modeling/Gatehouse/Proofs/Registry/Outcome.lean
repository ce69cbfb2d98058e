import Gatehouse.Proofs.Except
import Gatehouse.Proofs.Registry.Create

/-!
All that creating and attaching can come to: the result, the registry after it and the calls. Main statements:
`create_creation` and `attach_attachment`, from which what an operation keeps follows by cases, without
another look at how it goes about it.
-/

namespace Gatehouse.Registry

open Net

/-! ## What creating comes to -/

/-- What a creation asks for, once it is read: a port of a host that may be registered, with a route. -/
structure Asks (r : Registry) (host : Text) (port : Nat) (target name : Text) (route : Route) : Prop where
  name_eq : HostName.normalize host = .ok name
  port_ne : port ≠ 0
  free : r.controlHost ≠ some name
  route_eq : Route.parseWithDefault target (((r.route? name port).map (·.scheme)).getD .tcp) = .ok route

/-- What a creation can come to. -/
inductive Creation (r : Registry) (w : Conditions) (now : Time) (host : Text) (port : Nat) (target : Text) :
    Outcome Endpoint → Prop where
  /-- It cannot be read, or asks for the name of the control interface. -/
  | unread {fault : Fault} (notBind : ∀ address cause, fault ≠ .bind address cause) :
      Creation r w now host port target (.refuse r fault)
  /-- The lease has no end; an open port has its route by then. -/
  | leaseRefused {name : Text} {route : Route} {fault : Fault} (asks : Asks r host port target name route)
      (refused : leaseEnd now r.leaseLength = .error fault) :
      Creation r w now host port target (.refuse (r.retarget name port route) fault)
  /-- There is no address for a new host. -/
  | exhausted {name : Text} {route : Route} {lease : Time} (asks : Asks r host port target name route)
      (granted : leaseEnd now r.leaseLength = .ok lease) (absent : r.hosts.get? name = none)
      (full : r.subnet.allocate r.inUse = none) :
      Creation r w now host port target (.refuse r (.poolExhausted r.subnet.render))
  /-- The address of a new host is refused. -/
  | aliasRefused {name : Text} {route : Route} {lease : Time} {ip : Ipv4} {detail : Text}
      (asks : Asks r host port target name route) (granted : leaseEnd now r.leaseLength = .ok lease)
      (absent : r.hosts.get? name = none) (found : r.subnet.allocate r.inUse = some ip)
      (refused : w.addAlias ip = some detail) :
      Creation r w now host port target ⟨.error (.interface detail), r, [.addAlias ip false]⟩
  /-- The first listener of a new host does not start. -/
  | hostRefused {name : Text} {route : Route} {lease : Time} {ip : Ipv4} {domains : List Text}
      {told : List Call} {cause : Text} (asks : Asks r host port target name route)
      (granted : leaseEnd now r.leaseLength = .ok lease) (absent : r.hosts.get? name = none)
      (found : r.subnet.allocate r.inUse = some ip) (bound : w.addAlias ip = none)
      (registers : Registers r.zone.domains name domains told)
      (refused : w.listen (Socket.ofIpv4 ip port) = some cause) :
      Creation r w now host port target
        ⟨.error (.bind (Socket.ofIpv4 ip port) cause), { r with zone := { r.zone with domains } },
          .addAlias ip true :: told ++ [.listen ip port false, releaseAlias w ip]⟩
  /-- A further listener of a host does not start. -/
  | portRefused {name : Text} {route : Route} {lease : Time} {entry : Entry} {cause : Text}
      (asks : Asks r host port target name route) (granted : leaseEnd now r.leaseLength = .ok lease)
      (here : r.hosts.get? name = some entry) (idle : entry.listeners.get? port = none)
      (refused : w.listen (Socket.ofIpv4 entry.ip port) = some cause) :
      Creation r w now host port target
        ⟨.error (.bind (Socket.ofIpv4 entry.ip port) cause), r, [.listen entry.ip port false]⟩
  /-- A port that is open gets a route, and its host a lease. -/
  | renewed {name : Text} {route old : Route} {entry : Entry} {lease : Time}
      (asks : Asks r host port target name route) (granted : leaseEnd now r.leaseLength = .ok lease)
      (here : r.hosts.get? name = some entry) (runs : entry.listeners.get? port = some old) :
      Creation r w now host port target
        ⟨.ok ⟨name, entry.ip, port, route, lease⟩,
          r.put name ⟨entry.ip, lease, entry.listeners.insert port route⟩, []⟩
  /-- A further port of a host is opened, and the host gets a lease. -/
  | openedPort {name : Text} {route : Route} {entry : Entry} {lease : Time}
      (asks : Asks r host port target name route) (granted : leaseEnd now r.leaseLength = .ok lease)
      (here : r.hosts.get? name = some entry) (idle : entry.listeners.get? port = none)
      (listens : w.listen (Socket.ofIpv4 entry.ip port) = none) :
      Creation r w now host port target
        ⟨.ok ⟨name, entry.ip, port, route, lease⟩,
          { r with
            zone := r.zone.set name entry.ip
            hosts := r.hosts.insert name ⟨entry.ip, lease, entry.listeners.insert port route⟩ },
          [.listen entry.ip port true]⟩
  /-- A host is opened with its first port. -/
  | openedHost {name : Text} {route : Route} {ip : Ipv4} {domains : List Text} {told : List Call} {lease : Time}
      (asks : Asks r host port target name route) (granted : leaseEnd now r.leaseLength = .ok lease)
      (absent : r.hosts.get? name = none) (found : r.subnet.allocate r.inUse = some ip)
      (bound : w.addAlias ip = none) (registers : Registers r.zone.domains name domains told)
      (listens : w.listen (Socket.ofIpv4 ip port) = none) :
      Creation r w now host port target
        ⟨.ok ⟨name, ip, port, route, lease⟩,
          { r with
            zone := Dns.Zone.set { r.zone with domains } name ip
            hosts := r.hosts.insert name ⟨ip, lease, Table.insert port route []⟩ },
          .addAlias ip true :: told ++ [.listen ip port true]⟩

variable {r : Registry} {w : Conditions} {now : Time} {host name target : Text} {port : Nat} {route : Route}
  {entry : Entry} {lease : Time}

/-! ## Parts of operations -/

theorem startListener_refused {ip : Ipv4} {cause : Text} (h : w.listen (Socket.ofIpv4 ip port) = some cause) :
    startListener w ip port = (.error (.bind (Socket.ofIpv4 ip port) cause), .listen ip port false) := by
  simp only [startListener, h]

theorem startListener_done {ip : Ipv4} (h : w.listen (Socket.ofIpv4 ip port) = none) :
    startListener w ip port = (.ok (), .listen ip port true) := by
  simp only [startListener, h]

theorem setLease_insert (r : Registry) (zone : Dns.Zone) (host : Text) (entry : Entry) (lease : Time) :
    setLease { r with zone, hosts := r.hosts.insert host entry } host lease =
      { r with zone, hosts := r.hosts.insert host { entry with lease := lease } } := by
  simp only [setLease, Table.get?_insert, if_true, Table.insert_insert]

/-- A port whose host is there, with its route and its lease, is reported. -/
theorem reported_insert (r : Registry) (zone : Dns.Zone) (name : Text) (ip : Ipv4) (lease : Time) (port : Nat)
    (route : Route) (listeners : Table Nat Route) :
    reported { r with zone, hosts := r.hosts.insert name ⟨ip, lease, listeners.insert port route⟩ } name port =
      .ok ⟨name, ip, port, route, lease⟩ := by
  simp only [reported, Table.get?_insert, if_true]
  rfl

/-! ## Faults of reading -/

variable {address : Socket} {cause : Text}

theorem normalize_ne_bind (t : Text) : HostName.normalize t ≠ .error (.bind address cause) := by
  intro h
  simp only [HostName.normalize] at h
  repeat' split at h
  all_goals cases h

theorem scheme_parse_ne_bind (t : Text) : Scheme.parse t ≠ .error (.bind address cause) := by
  intro h
  simp only [Scheme.parse] at h
  repeat' split at h
  all_goals cases h

theorem target_parse_ne_bind (t : Text) : Target.parse t ≠ .error (.bind address cause) := by
  intro h
  simp only [Target.parse] at h
  split at h <;> cases h

theorem parseWithDefault_ne_bind (t : Text) (default : Scheme) :
    Route.parseWithDefault t default ≠ .error (.bind address cause) := by
  intro h
  simp only [Route.parseWithDefault] at h
  split at h
  · cases h
  · split at h
    · rcases bind_eq_error h with h | ⟨scheme, h⟩
      · exact scheme_parse_ne_bind _ h
      · rcases bind_eq_error h with h | ⟨target, h⟩
        · exact target_parse_ne_bind _ h
        · cases h
    · rcases bind_eq_error h with h | ⟨target, h⟩
      · exact target_parse_ne_bind _ h
      · cases h

/-! ## Creating -/

theorem grant_eq (granted : leaseEnd now r.leaseLength = .ok lease) :
    r.grant w now name port route =
      ((r.openMissing w now name port route).andThen (·.setLease name lease)).reporting name port := by
  simp only [grant, granted]

theorem grant_openHost (asks : Asks r host port target name route)
    (granted : leaseEnd now r.leaseLength = .ok lease) (absent : r.hosts.get? name = none) :
    Creation r w now host port target (r.grant w now name port route) := by
  rw [grant_eq granted]
  cases found : r.subnet.allocate r.inUse with
  | none =>
    simp only [openMissing, absent, openHost, found]
    exact .exhausted asks granted absent found
  | some ip =>
    cases bound : w.addAlias ip with
    | some detail =>
      simp only [openMissing, absent, openHost, found, bound]
      exact .aliasRefused asks granted absent found bound
    | none =>
      obtain ⟨domains, told, registers, hregister⟩ :=
        registerDomain_ok r w (HostName.isCanonical_of_normalize asks.name_eq)
      cases hlisten : w.listen (Socket.ofIpv4 ip port) with
      | some cause =>
        simp only [openMissing, absent, openHost, found, bound, hregister, startListener_refused hlisten]
        exact .hostRefused asks granted absent found bound registers hlisten
      | none =>
        simp only [openMissing, absent, openHost, found, bound, hregister, startListener_done hlisten,
          Outcome.andThen, Outcome.reporting, setLease_insert, reported_insert]
        exact .openedHost asks granted absent found bound registers hlisten

theorem grant_openPort (asks : Asks r host port target name route)
    (granted : leaseEnd now r.leaseLength = .ok lease) (here : r.hosts.get? name = some entry)
    (idle : entry.listeners.get? port = none) :
    Creation r w now host port target (r.grant w now name port route) := by
  rw [grant_eq granted]
  cases hlisten : w.listen (Socket.ofIpv4 entry.ip port) with
  | some cause =>
    simp only [openMissing, here, idle, openPort, startListener_refused hlisten]
    exact .portRefused asks granted here idle hlisten
  | none =>
    simp only [openMissing, here, idle, openPort, startListener_done hlisten, setRoute_eq_put here, put,
      republish, Outcome.andThen, Outcome.reporting, setLease_insert, reported_insert]
    exact .openedPort asks granted here idle hlisten

/-- Where the route of a port has been set, all that is missing is the lease. -/
theorem grant_setRoute (w : Conditions) (granted : leaseEnd now r.leaseLength = .ok lease)
    (here : r.hosts.get? name = some entry) :
    (r.setRoute name port route).grant w now name port route =
      ⟨.ok ⟨name, entry.ip, port, route, lease⟩,
        r.put name ⟨entry.ip, lease, entry.listeners.insert port route⟩, []⟩ := by
  have granted' : leaseEnd now (r.setRoute name port route).leaseLength = .ok lease := by
    rw [setRoute_eq_put here]
    exact granted
  have hset : setLease (r.put name { entry with listeners := entry.listeners.insert port route }) name lease =
      r.put name ⟨entry.ip, lease, entry.listeners.insert port route⟩ := setLease_insert r r.zone name _ lease
  have hreported : reported (r.put name ⟨entry.ip, lease, entry.listeners.insert port route⟩) name port =
      .ok ⟨name, entry.ip, port, route, lease⟩ := reported_insert r r.zone name _ _ _ _ _
  rw [grant_eq granted', setRoute_eq_put here]
  simp only [openMissing, get?_put, if_true, Table.get?_insert, Outcome.andThen, Outcome.reporting, hset, hreported]

theorem leaseLength_retarget (r : Registry) (host : Text) (port : Nat) (route : Route) :
    (r.retarget host port route).leaseLength = r.leaseLength := by
  simp only [retarget, setRoute]
  split
  · split <;> rfl
  · rfl

theorem retarget_of_isSome (runs : (r.route? name port).isSome) :
    r.retarget name port route = r.setRoute name port route := if_pos runs

theorem retarget_of_none (idle : r.route? name port = none) : r.retarget name port route = r := by
  rw [retarget, idle]
  rfl

theorem create_of_asks (w : Conditions) (now : Time) (asks : Asks r host port target name route) :
    r.create w now host port target = (r.retarget name port route).grant w now name port route := by
  simp only [create, asks.name_eq, if_neg asks.port_ne, if_neg asks.free, asks.route_eq]

/-- A creation on a port that is open gives the port its route and the host a lease, and asks nothing of the system. -/
theorem create_of_runs {old : Route} (w : Conditions) (asks : Asks r host port target name route)
    (granted : leaseEnd now r.leaseLength = .ok lease) (here : r.hosts.get? name = some entry)
    (runs : entry.listeners.get? port = some old) :
    r.create w now host port target =
      ⟨.ok ⟨name, entry.ip, port, route, lease⟩,
        r.put name ⟨entry.ip, lease, entry.listeners.insert port route⟩, []⟩ := by
  have open_ : (r.route? name port).isSome := by
    rw [route?, here]
    exact Option.isSome_of_eq_some runs
  rw [create_of_asks w now asks, retarget_of_isSome open_, grant_setRoute w granted here]

theorem create_creation (r : Registry) (w : Conditions) (now : Time) (host : Text) (port : Nat)
    (target : Text) : Creation r w now host port target (r.create w now host port target) := by
  unfold create
  split
  · rename_i e hname
    exact .unread fun _ _ hbind => normalize_ne_bind host (hbind ▸ hname)
  · rename_i name hname
    split
    · exact .unread fun _ _ hbind => by cases hbind
    rename_i hport
    split
    · exact .unread fun _ _ hbind => by cases hbind
    rename_i hfree
    split
    · rename_i e hroute
      exact .unread fun _ _ hbind => parseWithDefault_ne_bind _ _ (hbind ▸ hroute)
    · rename_i route hroute
      have asks : Asks r host port target name route := ⟨hname, hport, hfree, hroute⟩
      cases granted : leaseEnd now r.leaseLength with
      | error fault =>
        rw [grant, leaseLength_retarget, granted]
        exact .leaseRefused asks granted
      | ok lease =>
        cases here : r.hosts.get? name with
        | none =>
          rw [retarget_of_none (by rw [route?, here]; rfl)]
          exact grant_openHost asks granted here
        | some entry =>
          cases runs : entry.listeners.get? port with
          | none =>
            rw [retarget_of_none (by rw [route?, here]; exact runs)]
            exact grant_openPort asks granted here runs
          | some old =>
            rw [retarget_of_isSome (by rw [route?, here]; exact Option.isSome_of_eq_some runs),
              grant_setRoute w granted here]
            exact .renewed asks granted here runs

/-! ## Attaching -/

/-- What attaching can come to. -/
inductive Attachment (r : Registry) (w : Conditions) (host : Text) (port : Nat) (scheme target : Text) :
    Outcome Endpoint → Prop where
  /-- It cannot be read, or asks for a host that is not there. -/
  | refused (fault : Fault) : Attachment r w host port scheme target (.refuse r fault)
  /-- The listener does not start. -/
  | portRefused {entry : Entry} {name cause : Text} (name_eq : HostName.normalize host = .ok name)
      (here : r.hosts.get? name = some entry) (idle : entry.listeners.get? port = none) :
      Attachment r w host port scheme target
        ⟨.error (.bind (Socket.ofIpv4 entry.ip port) cause), r, [.listen entry.ip port false]⟩
  /-- A port that is open gets a route. -/
  | retargeted {entry : Entry} {name : Text} {route old : Route} (name_eq : HostName.normalize host = .ok name)
      (here : r.hosts.get? name = some entry) (runs : entry.listeners.get? port = some old) :
      Attachment r w host port scheme target
        ⟨.ok ⟨name, entry.ip, port, route, entry.lease⟩,
          r.put name { entry with listeners := entry.listeners.insert port route }, []⟩
  /-- A further port is opened. -/
  | opened {entry : Entry} {name : Text} {route : Route} (name_eq : HostName.normalize host = .ok name)
      (here : r.hosts.get? name = some entry) (idle : entry.listeners.get? port = none) :
      Attachment r w host port scheme target
        ⟨.ok ⟨name, entry.ip, port, route, entry.lease⟩,
          r.put name { entry with listeners := entry.listeners.insert port route },
          [.listen entry.ip port true]⟩

theorem parseAttachment_name {name : Text} {scheme : Text}
    (h : parseAttachment host port scheme target = .ok (name, route)) : HostName.normalize host = .ok name := by
  unfold parseAttachment at h
  obtain ⟨name', hname, h⟩ := bind_eq_ok h
  split at h
  · cases h
  split at h
  · cases h
  obtain ⟨scheme, -, h⟩ := bind_eq_ok h
  obtain ⟨route, -, h⟩ := bind_eq_ok h
  cases h
  exact hname

theorem attach_attachment (r : Registry) (w : Conditions) (host : Text) (port : Nat) (scheme target : Text) :
    Attachment r w host port scheme target (r.attach w host port scheme target) := by
  unfold attach
  split
  · exact .refused _
  · rename_i name route hread
    have name_eq := parseAttachment_name hread
    split
    · exact .refused _
    · rename_i entry here
      have hreported := reported_insert r r.zone name entry.ip entry.lease port route entry.listeners
      cases runs : entry.listeners.get? port with
      | some old =>
        simp only [setRoute_eq_put here, put, Outcome.reporting, hreported]
        exact .retargeted name_eq here runs
      | none =>
        cases hlisten : w.listen (Socket.ofIpv4 entry.ip port) with
        | some cause =>
          simp only [openPort, startListener_refused hlisten]
          exact .portRefused name_eq here runs
        | none =>
          simp only [openPort, startListener_done hlisten, setRoute_eq_put here, put, Outcome.reporting, hreported]
          exact .opened name_eq here runs

end Gatehouse.Registry
