import Gatehouse.Backend.Dial
import Gatehouse.Proofs.Table
import Gatehouse.Settings.Check

/-!
Where dialing a service leads. Main statement: `dial_service`, by which the connection leads to an address of the
service or, from an instance without one, to that of an instance of the same id in any service of the application;
and by which it never leaves the service exactly if no other service has such an instance.
-/

namespace Gatehouse

open Net Settings

namespace Locator

variable {services order : List (Text × List Instance)} {app name id : Text} {i : Instance}

/-- The addresses that are configured for a service. -/
def addresses (l : Locator) (app name : Text) : List Ip := (l.instances app name).filterMap (·.ip)

theorem mem_addresses {l : Locator} {ip : Ip} (hm : i ∈ l.instances app name) (hip : i.ip = some ip) :
    ip ∈ l.addresses app name :=
  List.mem_filterMap.mpr ⟨i, hm, hip⟩

/-- The instances of a service are the same in every order of the services. -/
theorem instances_perm (hkeys : (services.map (·.1)).Nodup) (perm : order.Perm services) (app name : Text) :
    instances ⟨order⟩ app name = instances ⟨services⟩ app name :=
  congrArg (Option.getD · []) (Table.lookup_perm hkeys perm (key app name))

theorem mem_of_choose {draw : Nat} {instances : List Instance} (h : choose draw instances = some i) : i ∈ instances :=
  List.mem_of_getElem? h

/-- Every instance may be drawn. -/
theorem exists_choose {instances : List Instance} (hm : i ∈ instances) : ∃ draw, choose draw instances = some i := by
  obtain ⟨draw, hlt, hget⟩ := List.mem_iff_getElem.mp hm
  refine ⟨draw, ?_⟩
  rw [choose, Nat.mod_eq_of_lt hlt, List.getElem?_eq_getElem hlt, hget]

/-- What is found by an id is the first instance with it in some service of the application. -/
theorem service_of_find? (h : find? ⟨services⟩ app id = some i) :
    ∃ service ∈ services, (app ++ "/").isPrefixOf service.1 = true ∧ service.2.find? (·.id == id) = some i := by
  rw [find?, instancesOf, List.find?_flatMap] at h
  obtain ⟨service, hm, hfound⟩ := List.exists_of_findSome?_eq_some h
  obtain ⟨hservice, happ⟩ := List.mem_filter.mp hm
  exact ⟨service, hservice, happ, hfound⟩

/-- Any service of the application may come first. -/
theorem find?_of_service {service : Text × List Instance} (hm : service ∈ services)
    (happ : (app ++ "/").isPrefixOf service.1 = true) (hfound : service.2.find? (·.id == id) = some i) :
    ∃ order, order.Perm services ∧ find? ⟨order⟩ app id = some i := by
  refine ⟨service :: services.erase service, (List.perm_cons_erase hm).symm, ?_⟩
  have hfilter : (service :: services.erase service).filter (fun s => (app ++ "/").isPrefixOf s.1) =
      service :: (services.erase service).filter fun s => (app ++ "/").isPrefixOf s.1 := List.filter_cons_of_pos happ
  rw [find?, instancesOf, hfilter, List.flatMap_cons, List.find?_append, hfound, Option.some_or]

end Locator

namespace Backend

variable {services order : List (Text × List Instance)} {app kind name : Text} {port draw : Nat} {w : Way}

/-- Whether a way leads to an address and a port. -/
def Way.LeadsTo (w : Way) (ip : Ip) (port : Nat) : Prop := w.host = ip.render ∧ w.port = port

/-- The ways to a service: to the address of an instance that is drawn, or of one found by its id. -/
theorem way_service_iff {l : Locator} : way (some l) draw (.service app kind name port) = .ok w ↔
    ∃ i, Locator.choose draw (l.instances app name) = some i ∧
      ((∃ ip, i.ip = some ip ∧ w = .toAddress ⟨ip, port, 0⟩) ∨
        (i.ip = none ∧ ∃ j ip, l.find? app i.id = some j ∧ j.ip = some ip ∧
          w = { Way.toAddress ⟨ip, port, 0⟩ with peer := app ++ "/" ++ i.id ++ ":" ++ Text.ofNat port })) := by
  simp only [way]
  cases hchoice : Locator.choose draw (l.instances app name) with
  | none => simp
  | some i =>
    cases hip : i.ip with
    | some ip => simp [hip, eq_comm]
    | none =>
      simp only [Locator.streamAddress]
      cases hfound : l.find? app i.id with
      | none => simp [hip, hfound, bind, Except.bind]
      | some j =>
        cases hother : j.ip with
        | none => simp [hip, hfound, hother, bind, Except.bind]
        | some ip => simp [hip, hfound, hother, bind, Except.bind, eq_comm]

/-- Whether an instance of a service that has no address may be taken for one outside of the service: in some service
of the application, the first instance of the same id has an address that is not configured for the service. -/
def MayStray (services : List (Text × List Instance)) (app name : Text) : Prop :=
  ∃ i ∈ (Locator.mk services).instances app name, i.ip = none ∧
    ∃ service ∈ services, (app ++ "/").isPrefixOf service.1 = true ∧
      ∃ j ip, service.2.find? (·.id == i.id) = some j ∧ j.ip = some ip ∧
        ∀ own ∈ (Locator.mk services).addresses app name, own.render ≠ ip.render

/-- A way leads to an address of the service, or to that of an instance that is found by the id of one without. -/
theorem leadsTo_of_way (hkeys : (services.map (·.1)).Nodup) (perm : order.Perm services)
    (h : way (some ⟨order⟩) draw (.service app kind name port) = .ok w) :
    (∃ ip ∈ (Locator.mk services).addresses app name, w.LeadsTo ip port) ∨
      ∃ i ∈ (Locator.mk services).instances app name, i.ip = none ∧
        ∃ service ∈ services, (app ++ "/").isPrefixOf service.1 = true ∧
          ∃ j ip, service.2.find? (·.id == i.id) = some j ∧ j.ip = some ip ∧ w.LeadsTo ip port := by
  obtain ⟨i, hchoice, hway⟩ := way_service_iff.mp h
  have hm : i ∈ (Locator.mk services).instances app name := by
    rw [← Locator.instances_perm hkeys perm]
    exact Locator.mem_of_choose hchoice
  rcases hway with ⟨ip, hip, rfl⟩ | ⟨hip, j, ip, hfound, hother, rfl⟩
  · exact .inl ⟨ip, Locator.mem_addresses hm hip, rfl, rfl⟩
  · obtain ⟨service, hservice, happ, hfirst⟩ := Locator.service_of_find? hfound
    exact .inr ⟨i, hm, hip, service, perm.mem_iff.mp hservice, happ, j, ip, hfirst, hother, rfl, rfl⟩

/-- Every instance without an address is drawn in some order in which a service of the application comes first. -/
theorem exists_way (hkeys : (services.map (·.1)).Nodup) {i j : Instance} {ip : Ip}
    (hm : i ∈ (Locator.mk services).instances app name) (hip : i.ip = none) {service : Text × List Instance}
    (hservice : service ∈ services) (happ : (app ++ "/").isPrefixOf service.1 = true)
    (hfirst : service.2.find? (·.id == i.id) = some j) (hother : j.ip = some ip) (kind : Text) (port : Nat) :
    ∃ order draw w, order.Perm services ∧ way (some ⟨order⟩) draw (.service app kind name port) = .ok w ∧
      w.LeadsTo ip port := by
  obtain ⟨order, perm, hfound⟩ := Locator.find?_of_service hservice happ hfirst
  rw [← Locator.instances_perm hkeys perm] at hm
  obtain ⟨draw, hchoice⟩ := Locator.exists_choose hm
  exact ⟨order, draw, _, perm, way_service_iff.mpr ⟨i, hchoice, .inr ⟨hip, j, ip, hfound, hother, rfl⟩⟩, rfl, rfl⟩

theorem confined_iff (hkeys : (services.map (·.1)).Nodup) :
    (∀ order, order.Perm services → ∀ draw w, way (some ⟨order⟩) draw (.service app kind name port) = .ok w →
      ∃ ip ∈ (Locator.mk services).addresses app name, w.LeadsTo ip port) ↔ ¬ MayStray services app name := by
  refine ⟨?_, ?_⟩
  · rintro hconfined ⟨i, hm, hip, service, hservice, happ, j, ip, hfirst, hother, hforeign⟩
    obtain ⟨order, draw, w, perm, hway, hleads⟩ := exists_way hkeys hm hip hservice happ hfirst hother kind port
    obtain ⟨own, hown, hleads'⟩ := hconfined order perm draw w hway
    exact hforeign own hown (hleads'.1.symm.trans hleads.1)
  · intro hstays order perm draw w hway
    rcases leadsTo_of_way hkeys perm hway with hown | ⟨i, hm, hip, service, hservice, happ, j, ip, hfirst, hother, hleads⟩
    · exact hown
    · by_contra hforeign
      refine hstays ⟨i, hm, hip, service, hservice, happ, j, ip, hfirst, hother, ?_⟩
      intro own hown heq
      exact hforeign ⟨own, hown, hleads.1.trans heq.symm, hleads.2⟩

/-- Dialing asks the network for the end of the way only. -/
theorem dial_congr (d : Dialer) (draw : Nat) (target : Target) {network : Network}
    (h : ∀ w, way d.locator draw target = .ok w → network w.host w.port = d.network w.host w.port) :
    { d with network := network }.dial draw target = d.dial draw target := by
  simp only [Dialer.dial]
  cases hway : way d.locator draw target with
  | error e => rfl
  | ok w =>
    simp only [h w hway]

/-- Where dialing a service leads, in every order of the services and with every instance that may be drawn: to the port
and an address of the service, or to that port and the address of an instance with the id of one of the service that
has no address. It never leads outside of the service exactly if no instance may be taken for such a one. Nothing
else is asked of the network. -/
theorem dial_service (hkeys : (services.map (·.1)).Nodup) (app kind name : Text) (port : Nat) :
    (∀ order, order.Perm services → ∀ draw w, way (some ⟨order⟩) draw (.service app kind name port) = .ok w →
      (∃ ip ∈ (Locator.mk services).addresses app name, w.LeadsTo ip port) ∨
        ∃ i ∈ (Locator.mk services).instances app name, i.ip = none ∧
          ∃ service ∈ services, (app ++ "/").isPrefixOf service.1 = true ∧
            ∃ j ip, service.2.find? (·.id == i.id) = some j ∧ j.ip = some ip ∧ w.LeadsTo ip port) ∧
    ((∀ order, order.Perm services → ∀ draw w, way (some ⟨order⟩) draw (.service app kind name port) = .ok w →
      ∃ ip ∈ (Locator.mk services).addresses app name, w.LeadsTo ip port) ↔ ¬ MayStray services app name) ∧
    ∀ (d : Dialer) (draw : Nat) (target : Target) (network : Network),
      (∀ w, way d.locator draw target = .ok w → network w.host w.port = d.network w.host w.port) →
        { d with network := network }.dial draw target = d.dial draw target := by
  refine ⟨?_, confined_iff hkeys, ?_⟩
  · intro order perm draw w h
    exact leadsTo_of_way hkeys perm h
  · intro d draw target network h
    exact dial_congr d draw target h

/-- Two services with instances of different ids. One of the second has no address, and its id is that of another. -/
def apart : List (Text × List Instance) :=
  [("shop/api", [⟨"1", some (.v4 (.ofOctets 127 60 0 2))⟩]),
    ("shop/web", [⟨"2", some (.v4 (.ofOctets 127 60 0 3))⟩, ⟨"2", none⟩])]

/-- The second service is reached in its own address only. -/
theorem apart_confined : (apart.map (·.1)).Nodup ∧
    ∀ order, order.Perm apart → ∀ draw w, way (some ⟨order⟩) draw (.service "shop" "service" "web" 80) = .ok w →
      ∃ ip ∈ (Locator.mk apart).addresses "shop" "web", w.LeadsTo ip 80 := by
  have hkeys : (apart.map (·.1)).Nodup := by decide
  refine ⟨hkeys, (dial_service hkeys "shop" "service" "web" 80).2.1.mpr ?_⟩
  rintro ⟨i, hm, hip, service, hservice, -, j, ip, hfirst, hother, hforeign⟩
  have hid : i.id = "2" := by
    rcases List.mem_cons.mp hm with rfl | hm
    · rfl
    · obtain rfl := List.mem_singleton.mp hm
      rfl
  rw [hid] at hfirst
  rcases List.mem_cons.mp hservice with rfl | hservice
  · cases hfirst
  · obtain rfl := List.mem_singleton.mp hservice
    obtain rfl := Option.some.inj hfirst
    obtain rfl := Option.some.inj hother
    exact hforeign _ (List.mem_singleton_self _) rfl

/-- Two services with instances of one id, one of which has no address. -/
def alike : List (Text × List Instance) :=
  [("shop/api", [⟨"1", some (.v4 (.ofOctets 127 60 0 2))⟩]), ("shop/web", [⟨"1", none⟩])]

/-- Settings with such services are accepted, and what goes to the one without an address goes to the other. -/
theorem alike_stray :
    Settings.check { services := alike } = .ok () ∧
      ∃ w, way (some ⟨alike⟩) 0 (.service "shop" "service" "web" 80) = .ok w ∧ w.host = "127.60.0.2" ∧ w.port = 80 ∧
        ∀ ip ∈ (Locator.mk alike).addresses "shop" "web", ip.render ≠ w.host := by
  refine ⟨by rfl, _, rfl, by decide, rfl, ?_⟩
  intro ip hm
  cases hm

end Backend

end Gatehouse
