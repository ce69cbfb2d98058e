import Gatehouse.Proofs.Except
import Gatehouse.Proofs.HostName
import Gatehouse.Route.Scheme
import Gatehouse.Settings.Check

/-!
Whether programs can start with settings that pass the checks. Main statement: `check_starts`. The checks read the
subnet, the forwarder and the addresses of the balancer with the parsers that read them later. Of the address of the
name server, the name of the control interface and the schemes of the balancer they say nothing, and of the domain less
than a host name asks for: `mistaken_accepted` has settings that pass them and do not start.
-/

namespace Gatehouse.Settings

open Net

variable {s : Settings}

/-! ## What the checks say -/

theorem require_ok {condition : Bool} {c : Complaint} (h : require condition c = .ok ()) : condition = true := by
  rw [require] at h
  split at h
  case isTrue hcondition => exact hcondition
  case isFalse => cases h

theorem Server.check_ok {s : Server} (h : s.check = .ok ()) : ∃ pool, s.pool = .ok pool ∧ pool.capacity ≠ 0 := by
  obtain ⟨pool, hpool, h⟩ := bind_eq_ok h
  obtain ⟨⟨⟩, hcapacity, -⟩ := bind_eq_ok h
  exact ⟨pool, hpool, of_decide_eq_true (require_ok hcapacity)⟩

theorem Listener.check_ok {l : Listener} (h : l.check = .ok ()) : ∃ socket, l.bindSocket = .ok socket := by
  obtain ⟨socket, hsocket, -⟩ := bind_eq_ok h
  exact ⟨socket, hsocket⟩

theorem check_ok (h : s.check = .ok ()) :
    (∃ pool, s.server.pool = .ok pool ∧ pool.capacity ≠ 0) ∧ (∃ socket, s.dns.forwarderSocket = .ok socket) ∧
      ∀ l ∈ s.listeners, ∃ socket, l.bindSocket = .ok socket := by
  obtain ⟨⟨⟩, hserver, h⟩ := bind_eq_ok h
  obtain ⟨forwarder, hforwarder, h⟩ := bind_eq_ok h
  obtain ⟨⟨⟩, -, hlisteners⟩ := bind_eq_ok h
  exact ⟨Server.check_ok hserver, ⟨forwarder, hforwarder⟩,
    fun l hl => Listener.check_ok (forM_eq_ok hlisteners l hl)⟩

/-! ## What the parsers read -/

theorem bindSocket_ok_iff {d : Dns} (reserved : Ip) :
    (∃ socket, d.bindSocket reserved = .ok socket) ↔ ∀ text, d.bind = some text → (Ip.parse? text).isSome := by
  rw [Dns.bindSocket]
  cases hbind : d.bind with
  | none => simp
  | some text => cases hip : Ip.parse? text <;> simp [hip]

theorem scheme_parse_ok_iff {t : Text} :
    (∃ scheme, Scheme.parse t = .ok scheme) ↔ ∃ scheme : Scheme, Text.lower t = scheme.name := by
  refine ⟨?_, ?_⟩
  · rintro ⟨scheme, h⟩
    simp only [Scheme.parse] at h
    split_ifs at h with htcp hhttp hhttps htls
    · exact ⟨.tcp, htcp⟩
    · exact ⟨.http, hhttp⟩
    · exact ⟨.https, hhttps⟩
    · exact ⟨.tls, htls⟩
  · rintro ⟨scheme, h⟩
    refine ⟨scheme, ?_⟩
    simp only [Scheme.parse, h]
    cases scheme <;> rfl

theorem char_of_control {t : Text} (h : ∀ c ∈ t, HostName.isLabelChar c = true ∨ c = '.') :
    ∀ c ∈ ("api" ++ '.' :: t : Text), HostName.isLabelChar c = true ∨ c = '.' := by
  intro c hm
  rcases List.mem_append.mp hm with hm | hm
  · have hlabel : HostName.isLabel "api" = true := by decide
    exact .inl (HostName.char_of_isLabel hlabel hm)
  · rcases List.mem_cons.mp hm with rfl | hm
    · exact .inr rfl
    · exact h c hm

/-- The name of the control interface in a domain that is a label with dots around it; the dots in front stay. -/
theorem canonical_control {domain : Text} (h : HostName.isLabel (Text.trimBoth (· == '.') domain) = true) :
    HostName.canonical ("api." ++ domain) =
      "api" ++ '.' :: Text.lower (domain.takeWhile (· == '.') ++ Text.trimBoth (· == '.') domain) := by
  have hsplit : ("api." ++ domain : Text) = "api" ++ '.' :: domain := rfl
  have hchars : ∀ c ∈ domain, HostName.isLabelChar c = true ∨ c = '.' := fun c hm =>
    (Text.mem_trimBoth hm).imp (HostName.char_of_isLabel h) fun hdot => beq_iff_eq.mp hdot
  have hends := Text.trimEnd_eq_append (HostName.label_ne_nil h)
  have hne : Text.trimEnd (· == '.') ('.' :: domain) = '.' :: Text.trimEnd (· == '.') domain := by
    refine Text.trimEnd_append (· == '.') ['.'] ?_
    rw [hends]
    exact List.append_ne_nil_of_right_ne_nil _ (HostName.label_ne_nil h)
  rw [hsplit, HostName.canonical_of_chars (char_of_control hchars), HostName.zoneKey, HostName.withoutEndDots,
    Text.trimEnd_append _ _ (hne ▸ List.cons_ne_nil _ _), hne, hends]
  rfl

theorem byteLength_control {label : Text} (h : HostName.isLabel label = true) :
    Text.byteLength ("api" ++ '.' :: label) ≤ HostName.maxLength := by
  have hascii : ∀ c ∈ ("api" ++ '.' :: label : Text), c.toNat < 128 := by
    intro c hm
    rcases char_of_control (fun c hm => .inl (HostName.char_of_isLabel h hm)) c hm with hc | rfl
    · exact HostName.toNat_lt_of_isLabelChar hc
    · decide
  calc Text.byteLength ("api" ++ '.' :: label) = label.length + 4 := by
        rw [Text.byteLength_of_ascii hascii, List.length_append, List.length_cons]
        exact Nat.add_comm 3 _
    _ ≤ HostName.maxLabelLength + 4 := Nat.add_le_add_right (HostName.length_label h) 4
    _ ≤ HostName.maxLength := by decide

/-- The control interface gets a name in a domain if the domain is a label, with no dot in front. -/
theorem normalize_control_iff (domain : Text) :
    (∃ name, HostName.normalize ("api." ++ domain) = .ok name ∧
        HostName.domain? name = some (Text.lower (Text.trimBoth (· == '.') domain))) ↔
      domain.head? ≠ some '.' ∧ HostName.isLabel (Text.trimBoth (· == '.') domain) = true := by
  refine ⟨?_, ?_⟩
  · rintro ⟨name, hname, hdomain⟩
    have hcanonical := HostName.isCanonical_of_normalize hname
    obtain ⟨last, hmem, -, hlast⟩ := HostName.domain?_eq hcanonical
    obtain rfl := Option.some.inj (hlast.symm.trans hdomain)
    have hlabel := (HostName.isLabel_lower _).symm.trans (HostName.isLabel_of_mem hcanonical hmem)
    refine ⟨fun hdot => ?_, hlabel⟩
    -- with a dot in front, the name has an empty label after the first
    obtain ⟨rest, rfl⟩ := List.head?_eq_some_iff.mp hdot
    have hempty : [] ∈ Text.split '.' name := by
      rw [← (HostName.normalize_eq_ok_iff.mp hname).2, canonical_control hlabel, Text.split_append (by decide)]
      exact List.mem_cons_of_mem _ List.mem_cons_self
    exact HostName.label_ne_nil (HostName.isLabel_of_mem hcanonical hempty) rfl
  · rintro ⟨hhead, hlabel⟩
    have hfront : domain.takeWhile (· == '.') = [] := by
      cases domain with
      | nil => rfl
      | cons c rest => exact List.takeWhile_cons_of_neg fun hc => hhead (congrArg some (beq_iff_eq.mp hc))
    have hname := canonical_control hlabel
    rw [hfront, List.nil_append] at hname
    have hlower := (HostName.isLabel_lower _).trans hlabel
    have hpieces := @Text.split_append '.' "api" (by decide) (Text.lower (Text.trimBoth (· == '.') domain))
    rw [Text.split_of_not_mem (HostName.dot_not_mem_label hlower)] at hpieces
    refine ⟨_, HostName.normalize_eq_ok_iff.mpr ⟨?_, rfl⟩, HostName.domain?_eq_some_iff.mpr ⟨?_, ?_⟩⟩
    · rw [HostName.isValid, hname, hpieces, decide_eq_true (byteLength_control hlower), List.all_cons, List.all_cons,
        hlower]
      decide
    · exact HostName.label_ne_nil hlower
    · rw [HostName.zoneKey_canonical, hname, hpieces]
      rfl

/-! ## Starting -/

/-- Whether the programs get every value that they derive from settings when they start. -/
structure Starts (s : Settings) (reserved : Ip) : Prop where
  pool : ∃ subnet, s.server.pool = .ok subnet
  forwarder : ∃ socket, s.dns.forwarderSocket = .ok socket
  nameServer : ∃ socket, s.dns.bindSocket reserved = .ok socket
  control : ∃ name, HostName.normalize s.server.controlName = .ok name ∧
    (s.server.controlHost = none →
      HostName.domain? name = some (Text.lower (Text.trimBoth (· == '.') s.server.domain)))
  listeners : ∀ l ∈ s.listeners,
    (∃ socket, l.bindSocket = .ok socket) ∧ ∃ scheme, Scheme.parse l.scheme = .ok scheme

/-- What the checks leave open: an address for the name server that is none, a domain that is no label or has a dot in
front, a name for the control interface that is no host name, a listener of the balancer without a scheme. -/
structure Usable (s : Settings) : Prop where
  nameServer : ∀ text, s.dns.bind = some text → (Ip.parse? text).isSome
  domain : s.server.controlHost = none →
    s.server.domain.head? ≠ some '.' ∧ HostName.isLabel (Text.trimBoth (· == '.') s.server.domain) = true
  controlHost : ∀ host, s.server.controlHost = some host → HostName.isValid (HostName.canonical host) = true
  schemes : ∀ l ∈ s.listeners, ∃ scheme : Scheme, Text.lower l.scheme = scheme.name

/-- Settings that pass the checks have a subnet with addresses for endpoints, a forwarder and addresses for the balancer.
The programs start with them if what the checks leave open is usable too. -/
theorem check_starts (checked : s.check = .ok ()) (reserved : Ip) :
    (∃ pool, s.server.pool = .ok pool ∧ pool.capacity ≠ 0) ∧ (∃ socket, s.dns.forwarderSocket = .ok socket) ∧
      (∀ l ∈ s.listeners, ∃ socket, l.bindSocket = .ok socket) ∧ (s.Starts reserved ↔ s.Usable) := by
  obtain ⟨⟨pool, hpool, hcapacity⟩, hforwarder, hlisteners⟩ := check_ok checked
  refine ⟨⟨pool, hpool, hcapacity⟩, hforwarder, hlisteners, ?_, ?_⟩
  · intro starts
    obtain ⟨name, hname, hdomain⟩ := starts.control
    refine ⟨(bindSocket_ok_iff reserved).mp starts.nameServer, fun hnone => ?_, fun host hsome => ?_,
      fun l hl => scheme_parse_ok_iff.mp (starts.listeners l hl).2⟩
    · rw [Server.controlName, hnone] at hname
      exact (normalize_control_iff _).mp ⟨name, hname, hdomain hnone⟩
    · rw [Server.controlName, hsome] at hname
      exact (HostName.normalize_eq_ok_iff.mp hname).1
  · intro usable
    refine ⟨⟨pool, hpool⟩, hforwarder, (bindSocket_ok_iff reserved).mpr usable.nameServer, ?_,
      fun l hl => ⟨hlisteners l hl, scheme_parse_ok_iff.mpr (usable.schemes l hl)⟩⟩
    rw [Server.controlName]
    cases hhost : s.server.controlHost with
    | none =>
      obtain ⟨name, hname, hdomain⟩ := (normalize_control_iff _).mpr (usable.domain hhost)
      exact ⟨name, hname, fun _ => hdomain⟩
    | some host =>
      exact ⟨_, HostName.normalize_eq_ok_iff.mpr ⟨usable.controlHost host hhost, rfl⟩, nofun⟩

/-- Settings in which much is set, and all of it usable. -/
def edge : Settings where
  server := { domain := "Dev." }
  dns := { bind := some "127.0.0.1" }
  listeners := [{ bind := "0.0.0.0:443", scheme := "HTTPS", target := "10.0.0.10:8080" }]

theorem edge_starts : edge.check = .ok () ∧ edge.Starts (.v4 (.ofOctets 10 42 84 1)) := by
  have checked : edge.check = .ok () := by rfl
  have schemes : ∀ l ∈ edge.listeners, ∃ scheme : Scheme, Text.lower l.scheme = scheme.name := by
    intro l hl
    obtain rfl := List.mem_singleton.mp hl
    exact ⟨.https, rfl⟩
  refine ⟨checked, (check_starts checked _).2.2.2.mpr ⟨?_, fun _ => by decide, nofun, schemes⟩⟩
  rintro text ⟨⟩
  rfl

/-- Settings with one mistake each: the name server's address, the domain, the control interface's name, a scheme. -/
def mistaken : List Settings :=
  [{ dns := { bind := some "127.0.0.1:53" } },
   { server := { domain := ".convox" } },
   { server := { domain := "my_domain" } },
   { server := { controlHost := some "api_host.convox" } },
   { listeners := [{ bind := "0.0.0.0:80", scheme := "gopher", target := "10.0.0.10:8080" }] }]

/-- They all pass the checks, and the programs start with none of them. -/
theorem mistaken_accepted : mistaken.Forall fun s => s.check = .ok () ∧ ¬ s.Starts (.v4 (.ofOctets 10 42 84 1)) := by
  have unusable : ∀ s ∈ mistaken, s.check = .ok () ∧ ¬ s.Usable := by
    simp only [mistaken, List.forall_mem_cons]
    refine ⟨⟨rfl, fun h => ?_⟩, ⟨rfl, fun h => ?_⟩, ⟨rfl, fun h => ?_⟩, ⟨rfl, fun h => ?_⟩, ⟨rfl, fun h => ?_⟩, nofun⟩
    · exact absurd (h.nameServer _ rfl) (by decide)
    · exact (h.domain rfl).1 rfl
    · exact absurd (h.domain rfl).2 (by decide)
    · exact absurd (h.controlHost _ rfl) (by decide)
    · obtain ⟨scheme, hscheme⟩ := h.schemes _ List.mem_cons_self
      cases scheme <;> exact absurd hscheme (by decide)
  refine List.forall_iff_forall_mem.mpr fun s hs => ?_
  obtain ⟨checked, hunusable⟩ := unusable s hs
  exact ⟨checked, fun starts => hunusable ((check_starts checked _).2.2.2.mp starts)⟩

end Gatehouse.Settings
