import Gatehouse.Backend.Forward
import Gatehouse.Proofs.Backend.Dial
import Gatehouse.Proofs.Route

/-!
What a client of a plain listener is told when its backend cannot be reached. Main statement: `serve_refused`, by which
it is told a single line exactly if no line break stands in a text that the fault quotes: the parts of the target, the
id of an instance, what the system or the far end says.
-/

namespace Gatehouse

open Net

/-! ## Lines -/

namespace Text

variable {t u : Text}

/-- The characters that end a line: line feed, vertical tab, form feed and carriage return, next line, and the separators
of lines and paragraphs. -/
def isLineBreak (c : Char) : Bool :=
  (0x0A ≤ c.toNat && c.toNat ≤ 0x0D) || c.toNat == 0x85 || c.toNat == 0x2028 || c.toNat == 0x2029

def Unbroken (t : Text) : Prop := ∀ c ∈ t, isLineBreak c = false

instance (t : Text) : Decidable (Unbroken t) :=
  decidable_of_iff (t.all (!isLineBreak ·) = true) (by simp [Unbroken, List.all_eq_true])

/-- Whether a text is one line: it ends in a line feed, and no other line break is in it. -/
def IsLine (t : Text) : Prop := ∃ line, t = line ++ ['\n'] ∧ Unbroken line

@[simp]
theorem unbroken_cons {c : Char} : Unbroken (c :: t) ↔ isLineBreak c = false ∧ Unbroken t := List.forall_mem_cons

@[simp]
theorem unbroken_append : Unbroken (t ++ u) ↔ Unbroken t ∧ Unbroken u := List.forall_mem_append

theorem unbroken_after {words : Text} (h : Unbroken words) : Unbroken (words ++ t) ↔ Unbroken t :=
  unbroken_append.trans (and_iff_right h)

theorem isLine_iff : IsLine (t ++ ['\n']) ↔ Unbroken t := by
  refine ⟨?_, fun h => ⟨t, rfl, h⟩⟩
  rintro ⟨line, heq, h⟩
  rwa [List.append_cancel_right heq]

theorem unbroken_join {sep : Text} {pieces : List Text} (hsep : Unbroken sep) (h : ∀ piece ∈ pieces, Unbroken piece) :
    Unbroken (join sep pieces) := by
  induction pieces with
  | nil => exact fun c hm => by cases hm
  | cons piece rest ih =>
    have hpiece := h piece List.mem_cons_self
    cases rest with
    | nil => exact hpiece
    | cons next later =>
      have hrest := ih fun p hp => h p (List.mem_cons_of_mem _ hp)
      rw [join_cons _ _ (List.cons_ne_nil next later)]
      exact unbroken_append.mpr ⟨unbroken_append.mpr ⟨hpiece, hsep⟩, hrest⟩

/-- No digit ends a line. -/
theorem unbroken_toDigits {base : Nat} (hbase : 1 < base) (hsmall : base ≤ 16) (n : Nat) :
    Unbroken (Nat.toDigits base n) := by
  have hdigit : ∀ k < 16, Unbroken [Nat.digitChar k] := by decide
  induction n using Nat.strongRecOn with
  | ind n ih =>
    rw [Nat.toDigits_eq_if hbase]
    split
    · exact hdigit n (by omega)
    · -- the digits of the quotient, and one more
      have hless : n / base < n := Nat.div_lt_self (by omega) hbase
      have hrest : n % base < base := Nat.mod_lt n (by omega)
      exact unbroken_append.mpr ⟨ih (n / base) hless, hdigit _ (by omega)⟩

@[simp]
theorem unbroken_ofNat (n : Nat) : Unbroken (ofNat n) := unbroken_toDigits (by decide) (by decide) n

end Text

open Text

/-! ## Addresses -/

theorem Net.Ipv4.unbroken_render (ip : Ipv4) : Unbroken ip.render :=
  unbroken_join (by decide) (List.forall_mem_map.mpr fun n _ => unbroken_ofNat n)

theorem Net.Ipv6.unbroken_renderGroups (groups : List Nat) : Unbroken (Ipv6.renderGroups groups) :=
  unbroken_join (by decide) (List.forall_mem_map.mpr fun n _ => unbroken_toDigits (by decide) (by decide) n)

theorem Net.Ipv6.unbroken_render (ip : Ipv6) : Unbroken ip.render := by
  unfold Ipv6.render
  split
  · simp [Ipv4.unbroken_render, isLineBreak]
  · simp only
    split
    · simp [unbroken_renderGroups, isLineBreak]
    · exact unbroken_renderGroups _

theorem Net.Socket.unbroken_render (s : Socket) : Unbroken s.render := by
  unfold Socket.render
  split
  · simp [Ipv4.unbroken_render, isLineBreak]
  · by_cases hscope : s.scope = 0
    · simp [hscope, Ipv6.unbroken_render, isLineBreak]
    · simp [hscope, Ipv6.unbroken_render, isLineBreak]

/-! ## Faults and targets -/

theorem Fault.unbroken_backend (detail : Text) : Unbroken (Fault.backend detail).message ↔ Unbroken detail :=
  unbroken_after (by decide)

theorem Fault.unbroken_timeout (detail : Text) : Unbroken (Fault.timeout detail).message ↔ Unbroken detail :=
  unbroken_after (by decide)

namespace Target

/-- The parts of a target that are texts. -/
def parts : Target → List Text
  | fixed host _ => [host]
  | service app kind name _ => [app, kind, name]

theorem unbroken_label (target : Target) : Unbroken target.label ↔ ∀ part ∈ target.parts, Unbroken part := by
  cases target with
  | fixed host port => simp [label, parts, isLineBreak]
  | service app kind name port => simp [label, parts, isLineBreak]

theorem unbroken_render (target : Target) : Unbroken target.render ↔ ∀ part ∈ target.parts, Unbroken part := by
  cases target with
  | fixed host port =>
    rw [render]
    split
    · simp [parts, isLineBreak]
    · simp [parts, isLineBreak]
  | service app kind name port => simp [render, parts, isLineBreak]

/-- The parts of a target stand in the text that it was read of. -/
theorem mem_of_mem_parts {t part : Text} {target : Target} (h : parse t = .ok target) (hm : part ∈ target.parts) {c : Char}
    (hc : c ∈ part) : c ∈ t := by
  have hpath : c ∈ target.path := by
    cases target with
    | fixed host port =>
      obtain rfl := List.mem_singleton.mp hm
      exact hc
    | service app kind name port =>
      simp only [parts, List.mem_cons, List.not_mem_nil, or_false] at hm
      rcases hm with rfl | rfl | rfl <;> simp [path, hc]
  obtain ⟨hsplit, -⟩ := parse_eq_ok_iff.mp h
  obtain ⟨front, digits, htrim, -, hfront, -⟩ := splitPort?_eq_some_iff.mp hsplit
  rw [← hfront] at hpath
  have hmem : c ∈ front := (List.dropWhile_sublist _).subset ((Text.trimEnd_begins _ _).subset hpath)
  refine Text.mem_of_mem_trim ?_
  rw [htrim]
  exact List.mem_append_left _ hmem

end Target

/-- The parts of a route's target stand in the text of the route, without the blanks around it. -/
theorem Route.mem_of_mem_parts {t part : Text} {explicit : Option Scheme} {route : Route} (h : parse t explicit = .ok route)
    (hm : part ∈ route.target.parts) {c : Char} (hc : c ∈ part) : c ∈ Text.trim t := by
  obtain ⟨default, route', hread, htarget⟩ := parseWithDefault_of_parse h
  have hagain : Text.trim (Text.trim t) = Text.trim t := Text.trimBoth_trimBoth Text.isBlank t
  have htrim : parseWithDefault (Text.trim t) default = .ok route' := by
    rwa [parseWithDefault, hagain]
  obtain ⟨address, haddress, hwithin⟩ := target_of_parse htrim
  rw [htarget] at haddress
  exact hwithin c (Target.mem_of_mem_parts haddress hm hc)

namespace Backend

variable {locator : Option Locator} {draw : Nat} {target : Target} {route : Route} {offer : Option Text} {w : Way}
  {label peer quoted : List Text} {d : Dialer} {e : Fault}

/-! ## Ways and what is quoted in their names -/

/-- The ways to a target, with the texts of others that stand in the label of what is dialed and in the name of the far
end. -/
inductive WayTo (locator : Option Locator) (draw : Nat) : Target → Way → List Text → List Text → Prop
  | fixed (host : Text) (port : Nat) : WayTo locator draw (.fixed host port)
      ⟨host, port, (Target.fixed host port).render, (Target.fixed host port).render⟩ [host] [host]
  | address {app kind name : Text} {port : Nat} {l : Locator} {i : Settings.Instance} {ip : Ip} (hlocator : locator = some l)
      (hchoice : Locator.choose draw (l.instances app name) = some i) (hip : i.ip = some ip) :
      WayTo locator draw (.service app kind name port) (.toAddress ⟨ip, port, 0⟩) [] []
  -- the far end goes by the instance that was drawn, not by the one whose address is dialed
  | stream {app kind name : Text} {port : Nat} {l : Locator} {i : Settings.Instance} {ip : Ip} (hlocator : locator = some l)
      (hchoice : Locator.choose draw (l.instances app name) = some i) (hip : i.ip = none)
      (hother : (l.find? app i.id).bind (·.ip) = some ip) :
      WayTo locator draw (.service app kind name port)
        { Way.toAddress ⟨ip, port, 0⟩ with peer := app ++ "/" ++ i.id ++ ":" ++ Text.ofNat port } [] [app, i.id]

theorem WayTo.unbroken_label (h : WayTo locator draw target w label peer) :
    Unbroken w.label ↔ ∀ part ∈ label, Unbroken part := by
  cases h with
  | fixed host port => exact Target.unbroken_render (.fixed host port)
  | address => simp [Way.toAddress, Net.Socket.unbroken_render]
  | stream => simp [Way.toAddress, Net.Socket.unbroken_render]

theorem WayTo.unbroken_peer (h : WayTo locator draw target w label peer) :
    Unbroken w.peer ↔ ∀ part ∈ peer, Unbroken part := by
  cases h with
  | fixed host port => exact Target.unbroken_render (.fixed host port)
  | address => simp [Way.toAddress, Net.Socket.unbroken_render]
  | stream => simp [isLineBreak]

/-- Why there is no way to a target: no locator, no instance, or one that is not reached, with the texts of others in what
is said of it. -/
inductive NoWay (locator : Option Locator) (draw : Nat) : Target → Fault → List Text → Prop
  | unlocated (app kind name : Text) (port : Nat) (hlocator : locator = none) :
      NoWay locator draw (.service app kind name port) (.noBackend (Target.service app kind name port).label)
        [app, kind, name]
  | vacant {app kind name : Text} {port : Nat} {l : Locator} (hlocator : locator = some l)
      (hchoice : Locator.choose draw (l.instances app name) = none) :
      NoWay locator draw (.service app kind name port) (.noBackend (Target.service app kind name port).label)
        [app, kind, name]
  | unreachable {app kind name : Text} {port : Nat} {l : Locator} {i : Settings.Instance} (hlocator : locator = some l)
      (hchoice : Locator.choose draw (l.instances app name) = some i) (hip : i.ip = none)
      (hother : (l.find? app i.id).bind (·.ip) = none) :
      NoWay locator draw (.service app kind name port)
        (.backend ("instance " ++ i.id ++ " of " ++ app ++ " is not reachable")) [i.id, app]

theorem way_of_wayTo (h : WayTo locator draw target w label peer) : way locator draw target = .ok w := by
  cases h with
  | fixed host port => rfl
  | address hlocator hchoice hip => simp only [way, hlocator, hchoice, hip]
  | stream hlocator hchoice hip hother =>
    simp only [way, hlocator, hchoice, hip, Locator.streamAddress, hother]
    rfl

theorem way_of_noWay (h : NoWay locator draw target e quoted) : way locator draw target = .error e := by
  cases h with
  | unlocated app kind name port hlocator => simp only [way, hlocator]
  | vacant hlocator hchoice => simp only [way, hlocator, hchoice]
  | unreachable hlocator hchoice hip hother =>
    simp only [way, hlocator, hchoice, hip, Locator.streamAddress, hother]
    rfl

/-- Either there is a way to a target or a reason for none. -/
theorem wayTo_or_noWay (locator : Option Locator) (draw : Nat) (target : Target) :
    (∃ w label peer, WayTo locator draw target w label peer) ∨ ∃ e quoted, NoWay locator draw target e quoted := by
  cases target with
  | fixed host port => exact .inl ⟨_, _, _, .fixed host port⟩
  | service app kind name port =>
    cases hlocator : locator with
    | none => exact .inr ⟨_, _, .unlocated app kind name port rfl⟩
    | some l =>
      cases hchoice : Locator.choose draw (l.instances app name) with
      | none => exact .inr ⟨_, _, .vacant rfl hchoice⟩
      | some i =>
        cases hip : i.ip with
        | some ip => exact .inl ⟨_, _, _, .address rfl hchoice hip⟩
        | none =>
          cases hother : (l.find? app i.id).bind (·.ip) with
          | none => exact .inr ⟨_, _, .unreachable rfl hchoice hip hother⟩
          | some ip => exact .inl ⟨_, _, _, .stream rfl hchoice hip hother⟩

theorem NoWay.unbroken_message (h : NoWay locator draw target e quoted) :
    Unbroken e.message ↔ ∀ part ∈ quoted, Unbroken part := by
  cases h with
  | unlocated app kind name port => exact (unbroken_after (by decide)).trans (Target.unbroken_label _)
  | vacant => exact (unbroken_after (by decide)).trans (Target.unbroken_label _)
  | unreachable =>
    have hfront : Unbroken "instance " := by decide
    have hmiddle : Unbroken " of " := by decide
    have hback : Unbroken " is not reachable" := by decide
    simp only [Fault.unbroken_backend, unbroken_append, hfront, hmiddle, hback, true_and, and_true]
    simp

/-! ## Failures -/

/-- Why a route is not connected, with the texts of others in what is said of it: there is no way to its target, the system
refuses the connection, TLS does not come about, or the time limit passes, before there is a connection or while the
handshake is still going on. -/
inductive Dialer.Fails (d : Dialer) (draw : Nat) (route : Route) (offer : Option Text) : Fault → List Text → Prop
  | noWay {e : Fault} {quoted : List Text} (h : NoWay d.locator draw route.target e quoted) :
      Fails d draw route offer e quoted
  | refused {w : Way} {label peer : List Text} {detail : Text} (h : WayTo d.locator draw route.target w label peer)
      (hnetwork : d.network w.host w.port = .failed detail) :
      Fails d draw route offer (.backend (w.label ++ ": " ++ detail)) (label ++ [detail])
  | late {w : Way} {label peer : List Text} (h : WayTo d.locator draw route.target w label peer)
      (hnetwork : d.network w.host w.port = .pending) :
      Fails d draw route offer (lateFault route.target d.connectMillis) route.target.parts
  | unnamed {w : Way} {label peer : List Text} (h : WayTo d.locator draw route.target w label peer)
      (hnetwork : d.network w.host w.port = .established) (htls : route.scheme.terminatesTls = true)
      (hname : canBeNamed (serverName route.target) = false) :
      Fails d draw route offer (.backend "invalid server name: invalid dns name") []
  | unsettled {w : Way} {label peer : List Text} {detail : Text} (h : WayTo d.locator draw route.target w label peer)
      (hnetwork : d.network w.host w.port = .established) (htls : route.scheme.terminatesTls = true)
      (hname : canBeNamed (serverName route.target) = true) (hpeer : d.handshake w.peer offer = .failed detail) :
      Fails d draw route offer (.backend ("TLS handshake with " ++ w.peer ++ " failed: " ++ detail)) (peer ++ [detail])
  | stalled {w : Way} {label peer : List Text} (h : WayTo d.locator draw route.target w label peer)
      (hnetwork : d.network w.host w.port = .established) (htls : route.scheme.terminatesTls = true)
      (hname : canBeNamed (serverName route.target) = true) (hpeer : d.handshake w.peer offer = .pending) :
      Fails d draw route offer (lateFault route.target d.connectMillis) route.target.parts

/-- A connection fails for these reasons and for no other. -/
theorem connect_eq_error_iff : d.connect draw route offer = .error e ↔ ∃ quoted, d.Fails draw route offer e quoted := by
  constructor
  · intro hfail
    rcases wayTo_or_noWay d.locator draw route.target with ⟨w, label, peer, hway⟩ | ⟨e', quoted, hnone⟩
    · simp only [Dialer.connect, Dialer.dial, way_of_wayTo hway] at hfail
      cases hnetwork : d.network w.host w.port with
      | failed detail =>
        simp only [hnetwork] at hfail
        obtain rfl := Except.error.inj hfail
        exact ⟨_, .refused hway hnetwork⟩
      | pending =>
        simp only [hnetwork] at hfail
        obtain rfl := Except.error.inj hfail
        exact ⟨_, .late hway hnetwork⟩
      | established =>
        simp only [hnetwork] at hfail
        split at hfail
        · rename_i htls
          split at hfail
          · rename_i hname
            split at hfail
            · cases hfail
            · rename_i detail hpeer
              obtain rfl := Except.error.inj hfail
              exact ⟨_, .unsettled hway hnetwork htls hname hpeer⟩
            · rename_i hpeer
              obtain rfl := Except.error.inj hfail
              exact ⟨_, .stalled hway hnetwork htls hname hpeer⟩
          · rename_i hname
            obtain rfl := Except.error.inj hfail
            exact ⟨_, .unnamed hway hnetwork htls (Bool.eq_false_iff.mpr hname)⟩
        · cases hfail
    · simp only [Dialer.connect, Dialer.dial, way_of_noWay hnone] at hfail
      obtain rfl := Except.error.inj hfail
      exact ⟨quoted, .noWay hnone⟩
  · rintro ⟨quoted, hfail⟩
    cases hfail with
    | noWay h => simp only [Dialer.connect, Dialer.dial, way_of_noWay h]
    | refused h hnetwork => simp only [Dialer.connect, Dialer.dial, way_of_wayTo h, hnetwork]
    | late h hnetwork => simp only [Dialer.connect, Dialer.dial, way_of_wayTo h, hnetwork]
    | unnamed h hnetwork htls hname => simp [Dialer.connect, Dialer.dial, way_of_wayTo h, hnetwork, htls, hname]
    | unsettled h hnetwork htls hname hpeer =>
      simp only [Dialer.connect, Dialer.dial, way_of_wayTo h, hnetwork, htls, hname, hpeer, if_true]
    | stalled h hnetwork htls hname hpeer =>
      simp only [Dialer.connect, Dialer.dial, way_of_wayTo h, hnetwork, htls, hname, hpeer, if_true]

theorem unbroken_lateFault (target : Target) (millis : Nat) :
    Unbroken (lateFault target millis).message ↔ ∀ part ∈ target.parts, Unbroken part := by
  have hfront : Unbroken "dialing " := by decide
  have hmiddle : Unbroken " took longer than " := by decide
  have hback : Unbroken "s" := by decide
  simp only [lateFault, Fault.unbroken_timeout, unbroken_append, hfront, hmiddle, hback, unbroken_ofNat,
    Target.unbroken_render, true_and, and_true]

/-- What is said of a failure is free of line breaks exactly if all that it quotes is. -/
theorem Dialer.Fails.unbroken_message (h : d.Fails draw route offer e quoted) :
    Unbroken e.message ↔ ∀ part ∈ quoted, Unbroken part := by
  cases h with
  | noWay h => exact h.unbroken_message
  | refused h =>
    have hmiddle : Unbroken ": " := by decide
    simp only [Fault.unbroken_backend, unbroken_append, hmiddle, h.unbroken_label, and_true]
    simp [or_imp, forall_and]
  | late => exact unbroken_lateFault route.target d.connectMillis
  | unnamed => exact iff_of_true (by decide) (by simp)
  | unsettled h =>
    have hfront : Unbroken "TLS handshake with " := by decide
    have hmiddle : Unbroken " failed: " := by decide
    simp only [Fault.unbroken_backend, unbroken_append, hfront, hmiddle, h.unbroken_peer, true_and, and_true]
    simp [or_imp, forall_and]
  | stalled => exact unbroken_lateFault route.target d.connectMillis

/-! ## Where the quoted texts come from -/

/-- The texts of others that dialing may meet: the ids of instances, and what the system and the far ends say of their
failures. -/
inductive Dialer.Says (d : Dialer) (offer : Option Text) : Text → Prop
  | id {l : Locator} {service : Text × List Settings.Instance} {i : Settings.Instance} (hlocator : d.locator = some l)
      (hservice : service ∈ l.services) (hm : i ∈ service.2) : Says d offer i.id
  | system {host detail : Text} {port : Nat} (h : d.network host port = .failed detail) : Says d offer detail
  | peer {peer detail : Text} (h : d.handshake peer offer = .failed detail) : Says d offer detail

theorem says_id {l : Locator} {app name : Text} {i : Settings.Instance} (hlocator : d.locator = some l)
    (hchoice : Locator.choose draw (l.instances app name) = some i) : d.Says offer i.id := by
  have hm := Locator.mem_of_choose hchoice
  rw [Locator.instances] at hm
  cases hlookup : l.services.lookup (Locator.key app name) with
  | none =>
    rw [hlookup] at hm
    cases hm
  | some instances =>
    rw [hlookup] at hm
    obtain ⟨front, back, hservices, -⟩ := List.lookup_eq_some_iff.mp hlookup
    exact .id hlocator (hservices ▸ List.mem_append_right front List.mem_cons_self) hm

theorem WayTo.quoted_from (h : WayTo d.locator draw target w label peer) :
    ∀ part ∈ label ++ peer, part ∈ target.parts ∨ d.Says offer part := by
  cases h with
  | fixed host port => exact fun part hm => .inl (by simpa [Target.parts] using hm)
  | address => exact fun part hm => by cases hm
  | stream hlocator hchoice =>
    have hid : d.Says offer _ := says_id hlocator hchoice
    simp [Target.parts, hid]

theorem NoWay.quoted_from (h : NoWay d.locator draw target e quoted) :
    ∀ part ∈ quoted, part ∈ target.parts ∨ d.Says offer part := by
  cases h with
  | unlocated => exact fun part hm => .inl hm
  | vacant => exact fun part hm => .inl hm
  | unreachable hlocator hchoice =>
    have hid : d.Says offer _ := says_id hlocator hchoice
    simp [Target.parts, hid]

/-- What is quoted is a part of the target, or what someone says. -/
theorem Dialer.Fails.quoted_from (h : d.Fails draw route offer e quoted) :
    ∀ part ∈ quoted, part ∈ route.target.parts ∨ d.Says offer part := by
  intro part hm
  cases h with
  | noWay h => exact h.quoted_from part hm
  | refused h hnetwork =>
    rcases List.mem_append.mp hm with hm | hm
    · exact h.quoted_from part (List.mem_append_left _ hm)
    · obtain rfl := List.mem_singleton.mp hm
      exact .inr (.system hnetwork)
  | late => exact .inl hm
  | unnamed => cases hm
  | unsettled h hnetwork htls hname hpeer =>
    rcases List.mem_append.mp hm with hm | hm
    · exact h.quoted_from part (List.mem_append_right _ hm)
    · obtain rfl := List.mem_singleton.mp hm
      exact .inr (.peer hpeer)
  | stalled => exact .inl hm

/-! ## What a client is told -/

theorem isLine_diagnostic : IsLine (diagnostic e) ↔ Unbroken e.message := by
  have hfront : Unbroken "error: " := by decide
  have hend : diagnostic e = "error: " ++ e.message ++ ['\n'] := rfl
  rw [hend, isLine_iff, unbroken_after hfront]

theorem utf8_diagnostic (e : Fault) :
    Text.utf8 (diagnostic e) = Text.utf8 "error: " ++ Text.utf8 e.message ++ [0x0A] := by
  have hparts : diagnostic e = "error: " ++ e.message ++ "\n" := rfl
  have hend : Text.utf8 "\n" = [0x0A] := by rfl
  rw [hparts, Text.utf8_append, Text.utf8_append, hend]

/-- A client whose backend cannot be reached is told why, with `error: ` in front and a line feed behind, whatever the
reason is. This is a line exactly if no line break stands in the texts of others that the reason quotes. These are parts
of the target, ids of instances, and what the system or the far end says; so if no line break stands in the text of the
route, blanks around it apart, nor in those others, it is a line. -/
theorem serve_refused {t : Text} {explicit : Option Scheme} (h : Route.parse t explicit = .ok route) (d : Dialer)
    (draw : Nat) (offer : Option Text) :
    (∀ e, d.connect draw route offer = .error e ↔ ∃ quoted, d.Fails draw route offer e quoted) ∧
    ∀ e quoted, d.Fails draw route offer e quoted →
      serve d draw route offer = .error (Text.utf8 (diagnostic e)) ∧
      Text.utf8 (diagnostic e) = Text.utf8 "error: " ++ Text.utf8 e.message ++ [0x0A] ∧
      (IsLine (diagnostic e) ↔ ∀ part ∈ quoted, Unbroken part) ∧
      (∀ part ∈ quoted, part ∈ route.target.parts ∨ d.Says offer part) ∧
      (Unbroken (Text.trim t) → (∀ said, d.Says offer said → Unbroken said) → IsLine (diagnostic e)) := by
  refine ⟨fun e => connect_eq_error_iff, fun e quoted hfails => ?_⟩
  have hconnect := connect_eq_error_iff.mpr ⟨quoted, hfails⟩
  have hline : IsLine (diagnostic e) ↔ ∀ part ∈ quoted, Unbroken part := isLine_diagnostic.trans hfails.unbroken_message
  refine ⟨by rw [serve, hconnect], utf8_diagnostic e, hline, hfails.quoted_from, fun htext hsaid => hline.mpr ?_⟩
  intro part hm
  rcases hfails.quoted_from part hm with hpart | hothers
  · exact fun c hc => htext c (Route.mem_of_mem_parts h hpart hc)
  · exact hsaid part hothers

/-- A gateway without services and without a network. -/
def stranded : Dialer := ⟨none, 2000, noNetwork, fun _ _ => .agreed none⟩

theorem stranded_line : ∃ route e, Route.parse "tcp://127.0.0.1:1" none = .ok route ∧
    serve stranded 0 route none = .error (Text.utf8 (diagnostic e)) ∧
    diagnostic e = "error: backend error: 127.0.0.1:1: Network is unreachable (os error 101)\n".toList ∧
    IsLine (diagnostic e) := by
  have hread : Route.parse "tcp://127.0.0.1:1" none = .ok ⟨.tcp, .fixed "127.0.0.1" 1⟩ := by rfl
  have hway : WayTo none 0 (.fixed "127.0.0.1" 1) _ ["127.0.0.1"] ["127.0.0.1"] := .fixed "127.0.0.1" 1
  have hfails : stranded.Fails 0 ⟨.tcp, .fixed "127.0.0.1" 1⟩ none _ _ := .refused hway rfl
  obtain ⟨hserve, -, hline, -⟩ := (serve_refused hread stranded 0 none).2 _ _ hfails
  exact ⟨_, _, hread, hserve, by rfl, hline.mpr (by decide)⟩

/-- Line breaks within the text of a target are accepted, and then break what a client is told. -/
theorem brokenTarget_told : ¬ ∀ (t : Text) (explicit : Option Scheme) (route : Route) (d : Dialer) (draw : Nat)
    (offer : Option Text) (e : Fault), Route.parse t explicit = .ok route → route.scheme.isHttp = false →
      d.connect draw route offer = .error e →
        serve d draw route offer = .error (Text.utf8 (diagnostic e)) ∧ IsLine (diagnostic e) := by
  intro always
  have hread : Route.parse "a\nb/service/web:80" none = .ok ⟨.tcp, .service "a\nb" "service" "web" 80⟩ := by rfl
  have hfail : stranded.connect 0 ⟨.tcp, .service "a\nb" "service" "web" 80⟩ none =
      .error (.noBackend "a\nb/service/web") := by rfl
  obtain ⟨-, hline⟩ := always _ none _ stranded 0 none _ hread rfl hfail
  have hbroken : ¬ Unbroken (Fault.noBackend "a\nb/service/web").message := by decide
  exact hbroken (isLine_diagnostic.mp hline)

end Backend
end Gatehouse
