import Gatehouse.Proofs.Registry.Invariant
import Gatehouse.Proofs.SystemResolver

/-!
What the host's resolver is told. Main statement: `run_pointing`. In every run it is told of each registered domain
once, when the domain is registered, and of nothing else; registered domains stay; and what is written for a domain is
one file of its own in the configured folder.
-/

namespace Gatehouse.Registry

open Net Host SystemResolver

variable {r r' : Registry} {host domain : Text} {domains known : List Text} {before calls told : List Call}
  {subnet : Subnet}

/-! ## Calls to the resolver -/

def Call.domain? : Call → Option Text
  | .point domain _ => some domain
  | _ => none

/-- The domains that the resolver is told of, whether or not it takes them. -/
def pointed (calls : List Call) : List Text := calls.filterMap Call.domain?

@[simp] theorem pointed_append (calls later : List Call) : pointed (calls ++ later) = pointed calls ++ pointed later :=
  List.filterMap_append

theorem pointed_stops (e : Entry) : pointed e.stops = [] := by
  rw [pointed, Entry.stops, List.filterMap_map, List.filterMap_eq_nil_iff]
  exact fun _ _ => rfl

theorem pointed_start (ip : Ipv4) (told : List Call) {later : List Call} (quiet : pointed later = []) :
    pointed (.addAlias ip true :: told ++ later) = pointed told := by
  rw [pointed_append, quiet, List.append_nil]
  rfl

theorem isDomain_of_last (name : HostName.IsCanonical host) (last : HostName.domain? host = some domain) :
    IsDomain domain := by
  obtain ⟨label, hmem, -, hlabel⟩ := HostName.domain?_eq name
  obtain rfl := Option.some.inj (hlabel.symm.trans last)
  exact isDomain_of_isLabel (HostName.isLabel_of_mem name hmem) (HostName.lower_label name hmem)

/-! ## The invariant -/

/-- The resolver has been told of the registered domains, of each one once; `known` are the first of them. -/
structure Pointing (known : List Text) (r : Registry) (calls : List Call) : Prop where
  told : pointed calls = r.zone.domains
  once : r.zone.domains.Nodup
  labels : ∀ domain ∈ r.zone.domains, IsDomain domain
  grows : known <+: r.zone.domains

theorem Pointing.quiet (h : Pointing known r before) (zone : r'.zone.domains = r.zone.domains)
    (quiet : pointed calls = []) : Pointing known r' (before ++ calls) where
  told := by rw [pointed_append, quiet, List.append_nil, h.told, zone]
  once := zone ▸ h.once
  labels := zone ▸ h.labels
  grows := zone ▸ h.grows

theorem Pointing.register (h : Pointing known r before) (name : HostName.IsCanonical host)
    (registers : Registers r.zone.domains host domains told) (zone : r'.zone.domains = domains)
    (tells : pointed calls = pointed told) : Pointing known r' (before ++ calls) := by
  cases registers with
  | known last there => exact h.quiet zone tells
  | @new domain done last unknown =>
    refine ⟨?_, ?_, ?_, ?_⟩
    · rw [pointed_append, tells, h.told, zone]
      rfl
    · rw [zone, List.nodup_append_comm]
      exact List.nodup_cons.mpr ⟨unknown, h.once⟩
    · rw [zone, List.forall_mem_append, List.forall_mem_singleton]
      exact ⟨h.labels, isDomain_of_last name last⟩
    · rw [zone]
      exact h.grows.trans (List.prefix_append _ _)

theorem Opening.pointing (h : Pointing known r before) (o : Opening r calls r') : Pointing known r' (before ++ calls) := by
  cases o with
  | retarget _ _ _ => exact h.quiet rfl rfl
  | renew _ _ => exact h.quiet rfl rfl
  | openPort _ _ _ => exact h.quiet rfl rfl
  | republish _ => exact h.quiet rfl rfl
  | openHost now port route name free absent found registers =>
    exact h.register name registers rfl (pointed_start _ _ rfl)
  | rollBack port done name found registers => exact h.register name registers rfl (pointed_start _ _ rfl)
  | aliasRefused _ => exact h.quiet rfl rfl
  | listenRefused _ _ => exact h.quiet rfl rfl

theorem Closing.pointing (h : Pointing known r before) (c : Closing r calls r') : Pointing known r' (before ++ calls) := by
  cases c with
  | close here => exact h.quiet rfl (by rw [pointed_append, pointed_stops]; rfl)
  | keep here => exact h.quiet rfl (by rw [pointed_append, pointed_stops]; rfl)

theorem publish_pointing (h : Pointing known r before) (w : Conditions) (host : Text) :
    Pointing known (r.publish w host).after (before ++ (r.publish w host).calls) := by
  rcases publish_cases r w host with ⟨e, -, heq⟩ | ⟨name, domains, told, hname, registers, heq⟩
  · rw [heq]
    exact h.quiet rfl rfl
  · rw [heq]
    exact h.register (HostName.isCanonical_of_normalize hname) registers rfl rfl

/-! ## Runs -/

theorem next_pointing {s : History} (h : Pointing known s.registry s.calls) (sorted : s.registry.hosts.Sorted)
    (step : Step) : Pointing known (s.next step).registry (s.next step).calls :=
  History.next_preserves (fun _ _ _ _ hi o => Opening.pointing hi o) (fun _ _ _ _ hi c => Closing.pointing hi c)
    (fun _ _ w host hi => publish_pointing hi w host)
    (fun _ _ hi _ => ⟨hi.told, hi.once, hi.labels, hi.grows⟩) sorted step h

theorem runFrom_pointing {s : History} (consistent : Consistent subnet s.registry s.calls)
    (h : Pointing known s.registry s.calls) (steps : List Step) :
    Pointing known (s.run steps).registry (s.run steps).calls := by
  refine (History.run_keeps (I := fun s => Consistent subnet s.registry s.calls ∧ Pointing known s.registry s.calls)
    (P := fun _ => True) (fun s step _ hi => ?_) ⟨consistent, h⟩ fun _ _ => trivial).2
  exact ⟨next_consistent hi.1 step, next_pointing hi.2 hi.1.sound.hosts step⟩

/-- In every state of every run: the resolver has been told once of each registered domain, and of no other; domains
stay registered; each of them is a short word of lower-case letters, digits and hyphens; and however the resolver is
configured, what is written for a domain is one file of its own, by its name in the configured folder. -/
theorem run_pointing (subnet : Subnet) (leaseLength : Duration) (steps : List Step) :
    let s := (History.start subnet leaseLength).run steps
    (pointed s.calls = s.registry.zone.domains ∧ (pointed s.calls).Nodup ∧
      ∀ later, s.registry.zone.domains <+: (s.run later).registry.zone.domains) ∧
    ∀ domain ∈ pointed s.calls, IsDomain domain ∧ ∀ (m : Method) (working : Path),
      (∀ other ∈ pointed s.calls, ∀ p, m.place? working domain = some p → m.place? working other = some p →
        domain = other) ∧
      ∀ fs nameserver, ∃ written : Files,
        (∀ p, m.place? working domain ≠ some p → written.content? p = fs.content? p) ∧
        (m.configure fs working domain nameserver = runReload written working m.reload ∨
          ∃ e, m.configure fs working domain nameserver = (.error e, written)) := by
  intro s
  have consistent : Consistent subnet s.registry s.calls := run_consistent subnet leaseLength steps
  have start : Consistent subnet (History.start subnet leaseLength).registry (History.start subnet leaseLength).calls :=
    run_consistent subnet leaseLength []
  have h : Pointing [] s.registry s.calls := by
    refine runFrom_pointing start ⟨rfl, List.nodup_nil, ?_, List.prefix_rfl⟩ steps
    exact fun _ hm => absurd hm List.not_mem_nil
  refine ⟨⟨h.told, h.told ▸ h.once, fun later => ?_⟩, fun domain hm => ?_⟩
  · have here : Pointing s.registry.zone.domains s.registry s.calls := ⟨h.told, h.once, h.labels, List.prefix_rfl⟩
    exact (runFrom_pointing consistent here later).grows
  · have label := h.labels domain (h.told ▸ hm)
    refine ⟨label, fun m working => ⟨fun other _ p hp hother => place?_inj hp hother, fun fs nameserver => ?_⟩⟩
    exact configure_confined label m fs working nameserver

/-- Hosts in two domains, spelled in several ways; the resolver refuses the second domain. -/
def spellings : List Step :=
  [⟨.publish "API.Convox.", .clear⟩, creating "web.CONVOX" .clear,
   creating "Shop.Test" { Conditions.clear with point := fun _ => some "no such folder" }, creating "b.test.." .clear]

theorem spellings_pointed :
    pointed ((History.start smallSubnet (.ofSeconds 60)).run spellings).calls = ["convox".toList, "test".toList] ∧
      IsDomain "test" ∧ ∀ fs nameserver, ∃ written : Files,
        (∀ p, p ≠ ["etc".toList, "resolver".toList, "test".toList] → written.content? p = fs.content? p) ∧
        ((Method.directory "/etc/resolver").configure fs [] "test" nameserver = runReload written [] [] ∨
          ∃ e, (Method.directory "/etc/resolver").configure fs [] "test" nameserver = (.error e, written)) := by
  have hpointed : pointed ((History.start smallSubnet (.ofSeconds 60)).run spellings).calls = ["convox".toList, "test".toList] := by
    decide +kernel
  have hplace : (Method.directory "/etc/resolver").place? [] "test" =
      some ["etc".toList, "resolver".toList, "test".toList] := by
    decide
  obtain ⟨label, hfiles⟩ := (run_pointing smallSubnet (.ofSeconds 60) spellings).2 "test" (by rw [hpointed]; decide)
  refine ⟨hpointed, label, fun fs nameserver => ?_⟩
  obtain ⟨written, hsame, hconfigure⟩ := (hfiles (.directory "/etc/resolver") []).2 fs nameserver
  exact ⟨written, fun p hp => hsame p fun heq => hp (Option.some.inj (heq.symm.trans hplace)), hconfigure⟩

end Gatehouse.Registry
