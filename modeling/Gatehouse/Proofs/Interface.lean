import Gatehouse.Interface.Run
import Mathlib.Data.Finset.Basic
import Mathlib.Data.List.Induction

/-!
What the commands for an interface leave configured. Main statement: `lifetime_addresses`, on an interface that is
created, gets and loses addresses, and is removed again. Its removal takes all addresses with it, except on the loopback
of systems with `ifconfig`, where it is no command at all and every address stays until it is removed by itself.
-/

namespace Gatehouse.Interface

open Net

/-! ## What commands do -/

/-- The addresses that are configured on a host, each with its interface. -/
abbrev Addresses := Finset (Text × Ipv4)

/-- What is configured after a command that succeeds. An interface is made without addresses, and goes with those that
it has. -/
def Command.carryOut (there : Addresses) : Command → Addresses
  | linkAdd _ => there
  | linkUp _ => there
  | linkDelete name => there.filter (·.1 ≠ name)
  | addressAdd name ip => insert (name, ip) there
  | addressDelete name ip => there.erase (name, ip)
  | create _ => there
  | assign name ip => insert (name, ip) there
  | destroy name => there.filter (·.1 ≠ name)
  | bind name ip => insert (name, ip) there
  | unbind name ip => there.erase (name, ip)

def configured (there : Addresses) (commands : List Command) : Addresses := commands.foldl Command.carryOut there

/-- The commands that do what is asked if all of them succeed. -/
def commands (family : Family) (request : Request) : List Command := (plan family request).map Stage.command

variable {host : Behaviour} {family : Family} {record : List Command} {requests : List Request} {there : Addresses}
  {name other : Text} {ip base : Ipv4}

theorem runCommand_eq_ok {c : Command} (h : (runCommand host record c).1 = .ok ()) :
    runCommand host record c = (.ok (), record ++ [c]) := by
  rw [runCommand] at h ⊢
  split at h
  case h_1 => cases h
  case h_2 => rfl
  case h_3 => cases h

theorem runStages_cons {stage : Stage} {rest : List Stage} {record' : List Command}
    (h : runCommand host record stage.command = (.ok (), record')) :
    runStages host record (stage :: rest) = runStages host record' rest := by
  rw [runStages, h]

theorem runStages_eq_ok {stages : List Stage} (h : (runStages host record stages).1 = .ok ()) :
    runStages host record stages = (.ok (), record ++ stages.map Stage.command) := by
  induction stages generalizing record with
  | nil => rw [runStages, List.map_nil, List.append_nil]
  | cons stage rest ih =>
    -- a command that fails, with or without one to undo it, fails the whole plan
    have hfirst : (runCommand host record stage.command).1 = .ok () := by
      rw [runStages] at h
      split at h
      case h_1 _ _ ran => rw [ran]
      case h_2 => split at h <;> cases h
    have hran := runCommand_eq_ok hfirst
    rw [runStages_cons hran] at h ⊢
    rw [ih h, List.append_assoc]
    rfl

theorem performAll_cons (host : Behaviour) (family : Family) (record : List Command) (request : Request)
    (rest : List Request) :
    performAll host family record (request :: rest) =
      let first := perform host family record request
      let later := performAll host family first.2 rest
      (first.1 :: later.1, later.2) := rfl

/-- Where all that is asked is done, the commands that were run are those that do it, in order. -/
theorem performAll_record (h : ∀ result ∈ (performAll host family record requests).1, result = .ok ()) :
    (performAll host family record requests).2 = record ++ requests.flatMap (commands family) := by
  induction requests generalizing record with
  | nil => exact (List.append_nil record).symm
  | cons request rest ih =>
    rw [performAll_cons] at h ⊢
    obtain ⟨hfirst, hrest⟩ := List.forall_mem_cons.mp h
    have hran : perform host family record request = (.ok (), record ++ commands family request) :=
      runStages_eq_ok hfirst
    rw [ih hrest, hran, List.flatMap_cons, List.append_assoc]

/-! ## What requests do -/

/-- Whether an interface is one that its system has anyway, and that is never made nor taken away. -/
def Permanent (family : Family) (name : Text) : Prop := family = .darwin ∧ isLoopback name = true

instance : Decidable (Permanent family name) := inferInstanceAs (Decidable (_ ∧ _))

theorem configured_create (managed : family ≠ .unmanaged) (there : Addresses) (name : Text) (base : Ipv4) :
    configured there (commands family (.create name base)) = insert (name, base) there := by
  cases family with
  | linux => rfl
  | darwin =>
    rw [commands, plan]
    split <;> rfl
  | unmanaged => exact absurd rfl managed

theorem configured_destroy (managed : family ≠ .unmanaged) (there : Addresses) (name : Text)
    (free : ¬ Permanent family name) :
    configured there (commands family (.destroy name)) = there.filter (·.1 ≠ name) := by
  cases family with
  | linux => rfl
  | darwin =>
    rw [commands, plan, if_neg fun loopback => free ⟨rfl, loopback⟩]
    rfl
  | unmanaged => exact absurd rfl managed

/-- A permanent interface keeps its addresses: removing it is no command. -/
theorem commands_destroy (permanent : Permanent family name) : commands family (.destroy name) = [] := by
  obtain ⟨rfl, loopback⟩ := permanent
  rw [commands, plan, if_pos loopback, List.map_nil]

/-! ## Addresses that come and go -/

/-- An address is added to an interface or removed from it. -/
inductive Change where
  | add (ip : Ipv4)
  | remove (ip : Ipv4)
  deriving DecidableEq

def Change.request (name : Text) : Change → Request
  | add ip => .addAlias name ip
  | remove ip => .removeAlias name ip

def Change.carryOut (name : Text) (there : Addresses) : Change → Addresses
  | add ip => insert (name, ip) there
  | remove ip => there.erase (name, ip)

theorem configured_change (managed : family ≠ .unmanaged) (there : Addresses) (name : Text) (change : Change) :
    configured there (commands family (change.request name)) = change.carryOut name there := by
  cases family with
  | linux => cases change <;> rfl
  | darwin => cases change <;> rfl
  | unmanaged => exact absurd rfl managed

variable {changes : List Change}

theorem mem_changes_other (distinct : other ≠ name) :
    (other, ip) ∈ changes.foldl (Change.carryOut name) there ↔ (other, ip) ∈ there := by
  induction changes generalizing there with
  | nil => rfl
  | cons change rest ih =>
    rw [List.foldl_cons, ih]
    have hne : ∀ ip', (other, ip) ≠ (name, ip') := fun ip' heq => distinct (congrArg Prod.fst heq)
    cases change with
    | add ip' => exact Finset.mem_insert.trans (or_iff_right (hne ip'))
    | remove ip' => exact Finset.mem_erase.trans (and_iff_right (hne ip'))

/-- An address is added, and not removed after that. -/
def Stays (changes : List Change) (ip : Ipv4) : Prop :=
  ∃ before later, changes = before ++ .add ip :: later ∧ .remove ip ∉ later

theorem stays_cons {change : Change} :
    Stays (change :: changes) ip ↔ Stays changes ip ∨ change = .add ip ∧ .remove ip ∉ changes := by
  refine ⟨?_, ?_⟩
  · rintro ⟨before, later, heq, hlater⟩
    cases before with
    | nil =>
      obtain ⟨rfl, rfl⟩ := List.cons.inj heq
      exact .inr ⟨rfl, hlater⟩
    | cons first before =>
      obtain ⟨rfl, rfl⟩ := List.cons.inj heq
      exact .inl ⟨before, later, rfl, hlater⟩
  · rintro (⟨before, later, rfl, hlater⟩ | ⟨rfl, hlater⟩)
    · exact ⟨change :: before, later, rfl, hlater⟩
    · exact ⟨[], changes, rfl, hlater⟩

theorem not_stays_nil : ¬ Stays [] ip := by
  rintro ⟨before, later, heq, -⟩
  exact absurd heq.symm (List.append_ne_nil_of_right_ne_nil _ (List.cons_ne_nil _ _))

instance decidableStays : ∀ changes ip, Decidable (Stays changes ip)
  | [], _ => isFalse not_stays_nil
  | _ :: rest, ip =>
    have := decidableStays rest ip
    decidable_of_iff _ stays_cons.symm

/-- After changes to an interface it has the addresses that were added and not removed since, and those of before that
were not removed. -/
theorem mem_changes :
    (name, ip) ∈ changes.foldl (Change.carryOut name) there ↔
      Stays changes ip ∨ (name, ip) ∈ there ∧ .remove ip ∉ changes := by
  induction changes generalizing there with
  | nil => exact ⟨fun hm => .inr ⟨hm, List.not_mem_nil⟩, fun h => (h.resolve_left not_stays_nil).1⟩
  | cons change rest ih =>
    rw [List.foldl_cons, ih, stays_cons]
    cases change with
    | add ip' =>
      have hmem : (name, ip) ∈ Change.carryOut name there (.add ip') ↔ ip' = ip ∨ (name, ip) ∈ there := by
        simp [Change.carryOut, eq_comm]
      have hremove : Change.remove ip ∉ Change.add ip' :: rest ↔ Change.remove ip ∉ rest := by simp
      rw [hmem, hremove, Change.add.injEq]
      tauto
    | remove ip' =>
      have hmem : (name, ip) ∈ Change.carryOut name there (.remove ip') ↔ ip ≠ ip' ∧ (name, ip) ∈ there := by
        simp [Change.carryOut]
      have hremove : Change.remove ip ∉ Change.remove ip' :: rest ↔ ip ≠ ip' ∧ Change.remove ip ∉ rest := by simp
      have hother : Change.remove ip' ≠ .add ip := nofun
      rw [hmem, hremove]
      tauto

/-! ## The life of an interface -/

/-- An interface is created with a first address, its addresses change, and it is removed. -/
def lifetime (name : Text) (base : Ipv4) (changes : List Change) : List Request :=
  .create name base :: changes.map (Change.request name) ++ [.destroy name]

theorem configured_append (there : Addresses) (first later : List Command) :
    configured there (first ++ later) = configured (configured there first) later :=
  List.foldl_append

theorem configured_changes (managed : family ≠ .unmanaged) (there : Addresses) (name : Text) (changes : List Change) :
    configured there ((changes.map (Change.request name)).flatMap (commands family)) =
      changes.foldl (Change.carryOut name) there := by
  induction changes generalizing there with
  | nil => rfl
  | cons change rest ih =>
    rw [List.map_cons, List.flatMap_cons, configured_append, configured_change managed, ih, List.foldl_cons]

/-- What is configured when an interface is about to be removed, and the commands that remove it. -/
theorem configured_lifetime (managed : family ≠ .unmanaged) (there : Addresses) (name : Text) (base : Ipv4)
    (changes : List Change) :
    configured there ((lifetime name base changes).flatMap (commands family)) =
      configured (changes.foldl (Change.carryOut name) (insert (name, base) there))
        (commands family (.destroy name)) := by
  rw [lifetime, List.flatMap_append, List.flatMap_cons, configured_append, configured_append,
    configured_create managed, configured_changes managed, List.flatMap_singleton]

/-- An interface that was created, got and lost addresses and was removed again, all of it with success, leaves none of
its addresses behind, and those of other interfaces as they were. A permanent interface is left, its first address apart,
with the addresses that were added and not removed since, and with those of before that were not removed. -/
theorem lifetime_addresses (host : Behaviour) (family : Family) (managed : family ≠ .unmanaged)
    (record : List Command) (there : Addresses) (name : Text) (base : Ipv4) (changes : List Change)
    (success : ∀ result ∈ (performAll host family record (lifetime name base changes)).1, result = .ok ()) :
    let after := configured there
      ((performAll host family record (lifetime name base changes)).2.drop record.length)
    (∀ other ip, other ≠ name → ((other, ip) ∈ after ↔ (other, ip) ∈ there)) ∧
    (¬ Permanent family name → ∀ ip, (name, ip) ∉ after) ∧
    (Permanent family name → ∀ ip, ip ≠ base →
      ((name, ip) ∈ after ↔ Stays changes ip ∨ (name, ip) ∈ there ∧ .remove ip ∉ changes)) := by
  intro after
  have hafter : after = configured (changes.foldl (Change.carryOut name) (insert (name, base) there))
      (commands family (.destroy name)) := by
    rw [← configured_lifetime managed]
    show configured there (List.drop record.length _) = _
    rw [performAll_record success, List.drop_left]
  have hbase : ∀ other ip, (other, ip) ≠ (name, base) →
      ((other, ip) ∈ insert (name, base) there ↔ (other, ip) ∈ there) :=
    fun other ip hne => Finset.mem_insert.trans (or_iff_right hne)
  by_cases permanent : Permanent family name
  · rw [commands_destroy permanent] at hafter
    refine ⟨fun other ip distinct => ?_, fun free => absurd permanent free, fun _ ip hip => ?_⟩
    · rw [hafter, configured, List.foldl_nil, mem_changes_other distinct]
      exact hbase other ip fun heq => distinct (congrArg Prod.fst heq)
    · rw [hafter, configured, List.foldl_nil, mem_changes, hbase name ip fun heq => hip (congrArg Prod.snd heq)]
  · rw [configured_destroy managed _ name permanent] at hafter
    refine ⟨fun other ip distinct => ?_, fun _ ip hm => ?_, fun fixed => absurd fixed permanent⟩
    · rw [hafter, Finset.mem_filter, and_iff_left distinct, mem_changes_other distinct]
      exact hbase other ip fun heq => distinct (congrArg Prod.fst heq)
    · rw [hafter, Finset.mem_filter] at hm
      exact hm.2 rfl

/-- A host on which every command succeeds. -/
def succeeding : Behaviour := fun _ _ => .succeeded

def loopback : Text := "lo0"

def virtual : Text := "vip0"

def baseIp : Ipv4 := .ofOctets 10 42 84 1

def aliasIp : Ipv4 := .ofOctets 10 42 84 2

def otherIp : Ipv4 := .ofOctets 10 42 84 3

/-- The commands of an interface that gets two addresses and loses the second one, with what comes of each request. -/
def thinning (name : Text) : List (Except Text Unit) × List Command :=
  performAll succeeding .darwin [] (lifetime name baseIp [.add aliasIp, .add otherIp, .remove otherIp])

/-- The same addresses come to a loopback and to another interface, which leaves none of them. -/
theorem thinning_addresses :
    (thinning virtual).1 = List.replicate 5 (.ok ()) ∧ (thinning loopback).1 = List.replicate 5 (.ok ()) ∧
      (∀ ip, (virtual, ip) ∉ configured ∅ (thinning virtual).2) ∧
      (loopback, aliasIp) ∈ configured ∅ (thinning loopback).2 ∧
      (loopback, otherIp) ∉ configured ∅ (thinning loopback).2 := by
  have hvirtual : (thinning virtual).1 = List.replicate 5 (.ok ()) := rfl
  have hloopback : (thinning loopback).1 = List.replicate 5 (.ok ()) := rfl
  have gone := (lifetime_addresses succeeding .darwin nofun [] ∅ virtual baseIp _
    fun _ hm => List.eq_of_mem_replicate (hvirtual ▸ hm)).2.1 (by decide)
  have left := (lifetime_addresses succeeding .darwin nofun [] ∅ loopback baseIp _
    fun _ hm => List.eq_of_mem_replicate (hloopback ▸ hm)).2.2 (by decide)
  refine ⟨hvirtual, hloopback, gone, ?_, ?_⟩
  · exact (left aliasIp (by decide)).mpr (by decide)
  · exact fun hm => absurd ((left otherIp (by decide)).mp hm) (by decide)

/-- A loopback keeps its addresses when it is removed: one that was added, and, even where all those are removed, the
first. -/
theorem loopback_remains :
    (performAll succeeding .darwin [] (lifetime loopback baseIp [.add aliasIp])).1 = [.ok (), .ok (), .ok ()] ∧
      configured ∅ (performAll succeeding .darwin [] (lifetime loopback baseIp [.add aliasIp])).2 =
        {(loopback, baseIp), (loopback, aliasIp)} ∧
      configured ∅ (performAll succeeding .darwin [] (lifetime loopback baseIp [.add aliasIp, .remove aliasIp])).2 =
        {(loopback, baseIp)} := by
  refine ⟨rfl, ?_, ?_⟩
  · decide
  · decide

end Gatehouse.Interface
