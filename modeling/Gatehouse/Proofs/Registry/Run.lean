import Gatehouse.Proofs.Registry.Create
import Gatehouse.Proofs.Registry.Teardown

/-!
Runs of a registry: operations in any order, with any arguments, each under conditions of its own, and a
record of what was carried out. From the calls of the record follow the aliases that are bound and the
sockets on which listeners run. Main statement: what every step keeps, a run keeps (`History.run_keeps`).
-/

namespace Gatehouse.Registry

open Net

/-! ## Operations -/

/-- An operation with its arguments. -/
inductive Operation where
  | create (now : Time) (host : Text) (port : Nat) (target : Text)
  | attach (host : Text) (port : Nat) (scheme target : Text)
  | delete (host : Text)
  | expire (now : Time)
  | publish (host : Text)
  | closeAll

/-- An operation that was carried out: its fault, if it failed, and the calls that it made. -/
structure Event where
  operation : Operation
  fault : Option Fault
  calls : List Call

/-- The fault of an outcome, if it is one. -/
def Outcome.fault? {α : Type} (o : Outcome α) : Option Fault :=
  match o.result with
  | .ok _ => none
  | .error e => some e

/-- Carries an operation out. -/
def Operation.perform (op : Operation) (r : Registry) (w : Conditions) : Registry × Event :=
  match op with
  | .create now host port target =>
    let o := r.create w now host port target
    (o.after, ⟨op, o.fault?, o.calls⟩)
  | .attach host port scheme target =>
    let o := r.attach w host port scheme target
    (o.after, ⟨op, o.fault?, o.calls⟩)
  | .delete host =>
    let o := r.delete w host
    (o.after, ⟨op, o.fault?, o.calls⟩)
  | .expire now =>
    let sweep := r.expire w now
    (sweep.after, ⟨op, none, sweep.calls⟩)
  | .publish host =>
    let o := r.publish w host
    (o.after, ⟨op, o.fault?, o.calls⟩)
  | .closeAll =>
    let sweep := r.closeAll w
    (sweep.after, ⟨op, none, sweep.calls⟩)

theorem publish_cases (r : Registry) (w : Conditions) (host : Text) :
    (∃ e, HostName.normalize host = .error e ∧ r.publish w host = .refuse r e) ∨
      ∃ name domains told, HostName.normalize host = .ok name ∧
        Registers r.zone.domains name domains told ∧
        r.publish w host =
          ⟨.ok r.subnet.reserved,
            { r with
              zone := Dns.Zone.set { r.zone with domains } name r.subnet.reserved
              controlHost := some name },
            told⟩ := by
  unfold publish
  split
  · rename_i e hname
    exact .inl ⟨e, hname, rfl⟩
  · rename_i name hname
    obtain ⟨domains, told, registers, hregister⟩ :=
      registerDomain_ok r w (HostName.isCanonical_of_normalize hname)
    rw [hregister]
    exact .inr ⟨name, domains, told, hname, registers, rfl⟩

/-! ## Runs -/

/-- A step of a run: an operation, and what the system says to its calls. No operation makes the same call
twice, so that these conditions are all that the system may say. -/
structure Step where
  operation : Operation
  conditions : Conditions

/-- The registry at some point of a run, and what was carried out before. -/
structure History where
  registry : Registry
  events : List Event

namespace History

def start (subnet : Subnet) (leaseLength : Duration) : History := ⟨.empty subnet leaseLength, []⟩

/-- After one more step. -/
def next (s : History) (step : Step) : History :=
  let (registry, event) := step.operation.perform s.registry step.conditions
  ⟨registry, s.events ++ [event]⟩

def run (s : History) (steps : List Step) : History := steps.foldl next s

/-- All calls that were made, in order. -/
def calls (s : History) : List Call := s.events.flatMap (·.calls)

theorem run_append (s : History) (first later : List Step) :
    s.run (first ++ later) = (s.run first).run later :=
  List.foldl_append

theorem calls_next (s : History) (step : Step) :
    (s.next step).calls =
      s.calls ++ (step.operation.perform s.registry step.conditions).2.calls := by
  simp [calls, next]

/-- Every step is a chain of openings or one of closings, unless it publishes a name or ends the run. -/
theorem next_chain {s : History} (hs : s.registry.hosts.Sorted) (step : Step) :
    (∃ calls, Chain Opening s.registry calls (s.next step).registry) ∨
      (∃ calls, Chain Closing s.registry calls (s.next step).registry) ∨
      (∃ host, step.operation = .publish host) ∨ step.operation = .closeAll := by
  obtain ⟨op, w⟩ := step
  cases op with
  | create now host port target => exact .inl ⟨_, create_chain s.registry w now host port target⟩
  | attach host port scheme target => exact .inl ⟨_, attach_chain s.registry w host port scheme target⟩
  | delete host => exact .inr (.inl ⟨_, delete_chain s.registry w host⟩)
  | expire now => exact .inr (.inl ⟨_, expire_chain w now hs⟩)
  | publish host => exact .inr (.inr (.inl ⟨host, rfl⟩))
  | closeAll => exact .inr (.inr (.inr rfl))

/-- What each change keeps of a registry and the calls so far, a step keeps, if publishing a name keeps it and forgetting
hosts without listeners does. -/
theorem next_preserves {I : Registry → List Call → Prop}
    (opening : ∀ r before calls r', I r before → Opening r calls r' → I r' (before ++ calls))
    (closing : ∀ r before calls r', I r before → Closing r calls r' → I r' (before ++ calls))
    (publishing : ∀ r before w host, I r before → I (r.publish w host).after (before ++ (r.publish w host).calls))
    (forgetting : ∀ (r : Registry) before, I r before →
      (∀ host entry, r.hosts.get? host = some entry → entry.listeners = []) → I { r with hosts := [] } before)
    {s : History} (hs : s.registry.hosts.Sorted) (step : Step) (hi : I s.registry s.calls) :
    I (s.next step).registry (s.next step).calls := by
  rw [calls_next]
  have opens : ∀ {calls r'}, Chain Opening s.registry calls r' → I r' (s.calls ++ calls) :=
    fun chain => chain.preserves opening _ hi
  have closes : ∀ {calls r'}, Chain Closing s.registry calls r' → I r' (s.calls ++ calls) :=
    fun chain => chain.preserves closing _ hi
  obtain ⟨op, w⟩ := step
  cases op with
  | create now host port target => exact opens (create_chain s.registry w now host port target)
  | attach host port scheme target => exact opens (attach_chain s.registry w host port scheme target)
  | delete host => exact closes (delete_chain s.registry w host)
  | expire now => exact closes (expire_chain w now hs)
  | publish host => exact publishing _ _ w host hi
  | closeAll =>
    obtain ⟨left, chain, hafter, hnone⟩ := closeAll_chain w hs
    have hnext : (s.next ⟨.closeAll, w⟩).registry = { left with hosts := [] } := hafter
    rw [hnext]
    exact forgetting left _ (closes chain) hnone

/-- What each step keeps, a run keeps. -/
theorem run_keeps {I : History → Prop} {P : Step → Prop}
    (keeps : ∀ s step, P step → I s → I (s.next step)) {s : History} (hi : I s) {steps : List Step}
    (hp : ∀ step ∈ steps, P step) : I (s.run steps) := by
  induction steps generalizing s with
  | nil => exact hi
  | cons step rest ih =>
    refine ih (keeps s step (hp step List.mem_cons_self) hi) ?_
    intro later hm
    exact hp later (List.mem_cons_of_mem _ hm)

end History

/-! ## Small runs -/

/-- The subnet 127.1.0.0/24. -/
def smallSubnet : Subnet := .around (.ofOctets 127 1 0 0) 24 (by decide)

/-- A system that does all that it is asked, but takes no address back. -/
def Conditions.holding : Conditions := { clear with removeAlias := fun _ => some "still in use" }

/-- A system on which no listener starts. -/
def Conditions.occupied : Conditions := { clear with listen := fun _ => some "in use" }

/-- A host is created on port 80 at the start of time. -/
def creating (host : Text) (w : Conditions) : Step := ⟨.create 0 host 80 "http://127.0.0.1:3000", w⟩

/-! ## What calls leave behind -/

/-- The sockets on which listeners run, after one more call. -/
def Call.listening (sockets : Finset (Ipv4 × Nat)) : Call → Finset (Ipv4 × Nat)
  | .listen ip port true => insert (ip, port) sockets
  | .stop ip port => sockets.erase (ip, port)
  | _ => sockets

/-- The sockets on which listeners run after these calls. -/
def listening (calls : List Call) : Finset (Ipv4 × Nat) := calls.foldl Call.listening ∅

/-- The addresses that are bound to the interface, after one more call. -/
def Call.aliases (bound : Finset Ipv4) : Call → Finset Ipv4
  | .addAlias ip true => insert ip bound
  | .removeAlias ip true => bound.erase ip
  | _ => bound

/-- The addresses that are bound to the interface after these calls. -/
def aliases (calls : List Call) : Finset Ipv4 := calls.foldl Call.aliases ∅

end Gatehouse.Registry
