import Gatehouse.Proofs.Net.Subnet

/-!
Allocation over time. Main statement: `allocation_exact`, by which the address that is given is the lowest between the
reserved address and the broadcast address that is not in use; addresses that are only taken are given in order until
as many as the capacity are gone; and an address that was given is not given again before it came back.
-/

namespace Gatehouse.Net.Subnet

variable {s : Subnet} {ip : Ipv4} {inUse start : List Ipv4}

/-! ## The addresses of the pool in order -/

/-- The addresses of the pool are those between the reserved address and the broadcast address. -/
theorem inPool_iff_between (hpart : 1 ≤ s.prefixLength) (hbits : s.prefixLength ≤ 30) :
    s.InPool ip ↔ s.reserved < ip ∧ ip < s.broadcast := by
  have hlarge : ¬ s.prefixLength ≥ 31 := by omega
  have hsize := capacity_add_three ⟨hpart, hbits⟩
  have hend := base_add_size_le s
  have hreserved : s.reserved.toNat = s.base + 1 := by
    rw [reserved, if_neg hlarge, Ipv4.toNat_ofNat (by omega)]
  have hbroadcast : s.broadcast.toNat = s.base + s.size - 1 := Ipv4.toNat_ofNat (by omega)
  show s.InPool ip ↔ s.reserved.toNat < ip.toNat ∧ ip.toNat < s.broadcast.toNat
  rw [hreserved, hbroadcast, InPool]
  omega

theorem pool_ascends (s : Subnet) : s.pool.Pairwise (· < ·) := by
  rw [pool, List.pairwise_map]
  refine List.Pairwise.imp_of_mem ?_ List.pairwise_lt_range'
  intro m n hm hn hlt
  show (Ipv4.ofNat m).toNat < (Ipv4.ofNat n).toNat
  rwa [toNat_of_mem_range hm, toNat_of_mem_range hn]

/-- When the first addresses of the pool are in use, the next one is given. -/
theorem allocate_take (s : Subnet) (count : Nat) : s.allocate (s.pool.take count) = s.pool[count]? := by
  have hascends := pool_ascends s
  rw [← List.take_append_drop count s.pool, List.pairwise_append] at hascends
  obtain ⟨-, hlater, hacross⟩ := hascends
  cases hnext : s.pool[count]? with
  | none =>
    -- all of them are in use
    rw [List.getElem?_eq_none_iff] at hnext
    rw [allocate_eq_none, List.take_of_length_le hnext]
    exact fun ip hpool => mem_pool.mpr hpool
  | some ip =>
    obtain ⟨hlt, rfl⟩ := List.getElem?_eq_some_iff.mp hnext
    have hdrop : s.pool.drop count = s.pool[count] :: s.pool.drop (count + 1) := List.drop_eq_getElem_cons hlt
    rw [hdrop] at hlater hacross
    rw [allocate_eq_some]
    refine ⟨mem_pool.mp (List.getElem_mem hlt), ?_, ?_⟩
    · intro hm
      exact Nat.lt_irrefl _ (hacross _ hm _ List.mem_cons_self)
    · intro lower hpool hlower
      have hm := mem_pool.mpr hpool
      rw [← List.take_append_drop count s.pool, List.mem_append, hdrop] at hm
      rcases hm with hm | hm
      · exact hm
      · rcases List.mem_cons.mp hm with rfl | hm
        · exact absurd hlower (Nat.lt_irrefl _)
        · exact absurd hlower (Nat.lt_asymm ((List.pairwise_cons.mp hlater).1 lower hm))

/-! ## Histories -/

/-- What is asked of the pool. -/
inductive Request where
  | allocate
  | release (ip : Ipv4)

/-- What came of it: an address was given, or none, or one came back. -/
inductive Event where
  | allocated (ip : Option Ipv4)
  | released (ip : Ipv4)

/-- The addresses in use, and what has come of all requests so far. -/
structure Ledger where
  inUse : List Ipv4
  events : List Event

namespace Ledger

def opened (start : List Ipv4) : Ledger := ⟨start, []⟩

def next (s : Subnet) (l : Ledger) : Request → Ledger
  | .allocate => ⟨l.inUse ++ (s.allocate l.inUse).toList, l.events ++ [.allocated (s.allocate l.inUse)]⟩
  | .release ip => ⟨l.inUse.filter (· ≠ ip), l.events ++ [.released ip]⟩

def run (s : Subnet) (l : Ledger) (requests : List Request) : Ledger := requests.foldl (next s) l

end Ledger

/-- An address that was given and has not come back since. -/
def Live (events : List Event) (ip : Ipv4) : Prop :=
  ∃ before later, events = before ++ .allocated (some ip) :: later ∧ .released ip ∉ later

variable {events before later : List Event} {event : Event} {l : Ledger} {result : Option Ipv4}

/-- The last event of a history stands at its end or before another one. -/
theorem snoc_eq_append_cons {first : Event} (h : events ++ [event] = before ++ first :: later) :
    (later = [] ∧ first = event ∧ before = events) ∨
      ∃ middle, later = middle ++ [event] ∧ events = before ++ first :: middle := by
  rcases List.eq_nil_or_concat later with rfl | ⟨middle, last, rfl⟩
  · obtain ⟨hbefore, hfirst⟩ := List.append_inj' h rfl
    exact .inl ⟨rfl, (List.cons.inj hfirst).1.symm, hbefore.symm⟩
  · rw [List.concat_eq_append, ← List.cons_append, ← List.append_assoc] at h
    obtain ⟨hevents, hlast⟩ := List.append_inj' h rfl
    exact .inr ⟨middle, by rw [List.concat_eq_append, hlast], hevents⟩

theorem live_snoc : Live (events ++ [event]) ip ↔
    event = .allocated (some ip) ∨ (Live events ip ∧ event ≠ .released ip) := by
  refine ⟨?_, ?_⟩
  · rintro ⟨before, later, heq, hkept⟩
    rcases snoc_eq_append_cons heq with ⟨-, hfirst, -⟩ | ⟨middle, rfl, hevents⟩
    · exact .inl hfirst.symm
    · rw [List.mem_append, List.mem_singleton, not_or] at hkept
      exact .inr ⟨⟨before, middle, hevents, hkept.1⟩, Ne.symm hkept.2⟩
  · rintro (rfl | ⟨⟨before, middle, rfl, hkept⟩, hevent⟩)
    · exact ⟨events, [], rfl, List.not_mem_nil⟩
    · refine ⟨before, middle ++ [event], by simp, ?_⟩
      rw [List.mem_append, List.mem_singleton, not_or]
      exact ⟨hkept, Ne.symm hevent⟩

/-- What is in use: the addresses that are live, and those that were in use from the start and have not come back. -/
def Books (start : List Ipv4) (l : Ledger) : Prop :=
  ∀ ip, ip ∈ l.inUse ↔ Live l.events ip ∨ (ip ∈ start ∧ .released ip ∉ l.events)

theorem opened_books (start : List Ipv4) : Books start (.opened start) := by
  intro ip
  refine ⟨fun hm => .inr ⟨hm, List.not_mem_nil⟩, ?_⟩
  rintro (⟨before, later, heq, -⟩ | ⟨hm, -⟩)
  · exact absurd heq.symm (List.append_ne_nil_of_right_ne_nil _ (List.cons_ne_nil _ _))
  · exact hm

theorem next_books (books : Books start l) (request : Request) : Books start (l.next s request) := by
  intro ip
  cases request with
  | allocate =>
    simp only [Ledger.next, List.mem_append, books ip, Option.mem_toList, live_snoc, Event.allocated.injEq,
      List.mem_singleton, ne_eq, reduceCtorEq, not_false_eq_true, and_true, or_false]
    tauto
  | release back =>
    simp only [Ledger.next, List.mem_filter, books ip, live_snoc, List.mem_append, List.mem_singleton,
      decide_eq_true_eq, Event.released.injEq, reduceCtorEq, false_or, ne_eq]
    tauto

/-- Every address was given by the pool as it was when it was asked. -/
def Given (s : Subnet) (start : List Ipv4) (events : List Event) : Prop :=
  ∀ before result later, events = before ++ .allocated result :: later →
    ∃ inUse, Books start ⟨inUse, before⟩ ∧ s.allocate inUse = result

theorem next_given (books : Books start l) (given : Given s start l.events) (request : Request) :
    Given s start (l.next s request).events := by
  have hsnoc : ∃ event, (l.next s request).events = l.events ++ [event] ∧
      ∀ result, event = .allocated result → s.allocate l.inUse = result := by
    cases request with
    | allocate => exact ⟨_, rfl, fun result heq => Event.allocated.inj heq⟩
    | release back => exact ⟨_, rfl, fun result heq => by cases heq⟩
  obtain ⟨event, hevents, hresult⟩ := hsnoc
  intro before result later heq
  rw [hevents] at heq
  rcases snoc_eq_append_cons heq with ⟨-, hfirst, rfl⟩ | ⟨middle, -, hearlier⟩
  · exact ⟨l.inUse, books, hresult result hfirst.symm⟩
  · exact given before result middle hearlier

theorem run_given (start : List Ipv4) (requests : List Request) :
    Books start (Ledger.run s (.opened start) requests) ∧
      Given s start (Ledger.run s (.opened start) requests).events := by
  have hrun : ∀ l, Books start l → Given s start l.events →
      Books start (l.run s requests) ∧ Given s start (l.run s requests).events := by
    induction requests with
    | nil => exact fun l books given => ⟨books, given⟩
    | cons request rest ih => exact fun l books given => ih _ (next_books books request) (next_given books given request)
  refine hrun _ (opened_books start) ?_
  intro before result later heq
  exact absurd heq.symm (List.append_ne_nil_of_right_ne_nil _ (List.cons_ne_nil _ _))

/-- An address that is given is neither live nor one that was in use from the start and has not come back. -/
theorem unused_of_given (requests : List Request)
    (h : (Ledger.run s (.opened start) requests).events = before ++ .allocated (some ip) :: later) :
    ¬ Live before ip ∧ (ip ∈ start → .released ip ∈ before) := by
  obtain ⟨inUse, books, hgiven⟩ := (run_given start requests).2 before (some ip) later h
  have hunused : ip ∉ inUse := (allocate_eq_some.mp hgiven).2.1
  refine ⟨fun hlive => hunused ((books ip).mpr (.inl hlive)), ?_⟩
  intro hm
  by_contra hkept
  exact hunused ((books ip).mpr (.inr ⟨hm, hkept⟩))

/-- Addresses that are only taken are given in the order of the pool, and none when it has come to its end. -/
theorem run_allocations (s : Subnet) (count : Nat) :
    Ledger.run s (.opened []) (List.replicate count .allocate) =
      ⟨s.pool.take count, (List.range count).map fun i => .allocated s.pool[i]?⟩ := by
  induction count with
  | zero => rfl
  | succ count ih =>
    have hlast : Ledger.run s (.opened []) (List.replicate (count + 1) .allocate) =
        (Ledger.run s (.opened []) (List.replicate count .allocate)).next s .allocate := by
      rw [List.replicate_succ', Ledger.run, List.foldl_append]
      rfl
    rw [hlast, ih, Ledger.next, allocate_take, List.take_add_one, List.range_succ, List.map_append]
    rfl

/-- As many allocations as the capacity give the pool, and all further ones nothing. -/
theorem events_allocations (s : Subnet) (more : Nat) :
    (Ledger.run s (.opened []) (List.replicate (s.capacity + more) .allocate)).events =
      s.pool.map (fun ip => .allocated (some ip)) ++ List.replicate more (.allocated none) := by
  rw [run_allocations, List.range_add, List.map_append, List.map_map]
  have hpool : (List.range s.capacity).map (fun i => Event.allocated s.pool[i]?) =
      s.pool.map fun ip => .allocated (some ip) := by
    rw [← length_pool]
    refine List.ext_getElem (by simp) ?_
    intro i hi hi'
    rw [List.length_map] at hi'
    rw [List.getElem_map, List.getElem_map, List.getElem_range, List.getElem?_eq_getElem hi']
  have hbeyond : (List.range more).map ((fun i => Event.allocated s.pool[i]?) ∘ (s.capacity + ·)) =
      List.replicate more (.allocated none) := by
    rw [List.eq_replicate_iff]
    refine ⟨by simp, ?_⟩
    intro event hm
    obtain ⟨i, -, rfl⟩ := List.mem_map.mp hm
    have hnone : s.pool[s.capacity + i]? = none := List.getElem?_eq_none (by rw [length_pool]; omega)
    rw [Function.comp, hnone]
  rw [hpool, hbeyond]

/-! ## The pool and its histories -/

/-- In a subnet of a prefix length from 1 to 30, the address that is given is the lowest between the reserved address and
the broadcast address that is not in use, and none is given exactly if all of them are in use; there are as many of them as
the capacity, and if addresses are only taken, they are given in ascending order and then none. In a smaller subnet, and in
that of all addresses, none is ever given. An address that was given, or in use from the start, is not given again before
it came back. -/
theorem allocation_exact (s : Subnet) :
    (1 ≤ s.prefixLength → s.prefixLength ≤ 30 →
      (∀ inUse ip, s.allocate inUse = some ip ↔ (s.reserved < ip ∧ ip < s.broadcast) ∧ ip ∉ inUse ∧
        ∀ lower, s.reserved < lower → lower < s.broadcast → lower < ip → lower ∈ inUse) ∧
      (∀ inUse, s.allocate inUse = none ↔ ∀ ip, s.reserved < ip → ip < s.broadcast → ip ∈ inUse) ∧
      ∃ addresses : List Ipv4, addresses.length = s.capacity ∧ addresses.Pairwise (· < ·) ∧
        (∀ ip, ip ∈ addresses ↔ s.reserved < ip ∧ ip < s.broadcast) ∧
        ∀ more, (Ledger.run s (.opened []) (List.replicate (s.capacity + more) .allocate)).events =
          addresses.map (fun ip => .allocated (some ip)) ++ List.replicate more (.allocated none)) ∧
    (s.prefixLength = 0 ∨ 31 ≤ s.prefixLength → ∀ inUse, s.allocate inUse = none) ∧
    ∀ start requests before ip later,
      (Ledger.run s (.opened start) requests).events = before ++ .allocated (some ip) :: later →
        ¬ Live before ip ∧ (ip ∈ start → .released ip ∈ before) := by
  refine ⟨?_, ?_, fun start requests before ip later h => unused_of_given requests h⟩
  · intro hpart hbits
    have between : ∀ ip, s.InPool ip ↔ s.reserved < ip ∧ ip < s.broadcast := fun ip => inPool_iff_between hpart hbits
    refine ⟨?_, ?_, s.pool, length_pool s, pool_ascends s, ?_, events_allocations s⟩
    · intro inUse ip
      rw [allocate_eq_some]
      simp only [between, and_imp]
    · intro inUse
      rw [allocate_eq_none]
      simp only [between, and_imp]
    · intro ip
      rw [mem_pool, between]
  · intro hbits inUse
    rw [allocate_eq_none]
    intro ip hpool
    have := prefixLength_of_inPool hpool
    omega

/-- The last eight addresses there are. -/
def lastSubnet : Subnet := .around (.ofOctets 255 255 255 255) 29 (by decide)

/-- One of its addresses. -/
def lastSubnetAddress (host : Nat) : Ipv4 := .ofOctets 255 255 255 (248 + host)

/-- The pool of the last subnet ends before the last address there is. Addresses in use elsewhere do not count, five are
given one after the other, and one that came back is not live when it is given again. Two addresses make no pool. -/
theorem lastSubnet_exact :
    (1 ≤ lastSubnet.prefixLength ∧ lastSubnet.prefixLength ≤ 30) ∧ lastSubnet.broadcast = .ofOctets 255 255 255 255 ∧
      lastSubnet.allocate [lastSubnetAddress 2, .ofOctets 10 0 0 1] = some (lastSubnetAddress 3) ∧
      (∃ addresses : List Ipv4, addresses.length = 5 ∧ addresses.Pairwise (· < ·) ∧
        (Ledger.run lastSubnet (.opened []) (List.replicate (5 + 1) .allocate)).events =
          addresses.map (fun ip => .allocated (some ip)) ++ [.allocated none]) ∧
      ¬ Live [.allocated (some (lastSubnetAddress 2)), .released (lastSubnetAddress 2)] (lastSubnetAddress 2) ∧
      (around (.ofOctets 10 0 0 0) 31 (by decide)).allocate [] = none := by
  have hpart : 1 ≤ lastSubnet.prefixLength := by decide
  have hbits : lastSubnet.prefixLength ≤ 30 := by decide
  have hcapacity : lastSubnet.capacity = 5 := by decide
  have hreserved : lastSubnet.reserved.toNat = 0xFFFFFFF9 := by decide
  obtain ⟨hlarge, -, hagain⟩ := allocation_exact lastSubnet
  obtain ⟨hgiven, -, addresses, hlength, hascends, -, hevents⟩ := hlarge hpart hbits
  rw [hcapacity] at hlength hevents
  have hthird : lastSubnet.allocate [lastSubnetAddress 2, .ofOctets 10 0 0 1] = some (lastSubnetAddress 3) := by
    refine (hgiven _ _).mpr ⟨⟨by decide, by decide⟩, by decide, ?_⟩
    intro lower habove _ hbelow
    -- there is one address only between the reserved one and the third
    have hlo : lastSubnet.reserved.toNat < lower.toNat := habove
    have hhi : lower.toNat < (lastSubnetAddress 3).toNat := hbelow
    have hnumber : (lastSubnetAddress 3).toNat = 0xFFFFFFFB := by decide
    have hlower : lower = lastSubnetAddress 2 := Ipv4.ext (show lower.toNat = 0xFFFFFFFA by omega)
    rw [hlower]
    exact List.mem_cons_self
  have hreturned : ¬ Live [.allocated (some (lastSubnetAddress 2)), .released (lastSubnetAddress 2)]
      (lastSubnetAddress 2) :=
    (hagain [] [.allocate, .release (lastSubnetAddress 2), .allocate] _ _ [] (by rfl)).1
  obtain ⟨-, hsmall, -⟩ := allocation_exact (around (.ofOctets 10 0 0 0) 31 (by decide))
  exact ⟨⟨hpart, hbits⟩, by decide, hthird, ⟨addresses, hlength, hascends, hevents 1⟩, hreturned,
    hsmall (.inr (Nat.le_refl 31)) []⟩

end Gatehouse.Net.Subnet
