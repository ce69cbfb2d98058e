import Gatehouse.Net.Subnet
import Mathlib.Data.List.Nodup
import Mathlib.Data.List.Perm.Subperm
import Mathlib.Tactic.ByContra

/-!
The pool of addresses of a subnet. Main statements: allocation gives the lowest address of the pool that is
not in use, and fails only if all of them are; the pool holds all addresses of the subnet but the network
address, the broadcast address and the reserved one; and as many addresses of it as its capacity are in use
exactly if allocation fails.
-/

namespace Gatehouse.Net

namespace Ipv4

@[ext] theorem ext {a b : Ipv4} (h : a.toNat = b.toNat) : a = b := by
  cases a; cases b; cases h; rfl

theorem toNat_ofNat {n : Nat} (h : n < 0x100000000) : (ofNat n).toNat = n := Nat.mod_eq_of_lt h

@[simp] theorem ofNat_toNat (ip : Ipv4) : ofNat ip.toNat = ip := ext (toNat_ofNat ip.lt_size)

end Ipv4

namespace Subnet

/-! ## The search for a free address -/

/-- What is in use past an address is in use without this address. -/
theorem mem_erase_ofNat {inUse : List Ipv4} {start : Nat} {ip : Ipv4} (hstart : start < 0x100000000)
    (hpast : start < ip.toNat) : ip ∈ inUse.erase (Ipv4.ofNat start) ↔ ip ∈ inUse := by
  apply List.mem_erase_of_ne
  intro heq
  rw [heq, Ipv4.toNat_ofNat hstart] at hpast
  exact Nat.lt_irrefl start hpast

/-- The search gives the lowest address of its range that is not in use. -/
theorem firstFree_eq_some {inUse : List Ipv4} {start count : Nat} {ip : Ipv4}
    (hfit : start + count ≤ 0x100000000) :
    firstFree inUse start count = some ip ↔
      (start ≤ ip.toNat ∧ ip.toNat < start + count) ∧ ip ∉ inUse ∧
        ∀ n, start ≤ n → n < ip.toNat → Ipv4.ofNat n ∈ inUse := by
  induction count generalizing inUse start with
  | zero =>
    simp only [firstFree]
    refine ⟨?_, ?_⟩
    · intro h; cases h
    · intro h'
      obtain ⟨⟨hlo, hhi⟩, -⟩ := h'
      omega
  | succ count ih =>
    have hstart : (Ipv4.ofNat start).toNat = start := Ipv4.toNat_ofNat (by omega)
    simp only [firstFree]
    split
    · rename_i hused
      rw [ih (by omega)]
      -- the first address is taken, so that the range begins one later
      have hkeep : ∀ x : Ipv4, start + 1 ≤ x.toNat → (x ∈ inUse.erase (Ipv4.ofNat start) ↔ x ∈ inUse) :=
        fun x hx => mem_erase_ofNat (by omega) hx
      refine ⟨?_, ?_⟩
      · intro h'
        obtain ⟨⟨hlo, hhi⟩, hfree, hlower⟩ := h'
        refine ⟨⟨by omega, by omega⟩, fun h => hfree ((hkeep ip hlo).mpr h), ?_⟩
        intro n hn hlt
        rcases Nat.eq_or_lt_of_le hn with rfl | hn
        · exact hused
        · refine (hkeep _ ?_).mp (hlower n hn hlt)
          rw [Ipv4.toNat_ofNat (by omega)]
          exact hn
      · intro h'
        obtain ⟨⟨hlo, hhi⟩, hfree, hlower⟩ := h'
        have hne : ip.toNat ≠ start := by
          intro h
          apply hfree
          rwa [← Ipv4.ofNat_toNat ip, h]
        have hlo' : start + 1 ≤ ip.toNat := by omega
        refine ⟨⟨hlo', by omega⟩, fun h => hfree ((hkeep ip hlo').mp h), ?_⟩
        intro n hn hlt
        refine (hkeep _ ?_).mpr (hlower n (by omega) hlt)
        rw [Ipv4.toNat_ofNat (by omega)]
        exact hn
    · -- the first address is free, and no address of the range is lower
      rename_i hunused
      rw [Option.some.injEq]
      refine ⟨?_, ?_⟩
      · intro heq
        subst heq
        refine ⟨⟨by omega, by omega⟩, hunused, ?_⟩
        intro n hn hlt
        omega
      · intro h'
        obtain ⟨⟨hlo, hhi⟩, hfree, hlower⟩ := h'
        refine Ipv4.ext ?_
        rw [hstart]
        by_contra hne
        exact hunused (hlower start (Nat.le_refl _) (by omega))

/-- The search fails only if every address of its range is in use. -/
theorem firstFree_eq_none {inUse : List Ipv4} {start count : Nat}
    (hfit : start + count ≤ 0x100000000) :
    firstFree inUse start count = none ↔
      ∀ n, start ≤ n → n < start + count → Ipv4.ofNat n ∈ inUse := by
  induction count generalizing inUse start with
  | zero =>
    simp only [firstFree, true_iff]
    intro n hlo hhi
    omega
  | succ count ih =>
    simp only [firstFree]
    split
    · rename_i hused
      rw [ih (by omega)]
      refine ⟨?_, ?_⟩
      · intro h n hlo hhi
        rcases Nat.eq_or_lt_of_le hlo with rfl | hlo
        · exact hused
        · exact List.mem_of_mem_erase (h n hlo (by omega))
      · intro h n hlo hhi
        have hn : (Ipv4.ofNat n).toNat = n := Ipv4.toNat_ofNat (by omega)
        exact (mem_erase_ofNat (by omega) (by omega)).mpr (h n (by omega) (by omega))
    · rename_i hunused
      refine ⟨?_, ?_⟩
      · intro h; cases h
      · intro h
        exact absurd (h start (Nat.le_refl _) (by omega)) hunused

/-! ## The pool -/

/-- Whether an address is one of those that endpoints are given. -/
def InPool (s : Subnet) (ip : Ipv4) : Prop :=
  s.base + 2 ≤ ip.toNat ∧ ip.toNat < s.base + 2 + s.capacity

/-- A block ends where the addresses end, or before. -/
theorem base_add_size_le (s : Subnet) : s.base + s.size ≤ 0x100000000 := by
  -- both the first address of the block and 2^32 are multiples of its size
  have hdvd : s.size ∣ 0x100000000 := Nat.pow_dvd_pow 2 (Nat.sub_le 32 s.prefixLength)
  have hbase : s.size ∣ s.base := Nat.dvd_of_mod_eq_zero s.aligned
  obtain ⟨blocks, hblocks⟩ := hdvd
  obtain ⟨before, hbefore⟩ := hbase
  have hlt : before < blocks := by
    have := s.base_lt
    rw [hblocks, hbefore] at this
    exact Nat.lt_of_mul_lt_mul_left this
  calc s.base + s.size = s.size * (before + 1) := by rw [hbefore, Nat.mul_succ]
    _ ≤ s.size * blocks := Nat.mul_le_mul_left _ hlt
    _ = 0x100000000 := hblocks.symm

/-- A block that has addresses for endpoints has four addresses or more. -/
theorem four_le_size {s : Subnet} (h : s.prefixLength ≤ 30) : 4 ≤ s.size := by
  have hbits : 2 ≤ 32 - s.prefixLength := by omega
  exact Nat.le_trans (by decide : 4 ≤ Nat.pow 2 2) (Nat.pow_le_pow_right (by decide) hbits)

theorem capacity_add_three {s : Subnet} (h : 1 ≤ s.prefixLength ∧ s.prefixLength ≤ 30) : s.capacity + 3 = s.size := by
  have := four_le_size h.2
  simp only [capacity, if_pos h]
  omega

theorem capacity_eq_zero {s : Subnet} (h : ¬ (1 ≤ s.prefixLength ∧ s.prefixLength ≤ 30)) : s.capacity = 0 := if_neg h

theorem pool_fits (s : Subnet) : s.base + 2 + s.capacity ≤ 0x100000000 ∨ s.capacity = 0 := by
  by_cases h : 1 ≤ s.prefixLength ∧ s.prefixLength ≤ 30
  · have := base_add_size_le s
    have := capacity_add_three h
    exact .inl (by omega)
  · exact .inr (capacity_eq_zero h)

/-- A block with an address for endpoints is neither too small for them nor the block of all addresses. -/
theorem prefixLength_of_inPool {s : Subnet} {ip : Ipv4} (h : s.InPool ip) : 1 ≤ s.prefixLength ∧ s.prefixLength ≤ 30 := by
  by_contra hnone
  obtain ⟨hlo, hhi⟩ := h
  rw [capacity_eq_zero hnone] at hhi
  omega

/-- Allocation gives the lowest address of the pool that is not in use. -/
theorem allocate_eq_some {s : Subnet} {inUse : List Ipv4} {ip : Ipv4} :
    s.allocate inUse = some ip ↔
      s.InPool ip ∧ ip ∉ inUse ∧ ∀ lower, s.InPool lower → lower < ip → lower ∈ inUse := by
  rcases pool_fits s with hfit | hnone
  · rw [allocate, firstFree_eq_some hfit]
    refine and_congr_right fun hpool => and_congr_right fun _ => ?_
    refine ⟨?_, ?_⟩
    · intro h lower hlower hlt
      have := h lower.toNat hlower.1 hlt
      rwa [Ipv4.ofNat_toNat] at this
    · intro h n hn hlt
      -- numbers below an address of the pool are not reduced
      have hnat : (Ipv4.ofNat n).toNat = n := Ipv4.toNat_ofNat (by omega)
      refine h _ ⟨by omega, by omega⟩ ?_
      show (Ipv4.ofNat n).toNat < ip.toNat
      omega
  · rw [allocate, hnone]
    simp only [firstFree, InPool, hnone]
    refine ⟨?_, ?_⟩
    · intro h; cases h
    · intro h'
      obtain ⟨⟨hlo, hhi⟩, -⟩ := h'
      omega

/-- Allocation fails only if the whole pool is in use. -/
theorem allocate_eq_none {s : Subnet} {inUse : List Ipv4} :
    s.allocate inUse = none ↔ ∀ ip, s.InPool ip → ip ∈ inUse := by
  rcases pool_fits s with hfit | hnone
  · rw [allocate, firstFree_eq_none hfit]
    refine ⟨?_, ?_⟩
    · intro h ip hpool
      have := h ip.toNat hpool.1 hpool.2
      rwa [Ipv4.ofNat_toNat] at this
    · intro h n hlo hhi
      have hnat : (Ipv4.ofNat n).toNat = n := Ipv4.toNat_ofNat (by omega)
      exact h _ ⟨by omega, by omega⟩
  · rw [allocate, hnone]
    simp only [firstFree, InPool, hnone, true_iff]
    intro ip h'
    obtain ⟨hlo, hhi⟩ := h'
    omega

theorem contains_of_inPool {s : Subnet} {ip : Ipv4} (h : s.InPool ip) : s.Contains ip := by
  have := capacity_add_three (prefixLength_of_inPool h)
  obtain ⟨hlo, hhi⟩ := h
  exact ⟨by omega, by omega⟩

/-- No address of the pool is the network address, the broadcast address or the reserved one. -/
theorem ne_of_inPool {s : Subnet} {ip : Ipv4} (h : s.InPool ip) :
    ip ≠ s.network ∧ ip ≠ s.broadcast ∧ ip ≠ s.reserved := by
  have hbits := prefixLength_of_inPool h
  have hlarge : ¬ s.prefixLength ≥ 31 := by omega
  have hsize := capacity_add_three hbits
  have hend := base_add_size_le s
  obtain ⟨hlo, hhi⟩ := h
  refine ⟨?_, ?_, ?_⟩
  · intro heq
    subst heq
    rw [network, Ipv4.toNat_ofNat (by omega)] at hlo
    omega
  · intro heq
    subst heq
    rw [broadcast, Ipv4.toNat_ofNat (by omega)] at hhi
    omega
  · intro heq
    subst heq
    rw [reserved, if_neg hlarge, Ipv4.toNat_ofNat (by omega)] at hlo
    omega

/-- The pool holds all other addresses of the subnet, if that is not the block of all addresses. -/
theorem inPool_iff {s : Subnet} {ip : Ipv4} (hpart : 1 ≤ s.prefixLength) :
    s.InPool ip ↔ s.Contains ip ∧ ip ≠ s.network ∧ ip ≠ s.broadcast ∧ ip ≠ s.reserved := by
  refine ⟨fun h => ⟨contains_of_inPool h, ne_of_inPool h⟩, ?_⟩
  rintro ⟨⟨hlo, hhi⟩, hnetwork, hbroadcast, hreserved⟩
  have hend := base_add_size_le s
  have hbase : ip.toNat ≠ s.base := by
    intro heq
    exact hnetwork (Ipv4.ext (by rw [network, Ipv4.toNat_ofNat (by omega), heq]))
  have hlast : ip.toNat ≠ s.base + s.size - 1 := by
    intro heq
    exact hbroadcast (Ipv4.ext (by rw [broadcast, Ipv4.toNat_ofNat (by omega), heq]))
  by_cases hsmall : s.prefixLength ≥ 31
  · -- a block this small has no more than its first and its last address
    have hsize : s.size ≤ 2 := Nat.pow_le_pow_right (by decide : 0 < 2) (by omega : 32 - s.prefixLength ≤ 1)
    omega
  · have hsize := capacity_add_three ⟨hpart, by omega⟩
    have hfirst : ip.toNat ≠ s.base + 1 := by
      intro heq
      exact hreserved (Ipv4.ext (by rw [reserved, if_neg hsmall, Ipv4.toNat_ofNat (by omega), heq]))
    exact ⟨by omega, by omega⟩

/-! ## Counting -/

/-- The addresses of the pool, in order. -/
def pool (s : Subnet) : List Ipv4 := (List.range' (s.base + 2) s.capacity).map .ofNat

theorem length_pool (s : Subnet) : s.pool.length = s.capacity := by
  rw [pool, List.length_map, List.length_range']

theorem toNat_of_mem_range {s : Subnet} {n : Nat} (hm : n ∈ List.range' (s.base + 2) s.capacity) :
    (Ipv4.ofNat n).toNat = n := by
  have hn := List.mem_range'_1.mp hm
  rcases pool_fits s with hfit | hnone
  · exact Ipv4.toNat_ofNat (by omega)
  · omega

theorem mem_pool {s : Subnet} {ip : Ipv4} : ip ∈ s.pool ↔ s.InPool ip := by
  rw [pool, List.mem_map]
  refine ⟨?_, fun h => ⟨ip.toNat, List.mem_range'_1.mpr h, Ipv4.ofNat_toNat ip⟩⟩
  rintro ⟨n, hm, rfl⟩
  rw [InPool, toNat_of_mem_range hm]
  exact List.mem_range'_1.mp hm

theorem nodup_pool (s : Subnet) : s.pool.Nodup := by
  refine List.Nodup.map_on ?_ List.nodup_range'
  intro m hm n hn heq
  rw [← toNat_of_mem_range hm, ← toNat_of_mem_range hn, heq]

variable {s : Subnet} {inUse : List Ipv4}

/-- No more addresses are in use than there are. -/
theorem length_le_capacity (nodup : inUse.Nodup) (within : ∀ ip ∈ inUse, s.InPool ip) :
    inUse.length ≤ s.capacity := by
  rw [← length_pool]
  exact (nodup.subperm fun ip hm => mem_pool.mpr (within ip hm)).length_le

/-- Allocation fails exactly if as many addresses are in use as there are. -/
theorem allocate_eq_none_iff_length (nodup : inUse.Nodup) (within : ∀ ip ∈ inUse, s.InPool ip) :
    s.allocate inUse = none ↔ inUse.length = s.capacity := by
  have hsub : inUse ⊆ s.pool := fun ip hm => mem_pool.mpr (within ip hm)
  rw [allocate_eq_none, ← length_pool]
  refine ⟨?_, ?_⟩
  · intro hall
    have hperm : inUse.Perm s.pool :=
      (nodup.subperm hsub).antisymm ((nodup_pool s).subperm fun ip hm => hall ip (mem_pool.mp hm))
    exact hperm.length_eq
  · intro hlength ip hpool
    have hperm : inUse.Perm s.pool := (nodup.subperm hsub).perm_of_length_le (Nat.le_of_eq hlength.symm)
    exact hperm.mem_iff.mpr (mem_pool.mpr hpool)

end Subnet
end Gatehouse.Net
