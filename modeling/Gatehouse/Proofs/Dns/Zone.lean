import Gatehouse.Dns.Zone
import Gatehouse.Proofs.Table
import Mathlib.Data.List.Nodup

/-!
The zone as a table: setting a host's address and removing a host change the record of this host only, and
every name keeps at most one record.
-/

namespace Gatehouse.Dns.Zone

open Net

variable {z : Zone} {host name : Text} {ip ip' : Ipv4}

theorem mem_set (hkey : HostName.zoneKey host = host) :
    (name, ip') ∈ (z.set host ip).hosts ↔
      if name = host then ip' = ip else (name, ip') ∈ z.hosts := by
  simp only [set, hkey, List.mem_append, List.mem_filter, List.mem_singleton, Prod.mk.injEq]
  split
  · rename_i h
    simp [h]
  · rename_i h
    simp [h]

theorem mem_remove (hkey : HostName.zoneKey host = host) :
    (name, ip') ∈ (z.remove host).hosts ↔ name ≠ host ∧ (name, ip') ∈ z.hosts := by
  simp only [remove, hkey, List.mem_filter, decide_eq_true_eq]
  exact and_comm

/-- Every name has at most one record. -/
def Functional (z : Zone) : Prop := (z.hosts.map (·.1)).Nodup

theorem functional_remove (h : Functional z) (host : Text) : Functional (z.remove host) :=
  List.Nodup.sublist (List.Sublist.map _ List.filter_sublist) h

theorem functional_set (h : Functional z) (host : Text) (ip : Ipv4) : Functional (z.set host ip) := by
  simp only [Functional, set, List.map_append, List.map_cons, List.map_nil]
  refine List.Nodup.append (functional_remove h host) (List.nodup_singleton _) ?_
  rw [List.disjoint_singleton]
  intro hm
  obtain ⟨record, hrecord, hname⟩ := List.mem_map.mp hm
  exact absurd hname (of_decide_eq_true (List.mem_filter.mp hrecord).2)

/-- A look-up sees the record of a name, wherever it stands. -/
theorem lookup_eq_some_iff (h : Functional z) : z.lookup name = some ip ↔ (HostName.zoneKey name, ip) ∈ z.hosts :=
  Table.lookup_iff_mem h

theorem lookup_remove (z : Zone) (name : Text) (hkey : HostName.zoneKey host = host) :
    (z.remove host).lookup name = if HostName.zoneKey name = host then none else z.lookup name := by
  simp only [remove, lookup, hkey]
  exact Table.lookup_filter z.hosts host _

theorem lookup_set (z : Zone) (name : Text) (ip : Ipv4) (hkey : HostName.zoneKey host = host) :
    (z.set host ip).lookup name = if HostName.zoneKey name = host then some ip else z.lookup name := by
  simp only [set, lookup, hkey]
  exact Table.lookup_replace z.hosts host _ ip

end Gatehouse.Dns.Zone
