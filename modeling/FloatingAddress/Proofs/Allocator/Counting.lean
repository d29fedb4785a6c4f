import FloatingAddress.Proofs.Allocator.View
import FloatingAddress.Proofs.Network.Usable
import Mathlib.Data.List.Nodup
import Mathlib.Data.List.Perm.Subperm
import Mathlib.Data.List.Range

/-!
# How many addresses a range holds

The held addresses of a range form a list without repetitions, so their number follows from which
addresses are held. If they are all usable in a network, there are at most as many of them as the
network has usable addresses.
-/

namespace FloatingAddress

namespace Allocator

variable {alloc after : Allocator} {name range owner : String} {address : Ipv4}

theorem mem_allocated : address ∈ alloc.allocated name ↔ (alloc.owner name address).isSome := by
  unfold allocated Allocator.owner
  cases alloc.pools[name]? with
  | none => simp
  | some pool =>
    rw [Option.bind_some, Std.ExtTreeMap.mem_keys, Std.ExtTreeMap.mem_iff_isSome_getElem?]

theorem nodup_allocated (alloc : Allocator) (name : String) : (alloc.allocated name).Nodup := by
  unfold allocated
  split
  · exact List.nodup_nil
  · exact Std.ExtTreeMap.nodup_keys

theorem length_allocated_congr {other : Allocator} {name' : String}
    (same : ∀ a, (alloc.owner name a).isSome ↔ (other.owner name' a).isSome) :
    (alloc.allocated name).length = (other.allocated name').length := by
  refine List.Perm.length_eq ((List.perm_ext_iff_of_nodup (nodup_allocated _ _)
    (nodup_allocated _ _)).mpr fun a => ?_)
  rw [mem_allocated, mem_allocated, same]

/-- One more address is held. -/
theorem length_allocated_add (unheld : alloc.owner name address = none)
    (added : ∀ a, (after.owner name a).isSome ↔ address = a ∨ (alloc.owner name a).isSome) :
    (after.allocated name).length = (alloc.allocated name).length + 1 := by
  have nodup : (address :: alloc.allocated name).Nodup :=
    List.nodup_cons.mpr ⟨by simp [mem_allocated, unheld], nodup_allocated _ _⟩
  have perm : (after.allocated name).Perm (address :: alloc.allocated name) := by
    refine (List.perm_ext_iff_of_nodup (nodup_allocated _ _) nodup).mpr fun a => ?_
    rw [mem_allocated, added, List.mem_cons, mem_allocated, eq_comm]
  exact perm.length_eq

/-- There are no more addresses than words. -/
theorem length_allocated_le (alloc : Allocator) (name : String) :
    (alloc.allocated name).length ≤ UInt32.size := by
  have injective : Function.Injective fun a : Ipv4 => a.word.toNat := by
    intro a b same
    exact Ipv4.eq_iff.mpr same
  have nodup := List.Nodup.map injective (nodup_allocated alloc name)
  have bounded : (alloc.allocated name).map (fun a => a.word.toNat) ⊆ List.range UInt32.size := by
    intro n member
    obtain ⟨a, -, rfl⟩ := List.mem_map.mp member
    exact List.mem_range.mpr a.word.toNat_lt
  have shorter := (List.subperm_of_subset nodup bounded).length_le
  rwa [List.length_map, List.length_range] at shorter

/-- If all held addresses are usable, they are among those that are listed as usable. -/
theorem allocated_subset {span : UsableSpan}
    (usable : ∀ a, (alloc.owner name a).isSome → span.contains a) :
    alloc.allocated name ⊆ span.addresses := by
  intro a member
  exact UsableSpan.mem_addresses.mpr (usable a (mem_allocated.mp member))

/-- If all held addresses are usable in a network, there are no more of them than it has. -/
theorem length_allocated_le_capacity {net : Cidr}
    (usable : ∀ a, (alloc.owner name a).isSome → (UsableSpan.ofCidr net).contains a) :
    (alloc.allocated name).length ≤ (UsableSpan.ofCidr net).capacity.toNat := by
  rw [← UsableSpan.length_addresses]
  exact (List.subperm_of_subset (nodup_allocated alloc name) (allocated_subset usable)).length_le

end Allocator

end FloatingAddress
