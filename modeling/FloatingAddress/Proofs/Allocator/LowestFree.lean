import FloatingAddress.Allocator

/-!
# The lowest free address

The pool finds a free address by walking along the held ones. The walk never leaves the usable
span, because a span that has usable addresses begins no later than it ends, and the address it
stops at is held by nobody. It does not go beyond any free address, so it stops at the lowest one.
-/

namespace FloatingAddress

namespace Ipv4

theorem le_iff {a b : Ipv4} : a ≤ b ↔ a.word.toNat ≤ b.word.toNat := UInt32.le_iff_toNat_le

theorem lt_iff {a b : Ipv4} : a < b ↔ a.word.toNat < b.word.toNat := UInt32.lt_iff_toNat_lt

theorem eq_iff {a b : Ipv4} : a = b ↔ a.word.toNat = b.word.toNat := by
  rw [UInt32.toNat_inj]
  exact ⟨congrArg word, fun h => by cases a; cases b; exact congrArg mk h⟩

theorem succ_toNat {a b : Ipv4} (h : a < b) : (a.word + 1).toNat = a.word.toNat + 1 := by
  have below := lt_iff.mp h
  have bound := b.word.toNat_lt
  rw [UInt32.toNat_add]
  simp
  omega

theorem compare_eq_lt {a b : Ipv4} : compare a b = .lt ↔ a < b := by
  change compareOfLessAndEq a.word b.word = .lt ↔ a.word < b.word
  rw [compareOfLessAndEq]
  split
  · simp_all
  · split <;> simp_all

end Ipv4

namespace Cidr

theorem hostMask_toNat (net : Cidr) : net.hostMask.toNat = 1 <<< (32 - net.length) - 1 := by
  have small : 2 ^ (32 - net.length) ≤ 2 ^ 32 := Nat.pow_le_pow_right (by decide) (by omega)
  rw [hostMask, UInt32.toNat_ofNat_of_lt']
  have size : UInt32.size = 2 ^ 32 := rfl
  omega

/-- The last member of a network lies as far above the first one as the host bits can count. -/
theorem broadcast_toNat (net : Cidr) :
    net.broadcast.word.toNat = net.network.word.toNat + net.hostMask.toNat := by
  have disjoint :
      (net.address.word &&& ~~~net.hostMask).toBitVec &&& net.hostMask.toBitVec = 0#32 := by
    ext i
    simp
  have sum : net.broadcast.word.toBitVec =
      net.network.word.toBitVec + net.hostMask.toBitVec := by
    rw [network, BitVec.add_eq_or_of_and_eq_zero _ _ disjoint, broadcast]
    ext i
    simp
    grind
  rw [← UInt32.toNat_toBitVec, sum, network, BitVec.toNat_add_of_and_eq_zero disjoint]
  rfl

end Cidr

namespace UsableSpan

/-- A span that has usable addresses has a first one that is not beyond its last one. -/
def Ordered (span : UsableSpan) : Prop :=
  ∀ first last, span.bounds = some (first, last) → first ≤ last

/-- The bounds of a span are the second and the last but one member of its network. -/
theorem ofCidr_bounds {net : Cidr} {first last : Ipv4}
    (bounds : (ofCidr net).bounds = some (first, last)) :
    first.word.toNat = net.network.word.toNat + 1 ∧
      last.word.toNat + 1 = net.broadcast.word.toNat ∧ first ≤ last := by
  simp only [ofCidr] at bounds
  split at bounds
  · cases bounds
  · next short =>
    obtain ⟨rfl, rfl⟩ : _ = first ∧ _ = last := by simpa using bounds
    have sum := net.broadcast_toNat
    have mask := net.hostMask_toNat
    have wide : 2 ^ 2 ≤ 2 ^ (32 - net.length) := Nat.pow_le_pow_right (by decide) (by omega)
    have bound : net.broadcast.word.toNat < 2 ^ 32 := net.broadcast.word.toNat_lt
    have low : (net.network.word + 1).toNat = net.network.word.toNat + 1 := by
      rw [UInt32.toNat_add]
      simp
      omega
    have high : (net.broadcast.word - 1).toNat = net.broadcast.word.toNat - 1 := by
      rw [UInt32.toNat_sub_of_le _ _ (by rw [UInt32.le_iff_toNat_le]; simp; omega)]
      simp
    rw [Ipv4.le_iff]
    dsimp only
    omega

theorem ofCidr_ordered (net : Cidr) : (ofCidr net).Ordered := by
  intro first last bounds
  exact (ofCidr_bounds bounds).2.2

/-- The capacity counts the addresses between the bounds, and the count does not wrap around. -/
theorem ofCidr_capacity {net : Cidr} {first last : Ipv4}
    (bounds : (ofCidr net).bounds = some (first, last)) :
    (ofCidr net).capacity.toNat + first.word.toNat = last.word.toNat + 1 := by
  obtain ⟨low, high, ordered⟩ := ofCidr_bounds bounds
  have bound : net.broadcast.word.toNat < 2 ^ 32 := net.broadcast.word.toNat_lt
  have less := Ipv4.le_iff.mp ordered
  rw [capacity, bounds, UInt32.toNat_add, UInt32.toNat_sub_of_le _ _ ordered]
  simp
  omega

theorem ofText?_ordered {text : String} {span : UsableSpan} (h : ofText? text = some span) :
    span.Ordered := by
  obtain ⟨net, -, rfl⟩ := Option.map_eq_some_iff.mp h
  exact ofCidr_ordered net

end UsableSpan

namespace Pool

/-- A gap that is found lies between the candidate and the last address, and nobody holds it. -/
theorem firstGap_eq_some {last candidate address : Ipv4} {taken : List Ipv4}
    (ordered : taken.Pairwise (· < ·)) (above : ∀ x ∈ taken, candidate ≤ x)
    (start : candidate ≤ last) (h : firstGap last candidate taken = some address) :
    candidate ≤ address ∧ address ≤ last ∧ address ∉ taken := by
  induction taken generalizing candidate with
  | nil =>
    cases h
    exact ⟨Ipv4.le_iff.mpr (Nat.le_refl _), start, by simp⟩
  | cons x rest ih =>
    obtain ⟨after, ordered⟩ := List.pairwise_cons.mp ordered
    simp only [firstGap] at h
    split at h
    · next gap =>
      cases h
      refine ⟨Ipv4.le_iff.mpr (Nat.le_refl _), start, ?_⟩
      rintro (_ | ⟨_, later⟩)
      · exact gap rfl
      · have first := above x (by simp)
        have below := after address later
        grind [Ipv4.le_iff, Ipv4.lt_iff, Ipv4.eq_iff]
    · next same =>
      split at h
      · cases h
      · next more =>
        obtain rfl : x = candidate := by simpa using same
        -- The candidate is below the last address, so the next word does not wrap around.
        have less : x < last := by grind [Ipv4.le_iff, Ipv4.lt_iff, Ipv4.eq_iff]
        have next (y : Ipv4) : ⟨x.word + 1⟩ ≤ y ↔ x < y := by
          rw [Ipv4.le_iff, Ipv4.succ_toNat less, Ipv4.lt_iff]
          omega
        obtain ⟨low, high, free⟩ := ih ordered
          (fun y member => (next y).mpr (after y member)) ((next last).mpr less) h
        have low : x.word.toNat < address.word.toNat := Ipv4.lt_iff.mp ((next address).mp low)
        refine ⟨Ipv4.le_iff.mpr (Nat.le_of_lt low), high, ?_⟩
        rintro (_ | ⟨_, later⟩)
        · omega
        · exact free later

/-- The walk stops at an address that is not taken, or before. -/
theorem firstGap_of_not_mem {last candidate free : Ipv4} {taken : List Ipv4}
    (low : candidate ≤ free) (high : free ≤ last) (untaken : free ∉ taken) :
    ∃ address, firstGap last candidate taken = some address ∧ address ≤ free := by
  induction taken generalizing candidate with
  | nil => exact ⟨candidate, rfl, low⟩
  | cons x rest ih =>
    obtain ⟨other, untaken⟩ := not_or.mp (mt List.mem_cons.mpr untaken)
    simp only [firstGap]
    split
    · exact ⟨candidate, rfl, low⟩
    next same =>
      obtain rfl : x = candidate := by simpa using same
      have less : x < free := by grind [Ipv4.le_iff, Ipv4.lt_iff, Ipv4.eq_iff]
      rw [if_neg (by grind [Ipv4.le_iff, Ipv4.lt_iff, Ipv4.eq_iff])]
      refine ih ?_ untaken
      rw [Ipv4.le_iff, Ipv4.succ_toNat less]
      exact Ipv4.lt_iff.mp less

/-- The lowest free address is usable, and nobody holds it. -/
theorem lowestFree?_eq_some {pool : Pool} {address : Ipv4} (ordered : pool.span.Ordered)
    (h : pool.lowestFree? = some address) :
    pool.span.contains address ∧ pool.held[address]? = none := by
  simp only [lowestFree?] at h
  split at h
  · cases h
  · next first last bounds =>
    have usable (x : Ipv4) : pool.span.contains x ↔ first ≤ x ∧ x ≤ last := by
      simp [UsableSpan.contains, bounds]
    obtain ⟨low, high, free⟩ := firstGap_eq_some
      ((Std.ExtTreeMap.ordered_keys.imp Ipv4.compare_eq_lt.mp).filter _)
      (fun x member => ((usable x).mp (List.mem_filter.mp member).2).1)
      (ordered first last bounds) h
    have inside : pool.span.contains address := (usable address).mpr ⟨low, high⟩
    refine ⟨inside, ?_⟩
    exact Std.ExtTreeMap.getElem?_eq_none fun member =>
      free (List.mem_filter.mpr ⟨Std.ExtTreeMap.mem_keys.mpr member, inside⟩)

/-- If nobody holds a usable address, there is a lowest free one, which is not above it. -/
theorem lowestFree?_le {pool : Pool} {free : Ipv4} (usable : pool.span.contains free)
    (unheld : pool.held[free]? = none) :
    ∃ address, pool.lowestFree? = some address ∧ address ≤ free := by
  simp only [lowestFree?]
  split
  next bounds => simp [UsableSpan.contains, bounds] at usable
  next first last bounds =>
    obtain ⟨low, high⟩ : first ≤ free ∧ free ≤ last := by
      simpa [UsableSpan.contains, bounds] using usable
    refine firstGap_of_not_mem low high fun member => ?_
    have there := Std.ExtTreeMap.mem_keys.mp (List.mem_filter.mp member).1
    rw [Std.ExtTreeMap.mem_iff_isSome_getElem?, unheld] at there
    cases there

end Pool

end FloatingAddress
