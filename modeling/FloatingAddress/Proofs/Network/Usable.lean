import FloatingAddress.Proofs.Allocator.LowestFree
import Mathlib.Data.Set.Card

/-!
# The usable addresses of a network, bit by bit

The members of a network have its leading bits, and they differ in the host bits that follow. The
network address has no host bit set and the broadcast address has them all, so the usable addresses
are the members whose host bits are neither all zero nor all one. The bounds of a span and its
capacity are computed on words instead. Both views are compared here, by way of the quotient and the
remainder of a word modulo the size of the network.
-/

namespace FloatingAddress

namespace Ipv4

variable {x y : Ipv4} {length i : Nat}

/-- The bits of an address, the first one being the most significant one. -/
def bit (x : Ipv4) (i : Nat) : Bool := x.word.toBitVec.getMsbD i

/-- Two addresses have the same leading bits, as many of them as `length` says. -/
def Agree (length : Nat) (x y : Ipv4) : Prop := ∀ i < length, x.bit i = y.bit i

instance : Decidable (Agree length x y) := inferInstanceAs (Decidable (∀ i < length, _))

theorem bit_eq_getLsbD (x : Ipv4) (inside : i < 32) :
    x.bit i = x.word.toBitVec.getLsbD (31 - i) := by
  rw [bit, BitVec.getMsbD_eq_getLsbD, decide_eq_true inside, Bool.true_and]

theorem bit_eq_testBit (x : Ipv4) (inside : i < 32) :
    x.bit i = x.word.toNat.testBit (31 - i) := by
  rw [bit_eq_getLsbD x inside, ← BitVec.testBit_toNat, UInt32.toNat_toBitVec]

/-- Addresses with the same leading bits are those with the same quotient. -/
theorem agree_iff (le : length ≤ 32) :
    Agree length x y ↔
      x.word.toNat / 2 ^ (32 - length) = y.word.toNat / 2 ^ (32 - length) := by
  constructor
  · intro agree
    refine Nat.eq_of_testBit_eq fun j => ?_
    rw [Nat.testBit_div_two_pow, Nat.testBit_div_two_pow]
    by_cases inside : j < length
    · have same := agree (length - 1 - j) (by omega)
      rw [bit_eq_testBit x (by omega), bit_eq_testBit y (by omega)] at same
      rwa [show 31 - (length - 1 - j) = j + (32 - length) by omega] at same
    · have wide : 2 ^ 32 ≤ 2 ^ (j + (32 - length)) := Nat.pow_le_pow_right (by decide) (by omega)
      rw [Nat.testBit_lt_two_pow (Nat.lt_of_lt_of_le x.word.toNat_lt wide),
        Nat.testBit_lt_two_pow (Nat.lt_of_lt_of_le y.word.toNat_lt wide)]
  · intro same i inside
    have bits := congrArg (Nat.testBit · (length - 1 - i)) same
    simp only [Nat.testBit_div_two_pow] at bits
    rw [bit_eq_testBit x (by omega), bit_eq_testBit y (by omega)]
    rwa [show length - 1 - i + (32 - length) = 31 - i by omega] at bits

/-- Some bit after the leading ones is not `b`, unless the remainder is the one with only `b`. -/
theorem exists_low_bit_iff (le : length ≤ 32) (b : Bool) :
    (∃ i, length ≤ i ∧ i < 32 ∧ x.bit i = !b) ↔
      x.word.toNat % 2 ^ (32 - length) ≠ if b then 2 ^ (32 - length) - 1 else 0 := by
  -- The remainder consists of the bits after the leading ones, and this is what they must not be.
  have low (j : Nat) : (if b then 2 ^ (32 - length) - 1 else 0).testBit j =
      (decide (j < 32 - length) && b) := by
    cases b <;> simp [Nat.testBit_two_pow_sub_one]
  constructor
  · rintro ⟨i, after, inside, other⟩ same
    have bits := congrArg (Nat.testBit · (31 - i)) same
    rw [bit_eq_testBit x inside] at other
    have here : 31 - i < 32 - length := by omega
    simp [low, Nat.testBit_mod_two_pow, here, other] at bits
  · intro differs
    by_contra absent
    refine differs (Nat.eq_of_testBit_eq fun j => ?_)
    rw [low, Nat.testBit_mod_two_pow]
    by_cases here : j < 32 - length
    · have present : x.bit (31 - j) ≠ !b := fun same =>
        absent ⟨31 - j, by omega, by omega, same⟩
      rw [bit_eq_testBit x (by omega), show 31 - (31 - j) = j by omega] at present
      simpa [here] using present
    · simp [here]

end Ipv4

namespace Cidr

variable {net : Cidr} {address : Ipv4}

/-- The host mask has exactly the bits that follow the leading ones. -/
theorem hostMask_getLsbD (net : Cidr) {i : Nat} (inside : i < 32) :
    net.hostMask.toBitVec.getLsbD (31 - i) = decide (net.length ≤ i) := by
  rw [← BitVec.testBit_toNat, UInt32.toNat_toBitVec, hostMask_toNat, Nat.one_shiftLeft,
    Nat.testBit_two_pow_sub_one, decide_eq_decide]
  omega

/-- The network address keeps the leading bits, and its host bits are zero. -/
theorem network_bit (net : Cidr) {i : Nat} (inside : i < 32) :
    net.network.bit i = (decide (i < net.length) && net.address.bit i) := by
  have weight : 31 - i < 32 := by omega
  simp only [Ipv4.bit_eq_getLsbD _ inside, network, UInt32.toBitVec_and, UInt32.toBitVec_not,
    BitVec.getLsbD_and, BitVec.getLsbD_not, net.hostMask_getLsbD inside, weight, decide_true,
    Bool.true_and]
  rw [Bool.and_comm, ← decide_not, decide_eq_decide.mpr Nat.not_le]

/-- The broadcast address keeps the leading bits, and its host bits are one. -/
theorem broadcast_bit (net : Cidr) {i : Nat} (inside : i < 32) :
    net.broadcast.bit i = (decide (net.length ≤ i) || net.address.bit i) := by
  simp only [Ipv4.bit_eq_getLsbD _ inside, broadcast, UInt32.toBitVec_or, BitVec.getLsbD_or,
    net.hostMask_getLsbD inside]
  rw [Bool.or_comm]

theorem agree_network (net : Cidr) : net.network.Agree net.length net.address := by
  have le := net.length_le
  intro i inside
  simp [network_bit net (show i < 32 by omega), inside]

theorem network_toNat (net : Cidr) :
    net.network.word.toNat =
      2 ^ (32 - net.length) * (net.address.word.toNat / 2 ^ (32 - net.length)) := by
  have le := net.length_le
  have remainder : net.network.word.toNat % 2 ^ (32 - net.length) = 0 := by
    by_contra nonzero
    obtain ⟨i, after, inside, set⟩ := (Ipv4.exists_low_bit_iff le false).mpr nonzero
    simp [network_bit net inside, Nat.not_lt.mpr after] at set
  rw [← Nat.div_add_mod net.network.word.toNat (2 ^ (32 - net.length)), remainder,
    (Ipv4.agree_iff le).mp net.agree_network, Nat.add_zero]

/-- The members of a network lie between its network and its broadcast address. -/
theorem agree_iff_between (net : Cidr) (address : Ipv4) :
    address.Agree net.length net.address ↔
      net.network.word.toNat ≤ address.word.toNat ∧
        address.word.toNat ≤ net.broadcast.word.toNat := by
  rw [Ipv4.agree_iff net.length_le, broadcast_toNat, hostMask_toNat, Nat.one_shiftLeft,
    network_toNat]
  have positive : 0 < 2 ^ (32 - net.length) := Nat.two_pow_pos _
  rw [Nat.div_eq_iff positive, Nat.mul_comm]
  omega

/-- A member lies as far above the network address as its host bits count. -/
theorem toNat_of_agree (member : address.Agree net.length net.address) :
    address.word.toNat =
      net.network.word.toNat + address.word.toNat % 2 ^ (32 - net.length) := by
  rw [network_toNat, ← (Ipv4.agree_iff net.length_le).mp member, Nat.div_add_mod]

/-- Of the members, only the network address has no host bit set. -/
theorem exists_host_one_iff (member : address.Agree net.length net.address) :
    (∃ i, net.length ≤ i ∧ i < 32 ∧ address.bit i = true) ↔
      address.word.toNat ≠ net.network.word.toNat := by
  have someOne := Ipv4.exists_low_bit_iff (x := address) net.length_le false
  have parts := toNat_of_agree member
  simp only [Bool.not_false, Bool.false_eq_true, if_false] at someOne
  rw [someOne]
  omega

/-- Of the members, only the broadcast address has all host bits set. -/
theorem exists_host_zero_iff (member : address.Agree net.length net.address) :
    (∃ i, net.length ≤ i ∧ i < 32 ∧ address.bit i = false) ↔
      address.word.toNat ≠ net.broadcast.word.toNat := by
  have someZero := Ipv4.exists_low_bit_iff (x := address) net.length_le true
  have parts := toNat_of_agree member
  simp only [Bool.not_true, if_true] at someZero
  rw [someZero, broadcast_toNat, hostMask_toNat, Nat.one_shiftLeft]
  omega

end Cidr

namespace UsableSpan

variable {net : Cidr} {address : Ipv4}

/-- A network has bounds unless it is too small to have usable addresses. -/
theorem bounds_cases (net : Cidr) :
    (31 ≤ net.length ∧ (ofCidr net).bounds = none) ∨
      (net.length ≤ 30 ∧ ∃ first last, (ofCidr net).bounds = some (first, last)) := by
  by_cases long : 31 ≤ net.length
  · exact .inl ⟨long, if_pos long⟩
  · exact .inr ⟨by omega, _, _, if_neg long⟩

theorem contains_iff_of_bounds {span : UsableSpan} {first last : Ipv4}
    (known : span.bounds = some (first, last)) :
    span.contains address ↔ first.word.toNat ≤ address.word.toNat ∧
      address.word.toNat ≤ last.word.toNat := by
  simp only [contains, known, Bool.and_eq_true, decide_eq_true_eq, Ipv4.le_iff]

/-- The usable addresses lie strictly between the network and the broadcast address. -/
theorem contains_iff_between :
    (ofCidr net).contains address ↔ net.length ≤ 30 ∧
      net.network.word.toNat < address.word.toNat ∧
      address.word.toNat < net.broadcast.word.toNat := by
  obtain ⟨long, known⟩ | ⟨short, first, last, known⟩ := bounds_cases net
  · simp [contains, known, show ¬net.length ≤ 30 by omega]
  · obtain ⟨low, high, -⟩ := ofCidr_bounds known
    rw [contains_iff_of_bounds known]
    omega

/-- The usable addresses are the members whose host bits are neither all zero nor all one. -/
theorem contains_iff_bits :
    (ofCidr net).contains address ↔ net.length ≤ 30 ∧ address.Agree net.length net.address ∧
      (∃ i, net.length ≤ i ∧ i < 32 ∧ address.bit i = true) ∧
      ∃ i, net.length ≤ i ∧ i < 32 ∧ address.bit i = false := by
  rw [contains_iff_between]
  refine and_congr_right fun _ => ?_
  constructor
  · intro between
    have member : address.Agree net.length net.address :=
      (net.agree_iff_between address).mpr (by omega)
    exact ⟨member, (Cidr.exists_host_one_iff member).mpr (by omega),
      (Cidr.exists_host_zero_iff member).mpr (by omega)⟩
  · rintro ⟨member, someOne, someZero⟩
    have between := (net.agree_iff_between address).mp member
    have low := (Cidr.exists_host_one_iff member).mp someOne
    have high := (Cidr.exists_host_zero_iff member).mp someZero
    omega

def addresses (span : UsableSpan) : List Ipv4 :=
  match span.bounds with
  | none => []
  | some (first, last) =>
    (List.range' first.word.toNat (last.word.toNat + 1 - first.word.toNat)).map fun n =>
      ⟨UInt32.ofNat n⟩

section Interval

variable {span : UsableSpan} {first last : Ipv4}

theorem map_addresses (known : span.bounds = some (first, last)) :
    span.addresses.map (·.word.toNat) =
      List.range' first.word.toNat (last.word.toNat + 1 - first.word.toNat) := by
  simp only [addresses, known, List.map_map]
  refine (List.map_congr_left fun n member => ?_).trans (List.map_id _)
  have inside := List.mem_range'_1.mp member
  have bound := last.word.toNat_lt
  exact UInt32.toNat_ofNat_of_lt' (by simp only [UInt32.size]; omega)

theorem mem_addresses : address ∈ span.addresses ↔ span.contains address := by
  cases known : span.bounds with
  | none => simp [addresses, contains, known]
  | some interval =>
    obtain ⟨first, last⟩ := interval
    have words : address ∈ span.addresses ↔
        address.word.toNat ∈ span.addresses.map (·.word.toNat) :=
      (List.mem_map_of_injective fun _ _ same => Ipv4.eq_iff.mpr same).symm
    rw [words, map_addresses known, List.mem_range'_1, contains_iff_of_bounds known]
    omega

/-- Each of them is listed once, in order. -/
theorem addresses_ordered (span : UsableSpan) : span.addresses.Pairwise (· < ·) := by
  cases known : span.bounds with
  | none => simp [addresses, known]
  | some interval =>
    obtain ⟨first, last⟩ := interval
    have ordered : (span.addresses.map (·.word.toNat)).Pairwise (· < ·) := by
      rw [map_addresses known]
      exact List.pairwise_lt_range'
    exact (List.pairwise_map.mp ordered).imp Ipv4.lt_iff.mpr

theorem nodup_addresses (span : UsableSpan) : span.addresses.Nodup :=
  span.addresses_ordered.imp fun less same => by
    rw [same, Ipv4.lt_iff] at less
    omega

end Interval

theorem first_eq_some_iff {span : UsableSpan} (ordered : span.Ordered) :
    span.first = some address ↔
      span.contains address ∧ ∀ other, span.contains other → address ≤ other := by
  cases known : span.bounds with
  | none => simp [first, contains, known]
  | some interval =>
    obtain ⟨first, last⟩ := interval
    have nonempty := Ipv4.le_iff.mp (ordered first last known)
    simp only [UsableSpan.first, known, Option.map_some, Option.some.injEq,
      contains_iff_of_bounds known, Ipv4.le_iff, Ipv4.eq_iff]
    constructor
    · intro same
      exact ⟨by omega, fun other inside => by omega⟩
    · rintro ⟨inside, least⟩
      have below := least first (by omega)
      omega

theorem last_eq_some_iff {span : UsableSpan} (ordered : span.Ordered) :
    span.last = some address ↔
      span.contains address ∧ ∀ other, span.contains other → other ≤ address := by
  cases known : span.bounds with
  | none => simp [last, contains, known]
  | some interval =>
    obtain ⟨first, last⟩ := interval
    have nonempty := Ipv4.le_iff.mp (ordered first last known)
    simp only [UsableSpan.last, known, Option.map_some, Option.some.injEq,
      contains_iff_of_bounds known, Ipv4.le_iff, Ipv4.eq_iff]
    constructor
    · intro same
      exact ⟨by omega, fun other inside => by omega⟩
    · rintro ⟨inside, greatest⟩
      have above := greatest last (by omega)
      omega

theorem length_addresses (net : Cidr) :
    (ofCidr net).addresses.length = (ofCidr net).capacity.toNat := by
  cases known : (ofCidr net).bounds with
  | none => simp [addresses, capacity, known]
  | some interval =>
    have size := ofCidr_capacity known
    have words := congrArg List.length (map_addresses known)
    rw [List.length_map, List.length_range'] at words
    omega

theorem ncard_contains (net : Cidr) :
    {address | (ofCidr net).contains address}.ncard = (ofCidr net).capacity.toNat := by
  have listed : {address | (ofCidr net).contains address} =
      ((ofCidr net).addresses.toFinset : Set Ipv4) := by
    ext address
    simp [mem_addresses]
  rw [listed, Set.ncard_coe_finset, List.toFinset_card_of_nodup (nodup_addresses _),
    length_addresses]

/-- The capacity is the size of the network without its two outermost members. -/
theorem toNat_capacity (net : Cidr) :
    (ofCidr net).capacity.toNat =
      if net.length ≤ 30 then 2 ^ (32 - net.length) - 2 else 0 := by
  obtain ⟨long, known⟩ | ⟨short, first, last, known⟩ := bounds_cases net
  · rw [if_neg (by omega)]
    simp [capacity, known]
  · obtain ⟨low, high, -⟩ := ofCidr_bounds known
    have size := ofCidr_capacity known
    rw [net.broadcast_toNat, net.hostMask_toNat, Nat.one_shiftLeft] at high
    rw [if_pos short]
    omega

/-- The usable span of every network is what its bits say. An address is usable if the network is
not too small and has it as a member whose host bits are neither all zero nor all one; the bounds
are the least and the greatest usable address, and the capacity is their number. The network and
the broadcast address are the members with all host bits zero or one, and the words that are
computed from them do not wrap around. -/
theorem ofCidr_exact (net : Cidr) :
    (∀ address, (ofCidr net).contains address ↔
      net.length ≤ 30 ∧ address.Agree net.length net.address ∧
        (∃ i, net.length ≤ i ∧ i < 32 ∧ address.bit i = true) ∧
        ∃ i, net.length ≤ i ∧ i < 32 ∧ address.bit i = false) ∧
    (∀ address, (ofCidr net).first = some address ↔ (ofCidr net).contains address ∧
      ∀ other, (ofCidr net).contains other → address ≤ other) ∧
    (∀ address, (ofCidr net).last = some address ↔ (ofCidr net).contains address ∧
      ∀ other, (ofCidr net).contains other → other ≤ address) ∧
    (ofCidr net).capacity.toNat = {address | (ofCidr net).contains address}.ncard ∧
    (ofCidr net).capacity.toNat = (if net.length ≤ 30 then 2 ^ (32 - net.length) - 2 else 0) ∧
    (∀ i < 32, net.network.bit i = (decide (i < net.length) && net.address.bit i) ∧
      net.broadcast.bit i = (decide (net.length ≤ i) || net.address.bit i)) ∧
    (net.length ≤ 30 → ∃ first last, (ofCidr net).bounds = some (first, last) ∧
      first.word.toNat = net.network.word.toNat + 1 ∧
      last.word.toNat + 1 = net.broadcast.word.toNat ∧
      first.word.toNat ≤ last.word.toNat ∧
      (ofCidr net).capacity.toNat = last.word.toNat - first.word.toNat + 1) := by
  have ordered := ofCidr_ordered net
  refine ⟨fun _ => contains_iff_bits, fun _ => first_eq_some_iff ordered,
    fun _ => last_eq_some_iff ordered, (ncard_contains net).symm, toNat_capacity net,
    fun i inside => ⟨net.network_bit inside, net.broadcast_bit inside⟩, fun short => ?_⟩
  obtain ⟨long, -⟩ | ⟨-, first, last, known⟩ := bounds_cases net
  · omega
  · obtain ⟨low, high, less⟩ := ofCidr_bounds known
    have size := ofCidr_capacity known
    have nonempty := Ipv4.le_iff.mp less
    exact ⟨first, last, known, low, high, nonempty, by omega⟩

end UsableSpan

namespace Sample

/-- The last network of 32 members. -/
def topmost : Cidr := ⟨.ofOctets 255 255 255 253, 27, by decide⟩

end Sample

namespace UsableSpan

/-- The last network has 30 usable addresses, and none of its words wraps around. -/
theorem ofCidr_exact_topmost :
    {address | (ofCidr Sample.topmost).contains address}.ncard = 30 ∧
      ∃ first last, (ofCidr Sample.topmost).bounds = some (first, last) ∧
        first.word.toNat = Sample.topmost.network.word.toNat + 1 ∧
        last.word.toNat + 1 = Sample.topmost.broadcast.word.toNat := by
  obtain ⟨-, -, -, counted, size, -, bounded⟩ := ofCidr_exact Sample.topmost
  obtain ⟨first, last, known, low, high, -⟩ := bounded (by decide)
  exact ⟨by rw [← counted, size]; decide, first, last, known, low, high⟩

end UsableSpan

end FloatingAddress
