import FloatingAddress.Proofs.Allocator.Counting
import FloatingAddress.Proofs.Inventory.Agreement

/-!
# How many addresses are held, and how many records there are

The number of held addresses follows from who holds what: it goes up by one when an address that
nobody held is claimed, and down by one when a held address is given back. The number of addresses
that a new range reserves again is the number of its held addresses.

Records are counted likewise, and the allocator has as many ranges as the store.
-/

namespace FloatingAddress

namespace Store

variable {store after : Store} {name : String} {key : RecordKey}

/-- A map that has one more key has one more entry. -/
theorem size_add {κ ρ : Type} [DecidableEq κ] [Ord κ] [Std.TransOrd κ] [Std.LawfulEqOrd κ]
    {map map' : Std.ExtTreeMap κ ρ} {k : κ} {record : ρ} (missing : map[k]? = none)
    (added : ∀ k', map'[k']? = if k = k' then some record else map[k']?) :
    map'.size = map.size + 1 := by
  have same : map' = map.insert k record := by
    refine Std.ExtTreeMap.ext_getElem? fun {k'} => (added k').trans ?_
    simp [Std.ExtTreeMap.getElem?_insert]
  rw [same, Std.ExtTreeMap.size_insert, Std.ExtTreeMap.contains_eq_isSome_getElem?, missing]
  rfl

theorem ranges_congr {other : Store} (same : ∀ n, store.range? n = other.range? n) :
    store.ranges = other.ranges := by
  have records : store.rangeRecords = other.rangeRecords :=
    Std.ExtTreeMap.ext_getElem? fun {n} => same n
  rw [ranges, ranges, records]

/-- One more range is stored. -/
theorem length_ranges_add {record : RangeRecord} (missing : store.range? name = none)
    (added : ∀ n, after.range? n = if name = n then some record else store.range? n) :
    after.ranges.length = store.ranges.length + 1 := by
  simp only [ranges, List.length_map, Std.ExtTreeMap.length_toList]
  exact size_add missing added

/-- One more floating address is stored. -/
theorem length_floatings_add {record : FloatingRecord} (missing : store.floating? key = none)
    (added : ∀ k, after.floating? k = if key = k then some record else store.floating? k) :
    after.floatings.length = store.floatings.length + 1 := by
  simp only [floatings, List.length_map, Std.ExtTreeMap.length_toList]
  exact size_add missing added

end Store

namespace Inventory

variable {inv after : Inventory} {name : String} {key : RecordKey}

def heldCount (inv : Inventory) (name : String) : Nat := (inv.allocated name).length

theorem heldCount_le (inv : Inventory) (name : String) : inv.heldCount name ≤ UInt32.size :=
  inv.allocator.length_allocated_le name

theorem heldCount_congr {other : Inventory}
    (same : ∀ a, inv.allocator.owner name a = other.allocator.owner name a) :
    inv.heldCount name = other.heldCount name :=
  Allocator.length_allocated_congr fun a => by rw [same]

namespace Sound

/-- The allocator knows as many ranges as the store. -/
theorem length_ranges (sound : inv.Sound) :
    inv.allocator.ranges.length = inv.store.ranges.length := by
  have perm : inv.allocator.pools.keys.Perm inv.store.rangeRecords.keys := by
    refine (List.perm_ext_iff_of_nodup Std.ExtTreeMap.nodup_keys Std.ExtTreeMap.nodup_keys).mpr
      fun name => ?_
    have spans := congrArg Option.isSome (sound.spans name)
    rw [Allocator.span, range?, Store.range?, Option.isSome_map, Option.isSome_map] at spans
    rw [Std.ExtTreeMap.mem_keys, Std.ExtTreeMap.mem_keys, Std.ExtTreeMap.mem_iff_isSome_getElem?,
      Std.ExtTreeMap.mem_iff_isSome_getElem?, spans]
  rw [Allocator.ranges, perm.length_eq, Std.ExtTreeMap.length_keys, Store.ranges, List.length_map,
    Std.ExtTreeMap.length_toList]

/-- A range never holds more addresses than it has. -/
theorem heldCount_le_capacity (sound : inv.Sound) {range : RangeRecord}
    (found : inv.range? name = some range) :
    inv.heldCount name ≤ range.span.capacity.toNat := by
  obtain ⟨net, -, same⟩ := Option.map_eq_some_iff.mp (sound.range name range found).2
  have usable : ∀ a, (inv.allocator.owner name a).isSome → range.span.contains a := by
    intro a isHeld
    obtain ⟨owner, held⟩ := Option.isSome_iff_exists.mp isHeld
    obtain ⟨_, _, _, _, _, usable, _⟩ := (sound.held name range found a owner).mp held
    exact usable
  rw [← same] at usable ⊢
  exact Allocator.length_allocated_le_capacity usable

theorem heldCount_claim (sound : inv.Sound) {record : FloatingRecord} (plain : record.key.Plain)
    (missing : inv.floating? record.key = none) {claim : Claim}
    (h : inv.claim record = .ok (claim, after)) (n : String) :
    after.heldCount n = inv.heldCount n + if record.range = n then 1 else 0 := by
  obtain ⟨-, -, -, unheld, -⟩ := sound.claim_fresh plain missing h
  obtain ⟨acquired, -⟩ := claim_ok h
  obtain ⟨-, -, owners⟩ := Allocator.acquire_ok acquired
  split
  next same =>
    subst same
    refine Allocator.length_allocated_add unheld fun a => ?_
    rw [owners]
    by_cases hit : claim.address = a <;> simp [hit]
  next other =>
    exact heldCount_congr fun a => by rw [owners, if_neg (fun both => other both.1)]

end Sound

/-- Taking a record out gives its address back if it was held. -/
theorem heldCount_rollback {record : FloatingRecord} (found : inv.floating? key = some record)
    (n : String) : inv.heldCount n = (inv.rollback key).heldCount n +
      if record.range = n ∧ (record.address.bind (inv.allocator.owner n)).isSome then 1 else 0 := by
  obtain ⟨-, -, -, owners⟩ := rollback_view found
  split
  next held =>
    obtain ⟨same, held⟩ := held
    obtain ⟨address, carried, held⟩ : ∃ address, record.address = some address ∧
        (inv.allocator.owner n address).isSome := by
      cases carried : record.address with
      | none => simp [carried] at held
      | some address => exact ⟨address, rfl, by simpa [carried] using held⟩
    have unheld : (inv.rollback key).allocator.owner n address = none := by
      rw [owners, if_pos ⟨same, carried⟩]
    refine Allocator.length_allocated_add unheld fun a => ?_
    rw [owners]
    by_cases hit : address = a
    · simpa [hit] using hit ▸ held
    · simp [hit, carried]
  next unheld =>
    refine Allocator.length_allocated_congr fun a => ?_
    rw [owners]
    split
    next hit =>
      obtain ⟨rfl, carried⟩ := hit
      simpa [carried] using unheld
    · rfl

variable {record : FloatingRecord} {done : Readoption} {span : UsableSpan}

theorem readoptOne_count (known : done.allocator.span name = some span)
    (free : ∀ a, record.address = some a → done.allocator.owner name a = none) :
    (readoptOne name done record).count + (done.allocator.allocated name).length =
      done.count + ((readoptOne name done record).allocator.allocated name).length := by
  unfold readoptOne
  split
  · rfl
  next address carried =>
    have unheld := free address carried
    by_cases usable : span.contains address
    · have unheld' : done.allocator.owner name address = none ∨
          done.allocator.owner name address = some record.owner := .inl unheld
      obtain ⟨after, acquired⟩ := Allocator.acquire_requested known usable unheld'
      obtain ⟨-, -, owners⟩ := Allocator.acquire_ok acquired
      have added : (after.allocated name).length = (done.allocator.allocated name).length + 1 := by
        refine Allocator.length_allocated_add unheld fun a => ?_
        rw [owners]
        by_cases hit : address = a <;> simp [hit]
      simp only [acquired, added]
      omega
    · rw [Allocator.acquire_of_not_contains known usable]

/-- Reserving the address of one record again leaves the address of another record free. -/
theorem readoptOne_free {other : FloatingRecord} {a : Ipv4}
    (known : done.allocator.span name = some span)
    (different : record.address.isSome → record.address ≠ other.address)
    (carried : other.address = some a) (free : done.allocator.owner name a = none) :
    (readoptOne name done record).allocator.owner name a = none := by
  rw [readoptOne_owner known, if_neg, free]
  rintro ⟨-, -, carried'⟩
  exact different (by simp [carried']) (carried'.trans carried.symm)

/-- The addresses of these records can be reserved again, one after the other. -/
structure Reservable (name : String) (span : UsableSpan) (done : Readoption)
    (records : List FloatingRecord) : Prop where
  known : done.allocator.span name = some span
  /-- No two of the records have the same address. -/
  apart : records.Pairwise fun record other => record.address.isSome →
    record.address ≠ other.address
  /-- Nobody has the address of one of them yet. -/
  free : ∀ record ∈ records, ∀ a, record.address = some a → done.allocator.owner name a = none

theorem Reservable.next {rest : List FloatingRecord}
    (reservable : Reservable name span done (record :: rest)) :
    Reservable name span (readoptOne name done record) rest := by
  obtain ⟨different, apart⟩ := List.pairwise_cons.mp reservable.apart
  refine ⟨?_, apart, fun other member a carried => ?_⟩
  · rw [readoptOne_span, reservable.known]
  · exact readoptOne_free reservable.known (different other member) carried
      (reservable.free other (.tail _ member) a carried)

/-- Every address that is reserved again is held from then on. -/
theorem Reservable.count {records : List FloatingRecord}
    (reservable : Reservable name span done records) :
    (records.foldl (readoptOne name) done).count + (done.allocator.allocated name).length =
      done.count + ((records.foldl (readoptOne name) done).allocator.allocated name).length := by
  induction records generalizing done with
  | nil => rfl
  | cons record rest ih =>
    have here := readoptOne_count reservable.known (reservable.free record (.head _))
    have further := ih reservable.next
    rw [List.foldl_cons]
    omega

/-- The records of a range have different addresses. -/
theorem Sound.floatingsIn_apart (sound : inv.Sound) (name : String) :
    (inv.store.floatingsIn name).Pairwise fun record other => record.address.isSome →
      record.address ≠ other.address := by
  unfold Store.floatingsIn Store.floatings
  rw [List.pairwise_filter, List.pairwise_map]
  refine List.Pairwise.imp_of_mem ?_ Std.ExtTreeMap.distinct_keys_toList
  rintro ⟨key, record⟩ ⟨key', record'⟩ stored stored' different drawn drawn' - carried
  rw [Std.ExtTreeMap.mem_toList_iff_getElem?_eq_some] at stored stored'
  have ranges : record.range = record'.range := by simp_all
  have same := sound.unshared key key' record record' stored stored' ranges carried
  exact different (Std.LawfulEqCmp.compare_eq_iff_eq.mpr same)

/-- A range that was just registered can have the addresses of all its records. -/
theorem Sound.reservable (sound : inv.Sound) {cidr : String} {allocator : Allocator}
    (registered : inv.allocator.register name cidr = .ok (span, allocator)) :
    Reservable name span { allocator } (inv.store.floatingsIn name) := by
  obtain ⟨-, -, spans, owners⟩ := Allocator.register_ok registered
  refine ⟨(spans name).trans (if_pos rfl), sound.floatingsIn_apart name, fun _ _ a _ => ?_⟩
  exact (owners name a).trans (if_pos rfl)

/-- A new range reserves as many addresses again as are held then. -/
theorem Sound.readopted_eq (sound : inv.Sound) {record : RangeRecord} {reg : Registration}
    (h : inv.createRange record = .ok (reg, after)) :
    reg.readopted = after.heldCount record.name := by
  obtain ⟨span, allocator, done, registered, rfl, rfl, rfl⟩ := createRange_cases h
  have counted := (sound.reservable registered).count
  have nobody : (allocator.allocated record.name).length = 0 := by
    obtain ⟨-, -, -, owners⟩ := Allocator.register_ok registered
    rw [List.length_eq_zero_iff, List.eq_nil_iff_forall_not_mem]
    simp [Allocator.mem_allocated, owners]
  rw [nobody, Nat.add_zero] at counted
  exact counted.trans (Nat.zero_add _)

/-- What is said about a new range is about its own record. -/
theorem registration_eq {record : RangeRecord} (formed : record.WellFormed) {reg : Registration}
    (h : inv.createRange record = .ok (reg, after)) :
    reg.record = record ∧ reg.capacity = record.span.capacity := by
  obtain ⟨span, allocator, done, registered, rfl, rfl, rfl⟩ := createRange_cases h
  obtain ⟨-, parsed, -⟩ := Allocator.register_ok registered
  obtain rfl : span = record.span := Option.some.inj (parsed.symm.trans formed)
  exact ⟨rfl, rfl⟩

end Inventory

end FloatingAddress
