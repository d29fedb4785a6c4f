import FloatingAddress.Inventory
import FloatingAddress.Proofs.Allocator.View

/-!
# The inventory, seen through its records and holders

An inventory is known by four views: the record of each range, the record of each floating
address, the span of each range, and the holder of each address. Every operation is described
here by what it does to them. Taking a record out and giving its address back is one operation
with two names, `rollback` and `release`, and the second is described by the first.
-/

namespace FloatingAddress

namespace Store

variable {store : Store} {name : String} {key : RecordKey}

theorem ext_view {other : Store} (ranges : ∀ n, store.range? n = other.range? n)
    (floatings : ∀ k, store.floating? k = other.floating? k) : store = other := by
  cases store
  cases other
  congr
  · exact Std.ExtTreeMap.ext_getElem? fun {n} => ranges n
  · exact Std.ExtTreeMap.ext_getElem? fun {k} => floatings k

theorem mem_ranges {record : RangeRecord} :
    record ∈ store.ranges ↔ ∃ name, store.range? name = some record := by
  simp [ranges, range?, Std.ExtTreeMap.mem_toList_iff_getElem?_eq_some]

@[simp] theorem mem_floatings {record : FloatingRecord} :
    record ∈ store.floatings ↔ ∃ key, store.floating? key = some record := by
  simp [floatings, floating?, Std.ExtTreeMap.mem_toList_iff_getElem?_eq_some]

@[simp] theorem mem_floatingsIn {record : FloatingRecord} :
    record ∈ store.floatingsIn name ↔
      (∃ key, store.floating? key = some record) ∧ record.range = name := by
  simp [floatingsIn]

theorem removeRange_eq_ok {record : RangeRecord} (found : store.range? name = some record) :
    ∃ after, store.removeRange name = .ok (record, after) ∧
      (∀ n, after.range? n = if name = n then none else store.range? n) ∧
      ∀ k, after.floating? k = store.floating? k := by
  refine ⟨{ store with rangeRecords := store.rangeRecords.erase name },
    by simp only [removeRange, found], fun n => ?_, fun k => rfl⟩
  simp [range?, Std.ExtTreeMap.getElem?_erase]

theorem removeFloating_eq_ok {record : FloatingRecord} (found : store.floating? key = some record) :
    ∃ after, store.removeFloating key = .ok (record, after) ∧
      (∀ n, after.range? n = store.range? n) ∧
      ∀ k, after.floating? k = if key = k then none else store.floating? k := by
  refine ⟨{ store with floatingRecords := store.floatingRecords.erase key },
    by simp only [removeFloating, found], fun n => rfl, fun k => ?_⟩
  simp [floating?, Std.ExtTreeMap.getElem?_erase]

theorem removeFloating_of_none (missing : store.floating? key = none) :
    store.removeFloating key = .error (.floatingNotFound key) := by
  simp only [removeFloating, missing]

end Store

namespace Inventory

variable {inv after : Inventory} {name : String} {key : RecordKey}

theorem ext_view {other : Inventory} (ranges : ∀ n, inv.range? n = other.range? n)
    (floatings : ∀ k, inv.floating? k = other.floating? k)
    (spans : ∀ n, inv.allocator.span n = other.allocator.span n)
    (owners : ∀ n a, inv.allocator.owner n a = other.allocator.owner n a) : inv = other := by
  cases inv
  cases other
  congr
  · exact Allocator.ext_view spans owners
  · exact Store.ext_view ranges floatings

@[simp] theorem range?_empty (n : String) : Inventory.empty.range? n = none := by
  simp [Inventory.empty, range?, Store.range?]

@[simp] theorem floating?_empty (k : RecordKey) : Inventory.empty.floating? k = none := by
  simp [Inventory.empty, floating?, Store.floating?]

/-- Who is first among the stored records to draw an address from a range. -/
def claimant (inv : Inventory) (range : String) (address : Ipv4) : Option String :=
  ((inv.store.floatingsIn range).find? (·.address = some address)).map (·.owner)

theorem readoptOne_span {done : Readoption} {record : FloatingRecord} (n : String) :
    (readoptOne name done record).allocator.span n = done.allocator.span n := by
  unfold readoptOne
  split
  · rfl
  next address _ =>
    split
    next acquired => exact (Allocator.acquire_ok acquired).2.1 n
    · rfl

/-- Reserving an address again gives it to the record unless somebody has it. -/
theorem readoptOne_owner {done : Readoption} {record : FloatingRecord} {span : UsableSpan}
    (known : done.allocator.span name = some span) (n : String) (a : Ipv4) :
    (readoptOne name done record).allocator.owner n a =
      if name = n ∧ span.contains a ∧ record.address = some a then
        (done.allocator.owner n a).or (some record.owner)
      else done.allocator.owner n a := by
  unfold readoptOne
  split
  next none => simp [none]
  next address carried =>
    by_cases usable : span.contains address
    · cases held : done.allocator.owner name address with
      | none =>
        have unheld : done.allocator.owner name address = none ∨
            done.allocator.owner name address = some record.owner := .inl held
        obtain ⟨after, acquired⟩ := Allocator.acquire_requested known usable unheld
        simp only [acquired, (Allocator.acquire_ok acquired).2.2]
        grind
      | some holder =>
        by_cases same : holder = record.owner
        · obtain ⟨after, acquired⟩ := Allocator.acquire_requested known usable (.inr held)
          subst same
          simp only [acquired, (Allocator.acquire_ok acquired).2.2]
          grind
        · simp only [Allocator.acquire_of_held known usable held same]
          grind
    · simp only [Allocator.acquire_of_not_contains known usable]
      grind

theorem readopt_span {done : Readoption} {records : List FloatingRecord} (n : String) :
    (records.foldl (readoptOne name) done).allocator.span n = done.allocator.span n := by
  induction records generalizing done with
  | nil => rfl
  | cons record rest ih => rw [List.foldl_cons, ih, readoptOne_span]

/-- Of several records with one address, the first one gets it. -/
theorem readopt_owner {done : Readoption} {records : List FloatingRecord} {span : UsableSpan}
    (known : done.allocator.span name = some span) (n : String) (a : Ipv4) :
    (records.foldl (readoptOne name) done).allocator.owner n a =
      if name = n ∧ span.contains a then
        (done.allocator.owner n a).or ((records.find? (·.address = some a)).map (·.owner))
      else done.allocator.owner n a := by
  induction records generalizing done with
  | nil => simp
  | cons record rest ih =>
    rw [List.foldl_cons, ih (by rw [readoptOne_span, known]), readoptOne_owner known]
    by_cases carried : record.address = some a
    · rw [List.find?_cons_of_pos (by simpa using carried)]
      by_cases inside : name = n ∧ span.contains a
      · simp [inside, carried]
      · grind
    · rw [List.find?_cons_of_neg (by simpa using carried)]
      simp [carried]

/-- A range is registered, the addresses of its records are reserved again, and it is stored. -/
theorem createRange_cases {record : RangeRecord} {reg : Registration}
    (h : inv.createRange record = .ok (reg, after)) :
    ∃ span allocator done, inv.allocator.register record.name record.cidr = .ok (span, allocator) ∧
      done = readopt allocator record.name (inv.store.floatingsIn record.name) ∧
      reg = { record, capacity := span.capacity, readopted := done.count
              untracked := done.untracked } ∧
      after = { allocator := done.allocator, store := inv.store.putRange record } := by
  cases registered : inv.allocator.register record.name record.cidr with
  | error e => simp [createRange, registered, bind, Except.bind] at h
  | ok result =>
    simp only [createRange, registered, bind, Except.bind, pure, Except.pure] at h
    cases h
    exact ⟨_, _, _, rfl, rfl, rfl, rfl⟩

theorem createRange_ok {record : RangeRecord} {reg : Registration}
    (h : inv.createRange record = .ok (reg, after)) :
    inv.allocator.span record.name = none ∧
      ∃ span, UsableSpan.ofText? record.cidr = some span ∧
        (∀ n, after.range? n = if record.name = n then some record else inv.range? n) ∧
        (∀ k, after.floating? k = inv.floating? k) ∧
        (∀ n, after.allocator.span n =
          if record.name = n then some span else inv.allocator.span n) ∧
        ∀ n a, after.allocator.owner n a =
          if record.name = n then
            if span.contains a then inv.claimant n a else none
          else inv.allocator.owner n a := by
  obtain ⟨span, allocator, done, registered, rfl, rfl, rfl⟩ := createRange_cases h
  obtain ⟨fresh, parsed, spans, owners⟩ := Allocator.register_ok registered
  refine ⟨fresh, span, parsed, fun n => ?_, fun k => ?_, fun n => ?_, fun n a => ?_⟩
  · simp [range?]
  · simp [floating?]
  · simp only [readopt, readopt_span, spans]
  · have known : allocator.span record.name = some span := by rw [spans, if_pos rfl]
    rw [readopt, readopt_owner known, owners]
    by_cases same : record.name = n
    · subst same
      simp [claimant]
    · simp [same]

theorem createRange_of_fresh {record : RangeRecord} {span : UsableSpan}
    (fresh : inv.allocator.span record.name = none)
    (parsed : UsableSpan.ofText? record.cidr = some span) :
    ∃ reg after, inv.createRange record = .ok (reg, after) := by
  obtain ⟨allocator, registered⟩ := Allocator.register_of_span_eq_none fresh parsed
  exact ⟨_, _, by simp only [createRange, registered, bind, Except.bind]; rfl⟩

/-- A range is forgotten by the allocator, and its record is taken out. -/
theorem deleteRange_cases {removal : Removal} (h : inv.deleteRange name = .ok (removal, after)) :
    ∃ released allocator record store,
      inv.allocator.deregister name = .ok (released, allocator) ∧
      inv.store.removeRange name = .ok (record, store) ∧
      removal = { record, released, orphaned := (store.floatingsIn name).length } ∧
      after = { allocator, store } := by
  unfold deleteRange at h
  split at h
  · cases h
  next released allocator deregistered =>
    split at h
    · cases h
    next record store removed =>
      cases h
      exact ⟨released, allocator, record, store, deregistered, removed, rfl, rfl⟩

theorem deleteRange_ok {removal : Removal} (h : inv.deleteRange name = .ok (removal, after)) :
    inv.range? name = some removal.record ∧
      (∀ n, after.range? n = if name = n then none else inv.range? n) ∧
      (∀ k, after.floating? k = inv.floating? k) ∧
      (∀ n, after.allocator.span n = if name = n then none else inv.allocator.span n) ∧
      ∀ n a, after.allocator.owner n a =
        if name = n then none else inv.allocator.owner n a := by
  obtain ⟨released, allocator, record, store, deregistered, removed, rfl, rfl⟩ :=
    deleteRange_cases h
  obtain ⟨-, spans, owners⟩ := Allocator.deregister_ok deregistered
  cases found : inv.store.range? name with
  | none => simp [Store.removeRange, found] at removed
  | some known =>
    obtain ⟨_, removed', ranges, floatings⟩ := Store.removeRange_eq_ok found
    rw [removed] at removed'
    cases removed'
    exact ⟨found, ranges, floatings, spans, owners⟩

theorem deleteRange_of_known {record : RangeRecord} {span : UsableSpan}
    (known : inv.allocator.span name = some span) (found : inv.range? name = some record) :
    ∃ removal after, inv.deleteRange name = .ok (removal, after) := by
  obtain ⟨count, allocator, deregistered⟩ := Allocator.deregister_of_span_eq_some known
  obtain ⟨store, removed, -⟩ := Store.removeRange_eq_ok found
  exact ⟨_, _, by simp only [deleteRange, deregistered, removed]; rfl⟩

/-- A claim is what the allocator grants, together with the record that now has the address. -/
theorem claim_ok {record : FloatingRecord} {claim : Claim}
    (h : inv.claim record = .ok (claim, after)) :
    inv.allocator.acquire record.range record.owner record.address =
        .ok (claim.address, after.allocator) ∧
      claim.record = { record with address := some claim.address } ∧
      claim.range = inv.range? record.range ∧
      (∀ n, after.range? n = inv.range? n) ∧
      ∀ k, after.floating? k =
        if record.key = k then some { record with address := some claim.address }
        else inv.floating? k := by
  cases acquired : inv.allocator.acquire record.range record.owner record.address with
  | error e => simp [Inventory.claim, acquired, bind, Except.bind] at h
  | ok result =>
    obtain ⟨address, allocator⟩ := result
    simp only [Inventory.claim, acquired, bind, Except.bind, pure, Except.pure] at h
    cases h
    refine ⟨rfl, rfl, rfl, fun n => rfl, fun k => ?_⟩
    simp [floating?]

theorem claim_of_acquire {record : FloatingRecord} {address : Ipv4} {allocator : Allocator}
    (acquired : inv.allocator.acquire record.range record.owner record.address =
      .ok (address, allocator)) :
    ∃ after, inv.claim record = .ok
      ({ record := { record with address := some address }
         address
         allocated := record.address.isNone
         range := inv.range? record.range }, after) :=
  ⟨_, by simp only [Inventory.claim, acquired, bind, Except.bind]; rfl⟩

theorem claim_of_acquire_error {record : FloatingRecord} {error : AllocationError}
    (refused : inv.allocator.acquire record.range record.owner record.address = .error error) :
    inv.claim record = .error error := by
  simp only [Inventory.claim, refused, bind, Except.bind]

/-- A claim for an identity that has no record leaves the records that are there. -/
theorem floating?_of_claim {record stored : FloatingRecord} {claim : Claim}
    (h : inv.claim record = .ok (claim, after)) (missing : inv.floating? record.key = none)
    (found : inv.floating? key = some stored) : after.floating? key = some stored := by
  obtain ⟨-, -, -, -, floatings⟩ := claim_ok h
  rw [floatings, if_neg, found]
  rintro rfl
  rw [missing] at found
  cases found

theorem rollback_of_none (missing : inv.floating? key = none) : inv.rollback key = inv := by
  simp only [rollback, Store.removeFloating_of_none missing]

theorem rollback_view {record : FloatingRecord} (found : inv.floating? key = some record) :
    (∀ n, (inv.rollback key).range? n = inv.range? n) ∧
      (∀ k, (inv.rollback key).floating? k = if key = k then none else inv.floating? k) ∧
      (∀ n, (inv.rollback key).allocator.span n = inv.allocator.span n) ∧
      ∀ n a, (inv.rollback key).allocator.owner n a =
        if record.range = n ∧ record.address = some a then none
        else inv.allocator.owner n a := by
  obtain ⟨store, removed, ranges, floatings⟩ := Store.removeFloating_eq_ok found
  simp only [rollback, removed]
  refine ⟨ranges, floatings, fun n => ?_, fun n a => ?_⟩
  · cases carried : record.address <;> simp [releaseAddress, carried]
  · cases carried : record.address with
    | none => simp [releaseAddress, carried]
    | some address => simp [releaseAddress, carried, Allocator.owner_release]

@[simp] theorem range?_rollback (n : String) : (inv.rollback key).range? n = inv.range? n := by
  cases found : inv.floating? key with
  | none => rw [rollback_of_none found]
  | some record => exact (rollback_view found).1 n

@[simp] theorem floating?_rollback (k : RecordKey) :
    (inv.rollback key).floating? k = if key = k then none else inv.floating? k := by
  cases found : inv.floating? key with
  | none =>
    rw [rollback_of_none found]
    split
    next same => rw [← same, found]
    · rfl
  | some record => exact (rollback_view found).2.1 k

/-- What is stored after a rollback is another record that was stored before. -/
theorem floating?_of_rollback {k : RecordKey} {record : FloatingRecord}
    (stored : (inv.rollback key).floating? k = some record) :
    key ≠ k ∧ inv.floating? k = some record := by
  rw [floating?_rollback] at stored
  split at stored
  · cases stored
  next other => exact ⟨other, stored⟩

@[simp] theorem rollback_rollback :
    (inv.rollback key).rollback key = inv.rollback key :=
  rollback_of_none (by rw [floating?_rollback, if_pos rfl])

theorem release_of_none (missing : inv.floating? key = none) :
    inv.release key = .error (.floatingNotFound key) := by
  simp only [release, Store.removeFloating_of_none missing]

/-- A release is a rollback that tells what it did. -/
theorem release_of_some {record : FloatingRecord} (found : inv.floating? key = some record) :
    inv.release key = .ok
      ({ record
         released := (record.address.bind (inv.allocator.owner record.range)).isSome
         range := inv.range? record.range },
        inv.rollback key) := by
  obtain ⟨store, removed, ranges, -⟩ := Store.removeFloating_eq_ok found
  simp only [release, rollback, removed, range?, ranges]
  cases carried : record.address with
  | none => simp [releaseAddress, carried]
  | some address => simp [releaseAddress, carried, Allocator.release_fst]

end Inventory

end FloatingAddress
