import FloatingAddress.Proofs.Allocator.LowestFree

/-!
# The allocator, seen through its spans and holders

An allocator is known by the span of each range and the holder of each address: two allocators
that agree in both are equal. Every operation is described here by what it does to these two
views. Later modules reason with the views and leave the pools closed.
-/

namespace FloatingAddress.Allocator

variable {alloc after : Allocator} {name range owner cidr : String} {address : Ipv4}
variable {requested : Option Ipv4} {span : UsableSpan}

/-- The pool of a range is known by its span and its holders. -/
theorem pool_ext {other : Allocator} (spans : alloc.span name = other.span name)
    (owners : ∀ a, alloc.owner name a = other.owner name a) :
    alloc.pools[name]? = other.pools[name]? := by
  simp only [Allocator.span, Allocator.owner] at spans owners
  cases left : alloc.pools[name]? with
  | none =>
    cases right : other.pools[name]? with
    | none => rfl
    | some pool => simp [left, right] at spans
  | some pool =>
    cases right : other.pools[name]? with
    | none => simp [left, right] at spans
    | some pool' =>
      obtain ⟨span, held⟩ := pool
      obtain ⟨span', held'⟩ := pool'
      simp only [left, right, Option.map_some, Option.some.injEq, Option.bind_some] at spans owners
      subst spans
      rw [Std.ExtTreeMap.ext_getElem? owners]

theorem ext_view {other : Allocator} (spans : ∀ n, alloc.span n = other.span n)
    (owners : ∀ n a, alloc.owner n a = other.owner n a) : alloc = other := by
  cases alloc
  cases other
  exact congrArg Allocator.mk
    (Std.ExtTreeMap.ext_getElem? fun {n} => pool_ext (spans n) (owners n))

@[simp] theorem span_empty (n : String) : Allocator.empty.span n = none := by
  simp [Allocator.empty, Allocator.span]

theorem owner_of_span_eq_none (h : alloc.span name = none) (a : Ipv4) :
    alloc.owner name a = none := by
  simp only [Allocator.span, Option.map_eq_none_iff] at h
  simp [Allocator.owner, h]

theorem register_ok (h : alloc.register name cidr = .ok (span, after)) :
    alloc.span name = none ∧ UsableSpan.ofText? cidr = some span ∧
      (∀ n, after.span n = if name = n then some span else alloc.span n) ∧
      ∀ n a, after.owner n a = if name = n then none else alloc.owner n a := by
  unfold register at h
  split at h
  · cases h
  next fresh =>
    split at h
    · cases h
    next parsed =>
      cases h
      refine ⟨by simpa [Allocator.span] using fresh, parsed, fun n => ?_, fun n a => ?_⟩
      · by_cases same : name = n <;> simp [Allocator.span, Std.ExtTreeMap.getElem?_insert, same]
      · by_cases same : name = n <;> simp [Allocator.owner, Std.ExtTreeMap.getElem?_insert, same]

theorem register_of_span_eq_none (fresh : alloc.span name = none)
    (parsed : UsableSpan.ofText? cidr = some span) :
    ∃ after, alloc.register name cidr = .ok (span, after) := by
  have absent : name ∉ alloc.pools := by simpa [Allocator.span] using fresh
  exact ⟨_, by simp only [register, if_neg absent, parsed]; rfl⟩

theorem deregister_ok {count : Nat} (h : alloc.deregister name = .ok (count, after)) :
    (alloc.span name).isSome ∧
      (∀ n, after.span n = if name = n then none else alloc.span n) ∧
      ∀ n a, after.owner n a = if name = n then none else alloc.owner n a := by
  unfold deregister at h
  split at h
  · cases h
  next found =>
    cases h
    refine ⟨by simp [Allocator.span, found], fun n => ?_, fun n a => ?_⟩
    · by_cases same : name = n <;> simp [Allocator.span, Std.ExtTreeMap.getElem?_erase, same]
    · by_cases same : name = n <;> simp [Allocator.owner, Std.ExtTreeMap.getElem?_erase, same]

theorem deregister_of_span_eq_some (known : alloc.span name = some span) :
    ∃ count after, alloc.deregister name = .ok (count, after) := by
  obtain ⟨pool, found, -⟩ := Option.map_eq_some_iff.mp known
  exact ⟨_, _, by simp only [deregister, found]; rfl⟩

theorem deregister_of_span_eq_none (unknown : alloc.span name = none) :
    alloc.deregister name = .error (.rangeNotFound name) := by
  simp only [Allocator.span, Option.map_eq_none_iff] at unknown
  simp only [deregister, unknown]

theorem acquire_of_span_eq_none (unknown : alloc.span range = none) :
    alloc.acquire range owner requested = .error (.rangeNotFound range) := by
  simp only [Allocator.span, Option.map_eq_none_iff] at unknown
  simp only [acquire, unknown]

/-- A request is granted if it is for a usable address that nobody else holds. -/
theorem choose_ok {pool : Pool} (ordered : pool.span.Ordered)
    (h : choose range pool owner requested = .ok address) :
    pool.span.contains address ∧
      (pool.held[address]? = none ∨
        pool.held[address]? = some owner ∧ requested = some address) ∧
      ∀ a, requested = some a → address = a := by
  cases requested with
  | none =>
    simp only [choose] at h
    split at h
    · cases h
    next found =>
      cases h
      obtain ⟨usable, unheld⟩ := Pool.lowestFree?_eq_some ordered found
      exact ⟨usable, .inl unheld, by simp⟩
  | some a =>
    simp only [choose] at h
    split at h
    next usable =>
      split at h
      next unheld =>
        cases h
        exact ⟨usable, .inl unheld, by simp⟩
      next holder held =>
        split at h
        next same =>
          cases h
          exact ⟨usable, .inr ⟨same ▸ held, rfl⟩, by simp⟩
        · cases h
    · cases h

/-- Whoever asks for an address is granted this one or none. -/
theorem choose_some {pool : Pool} {asked : Ipv4}
    (h : choose range pool owner (some asked) = .ok address) : address = asked := by
  simp only [choose] at h
  split at h
  · split at h
    · exact (Except.ok.inj h).symm
    · split at h
      · exact (Except.ok.inj h).symm
      · cases h
  · cases h

theorem acquire_eq_ok {pool : Pool} (found : alloc.pools[range]? = some pool) :
    alloc.acquire range owner requested = .ok (address, after) ↔
      choose range pool owner requested = .ok address ∧
        after = { pools := alloc.pools.insert range (pool.hold address owner) } := by
  simp only [acquire, found]
  cases granted : choose range pool owner requested with
  | error e => simp [Except.map]
  | ok a =>
    simp only [Except.map, Except.ok.injEq, Prod.mk.injEq]
    constructor
    · rintro ⟨rfl, rfl⟩
      exact ⟨rfl, rfl⟩
    · rintro ⟨rfl, rfl⟩
      exact ⟨rfl, rfl⟩

theorem acquire_some {asked : Ipv4}
    (h : alloc.acquire range owner (some asked) = .ok (address, after)) : address = asked := by
  cases found : alloc.pools[range]? with
  | none => simp [acquire, found] at h
  | some pool => exact choose_some ((acquire_eq_ok found).mp h).1

/-- What an allocator looks like after an address was acquired. -/
theorem acquire_ok (h : alloc.acquire range owner requested = .ok (address, after)) :
    (alloc.span range).isSome ∧ (∀ n, after.span n = alloc.span n) ∧
      ∀ n a, after.owner n a =
        if range = n ∧ address = a then some owner else alloc.owner n a := by
  cases found : alloc.pools[range]? with
  | none => simp [acquire, found] at h
  | some pool =>
    obtain ⟨-, rfl⟩ := (acquire_eq_ok found).mp h
    refine ⟨by simp [Allocator.span, found], fun n => ?_, fun n a => ?_⟩
    · by_cases same : range = n
      · subst same
        simp [Allocator.span, found]
      · simp [Allocator.span, Std.ExtTreeMap.getElem?_insert, same]
    · by_cases same : range = n
      · subst same
        by_cases hit : address = a <;>
          simp [Allocator.owner, Pool.getElem?_hold, hit, found]
      · simp [Allocator.owner, Std.ExtTreeMap.getElem?_insert, same]

/-- Only usable addresses that nobody else holds are acquired. -/
theorem acquire_granted (known : alloc.span range = some span) (ordered : span.Ordered)
    (h : alloc.acquire range owner requested = .ok (address, after)) :
    span.contains address ∧
      (alloc.owner range address = none ∨
        alloc.owner range address = some owner ∧ requested = some address) ∧
      ∀ a, requested = some a → address = a := by
  obtain ⟨pool, found, rfl⟩ := Option.map_eq_some_iff.mp known
  obtain ⟨granted, -⟩ := (acquire_eq_ok found).mp h
  simpa [Allocator.owner, found] using choose_ok ordered granted

/-- A request for a usable address succeeds unless somebody else holds it. -/
theorem acquire_requested (known : alloc.span range = some span)
    (usable : span.contains address)
    (unheld : alloc.owner range address = none ∨ alloc.owner range address = some owner) :
    ∃ after, alloc.acquire range owner (some address) = .ok (address, after) := by
  obtain ⟨pool, found, rfl⟩ := Option.map_eq_some_iff.mp known
  have granted : choose range pool owner (some address) = .ok address := by
    simp only [Allocator.owner, found, Option.bind_some] at unheld
    obtain unheld | unheld := unheld <;> simp [choose, usable, unheld]
  exact ⟨_, by simp only [acquire, found, granted]; rfl⟩

theorem acquire_of_not_contains (known : alloc.span range = some span)
    (unusable : ¬ span.contains address) :
    alloc.acquire range owner (some address) = .error (.outOfRange range address) := by
  obtain ⟨pool, found, rfl⟩ := Option.map_eq_some_iff.mp known
  simp only [acquire, found, choose, if_neg unusable]
  rfl

theorem acquire_of_held {holder : String} (known : alloc.span range = some span)
    (usable : span.contains address) (held : alloc.owner range address = some holder)
    (other : holder ≠ owner) :
    alloc.acquire range owner (some address) =
      .error (.alreadyAllocated range address holder) := by
  obtain ⟨pool, found, rfl⟩ := Option.map_eq_some_iff.mp known
  simp only [Allocator.owner, found, Option.bind_some] at held
  simp only [acquire, found, choose, if_pos usable, held, if_neg other]
  rfl

/-- If nobody holds a usable address, a request that leaves the choice to the pool is granted, and
the address it obtains is not above this one. -/
theorem acquire_le (owner : String) {free : Ipv4} (known : alloc.span range = some span)
    (usable : span.contains free) (unheld : alloc.owner range free = none) :
    ∃ address after, alloc.acquire range owner none = .ok (address, after) ∧ address ≤ free := by
  obtain ⟨pool, found, rfl⟩ := Option.map_eq_some_iff.mp known
  simp only [Allocator.owner, found, Option.bind_some] at unheld
  obtain ⟨address, lowest, le⟩ := Pool.lowestFree?_le usable unheld
  have granted : choose range pool owner none = .ok address := by simp only [choose, lowest]
  exact ⟨address, _, (acquire_eq_ok found).mpr ⟨granted, rfl⟩, le⟩

/-- If somebody holds each usable address, it is refused. -/
theorem acquire_of_full (known : alloc.span range = some span) (ordered : span.Ordered)
    (full : ∀ a, span.contains a → alloc.owner range a ≠ none) :
    alloc.acquire range owner none = .error (.exhausted range) := by
  obtain ⟨pool, found, rfl⟩ := Option.map_eq_some_iff.mp known
  simp only [acquire, found, choose]
  cases lowest : pool.lowestFree? with
  | none => rfl
  | some address =>
    obtain ⟨usable, unheld⟩ := Pool.lowestFree?_eq_some ordered lowest
    exact absurd (by simpa [Allocator.owner, found] using unheld) (full address usable)

/-- Which address is acquired depends on the span and the holders of its range only. -/
theorem acquire_congr {other : Allocator} (spans : alloc.span range = other.span range)
    (owners : ∀ a, alloc.owner range a = other.owner range a) :
    (alloc.acquire range owner requested).map (·.1) =
      (other.acquire range owner requested).map (·.1) := by
  simp only [acquire, pool_ext spans owners]
  cases other.pools[range]? with
  | none => rfl
  | some pool => cases h : choose range pool owner requested <;> simp [Except.map, h]

theorem release_fst : (alloc.release range address).1 = (alloc.owner range address).isSome := by
  unfold release
  split
  next unknown => simp [Allocator.owner, unknown]
  next pool found =>
    split
    next held => simp [Allocator.owner, found, held]
    next unheld => simp [Allocator.owner, found, unheld]

@[simp] theorem span_release (n : String) :
    (alloc.release range address).2.span n = alloc.span n := by
  unfold release
  split
  · rfl
  next pool found =>
    split
    · by_cases same : range = n
      · subst same
        simp [Allocator.span, found]
      · simp [Allocator.span, Std.ExtTreeMap.getElem?_insert, same]
    · rfl

theorem owner_release (n : String) (a : Ipv4) :
    (alloc.release range address).2.owner n a =
      if range = n ∧ address = a then none else alloc.owner n a := by
  unfold release
  split
  next unknown =>
    split
    next same =>
      obtain ⟨rfl, rfl⟩ := same
      simp [Allocator.owner, unknown]
    · rfl
  next pool found =>
    by_cases same : range = n
    · subst same
      by_cases hit : address = a
      · subst hit
        split
        · simp [Allocator.owner, Pool.getElem?_free]
        next unheld => simpa [Allocator.owner, found] using unheld
      · split <;> simp [Allocator.owner, Pool.getElem?_free, hit, found]
    · split <;> simp [Allocator.owner, Std.ExtTreeMap.getElem?_insert, same]

end FloatingAddress.Allocator
