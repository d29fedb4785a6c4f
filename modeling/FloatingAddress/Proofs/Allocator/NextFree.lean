import FloatingAddress.Proofs.Allocator.Service

/-!
# The next free address

A request that leaves the choice to the range is answered as if the usable addresses were tried one
after the other, from the first to the last: it obtains the lowest one that nobody holds, and it is
refused exactly if as many addresses are held as there are. The walk that finds the address keeps a
candidate, which starts at the first usable address and is raised by one at a time. It never goes
beyond the last usable address, so it never wraps around.
-/

namespace FloatingAddress

namespace Pool

variable {pool : Pool} {last candidate address : Ipv4} {taken : List Ipv4}

/-- The candidates that the walk along the held addresses comes to, in this order. -/
def candidatesFrom (last candidate : Ipv4) : List Ipv4 → List Ipv4
  | [] => [candidate]
  | taken :: rest =>
    if taken ≠ candidate then [candidate]
    else if candidate = last then [candidate]
    else candidate :: candidatesFrom last ⟨candidate.word + 1⟩ rest

/-- The candidates on the way to the lowest free address. -/
def candidates (pool : Pool) : List Ipv4 :=
  match pool.span.bounds with
  | none => []
  | some (first, last) => candidatesFrom last first (pool.held.keys.filter pool.span.contains)

theorem getLast?_cons_candidatesFrom :
    (address :: candidatesFrom last candidate taken).getLast? =
      (candidatesFrom last candidate taken).getLast? := by
  cases taken with
  | nil => rfl
  | cons x rest =>
    simp only [candidatesFrom]
    split
    · rfl
    · split <;> rfl

/-- The walk ends at the candidate that it finds, or at the last usable address. -/
theorem getLast?_candidatesFrom :
    (candidatesFrom last candidate taken).getLast? =
      some ((firstGap last candidate taken).getD last) := by
  induction taken generalizing candidate with
  | nil => rfl
  | cons x rest ih =>
    simp only [candidatesFrom, firstGap]
    split
    · rfl
    split
    next full =>
      rw [full]
      rfl
    · rw [getLast?_cons_candidatesFrom]
      exact ih

/-- Each candidate is one more than the one before, as a number, and none is beyond the last usable
address. -/
theorem candidatesFrom_consecutive (start : candidate ≤ last) :
    (candidatesFrom last candidate taken).map (·.word.toNat) =
        List.range' candidate.word.toNat (candidatesFrom last candidate taken).length ∧
      ∀ c ∈ candidatesFrom last candidate taken, c ≤ last := by
  induction taken generalizing candidate with
  | nil => exact ⟨rfl, by simpa [candidatesFrom] using start⟩
  | cons x rest ih =>
    simp only [candidatesFrom]
    split
    · exact ⟨rfl, by simpa using start⟩
    split
    · exact ⟨rfl, by simpa using start⟩
    next more =>
      -- The candidate is raised only below the last usable address, so its successor is no larger.
      have less : candidate < last := by grind [Ipv4.le_iff, Ipv4.lt_iff, Ipv4.eq_iff]
      have word := Ipv4.succ_toNat less
      have next : (⟨candidate.word + 1⟩ : Ipv4) ≤ last := by
        rw [Ipv4.le_iff, word]
        exact Ipv4.lt_iff.mp less
      obtain ⟨words, below⟩ := ih next
      refine ⟨?_, List.forall_mem_cons.mpr ⟨start, below⟩⟩
      rw [List.map_cons, words, List.length_cons, List.range'_succ, word]

end Pool

namespace Allocator

variable {alloc after : Allocator} {range owner : String} {address : Ipv4} {span : UsableSpan}
variable {record : List (Request × Reply)}

/-- The candidates on the way to the lowest free address of a range. -/
def candidates (alloc : Allocator) (range : String) : List Ipv4 :=
  match alloc.pools[range]? with
  | none => []
  | some pool => pool.candidates

/-- The walk ends at the address that is acquired, or at the last usable address. -/
theorem getLast?_candidates {first last : Ipv4} (known : alloc.span range = some span)
    (bounds : span.bounds = some (first, last)) (owner : String) :
    (alloc.candidates range).getLast? =
      some (((alloc.acquire range owner none).toOption.map (·.1)).getD last) := by
  obtain ⟨pool, found, rfl⟩ := Option.map_eq_some_iff.mp known
  have walk : (alloc.acquire range owner none).toOption.map (·.1) = pool.lowestFree? := by
    simp only [acquire, found, choose]
    cases pool.lowestFree? <;> rfl
  rw [walk]
  simp only [candidates, found, Pool.candidates, Pool.lowestFree?, bounds,
    Pool.getLast?_candidatesFrom]

theorem candidates_consecutive {first last : Ipv4} (known : alloc.span range = some span)
    (ordered : span.Ordered) (bounds : span.bounds = some (first, last)) :
    (alloc.candidates range).map (·.word.toNat) =
        List.range' first.word.toNat (alloc.candidates range).length ∧
      ∀ candidate ∈ alloc.candidates range, candidate ≤ last := by
  obtain ⟨pool, found, rfl⟩ := Option.map_eq_some_iff.mp known
  simp only [candidates, found, Pool.candidates, bounds]
  exact Pool.candidatesFrom_consecutive (ordered first last bounds)

/-- As many addresses are held as there are if and only if each of them is. -/
theorem Confined.full_iff (confined : alloc.Confined) (known : alloc.span range = some span) :
    (alloc.allocated range).length = span.capacity.toNat ↔
      ∀ a, span.contains a → alloc.owner range a ≠ none := by
  obtain ⟨⟨net, rfl⟩, usable⟩ := confined range span known
  have subperm := List.subperm_of_subset (nodup_allocated alloc range) (allocated_subset usable)
  rw [← UsableSpan.length_addresses]
  constructor
  · intro same a inside
    have perm := subperm.perm_of_length_le (Nat.le_of_eq same.symm)
    have held := mem_allocated.mp (perm.mem_iff.mpr (UsableSpan.mem_addresses.mpr inside))
    exact Option.isSome_iff_ne_none.mp held
  · intro full
    refine Nat.le_antisymm subperm.length_le (List.subperm_of_subset
      (UsableSpan.nodup_addresses _) fun a member => ?_).length_le
    have held := full a (UsableSpan.mem_addresses.mp member)
    exact mem_allocated.mpr (Option.isSome_iff_ne_none.mpr held)

/-- Trying the usable addresses one after the other finds the lowest one that nobody holds. -/
theorem find?_addresses (usable : span.contains address)
    (unheld : alloc.owner range address = none)
    (lowest : ∀ free, span.contains free → alloc.owner range free = none → address ≤ free) :
    span.addresses.find? (fun a => (alloc.owner range a).isNone) = some address := by
  obtain ⟨earlier, later, split⟩ := List.append_of_mem (UsableSpan.mem_addresses.mpr usable)
  refine List.find?_eq_some_iff_append.mpr ⟨by simp [unheld], earlier, later, split, ?_⟩
  intro a member
  have ordered := span.addresses_ordered
  rw [split] at ordered
  have below := (List.pairwise_append.mp ordered).2.2 a member address (.head _)
  have inside : span.contains a := by
    rw [← UsableSpan.mem_addresses, split]
    exact List.mem_append_left _ member
  cases held : alloc.owner range a with
  | some holder => rfl
  | none =>
    have above := lowest a inside held
    rw [Ipv4.lt_iff] at below
    rw [Ipv4.le_iff] at above
    omega

/-- Giving back an address that was free undoes its acquisition. -/
theorem release_acquire {requested : Option Ipv4} (unheld : alloc.owner range address = none)
    (done : alloc.acquire range owner requested = .ok (address, after)) :
    after.release range address = (true, alloc) := by
  obtain ⟨-, spans, owners⟩ := acquire_ok done
  refine Prod.ext ?_ (ext_view (fun n => ?_) fun n a => ?_)
  · rw [release_fst, owners, if_pos ⟨rfl, rfl⟩]
    rfl
  · rw [span_release, spans]
  · rw [owner_release, owners]
    split
    next here =>
      obtain ⟨rfl, rfl⟩ := here
      exact unheld.symm
    · rfl

/-- Whatever an allocator has served since it was new, a request that leaves the choice to a
registered range is refused if and only if as many addresses are held as the range has. Otherwise it
obtains the lowest usable address that nobody holds, which is the first one found by trying them
all; the caller becomes its holder, nothing else changes, and giving it back undoes the request. On
the way there the candidate is raised by one at a time, as a number, and stays within the usable
addresses. -/
theorem Serves.next_free_exact (serves : Serves .empty record alloc)
    (known : alloc.span range = some span) (owner : String) :
    (alloc.acquire range owner none = .error (.exhausted range) ↔
      (alloc.allocated range).length = span.capacity.toNat) ∧
    ((alloc.allocated range).length ≠ span.capacity.toNat → ∃ address after,
      alloc.acquire range owner none = .ok (address, after) ∧
      span.contains address ∧ alloc.owner range address = none ∧
      (∀ free, span.contains free → alloc.owner range free = none → address ≤ free) ∧
      span.addresses.find? (fun a => (alloc.owner range a).isNone) = some address ∧
      (∀ n, after.span n = alloc.span n) ∧
      (∀ n a, after.owner n a =
        if range = n ∧ address = a then some owner else alloc.owner n a) ∧
      after.release range address = (true, alloc)) ∧
    ∀ first last, span.bounds = some (first, last) →
      (alloc.candidates range).map (·.word.toNat) =
        List.range' first.word.toNat (alloc.candidates range).length ∧
      (∀ candidate ∈ alloc.candidates range, candidate ≤ last) ∧
      (alloc.candidates range).getLast? =
        some (((alloc.acquire range owner none).toOption.map (·.1)).getD last) := by
  have confined := confined_empty.serves serves
  obtain ⟨⟨net, rfl⟩, -⟩ := confined range span known
  have ordered := UsableSpan.ofCidr_ordered net
  have full := confined.full_iff known
  have granted (free : Ipv4) (inside : (UsableSpan.ofCidr net).contains free)
      (unheld : alloc.owner range free = none) := acquire_le owner known inside unheld
  refine ⟨⟨fun refused => full.mpr fun free inside unheld => ?_,
    fun same => acquire_of_full known ordered (full.mp same)⟩, fun differs => ?_,
    fun first last bounds => ?_⟩
  · obtain ⟨address, after, done, -⟩ := granted free inside unheld
    rw [refused] at done
    cases done
  · obtain ⟨free, inside, unheld⟩ : ∃ free, (UsableSpan.ofCidr net).contains free ∧
        alloc.owner range free = none := by
      by_contra nothing
      exact differs (full.mpr fun a inside unheld => nothing ⟨a, inside, unheld⟩)
    obtain ⟨address, after, done, -⟩ := granted free inside unheld
    obtain ⟨usable, unheld | ⟨-, requested⟩, -⟩ := acquire_granted known ordered done
    · have lowest (free : Ipv4) (inside : (UsableSpan.ofCidr net).contains free)
          (unheld : alloc.owner range free = none) : address ≤ free := by
        obtain ⟨address', after', done', le⟩ := granted free inside unheld
        rw [done] at done'
        cases done'
        exact le
      obtain ⟨-, spans, owners⟩ := acquire_ok done
      exact ⟨address, after, done, usable, unheld, lowest,
        find?_addresses usable unheld lowest, spans, owners, release_acquire unheld done⟩
    · cases requested
  · obtain ⟨words, below⟩ := candidates_consecutive known ordered bounds
    exact ⟨words, below, getLast?_candidates known bounds owner⟩

end Allocator

namespace Sample

/-- A range at the end of the address space, and the first of its two usable addresses is taken. -/
def brink : List Allocator.Request :=
  [.register "lab" "255.255.255.252/30", .acquire "lab" "web/one" none]

end Sample

namespace Allocator

/-- The next address is the last one that is usable. -/
theorem next_free_exact_brink :
    ((Allocator.empty.serveAll Sample.brink).2.allocated "lab").length ≠ 2 ∧
      ∃ address after,
        (Allocator.empty.serveAll Sample.brink).2.acquire "lab" "web/two" none =
          .ok (address, after) ∧
        after.release "lab" address = (true, (Allocator.empty.serveAll Sample.brink).2) := by
  have serves := serves_serveAll .empty Sample.brink
  have held : ((Allocator.empty.serveAll Sample.brink).2.allocated "lab").length = 1 := by
    decide +kernel
  have known : (Allocator.empty.serveAll Sample.brink).2.span "lab" =
      UsableSpan.ofText? "255.255.255.252/30" := by
    decide +kernel
  have parsed : UsableSpan.ofText? "255.255.255.252/30" =
      some (UsableSpan.ofCidr ⟨.ofOctets 255 255 255 252, 30, by decide⟩) := by
    decide +kernel
  obtain ⟨-, free, -⟩ := serves.next_free_exact (known.trans parsed) "web/two"
  refine ⟨by omega, ?_⟩
  obtain ⟨address, after, done, -, -, -, -, -, -, undone⟩ := free (by rw [held]; decide)
  exact ⟨address, after, done, undone⟩

end Allocator

end FloatingAddress
