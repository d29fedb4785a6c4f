import FloatingAddress.RangeChoice
import Mathlib.Data.List.Nodup

/-!
# The best range, in whatever order

The ranges of a provider are looked at by name. The first one on the wanted network is the one with
the lowest name there, and without such a range the very first one has the lowest name of all.
Ranges with names of their own are sorted in one way only, so neither the order in which they are
listed nor the ranges of other providers matter.
-/

namespace FloatingAddress

variable {ranges other : List RangeRecord} {provider : String} {network : Option String}
  {range : RangeRecord} {p : RangeRecord → Prop}

/-- Of the ranges with a property, this one has the lowest name. -/
structure LowestNamed (ranges : List RangeRecord) (p : RangeRecord → Prop) (range : RangeRecord) :
    Prop where
  listed : range ∈ ranges
  eligible : p range
  /-- No other range with the property has a lower name. -/
  le : ∀ other ∈ ranges, p other → range.name ≤ other.name

/-- A network is wanted, and the range is on it. -/
def OnNetwork (network : Option String) (range : RangeRecord) : Prop :=
  network.isSome ∧ range.network = network

instance : Decidable (OnNetwork network range) := inferInstanceAs (Decidable (_ ∧ _))

/-- At most one range has the lowest name if no two share a name. -/
theorem LowestNamed.unique {range' : RangeRecord} (distinct : (ranges.map (·.name)).Nodup)
    (lowest : LowestNamed ranges p range) (lowest' : LowestNamed ranges p range') :
    range = range' :=
  List.inj_on_of_nodup_map distinct lowest.listed lowest'.listed
    (String.le_antisymm (lowest.le range' lowest'.listed lowest'.eligible)
      (lowest'.le range lowest.listed lowest.eligible))

theorem rangesOf_perm (provider : String) (ranges : List RangeRecord) :
    (rangesOf provider ranges).Perm (ranges.filter (·.provider = some provider)) :=
  List.mergeSort_perm _ _

theorem mem_rangesOf :
    range ∈ rangesOf provider ranges ↔ range ∈ ranges ∧ range.provider = some provider := by
  simp [rangesOf]

theorem rangesOf_sorted (provider : String) (ranges : List RangeRecord) :
    (rangesOf provider ranges).Pairwise (·.name ≤ ·.name) := by
  have sorted : (rangesOf provider ranges).Pairwise fun a b => decide (a.name ≤ b.name) := by
    refine List.pairwise_mergeSort (fun a b c ab bc => ?_) (fun a b => ?_) _
    · simp only [decide_eq_true_eq] at ab bc ⊢
      exact String.le_trans ab bc
    · simp only [Bool.or_eq_true, decide_eq_true_eq]
      exact String.le_total a.name b.name
  exact sorted.imp fun le => of_decide_eq_true le

/-- Neither the order nor the ranges of other providers matter if no two ranges share a name. -/
theorem rangesOf_congr (distinct : (ranges.map (·.name)).Nodup)
    (same : (other.filter (·.provider = some provider)).Perm
      (ranges.filter (·.provider = some provider))) :
    rangesOf provider other = rangesOf provider ranges := by
  have perm : (rangesOf provider other).Perm (rangesOf provider ranges) :=
    (rangesOf_perm provider other).trans (same.trans (rangesOf_perm provider ranges).symm)
  -- The sort is by name only, so the sorted lists agree because equal names mean equal ranges.
  refine List.Perm.eq_of_pairwise (fun a b member member' ab ba => ?_)
    (rangesOf_sorted provider other) (rangesOf_sorted provider ranges) perm
  exact List.inj_on_of_nodup_map distinct (mem_rangesOf.mp (perm.mem_iff.mp member)).1
    (mem_rangesOf.mp member').1 (String.le_antisymm ab ba)

/-- The first range that passes a test has the lowest name of those that do. -/
theorem lowestNamed_of_find? {test : RangeRecord → Bool}
    (found : (rangesOf provider ranges).find? test = some range) :
    LowestNamed ranges (fun r => r.provider = some provider ∧ test r) range := by
  obtain ⟨passes, earlier, later, split, fail⟩ := List.find?_eq_some_iff_append.mp found
  have sorted := rangesOf_sorted provider ranges
  rw [split] at sorted
  obtain ⟨-, ordered, -⟩ := List.pairwise_append.mp sorted
  obtain ⟨listed, provided⟩ := mem_rangesOf.mp (List.mem_of_find?_eq_some found)
  refine ⟨listed, ⟨provided, passes⟩, fun other member eligible => ?_⟩
  have candidate := mem_rangesOf.mpr ⟨member, eligible.1⟩
  rw [split] at candidate
  obtain before | here := List.mem_append.mp candidate
  · have fails := fail other before
    rw [eligible.2] at fails
    cases fails
  · obtain rfl | after := List.mem_cons.mp here
    · exact String.le_refl _
    · exact (List.pairwise_cons.mp ordered).1 other after

theorem find?_rangesOf_eq_some_iff (distinct : (ranges.map (·.name)).Nodup)
    {test : RangeRecord → Bool} :
    (rangesOf provider ranges).find? test = some range ↔
      LowestNamed ranges (fun r => r.provider = some provider ∧ test r) range := by
  constructor
  · exact lowestNamed_of_find?
  · intro lowest
    have candidate := mem_rangesOf.mpr ⟨lowest.listed, lowest.eligible.1⟩
    obtain ⟨first, found⟩ := Option.isSome_iff_exists.mp
      (List.find?_isSome.mpr ⟨range, candidate, lowest.eligible.2⟩)
    rw [found, LowestNamed.unique distinct (lowestNamed_of_find? found) lowest]

/-- A range on the wanted network is looked for first, and then any range. -/
theorem chooseRange_eq (ranges : List RangeRecord) (provider : String)
    (network : Option String) :
    chooseRange ranges provider network =
      ((rangesOf provider ranges).find? fun r => decide (OnNetwork network r)).or
        ((rangesOf provider ranges).find? fun _ => true) := by
  have first : (rangesOf provider ranges).head? =
      (rangesOf provider ranges).find? fun _ => true := by
    cases rangesOf provider ranges <;> rfl
  rw [chooseRange, Option.orElse_eq_orElse, Option.orElse_eq_or, first]
  cases network with
  | none =>
    have nothing : ((rangesOf provider ranges).find? fun r => decide (OnNetwork none r)) = none :=
      List.find?_eq_none.mpr (by simp [OnNetwork])
    rw [nothing, Option.bind_none]
  | some n => simp [OnNetwork]

/-- The range that is chosen is one of the provider. -/
theorem mem_of_chooseRange (chosen : chooseRange ranges provider network = some range) :
    range ∈ ranges ∧ range.provider = some provider := by
  rw [chooseRange_eq] at chosen
  obtain found | ⟨-, found⟩ := Option.or_eq_some_iff.mp chosen
  · exact mem_rangesOf.mp (List.mem_of_find?_eq_some found)
  · exact mem_rangesOf.mp (List.mem_of_find?_eq_some found)

theorem chooseRange_eq_none_iff :
    chooseRange ranges provider network = none ↔
      ∀ r ∈ ranges, r.provider ≠ some provider := by
  rw [chooseRange_eq, Option.or_eq_none_iff, List.find?_eq_none, List.find?_eq_none]
  constructor
  · rintro ⟨-, nothing⟩ r member provided
    exact nothing r (mem_rangesOf.mpr ⟨member, provided⟩) rfl
  · intro nothing
    have empty (r : RangeRecord) (member : r ∈ rangesOf provider ranges) : False :=
      nothing r (mem_rangesOf.mp member).1 (mem_rangesOf.mp member).2
    exact ⟨fun r member => (empty r member).elim, fun r member => (empty r member).elim⟩

/-- The choice is the best range. There is none if and only if no range is on the provider. Among
the ranges on the provider, those on the wanted network are preferred, if there are any, and of
equally good ranges the one with the lowest name is chosen. So neither the order in which the ranges
are listed nor the ranges of other providers make a difference. -/
theorem chooseRange_best (distinct : (ranges.map (·.name)).Nodup) (provider : String)
    (network : Option String) :
    (chooseRange ranges provider network = none ↔
      ∀ r ∈ ranges, r.provider ≠ some provider) ∧
    ((∃ r ∈ ranges, r.provider = some provider ∧ OnNetwork network r) → ∀ range,
      chooseRange ranges provider network = some range ↔
        LowestNamed ranges (fun r => r.provider = some provider ∧ OnNetwork network r) range) ∧
    ((∀ r ∈ ranges, r.provider = some provider → ¬OnNetwork network r) → ∀ range,
      chooseRange ranges provider network = some range ↔
        LowestNamed ranges (fun r => r.provider = some provider) range) ∧
    (∀ other, other.Perm ranges →
      chooseRange other provider network = chooseRange ranges provider network) ∧
    ∀ other, (other.filter (·.provider = some provider)).Perm
        (ranges.filter (·.provider = some provider)) →
      chooseRange other provider network = chooseRange ranges provider network := by
  have depends (other : List RangeRecord)
      (same : (other.filter (·.provider = some provider)).Perm
        (ranges.filter (·.provider = some provider))) :
      chooseRange other provider network = chooseRange ranges provider network := by
    rw [chooseRange_eq, chooseRange_eq, rangesOf_congr distinct same]
  refine ⟨chooseRange_eq_none_iff, ?_, fun absent range => ?_,
    fun other perm => depends other (perm.filter _), depends⟩
  · rintro ⟨r, member, provided, onNetwork⟩ range
    have present : ((rangesOf provider ranges).find? fun r =>
        decide (OnNetwork network r)).isSome :=
      List.find?_isSome.mpr
        ⟨r, mem_rangesOf.mpr ⟨member, provided⟩, decide_eq_true onNetwork⟩
    rw [chooseRange_eq, Option.or_of_isSome present, find?_rangesOf_eq_some_iff distinct]
    simp only [decide_eq_true_eq]
  · have missing : ((rangesOf provider ranges).find? fun r =>
        decide (OnNetwork network r)) = none := by
      refine List.find?_eq_none.mpr fun r member => ?_
      obtain ⟨listed, provided⟩ := mem_rangesOf.mp member
      simpa using absent r listed provided
    rw [chooseRange_eq, missing, Option.none_or, find?_rangesOf_eq_some_iff distinct]
    simp only [and_true]

namespace Sample

/-- A range on a provider, perhaps on a network. -/
def rangeOn (name provider : String) (network : Option String) : RangeRecord where
  name
  cidr := "10.0.0.0/24"
  span := .ofCidr ⟨.ofOctets 10 0 0 0, 24, by decide⟩
  provider := some provider
  network

/-- Three ranges of one provider, and one of another provider. -/
def offered : List RangeRecord :=
  [rangeOn "zeta" "hv-1" (some "vlan-20"), rangeOn "beta" "hv-1" (some "vlan-10"),
    rangeOn "alpha" "hv-1" none, rangeOn "other" "hv-2" (some "vlan-10")]

end Sample

/-- The range on the network is chosen although others have lower names, in the reverse order too;
without a range on the network it is the one with the lowest name. -/
theorem chooseRange_best_offered :
    (Sample.offered.map (·.name)).Nodup ∧
      chooseRange Sample.offered.reverse "hv-1" (some "vlan-20") =
        some (Sample.rangeOn "zeta" "hv-1" (some "vlan-20")) ∧
      chooseRange Sample.offered "hv-1" (some "vlan-99") =
        some (Sample.rangeOn "alpha" "hv-1" none) := by
  have distinct : (Sample.offered.map (·.name)).Nodup := by decide
  obtain ⟨-, preferred, -, order, -⟩ := chooseRange_best distinct "hv-1" (some "vlan-20")
  obtain ⟨-, -, fallback, -⟩ := chooseRange_best distinct "hv-1" (some "vlan-99")
  refine ⟨distinct, ?_, ?_⟩
  · rw [order _ Sample.offered.reverse_perm, preferred (by decide)]
    exact ⟨by decide, by decide, by decide⟩
  · rw [fallback (by decide)]
    exact ⟨by decide, by decide, by decide⟩

end FloatingAddress
