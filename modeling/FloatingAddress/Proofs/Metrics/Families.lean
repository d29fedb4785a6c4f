import FloatingAddress.Metrics.Basic

/-!
# Families of series, seen through their labels and readings

A family finds a series by the text of its labels. So it is known by two views: the labels under
which the series of a text is shown, and its reading. Every change is described by what it does to
these two.
-/

namespace FloatingAddress.Metrics

namespace Family

variable {α : Type} {family : Family α} {labels : List String} {key : String}

/-- The labels of the series that is found by a text. -/
def labels? (family : Family α) (key : String) : Option (List String) :=
  family.series[key]?.map (·.labels)

theorem labels?_of_some {s : Series α} (found : family.series[key]? = some s) :
    family.labels? key = some s.labels := by
  rw [labels?, found, Option.map_some]

/-- Every series is found by its own labels. -/
def Keyed (family : Family α) : Prop :=
  ∀ key labels, family.labels? key = some labels → seriesKey labels = key

@[simp] theorem labels?_empty (key : String) : ({} : Family α).labels? key = none := by
  simp [labels?]

theorem keyed_empty : ({} : Family α).Keyed := by
  simp [Keyed]

theorem labels?_update (labels : List String) (initial : α) (f : α → α) (key : String) :
    (family.update labels initial f).labels? key =
      if seriesKey labels = key then some ((family.labels? key).getD labels)
      else family.labels? key := by
  unfold update labels?
  rw [Std.ExtTreeMap.getElem?_insert]
  simp only [Std.LawfulEqCmp.compare_eq_iff_eq]
  split
  next same =>
    subst same
    cases family.series[seriesKey labels]? <;> rfl
  · rfl

theorem labels?_remove (labels : List String) (key : String) :
    (family.remove labels).labels? key =
      if seriesKey labels = key then none else family.labels? key := by
  unfold remove labels?
  rw [Std.ExtTreeMap.getElem?_erase]
  simp only [Std.LawfulEqCmp.compare_eq_iff_eq]
  split <;> rfl

theorem Keyed.update (keyed : family.Keyed) (labels : List String) (initial : α) (f : α → α) :
    (family.update labels initial f).Keyed := by
  intro key shown h
  rw [labels?_update] at h
  split at h
  next same =>
    subst same
    cases found : family.labels? (seriesKey labels) with
    | none =>
      rw [found, Option.getD_none, Option.some.injEq] at h
      rw [← h]
    | some earlier =>
      rw [found, Option.getD_some, Option.some.injEq] at h
      rw [← h]
      exact keyed _ _ found
  · exact keyed key shown h

theorem Keyed.remove (keyed : family.Keyed) (labels : List String) :
    (family.remove labels).Keyed := by
  intro key shown h
  rw [labels?_remove] at h
  split at h
  · cases h
  · exact keyed key shown h

theorem mem_toList {s : Series α} :
    s ∈ family.toList ↔ ∃ key : String, family.series[key]? = some s := by
  simp [toList, Std.ExtTreeMap.mem_toList_iff_getElem?_eq_some]

/-- A series with certain labels is listed if it is found by them. -/
theorem Keyed.mem_labels (keyed : family.Keyed) :
    (∃ s ∈ family.toList, s.labels = labels) ↔
      family.labels? (seriesKey labels) = some labels := by
  constructor
  · rintro ⟨s, member, rfl⟩
    obtain ⟨key, found⟩ := mem_toList.mp member
    have shown := labels?_of_some found
    rwa [keyed _ _ shown]
  · intro shown
    obtain ⟨s, found, rfl⟩ := Option.map_eq_some_iff.mp shown
    exact ⟨s, mem_toList.mpr ⟨_, found⟩, rfl⟩

theorem Keyed.reading?_of_mem (keyed : family.Keyed) {s : Series α} (member : s ∈ family.toList) :
    family.reading? s.labels = some s.reading := by
  obtain ⟨key, found⟩ := mem_toList.mp member
  rw [reading?, keyed _ _ (labels?_of_some found), found, Option.map_some]

end Family

end FloatingAddress.Metrics
