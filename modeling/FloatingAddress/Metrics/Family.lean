import Std.Data.ExtTreeMap

/-!
# Families of series

A family is a set of series, each with a value for every label of the family and a current
reading. A series is found by its label values written one after the other without anything
between them. Two lists of values that read the same in this way are one series, which keeps the
labels under which it appeared first.

A registry finds a series by a 64-bit hash of this text. The hash is assumed to have no collisions
of its own, so the text stands for it here: two lists of values are one series only if they read the
same.
-/

namespace FloatingAddress.Metrics

/-- One series: its label values in the order of the labels, and its reading. -/
structure Series (α : Type) where
  labels : List String
  reading : α
deriving DecidableEq, Repr

/-- By this text a family finds a series. It stands for its 64-bit hash, as long as no two texts have
the same hash. -/
def seriesKey (labels : List String) : String := String.join labels

/-- The series of one family. -/
structure Family (α : Type) where
  series : Std.ExtTreeMap String (Series α) := ∅

namespace Family

variable {α : Type}

def reading? (family : Family α) (labels : List String) : Option α :=
  family.series[seriesKey labels]?.map (·.reading)

/-- Change the reading of a series; one that is not there yet starts from `initial`. -/
def update (family : Family α) (labels : List String) (initial : α) (f : α → α) : Family α :=
  let current := (family.series[seriesKey labels]?).getD { labels, reading := initial }
  { series := family.series.insert (seriesKey labels) { current with reading := f current.reading } }

def set (family : Family α) (labels : List String) (reading : α) : Family α :=
  family.update labels reading fun _ => reading

def remove (family : Family α) (labels : List String) : Family α :=
  { series := family.series.erase (seriesKey labels) }

def toList (family : Family α) : List (Series α) := family.series.toList.map (·.2)

theorem reading?_update (family : Family α) (labels : List String) (initial : α) (f : α → α)
    (other : List String) :
    (family.update labels initial f).reading? other =
      if seriesKey labels = seriesKey other then
        some (f ((family.reading? labels).getD initial))
      else family.reading? other := by
  unfold update reading?
  split
  next h =>
    rw [Std.ExtTreeMap.getElem?_insert, if_pos (by simpa using h)]
    cases family.series[seriesKey labels]? <;> rfl
  next h => rw [Std.ExtTreeMap.getElem?_insert, if_neg (by simpa using h)]

theorem reading?_remove (family : Family α) (labels other : List String) :
    (family.remove labels).reading? other =
      if seriesKey labels = seriesKey other then none else family.reading? other := by
  unfold remove reading?
  rw [Std.ExtTreeMap.getElem?_erase]
  simp only [Std.LawfulEqCmp.compare_eq_iff_eq]
  split <;> rfl

end Family

end FloatingAddress.Metrics
