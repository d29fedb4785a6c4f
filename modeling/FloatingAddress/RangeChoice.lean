import FloatingAddress.Record

/-!
# The range for a new guest cluster

A guest cluster can use the ranges of its provider cluster. Among these, a range on the cluster's
own network is better than any other, and of equally good ranges the one with the lowest name is
taken, so the choice does not depend on the order in which ranges are listed.
-/

namespace FloatingAddress

/-- The ranges of a provider, by name. -/
def rangesOf (provider : String) (ranges : List RangeRecord) : List RangeRecord :=
  (ranges.filter (·.provider = some provider)).mergeSort fun a b => a.name ≤ b.name

/-- The range from which a guest cluster on a provider and a network gets its address. -/
def chooseRange (ranges : List RangeRecord) (provider : String) (network : Option String) :
    Option RangeRecord :=
  let candidates := rangesOf provider ranges
  (network.bind fun n => candidates.find? (·.network = some n)) <|> candidates.head?

end FloatingAddress
