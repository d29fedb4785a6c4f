/-!
# Reading decimal numbers

Numbers in option values are unsigned decimals. One leading plus sign and any number of leading
zeros are accepted; blanks, separators and a minus sign are not. Digits are the ten ASCII digits
only.
-/

namespace FloatingAddress.Text

def isDigit (c : Char) : Bool := '0' ≤ c && c ≤ '9'

def digitValue (c : Char) : Nat := c.toNat - '0'.toNat

/-- The number that a list of digits writes, most significant digit first. -/
def digitsValue (cs : List Char) : Nat :=
  cs.foldl (fun n c => n * 10 + digitValue c) 0

/-- The number written by a nonempty list of ASCII digits. -/
def natOfDigits? (cs : List Char) : Option Nat :=
  if !cs.isEmpty && cs.all isDigit then some (digitsValue cs) else none

/-- Read an unsigned decimal below `bound`. -/
def natBelow? (bound : Nat) (s : String) : Option Nat :=
  let digits := match s.toList with
    | '+' :: rest => rest
    | cs => cs
  (natOfDigits? digits).filter (· < bound)

/-- Every number that is read is below the bound. -/
theorem lt_of_natBelow? {bound n : Nat} {s : String} (h : natBelow? bound s = some n) :
    n < bound := by
  simp only [natBelow?, Option.filter_eq_some_iff, decide_eq_true_eq] at h
  exact h.2

end FloatingAddress.Text
