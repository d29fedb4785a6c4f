import FloatingAddress.Text.Blank

/-!
# Truth values in annotations, labels and options

The spellings that are customary for truth values in manifests. Any other text is neither true
nor false, and the caller decides what that means.
-/

namespace FloatingAddress.Text

/-- Read a truth value, blanks around it aside. -/
def truth? (s : String) : Option Bool :=
  let t := trim s
  if t ∈ ["1", "t", "T", "true", "TRUE", "True"] then some true
  else if t ∈ ["0", "f", "F", "false", "FALSE", "False"] then some false
  else none

end FloatingAddress.Text
