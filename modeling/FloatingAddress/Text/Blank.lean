/-!
# Blanks around a text

A blank is a character of the Unicode property White_Space. Options, annotations and addresses
are written by hand in manifests, so blanks at both ends of a value carry no meaning and are
removed before the value is read. The information separators U+001C to U+001F, the zero-width
space U+200B and the byte order mark U+FEFF do not have the property and therefore stay.
-/

namespace FloatingAddress.Text

/-- The characters with the Unicode property White_Space. -/
def isBlank (c : Char) : Bool :=
  (0x9 ≤ c.toNat && c.toNat ≤ 0xD) || c.toNat == 0x20 || c.toNat == 0x85 || c.toNat == 0xA0 ||
  c.toNat == 0x1680 || (0x2000 ≤ c.toNat && c.toNat ≤ 0x200A) || c.toNat == 0x2028 ||
  c.toNat == 0x2029 || c.toNat == 0x202F || c.toNat == 0x205F || c.toNat == 0x3000

/-- Remove the blanks at both ends of a list of characters. -/
def trimBlanks (cs : List Char) : List Char :=
  ((cs.dropWhile isBlank).reverse.dropWhile isBlank).reverse

def trim (s : String) : String := String.ofList (trimBlanks s.toList)

@[simp] theorem toList_trim (s : String) : (trim s).toList = trimBlanks s.toList := by
  simp [trim]

@[simp] theorem trimBlanks_nil : trimBlanks [] = [] := rfl

/-- A value that is blank throughout counts as absent; any other value is read trimmed. -/
def nonBlank (s : String) : Option String :=
  let t := trim s
  if t.isEmpty then none else some t

end FloatingAddress.Text
