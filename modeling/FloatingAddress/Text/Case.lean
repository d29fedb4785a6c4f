/-!
# Letter case

Names of levels and policies are read without regard to letter case. Only ASCII letters have a
lower case here.
-/

namespace FloatingAddress.Text

/-- Lower-case the ASCII letters of a text. -/
def lowerAscii (s : String) : String := String.ofList (s.toList.map Char.toLower)

end FloatingAddress.Text
