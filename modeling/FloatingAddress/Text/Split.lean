/-!
# Cutting a text at a character

The pieces between the occurrences of a separator, and the two parts around its first occurrence.
-/

namespace FloatingAddress.Text

/-- The pieces between the occurrences of `sep`; there is always one piece more than there are
separators. -/
def pieces (sep : Char) : List Char → List (List Char)
  | [] => [[]]
  | c :: cs =>
    if c = sep then [] :: pieces sep cs
    else match pieces sep cs with
      | [] => [[c]]
      | p :: ps => (c :: p) :: ps

/-- The parts before and after the first occurrence of `sep`. -/
def cutAt? (sep : Char) : List Char → Option (List Char × List Char)
  | [] => none
  | c :: cs =>
    if c = sep then some ([], cs)
    else (cutAt? sep cs).map fun parts => (c :: parts.1, parts.2)

/-- The text after the first occurrence of `sep`. -/
def after? (sep : Char) (s : String) : Option String :=
  (cutAt? sep s.toList).map fun parts => String.ofList parts.2

/-- Whether `needle` occurs in `text`. -/
def occursIn (needle : List Char) : List Char → Bool
  | [] => needle.isEmpty
  | c :: cs => needle.isPrefixOf (c :: cs) || occursIn needle cs

def contains (text needle : String) : Bool := occursIn needle.toList text.toList

/-- The lines of a text, without the line feeds that end them. -/
def lines (s : String) : List String :=
  let parts := (pieces '\n' s.toList).map String.ofList
  if parts.getLast? = some "" then parts.dropLast else parts

end FloatingAddress.Text
