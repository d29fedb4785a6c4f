import FloatingAddress.Json.Printer
import FloatingAddress.Yaml.Node

/-!
# Writing YAML

Values are written in block style, two columns for every level, fields in the order of their
names. A list is not indented below its field. Empty collections and scalars are written in one
line; a text stands without quotes if it would be read back as the same text.
-/

namespace FloatingAddress.Yaml

/-- Whether a text may stand without quotes. -/
def isPlain (s : String) : Bool :=
  !s.toList.any (fun c => c == '\n' || c == '\r') && document? s == some (.scalar (.text s))

/-- A text, in quotes if need be. -/
def textForm (s : String) : String := if isPlain s then s else Json.quoted s

/-- The written form of a value that takes one line. -/
def inline? : Json → Option String
  | .str s => some (textForm s)
  | .arr [] => some "[]"
  | .obj [] => some "\x7b\x7d"
  | .arr _ | .obj _ => none
  | scalar => some scalar.text

/-- Shift lines to the right, the first one behind a mark of the same width. -/
def behind (mark shift : String) : List String → List String
  | [] => []
  | line :: lines => (mark ++ line) :: lines.map (shift ++ ·)

/-- Whether the lines of a value are indented below its field. -/
def isIndented : Json → Bool
  | .arr _ => false
  | _ => true

mutual

/-- The lines of a value. -/
def lines : Json → List String
  | .arr (item :: items) => itemLines (item :: items)
  | .obj (field :: fields) => fieldLines (field :: fields)
  | json => (inline? json).toList

def itemLines : List Json → List String
  | [] => []
  | item :: items => behind "- " "  " (lines item) ++ itemLines items

def fieldLines : List (String × Json) → List String
  | [] => []
  | (name, value) :: fields =>
    (match inline? value with
      | some form => [s!"{textForm name}: {form}"]
      | none =>
        let shift := if isIndented value then "  " else ""
        s!"{textForm name}:" :: (lines value).map (shift ++ ·)) ++
    fieldLines fields

end

/-- The document that holds a value. -/
def ofJson (json : Json) : String := String.join ((lines json).map (· ++ "\n"))

end FloatingAddress.Yaml
