import Std.Data.ExtTreeMap

/-!
# JSON values

Objects of the cluster API, and everything that is exchanged with it, are JSON values. The fields
of an object are kept in the order of their names and each name occurs once (`ofFields`), so two
objects with the same fields are equal.

The accessors take an absent field and a field that is `null` for the same thing, as the API
does.
-/

namespace FloatingAddress

/-- A JSON value. Whole numbers of up to 64 bits are kept apart from all other numbers, whose
spelling is kept instead of a value. -/
inductive Json
  | null
  | bool (b : Bool)
  | int (n : Int)
  | real (literal : String)
  | str (s : String)
  | arr (items : List Json)
  | obj (fields : List (String × Json))
deriving Repr, Inhabited, BEq

namespace Json

/-- The object with the given fields; of two fields with one name the later one counts. -/
def ofFields (fields : List (String × Json)) : Json :=
  let sorted : Std.ExtTreeMap String Json :=
    fields.foldl (fun m (name, value) => m.insert name value) ∅
  .obj sorted.toList

/-- The object with those of the given fields that are present. -/
def ofPresent (fields : List (String × Option Json)) : Json :=
  ofFields (fields.filterMap fun (name, value) => value.map (name, ·))

/-- The text of a map of texts. -/
def ofTexts (texts : Std.ExtTreeMap String String) : Json :=
  .obj (texts.toList.map fun (name, text) => (name, .str text))

/-- A field of an object, unless it is absent or `null`. -/
def get? (json : Json) (name : String) : Option Json :=
  match json with
  | .obj fields => (fields.lookup name).filter fun value => !(value matches .null)
  | _ => none

/-- The value at the end of a path of field names. -/
def at? (json : Json) : List String → Option Json
  | [] => some json
  | name :: path => (json.get? name).bind (·.at? path)

def str? : Json → Option String
  | .str s => some s
  | _ => none

def bool? : Json → Option Bool
  | .bool b => some b
  | _ => none

def int? : Json → Option Int
  | .int n => some n
  | _ => none

/-- The value of a whole number that is not negative. -/
def nat? : Json → Option Nat
  | .int (.ofNat n) => some n
  | _ => none

def arr? : Json → Option (List Json)
  | .arr items => some items
  | _ => none

def obj? : Json → Option (List (String × Json))
  | .obj fields => some fields
  | _ => none

/-- Replace the value of a field, or add the field. -/
def set (json : Json) (name : String) (value : Json) : Json :=
  match json with
  | .obj fields => ofFields (fields ++ [(name, value)])
  | other => other

/-- Remove the named fields of an object. -/
def without (json : Json) (names : List String) : Json :=
  match json with
  | .obj fields => .obj (fields.filter fun field => field.1 ∉ names)
  | other => other

end Json

end FloatingAddress
