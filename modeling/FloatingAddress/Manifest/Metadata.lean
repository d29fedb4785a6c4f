import FloatingAddress.Json.Basic
import FloatingAddress.Text.Blank
import FloatingAddress.Text.Timestamp

/-!
# Metadata of cluster objects

Every object of the cluster API carries metadata: its name and namespace, annotations and labels,
and fields that only the API server writes. All of them are checked when an object is read, kept,
and written back; fields that the API does not define are dropped. An absent field and a field
that is `null` mean the same.
-/

namespace FloatingAddress

/-- A map of texts, in the order of its keys. -/
abbrev TextMap := Std.ExtTreeMap String String

namespace Manifest

/-- Read an optional field with `read?`. The outer `none` is a field of the wrong form. -/
def field? (json : Json) (name : String) (read? : Json → Option α) : Option (Option α) :=
  match json.get? name with
  | none => some none
  | some value => (read? value).map some

def texts? (json : Json) : Option TextMap :=
  match json with
  | .obj fields => fields.foldlM (fun m (key, value) => value.str?.map (m.insert key ·)) ∅
  | _ => none

/-- Read an array, each element with `read?`. -/
def items? (read? : Json → Option α) (json : Json) : Option (List α) :=
  json.arr?.bind (·.mapM read?)

def textValue? (json : Json) : Option Json := json.str?.map .str

def boolValue? (json : Json) : Option Json := json.bool?.map .bool

/-- A whole number of 64 bits, sign included. -/
def wordValue? (json : Json) : Option Json :=
  (json.int?.filter fun n => -0x8000000000000000 ≤ n && n < 0x8000000000000000).map .int

/-- A timestamp, written back in UTC. -/
def timeValue? (json : Json) : Option Json :=
  json.str?.bind fun s => (Text.Timestamp.ofText? s).map fun t => .str t.text

/-- An object of the API with the given optional and required fields. A required text that is
missing is empty. -/
def fieldsValue? (optional : List (String × (Json → Option Json))) (required : List String)
    (json : Json) : Option Json := do
  let _ ← json.obj?
  let optional ← optional.mapM fun (name, read?) => (field? json name read?).map (name, ·)
  let required ← required.mapM fun name =>
    (field? json name textValue?).map fun value => (name, some (value.getD (.str "")))
  some (Json.ofPresent (optional ++ required))

/-- The reference from an object to one that owns it. -/
def ownerValue? : Json → Option Json :=
  fieldsValue? [("blockOwnerDeletion", boolValue?), ("controller", boolValue?)]
    ["apiVersion", "kind", "name", "uid"]

/-- The record of who manages which fields of an object. -/
def managerValue? : Json → Option Json :=
  fieldsValue?
    [("apiVersion", textValue?), ("fieldsType", textValue?), ("fieldsV1", some),
     ("manager", textValue?), ("operation", textValue?), ("subresource", textValue?),
     ("time", timeValue?)]
    []

/-- The fields of metadata that the API server writes. -/
def serverFields : List (String × (Json → Option Json)) :=
  [("creationTimestamp", timeValue?), ("deletionGracePeriodSeconds", wordValue?),
   ("deletionTimestamp", timeValue?), ("finalizers", fun j => (items? textValue? j).map .arr),
   ("generation", wordValue?), ("managedFields", fun j => (items? managerValue? j).map .arr),
   ("ownerReferences", fun j => (items? ownerValue? j).map .arr),
   ("resourceVersion", textValue?), ("selfLink", textValue?), ("uid", textValue?)]

end Manifest

structure Metadata where
  name : Option String := none
  ns : Option String := none
  generateName : Option String := none
  annotations : Option TextMap := none
  labels : Option TextMap := none
  /-- The fields that only the API server writes. -/
  server : List (String × Json) := []

namespace Metadata

open Manifest

/-- The metadata of an object with a name and a namespace. -/
def named (ns name : String) : Metadata := { name := some name, ns := some ns }

def ofJson? (json : Json) : Option Metadata := do
  let _ ← json.obj?
  let server ← serverFields.mapM fun (name, read?) => (field? json name read?).map (name, ·)
  return {
    name := ← field? json "name" Json.str?
    ns := ← field? json "namespace" Json.str?
    generateName := ← field? json "generateName" Json.str?
    annotations := ← field? json "annotations" texts?
    labels := ← field? json "labels" texts?
    server := server.filterMap fun (name, value) => value.map (name, ·) }

def toJson (m : Metadata) : Json :=
  Json.ofPresent ([
    ("name", m.name.map .str), ("namespace", m.ns.map .str),
    ("generateName", m.generateName.map .str), ("annotations", m.annotations.map Json.ofTexts),
    ("labels", m.labels.map Json.ofTexts)] ++ m.server.map fun (name, value) => (name, some value))

/-- The name for messages and lookups: the object's own name, or else the stem of the name that
the server is to generate. -/
def anyName (m : Metadata) : String := (m.name <|> m.generateName).getD ""

/-- The namespace, empty if there is none. -/
def nsText (m : Metadata) : String := m.ns.getD ""

/-- An annotation, blanks around it removed; a blank one counts as absent. -/
def annotated? (m : Metadata) (key : String) : Option String :=
  m.annotations.bind fun texts => texts[key]?.bind Text.nonBlank

/-- Whether the server is about to remove the object. -/
def isBeingDeleted (m : Metadata) : Bool := m.server.any (·.1 = "deletionTimestamp")

end Metadata

end FloatingAddress
