import FloatingAddress.Manifest.Metadata
import FloatingAddress.Text.Base64

/-!
# Built-in kinds: config maps, secrets and namespaces

The kinds that the cluster API brings along. Where such an object names its version and kind,
they have to be the expected ones; both may be left out.
-/

namespace FloatingAddress.Manifest

/-- Whether the version and the kind of an object are the given ones, as far as they are there. -/
def hasType (kind : String) (json : Json) : Bool :=
  match json with
  | .obj fields =>
    ((fields.lookup "apiVersion").getD (.str "v1")).str? = some "v1" &&
      ((fields.lookup "kind").getD (.str kind)).str? = some kind
  | _ => false

/-- The metadata of a built-in object, empty if there is none. -/
def builtInMetadata? (json : Json) : Option Metadata :=
  (field? json "metadata" Metadata.ofJson?).map (·.getD {})

/-- Bytes in base64; `null` stands for no bytes. -/
def bytes? : Json → Option (List UInt8)
  | .null => some []
  | .str s => Text.Base64.decode? s.toList
  | _ => none

def byteMap? (json : Json) : Option (List (String × List UInt8)) :=
  json.obj?.bind (·.mapM fun (key, value) => (bytes? value).map (key, ·))

/-- A map of texts that other programs read as their configuration. -/
structure ConfigMap where
  metadata : Metadata := {}
  data : Option TextMap := none
  /-- The remaining settings, bytes and immutability, which are only kept. -/
  other : List (String × Json) := []

namespace ConfigMap

def ofJson? (json : Json) : Option ConfigMap := do
  if !hasType "ConfigMap" json then none
  let metadata ← builtInMetadata? json
  let data ← field? json "data" texts?
  let binary ← field? json "binaryData" fun j => (byteMap? j).map fun _ => j
  let immutable ← field? json "immutable" boolValue?
  let other := [("binaryData", binary), ("immutable", immutable)]
  some { metadata, data, other := other.filterMap fun (name, value) => value.map (name, ·) }

def toJson (m : ConfigMap) : Json :=
  .ofPresent ([
    ("apiVersion", some (.str "v1")), ("kind", some (.str "ConfigMap")),
    ("metadata", some m.metadata.toJson), ("data", m.data.map .ofTexts)] ++
    m.other.map fun (name, value) => (name, some value))

/-- Set one entry and keep everything else. -/
def withEntry (m : ConfigMap) (key value : String) : ConfigMap :=
  { m with data := some ((m.data.getD ∅).insert key value) }

end ConfigMap

/-- A map of bytes that must not be shown. -/
structure Secret where
  metadata : Metadata := {}
  data : List (String × List UInt8) := []

def Secret.ofJson? (json : Json) : Option Secret := do
  if !hasType "Secret" json then none
  let metadata ← builtInMetadata? json
  let data ← field? json "data" byteMap?
  some { metadata, data := data.getD [] }

/-- A namespace, of which only the metadata matter. -/
structure Namespace where
  metadata : Metadata := {}

def Namespace.ofJson? (json : Json) : Option Namespace := do
  if !hasType "Namespace" json then none
  let metadata ← builtInMetadata? json
  some { metadata }

/-- Whether an optional field is an object. -/
def isObjectField (json : Json) (name : String) : Bool := (field? json name Json.obj?).isSome

/-- A pod, of which nothing matters but that it is there. -/
def pod? (json : Json) : Option Unit := do
  if !hasType "Pod" json || !isObjectField json "spec" || !isObjectField json "status" then none
  (builtInMetadata? json).map fun _ => ()

end FloatingAddress.Manifest
