import FloatingAddress.Manifest.Metadata

/-!
# The two kinds of objects that describe floating addresses

A range object names a network whose addresses may be handed out, and a floating-address object
stands for one address that belongs to a guest cluster. Both are custom kinds of the cluster API:
the one setting that a specification has is a text and may be absent, and all that the kinds do
not define is dropped on reading.
-/

namespace FloatingAddress.Manifest

/-- The group of both kinds. -/
def group : String := "kubefip.k8s.binbash.org"

def version : String := "v1"

/-- The group and version of both kinds, as objects give them. -/
def groupVersion : String := s!"{group}/{version}"

/-- The annotations that both kinds rely on. -/
structure AnnotationKeys where
  /-- On a floating address: the guest cluster that owns it. -/
  cluster : String := "clustername"
  /-- On a floating address: the range it is drawn from. -/
  range : String := "fiprange"
  /-- On a floating address: whether the guest's configuration is rewritten again and again. -/
  refresh : String := "updateConfigMap"
  /-- On a range: the provider cluster it belongs to. -/
  provider : String := "harvesterClusterName"
  /-- On a range: the provider network it belongs to. -/
  network : String := "harvesterNetworkName"

/-- The annotation keys in use. -/
def annotationKeys : AnnotationKeys := {}

/-- An object that stands for one floating address. -/
structure Floating where
  metadata : Metadata
  address : Option String := none

/-- An object that names a range of floating addresses. -/
structure Range where
  metadata : Metadata
  cidr : Option String := none

/-- Read the setting of a specification. A specification may also be given as the list of its
settings in order. -/
def setting? (name : String) (spec : Json) : Option (Option String) :=
  match spec with
  | .obj _ => field? spec name Json.str?
  | .arr [] => some none
  | .arr [value] => field? (.obj [(name, value)]) name Json.str?
  | _ => none

/-- Read metadata and the setting `name` of an object. An object may also be given as the list
of these two. -/
def parts? (name : String) (json : Json) : Option (Metadata × Option String) :=
  match json with
  | .obj _ => do
    let metadata ← (json.get? "metadata").bind Metadata.ofJson?
    let setting ← (json.get? "spec").bind (setting? name)
    some (metadata, setting)
  | .arr [metadata, spec] => do
    let metadata ← Metadata.ofJson? metadata
    let setting ← setting? name spec
    some (metadata, setting)
  | _ => none

/-- Write an object of one of the two kinds. -/
def customJson (kind : String) (metadata : Metadata) (setting : String) (value : Option String) :
    Json :=
  .ofFields [
    ("apiVersion", .str groupVersion), ("kind", .str kind), ("metadata", metadata.toJson),
    ("spec", .ofPresent [(setting, value.map .str)])]

namespace Floating

def kind : String := "FloatingIP"

def ofJson? (json : Json) : Option Floating :=
  (parts? "ipaddress" json).map fun (metadata, address) => { metadata, address }

def toJson (m : Floating) : Json := customJson kind m.metadata "ipaddress" m.address

end Floating

namespace Range

def kind : String := "FloatingIPRange"

def ofJson? (json : Json) : Option Range :=
  (parts? "iprange" json).map fun (metadata, cidr) => { metadata, cidr }

def toJson (m : Range) : Json := customJson kind m.metadata "iprange" m.cidr

end Range

end FloatingAddress.Manifest
