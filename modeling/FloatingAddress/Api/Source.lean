import FloatingAddress.Api.Exchange
import FloatingAddress.Failure
import FloatingAddress.Manifest.Definition

/-!
# The objects in the cluster API

Range and floating-address objects are listed as a whole. An address that was chosen here is
written into its object by changing that one field.
-/

namespace FloatingAddress.Source

open Api (Exchange Resource)

/-- Access to the objects, which may fail. -/
abbrev Access := ExceptT OperatorError Exchange

/-- A fetch as an access to the objects. -/
def fetch (f : Api.Fetch α) : Access α := ExceptT.adapt OperatorError.api f

/-- The objects of a defined kind. -/
def resourceOf (d : Manifest.Definition) : Resource where
  group := some Manifest.group
  version := Manifest.version
  plural := d.plural

def ranges : Resource := resourceOf .range

def floatings : Resource := resourceOf .floating

def listRanges : Access (List Manifest.Range) :=
  fetch (Api.list ranges.path Manifest.Range.ofJson?)

def listFloatings : Access (List Manifest.Floating) :=
  fetch (Api.list floatings.path Manifest.Floating.ofJson?)

/-- Write an address into its object. -/
def persist (key : RecordKey) (address : Ipv4) : Access Unit :=
  let change := Json.ofFields [("spec", .ofFields [("ipaddress", .str address.text)])]
  fetch (Api.patch (floatings.pathIn key.ns) key.name change Manifest.Floating.ofJson?)

def isServed (ns : String) : Access Bool :=
  (!·.isEmpty) <$> fetch (Api.listOne (floatings.pathIn ns) Manifest.Floating.ofJson?)

def create (m : Manifest.Floating) : Access Unit :=
  match m.metadata.ns with
  | none => throw (.configuration "FloatingIP without namespace")
  | some ns => fetch (Api.create (floatings.pathIn ns) m.toJson Manifest.Floating.ofJson?)

end FloatingAddress.Source
