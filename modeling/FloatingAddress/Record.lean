import FloatingAddress.Allocator
import FloatingAddress.Manifest.Floating
import FloatingAddress.Text.Truth

/-!
# Validated records

What an object says about a floating address or a range is spread over its specification and its
annotations, all of it as text. Everything the rest of the library relies on is checked here
once, so a record never holds a blank name or an address that is none.

The faults of an object are looked for in a fixed order, and the first one is reported.
-/

namespace FloatingAddress

/-- What identifies a floating address: the namespace and the name of its object. -/
structure RecordKey where
  ns : String
  name : String
deriving DecidableEq, Repr, Inhabited

namespace RecordKey

/-- The written form, the namespace first. -/
def text (key : RecordKey) : String := s!"{key.ns}/{key.name}"

instance : ToString RecordKey := ⟨text⟩

/-- Keys are ordered by namespace, and by name within one namespace. -/
instance : Ord RecordKey := ⟨compareLex (compareOn ns) (compareOn name)⟩

instance : Std.TransOrd RecordKey :=
  inferInstanceAs (Std.TransCmp (compareLex (compareOn ns) (compareOn name)))

instance : Std.LawfulEqOrd RecordKey where
  compare_self {a} := show compareLex (compareOn ns) (compareOn name) a a = .eq from
    Std.ReflCmp.compare_self
  eq_of_compare {a b} h := by
    replace h : compareLex (compareOn ns) (compareOn name) a b = .eq := h
    simp only [compareLex_eq_eq, compareOn] at h
    cases a
    cases b
    simp_all

end RecordKey

/-- A range as its object describes it. -/
structure RangeRecord where
  name : String
  /-- The network as written in the object. -/
  cidr : String
  span : UsableSpan
  /-- The provider cluster on which the addresses are reachable. -/
  provider : Option String := none
  /-- The provider network on which the addresses are reachable. -/
  network : Option String := none
deriving DecidableEq, Repr

/-- A floating address as its object describes it. -/
structure FloatingRecord where
  key : RecordKey
  /-- The assigned address, once there is one. -/
  address : Option Ipv4 := none
  /-- The guest cluster that owns the address. -/
  cluster : String
  /-- The range from which the address is drawn. -/
  range : String
  /-- Whether the guest's configuration is rewritten whenever the guest is visited. -/
  forceRefresh : Bool := false
deriving DecidableEq, Repr

/-- Under this name the allocator knows the holder of the address. -/
def FloatingRecord.owner (record : FloatingRecord) : String := record.key.text

/-- What is wrong with an object. -/
inductive RecordError
  /-- The object has no name, or no namespace where it needs one. -/
  | missingIdentity (kind : String)
  /-- The range names no network. -/
  | invalidCidr (name cidr : String)
  /-- A floating address lacks an annotation that ties it to its cluster or range. -/
  | missingCorrelation (key : RecordKey) (tag : String)
  /-- The address of a floating address is none. -/
  | invalidAddress (key : RecordKey) (value : String)
deriving DecidableEq, Repr

def RecordError.message : RecordError → String
  | .missingIdentity kind => s!"{kind} object without name or namespace"
  | .invalidCidr name cidr =>
    s!"FloatingIPRange {name} has an invalid CIDR: {(AllocationError.invalidCidr cidr).message}"
  | .missingCorrelation key tag => s!"FloatingIP {key} is missing the {tag} annotation"
  | .invalidAddress key value =>
    s!"FloatingIP {key} has an invalid address {Text.quote value}"

namespace RangeRecord

/-- The record of a range whose network is known to be well formed. -/
def ofCidr? (name cidr : String) (provider network : Option String) :
    Except AllocationError RangeRecord :=
  match UsableSpan.ofText? cidr with
  | none => .error (.invalidCidr cidr)
  | some span => .ok { name, cidr, span, provider, network }

def ofManifest (m : Manifest.Range) : Except RecordError RangeRecord :=
  match m.metadata.name with
  | none => .error (.missingIdentity Manifest.Range.kind)
  | some name =>
    let cidr := Text.trim (m.cidr.getD "")
    match UsableSpan.ofText? cidr with
    | none => .error (.invalidCidr name cidr)
    | some span => .ok {
        name, cidr, span
        provider := m.metadata.annotated? Manifest.annotationKeys.provider
        network := m.metadata.annotated? Manifest.annotationKeys.network }

end RangeRecord

namespace FloatingRecord

/-- The annotation that ties a floating address to its cluster or range. -/
def correlation (metadata : Metadata) (key : RecordKey) (tag : String) :
    Except RecordError String :=
  match metadata.annotated? tag with
  | none => .error (.missingCorrelation key tag)
  | some value => .ok value

/-- The address that an object carries; a blank one counts as absent. -/
def carriedAddress (key : RecordKey) (text : Option String) :
    Except RecordError (Option Ipv4) :=
  match text.bind Text.nonBlank with
  | none => .ok none
  | some value =>
    match Ipv4.ofText? value with
    | none => .error (.invalidAddress key value)
    | some address => .ok (some address)

def ofManifest (m : Manifest.Floating) : Except RecordError FloatingRecord :=
  match m.metadata.ns, m.metadata.name with
  | some ns, some name => do
    let key : RecordKey := { ns, name }
    let cluster ← correlation m.metadata key Manifest.annotationKeys.cluster
    let range ← correlation m.metadata key Manifest.annotationKeys.range
    let address ← carriedAddress key m.address
    let refresh := m.metadata.annotated? Manifest.annotationKeys.refresh
    return { key, cluster, range, address, forceRefresh := (refresh.bind Text.truth?).getD false }
  | _, _ => .error (.missingIdentity Manifest.Floating.kind)

end FloatingRecord

end FloatingAddress
