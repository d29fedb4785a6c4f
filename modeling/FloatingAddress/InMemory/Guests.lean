import FloatingAddress.Failure
import FloatingAddress.Manifest.ConfigMap
import Std.Data.ExtTreeSet

/-!
# Guest clusters in memory

They answer probes as they are told to, keep config maps, and record every call, failed ones
included.
-/

namespace FloatingAddress.InMemory

/-- How a guest cluster answers a probe. -/
inductive Probe
  | reachable
  | provisioning
  | unreachable (why : String)
deriving DecidableEq, Repr

/-- Where a config map lies. -/
structure MapPlace where
  cluster : String
  ns : String
  name : String
deriving DecidableEq, Repr

/-- The ways to write a config map. -/
inductive Write
  | create | replace
deriving DecidableEq, Repr

def Write.verb : Write → String
  | create => "create"
  | replace => "replace"

structure Guests where
  probes : Std.ExtTreeMap String Probe := ∅
  configMaps : List (MapPlace × Manifest.ConfigMap) := []
  failingWrites : Std.ExtTreeSet String := ∅
  calls : Array String := #[]

namespace Guests

/-- Where a config map of a guest cluster belongs. -/
def placeOf (cluster : String) (m : Manifest.ConfigMap) : MapPlace :=
  { cluster, ns := m.metadata.nsText, name := m.metadata.name.getD "" }

/-- Put a config map into a guest cluster. -/
def put (g : Guests) (cluster : String) (m : Manifest.ConfigMap) : Guests :=
  let place := placeOf cluster m
  { g with configMaps := (place, m) :: g.configMaps.filter (·.1 ≠ place) }

def configMap? (g : Guests) (place : MapPlace) : Option Manifest.ConfigMap :=
  g.configMaps.lookup place

def record (g : Guests) (call : String) : Guests := { g with calls := g.calls.push call }

/-- The recorded calls that went to a guest cluster. -/
def callsTo (g : Guests) (cluster : String) : List String :=
  g.calls.toList.filter fun call => Text.contains call (" " ++ cluster)

def probe (g : Guests) (cluster : String) : Except GuestError Unit × Guests :=
  let answer := match (g.probes[cluster]?).getD .reachable with
    | .reachable => .ok ()
    | .provisioning => .error (.provisioning cluster)
    | .unreachable why => .error (.io why)
  (answer, g.record s!"probe {cluster}")

def get (g : Guests) (place : MapPlace) :
    Except GuestError (Option Manifest.ConfigMap) × Guests :=
  (.ok (g.configMap? place), g.record s!"get {place.cluster} {place.ns}/{place.name}")

/-- Write a config map. Creating one that is there and replacing one that is not both fail. -/
def write (g : Guests) (how : Write) (cluster : String) (m : Manifest.ConfigMap) :
    Except GuestError Unit × Guests :=
  let place := placeOf cluster m
  let g := g.record s!"{how.verb} {cluster} {place.ns}/{place.name}"
  if cluster ∈ g.failingWrites then
    (.error (.io s!"injected {how.verb} failure for {cluster}"), g)
  else match how, g.configMap? place with
    | .create, some _ => (.error (.missingData s!"{place.ns}/{place.name} already exists"), g)
    | .replace, none => (.error (.notFound s!"{place.ns}/{place.name}"), g)
    | _, _ => (.ok (), g.put cluster m)

end Guests

end FloatingAddress.InMemory
