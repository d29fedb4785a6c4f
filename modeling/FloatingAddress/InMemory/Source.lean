import FloatingAddress.Failure
import FloatingAddress.Manifest.Floating

/-!
# The source of the objects, in memory

It holds the range and floating-address objects in the order in which they were added, and the
addresses that were written back.
-/

namespace FloatingAddress.InMemory

/-- The objects from which everything starts. -/
structure Source where
  ranges : List Manifest.Range := []
  floatings : List Manifest.Floating := []
  persisted : Array (RecordKey × Ipv4) := #[]
  /-- Whether writing back fails. -/
  failing : Bool := false

namespace Source

def addRange (s : Source) (m : Manifest.Range) : Source := { s with ranges := s.ranges ++ [m] }

def addFloating (s : Source) (m : Manifest.Floating) : Source :=
  { s with floatings := s.floatings ++ [m] }

/-- Whether an object has an identity. -/
def isObject (key : RecordKey) (m : Manifest.Floating) : Bool :=
  m.metadata.ns = some key.ns && m.metadata.anyName = key.name

/-- Set the address of the first object with an identity. -/
def setAddress (key : RecordKey) (address : Ipv4) : List Manifest.Floating → List Manifest.Floating
  | [] => []
  | m :: rest =>
    if isObject key m then { m with address := some address.text } :: rest
    else m :: setAddress key address rest

/-- Write an address back to its object. -/
def persist (s : Source) (key : RecordKey) (address : Ipv4) :
    Except OperatorError Unit × Source :=
  if s.failing then (.error (.io s!"cannot patch {key}"), s)
  else (.ok (), { s with
    persisted := s.persisted.push (key, address)
    floatings := setAddress key address s.floatings })

def isServed (s : Source) (ns : String) : Bool :=
  s.floatings.any fun m => m.metadata.ns = some ns

end Source

end FloatingAddress.InMemory
