import FloatingAddress.Text.Quoted
import FloatingAddress.UsableSpan

/-!
# Who holds which address

An allocator keeps one pool per registered range: its usable span and, for every address that is
taken, the owner that holds it. An owner may ask for one address or leave the choice to the pool,
which then hands out the lowest address that nobody holds.

Every operation that can fail returns the allocator only on success, so a failure changes nothing.
-/

namespace FloatingAddress

/-- Why an allocation request was refused. -/
inductive AllocationError
  /-- The text is not a network in CIDR notation. -/
  | invalidCidr (cidr : String)
  /-- A range of this name is registered already. -/
  | rangeAlreadyExists (range : String)
  /-- No range of this name is registered. -/
  | rangeNotFound (range : String)
  /-- Every usable address of the range is held. -/
  | exhausted (range : String)
  /-- The requested address is not usable in the range. -/
  | outOfRange (range : String) (address : Ipv4)
  /-- The requested address is held by another owner. -/
  | alreadyAllocated (range : String) (address : Ipv4) (owner : String)
deriving DecidableEq, Repr

namespace AllocationError

def message : AllocationError → String
  | invalidCidr cidr => s!"Invalid CIDR {Text.quote cidr}: invalid IP address syntax"
  | rangeAlreadyExists range => s!"Range already exists: {range}"
  | rangeNotFound range => s!"Range not found: {range}"
  | exhausted range => s!"No free addresses left in range {range}"
  | outOfRange range address => s!"Address {address} is outside the usable span of range {range}"
  | alreadyAllocated range address owner =>
    s!"Address {address} in range {range} is already allocated to {owner}"

end AllocationError

/-- The addresses of one range and their owners. -/
structure Pool where
  span : UsableSpan
  held : Std.ExtTreeMap Ipv4 String

namespace Pool

/-- Walk along the held addresses, lowest first, as long as they leave no gap. The candidate is
free as soon as the next held address is another one, and there is none left once the last
usable address itself is held. -/
def firstGap (last : Ipv4) (candidate : Ipv4) : List Ipv4 → Option Ipv4
  | [] => some candidate
  | taken :: rest =>
    if taken ≠ candidate then some candidate
    else if candidate = last then none
    else firstGap last ⟨candidate.word + 1⟩ rest

def lowestFree? (pool : Pool) : Option Ipv4 :=
  match pool.span.bounds with
  | none => none
  | some (first, last) => firstGap last first (pool.held.keys.filter pool.span.contains)

def hold (pool : Pool) (address : Ipv4) (owner : String) : Pool :=
  { pool with held := pool.held.insert address owner }

def free (pool : Pool) (address : Ipv4) : Pool :=
  { pool with held := pool.held.erase address }

@[simp] theorem hold_span (pool : Pool) (address : Ipv4) (owner : String) :
    (pool.hold address owner).span = pool.span := rfl

@[simp] theorem free_span (pool : Pool) (address : Ipv4) :
    (pool.free address).span = pool.span := rfl

theorem getElem?_hold (pool : Pool) (address : Ipv4) (owner : String) (a : Ipv4) :
    (pool.hold address owner).held[a]? = if address = a then some owner else pool.held[a]? := by
  simp [hold, Std.ExtTreeMap.getElem?_insert]

theorem getElem?_free (pool : Pool) (address a : Ipv4) :
    (pool.free address).held[a]? = if address = a then none else pool.held[a]? := by
  simp [free, Std.ExtTreeMap.getElem?_erase]

end Pool

/-- The pools of all registered ranges, by range name. -/
structure Allocator where
  pools : Std.ExtTreeMap String Pool := ∅

namespace Allocator

def empty : Allocator := {}

/-- Register a range. The name is looked at before the network. -/
def register (alloc : Allocator) (name cidr : String) :
    Except AllocationError (UsableSpan × Allocator) :=
  if name ∈ alloc.pools then .error (.rangeAlreadyExists name)
  else match UsableSpan.ofText? cidr with
    | none => .error (.invalidCidr cidr)
    | some span => .ok (span, { pools := alloc.pools.insert name ⟨span, ∅⟩ })

/-- Forget a range and tell how many of its addresses were held. -/
def deregister (alloc : Allocator) (name : String) :
    Except AllocationError (Nat × Allocator) :=
  match alloc.pools[name]? with
  | none => .error (.rangeNotFound name)
  | some pool => .ok (pool.held.size, { pools := alloc.pools.erase name })

/-- The address that a request obtains from a pool, if it is granted. A request for an address
that its owner holds already is granted again. -/
def choose (range : String) (pool : Pool) (owner : String) :
    Option Ipv4 → Except AllocationError Ipv4
  | none => match pool.lowestFree? with
    | none => .error (.exhausted range)
    | some address => .ok address
  | some address =>
    if pool.span.contains address then
      match pool.held[address]? with
      | none => .ok address
      | some holder =>
        if holder = owner then .ok address
        else .error (.alreadyAllocated range address holder)
    else .error (.outOfRange range address)

/-- Let `owner` hold the requested address of a range, or its lowest free one. -/
def acquire (alloc : Allocator) (range owner : String) (requested : Option Ipv4) :
    Except AllocationError (Ipv4 × Allocator) :=
  match alloc.pools[range]? with
  | none => .error (.rangeNotFound range)
  | some pool =>
    (choose range pool owner requested).map fun address =>
      (address, { pools := alloc.pools.insert range (pool.hold address owner) })

/-- Give an address back, whoever holds it, and tell whether anybody did. -/
def release (alloc : Allocator) (range : String) (address : Ipv4) : Bool × Allocator :=
  match alloc.pools[range]? with
  | none => (false, alloc)
  | some pool =>
    if address ∈ pool.held then
      (true, { pools := alloc.pools.insert range (pool.free address) })
    else (false, alloc)

def containsRange (alloc : Allocator) (name : String) : Bool := alloc.pools.contains name

def ranges (alloc : Allocator) : List String := alloc.pools.keys

def span (alloc : Allocator) (name : String) : Option UsableSpan :=
  alloc.pools[name]?.map (·.span)

def capacity (alloc : Allocator) (name : String) : Option UInt32 :=
  (alloc.span name).map (·.capacity)

/-- The held addresses of a range, lowest first; an unknown range holds none. -/
def allocated (alloc : Allocator) (name : String) : List Ipv4 :=
  match alloc.pools[name]? with
  | none => []
  | some pool => pool.held.keys

def owner (alloc : Allocator) (range : String) (address : Ipv4) : Option String :=
  alloc.pools[range]?.bind fun pool => pool.held[address]?

end Allocator

end FloatingAddress
