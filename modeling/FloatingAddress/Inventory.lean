import FloatingAddress.Failure

/-!
# Records and held addresses together

The inventory joins the store of accepted records with the allocator of their addresses. Each
operation changes both at once or neither, so between two operations a registered range has its
record and a stored floating address has its address.

A range may go away and come back. Its floating addresses stay stored meanwhile, and their
addresses are reserved again when the range is created anew, as far as its network still has
them.
-/

namespace FloatingAddress

/-- Accepted records and the addresses held for them. -/
structure Inventory where
  allocator : Allocator := {}
  store : Store := {}

namespace Inventory

def empty : Inventory := {}

/-- A stored address that could not be reserved again. -/
structure Untracked where
  key : RecordKey
  address : Ipv4
  error : AllocationError
deriving DecidableEq, Repr

/-- What came of reserving stored addresses again. -/
structure Readoption where
  allocator : Allocator
  /-- How many addresses were reserved. -/
  count : Nat := 0
  /-- The addresses that the range does not have or that others hold. -/
  untracked : List Untracked := []

/-- Reserve the address of one stored record again. -/
def readoptOne (range : String) (done : Readoption) (record : FloatingRecord) : Readoption :=
  match record.address with
  | none => done
  | some address =>
    match done.allocator.acquire range record.owner (some address) with
    | .ok (_, allocator) => { done with allocator, count := done.count + 1 }
    | .error error =>
      { done with untracked := done.untracked ++ [{ key := record.key, address, error }] }

/-- Reserve the addresses of stored records again, in the order of the records. -/
def readopt (allocator : Allocator) (range : String) (records : List FloatingRecord) :
    Readoption :=
  records.foldl (readoptOne range) { allocator }

/-- The result of creating a range. -/
structure Registration where
  record : RangeRecord
  capacity : UInt32
  /-- How many stored addresses were reserved again. -/
  readopted : Nat
  untracked : List Untracked

/-- Register a range, reserve the addresses that stored records draw from it, and store it. -/
def createRange (inventory : Inventory) (record : RangeRecord) :
    Except AllocationError (Registration × Inventory) := do
  let (span, allocator) ← inventory.allocator.register record.name record.cidr
  let done := readopt allocator record.name (inventory.store.floatingsIn record.name)
  return (
    { record, capacity := span.capacity, readopted := done.count, untracked := done.untracked },
    { allocator := done.allocator, store := inventory.store.putRange record })

/-- The result of deleting a range. -/
structure Removal where
  record : RangeRecord
  /-- How many addresses were held. -/
  released : Nat
  /-- How many stored floating addresses still name the range. -/
  orphaned : Nat

/-- Forget a range and who holds its addresses. Records that name the range stay. -/
def deleteRange (inventory : Inventory) (name : String) :
    Except OperatorError (Removal × Inventory) :=
  match inventory.allocator.deregister name with
  | .error error => .error (.allocation error)
  | .ok (released, allocator) =>
    match inventory.store.removeRange name with
    | .error error => .error (.store error)
    | .ok (record, store) =>
      .ok ({ record, released, orphaned := (store.floatingsIn name).length }, { allocator, store })

/-- The result of claiming an address. -/
structure Claim where
  /-- The record as stored, with its address. -/
  record : FloatingRecord
  address : Ipv4
  /-- Whether the address was chosen here and not asked for. -/
  allocated : Bool
  range : Option RangeRecord

/-- Acquire the address that a record asks for, or the lowest free one, and store the record. -/
def claim (inventory : Inventory) (record : FloatingRecord) :
    Except AllocationError (Claim × Inventory) := do
  let (address, allocator) ←
    inventory.allocator.acquire record.range record.owner record.address
  let stored := { record with address := some address }
  let range := inventory.store.range? record.range
  return (
    { record := stored, address, allocated := record.address.isNone, range },
    { allocator, store := inventory.store.putFloating stored })

/-- Give the address of a record back; tell whether it was held. -/
def releaseAddress (allocator : Allocator) (record : FloatingRecord) : Bool × Allocator :=
  match record.address with
  | none => (false, allocator)
  | some address => allocator.release record.range address

/-- Remove a record whose claim came to nothing, and give its address back. -/
def rollback (inventory : Inventory) (key : RecordKey) : Inventory :=
  match inventory.store.removeFloating key with
  | .error _ => inventory
  | .ok (record, store) =>
    { allocator := (releaseAddress inventory.allocator record).2, store }

/-- The result of releasing a floating address. -/
structure Release where
  record : FloatingRecord
  /-- Whether the address was held. -/
  released : Bool
  range : Option RangeRecord

/-- Remove a record and give its address back. -/
def release (inventory : Inventory) (key : RecordKey) :
    Except StoreError (Release × Inventory) :=
  match inventory.store.removeFloating key with
  | .error error => .error error
  | .ok (record, store) =>
    let (released, allocator) := releaseAddress inventory.allocator record
    .ok ({ record, released, range := store.range? record.range }, { allocator, store })

def range? (inventory : Inventory) (name : String) : Option RangeRecord :=
  inventory.store.range? name

def floating? (inventory : Inventory) (key : RecordKey) : Option FloatingRecord :=
  inventory.store.floating? key

def allocated (inventory : Inventory) (range : String) : List Ipv4 :=
  inventory.allocator.allocated range

/-- Capacity and number of held addresses of a registered range. -/
def usage (inventory : Inventory) (range : String) : Option (UInt32 × Nat) :=
  (inventory.allocator.capacity range).map fun capacity =>
    (capacity, (inventory.allocated range).length)

end Inventory

end FloatingAddress
