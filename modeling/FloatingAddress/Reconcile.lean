import FloatingAddress.Dialogue
import FloatingAddress.Metrics.Basic
import FloatingAddress.Notice

/-!
# Following the objects of the cluster

Objects arrive as they are now, without a word on what has changed. An object with an unknown
identity is new; one that differs from its record replaces it, which means that the record is
removed and then accepted again; and one that agrees with its record changes nothing. The last
case also takes in the echo of an address that was written back from here.

An address that was chosen here is written back to the object. If that fails, the claim is undone,
so that the object can be accepted later with any address.

Handlers are dialogues. Each question to the inventory is one indivisible step, and other handlers
may come in between.
-/

namespace FloatingAddress.Reconcile

/-- What a handler asks of its surroundings. -/
inductive Call
  | range (name : String)
  | floating (key : RecordKey)
  | createRange (record : RangeRecord)
  | deleteRange (name : String)
  | claim (record : FloatingRecord)
  | rollback (key : RecordKey)
  | release (key : RecordKey)
  /-- Write an address back to its object. -/
  | persist (key : RecordKey) (address : Ipv4)
  | measure (update : Metrics.Update)
  | report (notice : Notice)

abbrev Answer : Call → Type
  | .range _ => Option RangeRecord
  | .floating _ => Option FloatingRecord
  | .createRange _ => Except OperatorError Inventory.Registration
  | .deleteRange _ => Except OperatorError Inventory.Removal
  | .claim _ => Except OperatorError Inventory.Claim
  | .release _ => Except OperatorError Inventory.Release
  | .persist .. => Except OperatorError Unit
  | .rollback _ | .measure _ | .report _ => Unit

abbrev Step := Dialogue Call Answer

/-- A handler, which may fail. -/
abbrev Handler := ExceptT OperatorError Step

def step (c : Call) : Step (Answer c) := Dialogue.call c

/-- Ask a question that cannot fail. -/
def ask (c : Call) : Handler (Answer c) := ExceptT.lift (step c)

/-- Have a range registered, or fail. -/
def registration (record : RangeRecord) : Handler Inventory.Registration :=
  ExceptT.mk (step (.createRange record))

/-- Have a range removed, or fail. -/
def removal (name : String) : Handler Inventory.Removal :=
  ExceptT.mk (step (.deleteRange name))

/-- Have an address claimed, or fail. -/
def claimed (record : FloatingRecord) : Handler Inventory.Claim :=
  ExceptT.mk (step (.claim record))

/-- Have an address released, or fail. -/
def released (key : RecordKey) : Handler Inventory.Release :=
  ExceptT.mk (step (.release key))

/-- Have an address written back, or fail. -/
def persisted (key : RecordKey) (address : Ipv4) : Handler Unit :=
  ExceptT.mk (step (.persist key address))

def report (notice : Notice) : Handler Unit := ask (.report notice)

def measure (update : Metrics.Update) : Handler Unit := ask (.measure update)

/-- Register a range and show its use. -/
def createRange (record : RangeRecord) : Handler Unit := do
  let r ← registration record
  r.notices.forM report
  measure (.rangeUsage r.record r.capacity r.readopted)

/-- Forget a range and the gauges of its use. -/
def removeRange (name : String) : Handler Unit := do
  let r ← removal name
  measure (.rangeRemoved r.record)
  if 0 < r.orphaned then report (.rangeOrphans name r.orphaned)

/-- Carry on after a failure, which is only reported. -/
def reporting (notice : OperatorError → Notice) (handler : Handler Unit) : Handler Unit :=
  tryCatch handler fun error => report (notice error)

def applyRange (m : Manifest.Range) : Handler Unit := do
  let name := m.metadata.anyName
  let incoming := (RangeRecord.ofManifest m).mapError OperatorError.record
  match ← ask (.range name) with
  | none => createRange (← incoming)
  | some stored =>
    if incoming.toOption = some stored then return
    reporting (.notReplaced .range name) (removeRange stored.name)
    createRange (← incoming)

def deleteRange (m : Manifest.Range) : Handler Unit := removeRange m.metadata.anyName

/-- Claim an address, write it back to an object that lacks it, and show the use of the range. -/
def createFloating (record : FloatingRecord) (carried : Bool) : Handler Unit := do
  let claim ← claimed record
  if !carried then
    tryCatch (persisted record.key claim.address) fun error => do
      ask (.rollback record.key)
      throw error
  match claim.range with
  | none => return
  | some range => measure (.reservedUp range)

/-- Give an address back and show the use of the range. -/
def releaseFloating (key : RecordKey) : Handler FloatingRecord := do
  let r ← released key
  match r.range with
  | none => pure ()
  | some range => if r.released then measure (.reservedDown range)
  return r.record

/-- The identity under which a floating-address object is looked up. -/
def lookupKey (m : Manifest.Floating) : RecordKey :=
  { ns := m.metadata.nsText, name := m.metadata.anyName }

/-- Give the address of a record back before the record is replaced. -/
def replaceFloating (stored : FloatingRecord) : Handler Unit :=
  reporting (.notReplaced .floating stored.key.text) (discard (releaseFloating stored.key))

/-- What a changed object asks for: one that carries no address keeps the one that it has, as long
as it stays in the same range. -/
def keepingAddress (incoming stored : FloatingRecord) : FloatingRecord :=
  if incoming.address.isNone && incoming.range = stored.range then
    { incoming with address := stored.address }
  else incoming

def applyFloating (m : Manifest.Floating) : Handler Unit := do
  let incoming := (FloatingRecord.ofManifest m).mapError OperatorError.record
  match ← ask (.floating (lookupKey m)) with
  | none =>
    let incoming ← incoming
    createFloating incoming incoming.address.isSome
  | some stored =>
    match incoming with
    | .error error =>
      replaceFloating stored
      throw error
    | .ok incoming =>
      let carried := incoming.address.isSome
      let wanted := keepingAddress incoming stored
      if wanted = stored then
        match stored.address with
        | none => return
        | some address => if !carried then persisted stored.key address
      else
        replaceFloating stored
        createFloating wanted carried

/-- Follow the deletion of a floating-address object. The series of its guest cluster are to be
dropped. -/
def deleteFloating (m : Manifest.Floating) : Handler Unit := do
  let record ← releaseFloating (lookupKey m)
  measure (.queueCleanup record.cluster)

/-- What came of accepting a list of objects. -/
structure SeedReport where
  ranges : Nat := 0
  floatings : Nat := 0
  failed : Nat := 0
deriving DecidableEq, Repr

/-- Follow one object of a list. A failure is reported and counted. -/
def seedOne (kind : WatchKind) (object : String) (handler : Handler Unit) : Step Bool := do
  match ← handler.run with
  | .ok () => return true
  | .error error =>
    step (.report (.notLoaded kind object error))
    return false

/-- Whether an object carries the text of an address. -/
def carriesAddress (m : Manifest.Floating) : Bool := (m.address.bind Text.nonBlank).isSome

/-- The order in which ranges are accepted: by name. -/
def rangeOrder (ranges : List Manifest.Range) : List Manifest.Range :=
  ranges.mergeSort fun a b => a.metadata.anyName ≤ b.metadata.anyName

/-- The order in which floating addresses are accepted: those that carry an address come first, so
no address is handed out that an object later in the list asks for. -/
def floatingOrder (floatings : List Manifest.Floating) : List Manifest.Floating :=
  floatings.filter carriesAddress ++ floatings.filter (!carriesAddress ·)

/-- The name of a floating-address object in messages. -/
def floatingText (m : Manifest.Floating) : String := (lookupKey m).text

/-- Accept the objects that are there at the start, the ranges first. -/
def seed (ranges : List Manifest.Range) (floatings : List Manifest.Floating) :
    Step SeedReport := do
  let ranges ← (rangeOrder ranges).mapM fun m =>
    seedOne .range m.metadata.anyName (applyRange m)
  let floatings ← (floatingOrder floatings).mapM fun m =>
    seedOne .floating (floatingText m) (applyFloating m)
  return {
    ranges := ranges.count true
    floatings := floatings.count true
    failed := (ranges ++ floatings).count false }

end FloatingAddress.Reconcile
