import FloatingAddress.Clock
import FloatingAddress.Options
import FloatingAddress.Reconcile
import FloatingAddress.Settings

/-!
# Watching the objects of the cluster

A watch first lists the objects that are there and then delivers every change. If its connection
breaks, it lists the objects again. Objects that exist at the start have been accepted by then, so
for a while after the start deliveries are dropped.
-/

namespace FloatingAddress.Watch

/-- What a watch delivers. -/
inductive Delivery (α : Type)
  /-- A list of all objects begins. -/
  | listing
  /-- An object of the list. -/
  | listed (object : α)
  /-- The list is complete. -/
  | complete
  | applied (object : α)
  | deleted (object : α)

/-- What a delivery says about an object. -/
inductive Change (α : Type)
  /-- The object is there, in this form. -/
  | apply (object : α)
  /-- The object is gone. -/
  | delete (object : α)

/-- The change that a delivery tells of. -/
def Delivery.change? : Delivery α → Option (Change α)
  | .listing | .complete => none
  | .listed object | .applied object => some (.apply object)
  | .deleted object => some (.delete object)

/-- When deliveries begin to count. -/
structure Gate where
  opens : Instant
deriving DecidableEq, Repr

def Gate.openingAfter (now : Instant) (window : Duration) : Gate := ⟨now.after window⟩

def Gate.isOpen (gate : Gate) (now : Instant) : Bool := gate.opens.nanos ≤ now.nanos

/-- The change that a delivery tells of, if deliveries count. -/
def counted? (gate : Gate) (now : Instant) (delivery : Delivery α) : Option (Change α) :=
  if gate.isOpen now then delivery.change? else none

/-- Run a handler; a failure is only reported. -/
def reporting (notice : OperatorError → Notice) (handler : Reconcile.Handler Unit) :
    Reconcile.Step Unit := do
  match ← handler.run with
  | .ok () => return
  | .error error => Reconcile.step (.report (notice error))

def followRange : Change Manifest.Range → Reconcile.Step Unit
  | .apply m => reporting (.notApplied .range m.metadata.anyName) (Reconcile.applyRange m)
  | .delete m => reporting (.notDeleted .range m.metadata.anyName) (Reconcile.deleteRange m)

def followFloating : Change Manifest.Floating → Reconcile.Step Unit
  | .apply m => reporting (.notApplied .floating (Reconcile.floatingText m)) (Reconcile.applyFloating m)
  | .delete m =>
    reporting (.notDeleted .floating (Reconcile.floatingText m)) (Reconcile.deleteFloating m)

/-- The namespace that a change calls to attention: one that is there and is not being removed. -/
def noticedNamespace? : Change Manifest.Namespace → Option String
  | .apply m => if m.metadata.isBeingDeleted then none else some m.metadata.anyName
  | .delete _ => none

/-- The options after a change of their config map, and what there is to report. A deleted config
map means the defaults. -/
def newOptions (settings : Settings) : Change Manifest.ConfigMap → List Notice × Options
  | .apply m => (Options.complaintsOf m, Options.ofConfigMap m)
  | .delete _ => ([.optionsDeleted settings.ns settings.configMap], Options.defaults)

end FloatingAddress.Watch
