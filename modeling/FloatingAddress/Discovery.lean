import FloatingAddress.Clock
import FloatingAddress.Dialogue
import FloatingAddress.Manifest.GuestCluster
import FloatingAddress.Notice
import FloatingAddress.RangeChoice

/-!
# Floating addresses for new guest clusters

Every guest cluster has a namespace of its own in the management cluster. When such a namespace
appears, a floating-address object is created in it, drawn from a range of the provider on which
the cluster runs. The objects that describe the cluster appear a little later than the namespace,
so the search for them waits first.

A namespace is dealt with once. If something fails, it is forgotten again, and the next notification
of it starts anew.
-/

namespace FloatingAddress.Discovery

/-- What the namespaces of guest clusters begin with. -/
def guestNsStem : String := "c-m-"

/-- How long the search for a new cluster waits. -/
def settleDelay : Duration := .ofSeconds 15

/-- What came of a notification. -/
inductive Result
  /-- The namespace belongs to no guest cluster, or has been dealt with. -/
  | ignored
  | noCluster
  | alreadyServed
  | noRange
  | created (key : RecordKey)
deriving DecidableEq, Repr

/-- What the search asks of its surroundings. -/
inductive Call
  /-- Remember a namespace; the answer tells whether it is new. -/
  | markSeen (ns : String)
  | forget (ns : String)
  /-- Wait until the cluster objects have appeared. -/
  | settle
  | findCluster (ns : String)
  | providerName (cluster : GuestCluster)
  | networkName (cluster : GuestCluster)
  /-- Whether a namespace holds floating-address objects. -/
  | isServed (ns : String)
  | ranges
  | create (m : Manifest.Floating)
  | report (notice : Notice)

abbrev Answer : Call → Type
  | .markSeen _ => Bool
  | .findCluster _ => Except OperatorError (Option GuestCluster)
  | .providerName _ | .networkName _ => Except OperatorError (Option String)
  | .isServed _ => Except OperatorError Bool
  | .ranges => List RangeRecord
  | .create _ => Except OperatorError Unit
  | .forget _ | .settle | .report _ => Unit

abbrev Step := Dialogue Call Answer

/-- A part of the search that may fail. -/
abbrev Search := ExceptT OperatorError Step

def step (c : Call) : Step (Answer c) := Dialogue.call c

/-- Ask a question that cannot fail. -/
def ask (c : Call) : Search (Answer c) := ExceptT.lift (step c)

/-- The guest cluster that owns a namespace. -/
def ownerOf (ns : String) : Search (Option GuestCluster) := ExceptT.mk (step (.findCluster ns))

/-- The provider cluster on which a guest cluster runs. -/
def providerOf (cluster : GuestCluster) : Search (Option String) :=
  ExceptT.mk (step (.providerName cluster))

/-- The provider network to which a guest cluster is attached. -/
def networkOf (cluster : GuestCluster) : Search (Option String) :=
  ExceptT.mk (step (.networkName cluster))

def isServed (ns : String) : Search Bool := ExceptT.mk (step (.isServed ns))

def create (m : Manifest.Floating) : Search Unit := ExceptT.mk (step (.create m))

def report (notice : Notice) : Search Unit := ask (.report notice)

/-- The object that asks for an address of a range for a new guest cluster. Its configuration is to
be rewritten again and again. -/
def request (ns cluster range : String) : Manifest.Floating where
  metadata := { Metadata.named ns (cluster ++ "-kubevip") with
    annotations := some (Std.ExtTreeMap.ofList [
      (Manifest.annotationKeys.cluster, cluster), (Manifest.annotationKeys.range, range),
      (Manifest.annotationKeys.refresh, "true")]) }

/-- Look for the cluster that owns a namespace, and create an object for it. -/
def discover (ns : String) : Search Result := do
  ask .settle
  match ← ownerOf ns with
  | none => return .noCluster
  | some cluster =>
    match ← providerOf cluster with
    | none =>
      report (.noProvider cluster.name)
      return .noRange
    | some provider =>
      let network ← networkOf cluster
      if ← isServed ns then return .alreadyServed
      match chooseRange (← ask .ranges) provider network with
      | none =>
        report (.noRange provider network cluster.name)
        return .noRange
      | some range =>
        let m := request ns cluster.name range.name
        create m
        return .created { ns, name := m.metadata.anyName }

/-- Deal with the notification of a namespace. -/
def handle (ns : String) : Step (Except OperatorError Result) := do
  if !guestNsStem.toList.isPrefixOf ns.toList then return .ok .ignored
  if !(← step (.markSeen ns)) then return .ok .ignored
  match ← (discover ns).run with
  | .ok result => return .ok result
  | .error error =>
    step (.forget ns)
    return .error error

/-- Deal with a notification on its own; a failure is reported. -/
def handleReporting (ns : String) : Step Unit := do
  match ← handle ns with
  | .ok _ => return
  | .error error => step (.report (.discoveryFailed ns error))

end FloatingAddress.Discovery
