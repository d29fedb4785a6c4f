import FloatingAddress.Dialogue
import FloatingAddress.Kubeconfig
import FloatingAddress.Manifest.GuestCluster
import FloatingAddress.Metrics.Basic
import FloatingAddress.Options

/-!
# The sweep over all guest clusters

For every stored floating address the guest cluster that owns it is visited, one after the other.
A visit looks the cluster up, makes sure that it still owns the namespace of the address, fetches
its credentials and probes it. If it answers, the charts are installed as far as the policy asks
for it, and the address is published in a config map of the guest.

A failing step is reported and counted, and the sweep goes on: nothing that happens at one guest
cluster keeps it from visiting the others.
-/

namespace FloatingAddress.Sweep

/-- The config map from which the load balancer of a guest takes its addresses. -/
def addressConfigMap : String := "kubevip"

/-- The entry of that config map. -/
def addressKey : String := "cidr-global"

/-- What the sweep asks of its surroundings. -/
inductive Call
  /-- Mark that a sweep is writing metrics, or clear the mark. -/
  | sweeping (on : Bool)
  | getCluster (name : String)
  | providerName (cluster : GuestCluster)
  | getKubeconfig (cluster : String)
  | probe (k : Kubeconfig)
  | getConfigMap (k : Kubeconfig) (ns name : String)
  | createConfigMap (k : Kubeconfig) (m : Manifest.ConfigMap)
  | replaceConfigMap (k : Kubeconfig) (m : Manifest.ConfigMap)
  | releaseExists (k : Kubeconfig) (ns release : String)
  | install (k : Kubeconfig) (chart : Chart.Request)
  /-- The capacity and the held addresses of a range as they are now. -/
  | holdings (range : String)
  | measure (update : Metrics.Update)
  | report (notice : Notice)

abbrev Answer : Call → Type
  | .getCluster _ => Except GuestError (Option GuestCluster)
  | .providerName _ => Except GuestError (Option String)
  | .getKubeconfig _ => Except GuestError Kubeconfig
  | .probe _ => Except GuestError Unit
  | .getConfigMap .. => Except GuestError (Option Manifest.ConfigMap)
  | .createConfigMap .. | .replaceConfigMap .. => Except GuestError Unit
  | .releaseExists .. => Except GuestError Bool
  | .install .. => Except GuestError Unit
  | .holdings _ => UInt32 × List Ipv4
  | .sweeping _ | .measure _ | .report _ => Unit

abbrev Step := Dialogue Call Answer

/-- A part of a visit that may fail. -/
abbrev Attempt := ExceptT GuestError Step

def step (c : Call) : Step (Answer c) := Dialogue.call c

def measure (update : Metrics.Update) : Step Unit := step (.measure update)

def report (notice : Notice) : Step Unit := step (.report notice)

/-- A guest cluster that is being visited. -/
structure Target where
  record : FloatingRecord
  /-- The provider label of its series. -/
  provider : String
  kubeconfig : Kubeconfig

def Target.cluster (target : Target) : String := target.record.cluster

/-- Count how a step of the visit ended. -/
def Target.count (target : Target) (event : Metrics.Event) (outcome : Metrics.Outcome) :
    Step Unit :=
  measure (.guestEvent target.cluster target.provider event outcome)

/-- A guest cluster cannot be worked with: it is shown as down, and a failure is counted. -/
def markDown (cluster provider : String) (notice : Notice) : Step Unit := do
  report notice
  measure (.guestStatus cluster provider false)
  measure (.guestEvent cluster provider .connectivity .error)

/-- How a visit ended. -/
inductive Visit
  /-- The cluster is gone or owns another namespace now. -/
  | orphaned
  | done (failed : Nat)

/-- Probe a guest cluster. The result tells whether to go on with the visit, and otherwise how
many steps failed. -/
def probe (target : Target) : Step (Except Nat Unit) := do
  match ← step (.probe target.kubeconfig) with
  | .ok () =>
    measure (.guestStatus target.cluster target.provider true)
    target.count .connectivity .success
    return .ok ()
  | .error error =>
    if error.isProvisioning then
      measure (.guestStatus target.cluster target.provider false)
      return .error 0
    else
      markDown target.cluster target.provider (.unreachable target.cluster error)
      return .error 1

/-- Count and report the outcome of a step that may have had nothing to do. The result tells
whether it failed. -/
def conclude (target : Target) (event : Metrics.Event) (notice : GuestError → Notice) :
    Except GuestError Bool → Step Bool
  | .ok false => return false
  | .ok true => do
    target.count event .success
    return false
  | .error error => do
    report (notice error)
    target.count event .error
    return true

/-- Install a component unless its release is there and is not to be upgraded. The result tells
whether it was installed. -/
def installComponent (options : Options) (target : Target) (component : Chart.Component) :
    Attempt Bool := do
  let present ← if options.updateInPlace then pure false
    else ExceptT.mk (step (.releaseExists target.kubeconfig component.ns component.release))
  if present then return false
  let () ← ExceptT.mk (step (.install target.kubeconfig (options.chartRequest component)))
  return true

/-- Install a component and count the outcome. -/
def install (options : Options) (target : Target) (component : Chart.Component)
    (event : Metrics.Event) : Step Bool := do
  let result ← (installComponent options target component).run
  conclude target event (.notInstalled component.release target.cluster) result

/-- The network of one address. -/
def addressText (address : Ipv4) : String := s!"{address}/32"

/-- The config map that publishes an address. -/
def addressMap (ns : String) (address : Ipv4) : Manifest.ConfigMap where
  metadata := Metadata.named ns addressConfigMap
  data := some (Std.ExtTreeMap.ofList [(addressKey, addressText address)])

/-- Publish an address in a guest: create the config map, or change its entry if the record asks
for that. The result tells whether anything was written. -/
def publishAddress (target : Target) (ns : String) (address : Ipv4) : Attempt Bool := do
  let existing : Option Manifest.ConfigMap ←
    ExceptT.mk (step (.getConfigMap target.kubeconfig ns addressConfigMap))
  match existing with
  | none =>
    let () ← ExceptT.mk (step (.createConfigMap target.kubeconfig (addressMap ns address)))
    return true
  | some m =>
    if !target.record.forceRefresh then return false
    let m := m.withEntry addressKey (addressText address)
    let () ← ExceptT.mk (step (.replaceConfigMap target.kubeconfig m))
    return true

/-- Publish the address of a target and count the outcome. -/
def publish (options : Options) (target : Target) : Step Bool := do
  match target.record.address with
  | none =>
    report (.addressMissing target.record.key)
    return false
  | some address =>
    let result ← (publishAddress target options.loadBalancer.ns address).run
    conclude target .configReconcile (.configMapFailed target.cluster) result

/-- Work on a guest cluster that answered the probe. The result is the number of failed steps. -/
def serve (options : Options) (labels : TextMap) (target : Target) : Step Nat := do
  (options.installPolicy.unreadableLabel labels).forM fun value => report (.unreadableLabel value)
  let installFailed ←
    if options.installPolicy.selects labels then do
      let first ← install options target options.loadBalancer .install
      let second ← install options target options.cloudProvider .installSecondary
      pure [first, second]
    else pure []
  let publishFailed ← publish options target
  return (installFailed ++ [publishFailed]).count true

def visit (options : Options) (store : Store) (record : FloatingRecord) : Step Visit := do
  let fallback := ((store.range? record.range).bind (·.provider)).getD ""
  match ← step (.getCluster record.cluster) with
  | .error error =>
    markDown record.cluster fallback (.lookupFailed record.cluster error)
    return .done 1
  | .ok none => return .orphaned
  | .ok (some cluster) =>
    if !cluster.owns record.key.ns then return .orphaned
    let name : Except GuestError (Option String) ← step (.providerName cluster)
    let provider := (name.toOption.join).getD fallback
    match ← step (.getKubeconfig record.cluster) with
    | .error error =>
      markDown record.cluster provider (.kubeconfigFailed record.cluster error)
      return .done 1
    | .ok kubeconfig =>
      let target : Target := { record, provider, kubeconfig }
      match ← probe target with
      | .error failed => return .done failed
      | .ok () => return .done (← serve options cluster.labels target)

/-- What came of a sweep. -/
structure Report where
  visited : Nat := 0
  orphaned : Nat := 0
  /-- How many steps failed, at all guest clusters together. -/
  failed : Nat := 0
deriving DecidableEq, Repr

def Report.add (r : Report) : Visit → Report
  | .orphaned => { r with visited := r.visited + 1, orphaned := r.orphaned + 1 }
  | .done failed => { r with visited := r.visited + 1, failed := r.failed + failed }

/-- Visit the guest clusters of records, one after the other. -/
def visitAll (options : Options) (store : Store) (report : Report) :
    List FloatingRecord → Step Report
  | [] => return report
  | record :: records => do
    let v ← visit options store record
    visitAll options store (report.add v) records

/-- Write the records and ranges to the log. -/
def traceStore (store : Store) : Step Unit := do
  store.floatings.forM fun record => report (.floatingTrace record)
  store.ranges.forM fun range => do
    let (capacity, held) ← step (.holdings range.name)
    report (.rangeTrace range capacity.toNat held)

/-- Sweep over the records of a store. -/
def sweep (options : Options) (store : Store) : Step Report := do
  step (.sweeping true)
  let report ← visitAll options store {} store.floatings
  if options.traceInventory then traceStore store
  step (.sweeping false)
  return report

end FloatingAddress.Sweep
