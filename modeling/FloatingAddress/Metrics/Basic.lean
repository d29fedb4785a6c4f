import FloatingAddress.Metrics.Family
import FloatingAddress.Record
import Std.Data.ExtTreeSet

/-!
# Metrics of ranges and guest clusters

Two gauges tell how many addresses a range has and how many of them are held. A third tells
whether a guest cluster was reachable, and a counter counts what was done to it, by step and
outcome.

The series of a guest cluster are not dropped at once when its floating address goes away. The
cluster is queued, and a later cleanup drops its series under every provider label with which
they were ever written. Since the series themselves cannot be searched for a cluster, these
provider labels are kept beside them. No cleanup happens while a sweep is writing.
-/

namespace FloatingAddress

namespace Metrics

/-- A step of a visit to a guest cluster. -/
inductive Event
  | connectivity | install | installSecondary | configReconcile
deriving DecidableEq, Repr

namespace Event

def all : List Event := [connectivity, install, installSecondary, configReconcile]

def label : Event → String
  | connectivity => "connectivity"
  | install => "install"
  | installSecondary => "install-secondary"
  | configReconcile => "config-reconcile"

def ofLabel? (s : String) : Option Event := all.find? (·.label = s)

end Event

/-- How a step of a visit ended. -/
inductive Outcome
  | success | error
deriving DecidableEq, Repr

namespace Outcome

def all : List Outcome := [success, error]

def label : Outcome → String
  | success => "success"
  | error => "error"

def ofLabel? (s : String) : Option Outcome := all.find? (·.label = s)

end Outcome

end Metrics

open Metrics in
/-- All series, and what is needed to drop those of guest clusters. -/
structure Metrics where
  capacity : Family Int64 := {}
  reserved : Family Int64 := {}
  status : Family Int64 := {}
  events : Family Nat := {}
  /-- The provider labels under which series of a guest cluster were written. -/
  providers : Std.ExtTreeMap String (Std.ExtTreeSet String) := ∅
  /-- The guest clusters whose series are to be dropped. -/
  queue : Std.ExtTreeSet String := ∅
  /-- Whether a sweep is writing. -/
  sweeping : Bool := false

namespace Metrics

def empty : Metrics := {}

def rangeLabels (range : RangeRecord) : List String :=
  [range.name, range.cidr, range.provider.getD "", range.network.getD ""]

/-- The label values of an event of a guest cluster. -/
def eventLabels (cluster provider : String) (event : Event) (outcome : Outcome) : List String :=
  [cluster, provider, event.label, outcome.label]

/-- A count as a gauge shows it; a count beyond the largest reading is shown as that. -/
def gaugeOfCount (n : Nat) : Int64 :=
  if n < 1 <<< 63 then Int64.ofNat n else Int64.maxValue

/-- A change of the metrics. -/
inductive Update
  /-- A range was created. -/
  | rangeUsage (range : RangeRecord) (capacity : UInt32) (reserved : Nat)
  | reservedUp (range : RangeRecord)
  | reservedDown (range : RangeRecord)
  | rangeRemoved (range : RangeRecord)
  /-- A guest cluster was visited and is up or down. -/
  | guestStatus (cluster provider : String) (up : Bool)
  | guestEvent (cluster provider : String) (event : Event) (outcome : Outcome)
  /-- The series of a guest cluster are to be dropped. -/
  | queueCleanup (cluster : String)
deriving DecidableEq, Repr

/-- Remember the provider label under which a series of a guest cluster is written. -/
def track (m : Metrics) (cluster provider : String) : Metrics :=
  let known := (m.providers[cluster]?).getD ∅
  { m with providers := m.providers.insert cluster (known.insert provider) }

def apply (m : Metrics) : Update → Metrics
  | .rangeUsage range capacity reserved =>
    { m with
      capacity := m.capacity.set (rangeLabels range) (gaugeOfCount capacity.toNat)
      reserved := m.reserved.set (rangeLabels range) (gaugeOfCount reserved) }
  | .reservedUp range =>
    { m with reserved := m.reserved.update (rangeLabels range) 0 (· + 1) }
  | .reservedDown range =>
    { m with reserved := m.reserved.update (rangeLabels range) 0 (· - 1) }
  | .rangeRemoved range =>
    { m with
      capacity := m.capacity.remove (rangeLabels range)
      reserved := m.reserved.remove (rangeLabels range) }
  | .guestStatus cluster provider up =>
    let m := m.track cluster provider
    { m with status := m.status.set [cluster, provider] (if up then 1 else 0) }
  | .guestEvent cluster provider event outcome =>
    let m := m.track cluster provider
    { m with events := m.events.update (eventLabels cluster provider event outcome) 0 (· + 1) }
  | .queueCleanup cluster => { m with queue := m.queue.insert cluster }

/-- How many guest clusters are queued. -/
def pending (m : Metrics) : Nat := m.queue.size

/-- Drop the series of a guest cluster under one provider label. -/
def dropProvider (cluster : String) (m : Metrics) (provider : String) : Metrics :=
  { m with
    status := m.status.remove [cluster, provider]
    events := Event.all.foldl (fun events event =>
      Outcome.all.foldl (fun events outcome =>
        events.remove (eventLabels cluster provider event outcome)) events) m.events }

/-- Drop the series of a guest cluster under every provider label, and forget these labels. -/
def dropCluster (m : Metrics) (cluster : String) : Metrics :=
  let known := (m.providers[cluster]?).getD ∅
  let m := known.toList.foldl (dropProvider cluster) m
  { m with providers := m.providers.erase cluster }

/-- Drop the series of all queued guest clusters and tell how many clusters these were. Nothing
is done while a sweep is writing. -/
def cleanup (m : Metrics) : Option (Nat × Metrics) :=
  if m.sweeping then none
  else some (m.queue.size, { m.queue.toList.foldl dropCluster m with queue := ∅ })

/-- The metrics after a cleanup that may be skipped. -/
def cleaned (m : Metrics) : Metrics :=
  match m.cleanup with
  | none => m
  | some (_, m) => m

/-- Mark that a sweep is writing. -/
def beginSweep (m : Metrics) : Metrics := { m with sweeping := true }

def endSweep (m : Metrics) : Metrics := { m with sweeping := false }

/-- What may be shown of the metrics in a log. -/
def description (m : Metrics) : String := "Metrics \x7b sweeping: " ++ toString m.sweeping ++ ", .. \x7d"

end Metrics

end FloatingAddress
