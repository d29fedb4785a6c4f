import FloatingAddress.InMemory.Surroundings
import FloatingAddress.Operator
import FloatingAddress.Watch

/-!
# The operator in its surroundings, on a clock of its own

A site is an operator together with surroundings in memory. Time passes only when it is told to,
and then everything that comes due happens in order: sweeps, the removal of stale series, and the
searches for new guest clusters that were waiting. Nothing that is done at the site takes time by
itself.
-/

namespace FloatingAddress.InMemory

/-- A search for a new guest cluster that is waiting. -/
structure Waiting where
  due : Instant
  rest : Discovery.Step Unit

/-- An operator, its surroundings, and what is going on. -/
structure Site where
  operator : Operator := {}
  surroundings : Surroundings := {}
  /-- How long the search for a new guest cluster waits. -/
  settleDelay : Duration := Discovery.settleDelay
  /-- The searches that are waiting, in the order in which they began. -/
  waiting : List Waiting := []
  /-- Since the watches were started: when their deliveries begin to count. -/
  gate : Option Watch.Gate := none
  settings : Settings := {}

namespace Site

/-- A site whose operator starts with given options. -/
def withOptions (options : Options) (settleDelay : Duration) : Site where
  operator := { options, filter := options.logFilter }
  settleDelay := settleDelay

abbrev Act := StateM Site

def now (site : Site) : Instant := site.operator.timetable.now

/-- Runs take no time. -/
def work : Schedule.Work := fun _ _ => ⟨0⟩

/-- Ask the surroundings. -/
def outside (f : Surroundings → α × Surroundings) : Act α :=
  modifyGet fun site =>
    let (a, surroundings) := f site.surroundings
    (a, { site with surroundings })

/-- Ask the operator. -/
def inside (f : Operator → α × Operator) : Act α :=
  modifyGet fun site =>
    let (a, operator) := f site.operator
    (a, { site with operator })

/-- Change the state of the operator. -/
def change (f : Operator → Operator) : Act Unit := inside fun op => ((), f op)

def reconcile (d : Reconcile.Step α) : Act α :=
  modifyGet fun site =>
    let persist (key : RecordKey) (address : Ipv4) :
        StateM Surroundings (Except OperatorError Unit) := Surroundings.persist key address
    let ((a, operator), surroundings) :=
      ((Operator.perform persist d).run site.operator).run site.surroundings |>.run
    (a, { site with operator, surroundings })

/-- Answer a question of the sweep. -/
def answerSweep : (c : Sweep.Call) → Act (Sweep.Answer c)
  | .sweeping on => change fun op =>
      { op with metrics := if on then op.metrics.beginSweep else op.metrics.endSweep }
  | .getCluster name => outside fun s => (s.registry.get name, s)
  | .providerName cluster => outside (·.providerName cluster)
  | .getKubeconfig cluster => outside fun s => (s.registry.kubeconfig cluster, s)
  | .probe k => outside fun s => s.withGuests (s.guests.probe k.cluster)
  | .getConfigMap k ns name => outside (·.getConfigMap { cluster := k.cluster, ns, name })
  | .createConfigMap k m => outside fun s => s.withGuests (s.guests.write .create k.cluster m)
  | .replaceConfigMap k m => outside fun s => s.withGuests (s.guests.write .replace k.cluster m)
  | .releaseExists k ns name => outside (·.releaseExists { cluster := k.cluster, ns, name })
  | .install k chart => outside (·.install k.cluster chart)
  | .holdings range => inside fun op =>
      (((op.inventory.allocator.capacity range).getD 0, op.inventory.allocated range), op)
  | .measure update => change (·.measure update)
  | .report notice => change (·.report notice)

def sweep : Act Sweep.Report := do
  let op := (← get).operator
  (Sweep.sweep op.options op.inventory.store).run answerSweep

/-- Remove stale series. The result is the number of guest clusters, unless it was skipped. -/
def cleanup : Act (Option Nat) := inside fun op =>
  (op.metrics.cleanup.map (·.1), { op with metrics := op.metrics.cleaned })

def perform : Duty → Act Unit
  | .sweep => discard sweep
  | .cleanup => discard cleanup

/-- Answer a question of discovery, except that it waits. -/
def answerDiscovery : (c : Discovery.Call) → Act (Discovery.Answer c)
  | .markSeen ns => inside fun op => (!op.seen.contains ns, { op with seen := op.seen.insert ns })
  | .forget ns => change fun op => { op with seen := op.seen.erase ns }
  | .settle => return
  | .findCluster ns => outside fun s => ((s.registry.find ns).mapError .guest, s)
  | .providerName cluster => outside fun s => Surroundings.asOperator (s.providerName cluster)
  | .networkName cluster => outside fun s => Surroundings.asOperator (s.networkName cluster)
  | .isServed ns => outside (·.isServed ns)
  | .ranges => inside fun op => (op.inventory.store.ranges, op)
  | .create m => outside (·.create m)
  | .report notice => change (·.report notice)

/-- Carry out a search until it waits; then the rest of it is the result. -/
def untilWaiting : Discovery.Step α → Act (Except (Discovery.Step α) α)
  | .done result => return .ok result
  | .ask .settle next => return .error (next ())
  | .ask c next => do untilWaiting (next (← answerDiscovery c))

/-- Begin to deal with the notification of a namespace. -/
def startDiscovery (ns : String) : Act Unit := do
  match ← untilWaiting (Discovery.handleReporting ns) with
  | .ok () => return
  | .error rest => modify fun site =>
      { site with waiting := site.waiting ++ [{ due := site.now.after site.settleDelay, rest }] }

/-- The search that is due first. -/
def firstWaiting : List Waiting → Option (Waiting × List Waiting)
  | [] => none
  | w :: rest =>
    match firstWaiting rest with
    | none => some (w, rest)
    | some (other, others) =>
      if other.due.nanos < w.due.nanos then some (other, w :: others) else some (w, rest)

def setClock (time : Instant) : Act Unit :=
  change fun op => { op with timetable := { op.timetable with now := time } }

inductive Due
  | timer (event : Schedule.Event) (schedule : Schedule)
  | search (w : Waiting) (others : List Waiting)

def Due.time : Due → Instant
  | timer event _ => event.time
  | search w _ => w.due

/-- What comes due next, up to an instant; of two things at one instant the search comes first. -/
def nextDue? (limit : Instant) (site : Site) : Option Due :=
  let timer := (site.operator.timetable.schedule.bind (·.next? work limit)).map
    fun (event, schedule) => Due.timer event schedule
  let search := ((firstWaiting site.waiting).filter (·.1.due.nanos ≤ limit.nanos)).map
    fun (w, others) => Due.search w others
  match search, timer with
  | none, other => other
  | some s, none => some s
  | some s, some t => if t.time.nanos < s.time.nanos then some t else some s

/-- Let something happen that comes due. -/
def happen : Due → Act Unit
  | .timer event schedule => do
    setClock event.time
    change fun op => { op with timetable := { op.timetable with schedule := some schedule } }
    if event.phase = .start then perform event.duty
  | .search w others => do
    setClock ⟨max (← get).now.nanos w.due.nanos⟩
    modify fun site => { site with waiting := others }
    w.rest.run answerDiscovery

/-- Let at most so many things happen that come due up to an instant. -/
def settleUntil (limit : Instant) : Nat → Act Unit
  | 0 => return
  | room + 1 => do
    match nextDue? limit (← get) with
    | none => return
    | some due =>
      happen due
      settleUntil limit room

/-- Let time pass up to and including an instant. -/
def advanceTo (limit : Instant) : Act Unit := do
  let site ← get
  let timers := (site.operator.timetable.schedule.map (Schedule.room limit)).getD 0
  settleUntil limit (timers + site.waiting.length)
  setClock limit

def advance (d : Duration) : Act Unit := do advanceTo ((← get).now.after d)

/-- Let everything happen that needs no time. -/
def settle : Act Unit := advance ⟨0⟩

/-- Deal with the notification of a namespace and wait for the result. -/
def discover (ns : String) : Act (Except OperatorError Discovery.Result) := do
  match ← untilWaiting (Discovery.handle ns) with
  | .ok result => return result
  | .error rest =>
    advance (← get).settleDelay
    rest.run answerDiscovery

def reload (options : Options) : Act Unit := change fun op => (op.reload work options).2

/-- Start the duties at the interval of the options. Tells whether anything changed. -/
def start : Act Bool := inside fun op =>
  let (changed, _, timetable) := op.timetable.reschedule work op.options.sweepInterval
  (changed, { op with timetable })

def stop : Act Unit := change fun op => { op with timetable := (op.timetable.shutdown work).2 }

def report (notice : Notice) : Act Unit := change (·.report notice)

/-- A delivery of one of the watches. -/
inductive Delivery
  | range (d : Watch.Delivery Manifest.Range)
  | floating (d : Watch.Delivery Manifest.Floating)
  | ofNamespace (d : Watch.Delivery Manifest.Namespace)
  | options (d : Watch.Delivery Manifest.ConfigMap)

/-- Take in a delivery of a watch, if deliveries count. -/
def deliver (gate : Watch.Gate) (delivery : Delivery) : Act Unit := do
  let site ← get
  match delivery with
  | .range d => ((Watch.counted? gate site.now d).map Watch.followRange).forM reconcile
  | .floating d => ((Watch.counted? gate site.now d).map Watch.followFloating).forM reconcile
  | .ofNamespace d =>
    ((Watch.counted? gate site.now d).bind Watch.noticedNamespace?).forM startDiscovery
  | .options d =>
    match Watch.counted? gate site.now d with
    | none => return
    | some c =>
      let (notices, options) := Watch.newOptions site.settings c
      notices.forM report
      reload options

/-- After this time a broken watch has connected again. -/
def reconnectDelay : Duration := .ofMillis 800

/-- How long it takes until a watch that broke is certain to deliver again. -/
def reconnectLimit : Duration := .ofSeconds 60

/-- Start the watches; what they find is delivered at once. -/
def startWatching (window : Duration) (found : List Delivery) : Act Unit := do
  let gate := Watch.Gate.openingAfter (← get).now window
  modify fun site => { site with gate := some gate }
  found.forM (deliver gate)

/-- Let a watch break, connect again and list its objects. -/
def relist (gate : Watch.Gate) (kind : WatchKind) (found : List Delivery) : Act Unit := do
  let limit := (← get).now.after reconnectLimit
  report (.watchError kind)
  advance reconnectDelay
  found.forM (deliver gate)
  advanceTo limit

end Site

end FloatingAddress.InMemory
