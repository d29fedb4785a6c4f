import FloatingAddress.Options
import FloatingAddress.Reconcile
import FloatingAddress.Schedule
import Std.Data.ExtTreeSet

/-!
# The state of the operator

Handlers, the sweep and the discovery share one state: the inventory, the metrics, the options,
the timers, the namespaces that discovery has dealt with, and the log. Questions about this state
are answered here; only what has to be asked outside is left to the caller.
-/

namespace FloatingAddress

/-- Everything that the operator remembers. -/
structure Operator where
  inventory : Inventory := {}
  metrics : Metrics := {}
  options : Options := Options.defaults
  /-- From which level on messages are shown. -/
  filter : LogFilter := Options.defaults.logFilter
  timetable : Timetable := {}
  /-- The namespaces that discovery has dealt with. -/
  seen : Std.ExtTreeSet String := ∅
  /-- What has been reported, the latest last. -/
  log : Array Notice := #[]

namespace Operator

def report (op : Operator) (notice : Notice) : Operator := { op with log := op.log.push notice }

def measure (op : Operator) (update : Metrics.Update) : Operator :=
  { op with metrics := op.metrics.apply update }

/-- Carry out an operation on the inventory. If it fails, the inventory stays as it is. -/
def onInventory (f : Inventory → Except ε (α × Inventory)) (wrap : ε → OperatorError)
    (op : Operator) : Except OperatorError α × Operator :=
  match f op.inventory with
  | .error error => (.error (wrap error), op)
  | .ok (a, inventory) => (.ok a, { op with inventory })

/-- Answer a question of a handler. Addresses are written back by `persist`. -/
def answer {m : Type → Type} [Monad m]
    (persist : RecordKey → Ipv4 → m (Except OperatorError Unit)) :
    (c : Reconcile.Call) → StateT Operator m (Reconcile.Answer c)
  | .range name => return (← get).inventory.range? name
  | .floating key => return (← get).inventory.floating? key
  | .createRange record => modifyGet (onInventory (·.createRange record) .allocation)
  | .deleteRange name => modifyGet (onInventory (·.deleteRange name) id)
  | .claim record => modifyGet (onInventory (·.claim record) .allocation)
  | .rollback key => modify fun op => { op with inventory := op.inventory.rollback key }
  | .release key => modifyGet (onInventory (·.release key) .store)
  | .persist key address => liftM (persist key address)
  | .measure update => modify (·.measure update)
  | .report notice => modify (·.report notice)

/-- Carry out the dialogue of a handler without interruption. -/
def perform {m : Type → Type} [Monad m]
    (persist : RecordKey → Ipv4 → m (Except OperatorError Unit)) (d : Reconcile.Step α) :
    StateT Operator m α :=
  d.run (answer persist)

/-- The log filter follows the level of the options. The change itself is reported as far as the
new filter shows it. -/
def followLevel (old new : Options) (op : Operator) : Operator :=
  if old.logLevel = new.logLevel then op
  else
    let notice := Notice.levelSet (.ofOption new.logLevel)
    let op := { op with filter := new.logFilter }
    if op.filter.shows notice.level then op.report notice else op

/-- The timers follow the interval of the options. They are left alone if it stays the same. -/
def followInterval (work : Schedule.Work) (old new : Options) (op : Operator) :
    List Schedule.Event × Operator :=
  if old.sweepInterval = new.sweepInterval then ([], op)
  else
    let (_, events, timetable) := op.timetable.reschedule work new.sweepInterval
    (events, { op with timetable })

/-- The port of the metrics is bound once; a change is only reported. -/
def followPort (old new : Options) (op : Operator) : Operator :=
  if old.metricsPort = new.metricsPort then op
  else op.report (.portChanged old.metricsPort new.metricsPort)

def reload (work : Schedule.Work) (new : Options) (op : Operator) :
    List Schedule.Event × Operator :=
  let old := op.options
  let op := { op with options := new }
  if old = new then ([], op)
  else
    let op := op.followLevel old new
    let (events, op) := op.followInterval work old new
    (events, op.followPort old new)

end Operator

end FloatingAddress
