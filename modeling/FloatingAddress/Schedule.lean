import FloatingAddress.Clock

/-!
# The two duties and their timers

Two duties are carried out again and again: the sweep over all guest clusters, and the removal of
stale series. Each has a timer of its own. A timer comes due one period after it was started, and
then one period after it was due before; if the run that it starts begins too late, because the
run before took so long, the next one is due a full period after this beginning. Runs of one duty
never overlap, and a run that has begun is completed.

Changing the period means to stop both timers, first that of the sweep, and to start two new
ones. Stopping waits for a run in progress, and the clock goes on meanwhile.
-/

namespace FloatingAddress

/-- What is done periodically. -/
inductive Duty
  | sweep | cleanup
deriving DecidableEq, Repr

def Duty.name : Duty → String
  | sweep => "sweep"
  | cleanup => "cleanup"

namespace Schedule

/-- A run of a duty begins or ends. -/
inductive Phase
  | start | finish
deriving DecidableEq, Repr

/-- Something that happens to a duty. -/
structure Event where
  time : Instant
  duty : Duty
  phase : Phase
deriving DecidableEq, Repr

/-- How long a run of a duty takes that begins at an instant. -/
abbrev Work := Duty → Instant → Duration

structure Timer where
  duty : Duty
  period : Duration
  /-- When the next run is due. -/
  due : Instant
  /-- Since when no run is in progress, or until when one is. -/
  free : Instant
  /-- Whether a run is in progress. -/
  busy : Bool := false
deriving DecidableEq, Repr

namespace Timer

/-- A run that begins later than this after it was due shifts all later ones. -/
def tolerance : Duration := .ofMillis 5

/-- Start the timer of a duty. A period of no length, or a first deadline that the clock cannot
name, gives no timer. -/
def start? (duty : Duty) (now : Instant) (period : Duration) : Option Timer :=
  let due := now.after period
  if period.nanos = 0 || !due.isRepresentable then none
  else some { duty, period, due, free := now }

/-- When the next thing happens: the end of the run in progress, or the beginning of the next. -/
def nextTime (t : Timer) : Instant :=
  if t.busy then t.free else ⟨max t.free.nanos t.due.ceilMilli.nanos⟩

/-- When the run after the one that begins at `now` is due. -/
def dueAfter (t : Timer) (now : Instant) : Instant :=
  if (t.due.after tolerance).nanos < now.nanos then now.after t.period else t.due.after t.period

/-- The next thing that happens, and the timer after it. -/
def next (work : Work) (t : Timer) : Event × Timer :=
  let time := t.nextTime
  if t.busy then (⟨time, t.duty, .finish⟩, { t with busy := false })
  else
    (⟨time, t.duty, .start⟩,
      { t with busy := true, due := t.dueAfter time, free := time.after (work t.duty time) })

/-- A bound on how many things can happen up to an instant. Every run moves the due time by at
least one period. -/
def room (limit : Instant) (t : Timer) : Nat :=
  2 * ((limit.nanos - t.due.nanos) / t.period.nanos + 2)

end Timer

end Schedule

open Schedule in
/-- The timers of both duties. -/
structure Schedule where
  /-- The period of the sweep. -/
  period : Duration
  sweep : Option Timer
  cleanup : Option Timer
deriving DecidableEq, Repr

namespace Schedule

def start (now : Instant) (period : Duration) : Schedule where
  period := period
  sweep := Timer.start? .sweep now period
  cleanup := Timer.start? .cleanup now period.cleanupPeriod

def timer (s : Schedule) : Duty → Option Timer
  | .sweep => s.sweep
  | .cleanup => s.cleanup

/-- Put a timer in the place of that of its duty. -/
def withTimer (s : Schedule) (t : Timer) : Schedule :=
  match t.duty with
  | .sweep => { s with sweep := some t }
  | .cleanup => { s with cleanup := some t }

/-- The timer at which the next thing happens; at one instant the cleanup comes first. -/
def nextTimer (s : Schedule) : Option Timer :=
  match s.sweep, s.cleanup with
  | none, other => other
  | some sweep, none => some sweep
  | some sweep, some cleanup =>
    if sweep.nextTime.nanos < cleanup.nextTime.nanos then some sweep else some cleanup

/-- The next thing that happens, if it happens up to an instant, and the timers after it. -/
def next? (work : Work) (limit : Instant) (s : Schedule) : Option (Event × Schedule) :=
  match s.nextTimer with
  | none => none
  | some t =>
    if limit.nanos < t.nextTime.nanos then none
    else
      let (event, t) := t.next work
      some (event, s.withTimer t)

/-- A bound on how many things can happen up to an instant. -/
def room (limit : Instant) (s : Schedule) : Nat :=
  (s.sweep.map (Timer.room limit)).getD 0 + (s.cleanup.map (Timer.room limit)).getD 0

/-- The things that happen up to an instant, at most as many as there is room for, the latest one
first. -/
def eventsUntil (work : Work) (limit : Instant) (past : List Event) :
    Nat → Schedule → List Event × Schedule
  | 0, s => (past, s)
  | room + 1, s =>
    match s.next? work limit with
    | none => (past, s)
    | some (event, s) => eventsUntil work limit (event :: past) room s

/-- Let time pass up to and including an instant. -/
def advance (work : Work) (limit : Instant) (s : Schedule) : List Event × Schedule :=
  let (past, s) := eventsUntil work limit [] (s.room limit) s
  (past.reverse, s)

/-- Stop the timer of a duty at an instant. A run in progress is waited for, while the other timer
goes on. -/
def stopTimer (work : Work) (duty : Duty) (now : Instant) (s : Schedule) :
    Instant × List Event × Schedule :=
  let removed (s : Schedule) : Schedule :=
    match duty with
    | .sweep => { s with sweep := none }
    | .cleanup => { s with cleanup := none }
  match s.timer duty with
  | none => (now, [], s)
  | some t =>
    if t.busy then
      let (events, others) := (removed s).advance work t.free
      (t.free, events ++ [⟨t.free, duty, .finish⟩], others)
    else (now, [], removed s)

/-- Stop both timers, that of the sweep first. -/
def stop (work : Work) (now : Instant) (s : Schedule) : Instant × List Event :=
  let (now, first, s) := s.stopTimer work .sweep now
  let (now, second, _) := s.stopTimer work .cleanup now
  (now, first ++ second)

end Schedule

open Schedule in
/-- A clock and the schedule that it drives, if the duties have been started. -/
structure Timetable where
  now : Instant := .start
  schedule : Option Schedule := none
deriving DecidableEq, Repr

namespace Timetable

open Schedule

def period (t : Timetable) : Option Duration := t.schedule.map (·.period)

def advance (work : Work) (d : Duration) (t : Timetable) : List Event × Timetable :=
  let limit := t.now.after d
  match t.schedule with
  | none => ([], { t with now := limit })
  | some s =>
    let (events, s) := s.advance work limit
    (events, { now := limit, schedule := some s })

def shutdown (work : Work) (t : Timetable) : List Event × Timetable :=
  match t.schedule with
  | none => ([], t)
  | some s =>
    let (now, events) := s.stop work t.now
    (events, { now, schedule := none })

/-- Carry out the duties with a period. If they are carried out with it already, nothing changes;
otherwise they are stopped and started again. Tells whether anything changed. -/
def reschedule (work : Work) (period : Duration) (t : Timetable) :
    Bool × List Event × Timetable :=
  if t.period = some period then (false, [], t)
  else
    let (events, t) := t.shutdown work
    (true, events, { t with schedule := some (Schedule.start t.now period) })

end Timetable

end FloatingAddress
