import FloatingAddress.Proofs.Schedule.Supervision

/-!
# The timetable is one way in which the loops go

The timetable knows the timers of the present only, and it carries a call out at once, together with
everything that happens while the call waits. What it tells is one of the histories that the loops
can have: to each of its events belongs a move of a loop, and to each call the moves of its caller.
So all that is promised of the loops holds of the timetable.
-/

namespace FloatingAddress

namespace Schedule

open Supervisor

/-- What is seen of an event. -/
def Event.happening (event : Event) : Happening :=
  match event.phase with
  | .start => .started event.duty
  | .finish => .finished event.duty

/-- The loop of a timer that was not told to stop. -/
def Timer.loop (t : Timer) : Loop :=
  { duty := t.duty, stage := if t.busy then .running else .waiting }

/-- The loop of a duty that has no timer. -/
def Loop.dead (duty : Duty) : Loop := { duty, stage := .ended }

/-- The schedule without the timer of a duty. -/
def without (s : Schedule) : Duty → Schedule
  | .sweep => { s with sweep := none }
  | .cleanup => { s with cleanup := none }

/-- The loops of a pair are where the timers of a schedule are. A duty that has no timer may have
some other loop. -/
structure Mirrors (pair : Pair) (others : Duty → Loop) (s : Schedule) (loops : List Loop) :
    Prop where
  found : ∀ duty, loops[pair.place duty]? =
    some (((s.timer duty).map Timer.loop).getD (others duty))
  timer : ∀ duty t, s.timer duty = some t → t.duty = duty
  other : ∀ duty, (others duty).duty = duty

variable {pair : Pair} {others : Duty → Loop} {s s' s'' : Schedule} {loops : List Loop}
  {duty : Duty} {control : Control} {work : Work} {limit : Instant}

theorem timer_without (d : Duty) :
    (s.without duty).timer d = if duty = d then none else s.timer d := by
  cases duty <;> cases d <;> rfl

theorem without_of_none (gone : s.timer duty = none) : s.without duty = s := by
  obtain ⟨period, sweep, cleanup⟩ := s
  cases duty <;> cases gone <;> rfl

theorem timer_withTimer (t : Timer) (d : Duty) :
    (s.withTimer t).timer d = if t.duty = d then some t else s.timer d := by
  obtain ⟨duty, period, due, free, busy⟩ := t
  cases duty <;> cases d <;> rfl

theorem period_withTimer (t : Timer) : (s.withTimer t).period = s.period := by
  unfold withTimer
  split <;> rfl

/-- The next timer is the timer of some duty. -/
theorem timer_of_nextTimer {t : Timer} (h : s.nextTimer = some t) :
    ∃ duty, s.timer duty = some t := by
  unfold nextTimer at h
  split at h
  next nothing => exact ⟨.cleanup, h⟩
  next sweep there nothing => exact ⟨.sweep, there.trans h⟩
  next sweep cleanup there there' =>
    split at h
    · exact ⟨.sweep, there.trans h⟩
    · exact ⟨.cleanup, there'.trans h⟩

theorem stopTimer_eq (now : Instant) : s.stopTimer work duty now =
    match s.timer duty with
    | none => (now, [], s)
    | some t =>
      if t.busy then
        (t.free, ((s.without duty).advance work t.free).1 ++ [⟨t.free, duty, .finish⟩],
          ((s.without duty).advance work t.free).2)
      else (now, [], s.without duty) := by
  cases duty <;> rfl

namespace Mirrors

theorem duty_eq (mirrors : Mirrors pair others s loops) (duty : Duty) :
    (((s.timer duty).map Timer.loop).getD (others duty)).duty = duty := by
  cases known : s.timer duty with
  | none => exact mirrors.other duty
  | some t => exact mirrors.timer duty t known

/-- The loops of the two duties are different ones. -/
theorem place_ne (mirrors : Mirrors pair others s loops) {d d' : Duty} (different : d ≠ d') :
    pair.place d ≠ pair.place d' := by
  intro same
  have one := mirrors.found d
  rw [same, mirrors.found d', Option.some.injEq] at one
  exact different ((mirrors.duty_eq d).symm.trans ((congrArg Loop.duty one).symm.trans
    (mirrors.duty_eq d')))

/-- The timer of a duty goes on, and its loop goes with it. -/
theorem withTimer (mirrors : Mirrors pair others s loops) {t t' : Timer}
    (known : s.timer duty = some t) (same : t'.duty = t.duty) :
    Mirrors pair others (s.withTimer t') (loops.set (pair.place duty) t'.loop) := by
  have own := same.trans (mirrors.timer duty t known)
  constructor
  case found =>
    intro d
    rw [getElem?_set_of_some (mirrors.found duty), timer_withTimer, own]
    by_cases hit : duty = d
    · subst hit
      simp
    · rw [if_neg hit, if_neg (mirrors.place_ne hit), mirrors.found d]
  case timer =>
    intro d u there
    rw [timer_withTimer] at there
    split at there
    next hit =>
      cases there
      exact hit
    · exact mirrors.timer d u there
  case other => exact mirrors.other

/-- The loop of a duty that has no timer may be replaced. -/
theorem set (mirrors : Mirrors pair others s loops) (gone : s.timer duty = none) (loop : Loop)
    (own : loop.duty = duty) :
    Mirrors pair (Function.update others duty loop) s (loops.set (pair.place duty) loop) := by
  constructor
  case found =>
    intro d
    rw [getElem?_set_of_some (mirrors.found duty)]
    by_cases hit : d = duty
    · subst hit
      simp [gone]
    · rw [if_neg (mirrors.place_ne (Ne.symm hit)), mirrors.found d, Function.update_of_ne hit]
  case timer => exact mirrors.timer
  case other =>
    intro d
    by_cases hit : d = duty
    · rw [hit, Function.update_self, own]
    · rw [Function.update_of_ne hit, mirrors.other]

/-- A loop that is told to stop has no timer any more. -/
theorem tell (mirrors : Mirrors pair others s loops) (duty : Duty) :
    Mirrors pair (Function.update others duty
        { ((s.timer duty).map Timer.loop).getD (others duty) with told := true })
      (s.without duty) (Supervisor.tell (pair.place duty) loops) := by
  constructor
  case found =>
    intro d
    rw [getElem?_tell, mirrors.found d, timer_without, Option.map_some]
    by_cases hit : d = duty
    · subst hit
      simp
    · rw [if_neg (Ne.symm hit), if_neg (mirrors.place_ne (Ne.symm hit)),
        Function.update_of_ne hit]
  case timer =>
    intro d t there
    rw [timer_without] at there
    split at there
    · cases there
    · exact mirrors.timer d t there
  case other =>
    intro d
    by_cases hit : d = duty
    · rw [hit, Function.update_self]
      exact mirrors.duty_eq duty
    · rw [Function.update_of_ne hit, mirrors.other]

end Mirrors

/-- From one schedule to another something happens, and the loops go with it. The period stays, and
no timer comes in. -/
def Accompanied (pair : Pair) (others : Duty → Loop) (control : Control) (s : Schedule)
    (events : List Event) (s' : Schedule) : Prop :=
  s'.period = s.period ∧ ∀ loops, Mirrors pair others s loops → ∃ loops',
    Goes ⟨loops, control⟩ (events.map Event.happening) ⟨loops', control⟩ ∧
      Mirrors pair others s' loops' ∧ ∀ duty, s.timer duty = none → s'.timer duty = none

namespace Accompanied

theorem refl : Accompanied pair others control s [] s :=
  ⟨rfl, fun loops mirrors => ⟨loops, .refl _, mirrors, fun _ gone => gone⟩⟩

theorem trans {first second : List Event} (one : Accompanied pair others control s first s')
    (two : Accompanied pair others control s' second s'') :
    Accompanied pair others control s (first ++ second) s'' := by
  refine ⟨two.1.trans one.1, fun loops mirrors => ?_⟩
  obtain ⟨loops', goes, mirrors', gone⟩ := one.2 loops mirrors
  obtain ⟨loops'', goes', mirrors'', gone'⟩ := two.2 loops' mirrors'
  refine ⟨loops'', ?_, mirrors'', fun duty nothing => gone' duty (gone duty nothing)⟩
  rw [List.map_append]
  exact goes.trans goes'

end Accompanied

theorem Timer.next_eq (work : Work) (t : Timer) :
    (t.next work).2.duty = t.duty ∧
      (t.next work).2.loop = ⟨t.duty, if t.busy then .waiting else .running, false⟩ ∧
      (t.next work).1.happening = if t.busy then .finished t.duty else .started t.duty := by
  unfold Timer.next Timer.loop Event.happening
  cases t.busy <;> simp

/-- What happens next at a timer are one or two moves of its loop. -/
theorem Timer.goes_next {t : Timer} {i : Nat} (found : loops[i]? = some t.loop) :
    Goes ⟨loops, control⟩ [(t.next work).1.happening]
      ⟨loops.set i (t.next work).2.loop, control⟩ := by
  obtain ⟨-, loop, happening⟩ := t.next_eq work
  rw [loop, happening]
  rw [Timer.loop] at found
  cases busy : t.busy with
  | true =>
    rw [busy] at found
    exact (Next.loop control found (.finish t.duty false)).goes
  | false =>
    rw [busy] at found
    have looked : (loops.set i ⟨t.duty, .looked, false⟩)[i]? = some ⟨t.duty, .looked, false⟩ := by
      rw [getElem?_set_of_some found, if_pos rfl]
    have goes := (Next.loop control found (.look t.duty)).goes.trans
      (Next.loop control looked (.start t.duty false)).goes
    rwa [List.set_set] at goes

theorem accompanied_next {event : Event} (h : s.next? work limit = some (event, s')) :
    Accompanied pair others control s [event] s' := by
  unfold next? at h
  split at h
  · cases h
  next t soonest =>
    split at h
    · cases h
    · obtain ⟨rfl, rfl⟩ : (t.next work).1 = event ∧ s.withTimer (t.next work).2 = s' :=
        Prod.mk.inj (Option.some.inj h)
      refine ⟨period_withTimer _, fun loops mirrors => ?_⟩
      obtain ⟨duty, known⟩ := timer_of_nextTimer soonest
      obtain ⟨same, -⟩ := t.next_eq work
      have found := mirrors.found duty
      rw [known] at found
      refine ⟨_, Timer.goes_next found, mirrors.withTimer known same, fun d gone => ?_⟩
      rw [timer_withTimer, same, mirrors.timer duty t known, if_neg, gone]
      rintro rfl
      rw [gone] at known
      cases known

theorem accompanied_eventsUntil (past : List Event) (room : Nat) :
    ∃ later, (eventsUntil work limit past room s).1 = later.reverse ++ past ∧
      Accompanied pair others control s later (eventsUntil work limit past room s).2 := by
  induction room generalizing past s with
  | zero => exact ⟨[], rfl, .refl⟩
  | succ room ih =>
    rw [eventsUntil]
    split
    · exact ⟨[], rfl, .refl⟩
    next event s' h =>
      obtain ⟨later, same, further⟩ := ih (event :: past) (s := s')
      exact ⟨event :: later, by simp [same], (accompanied_next h).trans further⟩

/-- Whatever happens up to an instant, the loops go with it. -/
theorem accompanied_advance (pair : Pair) (others : Duty → Loop) (control : Control) (work : Work)
    (limit : Instant) (s : Schedule) :
    Accompanied pair others control s (s.advance work limit).1 (s.advance work limit).2 := by
  obtain ⟨later, same, accompanied⟩ : ∃ later,
      (eventsUntil work limit [] (s.room limit) s).1 = later.reverse ++ [] ∧
        Accompanied pair others control s later (s.advance work limit).2 :=
    accompanied_eventsUntil [] (s.room limit)
  have events : (s.advance work limit).1 = later := by
    show (eventsUntil work limit [] (s.room limit) s).1.reverse = later
    rw [same, List.append_nil, List.reverse_reverse]
  rw [events]
  exact accompanied

theorem period_advance (work : Work) (limit : Instant) (s : Schedule) :
    (s.advance work limit).2.period = s.period :=
  (accompanied_advance ⟨s.period, 0, 1⟩ Loop.dead (.free none) work limit s).1

theorem goes_leave {i : Nat} (found : loops[i]? = some ⟨duty, .waiting, true⟩) :
    Goes ⟨loops, control⟩ [] ⟨loops.set i ⟨duty, .ended, true⟩, control⟩ :=
  (Next.loop control found (.leave duty)).goes

/-- A run in progress is completed first. -/
theorem goes_finish {i : Nat} (found : loops[i]? = some ⟨duty, .running, true⟩) :
    Goes ⟨loops, control⟩ [.finished duty] ⟨loops.set i ⟨duty, .ended, true⟩, control⟩ := by
  have waits : (loops.set i ⟨duty, .waiting, true⟩)[i]? = some ⟨duty, .waiting, true⟩ := by
    rw [getElem?_set_of_some found, if_pos rfl]
  have whole := (Next.loop control found (.finish duty true)).goes.trans (goes_leave waits)
  rwa [List.set_set] at whole

/-- One more loop has ended. -/
theorem ended_update (ended : ∀ d, (others d).stage = .ended) {loop : Loop}
    (here : loop.stage = .ended) : ∀ d, (Function.update others duty loop d).stage = .ended := by
  intro d
  by_cases hit : d = duty
  · rw [hit, Function.update_self, here]
  · rw [Function.update_of_ne hit, ended]

/-- The loop of a duty is told to stop, and its end is waited for. -/
theorem goes_stopTimer (control : Control) (work : Work) (mirrors : Mirrors pair others s loops)
    (ended : ∀ d, (others d).stage = .ended) (duty : Duty) (now : Instant) :
    ∃ others' loops',
      Goes ⟨Supervisor.tell (pair.place duty) loops, control⟩
        ((s.stopTimer work duty now).2.1.map Event.happening) ⟨loops', control⟩ ∧
      Mirrors pair others' (s.stopTimer work duty now).2.2 loops' ∧
      (s.stopTimer work duty now).2.2.timer duty = none ∧
      ∀ d, (others' d).stage = .ended := by
  have told := mirrors.tell duty
  rw [stopTimer_eq]
  cases known : s.timer duty with
  | none =>
    rw [known, without_of_none known] at told
    exact ⟨_, _, .refl _, told, known, ended_update ended (ended duty)⟩
  | some t =>
    have own := mirrors.timer duty t known
    have gone : (s.without duty).timer duty = none := by rw [timer_without, if_pos rfl]
    have ended' : ∀ d, (Function.update others duty ⟨duty, .ended, true⟩ d).stage = .ended :=
      ended_update ended rfl
    rw [known, Option.map_some, Option.getD_some, Timer.loop, own] at told
    dsimp only
    cases busy : t.busy with
    | false =>
      rw [busy] at told
      have there := told.found duty
      rw [gone, Option.map_none, Option.getD_none, Function.update_self] at there
      have left := told.set gone ⟨duty, .ended, true⟩ rfl
      rw [Function.update_idem] at left
      exact ⟨_, _, goes_leave there, left, gone, ended'⟩
    | true =>
      rw [busy] at told
      obtain ⟨loops', goes, mirrors', gone'⟩ :=
        (accompanied_advance pair _ control work t.free (s.without duty)).2 _ told
      have there := mirrors'.found duty
      rw [gone' duty gone, Option.map_none, Option.getD_none, Function.update_self] at there
      have left := mirrors'.set (gone' duty gone) ⟨duty, .ended, true⟩ rfl
      rw [Function.update_idem] at left
      refine ⟨_, _, ?_, left, gone' duty gone, ended'⟩
      rw [if_pos rfl, List.map_append]
      exact goes.trans (goes_finish there)

/-- Both loops are told to stop one after the other, and the end of each is waited for. -/
theorem goes_stop (work : Work) (mirrors : Mirrors pair others s loops)
    (ended : ∀ d, (others d).stage = .ended) (now : Instant) (target : Option Duration)
    (changed : target ≠ some pair.period) :
    ∃ loops' loop,
      Goes ⟨loops, .free (some pair)⟩ ((s.stop work now).2.map Event.happening)
        ⟨loops', .stopping pair .cleanup target⟩ ∧
      loops'[pair.cleanup]? = some loop ∧ loop.stage = .ended := by
  obtain ⟨others', loops', goes, mirrors', gone, ended'⟩ := goes_stopTimer
    (.stopping pair .sweep target) work mirrors ended .sweep now
  have swept := mirrors'.found .sweep
  rw [gone] at swept
  obtain ⟨others'', loops'', goes', mirrors'', gone', ended''⟩ := goes_stopTimer
    (.stopping pair .cleanup target) work mirrors' ended' .cleanup
    (s.stopTimer work .sweep now).1
  have cleaned := mirrors''.found .cleanup
  rw [gone'] at cleaned
  refine ⟨loops'', _, ?_, cleaned, ended'' .cleanup⟩
  have first := (Next.stop loops changed).goes.trans goes
  have second := (Next.goOn target swept (ended' .sweep)).goes.trans goes'
  have whole := first.trans second
  rw [Option.toList_none, List.nil_append, List.nil_append, ← List.map_append] at whole
  exact whole

theorem Timer.of_start? {now : Instant} {period : Duration} {t : Timer}
    (known : Timer.start? duty now period = some t) : t.duty = duty ∧ t.busy = false := by
  unfold Timer.start? at known
  dsimp only at known
  split at known
  · cases known
  · cases known
    exact ⟨rfl, rfl⟩

theorem Loop.new_eq (duty : Duty) (now : Instant) (period : Duration) :
    Loop.new duty now period =
      ((Timer.start? duty now period).map Timer.loop).getD (.dead duty) := by
  unfold Loop.new
  cases known : Timer.start? duty now period with
  | none => rfl
  | some t =>
    obtain ⟨rfl, idle⟩ := Timer.of_start? known
    simp [Timer.loop, idle]

/-- New loops are where the timers of a new schedule are. -/
theorem mirrors_start (loops : List Loop) (now : Instant) (period : Duration) :
    Mirrors ⟨period, loops.length, loops.length + 1⟩ Loop.dead (start now period)
      (Supervisor.start now period loops).loops where
  found duty := by
    cases duty with
    | sweep =>
      show (loops ++ [Loop.new .sweep now period, _])[loops.length]? = _
      rw [List.getElem?_append_right (Nat.le_refl _)]
      simp [timer, start, Loop.new_eq]
    | cleanup =>
      show (loops ++ [_, Loop.new .cleanup now period.cleanupPeriod])[loops.length + 1]? = _
      rw [List.getElem?_append_right (Nat.le_succ _)]
      simp [timer, start, Loop.new_eq]
  timer duty t known := by
    cases duty <;> exact (Timer.of_start? known).1
  other _ := rfl

end Schedule

open Schedule Supervisor

namespace Timetable

/-- What the timetable is asked to do. -/
inductive Command
  /-- Let time pass. -/
  | wait (d : Duration)
  | reschedule (period : Duration)
  | shutdown
deriving DecidableEq, Repr

def carryOut (work : Work) (t : Timetable) : Command → List Happening × Timetable
  | .wait d =>
    let (events, t) := t.advance work d
    (events.map Event.happening, t)
  | .reschedule period =>
    let (changed, events, t) := t.reschedule work period
    (events.map Event.happening ++ [.rescheduled period changed], t)
  | .shutdown =>
    let (events, t) := t.shutdown work
    (events.map Event.happening ++ [.shutDown], t)

def follow (work : Work) : List Command → Timetable → List Happening × Timetable
  | [], t => ([], t)
  | command :: rest, t =>
    let (seen, t) := t.carryOut work command
    let (later, t) := follow work rest t
    (seen ++ later, t)

variable {work : Work} {t : Timetable} {s : Supervisor}

/-- Both timers are stopped, that of the sweep first, and then two new ones are started. -/
def Restarts (work : Work) (period : Duration) (t : Timetable) (events : List Event)
    (after : Timetable) : Prop :=
  ∃ s, t.schedule = some s ∧ events = (s.stop work t.now).2 ∧
    after = { now := (s.stop work t.now).1
              schedule := some (Schedule.start (s.stop work t.now).1 period) }

theorem reschedule_of_eq {period : Duration} (same : t.period = some period) :
    t.reschedule work period = (false, [], t) := by
  rw [reschedule, if_pos same]

theorem reschedule_of_ne (work : Work) {period old : Duration} (running : t.period = some old)
    (other : old ≠ period) : ∃ events after,
      t.reschedule work period = (true, events, after) ∧ t.Restarts work period events after := by
  obtain ⟨s, known, rfl⟩ := Option.map_eq_some_iff.mp running
  refine ⟨_, _, ?_, s, known, rfl, rfl⟩
  rw [reschedule, if_neg (by simpa [running] using other), shutdown, known]

/-- Afterwards the timers have the period, whether or not they were running. -/
theorem period_reschedule (work : Work) (period : Duration) (t : Timetable) :
    (t.reschedule work period).2.2.period = some period := by
  unfold reschedule
  split
  next same => exact same
  · rfl

theorem period_advance (work : Work) (d : Duration) (t : Timetable) :
    (t.advance work d).2.period = t.period := by
  unfold advance
  cases known : t.schedule with
  | none => simp [Timetable.period, known]
  | some s => simp [Timetable.period, known, s.period_advance]

/-- The loops are where the timetable is. -/
def Shows (t : Timetable) (s : Supervisor) : Prop :=
  match t.schedule with
  | none => s.control = .free none
  | some schedule => ∃ pair, s.control = .free (some pair) ∧ pair.period = schedule.period ∧
    Mirrors pair Loop.dead schedule s.loops

/-- Whatever the timetable does, the loops can do it. -/
theorem Shows.carryOut (shows : t.Shows s) (work : Work) (command : Command) : ∃ s',
    Goes s (t.carryOut work command).1 s' ∧ (t.carryOut work command).2.Shows s' := by
  obtain ⟨now, schedule⟩ := t
  obtain ⟨loops, control⟩ := s
  cases schedule with
  | none =>
    obtain rfl : control = .free none := shows
    cases command with
    | wait d => exact ⟨_, .refl _, rfl⟩
    | reschedule period =>
      exact ⟨_, (Next.launch loops now period).goes, _, rfl, rfl, mirrors_start loops now period⟩
    | shutdown => exact ⟨_, (Next.rest loops).goes, rfl⟩
  | some schedule =>
    obtain ⟨pair, rfl, same, mirrors⟩ : ∃ pair, control = .free (some pair) ∧
      pair.period = schedule.period ∧ Mirrors pair Loop.dead schedule loops := shows
    cases command with
    | wait d =>
      obtain ⟨kept, goes⟩ := accompanied_advance pair Loop.dead (.free (some pair)) work
        (now.after d) schedule
      obtain ⟨loops', goes, mirrors', -⟩ := goes loops mirrors
      exact ⟨_, goes, pair, rfl, same.trans kept.symm, mirrors'⟩
    | shutdown =>
      obtain ⟨loops', loop, goes, found, ended⟩ := goes_stop work mirrors (fun _ => rfl) now
        none nofun
      exact ⟨_, goes.trans (Next.shut found ended).goes, rfl⟩
    | reschedule period =>
      by_cases unchanged : schedule.period = period
      · have running : (⟨now, some schedule⟩ : Timetable).period = some period :=
          congrArg some unchanged
        rw [Timetable.carryOut, reschedule_of_eq running, ← unchanged, ← same]
        exact ⟨_, (Next.keep loops pair).goes, pair, rfl, same, mirrors⟩
      · obtain ⟨loops', loop, goes, found, ended⟩ := goes_stop work mirrors (fun _ => rfl)
          now (some period)
          (fun again => unchanged (same.symm.trans (Option.some.inj again).symm))
        obtain ⟨_, _, told, _, ⟨⟩, rfl, rfl⟩ :=
          reschedule_of_ne (t := ⟨now, some schedule⟩) work rfl unchanged
        rw [Timetable.carryOut, told]
        exact ⟨_, goes.trans (Next.replace _ period found ended).goes, _, rfl, rfl,
          mirrors_start loops' _ period⟩

theorem Shows.follow (shows : t.Shows s) (work : Work) (commands : List Command) : ∃ s',
    Goes s (t.follow work commands).1 s' ∧ (t.follow work commands).2.Shows s' := by
  induction commands generalizing t s with
  | nil => exact ⟨s, .refl s, shows⟩
  | cons command rest ih =>
    obtain ⟨s', goes, shows'⟩ := shows.carryOut work command
    obtain ⟨s'', goes', shows''⟩ := ih shows'
    exact ⟨s'', goes.trans goes', shows''⟩

/-- The period of the timetable is the one that the callers agreed upon last. -/
theorem Shows.period {history : List Happening} (shows : t.Shows s) (goes : Goes {} history s) :
    t.period = periodOf history := by
  obtain ⟨now, schedule⟩ := t
  cases schedule with
  | none => exact goes.orderly.period none shows
  | some schedule =>
    obtain ⟨pair, free, same, -⟩ := shows
    exact (congrArg some same.symm).trans (goes.orderly.period (some pair) free)

/-- At any time at most one loop is live for each duty, and new loops are started only when the old
ones have ended. Runs of a duty do not overlap, each one is completed, and none begins while the
duties are shut down. This holds in whatever order the loops and the callers get their turns, and
the timetable is one of these orders. -/
theorem one_loop_per_duty :
    (∀ history s, Goes {} history s → s.Orderly history) ∧
      ∀ (work : Work) (commands : List Command) (t : Timetable), t.schedule = none →
        (t.follow work commands).2.period = periodOf (t.follow work commands).1 ∧
        ∃ s, Goes {} (t.follow work commands).1 s ∧ (t.follow work commands).2.Shows s := by
  refine ⟨fun history s goes => goes.orderly, fun work commands t idle => ?_⟩
  have shows : t.Shows {} := by
    unfold Shows
    rw [idle]
  obtain ⟨s, goes, shows'⟩ := shows.follow work commands
  exact ⟨shows'.period goes, s, goes, shows'⟩

end Timetable

namespace Sample

/-- A sweep takes three seconds, and a cleanup takes no time. -/
def leisurely : Work
  | .sweep, _ => .ofSeconds 3
  | .cleanup, _ => .ofSeconds 0

/-- The interval is changed one second after a sweep has begun. -/
def hasty : List Timetable.Command :=
  [.reschedule (.ofSeconds 10), .reschedule (.ofSeconds 10), .wait (.ofSeconds 11),
    .reschedule (.ofSeconds 20), .shutdown]

/-- What is seen of it: the sweep is completed before the interval changes. -/
def patient : List Happening :=
  [.rescheduled (.ofSeconds 10) true, .rescheduled (.ofSeconds 10) false,
    .started .cleanup, .finished .cleanup, .started .cleanup, .finished .cleanup,
    .started .sweep, .finished .sweep, .rescheduled (.ofSeconds 20) true, .shutDown]

end Sample

namespace Timetable

/-- The interval changes while a sweep is in progress, and then the duties are shut down. -/
theorem one_loop_per_duty_patient :
    ∃ s, Goes {} Sample.patient s ∧ s.Orderly Sample.patient ∧ s.control = .free none := by
  have seen : (follow Sample.leisurely Sample.hasty {}).1 = Sample.patient := by decide +kernel
  have stopped : (follow Sample.leisurely Sample.hasty {}).2.schedule = none := by decide +kernel
  obtain ⟨orderly, followed⟩ := one_loop_per_duty
  obtain ⟨-, s, goes, shows⟩ := followed Sample.leisurely Sample.hasty {} rfl
  rw [seen] at goes
  unfold Shows at shows
  rw [stopped] at shows
  exact ⟨s, goes, orderly _ s goes, shows⟩

end Timetable

end FloatingAddress
