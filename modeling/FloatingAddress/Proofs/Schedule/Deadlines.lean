import FloatingAddress.Proofs.Options.Independence
import FloatingAddress.Proofs.Schedule.Following
import Mathlib.Algebra.GroupWithZero.Nat

/-!
# The first run of a duty

A duty runs for the first time one period after it was started, if the clock can name this instant,
and otherwise never: the timer cannot be started then, and nothing tells of it. The schedule lets
time pass in steps and allows for a number of steps that is fixed beforehand. So the main point is
that this number is never too small: as long as something is due, something happens, and every step
takes one away from what can still happen.

Options accept every number of seconds that fits into 64 bits as a sweep interval, but the clock
counts seconds with a sign. So there are intervals that are accepted, with which the sweep never
runs.
-/

namespace FloatingAddress

def Duty.period (sweep : Duration) : Duty → Duration
  | .sweep => sweep
  | .cleanup => sweep.cleanupPeriod

namespace Instant

variable {t : Instant}

theorem isRepresentable_iff : t.isRepresentable ↔ t.nanos < 2 ^ 63 * Duration.perSecond := by
  rw [isRepresentable, decide_eq_true_iff, Nat.div_lt_iff_lt_mul (by decide), Nat.one_shiftLeft]

theorem le_ceilMilli (t : Instant) : t.nanos ≤ t.ceilMilli.nanos := by
  simp only [ceilMilli, Duration.perMilli]
  omega

end Instant

namespace Schedule

variable {s s' : Schedule} {t : Timer} {duty : Duty} {work : Work} {limit : Instant}
  {event : Event} {past : List Event} {room : Nat}

namespace Timer

/-- How many things can still happen up to an instant: the end of the run in progress, and two for
each time at which the timer comes due. -/
def left (limit : Instant) (t : Timer) : Nat :=
  (if t.busy then 1 else 0) +
    if t.due.nanos ≤ limit.nanos then 2 * ((limit.nanos - t.due.nanos) / t.period.nanos + 1) else 0

theorem left_le_room (limit : Instant) (t : Timer) : t.left limit ≤ t.room limit := by
  unfold left room
  generalize (limit.nanos - t.due.nanos) / t.period.nanos = periods
  split <;> split <;> omega

/-- A run moves the due time by one period at least. -/
theorem le_dueAfter (t : Timer) (now : Instant) :
    t.due.nanos + t.period.nanos ≤ (t.dueAfter now).nanos := by
  unfold dueAfter
  split
  next late =>
    simp only [Instant.after] at late ⊢
    omega
  · exact Nat.le_refl _

/-- What happens takes one away from what can still happen. -/
theorem left_next_lt (work : Work) (positive : 0 < t.period.nanos)
    (due : t.nextTime.nanos ≤ limit.nanos) :
    (t.next work).2.left limit < t.left limit := by
  cases busy : t.busy with
  | true => simp [next, left, busy]
  | false =>
    have here : t.due.nanos ≤ limit.nanos := by
      simp only [nextTime, busy] at due
      exact (t.due.le_ceilMilli.trans (Nat.le_max_right _ _)).trans due
    have moved := t.le_dueAfter t.nextTime
    simp only [next, left, busy, Bool.false_eq_true, if_false, if_true, if_pos here]
    split
    next again =>
      have fewer : (limit.nanos - (t.dueAfter t.nextTime).nanos) / t.period.nanos + 1 ≤
          (limit.nanos - t.due.nanos) / t.period.nanos := by
        rw [← Nat.add_div_right _ positive]
        exact Nat.div_le_div_right (by omega)
      omega
    · generalize (limit.nanos - t.due.nanos) / t.period.nanos = periods
      omega

/-- Nothing happens before what happened last. -/
theorem nextTime_le_next (work : Work) (t : Timer) :
    t.nextTime.nanos ≤ (t.next work).2.nextTime.nanos := by
  cases busy : t.busy with
  | true =>
    simp only [next, nextTime, busy, if_true, Bool.false_eq_true, if_false]
    exact Nat.le_max_left _ _
  | false =>
    simp only [next, nextTime, busy, Bool.false_eq_true, if_false, if_true, Instant.after]
    exact Nat.le_add_right _ _

theorem period_next (work : Work) (t : Timer) : (t.next work).2.period = t.period := by
  cases busy : t.busy <;> simp [next, busy]

theorem next_fst (work : Work) (t : Timer) :
    (t.next work).1.time = t.nextTime ∧ (t.next work).1.duty = t.duty := by
  unfold next
  split <;> exact ⟨rfl, rfl⟩

end Timer

/-- Each timer is that of its duty, and comes due again after some time only. -/
def IsRegular (s : Schedule) : Prop :=
  ∀ duty t, s.timer duty = some t → t.duty = duty ∧ 0 < t.period.nanos

/-- How many things can still happen up to an instant. -/
def left (limit : Instant) (s : Schedule) : Nat :=
  ((s.timer .sweep).map (Timer.left limit)).getD 0 +
    ((s.timer .cleanup).map (Timer.left limit)).getD 0

theorem left_le_room (limit : Instant) (s : Schedule) : s.left limit ≤ s.room limit := by
  have one (timer : Option Timer) :
      (timer.map (Timer.left limit)).getD 0 ≤ (timer.map (Timer.room limit)).getD 0 := by
    cases timer with
    | none => exact Nat.le_refl 0
    | some t => exact t.left_le_room limit
  exact Nat.add_le_add (one s.sweep) (one s.cleanup)

/-- There is a next timer as long as there is any, and none is earlier. -/
theorem exists_nextTimer (known : s.timer duty = some t) :
    ∃ next, s.nextTimer = some next ∧ next.nextTime.nanos ≤ t.nextTime.nanos := by
  obtain ⟨period, sweep, cleanup⟩ := s
  unfold nextTimer
  cases duty with
  | sweep =>
    obtain rfl : sweep = some t := known
    cases cleanup with
    | none => exact ⟨t, rfl, Nat.le_refl _⟩
    | some other =>
      dsimp only
      split
      · exact ⟨t, rfl, Nat.le_refl _⟩
      next sooner => exact ⟨other, rfl, Nat.le_of_not_lt sooner⟩
  | cleanup =>
    obtain rfl : cleanup = some t := known
    cases sweep with
    | none => exact ⟨t, rfl, Nat.le_refl _⟩
    | some other =>
      dsimp only
      split
      next sooner => exact ⟨other, rfl, Nat.le_of_lt sooner⟩
      · exact ⟨t, rfl, Nat.le_refl _⟩

theorem next?_eq_none_iff : s.next? work limit = none ↔
    ∀ t, s.nextTimer = some t → limit.nanos < t.nextTime.nanos := by
  unfold next?
  split <;> grind

/-- All that a step can be: it happens at one timer, if this is not too late, and leaves the other
as it is. -/
theorem of_next? (regular : s.IsRegular) (h : s.next? work limit = some (event, s')) :
    ∃ duty t, s.timer duty = some t ∧ t.nextTime.nanos ≤ limit.nanos ∧ event = (t.next work).1 ∧
      event.duty = duty ∧
      ∀ d, s'.timer d = if duty = d then some (t.next work).2 else s.timer d := by
  unfold next? at h
  split at h
  · cases h
  next t soonest =>
    split at h
    · cases h
    next due =>
      obtain ⟨rfl, rfl⟩ : (t.next work).1 = event ∧ s.withTimer (t.next work).2 = s' :=
        Prod.mk.inj (Option.some.inj h)
      obtain ⟨duty, known⟩ := timer_of_nextTimer soonest
      obtain ⟨same, -⟩ := t.next_eq work
      obtain ⟨own, -⟩ := regular duty t known
      refine ⟨duty, t, known, Nat.le_of_not_lt due, rfl, (t.next_fst work).2.trans own, fun d => ?_⟩
      rw [timer_withTimer, same, own]

theorem IsRegular.next? (regular : s.IsRegular) (h : s.next? work limit = some (event, s')) :
    s'.IsRegular := by
  obtain ⟨duty, t, known, -, -, -, timers⟩ := of_next? regular h
  intro d t' known'
  rw [timers] at known'
  split at known'
  next here =>
    obtain rfl := Option.some.inj known'
    subst here
    obtain ⟨own, positive⟩ := regular duty t known
    exact ⟨(t.next_eq work).1.trans own, by rwa [t.period_next]⟩
  · exact regular d t' known'

theorem left_lt_of_next? (regular : s.IsRegular) (h : s.next? work limit = some (event, s')) :
    s'.left limit < s.left limit := by
  obtain ⟨duty, t, known, due, -, -, timers⟩ := of_next? regular h
  have fewer := Timer.left_next_lt work (regular duty t known).2 due
  cases duty with
  | sweep => simpa [left, timers, known] using fewer
  | cleanup => simpa [left, timers, known] using fewer

theorem left_timer_le (limit : Instant) (known : s.timer duty = some t) :
    t.left limit ≤ s.left limit := by
  cases duty with
  | sweep => simp [left, known]
  | cleanup => simp [left, known]

theorem mem_eventsUntil_of_past (h : event ∈ past) (room : Nat) (s : Schedule) :
    event ∈ (eventsUntil work limit past room s).1 := by
  induction room generalizing past s with
  | zero => exact h
  | succ room ih =>
    rw [eventsUntil]
    split
    · exact h
    · exact ih (.tail _ h) _

/-- What is due at a timer happens, if there is room for all that can still happen. -/
theorem next_mem_eventsUntil (work : Work) (past : List Event) (regular : s.IsRegular)
    (known : s.timer duty = some t) (due : t.nextTime.nanos ≤ limit.nanos)
    (enough : s.left limit ≤ room) :
    (t.next work).1 ∈ (eventsUntil work limit past room s).1 := by
  induction room generalizing past s with
  | zero =>
    have something := Timer.left_next_lt work (regular duty t known).2 due
    have within := left_timer_le limit known
    omega
  | succ room ih =>
    rw [eventsUntil]
    split
    next nothing =>
      -- the next timer is not later than this one, so something is due
      obtain ⟨soonest, found, early⟩ := exists_nextTimer known
      have late := next?_eq_none_iff.mp nothing soonest found
      omega
    next event s' h =>
      obtain ⟨d, u, known', -, rfl, -, timers⟩ := of_next? regular h
      by_cases here : d = duty
      · subst here
        obtain rfl := Option.some.inj (known'.symm.trans known)
        exact mem_eventsUntil_of_past (.head _) room s'
      · have less := left_lt_of_next? regular h
        have still : s'.timer duty = some t := by rw [timers, if_neg here, known]
        exact ih _ (regular.next? h) still (by omega)

/-- Whatever happens, happens at a timer, and not before what is next there. -/
theorem of_mem_eventsUntil (regular : s.IsRegular)
    (h : event ∈ (eventsUntil work limit past room s).1) :
    event ∈ past ∨ ∃ t, s.timer event.duty = some t ∧ t.nextTime.nanos ≤ event.time.nanos := by
  induction room generalizing past s with
  | zero => exact .inl h
  | succ room ih =>
    rw [eventsUntil] at h
    split at h
    · exact .inl h
    next first s' step =>
      obtain ⟨duty, t, known, -, rfl, own, timers⟩ := of_next? regular step
      obtain old | ⟨t', known', after⟩ := ih (regular.next? step) h
      · obtain rfl | old := List.mem_cons.mp old
        · exact .inr ⟨t, own ▸ known, by rw [(t.next_fst work).1]⟩
        · exact .inl old
      · rw [timers] at known'
        split at known'
        next here =>
          obtain rfl := Option.some.inj known'
          exact .inr ⟨t, here ▸ known, (t.nextTime_le_next work).trans after⟩
        · exact .inr ⟨t', known', after⟩

theorem mem_advance_iff : event ∈ (s.advance work limit).1 ↔
    event ∈ (eventsUntil work limit [] (s.room limit) s).1 :=
  List.mem_reverse

/-- As time passes, the first thing that happens to a duty is a run that begins at an instant. -/
def FirstAt (s : Schedule) (duty : Duty) (time : Instant) : Prop :=
  ∀ work limit,
    (time.nanos ≤ limit.nanos → ⟨time, duty, .start⟩ ∈ (s.advance work limit).1) ∧
    ∀ event ∈ (s.advance work limit).1, event.duty = duty → time.nanos ≤ event.time.nanos

/-- However much time passes, nothing happens to a duty. -/
def Silent (s : Schedule) (duty : Duty) : Prop :=
  ∀ work limit, ∀ event ∈ (s.advance work limit).1, event.duty ≠ duty

theorem firstAt_of_timer (regular : s.IsRegular) (known : s.timer duty = some t)
    (idle : t.busy = false) : s.FirstAt duty t.nextTime := by
  intro work limit
  constructor
  · intro due
    have first := next_mem_eventsUntil work [] regular known due (left_le_room limit s)
    rw [mem_advance_iff]
    simpa [Timer.next, idle, (regular duty t known).1] using first
  · intro event happens own
    obtain nothing | ⟨t', known', after⟩ := of_mem_eventsUntil regular (mem_advance_iff.mp happens)
    · cases nothing
    · rw [own, known] at known'
      obtain rfl := Option.some.inj known'
      exact after

theorem silent_of_none (regular : s.IsRegular) (gone : s.timer duty = none) : s.Silent duty := by
  rintro work limit event happens rfl
  obtain nothing | ⟨t, known, -⟩ := of_mem_eventsUntil regular (mem_advance_iff.mp happens)
  · cases nothing
  · rw [gone] at known
    cases known

variable {now : Instant} {period sweep : Duration}

theorem Timer.start?_eq (positive : 0 < period.nanos) : Timer.start? duty now period =
    if (now.after period).isRepresentable then
      some { duty, period, due := now.after period, free := now }
    else none := by
  unfold Timer.start?
  cases known : (now.after period).isRepresentable <;> simp [known, Nat.ne_of_gt positive]

theorem timer_start (now : Instant) (sweep : Duration) (duty : Duty) :
    (start now sweep).timer duty = Timer.start? duty now (duty.period sweep) := by
  cases duty <;> rfl

theorem isRegular_start (now : Instant) (positive : ∀ duty : Duty, 0 < (duty.period sweep).nanos) :
    (start now sweep).IsRegular := by
  intro duty t known
  rw [timer_start, Timer.start?_eq (positive duty)] at known
  split at known
  · obtain rfl := Option.some.inj known
    exact ⟨rfl, positive duty⟩
  · cases known

/-- A duty runs for the first time one period after it was started, at the next whole millisecond,
if the clock can name its deadline, and otherwise never. -/
theorem first_run (positive : ∀ duty : Duty, 0 < (duty.period sweep).nanos) (now : Instant)
    (duty : Duty) : if (now.after (duty.period sweep)).isRepresentable
      then (start now sweep).FirstAt duty (now.after (duty.period sweep)).ceilMilli
      else (start now sweep).Silent duty := by
  have regular := isRegular_start now positive
  have known := timer_start now sweep duty
  rw [Timer.start?_eq (positive duty)] at known
  split
  next able =>
    rw [if_pos able] at known
    have later : now.nanos ≤ (now.after (duty.period sweep)).ceilMilli.nanos :=
      (Nat.le_add_right _ _).trans (Instant.le_ceilMilli _)
    have first := firstAt_of_timer regular known rfl
    rwa [Timer.nextTime, if_neg Bool.false_ne_true, Nat.max_eq_right later] at first
  next unable =>
    rw [if_neg unable] at known
    exact silent_of_none regular known

theorem cleanupPeriod_bounds (long : Duration.perSecond ≤ sweep.nanos) :
    Duration.perSecond ≤ sweep.cleanupPeriod.nanos ∧
      sweep.cleanupPeriod.nanos ≤ sweep.nanos := by
  simp only [Duration.cleanupPeriod]
  omega

theorem period_pos (long : Duration.perSecond ≤ sweep.nanos) (duty : Duty) :
    0 < (duty.period sweep).nanos := by
  have second : 0 < Duration.perSecond := by decide
  cases duty with
  | sweep => exact second.trans_le long
  | cleanup => exact second.trans_le (cleanupPeriod_bounds long).1

theorem isRepresentable_after_ofSeconds (now : Instant) (n : Nat) :
    (now.after (.ofSeconds n)).isRepresentable ↔
      now.nanos / Duration.perSecond + n < 2 ^ 63 := by
  simp only [Instant.isRepresentable_iff, Instant.after, Duration.ofSeconds, Duration.perSecond]
  omega

/-- With every interval that options accept, both duties have a period of one second at least, and
the removal of stale series is not less frequent than the sweep. A duty runs for the first time one
period after it was started, if the clock can name this instant; the sweep does so exactly up to the
limit of the clock, and whenever it does, the removal does. Otherwise the duty has no timer and
never runs. -/
theorem first_run_of_options (data : TextMap) (now : Instant) :
    let sweep := (Options.ofData data).sweepInterval
    let deadline (duty : Duty) := now.after (duty.period sweep)
    (∃ n, 1 ≤ n ∧ n < UInt64.size ∧ sweep = .ofSeconds n ∧
      ((deadline .sweep).isRepresentable ↔ now.nanos / Duration.perSecond + n < 2 ^ 63)) ∧
    (Duration.perSecond ≤ sweep.cleanupPeriod.nanos ∧
      sweep.cleanupPeriod.nanos ≤ sweep.nanos) ∧
    ((deadline .sweep).isRepresentable → (deadline .cleanup).isRepresentable) ∧
    ∀ duty, ((start now sweep).timer duty).isSome = (deadline duty).isRepresentable ∧
      if (deadline duty).isRepresentable
      then (start now sweep).FirstAt duty (deadline duty).ceilMilli
      else (start now sweep).Silent duty := by
  intro sweep deadline
  obtain ⟨n, whole, fits, known⟩ := Options.exists_seconds_sweepInterval data
  have long : Duration.perSecond ≤ sweep.nanos := by
    rw [show sweep = .ofSeconds n from known]
    exact Nat.le_mul_of_pos_left _ whole
  have bounds := cleanupPeriod_bounds long
  have positive := period_pos long
  refine ⟨⟨n, whole, fits, known, ?_⟩, bounds, ?_,
    fun duty => ⟨?_, first_run positive now duty⟩⟩
  · show (now.after sweep).isRepresentable ↔ _
    rw [show sweep = .ofSeconds n from known, isRepresentable_after_ofSeconds]
  · intro able
    rw [Instant.isRepresentable_iff] at able ⊢
    exact (Nat.add_le_add_left bounds.2 _).trans_lt able
  · rw [timer_start, Timer.start?_eq (positive duty)]
    show _ = (now.after (duty.period sweep)).isRepresentable
    cases (now.after (duty.period sweep)).isRepresentable <;> rfl

/-- Without options the sweep runs for the first time after 480 seconds, and the removal of stale
series after 240. -/
theorem first_run_of_options_unset :
    let sweep := (Options.ofData Std.ExtTreeMap.empty).sweepInterval
    (start .start sweep).FirstAt .sweep ⟨480 * Duration.perSecond⟩ ∧
      (start .start sweep).FirstAt .cleanup ⟨240 * Duration.perSecond⟩ := by
  obtain ⟨-, -, -, runs⟩ := first_run_of_options Std.ExtTreeMap.empty .start
  exact ⟨(runs .sweep).2, (runs .cleanup).2⟩

/-- An interval of more seconds than the clock can count. -/
def endless : TextMap :=
  Std.ExtTreeMap.empty.insert "operateGuestClusterInterval" "9223372036854775808"

/-- The interval is accepted without complaint, and the duties are said to have been started with
it. But at no time can the timer of the sweep be started, and the sweep never runs. -/
theorem endless_never_sweeps :
    (Options.ofData endless).sweepInterval = .ofSeconds (2 ^ 63) ∧
    Options.complaints endless = [] ∧
    ∀ (work : Work) (now : Instant),
      ¬(now.after (Options.ofData endless).sweepInterval).isRepresentable ∧
      (Timetable.reschedule work (Options.ofData endless).sweepInterval { now }).1 = true ∧
      (start now (Options.ofData endless).sweepInterval).Silent .sweep := by
  have known : (Options.ofData endless).sweepInterval = .ofSeconds (2 ^ 63) := by decide +kernel
  refine ⟨known, List.isEmpty_iff.mp (by decide +kernel), fun work now => ?_⟩
  rw [known]
  have unable : ¬(now.after (.ofSeconds (2 ^ 63))).isRepresentable := by
    rw [isRepresentable_after_ofSeconds]
    exact Nat.not_lt.mpr (Nat.le_add_left _ _)
  have long : Duration.perSecond ≤ (Duration.ofSeconds (2 ^ 63)).nanos := by decide
  have never := first_run (period_pos long) now .sweep
  rw [Duty.period, if_neg unable] at never
  exact ⟨unable, by simp [Timetable.reschedule, Timetable.period], never⟩

end Schedule

end FloatingAddress
