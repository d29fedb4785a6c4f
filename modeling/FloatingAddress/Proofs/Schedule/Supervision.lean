import FloatingAddress.Schedule
import Mathlib.Data.List.Basic

/-!
# The loops behind the timers

Each timer is a loop of its own. It waits until it is told to stop or a run is due, and it looks
for the former first. A run is completed before the loop looks again. Between the look and the run a
loop may be told to stop, and then the run takes place all the same.

The loops have a supervisor, and one caller at a time asks something of it. To stop the loops, the
supervisor tells the one of the sweep to stop and waits for its end, and then the one of the
cleanup. Two new loops are started only after that. Meanwhile runs begin and end at any time, since
nothing is said about how long they take.

All loops that were ever started are kept in view here, so it is a theorem, and not a matter of
form, that at most one of them is live for each duty.
-/

namespace FloatingAddress.Schedule

/-- Where a loop is. -/
inductive Stage
  /-- It waits until something happens. -/
  | waiting
  /-- It was not told to stop when it looked, and it looks whether a run is due. -/
  | looked
  /-- A run is in progress. -/
  | running
  | ended
deriving DecidableEq, Repr

/-- The loop of a timer. -/
structure Loop where
  duty : Duty
  stage : Stage
  /-- Whether it was told to stop. -/
  told : Bool := false
deriving DecidableEq, Repr

/-- What is seen of the duties from outside. -/
inductive Happening
  /-- A run of a duty begins. -/
  | started (duty : Duty)
  /-- A run of a duty ends. -/
  | finished (duty : Duty)
  /-- The duties are carried out with a period from now on. This tells whether anything changed. -/
  | rescheduled (period : Duration) (changed : Bool)
  /-- The duties are not carried out any more. -/
  | shutDown
deriving DecidableEq, Repr

/-- What a loop does next, and what is seen of it. -/
inductive Loop.Moves : Loop → Option Happening → Loop → Prop
  | look (duty : Duty) : Moves ⟨duty, .waiting, false⟩ none ⟨duty, .looked, false⟩
  /-- No run is due. -/
  | pass (duty : Duty) (told : Bool) : Moves ⟨duty, .looked, told⟩ none ⟨duty, .waiting, told⟩
  | start (duty : Duty) (told : Bool) :
    Moves ⟨duty, .looked, told⟩ (some (.started duty)) ⟨duty, .running, told⟩
  | finish (duty : Duty) (told : Bool) :
    Moves ⟨duty, .running, told⟩ (some (.finished duty)) ⟨duty, .waiting, told⟩
  | leave (duty : Duty) : Moves ⟨duty, .waiting, true⟩ none ⟨duty, .ended, true⟩

/-- A new loop. It ends at once if there is no timer with this period. -/
def Loop.new (duty : Duty) (now : Instant) (period : Duration) : Loop :=
  { duty, stage := if (Timer.start? duty now period).isSome then .waiting else .ended }

/-- Two loops that were started together, by their places among all loops. -/
structure Pair where
  /-- The period of the sweep. -/
  period : Duration
  sweep : Nat
  cleanup : Nat
deriving DecidableEq, Repr

def Pair.place (pair : Pair) : Duty → Nat
  | .sweep => pair.sweep
  | .cleanup => pair.cleanup

/-- What the callers contend for. -/
inductive Control
  /-- Nobody is asking anything. There may be loops. -/
  | free (pair : Option Pair)
  /-- Somebody waits for the end of the loop of a duty. Loops with another period are started
  afterwards, if there is one. -/
  | stopping (pair : Pair) (duty : Duty) (target : Option Duration)
deriving DecidableEq, Repr

/-- The loops that have not been stopped yet. -/
def Control.pair? : Control → Option Pair
  | .free pair => pair
  | .stopping pair _ _ => some pair

/-- The supervisor of the loops. -/
structure Supervisor where
  /-- All loops that were ever started, in this order. -/
  loops : List Loop := []
  control : Control := .free none
deriving DecidableEq, Repr

namespace Supervisor

/-- Tell a loop to stop. -/
def tell (place : Nat) (loops : List Loop) : List Loop :=
  loops.modify place fun loop => { loop with told := true }

/-- Start two loops, after which nobody asks anything. -/
def start (now : Instant) (period : Duration) (loops : List Loop) : Supervisor where
  loops := loops ++ [Loop.new .sweep now period, Loop.new .cleanup now period.cleanupPeriod]
  control := .free (some { period, sweep := loops.length, cleanup := loops.length + 1 })

/-- What can happen next, and what is seen of it. -/
inductive Next : Supervisor → Option Happening → Supervisor → Prop
  /-- A loop goes on. -/
  | loop {loops : List Loop} {i : Nat} {loop loop' : Loop} {seen : Option Happening}
    (control : Control) (found : loops[i]? = some loop) (moves : loop.Moves seen loop') :
    Next ⟨loops, control⟩ seen ⟨loops.set i loop', control⟩
  /-- The duties are to be carried out as they are. -/
  | keep (loops : List Loop) (pair : Pair) :
    Next ⟨loops, .free (some pair)⟩ (some (.rescheduled pair.period false))
      ⟨loops, .free (some pair)⟩
  /-- The duties are not to be carried out, and they are not. -/
  | rest (loops : List Loop) : Next ⟨loops, .free none⟩ (some .shutDown) ⟨loops, .free none⟩
  /-- The duties are to be carried out, and they are not. -/
  | launch (loops : List Loop) (now : Instant) (period : Duration) :
    Next ⟨loops, .free none⟩ (some (.rescheduled period true)) (start now period loops)
  /-- The duties are to be carried out with another period, or not at all. -/
  | stop (loops : List Loop) {pair : Pair} {target : Option Duration}
    (changed : target ≠ some pair.period) :
    Next ⟨loops, .free (some pair)⟩ none ⟨tell pair.sweep loops, .stopping pair .sweep target⟩
  /-- The loop of the sweep has ended. -/
  | goOn {loops : List Loop} {pair : Pair} {loop : Loop} (target : Option Duration)
    (found : loops[pair.sweep]? = some loop) (ended : loop.stage = .ended) :
    Next ⟨loops, .stopping pair .sweep target⟩ none
      ⟨tell pair.cleanup loops, .stopping pair .cleanup target⟩
  /-- Both loops have ended, and two new ones are to be started. -/
  | replace {loops : List Loop} {pair : Pair} {loop : Loop} (now : Instant) (period : Duration)
    (found : loops[pair.cleanup]? = some loop) (ended : loop.stage = .ended) :
    Next ⟨loops, .stopping pair .cleanup (some period)⟩ (some (.rescheduled period true))
      (start now period loops)
  /-- Both loops have ended, and that was all. -/
  | shut {loops : List Loop} {pair : Pair} {loop : Loop}
    (found : loops[pair.cleanup]? = some loop) (ended : loop.stage = .ended) :
    Next ⟨loops, .stopping pair .cleanup none⟩ (some .shutDown) ⟨loops, .free none⟩

/-- What happens in the course of time, and what is seen of it, in this order. -/
inductive Goes : Supervisor → List Happening → Supervisor → Prop
  | refl (s : Supervisor) : Goes s [] s
  | step {s s' s'' : Supervisor} {seen : Option Happening} {later : List Happening}
    (next : Next s seen s') (rest : Goes s' later s'') : Goes s (seen.toList ++ later) s''

theorem Goes.trans {s s' s'' : Supervisor} {first second : List Happening} (goes : Goes s first s')
    (further : Goes s' second s'') : Goes s (first ++ second) s'' := by
  induction goes with
  | refl s => exact further
  | step next _ ih =>
    rw [List.append_assoc]
    exact .step next (ih further)

theorem Next.goes {s s' : Supervisor} {seen : Option Happening} (next : Next s seen s') :
    Goes s seen.toList s' := by
  have whole := Goes.step next (.refl s')
  rwa [List.append_nil] at whole

end Supervisor

/-- The period with which the duties are carried out after something more has happened. -/
def Happening.periodAfter (before : Option Duration) : Happening → Option Duration
  | .rescheduled period _ => some period
  | .shutDown => none
  | .started _ | .finished _ => before

/-- The period of the last call to carry the duties out, unless they have been shut down since. -/
def periodOf (history : List Happening) : Option Duration :=
  history.foldl Happening.periodAfter none

/-- Whether a call tells that the duties are carried out with another period than before. -/
def Happening.isChange : Happening → Bool
  | .rescheduled _ changed => changed
  | .started _ | .finished _ | .shutDown => false

/-- Whether a run of a duty is in progress after something more has happened. -/
def Happening.openAfter (duty : Duty) (before : Bool) : Happening → Bool
  | .started d => d = duty || before
  | .finished d => d ≠ duty && before
  | .rescheduled .. | .shutDown => before

/-- Whether a run of a duty has begun and has not ended. -/
def isOpen (duty : Duty) (history : List Happening) : Bool :=
  history.foldl (Happening.openAfter duty) false

variable {history : List Happening} {seen : Option Happening} {duty : Duty}

theorem periodOf_append : periodOf (history ++ seen.toList) =
    (seen.map (Happening.periodAfter (periodOf history))).getD (periodOf history) := by
  cases seen <;> simp [periodOf]

theorem isOpen_append : isOpen duty (history ++ seen.toList) =
    (seen.map (Happening.openAfter duty (isOpen duty history))).getD (isOpen duty history) := by
  cases seen <;> simp [isOpen]

namespace Loop.Moves

variable {loop loop' : Loop}

theorem live (moves : loop.Moves seen loop') : loop.stage ≠ .ended := by
  cases moves <;> simp

theorem duty_eq (moves : loop.Moves seen loop') : loop'.duty = loop.duty := by
  cases moves <;> rfl

/-- A loop neither asks nor answers anything. -/
theorem period_eq (moves : loop.Moves seen loop') :
    periodOf (history ++ seen.toList) = periodOf history := by
  rw [periodOf_append]
  cases moves <;> rfl

/-- The run of a loop is seen from its beginning to its end. -/
theorem isOpen_iff (moves : loop.Moves seen loop')
    (before : isOpen loop.duty history ↔ loop.stage = .running) :
    isOpen loop.duty (history ++ seen.toList) ↔ loop'.stage = .running := by
  rw [isOpen_append]
  cases moves <;> simp_all [Happening.openAfter]

/-- Of the runs of another duty nothing is seen. -/
theorem isOpen_of_ne (moves : loop.Moves seen loop') (other : loop.duty ≠ duty) :
    isOpen duty (history ++ seen.toList) = isOpen duty history := by
  rw [isOpen_append]
  cases moves <;> simp_all [Happening.openAfter]

end Loop.Moves

/-- One loop is replaced, and the others stay. -/
theorem getElem?_set_of_some {α : Type} {list : List α} {i : Nat} {a : α}
    (found : list[i]? = some a) (b : α) (j : Nat) :
    (list.set i b)[j]? = if i = j then some b else list[j]? := by
  rw [List.getElem?_set]
  obtain ⟨inside, -⟩ := List.getElem?_eq_some_iff.mp found
  simp [inside]

namespace Supervisor

variable {place i : Nat} {loops : List Loop} {loop : Loop}

theorem getElem?_tell : (tell place loops)[i]? =
    loops[i]?.map fun loop => if place = i then { loop with told := true } else loop := by
  rw [tell, List.getElem?_modify]
  rfl

/-- Telling a loop to stop changes neither its duty nor where it is. -/
theorem tell_of_some (place : Nat) (found : loops[i]? = some loop) :
    ∃ after, (tell place loops)[i]? = some after ∧
      after.duty = loop.duty ∧ after.stage = loop.stage := by
  rw [getElem?_tell, found]
  refine ⟨_, rfl, ?_⟩
  split <;> exact ⟨rfl, rfl⟩

theorem of_tell (found : (tell place loops)[i]? = some loop) :
    ∃ before, loops[i]? = some before ∧
      before.duty = loop.duty ∧ before.stage = loop.stage := by
  rw [getElem?_tell] at found
  obtain ⟨before, there, rfl⟩ := Option.map_eq_some_iff.mp found
  refine ⟨before, there, ?_⟩
  split <;> exact ⟨rfl, rfl⟩

/-- A loop that was not there before is one of the two that were started. -/
theorem of_start {now : Instant} {period : Duration}
    (found : (start now period loops).loops[i]? = some loop) :
    loops[i]? = some loop ∨
      i = loops.length ∧ loop = Loop.new .sweep now period ∨
      i = loops.length + 1 ∧ loop = Loop.new .cleanup now period.cleanupPeriod := by
  rw [start, List.getElem?_append] at found
  split at found
  · exact .inl found
  next beyond =>
    obtain ⟨k, rfl⟩ := Nat.exists_eq_add_of_le (Nat.le_of_not_lt beyond)
    rw [Nat.add_sub_cancel_left] at found
    match k with
    | 0 => exact .inr (.inl ⟨rfl, (Option.some.inj found).symm⟩)
    | 1 => exact .inr (.inr ⟨rfl, (Option.some.inj found).symm⟩)
    | _ + 2 => cases found

end Supervisor

theorem Loop.stage_new_ne (duty : Duty) (now : Instant) (period : Duration) :
    (Loop.new duty now period).stage ≠ .running := by
  rw [Loop.new]
  split <;> nofun

namespace Supervisor

/-- What holds at any time, with what was seen until then. -/
structure Sound (history : List Happening) (s : Supervisor) : Prop where
  /-- A live loop is the one that its pair has for its duty. -/
  live : ∀ i loop, s.loops[i]? = some loop → loop.stage ≠ .ended →
    ∃ pair, s.control.pair? = some pair ∧ i = pair.place loop.duty
  /-- Whoever waits for the cleanup has waited for the sweep. -/
  swept : ∀ pair target, s.control = .stopping pair .cleanup target →
    ∀ loop, s.loops[pair.sweep]? = some loop → loop.stage = .ended
  period : s.control.pair?.map (·.period) = periodOf history
  /-- A run is seen if and only if a loop carries it out. -/
  runs : ∀ duty, isOpen duty history ↔ ∃ (i : Nat) (loop : Loop),
    s.loops[i]? = some loop ∧ loop.duty = duty ∧ loop.stage = .running

namespace Sound

variable {s s' : Supervisor} {loops : List Loop} {control : Control} {pair : Pair}
  {i j : Nat} {loop loop' : Loop}

theorem empty : Sound [] {} where
  live := by simp
  swept := by simp
  period := rfl
  runs := by simp [isOpen]

/-- Two live loops have different duties. -/
theorem place_eq (sound : s.Sound history) (found : s.loops[i]? = some loop)
    (found' : s.loops[j]? = some loop') (same : loop.duty = loop'.duty)
    (live : loop.stage ≠ .ended) (live' : loop'.stage ≠ .ended) : i = j := by
  obtain ⟨pair, charge, rfl⟩ := sound.live i loop found live
  obtain ⟨pair', charge', rfl⟩ := sound.live j loop' found' live'
  obtain rfl := Option.some.inj (charge.symm.trans charge')
  rw [same]

/-- If there is no pair left, every loop has ended. -/
theorem ended_of_none (sound : s.Sound history) (nobody : s.control.pair? = none) :
    ∀ loop ∈ s.loops, loop.stage = .ended := by
  intro loop member
  obtain ⟨i, found⟩ := List.mem_iff_getElem?.mp member
  by_contra live
  obtain ⟨pair, charge, -⟩ := sound.live i loop found live
  rw [nobody] at charge
  cases charge

/-- If somebody waits for the cleanup, and its loop has ended, every loop has ended. -/
theorem ended_of_stopping {target : Option Duration}
    (sound : Sound history ⟨loops, .stopping pair .cleanup target⟩)
    (found : loops[pair.cleanup]? = some loop) (ended : loop.stage = .ended) :
    ∀ loop ∈ loops, loop.stage = .ended := by
  intro other member
  obtain ⟨i, there⟩ := List.mem_iff_getElem?.mp member
  by_contra live
  obtain ⟨_, charge, same⟩ := sound.live i other there live
  obtain rfl := Option.some.inj charge
  cases duty : other.duty with
  | sweep =>
    rw [same, duty] at there
    exact live (sound.swept _ _ rfl _ there)
  | cleanup =>
    rw [same, duty] at there
    obtain rfl := Option.some.inj (there.symm.trans found)
    exact live ended

/-- A run of a duty is seen as long as a live loop of this duty is carrying it out. -/
theorem isOpen_iff (sound : s.Sound history) (found : s.loops[i]? = some loop)
    (live : loop.stage ≠ .ended) : isOpen loop.duty history ↔ loop.stage = .running := by
  rw [sound.runs]
  constructor
  · rintro ⟨j, other, there, same, running⟩
    have live' : other.stage ≠ .ended := by simp [running]
    obtain rfl := sound.place_eq found there same.symm live live'
    obtain rfl := Option.some.inj (found.symm.trans there)
    exact running
  · intro running
    exact ⟨i, loop, found, rfl, running⟩

/-- A loop goes on. -/
theorem moves (sound : Sound history ⟨loops, control⟩) (found : loops[i]? = some loop)
    (moves : loop.Moves seen loop') :
    Sound (history ++ seen.toList) ⟨loops.set i loop', control⟩ := by
  have look := getElem?_set_of_some found loop'
  constructor
  case live =>
    intro j other there live
    dsimp only at there
    rw [look] at there
    split at there
    next same =>
      cases there
      obtain ⟨pair, charge, place⟩ := sound.live i loop found moves.live
      exact ⟨pair, charge, by rw [moves.duty_eq, ← place, same]⟩
    · exact sound.live j other there live
  case swept =>
    intro pair target waiting other there
    dsimp only at there
    rw [look] at there
    split at there
    next same => exact absurd (sound.swept pair target waiting loop (same ▸ found)) moves.live
    · exact sound.swept pair target waiting other there
  case period =>
    rw [moves.period_eq]
    exact sound.period
  case runs =>
    intro duty
    simp only [look]
    by_cases same : loop.duty = duty
    · subst same
      rw [moves.isOpen_iff (sound.isOpen_iff found moves.live)]
      constructor
      · intro running
        exact ⟨i, loop', if_pos rfl, moves.duty_eq, running⟩
      · rintro ⟨j, other, there, ofDuty, running⟩
        split at there
        · cases there
          exact running
        next apart =>
          have live : other.stage ≠ .ended := by simp [running]
          exact absurd (sound.place_eq found there ofDuty.symm moves.live live) apart
    · rw [moves.isOpen_of_ne same, sound.runs]
      constructor
      · rintro ⟨j, other, there, ofDuty, running⟩
        refine ⟨j, other, ?_, ofDuty, running⟩
        rw [if_neg, there]
        rintro rfl
        obtain rfl := Option.some.inj (found.symm.trans there)
        exact same ofDuty
      · rintro ⟨j, other, there, ofDuty, running⟩
        split at there
        · cases there
          exact absurd (moves.duty_eq.symm.trans ofDuty) same
        · exact ⟨j, other, there, ofDuty, running⟩

/-- Telling a loop to stop changes nothing yet. -/
theorem tell (sound : Sound history ⟨loops, control⟩) (place : Nat) {control' : Control}
    (same : control'.pair? = control.pair?)
    (swept : ∀ pair target, control' = .stopping pair .cleanup target →
      ∀ loop, loops[pair.sweep]? = some loop → loop.stage = .ended) :
    Sound history ⟨Supervisor.tell place loops, control'⟩ := by
  constructor
  case live =>
    intro i loop found live
    obtain ⟨before, there, duty, stage⟩ := of_tell found
    obtain ⟨pair, charge, at'⟩ := sound.live i before there (stage ▸ live)
    exact ⟨pair, same.trans charge, duty ▸ at'⟩
  case swept =>
    intro pair target waiting loop found
    obtain ⟨before, there, -, stage⟩ := of_tell found
    exact stage ▸ swept pair target waiting before there
  case period =>
    dsimp only
    rw [same]
    exact sound.period
  case runs =>
    intro duty
    rw [sound.runs]
    constructor
    · rintro ⟨i, loop, found, ofDuty, running⟩
      obtain ⟨after, there, duty', stage⟩ := tell_of_some place found
      exact ⟨i, after, there, duty'.trans ofDuty, stage.trans running⟩
    · rintro ⟨i, loop, found, ofDuty, running⟩
      obtain ⟨before, there, duty', stage⟩ := of_tell found
      exact ⟨i, before, there, duty'.trans ofDuty, stage.trans running⟩

/-- A call that starts no loops is answered. -/
theorem answer (sound : Sound history ⟨loops, control⟩) {happening : Happening}
    {pair : Option Pair} (silent : ∀ duty before, happening.openAfter duty before = before)
    (period : pair.map (·.period) = happening.periodAfter (periodOf history))
    (live : ∀ loop ∈ loops, loop.stage ≠ .ended → control.pair? = pair) :
    Sound (history ++ [happening]) ⟨loops, .free pair⟩ := by
  constructor
  case live =>
    intro i loop found isLive
    obtain ⟨pair', charge, place⟩ := sound.live i loop found isLive
    have same := live loop (List.mem_of_getElem? found) isLive
    exact ⟨pair', same.symm.trans charge, place⟩
  case swept => nofun
  case period =>
    rw [show [happening] = (some happening).toList from rfl, periodOf_append]
    exact period
  case runs =>
    intro duty
    rw [show [happening] = (some happening).toList from rfl, isOpen_append, Option.map_some,
      Option.getD_some, silent]
    exact sound.runs duty

/-- New loops are started when all others have ended. -/
theorem start (sound : Sound history ⟨loops, control⟩)
    (ended : ∀ loop ∈ loops, loop.stage = .ended) (now : Instant) (period : Duration) :
    Sound (history ++ [.rescheduled period true]) (Supervisor.start now period loops) := by
  constructor
  case live =>
    intro i loop found live
    obtain there | ⟨rfl, rfl⟩ | ⟨rfl, rfl⟩ := of_start found
    · exact absurd (ended loop (List.mem_of_getElem? there)) live
    · exact ⟨_, rfl, rfl⟩
    · exact ⟨_, rfl, rfl⟩
  case swept => nofun
  case period =>
    rw [show [Happening.rescheduled period true] = (some (.rescheduled period true)).toList from
      rfl, periodOf_append]
    rfl
  case runs =>
    intro duty
    rw [show [Happening.rescheduled period true] = (some (.rescheduled period true)).toList from
      rfl, isOpen_append]
    refine (sound.runs duty).trans (iff_of_false ?_ ?_)
    · rintro ⟨i, loop, found, -, running⟩
      simp [ended loop (List.mem_of_getElem? found)] at running
    · rintro ⟨i, loop, found, -, running⟩
      obtain there | ⟨-, rfl⟩ | ⟨-, rfl⟩ := of_start found
      · simp [ended loop (List.mem_of_getElem? there)] at running
      · exact Loop.stage_new_ne _ _ _ running
      · exact Loop.stage_new_ne _ _ _ running

/-- Whatever happens next. -/
theorem next (sound : s.Sound history) (next : Next s seen s') :
    s'.Sound (history ++ seen.toList) := by
  cases next with
  | loop control found moves => exact sound.moves found moves
  | keep loops pair => exact sound.answer (fun _ _ => rfl) rfl fun _ _ _ => rfl
  | rest loops => exact sound.answer (fun _ _ => rfl) rfl fun _ _ _ => rfl
  | launch loops now period => exact sound.start (sound.ended_of_none rfl) now period
  | stop loops changed =>
    rw [Option.toList_none, List.append_nil]
    exact sound.tell _ rfl nofun
  | goOn target found ended =>
    rw [Option.toList_none, List.append_nil]
    refine sound.tell _ rfl fun pair target waiting loop there => ?_
    cases waiting
    exact Option.some.inj (found.symm.trans there) ▸ ended
  | replace now period found ended =>
    exact sound.start (sound.ended_of_stopping found ended) now period
  | shut found ended =>
    refine sound.answer (fun _ _ => rfl) rfl fun loop member live => ?_
    exact absurd (sound.ended_of_stopping found ended loop member) live

theorem goes {later : List Happening} (sound : s.Sound history) (goes : Goes s later s') :
    s'.Sound (history ++ later) := by
  induction goes generalizing history with
  | refl s => rwa [List.append_nil]
  | step next _ ih =>
    rw [← List.append_assoc]
    exact ih (sound.next next)

end Sound

/-- What may be relied on at any time, with what was seen until then. -/
structure Orderly (history : List Happening) (s : Supervisor) : Prop where
  /-- At most one loop is live for each duty. -/
  alone : ∀ (i j : Nat) (loop loop' : Loop), s.loops[i]? = some loop → s.loops[j]? = some loop' →
    loop.duty = loop'.duty → loop.stage ≠ .ended → loop'.stage ≠ .ended → i = j
  /-- Loops are started only when all earlier ones have ended. -/
  replaced : ∀ seen s', Next s seen s' → s.loops.length < s'.loops.length →
    ∀ loop ∈ s.loops, loop.stage = .ended
  /-- A run of a duty begins only when none is in progress, and ends only when one is. -/
  apart : ∀ duty s', (Next s (some (.started duty)) s' → isOpen duty history = false) ∧
    (Next s (some (.finished duty)) s' → isOpen duty history = true)
  /-- A run in progress can end, and nothing but its end happens to it. -/
  completes : ∀ (i : Nat) duty told, s.loops[i]? = some ⟨duty, .running, told⟩ →
    (∃ s', Next s (some (.finished duty)) s') ∧
    ∀ seen s', Next s seen s' → seen = some (.finished duty) ∨
      ∃ told', s'.loops[i]? = some ⟨duty, .running, told'⟩
  /-- A run begins only while the duties are carried out with some period. -/
  quiet : ∀ duty s', Next s (some (.started duty)) s' → periodOf history ≠ none
  /-- Once the duties are shut down, every loop has ended. -/
  shut : ∀ s', Next s (some .shutDown) s' → ∀ loop ∈ s'.loops, loop.stage = .ended
  /-- Whoever asks for the period is told the one of the last call. -/
  period : ∀ pair, s.control = .free pair → pair.map (·.period) = periodOf history
  /-- If the duties are carried out with the period already, nothing changes. -/
  kept : ∀ pair, s.control = .free (some pair) →
    Next s (some (.rescheduled pair.period false)) s ∧
    ∀ changed s', Next s (some (.rescheduled pair.period changed)) s' → changed = false ∧ s' = s

namespace Sound

variable {s s' : Supervisor}

/-- New loops come in only when all others have ended. -/
theorem replaced (sound : s.Sound history) (next : Next s seen s')
    (more : s.loops.length < s'.loops.length) : ∀ loop ∈ s.loops, loop.stage = .ended := by
  cases next with
  | loop control found moves => simp at more
  | keep loops pair => simp at more
  | rest loops => simp at more
  | launch loops now period => exact sound.ended_of_none rfl
  | stop loops changed => simp [Supervisor.tell] at more
  | goOn target found ended => simp [Supervisor.tell] at more
  | replace now period found ended => exact sound.ended_of_stopping found ended
  | shut found ended => simp at more

/-- Only its end happens to a run in progress. -/
theorem running (sound : s.Sound history) {i : Nat} {duty : Duty} {told : Bool}
    (found : s.loops[i]? = some ⟨duty, .running, told⟩) (next : Next s seen s') :
    seen = some (.finished duty) ∨ ∃ told', s'.loops[i]? = some ⟨duty, .running, told'⟩ := by
  have there := List.mem_of_getElem? found
  cases next with
  | @loop loops j loop loop' _ control found' moves =>
    by_cases same : j = i
    · subst same
      obtain rfl := Option.some.inj (found'.symm.trans found)
      cases moves
      exact .inl rfl
    · refine .inr ⟨told, ?_⟩
      dsimp only
      rw [getElem?_set_of_some found', if_neg same]
      exact found
  | keep loops pair => exact .inr ⟨told, found⟩
  | rest loops => exact .inr ⟨told, found⟩
  | launch loops now period => cases sound.ended_of_none rfl _ there
  | stop loops changed | goOn target found' ended =>
    right
    dsimp only
    rw [getElem?_tell, found, Option.map_some]
    split <;> exact ⟨_, rfl⟩
  | replace now period found' ended => cases sound.ended_of_stopping found' ended _ there
  | shut found' ended => cases sound.ended_of_stopping found' ended _ there

theorem orderly (sound : s.Sound history) : s.Orderly history where
  alone i j loop loop' found found' := sound.place_eq found found'
  replaced seen s' next := sound.replaced next
  apart duty s' := by
    constructor
    · intro next
      cases next with
      | loop control found moves =>
        cases moves
        simpa using sound.isOpen_iff found
    · intro next
      cases next with
      | loop control found moves =>
        cases moves
        simpa using sound.isOpen_iff found
  completes i duty told found := by
    obtain ⟨loops, control⟩ := s
    exact ⟨⟨_, .loop control found (.finish duty told)⟩, fun _ _ next => sound.running found next⟩
  quiet duty s' next := by
    cases next with
    | loop control found moves =>
      obtain ⟨pair, charge, -⟩ := sound.live _ _ found moves.live
      have known := sound.period
      rw [charge] at known
      exact fun nothing => nomatch known.trans nothing
  shut s' next := by
    cases next with
    | loop control found moves => cases moves
    | rest loops => exact sound.ended_of_none rfl
    | shut found ended => exact sound.ended_of_stopping found ended
  period pair free := by
    have known := sound.period
    rwa [free] at known
  kept pair free := by
    obtain ⟨loops, control⟩ := s
    obtain rfl : control = .free (some pair) := free
    refine ⟨.keep loops pair, fun changed s' next => ?_⟩
    cases next with
    | loop control found moves => cases moves
    | keep => exact ⟨rfl, rfl⟩

end Sound

/-- Two loops are started whenever a call tells of a change, and none otherwise. -/
theorem Next.length_loops {s s' : Supervisor} (next : Next s seen s') :
    s'.loops.length = s.loops.length + 2 * seen.toList.countP Happening.isChange := by
  cases next with
  | loop control found moves => cases moves <;> simp [Happening.isChange]
  | keep | rest | shut => simp [Happening.isChange]
  | stop | goOn => simp [Supervisor.tell]
  | launch | replace => simp [Supervisor.start, Happening.isChange]

theorem Goes.length_loops {s s' : Supervisor} (goes : Goes s history s') :
    s'.loops.length = s.loops.length + 2 * history.countP Happening.isChange := by
  induction goes with
  | refl s => rfl
  | step next _ ih =>
    rw [ih, next.length_loops, List.countP_append]
    omega

/-- Whatever happens, in whatever order, and however long the runs take. -/
theorem Goes.orderly {s : Supervisor} (goes : Goes {} history s) : s.Orderly history :=
  (Sound.empty.goes goes).orderly

end Supervisor

end FloatingAddress.Schedule
