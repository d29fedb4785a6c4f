import FloatingAddress.InMemory.Site
import FloatingAddress.Proofs.Schedule.Following
import FloatingAddress.Proofs.Series.Runs
import FloatingAddress.Startup

/-!
# Options, timers and the log level

The period of the timers and the level of the log are copies of what the options say. New options
are compared with those before, and only where they differ something is done about a copy. So a copy
that is wrong once may stay wrong, and it takes the whole history to tell that none is. The copies
are right when the operator has been started, they stay right while it does something else, and new
options that are put into effect find them right and leave them right.
-/

namespace FloatingAddress

open Dialogue Schedule

namespace Operator

variable {op after : Operator} {work : Work} {old new : Options} {settings : Settings}

/-- The options, the log filter and the timers are as they were. -/
structure SameSetup (op after : Operator) : Prop where
  options : after.options = op.options
  filter : after.filter = op.filter
  timetable : after.timetable = op.timetable

theorem SameSetup.refl (op : Operator) : op.SameSetup op := ⟨rfl, rfl, rfl⟩

theorem SameSetup.trans {op'' : Operator} (first : op.SameSetup after)
    (second : after.SameSetup op'') : op.SameSetup op'' :=
  ⟨second.options.trans first.options, second.filter.trans first.filter,
    second.timetable.trans first.timetable⟩

theorem sameSetup_report (op : Operator) (notices : List Notice) :
    op.SameSetup (notices.foldl report op) := by
  induction notices generalizing op with
  | nil => exact .refl op
  | cons notice notices ih =>
    have here : op.SameSetup (op.report notice) := ⟨rfl, rfl, rfl⟩
    exact here.trans (ih _)

theorem sameSetup_reply (persist : RecordKey → Ipv4 → Except OperatorError Unit)
    (c : Reconcile.Call) (op : Operator) : op.SameSetup (op.reply persist c).2 := by
  rw [reply_eq]
  cases c <;> exact ⟨rfl, rfl, rfl⟩

theorem sameSetup_finish (op : Operator) (d : Reconcile.Step α)
    (persist : RecordKey → Ipv4 → Except OperatorError Unit) :
    op.SameSetup (op.finish persist d).2 := by
  rw [finish_eq_play]
  induction d generalizing op with
  | done a => exact .refl op
  | ask c next ih => exact (sameSetup_reply persist c op).trans (ih _ _)

theorem sameSetup_swept {σ : Type} (op : Operator)
    (answer : (c : Sweep.Call) → σ → Sweep.Answer c × σ) (s : σ) :
    op.SameSetup (op.swept answer s) := by
  rw [swept]
  generalize (Sweep.sweep _ _).transcript answer s = talk
  induction talk generalizing op with
  | nil => exact .refl op
  | cons x talk ih =>
    have here : op.SameSetup (op.heed x.1) := by
      unfold heed
      split <;> exact ⟨rfl, rfl, rfl⟩
    exact here.trans (ih _)

/-- No deed touches the options, the log filter or the timers. -/
theorem sameSetup_carryOut (op : Operator) (deed : Deed) : op.SameSetup (op.carryOut deed) := by
  cases deed with
  | range change persist => exact sameSetup_finish op _ persist
  | floating change persist => exact sameSetup_finish op _ persist
  | sweep answer s => exact op.sameSetup_swept answer s
  | cleanup => exact ⟨rfl, rfl, rfl⟩

/-- The copies are right: the log shows what the options say, and the timers have their interval. -/
structure InStep (op : Operator) : Prop where
  filter : op.filter = op.options.logFilter
  period : op.timetable.period = some op.options.sweepInterval

theorem InStep.of_same (inStep : op.InStep) (same : op.SameSetup after) : after.InStep where
  filter := by rw [same.filter, same.options, inStep.filter]
  period := by rw [same.timetable, same.options, inStep.period]

/-- New options are in effect, and this is what happened to the timers meanwhile. -/
structure TakesEffect (work : Work) (new : Options) (op : Operator) (events : List Event)
    (after : Operator) : Prop where
  options : after.options = new
  filter : after.filter = .atLeast (.ofOption new.logLevel)
  period : after.timetable.period = some new.sweepInterval
  /-- It comes to the same as a call to carry the duties out with the new interval, and such a call
  tells of a change exactly if the interval is another one than before. -/
  told : op.timetable.reschedule work new.sweepInterval =
    (decide (op.options.sweepInterval ≠ new.sweepInterval), events, after.timetable)
  /-- If the interval is the same as before, the timers go on as if nothing had happened. -/
  kept : op.options.sweepInterval = new.sweepInterval → events = [] ∧
    after.timetable = op.timetable
  /-- If it is another one, both timers are stopped and started again. -/
  restarted : op.options.sweepInterval ≠ new.sweepInterval →
    op.timetable.Restarts work new.sweepInterval events after.timetable

theorem TakesEffect.inStep {events : List Event} (takes : TakesEffect work new op events after) :
    after.InStep where
  filter := by rw [takes.options, takes.filter, Options.logFilter]
  period := by rw [takes.options, takes.period]

/-- What is seen of the duties while new options are put into effect. -/
def seenBetween (old new : Options) (events : List Event) : List Happening :=
  events.map Event.happening ++
    if old.sweepInterval = new.sweepInterval then [] else [.rescheduled new.sweepInterval true]

/-- Of the loops behind the timers, new ones are started exactly if the interval is another one. -/
theorem TakesEffect.loops {events : List Event} (takes : op.TakesEffect work new events after)
    {s : Supervisor} (shows : op.timetable.Shows s) :
    ∃ s', s.Goes (seenBetween op.options new events) s' ∧ after.timetable.Shows s' ∧
      (s.loops.length < s'.loops.length ↔ op.options.sweepInterval ≠ new.sweepInterval) := by
  rw [seenBetween]
  by_cases same : op.options.sweepInterval = new.sweepInterval
  · obtain ⟨rfl, unchanged⟩ := takes.kept same
    exact ⟨s, by simpa [same] using Supervisor.Goes.refl s, unchanged ▸ shows, by simp [same]⟩
  · obtain ⟨s', goes, shows'⟩ := shows.carryOut work (.reschedule new.sweepInterval)
    rw [Timetable.carryOut, takes.told, decide_eq_true same] at goes shows'
    have runs : (events.map Event.happening).countP Happening.isChange = 0 := by
      refine List.countP_eq_zero.mpr fun happening member => ?_
      obtain ⟨event, -, rfl⟩ := List.mem_map.mp member
      unfold Event.happening
      split <;> simp [Happening.isChange]
    have more := goes.length_loops
    rw [List.countP_append, runs] at more
    refine ⟨s', by rwa [if_neg same], shows', ?_⟩
    simp [more, same, Happening.isChange]

/-- Reports make no difference. -/
theorem TakesEffect.of_same {between : Operator} {events : List Event}
    (takes : between.TakesEffect work new events after) (same : op.SameSetup between) :
    op.TakesEffect work new events after where
  options := takes.options
  filter := takes.filter
  period := takes.period
  told := by rw [← same.timetable, ← same.options, takes.told]
  kept := by rw [← same.timetable, ← same.options]; exact takes.kept
  restarted := by rw [← same.timetable, ← same.options]; exact takes.restarted

theorem followLevel_eq (old new : Options) (op : Operator) :
    (op.followLevel old new).options = op.options ∧
      (op.followLevel old new).timetable = op.timetable ∧
      (op.followLevel old new).filter =
        if old.logLevel = new.logLevel then op.filter else new.logFilter := by
  unfold followLevel
  dsimp only
  split
  · exact ⟨rfl, rfl, rfl⟩
  · split <;> exact ⟨rfl, rfl, rfl⟩

theorem followInterval_eq (work : Work) (old new : Options) (op : Operator) :
    (op.followInterval work old new).2.options = op.options ∧
      (op.followInterval work old new).2.filter = op.filter ∧
      ((op.followInterval work old new).1, (op.followInterval work old new).2.timetable) =
        if old.sweepInterval = new.sweepInterval then ([], op.timetable)
        else (op.timetable.reschedule work new.sweepInterval).2 := by
  unfold followInterval
  split <;> exact ⟨rfl, rfl, rfl⟩

theorem sameSetup_followPort (old new : Options) (op : Operator) :
    op.SameSetup (op.followPort old new) := by
  unfold followPort
  split <;> exact ⟨rfl, rfl, rfl⟩

/-- What becomes of the options and their copies, in whatever state these were. -/
theorem reload_eq (work : Work) (new : Options) (op : Operator) :
    (op.reload work new).2.options = new ∧
      (op.reload work new).2.filter =
        (if op.options.logLevel = new.logLevel then op.filter else new.logFilter) ∧
      ((op.reload work new).1, (op.reload work new).2.timetable) =
        if op.options.sweepInterval = new.sweepInterval then ([], op.timetable)
        else (op.timetable.reschedule work new.sweepInterval).2 := by
  unfold reload
  dsimp only
  split
  next same => simp [same]
  next other =>
    obtain ⟨options, timetable, filter⟩ := followLevel_eq op.options new { op with options := new }
    obtain ⟨options', filter', timers⟩ := followInterval_eq work op.options new
      (followLevel op.options new { op with options := new })
    have port := sameSetup_followPort op.options new
      (followInterval work op.options new (followLevel op.options new { op with options := new })).2
    refine ⟨?_, ?_, ?_⟩
    · rw [port.options, options', options]
    · rw [port.filter, filter', filter]
    · rw [port.timetable, timers, timetable]

/-- Copies that are right before new options are put into effect are right afterwards. -/
theorem InStep.reload (inStep : op.InStep) (work : Work) (new : Options) :
    TakesEffect work new op (op.reload work new).1 (op.reload work new).2 := by
  obtain ⟨options, filter, timers⟩ := op.reload_eq work new
  have filtered : (op.reload work new).2.filter = new.logFilter := by
    rw [filter]
    split
    next same => rw [inStep.filter, Options.logFilter, same, Options.logFilter]
    · rfl
  -- Only the intervals of old and new options are compared. It is as good as asking the timers,
  -- since these still have the old one.
  by_cases same : op.options.sweepInterval = new.sweepInterval
  · rw [if_pos same, Prod.mk.injEq] at timers
    obtain ⟨events, timetable⟩ := timers
    have running : op.timetable.period = some new.sweepInterval := same ▸ inStep.period
    refine ⟨options, filtered, timetable ▸ running, ?_, fun _ => ⟨events, timetable⟩, absurd same⟩
    rw [Timetable.reschedule_of_eq running, events, timetable]
    simp [same]
  · obtain ⟨events, timetable, told, restarts⟩ :=
      Timetable.reschedule_of_ne work inStep.period same
    rw [if_neg same, told, Prod.mk.injEq] at timers
    obtain ⟨rfl, rfl⟩ := timers
    have period := op.timetable.period_reschedule work new.sweepInterval
    rw [told] at period
    exact ⟨options, filtered, period, by simp [told, same], fun again => absurd again same,
      fun _ => restarts⟩

end Operator

/-- The options after a change of their config map. -/
def Watch.Change.options : Watch.Change Manifest.ConfigMap → Options
  | .apply m => .ofConfigMap m
  | .delete _ => .defaults

namespace Operator

variable {op after : Operator} {work : Work} {settings : Settings}

/-- Follow a change of the config map: report what is wrong with it, and put the options into
effect. -/
def followOptions (settings : Settings) (work : Work) (change : Watch.Change Manifest.ConfigMap)
    (op : Operator) : List Event × Operator :=
  let (notices, new) := Watch.newOptions settings change
  (notices.foldl report op).reload work new

theorem followOptions_eq (settings : Settings) (work : Work)
    (change : Watch.Change Manifest.ConfigMap) (op : Operator) :
    op.followOptions settings work change =
      ((Watch.newOptions settings change).1.foldl report op).reload work change.options := by
  cases change <;> rfl

/-- This is what a delivery of the config map comes to, if deliveries count. -/
theorem operator_deliver (gate : Watch.Gate) (delivery : Watch.Delivery Manifest.ConfigMap)
    (site : InMemory.Site) :
    ((InMemory.Site.deliver gate (.options delivery)).run site).2.operator =
      match Watch.counted? gate site.now delivery with
      | none => site.operator
      | some change =>
        (site.operator.followOptions site.settings InMemory.Site.work change).2 := by
  have followed (notices : List Notice) (new : Options) (site : InMemory.Site) :
      ((notices.forM InMemory.Site.report >>= fun _ => InMemory.Site.reload new).run
          site).2.operator =
        ((notices.foldl report site.operator).reload InMemory.Site.work new).2 := by
    induction notices generalizing site with
    | nil => rfl
    | cons notice notices ih => exact ih _
  have delivered : (InMemory.Site.deliver gate (.options delivery)).run site =
      (match Watch.counted? gate site.now delivery with
        | none => pure ()
        | some change => do
          (Watch.newOptions site.settings change).1.forM InMemory.Site.report
          InMemory.Site.reload (Watch.newOptions site.settings change).2).run site := rfl
  rw [delivered]
  cases Watch.counted? gate site.now delivery with
  | none => rfl
  | some change => exact followed _ _ site

theorem InStep.followOptions (inStep : op.InStep) (settings : Settings) (work : Work)
    (change : Watch.Change Manifest.ConfigMap) :
    op.TakesEffect work change.options (op.followOptions settings work change).1
      (op.followOptions settings work change).2 := by
  have same := op.sameSetup_report (Watch.newOptions settings change).1
  have takes := (inStep.of_same same).reload work change.options
  rw [followOptions_eq]
  exact takes.of_same same

/-- Something that goes on at the operator. -/
inductive Incident : Type 1
  /-- The config map changes. -/
  | configured (change : Watch.Change Manifest.ConfigMap)
  /-- Time passes, and runs of the duties begin and end. -/
  | elapsed (d : Duration)
  /-- The operator does something that has nothing to do with its options. -/
  | done (deed : Deed)

/-- The options that an incident brings. -/
def Incident.options? : Incident → Option Options
  | .configured change => some change.options
  | .elapsed _ | .done _ => none

/-- What an incident means for the timetable. -/
def Incident.command? : Incident → Option Timetable.Command
  | .configured change => some (.reschedule change.options.sweepInterval)
  | .elapsed d => some (.wait d)
  | .done _ => none

def encounter (settings : Settings) (work : Work) (op : Operator) : Incident → Operator
  | .configured change => (op.followOptions settings work change).2
  | .elapsed d => { op with timetable := (op.timetable.advance work d).2 }
  | .done deed => op.carryOut deed

def throughout (settings : Settings) (work : Work) (op : Operator) (incidents : List Incident) :
    Operator :=
  incidents.foldl (encounter settings work) op

theorem InStep.encounter (inStep : op.InStep) (settings : Settings) (work : Work)
    (incident : Incident) : (op.encounter settings work incident).InStep := by
  cases incident with
  | configured change => exact (inStep.followOptions settings work change).inStep
  | elapsed d => exact ⟨inStep.filter, (op.timetable.period_advance work d).trans inStep.period⟩
  | done deed => exact inStep.of_same (op.sameSetup_carryOut deed)

theorem InStep.throughout (inStep : op.InStep) (settings : Settings) (work : Work)
    (incidents : List Incident) : (op.throughout settings work incidents).InStep := by
  induction incidents generalizing op with
  | nil => exact inStep
  | cons incident rest ih => exact ih (inStep.encounter settings work incident)

theorem InStep.options_encounter (inStep : op.InStep) (settings : Settings) (work : Work)
    (incident : Incident) :
    (op.encounter settings work incident).options = incident.options?.getD op.options := by
  cases incident with
  | configured change => exact (inStep.followOptions settings work change).options
  | elapsed d => rfl
  | done deed => exact (op.sameSetup_carryOut deed).options

/-- The options are those that the config map brought last. -/
theorem InStep.options_throughout (inStep : op.InStep) (settings : Settings) (work : Work)
    (incidents : List Incident) : (op.throughout settings work incidents).options =
      (incidents.filterMap Incident.options?).getLastD op.options := by
  induction incidents generalizing op with
  | nil => rfl
  | cons incident rest ih =>
    have later := ih (inStep.encounter settings work incident)
    rw [inStep.options_encounter] at later
    refine later.trans ?_
    cases known : incident.options? with
    | none => rw [List.filterMap_cons_none known, Option.getD_none]
    | some new => rw [List.filterMap_cons_some known, List.getLastD_cons, Option.getD_some]

/-- The timers go as if every change of the config map were a call to carry the duties out with the
interval of its options: what is compared before does not matter to them. -/
theorem InStep.timetable_throughout (inStep : op.InStep) (settings : Settings) (work : Work)
    (incidents : List Incident) : (op.throughout settings work incidents).timetable =
      (op.timetable.follow work (incidents.filterMap Incident.command?)).2 := by
  induction incidents generalizing op with
  | nil => rfl
  | cons incident rest ih =>
    have later := ih (inStep.encounter settings work incident)
    refine later.trans ?_
    cases incident with
    | configured change =>
      have told := (inStep.followOptions settings work change).told
      have here : (op.timetable.carryOut work (.reschedule change.options.sweepInterval)).2 =
          (op.encounter settings work (.configured change)).timetable :=
        congrArg (fun told => told.2.2) told
      rw [← here]
      rfl
    | elapsed d => rfl
    | done deed =>
      have here : (op.encounter settings work (.done deed)).timetable = op.timetable :=
        (op.sameSetup_carryOut deed).timetable
      rw [here]
      rfl

end Operator

namespace Startup

open Operator

variable {α β : Type} {op after : Operator} {settings : Settings} {work : Work}

/-- With some answers from outside, a part of the start comes to this result and leaves the operator
like this. -/
def MayEnd (part : Start α) (op : Operator) (a : α) (after : Operator) : Prop :=
  ∃ talk, MayGo (part.run.run op) talk (.ok a, after)

theorem MayEnd.of_bind {part : Start α} {f : α → Start β} {b : β}
    (ends : MayEnd (part >>= f) op b after) :
    ∃ a between, MayEnd part op a between ∧ MayEnd (f a) between b after := by
  obtain ⟨talk, goes⟩ := ends
  obtain ⟨⟨result, between⟩, first, rest, goes, further, -⟩ := goes.of_bind
  cases result with
  | error error => cases further
  | ok a => exact ⟨a, between, ⟨first, goes⟩, rest, further⟩

theorem MayEnd.of_pure {a b : α} (ends : MayEnd (pure a) op b after) : b = a ∧ after = op := by
  obtain ⟨talk, goes⟩ := ends
  cases goes
  exact ⟨rfl, rfl⟩

/-- An access to the cluster API leaves the operator alone. -/
theorem MayEnd.of_access_bind {a : Source.Access α} {f : α → Start β} {b : β}
    (ends : MayEnd (access a >>= f) op b after) : ∃ result, MayEnd (f result) op b after := by
  obtain ⟨result, between, ⟨talk, goes⟩, rest⟩ := ends.of_bind
  obtain ⟨_, _, _, -, further, -⟩ := goes.of_bind
  cases further
  exact ⟨result, rest⟩

theorem MayEnd.of_modify {f : Operator → Operator} {u : PUnit}
    (ends : MayEnd (modify f) op u after) : after = f op := by
  obtain ⟨talk, goes⟩ := ends
  cases goes
  rfl

theorem MayEnd.of_report {notice : Notice} {u : Unit} (ends : MayEnd (report notice) op u after) :
    op.SameSetup after := by
  rw [ends.of_modify]
  exact ⟨rfl, rfl, rfl⟩

variable {persist : RecordKey → Ipv4 → Api.Exchange (Except OperatorError Unit)}
  {talk : List (Exchange Api.Request fun _ => Except ApiError Api.Response)}

theorem sameSetup_of_answer {c : Reconcile.Call} {answer : Reconcile.Answer c}
    (asked : MayGo ((Operator.answer persist c).run op) talk (answer, after)) :
    op.SameSetup after := by
  by_cases outside : ∃ key address, c = .persist key address
  · obtain ⟨key, address, rfl⟩ := outside
    obtain ⟨_, _, _, -, further, -⟩ := MayGo.of_bind asked
    cases further
    exact .refl _
  · have inside : (Operator.answer persist c).run op =
        .done (op.reply (fun _ _ => .ok ()) c) := by
      cases c with
      | persist key address => exact absurd ⟨key, address, rfl⟩ outside
      | _ => rfl
    rw [inside, mayGo_done_iff] at asked
    obtain ⟨-, same⟩ := asked
    rw [show after = _ from congrArg Prod.snd same]
    exact op.sameSetup_reply _ c

/-- Handlers may access the cluster API, but they leave the options alone. -/
theorem sameSetup_of_perform {d : Reconcile.Step α} {a : α}
    (goes : MayGo ((Operator.perform persist d).run op) talk (a, after)) : op.SameSetup after := by
  induction d generalizing op talk with
  | done a =>
    cases goes
    exact .refl _
  | ask c next ih =>
    obtain ⟨⟨answer, between⟩, _, _, asked, further, -⟩ := MayGo.of_bind goes
    exact (sameSetup_of_answer asked).trans (ih answer further)

theorem MayEnd.of_reconcile {d : Reconcile.Step α} {a : α}
    (ends : MayEnd (reconcile d) op a after) : op.SameSetup after := by
  obtain ⟨talk, goes⟩ := ends
  obtain ⟨_, _, _, performed, further, -⟩ := goes.of_bind
  cases further
  exact sameSetup_of_perform performed

theorem MayEnd.of_adopt {options : Options} {u : Unit} (ends : MayEnd (adopt options) op u after) :
    after.options = options ∧ after.filter = options.logFilter := by
  obtain ⟨_, _, first, rest⟩ := MayEnd.of_bind ends
  obtain rfl := first.of_modify
  dsimp only at rest
  split at rest
  · have same := rest.of_report
    exact ⟨same.options, same.filter⟩
  · obtain ⟨-, rfl⟩ := MayEnd.of_pure rest
    exact ⟨rfl, rfl⟩

/-- When the start has succeeded, the copies are right. -/
theorem MayEnd.inStep {report : Reconcile.SeedReport}
    (started : MayEnd (start settings work) op report after) : after.InStep := by
  obtain ⟨options, _, -, rest⟩ := MayEnd.of_bind started
  obtain ⟨_, _, adopted, rest⟩ := MayEnd.of_bind rest
  obtain ⟨ranges, rest⟩ := MayEnd.of_access_bind rest
  obtain ⟨floatings, rest⟩ := MayEnd.of_access_bind rest
  obtain ⟨_, _, seeded, rest⟩ := MayEnd.of_bind rest
  obtain ⟨_, _, scheduled, rest⟩ := MayEnd.of_bind rest
  obtain ⟨-, rfl⟩ := MayEnd.of_pure rest
  have same := seeded.of_reconcile
  obtain ⟨first, filter⟩ := adopted.of_adopt
  rw [scheduled.of_modify]
  constructor
  case filter => exact (same.filter.trans filter).trans (by rw [same.options, first])
  case period =>
    rw [Timetable.period_reschedule]
    exact congrArg (fun options => some options.sweepInterval) (same.options.trans first).symm

/-- Once the operator has been started, every change of its config map takes effect as a whole,
whatever has gone on before: the options are the new ones, the log shows what they say, and the
timers have their interval. New loops are started if and only if this interval is not that of the
options before. -/
theorem MayEnd.options_take_effect {initial : Operator} {report : Reconcile.SeedReport}
    (started : MayEnd (start settings work) initial report op) (incidents : List Incident)
    (change : Watch.Change Manifest.ConfigMap) :
    let before := op.throughout settings work incidents
    let changed := before.followOptions settings work change
    before.InStep ∧
      before.options = (incidents.filterMap Incident.options?).getLastD op.options ∧
      before.TakesEffect work change.options changed.1 changed.2 ∧
      ∀ s, before.timetable.Shows s → ∃ s',
        s.Goes (seenBetween before.options change.options changed.1) s' ∧
        changed.2.timetable.Shows s' ∧
        (s.loops.length < s'.loops.length ↔
          before.options.sweepInterval ≠ change.options.sweepInterval) := by
  intro before changed
  have inStep : before.InStep := started.inStep.throughout settings work incidents
  have takes := inStep.followOptions settings work change
  exact ⟨inStep, started.inStep.options_throughout settings work incidents, takes,
    fun s shows => takes.loops shows⟩

end Startup

namespace Sample

/-- A cluster without a config map and without objects: first it is asked for the former. -/
def bare (_ : Api.Request) (asked : Bool) : Except ApiError Api.Response × Bool :=
  let missing := "\x7b\"status\":\"Failure\",\"reason\":\"NotFound\",\"code\":404\x7d"
  let empty := "\x7b\"metadata\":\x7b\x7d,\"items\":[]\x7d"
  (.ok (if asked then { text := empty } else { status := 404, text := missing }), true)

/-- A config map that asks for a short interval and for more messages. -/
def busy : Manifest.ConfigMap where
  data := some (.ofList [("operateGuestClusterInterval", "240"), ("logLevel", "Debug")])

end Sample

namespace Startup

/-- The config map appears, and it goes away again while a sweep is in progress. -/
theorem options_take_effect_busy : ∃ op report, MayEnd (start {} Sample.leisurely) {} report op ∧
    let before := op.throughout {} Sample.leisurely
      [.configured (.apply Sample.busy), .elapsed (.ofSeconds 241)]
    let changed := before.followOptions {} Sample.leisurely (.delete Sample.busy)
    before.filter = .atLeast .debug ∧ before.timetable.period = some (.ofSeconds 240) ∧
      changed.2.options = .defaults ∧ changed.2.filter = .atLeast .info ∧
      changed.2.timetable.period = some (.ofSeconds 480) ∧
      before.timetable.Restarts Sample.leisurely (.ofSeconds 480) changed.1
        changed.2.timetable := by
  have fine : (((start {} Sample.leisurely).run.run {}).play Sample.bare false).1.1.isOk := by
    decide +kernel
  have goes := mayGo_transcript Sample.bare ((start {} Sample.leisurely).run.run {}) false
  generalize (((start {} Sample.leisurely).run.run {}).play Sample.bare false).1 = result
    at fine goes
  obtain ⟨_ | report, op⟩ := result
  · cases fine
  have started : MayEnd (start {} Sample.leisurely) {} report op := ⟨_, goes⟩
  obtain ⟨inStep, options, takes, -⟩ := started.options_take_effect
    [.configured (.apply Sample.busy), .elapsed (.ofSeconds 241)] (.delete Sample.busy)
  replace options : _ = Options.ofConfigMap Sample.busy := options
  have interval : (Options.ofConfigMap Sample.busy).sweepInterval = .ofSeconds 240 := by
    decide +kernel
  have level : (Options.ofConfigMap Sample.busy).logFilter = .atLeast .debug := by
    decide +kernel
  have silent : Options.defaults.logFilter = .atLeast .info := by decide +kernel
  refine ⟨op, report, started, ?_, ?_, takes.options, ?_, takes.period, takes.restarted ?_⟩
  · rw [inStep.filter, options, level]
  · rw [inStep.period, options, interval]
  · exact takes.filter.trans silent
  · rw [options, interval]
    decide

end Startup

end FloatingAddress
