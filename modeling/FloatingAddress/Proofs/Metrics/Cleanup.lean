import FloatingAddress.Proofs.Metrics.Dropping
import Mathlib.Data.List.Induction

/-!
# How precise a cleanup is

Metrics come about by what is asked of them, one thing after the other and in any order. Of every
guest cluster that has a series the provider label is known. A cleanup during a sweep does nothing.
Any other one forgets the queue and leaves no series of a queued guest cluster.

It should leave everything else alone. But a series is found by its labels written one after the
other, so that of another guest cluster is dropped as well if its cluster and provider read like
those of a queued one. A cleanup is precise exactly if there is no such series.
-/

namespace FloatingAddress.Metrics

variable {m later : Metrics} {cluster provider cluster' provider' : String}
  {labels : List String}

theorem seriesKey_status : seriesKey [cluster, provider] = cluster ++ provider := by
  simp [seriesKey, String.join]

theorem seriesKey_eventLabels (cluster provider : String) (event : Event) (outcome : Outcome) :
    seriesKey (eventLabels cluster provider event outcome) =
      cluster ++ provider ++ event.label ++ outcome.label := by
  simp [seriesKey, eventLabels, String.join]

/-- A text that ends with the label of a step does not end with that of another one. -/
theorem Event.eq_of_append_label {s t : String} {event other : Event}
    (same : s ++ event.label = t ++ other.label) : event = other := by
  -- The last two letters are enough, and no label is shorter.
  have ends : ∀ (s : String) (event : Event),
      (s ++ event.label).toList.reverse.take 2 = event.label.toList.reverse.take 2 := by
    intro s event
    cases event <;> simp [Event.label]
  have last := congrArg (·.toList.reverse.take 2) same
  simp only [ends] at last
  cases event <;> cases other <;> first | rfl | exact absurd last (by decide)

/-- Two series of events are one exactly if cluster and provider read the same, and step and outcome
are the same. -/
theorem seriesKey_eventLabels_eq_iff {event event' : Event} {outcome outcome' : Outcome} :
    seriesKey (eventLabels cluster provider event outcome) =
        seriesKey (eventLabels cluster' provider' event' outcome') ↔
      cluster ++ provider = cluster' ++ provider' ∧ event = event' ∧ outcome = outcome' := by
  constructor
  · intro same
    obtain rfl := outcome_of_seriesKey same
    rw [seriesKey_eventLabels, seriesKey_eventLabels, String.append_left_inj] at same
    obtain rfl := Event.eq_of_append_label same
    exact ⟨(String.append_left_inj _).mp same, rfl, rfl⟩
  · rintro ⟨same, rfl, rfl⟩
    rw [seriesKey_eventLabels, seriesKey_eventLabels, same]

/-- Labels of a guest cluster belong to a queued one. -/
def IsQueued (m : Metrics) (labels : List String) : Prop :=
  ∃ cluster ∈ m.queue, labels.head? = some cluster

/-- The cluster and the provider of labels read like a queued guest cluster and a provider label
that is known of it. -/
def ReadsQueued (m : Metrics) (labels : List String) : Prop :=
  ∃ cluster ∈ m.queue, ∃ provider, m.Knows cluster provider ∧
    cluster ++ provider = seriesKey (labels.take 2)

theorem readsQueued_status :
    (∃ doomed, StatusOf (fun c p => c ∈ m.queue ∧ m.Knows c p) doomed ∧
      seriesKey doomed = seriesKey [cluster, provider]) ↔ m.ReadsQueued [cluster, provider] := by
  constructor
  · rintro ⟨_, ⟨c, p, ⟨queued, known⟩, rfl⟩, same⟩
    exact ⟨c, queued, p, known, seriesKey_status.symm.trans same⟩
  · rintro ⟨c, queued, p, known, same⟩
    exact ⟨_, ⟨c, p, ⟨queued, known⟩, rfl⟩, seriesKey_status.trans same⟩

theorem readsQueued_event {event : Event} {outcome : Outcome} :
    (∃ doomed, EventOf (fun c p => c ∈ m.queue ∧ m.Knows c p) doomed ∧
      seriesKey doomed = seriesKey (eventLabels cluster provider event outcome)) ↔
    m.ReadsQueued (eventLabels cluster provider event outcome) := by
  constructor
  · rintro ⟨_, ⟨c, p, _, _, ⟨queued, known⟩, rfl⟩, same⟩
    exact ⟨c, queued, p, known,
      (seriesKey_eventLabels_eq_iff.mp same).1.trans seriesKey_status.symm⟩
  · rintro ⟨c, queued, p, known, same⟩
    exact ⟨_, ⟨c, p, event, outcome, ⟨queued, known⟩, rfl⟩,
      seriesKey_eventLabels_eq_iff.mpr ⟨same.trans seriesKey_status, rfl, rfl⟩⟩

/-- No other guest cluster and provider label that are known read like these. -/
def ReadsAlone (m : Metrics) (cluster provider : String) : Prop :=
  ∀ c p, m.Knows c p → seriesKey [c, p] = seriesKey [cluster, provider] →
    c = cluster ∧ p = provider

theorem readsAlone_of_forall
    (apart : ∀ entry ∈ m.providers.toList, ∀ p ∈ entry.2.toList,
      seriesKey [entry.1, p] = seriesKey [cluster, provider] →
        entry.1 = cluster ∧ p = provider) : m.ReadsAlone cluster provider := by
  intro c p known same
  rw [Knows] at known
  cases found : m.providers[c]? with
  | none => simp [found] at known
  | some providers =>
    rw [found, Option.getD_some] at known
    exact apart (c, providers) (Std.ExtTreeMap.mem_toList_iff_getElem?_eq_some.mpr found) p
      (Std.ExtTreeSet.mem_toList.mpr known) same

/-- If no others read like them, labels read like a queued guest cluster only if theirs is queued. -/
theorem ReadsAlone.readsQueued_iff (alone : m.ReadsAlone cluster provider)
    (known : m.Knows cluster provider) (rest : List String) :
    m.ReadsQueued (cluster :: provider :: rest) ↔ cluster ∈ m.queue := by
  constructor
  · rintro ⟨c, queued, p, other, same⟩
    obtain ⟨rfl, -⟩ := alone c p other (seriesKey_status.trans same)
    exact queued
  · exact fun queued => ⟨cluster, queued, provider, known, seriesKey_status.symm⟩

theorem Tracked.keyed (tracked : m.Tracked) : m.status.Keyed ∧ m.events.Keyed :=
  ⟨fun key labels h => (tracked.status key labels h).1,
    fun key labels h => (tracked.events key labels h).1⟩

/-- The provider label of every series of a guest cluster is known. -/
theorem Tracked.statusOf (tracked : m.Tracked) {s : Series Int64} (member : s ∈ m.status.toList) :
    StatusOf m.Knows s.labels := by
  obtain ⟨key, found⟩ := Family.mem_toList.mp member
  exact (tracked.status key s.labels (Family.labels?_of_some found)).2

theorem Tracked.eventOf (tracked : m.Tracked) {s : Series Nat} (member : s ∈ m.events.toList) :
    EventOf m.Knows s.labels := by
  obtain ⟨key, found⟩ := Family.mem_toList.mp member
  exact (tracked.events key s.labels (Family.labels?_of_some found)).2

/-- A cleanup drops a series exactly if it reads like one of a queued guest cluster. -/
theorem Tracked.mem_cleans_iff (tracked : m.Tracked) (cleans : m.Cleans later) :
    (∀ s, s ∈ later.status.toList ↔ s ∈ m.status.toList ∧ ¬m.ReadsQueued s.labels) ∧
      ∀ s, s ∈ later.events.toList ↔ s ∈ m.events.toList ∧ ¬m.ReadsQueued s.labels := by
  constructor
  · intro s
    rw [cleans.status.mem_iff tracked.keyed.1, and_congr_right_iff]
    intro member
    obtain ⟨c, p, -, own⟩ := tracked.statusOf member
    rw [own, readsQueued_status]
  · intro s
    rw [cleans.events.mem_iff tracked.keyed.2, and_congr_right_iff]
    intro member
    obtain ⟨c, p, event, outcome, -, own⟩ := tracked.eventOf member
    rw [own, readsQueued_event]

/-- The gauges of ranges stay as they are. -/
structure SameRanges (m later : Metrics) : Prop where
  capacity : later.capacity = m.capacity
  reserved : later.reserved = m.reserved

theorem sameRanges_foldl {α : Type} {f : Metrics → α → Metrics}
    (step : ∀ m item, SameRanges m (f m item)) (items : List α) (m : Metrics) :
    SameRanges m (items.foldl f m) := by
  induction items generalizing m with
  | nil => exact ⟨rfl, rfl⟩
  | cons item items ih =>
    exact ⟨(ih _).capacity.trans (step m item).capacity,
      (ih _).reserved.trans (step m item).reserved⟩

theorem sameRanges_dropCluster (m : Metrics) (cluster : String) :
    SameRanges m (m.dropCluster cluster) := by
  have each : ∀ m provider, SameRanges m (dropProvider cluster m provider) :=
    fun _ _ => ⟨rfl, rfl⟩
  have all := sameRanges_foldl each ((m.providers[cluster]?).getD ∅).toList m
  exact ⟨all.capacity, all.reserved⟩

theorem sameRanges_cleaned (m : Metrics) : SameRanges m m.cleaned := by
  cases busy : m.sweeping with
  | true =>
    rw [cleaned_of_sweeping busy]
    exact ⟨rfl, rfl⟩
  | false =>
    have all := sameRanges_foldl sameRanges_dropCluster m.queue.toList m
    rw [cleaned, cleanup, if_neg (by simp [busy])]
    exact ⟨all.capacity, all.reserved⟩

theorem cleanup_of_idle (idle : m.sweeping = false) :
    m.cleanup = some (m.queue.size, m.cleaned) := by
  rw [cleaned, cleanup, if_neg (by simp [idle])]

/-- A cleanup has dropped the series of the queued guest clusters, and nothing else has changed. -/
structure Precise (m later : Metrics) : Prop extends SameRanges m later where
  gone : ∀ cluster ∈ m.queue, ¬later.Shows cluster
  status : ∀ s : Series Int64, ¬m.IsQueued s.labels →
    (s ∈ later.status.toList ↔ s ∈ m.status.toList)
  events : ∀ s : Series Nat, ¬m.IsQueued s.labels →
    (s ∈ later.events.toList ↔ s ∈ m.events.toList)

/-- No series of a guest cluster that is not queued reads like one of a queued guest cluster. -/
structure Unmistakable (m : Metrics) : Prop where
  status : ∀ s ∈ m.status.toList, ¬m.IsQueued s.labels → ¬m.ReadsQueued s.labels
  events : ∀ s ∈ m.events.toList, ¬m.IsQueued s.labels → ¬m.ReadsQueued s.labels

theorem unmistakable_of_forall
    (apart : ∀ cluster ∈ m.queue.toList, ∀ provider ∈ ((m.providers[cluster]?).getD ∅).toList,
      (∀ s ∈ m.status.toList, cluster ++ provider = seriesKey (s.labels.take 2) →
        s.labels.head? = some cluster) ∧
      ∀ s ∈ m.events.toList, cluster ++ provider = seriesKey (s.labels.take 2) →
        s.labels.head? = some cluster) : m.Unmistakable := by
  simp only [Std.ExtTreeSet.mem_toList] at apart
  constructor
  · rintro s member other ⟨cluster, queued, provider, known, same⟩
    exact other ⟨cluster, queued, (apart cluster queued provider known).1 s member same⟩
  · rintro s member other ⟨cluster, queued, provider, known, same⟩
    exact other ⟨cluster, queued, (apart cluster queued provider known).2 s member same⟩

theorem Tracked.precise_iff (tracked : m.Tracked) (idle : m.sweeping = false) :
    Precise m m.cleaned ↔ m.Unmistakable := by
  have after := Metrics.cleans idle
  obtain ⟨status, events⟩ := tracked.mem_cleans_iff after
  constructor
  · intro precise
    exact ⟨fun s member other => ((status s).mp ((precise.status s other).mpr member)).2,
      fun s member other => ((events s).mp ((precise.events s other).mpr member)).2⟩
  · intro apart
    refine ⟨sameRanges_cleaned m, fun cluster queued shown => ?_, fun s other => ?_,
      fun s other => ?_⟩
    · exact (tracked.shows_cleans after shown).2 queued
    · rw [status, and_iff_left_iff_imp]
      exact fun member => apart.status s member other
    · rw [events, and_iff_left_iff_imp]
      exact fun member => apart.events s member other

/-- Something that is asked of the metrics. -/
inductive Action
  | update (update : Update)
  | beginSweep
  | endSweep
  | cleanup

def carryOut (m : Metrics) : Action → Metrics
  | .update update => m.apply update
  | .beginSweep => m.beginSweep
  | .endSweep => m.endSweep
  | .cleanup => m.cleaned

def after (m : Metrics) (actions : List Action) : Metrics := actions.foldl carryOut m

variable {actions : List Action} {action : Action}

theorem after_concat (m : Metrics) (actions : List Action) (action : Action) :
    m.after (actions ++ [action]) = (m.after actions).carryOut action := by
  rw [after, List.foldl_append]
  rfl

theorem reached_after (actions : List Action) : (empty.after actions).Reached := by
  induction actions using List.reverseRecOn with
  | nil => exact .start
  | append_singleton actions action ih =>
    rw [after_concat]
    cases action with
    | update update => exact ih.apply update
    | beginSweep => exact ih.beginSweep
    | endSweep => exact ih.endSweep
    | cleanup => exact ih.cleaned

/-- A sweep has begun, and none has ended since. -/
def Marked (actions : List Action) : Prop :=
  ∃ before since, actions = before ++ .beginSweep :: since ∧ .endSweep ∉ since

/-- The guest cluster was queued, and every cleanup since then was skipped. -/
def QueuedSince (actions : List Action) (cluster : String) : Prop :=
  ∃ before since, actions = before ++ .update (.queueCleanup cluster) :: since ∧
    ∀ upto rest, since = upto ++ .cleanup :: rest →
      Marked (before ++ .update (.queueCleanup cluster) :: upto)

/-- What is said of an element of a longer list is said of the last one or of an earlier one. -/
theorem concat_eq_append_cons_iff {α : Type*} {list before since : List α} {last a : α} :
    list ++ [last] = before ++ a :: since ↔
      (list = before ∧ last = a ∧ since = []) ∨
        ∃ between, since = between ++ [last] ∧ list = before ++ a :: between := by
  constructor
  · intro split
    obtain rfl | ⟨between, final, rfl⟩ := List.eq_nil_or_concat since
    · obtain ⟨rfl, same⟩ := List.append_inj' split rfl
      exact .inl ⟨rfl, (List.cons.inj same).1, rfl⟩
    · rw [List.concat_eq_append, ← List.cons_append, ← List.append_assoc] at split
      obtain ⟨rfl, same⟩ := List.append_inj' split rfl
      obtain rfl := (List.cons.inj same).1
      exact .inr ⟨between, List.concat_eq_append, rfl⟩
  · rintro (⟨rfl, rfl, rfl⟩ | ⟨between, rfl, rfl⟩)
    · rfl
    · rw [List.append_assoc, List.cons_append]

theorem marked_concat :
    Marked (actions ++ [action]) ↔ action = .beginSweep ∨ action ≠ .endSweep ∧ Marked actions := by
  constructor
  · rintro ⟨before, since, split, lasting⟩
    obtain ⟨-, last, -⟩ | ⟨between, rfl, rfl⟩ := concat_eq_append_cons_iff.mp split
    · exact .inl last
    · simp only [List.mem_append, List.mem_singleton, not_or] at lasting
      exact .inr ⟨Ne.symm lasting.2, before, between, rfl, lasting.1⟩
  · rintro (rfl | ⟨other, before, since, rfl, lasting⟩)
    · exact ⟨actions, [], rfl, List.not_mem_nil⟩
    · refine ⟨before, since ++ [action], concat_eq_append_cons_iff.mpr (.inr ⟨_, rfl, rfl⟩), ?_⟩
      simp only [List.mem_append, List.mem_singleton, not_or]
      exact ⟨lasting, Ne.symm other⟩

theorem queuedSince_concat : QueuedSince (actions ++ [action]) cluster ↔
    action = .update (.queueCleanup cluster) ∨
      QueuedSince actions cluster ∧ (action = .cleanup → Marked actions) := by
  constructor
  · rintro ⟨before, since, split, skipped⟩
    obtain ⟨-, last, -⟩ | ⟨between, rfl, rfl⟩ := concat_eq_append_cons_iff.mp split
    · exact .inl last
    · refine .inr ⟨⟨before, between, rfl, fun upto rest same => ?_⟩, ?_⟩
      · exact skipped upto (rest ++ [action]) (by rw [same, List.append_assoc, List.cons_append])
      · rintro rfl
        exact skipped between [] rfl
  · rintro (rfl | ⟨⟨before, since, rfl, skipped⟩, last⟩)
    · exact ⟨actions, [], rfl, by simp⟩
    · refine ⟨before, since ++ [action], concat_eq_append_cons_iff.mpr (.inr ⟨_, rfl, rfl⟩),
        fun upto rest split => ?_⟩
      obtain ⟨rfl, cleaned, -⟩ | ⟨between, rfl, rfl⟩ := concat_eq_append_cons_iff.mp split
      · exact last cleaned
      · exact skipped upto between rfl

theorem sweeping_cleaned (m : Metrics) : m.cleaned.sweeping = m.sweeping := by
  cases busy : m.sweeping with
  | true => rw [cleaned_of_sweeping busy, busy]
  | false => exact (Metrics.cleans busy).sweeping

theorem sweeping_iff (actions : List Action) :
    (empty.after actions).sweeping = true ↔ Marked actions := by
  induction actions using List.reverseRecOn with
  | nil => exact iff_of_false Bool.false_ne_true (by simp [Marked])
  | append_singleton actions action ih =>
    rw [after_concat, marked_concat, ← ih]
    cases action with
    | update update => cases update <;> simp [carryOut, apply, track]
    | beginSweep => simp [carryOut, Metrics.beginSweep]
    | endSweep => simp [carryOut, Metrics.endSweep]
    | cleanup => simp [carryOut, sweeping_cleaned]

theorem mem_queue_iff (actions : List Action) (cluster : String) :
    cluster ∈ (empty.after actions).queue ↔ QueuedSince actions cluster := by
  induction actions using List.reverseRecOn with
  | nil => exact iff_of_false (by simp [after, empty]) (by simp [QueuedSince])
  | append_singleton actions action ih =>
    rw [after_concat, queuedSince_concat, ← ih]
    cases action with
    | update update =>
      cases update with
      | queueCleanup queued =>
        simp [carryOut, apply, Std.ExtTreeSet.mem_insert, @eq_comm _ queued]
      | _ => simp [carryOut, apply, track]
    | beginSweep => simp [carryOut, Metrics.beginSweep]
    | endSweep => simp [carryOut, Metrics.endSweep]
    | cleanup =>
      rw [← sweeping_iff]
      cases busy : (empty.after actions).sweeping with
      | true => simp [carryOut, cleaned_of_sweeping busy]
      | false => simp [carryOut, (Metrics.cleans busy).queue]

/-- Whatever is asked of the metrics, the provider label of every series of a guest cluster is
known. A cleanup during a sweep does nothing. Any other one tells how many guest clusters were
queued, forgets them, and leaves no series of theirs; of all others it drops exactly those that read
like one of a queued guest cluster. So it is precise exactly if there is none of these. -/
theorem cleanup_precise_iff (actions : List Action) :
    let m := empty.after actions
    (∀ s ∈ m.status.toList, StatusOf m.Knows s.labels) ∧
    (∀ s ∈ m.events.toList, EventOf m.Knows s.labels) ∧
    (Marked actions → m.cleanup = none ∧ m.carryOut .cleanup = m) ∧
    (¬Marked actions → ∃ (queued : List String) (later : Metrics),
      queued.Nodup ∧ (∀ cluster, cluster ∈ queued ↔ QueuedSince actions cluster) ∧
      m.cleanup = some (queued.length, later) ∧ m.carryOut .cleanup = later ∧
      later.queue = ∅ ∧ (∀ cluster ∈ queued, ¬later.Shows cluster) ∧ SameRanges m later ∧
      (∀ s, s ∈ later.status.toList ↔ s ∈ m.status.toList ∧ ¬m.ReadsQueued s.labels) ∧
      (∀ s, s ∈ later.events.toList ↔ s ∈ m.events.toList ∧ ¬m.ReadsQueued s.labels) ∧
      (Precise m later ↔ m.Unmistakable)) := by
  intro m
  have tracked : m.Tracked := (reached_after actions).tracked
  refine ⟨fun s => tracked.statusOf, fun s => tracked.eventOf, fun marked => ?_, fun unmarked => ?_⟩
  · have busy : m.sweeping = true := (sweeping_iff actions).mpr marked
    exact ⟨by rw [cleanup, if_pos busy], cleaned_of_sweeping busy⟩
  · have idle : m.sweeping = false :=
      Bool.eq_false_iff.mpr fun busy => unmarked ((sweeping_iff actions).mp busy)
    have cleans := cleans idle
    obtain ⟨status, events⟩ := tracked.mem_cleans_iff cleans
    refine ⟨m.queue.toList, m.cleaned, ?_, fun cluster => ?_, ?_, rfl, cleans.queue,
      fun cluster queued shown => ?_, sameRanges_cleaned m, status, events,
      tracked.precise_iff idle⟩
    · exact Std.ExtTreeSet.distinct_toList.imp fun different same =>
        different (Std.LawfulEqCmp.compare_eq_iff_eq.mpr same)
    · rw [Std.ExtTreeSet.mem_toList, mem_queue_iff]
    · rw [Std.ExtTreeSet.length_toList, cleanup_of_idle idle]
    · exact (tracked.shows_cleans cleans shown).2 (Std.ExtTreeSet.mem_toList.mp queued)

end FloatingAddress.Metrics

namespace FloatingAddress.Sample

open Metrics

/-- A guest cluster is up and another one fails, the latter being queued. Their names and providers
read the same. -/
def namesake : List Action :=
  [.update (.guestStatus "lab" "1hv" true), .update (.guestEvent "lab1" "hv" .connectivity .error),
    .update (.queueCleanup "lab1")]

/-- A guest cluster has series under two provider labels and is queued. The first cleanup comes
during a sweep. -/
def relabelled : List Action :=
  [.update (.guestStatus "guest-a" "hv-1" true), .update (.guestStatus "guest-a" "" false),
    .update (.guestEvent "guest-a" "hv-1" .installSecondary .error),
    .update (.guestStatus "guest-b" "hv-1" true), .update (.queueCleanup "guest-a"),
    .beginSweep, .cleanup, .endSweep]

end FloatingAddress.Sample

namespace FloatingAddress.Metrics

/-- A cleanup drops the status of a guest cluster that is not queued. -/
theorem namesake_dropped :
    ¬Marked Sample.namesake ∧ ¬QueuedSince Sample.namesake "lab" ∧
      ∃ s ∈ (empty.after Sample.namesake).status.toList, s.labels = ["lab", "1hv"] ∧
        s ∉ (empty.after (Sample.namesake ++ [.cleanup])).status.toList := by
  refine ⟨?_, ?_, ⟨["lab", "1hv"], 1⟩, ?_, rfl, ?_⟩
  · rw [← sweeping_iff]
    decide +kernel
  · rw [← mem_queue_iff]
    decide +kernel
  · decide +kernel
  · decide +kernel

/-- No other guest cluster reads like the one that is queued, and its series are dropped. -/
theorem cleanup_precise_iff_relabelled : ¬Marked Sample.relabelled ∧
    ∃ later, (empty.after Sample.relabelled).cleanup = some (1, later) ∧
      Precise (empty.after Sample.relabelled) later := by
  have unmarked : ¬Marked Sample.relabelled := by
    rw [← sweeping_iff]
    decide +kernel
  obtain ⟨queued, later, -, -, cleaned, -, -, -, -, -, -, precise⟩ :=
    (cleanup_precise_iff Sample.relabelled).2.2.2 unmarked
  have size : (empty.after Sample.relabelled).cleanup.map (·.1) = some 1 := by decide +kernel
  rw [cleaned] at size
  have single : queued.length = 1 := Option.some.inj size
  exact ⟨unmarked, later, single ▸ cleaned,
    precise.mpr (unmistakable_of_forall (by decide +kernel))⟩

end FloatingAddress.Metrics
