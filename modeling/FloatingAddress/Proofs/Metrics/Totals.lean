import FloatingAddress.Proofs.Metrics.Families
import Mathlib.Algebra.GroupWithZero.Nat

/-!
# How often something was counted

The counters of one outcome are spread over many series. Their total is what the readings of these
series add up to. Counting an event adds one to the total of its outcome and nothing to that of the
other one. This is so because two series of different outcomes are never one and the same: the text
of a series of events ends with its outcome. It holds of metrics that came about by being written.
-/

namespace FloatingAddress.Metrics

namespace Family

/-- A map lists an entry and the rest. -/
theorem toList_perm_of_getElem? {κ ρ : Type} [Ord κ] [Std.TransOrd κ] [Std.LawfulEqOrd κ]
    {map : Std.ExtTreeMap κ ρ} {k : κ} {v : ρ} (found : map[k]? = some v) :
    map.toList.Perm ((k, v) :: (map.erase k).toList) := by
  have nodup : ∀ map : Std.ExtTreeMap κ ρ, map.toList.Nodup := fun map =>
    Std.ExtTreeMap.distinct_keys_toList.imp fun {a b} different same =>
      different (by rw [same]; exact Std.ReflCmp.compare_self)
  refine (List.perm_ext_iff_of_nodup (nodup map) (List.nodup_cons.mpr ⟨?_, nodup _⟩)).mpr ?_
  · simp [Std.ExtTreeMap.mem_toList_iff_getElem?_eq_some]
  · rintro ⟨k', v'⟩
    rw [List.mem_cons, Std.ExtTreeMap.mem_toList_iff_getElem?_eq_some,
      Std.ExtTreeMap.mem_toList_iff_getElem?_eq_some, Std.ExtTreeMap.getElem?_erase, Prod.mk.injEq]
    by_cases same : k = k'
    · subst same
      simp [found, eq_comm]
    · simp [same, Ne.symm same]

/-- What the series with certain labels count, added up. -/
def total (family : Family Nat) (counts : List String → Bool) : Nat :=
  ((family.toList.filter fun s => counts s.labels).map (·.reading)).sum

variable {family : Family Nat} {labels : List String}

/-- What one series counts. -/
def share (counts : List String → Bool) (s : Series Nat) : Nat :=
  if counts s.labels then s.reading else 0

theorem total_eq (family : Family Nat) (counts : List String → Bool) :
    family.total counts = (family.series.toList.map fun entry => share counts entry.2).sum := by
  rw [total, toList]
  induction family.series.toList with
  | nil => rfl
  | cons entry rest ih =>
    rw [List.map_cons, List.map_cons, List.sum_cons, ← ih, List.filter_cons]
    split
    next counted => rw [List.map_cons, List.sum_cons, share, if_pos counted]
    next skipped => rw [share, if_neg skipped, Nat.zero_add]

theorem total_of_getElem? {counts : List String → Bool} {key : String} {s : Series Nat}
    (found : family.series[key]? = some s) :
    family.total counts =
      share counts s + total ⟨family.series.erase key⟩ counts := by
  rw [total_eq, total_eq, ((toList_perm_of_getElem? found).map _).sum_nat, List.map_cons,
    List.sum_cons]

/-- Counting once more adds one to the totals in which the series has a share. -/
theorem total_update_succ (family : Family Nat) (labels : List String)
    (counts : List String → Bool) :
    (family.update labels 0 (· + 1)).total counts = family.total counts +
      if counts ((family.labels? (seriesKey labels)).getD labels) then 1 else 0 := by
  let current := (family.series[seriesKey labels]?).getD { labels, reading := 0 }
  have updated : (family.update labels 0 (· + 1)).series[seriesKey labels]? =
      some { current with reading := current.reading + 1 } := by
    simp [update, current]
  have others : (family.update labels 0 (· + 1)).series.erase (seriesKey labels) =
      family.series.erase (seriesKey labels) := by
    refine Std.ExtTreeMap.ext_getElem? fun {key} => ?_
    rw [update, Std.ExtTreeMap.getElem?_erase, Std.ExtTreeMap.getElem?_erase,
      Std.ExtTreeMap.getElem?_insert]
    split
    · rfl
    · rfl
  have shown : (family.labels? (seriesKey labels)).getD labels = current.labels := by
    unfold labels?
    cases found : family.series[seriesKey labels]? <;> simp [current, found]
  have before : family.total counts = share counts current +
      total ⟨family.series.erase (seriesKey labels)⟩ counts := by
    cases found : family.series[seriesKey labels]? with
    | some s =>
      rw [total_of_getElem? found]
      simp [current, found]
    | none =>
      have fresh : family.series.erase (seriesKey labels) = family.series := by
        refine Std.ExtTreeMap.ext_getElem? fun {key} => ?_
        rw [Std.ExtTreeMap.getElem?_erase]
        split
        next same => rw [← Std.LawfulEqCmp.eq_of_compare same, found]
        · rfl
      rw [fresh]
      simp [current, found, share]
  rw [total_of_getElem? updated, others, before, shown, share, share]
  dsimp only
  split <;> omega

/-- Every series is found by its own labels, which are as they should be. -/
structure Labelled (family : Family Nat) (proper : List String → Prop) : Prop where
  keyed : family.Keyed
  proper : ∀ key labels, family.labels? key = some labels → proper labels

variable {proper : List String → Prop}

theorem labelled_empty : ({} : Family Nat).Labelled proper :=
  ⟨keyed_empty, by simp⟩

theorem Labelled.update (labelled : family.Labelled proper) (fits : proper labels)
    (initial : Nat) (f : Nat → Nat) : (family.update labels initial f).Labelled proper := by
  refine ⟨labelled.keyed.update labels initial f, fun key shown h => ?_⟩
  rw [labels?_update] at h
  split at h
  · obtain rfl := Option.some.inj h
    cases found : family.labels? key with
    | none => exact fits
    | some earlier => exact labelled.proper key earlier found
  · exact labelled.proper key shown h

theorem Labelled.remove (labelled : family.Labelled proper) (labels : List String) :
    (family.remove labels).Labelled proper := by
  refine ⟨labelled.keyed.remove labels, fun key shown h => ?_⟩
  rw [labels?_remove] at h
  split at h
  · cases h
  · exact labelled.proper key shown h

end Family

/-- Metrics come about by changes, cleanups and the marks of sweeps. -/
inductive Reached : Metrics → Prop
  | start : Reached empty
  | apply {m : Metrics} (reached : Reached m) (update : Update) : Reached (m.apply update)
  | cleaned {m : Metrics} (reached : Reached m) : Reached m.cleaned
  | beginSweep {m : Metrics} (reached : Reached m) : Reached m.beginSweep
  | endSweep {m : Metrics} (reached : Reached m) : Reached m.endSweep

def IsEvent (labels : List String) : Prop :=
  ∃ cluster provider event outcome, labels = eventLabels cluster provider event outcome

/-- What holds of the counters and is kept when a series is dropped outlasts a cleanup. -/
theorem cleaned_events (holds : Family Nat → Prop)
    (remove : ∀ {family}, holds family → ∀ labels, holds (family.remove labels)) {m : Metrics}
    (h : holds m.events) : holds m.cleaned.events := by
  have fold : ∀ {α : Type} {f : Metrics → α → Metrics} (items : List α) {m : Metrics},
      (∀ m item, holds m.events → holds (f m item).events) → holds m.events →
      holds (items.foldl f m).events := by
    intro α f items m step h
    induction items generalizing m with
    | nil => exact h
    | cons item items ih => exact ih (step m item h)
  have provider : ∀ cluster m provider, holds m.events →
      holds (dropProvider cluster m provider).events := by
    intro cluster m provider h
    simp only [dropProvider, Event.all, Outcome.all, List.foldl_cons, List.foldl_nil]
    repeat' apply remove
    exact h
  have cluster : ∀ m cluster, holds m.events → holds (dropCluster m cluster).events :=
    fun m cluster h => fold _ (provider cluster) h
  unfold cleaned cleanup
  split
  · exact h
  next _ after same =>
    split at same
    · cases same
    · cases same
      exact fold _ cluster h

theorem Reached.labelled {m : Metrics} (reached : Reached m) : m.events.Labelled IsEvent := by
  induction reached with
  | start => exact Family.labelled_empty
  | apply _ update ih =>
    cases update with
    | guestEvent cluster provider event outcome =>
      exact ih.update ⟨cluster, provider, event, outcome, rfl⟩ 0 _
    | _ => exact ih
  | cleaned _ ih =>
    exact cleaned_events (·.Labelled IsEvent) (fun labelled => labelled.remove) ih
  | beginSweep _ ih => exact ih
  | endSweep _ ih => exact ih

/-- Whether labels are those of an event with a certain outcome. -/
def HasOutcome (outcome : Outcome) (labels : List String) : Bool :=
  labels.getLast? = some outcome.label

/-- How often something ended with an outcome. -/
def counted (m : Metrics) (outcome : Outcome) : Nat := m.events.total (HasOutcome outcome)

theorem hasOutcome_eventLabels {cluster provider : String} {event : Event}
    {outcome other : Outcome} :
    HasOutcome other (eventLabels cluster provider event outcome) = decide (outcome = other) := by
  cases outcome <;> cases other <;> rfl

/-- The text of a series of events ends with its outcome. -/
theorem outcome_of_seriesKey {cluster provider cluster' provider' : String} {event event' : Event}
    {outcome outcome' : Outcome}
    (same : seriesKey (eventLabels cluster provider event outcome) =
      seriesKey (eventLabels cluster' provider' event' outcome')) : outcome = outcome' := by
  have last : ∀ cluster provider event (outcome : Outcome),
      (seriesKey (eventLabels cluster provider event outcome)).toList.getLast? =
        outcome.label.toList.getLast? := by
    intro cluster provider event outcome
    cases outcome <;>
      simp [seriesKey, eventLabels, String.join, Outcome.label, List.getLast?_append]
  have ends := congrArg (·.toList.getLast?) same
  simp only [last] at ends
  cases outcome <;> cases outcome' <;> simp_all [Outcome.label]

/-- Counting an event adds one to the total of its outcome. -/
theorem Reached.counted_guestEvent {m : Metrics} (reached : Reached m) (cluster provider : String)
    (event : Event) (outcome other : Outcome) :
    (m.apply (.guestEvent cluster provider event outcome)).counted other =
      m.counted other + if outcome = other then 1 else 0 := by
  change (m.events.update _ 0 (· + 1)).total _ = _
  obtain ⟨keyed, proper⟩ := reached.labelled
  let labels := eventLabels cluster provider event outcome
  have shown : HasOutcome other ((m.events.labels? (seriesKey labels)).getD labels) =
      decide (outcome = other) := by
    cases found : m.events.labels? (seriesKey labels) with
    | none => exact hasOutcome_eventLabels
    | some earlier =>
      obtain ⟨_, _, _, outcome', rfl⟩ := proper _ _ found
      have same := outcome_of_seriesKey (keyed _ _ found)
      rw [Option.getD_some, hasOutcome_eventLabels, same]
  rw [Family.total_update_succ, shown, counted]
  simp only [decide_eq_true_eq]

end FloatingAddress.Metrics
