import FloatingAddress.Proofs.Series.Lifetime

/-!
# What the status gauge says

Every visit to a guest cluster that is there sets one series: the one under the provider label that
this visit has found. This is the label of the name that the visit was told when it asked for the
provider. The series says afterwards whether the probe was answered. A series under another
label, which an earlier visit had found, is left as it is; so it says what the last visit with that
label has seen, and series of one cluster may say different things. All this is so as long as no
other pair of labels reads the same.
-/

namespace FloatingAddress

open Dialogue Metrics Reconcile
open Operator (Deed)

variable {shown more : List Showing} {m after : Metrics} {cluster provider : String}
  {labels : List String} {op : Operator} {deeds : List Deed}

namespace Metrics

/-- What was shown last in the series of a text. -/
def lastUnder? (shown : List Showing) (key : String) : Option Showing :=
  (shown.filter fun x => seriesKey x.labels = key).getLast?

/-- What was shown last of a guest cluster under a provider label. -/
def lastOf? (shown : List Showing) (cluster provider : String) : Option Showing :=
  (shown.filter fun x => x.cluster = cluster ∧ x.provider = provider).getLast?

/-- Nothing else was shown the labels of which read the same. -/
def Alone (shown : List Showing) (cluster provider : String) : Prop :=
  ∀ x ∈ shown, seriesKey x.labels = seriesKey [cluster, provider] →
    x.cluster = cluster ∧ x.provider = provider

theorem lastUnder?_append (key : String) :
    lastUnder? (shown ++ more) key = (lastUnder? more key).or (lastUnder? shown key) := by
  rw [lastUnder?, List.filter_append, List.getLast?_append]
  rfl

theorem lastOf?_append :
    lastOf? (shown ++ more) cluster provider =
      (lastOf? more cluster provider).or (lastOf? shown cluster provider) := by
  rw [lastOf?, List.filter_append, List.getLast?_append]
  rfl

theorem lastOf?_eq_none (others : ∀ x ∈ shown, x.cluster ≠ cluster) :
    lastOf? shown cluster provider = none := by
  rw [lastOf?, List.getLast?_eq_none_iff, List.filter_eq_nil_iff]
  intro x member
  simp [others x member]

theorem Alone.lastUnder? (alone : Alone shown cluster provider) :
    lastUnder? shown (seriesKey [cluster, provider]) = lastOf? shown cluster provider := by
  refine congrArg List.getLast? (List.filter_congr fun x member => ?_)
  rw [decide_eq_decide]
  refine ⟨alone x member, ?_⟩
  rintro ⟨rfl, rfl⟩
  rfl

/-- Every status series was shown under its labels, and it says what was shown last under their
text. -/
structure Tells (m : Metrics) (shown : List Showing) : Prop where
  origin : ∀ key labels, m.status.labels? key = some labels → ∃ x ∈ shown, x.labels = labels
  last : ∀ labels reading, m.status.reading? labels = some reading →
    ∃ x, lastUnder? shown (seriesKey labels) = some x ∧ reading = x.reading

theorem Tells.congr (tells : m.Tells shown) (same : after.status = m.status) :
    after.Tells shown := by
  constructor
  · rw [same]
    exact tells.origin
  · rw [same]
    exact tells.last

theorem Tells.cleans (tells : m.Tells shown) (cleans : m.Cleans after) : after.Tells shown := by
  constructor
  · exact fun key labels here => tells.origin key labels (cleans.status.labels? here)
  · exact fun labels reading here => tells.last labels reading (cleans.status.reading? here)

theorem reading?_showing (m : Metrics) (cluster provider : String) (up : Bool) :
    (m.apply (.guestStatus cluster provider up)).status.reading? labels =
      if seriesKey [cluster, provider] = seriesKey labels then
        some (Showing.reading { cluster, provider, up })
      else m.status.reading? labels :=
  Family.reading?_update ..

end Metrics

namespace Sweep

/-- After a talk a status series says what was shown last under its text, or what it said before. -/
theorem reading?_metricsAfter (m : Metrics) (talk : List Exchange) (labels : List String) :
    (metricsAfter m talk).status.reading? labels =
      ((lastUnder? (showings talk) (seriesKey labels)).map (·.reading)).or
        (m.status.reading? labels) := by
  induction talk generalizing m with
  | nil => rfl
  | cons x talk ih =>
    have here : (x.1.change m).status.reading? labels =
        ((lastUnder? (showings [x]) (seriesKey labels)).map (·.reading)).or
          (m.status.reading? labels) := by
      obtain ⟨c, answer⟩ := x
      cases c with
      | measure update =>
        cases update with
        | guestStatus cluster provider up =>
          refine (reading?_showing m cluster provider up).trans ?_
          by_cases same : seriesKey [cluster, provider] = seriesKey labels
          · simp [showings, Call.update?, Update.showing?, lastUnder?, Showing.labels, same]
          · simp [showings, Call.update?, Update.showing?, lastUnder?, Showing.labels, same]
        | _ => rfl
      | sweeping on => cases on <;> rfl
      | _ => rfl
    change (metricsAfter (x.1.change m) talk).status.reading? labels = _
    rw [ih, here, showings_cons x talk, lastUnder?_append, Option.map_or, Option.or_assoc]

/-- After a talk a status series has labels that were shown, or it was there before. -/
theorem labels?_metricsAfter {m : Metrics} {talk : List Exchange} {key : String}
    {labels : List String}
    (here : (metricsAfter m talk).status.labels? key = some labels) :
    m.status.labels? key = some labels ∨ ∃ x ∈ showings talk, x.labels = labels := by
  induction talk generalizing m with
  | nil => exact .inl here
  | cons x talk ih =>
    rw [showings_cons]
    obtain earlier | ⟨y, member, same⟩ := ih here
    · obtain ⟨c, answer⟩ := x
      cases c with
      | measure update =>
        cases update with
        | guestStatus cluster provider up =>
          obtain before | ⟨-, rfl⟩ := Family.labels?_update_cases earlier
          · exact .inl before
          · exact .inr ⟨⟨cluster, provider, up⟩,
              List.mem_append_left _ (List.mem_singleton.mpr rfl), rfl⟩
        | _ => exact .inl earlier
      | sweeping on => cases on <;> exact .inl earlier
      | _ => exact .inl earlier
    · exact .inr ⟨y, List.mem_append_right _ member, same⟩

theorem tells_metricsAfter {m : Metrics} {shown : List Showing} (tells : m.Tells shown)
    (talk : List Exchange) : (metricsAfter m talk).Tells (shown ++ showings talk) := by
  constructor
  · intro key labels here
    obtain before | ⟨x, member, same⟩ := labels?_metricsAfter here
    · obtain ⟨x, member, same⟩ := tells.origin key labels before
      exact ⟨x, List.mem_append_left _ member, same⟩
    · exact ⟨x, List.mem_append_right _ member, same⟩
  · intro labels reading here
    rw [reading?_metricsAfter] at here
    rw [lastUnder?_append]
    cases found : lastUnder? (showings talk) (seriesKey labels) with
    | some x =>
      rw [found] at here
      exact ⟨x, rfl, (Option.some.inj here).symm⟩
    | none =>
      rw [found] at here
      exact tells.last labels reading here

end Sweep

namespace Metrics

/-- A series that can be read under labels of its own has these labels. -/
theorem Tells.mem_of_reading? (tells : m.Tells shown) (keyed : m.status.Keyed)
    (alone : Alone shown cluster provider) {reading : Int64}
    (here : m.status.reading? [cluster, provider] = some reading) :
    ∃ s ∈ m.status.toList, s.labels = [cluster, provider] ∧ s.reading = reading := by
  obtain ⟨s, found, rfl⟩ := Option.map_eq_some_iff.mp here
  have shownThere := Family.labels?_of_some found
  obtain ⟨x, member, same⟩ := tells.origin _ _ shownThere
  obtain ⟨rfl, rfl⟩ := alone x member (same ▸ keyed _ _ shownThere)
  exact ⟨s, Family.mem_toList.mpr ⟨_, found⟩, same.symm, rfl⟩

/-- Every series says what was shown last under its labels. -/
theorem Tells.of_mem (tells : m.Tells shown) (keyed : m.status.Keyed) {s : Series Int64}
    (member : s ∈ m.status.toList) : ∃ cluster provider, s.labels = [cluster, provider] ∧
      (Alone shown cluster provider →
        ∃ last, lastOf? shown cluster provider = some last ∧ s.reading = last.reading) := by
  obtain ⟨key, found⟩ := Family.mem_toList.mp member
  obtain ⟨x, -, same⟩ := tells.origin key s.labels (Family.labels?_of_some found)
  refine ⟨x.cluster, x.provider, same.symm, fun alone => ?_⟩
  obtain ⟨last, found, reads⟩ := tells.last s.labels s.reading (keyed.reading?_of_mem member)
  rw [← same, Showing.labels, alone.lastUnder?] at found
  exact ⟨last, found, reads⟩

end Metrics

namespace Operator

def shownBy (op : Operator) : Deed → List Showing
  | .sweep answer s =>
    Sweep.showings ((Sweep.sweep op.options op.inventory.store).transcript answer s)
  | .range .. | .floating .. | .cleanup => []

/-- What is shown in a run of deeds. -/
def shownIn : Operator → List Deed → List Showing
  | _, [] => []
  | op, deed :: deeds => op.shownBy deed ++ (op.carryOut deed).shownIn deeds

theorem shownIn_concat (op : Operator) (deeds : List Deed) (deed : Deed) :
    op.shownIn (deeds ++ [deed]) = op.shownIn deeds ++ (op.after deeds).shownBy deed := by
  induction deeds generalizing op with
  | nil => exact List.append_nil _
  | cons first deeds ih =>
    rw [List.cons_append, shownIn, ih, shownIn, List.append_assoc]
    rfl

theorem shownBy_of_follows {deed : Deed} (follows : deed.Follows) : op.shownBy deed = [] := by
  cases deed with
  | range _ _ | floating _ _ => rfl
  | sweep _ _ | cleanup => exact follows.elim

theorem Settled.tells_carryOut (settled : op.Settled) (tells : op.metrics.Tells shown)
    (deed : Deed) : (op.carryOut deed).metrics.Tells (shown ++ op.shownBy deed) := by
  have leaves := op.leaves_carryOut deed
  generalize (op.carryOut deed).metrics = later at leaves
  cases leaves with
  | alone follows _ same | queued _ follows _ same =>
    rw [shownBy_of_follows follows, List.append_nil]
    exact tells.congr same.status
  | swept answer s => exact Sweep.tells_metricsAfter tells _
  | cleaned =>
    rw [shownBy, List.append_nil]
    exact tells.cleans (cleans settled.idle)

theorem Fresh.tells (fresh : op.Fresh) (deeds : List Deed) :
    (op.after deeds).metrics.Tells (op.shownIn deeds) := by
  induction deeds using List.reverseRecOn with
  | nil =>
    have tracked := fresh.reached.tracked
    have none_shown : ∀ key labels, op.metrics.status.labels? key ≠ some labels := by
      intro key labels here
      obtain ⟨-, c, p, -, rfl⟩ := tracked.status key labels here
      exact fresh.shown c (.inl (Family.shows_iff.mpr ⟨key, _, here, rfl⟩))
    refine ⟨fun key labels here => absurd here (none_shown key labels),
      fun labels reading here => ?_⟩
    obtain ⟨s, found, -⟩ := Option.map_eq_some_iff.mp here
    exact absurd (Family.labels?_of_some found) (none_shown (seriesKey labels) s.labels)
  | append_singleton deeds deed ih =>
    rw [shownIn_concat, after_concat]
    exact (fresh.toSettled.after deeds).tells_carryOut ih deed

end Operator

namespace Sweep

variable {options : Options} {store : Store} {legs : List Leg} {leg : Leg}

/-- The last visit to a guest cluster that was there. -/
def lastVisit? (legs : List Leg) (cluster : String) : Option Leg :=
  (legs.filter fun leg => leg.record.cluster = cluster ∧ leg.orphaned = false).getLast?

/-- What is last among some of the items comes before others only. -/
theorem split_of_getLast?_filter {α : Type} {p : α → Bool} {items : List α} {a : α}
    (last : (items.filter p).getLast? = some a) :
    ∃ front back, items = front ++ a :: back ∧ p a = true ∧ ∀ b ∈ back, ¬p b = true := by
  obtain ⟨rest', same⟩ := List.getLast?_eq_some_iff.mp last
  obtain ⟨front, rest, rfl, -, here⟩ := List.filter_eq_append_iff.mp same
  obtain ⟨between, back, rfl, -, fits, others⟩ := List.filter_eq_cons_iff.mp here
  exact ⟨front ++ between, back, by simp, fits, List.filter_eq_nil_iff.mp others⟩

theorem shown_of_visiting (went : Visiting options store leg.record leg.talk leg.result) :
    leg.orphaned = true ∧ showings leg.talk = [] ∨
    leg.orphaned = false ∧ ∃ up, (up = true ↔ leg.Reached) ∧
      showings leg.talk = [{
        cluster := leg.record.cluster
        provider := providerLabel store leg.record (providerNamed leg.talk)
        up }] := by
  rw [orphaned_eq went]
  cases ended : leg.result with
  | orphaned =>
    rw [ended] at went
    exact .inl ⟨rfl, showings_of_silent went.silent_of_orphaned⟩
  | done failed =>
    rw [ended] at went
    obtain ⟨up, reached, marks⟩ := went.marks
    exact .inr ⟨rfl, up, reached, marks.shown⟩

/-- What the last visit to a guest cluster has shown is the last that was shown of the cluster under
the provider label of the visit. -/
theorem showings_lastVisit?
    (went : ∀ leg ∈ legs, Visiting options store leg.record leg.talk leg.result)
    (last : lastVisit? legs cluster = some leg) : ∃ provider up,
      provider = providerLabel store leg.record (providerNamed leg.talk) ∧
      (up = true ↔ leg.Reached) ∧ showings leg.talk = [{ cluster, provider, up }] ∧
      lastOf? (legs.flatMap fun leg => showings leg.talk) cluster provider =
        some { cluster, provider, up } := by
  obtain ⟨front, back, rfl, fits, others⟩ := split_of_getLast?_filter last
  rw [decide_eq_true_eq] at fits
  obtain ⟨rfl, there⟩ := fits
  obtain ⟨gone, -⟩ | ⟨-, up, reached, shown⟩ := shown_of_visiting (went leg (by simp))
  · rw [there] at gone
    cases gone
  · have later : ∀ x ∈ back.flatMap fun leg => showings leg.talk,
        x.cluster ≠ leg.record.cluster := by
      intro x member same
      obtain ⟨next, visited, here⟩ := List.mem_flatMap.mp member
      obtain ⟨-, silent⟩ | ⟨found, _, -, shown'⟩ :=
        shown_of_visiting (went next (by simp [visited]))
      · rw [silent] at here
        cases here
      · rw [shown', List.mem_singleton] at here
        subst here
        exact others next visited (by simpa using ⟨same, found⟩)
    refine ⟨_, up, rfl, reached, shown, ?_⟩
    rw [List.flatMap_append, List.flatMap_cons, lastOf?_append, lastOf?_append,
      lastOf?_eq_none later, shown]
    simp [lastOf?]

end Sweep

namespace Operator

/-- After a sweep, the last visit to each guest cluster that was there has shown the cluster once,
under the provider label that belongs to the answer to its own question for the name of the
provider, and as up exactly if the probe was answered. The series under this label says what it has
shown. Every status series says what was shown last under its labels in the whole run. Both hold of
labels as long as no other labels in the run read the same. -/
theorem Fresh.status_after_sweep (fresh : op.Fresh) (deeds : List Deed) {σ : Type}
    (answer : (c : Sweep.Call) → σ → Sweep.Answer c × σ) (s : σ) :
    let before := op.after deeds
    let run := deeds ++ [.sweep answer s]
    let status := (op.after run).metrics.status
    let visits := Sweep.tour answer before.options before.inventory.store s
    (∀ cluster leg, Sweep.lastVisit? visits cluster = some leg → ∃ provider up,
      provider = Sweep.providerLabel before.inventory.store leg.record
        (Sweep.providerNamed leg.talk) ∧
      (up = true ↔ leg.Reached) ∧
      Sweep.showings leg.talk = [{ cluster, provider, up }] ∧
      (Alone (op.shownIn run) cluster provider → ∃ series ∈ status.toList,
        series.labels = [cluster, provider] ∧ series.reading = if up then 1 else 0)) ∧
    ∀ series ∈ status.toList, ∃ cluster provider, series.labels = [cluster, provider] ∧
      (Alone (op.shownIn run) cluster provider → ∃ last,
        lastOf? (op.shownIn run) cluster provider = some last ∧
          series.reading = if last.up then 1 else 0) := by
  have settled := fresh.toSettled.after (deeds ++ [.sweep answer s])
  have tells := fresh.tells (deeds ++ [.sweep answer s])
  have keyed := settled.reached.tracked.keyed.1
  refine ⟨fun cluster leg last => ?_, fun series member => tells.of_mem keyed member⟩
  obtain ⟨provider, up, named, reached, shown, lastShown⟩ := Sweep.showings_lastVisit?
    (fun leg member => Sweep.visiting_of_mem_tour answer _ _ member) last
  refine ⟨provider, up, named, reached, shown, fun alone => tells.mem_of_reading? keyed alone ?_⟩
  rw [← Sweep.showings_sweep] at lastShown
  have here : Alone ((op.after deeds).shownBy (.sweep answer s)) cluster provider := by
    refine fun x member => alone x ?_
    rw [shownIn_concat]
    exact List.mem_append_right _ member
  rw [after_concat, carryOut, metrics_swept, Sweep.reading?_metricsAfter]
  rw [shownBy] at here
  rw [here.lastUnder?, lastShown]
  rfl

/-- The last visit of a sweep to a guest cluster has shown something, and a series of the cluster
says otherwise. -/
def Misleads {σ : Type} (op : Operator) (deeds : List Deed)
    (answer : (c : Sweep.Call) → σ → Sweep.Answer c × σ) (s : σ) (cluster : String) : Prop :=
  let before := op.after deeds
  ∃ leg x, Sweep.lastVisit? (Sweep.tour answer before.options before.inventory.store s) cluster =
      some leg ∧ Sweep.showings leg.talk = [x] ∧
    ∃ series ∈ (op.after (deeds ++ [.sweep answer s])).metrics.status.toList,
      series.labels.head? = some cluster ∧ series.reading ≠ x.reading

theorem misleads_of_any {σ : Type} {answer : (c : Sweep.Call) → σ → Sweep.Answer c × σ} {s : σ}
    (x : Showing)
    (visited : (Sweep.lastVisit? (Sweep.tour answer (op.after deeds).options
      (op.after deeds).inventory.store s) cluster).any fun leg => Sweep.showings leg.talk = [x])
    (differs : (op.after (deeds ++ [.sweep answer s])).metrics.status.toList.any fun series =>
      series.labels.head? = some cluster ∧ series.reading ≠ x.reading) :
    op.Misleads deeds answer s cluster := by
  obtain ⟨leg, last, shown⟩ := (Option.any_eq_true ..).mp visited
  obtain ⟨series, member, other⟩ := List.any_eq_true.mp differs
  exact ⟨leg, x, last, of_decide_eq_true shown, series, member, of_decide_eq_true other⟩

end Operator

namespace Sample

/-- A guest cluster was reached under the name of its provider. -/
def reached : List Deed := settledIn ++ [online]

/-- Two guest clusters own an address each. The label of the first one's provider and that of the
second one's range make their labels read the same. -/
def adjoining : List Deed :=
  [.range (.apply (range "blue" "10.0.0.0/28")) accept,
    .range (.apply (provided "right" "10.0.1.0/28" "v-1")) accept,
    .floating (.apply (owned "one" "a" "blue")) accept,
    .floating (.apply (owned "two" "ah" "right")) accept]

/-- The first of the two can be looked up, and the second one cannot. -/
def half (name : String) : Except GuestError (Option GuestCluster) :=
  if name = "a" then .ok (some { name, ns := some "web" }) else .error (.io "closed")

end Sample

namespace Operator

/-- The lookup of the cluster fails, so nobody asks for the name of its provider. Its status is shown
under the label of the range, and this series says that it is down. -/
theorem status_after_sweep_relabelled :
    ∃ leg, Sweep.lastVisit? (Sweep.tour (Sample.finding fun _ => .error (.io "closed"))
        (({} : Operator).after Sample.reached).options
        (({} : Operator).after Sample.reached).inventory.store ()) "guest" = some leg ∧
      Sweep.providerLabel (({} : Operator).after Sample.reached).inventory.store leg.record
        (Sweep.providerNamed leg.talk) = "" ∧
      ¬leg.Reached ∧
      ∃ series ∈
        (({} : Operator).after (Sample.reached ++ [Sample.offline])).metrics.status.toList,
        series.labels = ["guest", ""] ∧ series.reading = 0 := by
  have visited : (Sweep.lastVisit? (Sweep.tour (Sample.finding fun _ => .error (.io "closed"))
      (({} : Operator).after Sample.reached).options
      (({} : Operator).after Sample.reached).inventory.store ()) "guest").any fun leg =>
        Sweep.showings leg.talk = [{ cluster := "guest", provider := "", up := false }] := by
    decide +kernel
  have apart : ∀ x ∈ ({} : Operator).shownIn (Sample.reached ++ [Sample.offline]),
      seriesKey x.labels = seriesKey ["guest", ""] → x.cluster = "guest" ∧ x.provider = "" := by
    decide +kernel
  obtain ⟨leg, last, shown⟩ := (Option.any_eq_true ..).mp visited
  obtain ⟨provider, up, named, reached, shown', series⟩ :=
    (fresh_empty.status_after_sweep Sample.reached
      (Sample.finding fun _ => .error (.io "closed")) ()).1 "guest" leg last
  rw [of_decide_eq_true shown] at shown'
  cases shown'
  rw [Sample.offline]
  exact ⟨leg, last, named.symm, fun there => Bool.false_ne_true (reached.mpr there), series apart⟩

/-- A series that an earlier sweep has written under another provider label still says that the
guest cluster is up, and so does one say of a cluster what was seen of another one. -/
theorem status_contradicts :
    (∃ (op : Operator) (deeds : List Deed)
      (answer : (c : Sweep.Call) → Unit → Sweep.Answer c × Unit) (cluster : String),
        op.Fresh ∧ op.Misleads deeds answer () cluster) ∧
    ∃ (op : Operator) (answer : (c : Sweep.Call) → Unit → Sweep.Answer c × Unit)
      (deeds : List Deed) (cluster provider : String), op.Fresh ∧
        op.Misleads deeds answer () cluster ∧
        ∀ x ∈ op.shownIn (deeds ++ [.sweep answer ()]), x.cluster = cluster →
          x.provider = provider := by
  refine ⟨⟨{}, Sample.reached, Sample.finding fun _ => .error (.io "closed"), "guest", fresh_empty,
    ?_⟩, {}, Sample.finding Sample.half, Sample.adjoining, "a", "hv-1", fresh_empty, ?_, ?_⟩
  · exact misleads_of_any { cluster := "guest", provider := "", up := false }
      (by decide +kernel) (by decide +kernel)
  · exact misleads_of_any { cluster := "a", provider := "hv-1", up := true }
      (by decide +kernel) (by decide +kernel)
  · decide +kernel

end Operator

end FloatingAddress
