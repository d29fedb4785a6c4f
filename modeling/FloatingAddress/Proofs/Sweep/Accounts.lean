import FloatingAddress.Proofs.Metrics.Totals
import FloatingAddress.Proofs.Sweep.InMemory

/-!
# The report of a sweep and its metrics

A sweep reports how many steps failed, and its counters tell the same: each failed step adds one to
a counter with the outcome "error", and nothing else does. A visit counts no step twice. A guest
cluster that is gone leaves no trace in the metrics, and one that is only being set up is shown as
down, without a failure.
-/

namespace FloatingAddress

open Dialogue

namespace Metrics

/-- Whether a change counts a certain step of a visit. -/
def Update.counts (event : Event) : Update → Bool
  | .guestEvent _ _ e _ => e = event
  | _ => false

/-- Whether a change counts a certain outcome. -/
def Update.ends (outcome : Outcome) : Update → Bool
  | .guestEvent _ _ _ o => o = outcome
  | _ => false

end Metrics

namespace Sweep

/-- The change of the metrics that a call asks for. -/
def Call.update? : Call → Option Metrics.Update
  | .measure update => some update
  | _ => none

def Call.change (m : Metrics) : Call → Metrics
  | .measure update => m.apply update
  | .sweeping true => m.beginSweep
  | .sweeping false => m.endSweep
  | _ => m

/-- The metrics after everything that was said. -/
def metricsAfter (m : Metrics) (talk : List Exchange) : Metrics :=
  talk.foldl (fun m x => x.1.change m) m

/-- The metrics of a site become what is said in a sweep. -/
theorem metrics_of_sweep (site : InMemory.Site) :
    (InMemory.Site.sweep.run site).2.operator.metrics = metricsAfter site.operator.metrics
      ((sweep site.operator.options site.operator.inventory.store).transcript InMemory.Site.reply
        site) := by
  rw [InMemory.Site.run_sweep]
  refine (answered_transcript _ _ site).foldl (·.operator.metrics) Call.change fun c site => ?_
  cases c with
  | sweeping on => cases on <;> rfl
  | _ => rfl

/-- How often a step of a visit was counted. -/
def tally (event : Metrics.Event) (talk : List Exchange) : Nat :=
  talk.countP fun x => x.1.update?.any (·.counts event)

/-- How often an outcome was counted. -/
def outcomes (outcome : Metrics.Outcome) (talk : List Exchange) : Nat :=
  talk.countP fun x => x.1.update?.any (·.ends outcome)

@[simp] theorem tally_append {event : Metrics.Event} {first rest : List Exchange} :
    tally event (first ++ rest) = tally event first + tally event rest := List.countP_append

@[simp] theorem outcomes_append {outcome : Metrics.Outcome} {first rest : List Exchange} :
    outcomes outcome (first ++ rest) = outcomes outcome first + outcomes outcome rest :=
  List.countP_append

theorem reached_change {m : Metrics} (reached : m.Reached) (c : Call) : (c.change m).Reached := by
  unfold Call.change
  split
  · exact reached.apply _
  · exact reached.beginSweep
  · exact reached.endSweep
  · exact reached

theorem counted_change {m : Metrics} (reached : m.Reached) (c : Call) (outcome : Metrics.Outcome) :
    (c.change m).counted outcome =
      m.counted outcome + if c.update?.any (·.ends outcome) then 1 else 0 := by
  cases c with
  | measure update =>
    cases update with
    | guestEvent cluster provider event ended =>
      refine (reached.counted_guestEvent cluster provider event ended outcome).trans ?_
      simp [Call.update?, Metrics.Update.ends]
    | _ => rfl
  | sweeping on => cases on <;> rfl
  | _ => rfl

/-- The counters of an outcome add up what was counted. -/
theorem counted_metricsAfter {m : Metrics} (reached : m.Reached) (talk : List Exchange)
    (outcome : Metrics.Outcome) :
    (metricsAfter m talk).counted outcome = m.counted outcome + outcomes outcome talk := by
  induction talk generalizing m with
  | nil => rfl
  | cons x talk ih =>
    have first := counted_change reached x.1 outcome
    have rest := ih (reached_change reached x.1)
    change (metricsAfter (x.1.change m) talk).counted outcome = _
    rw [rest, first, outcomes, outcomes, List.countP_cons]
    omega

variable {options : Options} {store : Store} {target : Target} {component : Chart.Component}
  {event other : Metrics.Event} {record : FloatingRecord} {talk : List Exchange}

theorem tally_eq_zero (silent : ∀ x ∈ talk, x.1.update? = none) : tally event talk = 0 := by
  refine List.countP_eq_zero.mpr fun x member => ?_
  simp [silent x member]

theorem outcomes_eq_zero {outcome : Metrics.Outcome} (silent : ∀ x ∈ talk, x.1.update? = none) :
    outcomes outcome talk = 0 := by
  refine List.countP_eq_zero.mpr fun x member => ?_
  simp [silent x member]

theorem tally_concluded {notice : GuestError → Notice} {result : Except GuestError Bool} :
    tally other (target.concluded event notice result) ≤ if event = other then 1 else 0 := by
  match result with
  | .ok false => simp [Target.concluded, tally]
  | .ok true =>
    simp [Target.concluded, tally, Target.counted, measured, Call.update?, Metrics.Update.counts,
      List.countP_cons]
  | .error error =>
    simp [Target.concluded, tally, Target.counted, measured, reported, Call.update?,
      Metrics.Update.counts, List.countP_cons]

theorem outcomes_concluded {notice : GuestError → Notice} {result : Except GuestError Bool} :
    outcomes .error (target.concluded event notice result) = (isFailed result).toNat := by
  match result with
  | .ok false => rfl
  | .ok true => rfl
  | .error error => rfl

theorem Attempting.silent {result : Except GuestError Bool}
    (h : Attempting options target component talk result) : ∀ x ∈ talk, x.1.update? = none := by
  cases h with
  | unknown => simp [Call.update?]
  | present => simp [Call.update?]
  | called cleared answer => cases cleared <;> simp [Call.update?]

theorem Writing.silent {ns : String} {address : Ipv4} {result : Except GuestError Bool}
    (h : Writing target ns address talk result) : ∀ x ∈ talk, x.1.update? = none := by
  cases h <;> simp [Call.update?]

theorem Installing.tally_le {failed : Bool}
    (h : Installing options target component event talk failed) :
    tally other talk ≤ if event = other then 1 else 0 := by
  obtain ⟨attempt⟩ := h
  rw [tally_append, tally_eq_zero attempt.silent, Nat.zero_add]
  exact tally_concluded

theorem Installing.outcomes_eq {failed : Bool}
    (h : Installing options target component event talk failed) :
    outcomes .error talk = failed.toNat := by
  obtain ⟨attempt⟩ := h
  rw [outcomes_append, outcomes_eq_zero attempt.silent, Nat.zero_add, outcomes_concluded]

theorem Publishing.tally_le {failed : Bool} (h : Publishing options target talk failed) :
    tally other talk ≤ if .configReconcile = other then 1 else 0 := by
  cases h with
  | addressless => simp [tally, reported, Call.update?]
  | tried has attempt =>
    rw [tally_append, tally_eq_zero attempt.silent, Nat.zero_add]
    exact tally_concluded

theorem Publishing.outcomes_eq {failed : Bool} (h : Publishing options target talk failed) :
    outcomes .error talk = failed.toNat := by
  cases h with
  | addressless => rfl
  | tried has attempt =>
    rw [outcomes_append, outcomes_eq_zero attempt.silent, Nat.zero_add, outcomes_concluded]

theorem silent_complaint (complaining : ∀ x ∈ talk, ∃ notice, x = reported notice) :
    ∀ x ∈ talk, x.1.update? = none := by
  intro x member
  obtain ⟨notice, rfl⟩ := complaining x member
  rfl

/-- The work on a guest cluster counts each of its steps once, and not the probe. -/
theorem Serving.tally_le {labels : TextMap} {failed : Nat}
    (h : Serving options labels target talk failed) :
    tally other talk ≤ if .connectivity = other then 0 else 1 := by
  cases h with
  | selected _ complaining installingFirst installingSecond publishing =>
    have first : tally other _ ≤ _ := installingFirst.tally_le
    have second : tally other _ ≤ _ := installingSecond.tally_le
    have last : tally other _ ≤ _ := publishing.tally_le
    rw [tally_append, tally_append, tally_append, tally_eq_zero (silent_complaint complaining)]
    cases other <;> simp_all
  | spared _ complaining publishing =>
    have last : tally other _ ≤ _ := publishing.tally_le
    rw [tally_append, tally_eq_zero (silent_complaint complaining)]
    cases other <;> simp_all

theorem Serving.outcomes_eq {labels : TextMap} {failed : Nat}
    (h : Serving options labels target talk failed) : outcomes .error talk = failed := by
  cases h with
  | @selected _ _ _ _ one two three _ complaining installingFirst installingSecond publishing =>
    rw [outcomes_append, outcomes_append, outcomes_append,
      outcomes_eq_zero (silent_complaint complaining), installingFirst.outcomes_eq,
      installingSecond.outcomes_eq, publishing.outcomes_eq]
    cases one <;> cases two <;> cases three <;> rfl
  | @spared _ _ three _ complaining publishing =>
    rw [outcomes_append, outcomes_eq_zero (silent_complaint complaining), publishing.outcomes_eq]
    cases three <;> rfl

theorem silent_approach_update {cluster : GuestCluster} {name : Except GuestError (Option String)}
    {k : Except GuestError Kubeconfig} :
    ∀ x ∈ approach record cluster name k, x.1.update? = none := by
  simp [approach, Call.update?]

/-- The probe counts itself once at most. -/
theorem Probing.tally_le {result : Except Nat Unit} (h : Probing target talk result) :
    tally other talk ≤ if .connectivity = other then 1 else 0 := by
  cases h <;>
    simp [tally, markedDown, Target.counted, measured, reported, Call.update?,
      Metrics.Update.counts, List.countP_cons]

theorem Probing.outcomes_eq {result : Except Nat Unit} (h : Probing target talk result) :
    outcomes .error talk = match result with
      | .ok () => 0
      | .error failed => failed := by
  cases h <;> rfl

theorem tally_markedDown {cluster provider : String} {notice : Notice} :
    tally other (markedDown cluster provider notice) ≤ 1 := by
  cases other <;>
    simp [tally, markedDown, measured, reported, Call.update?, Metrics.Update.counts]

theorem outcomes_markedDown {cluster provider : String} {notice : Notice} :
    outcomes .error (markedDown cluster provider notice) = 1 := rfl

theorem Visiting.tally_le {result : Visit} (h : Visiting options store record talk result) :
    tally other talk ≤ 1 := by
  cases h with
  | lookupFailed error =>
    rw [tally, List.countP_cons_of_neg (by simp [Call.update?])]
    exact tally_markedDown
  | gone => exact Nat.zero_le 1
  | estranged => exact Nat.zero_le 1
  | locked cluster owns name error =>
    rw [tally_append, tally_eq_zero silent_approach_update, Nat.zero_add]
    exact tally_markedDown
  | stopped cluster owns name kubeconfig probing =>
    rw [tally_append, tally_eq_zero silent_approach_update, Nat.zero_add]
    have probed : tally other _ ≤ _ := probing.tally_le
    split at probed <;> omega
  | served cluster owns name kubeconfig probing serving =>
    have probed : tally other _ ≤ _ := probing.tally_le
    have served : tally other _ ≤ _ := serving.tally_le
    rw [tally_append, tally_append, tally_eq_zero silent_approach_update, Nat.zero_add]
    by_cases here : Metrics.Event.connectivity = other
    · rw [if_pos here] at probed served
      omega
    · rw [if_neg here] at probed served
      omega

/-- A visit counts as many errors as it reports failed steps. -/
theorem Visiting.outcomes_eq {result : Visit} (h : Visiting options store record talk result) :
    outcomes .error talk = result.failed := by
  cases h with
  | lookupFailed error => rfl
  | gone => rfl
  | estranged => rfl
  | locked cluster owns name error =>
    rw [outcomes_append, outcomes_eq_zero silent_approach_update, outcomes_markedDown]
    rfl
  | stopped cluster owns name kubeconfig probing =>
    rw [outcomes_append, outcomes_eq_zero silent_approach_update, probing.outcomes_eq]
    exact Nat.zero_add _
  | served cluster owns name kubeconfig probing serving =>
    rw [outcomes_append, outcomes_append, outcomes_eq_zero silent_approach_update,
      probing.outcomes_eq, serving.outcomes_eq]
    simp

namespace Leg

/-- The registry does not know the guest cluster, or the cluster does not own the namespace. -/
def orphaned (leg : Leg) : Bool :=
  leg.talk.any fun
    | ⟨.getCluster _, .ok found⟩ => !found.any (·.owns leg.record.key.ns)
    | _ => false

/-- A visit leaves the traces in the metrics that it should. -/
structure Accounted (leg : Leg) : Prop where
  /-- No step is counted twice. -/
  once : ∀ event, tally event leg.talk ≤ 1
  /-- If the guest cluster is gone, no series is changed, and nobody else is called. -/
  gone : leg.orphaned = true → ∀ x ∈ leg.talk, x.1.update? = none ∧ x.1.kubeconfig? = none
  /-- If the probe says that the guest cluster is being set up, it is shown as down, and that is
  all. -/
  provisioning : ∀ before k error after, leg.talk = before ++ ⟨.probe k, .error error⟩ :: after →
    error.isProvisioning = true → (∀ x ∈ before, x.1.update? = none) ∧
      ∃ provider, after = [measured (.guestStatus leg.record.cluster provider false)]

end Leg

theorem orphaned_eq {leg : Leg} (h : Visiting options store leg.record leg.talk leg.result) :
    leg.orphaned = leg.result.isOrphaned := by
  obtain ⟨record, talk, result⟩ := leg
  dsimp only at h
  -- What is said on behalf of the target does not tell who owns the namespace.
  have rest : ∀ {target : Target} {talk : List Exchange}, (∀ x ∈ talk, target.Calls x.1) →
      (talk.any fun
        | ⟨.getCluster _, .ok found⟩ => !found.any (·.owns record.key.ns)
        | _ => false) = false := by
    intro target talk calls
    refine List.any_eq_false.mpr fun x member => ?_
    split
    · exact absurd (calls _ member) Target.not_calls_getCluster
    · simp
  cases h with
  | lookupFailed error => simp [Leg.orphaned, markedDown, measured, reported]
  | gone => simp [Leg.orphaned]
  | estranged cluster lost => simp [Leg.orphaned, lost]
  | locked cluster owns name error =>
    simp [Leg.orphaned, approach, markedDown, measured, reported, owns]
  | stopped cluster owns name kubeconfig probing =>
    simp [Leg.orphaned, approach, owns, rest probing.calls]
  | served cluster owns name kubeconfig probing serving =>
    simp [Leg.orphaned, approach, owns, rest probing.calls, rest serving.calls]

theorem Probing.first {result : Except Nat Unit} (h : Probing target talk result) :
    ∃ answer rest, talk = ⟨.probe target.kubeconfig, answer⟩ :: rest ∧
      ∀ x ∈ rest, target.Serves x.1 := by
  cases h <;> refine ⟨_, _, rfl, ?_⟩ <;>
    simp [markedDown, Target.counted, measured, reported, Target.Serves, IsAbout]

/-- After the answer that a guest cluster is being set up, it is shown as down, and that is all. -/
theorem Visiting.provisioning {result : Visit} (h : Visiting options store record talk result)
    {before after : List Exchange} {k : Kubeconfig} {error : GuestError}
    (split : talk = before ++ ⟨.probe k, .error error⟩ :: after)
    (early : error.isProvisioning = true) : (∀ x ∈ before, x.1.update? = none) ∧
      ∃ provider, after = [measured (.guestStatus record.cluster provider false)] := by
  have probed : ⟨.probe k, .error error⟩ ∈ talk := by simp [split]
  cases h with
  | lookupFailed error => simp [markedDown, measured, reported] at probed
  | gone => simp at probed
  | estranged => simp at probed
  | locked => simp [approach, markedDown, measured, reported] at probed
  | stopped cluster owns name kubeconfig probing =>
    obtain ⟨between, rfl, rest⟩ := split_after
      (P := fun x : Exchange => ∃ k, x.1 = .probe k) split (by simp [approach]) ⟨k, rfl⟩
    obtain ⟨answer, others, rfl, serves⟩ := probing.first
    cases between with
    | nil =>
      rw [List.nil_append] at rest
      rw [List.append_nil]
      cases rest
      cases probing with
      | provisioning => exact ⟨silent_approach_update, _, rfl⟩
      | unreachable error failed => simp_all
    | cons y between =>
      obtain ⟨-, rfl⟩ := List.cons.inj rest
      cases serves ⟨.probe k, .error error⟩ (by simp)
  | served cluster owns name kubeconfig probing serving =>
    simp only [List.mem_append] at probed
    obtain (near | answered) | far := probed
    · simp [approach] at near
    · cases probing
      simp [Target.counted, measured] at answered
    · cases serving.serves _ far

theorem accounted_of_visiting {leg : Leg}
    (h : Visiting options store leg.record leg.talk leg.result) : leg.Accounted := by
  refine ⟨fun event => h.tally_le, fun orphaned => ?_,
    fun before k error after split early => h.provisioning split early⟩
  rw [orphaned_eq h] at orphaned
  obtain ⟨record, talk, result⟩ := leg
  dsimp only at h orphaned
  cases result with
  | done failed => cases orphaned
  | orphaned => cases h <;> simp [Call.update?, Call.kubeconfig?]

theorem Call.Closing.update? {c : Call} (h : c.Closing) : c.update? = none := by
  cases c <;> first | rfl | cases h

theorem outcomes_flatMap {outcome : Metrics.Outcome} (legs : List Leg) :
    outcomes outcome (legs.flatMap (·.talk)) =
      (legs.map fun leg => outcomes outcome leg.talk).sum := by
  induction legs with
  | nil => rfl
  | cons leg legs ih => rw [List.flatMap_cons, outcomes_append, ih, List.map_cons, List.sum_cons]

/-- The report of a sweep and its metrics tell the same: what is reported as failed is what the
counters of the outcome "error" gained, what is reported as orphaned are the visits to guest
clusters that are gone, and every visit leaves the traces that it should. -/
theorem report_matches_metrics {σ : Type} (answer : (c : Call) → σ → Answer c × σ)
    (options : Options) (store : Store) (s : σ) {m : Metrics} (reached : m.Reached) :
    (metricsAfter m ((sweep options store).transcript answer s)).counted .error =
        m.counted .error + ((sweep options store).play answer s).1.failed ∧
      ((sweep options store).play answer s).1.orphaned =
        (tour answer options store s).countP (·.orphaned) ∧
      (tour answer options store s).map (·.record) = store.floatings ∧
      (∀ leg ∈ tour answer options store s, leg.Accounted) ∧
      ∃ closing, (sweep options store).transcript answer s =
          ⟨.sweeping true, ()⟩ :: ((tour answer options store s).flatMap (·.talk) ++ closing) ∧
        ∀ x ∈ closing, x.1.update? = none ∧ x.1.kubeconfig? = none := by
  obtain ⟨closing, whole, closes, -⟩ := transcript_sweep answer options store s
  have went : ∀ leg ∈ tour answer options store s,
      Visiting options store leg.record leg.talk leg.result :=
    fun leg member => visiting_of_mem_tour answer options store member
  have failures : (tour answer options store s).map (fun leg => outcomes .error leg.talk) =
      (tour answer options store s).map (·.result.failed) :=
    List.map_congr_left fun leg member => (went leg member).outcomes_eq
  refine ⟨?_, ?_, records_tour answer options store s,
    fun leg member => accounted_of_visiting (went leg member), closing, whole,
    fun x member => ⟨(closes x member).update?, (closes x member).kubeconfig?⟩⟩
  · have ended : outcomes .error closing = 0 :=
      outcomes_eq_zero fun x member => (closes x member).update?
    rw [counted_metricsAfter reached, report_sweep, whole, ← List.singleton_append, outcomes_append,
      outcomes_append, ended, outcomes_flatMap, failures,
      outcomes_eq_zero (List.forall_mem_singleton.mpr rfl), Nat.zero_add, Nat.add_zero]
  · rw [report_sweep]
    exact List.countP_congr fun leg member => by rw [orphaned_eq (went leg member)]

open InMemory in
/-- Two visits fail to install the load balancer, and a guest cluster that is being set up is not
counted as a failure. -/
theorem two_failures_reported :
    (metricsAfter .empty
        ((sweep Sample.options Sample.store).transcript Site.reply Sample.site)).counted .error = 2 ∧
      ((sweep Sample.options Sample.store).play Site.reply Sample.site).1.failed = 2 := by
  have failed : ((sweep Sample.options Sample.store).play Site.reply Sample.site).1.failed = 2 := by
    decide +kernel
  refine ⟨?_, failed⟩
  rw [(report_matches_metrics Site.reply Sample.options Sample.store Sample.site .start).1, failed]
  rfl

end Sweep

end FloatingAddress
