import FloatingAddress.Proofs.Sweep.Course
import Mathlib.Algebra.GroupWithZero.Nat

/-!
# The visits of a sweep

A sweep is a tour: it visits the guest clusters of all records, one after the other and in the order
of their identities, and then only closes its books. `tour` lists the visits of a run, each with
what was said there and how it ended. The transcript of the sweep is that of its visits put
together, and its report is the sum of theirs.
-/

namespace FloatingAddress

open Dialogue

namespace RecordKey

/-- Keys are ordered by namespace, and by name within one namespace. -/
def Before (key other : RecordKey) : Prop :=
  key.ns < other.ns ∨ key.ns = other.ns ∧ key.name < other.name

theorem lt_of_compare {a b : String} (h : compare a b = .lt) : a < b := by
  change compareOfLessAndEq a b = .lt at h
  rw [compareOfLessAndEq] at h
  split at h
  · assumption
  · split at h <;> cases h

theorem before_of_compare {key other : RecordKey} (h : compare key other = .lt) :
    key.Before other := by
  replace h : (compare key.ns other.ns).then (compare key.name other.name) = .lt := h
  rw [Ordering.then_eq_lt] at h
  obtain h | ⟨same, h⟩ := h
  · exact .inl (lt_of_compare h)
  · exact .inr ⟨Std.LawfulEqCmp.eq_of_compare same, lt_of_compare h⟩

end RecordKey

/-- The records of floating addresses are listed by namespace and name, each of them once. -/
theorem Store.floatings_ordered (store : Store) :
    ∃ keys : List RecordKey, keys.Pairwise RecordKey.Before ∧
      (∀ key, key ∈ keys ↔ (store.floating? key).isSome) ∧
      store.floatings.map some = keys.map store.floating? := by
  refine ⟨store.floatingRecords.keys,
    Std.ExtTreeMap.ordered_keys.imp RecordKey.before_of_compare, fun key => ?_, ?_⟩
  · rw [Std.ExtTreeMap.mem_keys, Std.ExtTreeMap.mem_iff_isSome_getElem?]
    rfl
  · rw [Store.floatings, ← Std.ExtTreeMap.map_fst_toList_eq_keys, List.map_map, List.map_map]
    refine List.map_congr_left fun entry member => ?_
    exact (Std.ExtTreeMap.mem_toList_iff_getElem?_eq_some.mp member).symm

namespace Sweep

/-- A visit of a sweep: whose guest cluster was visited, what was said, and how it ended. -/
structure Leg where
  record : FloatingRecord
  talk : List Exchange
  result : Visit

section Tour

variable {σ : Type} (answer : (c : Call) → σ → Answer c × σ) (options : Options) (store : Store)

/-- The visits to the guest clusters of records. -/
def legs : List FloatingRecord → σ → List Leg
  | [], _ => []
  | record :: records, s =>
    let d := visit options store record
    { record, talk := d.transcript answer s, result := (d.play answer s).1 } ::
      legs records (d.play answer s).2

def tour (s : σ) : List Leg :=
  legs answer options store store.floatings (answer (.sweeping true) s).2

theorem records_legs (records : List FloatingRecord) (s : σ) :
    (legs answer options store records s).map (·.record) = records := by
  induction records generalizing s with
  | nil => rfl
  | cons record records ih => rw [legs, List.map_cons, ih]

theorem records_tour (s : σ) :
    (tour answer options store s).map (·.record) = store.floatings :=
  records_legs answer options store store.floatings _

/-- Every visit goes in one of the ways in which a visit may go. -/
theorem visiting_of_mem_legs {records : List FloatingRecord} {s : σ} {leg : Leg}
    (member : leg ∈ legs answer options store records s) :
    Visiting options store leg.record leg.talk leg.result := by
  induction records generalizing s with
  | nil => cases member
  | cons record records ih =>
    obtain rfl | further := List.mem_cons.mp member
    · exact visiting (mayGo_transcript answer _ s)
    · exact ih further

theorem visiting_of_mem_tour {s : σ} {leg : Leg} (member : leg ∈ tour answer options store s) :
    Visiting options store leg.record leg.talk leg.result :=
  visiting_of_mem_legs answer options store member

def afterLegs : List FloatingRecord → σ → σ
  | [], s => s
  | record :: records, s => afterLegs records ((visit options store record).play answer s).2

theorem play_visitAll_snd (report : Report) (records : List FloatingRecord) (s : σ) :
    ((visitAll options store report records).play answer s).2 =
      afterLegs answer options store records s := by
  induction records generalizing report s with
  | nil => rfl
  | cons record records ih => rw [visitAll, play_bind, ih, afterLegs]

def afterTour (s : σ) : σ :=
  afterLegs answer options store store.floatings (answer (.sweeping true) s).2

theorem transcript_visitAll (report : Report) (records : List FloatingRecord) (s : σ) :
    (visitAll options store report records).transcript answer s =
      (legs answer options store records s).flatMap (·.talk) := by
  induction records generalizing report s with
  | nil => rfl
  | cons record records ih =>
    rw [visitAll, transcript_bind, ih, legs, List.flatMap_cons]

theorem report_visitAll (report : Report) (records : List FloatingRecord) (s : σ) :
    ((visitAll options store report records).play answer s).1 =
      (legs answer options store records s).foldl (fun r leg => r.add leg.result) report := by
  induction records generalizing report s with
  | nil => rfl
  | cons record records ih => rw [visitAll, play_bind, ih, legs, List.foldl_cons]

@[simp] def Visit.failed : Visit → Nat
  | .orphaned => 0
  | .done failed => failed

@[simp] def Visit.isOrphaned : Visit → Bool
  | .orphaned => true
  | .done _ => false

theorem foldl_add (legs : List Leg) (report : Report) :
    legs.foldl (fun r leg => r.add leg.result) report =
      { visited := report.visited + legs.length
        orphaned := report.orphaned + legs.countP (·.result.isOrphaned)
        failed := report.failed + (legs.map (·.result.failed)).sum } := by
  induction legs generalizing report with
  | nil => rfl
  | cons leg legs ih =>
    rw [List.foldl_cons, ih, List.length_cons, List.countP_cons, List.map_cons, List.sum_cons]
    cases leg.result with
    | orphaned => simp [Report.add]; omega
    | done failed => simp [Report.add]; omega

/-- What is asked when the books are closed: how a range is used, and nothing that goes outside. -/
def Call.Closing : Call → Prop
  | .sweeping _ | .holdings _ | .report _ => True
  | _ => False

theorem Call.Closing.kubeconfig? {c : Call} (h : c.Closing) : c.kubeconfig? = none := by
  cases c <;> simp_all [Closing, Call.kubeconfig?]

/-- The end of a sweep, after the visits. -/
def close (options : Options) (store : Store) (report : Report) : Step Report := do
  if options.traceInventory then traceStore store
  step (.sweeping false)
  return report

theorem sweep_eq : sweep options store =
    (do
      step (.sweeping true)
      let report ← visitAll options store {} store.floatings
      close options store report) := rfl

theorem closing_forM {α : Type} {f : α → Step Unit} (items : List α)
    (each : ∀ item talk x, MayGo (f item) talk x → ∀ x ∈ talk, Call.Closing x.1)
    {talk : List Exchange} {x : Unit} (h : MayGo (items.forM f) talk x) :
    ∀ x ∈ talk, Call.Closing x.1 := by
  induction items generalizing talk with
  | nil =>
    obtain ⟨rfl, -⟩ := mayGo_pure_iff.mp h
    simp
  | cons item items ih =>
    obtain ⟨_, first, rest, here, further, rfl⟩ := MayGo.of_bind h
    intro x member
    obtain member | member := List.mem_append.mp member
    · exact each item first _ here x member
    · exact ih further x member

theorem closing_traceStore {talk : List Exchange} {x : Unit}
    (h : MayGo (traceStore store) talk x) : ∀ x ∈ talk, Call.Closing x.1 := by
  have reporting : ∀ notice talk u, MayGo (report notice) talk u →
      ∀ x ∈ talk, Call.Closing x.1 := by
    intro notice talk u h
    rw [mayGo_step_iff.mp h]
    simp [Call.Closing]
  obtain ⟨_, first, rest, floatings, ranges, rfl⟩ := h.of_bind
  intro x member
  obtain member | member := List.mem_append.mp member
  · exact closing_forM _ (fun record => reporting (.floatingTrace record)) floatings x member
  · refine closing_forM _ (fun range talk u h => ?_) ranges x member
    obtain ⟨_, rest, rfl, shown⟩ := mayGo_step_bind_iff.mp h
    intro x member
    obtain rfl | member := List.mem_cons.mp member
    · trivial
    · exact reporting _ _ _ shown x member

theorem closing_close {report result : Report} {talk : List Exchange}
    (h : MayGo (close options store report) talk result) :
    result = report ∧ ∀ x ∈ talk, Call.Closing x.1 := by
  have ending : ∀ {talk}, MayGo (do step (.sweeping false); return report) talk result →
      result = report ∧ ∀ x ∈ talk, Call.Closing x.1 := by
    intro talk h
    obtain ⟨_, _, rfl, rest⟩ := mayGo_step_bind_iff.mp h
    obtain ⟨rfl, rfl⟩ := mayGo_pure_iff.mp rest
    simp [Call.Closing]
  unfold close at h
  split at h
  · obtain ⟨_, first, rest, traced, ended, rfl⟩ := MayGo.of_bind h
    obtain ⟨same, closing⟩ := ending ended
    refine ⟨same, fun x member => ?_⟩
    obtain member | member := List.mem_append.mp member
    · exact closing_traceStore store traced x member
    · exact closing x member
  · exact ending h

theorem transcript_step_bind {α : Type} (c : Call) (next : Answer c → Step α) (s : σ) :
    (step c >>= next).transcript answer s =
      ⟨c, (answer c s).1⟩ :: (next (answer c s).1).transcript answer (answer c s).2 := rfl

theorem play_step_bind {α : Type} (c : Call) (next : Answer c → Step α) (s : σ) :
    (step c >>= next).play answer s = (next (answer c s).1).play answer (answer c s).2 := rfl

/-- The transcript of a sweep is that of its visits, framed by the marks of the sweep. -/
theorem transcript_sweep (s : σ) : ∃ closing,
    (sweep options store).transcript answer s =
      ⟨.sweeping true, ()⟩ :: ((tour answer options store s).flatMap (·.talk) ++ closing) ∧
    (∀ x ∈ closing, Call.Closing x.1) ∧
    Answered answer (afterTour answer options store s) closing
      ((sweep options store).play answer s).2 := by
  let after := (visitAll options store {} store.floatings).play answer (answer (.sweeping true) s).2
  have last : after.2 = afterTour answer options store s := play_visitAll_snd ..
  refine ⟨(close options store after.1).transcript answer after.2, ?_,
    (closing_close options store (mayGo_transcript answer _ _)).2, ?_⟩
  · rw [sweep_eq, transcript_step_bind, transcript_bind, transcript_visitAll]
    rfl
  · rw [← last, sweep_eq, play_step_bind, play_bind]
    exact answered_transcript answer _ _

/-- The report of a sweep adds up its visits. -/
theorem report_sweep (s : σ) :
    ((sweep options store).play answer s).1 =
      { visited := store.floatings.length
        orphaned := (tour answer options store s).countP (·.result.isOrphaned)
        failed := ((tour answer options store s).map (·.result.failed)).sum } := by
  have visited : (tour answer options store s).length = store.floatings.length := by
    rw [← records_tour answer options store s, List.length_map]
  rw [sweep_eq, play_step_bind, play_bind,
    (closing_close options store (mayGo_transcript answer _ _)).1, report_visitAll, foldl_add,
    ← visited]
  simp [tour]

end Tour

end Sweep

end FloatingAddress
