import FloatingAddress.Proofs.Metrics.Cleanup
import FloatingAddress.Proofs.Reconcile.Constancy
import FloatingAddress.Proofs.Series.Runs

/-!
# How long the series of a guest cluster live

A guest cluster is queued exactly if a floating address of it was deleted since the last cleanup.
This decides which series a cleanup drops, whether or not the cluster owns other floating addresses
by then. A cluster that loses its last floating address in another way, because the object now names
another cluster or is not accepted any more, is not queued. Its series stay until a floating address
of it is deleted.
-/

namespace FloatingAddress

open Metrics Reconcile
open Operator (Deed)

variable {op : Operator} {cluster : String} {deeds : List Deed} {deed : Deed}

namespace Operator

/-- A floating address of the guest cluster was deleted, and there was no cleanup after that. -/
def DeletedSince (op : Operator) (deeds : List Deed) (cluster : String) : Prop :=
  ∃ before deed later, deeds = before ++ deed :: later ∧ (∀ d ∈ later, d ≠ .cleanup) ∧
    (op.after before).Deletes cluster deed

/-- The guest cluster owned a floating address until one of its objects changed, and it has owned
none since. -/
def LeftByApply (op : Operator) (deeds : List Deed) (cluster : String) : Prop :=
  ∃ before m persist later, deeds = before ++ .floating (.apply m) persist :: later ∧
    (op.after before).Owns cluster ∧
    ∀ more, more <+: later →
      ¬(op.after (before ++ .floating (.apply m) persist :: more)).Owns cluster

theorem deletedSince_concat : op.DeletedSince (deeds ++ [deed]) cluster ↔
    deed ≠ .cleanup ∧ op.DeletedSince deeds cluster ∨ (op.after deeds).Deletes cluster deed := by
  constructor
  · rintro ⟨before, deleting, later, split, lasting, deletes⟩
    obtain ⟨rfl, rfl, -⟩ | ⟨between, rfl, rfl⟩ := concat_eq_append_cons_iff.mp split
    · exact .inr deletes
    · exact .inl ⟨lasting _ (by simp), before, deleting, between, rfl,
        fun d member => lasting d (by simp [member]), deletes⟩
  · rintro (⟨last, before, deleting, later, rfl, lasting, deletes⟩ | deletes)
    · refine ⟨before, deleting, later ++ [deed], by simp, fun d member => ?_, deletes⟩
      obtain member | member := List.mem_append.mp member
      · exact lasting d member
      · rwa [List.mem_singleton.mp member]
    · exact ⟨deeds, deed, [], rfl, by simp, deletes⟩

theorem LeftByApply.concat (left : op.LeftByApply deeds cluster)
    (without : ¬(op.after (deeds ++ [deed])).Owns cluster) :
    op.LeftByApply (deeds ++ [deed]) cluster := by
  obtain ⟨before, m, persist, later, rfl, owned, since⟩ := left
  refine ⟨before, m, persist, later ++ [deed], by simp, owned, fun more upto => ?_⟩
  obtain rfl | earlier := List.prefix_concat_iff.mp upto
  · rwa [List.append_assoc, List.cons_append] at without
  · exact since more earlier

/-- The guest clusters of which a floating address was deleted are queued for the next cleanup, and
no others. -/
theorem Fresh.queue_iff (fresh : op.Fresh) (deeds : List Deed) (cluster : String) :
    cluster ∈ (op.after deeds).metrics.queue ↔ op.DeletedSince deeds cluster := by
  induction deeds using List.reverseRecOn with
  | nil =>
    rw [after_nil, fresh.queue]
    simp [DeletedSince]
  | append_singleton deeds deed ih =>
    rw [deletedSince_concat, after_concat, ← ih]
    by_cases last : deed = .cleanup
    · subst last
      have empty := (cleans (fresh.toSettled.after deeds).idle).queue
      rw [show ((op.after deeds).carryOut .cleanup).metrics.queue = ∅ from empty]
      simp [Deletes]
    · rw [queue_carryOut _ _ last]
      simp [last]

/-- A guest cluster of which there is a series owns a floating address, or it is queued, or it has
lost its last one when an object changed. -/
theorem Fresh.owns_or_left (fresh : op.Fresh) (deeds : List Deed)
    (present : (op.after deeds).metrics.Shows cluster) :
    (op.after deeds).Owns cluster ∨ cluster ∈ (op.after deeds).metrics.queue ∨
      op.LeftByApply deeds cluster := by
  induction deeds using List.reverseRecOn with
  | nil => exact absurd present (fresh.shown cluster)
  | append_singleton deeds deed ih =>
    rw [or_iff_not_imp_left]
    intro without
    rw [after_concat] at present without ⊢
    by_cases owned : (op.after deeds).Owns cluster
    · obtain owns | deletes | ⟨m, persist, rfl⟩ := owns_carryOut owned deed
      · exact absurd owns without
      · left
        refine (queue_carryOut _ _ ?_ _).mpr (.inr deletes)
        rintro rfl
        exact deletes
      · refine .inr ⟨deeds, m, persist, [], rfl, owned, fun more upto => ?_⟩
        rwa [List.prefix_nil.mp upto, after_concat]
    · obtain ⟨earlier, unqueued⟩ | ⟨owns, -⟩ :=
        (fresh.toSettled.after deeds).shows_carryOut present
      · obtain owns | queued | left := ih earlier
        · exact absurd owns owned
        · refine .inl ((queue_carryOut _ _ ?_ _).mpr (.inl queued))
          exact fun last => unqueued last queued
        · exact .inr (left.concat (by rwa [after_concat]))
      · exact absurd owns owned

/-- No cleanup between two deeds is skipped, and nothing is queued for it but the guest clusters of
which a floating address was deleted since the cleanup before. Right after it, a guest cluster of
which there is still a series is none of these. It owns a floating address, or it has lost its last
one when an object changed and has owned none since. -/
theorem Fresh.shown_after_cleanup (fresh : op.Fresh) (deeds : List Deed) :
    (op.after deeds).metrics.cleanup.isSome ∧
    (∀ cluster, cluster ∈ (op.after deeds).metrics.queue ↔ op.DeletedSince deeds cluster) ∧
    ∀ cluster, (op.after (deeds ++ [.cleanup])).metrics.Shows cluster →
      ¬op.DeletedSince deeds cluster ∧
        ((op.after (deeds ++ [.cleanup])).Owns cluster ∨ op.LeftByApply deeds cluster) := by
  have settled := fresh.toSettled.after deeds
  refine ⟨by simp [Metrics.cleanup, settled.idle], fresh.queue_iff deeds, fun cluster present => ?_⟩
  rw [after_concat] at present ⊢
  obtain ⟨earlier, unqueued⟩ | ⟨-, other⟩ := settled.shows_carryOut present
  · refine ⟨fun deleted => unqueued rfl ((fresh.queue_iff deeds cluster).mpr deleted), ?_⟩
    obtain owns | queued | left := fresh.owns_or_left deeds earlier
    · exact .inl owns
    · exact absurd queued (unqueued rfl)
    · exact .inr left
  · exact absurd rfl other

end Operator

namespace Sample

/-- A range is registered, and an object of it is accepted. -/
def settledIn : List Deed :=
  [.range (.apply (range "blue" "10.0.0.0/28")) accept, .floating (.apply second) accept]

/-- After a sweep the object names another guest cluster. -/
def departed : List Deed := settledIn ++ [offline, .floating (.apply moved) accept]

end Sample

namespace Operator

theorem fresh_empty : Fresh {} := fresh_of_empty rfl rfl

theorem shows_of_any {m : Metrics} {cluster : String}
    (h : m.status.toList.any fun s => s.labels.head? = some cluster) : m.Shows cluster := by
  obtain ⟨s, member, first⟩ := List.any_eq_true.mp h
  exact .inl ⟨s, member, of_decide_eq_true first⟩

theorem shows_departed :
    (({} : Operator).after (Sample.departed ++ [.cleanup])).metrics.Shows "guest" :=
  shows_of_any (by decide +kernel)

/-- The guest cluster has lost its floating address to another one, and its status is still shown
after a cleanup. -/
theorem shown_without_address : ∃ (op : Operator) (deeds : List Deed) (cluster : String),
    op.Fresh ∧ (op.after deeds).metrics.cleanup.isSome ∧
      (op.after (deeds ++ [.cleanup])).metrics.Shows cluster ∧
      ¬(op.after (deeds ++ [.cleanup])).Owns cluster := by
  have others : ∀ record ∈ (({} : Operator).after
      (Sample.departed ++ [.cleanup])).inventory.store.floatings, record.cluster ≠ "guest" := by
    decide +kernel
  refine ⟨{}, Sample.departed, "guest", fresh_empty, by decide +kernel, shows_departed, ?_⟩
  rintro ⟨record, stored, own⟩
  exact others record stored own

/-- The cluster that is still shown has lost its floating address when the object changed. -/
theorem shown_after_cleanup_departed :
    "guest" ∉ (({} : Operator).after Sample.departed).metrics.queue ∧
      ¬({} : Operator).DeletedSince Sample.departed "guest" ∧
      ((({} : Operator).after (Sample.departed ++ [.cleanup])).Owns "guest" ∨
        ({} : Operator).LeftByApply Sample.departed "guest") := by
  obtain ⟨-, queue, left⟩ := fresh_empty.shown_after_cleanup Sample.departed
  obtain ⟨undeleted, owner⟩ := left "guest" shows_departed
  exact ⟨fun queued => undeleted ((queue "guest").mp queued), undeleted, owner⟩

/-- The guest clusters of which a floating address was deleted since the cleanup before are queued,
and a cleanup leaves no series of theirs. Whether they own other floating addresses makes no
difference. A series is dropped exactly if its guest cluster is one of these, and stays as it is
otherwise; this is said of labels that do not read like those of another guest cluster or provider
that is known. -/
theorem Fresh.lost_in_cleanup (fresh : op.Fresh) (deeds : List Deed) :
    let before := (op.after deeds).metrics
    let after := (op.after (deeds ++ [.cleanup])).metrics
    (∀ cluster, cluster ∈ before.queue ↔ op.DeletedSince deeds cluster) ∧
    (∀ cluster, op.DeletedSince deeds cluster → ¬after.Shows cluster) ∧
    (∀ s ∈ before.status.toList, ∃ cluster provider, s.labels = [cluster, provider] ∧
      (before.ReadsAlone cluster provider →
        (s ∈ after.status.toList ↔ ¬op.DeletedSince deeds cluster))) ∧
    ∀ s ∈ before.events.toList, ∃ cluster provider event outcome,
      s.labels = eventLabels cluster provider event outcome ∧
      (before.ReadsAlone cluster provider →
        (s ∈ after.events.toList ↔ ¬op.DeletedSince deeds cluster)) := by
  have settled := fresh.toSettled.after deeds
  have tracked := settled.reached.tracked
  have cleans := cleans settled.idle
  obtain ⟨status, events⟩ := tracked.mem_cleans_iff cleans
  simp only [after_concat, ← fresh.queue_iff]
  refine ⟨fun _ => trivial, fun cluster queued shown => ?_, fun s member => ?_, fun s member => ?_⟩
  · exact (tracked.shows_cleans cleans shown).2 queued
  · obtain ⟨cluster, provider, known, labels⟩ := tracked.statusOf member
    refine ⟨cluster, provider, labels, fun alone => ?_⟩
    refine (status s).trans ?_
    rw [and_iff_right member, labels, alone.readsQueued_iff known]
  · obtain ⟨cluster, provider, event, outcome, known, labels⟩ := tracked.eventOf member
    refine ⟨cluster, provider, event, outcome, labels, fun alone => ?_⟩
    refine (events s).trans ?_
    rw [and_iff_right member, labels, eventLabels, alone.readsQueued_iff known]

end Operator

namespace Sample

/-- One of two floating addresses of a guest cluster is deleted after a sweep. -/
def halved : List Deed :=
  settledIn ++ [.floating (.apply one) accept, offline, .floating (.delete one) accept]

/-- The object of a floating address of a certain guest cluster. -/
def owned (name cluster range : String) : Manifest.Floating :=
  let texts : TextMap := .ofList [("clustername", cluster), ("fiprange", range)]
  { floating name range none with metadata.annotations := some texts }

/-- A range on a certain provider. -/
def provided (name cidr provider : String) : Manifest.Range :=
  let texts : TextMap := .ofList [("harvesterClusterName", provider)]
  { range name cidr with metadata.annotations := some texts }

/-- Of three floating addresses of two guest clusters one is deleted after a sweep. -/
def thinned : List Deed :=
  settledIn ++ [.floating (.apply one) accept,
    .floating (.apply (owned "three" "other" "blue")) accept, offline,
    .floating (.delete one) accept]

/-- The labels of two guest clusters read the same, and the floating address of the second one is
deleted after a sweep. -/
def namesakes : List Deed :=
  [.range (.apply (provided "left" "10.0.0.0/28" "bc")) accept,
    .range (.apply (provided "right" "10.0.1.0/28" "c")) accept,
    .floating (.apply (owned "one" "a" "left")) accept,
    .floating (.apply (owned "two" "ab" "right")) accept, offline,
    .floating (.delete (owned "two" "ab" "right")) accept]

end Sample

namespace Operator

/-- A series of a guest cluster that owns a floating address is dropped. -/
def DropsLive (op : Operator) (deeds : List Deed) (cluster : String) : Prop :=
  (op.after deeds).Owns cluster ∧ ∃ s ∈ (op.after deeds).metrics.status.toList,
    s.labels.head? = some cluster ∧
      s ∉ (op.after (deeds ++ [.cleanup])).metrics.status.toList

theorem dropsLive_of_any
    (owns : (op.after deeds).inventory.store.floatings.any fun r => r.cluster = cluster)
    (drops : (op.after deeds).metrics.status.toList.any fun s =>
      decide (s.labels.head? = some cluster) &&
        !(op.after (deeds ++ [.cleanup])).metrics.status.toList.contains s) :
    op.DropsLive deeds cluster := by
  obtain ⟨record, stored, own⟩ := List.any_eq_true.mp owns
  obtain ⟨s, member, dropped⟩ := List.any_eq_true.mp drops
  rw [Bool.and_eq_true, decide_eq_true_eq, Bool.not_eq_true', List.contains_eq_mem,
    decide_eq_false_iff_not] at dropped
  exact ⟨⟨record, stored, of_decide_eq_true own⟩, s, member, dropped.1, dropped.2⟩

/-- The status of the guest cluster that lost one of its two floating addresses is dropped, and that
of the other one stays. -/
theorem lost_in_cleanup_thinned :
    let before := (({} : Operator).after Sample.thinned).metrics
    let after := (({} : Operator).after (Sample.thinned ++ [.cleanup])).metrics
    (({} : Operator).DeletedSince Sample.thinned "guest" ∧
      (({} : Operator).after Sample.thinned).Owns "guest" ∧
      ⟨["guest", ""], 0⟩ ∈ before.status.toList ∧ ⟨["guest", ""], 0⟩ ∉ after.status.toList) ∧
    ¬({} : Operator).DeletedSince Sample.thinned "other" ∧
      ⟨["other", ""], 0⟩ ∈ before.status.toList ∧ ⟨["other", ""], 0⟩ ∈ after.status.toList := by
  intro before after
  obtain ⟨queue, -, status, -⟩ := fresh_empty.lost_in_cleanup Sample.thinned
  have guest : ⟨["guest", ""], 0⟩ ∈ before.status.toList := by decide +kernel
  have other : ⟨["other", ""], 0⟩ ∈ before.status.toList := by decide +kernel
  have deleted : ({} : Operator).DeletedSince Sample.thinned "guest" :=
    (queue "guest").mp (by decide +kernel)
  have undeleted : ¬({} : Operator).DeletedSince Sample.thinned "other" := fun deleted =>
    absurd ((queue "other").mpr deleted) (by decide +kernel)
  have owns : ∃ record ∈ (({} : Operator).after Sample.thinned).inventory.store.floatings,
      record.cluster = "guest" := by
    decide +kernel
  obtain ⟨_, _, labels, guestStays⟩ := status _ guest
  cases labels
  obtain ⟨_, _, labels, otherStays⟩ := status _ other
  cases labels
  have guestAlone : before.ReadsAlone "guest" "" := readsAlone_of_forall (by decide +kernel)
  have otherAlone : before.ReadsAlone "other" "" := readsAlone_of_forall (by decide +kernel)
  exact ⟨⟨deleted, owns, guest, fun stays => (guestStays guestAlone).mp stays deleted⟩,
    undeleted, other, (otherStays otherAlone).mpr undeleted⟩

/-- The series of a guest cluster are dropped that still owns a floating address, and so is a series
that reads like one of another cluster, although nothing of its own cluster was deleted. -/
theorem live_series_dropped :
    (∃ (op : Operator) (deeds : List Deed) (cluster : String),
      op.Fresh ∧ op.DropsLive deeds cluster) ∧
    ∃ (op : Operator) (deeds : List Deed) (cluster : String),
      op.Fresh ∧ op.DropsLive deeds cluster ∧ ¬op.DeletedSince deeds cluster := by
  refine ⟨⟨{}, Sample.halved, "guest", fresh_empty, ?_⟩,
    {}, Sample.namesakes, "a", fresh_empty, ?_, ?_⟩
  · exact dropsLive_of_any (by decide +kernel) (by decide +kernel)
  · exact dropsLive_of_any (by decide +kernel) (by decide +kernel)
  · rw [← fresh_empty.queue_iff]
    decide +kernel

end Operator

end FloatingAddress
