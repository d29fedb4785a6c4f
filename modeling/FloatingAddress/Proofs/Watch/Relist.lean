import FloatingAddress.Proofs.Reconcile.Tasks
import Mathlib.Data.List.Basic

/-!
# Listing the objects anew

A watch whose connection broke lists the objects that are still there. Nothing tells of those that
went away in the meantime: the beginning and the end of a list carry no object, and each listed
object is followed by itself. So a record stays that is not listed any more, and its address stays
held. Only if every stored identity is listed, nothing is left behind.

The other task may do anything meanwhile.
-/

namespace FloatingAddress

open Dialogue Reconcile

namespace Watch

variable {α : Type} {gate : Gate} {objects : List α} {changes : List (Change α)}

/-- What a watch delivers when it lists its objects anew. -/
def relisting (objects : List α) : List (Delivery α) :=
  .listing :: (objects.map .listed ++ [.complete])

/-- A task turns to these changes while its watch lists the objects anew, and all deliveries
count. -/
def Relists (gate : Gate) (objects : List α) (changes : List (Change α)) : Prop :=
  ∃ arrivals : List (Instant × Delivery α), arrivals.map (·.2) = relisting objects ∧
    (∀ arrival ∈ arrivals, gate.isOpen arrival.1) ∧
    changes = arrivals.filterMap fun (now, delivery) => counted? gate now delivery

theorem change?_relisting (objects : List α) :
    (relisting objects).filterMap Delivery.change? = objects.map .apply := by
  have listed : (objects.map Delivery.listed).filterMap Delivery.change? =
      objects.map .apply := by
    rw [List.filterMap_map]
    exact congrFun List.filterMap_eq_map objects
  rw [relisting, List.filterMap_cons_none rfl, List.filterMap_append, listed]
  exact List.append_nil _

/-- Whoever is not listed is not told of. -/
theorem Relists.changes_eq (relists : Relists gate objects changes) :
    changes = objects.map .apply := by
  obtain ⟨arrivals, delivered, opened, rfl⟩ := relists
  rw [← change?_relisting, ← delivered, List.filterMap_map]
  refine List.filterMap_congr fun arrival member => ?_
  obtain ⟨now, delivery⟩ := arrival
  simp only [counted?, opened _ member, if_true, Function.comp]

end Watch

namespace Tasks

/-- The tasks come from one state to another, and turn to these changes on the way. -/
inductive Run : List (Watch.Change Manifest.Range) → List (Watch.Change Manifest.Floating) →
    Tasks → Tasks → Prop
  | here (t : Tasks) : Run [] [] t t
  | takeRange {rs fs op floatings t'} (change : Watch.Change Manifest.Range)
    (rest : Run rs fs ⟨op, Watch.followRange change, floatings⟩ t') :
    Run (change :: rs) fs ⟨op, .done (), floatings⟩ t'
  | takeFloating {rs fs op ranges t'} (change : Watch.Change Manifest.Floating)
    (plain : change.Plain) (rest : Run rs fs ⟨op, ranges, Watch.followFloating change⟩ t') :
    Run rs (change :: fs) ⟨op, ranges, .done ()⟩ t'
  | askRange {rs fs op c next floatings t'}
    (persist : RecordKey → Ipv4 → Except OperatorError Unit)
    (rest : Run rs fs ⟨(op.reply persist c).2, next (op.reply persist c).1, floatings⟩ t') :
    Run rs fs ⟨op, .ask c next, floatings⟩ t'
  | askFloating {rs fs op ranges c next t'}
    (persist : RecordKey → Ipv4 → Except OperatorError Unit)
    (rest : Run rs fs ⟨(op.reply persist c).2, ranges, next (op.reply persist c).1⟩ t') :
    Run rs fs ⟨op, ranges, .ask c next⟩ t'

variable {rs : List (Watch.Change Manifest.Range)} {fs : List (Watch.Change Manifest.Floating)}
  {t t' : Tasks} {names : String → Prop} {keys : RecordKey → Prop}

theorem Alters.mono {names' : String → Prop} {keys' : RecordKey → Prop} {inv after : Inventory}
    (altered : Alters names keys inv after) (moreNames : ∀ name, names name → names' name)
    (moreKeys : ∀ key, keys key → keys' key) : Alters names' keys' inv after where
  sound := altered.sound
  range? name spared := altered.range? name fun own => spared (moreNames name own)
  floating? key spared := altered.floating? key fun own => spared (moreKeys key own)

/-- A run alters nothing but what its changes are about. -/
theorem Run.alters (run : Run rs fs t t') (orderly : t.Orderly names keys)
    (ranges : ∀ change ∈ rs, names change.name) (floatings : ∀ change ∈ fs, keys change.key) :
    Alters names keys t.operator.inventory t'.operator.inventory := by
  induction run with
  | here t => exact .refl orderly.sound
  | takeRange change rest ih =>
    obtain ⟨own, others⟩ := List.forall_mem_cons.mp ranges
    exact ih ⟨orderly.sound, keepsRanges_follow own _, orderly.floatings⟩ others floatings
  | takeFloating change plain rest ih =>
    obtain ⟨own, others⟩ := List.forall_mem_cons.mp floatings
    exact ih ⟨orderly.sound, orderly.ranges, keepsFloatings_follow plain own _⟩ ranges others
  | askRange persist rest ih =>
    obtain ⟨orderly', altered⟩ := orderly.askRange persist
    have first : Alters names keys _ _ := altered.mono (fun _ own => own) fun _ none => none.elim
    exact first.trans (ih orderly' ranges floatings)
  | askFloating persist rest ih =>
    obtain ⟨orderly', altered⟩ := orderly.askFloating persist
    have first : Alters names keys _ _ := altered.mono (fun _ none => none.elim) fun _ own => own
    exact first.trans (ih orderly' ranges floatings)

theorem Run.finishFloating {op : Operator} (ranges d : Step Unit)
    (persist : RecordKey → Ipv4 → Except OperatorError Unit) :
    Run [] [] ⟨op, ranges, d⟩ ⟨(op.finish persist d).2, ranges, .done ()⟩ := by
  rw [op.finish_eq_play]
  induction d generalizing op with
  | done a => exact .here _
  | ask c next ih => exact .askFloating persist (ih _)

/-- The object of the identity is listed. -/
def ListsFloating (objects : List Manifest.Floating) (key : RecordKey) : Prop :=
  ∃ m ∈ objects, lookupKey m = key

/-- The object of the range is listed. -/
def ListsRange (objects : List Manifest.Range) (name : String) : Prop :=
  ∃ m ∈ objects, m.metadata.anyName = name

/-- Only listed floating addresses are stored, and what is not listed any more has given its address
back. -/
structure FloatingsReconciled (objects : List Manifest.Floating) (before after : Inventory) :
    Prop where
  listed : ∀ key record, after.floating? key = some record → ListsFloating objects key
  freed : ∀ key record address, before.floating? key = some record →
    ¬ListsFloating objects key → record.address = some address →
      after.floating? key = none ∧ after.allocator.owner record.range address ≠ some key.text

/-- Only listed ranges are stored. -/
def RangesReconciled (objects : List Manifest.Range) (after : Inventory) : Prop :=
  ∀ name range, after.range? name = some range → ListsRange objects name

/-- What is not listed any more has its record still, and holds its address if the range has it. -/
def FloatingsKept (objects : List Manifest.Floating) (before after : Inventory) : Prop :=
  ∀ key record, before.floating? key = some record → ¬ListsFloating objects key →
    after.floating? key = some record ∧
      ∀ range address, after.range? record.range = some range → record.address = some address →
        range.span.contains address →
          after.allocator.owner record.range address = some key.text

/-- What is not listed any more has its record still. -/
def RangesKept (objects : List Manifest.Range) (before after : Inventory) : Prop :=
  ∀ name range, before.range? name = some range → ¬ListsRange objects name →
    after.range? name = some range

section Reconciled

variable {before after : Inventory}

theorem Alters.floatingsKept {objects : List Manifest.Floating}
    (altered : Alters names (ListsFloating objects) before after) :
    FloatingsKept objects before after := by
  intro key record found unlisted
  have found' := (altered.floating? key unlisted).trans found
  refine ⟨found', fun range address known carried usable => ?_⟩
  exact (altered.sound.held _ _ known address _).mpr
    ⟨key, record, found', rfl, carried, usable, rfl⟩

/-- If nothing but listed floating addresses is altered, then only these are stored if and only if
it was so before. -/
theorem Alters.floatingsReconciled_iff {objects : List Manifest.Floating}
    (altered : Alters names (ListsFloating objects) before after) :
    FloatingsReconciled objects before after ↔
      ∀ key record, before.floating? key = some record → ListsFloating objects key := by
  constructor
  · intro reconciled key record found
    by_contra unlisted
    have found' := (altered.floatingsKept key record found unlisted).1
    exact unlisted (reconciled.listed key record found')
  · intro listed
    constructor
    · intro key record found
      by_contra unlisted
      rw [altered.floating? key unlisted] at found
      exact unlisted (listed key record found)
    · intro key record address found unlisted
      exact absurd (listed key record found) unlisted

theorem Alters.rangesKept {objects : List Manifest.Range}
    (altered : Alters (ListsRange objects) keys before after) :
    RangesKept objects before after :=
  fun name _ known unlisted => (altered.range? name unlisted).trans known

theorem Alters.rangesReconciled_iff {objects : List Manifest.Range}
    (altered : Alters (ListsRange objects) keys before after) :
    RangesReconciled objects after ↔
      ∀ name range, before.range? name = some range → ListsRange objects name := by
  constructor
  · intro reconciled name range known
    by_contra unlisted
    exact unlisted (reconciled name range (altered.rangesKept name range known unlisted))
  · intro listed name range known
    by_contra unlisted
    rw [altered.range? name unlisted] at known
    exact unlisted (listed name range known)

end Reconciled

/-- A new list of the floating addresses reconciles the store with them if and only if every stored
identity is listed, whatever the range task does meanwhile; what is not listed is kept. A new list
of the ranges likewise. -/
theorem Reached.reconciled_iff_listed (reached : Reached t) (run : Run rs fs t t')
    (gate : Watch.Gate) :
    (∀ objects, Watch.Relists gate objects fs → t.floatings = .done () →
      FloatingsKept objects t.operator.inventory t'.operator.inventory ∧
      (FloatingsReconciled objects t.operator.inventory t'.operator.inventory ↔
        ∀ key record, t.operator.inventory.floating? key = some record →
          ListsFloating objects key)) ∧
    ∀ objects, Watch.Relists gate objects rs → t.ranges = .done () →
      RangesKept objects t.operator.inventory t'.operator.inventory ∧
      (RangesReconciled objects t'.operator.inventory ↔
        ∀ name range, t.operator.inventory.range? name = some range →
          ListsRange objects name) := by
  have orderly := reached.orderly
  constructor
  · intro objects relists idle
    have terms : t.Orderly (fun _ => True) (ListsFloating objects) := by
      refine ⟨orderly.sound, orderly.ranges, ?_⟩
      rw [idle]
      trivial
    have own : ∀ change ∈ fs, ListsFloating objects change.key := by
      rw [relists.changes_eq]
      simp only [List.mem_map]
      rintro _ ⟨m, member, rfl⟩
      exact ⟨m, member, rfl⟩
    have altered := run.alters terms (fun _ _ => trivial) own
    exact ⟨altered.floatingsKept, altered.floatingsReconciled_iff⟩
  · intro objects relists idle
    have terms : t.Orderly (ListsRange objects) fun _ => True := by
      refine ⟨orderly.sound, ?_, orderly.floatings⟩
      rw [idle]
      trivial
    have own : ∀ change ∈ rs, ListsRange objects change.name := by
      rw [relists.changes_eq]
      simp only [List.mem_map]
      rintro _ ⟨m, member, rfl⟩
      exact ⟨m, member, rfl⟩
    have altered := run.alters terms own fun _ _ => trivial
    exact ⟨altered.rangesKept, altered.rangesReconciled_iff⟩

end Tasks

namespace Sample

/-- Two floating addresses of the range `blue` are stored. -/
def both : Operator :=
  let ranged := (({} : Operator).finish accept
    (Watch.followRange (.apply (range "blue" "10.0.0.0/28")))).2
  let first := (ranged.finish accept
    (Watch.followFloating (.apply (floating "one" "blue" none)))).2
  (first.finish accept (Watch.followFloating (.apply (floating "two" "blue" none)))).2

/-- The second one is still there, with its address. -/
def two : Manifest.Floating := floating "two" "blue" (some "10.0.0.2")

/-- What the list with this object alone comes to. -/
def relisted : Operator := (both.finish accept (Watch.followFloating (.apply two))).2

end Sample

namespace Tasks

theorem reached_both : Reached (idle Sample.both) := by
  have ranged := (Reached.start {} rfl).followRange
    (.apply (Sample.range "blue" "10.0.0.0/28")) Sample.accept
  have plain : (Watch.Change.apply (Sample.floating "one" "blue" none)).Plain :=
    show RecordKey.Plain ⟨"web", "one"⟩ by decide
  have plain' : (Watch.Change.apply (Sample.floating "two" "blue" none)).Plain :=
    show RecordKey.Plain ⟨"web", "two"⟩ by decide
  exact (ranged.followFloating plain Sample.accept).followFloating plain' Sample.accept

theorem run_relisted : Run [] [.apply Sample.two] (idle Sample.both) (idle Sample.relisted) := by
  have plain : (Watch.Change.apply Sample.two).Plain :=
    show RecordKey.Plain ⟨"web", "two"⟩ by decide
  exact .takeFloating _ plain (.finishFloating _ _ Sample.accept)

theorem relists_two : Watch.Relists ⟨.start⟩ [Sample.two] [.apply Sample.two] := by
  refine ⟨(Watch.relisting [Sample.two]).map fun delivery => (.start, delivery), rfl, ?_, rfl⟩
  simp [Watch.relisting, Watch.Gate.isOpen]

theorem relists_none : Watch.Relists ⟨.start⟩ ([] : List Manifest.Range) [] := by
  refine ⟨(Watch.relisting []).map fun delivery => (.start, delivery), rfl, ?_, rfl⟩
  simp [Watch.relisting, Watch.Gate.isOpen]

theorem not_lists_one : ¬ListsFloating [Sample.two] ⟨"web", "one"⟩ := by
  rintro ⟨m, member, same⟩
  rw [List.mem_singleton.mp member] at same
  exact absurd same (by decide)

/-- The first floating address is not listed any more, and its record stays. -/
theorem relist_keeps_deleted : ∃ (t t' : Tasks) (rs : List (Watch.Change Manifest.Range))
    (fs : List (Watch.Change Manifest.Floating)) (gate : Watch.Gate)
    (objects : List Manifest.Floating), Reached t ∧ Run rs fs t t' ∧
      Watch.Relists gate objects fs ∧ t.floatings = .done () ∧ t'.floatings = .done () ∧
      ¬FloatingsReconciled objects t.operator.inventory t'.operator.inventory := by
  refine ⟨_, _, _, _, _, _, reached_both, run_relisted, relists_two, rfl, rfl, fun reconciled => ?_⟩
  have stays : (Sample.relisted.inventory.floating? ⟨"web", "one"⟩).isSome := by decide +kernel
  obtain ⟨record, found⟩ := Option.isSome_iff_exists.mp stays
  exact not_lists_one (reconciled.listed _ record found)

/-- The record of the first floating address was there before, so the list does not reconcile the
store. Neither does a list without ranges. -/
theorem reconciled_iff_listed_two :
    ¬FloatingsReconciled [Sample.two] Sample.both.inventory Sample.relisted.inventory ∧
      (Sample.relisted.inventory.floating? ⟨"web", "one"⟩).isSome ∧
      ¬RangesReconciled [] Sample.relisted.inventory := by
  have stored : (Sample.both.inventory.floating? ⟨"web", "one"⟩).isSome := by decide +kernel
  obtain ⟨record, found⟩ := Option.isSome_iff_exists.mp stored
  have ranged : (Sample.both.inventory.range? "blue").isSome := by decide +kernel
  obtain ⟨range, known⟩ := Option.isSome_iff_exists.mp ranged
  obtain ⟨floatings, ranges⟩ := reached_both.reconciled_iff_listed run_relisted ⟨.start⟩
  obtain ⟨kept, reconciled_iff⟩ := floatings [Sample.two] relists_two rfl
  obtain ⟨-, ranges_iff⟩ := ranges [] relists_none rfl
  refine ⟨fun reconciled => ?_, ?_, fun reconciled => ?_⟩
  · exact not_lists_one (reconciled_iff.mp reconciled _ record found)
  · exact Option.isSome_of_eq_some (kept _ record found not_lists_one).1
  · obtain ⟨m, member, -⟩ := ranges_iff.mp reconciled "blue" range known
    cases member

end Tasks

end FloatingAddress
