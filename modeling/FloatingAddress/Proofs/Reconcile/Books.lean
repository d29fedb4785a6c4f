import FloatingAddress.Proofs.Inventory.Commuting
import FloatingAddress.Proofs.Inventory.Counting
import FloatingAddress.Proofs.Metrics.Families
import FloatingAddress.Proofs.Reconcile.Tasks
import Mathlib.Algebra.Group.Pi.Lemmas
import Mathlib.Algebra.Ring.Int.Defs

/-!
# Gauges and held addresses

The gauges of a range should tell how many addresses it has and how many are held. They are
changed apart from the inventory, so for a while a gauge may be off. `Accurate offset` says that
the series are those of the stored ranges, and by how much the reading of each is off. Every
operation and every change of the metrics has its effect on this offset, and the books are in
order when it is zero.

A range that is gone may leave a series behind, if somebody still counts up or down under its
labels. Such a series is `Stale`.
-/

namespace FloatingAddress

open Dialogue Metrics Reconcile

/-- The inventory and the metrics. -/
structure Books where
  inventory : Inventory
  metrics : Metrics

def Operator.books (op : Operator) : Books := { inventory := op.inventory, metrics := op.metrics }

/-- Every stored range is told apart by the text of its labels. -/
def Inventory.Distinguishable (inv : Inventory) : Prop :=
  ∀ name name' range range', inv.range? name = some range → inv.range? name' = some range' →
    seriesKey (rangeLabels range) = seriesKey (rangeLabels range') → name = name'

/-- It is enough to compare the labels of all stored ranges. -/
theorem Inventory.Sound.distinguishable_iff {inv : Inventory} (sound : inv.Sound) :
    inv.Distinguishable ↔ ∀ range ∈ inv.store.ranges, ∀ range' ∈ inv.store.ranges,
      seriesKey (rangeLabels range) = seriesKey (rangeLabels range') →
        range.name = range'.name := by
  constructor
  · intro distinct range member range' member' same
    obtain ⟨name, known⟩ := Store.mem_ranges.mp member
    obtain ⟨name', known'⟩ := Store.mem_ranges.mp member'
    rw [(sound.range name range known).1, (sound.range name' range' known').1]
    exact distinct name name' range range' known known' same
  · intro apart name name' range range' known known' same
    rw [← (sound.range name range known).1, ← (sound.range name' range' known').1]
    exact apart range (Store.mem_ranges.mpr ⟨name, known⟩) range'
      (Store.mem_ranges.mpr ⟨name', known'⟩) same

namespace Books

variable {books : Books} {offset : String → Int} {name : String} {range : RangeRecord}

/-- The answer to a question, as far as inventory and metrics are concerned. -/
def answer (persist : RecordKey → Ipv4 → Except OperatorError Unit) :
    (c : Call) → Books → Answer c × Books
  | .measure update, books => ((), { books with metrics := books.metrics.apply update })
  | c, books =>
    let answered := books.inventory.answer persist c
    (answered.1, { books with inventory := answered.2 })

@[simp] theorem answer_range (persist : RecordKey → Ipv4 → Except OperatorError Unit)
    (name : String) (books : Books) :
    books.answer persist (.range name) = (books.inventory.range? name, books) := rfl

@[simp] theorem answer_floating (persist : RecordKey → Ipv4 → Except OperatorError Unit)
    (key : RecordKey) (books : Books) :
    books.answer persist (.floating key) = (books.inventory.floating? key, books) := rfl

@[simp] theorem answer_persist (persist : RecordKey → Ipv4 → Except OperatorError Unit)
    (key : RecordKey) (address : Ipv4) (books : Books) :
    books.answer persist (.persist key address) = (persist key address, books) := rfl

theorem answer_claim_of_ok {persist : RecordKey → Ipv4 → Except OperatorError Unit}
    {record : FloatingRecord} {claim : Inventory.Claim} {after : Inventory}
    (h : books.inventory.claim record = .ok (claim, after)) :
    books.answer persist (.claim record) = (.ok claim, { books with inventory := after }) := by
  simp only [answer, Inventory.answer, Inventory.attempt, h]

theorem answer_claim_of_error {persist : RecordKey → Ipv4 → Except OperatorError Unit}
    {record : FloatingRecord} {error : AllocationError}
    (h : books.inventory.claim record = .error error) :
    books.answer persist (.claim record) = (.error (.allocation error), books) := by
  simp only [answer, Inventory.answer, Inventory.attempt, h]

theorem views (persist : RecordKey → Ipv4 → Except OperatorError Unit) :
    Views (fun c op => op.reply persist c) (fun c books => books.answer persist c) Operator.books
      reportKnown where
  silent {c a} op h := by
    cases c <;> cases h
    exact ⟨rfl, rfl⟩
  asked {c} op h := by
    rw [Operator.reply_eq]
    cases c <;> exact ⟨rfl, rfl⟩

/-- Carry a dialogue out without interruption. Reports make no difference. -/
def finish {α : Type} (persist : RecordKey → Ipv4 → Except OperatorError Unit) (d : Step α)
    (books : Books) : α × Books :=
  (unreported d).play (fun c books => answer persist c books) books

/-- An uninterrupted handler comes to the same with the books alone. -/
theorem finish_eq {α : Type} (persist : RecordKey → Ipv4 → Except OperatorError Unit)
    (d : Step α) (op : Operator) :
    op.books.finish persist d = ((op.finish persist d).1, (op.finish persist d).2.books) := by
  rw [op.finish_eq_play]
  exact (views persist).play d op

/-- Every series is found by its own labels. -/
structure Keyed (books : Books) : Prop where
  capacity : books.metrics.capacity.Keyed
  reserved : books.metrics.reserved.Keyed

/-- There is one series of capacity and one of held addresses for the labels of every stored range,
and no other. They show how many addresses the range has and how many of them are held. -/
structure Exact (books : Books) : Prop extends Keyed books where
  capacities : ∀ labels, (∃ s ∈ books.metrics.capacity.toList, s.labels = labels) ↔
    ∃ name range, books.inventory.range? name = some range ∧ rangeLabels range = labels
  reservations : ∀ labels, (∃ s ∈ books.metrics.reserved.toList, s.labels = labels) ↔
    ∃ name range, books.inventory.range? name = some range ∧ rangeLabels range = labels
  size : ∀ name range, books.inventory.range? name = some range →
    ∀ s ∈ books.metrics.capacity.toList, s.labels = rangeLabels range →
      s.reading = gaugeOfCount range.span.capacity.toNat
  held : ∀ name range, books.inventory.range? name = some range →
    ∀ s ∈ books.metrics.reserved.toList, s.labels = rangeLabels range →
      s.reading = gaugeOfCount (books.inventory.heldCount name)

/-- A stored range has these labels, and their text. -/
def Shows (inv : Inventory) (key : String) (labels : List String) : Prop :=
  ∃ name range, inv.range? name = some range ∧ rangeLabels range = labels ∧ seriesKey labels = key

/-- The series are those of the stored ranges, and what the gauge of held addresses shows is off
by the offset. -/
structure Accurate (offset : String → Int) (books : Books) : Prop where
  capacity : ∀ key labels,
    books.metrics.capacity.labels? key = some labels ↔ Shows books.inventory key labels
  reserved : ∀ key labels,
    books.metrics.reserved.labels? key = some labels ↔ Shows books.inventory key labels
  size : ∀ name range, books.inventory.range? name = some range →
    books.metrics.capacity.reading? (rangeLabels range) =
      some (gaugeOfCount range.span.capacity.toNat)
  held : ∀ name range, books.inventory.range? name = some range →
    books.metrics.reserved.reading? (rangeLabels range) =
      some (Int64.ofInt (books.inventory.heldCount name + offset name))

/-- There is a series of held addresses that no stored range has. -/
def Stale (books : Books) : Prop :=
  ∃ key labels, books.metrics.reserved.labels? key = some labels ∧
    ¬Shows books.inventory key labels

theorem Keyed.measure (keyed : books.Keyed) (inv : Inventory) (update : Update) :
    Keyed { inventory := inv, metrics := books.metrics.apply update } := by
  cases update with
  | rangeUsage range capacity reserved =>
    exact ⟨keyed.capacity.update _ _ _, keyed.reserved.update _ _ _⟩
  | reservedUp range | reservedDown range =>
    exact ⟨keyed.capacity, keyed.reserved.update _ _ _⟩
  | rangeRemoved range => exact ⟨keyed.capacity.remove _, keyed.reserved.remove _⟩
  | guestStatus cluster provider up => exact ⟨keyed.capacity, keyed.reserved⟩
  | guestEvent cluster provider event outcome => exact ⟨keyed.capacity, keyed.reserved⟩
  | queueCleanup cluster => exact ⟨keyed.capacity, keyed.reserved⟩

theorem Keyed.answer (keyed : books.Keyed)
    (persist : RecordKey → Ipv4 → Except OperatorError Unit) (c : Call) :
    (books.answer persist c).2.Keyed := by
  cases c with
  | measure update => exact keyed.measure _ update
  | _ => exact ⟨keyed.capacity, keyed.reserved⟩

theorem Keyed.advance {α : Type} {persist : RecordKey → Ipv4 → Except OperatorError Unit}
    {d d' : Step α} {trace : List Call} {after : Books} (keyed : books.Keyed)
    (advance : Advance (fun c books => books.answer persist c) d books trace d' after) :
    after.Keyed := by
  induction advance with
  | here d books => exact keyed
  | ask _ ih => exact ih (keyed.answer persist _)

theorem Keyed.play {α : Type} (keyed : books.Keyed)
    (persist : RecordKey → Ipv4 → Except OperatorError Unit) (d : Step α) :
    (d.play (fun c books => books.answer persist c) books).2.Keyed := by
  obtain ⟨_, whole⟩ := Advance.toEnd (fun c books => Books.answer persist c books) d books
  exact keyed.advance whole

theorem gaugeOfCount_eq {n : Nat} (small : n ≤ UInt32.size) :
    gaugeOfCount n = Int64.ofInt n := by
  have bound : UInt32.size < 1 <<< 63 := by decide
  rw [gaugeOfCount, if_pos (Nat.lt_of_le_of_lt small bound), Int64.ofInt_eq_ofNat]

/-- A reading that is off by at most one is not the right one. -/
theorem offset_eq_zero {n : Nat} {k : Int} (small : n ≤ UInt32.size) (low : -1 ≤ k) (high : k ≤ 1)
    (same : Int64.ofInt (n + k) = gaugeOfCount n) : k = 0 := by
  have readings := congrArg Int64.toInt same
  have size : UInt32.size = 4294967296 := rfl
  rw [gaugeOfCount_eq small, Int64.toInt_ofInt_of_le (by omega) (by omega),
    Int64.toInt_ofInt_of_le (by omega) (by omega)] at readings
  omega

/-- If no reading is off, the books are exact. -/
theorem Accurate.exact (accurate : Accurate 0 books) (keyed : books.Keyed) : books.Exact where
  toKeyed := keyed
  capacities labels := by
    rw [keyed.capacity.mem_labels, accurate.capacity]
    simp [Shows]
  reservations labels := by
    rw [keyed.reserved.mem_labels, accurate.reserved]
    simp [Shows]
  size name range stored s member same := by
    have reading := accurate.size name range stored
    rwa [← same, keyed.capacity.reading?_of_mem member, Option.some.injEq] at reading
  held name range stored s member same := by
    have reading := accurate.held name range stored
    rw [← same, keyed.reserved.reading?_of_mem member, Option.some.injEq] at reading
    rw [reading, gaugeOfCount_eq (Inventory.heldCount_le _ _)]
    simp

/-- In exact books no reading is off. -/
theorem Exact.accurate (exact : books.Exact) : Accurate 0 books where
  capacity key labels := by
    constructor
    · intro shown
      obtain rfl := exact.capacity key labels shown
      obtain ⟨name, range, stored, same⟩ := (exact.capacities labels).mp
        (exact.capacity.mem_labels.mpr shown)
      exact ⟨name, range, stored, same, rfl⟩
    · rintro ⟨name, range, stored, same, rfl⟩
      exact exact.capacity.mem_labels.mp ((exact.capacities labels).mpr ⟨name, range, stored, same⟩)
  reserved key labels := by
    constructor
    · intro shown
      obtain rfl := exact.reserved key labels shown
      obtain ⟨name, range, stored, same⟩ := (exact.reservations labels).mp
        (exact.reserved.mem_labels.mpr shown)
      exact ⟨name, range, stored, same, rfl⟩
    · rintro ⟨name, range, stored, same, rfl⟩
      exact exact.reserved.mem_labels.mp
        ((exact.reservations labels).mpr ⟨name, range, stored, same⟩)
  size name range stored := by
    obtain ⟨s, member, same⟩ := (exact.capacities _).mpr ⟨name, range, stored, rfl⟩
    rw [← same, exact.capacity.reading?_of_mem member, exact.size name range stored s member same]
  held name range stored := by
    obtain ⟨s, member, same⟩ := (exact.reservations _).mpr ⟨name, range, stored, rfl⟩
    rw [← same, exact.reserved.reading?_of_mem member, exact.held name range stored s member same,
      gaugeOfCount_eq (Inventory.heldCount_le _ _)]
    simp

/-- If the reading of a range is off, the books are not exact. -/
theorem Accurate.not_exact (accurate : Accurate offset books)
    (stored : books.inventory.range? name = some range) (off : offset name ≠ 0)
    (low : -1 ≤ offset name) (high : offset name ≤ 1) : ¬books.Exact := by
  intro exact
  have shown : books.metrics.reserved.labels? (seriesKey (rangeLabels range)) =
      some (rangeLabels range) := (accurate.reserved _ _).mpr ⟨name, range, stored, rfl, rfl⟩
  obtain ⟨s, member, same⟩ := exact.reserved.mem_labels.mpr shown
  have reading := accurate.held name range stored
  rw [← same, exact.reserved.reading?_of_mem member, Option.some.injEq,
    exact.held name range stored s member same] at reading
  exact off (offset_eq_zero (Inventory.heldCount_le _ _) low high reading.symm)

theorem Stale.not_exact (stale : books.Stale) : ¬books.Exact := by
  intro exact
  obtain ⟨key, labels, shown, hidden⟩ := stale
  obtain rfl := exact.reserved key labels shown
  obtain ⟨name, range, stored, rfl⟩ := (exact.reservations labels).mp
    (exact.reserved.mem_labels.mpr shown)
  exact hidden ⟨name, range, stored, rfl, rfl⟩

theorem shows_congr {inv after : Inventory} (ranges : ∀ n, after.range? n = inv.range? n)
    (key : String) (labels : List String) : Shows after key labels ↔ Shows inv key labels := by
  simp only [Shows, ranges]

/-- Ranges with one text have one name. -/
theorem Accurate.distinguishable (accurate : Accurate offset books)
    (sound : books.inventory.Sound) : books.inventory.Distinguishable := by
  intro name name' range range' stored stored' same
  have shown := (accurate.reserved _ _).mpr ⟨name, range, stored, rfl, same⟩
  have shown' := (accurate.reserved _ _).mpr ⟨name', range', stored', rfl, rfl⟩
  have labels := Option.some.inj (shown.symm.trans shown')
  rw [← (sound.range name range stored).1, ← (sound.range name' range' stored').1]
  exact (List.cons.inj labels).1

/-- The held addresses change, and the gauges do not. -/
theorem Accurate.recount {offset' : String → Int} {after : Inventory}
    (accurate : Accurate offset books) (ranges : ∀ n, after.range? n = books.inventory.range? n)
    (counts : ∀ n, after.heldCount n + offset' n = books.inventory.heldCount n + offset n) :
    Accurate offset' { books with inventory := after } where
  capacity key labels := (accurate.capacity key labels).trans (shows_congr ranges key labels).symm
  reserved key labels := (accurate.reserved key labels).trans (shows_congr ranges key labels).symm
  size name range stored := accurate.size name range ((ranges name).symm.trans stored)
  held name range stored := by
    rw [counts]
    exact accurate.held name range ((ranges name).symm.trans stored)

/-- The gauge of a range changes, and the held addresses do not. What counts is the text of the
labels by which the range is found. -/
theorem Accurate.adjust {labels : List String} {f : Int64 → Int64} {k : Int}
    (accurate : Accurate offset books) (sound : books.inventory.Sound)
    (stored : books.inventory.range? name = some range)
    (found : seriesKey labels = seriesKey (rangeLabels range))
    (shift : ∀ n, f (Int64.ofInt n) = Int64.ofInt (n + k)) :
    Accurate (offset + Pi.single name k) { books with metrics := { books.metrics with
      reserved := books.metrics.reserved.update labels 0 f } } where
  capacity := accurate.capacity
  reserved key shown := by
    rw [Family.labels?_update]
    split
    next here =>
      have known : books.metrics.reserved.labels? key = some (rangeLabels range) :=
        (accurate.reserved _ _).mpr ⟨name, range, stored, rfl, found.symm.trans here⟩
      rw [known, Option.getD_some, ← known, accurate.reserved]
    · exact accurate.reserved key shown
  size := accurate.size
  held name' range' stored' := by
    rw [Family.reading?_update]
    by_cases same : name' = name
    · subst same
      obtain rfl : range = range' := Option.some.inj (stored.symm.trans stored')
      have reading := accurate.held name' range stored
      rw [Family.reading?, ← found, ← Family.reading?] at reading
      rw [if_pos found, reading, Option.getD_some, shift, Pi.add_apply, Pi.single_eq_same,
        Int.add_assoc]
    · have elsewhere : seriesKey labels ≠ seriesKey (rangeLabels range') := fun here =>
        same (accurate.distinguishable sound name' name range' range stored' stored
          (here.symm.trans found))
      rw [if_neg elsewhere, accurate.held name' range' stored', Pi.add_apply,
        Pi.single_eq_of_ne same, Int.add_zero]

/-- Counting under labels that no stored range has leaves a stale series. -/
theorem Accurate.stale {labels : List String} {f : Int64 → Int64}
    (accurate : Accurate offset books)
    (hidden : ∀ name range, books.inventory.range? name = some range →
      seriesKey labels ≠ seriesKey (rangeLabels range)) :
    Stale { books with metrics := { books.metrics with
      reserved := books.metrics.reserved.update labels 0 f } } := by
  have unknown : books.metrics.reserved.labels? (seriesKey labels) = none := by
    rw [Option.eq_none_iff_forall_ne_some]
    intro shown known
    obtain ⟨name, range, stored, rfl, same⟩ := (accurate.reserved _ _).mp known
    exact hidden name range stored same.symm
  refine ⟨seriesKey labels, labels, ?_, ?_⟩
  · rw [Family.labels?_update, if_pos rfl, unknown, Option.getD_none]
  · rintro ⟨name, range, stored, rfl, -⟩
    exact hidden name range stored rfl

/-- A stale series stays, whatever is counted, as long as no range comes or goes. -/
theorem Stale.update {labels : List String} {f : Int64 → Int64} (stale : books.Stale) :
    Stale { books with metrics := { books.metrics with
      reserved := books.metrics.reserved.update labels 0 f } } := by
  obtain ⟨key, shown, known, hidden⟩ := stale
  refine ⟨key, shown, ?_, hidden⟩
  rw [Family.labels?_update]
  split
  · rw [known, Option.getD_some]
  · exact known

/-- The books after a stored range was removed. -/
def removed (range : RangeRecord) (books : Books) : Books where
  inventory := books.inventory.forget range.name
  metrics := books.metrics.apply (.rangeRemoved range)

/-- The books after a range was registered. -/
def created (range : RangeRecord) (books : Books) : Books where
  inventory := books.inventory.enter range
  metrics := books.metrics.apply (.rangeUsage range range.span.capacity
    ((books.inventory.enter range).heldCount range.name))

section Removed

variable {inv : Inventory} (sound : inv.Sound)
  (stored : inv.range? range.name = some range) (distinct : inv.Distinguishable)

include sound stored distinct

theorem forget_other {name' : String} {range' : RangeRecord}
    (stored' : (inv.forget range.name).range? name' = some range') :
    name' ≠ range.name ∧ inv.range? name' = some range' ∧
      seriesKey (rangeLabels range) ≠ seriesKey (rangeLabels range') := by
  rw [(Inventory.forget_view sound _).2.1] at stored'
  split at stored'
  · cases stored'
  next other =>
    exact ⟨fun same => other same.symm, stored',
      fun same => other (distinct _ _ _ _ stored stored' same)⟩

theorem shows_forget (key : String) (labels : List String) :
    Shows (inv.forget range.name) key labels ↔
      seriesKey (rangeLabels range) ≠ key ∧ Shows inv key labels := by
  constructor
  · rintro ⟨name', range', stored', rfl, rfl⟩
    obtain ⟨-, known, other⟩ := forget_other sound stored distinct stored'
    exact ⟨other, name', range', known, rfl, rfl⟩
  · rintro ⟨other, name', range', stored', rfl, rfl⟩
    refine ⟨name', range', ?_, rfl, rfl⟩
    rw [(Inventory.forget_view sound _).2.1, if_neg, stored']
    rintro rfl
    exact other (by rw [Option.some.inj (stored.symm.trans stored')])

end Removed

theorem Accurate.removed (accurate : Accurate offset books) (sound : books.inventory.Sound)
    (stored : books.inventory.range? range.name = some range) :
    Accurate offset (books.removed range) := by
  have distinct := accurate.distinguishable sound
  have shows_after := shows_forget sound stored distinct
  constructor
  · intro key labels
    change (books.metrics.capacity.remove (rangeLabels range)).labels? key = _ ↔ _
    rw [Family.labels?_remove, Books.removed, shows_after, ← accurate.capacity]
    split <;> simp_all
  · intro key labels
    change (books.metrics.reserved.remove (rangeLabels range)).labels? key = _ ↔ _
    rw [Family.labels?_remove, Books.removed, shows_after, ← accurate.reserved]
    split <;> simp_all
  · intro name' range' stored'
    obtain ⟨-, known, other⟩ := forget_other sound stored distinct stored'
    change (books.metrics.capacity.remove (rangeLabels range)).reading? _ = _
    rw [Family.reading?_remove, if_neg other, accurate.size name' range' known]
  · intro name' range' stored'
    obtain ⟨apart, known, other⟩ := forget_other sound stored distinct stored'
    change (books.metrics.reserved.remove (rangeLabels range)).reading? _ =
      some (Int64.ofInt ((books.inventory.forget range.name).heldCount name' + offset name'))
    rw [Family.reading?_remove, if_neg other, accurate.held name' range' known,
      Inventory.heldCount_congr fun a =>
        (Inventory.forget_changesRange range.name).owner sound apart a]

section Created

variable {inv : Inventory} (sound : inv.Sound) (formed : range.WellFormed)
  (missing : inv.range? range.name = none) (distinct : (inv.enter range).Distinguishable)

include sound formed missing

theorem enter_here : (inv.enter range).range? range.name = some range := by
  rw [(Inventory.enter_view sound formed).2.1, if_pos rfl, missing, Option.none_or]

include distinct

theorem enter_other {name' : String} {range' : RangeRecord} (other : name' ≠ range.name)
    (stored' : (inv.enter range).range? name' = some range') :
    inv.range? name' = some range' ∧
      seriesKey (rangeLabels range) ≠ seriesKey (rangeLabels range') := by
  have apart : seriesKey (rangeLabels range) ≠ seriesKey (rangeLabels range') := fun same =>
    other (distinct _ _ _ _ (enter_here sound formed missing) stored' same).symm
  rw [(Inventory.enter_view sound formed).2.1, if_neg other.symm] at stored'
  exact ⟨stored', apart⟩

theorem shows_enter (key : String) (labels : List String) :
    Shows (inv.enter range) key labels ↔
      if seriesKey (rangeLabels range) = key then rangeLabels range = labels
      else Shows inv key labels := by
  constructor
  · rintro ⟨name', range', stored', rfl, rfl⟩
    by_cases same : name' = range.name
    · subst same
      rw [enter_here sound formed missing] at stored'
      cases stored'
      rw [if_pos rfl]
    · obtain ⟨known, other⟩ := enter_other sound formed missing distinct same stored'
      rw [if_neg other]
      exact ⟨name', range', known, rfl, rfl⟩
  · intro shown
    split at shown
    next here =>
      exact ⟨range.name, range, enter_here sound formed missing, shown, shown ▸ here⟩
    next other =>
      obtain ⟨name', range', stored', rfl, rfl⟩ := shown
      refine ⟨name', range', ?_, rfl, rfl⟩
      rw [(Inventory.enter_view sound formed).2.1, if_neg, stored']
      rintro rfl
      rw [missing] at stored'
      cases stored'

/-- No series has the text of the new labels yet, or the labels of two ranges would have one. -/
theorem not_shows_fresh (labels : List String) :
    ¬Shows inv (seriesKey (rangeLabels range)) labels := by
  rintro ⟨name', range', stored', rfl, same⟩
  have apart : name' ≠ range.name := by
    rintro rfl
    rw [missing] at stored'
    cases stored'
  refine (enter_other sound formed missing distinct apart ?_).2 same.symm
  rw [(Inventory.enter_changesRange formed).elsewhere name' sound apart, stored']

/-- A family with the series of the stored ranges gets the one of the new range. -/
theorem labels?_update_enter {family : Family Int64}
    (known : ∀ key labels, family.labels? key = some labels ↔ Shows inv key labels)
    (base : Int64) (f : Int64 → Int64) (key : String) (labels : List String) :
    (family.update (rangeLabels range) base f).labels? key = some labels ↔
      Shows (inv.enter range) key labels := by
  rw [Family.labels?_update, shows_enter sound formed missing distinct]
  split
  next same =>
    have unknown : family.labels? (seriesKey (rangeLabels range)) = none := by
      rw [Option.eq_none_iff_forall_ne_some]
      intro shown there
      exact not_shows_fresh sound formed missing distinct shown ((known _ _).mp there)
    rw [← same, unknown, Option.getD_none, Option.some.injEq]
  · exact known key labels

end Created

theorem Accurate.created (accurate : Accurate offset books) (sound : books.inventory.Sound)
    (formed : range.WellFormed) (missing : books.inventory.range? range.name = none)
    (distinct : (books.inventory.enter range).Distinguishable) :
    Accurate (Function.update offset range.name 0) (books.created range) := by
  have here := enter_here sound formed missing
  constructor
  · exact labels?_update_enter sound formed missing distinct accurate.capacity _ _
  · exact labels?_update_enter sound formed missing distinct accurate.reserved _ _
  · intro name' range' stored'
    change (books.metrics.capacity.update (rangeLabels range) _ _).reading? _ = _
    rw [Family.reading?_update]
    by_cases same : name' = range.name
    · subst same
      obtain rfl := Option.some.inj (here.symm.trans stored')
      rw [if_pos rfl]
    · obtain ⟨known, other⟩ := enter_other sound formed missing distinct same stored'
      rw [if_neg other, accurate.size name' range' known]
  · intro name' range' stored'
    change (books.metrics.reserved.update (rangeLabels range) _ _).reading? _ =
      some (Int64.ofInt ((books.inventory.enter range).heldCount name' + _))
    rw [Family.reading?_update]
    by_cases same : name' = range.name
    · subst same
      obtain rfl := Option.some.inj (here.symm.trans stored')
      rw [if_pos rfl, Function.update_self, Int.add_zero,
        gaugeOfCount_eq (Inventory.heldCount_le _ _)]
    · obtain ⟨known, other⟩ := enter_other sound formed missing distinct same stored'
      rw [if_neg other, accurate.held name' range' known, Function.update_of_ne same,
        Inventory.heldCount_congr fun a =>
          (Inventory.enter_changesRange formed).owner sound same a]

/-- Nothing is stored, and there are no series. -/
theorem exact_empty : Exact { inventory := .empty, metrics := .empty } := by
  have nothing : ∀ key labels, ¬Shows .empty key labels := by
    rintro key labels ⟨name, range, known, -⟩
    simp at known
  have accurate : Accurate 0 { inventory := .empty, metrics := .empty } := by
    refine ⟨fun key labels => ?_, fun key labels => ?_, by simp, by simp⟩
    · exact iff_of_false (by simp [Metrics.empty]) (nothing key labels)
    · exact iff_of_false (by simp [Metrics.empty]) (nothing key labels)
  exact accurate.exact ⟨Family.keyed_empty, Family.keyed_empty⟩

/-- Removing a range leaves exact books. -/
theorem Exact.removed (exact : books.Exact) (sound : books.inventory.Sound)
    (stored : books.inventory.range? range.name = some range) : (books.removed range).Exact := by
  have accurate := exact.accurate.removed sound stored
  exact accurate.exact (exact.toKeyed.measure _ _)

/-- Registering a range leaves exact books, if its labels tell it apart. -/
theorem Exact.created (exact : books.Exact) (sound : books.inventory.Sound)
    (formed : range.WellFormed) (missing : books.inventory.range? range.name = none)
    (distinct : (books.inventory.enter range).Distinguishable) : (books.created range).Exact := by
  have accurate := exact.accurate.created sound formed missing distinct
  have right : Function.update (0 : String → Int) range.name 0 = 0 :=
    Function.update_eq_self range.name (0 : String → Int)
  rw [right] at accurate
  exact accurate.exact (exact.toKeyed.measure _ _)

/-- In exact books every series belongs to a stored range. -/
theorem Exact.no_stray (exact : books.Exact) :
    books.metrics.reserved.toList.all fun s =>
      books.inventory.store.ranges.any fun range => rangeLabels range = s.labels := by
  rw [List.all_eq_true]
  intro s member
  obtain ⟨name, range, known, same⟩ := (exact.reservations s.labels).mp ⟨s, member, rfl⟩
  rw [List.any_eq_true]
  exact ⟨range, Store.mem_ranges.mpr ⟨name, known⟩, by simpa using same⟩

end Books

end FloatingAddress
