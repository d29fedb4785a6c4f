import FloatingAddress.Proofs.Reconcile.Gauges

/-!
# The gauges over a sequence of changes

If every change is followed to its end before the next one, no range is replaced while an address is
counted, and after every change the gauges show what is held. What can still go wrong is the labels.
A series is found by its label values written one after the other, so two ranges whose labels read
the same share a series, and neither of them is shown as it is. The gauges are right at every time if
and only if this never happens.
-/

namespace FloatingAddress

open Dialogue Metrics Reconcile Tasks

namespace Books

variable {books after : Books} {range : RangeRecord} {name : String}
  {persist : RecordKey → Ipv4 → Except OperatorError Unit}

/-- No gauge of held addresses is below zero or above the capacity that is shown beside it. -/
def Bounded (books : Books) : Prop :=
  ∀ s ∈ books.metrics.reserved.toList, 0 ≤ s.reading ∧
    ∃ c ∈ books.metrics.capacity.toList, c.labels = s.labels ∧ s.reading ≤ c.reading

theorem toInt_gaugeOfCount {n : Nat} (small : n ≤ UInt32.size) : (gaugeOfCount n).toInt = n := by
  have size : UInt32.size = 4294967296 := rfl
  rw [gaugeOfCount_eq small, Int64.toInt_ofInt_of_le (by omega) (by omega)]

theorem gaugeOfCount_le {m n : Nat} (less : m ≤ n) (small : n ≤ UInt32.size) :
    gaugeOfCount m ≤ gaugeOfCount n := by
  rw [Int64.le_iff_toInt_le, toInt_gaugeOfCount small, toInt_gaugeOfCount (less.trans small)]
  exact Int.ofNat_le.mpr less

theorem Exact.bounded (exact : books.Exact) (sound : books.inventory.Sound) : books.Bounded := by
  intro s member
  obtain ⟨name, range, known, same⟩ := (exact.reservations s.labels).mp ⟨s, member, rfl⟩
  obtain ⟨c, shown, same'⟩ := (exact.capacities s.labels).mpr ⟨name, range, known, same⟩
  have held := exact.held name range known s member same.symm
  have size := exact.size name range known c shown (same'.trans same.symm)
  have small : range.span.capacity.toNat ≤ UInt32.size :=
    Nat.le_of_lt (UInt32.toNat_lt_size range.span.capacity)
  have less := sound.heldCount_le_capacity known
  refine ⟨?_, c, shown, same', ?_⟩
  · rw [held]
    calc (0 : Int64) = gaugeOfCount 0 := rfl
      _ ≤ gaugeOfCount _ := gaugeOfCount_le (Nat.zero_le _) (less.trans small)
  · rw [held, size]
    exact gaugeOfCount_le less small

/-- What becomes of the books when a range object is followed. -/
inductive Turns (books : Books) : Books → Prop
  | same : Turns books books
  | gone (range : RangeRecord) (known : books.inventory.range? range.name = some range) :
    Turns books (books.removed range)
  | new (range : RangeRecord) (formed : range.WellFormed)
    (missing : books.inventory.range? range.name = none) : Turns books (books.created range)
  | replaced (stored fresh : RangeRecord) (formed : fresh.WellFormed)
    (known : books.inventory.range? fresh.name = some stored) :
    Turns books (books.replaced stored fresh)

/-- A range that is not stored cannot be removed. -/
theorem finish_removeRange_of_none (sound : books.inventory.Sound)
    (missing : books.inventory.range? name = none) :
    (books.finish persist (removeRange name).run).2 = books := by
  have unknown := sound.span_of_range?_eq_none missing
  have refused : books.inventory.deleteRange name =
      .error (.allocation (.rangeNotFound name)) := by
    simp only [Inventory.deleteRange, Allocator.deregister_of_span_eq_none unknown]
  have answered : books.answer persist (.deleteRange name) =
      (.error (.allocation (.rangeNotFound name)), books) := by
    simp only [answer, Inventory.answer, Inventory.attempt, refused, id]
  rw [finish, unreported_removeRange, play_ask, answered]
  rfl

theorem turns_removeRange (sound : books.inventory.Sound) (name : String) :
    Turns books (books.finish persist (removeRange name).run).2 := by
  cases found : books.inventory.range? name with
  | none =>
    rw [finish_removeRange_of_none sound found]
    exact .same
  | some range =>
    obtain rfl := (sound.range _ _ found).1
    rw [finish, play_removeRange sound found]
    exact .gone range found

theorem turns_applyRange (sound : books.inventory.Sound) (m : Manifest.Range) :
    Turns books (books.finish persist (applyRange m).run).2 := by
  rw [finish, unreported_applyRange, play_ask, answer_range]
  cases found : books.inventory.range? m.metadata.anyName with
  | none =>
    dsimp only
    cases valid : RangeRecord.ofManifest m with
    | error error =>
      unfold register
      rw [valid]
      exact .same
    | ok range =>
      obtain ⟨named, formed⟩ := RangeRecord.ofManifest_ok valid
      have missing : books.inventory.range? range.name = none := named ▸ found
      rw [play_register sound valid missing]
      exact .new range formed missing
  | some stored =>
    have named := (sound.range _ _ found).1
    dsimp only
    split
    · exact .same
    · rw [play_bind, play_removeRange sound (named ▸ found)]
      cases valid : RangeRecord.ofManifest m with
      | error error =>
        unfold register
        rw [valid]
        exact .gone stored (named ▸ found)
      | ok fresh =>
        obtain ⟨named', formed⟩ := RangeRecord.ofManifest_ok valid
        obtain ⟨sound', ranges, -⟩ := Inventory.forget_view sound stored.name
        have missing : (books.removed stored).inventory.range? fresh.name = none :=
          (ranges _).trans (if_pos (named.trans named'.symm))
        rw [play_register sound' valid missing]
        exact .replaced stored fresh formed (named' ▸ found)

theorem turns_followRange (sound : books.inventory.Sound) (change : Watch.Change Manifest.Range)
    (persist : RecordKey → Ipv4 → Except OperatorError Unit) :
    Turns books (books.finish persist (Watch.followRange change)).2 := by
  rw [finish, unreported_followRange, play_bind, play_done]
  cases change with
  | apply m => exact turns_applyRange sound m
  | delete m => exact turns_removeRange sound m.metadata.anyName

/-- Exact books stay exact if the ranges can still be told apart afterwards. -/
theorem Turns.exact (turns : Turns books after) (sound : books.inventory.Sound)
    (exact : books.Exact) (distinct : after.inventory.Distinguishable) : after.Exact := by
  cases turns with
  | same => exact exact
  | gone range known => exact exact.removed sound known
  | new range formed missing => exact exact.created sound formed missing distinct
  | replaced stored fresh formed known =>
    -- In between the ranges may only be fewer, so nothing is assumed about the labels then.
    have named := (sound.range _ _ known).1
    obtain ⟨sound', ranges, -⟩ := Inventory.forget_view sound stored.name
    have missing : (books.removed stored).inventory.range? fresh.name = none :=
      (ranges _).trans (if_pos named)
    exact (exact.removed sound (named ▸ known)).created sound' formed missing distinct

end Books

namespace Tasks

/-- If the books are exact, the ranges are told apart. -/
theorem Reached.distinguishable {op : Operator} (reached : Reached (idle op))
    (exact : op.books.Exact) : op.inventory.Distinguishable :=
  exact.accurate.distinguishable reached.sound

/-- Following a floating address leaves exact books exact, whatever comes of it. -/
theorem Reached.exact_followFloating {op : Operator} (reached : Reached (idle op))
    (exact : op.books.Exact) {change : Watch.Change Manifest.Floating} (plain : change.Plain)
    (persist : RecordKey → Ipv4 → Except OperatorError Unit) :
    (op.finish persist (Watch.followFloating change)).2.books.Exact := by
  have proceeds : Proceeds (unmeasured (Watch.followFloating change)) op.inventory :=
    ⟨reached.sound, keepsFloatings_follow plain trivial _⟩
  rw [unmeasured_eq] at proceeds
  have counting := Counting.followFloating change
  obtain ⟨-, -, leads⟩ := counting.play (show Proceeds _ op.books.inventory from proceeds) persist
  have accurate := leads.1 0 exact.accurate
  rw [Operator.finish_books]
  exact accurate.exact (exact.toKeyed.play persist _)

/-- The operator after each of a sequence of changes, the latest first, and before all of them.
Each change is followed to its end before the next one. -/
inductive History : List Operator → Prop
  | start (op : Operator) (empty : op.inventory = .empty) (silent : op.metrics = .empty) :
    History [op]
  | range (op : Operator) (past : List Operator) (earlier : History (op :: past))
    (change : Watch.Change Manifest.Range)
    (persist : RecordKey → Ipv4 → Except OperatorError Unit) :
    History ((op.finish persist (Watch.followRange change)).2 :: op :: past)
  | floating (op : Operator) (past : List Operator) (earlier : History (op :: past))
    (change : Watch.Change Manifest.Floating) (plain : change.Plain)
    (persist : RecordKey → Ipv4 → Except OperatorError Unit) :
    History ((op.finish persist (Watch.followFloating change)).2 :: op :: past)

namespace History

variable {ops : List Operator}

theorem reached (history : History ops) : ∀ op ∈ ops, Reached (idle op) := by
  induction history with
  | start op empty silent =>
    intro op' member
    rw [List.mem_singleton.mp member]
    exact .start op empty
  | range op past earlier change persist ih =>
    rw [List.forall_mem_cons]
    exact ⟨(ih op (by simp)).followRange change persist, ih⟩
  | floating op past earlier change plain persist ih =>
    rw [List.forall_mem_cons]
    exact ⟨(ih op (by simp)).followFloating plain persist, ih⟩

/-- Every change leaves exact books exact, as long as the ranges can be told apart. -/
theorem exact (history : History ops) (distinct : ∀ op ∈ ops, op.inventory.Distinguishable) :
    ∀ op ∈ ops, op.books.Exact := by
  induction history with
  | start op empty silent =>
    intro op' member
    rw [List.mem_singleton.mp member, Operator.books, empty, silent]
    exact Books.exact_empty
  | range op past earlier change persist ih =>
    obtain ⟨distinct, before⟩ := List.forall_mem_cons.mp distinct
    have exact := ih before
    have sound : op.books.inventory.Sound := (earlier.reached op (by simp)).sound
    rw [List.forall_mem_cons]
    refine ⟨?_, exact⟩
    have turns := Books.turns_followRange sound change persist
    rw [Books.finish_eq] at turns
    exact turns.exact sound (exact op (by simp)) distinct
  | floating op past earlier change plain persist ih =>
    have exact := ih (List.forall_mem_cons.mp distinct).2
    rw [List.forall_mem_cons]
    exact ⟨(earlier.reached op (by simp)).exact_followFloating (exact op (by simp)) plain persist,
      exact⟩

/-- After every change of a sequence there is exactly one series of either gauge for every stored
range, each with the right reading, if and only if the stored ranges can be told apart by the text
of their labels after every change. -/
theorem exact_iff_distinguishable (history : History ops) :
    (∀ op ∈ ops, op.books.Exact ∧ op.books.Bounded) ↔
      ∀ op ∈ ops, op.inventory.Distinguishable := by
  constructor
  · intro right op member
    exact (history.reached op member).distinguishable (right op member).1
  · intro distinct op member
    have exact := history.exact distinct op member
    exact ⟨exact, exact.bounded (history.reached op member).sound⟩

end History

end Tasks

namespace Sample

/-- The operator knows the range `lab`. -/
def lab : Operator := (({} : Operator).finish accept
  (Watch.followRange (.apply (range "lab" "110.0.0.0/28")))).2

/-- A second range is stored, the name and the network of which read like those of `lab`. -/
def twins : Operator := (lab.finish accept
  (Watch.followRange (.apply (range "lab1" "10.0.0.0/28")))).2

def green : Manifest.Range := range "green" "10.0.1.0/28"

def colours : Operator := (blue.finish accept (Watch.followRange (.apply green))).2

/-- A floating address of `blue` is stored as well. -/
def coloursUsed : Operator := (colours.finish accept (Watch.followFloating (.apply one))).2

end Sample

namespace Tasks

theorem history_blue : History [Sample.blue, {}] :=
  .range _ _ (.start {} rfl rfl) _ Sample.accept

/-- Two stored ranges have labels of one text, so one of them is not shown. -/
theorem twins_share_series : ∃ (ops : List Operator) (op : Operator),
    History ops ∧ op ∈ ops ∧ ¬op.books.Exact := by
  have first : History [Sample.lab, {}] :=
    .range _ _ (.start {} rfl rfl) (.apply (Sample.range "lab" "110.0.0.0/28")) Sample.accept
  have history : History [Sample.twins, Sample.lab, {}] :=
    .range Sample.lab [{}] first (.apply (Sample.range "lab1" "10.0.0.0/28")) Sample.accept
  have reached := history.reached Sample.twins List.mem_cons_self
  have alike : ¬∀ range ∈ Sample.twins.inventory.store.ranges,
      ∀ range' ∈ Sample.twins.inventory.store.ranges,
        seriesKey (rangeLabels range) = seriesKey (rangeLabels range') →
          range.name = range'.name := by
    decide +kernel
  refine ⟨_, _, history, List.mem_cons_self, fun exact => ?_⟩
  exact alike (reached.sound.distinguishable_iff.mp (reached.distinguishable exact))

/-- Two ranges that are told apart are shown as they are, and so is the address that is held. -/
theorem exact_iff_distinguishable_colours :
    History [Sample.coloursUsed, Sample.colours, Sample.blue, {}] ∧
      (Sample.colours.books.Exact ∧ Sample.colours.books.Bounded) ∧
      (Sample.coloursUsed.books.Exact ∧ Sample.coloursUsed.books.Bounded) := by
  have ranged : History [Sample.colours, Sample.blue, {}] :=
    .range Sample.blue [{}] history_blue (.apply Sample.green) Sample.accept
  have history : History [Sample.coloursUsed, Sample.colours, Sample.blue, {}] :=
    .floating Sample.colours [Sample.blue, {}] ranged (.apply Sample.one) plain_one Sample.accept
  have apart : ∀ op ∈ [Sample.coloursUsed, Sample.colours, Sample.blue, {}],
      ∀ range ∈ op.inventory.store.ranges, ∀ range' ∈ op.inventory.store.ranges,
        seriesKey (rangeLabels range) = seriesKey (rangeLabels range') →
          range.name = range'.name := by
    decide +kernel
  have right := history.exact_iff_distinguishable.mpr fun op member =>
    (history.reached op member).sound.distinguishable_iff.mpr (apart op member)
  exact ⟨history, right _ (List.mem_cons_of_mem _ List.mem_cons_self), right _ List.mem_cons_self⟩

end Tasks

end FloatingAddress
