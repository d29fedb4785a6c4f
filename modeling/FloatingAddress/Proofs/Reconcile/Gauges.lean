import FloatingAddress.Proofs.Reconcile.Phases

/-!
# A range changes while a floating address is counted

When a range is registered again, its gauge starts from the number of addresses that are held then.
If this happens between a claim or a release and the question that counts it, the address is
counted a second time. Only a claim that is undone later may come out right: nothing is counted
then, and the gauge is right if the new range did not take the address over.

The books are exact afterwards in no other case.
-/

namespace FloatingAddress

open Dialogue Metrics Reconcile Tasks

variable {α : Type} {key : RecordKey} {books : Books} {stored fresh range : RangeRecord}
  {persist : RecordKey → Ipv4 → Except OperatorError Unit}

namespace Books

/-- The books after a range was removed and registered again. -/
def replaced (stored fresh : RangeRecord) (books : Books) : Books :=
  (books.removed stored).created fresh

theorem play_removeRange (sound : books.inventory.Sound)
    (known : books.inventory.range? range.name = some range) :
    ((unreported (removeRange range.name).run).play (fun c books => answer persist c books)
      books) = (.ok (), books.removed range) := by
  obtain ⟨removal, removes⟩ := sound.deleteRange_of_range? known
  have same : removal.record = range :=
    Option.some.inj ((Inventory.deleteRange_ok removes).1.symm.trans known)
  have answered : books.answer persist (.deleteRange range.name) =
      (.ok removal, { books with inventory := books.inventory.forget range.name }) := by
    simp only [answer, Inventory.answer, Inventory.attempt, removes]
  rw [unreported_removeRange, play_ask, answered]
  subst same
  rfl

theorem play_createRange (sound : books.inventory.Sound) (formed : range.WellFormed)
    (missing : books.inventory.range? range.name = none) :
    ((unreported (createRange range).run).play (fun c books => answer persist c books) books) =
      (.ok (), books.created range) := by
  obtain ⟨registration, creates⟩ := sound.createRange_of_none formed missing
  have counted := sound.readopted_eq creates
  obtain ⟨same, capacity⟩ := Inventory.registration_eq formed creates
  have answered : books.answer persist (.createRange range) =
      (.ok registration, { books with inventory := books.inventory.enter range }) := by
    simp only [answer, Inventory.answer, Inventory.attempt, creates]
  rw [unreported_createRange, play_ask, answered]
  simp only [play_ask, play_done, answer, created, same, capacity, counted]

theorem play_register {m : Manifest.Range} (sound : books.inventory.Sound)
    (valid : RangeRecord.ofManifest m = .ok range)
    (missing : books.inventory.range? range.name = none) :
    ((register m).play (fun c books => answer persist c books) books) =
      (.ok (), books.created range) := by
  unfold register
  rw [valid]
  exact play_createRange sound (RangeRecord.ofManifest_ok valid).2 missing

theorem play_applyRange_new {m : Manifest.Range} (sound : books.inventory.Sound)
    (valid : RangeRecord.ofManifest m = .ok range)
    (missing : books.inventory.range? range.name = none) :
    ((unreported (applyRange m).run).play (fun c books => answer persist c books) books) =
      (.ok (), books.created range) := by
  have found : books.inventory.range? m.metadata.anyName = none :=
    (RangeRecord.ofManifest_ok valid).1 ▸ missing
  rw [unreported_applyRange, play_ask, answer_range, found]
  exact play_register sound valid missing

theorem play_applyRange_changed {m : Manifest.Range} (sound : books.inventory.Sound)
    (valid : RangeRecord.ofManifest m = .ok fresh)
    (known : books.inventory.range? fresh.name = some stored) (changed : fresh ≠ stored) :
    ((unreported (applyRange m).run).play (fun c books => answer persist c books) books) =
      (.ok (), books.replaced stored fresh) := by
  have named := (sound.range _ _ known).1
  have found : books.inventory.range? m.metadata.anyName = some stored :=
    (RangeRecord.ofManifest_ok valid).1 ▸ known
  have differs : (RangeRecord.ofManifest m).toOption ≠ some stored := by
    rw [valid]
    simpa [Except.toOption] using changed
  obtain ⟨sound', ranges, -⟩ := Inventory.forget_view sound stored.name
  have gone : (books.removed stored).inventory.range? fresh.name = none :=
    (ranges _).trans (if_pos named)
  rw [unreported_applyRange, play_ask, answer_range, found]
  dsimp only
  rw [if_neg differs, play_bind, play_removeRange sound (named ▸ known)]
  exact play_register sound' valid gone

end Books

/-- What an uninterrupted handler does to the books does not depend on anything else. -/
theorem Operator.finish_books {α : Type} (persist : RecordKey → Ipv4 → Except OperatorError Unit)
    (d : Step α) (op : Operator) :
    (op.finish persist d).2.books =
      ((unreported d).play (fun c books => Books.answer persist c books) op.books).2 := by
  exact (congrArg Prod.snd (Books.finish_eq persist d op)).symm

namespace Tasks

/-- What the range task makes of the operator when it follows an update of a range, or its deletion
and creation anew. -/
inductive Replaces (persist : RecordKey → Ipv4 → Except OperatorError Unit) (fresh : RangeRecord)
    (op : Operator) : Operator → Prop
  | update (m : Manifest.Range) (stored : RangeRecord)
    (known : op.inventory.range? fresh.name = some stored)
    (valid : RangeRecord.ofManifest m = .ok fresh) (changed : fresh ≠ stored) :
    Replaces persist fresh op (op.finish persist (Watch.followRange (.apply m))).2
  | recreate (gone m : Manifest.Range) (stored : RangeRecord)
    (known : op.inventory.range? fresh.name = some stored)
    (valid : RangeRecord.ofManifest m = .ok fresh)
    (same : gone.metadata.anyName = fresh.name) :
    Replaces persist fresh op ((op.finish persist (Watch.followRange (.delete gone))).2.finish
      persist (Watch.followRange (.apply m))).2

theorem finish_deleted {op : Operator} (gone : Manifest.Range) (sound : op.inventory.Sound)
    (persist : RecordKey → Ipv4 → Except OperatorError Unit)
    (known : op.inventory.range? gone.metadata.anyName = some range) :
    (op.finish persist (Watch.followRange (.delete gone))).2.books = op.books.removed range := by
  have named := (sound.range _ _ known).1
  rw [Operator.finish_books, unreported_followRange, play_bind, play_done]
  dsimp only [deleteRange]
  rw [← named, Books.play_removeRange sound (named ▸ known)]

theorem Replaces.finished {op after : Operator} (replaces : Replaces persist fresh op after)
    (sound : op.inventory.Sound) :
    ∃ stored, op.inventory.range? fresh.name = some stored ∧ stored.name = fresh.name ∧
      fresh.WellFormed ∧ after.books = op.books.replaced stored fresh := by
  cases replaces with
  | update m stored known valid changed =>
    refine ⟨stored, known, (sound.range _ _ known).1, (RangeRecord.ofManifest_ok valid).2, ?_⟩
    rw [Operator.finish_books, unreported_followRange, play_bind, play_done]
    exact congrArg Prod.snd (Books.play_applyRange_changed sound valid known changed)
  | recreate gone m stored known valid same =>
    have named := (sound.range _ _ known).1
    refine ⟨stored, known, named, (RangeRecord.ofManifest_ok valid).2, ?_⟩
    have removed := finish_deleted gone sound persist (same ▸ known)
    obtain ⟨sound', ranges, -⟩ := Inventory.forget_view sound stored.name
    have missing : (op.books.removed stored).inventory.range? fresh.name = none :=
      (ranges _).trans (if_pos named)
    rw [Operator.finish_books, unreported_followRange, play_bind, play_done, removed]
    exact congrArg Prod.snd (Books.play_applyRange_new sound' valid missing)

end Tasks

namespace Books

variable {offset : String → Int} {name : String}

/-- The gauge of a range shows how many of its addresses are held. -/
def Counted (books : Books) (name : String) : Prop :=
  ∀ range, books.inventory.range? name = some range →
    books.metrics.reserved.reading? (rangeLabels range) =
      some (gaugeOfCount (books.inventory.heldCount name))

theorem Accurate.counted_iff (accurate : books.Accurate offset)
    (known : books.inventory.range? name = some range) (low : -1 ≤ offset name)
    (high : offset name ≤ 1) : books.Counted name ↔ offset name = 0 := by
  have reading := accurate.held name range known
  constructor
  · intro counted
    rw [counted range known, Option.some.injEq] at reading
    exact offset_eq_zero (Inventory.heldCount_le _ _) low high reading.symm
  · intro right range' known'
    obtain rfl := Option.some.inj (known.symm.trans known')
    rw [reading, right, Int.add_zero, gaugeOfCount_eq (Inventory.heldCount_le _ _)]

/-- Something was counted that should not have been. -/
def Miscounted (books : Books) : Prop :=
  books.Stale ∨ ∃ name range, ∃ k : Int, books.inventory.range? name = some range ∧
    (k = 1 ∨ k = -1) ∧ books.Accurate (Pi.single name k)

theorem Miscounted.not_exact (miscounted : books.Miscounted) : ¬books.Exact := by
  obtain stale | ⟨name, range, k, known, off, accurate⟩ := miscounted
  · exact stale.not_exact
  · refine accurate.not_exact known ?_ ?_ ?_ <;> rw [Pi.single_eq_same] <;> omega

/-- Counting up or down from exact books is a miscount, whatever the labels are. -/
theorem Accurate.miscount {labels : List String} {f : Int64 → Int64} {k : Int}
    (accurate : books.Accurate 0) (sound : books.inventory.Sound)
    (shift : ∀ n, f (Int64.ofInt n) = Int64.ofInt (n + k)) (off : k = 1 ∨ k = -1) :
    Miscounted { books with metrics := { books.metrics with
      reserved := books.metrics.reserved.update labels 0 f } } := by
  by_cases found : ∃ name range, books.inventory.range? name = some range ∧
      seriesKey labels = seriesKey (rangeLabels range)
  · obtain ⟨name, range, known, same⟩ := found
    have adjusted := accurate.adjust sound known same shift
    rw [zero_add] at adjusted
    exact .inr ⟨name, range, k, known, off, adjusted⟩
  · left
    refine accurate.stale fun name range known same => ?_
    exact found ⟨name, range, known, same⟩

/-- An address is given back without being counted, so the books are exact after that if and only
if it was not held: the range does not have it. -/
theorem Accurate.exact_rollback_iff (accurate : books.Accurate 0) (sound : books.inventory.Sound)
    (keyed : Keyed { books with inventory := books.inventory.rollback key })
    {record : FloatingRecord} {address : Ipv4}
    (stored : books.inventory.floating? key = some record)
    (known : books.inventory.range? record.range = some range)
    (carried : record.address = some address) :
    Exact { books with inventory := books.inventory.rollback key } ↔
      ¬range.span.contains address := by
  have held_iff := sound.isHeld_iff stored known carried
  constructor
  · intro exact usable
    have back := accurate.rollback stored (held_iff.mpr usable)
    rw [zero_add] at back
    have known' : (books.inventory.rollback key).range? record.range = some range :=
      (Inventory.range?_rollback record.range).trans known
    exact Miscounted.not_exact (.inr ⟨record.range, range, 1, known', .inl rfl, back⟩) exact
  · intro outside
    exact (accurate.rollback_unheld stored (mt held_iff.mp outside)).exact keyed

/-- What was miscounted stays so, as long as no range comes or goes. -/
theorem Miscounted.leads {after : Books} (miscounted : books.Miscounted)
    (ranges : ∀ n, after.inventory.range? n = books.inventory.range? n)
    (leads : Phase.Leads key books after .even .even) : after.Miscounted := by
  obtain stale | ⟨name, range, k, known, off, accurate⟩ := miscounted
  · exact .inl (leads.2 stale)
  · exact .inr ⟨name, range, k, (ranges name).trans known, off, leads.1 _ accurate⟩

section Replaced

variable (sound : books.inventory.Sound)
  (known : books.inventory.range? fresh.name = some stored)

include sound known

theorem inventory_replaced :
    (books.replaced stored fresh).inventory = Tasks.replaced fresh books.inventory := by
  have named := (sound.range _ _ known).1
  rw [Tasks.replaced, ← named]
  rfl

variable (formed : fresh.WellFormed)

include formed

theorem range?_replaced :
    (books.replaced stored fresh).inventory.range? fresh.name = some fresh := by
  obtain ⟨sound', ranges, -⟩ := Inventory.forget_view sound fresh.name
  rw [inventory_replaced sound known, Tasks.replaced,
    (Inventory.enter_view sound' formed).2.1, if_pos rfl, ranges, if_pos rfl, Option.none_or]

theorem Accurate.replaced (accurate : books.Accurate offset)
    (distinct : (books.replaced stored fresh).inventory.Distinguishable) :
    (books.replaced stored fresh).Accurate (Function.update offset fresh.name 0) := by
  have named := (sound.range _ _ known).1
  obtain ⟨sound', ranges, -⟩ := Inventory.forget_view sound stored.name
  have gone : (books.removed stored).inventory.range? fresh.name = none :=
    (ranges _).trans (if_pos named)
  exact (accurate.removed sound (named ▸ known)).created sound' formed gone distinct

end Replaced

end Books

/-- The claim of the identity was undone, and the new range does not have its address. -/
def Undone (key : RecordKey) (fresh : RangeRecord) (books final : Books) : Prop :=
  ∃ record address, books.inventory.floating? key = some record ∧ record.range = fresh.name ∧
    record.address = some address ∧ ¬fresh.span.contains address ∧
    final.inventory.floating? key = none

/-- The gauge is lowered, and the rest goes on from there. -/
theorem Counting.play_lowering {d : Step α} (counting : Counting key (.lowering range) d)
    (proceeds : Proceeds (unmeasured d) books.inventory)
    (persist : RecordKey → Ipv4 → Except OperatorError Unit) :
    let lowered := { books with metrics := books.metrics.apply (.reservedDown range) }
    let after := (d.play (fun c books => Books.answer persist c books) books).2
    (∀ n, after.inventory.range? n = lowered.inventory.range? n) ∧
      Phase.Leads key lowered after .even .even := by
  cases counting with
  | persist _ free => exact absurd rfl (free range)
  | lower range next rest => exact (rest.play (proceeds.reply persist).2 persist).2

/-- A claimed address is counted, or the claim is undone, and that is all. -/
theorem Counting.play_owing {d : Step α} (counting : Counting key (.owing range) d)
    (books : Books) (persist : RecordKey → Ipv4 → Except OperatorError Unit) :
    (d.play (fun c books => Books.answer persist c books) books).2 =
      { books with metrics := books.metrics.apply (.reservedUp range) } ∨
    (d.play (fun c books => Books.answer persist c books) books).2 =
      { books with inventory := books.inventory.rollback key } := by
  generalize same : Phase.owing range = phase at counting
  induction counting generalizing books with
  | persist phase free key' address next _ ih => exact ih _ books same
  | raise range' a =>
    cases same
    exact .inl rfl
  | undo range' a =>
    cases same
    exact .inr rfl
  | _ => cases same

section Phases

variable {d : Step α} {final : Books} (sound : books.inventory.Sound)
  (known : books.inventory.range? fresh.name = some stored) (formed : fresh.WellFormed)
  (distinct : (books.replaced stored fresh).inventory.Distinguishable)

/-- The range is not the one that is still to be counted, if there is one. -/
def Phase.Elsewhere (name : String) : Phase → Prop
  | .even => True
  | .lowering range | .owing range => range.name ≠ name

include sound known formed distinct

/-- What has to be counted for another range is counted as if the range had not been replaced. -/
theorem Phase.Holds.replaced {phase : Phase} (holds : phase.Holds key 0 books)
    (elsewhere : phase.Elsewhere fresh.name) :
    books.Counted fresh.name ∧ phase.Holds key 0 (books.replaced stored fresh) := by
  have same := Books.inventory_replaced sound known
  have changes := replaced_changesRange formed
  have kept : ∀ offset : String → Int, offset fresh.name = 0 → books.Accurate offset →
      books.Counted fresh.name ∧ (books.replaced stored fresh).Accurate offset := by
    intro offset right accurate
    have after := accurate.replaced sound known formed distinct
    have unchanged : Function.update offset fresh.name 0 = offset := by
      rw [Function.update_eq_self_iff, right]
    rw [unchanged] at after
    refine ⟨(accurate.counted_iff known ?_ ?_).mpr right, after⟩ <;> omega
  cases phase with
  | even => exact kept 0 rfl holds
  | lowering range =>
    obtain ⟨there, gone, accurate⟩ := holds
    have right : (0 + Pi.single range.name 1 : String → Int) fresh.name = 0 := by
      rw [zero_add, Pi.single_eq_of_ne (Ne.symm elsewhere)]
    obtain ⟨counted, after⟩ := kept _ right accurate
    refine ⟨counted, ?_, ?_, after⟩
    · rw [same, changes.elsewhere _ sound elsewhere, there]
    · rw [same, changes.floatings _ sound, gone]
  | owing range =>
    obtain ⟨there, ⟨record, address, claimed⟩, accurate⟩ := holds
    have right : (0 + Pi.single range.name (-1) : String → Int) fresh.name = 0 := by
      rw [zero_add, Pi.single_eq_of_ne (Ne.symm elsewhere)]
    obtain ⟨counted, after⟩ := kept _ right accurate
    refine ⟨counted, ?_, ⟨record, address, ?_⟩, after⟩
    · rw [same, changes.elsewhere _ sound elsewhere, there]
    · rw [same, changes.floatings _ sound]
      exact claimed

/-- A range that is off by some count is right after it was replaced. -/
theorem Books.Accurate.restart {k : Int}
    (accurate : books.Accurate (0 + Pi.single fresh.name k)) :
    (books.replaced stored fresh).Accurate 0 := by
  have after := accurate.replaced sound known formed distinct
  have right : Function.update (0 + Pi.single fresh.name k : String → Int) fresh.name 0 = 0 := by
    rw [zero_add, Pi.single, Function.update_idem]
    exact Function.update_eq_self fresh.name (0 : String → Int)
  rwa [right] at after

/-- A release is counted a second time. -/
theorem Counting.lowering_replaced (counting : Counting key (.lowering range) d)
    (holds : (Phase.lowering range).Holds key 0 books) (here : range.name = fresh.name)
    (proceeds : Proceeds (unmeasured d) (books.replaced stored fresh).inventory)
    (played : final = (d.play (fun c books => Books.answer persist c books)
      (books.replaced stored fresh)).2) :
    ¬books.Counted fresh.name ∧ ¬Undone key fresh books final ∧ ¬final.Exact := by
  obtain ⟨there, gone, accurate⟩ := holds
  rw [here] at there accurate
  refine ⟨?_, ?_, ?_⟩
  · rw [accurate.counted_iff there] <;> simp
  · rintro ⟨record, address, found, -⟩
    rw [gone] at found
    cases found
  · have after := accurate.restart sound known formed distinct
    have twice : Books.Miscounted { books.replaced stored fresh with
        metrics := (books.replaced stored fresh).metrics.apply (.reservedDown range) } :=
      after.miscount proceeds.sound (fun n => by rw [Int64.ofInt_add, Int64.sub_eq_add_neg]; rfl)
        (.inr rfl)
    obtain ⟨ranges, leads⟩ := counting.play_lowering proceeds persist
    rw [played]
    exact (twice.leads ranges leads).not_exact

/-- A claim is counted a second time, unless it is undone and the new range does not have its
address. -/
theorem Counting.owing_replaced (counting : Counting key (.owing range) d)
    (holds : (Phase.owing range).Holds key 0 books) (here : range.name = fresh.name)
    (sound' : (books.replaced stored fresh).inventory.Sound) (keyed : final.Keyed)
    (played : final = (d.play (fun c books => Books.answer persist c books)
      (books.replaced stored fresh)).2) :
    ¬books.Counted fresh.name ∧ (final.Exact ↔ Undone key fresh books final) := by
  obtain ⟨there, ⟨record, address, found, drawn, carried, -⟩, accurate⟩ := holds
  rw [here] at there accurate drawn
  have after := accurate.restart sound known formed distinct
  have entered := Books.range?_replaced sound known formed
  have kept : (books.replaced stored fresh).inventory.floating? key = some record := by
    rw [Books.inventory_replaced sound known, (replaced_changesRange formed).floatings _ sound,
      found]
  refine ⟨by rw [accurate.counted_iff there] <;> simp, ?_⟩
  obtain raised | undone := counting.play_owing (books.replaced stored fresh) persist
  · -- The new range has counted the address already, or does not have it.
    have twice : final.Miscounted := by
      rw [played, raised]
      exact after.miscount sound' (fun n => (Int64.ofInt_add n 1).symm) (.inl rfl)
    refine iff_of_false twice.not_exact ?_
    rintro ⟨_, _, _, _, _, _, gone⟩
    rw [played, raised] at gone
    exact Option.some_ne_none record (kept.symm.trans gone)
  · have final_eq := played.trans undone
    have gone : final.inventory.floating? key = none := by
      rw [final_eq]
      exact (Inventory.floating?_rollback key).trans (if_pos rfl)
    have exact_iff : final.Exact ↔ ¬fresh.span.contains address := by
      rw [final_eq] at keyed ⊢
      exact after.exact_rollback_iff sound' keyed kept (drawn ▸ entered) carried
    rw [exact_iff]
    constructor
    · exact fun outside => ⟨record, address, found, drawn, carried, outside, gone⟩
    · rintro ⟨record', address', found', -, carried', outside, -⟩
      obtain rfl := Option.some.inj (found.symm.trans found')
      obtain rfl := Option.some.inj (carried.symm.trans carried')
      exact outside

end Phases

/-- The books are exact in the end if and only if the ranges can be told apart by their labels and
the gauge of the range was right when the range was replaced, or the claim was undone later. -/
theorem Counting.exact_iff {phase : Phase} {d : Step α} {final : Books}
    (counting : Counting key phase d) (holds : phase.Holds key 0 books)
    (proceeds : Proceeds (unmeasured d) books.inventory) (keyed : books.Keyed)
    (known : books.inventory.range? fresh.name = some stored) (formed : fresh.WellFormed)
    (played : final = (d.play (fun c books => Books.answer persist c books)
      (books.replaced stored fresh)).2) :
    final.Exact ↔ final.inventory.Distinguishable ∧
      (books.Counted fresh.name ∨ Undone key fresh books final) := by
  have sound := proceeds.sound
  have proceeds' : Proceeds (unmeasured d) (books.replaced stored fresh).inventory := by
    rw [Books.inventory_replaced sound known]
    exact proceeds.change (replaced_changesRange formed)
  obtain ⟨sound', ranges, leads⟩ := counting.play proceeds' persist
  rw [← played] at sound' ranges leads
  have keyed' : final.Keyed := by
    have removed : (books.removed stored).Keyed := keyed.measure _ _
    rw [played]
    exact Books.Keyed.play (removed.measure _ _) persist d
  have distinct_iff : final.inventory.Distinguishable ↔
      (books.replaced stored fresh).inventory.Distinguishable := by
    simp only [Inventory.Distinguishable, ranges]
  by_cases distinct : (books.replaced stored fresh).inventory.Distinguishable
  · rw [and_iff_right (distinct_iff.mpr distinct)]
    by_cases elsewhere : phase.Elsewhere fresh.name
    · obtain ⟨counted, holds'⟩ := holds.replaced sound known formed distinct elsewhere
      exact iff_of_true ((leads.1 0 holds').exact keyed') (.inl counted)
    · cases phase with
      | even => exact absurd trivial elsewhere
      | lowering range =>
        have here : range.name = fresh.name := not_not.mp elsewhere
        obtain ⟨uncounted, done, inexact⟩ := counting.lowering_replaced sound known
          formed distinct holds here proceeds' played
        exact iff_of_false inexact (not_or.mpr ⟨uncounted, done⟩)
      | owing range =>
        have here : range.name = fresh.name := not_not.mp elsewhere
        obtain ⟨uncounted, undone⟩ := counting.owing_replaced sound known formed distinct
          holds here proceeds'.sound keyed' played
        rw [undone, or_iff_right uncounted]
  · refine iff_of_false (fun exact => ?_) fun ⟨told, _⟩ => distinct (distinct_iff.mp told)
    exact distinct (distinct_iff.mp (exact.accurate.distinguishable sound'))

namespace Tasks

/-- A range is replaced after some questions of the handler of a floating address, and the handler
goes on from there. If the books were exact before, they are exact in the end if and only if the
ranges can be told apart by their labels and the gauge of the range was right when the range was
replaced, or the claim in question was undone later and the new range does not have its address. -/
theorem Reached.gauges_exact_iff {op between after : Operator} (reached : Reached (idle op))
    (exact : op.books.Exact) {change : Watch.Change Manifest.Floating} (plain : change.Plain)
    {persist persist' : RecordKey → Ipv4 → Except OperatorError Unit} {n : Nat} {rest : Step Unit}
    (cut : (Watch.followFloating change).pause (fun c op => op.reply persist c) n op =
      (rest, between))
    (replaces : Replaces persist' fresh between after) :
    (after.finish persist rest).2.books.Exact ↔
      (after.finish persist rest).2.inventory.Distinguishable ∧
        (between.books.Counted fresh.name ∨
          Undone change.key fresh between.books (after.finish persist rest).2.books) := by
  have sound : op.inventory.Sound := reached.orderly.sound
  have proceeds : Proceeds (unmeasured (Watch.followFloating change)) op.inventory :=
    ⟨sound, keepsFloatings_follow plain trivial _⟩
  obtain ⟨trace, advance⟩ := Advance.pause (fun c op => Operator.reply persist c op) n
    (Watch.followFloating change) op
  rw [cut] at advance
  have advance' := advance.skip (Books.views persist)
  have keyed := exact.toKeyed.advance advance'
  rw [unmeasured_eq] at proceeds
  obtain ⟨proceeds', -, phase, counting, leads⟩ :=
    (Counting.followFloating change).advance advance' proceeds
  have holds := leads.1 0 exact.accurate
  obtain ⟨stored, known, -, formed, replaced⟩ := replaces.finished proceeds'.sound
  have played := Operator.finish_books persist rest after
  rw [replaced] at played
  exact counting.exact_iff holds proceeds' keyed known formed played

end Tasks

namespace Sample

/-- The new floating address has been claimed, but not counted. -/
def claimed : Step Unit × Operator :=
  (Watch.followFloating (.apply one)).pause (fun c op => op.reply accept c) 2 blue

/-- At this moment the range gets its smaller network. -/
def shrunk : Operator := (claimed.2.finish accept (Watch.followRange (.apply smaller))).2

/-- The claim is counted after that. -/
def counted : Operator := (shrunk.finish accept claimed.1).2

end Sample

namespace Tasks

theorem exact_blue : Sample.blue.books.Exact := by
  have parsed : (RangeRecord.ofManifest (Sample.range "blue" "10.0.0.0/28")).isOk := by
    decide +kernel
  cases valid : RangeRecord.ofManifest (Sample.range "blue" "10.0.0.0/28") with
  | error error => simp [valid, Except.isOk, Except.toBool] at parsed
  | ok record =>
    have formed := (RangeRecord.ofManifest_ok valid).2
    have missing : Inventory.empty.range? record.name = none := Inventory.range?_empty _
    have books_eq : Sample.blue.books = ({} : Operator).books.created record := by
      rw [Sample.blue, Operator.finish_books, unreported_followRange, play_bind, play_done]
      exact congrArg Prod.snd (Books.play_applyRange_new Inventory.Sound.empty valid missing)
    have only : ∀ name range, (Inventory.empty.enter record).range? name = some range →
        record.name = name := by
      intro name range known
      rw [(Inventory.enter_view .empty formed).2.1] at known
      split at known
      next same => exact same
      · simp at known
    have distinct : (Inventory.empty.enter record).Distinguishable := by
      intro name name' range range' known known' _
      exact (only _ _ known).symm.trans (only _ _ known')
    rw [books_eq]
    exact Books.exact_empty.created .empty formed missing distinct

theorem cut_claimed : (Watch.followFloating (.apply Sample.one)).pause
    (fun c op => op.reply Sample.accept c) 2 Sample.blue =
      (Sample.claimed.1, Sample.claimed.2) := by
  unfold Sample.claimed
  exact Prod.mk.eta.symm

theorem plain_one : (Watch.Change.apply Sample.one).Plain :=
  show (lookupKey Sample.one).Plain by decide

theorem replaces_shrunk : ∃ fresh : RangeRecord, fresh.name = "blue" ∧
    RangeRecord.ofManifest Sample.smaller = .ok fresh ∧
      Replaces Sample.accept fresh Sample.claimed.2 Sample.shrunk := by
  have known : (Sample.claimed.2.inventory.range? "blue").any fun stored =>
      (RangeRecord.ofManifest Sample.smaller).toOption.any fun fresh => fresh ≠ stored := by
    decide +kernel
  obtain ⟨stored, found, known⟩ := (Option.any_eq_true ..).mp known
  obtain ⟨fresh, valid, changed⟩ := (Option.any_eq_true ..).mp known
  have accepted : RangeRecord.ofManifest Sample.smaller = .ok fresh := by
    cases h : RangeRecord.ofManifest Sample.smaller with
    | error error => rw [h] at valid; cases valid
    | ok record => rw [h] at valid; cases valid; rfl
  have named : fresh.name = "blue" := (RangeRecord.ofManifest_ok accepted).1
  exact ⟨fresh, named, accepted, .update _ stored (named ▸ found) accepted (by simpa using changed)⟩

/-- The address is counted under the labels that the range had when it was claimed. No stored range
has them any more. -/
theorem claim_counted_twice : ∃ (op between after : Operator)
    (change : Watch.Change Manifest.Floating) (fresh : RangeRecord) (n : Nat) (rest : Step Unit)
    (persist : RecordKey → Ipv4 → Except OperatorError Unit),
    Reached (idle op) ∧ op.books.Exact ∧ change.Plain ∧
      (Watch.followFloating change).pause (fun c op => op.reply persist c) n op =
        (rest, between) ∧
      Replaces persist fresh between after ∧ ¬(after.finish persist rest).2.books.Exact := by
  obtain ⟨fresh, -, -, replaces⟩ := replaces_shrunk
  have stray : ¬Sample.counted.books.metrics.reserved.toList.all fun s =>
      Sample.counted.books.inventory.store.ranges.any fun range =>
        rangeLabels range = s.labels := by
    decide +kernel
  have inexact : ¬Sample.counted.books.Exact := fun exact => stray exact.no_stray
  exact ⟨_, _, _, _, fresh, 2, _, _, reached_blue, exact_blue, plain_one, cut_claimed, replaces,
    inexact⟩

/-- At the moment of the replacement the gauge of the range is behind, and the claim is not undone
later. -/
theorem gauges_exact_iff_claimed : ∃ fresh : RangeRecord,
    Replaces Sample.accept fresh Sample.claimed.2 Sample.shrunk ∧
      ¬Sample.claimed.2.books.Counted fresh.name ∧ ¬Sample.counted.books.Exact := by
  obtain ⟨fresh, named, valid, replaces⟩ := replaces_shrunk
  have behind : (Sample.claimed.2.books.inventory.range? "blue").any fun stored =>
      Sample.claimed.2.books.metrics.reserved.reading? (rangeLabels stored) ≠
        some (gaugeOfCount (Sample.claimed.2.books.inventory.heldCount "blue")) := by
    decide +kernel
  obtain ⟨stored, found, behind⟩ := (Option.any_eq_true ..).mp behind
  have uncounted : ¬Sample.claimed.2.books.Counted fresh.name := by
    rw [named]
    exact fun counted => of_decide_eq_true behind (counted stored found)
  have usable : (RangeRecord.ofManifest Sample.smaller).toOption.all fun fresh =>
      (Sample.claimed.2.books.inventory.floating? (lookupKey Sample.one)).all fun record =>
        record.address.all fun address => fresh.span.contains address := by
    decide +kernel
  refine ⟨fresh, replaces, uncounted, fun exact => ?_⟩
  obtain ⟨-, counted | ⟨record, address, claimed, -, carried, outside, -⟩⟩ :=
    (reached_blue.gauges_exact_iff exact_blue plain_one cut_claimed replaces).mp exact
  · exact uncounted counted
  · rw [valid] at usable
    have usable := (Option.all_eq_true ..).mp usable fresh rfl
    have usable := (Option.all_eq_true ..).mp usable record claimed
    exact outside ((Option.all_eq_true ..).mp usable address carried)

end Tasks

end FloatingAddress
