import FloatingAddress.Proofs.Reconcile.Questions

/-!
# Changes of one range

Registering or removing a range changes nothing but the record of this range, and who holds its
addresses follows from the records. So it does not matter whether such a change comes before or
after an operation that has nothing to do with the range: taking out a record, or claiming an
address from another range.
-/

namespace FloatingAddress.Inventory

open Reconcile

variable {inv after : Inventory} {name n : String} {key : RecordKey}

/-- The inventory after a range was removed, if it was there. -/
def forget (name : String) (inv : Inventory) : Inventory :=
  (inv.attempt (·.deleteRange name) id).2

/-- The inventory after a range was registered, if its name was free. -/
def enter (record : RangeRecord) (inv : Inventory) : Inventory :=
  (inv.attempt (·.createRange record) OperatorError.allocation).2

theorem Sound.deleteRange_of_range? (sound : inv.Sound) {record : RangeRecord}
    (found : inv.range? name = some record) :
    ∃ removal, inv.deleteRange name = .ok (removal, inv.forget name) := by
  obtain ⟨removal, after, h⟩ := deleteRange_of_known (sound.span_of_range? found) found
  exact ⟨removal, by rw [forget, attempt_of_ok h, h]⟩

theorem Sound.createRange_of_none (sound : inv.Sound) {record : RangeRecord}
    (formed : record.WellFormed) (missing : inv.range? record.name = none) :
    ∃ registration, inv.createRange record = .ok (registration, inv.enter record) := by
  have fresh := sound.span_of_range?_eq_none missing
  obtain ⟨registration, after, h⟩ := createRange_of_fresh fresh formed
  exact ⟨registration, by rw [enter, attempt_of_ok h, h]⟩

/-- What touches no record but that of one range, and makes of it what depends on that record
alone. -/
structure ChangesRange (name : String) (f : Inventory → Inventory) : Prop where
  sound : ∀ {inv}, inv.Sound → (f inv).Sound
  floatings : ∀ {inv} key, inv.Sound → (f inv).floating? key = inv.floating? key
  elsewhere : ∀ {inv} n, inv.Sound → n ≠ name → (f inv).range? n = inv.range? n
  here : ∀ {inv other}, inv.Sound → other.Sound → inv.range? name = other.range? name →
    (f inv).range? name = (f other).range? name

namespace ChangesRange

variable {f g : Inventory → Inventory}

theorem comp (second : ChangesRange name g) (first : ChangesRange name f) :
    ChangesRange name (g ∘ f) where
  sound sound := second.sound (first.sound sound)
  floatings key sound := by
    rw [Function.comp, second.floatings key (first.sound sound), first.floatings key sound]
  elsewhere n sound other := by
    rw [Function.comp, second.elsewhere n (first.sound sound) other, first.elsewhere n sound other]
  here sound sound' same :=
    second.here (first.sound sound) (first.sound sound') (first.here sound sound' same)

theorem range?_congr (change : ChangesRange name f) {other : Inventory} (sound : inv.Sound)
    (sound' : other.Sound) (ranges : ∀ n, inv.range? n = other.range? n) (n : String) :
    (f inv).range? n = (f other).range? n := by
  by_cases same : n = name
  · rw [same, change.here sound sound' (ranges name)]
  · rw [change.elsewhere n sound same, change.elsewhere n sound' same, ranges]

theorem rollback (change : ChangesRange name f) (sound : inv.Sound) (key : RecordKey) :
    (f inv).rollback key = f (inv.rollback key) := by
  refine ((change.sound sound).rollback key).ext_records (change.sound (sound.rollback key))
    (fun n => ?_) fun k => ?_
  · rw [range?_rollback]
    exact change.range?_congr sound (sound.rollback key) (fun n => (range?_rollback n).symm) n
  · rw [change.floatings k (sound.rollback key), floating?_rollback, floating?_rollback,
      change.floatings k sound]

/-- The holders of other ranges stay. -/
theorem owner (change : ChangesRange name f) (sound : inv.Sound) (other : n ≠ name)
    (address : Ipv4) : (f inv).allocator.owner n address = inv.allocator.owner n address :=
  (change.sound sound).owner_congr sound (change.elsewhere n sound other)
    (fun key => change.floatings key sound) address

/-- A claim from another range obtains the same address. -/
theorem claim (change : ChangesRange name f) (sound : inv.Sound) {record : FloatingRecord}
    (other : record.range ≠ name) (plain : record.key.Plain)
    (missing : inv.floating? record.key = none) :
    (f inv).claim record = (inv.claim record).map fun (claim, after) => (claim, f after) := by
  have sound' := change.sound sound
  have range := change.elsewhere record.range sound other
  have answers : (inv.allocator.acquire record.range record.owner record.address).map (·.1) =
      ((f inv).allocator.acquire record.range record.owner record.address).map (·.1) :=
    Allocator.acquire_congr (by rw [sound.spans, sound'.spans, range])
      (sound.owner_congr sound' range.symm fun k => (change.floatings k sound).symm)
  cases acquired : inv.allocator.acquire record.range record.owner record.address with
  | error error =>
    cases acquired' : (f inv).allocator.acquire record.range record.owner record.address with
    | error error' =>
      rw [acquired, acquired'] at answers
      cases answers
      rw [claim_of_acquire_error acquired, claim_of_acquire_error acquired']
      rfl
    | ok _ =>
      rw [acquired, acquired'] at answers
      cases answers
  | ok result =>
    cases acquired' : (f inv).allocator.acquire record.range record.owner record.address with
    | error error' =>
      rw [acquired, acquired'] at answers
      cases answers
    | ok result' =>
      rw [acquired, acquired'] at answers
      obtain ⟨address, allocator⟩ := result
      obtain ⟨address', allocator'⟩ := result'
      cases answers
      obtain ⟨after, h⟩ := claim_of_acquire acquired
      obtain ⟨after', h'⟩ := claim_of_acquire acquired'
      have soundAfter := sound.claim plain missing h
      have missing' : (f inv).floating? record.key = none := by
        rw [change.floatings _ sound, missing]
      have soundAfter' := sound'.claim plain missing' h'
      obtain ⟨-, -, -, ranges, floatings⟩ := claim_ok h
      obtain ⟨-, -, -, ranges', floatings'⟩ := claim_ok h'
      have same : after' = f after := by
        refine soundAfter'.ext_records (change.sound soundAfter) (fun n => ?_) fun k => ?_
        · rw [ranges']
          exact change.range?_congr sound soundAfter (fun n => (ranges n).symm) n
        · rw [floatings', change.floatings k soundAfter, floatings, change.floatings k sound]
      rw [h, h', range, same]
      rfl

end ChangesRange

theorem forget_of_none (sound : inv.Sound) (missing : inv.range? name = none) :
    inv.forget name = inv := by
  have unknown := sound.span_of_range?_eq_none missing
  have h : inv.deleteRange name = .error (.allocation (.rangeNotFound name)) := by
    simp only [deleteRange, Allocator.deregister_of_span_eq_none unknown]
  rw [forget, attempt_of_error h]

theorem forget_view (sound : inv.Sound) (name : String) :
    (inv.forget name).Sound ∧
      (∀ n, (inv.forget name).range? n = if name = n then none else inv.range? n) ∧
      ∀ k, (inv.forget name).floating? k = inv.floating? k := by
  cases found : inv.range? name with
  | none =>
    rw [forget_of_none sound found]
    refine ⟨sound, fun n => ?_, fun k => rfl⟩
    split
    next same => rw [← same, found]
    · rfl
  | some record =>
    obtain ⟨removal, h⟩ := sound.deleteRange_of_range? found
    obtain ⟨-, ranges, floatings, -⟩ := deleteRange_ok h
    exact ⟨sound.deleteRange h, ranges, floatings⟩

theorem enter_of_some {record stored : RangeRecord} (sound : inv.Sound)
    (found : inv.range? record.name = some stored) : inv.enter record = inv := by
  cases h : inv.createRange record with
  | error error => rw [enter, attempt_of_error h]
  | ok result =>
    have fresh := (createRange_ok h).1
    rw [sound.span_of_range? found] at fresh
    cases fresh

theorem enter_view {record : RangeRecord} (sound : inv.Sound) (formed : record.WellFormed) :
    (inv.enter record).Sound ∧
      (∀ n, (inv.enter record).range? n =
        if record.name = n then (inv.range? n).or (some record) else inv.range? n) ∧
      ∀ k, (inv.enter record).floating? k = inv.floating? k := by
  cases found : inv.range? record.name with
  | none =>
    obtain ⟨registration, h⟩ := sound.createRange_of_none formed found
    obtain ⟨-, _, -, ranges, floatings, -⟩ := createRange_ok h
    refine ⟨sound.createRange formed h, fun n => ?_, floatings⟩
    rw [ranges]
    split
    next same => rw [← same, found, Option.none_or]
    · rfl
  | some stored =>
    rw [enter_of_some sound found]
    refine ⟨sound, fun n => ?_, fun k => rfl⟩
    split
    next same => rw [← same, found, Option.some_or]
    · rfl

theorem forget_changesRange (name : String) : ChangesRange name (forget name) where
  sound sound := (forget_view sound _).1
  floatings key sound := (forget_view sound _).2.2 key
  elsewhere n sound other := by rw [(forget_view sound _).2.1, if_neg other.symm]
  here sound sound' _ := by rw [(forget_view sound _).2.1, (forget_view sound' _).2.1, if_pos rfl,
    if_pos rfl]

theorem enter_changesRange {record : RangeRecord} (formed : record.WellFormed) :
    ChangesRange record.name (enter record) where
  sound sound := (enter_view sound formed).1
  floatings key sound := (enter_view sound formed).2.2 key
  elsewhere n sound other := by rw [(enter_view sound formed).2.1, if_neg other.symm]
  here sound sound' same := by
    rw [(enter_view sound formed).2.1, (enter_view sound' formed).2.1, same]

end FloatingAddress.Inventory
