import FloatingAddress.Proofs.Reconcile.Gauges

/-!
# What a refused object leaves behind

An object may be faulty, its address may not be granted, or may not be written back. A new object
that is refused for any of these reasons leaves no trace. If there is a record already, it is taken
out before an address is claimed anew, and it stays out: what is left are the inventory and the
metrics that its release alone would have left. Only an object that changes nothing keeps its
record, even if its address cannot be written back once more.
-/

namespace FloatingAddress

open Dialogue Metrics Reconcile Tasks

/-- The object asks for what its record says already. -/
def Manifest.Floating.Repeats (m : Manifest.Floating) (stored : FloatingRecord) : Prop :=
  ∃ incoming, FloatingRecord.ofManifest m = .ok incoming ∧ keepingAddress incoming stored = stored

instance (m : Manifest.Floating) (stored : FloatingRecord) : Decidable (m.Repeats stored) :=
  match h : FloatingRecord.ofManifest m with
  | .error _ => .isFalse fun ⟨_, accepted, _⟩ => by simp [h] at accepted
  | .ok incoming => decidable_of_iff (keepingAddress incoming stored = stored)
      ⟨fun same => ⟨incoming, h, same⟩, fun ⟨_, accepted, same⟩ => by
        obtain rfl := Except.ok.inj (h.symm.trans accepted)
        exact same⟩

namespace Books

variable {books : Books} {error : OperatorError} {stored : FloatingRecord}
  {persist : RecordKey → Ipv4 → Except OperatorError Unit}

/-- Showing that an address is held does not fail. -/
theorem play_shown (persist : RecordKey → Ipv4 → Except OperatorError Unit)
    (range : Option RangeRecord) (books : Books) :
    ((shown range).play (fun c books => answer persist c books) books).1 = .ok () := by
  cases range <;> rfl

/-- A claimed address that is not written back is given up again, and nothing else can fail. -/
theorem play_writingBack_error {record : FloatingRecord} {carried : Bool} {address : Ipv4}
    {range : Option RangeRecord}
    (refused : ((writingBack record carried address (shown range)).play
      (fun c books => answer persist c books) books).1 = .error error) :
    carried = false ∧ ((writingBack record carried address (shown range)).play
      (fun c books => answer persist c books) books).2 =
        { books with inventory := books.inventory.rollback record.key } := by
  cases carried with
  | true =>
    have fine := play_shown persist range books
    exact absurd (fine.symm.trans refused) (by simp)
  | false =>
    refine ⟨rfl, ?_⟩
    simp only [writingBack, Bool.false_eq_true, if_false, play_ask, answer_persist] at refused ⊢
    cases written : persist record.key address with
    | error cause => rfl
    | ok _ =>
      rw [written] at refused
      have fine := play_shown persist range books
      exact absurd (fine.symm.trans refused) (by simp)

/-- A claim that comes to nothing leaves the books as they were. -/
theorem finish_createFloating_error (sound : books.inventory.Sound) {record : FloatingRecord}
    {carried : Bool} (missing : books.inventory.floating? record.key = none)
    (entitled : carried = false → record.address = none ∨ record.key.Plain)
    (refused : (books.finish persist (createFloating record carried).run).1 = .error error) :
    (books.finish persist (createFloating record carried).run).2 = books := by
  unfold finish at refused ⊢
  rw [unreported_createFloating, play_ask] at refused ⊢
  cases h : books.inventory.claim record with
  | error cause =>
    rw [answer_claim_of_error h]
    rfl
  | ok result =>
    obtain ⟨claim, after⟩ := result
    rw [answer_claim_of_ok h] at refused ⊢
    -- Giving up again is the inverse of a claim only because nobody held the address before.
    obtain ⟨unwritten, undone⟩ := play_writingBack_error refused
    have unheld := sound.claim_unheld missing h (entitled unwritten)
    rw [undone]
    exact congrArg (fun inventory => { books with inventory })
      (Inventory.rollback_claim missing h unheld)

/-- A release takes the record out, whatever becomes of the gauges. -/
theorem inventory_releaseFloating (persist : RecordKey → Ipv4 → Except OperatorError Unit)
    (key : RecordKey) (books : Books) :
    (books.finish persist (releaseFloating key).run).2.inventory = books.inventory.rollback key := by
  have same := (inventory_views persist).play (unreported (releaseFloating key).run) books
  rw [← unmeasured_eq, unmeasured_releaseFloating, play_ask, play_done] at same
  rw [← Inventory.answer_release persist]
  exact (congrArg Prod.snd same).symm

/-- A new object that is refused leaves no trace. -/
theorem finish_applyFloating_new {m : Manifest.Floating} (sound : books.inventory.Sound)
    (missing : books.inventory.floating? (lookupKey m) = none)
    (refused : (books.finish persist (applyFloating m).run).1 = .error error) :
    (books.finish persist (applyFloating m).run).2 = books := by
  unfold finish at refused ⊢
  rw [unreported_applyFloating, play_ask, answer_floating, missing] at refused ⊢
  cases accepted : FloatingRecord.ofManifest m with
  | error cause => rfl
  | ok incoming =>
    have key := FloatingRecord.ofManifest_ok accepted
    simp only [accepted] at refused ⊢
    refine finish_createFloating_error sound (key ▸ missing) (fun unwritten => ?_) refused
    exact .inl (by simpa using unwritten)

/-- An object that repeats its record can only fail to have its address written back. -/
theorem finish_applyFloating_repeated {m : Manifest.Floating}
    (known : books.inventory.floating? (lookupKey m) = some stored) (repeats : m.Repeats stored)
    (refused : (books.finish persist (applyFloating m).run).1 = .error error) :
    (books.finish persist (applyFloating m).run).2 = books ∧
    ∃ address, stored.address = some address ∧ persist stored.key address = .error error := by
  obtain ⟨incoming, accepted, same⟩ := repeats
  unfold finish at refused ⊢
  rw [unreported_applyFloating, play_ask, answer_floating, known] at refused ⊢
  simp only [accepted, same, if_true] at refused ⊢
  cases carried : stored.address with
  | none =>
    rw [carried] at refused
    cases refused
  | some address =>
    rw [carried] at refused
    cases given : incoming.address.isSome with
    | true =>
      simp only [given, if_true] at refused
      cases refused
    | false =>
      simp only [given, Bool.false_eq_true, if_false] at refused
      exact ⟨rfl, address, rfl, refused⟩

/-- An object that changes its record and is refused leaves what the release of the record leaves. -/
theorem finish_applyFloating_changed {m : Manifest.Floating} (sound : books.inventory.Sound)
    (known : books.inventory.floating? (lookupKey m) = some stored) (changes : ¬m.Repeats stored)
    (refused : (books.finish persist (applyFloating m).run).1 = .error error) :
    (books.finish persist (applyFloating m).run).2 =
      (books.finish persist (releaseFloating (lookupKey m)).run).2 := by
  obtain ⟨filed, plain⟩ := sound.floating _ _ known
  unfold finish at refused ⊢
  rw [unreported_applyFloating, play_ask, answer_floating, known] at refused ⊢
  cases accepted : FloatingRecord.ofManifest m with
  | error cause =>
    simp only [filed, play_bind]
    rfl
  | ok incoming =>
    have changed : keepingAddress incoming stored ≠ stored := by
      intro same
      exact changes ⟨incoming, accepted, same⟩
    have key : (keepingAddress incoming stored).key = lookupKey m :=
      (keepingAddress_key incoming stored).trans (FloatingRecord.ofManifest_ok accepted)
    have released := inventory_releaseFloating persist (lookupKey m) books
    simp only [accepted, changed, if_false, filed, play_bind] at refused ⊢
    refine finish_createFloating_error ?_ ?_ (fun _ => .inr (key ▸ plain)) refused
    · show (books.finish persist (releaseFloating (lookupKey m)).run).2.inventory.Sound
      rw [released]
      exact sound.rollback _
    · show (books.finish persist (releaseFloating (lookupKey m)).run).2.inventory.floating? _ = none
      rw [released, key, Inventory.floating?_rollback, if_pos rfl]

end Books

namespace Tasks

/-- An object that is refused leaves the inventory and the metrics as they were if it is new or
repeats its record. Otherwise it leaves what the release of its record alone would have left. -/
theorem Reached.refused_applyFloating {op : Operator} (reached : Reached (idle op))
    (m : Manifest.Floating) (persist : RecordKey → Ipv4 → Except OperatorError Unit)
    {error : OperatorError} (refused : (op.finish persist (applyFloating m).run).1 = .error error) :
    (op.inventory.floating? (lookupKey m) = none →
      (op.finish persist (applyFloating m).run).2.books = op.books) ∧
    ∀ stored, op.inventory.floating? (lookupKey m) = some stored →
      (m.Repeats stored →
        (op.finish persist (applyFloating m).run).2.books = op.books ∧
          ∃ address, stored.address = some address ∧ persist stored.key address = .error error) ∧
      (¬m.Repeats stored →
        (op.finish persist (applyFloating m).run).2.books =
          (op.finish persist (releaseFloating (lookupKey m)).run).2.books) := by
  have sound : op.books.inventory.Sound := reached.sound
  have applied := Books.finish_eq persist (applyFloating m).run op
  have released := Books.finish_eq persist (releaseFloating (lookupKey m)).run op
  have refused' : (op.books.finish persist (applyFloating m).run).1 = .error error := by
    rw [applied]
    exact refused
  refine ⟨fun missing => ?_, fun stored known => ⟨fun repeats => ?_, fun changes => ?_⟩⟩
  · have same := Books.finish_applyFloating_new sound missing refused'
    rwa [applied] at same
  · have same := Books.finish_applyFloating_repeated known repeats refused'
    rwa [applied] at same
  · have same := Books.finish_applyFloating_changed sound known changes refused'
    rwa [applied, released] at same

end Tasks

namespace Sample

/-- A floating address of `blue` is stored. -/
def held : Operator := (blue.finish accept (Watch.followFloating (.apply one))).2

/-- The same object, which asks for an address that the range does not have. -/
def outside : Manifest.Floating := floating "one" "blue" (some "10.9.9.9")

/-- No address is written back. -/
def refuse : RecordKey → Ipv4 → Except OperatorError Unit := fun _ _ => .error (.io "closed")

end Sample

namespace Tasks

theorem exists_error {ε α : Type} {result : Except ε α} (fails : !result.isOk) :
    ∃ error, result = .error error := by
  cases result with
  | error error => exact ⟨error, rfl⟩
  | ok _ => cases fails

theorem reached_held : Reached (idle Sample.held) :=
  reached_blue.followFloating plain_one Sample.accept

/-- The object is new and its address cannot be written back; the object is known and its address
cannot be written back once more; or the object asks for an address that it cannot have. -/
theorem refused_applyFloating_held :
    (Sample.blue.finish Sample.refuse (applyFloating Sample.one).run).2.books =
        Sample.blue.books ∧
      (Sample.held.finish Sample.refuse (applyFloating Sample.one).run).2.books =
        Sample.held.books ∧
      (Sample.held.finish Sample.accept (applyFloating Sample.outside).run).2.books =
        (Sample.held.finish Sample.accept (releaseFloating ⟨"web", "one"⟩).run).2.books := by
  have known : (Sample.held.inventory.floating? ⟨"web", "one"⟩).any fun stored =>
      Sample.one.Repeats stored ∧ ¬Sample.outside.Repeats stored := by
    decide +kernel
  obtain ⟨stored, found, known⟩ := (Option.any_eq_true ..).mp known
  obtain ⟨repeats, changes⟩ := of_decide_eq_true known
  have missing : Sample.blue.inventory.floating? (lookupKey Sample.one) = none := by
    decide +kernel
  refine ⟨?_, ?_, ?_⟩
  · obtain ⟨_, refused⟩ := exists_error
      (show !(Sample.blue.finish Sample.refuse (applyFloating Sample.one).run).1.isOk by
        decide +kernel)
    exact (reached_blue.refused_applyFloating Sample.one Sample.refuse refused).1 missing
  · obtain ⟨_, refused⟩ := exists_error
      (show !(Sample.held.finish Sample.refuse (applyFloating Sample.one).run).1.isOk by
        decide +kernel)
    obtain ⟨-, same⟩ := reached_held.refused_applyFloating Sample.one Sample.refuse refused
    exact ((same stored found).1 repeats).1
  · obtain ⟨_, refused⟩ := exists_error
      (show !(Sample.held.finish Sample.accept (applyFloating Sample.outside).run).1.isOk by
        decide +kernel)
    obtain ⟨-, same⟩ := reached_held.refused_applyFloating Sample.outside Sample.accept refused
    exact (same stored found).2 changes

end Tasks

end FloatingAddress
