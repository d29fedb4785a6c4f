import FloatingAddress.Proofs.Reconcile.Refusal
import FloatingAddress.Proofs.Reconcile.WriteBack

/-!
# Objects that arrive again

An object may arrive again as it is, and it does arrive again with the address that was written
back to it. Both repeat the record that the object has left behind, so nothing changes: the record
is the one the object asks for, up to the address, and the text of an address is read as the same
address again. An object without address has its address written back once more.
-/

namespace FloatingAddress

open Dialogue Reconcile Tasks

/-- The object after an address was written back to it. -/
def Manifest.Floating.carrying (m : Manifest.Floating) (address : Ipv4) : Manifest.Floating :=
  { m with address := some address.text }

/-- A handler succeeds and changes nothing at all. It writes certain addresses back. -/
structure Operator.Absorbs (op : Operator)
    (persist : RecordKey → Ipv4 → Except OperatorError Unit)
    (d : Step (Except OperatorError Unit)) (written : List (RecordKey × Ipv4)) : Prop where
  unchanged : op.finish persist d = (.ok (), op)
  writes : op.writes persist d = written

namespace Reconcile

/-- An object and what is kept for it differ in the address only. -/
theorem keepingAddress_with (incoming stored : FloatingRecord) (address : Option Ipv4) :
    { keepingAddress incoming stored with address } = { incoming with address } := by
  unfold keepingAddress
  split <;> rfl

/-- An object repeats the record that was granted to it. -/
theorem keepingAddress_granted {incoming : FloatingRecord} {address : Ipv4}
    (granted : ∀ given, incoming.address = some given → given = address) :
    keepingAddress incoming { incoming with address := some address } =
      { incoming with address := some address } := by
  cases given : incoming.address with
  | none => exact if_pos (by simp [given])
  | some own =>
    rw [keepingAddress_of_some given, ← granted own given, ← given]

end Reconcile

namespace Manifest.Floating

variable {m : Manifest.Floating} {stored : FloatingRecord} {address : Ipv4}

@[simp] theorem lookupKey_carrying : lookupKey (m.carrying address) = lookupKey m := rfl

theorem ofManifest_carrying {incoming : FloatingRecord}
    (accepted : FloatingRecord.ofManifest m = .ok incoming) (address : Ipv4) :
    FloatingRecord.ofManifest (m.carrying address) =
      .ok { incoming with address := some address } := by
  obtain ⟨named, clustered, ranged, -, refresh⟩ := FloatingRecord.ofManifest_eq_ok.mp accepted
  refine FloatingRecord.ofManifest_eq_ok.mpr ⟨named, clustered, ranged, ?_, refresh⟩
  simp [FloatingRecord.carriedAddress, carrying]

theorem Repeats.key (repeats : m.Repeats stored) : stored.key = lookupKey m := by
  obtain ⟨incoming, accepted, same⟩ := repeats
  rw [← same, keepingAddress_key, FloatingRecord.ofManifest_ok accepted]

/-- The address that is written back makes no difference. -/
theorem Repeats.carrying (repeats : m.Repeats stored) (has : stored.address = some address) :
    (m.carrying address).Repeats stored := by
  obtain ⟨incoming, accepted, same⟩ := repeats
  refine ⟨_, ofManifest_carrying accepted address, ?_⟩
  rw [keepingAddress_of_some rfl, ← keepingAddress_with incoming stored, same, ← has]

theorem Repeats.carried?_carrying (repeats : m.Repeats stored) (address : Ipv4) :
    (m.carrying address).carried? = some address := by
  obtain ⟨incoming, accepted, -⟩ := repeats
  exact (FloatingRecord.address_ofManifest (ofManifest_carrying accepted address)).symm

end Manifest.Floating

theorem RangeRecord.accepted_of_toOption {m : Manifest.Range} {record : RangeRecord}
    (same : (ofManifest m).toOption = some record) : ofManifest m = .ok record := by
  cases accepted : ofManifest m with
  | error error =>
    rw [accepted] at same
    cases same
  | ok _ =>
    rw [accepted] at same
    exact congrArg Except.ok (Option.some.inj same)

namespace Inventory

variable {inv : Inventory} {persist : RecordKey → Ipv4 → Except OperatorError Unit}

/-- An address that is written back, or need not be, leaves the claim as it is. -/
theorem play_writingBack_ok {record : FloatingRecord} {carried : Bool} {address : Ipv4}
    (fine : ((writingBack record carried address (.done (.ok ()))).play
      (fun c inv => inv.answer persist c) inv).1 = .ok ()) :
    ((writingBack record carried address (.done (.ok ()))).play
      (fun c inv => inv.answer persist c) inv).2 = inv := by
  cases carried with
  | true => rfl
  | false =>
    simp only [writingBack, Bool.false_eq_true, if_false, play_ask, answer] at fine ⊢
    cases written : persist record.key address with
    | error error =>
      rw [written] at fine
      cases fine
    | ok _ => rfl

/-- If a new floating address is accepted, what is left is its claim. -/
theorem claim_of_createFloating {record : FloatingRecord} {carried : Bool}
    (fine : ((unmeasured (createFloating record carried).run).play
      (fun c inv => inv.answer persist c) inv).1 = .ok ()) :
    ∃ claim, inv.claim record = .ok (claim, ((unmeasured (createFloating record carried).run).play
      (fun c inv => inv.answer persist c) inv).2) := by
  rw [unmeasured_createFloating, play_ask] at fine ⊢
  cases h : inv.claim record with
  | error error =>
    rw [answer, attempt_of_error h] at fine
    cases fine
  | ok result =>
    rw [answer, attempt_of_ok h] at fine ⊢
    exact ⟨result.1, by rw [play_writingBack_ok fine]⟩

/-- What a claim leaves is the record with an address, and with its own one if it has one. -/
theorem repeats_of_claim {m : Manifest.Floating} {incoming record : FloatingRecord} {claim : Claim}
    {after : Inventory} (accepted : FloatingRecord.ofManifest m = .ok incoming)
    (asks : ∀ given, incoming.address = some given → record.address = some given)
    (same : ∀ address, { record with address } = { incoming with address })
    (h : inv.claim record = .ok (claim, after)) :
    ∃ stored, after.floating? (lookupKey m) = some stored ∧ m.Repeats stored := by
  obtain ⟨acquired, -, -, -, floatings⟩ := claim_ok h
  have keys := congrArg FloatingRecord.key (same none)
  have own : record.key = incoming.key := keys
  have granted : ∀ given, incoming.address = some given → given = claim.address := by
    intro given asked
    rw [asks given asked] at acquired
    exact (Allocator.acquire_some acquired).symm
  rw [FloatingRecord.ofManifest_ok accepted] at own
  refine ⟨_, (floatings _).trans (if_pos own), incoming, accepted, ?_⟩
  rw [same]
  exact keepingAddress_granted granted

/-- An object that is accepted repeats the record that it leaves behind. -/
theorem repeats_of_applyFloating {m : Manifest.Floating}
    (fine : ((unmeasured (applyFloating m).run).play
      (fun c inv => inv.answer persist c) inv).1 = .ok ()) :
    ∃ stored, ((unmeasured (applyFloating m).run).play
        (fun c inv => inv.answer persist c) inv).2.floating? (lookupKey m) = some stored ∧
      m.Repeats stored := by
  rw [unmeasured_applyFloating, play_ask, answer_floating] at fine ⊢
  cases accepted : FloatingRecord.ofManifest m with
  | error error =>
    simp only [accepted] at fine
    cases found : inv.floating? (lookupKey m) <;> rw [found] at fine <;> cases fine
  | ok incoming =>
    simp only [accepted] at fine ⊢
    cases found : inv.floating? (lookupKey m) with
    | none =>
      rw [found] at fine
      obtain ⟨claim, h⟩ := claim_of_createFloating fine
      exact repeats_of_claim accepted (fun _ asked => asked) (fun _ => rfl) h
    | some stored =>
      rw [found] at fine
      dsimp only at fine ⊢
      split at fine
      next same =>
        rw [if_pos same]
        refine ⟨stored, ?_, incoming, accepted, same⟩
        rw [← found]
        cases stored.address with
        | none => rfl
        | some address => cases incoming.address.isSome <;> rfl
      next changed =>
        rw [if_neg changed]
        rw [play_ask] at fine ⊢
        obtain ⟨claim, h⟩ := claim_of_createFloating fine
        refine repeats_of_claim accepted (fun given asked => ?_) (keepingAddress_with _ _) h
        rw [keepingAddress_of_some asked, asked]

/-- A new range is registered, or nothing changes. -/
theorem play_asked (persist : RecordKey → Ipv4 → Except OperatorError Unit) (m : Manifest.Range)
    (inv : Inventory) :
    (∃ error, (asked m).play (fun c inv => inv.answer persist c) inv = (.error error, inv)) ∨
    ∃ record registration after, RangeRecord.ofManifest m = .ok record ∧
      inv.createRange record = .ok (registration, after) ∧
      (asked m).play (fun c inv => inv.answer persist c) inv = (.ok (), after) := by
  unfold asked
  cases accepted : RangeRecord.ofManifest m with
  | error error => exact .inl ⟨_, rfl⟩
  | ok record =>
    dsimp only
    rw [play_ask]
    cases h : inv.createRange record with
    | error error =>
      rw [answer, attempt_of_error h]
      exact .inl ⟨_, rfl⟩
    | ok result =>
      rw [answer, attempt_of_ok h]
      exact .inr ⟨record, result.1, result.2, rfl, h, rfl⟩

theorem stored_of_asked {m : Manifest.Range}
    (fine : ((asked m).play (fun c inv => inv.answer persist c) inv).1 = .ok ()) :
    ∃ stored, ((asked m).play (fun c inv => inv.answer persist c) inv).2.range?
        m.metadata.anyName = some stored ∧ RangeRecord.ofManifest m = .ok stored := by
  obtain ⟨error, played⟩ | ⟨record, registration, after, accepted, h, played⟩ :=
    inv.play_asked persist m
  · rw [played] at fine
    cases fine
  · obtain ⟨-, _, -, ranges, -⟩ := createRange_ok h
    obtain ⟨named, -⟩ := RangeRecord.ofManifest_ok accepted
    rw [played]
    exact ⟨record, (ranges _).trans (if_pos named), accepted⟩

/-- A range that is accepted is stored as its object says. -/
theorem stored_of_applyRange {m : Manifest.Range}
    (fine : ((unmeasured (applyRange m).run).play
      (fun c inv => inv.answer persist c) inv).1 = .ok ()) :
    ∃ stored, ((unmeasured (applyRange m).run).play
        (fun c inv => inv.answer persist c) inv).2.range? m.metadata.anyName = some stored ∧
      RangeRecord.ofManifest m = .ok stored := by
  rw [unmeasured_applyRange, play_ask, answer_range] at fine ⊢
  cases found : inv.range? m.metadata.anyName with
  | none =>
    rw [found] at fine
    exact stored_of_asked fine
  | some stored =>
    rw [found] at fine
    dsimp only at fine ⊢
    split at fine
    next same =>
      rw [if_pos same]
      exact ⟨stored, found, RangeRecord.accepted_of_toOption same⟩
    next changed =>
      rw [if_neg changed]
      exact stored_of_asked fine

end Inventory

namespace Operator

variable {op : Operator} {persist : RecordKey → Ipv4 → Except OperatorError Unit}

theorem repeats_of_applyFloating {m : Manifest.Floating}
    (fine : (op.finish persist (applyFloating m).run).1 = .ok ()) :
    ∃ stored, (op.finish persist (applyFloating m).run).2.inventory.floating? (lookupKey m) =
        some stored ∧ m.Repeats stored := by
  have played := op.finish_inventory persist (applyFloating m).run
  obtain ⟨stored, found, repeats⟩ := Inventory.repeats_of_applyFloating
    ((congrArg Prod.fst played).trans fine)
  rw [played] at found
  exact ⟨stored, found, repeats⟩

theorem stored_of_applyRange {m : Manifest.Range}
    (fine : (op.finish persist (applyRange m).run).1 = .ok ()) :
    ∃ stored, (op.finish persist (applyRange m).run).2.inventory.range? m.metadata.anyName =
        some stored ∧ RangeRecord.ofManifest m = .ok stored := by
  have played := op.finish_inventory persist (applyRange m).run
  obtain ⟨stored, found, same⟩ := Inventory.stored_of_applyRange
    ((congrArg Prod.fst played).trans fine)
  rw [played] at found
  exact ⟨stored, found, same⟩

/-- An object that repeats its record asks for nothing but its address, if it carries none. -/
theorem applyFloating_repeated {m : Manifest.Floating} {stored : FloatingRecord} {address : Ipv4}
    (repeats : m.Repeats stored) (has : stored.address = some address) :
    ∃ next, (applyFloating m).run = .ask (.floating (lookupKey m)) next ∧
      next (some stored) =
        if m.carried?.isSome then .done (.ok ())
        else .ask (.persist (lookupKey m) address) .done := by
  have own := repeats.key
  obtain ⟨incoming, accepted, same⟩ := repeats
  refine ⟨_, rfl, ?_⟩
  rw [← FloatingRecord.address_ofManifest accepted, accepted, ← own]
  change (if keepingAddress incoming stored = stored then _ else _ : Handler Unit).run = _
  rw [if_pos same, has]
  cases incoming.address.isSome <;> rfl

theorem Absorbs.done : op.Absorbs persist (.done (.ok ())) [] := ⟨rfl, rfl⟩

/-- A question that changes nothing may come first. -/
theorem Absorbs.ask {c : Call} {next : Answer c → Step (Except OperatorError Unit)}
    {answer : Answer c} {written : List (RecordKey × Ipv4)}
    (answered : op.reply persist c = (answer, op)) (rest : op.Absorbs persist (next answer) written) :
    op.Absorbs persist (.ask c next) (c.write?.toList ++ written) := by
  constructor
  · rw [finish_eq_play, play_ask, answered, ← finish_eq_play]
    exact rest.unchanged
  · have later := rest.writes
    rw [Operator.writes] at later ⊢
    rw [questions_ask, answered, List.filterMap_cons, later]
    cases c.write? <;> rfl

/-- An object that repeats its record changes nothing. If it carries no address, the address of the
record is written back. -/
theorem absorbs_applyFloating (persist : RecordKey → Ipv4 → Except OperatorError Unit)
    {m : Manifest.Floating} {stored : FloatingRecord} {address : Ipv4}
    (found : op.inventory.floating? (lookupKey m) = some stored) (repeats : m.Repeats stored)
    (has : stored.address = some address)
    (writable : m.carried? = none → persist (lookupKey m) address = .ok ()) :
    op.Absorbs persist (applyFloating m).run
      (if m.carried?.isSome then [] else [(lookupKey m, address)]) := by
  have answered : op.reply persist (.floating (lookupKey m)) = (some stored, op) := by
    rw [reply_eq, Inventory.answer_floating, found]
  obtain ⟨next, asks, goesOn⟩ := applyFloating_repeated repeats has
  rw [asks]
  refine .ask answered ?_
  rw [goesOn]
  cases carried : m.carried? with
  | some given => exact .done
  | none =>
    have written : op.reply persist (.persist (lookupKey m) address) = (.ok (), op) :=
      congrArg (·, op) (writable carried)
    exact .ask written .done

/-- A range object that repeats its record changes nothing. -/
theorem absorbs_applyRange (persist : RecordKey → Ipv4 → Except OperatorError Unit)
    {m : Manifest.Range} {stored : RangeRecord}
    (found : op.inventory.range? m.metadata.anyName = some stored)
    (same : RangeRecord.ofManifest m = .ok stored) :
    op.Absorbs persist (applyRange m).run [] := by
  have answered : op.reply persist (.range m.metadata.anyName) = (some stored, op) := by
    rw [reply_eq, Inventory.answer_range, found]
  obtain ⟨next, asks, ends⟩ : ∃ next, (applyRange m).run = .ask (.range m.metadata.anyName) next ∧
      next (some stored) = .done (.ok ()) := by
    refine ⟨_, rfl, ?_⟩
    rw [same]
    change (if some stored = some stored then pure () else _ : Handler Unit).run = _
    rw [if_pos rfl]
    rfl
  rw [asks]
  refine .ask answered ?_
  rw [ends]
  exact .done

/-- In any state, an object that has been accepted may arrive again. Nothing changes then, whether it
arrives as it was or with the address of its record. Its address is written back once more only if
it still carries none. -/
theorem absorbs_again (op : Operator) (persist : RecordKey → Ipv4 → Except OperatorError Unit) :
    (∀ (m : Manifest.Floating) (record : FloatingRecord) (address : Ipv4),
      (op.finish persist (applyFloating m).run).1 = .ok () →
      (op.finish persist (applyFloating m).run).2.inventory.floating? (lookupKey m) =
        some record →
      record.address = some address →
      ∀ persist' : RecordKey → Ipv4 → Except OperatorError Unit,
        (m.carried?.isSome →
          (op.finish persist (applyFloating m).run).2.Absorbs persist' (applyFloating m).run []) ∧
        (m.carried? = none → persist' (lookupKey m) address = .ok () →
          (op.finish persist (applyFloating m).run).2.Absorbs persist' (applyFloating m).run
            [(lookupKey m, address)]) ∧
        (op.finish persist (applyFloating m).run).2.Absorbs persist'
          (applyFloating (m.carrying address)).run []) ∧
    ∀ m : Manifest.Range, (op.finish persist (applyRange m).run).1 = .ok () →
      ∀ persist' : RecordKey → Ipv4 → Except OperatorError Unit,
        (op.finish persist (applyRange m).run).2.Absorbs persist' (applyRange m).run [] := by
  constructor
  · intro m record address fine found has persist'
    obtain ⟨stored, found', repeats⟩ := repeats_of_applyFloating fine
    obtain rfl : record = stored := Option.some.inj (found.symm.trans found')
    refine ⟨fun carries => ?_, fun blank writable => ?_, ?_⟩
    · have again := absorbs_applyFloating persist' found repeats has
        fun blank => by simp [blank] at carries
      rwa [if_pos carries] at again
    · have again := absorbs_applyFloating persist' found repeats has fun _ => writable
      rwa [if_neg (by simp [blank])] at again
    · have carries := repeats.carried?_carrying address
      have known : (op.finish persist (applyFloating m).run).2.inventory.floating?
          (lookupKey (m.carrying address)) = some record := found
      have again := absorbs_applyFloating persist' known (repeats.carrying has) has
        fun blank => by simp [blank] at carries
      rwa [carries] at again
  · intro m fine persist'
    obtain ⟨stored, found, same⟩ := stored_of_applyRange fine
    exact absorbs_applyRange persist' found same

/-- A new object gets the lowest address. It arrives again as it was, and with this address. A range
arrives twice, and so does an object that asks for its address. -/
theorem absorbs_again_blue :
    (Sample.blue.finish Sample.accept (applyFloating Sample.one).run).2.Absorbs Sample.accept
        (applyFloating Sample.one).run [(⟨"web", "one"⟩, .ofOctets 10 0 0 1)] ∧
      (Sample.blue.finish Sample.accept (applyFloating Sample.one).run).2.Absorbs Sample.refuse
        (applyFloating (Sample.one.carrying (.ofOctets 10 0 0 1))).run [] ∧
      (Sample.blue.finish Sample.refuse (applyFloating Sample.echoed).run).2.Absorbs Sample.refuse
        (applyFloating Sample.echoed).run [] ∧
      (({} : Operator).finish Sample.accept (applyRange Sample.smaller).run).2.Absorbs
        Sample.accept (applyRange Sample.smaller).run [] := by
  obtain ⟨floatings, -⟩ := Sample.blue.absorbs_again Sample.accept
  obtain ⟨echoes, -⟩ := Sample.blue.absorbs_again Sample.refuse
  obtain ⟨-, ranges⟩ := ({} : Operator).absorbs_again Sample.accept
  have accepted : (Sample.blue.finish Sample.accept (applyFloating Sample.one).run).1.isOk := by
    decide +kernel
  have accepted' : (Sample.blue.finish Sample.refuse (applyFloating Sample.echoed).run).1.isOk := by
    decide +kernel
  have registered :
      (({} : Operator).finish Sample.accept (applyRange Sample.smaller).run).1.isOk := by
    decide +kernel
  have lowest : ((Sample.blue.finish Sample.accept
      (applyFloating Sample.one).run).2.inventory.floating? (lookupKey Sample.one)).any
        (·.address = some (.ofOctets 10 0 0 1)) := by
    decide +kernel
  have given : ((Sample.blue.finish Sample.refuse
      (applyFloating Sample.echoed).run).2.inventory.floating? (lookupKey Sample.echoed)).any
        (·.address = some (.ofOctets 10 0 0 1)) := by
    decide +kernel
  have blank : Sample.one.carried? = none := by decide +kernel
  have carries : Sample.echoed.carried?.isSome := by decide +kernel
  obtain ⟨record, found, has⟩ := (Option.any_eq_true ..).mp lowest
  obtain ⟨record', found', has'⟩ := (Option.any_eq_true ..).mp given
  have again := floatings Sample.one record _ (eq_ok_of_isOk accepted) found (of_decide_eq_true has)
  have echoed := echoes Sample.echoed record' _ (eq_ok_of_isOk accepted') found'
    (of_decide_eq_true has') Sample.refuse
  exact ⟨(again Sample.accept).2.1 blank rfl, (again Sample.refuse).2.2, echoed.1 carries,
    ranges Sample.smaller (eq_ok_of_isOk registered) Sample.accept⟩

end Operator

end FloatingAddress
