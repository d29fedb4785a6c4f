import FloatingAddress.Proofs.Reconcile.Questions

/-!
# What an object of a floating address asks for

Whatever the other task does meanwhile, the object of a floating address asks for a few things only,
all of them for its own identity. An address is claimed while the identity has no record, for the
record that the object describes; it is written back while the record has it; and the only record
that is taken out is the one that was there. The handler is walked through once to see this, and
what the tasks may rely on is read off from it.
-/

namespace FloatingAddress

open Dialogue Reconcile

/-- The record that an object asks for, if `found` is the one that it has. -/
def Manifest.Floating.Wants (m : Manifest.Floating) (found : Option FloatingRecord)
    (record : FloatingRecord) : Prop :=
  ∃ incoming, FloatingRecord.ofManifest m = .ok incoming ∧
    record = found.elim incoming (keepingAddress incoming)

theorem Manifest.Floating.Wants.key {m : Manifest.Floating} {found : Option FloatingRecord}
    {record : FloatingRecord} (wants : m.Wants found record) : record.key = lookupKey m := by
  obtain ⟨incoming, accepted, rfl⟩ := wants
  rw [← FloatingRecord.ofManifest_ok accepted]
  cases found with
  | none => rfl
  | some stored => exact keepingAddress_key incoming stored

namespace Inventory

/-- Every record of a floating address is filed under its identity and has an address. -/
structure Assigned (inv : Inventory) : Prop where
  filed : ∀ key record, inv.floating? key = some record → record.key = key
  addressed : ∀ key record, inv.floating? key = some record → record.address.isSome

theorem Sound.assigned {inv : Inventory} (sound : inv.Sound) : inv.Assigned :=
  ⟨fun key record stored => (sound.floating key record stored).1, sound.addressed⟩

end Inventory

namespace Tasks

/-- Nobody else changes the records of floating addresses, which have their addresses. -/
def RecordsRely (inv after : Inventory) : Prop :=
  after.Assigned ∧ ∀ key, after.floating? key = inv.floating? key

theorem RecordsRely.trans {inv inv' inv'' : Inventory} (first : RecordsRely inv inv')
    (second : RecordsRely inv' inv'') : RecordsRely inv inv'' :=
  ⟨second.1, fun key => (second.2 key).trans (first.2 key)⟩

/-- What an object may ask if `found` is its record in the beginning. -/
def Asks (m : Manifest.Floating) (found : Option FloatingRecord) : Call → Inventory → Prop
  | .createRange _, _ | .deleteRange _, _ => False
  | .claim record, inv => m.Wants found record ∧ inv.floating? (lookupKey m) = none
  | .rollback key, _ | .release key, _ => key = lookupKey m
  | .persist key address, inv => key = lookupKey m ∧
    ∃ record, inv.floating? (lookupKey m) = some record ∧ record.address = some address
  | _, _ => True

theorem asks_create {m : Manifest.Floating} {found : Option FloatingRecord}
    {record : FloatingRecord} {inv : Inventory} (wants : m.Wants found record)
    (missing : inv.floating? (lookupKey m) = none) (carried : Bool) :
    (unmeasured (createFloating record carried).run).Keeps Inventory.answer RecordsRely
      (Asks m found) (fun _ => True) inv := by
  have own := wants.key
  rw [unmeasured_createFloating]
  intro inv' others
  refine ⟨⟨wants, (others.2 _).trans missing⟩, fun persist => ?_⟩
  cases h : inv'.claim record with
  | error error =>
    rw [Inventory.answer, Inventory.attempt_of_error h]
    trivial
  | ok result =>
    rw [Inventory.answer, Inventory.attempt_of_ok h]
    cases carried with
    | true => trivial
    | false =>
      obtain ⟨-, -, -, -, floatings⟩ := Inventory.claim_ok h
      intro inv'' others'
      have stored := (others'.2 _).trans ((floatings (lookupKey m)).trans (if_pos own))
      refine ⟨⟨own, _, stored, rfl⟩, fun persist' => ?_⟩
      cases (inv''.answer persist' (.persist record.key result.1.address)).1 with
      | error error => exact fun _ _ => ⟨own, fun _ => trivial⟩
      | ok _ => trivial

/-- The object asks for nothing else. -/
theorem asks_apply (m : Manifest.Floating) (inv : Inventory) :
    (unmeasured (applyFloating m).run).Keeps Inventory.answer RecordsRely
      (Asks m (inv.floating? (lookupKey m))) (fun _ => True) inv := by
  rw [unmeasured_applyFloating]
  intro inv' others
  refine ⟨trivial, fun persist => ?_⟩
  rw [Inventory.answer_floating, ← others.2]
  cases found : inv'.floating? (lookupKey m) with
  | none =>
    cases accepted : FloatingRecord.ofManifest m with
    | error error => trivial
    | ok incoming => exact asks_create ⟨incoming, accepted, rfl⟩ found _
  | some stored =>
    have filed := others.1.filed _ _ found
    cases accepted : FloatingRecord.ofManifest m with
    | error error => exact fun _ _ => ⟨filed, fun _ => trivial⟩
    | ok incoming =>
      dsimp only
      split
      · cases has : stored.address with
        | none => trivial
        | some address =>
          cases incoming.address.isSome with
          | true => trivial
          | false =>
            intro inv'' others'
            have still := (others'.2 (lookupKey m)).trans found
            exact ⟨⟨filed, stored, still, has⟩, fun _ => trivial⟩
      · intro inv'' _
        refine ⟨filed, fun persist' => asks_create ⟨incoming, accepted, rfl⟩ ?_ _⟩
        rw [Inventory.answer_release, filed, Inventory.floating?_rollback, if_pos rfl]

end Tasks

end FloatingAddress
