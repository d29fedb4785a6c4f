import FloatingAddress.Proofs.Reconcile.WriteBack

/-!
# Addresses that stay

A floating address that is stored before and after a change has the same address both times, unless
the object of its own identity asks for another address or another range. A record that is replaced
gives its address back and claims it again, so it gets no other address, even if lower ones are
free: either it has this address afterwards, or it is not stored any more.
-/

namespace FloatingAddress

open Dialogue Reconcile

/-- The object asks for an address or a range that the record does not have. -/
def Manifest.Floating.Redirects (m : Manifest.Floating) (record : FloatingRecord) : Prop :=
  (∃ address, m.carried? = some address ∧ record.address ≠ some address) ∨
    ∃ range, m.metadata.annotated? Manifest.annotationKeys.range = some range ∧
      range ≠ record.range

/-- What an object asks for in place of a record is the address of the record, unless the object
redirects it. -/
theorem Reconcile.keepingAddress_address {m : Manifest.Floating} {incoming stored : FloatingRecord}
    (accepted : FloatingRecord.ofManifest m = .ok incoming) (stays : ¬m.Redirects stored) :
    (keepingAddress incoming stored).address = stored.address := by
  obtain ⟨-, -, ranged, -⟩ := FloatingRecord.ofManifest_eq_ok.mp accepted
  have carried := FloatingRecord.address_ofManifest accepted
  have sameRange : incoming.range = stored.range :=
    Decidable.not_not.mp fun other => stays (.inr ⟨_, ranged, other⟩)
  cases given : incoming.address with
  | none =>
    rw [keepingAddress, if_pos (by simp [given, sameRange])]
  | some address =>
    rw [keepingAddress_of_some given]
    refine Decidable.not_not.mp fun other => stays (.inl ⟨address, carried.symm.trans given, ?_⟩)
    exact fun same => other (given.trans same.symm)

namespace Tasks

variable {key : RecordKey} {address : Ipv4} {inv : Inventory} {c : Call}

/-- No other address is claimed for the identity. -/
def ClaimsOnly (key : RecordKey) (address : Ipv4) : Call → Inventory → Prop
  | .claim record, _ => record.key = key → record.address = some address
  | _, _ => True

/-- The identity has no other address. -/
def HasOnly (key : RecordKey) (address : Ipv4) (inv : Inventory) : Prop :=
  ∀ record, inv.floating? key = some record → record.address = some address

/-- What is left of a change claims no other address for the identity. -/
def KeepsAddress {α : Type} (key : RecordKey) (address : Ipv4) (d : Step α) (inv : Inventory) :
    Prop :=
  (unmeasured d).Keeps Inventory.answer RecordsRely (ClaimsOnly key address) (fun _ => True) inv

theorem KeepsRecords.keepsAddress {α : Type} {d : Step α} (keeps : KeepsRecords d inv)
    (key : RecordKey) (address : Ipv4) : KeepsAddress key address d inv := by
  refine keeps.mono (fun _ _ _ => trivial) fun c inv leaves => ?_
  cases c with
  | claim record => exact absurd leaves id
  | _ => trivial

theorem KeepsTo.keepsAddress {α : Type} {other : RecordKey} {d : Step α}
    (keeps : KeepsTo other d inv) (apart : other ≠ key) (address : Ipv4) :
    KeepsAddress key address d inv := by
  refine keeps.mono (fun _ _ relied => relied) fun c inv concerns => ?_
  cases c with
  | claim record =>
    intro own
    exact absurd (concerns.symm.trans own) apart
  | _ => trivial

/-- An object that does not redirect its record has the same address claimed again. -/
theorem keepsAddress_apply {m : Manifest.Floating} {stored : FloatingRecord}
    (found : inv.floating? (lookupKey m) = some stored) (has : stored.address = some address)
    (stays : ¬m.Redirects stored) :
    KeepsAddress (lookupKey m) address (applyFloating m).run inv := by
  have asks := asks_apply m inv
  rw [found] at asks
  refine asks.mono (fun _ _ relied => relied) fun c inv' asks => ?_
  cases c with
  | claim record =>
    obtain ⟨⟨incoming, accepted, rfl⟩, -⟩ := asks
    exact fun _ => (keepingAddress_address accepted stays).trans has
  | _ => trivial

/-- A change claims no other address for a stored identity, unless it is an object that redirects
the record. -/
theorem keepsAddress_followFloating {stored : FloatingRecord}
    (found : inv.floating? key = some stored) (has : stored.address = some address)
    (change : Watch.Change Manifest.Floating) :
    KeepsAddress key address (Watch.followFloating change) inv ∨
      ∃ m, change = .apply m ∧ lookupKey m = key ∧ m.Redirects stored := by
  by_cases own : change.key = key
  · cases change with
    | delete m =>
      refine .inl ?_
      unfold KeepsAddress
      rw [unmeasured_followFloating]
      dsimp only
      rw [unmeasured_deleteFloating]
      exact fun _ _ => ⟨trivial, fun _ => trivial⟩
    | apply m =>
      by_cases stays : m.Redirects stored
      · exact .inr ⟨m, rfl, own, stays⟩
      · refine .inl ?_
        unfold KeepsAddress
        rw [unmeasured_followFloating]
        subst own
        exact (keepsAddress_apply found has stays).forget ()
  · exact .inl ((keepsTo_follow change inv).keepsAddress own address)

theorem HasOnly.leave (only : HasOnly key address inv) (leaves : LeavesRecords c inv)
    (persist : RecordKey → Ipv4 → Except OperatorError Unit) :
    HasOnly key address (inv.answer persist c).2 := by
  intro record found
  rw [leaves.answer persist key] at found
  exact only record found

/-- A claim obtains the address that it asks for, and nothing else gives an address to a record. -/
theorem ClaimsOnly.answer (claims : ClaimsOnly key address c inv) (only : HasOnly key address inv)
    (persist : RecordKey → Ipv4 → Except OperatorError Unit) :
    HasOnly key address (inv.answer persist c).2 := by
  have rollback : ∀ other, HasOnly key address (inv.rollback other) := by
    intro other record stored
    exact only record (Inventory.floating?_of_rollback stored).2
  cases c with
  | claim record =>
    obtain same | ⟨claim, h⟩ := inv.answer_claim_cases persist record
    · rwa [same]
    · obtain ⟨acquired, -, -, -, floatings⟩ := Inventory.claim_ok h
      intro stored found
      rw [floatings] at found
      split at found
      next own =>
        cases found
        rw [claims own] at acquired
        exact congrArg some (Allocator.acquire_some acquired)
      · exact only stored found
  | rollback other => exact rollback other
  | release other =>
    rw [Inventory.answer_release]
    exact rollback other
  | createRange record => exact only.leave (by trivial) persist
  | deleteRange name => exact only.leave (by trivial) persist
  | _ => exact only

/-- An uninterrupted change that claims no other address for the identity gives it no other one. -/
theorem KeepsAddress.finish {α : Type} {op : Operator} {d : Step α}
    (keeps : KeepsAddress key address d op.inventory) (assigned : op.inventory.Assigned)
    (only : HasOnly key address op.inventory)
    (persist : RecordKey → Ipv4 → Except OperatorError Unit) :
    HasOnly key address (op.finish persist d).2.inventory := by
  have step : ∀ c inv, ClaimsOnly key address c inv → inv.Assigned ∧ HasOnly key address inv →
      (inv.answer persist c).2.Assigned ∧ HasOnly key address (inv.answer persist c).2 := by
    intro c inv claims held
    exact ⟨held.1.answer persist c, claims.answer held.2 persist⟩
  obtain ⟨-, -, after⟩ :=
    keeps.play (fun inv held => ⟨held.1, fun _ => rfl⟩) step ⟨assigned, only⟩
  rwa [Operator.finish_inventory] at after

/-- In every state that comes about, a stored floating address keeps its address through any change
that leaves it stored. The only exception is an object of its identity that asks for another address
or another range. -/
theorem Occurs.address_stays {t : Tasks} (occurs : Occurs t) {key : RecordKey}
    {record : FloatingRecord} (stored : t.operator.inventory.floating? key = some record)
    (persist : RecordKey → Ipv4 → Except OperatorError Unit) :
    (∀ (change : Watch.Change Manifest.Range) (after : FloatingRecord),
      (t.operator.finish persist (Watch.followRange change)).2.inventory.floating? key =
        some after → after.address = record.address) ∧
    ∀ (change : Watch.Change Manifest.Floating) (after : FloatingRecord),
      (t.operator.finish persist (Watch.followFloating change)).2.inventory.floating? key =
        some after →
      after.address = record.address ∨
        ∃ m, change = .apply m ∧ lookupKey m = key ∧ m.Redirects record := by
  have assigned := occurs.attends.assigned
  obtain ⟨address, has⟩ := Option.isSome_iff_exists.mp (assigned.addressed _ _ stored)
  have only : HasOnly key address t.operator.inventory := by
    intro record' stored'
    rwa [← Option.some.inj (stored.symm.trans stored')]
  rw [has]
  constructor
  · intro change after
    have keeps := (keepsRecords_follow change t.operator.inventory).keepsAddress key address
    exact keeps.finish assigned only persist after
  · intro change after found
    obtain keeps | redirected := keepsAddress_followFloating stored has change
    · exact .inl (keeps.finish assigned only persist after found)
    · exact .inr redirected

end Tasks

namespace Sample

/-- The second of two floating addresses. -/
def second : Manifest.Floating := floating "two" "blue" none

/-- The second object, which now belongs to another guest cluster. -/
def moved : Manifest.Floating :=
  let texts : TextMap := .ofList [("clustername", "other"), ("fiprange", "blue")]
  { second with metadata.annotations := some texts }

/-- Of two floating addresses the first one is gone, so the lowest address is free again. -/
def vacated : Operator :=
  let single := (blue.finish accept (Watch.followFloating (.apply one))).2
  let both := (single.finish accept (Watch.followFloating (.apply second))).2
  (both.finish accept (Watch.followFloating (.delete one))).2

end Sample

namespace Tasks

theorem occurs_vacated : Occurs (idle Sample.vacated) := by
  have added : (Watch.Change.apply Sample.one).Plain :=
    show RecordKey.Plain ⟨"web", "one"⟩ by decide
  have added' : (Watch.Change.apply Sample.second).Plain :=
    show RecordKey.Plain ⟨"web", "two"⟩ by decide
  have removed : (Watch.Change.delete Sample.one).Plain := added
  have single := reached_blue.followFloating added Sample.accept
  have both := single.followFloating added' Sample.accept
  exact (both.followFloating removed Sample.accept).occurs

/-- The object changes and carries no address, or its range shrinks. The record keeps its address,
although a lower one is free. -/
theorem address_stays_vacated :
    Sample.vacated.inventory.allocator.owner "blue" (.ofOctets 10 0 0 1) = none ∧
    ((Sample.vacated.finish Sample.accept (Watch.followFloating
      (.apply Sample.moved))).2.inventory.floating? ⟨"web", "two"⟩).bind (·.address) =
        some (.ofOctets 10 0 0 2) ∧
    ((Sample.vacated.finish Sample.accept (Watch.followRange
      (.apply Sample.smaller))).2.inventory.floating? ⟨"web", "two"⟩).bind (·.address) =
        some (.ofOctets 10 0 0 2) := by
  have known : (Sample.vacated.inventory.floating? ⟨"web", "two"⟩).any fun record =>
      record.address = some (.ofOctets 10 0 0 2) ∧ record.range = "blue" := by
    decide +kernel
  obtain ⟨record, stored, known⟩ := (Option.any_eq_true ..).mp known
  obtain ⟨has, drawn⟩ := of_decide_eq_true known
  have unmoved : ¬Sample.moved.Redirects record := by
    rintro (⟨_, carried, -⟩ | ⟨_, ranged, other⟩)
    · have blank : Sample.moved.carried? = none := by decide +kernel
      rw [blank] at carried
      cases carried
    · have named : Sample.moved.metadata.annotated? Manifest.annotationKeys.range =
          some "blue" := by
        decide +kernel
      rw [named] at ranged
      exact other ((Option.some.inj ranged).symm.trans drawn.symm)
  obtain ⟨ranges, floatings⟩ := occurs_vacated.address_stays stored Sample.accept
  dsimp only [idle] at ranges floatings
  have left : ((Sample.vacated.finish Sample.accept (Watch.followFloating
      (.apply Sample.moved))).2.inventory.floating? ⟨"web", "two"⟩).isSome := by
    decide +kernel
  have left' : ((Sample.vacated.finish Sample.accept (Watch.followRange
      (.apply Sample.smaller))).2.inventory.floating? ⟨"web", "two"⟩).isSome := by
    decide +kernel
  obtain ⟨after, found⟩ := Option.isSome_iff_exists.mp left
  obtain ⟨after', found'⟩ := Option.isSome_iff_exists.mp left'
  refine ⟨by decide +kernel, ?_, ?_⟩
  · obtain same | ⟨m, applied, -, redirects⟩ := floatings (.apply Sample.moved) after found
    · rw [found, Option.bind_some, same, has]
    · obtain rfl := Watch.Change.apply.inj applied
      exact absurd redirects unmoved
  · rw [found', Option.bind_some, ranges (.apply Sample.smaller) after' found', has]

end Tasks

end FloatingAddress
