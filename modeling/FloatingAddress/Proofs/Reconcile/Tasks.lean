import FloatingAddress.Proofs.Reconcile.Asking

/-!
# The two watch tasks

One task follows the range objects, another one the objects of floating addresses, each one change
after the other. Between two questions of one task the other may ask any number of its own. The
store and the allocator agree in every state that comes about in this way.

The tasks share the work so that each can rely on the other. Only the range task registers and
removes ranges, and the soundness of the inventory does not depend on when it does. Only the
floating task changes the records of floating addresses, so a record that it has found missing, or
has taken out, is still missing when it claims an address for it.
-/

namespace FloatingAddress

open Dialogue Reconcile

/-- The name of the range object that a change is about. -/
def Watch.Change.name : Watch.Change Manifest.Range → String
  | .apply m | .delete m => m.metadata.anyName

/-- The identity of the object that a change is about. -/
def Watch.Change.key : Watch.Change Manifest.Floating → RecordKey
  | .apply m | .delete m => lookupKey m

/-- The object of a floating address has a namespace without a slash. -/
def Watch.Change.Plain (change : Watch.Change Manifest.Floating) : Prop := change.key.Plain

namespace Sample

def range (name cidr : String) : Manifest.Range :=
  { metadata := { name := some name }, cidr := some cidr }

/-- The object of a floating address of the namespace `web`. -/
def floating (name range : String) (address : Option String) : Manifest.Floating :=
  { metadata := {
      name := some name
      ns := some "web"
      annotations := some (.ofList [("clustername", "guest"), ("fiprange", range)]) }
    address }

/-- Every address is written back. -/
def accept : RecordKey → Ipv4 → Except OperatorError Unit := fun _ _ => .ok ()

end Sample

/-- The shared state, and what is left of the changes that the two tasks follow. -/
structure Tasks where
  operator : Operator
  ranges : Step Unit
  floatings : Step Unit

namespace Tasks

/-- Neither task follows a change. -/
def idle (op : Operator) : Tasks := { operator := op, ranges := .done (), floatings := .done () }

/-- What can happen next. Writing an address back may come out differently every time. -/
inductive Next : Tasks → Tasks → Prop
  /-- The range task turns to a change. -/
  | takeRange (op : Operator) (floatings : Step Unit) (change : Watch.Change Manifest.Range) :
    Next ⟨op, .done (), floatings⟩ ⟨op, Watch.followRange change, floatings⟩
  /-- The floating task turns to a change. -/
  | takeFloating (op : Operator) (ranges : Step Unit) (change : Watch.Change Manifest.Floating)
    (plain : change.Plain) :
    Next ⟨op, ranges, .done ()⟩ ⟨op, ranges, Watch.followFloating change⟩
  /-- The range task asks a question. -/
  | askRange (op : Operator) (c : Call) (next : Answer c → Step Unit) (floatings : Step Unit)
    (persist : RecordKey → Ipv4 → Except OperatorError Unit) :
    Next ⟨op, .ask c next, floatings⟩
      ⟨(op.reply persist c).2, next (op.reply persist c).1, floatings⟩
  /-- The floating task asks a question. -/
  | askFloating (op : Operator) (ranges : Step Unit) (c : Call) (next : Answer c → Step Unit)
    (persist : RecordKey → Ipv4 → Except OperatorError Unit) :
    Next ⟨op, ranges, .ask c next⟩
      ⟨(op.reply persist c).2, ranges, next (op.reply persist c).1⟩

/-- The states that come about, beginning without records. -/
inductive Reached : Tasks → Prop
  | start (op : Operator) (empty : op.inventory = .empty) : Reached (idle op)
  | step {t t' : Tasks} (reached : Reached t) (next : Next t t') : Reached t'

/-- The inventory is sound afterwards, and it differs at most in the records of certain ranges and
certain identities. -/
structure Alters (ranges : String → Prop) (keys : RecordKey → Prop) (inv after : Inventory) :
    Prop where
  sound : after.Sound
  range? : ∀ name, ¬ranges name → after.range? name = inv.range? name
  floating? : ∀ key, ¬keys key → after.floating? key = inv.floating? key

/-- The range task leaves the records of floating addresses alone, and what it registers is well
formed. It registers and removes certain ranges only. -/
def RangeMay (ranges : String → Prop) : Call → Inventory → Prop
  | .claim _, _ | .rollback _, _ | .release _, _ => False
  | .createRange record, _ => record.WellFormed ∧ ranges record.name
  | .deleteRange name, _ => ranges name
  | _, _ => True

/-- The floating task leaves the ranges alone and claims addresses for missing records only. It
changes the records of certain identities only. -/
def FloatingMay (keys : RecordKey → Prop) : Call → Inventory → Prop
  | .createRange _, _ | .deleteRange _, _ => False
  | .claim record, inv =>
    record.key.Plain ∧ inv.floating? record.key = none ∧ keys record.key
  | .rollback key, _ | .release key, _ => keys key
  | _, _ => True

/-- What the range task relies on: nobody else changes the ranges. -/
def RangeRely : Inventory → Inventory → Prop := Alters (fun _ => False) fun _ => True

/-- What the floating task relies on: nobody else changes the records of floating addresses. -/
def FloatingRely : Inventory → Inventory → Prop := Alters (fun _ => True) fun _ => False

/-- What is left of a change keeps to the terms of the range task. -/
def KeepsRanges {α : Type} (ranges : String → Prop) (d : Step α) (inv : Inventory) : Prop :=
  (unmeasured d).Keeps Inventory.answer RangeRely (RangeMay ranges) (fun _ => True) inv

/-- What is left of a change keeps to the terms of the floating task. -/
def KeepsFloatings {α : Type} (keys : RecordKey → Prop) (d : Step α) (inv : Inventory) : Prop :=
  (unmeasured d).Keeps Inventory.answer FloatingRely (FloatingMay keys) (fun _ => True) inv

section Terms

variable {ranges : String → Prop} {keys : RecordKey → Prop} {inv inv' inv'' : Inventory}

theorem Alters.refl (sound : inv.Sound) : Alters ranges keys inv inv :=
  ⟨sound, fun _ _ => rfl, fun _ _ => rfl⟩

theorem Alters.trans (first : Alters ranges keys inv inv')
    (second : Alters ranges keys inv' inv'') : Alters ranges keys inv inv'' where
  sound := second.sound
  range? name spared := (second.range? name spared).trans (first.range? name spared)
  floating? key spared := (second.floating? key spared).trans (first.floating? key spared)

theorem keepsRanges_asked {m : Manifest.Range} (own : ranges m.metadata.anyName)
    (inv : Inventory) :
    (asked m).Keeps Inventory.answer RangeRely (RangeMay ranges) (fun _ => True) inv := by
  unfold asked
  cases accepted : RangeRecord.ofManifest m with
  | error error => trivial
  | ok record =>
    obtain ⟨named, formed⟩ := RangeRecord.ofManifest_ok accepted
    exact fun _ _ => ⟨⟨formed, named ▸ own⟩, fun _ => trivial⟩

theorem keepsRanges_follow {change : Watch.Change Manifest.Range} (own : ranges change.name)
    (inv : Inventory) : KeepsRanges ranges (Watch.followRange change) inv := by
  unfold KeepsRanges
  rw [unmeasured_followRange]
  refine Keeps.forget ?_ ()
  cases change with
  | delete m =>
    change (unmeasured (removeRange m.metadata.anyName).run).Keeps _ _ _ _ _
    rw [unmeasured_removeRange]
    exact fun _ _ => ⟨own, fun _ => trivial⟩
  | apply m =>
    dsimp only
    rw [unmeasured_applyRange]
    refine fun inv' altered => ⟨trivial, fun persist => ?_⟩
    rw [Inventory.answer_range]
    cases found : inv'.range? m.metadata.anyName with
    | none => exact keepsRanges_asked own inv'
    | some stored =>
      have named := (altered.sound.range _ _ found).1
      dsimp only
      split
      · trivial
      · exact fun _ _ => ⟨named ▸ own, fun _ => keepsRanges_asked own _⟩

theorem keepsFloatings_apply {m : Manifest.Floating} (plain : (lookupKey m).Plain)
    (own : keys (lookupKey m)) (inv : Inventory) :
    KeepsFloatings keys (applyFloating m).run inv := by
  have relies : ∀ inv inv', FloatingRely inv inv' → RecordsRely inv inv' := by
    intro inv inv' altered
    exact ⟨altered.sound.assigned, fun key => altered.floating? key id⟩
  refine (asks_apply m inv).mono relies fun c inv' asks => ?_
  cases c with
  | createRange _ | deleteRange _ => exact asks
  | claim record =>
    obtain ⟨wants, missing⟩ := asks
    rw [← wants.key] at plain missing own
    exact ⟨plain, missing, own⟩
  | rollback key | release key => exact (show key = lookupKey m from asks) ▸ own
  | _ => trivial

theorem keepsFloatings_follow {change : Watch.Change Manifest.Floating} (plain : change.Plain)
    (own : keys change.key) (inv : Inventory) :
    KeepsFloatings keys (Watch.followFloating change) inv := by
  unfold KeepsFloatings
  rw [unmeasured_followFloating]
  refine Keeps.forget ?_ ()
  cases change with
  | delete m =>
    dsimp only
    rw [unmeasured_deleteFloating]
    exact fun _ _ => ⟨own, fun _ => trivial⟩
  | apply m => exact keepsFloatings_apply plain own inv

/-- Both tasks may report and change the metrics. -/
theorem RangeMay.of_known {c : Call} {a : Answer c} (known : measureKnown c = some a) :
    RangeMay ranges c inv := by
  cases c <;> trivial

theorem FloatingMay.of_known {c : Call} {a : Answer c} (known : measureKnown c = some a) :
    FloatingMay keys c inv := by
  cases c <;> trivial

theorem RangeMay.answer {c : Call} (allowed : RangeMay ranges c inv) (sound : inv.Sound)
    (persist : RecordKey → Ipv4 → Except OperatorError Unit) :
    Alters ranges (fun _ => False) inv (inv.answer persist c).2 := by
  cases c with
  | claim _ | rollback _ | release _ => exact absurd allowed id
  | createRange record =>
    obtain same | ⟨_, h⟩ := inv.answer_createRange_cases persist record
    · rw [same]
      exact .refl sound
    · obtain ⟨-, _, -, known, floatings, -⟩ := Inventory.createRange_ok h
      refine ⟨sound.createRange allowed.1 h, fun name spared => ?_, fun key _ => floatings key⟩
      rw [known, if_neg]
      rintro rfl
      exact spared allowed.2
  | deleteRange name =>
    obtain same | ⟨_, h⟩ := inv.answer_deleteRange_cases persist name
    · rw [same]
      exact .refl sound
    · obtain ⟨-, known, floatings, -⟩ := Inventory.deleteRange_ok h
      refine ⟨sound.deleteRange h, fun name spared => ?_, fun key _ => floatings key⟩
      rw [known, if_neg]
      rintro rfl
      exact spared allowed
  | _ => exact .refl sound

/-- Taking a record out changes no range and no other record. -/
theorem alters_rollback (sound : inv.Sound) {key : RecordKey} (own : keys key) :
    Alters (fun _ => False) keys inv (inv.rollback key) where
  sound := sound.rollback key
  range? name _ := Inventory.range?_rollback name
  floating? other spared := by
    rw [Inventory.floating?_rollback, if_neg]
    rintro rfl
    exact spared own

theorem FloatingMay.answer {c : Call} (allowed : FloatingMay keys c inv) (sound : inv.Sound)
    (persist : RecordKey → Ipv4 → Except OperatorError Unit) :
    Alters (fun _ => False) keys inv (inv.answer persist c).2 := by
  cases c with
  | createRange _ | deleteRange _ => exact absurd allowed id
  | claim record =>
    obtain ⟨plain, missing, own⟩ := allowed
    obtain same | ⟨_, h⟩ := inv.answer_claim_cases persist record
    · rw [same]
      exact .refl sound
    · obtain ⟨-, -, -, known, floatings⟩ := Inventory.claim_ok h
      refine ⟨sound.claim plain missing h, fun name _ => known name, fun key spared => ?_⟩
      rw [floatings, if_neg]
      rintro rfl
      exact spared own
  | rollback key => exact alters_rollback sound allowed
  | release key =>
    rw [Inventory.answer_release]
    exact alters_rollback sound allowed
  | _ => exact .refl sound

end Terms

/-- The inventory is sound, and what is left of both changes keeps to the terms. -/
structure Orderly (ranges : String → Prop) (keys : RecordKey → Prop) (t : Tasks) : Prop where
  sound : t.operator.inventory.Sound
  ranges : KeepsRanges ranges t.ranges t.operator.inventory
  floatings : KeepsFloatings keys t.floatings t.operator.inventory

section Orderly

variable {names : String → Prop} {keys : RecordKey → Prop} {op : Operator} {c : Call}
  {next : Answer c → Step Unit} {ranges floatings : Step Unit}

/-- The range task may ask, and the floating task does not mind. -/
theorem Orderly.askRange (orderly : Orderly names keys ⟨op, .ask c next, floatings⟩)
    (persist : RecordKey → Ipv4 → Except OperatorError Unit) :
    Orderly names keys ⟨(op.reply persist c).2, next (op.reply persist c).1, floatings⟩ ∧
      Alters names (fun _ => False) op.inventory (op.reply persist c).2.inventory := by
  obtain ⟨sound, asks, others⟩ := orderly
  obtain ⟨allowed, goesOn⟩ := Keeps.reply (Inventory.views persist) (Alters.refl sound)
    (fun _ known => RangeMay.of_known known) asks
  have altered := allowed.answer sound persist
  rw [← op.reply_inventory] at altered
  have relied : FloatingRely op.inventory (op.reply persist c).2.inventory :=
    ⟨altered.sound, fun _ spared => absurd trivial spared, altered.floating?⟩
  have others' := others.interfere (fun first second => first.trans second) relied
  exact ⟨⟨altered.sound, goesOn, others'⟩, altered⟩

/-- The floating task may ask, and the range task does not mind. -/
theorem Orderly.askFloating (orderly : Orderly names keys ⟨op, ranges, .ask c next⟩)
    (persist : RecordKey → Ipv4 → Except OperatorError Unit) :
    Orderly names keys ⟨(op.reply persist c).2, ranges, next (op.reply persist c).1⟩ ∧
      Alters (fun _ => False) keys op.inventory (op.reply persist c).2.inventory := by
  obtain ⟨sound, others, asks⟩ := orderly
  obtain ⟨allowed, goesOn⟩ := Keeps.reply (Inventory.views persist) (Alters.refl sound)
    (fun _ known => FloatingMay.of_known known) asks
  have altered := allowed.answer sound persist
  rw [← op.reply_inventory] at altered
  have relied : RangeRely op.inventory (op.reply persist c).2.inventory :=
    ⟨altered.sound, altered.range?, fun _ spared => absurd trivial spared⟩
  have others' := others.interfere (fun first second => first.trans second) relied
  exact ⟨⟨altered.sound, others', goesOn⟩, altered⟩

end Orderly

theorem Reached.orderly {t : Tasks} (reached : Reached t) :
    t.Orderly (fun _ => True) fun _ => True := by
  induction reached with
  | start op empty =>
    refine ⟨?_, trivial, trivial⟩
    rw [idle, empty]
    exact .empty
  | step _ next ih =>
    cases next with
    | takeRange op rest change => exact ⟨ih.sound, keepsRanges_follow trivial _, ih.floatings⟩
    | takeFloating op rest change plain =>
      exact ⟨ih.sound, ih.ranges, keepsFloatings_follow plain trivial _⟩
    | askRange op c next rest persist => exact (ih.askRange persist).1
    | askFloating op rest c next persist => exact (ih.askFloating persist).1

theorem Reached.sound {op : Operator} (reached : Reached (idle op)) : op.inventory.Sound :=
  reached.orderly.sound

theorem Reached.finishRange {op : Operator} {d floatings : Step Unit}
    (reached : Reached ⟨op, d, floatings⟩)
    (persist : RecordKey → Ipv4 → Except OperatorError Unit) :
    Reached ⟨(op.finish persist d).2, .done (), floatings⟩ := by
  rw [op.finish_eq_play]
  induction d generalizing op with
  | done a => exact reached
  | ask c next ih => exact ih _ (reached.step (.askRange op c next floatings persist))

theorem Reached.finishFloating {op : Operator} {ranges d : Step Unit}
    (reached : Reached ⟨op, ranges, d⟩)
    (persist : RecordKey → Ipv4 → Except OperatorError Unit) :
    Reached ⟨(op.finish persist d).2, ranges, .done ()⟩ := by
  rw [op.finish_eq_play]
  induction d generalizing op with
  | done a => exact reached
  | ask c next ih => exact ih _ (reached.step (.askFloating op ranges c next persist))

theorem Reached.followRange {op : Operator} (reached : Reached (idle op))
    (change : Watch.Change Manifest.Range)
    (persist : RecordKey → Ipv4 → Except OperatorError Unit) :
    Reached (idle (op.finish persist (Watch.followRange change)).2) :=
  (reached.step (.takeRange op (.done ()) change)).finishRange persist

theorem Reached.followFloating {op : Operator} (reached : Reached (idle op))
    {change : Watch.Change Manifest.Floating} (plain : change.Plain)
    (persist : RecordKey → Ipv4 → Except OperatorError Unit) :
    Reached (idle (op.finish persist (Watch.followFloating change)).2) :=
  (reached.step (.takeFloating op (.done ()) change plain)).finishFloating persist

/-- In every state that comes about, the store and the allocator agree. -/
theorem Reached.agreement {t : Tasks} (reached : Reached t) : t.operator.inventory.Agreement :=
  reached.orderly.sound.toAgreement

/-- A range loses the address of a record when it shrinks. Nobody holds the address any more, and
the record still has it. -/
theorem agreement_shrunk : ∃ t : Tasks, Reached t ∧
    t.operator.inventory.allocator.owner "blue" (.ofOctets 10 0 0 9) = none ∧
    (t.operator.inventory.floating? ⟨"web", "one"⟩).bind (·.address) = some (.ofOctets 10 0 0 9) ∧
    t.operator.inventory.Agreement := by
  have empty : Reached (idle {}) := .start {} rfl
  have ranged := empty.followRange (.apply (Sample.range "blue" "10.0.0.0/28")) Sample.accept
  have plain : (Watch.Change.apply (Sample.floating "one" "blue" (some "10.0.0.9"))).Plain :=
    show RecordKey.Plain ⟨"web", "one"⟩ by decide
  have claimed := ranged.followFloating plain Sample.accept
  have shrunk := claimed.followRange (.apply (Sample.range "blue" "10.0.0.0/29")) Sample.accept
  exact ⟨_, shrunk, by decide +kernel, by decide +kernel, shrunk.agreement⟩

end Tasks

end FloatingAddress
