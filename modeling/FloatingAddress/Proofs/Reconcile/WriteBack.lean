import FloatingAddress.Proofs.Reconcile.Frame
import FloatingAddress.Proofs.Reconcile.Replacement
import FloatingAddress.Proofs.Text.DottedQuad

/-!
# Addresses that are written back

An object either carries the address that its record has, or the address is written back to it. An
object that is accepted has an address afterwards, and this address is written back exactly once if
the object does not carry it, and not at all if it does. Whoever asks for an address to be written
back does so while the record has this very address, whatever the other task does in between. This
includes the objects that are accepted in one go at the start.
-/

namespace FloatingAddress

open Dialogue Reconcile

/-- The identity and the address that a question asks to be written back. -/
def Reconcile.Call.write? : Call → Option (RecordKey × Ipv4)
  | .persist key address => some (key, address)
  | _ => none

/-- What a dialogue is about to write back. -/
def Reconcile.pendingWrite? {α : Type} : Step α → Option (RecordKey × Ipv4)
  | .done _ => none
  | .ask c _ => c.write?

/-- What a handler writes back if it is not interrupted, in this order. -/
def Operator.writes {α : Type} (persist : RecordKey → Ipv4 → Except OperatorError Unit)
    (d : Step α) (op : Operator) : List (RecordKey × Ipv4) :=
  (d.questions (fun c op => op.reply persist c) op).filterMap Call.write?

/-- The address that an object carries, blanks around it aside. -/
def Manifest.Floating.carried? (m : Manifest.Floating) : Option Ipv4 :=
  (m.address.map Text.trim).bind Ipv4.ofText?

theorem FloatingRecord.carriedAddress_ok {key : RecordKey} {text : Option String}
    {address : Option Ipv4} (h : carriedAddress key text = .ok address) :
    address = (text.map Text.trim).bind Ipv4.ofText? := by
  unfold carriedAddress at h
  cases text with
  | none =>
    cases h
    rfl
  | some value =>
    simp only [Option.bind_some, Option.map_some, Text.nonBlank] at h ⊢
    split at h
    next absent =>
      cases h
      have blank : Text.trim value = "" := by
        split at absent
        next empty => exact String.isEmpty_iff.mp empty
        · cases absent
      rw [blank, Ipv4.ofText?_empty]
    next trimmed present =>
      split at present
      · cases present
      · cases present
        split at h
        · cases h
        next parsed =>
          cases h
          exact parsed.symm

theorem FloatingRecord.address_ofManifest {m : Manifest.Floating} {record : FloatingRecord}
    (h : FloatingRecord.ofManifest m = .ok record) : record.address = m.carried? := by
  obtain ⟨-, -, -, carried, -⟩ := ofManifest_eq_ok.mp h
  exact carriedAddress_ok carried

namespace Inventory

variable {inv : Inventory} {key : RecordKey} {given : Option Ipv4}
  {persist : RecordKey → Ipv4 → Except OperatorError Unit}

/-- What a dialogue writes back if it is not interrupted. -/
def writes {α : Type} (persist : RecordKey → Ipv4 → Except OperatorError Unit) (d : Step α)
    (inv : Inventory) : List (RecordKey × Ipv4) :=
  (d.questions (fun c inv => inv.answer persist c) inv).filterMap Call.write?

/-- If the dialogue succeeds, the identity has an address afterwards. Either the object has given this
address, or there was none and it has been written back once. -/
def Settles (persist : RecordKey → Ipv4 → Except OperatorError Unit) (key : RecordKey)
    (given : Option Ipv4) (d : Step (Except OperatorError Unit)) (inv : Inventory) : Prop :=
  (d.play (fun c inv => inv.answer persist c) inv).1 = .ok () →
    ∃ record address,
      (d.play (fun c inv => inv.answer persist c) inv).2.floating? key = some record ∧
      record.address = some address ∧
      (given = some address ∧ inv.writes persist d = [] ∨
        given = none ∧ inv.writes persist d = [(key, address)] ∧ persist key address = .ok ())

/-- A question that writes nothing back settles nothing. -/
theorem settles_ask {c : Call} {next : Answer c → Step (Except OperatorError Unit)}
    (silent : c.write? = none)
    (rest : (inv.answer persist c).2.Settles persist key given
      (next (inv.answer persist c).1)) :
    inv.Settles persist key given (.ask c next) := by
  have same : inv.writes persist (.ask c next) =
      (inv.answer persist c).2.writes persist (next (inv.answer persist c).1) := by
    rw [writes, questions_ask, List.filterMap_cons_none silent]
    rfl
  unfold Settles
  rw [same]
  exact rest

theorem settles_error (error : OperatorError) (inv : Inventory) :
    inv.Settles persist key given (.done (.error error)) := by
  intro fine
  cases fine

/-- An address that a record has is written back, and nothing follows unless this fails. -/
theorem settles_persist {record : FloatingRecord} {address : Ipv4}
    {next : Except OperatorError Unit → Step (Except OperatorError Unit)}
    (stored : inv.floating? key = some record) (has : record.address = some address)
    (fails : ∀ error, ((next (.error error)).play (fun c inv => inv.answer persist c) inv).1 ≠
      .ok ())
    (ends : next (.ok ()) = .done (.ok ())) :
    inv.Settles persist key none (.ask (.persist key address) next) := by
  have answered : inv.answer persist (.persist key address) = (persist key address, inv) := rfl
  intro fine
  rw [play_ask, answered] at fine ⊢
  rw [writes, questions_ask, answered]
  cases written : persist key address with
  | error error =>
    rw [written] at fine
    exact absurd fine (fails error)
  | ok _ =>
    rw [ends]
    exact ⟨record, address, stored, has, .inr ⟨rfl, rfl, written⟩⟩

theorem settles_createFloating {record : FloatingRecord}
    (asks : ∀ address, given = some address → record.address = some address)
    (inv : Inventory) :
    inv.Settles persist record.key given
      (unmeasured (createFloating record given.isSome).run) := by
  rw [unmeasured_createFloating]
  refine settles_ask rfl ?_
  cases h : inv.claim record with
  | error error =>
    rw [answer, attempt_of_error h]
    exact settles_error _ _
  | ok result =>
    rw [answer, attempt_of_ok h]
    obtain ⟨acquired, -, -, -, floatings⟩ := claim_ok h
    have stored := (floatings record.key).trans (if_pos rfl)
    cases given with
    | some address =>
      intro _
      rw [asks address rfl] at acquired
      have obtained := Allocator.acquire_some acquired
      exact ⟨_, _, stored, rfl, .inl ⟨congrArg some obtained.symm, rfl⟩⟩
    | none =>
      refine settles_persist stored rfl (fun error fine => ?_) rfl
      cases fine

/-- An object that repeats its record carries the address of the record, or it is written back. -/
theorem settles_repeated {incoming stored : FloatingRecord} {address : Ipv4}
    (found : inv.floating? stored.key = some stored) (has : stored.address = some address)
    (same : keepingAddress incoming stored = stored) :
    inv.Settles persist stored.key incoming.address
      (if incoming.address.isSome then .done (.ok ())
        else .ask (.persist stored.key address) .done) := by
  cases given : incoming.address with
  | none =>
    refine settles_persist found has (fun error fine => ?_) rfl
    cases fine
  | some address' =>
    intro _
    have kept : incoming = stored := (keepingAddress_of_some given).symm.trans same
    have carried : some address' = some address := given.symm.trans (kept ▸ has)
    exact ⟨stored, address, found, has, .inl ⟨carried, rfl⟩⟩

/-- An object that is accepted has an address, and the object carries it or it is written back. -/
theorem settles_applyFloating (assigned : inv.Assigned) (m : Manifest.Floating) :
    inv.Settles persist (lookupKey m) m.carried? (unmeasured (applyFloating m).run) := by
  rw [unmeasured_applyFloating]
  refine settles_ask rfl ?_
  rw [answer_floating]
  cases accepted : FloatingRecord.ofManifest m with
  | error error =>
    cases inv.floating? (lookupKey m) with
    | none => exact settles_error _ _
    | some stored => exact settles_ask rfl (settles_error _ _)
  | ok incoming =>
    have own := FloatingRecord.ofManifest_ok accepted
    rw [← FloatingRecord.address_ofManifest accepted]
    cases found : inv.floating? (lookupKey m) with
    | none =>
      rw [← own]
      exact settles_createFloating (fun address asked => asked) _
    | some stored =>
      have filed := assigned.filed _ _ found
      obtain ⟨address, has⟩ := Option.isSome_iff_exists.mp (assigned.addressed _ _ found)
      dsimp only
      split
      next same =>
        rw [has, ← filed]
        exact settles_repeated (filed ▸ found) has same
      next changed =>
        refine settles_ask rfl ?_
        rw [← own, ← keepingAddress_key incoming stored]
        refine settles_createFloating (fun address given => ?_) _
        rw [keepingAddress_of_some given, given]

end Inventory

/-- What an uninterrupted handler writes back does not depend on anything but the inventory. -/
theorem Operator.writes_eq {α : Type} (persist : RecordKey → Ipv4 → Except OperatorError Unit)
    (d : Step α) (op : Operator) :
    op.writes persist d = op.inventory.writes persist (unmeasured d) := by
  rw [Inventory.writes, unmeasured, (Inventory.views persist).questions, List.filterMap_filter]
  refine congrArg (List.filterMap · _) (funext fun c => ?_)
  cases c <;> rfl

namespace Tasks

variable {α β : Type} {op : Operator} {c : Call} {next : Answer c → Step Unit}
  {ranges floatings : Step Unit}

/-- The states that come about, whatever the namespaces of the objects are. In the beginning a list
of objects may be accepted. -/
inductive Occurs : Tasks → Prop
  | start (op : Operator) (empty : op.inventory = .empty) : Occurs (idle op)
  /-- The objects that are there at the start are accepted. -/
  | seed (op : Operator) (empty : op.inventory = .empty) (ranges : List Manifest.Range)
    (floatings : List Manifest.Floating) :
    Occurs ⟨op, .done (), Reconcile.seed ranges floatings >>= fun _ => .done ()⟩
  | step {t t' : Tasks} (occurs : Occurs t) (next : Next t t') : Occurs t'
  /-- The floating task turns to any change. -/
  | takeFloating (op : Operator) (ranges : Step Unit) (change : Watch.Change Manifest.Floating)
    (occurs : Occurs ⟨op, ranges, .done ()⟩) : Occurs ⟨op, ranges, Watch.followFloating change⟩

/-- The range task changes no record of a floating address and writes nothing back. -/
def LeavesRecords : Call → Inventory → Prop
  | .claim _, _ | .rollback _, _ | .release _, _ | .persist .., _ => False
  | _, _ => True

/-- An address is written back only while the record has it. -/
def WritesStored : Call → Inventory → Prop
  | .persist key address, inv =>
    ∃ record, inv.floating? key = some record ∧ record.address = some address
  | _, _ => True

/-- What is left of a change leaves the records of floating addresses alone. -/
def KeepsRecords (d : Step α) (inv : Inventory) : Prop :=
  (unmeasured d).Keeps Inventory.answer (fun _ _ => True) LeavesRecords (fun _ => True) inv

/-- What is left writes addresses back only while their records have them. -/
def KeepsStored (d : Step α) (inv : Inventory) : Prop :=
  (unmeasured d).Keeps Inventory.answer RecordsRely WritesStored (fun _ => True) inv

theorem KeepsTo.stored {key : RecordKey} {d : Step α} {inv : Inventory} (keeps : KeepsTo key d inv) :
    KeepsStored d inv := by
  refine keeps.mono (fun _ _ relied => relied) fun c inv concerns => ?_
  cases c with
  | persist key' address =>
    obtain ⟨rfl, stored⟩ := concerns
    exact stored
  | _ => trivial

theorem KeepsRecords.stored {d : Step α} {inv : Inventory} (keeps : KeepsRecords d inv) :
    KeepsStored d inv := by
  refine keeps.mono (fun _ _ _ => trivial) fun c inv leaves => ?_
  cases c with
  | persist key' address => exact absurd leaves id
  | _ => trivial

theorem keepsRecords_asked (m : Manifest.Range) (inv : Inventory) :
    (asked m).Keeps Inventory.answer (fun _ _ => True) LeavesRecords (fun _ => True) inv := by
  unfold asked
  cases RangeRecord.ofManifest m with
  | error error => trivial
  | ok record =>
    intro _ _
    exact ⟨trivial, fun _ => trivial⟩

theorem keepsRecords_apply (m : Manifest.Range) (inv : Inventory) :
    KeepsRecords (applyRange m).run inv := by
  unfold KeepsRecords
  rw [unmeasured_applyRange]
  intro inv' _
  refine ⟨trivial, fun persist => ?_⟩
  cases (inv'.answer persist (.range m.metadata.anyName)).1 with
  | none => exact keepsRecords_asked m _
  | some stored =>
    dsimp only
    split
    · trivial
    · intro _ _
      exact ⟨trivial, fun _ => keepsRecords_asked m _⟩

theorem keepsRecords_follow (change : Watch.Change Manifest.Range) (inv : Inventory) :
    KeepsRecords (Watch.followRange change) inv := by
  unfold KeepsRecords
  rw [unmeasured_followRange]
  refine Keeps.forget ?_ ()
  cases change with
  | apply m => exact keepsRecords_apply m inv
  | delete m =>
    show (unmeasured (removeRange m.metadata.anyName).run).Keeps _ _ _ _ _
    rw [unmeasured_removeRange]
    intro _ _
    exact ⟨trivial, fun _ => trivial⟩

theorem KeepsStored.bind {d : Step α} {f : α → Step β} {inv : Inventory}
    (keeps : KeepsStored d inv) (rest : ∀ a inv, KeepsStored (f a) inv) :
    KeepsStored (d >>= f) inv := by
  unfold KeepsStored
  rw [unmeasured_bind]
  exact Keeps.bind keeps fun a inv _ => rest a inv

theorem keepsStored_mapM {f : α → Step β} (each : ∀ a inv, KeepsStored (f a) inv) (list : List α)
    (inv : Inventory) : KeepsStored (list.mapM f) inv := by
  induction list generalizing inv with
  | nil => trivial
  | cons a rest ih =>
    rw [List.mapM_cons]
    refine (each a inv).bind fun b inv => (ih inv).bind fun bs inv => ?_
    trivial

theorem keepsStored_seedOne {handler : Handler Unit} {inv : Inventory}
    (keeps : KeepsStored handler.run inv) (kind : WatchKind) (object : String) :
    KeepsStored (seedOne kind object handler) inv := by
  refine keeps.bind fun result inv => ?_
  cases result <;> trivial

theorem keepsStored_seed (ranges : List Manifest.Range) (floatings : List Manifest.Floating)
    (inv : Inventory) : KeepsStored (Reconcile.seed ranges floatings) inv := by
  have range : ∀ m inv, KeepsStored (seedOne .range (Metadata.anyName (Manifest.Range.metadata m))
      (applyRange m)) inv := by
    intro m inv
    exact keepsStored_seedOne (keepsRecords_apply m inv).stored _ _
  have floating : ∀ m inv, KeepsStored (seedOne .floating (floatingText m)
      (applyFloating m)) inv := by
    intro m inv
    exact keepsStored_seedOne (keepsTo_apply m inv).stored _ _
  refine (keepsStored_mapM range _ inv).bind fun _ inv => ?_
  refine (keepsStored_mapM floating _ inv).bind fun _ inv => ?_
  trivial

theorem LeavesRecords.answer {inv : Inventory} (allowed : LeavesRecords c inv)
    (persist : RecordKey → Ipv4 → Except OperatorError Unit) (key : RecordKey) :
    (inv.answer persist c).2.floating? key = inv.floating? key := by
  cases c with
  | claim _ | rollback _ | release _ | persist _ _ => exact absurd allowed id
  | createRange record =>
    obtain same | ⟨_, h⟩ := inv.answer_createRange_cases persist record
    · rw [same]
    · obtain ⟨-, _, -, -, floatings, -⟩ := Inventory.createRange_ok h
      exact floatings key
  | deleteRange name =>
    obtain same | ⟨_, h⟩ := inv.answer_deleteRange_cases persist name
    · rw [same]
    · obtain ⟨-, -, floatings, -⟩ := Inventory.deleteRange_ok h
      exact floatings key
  | _ => rfl

/-- Every record has an address, the range task leaves the records alone, and the other task writes
addresses back only while their records have them. -/
structure Attends (t : Tasks) : Prop where
  assigned : t.operator.inventory.Assigned
  ranges : KeepsRecords t.ranges t.operator.inventory
  floatings : KeepsStored t.floatings t.operator.inventory

theorem assigned_reply (assigned : op.inventory.Assigned)
    (persist : RecordKey → Ipv4 → Except OperatorError Unit) (c : Call) :
    (op.reply persist c).2.inventory.Assigned := by
  rw [op.reply_inventory]
  exact assigned.answer persist c

theorem Attends.askRange (attends : Attends ⟨op, .ask c next, floatings⟩)
    (persist : RecordKey → Ipv4 → Except OperatorError Unit) :
    LeavesRecords c op.inventory ∧
      Attends ⟨(op.reply persist c).2, next (op.reply persist c).1, floatings⟩ := by
  obtain ⟨assigned, asks, others⟩ := attends
  have silent : ∀ a, measureKnown c = some a → LeavesRecords c op.inventory := by
    intro a known
    cases c <;> trivial
  obtain ⟨allowed, goesOn⟩ := Keeps.reply (Inventory.views persist) trivial silent asks
  have relied : RecordsRely op.inventory (op.reply persist c).2.inventory := by
    refine ⟨assigned_reply assigned persist c, fun key => ?_⟩
    rw [op.reply_inventory]
    exact allowed.answer persist key
  have others' := others.interfere (fun first second => first.trans second) relied
  exact ⟨allowed, relied.1, goesOn, others'⟩

theorem Attends.askFloating (attends : Attends ⟨op, ranges, .ask c next⟩)
    (persist : RecordKey → Ipv4 → Except OperatorError Unit) :
    WritesStored c op.inventory ∧
      Attends ⟨(op.reply persist c).2, ranges, next (op.reply persist c).1⟩ := by
  obtain ⟨assigned, others, asks⟩ := attends
  have silent : ∀ a, measureKnown c = some a → WritesStored c op.inventory := by
    intro a known
    cases c <;> trivial
  have same : RecordsRely op.inventory op.inventory := ⟨assigned, fun _ => rfl⟩
  obtain ⟨allowed, goesOn⟩ := Keeps.reply (Inventory.views persist) same silent asks
  exact ⟨allowed, assigned_reply assigned persist c,
    others.interfere (fun _ _ => trivial) trivial, goesOn⟩

theorem Occurs.attends {t : Tasks} (occurs : Occurs t) : Attends t := by
  have empty : Inventory.empty.Assigned := Inventory.Sound.empty.assigned
  induction occurs with
  | start op nothing => exact ⟨nothing ▸ empty, trivial, trivial⟩
  | seed op nothing ranges floatings =>
    exact ⟨nothing ▸ empty, trivial, (keepsStored_seed ranges floatings _).bind fun _ _ => trivial⟩
  | takeFloating op ranges change _ ih =>
    exact ⟨ih.assigned, ih.ranges, (keepsTo_follow change _).stored⟩
  | step _ next ih =>
    cases next with
    | takeRange op rest change => exact ⟨ih.assigned, keepsRecords_follow change _, ih.floatings⟩
    | takeFloating op rest change plain =>
      exact ⟨ih.assigned, ih.ranges, (keepsTo_follow change _).stored⟩
    | askRange op c next rest persist => exact (ih.askRange persist).2
    | askFloating op rest c next persist => exact (ih.askFloating persist).2

/-- Whoever is about to write an address back does it while the record has it. -/
theorem Attends.pendingWrite {t : Tasks} (attends : Attends t) {key : RecordKey} {address : Ipv4}
    (pending : pendingWrite? t.ranges = some (key, address) ∨
      pendingWrite? t.floatings = some (key, address)) :
    ∃ record, t.operator.inventory.floating? key = some record ∧
      record.address = some address := by
  obtain ⟨op, ranges, floatings⟩ := t
  obtain pending | pending := pending
  · cases ranges with
    | done a => cases pending
    | ask c next =>
      obtain ⟨allowed, -⟩ := attends.askRange fun _ _ => .ok ()
      cases c with
      | persist _ _ => exact absurd allowed id
      | _ => cases pending
  · cases floatings with
    | done a => cases pending
    | ask c next =>
      obtain ⟨stored, -⟩ := attends.askFloating fun _ _ => .ok ()
      cases c with
      | persist _ _ =>
        cases pending
        exact stored
      | _ => cases pending

theorem Reached.occurs {t : Tasks} (reached : Reached t) : Occurs t := by
  induction reached with
  | start op empty => exact .start op empty
  | step _ next ih => exact ih.step next

/-- A change may be left after any number of questions. -/
theorem Occurs.pause {d : Step Unit} (occurs : Occurs ⟨op, ranges, d⟩)
    (persist : RecordKey → Ipv4 → Except OperatorError Unit) (n : Nat) :
    Occurs ⟨(d.pause (fun c op => op.reply persist c) n op).2, ranges,
      (d.pause (fun c op => op.reply persist c) n op).1⟩ := by
  induction n generalizing d op with
  | zero => exact occurs
  | succ n ih =>
    cases d with
    | done a => exact occurs
    | ask c next => exact ih (occurs.step (.askFloating op ranges c next persist))

/-- An object that is accepted has an address. Either the object carries this address and nothing is
written back, or it carries none and the address is written back once. Whenever an address is
about to be written back, the record has this address, whatever happened in between. -/
theorem Occurs.written_back {t : Tasks} (occurs : Occurs t) :
    (∀ (m : Manifest.Floating) (persist : RecordKey → Ipv4 → Except OperatorError Unit),
      (t.operator.finish persist (applyFloating m).run).1 = .ok () →
      ∃ record address,
        (t.operator.finish persist (applyFloating m).run).2.inventory.floating? (lookupKey m) =
          some record ∧ record.address = some address ∧
        (m.carried? = some address ∧ t.operator.writes persist (applyFloating m).run = [] ∨
          m.carried? = none ∧
            t.operator.writes persist (applyFloating m).run = [(lookupKey m, address)] ∧
            persist (lookupKey m) address = .ok ())) ∧
    ∀ key address, pendingWrite? t.ranges = some (key, address) ∨
        pendingWrite? t.floatings = some (key, address) →
      ∃ record, t.operator.inventory.floating? key = some record ∧
        record.address = some address := by
  have attends := occurs.attends
  refine ⟨fun m persist fine => ?_, fun key address pending => attends.pendingWrite pending⟩
  have settles : t.operator.inventory.Settles persist (lookupKey m) m.carried?
      (unmeasured (applyFloating m).run) := Inventory.settles_applyFloating attends.assigned m
  rw [Inventory.Settles, Operator.finish_inventory, ← Operator.writes_eq] at settles
  exact settles fine

end Tasks

namespace Sample

/-- The new floating address has been claimed, and is about to be written back. -/
def unwritten : Step Unit × Operator :=
  (Watch.followFloating (.apply one)).pause (fun c op => op.reply accept c) 2 blue

/-- The same object, after its address was written back. -/
def echoed : Manifest.Floating := floating "one" "blue" (some " 10.0.0.1 ")

end Sample

namespace Tasks

theorem eq_ok_of_isOk {ε : Type} {result : Except ε Unit} (fine : result.isOk) :
    result = .ok () := by
  cases result with
  | error error => cases fine
  | ok _ => rfl

theorem occurs_unwritten : Occurs ⟨Sample.unwritten.2, .done (), Sample.unwritten.1⟩ := by
  have taken := Occurs.takeFloating Sample.blue (.done ()) (.apply Sample.one) reached_blue.occurs
  unfold Sample.unwritten
  exact taken.pause Sample.accept 2

/-- A new object gets an address, which is written back once; an object that carries the address is
accepted without a word; and an address that is about to be written back is stored. -/
theorem written_back_blue :
    Sample.blue.writes Sample.accept (applyFloating Sample.one).run =
        [(⟨"web", "one"⟩, .ofOctets 10 0 0 1)] ∧
      Sample.blue.writes Sample.accept (applyFloating Sample.echoed).run = [] ∧
      ∃ record, Sample.unwritten.2.inventory.floating? ⟨"web", "one"⟩ = some record ∧
        record.address = some (.ofOctets 10 0 0 1) := by
  have accepted : (Sample.blue.finish Sample.accept (applyFloating Sample.one).run).1.isOk := by
    decide +kernel
  have accepted' :
      (Sample.blue.finish Sample.accept (applyFloating Sample.echoed).run).1.isOk := by
    decide +kernel
  have lowest : ((Sample.blue.finish Sample.accept
      (applyFloating Sample.one).run).2.inventory.floating? (lookupKey Sample.one)).bind
        (·.address) = some (.ofOctets 10 0 0 1) := by
    decide +kernel
  have blank : Sample.one.carried? = none := by decide +kernel
  have given : Sample.echoed.carried? = some (.ofOctets 10 0 0 1) := by decide +kernel
  have pending : pendingWrite? Sample.unwritten.1 =
      some (⟨"web", "one"⟩, .ofOctets 10 0 0 1) := by
    decide +kernel
  obtain ⟨settled, -⟩ := reached_blue.occurs.written_back
  obtain ⟨-, writing⟩ := occurs_unwritten.written_back
  dsimp only [idle] at settled writing
  refine ⟨?_, ?_, ?_⟩
  · obtain ⟨record, address, stored, has, ⟨carries, -⟩ | ⟨-, written, -⟩⟩ :=
      settled Sample.one Sample.accept (eq_ok_of_isOk accepted)
    · rw [blank] at carries
      cases carries
    · rw [stored, Option.bind_some, has] at lowest
      rw [written, Option.some.inj lowest]
      rfl
  · obtain ⟨record, address, stored, has, ⟨-, written⟩ | ⟨carries, -⟩⟩ :=
      settled Sample.echoed Sample.accept (eq_ok_of_isOk accepted')
    · exact written
    · rw [given] at carries
      cases carries
  · exact writing _ _ (.inr pending)

end Tasks

end FloatingAddress
