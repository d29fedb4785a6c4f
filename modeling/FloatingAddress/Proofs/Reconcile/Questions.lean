import FloatingAddress.Operator
import FloatingAddress.Proofs.Dialogue.Sharing
import FloatingAddress.Proofs.Inventory.Agreement
import FloatingAddress.Watch

/-!
# The questions of the handlers

Most questions of a handler are about the inventory, and the inventory alone answers them. Without
its reports a handler is a small tree of questions, and it is smaller still without the changes of
the metrics. These trees are written out here, and what is proved about handlers is proved from
them.
-/

namespace FloatingAddress

open Dialogue Reconcile

/-- The answer to a question of a handler, if addresses are written back by `persist`. -/
def Operator.reply (persist : RecordKey → Ipv4 → Except OperatorError Unit) (c : Call)
    (op : Operator) : Answer c × Operator :=
  (Operator.answer (m := Id) persist c).run op

/-- Carry a dialogue out without interruption. -/
def Operator.finish {α : Type} (persist : RecordKey → Ipv4 → Except OperatorError Unit)
    (d : Step α) (op : Operator) : α × Operator :=
  (Operator.perform (m := Id) persist d).run op

namespace Inventory

/-- Carry out an operation. If it fails, the inventory stays as it is. -/
def attempt {ε α : Type} (f : Inventory → Except ε (α × Inventory)) (wrap : ε → OperatorError)
    (inv : Inventory) : Except OperatorError α × Inventory :=
  match f inv with
  | .error error => (.error (wrap error), inv)
  | .ok (a, after) => (.ok a, after)

/-- The answer of the inventory. Metrics and log are no part of it. -/
def answer (persist : RecordKey → Ipv4 → Except OperatorError Unit) :
    (c : Call) → Inventory → Answer c × Inventory
  | .range name, inv => (inv.range? name, inv)
  | .floating key, inv => (inv.floating? key, inv)
  | .createRange record, inv => inv.attempt (·.createRange record) .allocation
  | .deleteRange name, inv => inv.attempt (·.deleteRange name) id
  | .claim record, inv => inv.attempt (·.claim record) .allocation
  | .rollback key, inv => ((), inv.rollback key)
  | .release key, inv => inv.attempt (·.release key) .store
  | .persist key address, inv => (persist key address, inv)
  | .measure _, inv | .report _, inv => ((), inv)

theorem attempt_of_ok {ε α : Type} {f : Inventory → Except ε (α × Inventory)}
    {wrap : ε → OperatorError} {inv after : Inventory} {a : α} (h : f inv = .ok (a, after)) :
    inv.attempt f wrap = (.ok a, after) := by
  simp only [attempt, h]

theorem attempt_of_error {ε α : Type} {f : Inventory → Except ε (α × Inventory)}
    {wrap : ε → OperatorError} {inv : Inventory} {error : ε} (h : f inv = .error error) :
    inv.attempt f wrap = (.error (wrap error), inv) := by
  simp only [attempt, h]

/-- An attempt leaves the inventory as it is, or as the operation leaves it. -/
theorem attempt_cases {ε α : Type} (f : Inventory → Except ε (α × Inventory))
    (wrap : ε → OperatorError) (inv : Inventory) :
    (inv.attempt f wrap).2 = inv ∨ ∃ a, f inv = .ok (a, (inv.attempt f wrap).2) := by
  cases h : f inv with
  | error error =>
    rw [attempt_of_error h]
    exact .inl rfl
  | ok result =>
    rw [attempt_of_ok h]
    exact .inr ⟨result.1, rfl⟩

@[simp] theorem answer_range (persist : RecordKey → Ipv4 → Except OperatorError Unit)
    (name : String) (inv : Inventory) :
    inv.answer persist (.range name) = (inv.range? name, inv) := rfl

@[simp] theorem answer_floating (persist : RecordKey → Ipv4 → Except OperatorError Unit)
    (key : RecordKey) (inv : Inventory) :
    inv.answer persist (.floating key) = (inv.floating? key, inv) := rfl

theorem answer_createRange_cases (persist : RecordKey → Ipv4 → Except OperatorError Unit)
    (record : RangeRecord) (inv : Inventory) :
    (inv.answer persist (.createRange record)).2 = inv ∨ ∃ registration,
      inv.createRange record = .ok (registration, (inv.answer persist (.createRange record)).2) :=
  attempt_cases (·.createRange record) _ inv

theorem answer_deleteRange_cases (persist : RecordKey → Ipv4 → Except OperatorError Unit)
    (name : String) (inv : Inventory) :
    (inv.answer persist (.deleteRange name)).2 = inv ∨ ∃ removal,
      inv.deleteRange name = .ok (removal, (inv.answer persist (.deleteRange name)).2) :=
  attempt_cases (·.deleteRange name) _ inv

theorem answer_claim_cases (persist : RecordKey → Ipv4 → Except OperatorError Unit)
    (record : FloatingRecord) (inv : Inventory) :
    (inv.answer persist (.claim record)).2 = inv ∨ ∃ claim,
      inv.claim record = .ok (claim, (inv.answer persist (.claim record)).2) :=
  attempt_cases (·.claim record) _ inv

/-- Releasing takes the record out, if there is one. -/
theorem answer_release (persist : RecordKey → Ipv4 → Except OperatorError Unit) (key : RecordKey)
    (inv : Inventory) : (inv.answer persist (.release key)).2 = inv.rollback key := by
  cases found : inv.floating? key with
  | none => rw [answer, attempt_of_error (release_of_none found), rollback_of_none found]
  | some record => rw [answer, attempt_of_ok (release_of_some found)]

end Inventory

theorem Operator.onInventory_eq {ε α : Type} (f : Inventory → Except ε (α × Inventory))
    (wrap : ε → OperatorError) (op : Operator) :
    Operator.onInventory f wrap op =
      ((op.inventory.attempt f wrap).1,
        { op with inventory := (op.inventory.attempt f wrap).2 }) := by
  unfold Operator.onInventory Inventory.attempt
  cases f op.inventory <;> rfl

theorem Operator.finish_eq_play {α : Type}
    (persist : RecordKey → Ipv4 → Except OperatorError Unit) (d : Step α) (op : Operator) :
    op.finish persist d = d.play (fun c op => op.reply persist c) op := by
  induction d generalizing op with
  | done a => rfl
  | ask c next ih =>
    rw [play_ask, ← ih]
    rfl

/-- A question changes the inventory as the inventory says, and of the rest only what it names. -/
theorem Operator.reply_eq (persist : RecordKey → Ipv4 → Except OperatorError Unit) (c : Call)
    (op : Operator) :
    op.reply persist c =
      ((op.inventory.answer persist c).1,
        match c with
        | .measure update => op.measure update
        | .report notice => op.report notice
        | _ => { op with inventory := (op.inventory.answer persist c).2 }) := by
  cases c with
  | createRange record => exact onInventory_eq (·.createRange record) _ op
  | deleteRange name => exact onInventory_eq (·.deleteRange name) _ op
  | claim record => exact onInventory_eq (·.claim record) _ op
  | release key => exact onInventory_eq (·.release key) _ op
  | _ => rfl

theorem Operator.reply_fst (persist : RecordKey → Ipv4 → Except OperatorError Unit) (c : Call)
    (op : Operator) : (op.reply persist c).1 = (op.inventory.answer persist c).1 := by
  rw [reply_eq]

theorem Operator.reply_inventory (persist : RecordKey → Ipv4 → Except OperatorError Unit)
    (c : Call) (op : Operator) :
    (op.reply persist c).2.inventory = (op.inventory.answer persist c).2 := by
  rw [reply_eq]
  cases c <;> rfl

namespace Reconcile

/-- Reports are answered by nothing. -/
def reportKnown : (c : Call) → Option (Answer c)
  | .report _ => some ()
  | _ => none

/-- Reports and changes of the metrics are answered by nothing. -/
def measureKnown : (c : Call) → Option (Answer c)
  | .report _ | .measure _ => some ()
  | _ => none

/-- What a handler asks, its reports aside. -/
def unreported {α : Type} (d : Step α) : Step α := d.skip reportKnown

/-- What a handler asks of the inventory and of the cluster. -/
def unmeasured {α : Type} (d : Step α) : Step α := d.skip measureKnown

end Reconcile

theorem Inventory.views (persist : RecordKey → Ipv4 → Except OperatorError Unit) :
    Views (fun c op => op.reply persist c) (fun c inv => inv.answer persist c)
      Operator.inventory measureKnown where
  silent {c a} op h := by cases c <;> cases h <;> exact ⟨rfl, rfl⟩
  asked {c} op _ := ⟨op.reply_fst persist c, op.reply_inventory persist c⟩

/-- What an uninterrupted handler does to the inventory does not depend on anything else. -/
theorem Operator.finish_inventory {α : Type}
    (persist : RecordKey → Ipv4 → Except OperatorError Unit) (d : Step α) (op : Operator) :
    (unmeasured d).play (fun c inv => inv.answer persist c) op.inventory =
      ((op.finish persist d).1, (op.finish persist d).2.inventory) := by
  rw [op.finish_eq_play]
  exact (Inventory.views persist).play d op

namespace Reconcile

variable {α β : Type}

@[simp] theorem unreported_done (a : α) : unreported (.done a : Step α) = .done a := rfl

@[simp] theorem unreported_bind (d : Step α) (f : α → Step β) :
    unreported (d >>= f) = unreported d >>= fun a => unreported (f a) := skip_bind d f

theorem unreported_run_bind (h : Handler α) (f : α → Handler β) :
    unreported (h >>= f).run = unreported h.run >>= fun
      | .ok a => unreported (f a).run
      | .error error => .done (.error error) := by
  rw [ExceptT.run_bind, unreported_bind]
  congr 1
  funext result
  cases result <;> rfl

@[simp] theorem unreported_report (notice : Notice) :
    unreported (report notice).run = .done (.ok ()) := rfl

theorem unreported_reports (notices : List Notice) :
    unreported (notices.forM report).run = .done (.ok ()) := by
  induction notices with
  | nil => rfl
  | cons notice rest ih =>
    rw [List.forM_eq_forM, List.forM_cons, unreported_run_bind, unreported_report]
    exact ih

/-- A failure that is only reported makes no difference to what follows. -/
theorem unreported_reporting (notice : OperatorError → Notice) (h : Handler Unit) :
    unreported (reporting notice h).run =
      unreported h.run >>= fun _ => .done (.ok ()) := by
  have unfolded : (reporting notice h).run = h.run >>= fun
      | .ok _ => .done (.ok ())
      | .error error => (report (notice error)).run := by
    unfold reporting
    rw [ExceptT.run_tryCatch]
    congr 1
    funext result
    cases result <;> rfl
  rw [unfolded, unreported_bind]
  congr 1
  funext result
  cases result <;> rfl

theorem unreported_createRange (record : RangeRecord) :
    unreported (createRange record).run = .ask (.createRange record) fun
      | .error error => .done (.error error)
      | .ok r => .ask (.measure (.rangeUsage r.record r.capacity r.readopted)) fun _ =>
        .done (.ok ()) := by
  refine congrArg (Dialogue.ask _) (funext fun result => ?_)
  cases result with
  | error error => rfl
  | ok r =>
    change unreported ((r.notices.forM report : Handler _) >>= fun _ => measure _).run = _
    rw [unreported_run_bind, unreported_reports]
    rfl

theorem unreported_removeRange (name : String) :
    unreported (removeRange name).run = .ask (.deleteRange name) fun
      | .error error => .done (.error error)
      | .ok r => .ask (.measure (.rangeRemoved r.record)) fun _ => .done (.ok ()) := by
  refine congrArg (Dialogue.ask _) (funext fun result => ?_)
  cases result with
  | error error => rfl
  | ok r =>
    refine congrArg (Dialogue.ask _) (funext fun _ => ?_)
    change unreported (if 0 < r.orphaned then report _ else pure () : Handler Unit).run = _
    split <;> rfl

/-- Register the range of an object, which fails if the object is faulty. -/
def register (m : Manifest.Range) : Step (Except OperatorError Unit) :=
  match RangeRecord.ofManifest m with
  | .error error => .done (.error (.record error))
  | .ok record => unreported (createRange record).run

theorem unreported_applyRange (m : Manifest.Range) :
    unreported (applyRange m).run = .ask (.range m.metadata.anyName) fun
      | none => register m
      | some stored =>
        if (RangeRecord.ofManifest m).toOption = some stored then .done (.ok ())
        else unreported (removeRange stored.name).run >>= fun _ => register m := by
  refine congrArg (Dialogue.ask _) (funext fun found => ?_)
  cases found with
  | none =>
    unfold register
    cases RangeRecord.ofManifest m <;> rfl
  | some stored =>
    change unreported (do
      if ((RangeRecord.ofManifest m).mapError OperatorError.record).toOption = some stored then
        return
      reporting (.notReplaced .range m.metadata.anyName) (removeRange stored.name)
      createRange (← (RangeRecord.ofManifest m).mapError OperatorError.record) :
        Handler Unit).run = _
    have same : ((RangeRecord.ofManifest m).mapError OperatorError.record).toOption =
        (RangeRecord.ofManifest m).toOption := by cases RangeRecord.ofManifest m <;> rfl
    rw [same]
    split
    next unchanged => simp [unchanged]
    next changed =>
      rw [unreported_run_bind, unreported_reporting, bind_assoc]
      simp only [changed, if_false, done_bind]
      unfold register
      cases RangeRecord.ofManifest m <;> rfl

/-- Show that an address of a range is held. -/
def shown : Option RangeRecord → Step (Except OperatorError Unit)
  | none => .done (.ok ())
  | some range => .ask (.measure (.reservedUp range)) fun _ => .done (.ok ())

/-- Write a claimed address back, unless the object carries it, and go on with `last`. If it cannot
be written, the claim is undone. -/
def writingBack (record : FloatingRecord) (carried : Bool) (address : Ipv4)
    (last : Step (Except OperatorError Unit)) : Step (Except OperatorError Unit) :=
  if carried then last
  else .ask (.persist record.key address) fun
    | .error error => .ask (.rollback record.key) fun _ => .done (.error error)
    | .ok () => last

theorem unreported_createFloating (record : FloatingRecord) (carried : Bool) :
    unreported (createFloating record carried).run = .ask (.claim record) fun
      | .error error => .done (.error error)
      | .ok claim => writingBack record carried claim.address (shown claim.range) := by
  refine congrArg (Dialogue.ask _) (funext fun result => ?_)
  cases result with
  | error error => rfl
  | ok claim =>
    obtain ⟨stored, address, allocated, range⟩ := claim
    cases carried with
    | true => cases range <;> rfl
    | false =>
      refine congrArg (Dialogue.ask _) (funext fun result => ?_)
      cases result with
      | error error => rfl
      | ok _ => cases range <;> rfl

theorem unreported_releaseFloating (key : RecordKey) :
    unreported (releaseFloating key).run = .ask (.release key) fun
      | .error error => .done (.error error)
      | .ok r =>
        match r.range with
        | none => .done (.ok r.record)
        | some range =>
          if r.released then .ask (.measure (.reservedDown range)) fun _ => .done (.ok r.record)
          else .done (.ok r.record) := by
  refine congrArg (Dialogue.ask _) (funext fun result => ?_)
  cases result with
  | error error => rfl
  | ok r =>
    obtain ⟨record, released, range⟩ := r
    cases range with
    | none => rfl
    | some range => cases released <;> rfl

theorem unreported_deleteFloating (m : Manifest.Floating) :
    unreported (deleteFloating m).run = unreported (releaseFloating (lookupKey m)).run >>= fun
      | .error error => .done (.error error)
      | .ok record => .ask (.measure (.queueCleanup record.cluster)) fun _ => .done (.ok ()) := by
  unfold deleteFloating
  rw [unreported_run_bind]
  congr 1
  funext result
  cases result <;> rfl

theorem unreported_replaceFloating (stored : FloatingRecord) :
    unreported (replaceFloating stored).run =
      unreported (releaseFloating stored.key).run >>= fun _ => .done (.ok ()) := by
  have unfolded : (discard (releaseFloating stored.key) : Handler Unit).run =
      (releaseFloating stored.key).run >>= fun result =>
        .done (result.map fun _ => ()) := by
    change ((releaseFloating stored.key).run >>= _) = _
    congr 1
    funext result
    cases result <;> rfl
  unfold replaceFloating
  rw [unreported_reporting, unfolded, unreported_bind, bind_assoc]
  rfl

theorem unreported_applyFloating (m : Manifest.Floating) :
    unreported (applyFloating m).run = .ask (.floating (lookupKey m)) fun
      | none =>
        match FloatingRecord.ofManifest m with
        | .error error => .done (.error (.record error))
        | .ok incoming => unreported (createFloating incoming incoming.address.isSome).run
      | some stored =>
        match FloatingRecord.ofManifest m with
        | .error error =>
          unreported (releaseFloating stored.key).run >>= fun _ => .done (.error (.record error))
        | .ok incoming =>
          if keepingAddress incoming stored = stored then
            match stored.address with
            | none => .done (.ok ())
            | some address =>
              if incoming.address.isSome then .done (.ok ())
              else .ask (.persist stored.key address) .done
          else
            unreported (releaseFloating stored.key).run >>= fun _ =>
              unreported (createFloating (keepingAddress incoming stored)
                incoming.address.isSome).run := by
  refine congrArg (Dialogue.ask _) (funext fun found => ?_)
  cases found with
  | none => cases FloatingRecord.ofManifest m <;> rfl
  | some stored =>
    cases FloatingRecord.ofManifest m with
    | error error =>
      change unreported (replaceFloating stored >>= fun _ => throw _ : Handler Unit).run = _
      rw [unreported_run_bind, unreported_replaceFloating, bind_assoc]
      rfl
    | ok incoming =>
      change unreported (if keepingAddress incoming stored = stored then _ else
        replaceFloating stored >>= fun _ => createFloating _ _ : Handler Unit).run = _
      split
      next unchanged =>
        simp only [unchanged, if_true]
        cases stored.address with
        | none => rfl
        | some address => cases incoming.address.isSome <;> rfl
      next changed =>
        simp only [changed, if_false]
        rw [unreported_run_bind, unreported_replaceFloating, bind_assoc]
        rfl

theorem unreported_followRange (change : Watch.Change Manifest.Range) :
    unreported (Watch.followRange change) =
      (match change with
        | .apply m => unreported (applyRange m).run
        | .delete m => unreported (deleteRange m).run) >>= fun _ => .done () := by
  cases change with
  | _ m =>
    refine (unreported_bind _ _).trans (congrArg _ (funext fun result => ?_))
    cases result <;> rfl

theorem unreported_followFloating (change : Watch.Change Manifest.Floating) :
    unreported (Watch.followFloating change) =
      (match change with
        | .apply m => unreported (applyFloating m).run
        | .delete m => unreported (deleteFloating m).run) >>= fun _ => .done () := by
  cases change with
  | _ m =>
    refine (unreported_bind _ _).trans (congrArg _ (funext fun result => ?_))
    cases result <;> rfl

theorem unmeasured_eq (d : Step α) : unmeasured d = (unreported d).skip measureKnown := by
  induction d with
  | done a => rfl
  | ask c next ih =>
    cases c with
    | report notice => exact ih ()
    | measure update => exact ih ()
    | _ => exact congrArg (Dialogue.ask _) (funext ih)

theorem unmeasured_createRange (record : RangeRecord) :
    unmeasured (createRange record).run = .ask (.createRange record) fun result =>
      .done (result.map fun _ => ()) := by
  rw [unmeasured_eq, unreported_createRange]
  refine congrArg (Dialogue.ask _) (funext fun result => ?_)
  cases result <;> rfl

theorem unmeasured_removeRange (name : String) :
    unmeasured (removeRange name).run = .ask (.deleteRange name) fun result =>
      .done (result.map fun _ => ()) := by
  rw [unmeasured_eq, unreported_removeRange]
  refine congrArg (Dialogue.ask _) (funext fun result => ?_)
  cases result <;> rfl

/-- Have the range of an object registered, which fails if the object is faulty. -/
def asked (m : Manifest.Range) : Step (Except OperatorError Unit) :=
  match RangeRecord.ofManifest m with
  | .error error => .done (.error (.record error))
  | .ok record => .ask (.createRange record) fun result => .done (result.map fun _ => ())

theorem unmeasured_applyRange (m : Manifest.Range) :
    unmeasured (applyRange m).run = .ask (.range m.metadata.anyName) fun
      | none => asked m
      | some stored =>
        if (RangeRecord.ofManifest m).toOption = some stored then .done (.ok ())
        else .ask (.deleteRange stored.name) fun _ => asked m := by
  have registered : (register m).skip measureKnown = asked m := by
    unfold register asked
    cases RangeRecord.ofManifest m with
    | error error => rfl
    | ok record => exact (unmeasured_eq _).symm.trans (unmeasured_createRange record)
  rw [unmeasured_eq, unreported_applyRange]
  refine congrArg (Dialogue.ask _) (funext fun found => ?_)
  cases found with
  | none => exact registered
  | some stored =>
    dsimp only
    split
    · rfl
    · rw [skip_bind, ← unmeasured_eq, unmeasured_removeRange, registered]
      rfl

theorem unmeasured_createFloating (record : FloatingRecord) (carried : Bool) :
    unmeasured (createFloating record carried).run = .ask (.claim record) fun
      | .error error => .done (.error error)
      | .ok claim => writingBack record carried claim.address (.done (.ok ())) := by
  have silent : ∀ range, (shown range).skip measureKnown = .done (.ok ()) := by
    intro range
    cases range <;> rfl
  rw [unmeasured_eq, unreported_createFloating]
  refine congrArg (Dialogue.ask _) (funext fun result => ?_)
  cases result with
  | error error => rfl
  | ok claim =>
    cases carried with
    | true => exact silent _
    | false =>
      refine congrArg (Dialogue.ask _) (funext fun result => ?_)
      cases result with
      | error error => rfl
      | ok _ => exact silent _

theorem unmeasured_releaseFloating (key : RecordKey) :
    unmeasured (releaseFloating key).run = .ask (.release key) fun result =>
      .done (result.map (·.record)) := by
  rw [unmeasured_eq, unreported_releaseFloating]
  refine congrArg (Dialogue.ask _) (funext fun result => ?_)
  cases result with
  | error error => rfl
  | ok r =>
    obtain ⟨record, released, range⟩ := r
    cases range with
    | none => rfl
    | some range => cases released <;> rfl

theorem unmeasured_deleteFloating (m : Manifest.Floating) :
    unmeasured (deleteFloating m).run = .ask (.release (lookupKey m)) fun result =>
      .done (result.map fun _ => ()) := by
  rw [unmeasured_eq, unreported_deleteFloating, skip_bind, ← unmeasured_eq,
    unmeasured_releaseFloating]
  refine congrArg (Dialogue.ask _) (funext fun result => ?_)
  cases result <;> rfl

theorem unmeasured_applyFloating (m : Manifest.Floating) :
    unmeasured (applyFloating m).run = .ask (.floating (lookupKey m)) fun
      | none =>
        match FloatingRecord.ofManifest m with
        | .error error => .done (.error (.record error))
        | .ok incoming => unmeasured (createFloating incoming incoming.address.isSome).run
      | some stored =>
        match FloatingRecord.ofManifest m with
        | .error error => .ask (.release stored.key) fun _ => .done (.error (.record error))
        | .ok incoming =>
          if keepingAddress incoming stored = stored then
            match stored.address with
            | none => .done (.ok ())
            | some address =>
              if incoming.address.isSome then .done (.ok ())
              else .ask (.persist stored.key address) .done
          else
            .ask (.release stored.key) fun _ =>
              unmeasured (createFloating (keepingAddress incoming stored)
                incoming.address.isSome).run := by
  rw [unmeasured_eq, unreported_applyFloating]
  refine congrArg (Dialogue.ask _) (funext fun found => ?_)
  cases found with
  | none =>
    cases FloatingRecord.ofManifest m with
    | error error => rfl
    | ok incoming => exact (unmeasured_eq _).symm
  | some stored =>
    cases FloatingRecord.ofManifest m with
    | error error =>
      dsimp only
      rw [skip_bind, ← unmeasured_eq, unmeasured_releaseFloating]
      rfl
    | ok incoming =>
      dsimp only
      split
      · cases stored.address with
        | none => rfl
        | some address => cases incoming.address.isSome <;> rfl
      · rw [skip_bind, ← unmeasured_eq, ← unmeasured_eq, unmeasured_releaseFloating]
        rfl

theorem unmeasured_bind (d : Step α) (f : α → Step β) :
    unmeasured (d >>= f) = unmeasured d >>= fun a => unmeasured (f a) := skip_bind d f

theorem unmeasured_followRange (change : Watch.Change Manifest.Range) :
    unmeasured (Watch.followRange change) =
      (match change with
        | .apply m => unmeasured (applyRange m).run
        | .delete m => unmeasured (deleteRange m).run) >>= fun _ => .done () := by
  cases change with
  | _ m =>
    refine (unmeasured_bind _ _).trans (congrArg _ (funext fun result => ?_))
    cases result <;> rfl

theorem unmeasured_followFloating (change : Watch.Change Manifest.Floating) :
    unmeasured (Watch.followFloating change) =
      (match change with
        | .apply m => unmeasured (applyFloating m).run
        | .delete m => unmeasured (deleteFloating m).run) >>= fun _ => .done () := by
  cases change with
  | _ m =>
    refine (unmeasured_bind _ _).trans (congrArg _ (funext fun result => ?_))
    cases result <;> rfl

end Reconcile

theorem RangeRecord.ofManifest_ok {m : Manifest.Range} {record : RangeRecord}
    (h : RangeRecord.ofManifest m = .ok record) :
    record.name = m.metadata.anyName ∧ record.WellFormed := by
  unfold RangeRecord.ofManifest at h
  split at h
  · cases h
  next name named =>
    dsimp only at h
    split at h
    · cases h
    next span parsed =>
      cases h
      exact ⟨by simp [Metadata.anyName, named], parsed⟩

theorem FloatingRecord.correlation_eq_ok {metadata : Metadata} {key : RecordKey}
    {tag value : String} :
    correlation metadata key tag = .ok value ↔ metadata.annotated? tag = some value := by
  unfold correlation
  cases metadata.annotated? tag <;> simp

/-- An object is accepted if it says who it is, which cluster and range it belongs to, and carries
an address or none. -/
theorem FloatingRecord.ofManifest_eq_ok {m : Manifest.Floating} {record : FloatingRecord} :
    ofManifest m = .ok record ↔
      (m.metadata.ns = some record.key.ns ∧ m.metadata.name = some record.key.name) ∧
      m.metadata.annotated? Manifest.annotationKeys.cluster = some record.cluster ∧
      m.metadata.annotated? Manifest.annotationKeys.range = some record.range ∧
      carriedAddress record.key m.address = .ok record.address ∧
      ((m.metadata.annotated? Manifest.annotationKeys.refresh).bind Text.truth?).getD false =
        record.forceRefresh := by
  unfold ofManifest
  split
  next ns name spaced named =>
    rw [spaced, named]
    constructor
    · intro h
      dsimp only [bind, Except.bind] at h
      split at h
      · cases h
      next cluster clustered =>
        split at h
        · cases h
        next range ranged =>
          split at h
          · cases h
          next address carried =>
            cases h
            exact ⟨⟨rfl, rfl⟩, correlation_eq_ok.mp clustered, correlation_eq_ok.mp ranged,
              carried, rfl⟩
    · rintro ⟨⟨⟨⟩, ⟨⟩⟩, clustered, ranged, carried, refresh⟩
      simp only [correlation_eq_ok.mpr clustered, correlation_eq_ok.mpr ranged, carried, refresh,
        bind, Except.bind, pure, Except.pure]
  next absent =>
    refine iff_of_false (fun h => nomatch h) ?_
    rintro ⟨⟨spaced, named⟩, -⟩
    exact absent _ _ spaced named

theorem FloatingRecord.ofManifest_ok {m : Manifest.Floating} {record : FloatingRecord}
    (h : FloatingRecord.ofManifest m = .ok record) : record.key = lookupKey m := by
  obtain ⟨⟨spaced, named⟩, -⟩ := ofManifest_eq_ok.mp h
  simp [lookupKey, Metadata.nsText, Metadata.anyName, spaced, named]

@[simp] theorem Reconcile.keepingAddress_key (incoming stored : FloatingRecord) :
    (keepingAddress incoming stored).key = incoming.key := by
  unfold keepingAddress
  split <;> rfl

/-- An object that carries an address is taken as it is. -/
theorem Reconcile.keepingAddress_of_some {incoming stored : FloatingRecord} {address : Ipv4}
    (given : incoming.address = some address) : keepingAddress incoming stored = incoming :=
  if_neg (by simp [given])

end FloatingAddress
