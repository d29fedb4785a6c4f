import FloatingAddress.Proofs.Reconcile.Gauges
import FloatingAddress.Proofs.Reconcile.WriteBack
import FloatingAddress.Proofs.Sweep.Showing

/-!
# One thing after the other

The operator follows changes, sweeps and cleans up, each of these without interruption and in any
order. A run is a list of such deeds. Each kind of deed touches the records and the series of guest
clusters in its own way: a change of a range touches neither; an object of a floating address that
is there changes records only; one that is gone takes its record out and queues the guest cluster; a
sweep writes series of clusters that own a record; and a cleanup drops the series of those that are
queued.
-/

namespace FloatingAddress

open Dialogue Metrics

namespace Metrics

/-- Everything about guest clusters is as it was. -/
structure SameGuests (m after : Metrics) : Prop where
  status : after.status = m.status
  events : after.events = m.events
  providers : after.providers = m.providers
  queue : after.queue = m.queue
  sweeping : after.sweeping = m.sweeping

theorem SameGuests.refl (m : Metrics) : m.SameGuests m := ⟨rfl, rfl, rfl, rfl, rfl⟩

theorem SameGuests.trans {m m' m'' : Metrics} (first : m.SameGuests m')
    (second : m'.SameGuests m'') : m.SameGuests m'' :=
  ⟨second.status.trans first.status, second.events.trans first.events,
    second.providers.trans first.providers, second.queue.trans first.queue,
    second.sweeping.trans first.sweeping⟩

theorem SameGuests.shows_iff {m after : Metrics} (same : m.SameGuests after) {cluster : String} :
    after.Shows cluster ↔ m.Shows cluster := by
  rw [Shows, Shows, same.status, same.events]

end Metrics

namespace Reconcile

variable {α β : Type}

/-- A question that is not about guest clusters. -/
def Call.SparesGuests : Call → Prop
  | .measure (.guestStatus ..) | .measure (.guestEvent ..) | .measure (.queueCleanup _) => False
  | _ => True

/-- A handler that leaves the metrics of guest clusters alone. -/
def SparesGuests (d : Step α) : Prop := (unreported d).Only Call.SparesGuests

theorem SparesGuests.bind {d : Step α} {f : α → Step β} (spares : SparesGuests d)
    (rest : ∀ a, SparesGuests (f a)) : SparesGuests (d >>= f) := by
  rw [SparesGuests, unreported_bind]
  exact Only.bind spares rest

theorem sparesGuests_createRange (record : RangeRecord) :
    SparesGuests (createRange record).run := by
  rw [SparesGuests, unreported_createRange]
  refine ⟨trivial, fun result => ?_⟩
  cases result with
  | error error => trivial
  | ok r => exact ⟨trivial, fun _ => trivial⟩

theorem sparesGuests_removeRange (name : String) : SparesGuests (removeRange name).run := by
  rw [SparesGuests, unreported_removeRange]
  refine ⟨trivial, fun result => ?_⟩
  cases result with
  | error error => trivial
  | ok r => exact ⟨trivial, fun _ => trivial⟩

theorem sparesGuests_register (m : Manifest.Range) : (register m).Only Call.SparesGuests := by
  unfold register
  cases RangeRecord.ofManifest m with
  | error error => trivial
  | ok record => exact sparesGuests_createRange record

theorem sparesGuests_applyRange (m : Manifest.Range) : SparesGuests (applyRange m).run := by
  rw [SparesGuests, unreported_applyRange]
  refine ⟨trivial, fun found => ?_⟩
  cases found with
  | none => exact sparesGuests_register m
  | some stored =>
    dsimp only
    split
    · trivial
    · exact Only.bind (sparesGuests_removeRange stored.name) fun _ => sparesGuests_register m

theorem sparesGuests_followRange (change : Watch.Change Manifest.Range) :
    SparesGuests (Watch.followRange change) := by
  rw [SparesGuests, unreported_followRange]
  cases change with
  | apply m => exact Only.bind (sparesGuests_applyRange m) fun _ => trivial
  | delete m => exact Only.bind (sparesGuests_removeRange _) fun _ => trivial

theorem sparesGuests_createFloating (record : FloatingRecord) (carried : Bool) :
    SparesGuests (createFloating record carried).run := by
  rw [SparesGuests, unreported_createFloating]
  refine ⟨trivial, fun result => ?_⟩
  cases result with
  | error error => trivial
  | ok claim =>
    have last : (shown claim.range).Only Call.SparesGuests := by
      cases claim.range with
      | none => trivial
      | some range => exact ⟨trivial, fun _ => trivial⟩
    dsimp only
    unfold writingBack
    split
    · exact last
    · refine ⟨trivial, fun written => ?_⟩
      cases written with
      | error error => exact ⟨trivial, fun _ => trivial⟩
      | ok _ => exact last

theorem sparesGuests_releaseFloating (key : RecordKey) :
    SparesGuests (releaseFloating key).run := by
  rw [SparesGuests, unreported_releaseFloating]
  refine ⟨trivial, fun result => ?_⟩
  cases result with
  | error error => trivial
  | ok r =>
    dsimp only
    split
    · trivial
    · split
      · exact ⟨trivial, fun _ => trivial⟩
      · trivial

theorem sparesGuests_applyFloating (m : Manifest.Floating) :
    SparesGuests (applyFloating m).run := by
  rw [SparesGuests, unreported_applyFloating]
  refine ⟨trivial, fun found => ?_⟩
  cases found with
  | none =>
    cases FloatingRecord.ofManifest m with
    | error error => trivial
    | ok incoming => exact sparesGuests_createFloating incoming _
  | some stored =>
    cases FloatingRecord.ofManifest m with
    | error error => exact Only.bind (sparesGuests_releaseFloating _) fun _ => trivial
    | ok incoming =>
      dsimp only
      split
      · cases stored.address with
        | none => trivial
        | some address =>
          dsimp only
          split
          · trivial
          · exact ⟨trivial, fun _ => trivial⟩
      · exact Only.bind (sparesGuests_releaseFloating _) fun _ => sparesGuests_createFloating _ _

theorem sparesGuests_followApplied (m : Manifest.Floating) :
    SparesGuests (Watch.followFloating (.apply m)) := by
  rw [SparesGuests, unreported_followFloating]
  exact Only.bind (sparesGuests_applyFloating m) fun _ => trivial

theorem sparesGuests_mapM {f : α → Step β} (each : ∀ a, SparesGuests (f a)) (list : List α) :
    SparesGuests (list.mapM f) := by
  induction list with
  | nil => trivial
  | cons a rest ih =>
    rw [List.mapM_cons]
    exact (each a).bind fun b => ih.bind fun bs => trivial

theorem sparesGuests_seedOne {handler : Handler Unit} (spares : SparesGuests handler.run)
    (kind : WatchKind) (object : String) : SparesGuests (seedOne kind object handler) := by
  refine spares.bind fun result => ?_
  cases result <;> trivial

theorem sparesGuests_seed (ranges : List Manifest.Range) (floatings : List Manifest.Floating) :
    SparesGuests (seed ranges floatings) := by
  refine (sparesGuests_mapM (fun m => ?_) _).bind fun _ =>
    (sparesGuests_mapM (fun m => ?_) _).bind fun _ => trivial
  · exact sparesGuests_seedOne (sparesGuests_applyRange m) _ _
  · exact sparesGuests_seedOne (sparesGuests_applyFloating m) _ _

end Reconcile

namespace Operator

open Reconcile

variable {α : Type} {op : Operator} {d : Step α} {cluster : String}

theorem sameGuests_answer {c : Call} (spares : c.SparesGuests) (books : Books)
    (persist : RecordKey → Ipv4 → Except OperatorError Unit) :
    books.metrics.SameGuests (books.answer persist c).2.metrics := by
  cases c with
  | measure update =>
    cases update with
    | guestStatus _ _ _ | guestEvent _ _ _ _ | queueCleanup _ => exact absurd spares id
    | _ => exact ⟨rfl, rfl, rfl, rfl, rfl⟩
  | _ => exact .refl _

theorem sameGuests_finish (spares : SparesGuests d) (op : Operator)
    (persist : RecordKey → Ipv4 → Except OperatorError Unit) :
    op.metrics.SameGuests (op.finish persist d).2.metrics := by
  have kept : op.metrics.SameGuests (op.finish persist d).2.books.metrics := by
    have step : ∀ (c : Call) (books : Books), c.SparesGuests →
        op.metrics.SameGuests books.metrics →
        op.metrics.SameGuests (books.answer persist c).2.metrics :=
      fun c books spared same => same.trans (sameGuests_answer spared books persist)
    rw [finish_books]
    exact Only.play spares step (.refl op.metrics)
  exact kept

/-- An uninterrupted handler leaves every record filed under its identity. -/
theorem assigned_finish (assigned : op.inventory.Assigned) (d : Step α)
    (persist : RecordKey → Ipv4 → Except OperatorError Unit) :
    (op.finish persist d).2.inventory.Assigned := by
  have all : (unmeasured d).Only fun _ => True := only_of_forall (fun _ => trivial) _
  have step : ∀ (c : Call) (inv : Inventory), True → inv.Assigned →
      (inv.answer persist c).2.Assigned := fun c inv _ assigned => assigned.answer persist c
  have kept := all.play step assigned
  rwa [finish_inventory] at kept

theorem reached_finish (reached : op.metrics.Reached) (d : Step α)
    (persist : RecordKey → Ipv4 → Except OperatorError Unit) :
    (op.finish persist d).2.metrics.Reached := by
  have all : (unreported d).Only fun _ => True := only_of_forall (fun _ => trivial) _
  have step : ∀ (c : Call) (books : Books), True → books.metrics.Reached →
      (books.answer persist c).2.metrics.Reached := by
    intro c books _ reached
    cases c with
    | measure update => exact reached.apply update
    | _ => exact reached
  have kept : (op.finish persist d).2.books.metrics.Reached := by
    rw [finish_books]
    exact all.play step reached
  exact kept

theorem finish_gone (m : Manifest.Floating)
    (persist : RecordKey → Ipv4 → Except OperatorError Unit) :
    (op.finish persist (Watch.followFloating (.delete m))).2.books =
      ((unreported (deleteFloating m).run).play (fun c books => Books.answer persist c books)
        op.books).2 := by
  rw [finish_books, unreported_followFloating, play_bind, play_done]

theorem finish_gone_of_none (m : Manifest.Floating)
    (persist : RecordKey → Ipv4 → Except OperatorError Unit)
    (missing : op.inventory.floating? (lookupKey m) = none) :
    (op.finish persist (Watch.followFloating (.delete m))).2.books = op.books := by
  have answered : op.books.answer persist (.release (lookupKey m)) =
      (.error (.store (.floatingNotFound (lookupKey m))), op.books) := by
    simp only [Books.answer, Inventory.answer, Inventory.attempt]
    rw [Inventory.release_of_none (show op.books.inventory.floating? _ = none from missing)]
  rw [finish_gone, unreported_deleteFloating, play_bind, unreported_releaseFloating, play_ask,
    answered]
  rfl

/-- When an object is gone, its record is taken out, and its guest cluster is queued. -/
theorem finish_gone_of_some (m : Manifest.Floating)
    (persist : RecordKey → Ipv4 → Except OperatorError Unit) {record : FloatingRecord}
    (found : op.inventory.floating? (lookupKey m) = some record) :
    let after := (op.finish persist (Watch.followFloating (.delete m))).2
    after.inventory = op.inventory.rollback (lookupKey m) ∧
      (op.metrics.apply (.queueCleanup record.cluster)).SameGuests after.metrics := by
  have answered : op.books.answer persist (.release (lookupKey m)) =
      (.ok { record
             released :=
              (record.address.bind (op.inventory.allocator.owner record.range)).isSome
             range := op.inventory.range? record.range },
        { op.books with inventory := op.inventory.rollback (lookupKey m) }) := by
    simp only [Books.answer, Inventory.answer, Inventory.attempt]
    rw [Inventory.release_of_some (show op.books.inventory.floating? _ = some record from found)]
    rfl
  have books : (op.finish persist (Watch.followFloating (.delete m))).2.books.inventory =
        op.inventory.rollback (lookupKey m) ∧
      (op.metrics.apply (.queueCleanup record.cluster)).SameGuests
        (op.finish persist (Watch.followFloating (.delete m))).2.books.metrics := by
    rw [finish_gone, unreported_deleteFloating, play_bind, unreported_releaseFloating, play_ask,
      answered]
    cases op.inventory.range? record.range with
    | none => exact ⟨rfl, .refl _⟩
    | some range =>
      cases (record.address.bind (op.inventory.allocator.owner record.range)).isSome with
      | true => exact ⟨rfl, rfl, rfl, rfl, rfl, rfl⟩
      | false => exact ⟨rfl, .refl _⟩
  exact books

/-- What a question of the sweep does to the operator. -/
def heed (op : Operator) : Sweep.Call → Operator
  | .report notice => op.report notice
  | c => { op with metrics := c.change op.metrics }

/-- The operator after a sweep over its records, the questions being answered from a state. -/
def swept {σ : Type} (op : Operator) (answer : (c : Sweep.Call) → σ → Sweep.Answer c × σ) (s : σ) :
    Operator :=
  ((Sweep.sweep op.options op.inventory.store).transcript answer s).foldl
    (fun op x => op.heed x.1) op

/-- Something that the operator does without interruption. -/
inductive Deed : Type 1
  | range (change : Watch.Change Manifest.Range)
    (persist : RecordKey → Ipv4 → Except OperatorError Unit)
  | floating (change : Watch.Change Manifest.Floating)
    (persist : RecordKey → Ipv4 → Except OperatorError Unit)
  | sweep {σ : Type} (answer : (c : Sweep.Call) → σ → Sweep.Answer c × σ) (s : σ)
  | cleanup

def carryOut (op : Operator) : Deed → Operator
  | .range change persist => (op.finish persist (Watch.followRange change)).2
  | .floating change persist => (op.finish persist (Watch.followFloating change)).2
  | .sweep answer s => op.swept answer s
  | .cleanup => { op with metrics := op.metrics.cleaned }

def after (op : Operator) (deeds : List Deed) : Operator := deeds.foldl carryOut op

@[simp] theorem after_nil (op : Operator) : op.after [] = op := rfl

theorem after_append (op : Operator) (deeds more : List Deed) :
    op.after (deeds ++ more) = (op.after deeds).after more := List.foldl_append

theorem after_concat (op : Operator) (deeds : List Deed) (deed : Deed) :
    op.after (deeds ++ [deed]) = (op.after deeds).carryOut deed := op.after_append deeds [deed]

theorem foldl_heed (op : Operator) (talk : List Sweep.Exchange) :
    let heeded := talk.foldl (fun op x => op.heed x.1) op
    heeded.metrics = Sweep.metricsAfter op.metrics talk ∧ heeded.inventory = op.inventory := by
  induction talk generalizing op with
  | nil => exact ⟨rfl, rfl⟩
  | cons x talk ih =>
    obtain ⟨metrics, inventory⟩ := ih (op.heed x.1)
    have here : (op.heed x.1).metrics = x.1.change op.metrics ∧
        (op.heed x.1).inventory = op.inventory := by
      obtain ⟨c, answer⟩ := x
      cases c <;> exact ⟨rfl, rfl⟩
    exact ⟨metrics.trans (by rw [here.1]; rfl), inventory.trans here.2⟩

section Swept

variable {σ : Type} (op : Operator) (answer : (c : Sweep.Call) → σ → Sweep.Answer c × σ) (s : σ)

theorem metrics_swept : (op.swept answer s).metrics = Sweep.metricsAfter op.metrics
    ((Sweep.sweep op.options op.inventory.store).transcript answer s) := (op.foldl_heed _).1

theorem inventory_swept : (op.swept answer s).inventory = op.inventory := (op.foldl_heed _).2

end Swept

/-- A sweep at a site is a deed of its operator. -/
theorem operator_sweep (site : InMemory.Site) : (InMemory.Site.sweep.run site).2.operator =
    site.operator.carryOut (.sweep InMemory.Site.reply site) := by
  rw [InMemory.Site.run_sweep]
  refine (answered_transcript _ _ site).foldl (·.operator) Operator.heed fun c site => ?_
  cases c with
  | sweeping on => cases on <;> rfl
  | _ => rfl

/-- A cleanup at a site is a deed of its operator. -/
theorem operator_cleanup (site : InMemory.Site) :
    (InMemory.Site.cleanup.run site).2.operator = site.operator.carryOut .cleanup := rfl

/-- A guest cluster owns a stored floating address. -/
def Owns (op : Operator) (cluster : String) : Prop :=
  ∃ record ∈ op.inventory.store.floatings, record.cluster = cluster

theorem owns_iff : op.Owns cluster ↔
    ∃ key record, op.inventory.floating? key = some record ∧ record.cluster = cluster := by
  simp only [Owns, Store.mem_floatings]
  constructor
  · rintro ⟨record, ⟨key, stored⟩, own⟩
    exact ⟨key, record, stored, own⟩
  · rintro ⟨key, record, stored, own⟩
    exact ⟨record, ⟨key, stored⟩, own⟩

/-- A deed takes out the record of a floating address of a guest cluster because its object is
gone. -/
def Deletes (op : Operator) (cluster : String) : Deed → Prop
  | .floating (.delete m) _ =>
    ∃ record, op.inventory.floating? (lookupKey m) = some record ∧ record.cluster = cluster
  | _ => False

/-- What holds of the operator between two deeds. -/
structure Settled (op : Operator) : Prop where
  assigned : op.inventory.Assigned
  reached : op.metrics.Reached
  idle : op.metrics.sweeping = false

/-- An object that is gone takes its record out and queues the cluster, or it has no record and
nothing changes. -/
theorem carryOut_gone (op : Operator) (m : Manifest.Floating)
    (persist : RecordKey → Ipv4 → Except OperatorError Unit) :
    (op.inventory.floating? (lookupKey m) = none ∧
      (op.carryOut (.floating (.delete m) persist)).books = op.books) ∨
    ∃ record, op.inventory.floating? (lookupKey m) = some record ∧
      (op.carryOut (.floating (.delete m) persist)).inventory =
        op.inventory.rollback (lookupKey m) ∧
      (op.metrics.apply (.queueCleanup record.cluster)).SameGuests
        (op.carryOut (.floating (.delete m) persist)).metrics := by
  cases found : op.inventory.floating? (lookupKey m) with
  | none => exact .inl ⟨rfl, finish_gone_of_none m persist found⟩
  | some record => exact .inr ⟨record, rfl, finish_gone_of_some m persist found⟩

/-- A deed that follows a change of an object. -/
def Deed.Follows : Deed → Prop
  | .range .. | .floating .. => True
  | .sweep .. | .cleanup => False

/-- What a deed does to the metrics, as far as guest clusters are concerned. -/
inductive Leaves (op : Operator) : Deed → Metrics → Prop
  /-- No object is gone that has a record. -/
  | alone {deed : Deed} {later : Metrics} (follows : deed.Follows)
    (none : ∀ cluster, ¬op.Deletes cluster deed) (same : op.metrics.SameGuests later) :
    Leaves op deed later
  /-- The object of a record is gone, and its guest cluster is queued. -/
  | queued {deed : Deed} {later : Metrics} (cluster : String) (follows : deed.Follows)
    (only : ∀ other, op.Deletes other deed ↔ cluster = other)
    (same : (op.metrics.apply (.queueCleanup cluster)).SameGuests later) : Leaves op deed later
  | swept {σ : Type} (answer : (c : Sweep.Call) → σ → Sweep.Answer c × σ) (s : σ) :
    Leaves op (.sweep answer s) (Sweep.metricsAfter op.metrics
      ((Sweep.sweep op.options op.inventory.store).transcript answer s))
  | cleaned : Leaves op .cleanup op.metrics.cleaned

theorem leaves_carryOut (op : Operator) (deed : Deed) :
    op.Leaves deed (op.carryOut deed).metrics := by
  cases deed with
  | range change persist =>
    exact .alone trivial (fun _ => id)
      (sameGuests_finish (sparesGuests_followRange change) op persist)
  | floating change persist =>
    cases change with
    | apply m =>
      exact .alone trivial (fun _ => id)
        (sameGuests_finish (sparesGuests_followApplied m) op persist)
    | delete m =>
      obtain ⟨missing, same⟩ | ⟨record, found, -, same⟩ := op.carryOut_gone m persist
      · have metrics : (op.carryOut (.floating (.delete m) persist)).metrics = op.metrics :=
          congrArg Books.metrics same
        rw [metrics]
        exact .alone trivial (by simp [Deletes, missing]) (.refl _)
      · exact .queued record.cluster trivial (by simp [Deletes, found]) same
  | sweep answer s =>
    rw [carryOut, metrics_swept]
    exact .swept answer s
  | cleanup => exact .cleaned

theorem reached_metricsAfter {m : Metrics} (reached : m.Reached) (talk : List Sweep.Exchange) :
    (Sweep.metricsAfter m talk).Reached := by
  induction talk generalizing m with
  | nil => exact reached
  | cons x talk ih => exact ih (Sweep.reached_change reached x.1)

theorem Leaves.idle {deed : Deed} {later : Metrics} (leaves : op.Leaves deed later)
    (idle : op.metrics.sweeping = false) : later.sweeping = false := by
  cases leaves with
  | alone _ _ same => exact same.sweeping.trans idle
  | queued _ _ _ same => exact same.sweeping.trans idle
  | swept answer s => exact Sweep.sweeping_metricsAfter_sweep ..
  | cleaned => exact (cleans idle).sweeping

theorem Settled.carryOut (settled : op.Settled) (deed : Deed) : (op.carryOut deed).Settled := by
  refine ⟨?_, ?_, (op.leaves_carryOut deed).idle settled.idle⟩
  · cases deed with
    | range _ persist | floating _ persist => exact assigned_finish settled.assigned _ persist
    | sweep answer s => exact (op.inventory_swept answer s).symm ▸ settled.assigned
    | cleanup => exact settled.assigned
  · cases deed with
    | range _ persist | floating _ persist => exact reached_finish settled.reached _ persist
    | sweep answer s =>
      exact (op.metrics_swept answer s).symm ▸ reached_metricsAfter settled.reached _
    | cleanup => exact settled.reached.cleaned

theorem Settled.after (settled : op.Settled) (deeds : List Deed) : (op.after deeds).Settled := by
  induction deeds generalizing op with
  | nil => exact settled
  | cons deed deeds ih => exact ih (settled.carryOut deed)

theorem queue_metricsAfter {m : Metrics} {talk : List Sweep.Exchange}
    (written : ∀ x ∈ talk, ∀ update, x.1.update? = some update →
      ∃ cluster provider, Sweep.IsAbout cluster provider update) :
    (Sweep.metricsAfter m talk).queue = m.queue := by
  induction talk generalizing m with
  | nil => rfl
  | cons x talk ih =>
    have here : (x.1.change m).queue = m.queue := by
      obtain ⟨c, answer⟩ := x
      cases c with
      | measure update =>
        obtain ⟨cluster, provider, about⟩ := written _ List.mem_cons_self update rfl
        cases update <;> first | exact absurd about id | rfl
      | sweeping on => cases on <;> rfl
      | _ => rfl
    exact (ih fun y member => written y (List.mem_cons_of_mem x member)).trans here

/-- Nothing is queued but the guest cluster of a floating address the object of which is gone. -/
theorem queue_carryOut (op : Operator) (deed : Deed) (lasting : deed ≠ .cleanup)
    (cluster : String) : cluster ∈ (op.carryOut deed).metrics.queue ↔
      cluster ∈ op.metrics.queue ∨ op.Deletes cluster deed := by
  have leaves := op.leaves_carryOut deed
  generalize (op.carryOut deed).metrics = later at leaves
  cases leaves with
  | alone _ none same => simp only [same.queue, none, or_false]
  | queued _ _ only same =>
    rw [same.queue, only]
    simp [Metrics.apply, or_comm, Std.ExtTreeSet.mem_insert]
  | swept answer s =>
    rw [queue_metricsAfter fun x member update written => ?_]
    · simp [Deletes]
    · obtain ⟨record, -, provider, about⟩ := Sweep.about_of_mem_sweep member written
      exact ⟨_, provider, about⟩
  | cleaned => exact absurd rfl lasting

theorem shows_metricsAfter {m : Metrics} {talk : List Sweep.Exchange}
    (present : (Sweep.metricsAfter m talk).Shows cluster) :
    m.Shows cluster ∨ ∃ x ∈ talk, ∃ update, x.1.update? = some update ∧
      update.guest? = some cluster := by
  induction talk generalizing m with
  | nil => exact .inl present
  | cons x talk ih =>
    obtain earlier | ⟨y, member, written⟩ := ih present
    · obtain ⟨c, answer⟩ := x
      cases c with
      | measure update =>
        obtain shown | here := shows_apply earlier
        · exact .inl shown
        · exact .inr ⟨_, List.mem_cons_self, update, rfl, here⟩
      | sweeping on => cases on <;> exact .inl earlier
      | _ => exact .inl earlier
    · exact .inr ⟨y, List.mem_cons_of_mem x member, written⟩

theorem guest?_of_isAbout {provider : String} {update : Metrics.Update}
    (about : Sweep.IsAbout cluster provider update) : update.guest? = some cluster := by
  cases update <;> first | exact congrArg some about.1 | exact absurd about id

/-- A guest cluster that is shown was shown before, or it has just been visited. It is not queued
before a cleanup. -/
theorem Settled.shows_carryOut (settled : op.Settled) {deed : Deed}
    (present : (op.carryOut deed).metrics.Shows cluster) :
    op.metrics.Shows cluster ∧ (deed = .cleanup → cluster ∉ op.metrics.queue) ∨
      op.Owns cluster ∧ deed ≠ .cleanup := by
  have leaves := op.leaves_carryOut deed
  generalize (op.carryOut deed).metrics = later at leaves present
  cases leaves with
  | alone follows _ same | queued _ follows _ same =>
    refine .inl ⟨same.shows_iff.mp present, ?_⟩
    rintro rfl
    exact follows.elim
  | swept answer s =>
    obtain shown | ⟨x, member, update, written, here⟩ := shows_metricsAfter present
    · exact .inl ⟨shown, nofun⟩
    · obtain ⟨record, stored, provider, about⟩ := Sweep.about_of_mem_sweep member written
      rw [guest?_of_isAbout about, Option.some.injEq] at here
      exact .inr ⟨⟨record, stored, here⟩, nofun⟩
  | cleaned =>
    obtain ⟨shown, unqueued⟩ := settled.reached.tracked.shows_cleans (cleans settled.idle) present
    exact .inl ⟨shown, fun _ => unqueued⟩

/-- Following a range leaves the records of floating addresses alone. -/
theorem floating?_followRange (op : Operator) (change : Watch.Change Manifest.Range)
    (persist : RecordKey → Ipv4 → Except OperatorError Unit) (key : RecordKey) :
    (op.finish persist (Watch.followRange change)).2.inventory.floating? key =
      op.inventory.floating? key := by
  have step : ∀ (c : Call) (inv : Inventory), Tasks.LeavesRecords c inv →
      inv.floating? key = op.inventory.floating? key →
      (inv.answer persist c).2.floating? key = op.inventory.floating? key :=
    fun c inv leaves same => (leaves.answer persist key).trans same
  obtain ⟨-, same⟩ := (Tasks.keepsRecords_follow change op.inventory).play
    (fun _ _ => trivial) step rfl
  rwa [finish_inventory] at same

/-- A guest cluster goes on owning floating addresses, unless an object of one is gone or has
changed. -/
theorem owns_carryOut (owns : op.Owns cluster) (deed : Deed) :
    (op.carryOut deed).Owns cluster ∨ op.Deletes cluster deed ∨
      ∃ m persist, deed = .floating (.apply m) persist := by
  obtain ⟨key, record, stored, own⟩ := owns_iff.mp owns
  cases deed with
  | range change persist =>
    exact .inl (owns_iff.mpr
      ⟨key, record, (floating?_followRange op change persist key).trans stored, own⟩)
  | floating change persist =>
    cases change with
    | apply m => exact .inr (.inr ⟨m, persist, rfl⟩)
    | delete m =>
      obtain ⟨-, same⟩ | ⟨gone, found, same, -⟩ := op.carryOut_gone m persist
      · have inventory := congrArg (·.inventory) same
        refine .inl (owns_iff.mpr ⟨key, record, ?_, own⟩)
        rwa [show (op.carryOut _).inventory = op.inventory from inventory]
      · by_cases here : lookupKey m = key
        · subst here
          exact .inr (.inl ⟨record, stored, own⟩)
        · refine .inl (owns_iff.mpr ⟨key, record, ?_, own⟩)
          rw [same, Inventory.floating?_rollback, if_neg here, stored]
  | sweep answer s =>
    left
    rw [Owns, carryOut, inventory_swept]
    exact owns
  | cleanup => exact .inl owns

/-- Nothing is shown of guest clusters yet, and none is queued. -/
structure Fresh (op : Operator) : Prop extends Settled op where
  shown : ∀ cluster, ¬op.metrics.Shows cluster
  queue : op.metrics.queue = ∅

theorem fresh_of_empty (empty : op.inventory = .empty) (silent : op.metrics = .empty) :
    op.Fresh := by
  refine ⟨⟨?_, ?_, ?_⟩, ?_, ?_⟩
  · rw [empty]
    exact Inventory.Sound.empty.assigned
  · rw [silent]
    exact .start
  · rw [silent]
    rfl
  · rw [silent]
    rintro cluster (shown | shown)
    all_goals
      obtain ⟨key, labels, here, -⟩ := Family.shows_iff.mp shown
      cases here
  · rw [silent]
    rfl

/-- Accepting the objects that are there at the start shows nothing of guest clusters. -/
theorem Fresh.seed (fresh : op.Fresh) (ranges : List Manifest.Range)
    (floatings : List Manifest.Floating)
    (persist : RecordKey → Ipv4 → Except OperatorError Unit) :
    (op.finish persist (Reconcile.seed ranges floatings)).2.Fresh := by
  have same := sameGuests_finish (sparesGuests_seed ranges floatings) op persist
  exact ⟨⟨assigned_finish fresh.assigned _ persist, reached_finish fresh.reached _ persist,
      same.sweeping.trans fresh.idle⟩,
    fun cluster present => fresh.shown cluster (same.shows_iff.mp present),
    same.queue.trans fresh.queue⟩

end Operator

namespace Sample

/-- Guest clusters are looked up with these results, and whatever is asked about them or of them
succeeds, as far as nothing has to be written. -/
def finding (found : String → Except GuestError (Option GuestCluster)) :
    (c : Sweep.Call) → Unit → Sweep.Answer c × Unit
  | .getCluster name, s => (found name, s)
  | .providerName _, s => (.ok (some "hv-1"), s)
  | .getKubeconfig cluster, s => (.ok { cluster, yaml := "" }, s)
  | .probe _, s => (.ok (), s)
  | .getConfigMap .., s => (.ok (some {}), s)
  | .createConfigMap .., s | .replaceConfigMap .., s | .install .., s => (.error (.io "closed"), s)
  | .releaseExists .., s => (.ok true, s)
  | .holdings _, s => ((0, []), s)
  | .sweeping _, s | .measure _, s | .report _, s => ((), s)

/-- Guest clusters cannot be looked up. -/
def offline : Operator.Deed := .sweep (finding fun _ => .error (.io "closed")) ()

/-- Guest clusters are found and answer the probe. -/
def online : Operator.Deed :=
  .sweep (finding fun name => .ok (some { name, ns := some "web" })) ()

end Sample

end FloatingAddress
