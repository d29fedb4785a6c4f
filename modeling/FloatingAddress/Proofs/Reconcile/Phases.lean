import FloatingAddress.Proofs.Reconcile.Books
import FloatingAddress.Proofs.Reconcile.Replacement

/-!
# Phases of a floating address

A claim or a release changes the inventory at once, and the gauge of the range follows with a
later question. In between it is off by one. `Counting` says in which phase a handler is, and what
it may ask there. Each question leads to a phase again, so in the end every gauge is off by as much
as it was in the beginning.
-/

namespace FloatingAddress

open Dialogue Metrics Reconcile Tasks

/-- What a handler still has to do to the gauges. -/
inductive Phase
  | even
  /-- An address of the range was given back, and its gauge is to be lowered. -/
  | lowering (range : RangeRecord)
  /-- An address of the range was claimed. Its gauge is to be raised, or the claim undone. -/
  | owing (range : RangeRecord)

variable {α : Type} {key : RecordKey} {books : Books} {offset : String → Int}
  {persist : RecordKey → Ipv4 → Except OperatorError Unit}

/-- The dialogue is in this phase of a floating address. -/
inductive Counting (key : RecordKey) : Phase → Step α → Prop
  | done (a : α) : Counting key .even (.done a)
  | floating (next : Option FloatingRecord → Step α)
    (rest : ∀ found, (∀ stored, found = some stored → stored.key = key) →
      Counting key .even (next found)) :
    Counting key .even (.ask (.floating key) next)
  | persist (phase : Phase) (free : ∀ range, phase ≠ .lowering range) (key' : RecordKey)
    (address : Ipv4) (next : Except OperatorError Unit → Step α)
    (rest : ∀ result, Counting key phase (next result)) :
    Counting key phase (.ask (.persist key' address) next)
  | cleanup (cluster : String) (next : Unit → Step α) (rest : Counting key .even (next ())) :
    Counting key .even (.ask (.measure (.queueCleanup cluster)) next)
  | release (next : Except OperatorError Inventory.Release → Step α)
    (missing : ∀ error, Counting key .even (next (.error error)))
    (unheld : ∀ release, release.released = false → Counting key .even (next (.ok release)))
    (held : ∀ release range, release.released = true → release.range = some range →
      Counting key (.lowering range) (next (.ok release))) :
    Counting key .even (.ask (.release key) next)
  | lower (range : RangeRecord) (next : Unit → Step α) (rest : Counting key .even (next ())) :
    Counting key (.lowering range) (.ask (.measure (.reservedDown range)) next)
  | claim (record : FloatingRecord) (own : record.key = key)
    (next : Except OperatorError Inventory.Claim → Step α)
    (refused : ∀ error, Counting key .even (next (.error error)))
    (granted : ∀ claim range, claim.range = some range →
      Counting key (.owing range) (next (.ok claim))) :
    Counting key .even (.ask (.claim record) next)
  | raise (range : RangeRecord) (a : α) :
    Counting key (.owing range) (.ask (.measure (.reservedUp range)) fun _ => .done a)
  | undo (range : RangeRecord) (a : α) :
    Counting key (.owing range) (.ask (.rollback key) fun _ => .done a)

namespace Counting

/-- It does not matter what the dialogue came to if nobody asks. -/
theorem forget {phase : Phase} {d : Step α} (counting : Counting key phase d) {β : Type} (b : β) :
    Counting key phase (d >>= fun _ => .done b) := by
  induction counting with
  | done a => exact .done b
  | floating next _ ih => exact .floating _ ih
  | persist phase free key' address next _ ih => exact .persist phase free key' address _ ih
  | cleanup cluster next _ ih => exact .cleanup cluster _ ih
  | release next _ _ _ ihMissing ihUnheld ihHeld => exact .release _ ihMissing ihUnheld ihHeld
  | lower range next _ ih => exact .lower range _ ih
  | claim record own next _ _ ihRefused ihGranted => exact .claim record own _ ihRefused ihGranted
  | raise range a => exact .raise range b
  | undo range a => exact .undo range b

theorem releaseFloating {f : Except OperatorError FloatingRecord → Step α}
    (rest : ∀ result, Counting key .even (f result)) :
    Counting key .even (unreported (releaseFloating key).run >>= f) := by
  rw [unreported_releaseFloating]
  refine .release _ (fun error => rest _) ?_ ?_
  · rintro ⟨record, released, range⟩ rfl
    cases range <;> exact rest _
  · rintro ⟨record, released, _⟩ range rfl rfl
    exact .lower _ _ (rest _)

theorem createFloating {record : FloatingRecord} (own : record.key = key) (carried : Bool) :
    Counting key .even (unreported (createFloating record carried).run) := by
  rw [unreported_createFloating]
  refine .claim record own _ (fun error => .done _) ?_
  rintro ⟨stored, address, allocated, _⟩ range rfl
  cases carried with
  | true => exact .raise range _
  | false =>
    refine .persist _ (by simp) _ _ _ fun result => ?_
    cases result with
    | error error =>
      subst own
      exact .undo range _
    | ok _ => exact .raise range _

theorem applyFloating (m : Manifest.Floating) :
    Counting (lookupKey m) .even (unreported (applyFloating m).run) := by
  rw [unreported_applyFloating]
  refine .floating _ fun found filed => ?_
  cases found with
  | none =>
    cases accepted : FloatingRecord.ofManifest m with
    | error error => exact .done _
    | ok incoming => exact createFloating (FloatingRecord.ofManifest_ok accepted) _
  | some stored =>
    have own := filed stored rfl
    cases accepted : FloatingRecord.ofManifest m with
    | error error =>
      dsimp only
      rw [own]
      exact releaseFloating fun _ => .done _
    | ok incoming =>
      dsimp only
      split
      · cases stored.address with
        | none => exact .done _
        | some address =>
          cases incoming.address.isSome with
          | true => exact .done _
          | false => exact .persist _ (by simp) _ _ _ fun _ => .done _
      · rw [own]
        refine releaseFloating fun _ => createFloating ?_ _
        rw [keepingAddress_key, FloatingRecord.ofManifest_ok accepted]

theorem deleteFloating (m : Manifest.Floating) :
    Counting (lookupKey m) .even (unreported (deleteFloating m).run) := by
  rw [unreported_deleteFloating]
  refine releaseFloating fun result => ?_
  cases result with
  | error error => exact .done _
  | ok record => exact .cleanup _ _ (.done _)

theorem followFloating (change : Watch.Change Manifest.Floating) :
    Counting change.key .even (unreported (Watch.followFloating change)) := by
  rw [unreported_followFloating]
  cases change with
  | apply m => exact (applyFloating m).forget ()
  | delete m => exact (deleteFloating m).forget ()

end Counting

namespace Books

theorem Stale.recount {after : Inventory} (stale : books.Stale)
    (ranges : ∀ n, after.range? n = books.inventory.range? n) :
    Stale { books with inventory := after } := by
  obtain ⟨key, labels, shown, hidden⟩ := stale
  exact ⟨key, labels, shown, fun shows => hidden ((shows_congr ranges key labels).mp shows)⟩

theorem Accurate.raise (accurate : books.Accurate offset) (sound : books.inventory.Sound)
    {range : RangeRecord} (stored : books.inventory.range? range.name = some range) :
    Accurate (offset + Pi.single range.name 1)
      { books with metrics := books.metrics.apply (.reservedUp range) } :=
  accurate.adjust sound stored rfl fun n => (Int64.ofInt_add n 1).symm

theorem Accurate.lower (accurate : books.Accurate offset) (sound : books.inventory.Sound)
    {range : RangeRecord} (stored : books.inventory.range? range.name = some range) :
    Accurate (offset + Pi.single range.name (-1))
      { books with metrics := books.metrics.apply (.reservedDown range) } :=
  accurate.adjust sound stored rfl fun n => by
    rw [Int64.ofInt_add, Int64.sub_eq_add_neg]
    rfl

/-- A claimed address is held, and the gauge shows one less than that. -/
theorem Accurate.claim (accurate : books.Accurate offset) (sound : books.inventory.Sound)
    {record : FloatingRecord} {claim : Inventory.Claim} {after : Inventory}
    (plain : record.key.Plain) (missing : books.inventory.floating? record.key = none)
    (granted : books.inventory.claim record = .ok (claim, after)) :
    Accurate (offset + Pi.single record.range (-1)) { books with inventory := after } := by
  obtain ⟨-, -, -, ranges, -⟩ := Inventory.claim_ok granted
  refine accurate.recount ranges fun n => ?_
  rw [sound.heldCount_claim plain missing granted]
  by_cases same : n = record.range
  · subst same
    simp
    omega
  · simp [same, Ne.symm same]

/-- What was off in one direction and in the other is right again. -/
theorem Accurate.settle {name : String} {k k' : Int}
    (accurate : books.Accurate (offset + Pi.single name k + Pi.single name k'))
    (balanced : k + k' = 0) : books.Accurate offset := by
  rwa [add_assoc, ← Pi.single_add, balanced, Pi.single_zero, add_zero] at accurate

variable {record : FloatingRecord}

/-- An address that was given back is not held any more, and the gauge shows one more than that. -/
theorem Accurate.rollback (accurate : books.Accurate offset)
    (found : books.inventory.floating? key = some record)
    (held : (record.address.bind (books.inventory.allocator.owner record.range)).isSome) :
    Accurate (offset + Pi.single record.range 1)
      { books with inventory := books.inventory.rollback key } := by
  refine accurate.recount (fun n => Inventory.range?_rollback n) fun n => ?_
  rw [Inventory.heldCount_rollback found n]
  by_cases same : n = record.range
  · subst same
    simp [held]
    omega
  · simp [same, Ne.symm same]

/-- If nobody holds the address of a record, nothing needs to be counted when it is taken out. -/
theorem Accurate.rollback_unheld (accurate : books.Accurate offset)
    (found : books.inventory.floating? key = some record)
    (unheld : ¬(record.address.bind (books.inventory.allocator.owner record.range)).isSome) :
    Accurate offset { books with inventory := books.inventory.rollback key } := by
  refine accurate.recount (fun n => Inventory.range?_rollback n) fun n => ?_
  rw [Inventory.heldCount_rollback found n, if_neg]
  · rfl
  · rintro ⟨rfl, held⟩
    exact unheld held

end Books

/-- The state of the books in a phase. -/
def Phase.Holds (key : RecordKey) (offset : String → Int) (books : Books) : Phase → Prop
  | .even => books.Accurate offset
  | .lowering range => books.inventory.range? range.name = some range ∧
    books.inventory.floating? key = none ∧ books.Accurate (offset + Pi.single range.name 1)
  | .owing range => books.inventory.range? range.name = some range ∧
    (∃ record address, books.inventory.floating? key = some record ∧ record.range = range.name ∧
      record.address = some address ∧ range.span.contains address) ∧
    books.Accurate (offset + Pi.single range.name (-1))

/-- From one phase to the next the books change as the phases say, and a stale series stays. -/
def Phase.Leads (key : RecordKey) (books after : Books) (phase phase' : Phase) : Prop :=
  (∀ offset, phase.Holds key offset books → phase'.Holds key offset after) ∧
    (books.Stale → after.Stale)

namespace Counting

theorem release_leads (sound : books.inventory.Sound)
    {next : Except OperatorError Inventory.Release → Step α}
    (missing : ∀ error, Counting key .even (next (.error error)))
    (unheld : ∀ release, release.released = false → Counting key .even (next (.ok release)))
    (held : ∀ release range, release.released = true → release.range = some range →
      Counting key (.lowering range) (next (.ok release))) :
    ∃ phase, Counting key phase (next (books.answer persist (.release key)).1) ∧
      Phase.Leads key books (books.answer persist (.release key)).2 .even phase := by
  cases found : books.inventory.floating? key with
  | none =>
    have answered : books.answer persist (.release key) =
        (.error (.store (.floatingNotFound key)), books) := by
      simp only [Books.answer, Inventory.answer, Inventory.attempt,
        Inventory.release_of_none found]
    rw [answered]
    exact ⟨.even, missing _, fun _ holds => holds, id⟩
  | some record =>
    have answered : books.answer persist (.release key) =
        (.ok { record
               released :=
                (record.address.bind (books.inventory.allocator.owner record.range)).isSome
               range := books.inventory.range? record.range },
          { books with inventory := books.inventory.rollback key }) := by
      simp only [Books.answer, Inventory.answer, Inventory.attempt,
        Inventory.release_of_some found]
    have stays : books.Stale →
        Books.Stale { books with inventory := books.inventory.rollback key } :=
      fun stale => stale.recount fun n => Inventory.range?_rollback n
    rw [answered]
    by_cases holds : (record.address.bind (books.inventory.allocator.owner record.range)).isSome
    · obtain ⟨range, stored⟩ := sound.range?_of_isHeld holds
      have named := (sound.range _ _ stored).1
      refine ⟨.lowering range, held _ range holds stored, fun offset accurate => ?_, stays⟩
      refine ⟨?_, ?_, ?_⟩
      · rw [Inventory.range?_rollback, named, stored]
      · rw [Inventory.floating?_rollback, if_pos rfl]
      · rw [named]
        exact accurate.rollback found holds
    · refine ⟨.even, unheld _ (by simpa using holds), fun offset accurate => ?_, stays⟩
      exact accurate.rollback_unheld found holds

theorem claim_leads (sound : books.inventory.Sound) {record : FloatingRecord}
    (own : record.key = key) (plain : key.Plain) (free : books.inventory.floating? key = none)
    {next : Except OperatorError Inventory.Claim → Step α}
    (refused : ∀ error, Counting key .even (next (.error error)))
    (granted : ∀ claim range, claim.range = some range →
      Counting key (.owing range) (next (.ok claim))) :
    ∃ phase, Counting key phase (next (books.answer persist (.claim record)).1) ∧
      Phase.Leads key books (books.answer persist (.claim record)).2 .even phase := by
  subst own
  cases h : books.inventory.claim record with
  | error error =>
    rw [Books.answer_claim_of_error h]
    exact ⟨.even, refused _, fun _ holds => holds, id⟩
  | ok result =>
    obtain ⟨claim, after⟩ := result
    rw [Books.answer_claim_of_ok h]
    obtain ⟨range, stored, usable, -⟩ := sound.claim_fresh plain free h
    obtain ⟨-, -, drawn, ranges, floatings⟩ := Inventory.claim_ok h
    have named := (sound.range _ _ stored).1
    refine ⟨.owing range, granted _ range (drawn.trans stored), fun offset accurate => ?_,
      fun stale => stale.recount ranges⟩
    refine ⟨?_, ⟨{ record with address := some claim.address }, claim.address, ?_, named.symm, rfl,
      usable⟩, ?_⟩
    · rw [named]
      exact (ranges _).trans stored
    · exact (floatings _).trans (if_pos rfl)
    · rw [named]
      exact accurate.claim sound plain free h

/-- If the claim is undone, the gauge is right without having been raised. -/
theorem undo_leads (sound : books.inventory.Sound) (range : RangeRecord) :
    Phase.Leads key books (books.answer persist (.rollback key)).2 (.owing range) .even := by
  constructor
  · rintro offset ⟨stored, ⟨record, address, found, drawn, carried, usable⟩, accurate⟩
    have held := (sound.isHeld_iff found (drawn ▸ stored) carried).mpr usable
    have back := accurate.rollback found held
    rw [drawn] at back
    exact back.settle (by decide)
  · exact fun stale => stale.recount fun n => Inventory.range?_rollback n

/-- Every question leads to the next phase. -/
theorem ask {phase : Phase} {c : Call} {next : Answer c → Step α}
    (counting : Counting key phase (.ask c next)) (sound : books.inventory.Sound)
    (allowed : FloatingMay (fun _ => True) c books.inventory) :
    ∃ phase', Counting key phase' (next (books.answer persist c).1) ∧
      Phase.Leads key books (books.answer persist c).2 phase phase' := by
  cases counting with
  | floating next rest =>
    have filed : ∀ stored, books.inventory.floating? key = some stored → stored.key = key :=
      fun stored found => (sound.floating _ _ found).1
    exact ⟨.even, rest _ filed, fun _ holds => holds, id⟩
  | persist phase free key' address next rest => exact ⟨phase, rest _, fun _ holds => holds, id⟩
  | cleanup cluster next rest =>
    refine ⟨.even, rest, fun offset accurate => ?_, id⟩
    exact ⟨accurate.capacity, accurate.reserved, accurate.size, accurate.held⟩
  | release next missing unheld held => exact release_leads sound missing unheld held
  | lower range next rest =>
    refine ⟨.even, rest, ?_, fun stale => stale.update⟩
    rintro offset ⟨stored, -, accurate⟩
    exact (accurate.lower sound stored).settle (by decide)
  | claim record own next refused granted =>
    subst own
    exact claim_leads sound rfl allowed.1 allowed.2.1 refused granted
  | raise range a =>
    refine ⟨.even, .done a, ?_, fun stale => stale.update⟩
    rintro offset ⟨stored, -, accurate⟩
    exact (accurate.raise sound stored).settle (by decide)
  | undo range a => exact ⟨.even, .done a, undo_leads sound range⟩

end Counting

theorem Phase.Leads.trans {books' books'' : Books} {phase phase' phase'' : Phase}
    (first : Phase.Leads key books books' phase phase')
    (second : Phase.Leads key books' books'' phase' phase'') :
    Phase.Leads key books books'' phase phase'' :=
  ⟨fun offset holds => second.1 offset (first.1 offset holds),
    fun stale => second.2 (first.2 stale)⟩

theorem Books.inventory_views (persist : RecordKey → Ipv4 → Except OperatorError Unit) :
    Views (fun c books => Books.answer persist c books) (fun c inv => inv.answer persist c)
      Books.inventory measureKnown where
  silent {c a} books known := by cases c <;> cases known <;> exact ⟨rfl, rfl⟩
  asked {c} books _ := by cases c <;> exact ⟨rfl, rfl⟩

theorem Tasks.Proceeds.reply {c : Call} {next : Answer c → Step α}
    (proceeds : Proceeds (unmeasured (.ask c next)) books.inventory)
    (persist : RecordKey → Ipv4 → Except OperatorError Unit) :
    FloatingMay (fun _ => True) c books.inventory ∧
      Proceeds (unmeasured (next (books.answer persist c).1))
        (books.answer persist c).2.inventory := by
  obtain ⟨sound, keeps⟩ := proceeds
  obtain ⟨allowed, goesOn⟩ := Keeps.reply (Books.inventory_views persist)
    (Alters.refl sound) (fun _ known => FloatingMay.of_known known) keeps
  have after : (books.answer persist c).2.inventory = (books.inventory.answer persist c).2 := by
    cases c <;> rfl
  exact ⟨allowed, after ▸ (allowed.answer sound persist).sound, goesOn⟩

namespace Counting

variable {phase : Phase} {d d' : Step α} {trace : List Call} {after : Books}

/-- Every part of a run leads from one phase to another. -/
theorem advance (counting : Counting key phase d)
    (advance : Advance (fun c books => Books.answer persist c books) d books trace d' after)
    (proceeds : Proceeds (unmeasured d) books.inventory) :
    Proceeds (unmeasured d') after.inventory ∧
      (∀ n, after.inventory.range? n = books.inventory.range? n) ∧
      ∃ phase', Counting key phase' d' ∧ Phase.Leads key books after phase phase' := by
  induction advance generalizing phase with
  | here d books => exact ⟨proceeds, fun _ => rfl, phase, counting, fun _ holds => holds, id⟩
  | @ask c next books after trace d' rest ih =>
    obtain ⟨allowed, goesOn⟩ := proceeds.reply persist
    obtain ⟨phase', counting', leads⟩ := counting.ask proceeds.sound allowed
    obtain ⟨proceeds', ranges, phase'', counting'', leads'⟩ := ih counting' goesOn
    refine ⟨proceeds', fun n => (ranges n).trans ?_, phase'', counting'', leads.trans leads'⟩
    have same : (books.answer persist c).2.inventory = (books.inventory.answer persist c).2 := by
      cases c <;> rfl
    rw [same]
    exact (allowed.answer proceeds.sound persist).range? n id

/-- At the end nothing is left to be counted. -/
theorem play (counting : Counting key phase d)
    (proceeds : Proceeds (unmeasured d) books.inventory)
    (persist : RecordKey → Ipv4 → Except OperatorError Unit) :
    let after := (d.play (fun c books => Books.answer persist c books) books).2
    after.inventory.Sound ∧ (∀ n, after.inventory.range? n = books.inventory.range? n) ∧
      Phase.Leads key books after phase .even := by
  obtain ⟨_, whole⟩ := Advance.toEnd (fun c books => Books.answer persist c books) d books
  obtain ⟨proceeds', ranges, phase', counting', leads⟩ := counting.advance whole proceeds
  cases counting'
  exact ⟨proceeds'.sound, ranges, leads⟩

end Counting

end FloatingAddress
