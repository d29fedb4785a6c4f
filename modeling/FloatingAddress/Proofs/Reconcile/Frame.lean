import FloatingAddress.Proofs.Reconcile.Tasks

/-!
# What a change leaves alone

An object concerns the record of one identity and what the allocator holds under the text of this
identity. Everything else stays as it is, although an address is given back whoever holds it: as
long as nobody else holds the address of the record, nobody else loses it. This is so in every
state that comes about, and a handler keeps it up on its way, also for an identity whose text is
ambiguous.

An object of a range concerns this range. The records of floating addresses stay, and so does who
holds the addresses of other ranges.
-/

namespace FloatingAddress

open Dialogue Reconcile

namespace Inventory

variable {inv after : Inventory} {key : RecordKey}

/-- What the record of an identity draws from a range is not held by anybody else. -/
structure Possesses (inv : Inventory) (key : RecordKey) : Prop where
  ordered : ∀ name span, inv.allocator.span name = some span → span.Ordered
  held : ∀ record address holder, inv.floating? key = some record →
    record.address = some address →
    inv.allocator.owner record.range address = some holder → holder = key.text

/-- Nothing has changed but the record of an identity and what is held under its text. -/
structure OnlyFloating (key : RecordKey) (inv after : Inventory) : Prop where
  floating? : ∀ other, other ≠ key → after.floating? other = inv.floating? other
  range? : ∀ name, after.range? name = inv.range? name
  owner : ∀ name address holder, holder ≠ key.text →
    (after.allocator.owner name address = some holder ↔
      inv.allocator.owner name address = some holder)

/-- Nothing has changed but the record of a range and who holds its addresses. -/
structure OnlyRange (name : String) (inv after : Inventory) : Prop where
  floating? : ∀ key, after.floating? key = inv.floating? key
  range? : ∀ other, other ≠ name → after.range? other = inv.range? other
  owner : ∀ other address, other ≠ name →
    after.allocator.owner other address = inv.allocator.owner other address

theorem OnlyFloating.refl (key : RecordKey) (inv : Inventory) : OnlyFloating key inv inv :=
  ⟨fun _ _ => rfl, fun _ => rfl, fun _ _ _ _ => Iff.rfl⟩

theorem OnlyFloating.trans {inv' : Inventory} (first : OnlyFloating key inv inv')
    (second : OnlyFloating key inv' after) : OnlyFloating key inv after where
  floating? other apart := (second.floating? other apart).trans (first.floating? other apart)
  range? name := (second.range? name).trans (first.range? name)
  owner name address holder apart :=
    (second.owner name address holder apart).trans (first.owner name address holder apart)

namespace Sound

/-- In a sound inventory every identity has what its record says, or nobody has it. -/
theorem possesses (sound : inv.Sound) (key : RecordKey) : inv.Possesses key where
  ordered name span known := sound.ordered known
  held record address holder stored carried held := by
    cases found : inv.range? record.range with
    | none =>
      rw [sound.owner_of_range?_eq_none found] at held
      cases held
    | some range =>
      obtain ⟨key', record', stored', drawn, carried', -, rfl⟩ :=
        (sound.held record.range range found address holder).mp held
      have same := sound.unshared key' key record' record stored' stored drawn
        (carried'.trans carried.symm)
      rw [same]

end Sound

/-- A claim obtains an address that nobody held, or that was held under the same text. -/
theorem Possesses.claim {record : FloatingRecord} (possesses : inv.Possesses record.key)
    {claim : Claim} (h : inv.claim record = .ok (claim, after)) :
    OnlyFloating record.key inv after ∧ after.Possesses record.key := by
  obtain ⟨acquired, -, -, ranges, floatings⟩ := claim_ok h
  obtain ⟨known, spans, owners⟩ := Allocator.acquire_ok acquired
  obtain ⟨span, known⟩ := Option.isSome_iff_exists.mp known
  obtain ⟨-, unheld, -⟩ :=
    Allocator.acquire_granted known (possesses.ordered _ _ known) acquired
  constructor
  · refine ⟨fun other apart => ?_, ranges, fun name address holder apart => ?_⟩
    · rw [floatings, if_neg apart.symm]
    · rw [owners]
      split
      next hit =>
        obtain ⟨rfl, rfl⟩ := hit
        have notHere : some record.owner ≠ some holder := by
          intro same
          exact apart (Option.some.inj same).symm
        refine iff_of_false notHere ?_
        -- Nobody else held the address before: it was free, or held under the text of the identity.
        obtain free | ⟨own, -⟩ := unheld
        · simp [free]
        · rwa [own]
      · exact Iff.rfl
  · refine ⟨fun name span known => ?_, fun stored address holder found carried held => ?_⟩
    · rw [spans] at known
      exact possesses.ordered name span known
    · rw [floatings, if_pos rfl] at found
      cases found
      rw [owners, if_pos ⟨rfl, Option.some.inj carried⟩] at held
      exact (Option.some.inj held).symm

/-- Giving the address of a record back takes it from nobody else. -/
theorem Possesses.rollback (possesses : inv.Possesses key) :
    OnlyFloating key inv (inv.rollback key) ∧ (inv.rollback key).Possesses key := by
  cases found : inv.floating? key with
  | none =>
    rw [rollback_of_none found]
    exact ⟨.refl key inv, possesses⟩
  | some record =>
    obtain ⟨ranges, floatings, spans, owners⟩ := rollback_view found
    constructor
    · refine ⟨fun other apart => ?_, ranges, fun name address holder apart => ?_⟩
      · rw [floatings, if_neg apart.symm]
      · rw [owners]
        split
        next hit =>
          obtain ⟨rfl, carried⟩ := hit
          refine iff_of_false (by simp) fun held => ?_
          exact apart (possesses.held record address holder found carried held)
        · exact Iff.rfl
    · refine ⟨fun name span known => ?_, fun stored address holder there _ _ => ?_⟩
      · rw [spans] at known
        exact possesses.ordered name span known
      · exact absurd rfl (floating?_of_rollback there).1

theorem Assigned.claim (assigned : inv.Assigned) {record : FloatingRecord} {claim : Claim}
    (h : inv.claim record = .ok (claim, after)) : after.Assigned := by
  obtain ⟨-, -, -, -, floatings⟩ := claim_ok h
  constructor
  · intro key stored found
    rw [floatings] at found
    split at found
    next same =>
      cases found
      exact same
    · exact assigned.filed key stored found
  · intro key stored found
    rw [floatings] at found
    split at found
    · cases found
      rfl
    · exact assigned.addressed key stored found

theorem Assigned.rollback (assigned : inv.Assigned) (key : RecordKey) :
    (inv.rollback key).Assigned :=
  ⟨fun other stored found => assigned.filed other stored (floating?_of_rollback found).2,
    fun other stored found => assigned.addressed other stored (floating?_of_rollback found).2⟩

theorem Assigned.congr (assigned : inv.Assigned)
    (floatings : ∀ k, after.floating? k = inv.floating? k) : after.Assigned :=
  ⟨fun key record stored => assigned.filed key record (floatings key ▸ stored),
    fun key record stored => assigned.addressed key record (floatings key ▸ stored)⟩

/-- Whatever is asked, every record is filed under its identity and has an address. -/
theorem Assigned.answer (assigned : inv.Assigned)
    (persist : RecordKey → Ipv4 → Except OperatorError Unit) (c : Call) :
    (inv.answer persist c).2.Assigned := by
  cases c with
  | createRange record =>
    obtain same | ⟨_, h⟩ := inv.answer_createRange_cases persist record
    · rwa [same]
    · obtain ⟨-, _, -, -, floatings, -⟩ := createRange_ok h
      exact assigned.congr floatings
  | deleteRange name =>
    obtain same | ⟨_, h⟩ := inv.answer_deleteRange_cases persist name
    · rwa [same]
    · obtain ⟨-, -, floatings, -⟩ := deleteRange_ok h
      exact assigned.congr floatings
  | claim record =>
    obtain same | ⟨_, h⟩ := inv.answer_claim_cases persist record
    · rwa [same]
    · exact assigned.claim h
  | rollback key => exact assigned.rollback key
  | release key =>
    rw [answer_release]
    exact assigned.rollback key
  | _ => exact assigned

end Inventory

namespace Tasks

variable {key : RecordKey} {inv : Inventory} {c : Call}

/-- What is asked for the sake of an identity: its record only is changed, and an address is written
back only while the record has it. -/
def Concerns (key : RecordKey) : Call → Inventory → Prop
  | .createRange _, _ | .deleteRange _, _ => False
  | .claim record, _ => record.key = key
  | .rollback key', _ | .release key', _ => key' = key
  | .persist key' address, inv => key' = key ∧
    ∃ record, inv.floating? key = some record ∧ record.address = some address
  | _, _ => True

/-- What is left of a change is about one identity. -/
def KeepsTo {α : Type} (key : RecordKey) (d : Step α) (inv : Inventory) : Prop :=
  (unmeasured d).Keeps Inventory.answer RecordsRely (Concerns key) (fun _ => True) inv

theorem keepsTo_apply (m : Manifest.Floating) (inv : Inventory) :
    KeepsTo (lookupKey m) (applyFloating m).run inv := by
  refine (asks_apply m inv).mono (fun _ _ relied => relied) fun c inv' asks => ?_
  cases c with
  | claim record => exact asks.1.key
  | _ => exact asks

theorem keepsTo_follow (change : Watch.Change Manifest.Floating) (inv : Inventory) :
    KeepsTo change.key (Watch.followFloating change) inv := by
  unfold KeepsTo
  rw [unmeasured_followFloating]
  refine Keeps.forget ?_ ()
  cases change with
  | apply m => exact keepsTo_apply m inv
  | delete m =>
    dsimp only
    rw [unmeasured_deleteFloating]
    intro _ _
    exact ⟨rfl, fun _ => trivial⟩

theorem Concerns.onlyFloating (concerns : Concerns key c inv) (possesses : inv.Possesses key)
    (persist : RecordKey → Ipv4 → Except OperatorError Unit) :
    Inventory.OnlyFloating key inv (inv.answer persist c).2 ∧
      (inv.answer persist c).2.Possesses key := by
  cases c with
  | createRange _ | deleteRange _ => exact absurd concerns id
  | claim record =>
    obtain rfl : record.key = key := concerns
    obtain same | ⟨_, h⟩ := inv.answer_claim_cases persist record
    · rw [same]
      exact ⟨.refl record.key inv, possesses⟩
    · exact possesses.claim h
  | rollback key' =>
    obtain rfl : key' = key := concerns
    exact possesses.rollback
  | release key' =>
    obtain rfl : key' = key := concerns
    rw [Inventory.answer_release]
    exact possesses.rollback
  | _ => exact ⟨.refl key inv, possesses⟩

/-- Following a floating address spares everything that is not its own. -/
theorem onlyFloating_followFloating {op : Operator} (sound : op.inventory.Sound)
    (change : Watch.Change Manifest.Floating)
    (persist : RecordKey → Ipv4 → Except OperatorError Unit) :
    Inventory.OnlyFloating change.key op.inventory
      (op.finish persist (Watch.followFloating change)).2.inventory := by
  -- Each question keeps this up. The address that is given back is the identity's own, so the next
  -- question again takes nothing from anybody else.
  let holds (inv : Inventory) : Prop :=
    inv.Assigned ∧ inv.Possesses change.key ∧ Inventory.OnlyFloating change.key op.inventory inv
  have start : holds op.inventory :=
    ⟨sound.assigned, sound.possesses change.key, .refl _ _⟩
  have step : ∀ c inv, Concerns change.key c inv → holds inv →
      holds (inv.answer persist c).2 := by
    intro c inv concerns held
    obtain ⟨assigned, possesses, spares⟩ := held
    obtain ⟨further, possesses'⟩ := concerns.onlyFloating possesses persist
    exact ⟨assigned.answer persist c, possesses', spares.trans further⟩
  obtain ⟨-, -, -, spares⟩ := (keepsTo_follow change op.inventory).play
    (fun inv held => ⟨held.1, fun _ => rfl⟩) step start
  rwa [Operator.finish_inventory] at spares

/-- Following a range leaves everything else alone: who holds the addresses of another range follows
from its record and the records of the floating addresses. -/
theorem onlyRange_followRange {op : Operator} (sound : op.inventory.Sound)
    (change : Watch.Change Manifest.Range)
    (persist : RecordKey → Ipv4 → Except OperatorError Unit) :
    Inventory.OnlyRange change.name op.inventory
      (op.finish persist (Watch.followRange change)).2.inventory := by
  let own : String → Prop := (· = change.name)
  let holds : Inventory → Prop := Alters own (fun _ => False) op.inventory
  have keeps : KeepsRanges own (Watch.followRange change) op.inventory :=
    keepsRanges_follow (show own change.name from rfl) op.inventory
  have step : ∀ c inv, RangeMay own c inv → holds inv → holds (inv.answer persist c).2 := by
    intro c inv allowed altered
    exact altered.trans (allowed.answer altered.sound persist)
  obtain ⟨-, altered⟩ := keeps.play (fun _ altered => .refl altered.sound) step (.refl sound)
  rw [Operator.finish_inventory] at altered
  have floatings := fun key => altered.floating? key id
  refine ⟨floatings, altered.range?, fun other address apart => ?_⟩
  exact altered.sound.owner_congr sound (altered.range? other apart) floatings address

/-- In every state that comes about, following a floating address leaves alone all other records and
whatever is held under another text, and following a range leaves alone the records of floating
addresses, the other ranges and who holds their addresses. -/
theorem Reached.leaves_alone {t : Tasks} (reached : Reached t)
    (persist : RecordKey → Ipv4 → Except OperatorError Unit) :
    (∀ change : Watch.Change Manifest.Floating,
      Inventory.OnlyFloating change.key t.operator.inventory
        (t.operator.finish persist (Watch.followFloating change)).2.inventory) ∧
    ∀ change : Watch.Change Manifest.Range,
      Inventory.OnlyRange change.name t.operator.inventory
        (t.operator.finish persist (Watch.followRange change)).2.inventory := by
  have sound := reached.orderly.sound
  exact ⟨fun change => onlyFloating_followFloating sound change persist,
    fun change => onlyRange_followRange sound change persist⟩

end Tasks

namespace Sample

/-- Two floating addresses are stored, and their range has become so small that it does not have the
address of the first one any more. -/
def outgrown : Operator :=
  let ranged := (({} : Operator).finish accept
    (Watch.followRange (.apply (range "blue" "10.0.0.0/28")))).2
  let first := (ranged.finish accept
    (Watch.followFloating (.apply (floating "one" "blue" (some "10.0.0.9"))))).2
  let second := (first.finish accept
    (Watch.followFloating (.apply (floating "two" "blue" (some "10.0.0.2"))))).2
  (second.finish accept (Watch.followRange (.apply (range "blue" "10.0.0.0/29")))).2

end Sample

namespace Tasks

theorem reached_outgrown : Reached (idle Sample.outgrown) := by
  have ranged := (Reached.start {} rfl).followRange
    (.apply (Sample.range "blue" "10.0.0.0/28")) Sample.accept
  have plain : (Watch.Change.apply (Sample.floating "one" "blue" (some "10.0.0.9"))).Plain :=
    show RecordKey.Plain ⟨"web", "one"⟩ by decide
  have plain' : (Watch.Change.apply (Sample.floating "two" "blue" (some "10.0.0.2"))).Plain :=
    show RecordKey.Plain ⟨"web", "two"⟩ by decide
  have first := ranged.followFloating plain Sample.accept
  have second := first.followFloating plain' Sample.accept
  exact second.followRange (.apply (Sample.range "blue" "10.0.0.0/29")) Sample.accept

/-- The first floating address goes away, or another range comes: the second one is still held. -/
theorem leaves_alone_outgrown :
    (Sample.outgrown.finish Sample.accept (Watch.followFloating
      (.delete (Sample.floating "one" "blue" none)))).2.inventory.allocator.owner "blue"
        (.ofOctets 10 0 0 2) = some "web/two" ∧
    (Sample.outgrown.finish Sample.accept (Watch.followRange
      (.apply (Sample.range "green" "10.0.0.0/24")))).2.inventory.allocator.owner "blue"
        (.ofOctets 10 0 0 2) = some "web/two" := by
  have held : Sample.outgrown.inventory.allocator.owner "blue" (.ofOctets 10 0 0 2) =
      some "web/two" := by
    decide +kernel
  obtain ⟨floatings, ranges⟩ := reached_outgrown.leaves_alone Sample.accept
  dsimp only [idle] at floatings ranges
  have apart : "web/two" ≠
      (Watch.Change.delete (Sample.floating "one" "blue" none)).key.text := by
    decide +kernel
  constructor
  · exact ((floatings (.delete (Sample.floating "one" "blue" none))).owner _ _ _ apart).mpr held
  · exact ((ranges (.apply (Sample.range "green" "10.0.0.0/24"))).owner _ _ (by decide)).trans held

end Tasks

end FloatingAddress
