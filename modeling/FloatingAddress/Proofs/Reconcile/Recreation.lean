import FloatingAddress.Proofs.Inventory.Counting
import FloatingAddress.Proofs.Reconcile.Frame
import FloatingAddress.Proofs.Reconcile.Replacement

/-!
# A range that is created again

Removing a range forgets who holds its addresses, but the records of the floating addresses stay.
When the range comes back, the holders are found again from the records. If its network is the same,
the inventory is exactly what it was. If the network is another one, the records that it has the
addresses of hold them again, and each of the others is reported. An address that is held again is
not obtained by anybody else, whatever is asked of the inventory in the meantime.
-/

namespace FloatingAddress

open Reconcile

namespace Store

/-- The stored records of a range whose addresses a span has. -/
def within (store : Store) (name : String) (span : UsableSpan) : List FloatingRecord :=
  (store.floatingsIn name).filter (·.address.any span.contains)

/-- The stored records of a range whose addresses a span does not have. -/
def beyond (store : Store) (name : String) (span : UsableSpan) : List FloatingRecord :=
  (store.floatingsIn name).filter (!·.address.any span.contains)

theorem floatingsIn_congr {store other : Store}
    (same : ∀ key, store.floating? key = other.floating? key) (name : String) :
    store.floatingsIn name = other.floatingsIn name := by
  have records : store.floatingRecords = other.floatingRecords :=
    Std.ExtTreeMap.ext_getElem? fun {key} => same key
  rw [floatingsIn, floatingsIn, floatings, floatings, records]

end Store

namespace Inventory

variable {inv after gone : Inventory} {name : String} {key : RecordKey} {span : UsableSpan}
  {record : FloatingRecord}

/-- The report on a record whose address the span of its range does not have. -/
def Untracked.outside? (name : String) (span : UsableSpan) (record : FloatingRecord) :
    Option Untracked :=
  (record.address.filter (!span.contains ·)).map fun address =>
    { key := record.key, address, error := .outOfRange name address }

/-- If nobody has the address of a record, only a span without this address stands in the way of
reserving it again. -/
theorem readoptOne_untracked {done : Readoption} (known : done.allocator.span name = some span)
    (free : ∀ a, record.address = some a → done.allocator.owner name a = none) :
    (readoptOne name done record).untracked =
      done.untracked ++ (Untracked.outside? name span record).toList := by
  unfold readoptOne Untracked.outside?
  cases carried : record.address with
  | none => simp
  | some address =>
    by_cases usable : span.contains address
    · have unheld : done.allocator.owner name address = none ∨
          done.allocator.owner name address = some record.owner := .inl (free address carried)
      obtain ⟨after, acquired⟩ := Allocator.acquire_requested known usable unheld
      simp [acquired, Option.filter, usable]
    · have outside : span.contains address = false := by simpa using usable
      simp [Allocator.acquire_of_not_contains known usable, Option.filter, outside]

/-- The reports follow the order of the records. -/
theorem Reservable.untracked {done : Readoption} {records : List FloatingRecord}
    (reservable : Reservable name span done records) :
    (records.foldl (readoptOne name) done).untracked =
      done.untracked ++ records.filterMap (Untracked.outside? name span) := by
  induction records generalizing done with
  | nil => simp
  | cons record rest ih =>
    have here := readoptOne_untracked reservable.known (reservable.free record (.head _))
    rw [List.foldl_cons, ih reservable.next, here, List.append_assoc, List.filterMap_cons]
    cases Untracked.outside? name span record <;> rfl

/-- A new range reports the records whose addresses it does not have. -/
theorem Sound.untracked_eq (sound : inv.Sound) {range : RangeRecord} (formed : range.WellFormed)
    {reg : Registration} (h : inv.createRange range = .ok (reg, after)) :
    reg.untracked = (inv.store.floatingsIn range.name).filterMap
      (Untracked.outside? range.name range.span) := by
  obtain ⟨span, allocator, done, registered, rfl, rfl, rfl⟩ := createRange_cases h
  obtain ⟨-, parsed, -⟩ := Allocator.register_ok registered
  obtain rfl : span = range.span := Option.some.inj (parsed.symm.trans formed)
  exact (sound.reservable registered).untracked

/-- Every record has an address, so the reported ones are all those that the span does not have. -/
theorem Sound.map_key_outside (sound : inv.Sound) (name : String) (span : UsableSpan) :
    ((inv.store.floatingsIn name).filterMap (Untracked.outside? name span)).map (·.key) =
      (inv.store.beyond name span).map (·.key) := by
  unfold Store.beyond
  have addressed : ∀ record ∈ inv.store.floatingsIn name, record.address.isSome := by
    intro record member
    obtain ⟨⟨key, stored⟩, -⟩ := Store.mem_floatingsIn.mp member
    exact sound.addressed key record stored
  generalize inv.store.floatingsIn name = records at addressed
  induction records with
  | nil => rfl
  | cons record rest ih =>
    obtain ⟨here, addressed⟩ := List.forall_mem_cons.mp addressed
    obtain ⟨address, carried⟩ := Option.isSome_iff_exists.mp here
    have further := ih addressed
    by_cases usable : span.contains address <;>
      simp [Untracked.outside?, Option.filter, carried, usable] at further ⊢ <;> exact further

/-- The held addresses of a range are those of its records that the span has. -/
theorem Sound.held_within (sound : inv.Sound) {range : RangeRecord}
    (found : inv.range? name = some range) (address : Ipv4) (owner : String) :
    inv.allocator.owner name address = some owner ↔
      ∃ stored ∈ inv.store.within name range.span,
        stored.address = some address ∧ owner = stored.key.text := by
  rw [sound.held name range found]
  constructor
  · rintro ⟨key, stored, isStored, drawn, carried, usable, rfl⟩
    refine ⟨stored, ?_, carried, by rw [(sound.floating key stored isStored).1]⟩
    exact List.mem_filter.mpr
      ⟨Store.mem_floatingsIn.mpr ⟨⟨key, isStored⟩, drawn⟩, by simpa [carried] using usable⟩
  · rintro ⟨stored, member, carried, rfl⟩
    obtain ⟨isDrawn, usable⟩ := List.mem_filter.mp member
    obtain ⟨⟨key, isStored⟩, drawn⟩ := Store.mem_floatingsIn.mp isDrawn
    exact ⟨key, stored, isStored, drawn, carried, by simpa [carried] using usable,
      by rw [(sound.floating key stored isStored).1]⟩

/-- A range holds as many addresses as there are records of it whose addresses the span has. -/
theorem Sound.heldCount_eq (sound : inv.Sound) {range : RangeRecord}
    (found : inv.range? name = some range) :
    inv.heldCount name = (inv.store.within name range.span).length := by
  have carry : ∀ record ∈ inv.store.within name range.span, record.address.isSome := by
    intro record member
    obtain ⟨address, carried, -⟩ := (Option.any_eq_true ..).mp (List.mem_filter.mp member).2
    rw [carried]
    rfl
  have apart : ((inv.store.within name range.span).map (·.address)).Nodup := by
    refine List.pairwise_map.mpr (((sound.floatingsIn_apart name).filter _).imp_of_mem ?_)
    intro record other member _ different
    exact different (carry record member)
  have distinct : ((inv.allocated name).map some).Nodup :=
    (Allocator.nodup_allocated _ _).map fun _ _ => Option.some.inj
  have perm : ((inv.allocated name).map some).Perm
      ((inv.store.within name range.span).map (·.address)) := by
    refine (List.perm_ext_iff_of_nodup distinct apart).mpr fun address => ?_
    rw [List.mem_map, List.mem_map]
    constructor
    · rintro ⟨a, isHeld, rfl⟩
      obtain ⟨owner, held⟩ := Option.isSome_iff_exists.mp (Allocator.mem_allocated.mp isHeld)
      obtain ⟨stored, member, carried, -⟩ := (sound.held_within found a owner).mp held
      exact ⟨stored, member, carried⟩
    · rintro ⟨stored, member, rfl⟩
      obtain ⟨a, carried⟩ := Option.isSome_iff_exists.mp (carry stored member)
      have held := (sound.held_within found a stored.key.text).mpr ⟨stored, member, carried, rfl⟩
      exact ⟨a, Allocator.mem_allocated.mpr (Option.isSome_iff_exists.mpr ⟨_, held⟩),
        carried.symm⟩
  rw [heldCount, ← List.length_map some, perm.length_eq, List.length_map]

/-- A removal tells how many addresses were held. -/
theorem released_eq {removal : Removal} (h : inv.deleteRange name = .ok (removal, gone)) :
    removal.released = inv.heldCount name := by
  obtain ⟨released, allocator, record, store, deregistered, -, rfl, rfl⟩ := deleteRange_cases h
  unfold Allocator.deregister at deregistered
  split at deregistered
  · cases deregistered
  next pool found =>
    cases deregistered
    simp [heldCount, allocated, Allocator.allocated, found]

/-- What the inventory becomes when questions are asked of it, whatever they are. -/
inductive Leads (inv : Inventory) : Inventory → Prop
  | here : Leads inv inv
  | ask {later : Inventory} (leads : Leads inv later) (c : Call)
    (persist : RecordKey → Ipv4 → Except OperatorError Unit) :
    Leads inv (later.answer persist c).2

/-- Every span that is known has its first address before its last one. -/
def Ordered (inv : Inventory) : Prop :=
  ∀ name span, inv.allocator.span name = some span → span.Ordered

theorem Ordered.rollback (ordered : inv.Ordered) (key : RecordKey) :
    (inv.rollback key).Ordered := by
  cases found : inv.floating? key with
  | none => rwa [rollback_of_none found]
  | some record =>
    intro name span known
    rw [(rollback_view found).2.2.1] at known
    exact ordered name span known

/-- Whatever is asked, no other spans come in. -/
theorem Ordered.answer (ordered : inv.Ordered) (c : Call)
    (persist : RecordKey → Ipv4 → Except OperatorError Unit) :
    (inv.answer persist c).2.Ordered := by
  cases c with
  | createRange record =>
    obtain same | ⟨_, h⟩ := inv.answer_createRange_cases persist record
    · rwa [same]
    · obtain ⟨-, span, parsed, -, -, spans, -⟩ := createRange_ok h
      intro name known isKnown
      rw [spans] at isKnown
      split at isKnown
      · cases isKnown
        exact UsableSpan.ofText?_ordered parsed
      · exact ordered name known isKnown
  | deleteRange name =>
    obtain same | ⟨_, h⟩ := inv.answer_deleteRange_cases persist name
    · rwa [same]
    · obtain ⟨-, -, -, spans, -⟩ := deleteRange_ok h
      intro other known isKnown
      rw [spans] at isKnown
      split at isKnown
      · cases isKnown
      · exact ordered other known isKnown
  | claim record =>
    obtain same | ⟨_, h⟩ := inv.answer_claim_cases persist record
    · rwa [same]
    · obtain ⟨acquired, -⟩ := claim_ok h
      intro name known isKnown
      rw [(Allocator.acquire_ok acquired).2.1] at isKnown
      exact ordered name known isKnown
  | rollback key => exact ordered.rollback key
  | release key =>
    rw [answer_release]
    exact ordered.rollback key
  | _ => exact ordered

theorem Leads.ordered {later : Inventory} (leads : inv.Leads later) (ordered : inv.Ordered) :
    later.Ordered := by
  induction leads with
  | here => exact ordered
  | ask _ c persist ih => exact ih.answer c persist

/-- A claim for another identity does not obtain an address that is held. -/
theorem Ordered.claim_ne (ordered : inv.Ordered) {address : Ipv4}
    (held : inv.allocator.owner record.range address = some key.text) (plain : key.Plain)
    (plain' : record.key.Plain) (other : record.key ≠ key) {claim : Claim}
    (h : inv.claim record = .ok (claim, after)) : claim.address ≠ address := by
  rintro rfl
  obtain ⟨acquired, -⟩ := claim_ok h
  obtain ⟨span, known⟩ := Option.isSome_iff_exists.mp (Allocator.acquire_ok acquired).1
  obtain ⟨-, unheld | ⟨own, -⟩, -⟩ :=
    Allocator.acquire_granted known (ordered _ _ known) acquired
  · rw [held] at unheld
    cases unheld
  · have same : key.text = record.key.text := Option.some.inj (held.symm.trans own)
    exact other (RecordKey.text_inj plain plain' same).symm

/-- What a range that is created again makes of an inventory, and what is said about it. -/
structure Readopts (inv : Inventory) (range : RangeRecord) (reg : Registration)
    (after : Inventory) : Prop where
  /-- All records of floating addresses stay. -/
  floatings : ∀ key, after.floating? key = inv.floating? key
  /-- Of the records of ranges only this one is new. -/
  ranges : ∀ name, after.range? name = if range.name = name then some range else inv.range? name
  /-- The addresses of other ranges are held as before. -/
  elsewhere : ∀ name, name ≠ range.name → ∀ address,
    after.allocator.owner name address = inv.allocator.owner name address
  /-- The range holds the addresses of its records that the span has, each for its own record. -/
  held : ∀ address owner, after.allocator.owner range.name address = some owner ↔
    ∃ stored ∈ inv.store.within range.name range.span,
      stored.address = some address ∧ owner = stored.key.text
  /-- So many are counted. -/
  count : reg.readopted = (inv.store.within range.name range.span).length
  /-- All other records of the range are reported. -/
  warned : reg.untracked.map (·.key) = (inv.store.beyond range.name range.span).map (·.key)
  /-- What is reported of them is that the span does not have their addresses. -/
  reason : ∀ report ∈ reg.untracked, report.error = .outOfRange range.name report.address
  /-- Whatever is asked afterwards: as long as a record holds its address again, a claim for
  another identity does not obtain it. -/
  exclusive : ∀ stored ∈ inv.store.within range.name range.span, ∀ later, after.Leads later →
    ∀ address, stored.address = some address →
    later.allocator.owner range.name address = some stored.key.text →
    ∀ wanted claim final, wanted.range = range.name → wanted.key.Plain →
    wanted.key ≠ stored.key → later.claim wanted = .ok (claim, final) → claim.address ≠ address

/-- A removed range is created again, with its old network or with another one. -/
theorem Sound.readopts (sound : inv.Sound) {removal : Removal}
    (removed : inv.deleteRange name = .ok (removal, gone)) {range : RangeRecord}
    (named : range.name = name) (formed : range.WellFormed) {reg : Registration}
    (h : gone.createRange range = .ok (reg, after)) : inv.Readopts range reg after := by
  subst named
  obtain ⟨-, ranges, floatings, -, owners⟩ := deleteRange_ok removed
  obtain ⟨-, _, -, ranges', floatings', -, owners'⟩ := createRange_ok h
  have soundGone := sound.deleteRange removed
  have soundAfter := soundGone.createRange formed h
  have here : after.range? range.name = some range := by rw [ranges', if_pos rfl]
  have drawnGone : ∀ name, gone.store.floatingsIn name = inv.store.floatingsIn name :=
    Store.floatingsIn_congr floatings
  have drawnAfter : ∀ name, after.store.floatingsIn name = inv.store.floatingsIn name :=
    Store.floatingsIn_congr fun key => (floatings' key).trans (floatings key)
  have within : after.store.within range.name range.span =
      inv.store.within range.name range.span := by
    rw [Store.within, drawnAfter, Store.within]
  have untracked := soundGone.untracked_eq formed h
  rw [drawnGone] at untracked
  constructor
  case floatings =>
    intro key
    rw [floatings', floatings]
  case ranges =>
    intro n
    rw [ranges', ranges]
    split <;> rfl
  case elsewhere =>
    intro n other address
    rw [owners', if_neg other.symm, owners, if_neg other.symm]
  case held => exact within ▸ soundAfter.held_within here
  case count => rw [soundGone.readopted_eq h, soundAfter.heldCount_eq here, within]
  case warned => rw [untracked, sound.map_key_outside]
  case reason =>
    rw [untracked]
    intro report member
    obtain ⟨record, -, told⟩ := List.mem_filterMap.mp member
    obtain ⟨address, -, rfl⟩ := Option.map_eq_some_iff.mp told
    rfl
  case exclusive =>
    intro stored member later leads address carried held wanted claim final drawn plain other done
    have ordered := leads.ordered fun _ _ known => soundAfter.ordered known
    obtain ⟨⟨key, isStored⟩, -⟩ := Store.mem_floatingsIn.mp (List.mem_filter.mp member).1
    obtain ⟨filed, plain'⟩ := sound.floating key stored isStored
    rw [← drawn] at held
    exact ordered.claim_ne held (filed ▸ plain') plain other done

/-- With its old network the range becomes what it was, and as many addresses are reserved again as
were released. -/
theorem Sound.restores (sound : inv.Sound) {removal : Removal} {stored : RangeRecord}
    (found : inv.range? name = some stored)
    (removed : inv.deleteRange name = .ok (removal, gone)) :
    ∃ reg, gone.createRange stored = .ok (reg, inv) ∧ reg.readopted = removal.released := by
  obtain ⟨named, formed⟩ := sound.range name stored found
  have soundGone := sound.deleteRange removed
  have missing : gone.range? stored.name = none := by
    rw [(deleteRange_ok removed).2.1, if_pos named.symm]
  obtain ⟨reg, h⟩ := soundGone.createRange_of_none formed missing
  have readopts := sound.readopts removed named formed h
  have same : gone.enter stored = inv := by
    refine (soundGone.createRange formed h).ext_records sound (fun n => ?_) readopts.floatings
    rw [readopts.ranges]
    split
    next hit => rw [← hit, named, found]
    · rfl
  refine ⟨reg, same ▸ h, ?_⟩
  rw [readopts.count, named, ← sound.heldCount_eq found, released_eq removed]

end Inventory

namespace Tasks

/-- In every state that comes about, a registered range can be removed. If it is then created again
as it was, the inventory is what it was, and as many addresses are reserved again as were released.
If it is created with any network, its records hold their addresses again as far as the network has
them, and nobody else obtains these. -/
theorem Reached.recreation_keeps_reservations {t : Tasks} (reached : Reached t) {name : String}
    {stored : RangeRecord} (known : t.operator.inventory.range? name = some stored) :
    ∃ removal gone, t.operator.inventory.deleteRange name = .ok (removal, gone) ∧
      (∃ reg, gone.createRange stored = .ok (reg, t.operator.inventory) ∧
        reg.readopted = removal.released) ∧
      ∀ range : RangeRecord, range.name = name → range.WellFormed →
        ∃ reg after, gone.createRange range = .ok (reg, after) ∧
          t.operator.inventory.Readopts range reg after := by
  have sound := reached.orderly.sound
  obtain ⟨removal, removed⟩ := sound.deleteRange_of_range? known
  refine ⟨removal, _, removed, sound.restores known removed, fun range named formed => ?_⟩
  have missing : (t.operator.inventory.forget name).range? range.name = none := by
    rw [(Inventory.deleteRange_ok removed).2.1, if_pos named.symm]
  obtain ⟨reg, h⟩ := (sound.deleteRange removed).createRange_of_none formed missing
  exact ⟨reg, _, h, sound.readopts removed named formed h⟩

end Tasks

namespace Sample

/-- The range `blue` with another network. -/
def shifted : RangeRecord where
  name := "blue"
  cidr := "10.0.0.8/29"
  span := .ofCidr { address := .ofOctets 10 0 0 8, length := 29, length_le := by decide }

end Sample

namespace Tasks

/-- The network of a range has not had the address of the first record for a while. With another
network the range has this address, and not the one of the second record. -/
theorem recreation_moved : ∃ removal gone reg after,
    Sample.outgrown.inventory.deleteRange "blue" = .ok (removal, gone) ∧
      (∃ stored reg, gone.createRange stored = .ok (reg, Sample.outgrown.inventory) ∧
        reg.readopted = removal.released) ∧
      gone.createRange Sample.shifted = .ok (reg, after) ∧ reg.readopted = 1 ∧
      reg.untracked.map (·.key) = [⟨"web", "two"⟩] ∧
      after.allocator.owner "blue" (.ofOctets 10 0 0 9) = some "web/one" := by
  have known : (Sample.outgrown.inventory.range? "blue").isSome := by decide +kernel
  have formed : Sample.shifted.WellFormed := by
    unfold RangeRecord.WellFormed
    decide +kernel
  have within : (Sample.outgrown.inventory.store.within "blue" Sample.shifted.span) =
      [{ key := ⟨"web", "one"⟩, address := some (.ofOctets 10 0 0 9), cluster := "guest"
         range := "blue" }] := by
    decide +kernel
  have beyond : (Sample.outgrown.inventory.store.beyond "blue" Sample.shifted.span).map (·.key) =
      [⟨"web", "two"⟩] := by
    decide +kernel
  obtain ⟨stored, known⟩ := Option.isSome_iff_exists.mp known
  obtain ⟨removal, gone, removed, ⟨reg, restored, same⟩, anew⟩ :=
    reached_outgrown.recreation_keeps_reservations known
  obtain ⟨reg', after, created, readopts⟩ := anew Sample.shifted rfl formed
  dsimp only [idle] at removed restored readopts
  obtain ⟨-, -, -, held, count, warned, -⟩ := readopts
  rw [show Sample.shifted.name = "blue" from rfl] at held count warned
  rw [within] at held count
  rw [beyond] at warned
  have owned := (held (.ofOctets 10 0 0 9) "web/one").mpr
    ⟨_, List.mem_singleton_self _, rfl, by decide +kernel⟩
  exact ⟨removal, gone, reg', after, removed, ⟨stored, reg, restored, same⟩, created, count, warned,
    owned⟩

end Tasks

end FloatingAddress
