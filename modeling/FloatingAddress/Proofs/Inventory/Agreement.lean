import FloatingAddress.Proofs.Inventory.View

/-!
# The allocator and the store agree

The inventory keeps the same facts twice: the store says which record has which address, and the
allocator says who holds it. `Agreement` states that the two tell the same story. A record may
have an address that nobody holds, because its range is gone or has shrunk; but an address that
is held always has its record.

Agreement alone is not kept by claims: an identity that is stored already could get a second
address. Claims are made for identities that are not stored, and their names are told apart by
the allocator, which knows an owner only by its text. `Sound` adds what this needs, and each
operation keeps it.
-/

namespace FloatingAddress

/-- The namespace has no slash, so the text of the key tells where the namespace ends. -/
def RecordKey.Plain (key : RecordKey) : Prop := '/' ∉ key.ns.toList

instance (key : RecordKey) : Decidable key.Plain :=
  inferInstanceAs (Decidable ('/' ∉ key.ns.toList))

theorem RecordKey.toList_text (key : RecordKey) :
    key.text.toList = key.ns.toList ++ '/' :: key.name.toList := by
  simp [RecordKey.text, ToString.toString]

theorem RecordKey.text_inj {key other : RecordKey} (plain : key.Plain) (plain' : other.Plain)
    (same : key.text = other.text) : key = other := by
  have chars : key.ns.toList ++ '/' :: key.name.toList =
      other.ns.toList ++ '/' :: other.name.toList := by
    rw [← key.toList_text, ← other.toList_text, same]
  -- Where one of the namespaces is longer, it has the slash that ends the other.
  obtain ⟨rest, longer, split⟩ | ⟨rest, longer, split⟩ := List.append_eq_append_iff.mp chars
  all_goals
    cases rest with
    | nil =>
      have names := (List.cons.inj split).2
      rw [List.append_nil] at longer
      cases key
      cases other
      simp_all [String.toList_inj]
    | cons slash rest =>
      obtain rfl := (List.cons.inj split).1
      simp_all [RecordKey.Plain]

/-- The span of the record is the one its text denotes. -/
def RangeRecord.WellFormed (record : RangeRecord) : Prop :=
  UsableSpan.ofText? record.cidr = some record.span

namespace Inventory

variable {inv after : Inventory} {name : String} {key : RecordKey}

/-- The store and the allocator tell the same story. -/
structure Agreement (inv : Inventory) : Prop where
  /-- Both know the same ranges, and each range with the same span. -/
  spans : ∀ name, inv.allocator.span name = (inv.range? name).map (·.span)
  /-- A stored floating address has an address. -/
  addressed : ∀ key record, inv.floating? key = some record → record.address.isSome
  /-- No two stored floating addresses share one address of a range. -/
  unshared : ∀ key key' record record', inv.floating? key = some record →
    inv.floating? key' = some record' → record.range = record'.range →
    record.address = record'.address → key = key'
  /-- The held addresses of a range are the usable ones that stored records draw from it, and
  each is held by the identity of its record. -/
  held : ∀ name range, inv.range? name = some range → ∀ address owner,
    inv.allocator.owner name address = some owner ↔
      ∃ key record, inv.floating? key = some record ∧ record.range = name ∧
        record.address = some address ∧ range.span.contains address ∧ owner = key.text

/-- Every record is filed under the identity that it carries. -/
structure Filed (inv : Inventory) : Prop where
  range : ∀ name record, inv.range? name = some record → record.name = name ∧ record.WellFormed
  floating : ∀ key record, inv.floating? key = some record → record.key = key ∧ key.Plain

/-- What every operation keeps. -/
structure Sound (inv : Inventory) : Prop extends Agreement inv, Filed inv

namespace Sound

theorem empty : Sound .empty where
  spans name := by rw [range?_empty]; exact Allocator.span_empty name
  addressed := by simp
  unshared := by simp
  held := by simp
  range := by simp
  floating := by simp

theorem span_of_range? (sound : inv.Sound) {record : RangeRecord}
    (found : inv.range? name = some record) : inv.allocator.span name = some record.span := by
  rw [sound.spans, found, Option.map_some]

theorem span_of_range?_eq_none (sound : inv.Sound) (missing : inv.range? name = none) :
    inv.allocator.span name = none := by
  rw [sound.spans, missing, Option.map_none]

theorem owner_of_range?_eq_none (sound : inv.Sound) (missing : inv.range? name = none)
    (address : Ipv4) : inv.allocator.owner name address = none :=
  Allocator.owner_of_span_eq_none (sound.span_of_range?_eq_none missing) address

theorem ordered (sound : inv.Sound) {span : UsableSpan}
    (known : inv.allocator.span name = some span) : span.Ordered := by
  rw [sound.spans] at known
  obtain ⟨record, found, rfl⟩ := Option.map_eq_some_iff.mp known
  exact UsableSpan.ofText?_ordered (sound.range name record found).2

/-- Of the records of a range at most one has a given address, so it does not matter which of
them is found first. -/
theorem claimant_eq_some (sound : inv.Sound) {address : Ipv4} {owner : String} :
    inv.claimant name address = some owner ↔
      ∃ key record, inv.floating? key = some record ∧ record.range = name ∧
        record.address = some address ∧ owner = key.text := by
  constructor
  · intro h
    obtain ⟨record, found, rfl⟩ := Option.map_eq_some_iff.mp h
    obtain ⟨⟨key, stored⟩, drawn⟩ := Store.mem_floatingsIn.mp (List.mem_of_find?_eq_some found)
    have carried : record.address = some address := by simpa using List.find?_some found
    refine ⟨key, record, stored, drawn, carried, ?_⟩
    rw [FloatingRecord.owner, (sound.floating key record stored).1]
  · rintro ⟨key, record, stored, drawn, carried, rfl⟩
    have member : record ∈ inv.store.floatingsIn name :=
      Store.mem_floatingsIn.mpr ⟨⟨key, stored⟩, drawn⟩
    cases found : (inv.store.floatingsIn name).find? (·.address = some address) with
    | none => exact absurd carried (by simpa using List.find?_eq_none.mp found record member)
    | some first =>
      obtain ⟨⟨key', stored'⟩, drawn'⟩ :=
        Store.mem_floatingsIn.mp (List.mem_of_find?_eq_some found)
      have carried' : first.address = some address := by simpa using List.find?_some found
      obtain rfl : key = key' := sound.unshared key key' record first stored stored'
        (drawn.trans drawn'.symm) (carried.trans carried'.symm)
      simp only [claimant, found, Option.map_some, FloatingRecord.owner,
        (sound.floating key first stored').1]

/-- Who holds an address follows from the record of its range and the records of all floating
addresses. -/
theorem owner_eq (sound : inv.Sound) (name : String) (address : Ipv4) :
    inv.allocator.owner name address = (inv.range? name).bind fun range =>
      if range.span.contains address then inv.claimant name address else none := by
  cases found : inv.range? name with
  | none => rw [sound.owner_of_range?_eq_none found, Option.bind_none]
  | some range =>
    apply Option.ext
    intro owner
    rw [sound.held name range found, Option.bind_some]
    split
    next usable => simp [sound.claimant_eq_some, usable]
    next unusable => simp [unusable]

theorem claimant_congr {other : Inventory} (sound : inv.Sound) (sound' : other.Sound)
    (floatings : ∀ k, inv.floating? k = other.floating? k) (name : String) (address : Ipv4) :
    inv.claimant name address = other.claimant name address := by
  apply Option.ext
  intro owner
  simp only [sound.claimant_eq_some, sound'.claimant_eq_some, floatings]

theorem owner_congr {other : Inventory} (sound : inv.Sound) (sound' : other.Sound)
    (range : inv.range? name = other.range? name)
    (floatings : ∀ k, inv.floating? k = other.floating? k) (address : Ipv4) :
    inv.allocator.owner name address = other.allocator.owner name address := by
  rw [sound.owner_eq, sound'.owner_eq, range, sound.claimant_congr sound' floatings]

/-- Two sound inventories with the same records are equal. -/
theorem ext_records {other : Inventory} (sound : inv.Sound) (sound' : other.Sound)
    (ranges : ∀ n, inv.range? n = other.range? n)
    (floatings : ∀ k, inv.floating? k = other.floating? k) : inv = other := by
  refine Inventory.ext_view ranges floatings (fun n => ?_) fun n a => ?_
  · rw [sound.spans, sound'.spans, ranges]
  · exact sound.owner_congr sound' (ranges n) floatings a

/-- An identity that is not stored holds no address. -/
theorem owner_ne_of_none (sound : inv.Sound) (plain : key.Plain)
    (missing : inv.floating? key = none) (range : String) (address : Ipv4) :
    inv.allocator.owner range address ≠ some key.text := by
  intro held
  cases found : inv.range? range with
  | none =>
    rw [sound.owner_of_range?_eq_none found] at held
    cases held
  | some record =>
    obtain ⟨key', record', stored, -, -, -, same⟩ := (sound.held _ _ found _ _).mp held
    obtain rfl := RecordKey.text_inj plain (sound.floating key' record' stored).2 same
    rw [missing] at stored
    cases stored

/-- The address of a stored record is held if and only if its range has it. -/
theorem isHeld_iff (sound : inv.Sound) {record : FloatingRecord} {range : RangeRecord}
    {address : Ipv4} (stored : inv.floating? key = some record)
    (found : inv.range? record.range = some range) (carried : record.address = some address) :
    (record.address.bind (inv.allocator.owner record.range)).isSome ↔
      range.span.contains address := by
  rw [carried, Option.bind_some, Option.isSome_iff_exists]
  constructor
  · rintro ⟨owner, held⟩
    obtain ⟨_, _, _, _, _, usable, _⟩ := (sound.held _ _ found address owner).mp held
    exact usable
  · intro usable
    exact ⟨key.text, (sound.held _ _ found address key.text).mpr
      ⟨key, record, stored, rfl, carried, usable, rfl⟩⟩

/-- The range of a held address is known. -/
theorem range?_of_isHeld (sound : inv.Sound) {record : FloatingRecord}
    (held : (record.address.bind (inv.allocator.owner record.range)).isSome) :
    ∃ range, inv.range? record.range = some range := by
  obtain ⟨owner, held⟩ := Option.isSome_iff_exists.mp held
  obtain ⟨address, -, owned⟩ := Option.bind_eq_some_iff.mp held
  cases found : inv.range? record.range with
  | none =>
    rw [sound.owner_of_range?_eq_none found] at owned
    cases owned
  | some range => exact ⟨range, rfl⟩

theorem createRange (sound : inv.Sound) {record : RangeRecord} (formed : record.WellFormed)
    {reg : Registration} (h : inv.createRange record = .ok (reg, after)) : after.Sound := by
  obtain ⟨-, span, parsed, ranges, floatings, spans, owners⟩ := createRange_ok h
  obtain rfl : span = record.span := Option.some.inj (parsed.symm.trans formed)
  constructor
  · constructor
    · intro n
      rw [spans, ranges, sound.spans]
      split <;> rfl
    · simpa only [floatings] using sound.addressed
    · simpa only [floatings] using sound.unshared
    · intro n range found a owner
      simp only [floatings, owners]
      rw [ranges] at found
      split at found
      next same =>
        cases found
        rw [if_pos same]
        split
        next usable => simp [sound.claimant_eq_some, usable]
        next unusable => simp [unusable]
      next other =>
        rw [if_neg other]
        exact sound.held n range found a owner
  · constructor
    · intro n range found
      rw [ranges] at found
      split at found
      next same =>
        cases found
        exact ⟨same, formed⟩
      · exact sound.range n range found
    · simpa only [floatings] using sound.floating

theorem deleteRange (sound : inv.Sound) {removal : Removal}
    (h : inv.deleteRange name = .ok (removal, after)) : after.Sound := by
  obtain ⟨-, ranges, floatings, spans, owners⟩ := deleteRange_ok h
  constructor
  · constructor
    · intro n
      rw [spans, ranges, sound.spans]
      split <;> rfl
    · simpa only [floatings] using sound.addressed
    · simpa only [floatings] using sound.unshared
    · intro n range found a owner
      rw [ranges] at found
      split at found
      · cases found
      next other =>
        simp only [floatings, owners, if_neg other]
        exact sound.held n range found a owner
  · constructor
    · intro n range found
      rw [ranges] at found
      split at found
      · cases found
      · exact sound.range n range found
    · simpa only [floatings] using sound.floating

/-- A claim for an identity that is not stored obtains a usable address that nobody holds and
no record of the range has. -/
theorem claim_fresh (sound : inv.Sound) {record : FloatingRecord} (plain : record.key.Plain)
    (missing : inv.floating? record.key = none) {claim : Claim}
    (h : inv.claim record = .ok (claim, after)) :
    ∃ range, inv.range? record.range = some range ∧ range.span.contains claim.address ∧
      inv.allocator.owner record.range claim.address = none ∧
      ∀ key stored, inv.floating? key = some stored → stored.range = record.range →
        stored.address ≠ some claim.address := by
  obtain ⟨acquired, -⟩ := claim_ok h
  obtain ⟨span, known⟩ := Option.isSome_iff_exists.mp (Allocator.acquire_ok acquired).1
  obtain ⟨usable, unheld, -⟩ := Allocator.acquire_granted known (sound.ordered known) acquired
  obtain ⟨range, found, rfl⟩ := Option.map_eq_some_iff.mp ((sound.spans _).symm.trans known)
  have unheld : inv.allocator.owner record.range claim.address = none := by
    obtain unheld | ⟨own, -⟩ := unheld
    · exact unheld
    · exact absurd own (sound.owner_ne_of_none plain missing _ _)
  refine ⟨range, found, usable, unheld, fun key stored isStored drawn carried => ?_⟩
  have held := (sound.held _ _ found claim.address key.text).mpr
    ⟨key, stored, isStored, drawn, carried, usable, rfl⟩
  rw [unheld] at held
  cases held

/-- After a claim the held addresses of each range are those that stored records draw from it: the
claimed address is now the one of the new record, and nothing else has changed. -/
theorem claim_held (sound : inv.Sound) {record : FloatingRecord} (plain : record.key.Plain)
    (missing : inv.floating? record.key = none) {claim : Claim}
    (h : inv.claim record = .ok (claim, after)) {known : RangeRecord}
    (isKnown : inv.range? name = some known) (address : Ipv4) (owner : String) :
    after.allocator.owner name address = some owner ↔
      ∃ key stored, after.floating? key = some stored ∧ stored.range = name ∧
        stored.address = some address ∧ known.span.contains address ∧ owner = key.text := by
  obtain ⟨range, found, usable, -, unused⟩ := sound.claim_fresh plain missing h
  obtain ⟨acquired, -, -, -, floatings⟩ := claim_ok h
  obtain ⟨-, -, owners⟩ := Allocator.acquire_ok acquired
  rw [owners]
  split
  next same =>
    obtain ⟨rfl, rfl⟩ := same
    obtain rfl : range = known := Option.some.inj (found.symm.trans isKnown)
    constructor
    · rintro ⟨⟩
      exact ⟨record.key, { record with address := some claim.address },
        by rw [floatings, if_pos rfl], rfl, rfl, usable, rfl⟩
    · rintro ⟨key, stored, isStored, drawn, carried, -, rfl⟩
      rw [floatings] at isStored
      split at isStored
      next same => rw [FloatingRecord.owner, same]
      · exact absurd carried (unused key stored isStored drawn)
  next other =>
    rw [sound.held name known isKnown]
    constructor
    · rintro ⟨key, stored, isStored, rest⟩
      refine ⟨key, stored, ?_, rest⟩
      rw [floatings, if_neg, isStored]
      rintro rfl
      rw [missing] at isStored
      cases isStored
    · rintro ⟨key, stored, isStored, drawn, carried, rest⟩
      rw [floatings] at isStored
      split at isStored
      · cases isStored
        exact absurd ⟨drawn, Option.some.inj carried⟩ other
      · exact ⟨key, stored, isStored, drawn, carried, rest⟩

theorem claim (sound : inv.Sound) {record : FloatingRecord} (plain : record.key.Plain)
    (missing : inv.floating? record.key = none) {claim : Claim}
    (h : inv.claim record = .ok (claim, after)) : after.Sound := by
  obtain ⟨-, -, -, -, unused⟩ := sound.claim_fresh plain missing h
  obtain ⟨acquired, -, -, ranges, floatings⟩ := claim_ok h
  obtain ⟨-, spans, -⟩ := Allocator.acquire_ok acquired
  constructor
  · constructor
    · intro n
      rw [spans, ranges, sound.spans]
    · intro key stored isStored
      rw [floatings] at isStored
      split at isStored
      · cases isStored
        rfl
      · exact sound.addressed key stored isStored
    · intro key key' stored stored' isStored isStored' drawn carried
      rw [floatings] at isStored isStored'
      split at isStored <;> split at isStored'
      next same same' => exact same.symm.trans same'
      · cases isStored
        exact absurd carried.symm (unused key' stored' isStored' drawn.symm)
      · cases isStored'
        exact absurd carried (unused key stored isStored drawn)
      · exact sound.unshared key key' stored stored' isStored isStored' drawn carried
    · intro n known isKnown
      rw [ranges] at isKnown
      exact sound.claim_held plain missing h isKnown
  · constructor
    · simpa only [ranges] using sound.range
    · intro key stored isStored
      rw [floatings] at isStored
      split at isStored
      next same =>
        cases isStored
        exact ⟨same, same ▸ plain⟩
      · exact sound.floating key stored isStored

/-- After a rollback the held addresses of each range are those that the remaining records draw
from it: nobody else had the address of the record that was taken out. -/
theorem rollback_held (sound : inv.Sound) {record : FloatingRecord}
    (found : inv.floating? key = some record) {range : RangeRecord}
    (isKnown : inv.range? name = some range) (address : Ipv4) (owner : String) :
    (inv.rollback key).allocator.owner name address = some owner ↔
      ∃ key' stored, (inv.rollback key).floating? key' = some stored ∧ stored.range = name ∧
        stored.address = some address ∧ range.span.contains address ∧ owner = key'.text := by
  obtain ⟨-, floatings, -, owners⟩ := rollback_view found
  rw [owners]
  split
  next same =>
    constructor
    · rintro ⟨⟩
    · rintro ⟨key', stored, isStored, drawn, carried, -⟩
      obtain ⟨other, isStored⟩ := floating?_of_rollback isStored
      exact absurd (sound.unshared key key' record stored found isStored
        (same.1.trans drawn.symm) (same.2.trans carried.symm)) other
  next other =>
    rw [sound.held name range isKnown]
    constructor
    · rintro ⟨key', stored, isStored, drawn, carried, rest⟩
      refine ⟨key', stored, ?_, drawn, carried, rest⟩
      rw [floatings, if_neg, isStored]
      rintro rfl
      obtain rfl : record = stored := Option.some.inj (found.symm.trans isStored)
      exact other ⟨drawn, carried⟩
    · rintro ⟨key', stored, isStored, rest⟩
      exact ⟨key', stored, (floating?_of_rollback isStored).2, rest⟩

theorem rollback (sound : inv.Sound) (key : RecordKey) : (inv.rollback key).Sound := by
  cases found : inv.floating? key with
  | none => rwa [rollback_of_none found]
  | some record =>
    obtain ⟨ranges, -, spans, -⟩ := rollback_view found
    constructor
    · constructor
      · intro n
        rw [spans, ranges, sound.spans]
      · intro key' stored isStored
        exact sound.addressed key' stored (floating?_of_rollback isStored).2
      · intro key₁ key₂ stored₁ stored₂ isStored₁ isStored₂
        exact sound.unshared key₁ key₂ stored₁ stored₂ (floating?_of_rollback isStored₁).2
          (floating?_of_rollback isStored₂).2
      · intro n range isKnown
        rw [ranges] at isKnown
        exact sound.rollback_held found isKnown
    · constructor
      · simpa only [ranges] using sound.range
      · intro key' stored isStored
        exact sound.floating key' stored (floating?_of_rollback isStored).2

/-- Nobody held the address that a claim obtained: either it was the lowest free one, or it was
asked for by an identity that holds none. -/
theorem claim_unheld (sound : inv.Sound) {record : FloatingRecord}
    (missing : inv.floating? record.key = none) {claim : Claim}
    (h : inv.claim record = .ok (claim, after))
    (entitled : record.address = none ∨ record.key.Plain) :
    inv.allocator.owner record.range claim.address = none := by
  obtain unasked | plain := entitled
  · obtain ⟨acquired, -⟩ := claim_ok h
    obtain ⟨span, known⟩ := Option.isSome_iff_exists.mp (Allocator.acquire_ok acquired).1
    obtain ⟨-, unheld | ⟨-, asked⟩, -⟩ :=
      Allocator.acquire_granted known (sound.ordered known) acquired
    · exact unheld
    · rw [unasked] at asked
      cases asked
  · obtain ⟨-, -, -, unheld, -⟩ := sound.claim_fresh plain missing h
    exact unheld

end Sound

/-- Undoing a claim restores the inventory, if nobody held the address before. -/
theorem rollback_claim {record : FloatingRecord} (missing : inv.floating? record.key = none)
    {claim : Claim} (h : inv.claim record = .ok (claim, after))
    (unheld : inv.allocator.owner record.range claim.address = none) :
    after.rollback record.key = inv := by
  obtain ⟨acquired, -, -, ranges, floatings⟩ := claim_ok h
  obtain ⟨-, spans, owners⟩ := Allocator.acquire_ok acquired
  have stored : after.floating? record.key = some { record with address := some claim.address } :=
    (floatings _).trans (if_pos rfl)
  obtain ⟨ranges', floatings', spans', owners'⟩ := rollback_view stored
  refine Inventory.ext_view (fun n => ?_) (fun k => ?_) (fun n => ?_) fun n a => ?_
  · rw [ranges', ranges]
  · rw [floatings', floatings]
    split
    next same => rw [← same, missing]
    · rfl
  · rw [spans', spans]
  · rw [owners', owners]
    simp only [Option.some.injEq]
    split
    next hit =>
      obtain ⟨rfl, rfl⟩ := hit
      exact unheld.symm
    · rfl

end Inventory

end FloatingAddress
