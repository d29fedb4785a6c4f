import FloatingAddress.Proofs.Inventory.Counting
import FloatingAddress.Proofs.Reconcile.Redelivery
import Mathlib.Data.Bool.Count

/-!
# The objects that are there at the start

The objects of a cluster are accepted one after the other, the ranges first. Objects that carry an
address come before those that carry none, so no address is chosen that an object asks for, and of
several objects that ask for one address the first one gets it. Whether an object counts as carrying
an address is decided from its text when the objects are put in order, and again when it is checked;
both agree on every object that is accepted.
-/

namespace FloatingAddress

open Dialogue Reconcile

/-- A valid text for an address is not blank, and only such a text yields an address. -/
theorem FloatingRecord.isSome_carriedAddress {key : RecordKey} {text : Option String}
    {address : Option Ipv4} (h : carriedAddress key text = .ok address) :
    address.isSome = (text.bind Text.nonBlank).isSome := by
  unfold carriedAddress at h
  split at h
  next absent =>
    cases h
    rw [absent]
    rfl
  next value present =>
    split at h
    · cases h
    · cases h
      rw [present]
      rfl

namespace Manifest.Floating

variable {m : Manifest.Floating} {name : String} {address : Ipv4}

/-- The range and the address that a valid object asks for. -/
def request? (m : Manifest.Floating) : Option (String × Ipv4) :=
  (FloatingRecord.ofManifest m).toOption.bind fun record =>
    record.address.map (record.range, ·)

/-- An accepted object carries an address if and only if its record has one. -/
theorem carriesAddress_eq {record : FloatingRecord}
    (accepted : FloatingRecord.ofManifest m = .ok record) :
    carriesAddress m = record.address.isSome := by
  obtain ⟨-, -, -, carried, -⟩ := FloatingRecord.ofManifest_eq_ok.mp accepted
  exact (FloatingRecord.isSome_carriedAddress carried).symm

theorem request?_eq_some :
    m.request? = some (name, address) ↔ ∃ record, FloatingRecord.ofManifest m = .ok record ∧
      record.range = name ∧ record.address = some address := by
  unfold request?
  cases FloatingRecord.ofManifest m with
  | error error => simp [Except.toOption]
  | ok record =>
    simp only [Except.toOption, Option.bind_some, Option.map_eq_some_iff, Prod.mk.injEq,
      Except.ok.injEq, exists_eq_left']
    constructor
    · rintro ⟨_, has, drawn, rfl⟩
      exact ⟨drawn, has⟩
    · rintro ⟨drawn, has⟩
      exact ⟨address, has, drawn, rfl⟩

theorem carriesAddress_of_request? (asks : m.request? = some (name, address)) :
    carriesAddress m := by
  obtain ⟨record, accepted, -, has⟩ := request?_eq_some.mp asks
  rw [carriesAddress_eq accepted, has]
  rfl

/-- An object that carries an address asks for what its record says. -/
theorem Repeats.request?_eq {stored : FloatingRecord} (repeats : m.Repeats stored)
    (carries : carriesAddress m) (has : stored.address = some address) :
    m.request? = some (stored.range, address) := by
  obtain ⟨incoming, accepted, same⟩ := repeats
  rw [carriesAddress_eq accepted] at carries
  obtain ⟨given, asked⟩ := Option.isSome_iff_exists.mp carries
  rw [keepingAddress_of_some asked] at same
  subst same
  exact request?_eq_some.mpr ⟨incoming, accepted, rfl, has⟩

end Manifest.Floating

namespace Operator

variable {α β : Type} (persist : RecordKey → Ipv4 → Except OperatorError Unit)

theorem finish_bind (d : Step α) (f : α → Step β) (op : Operator) :
    op.finish persist (d >>= f) =
      (op.finish persist d).2.finish persist (f (op.finish persist d).1) := by
  simp only [finish_eq_play, play_bind]

/-- An object of a list is accepted or reported. -/
theorem finish_seedOne (kind : WatchKind) (object : String) (handler : Handler Unit)
    (op : Operator) :
    (op.finish persist (seedOne kind object handler)).1 = (op.finish persist handler.run).1.isOk ∧
      (op.finish persist (seedOne kind object handler)).2.inventory =
        (op.finish persist handler.run).2.inventory := by
  unfold seedOne
  rw [finish_bind]
  cases (op.finish persist handler.run).1 with
  | error error => exact ⟨rfl, rfl⟩
  | ok _ => exact ⟨rfl, rfl⟩

/-- What holds of the objects so far and of the number of those that were accepted, and is kept up
by each further object, holds of the whole list. -/
theorem finish_mapM_seedOne (kind : WatchKind) (object : α → String) (handler : α → Handler Unit)
    (holds : List α → Nat → Inventory → Prop) (list : List α)
    (step : ∀ seen m rest, list = seen ++ m :: rest → ∀ n (op : Operator),
      holds seen n op.inventory →
      holds (seen ++ [m]) (n + if (op.finish persist (handler m).run).1.isOk then 1 else 0)
        (op.finish persist (handler m).run).2.inventory)
    (op : Operator) (start : holds [] 0 op.inventory) :
    let run := op.finish persist (list.mapM fun m => seedOne kind (object m) (handler m))
    run.1.length = list.length ∧ holds list (run.1.count true) run.2.inventory := by
  -- The induction is on what is left of the list, from any state that what came before leads to.
  suffices general : ∀ left seen n (op : Operator), list = seen ++ left →
      holds seen n op.inventory →
      let run := op.finish persist (left.mapM fun m => seedOne kind (object m) (handler m))
      run.1.length = left.length ∧ holds list (n + run.1.count true) run.2.inventory by
    have whole := general list [] 0 op rfl start
    simp only [Nat.zero_add] at whole
    exact whole
  intro left
  induction left with
  | nil =>
    intro seen n op split start
    rw [List.append_nil] at split
    exact ⟨rfl, split ▸ start⟩
  | cons m rest ih =>
    intro seen n op split start
    obtain ⟨accepted, same⟩ := op.finish_seedOne persist kind (object m) (handler m)
    have next := step seen m rest split n op start
    rw [← accepted, ← same] at next
    obtain ⟨length, after⟩ := ih (seen ++ [m]) _ _ (by simp [split]) next
    have unfolded : op.finish persist
        ((m :: rest).mapM fun m => seedOne kind (object m) (handler m)) =
          let first := op.finish persist (seedOne kind (object m) (handler m))
          let later := first.2.finish persist
            (rest.mapM fun m => seedOne kind (object m) (handler m))
          (first.1 :: later.1, later.2) := by
      rw [List.mapM_cons, finish_bind, finish_bind]
      rfl
    simp only [unfolded, List.length_cons, List.count_cons, beq_true]
    rw [Nat.add_comm (List.count _ _), ← Nat.add_assoc]
    exact ⟨congrArg (· + 1) length, after⟩

/-- A new range is registered, or nothing changes. -/
theorem finish_applyRange_new {m : Manifest.Range} {op : Operator}
    (missing : op.inventory.range? m.metadata.anyName = none) :
    (∃ error, (op.finish persist (applyRange m).run).1 = .error error ∧
      (op.finish persist (applyRange m).run).2.inventory = op.inventory) ∨
    ∃ record registration, (op.finish persist (applyRange m).run).1 = .ok () ∧
      RangeRecord.ofManifest m = .ok record ∧ op.inventory.createRange record =
        .ok (registration, (op.finish persist (applyRange m).run).2.inventory) := by
  have same := op.finish_inventory persist (applyRange m).run
  rw [unmeasured_applyRange, play_ask, Inventory.answer_range, missing] at same
  obtain ⟨error, played⟩ | ⟨record, registration, after, accepted, h, played⟩ :=
    op.inventory.play_asked persist m
  · obtain ⟨fails, stays⟩ := Prod.mk.inj (same.symm.trans played)
    exact .inl ⟨error, fails, stays⟩
  · obtain ⟨fine, rfl⟩ := Prod.mk.inj (same.symm.trans played)
    exact .inr ⟨record, registration, fine, accepted, h⟩

/-- A new floating address is claimed, or nothing changes. -/
theorem finish_applyFloating_new {m : Manifest.Floating} {op : Operator}
    (sound : op.inventory.Sound) (missing : op.inventory.floating? (lookupKey m) = none) :
    (∃ error, (op.finish persist (applyFloating m).run).1 = .error error ∧
      (op.finish persist (applyFloating m).run).2.inventory = op.inventory) ∨
    ∃ incoming claim, (op.finish persist (applyFloating m).run).1 = .ok () ∧
      FloatingRecord.ofManifest m = .ok incoming ∧ op.inventory.claim incoming =
        .ok (claim, (op.finish persist (applyFloating m).run).2.inventory) := by
  cases result : (op.finish persist (applyFloating m).run).1 with
  | error error =>
    have books := Books.finish_eq persist (applyFloating m).run op
    have sound' : op.books.inventory.Sound := sound
    have same := Books.finish_applyFloating_new sound' missing
      ((congrArg Prod.fst books).trans result)
    rw [books] at same
    exact .inl ⟨error, rfl, congrArg Books.inventory same⟩
  | ok _ =>
    have played := op.finish_inventory persist (applyFloating m).run
    rw [unmeasured_applyFloating, play_ask, Inventory.answer_floating, missing] at played
    cases accepted : FloatingRecord.ofManifest m with
    | error error =>
      rw [accepted] at played
      exact absurd (congrArg Prod.fst played).symm (by simp [result])
    | ok incoming =>
      rw [accepted] at played
      dsimp only at played
      obtain ⟨claim, h⟩ := Inventory.claim_of_createFloating
        ((congrArg Prod.fst played).trans result)
      rw [played] at h
      exact .inr ⟨incoming, claim, rfl, rfl, h⟩

/-- A new object is accepted if its claim is granted and there is nothing to write back. -/
theorem finish_applyFloating_granted {m : Manifest.Floating} {op : Operator}
    {incoming : FloatingRecord} {claim : Inventory.Claim} {after : Inventory}
    (missing : op.inventory.floating? (lookupKey m) = none)
    (accepted : FloatingRecord.ofManifest m = .ok incoming) (carries : incoming.address.isSome)
    (granted : op.inventory.claim incoming = .ok (claim, after)) :
    (op.finish persist (applyFloating m).run).1 = .ok () := by
  have same := op.finish_inventory persist (applyFloating m).run
  rw [unmeasured_applyFloating, play_ask, Inventory.answer_floating, missing, accepted] at same
  dsimp only at same
  rw [carries, unmeasured_createFloating, play_ask, Inventory.answer,
    Inventory.attempt_of_ok granted] at same
  exact (congrArg Prod.fst same).symm

end Operator

namespace Reconcile

variable {op : Operator} (persist : RecordKey → Ipv4 → Except OperatorError Unit)

/-- What holds after some of the ranges: the accepted ones are stored, and there is nothing else. -/
structure Ranged (seen : List Manifest.Range) (accepted : Nat) (inv : Inventory) : Prop where
  sound : inv.Sound
  count : inv.store.ranges.length = accepted
  origin : ∀ name record, inv.range? name = some record →
    name ∈ seen.map (·.metadata.anyName)
  unused : ∀ key, inv.floating? key = none

theorem Ranged.empty : Ranged [] 0 .empty where
  sound := .empty
  count := rfl
  origin name record stored := by
    rw [Inventory.range?_empty] at stored
    cases stored
  unused := Inventory.floating?_empty

theorem Ranged.apply {seen : List Manifest.Range} {accepted : Nat} {m : Manifest.Range}
    (ranged : Ranged seen accepted op.inventory)
    (fresh : m.metadata.anyName ∉ seen.map (·.metadata.anyName)) :
    Ranged (seen ++ [m])
      (accepted + if (op.finish persist (applyRange m).run).1.isOk then 1 else 0)
      (op.finish persist (applyRange m).run).2.inventory := by
  have missing : op.inventory.range? m.metadata.anyName = none := by
    cases found : op.inventory.range? m.metadata.anyName with
    | none => rfl
    | some record => exact absurd (ranged.origin _ _ found) fresh
  obtain ⟨error, fails, stays⟩ | ⟨record, registration, fine, valid, h⟩ :=
    Operator.finish_applyRange_new persist missing
  · rw [fails, stays]
    refine ⟨ranged.sound, ranged.count, fun name record stored => ?_, ranged.unused⟩
    rw [List.map_append]
    exact List.mem_append_left _ (ranged.origin name record stored)
  · obtain ⟨named, formed⟩ := RangeRecord.ofManifest_ok valid
    obtain ⟨-, _, -, ranges, floatings, -⟩ := Inventory.createRange_ok h
    rw [fine]
    constructor
    · exact ranged.sound.createRange formed h
    · have one := Store.length_ranges_add (named ▸ missing) ranges
      rw [ranged.count] at one
      exact one
    · intro name stored found
      rw [List.map_append, List.mem_append]
      rw [ranges] at found
      split at found
      next same => exact .inr (by simp [← same, named])
      · exact .inl (ranged.origin name stored found)
    · intro key
      exact (floatings key).trans (ranged.unused key)

/-- What holds after some of the floating addresses: each record is the one of an object, its range
has its address, and whatever address was asked for is the address of the first one that asked. -/
structure Seeded (ranges : String → Option RangeRecord) (seen : List Manifest.Floating)
    (accepted : Nat) (inv : Inventory) : Prop where
  sound : inv.Sound
  range? : ∀ name, inv.range? name = ranges name
  count : inv.store.floatings.length = accepted
  origin : ∀ key stored, inv.floating? key = some stored →
    ∃ m ∈ seen, lookupKey m = key ∧ m.Repeats stored
  usable : ∀ key stored address, inv.floating? key = some stored →
    stored.address = some address →
    ∃ range, ranges stored.range = some range ∧ range.span.contains address
  first : ∀ name range address m, ranges name = some range → range.span.contains address →
    seen.find? (·.request? = some (name, address)) = some m →
    ∃ stored, inv.floating? (lookupKey m) = some stored ∧ stored.range = name ∧
      stored.address = some address

namespace Seeded

variable {ranges : String → Option RangeRecord} {seen : List Manifest.Floating} {accepted : Nat}
  {inv : Inventory} {m : Manifest.Floating}

theorem start (sound : inv.Sound) (unused : ∀ key, inv.floating? key = none) :
    Seeded inv.range? [] 0 inv where
  sound := sound
  range? name := rfl
  count := by
    rw [List.length_eq_zero_iff, List.eq_nil_iff_forall_not_mem]
    intro record member
    obtain ⟨key, stored⟩ := Store.mem_floatings.mp member
    exact absurd (stored.symm.trans (unused key)) (by simp)
  origin key stored found := by simp [unused] at found
  usable key stored address found := by simp [unused] at found
  first name range address m _ _ found := by simp at found

/-- An object with another identity is new. -/
theorem missing (seeded : Seeded ranges seen accepted inv)
    (fresh : lookupKey m ∉ seen.map lookupKey) : inv.floating? (lookupKey m) = none := by
  cases found : inv.floating? (lookupKey m) with
  | none => rfl
  | some stored =>
    obtain ⟨other, member, same, -⟩ := seeded.origin _ _ found
    exact absurd (List.mem_map.mpr ⟨other, member, same⟩) fresh

/-- As long as only objects that carry an address came, nobody holds an address that none of them
asked for. -/
theorem unheld (seeded : Seeded ranges seen accepted inv) {name : String} {range : RangeRecord}
    {address : Ipv4} (known : ranges name = some range)
    (carrying : ∀ other ∈ seen, carriesAddress other)
    (unasked : ∀ other ∈ seen, other.request? ≠ some (name, address)) :
    inv.allocator.owner name address = none := by
  cases held : inv.allocator.owner name address with
  | none => rfl
  | some owner =>
    have found := (seeded.range? name).trans known
    obtain ⟨key, stored, isStored, rfl, has, -⟩ :=
      (seeded.sound.held name range found address owner).mp held
    obtain ⟨other, member, -, repeats⟩ := seeded.origin key stored isStored
    exact absurd (repeats.request?_eq (carrying other member) has) (unasked other member)

/-- The first one to ask for an address is the one that has asked before, or else the new object. -/
theorem first_append {after : Inventory} (seeded : Seeded ranges seen accepted inv)
    (kept : ∀ key stored, inv.floating? key = some stored → after.floating? key = some stored)
    (own : ∀ name range address, ranges name = some range → range.span.contains address →
      m.request? = some (name, address) →
      (∀ other ∈ seen, other.request? ≠ some (name, address)) →
      ∃ stored, after.floating? (lookupKey m) = some stored ∧ stored.range = name ∧
        stored.address = some address)
    (name : String) (range : RangeRecord) (address : Ipv4) (other : Manifest.Floating)
    (known : ranges name = some range) (usable : range.span.contains address)
    (found : (seen ++ [m]).find? (·.request? = some (name, address)) = some other) :
    ∃ stored, after.floating? (lookupKey other) = some stored ∧ stored.range = name ∧
      stored.address = some address := by
  rw [List.find?_append] at found
  cases earlier : seen.find? (·.request? = some (name, address)) with
  | some one =>
    rw [earlier, Option.some_or] at found
    obtain rfl := Option.some.inj found
    obtain ⟨stored, isStored, rest⟩ := seeded.first name range address one known usable earlier
    exact ⟨stored, kept _ _ isStored, rest⟩
  | none =>
    rw [earlier, Option.none_or] at found
    obtain rfl := List.mem_singleton.mp (List.mem_of_find?_eq_some found)
    have asks : other.request? = some (name, address) := by simpa using List.find?_some found
    exact own name range address known usable asks (by simpa using earlier)

/-- An object that is refused has asked for nothing that it could have had. -/
theorem refused (seeded : Seeded ranges seen accepted op.inventory)
    (fresh : lookupKey m ∉ seen.map lookupKey)
    (order : carriesAddress m → ∀ other ∈ seen, carriesAddress other) {error : OperatorError}
    (fails : (op.finish persist (applyFloating m).run).1 = .error error) :
    Seeded ranges (seen ++ [m]) accepted op.inventory where
  sound := seeded.sound
  range? := seeded.range?
  count := seeded.count
  origin key stored found := by
    obtain ⟨other, member, rest⟩ := seeded.origin key stored found
    exact ⟨other, List.mem_append_left _ member, rest⟩
  usable := seeded.usable
  first := by
    refine seeded.first_append (fun _ _ found => found) fun name range address known usable asks
      unasked => ?_
    -- It is the first one to ask, and nothing was chosen for others so far, so it is not refused.
    obtain ⟨record, valid, rfl, has⟩ := Manifest.Floating.request?_eq_some.mp asks
    have carrying := order (Manifest.Floating.carriesAddress_of_request? asks)
    have unheld := seeded.unheld known carrying unasked
    have span := seeded.sound.span_of_range? ((seeded.range? _).trans known)
    obtain ⟨allocator, acquired⟩ := Allocator.acquire_requested span usable (.inl unheld)
    rw [← has] at acquired
    obtain ⟨after, granted⟩ := Inventory.claim_of_acquire acquired
    have fine := Operator.finish_applyFloating_granted persist
      (seeded.missing fresh) valid (by rw [has]; rfl) granted
    rw [fine] at fails
    cases fails

/-- An object that is accepted has what it asks for, and its range has it. -/
theorem claimed {incoming : FloatingRecord} {claim : Inventory.Claim} {after : Inventory}
    (seeded : Seeded ranges seen accepted inv) (plain : (lookupKey m).Plain)
    (fresh : lookupKey m ∉ seen.map lookupKey)
    (valid : FloatingRecord.ofManifest m = .ok incoming)
    (h : inv.claim incoming = .ok (claim, after)) :
    Seeded ranges (seen ++ [m]) (accepted + 1) after := by
  have own := FloatingRecord.ofManifest_ok valid
  have missing := seeded.missing fresh
  rw [← own] at plain missing
  obtain ⟨range, known, usable, -⟩ := seeded.sound.claim_fresh plain missing h
  obtain ⟨acquired, -, -, sameRanges, floatings⟩ := Inventory.claim_ok h
  constructor
  · exact seeded.sound.claim plain missing h
  · intro name
    exact (sameRanges name).trans (seeded.range? name)
  · have one := Store.length_floatings_add missing floatings
    rw [seeded.count] at one
    exact one
  · intro key stored found
    obtain ⟨now, isNow, repeats⟩ :=
      Inventory.repeats_of_claim valid (fun _ asks => asks) (fun _ => rfl) h
    by_cases same : lookupKey m = key
    · subst same
      obtain rfl := Option.some.inj (isNow.symm.trans found)
      exact ⟨m, by simp, rfl, repeats⟩
    · rw [floatings, if_neg (own ▸ same)] at found
      obtain ⟨other, member, rest⟩ := seeded.origin key stored found
      exact ⟨other, List.mem_append_left _ member, rest⟩
  · intro key stored address found has
    rw [floatings] at found
    split at found
    · cases found
      cases has
      exact ⟨range, (seeded.range? _).symm.trans known, usable⟩
    · exact seeded.usable key stored address found has
  · refine seeded.first_append (fun _ _ => Inventory.floating?_of_claim h missing)
      fun name range address known usable asks _ => ?_
    obtain ⟨record, valid', rfl, has⟩ := Manifest.Floating.request?_eq_some.mp asks
    obtain rfl : incoming = record := Except.ok.inj (valid.symm.trans valid')
    rw [has] at acquired
    refine ⟨_, (floatings _).trans (if_pos own), rfl, ?_⟩
    exact congrArg some (Allocator.acquire_some acquired)

/-- Each further object keeps this up, as long as it does not carry an address after one that does
not. -/
theorem apply (seeded : Seeded ranges seen accepted op.inventory) (plain : (lookupKey m).Plain)
    (fresh : lookupKey m ∉ seen.map lookupKey)
    (order : carriesAddress m → ∀ other ∈ seen, carriesAddress other) :
    Seeded ranges (seen ++ [m])
      (accepted + if (op.finish persist (applyFloating m).run).1.isOk then 1 else 0)
      (op.finish persist (applyFloating m).run).2.inventory := by
  obtain ⟨error, fails, stays⟩ | ⟨incoming, claim, fine, valid, h⟩ :=
    Operator.finish_applyFloating_new persist seeded.sound (seeded.missing fresh)
  · have refused := seeded.refused persist fresh order fails
    rw [fails, stays]
    exact refused
  · rw [fine]
    exact seeded.claimed plain fresh valid h

end Seeded

theorem floatingOrder_perm (floatings : List Manifest.Floating) :
    (floatingOrder floatings).Perm floatings :=
  List.filter_append_perm carriesAddress floatings

theorem rangeOrder_perm (ranges : List Manifest.Range) : (rangeOrder ranges).Perm ranges :=
  List.mergeSort_perm ..

/-- An object that carries an address comes after such objects only. -/
theorem pairwise_floatingOrder (floatings : List Manifest.Floating) :
    (floatingOrder floatings).Pairwise fun first later =>
      carriesAddress later → carriesAddress first := by
  refine List.pairwise_append.mpr ⟨?_, ?_, ?_⟩
  · refine List.pairwise_of_forall_mem_list fun first member later _ _ => ?_
    exact (List.mem_filter.mp member).2
  · refine List.pairwise_of_forall_mem_list fun first _ later member carries => ?_
    have blank := (List.mem_filter.mp member).2
    rw [carries] at blank
    cases blank
  · intro first member later _ _
    exact (List.mem_filter.mp member).2

theorem carriesAddress_of_earlier {floatings seen rest : List Manifest.Floating}
    {m other : Manifest.Floating} (split : floatingOrder floatings = seen ++ m :: rest)
    (earlier : other ∈ seen) (carries : carriesAddress m) : carriesAddress other := by
  have pairs := pairwise_floatingOrder floatings
  rw [split, List.pairwise_append] at pairs
  exact pairs.2.2 other earlier m (List.mem_cons_self ..) carries

/-- The order does not change who asks first for an address. -/
theorem find?_floatingOrder (floatings : List Manifest.Floating) (name : String)
    (address : Ipv4) :
    (floatingOrder floatings).find? (·.request? = some (name, address)) =
      floatings.find? (·.request? = some (name, address)) := by
  have carrying : ∀ m : Manifest.Floating, m.request? = some (name, address) →
      carriesAddress m := fun m => Manifest.Floating.carriesAddress_of_request?
  have absent : (floatings.filter (!carriesAddress ·)).find?
      (·.request? = some (name, address)) = none := by
    refine List.find?_eq_none.mpr fun m member asks => ?_
    have blank := (List.mem_filter.mp member).2
    rw [carrying m (of_decide_eq_true asks)] at blank
    cases blank
  rw [floatingOrder, List.find?_append, absent, Option.or_none, List.find?_filter]
  congr 1
  funext m
  by_cases asks : m.request? = some (name, address) <;> simp [asks, carrying m]

/-- In a list without repetitions, what comes next has not been there before. -/
theorem not_mem_map_of_nodup {α β : Type} {f : α → β} {all seen rest : List α} {m : α}
    (nodup : (all.map f).Nodup) (split : all = seen ++ m :: rest) : f m ∉ seen.map f := by
  rw [split, List.map_append, List.map_cons, List.nodup_append] at nodup
  intro member
  exact nodup.2.2 _ member _ (List.mem_cons_self ..) rfl

theorem finish_seed (ranges : List Manifest.Range) (floatings : List Manifest.Floating)
    (op : Operator) :
    op.finish persist (seed ranges floatings) =
      let ranged := op.finish persist ((rangeOrder ranges).mapM fun m =>
        seedOne .range m.metadata.anyName (applyRange m))
      let seeded := ranged.2.finish persist ((floatingOrder floatings).mapM fun m =>
        seedOne .floating (floatingText m) (applyFloating m))
      ({ ranges := ranged.1.count true
         floatings := seeded.1.count true
         failed := (ranged.1 ++ seeded.1).count false }, seeded.2) := by
  unfold seed
  rw [Operator.finish_bind, Operator.finish_bind]
  rfl

/-- The ranges are registered first, and then the floating addresses find their addresses. -/
theorem seeded_seed (empty : op.inventory = .empty) {ranges : List Manifest.Range}
    {floatings : List Manifest.Floating} (names : (ranges.map (·.metadata.anyName)).Nodup)
    (keys : (floatings.map lookupKey).Nodup) (plain : ∀ m ∈ floatings, (lookupKey m).Plain) :
    let run := op.finish persist (seed ranges floatings)
    Seeded run.2.inventory.range? (floatingOrder floatings) run.1.floatings run.2.inventory ∧
      run.1.ranges = run.2.inventory.store.ranges.length ∧
      run.1.ranges + run.1.floatings + run.1.failed = ranges.length + floatings.length := by
  have names' : ((rangeOrder ranges).map (·.metadata.anyName)).Nodup :=
    ((rangeOrder_perm ranges).map _).nodup_iff.mpr names
  have keys' : ((floatingOrder floatings).map lookupKey).Nodup :=
    ((floatingOrder_perm floatings).map _).nodup_iff.mpr keys
  have plain' : ∀ m ∈ floatingOrder floatings, (lookupKey m).Plain := fun m member =>
    plain m ((floatingOrder_perm floatings).mem_iff.mp member)
  have ranging := op.finish_mapM_seedOne persist .range (fun m => m.metadata.anyName) applyRange
    Ranged (rangeOrder ranges)
    (fun seen m rest split n op ranged =>
      ranged.apply persist (not_mem_map_of_nodup names' split))
    (empty ▸ .empty)
  rw [finish_seed]
  dsimp only at ranging ⊢
  generalize op.finish persist ((rangeOrder ranges).mapM fun m =>
    seedOne .range m.metadata.anyName (applyRange m)) = ranged at ranging ⊢
  obtain ⟨length, ranging⟩ := ranging
  have seeding := ranged.2.finish_mapM_seedOne persist .floating floatingText applyFloating
    (Seeded ranged.2.inventory.range?) (floatingOrder floatings)
    (fun seen m rest split n op seeded =>
      seeded.apply persist (plain' m (by simp [split])) (not_mem_map_of_nodup keys' split)
        fun carries other earlier => carriesAddress_of_earlier split earlier carries)
    (.start ranging.sound ranging.unused)
  dsimp only at seeding
  generalize ranged.2.finish persist ((floatingOrder floatings).mapM fun m =>
    seedOne .floating (floatingText m) (applyFloating m)) = seeded at seeding ⊢
  obtain ⟨length', seeding⟩ := seeding
  have same : seeded.2.inventory.range? = ranged.2.inventory.range? := funext seeding.range?
  refine ⟨same ▸ seeding, ?_, ?_⟩
  · rw [Store.ranges_congr seeding.range?]
    exact ranging.count.symm
  · rw [(rangeOrder_perm ranges).length_eq] at length
    rw [(floatingOrder_perm floatings).length_eq] at length'
    have counted := List.count_true_add_count_false ranged.1
    have counted' := List.count_true_add_count_false seeded.1
    rw [List.count_append]
    omega

end Reconcile

/-- The objects that are there at the start are accepted into an inventory without records. Of those
that ask for an address of a range, the first one gets it if the range is registered and has the
address. An object that carries no address does not get one that another object asks for. The report
counts the registered ranges and the stored floating addresses, and everything else has failed. -/
theorem Operator.seed_keeps_requests {op : Operator} (empty : op.inventory = .empty)
    {ranges : List Manifest.Range} {floatings : List Manifest.Floating}
    (names : (ranges.map (·.metadata.anyName)).Nodup) (keys : (floatings.map lookupKey).Nodup)
    (plain : ∀ m ∈ floatings, (lookupKey m).Plain)
    (persist : RecordKey → Ipv4 → Except OperatorError Unit) :
    let report := (op.finish persist (seed ranges floatings)).1
    let inv := (op.finish persist (seed ranges floatings)).2.inventory
    (∀ name range address m, inv.range? name = some range → range.span.contains address →
      floatings.find? (·.request? = some (name, address)) = some m →
      ∃ stored, inv.floating? (lookupKey m) = some stored ∧ stored.range = name ∧
        stored.address = some address) ∧
    (∀ m ∈ floatings, m.carried? = none → ∀ stored, inv.floating? (lookupKey m) = some stored →
      ∃ address, stored.address = some address ∧
        ∀ other ∈ floatings, other.request? ≠ some (stored.range, address)) ∧
    report.ranges = inv.allocator.ranges.length ∧
    report.floatings = inv.store.floatings.length ∧
    report.ranges + report.floatings + report.failed = ranges.length + floatings.length := by
  obtain ⟨seeded, registered, total⟩ := seeded_seed persist empty names keys plain
  have first := seeded.first
  simp only [find?_floatingOrder] at first
  refine ⟨first, fun m member blank stored found => ?_, ?_, seeded.count.symm, total⟩
  · obtain ⟨address, has⟩ :=
      Option.isSome_iff_exists.mp (seeded.sound.addressed _ _ found)
    refine ⟨address, has, fun other listed asks => ?_⟩
    -- Whoever asks first for this address has it, and nobody shares it.
    obtain ⟨range, known, usable⟩ := seeded.usable _ _ _ found has
    have asked : (floatings.find? (·.request? = some (stored.range, address))).isSome :=
      List.find?_isSome.mpr ⟨other, listed, by simpa using asks⟩
    obtain ⟨one, found'⟩ := Option.isSome_iff_exists.mp asked
    obtain ⟨stored', isStored', drawn, has'⟩ := first _ _ _ _ known usable found'
    have same := seeded.sound.unshared _ _ _ _ isStored' found drawn (has'.trans has.symm)
    obtain rfl := List.inj_on_of_nodup_map keys (List.mem_of_find?_eq_some found') member same
    obtain ⟨record, valid, -, carries⟩ := Manifest.Floating.request?_eq_some.mp
      (by simpa using List.find?_some found')
    rw [FloatingRecord.address_ofManifest valid, blank] at carries
    cases carries
  · rw [seeded.sound.length_ranges]
    exact registered

namespace Sample

/-- The first object carries no address, and the other two ask for the lowest one. -/
def contenders : List Manifest.Floating :=
  [floating "one" "blue" none, floating "two" "blue" (some "10.0.0.1"),
    floating "three" "blue" (some " 10.0.0.1 ")]

/-- What comes of these objects and their range. -/
def contended : SeedReport × Operator :=
  ({} : Operator).finish accept (seed [range "blue" "10.0.0.0/28"] contenders)

end Sample

/-- The second object gets the lowest address, and the first one another. The third object fails. -/
theorem Operator.seed_keeps_requests_contended :
    (∃ stored, Sample.contended.2.inventory.floating? ⟨"web", "two"⟩ = some stored ∧
      stored.address = some (.ofOctets 10 0 0 1)) ∧
    (∃ stored address, Sample.contended.2.inventory.floating? ⟨"web", "one"⟩ = some stored ∧
      stored.address = some address ∧ address ≠ .ofOctets 10 0 0 1) ∧
    Sample.contended.1.ranges + Sample.contended.1.floatings + Sample.contended.1.failed = 4 := by
  have names : ([Sample.range "blue" "10.0.0.0/28"].map (·.metadata.anyName)).Nodup := by
    decide
  have keys : (Sample.contenders.map lookupKey).Nodup := by decide +kernel
  have plain : ∀ m ∈ Sample.contenders, (lookupKey m).Plain := by decide +kernel
  have empty : ({} : Operator).inventory = .empty := rfl
  obtain ⟨first, spared, -, -, total⟩ :=
    Operator.seed_keeps_requests empty names keys plain Sample.accept
  have known : (Sample.contended.2.inventory.range? "blue").any
      (·.span.contains (.ofOctets 10 0 0 1)) := by
    decide +kernel
  have asked : (Sample.contenders.find?
      (·.request? = some ("blue", .ofOctets 10 0 0 1))).any (lookupKey · = ⟨"web", "two"⟩) := by
    decide +kernel
  have drawn : (Sample.contended.2.inventory.floating? ⟨"web", "one"⟩).any (·.range = "blue") := by
    decide +kernel
  have blank : (Sample.floating "one" "blue" none).carried? = none := by decide +kernel
  obtain ⟨range, found, usable⟩ := (Option.any_eq_true ..).mp known
  obtain ⟨m, asks, key⟩ := (Option.any_eq_true ..).mp asked
  obtain ⟨spare, isSpare, drawn⟩ := (Option.any_eq_true ..).mp drawn
  obtain ⟨stored, isStored, -, has⟩ := first "blue" range _ m found usable asks
  obtain ⟨address, has', unasked⟩ := spared _ (List.mem_cons_self ..) blank spare isSpare
  rw [of_decide_eq_true key] at isStored
  refine ⟨⟨stored, isStored, has⟩, ⟨spare, address, isSpare, has', ?_⟩, total⟩
  rintro rfl
  refine unasked m (List.mem_of_find?_eq_some asks) ?_
  rw [of_decide_eq_true drawn]
  simpa using List.find?_some asks

end FloatingAddress
