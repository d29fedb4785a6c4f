import FloatingAddress.Proofs.Discovery.Choice
import FloatingAddress.Proofs.Discovery.Search
import FloatingAddress.Proofs.Reconcile.Refusal
import FloatingAddress.Proofs.Reconcile.WriteBack

/-!
# What a search creates is accepted

A search writes the object for a new guest cluster by hand, and the object is checked like any other
one when it is followed. It always passes: its annotations name the cluster that was found and a
range that is registered, and it carries no address. So nothing can go wrong but that the range has
no free address left. If there is one, the cluster gets the lowest one.
-/

namespace FloatingAddress

open Dialogue Reconcile

namespace Text

/-- A name as the cluster API allows it: it is not empty, and there are no blanks around it. -/
def Proper (name : String) : Prop := name ≠ "" ∧ trim name = name

instance (name : String) : Decidable (Proper name) := inferInstanceAs (Decidable (_ ∧ _))

theorem Proper.nonBlank {name : String} (proper : Proper name) :
    Text.nonBlank name = some name := by
  obtain ⟨present, trimmed⟩ := proper
  rw [Text.nonBlank, trimmed, if_neg (by simpa using present)]

end Text

namespace Discovery

variable {ns : String}

/-- What is said in a search that creates an object. -/
def creation (ns : String) (cluster : GuestCluster) (provider : String) (network : Option String)
    (ranges : List RangeRecord) (range : RangeRecord) : List (Exchange Call Answer) :=
  [⟨.markSeen ns, true⟩, ⟨.settle, ()⟩, ⟨.findCluster ns, .ok (some cluster)⟩,
    ⟨.providerName cluster, .ok (some provider)⟩, ⟨.networkName cluster, .ok network⟩,
    ⟨.isServed ns, .ok false⟩, ⟨.ranges, ranges⟩,
    ⟨.create (request ns cluster.name range.name), .ok ()⟩]

section Creation

variable {cluster cluster' : GuestCluster} {provider : String} {network : Option String}
  {ranges ranges' : List RangeRecord} {range : RangeRecord}

@[simp] theorem findCluster_mem_creation :
    ⟨.findCluster ns, .ok (some cluster')⟩ ∈ creation ns cluster provider network ranges range ↔
      cluster' = cluster := by
  simp [creation]

@[simp] theorem ranges_mem_creation :
    ⟨.ranges, ranges'⟩ ∈ creation ns cluster provider network ranges range ↔
      ranges' = ranges := by
  simp [creation]

end Creation

/-- A search that does not fail has nothing to forget. -/
theorem mayGo_of_conclude {d : Step (Except OperatorError Result)} {result : Result}
    {talk : List (Exchange Call Answer)} (h : MayGo (d >>= conclude ns) talk (.ok result)) :
    MayGo d talk (.ok result) := by
  obtain ⟨outcome, first, rest, goes, ends, rfl⟩ := h.of_bind
  cases outcome with
  | ok result' =>
    obtain ⟨rfl, same⟩ := mayGo_done_iff.mp ends
    rwa [List.append_nil, same]
  | error error =>
    obtain ⟨_, _, -, forgotten⟩ := mayGo_ask_iff.mp ends
    cases (mayGo_done_iff.mp forgotten).2

/-- A search that does not fail goes on after each of its parts. -/
theorem mayGo_search {α β : Type} {x : Search α} {f : α → Search β} {b : β}
    {talk : List (Exchange Call Answer)} (h : MayGo (x >>= f).run talk (.ok b)) :
    ∃ a first rest, MayGo x.run first (.ok a) ∧ MayGo (f a).run rest (.ok b) ∧
      talk = first ++ rest := by
  rw [ExceptT.run_bind] at h
  obtain ⟨outcome, first, rest, goes, further, same⟩ := h.of_bind
  cases outcome with
  | ok a => exact ⟨a, first, rest, goes, further, same⟩
  | error error => cases (mayGo_done_iff.mp further).2

/-- A single question is all that is said. -/
theorem mayGo_step {c : Call} {a : Answer c} {talk : List (Exchange Call Answer)}
    (h : MayGo (step c) talk a) : talk = [⟨c, a⟩] := by
  obtain ⟨_, _, rfl, ends⟩ := mayGo_ask_iff.mp h
  obtain ⟨rfl, rfl⟩ := mayGo_done_iff.mp ends
  rfl

theorem mayGo_ask {c : Call} {a : Answer c} {talk : List (Exchange Call Answer)}
    (h : MayGo (ask c).run talk (.ok a)) : talk = [⟨c, a⟩] := by
  obtain ⟨_, _, rfl, ends⟩ := mayGo_ask_iff.mp h
  obtain ⟨rfl, same⟩ := mayGo_done_iff.mp ends
  cases same
  rfl

/-- There is only one way in which a search creates an object. -/
theorem mayGo_discover_created {talk : List (Exchange Call Answer)} {key : RecordKey}
    (h : MayGo (discover ns).run talk (.ok (.created key))) :
    ∃ cluster provider network ranges range,
      ⟨.markSeen ns, true⟩ :: talk = creation ns cluster provider network ranges range ∧
      chooseRange ranges provider network = some range ∧
      key = ⟨ns, cluster.name ++ "-kubevip"⟩ := by
  obtain ⟨_, _, _, waits, begun, rfl⟩ := mayGo_search h
  obtain rfl := mayGo_ask waits
  obtain ⟨owner, _, _, looks, found, rfl⟩ := mayGo_search begun
  obtain rfl := mayGo_step looks
  cases owner with
  | none => cases (mayGo_done_iff.mp found).2
  | some cluster =>
    obtain ⟨provider, _, _, seeks, provided, rfl⟩ := mayGo_search found
    obtain rfl := mayGo_step seeks
    cases provider with
    | none =>
      obtain ⟨_, _, _, -, ends, -⟩ := mayGo_search provided
      cases (mayGo_done_iff.mp ends).2
    | some provider =>
      obtain ⟨network, _, _, follows, attached, rfl⟩ := mayGo_search provided
      obtain rfl := mayGo_step follows
      obtain ⟨served, _, _, checks, unserved, rfl⟩ := mayGo_search attached
      obtain rfl := mayGo_step checks
      cases served with
      | true => cases (mayGo_done_iff.mp unserved).2
      | false =>
        obtain ⟨ranges, _, _, lists, listed, rfl⟩ := mayGo_search unserved
        obtain rfl := mayGo_ask lists
        dsimp only at listed
        split at listed
        · obtain ⟨_, _, _, -, ends, -⟩ := mayGo_search listed
          cases (mayGo_done_iff.mp ends).2
        next range chosen =>
          obtain ⟨_, _, _, creates, created, rfl⟩ := mayGo_search listed
          obtain rfl := mayGo_step creates
          obtain ⟨rfl, same⟩ := mayGo_done_iff.mp created
          cases same
          exact ⟨cluster, provider, network, ranges, range, rfl, chosen, rfl⟩

theorem mayGo_handle_created {talk : List (Exchange Call Answer)} {key : RecordKey}
    (h : MayGo (handle ns) talk (.ok (.created key))) :
    ∃ cluster provider network ranges range,
      talk = creation ns cluster provider network ranges range ∧
      chooseRange ranges provider network = some range ∧
      key = ⟨ns, cluster.name ++ "-kubevip"⟩ := by
  by_cases guest : IsGuestNs ns
  · rw [handle_of_guest guest] at h
    obtain ⟨new, _, rfl, begun⟩ := mayGo_ask_iff.mp h
    cases new with
    | false => cases (mayGo_done_iff.mp begun).2
    | true => exact mayGo_discover_created (mayGo_of_conclude begun)
  · rw [handle_of_other guest] at h
    cases (mayGo_done_iff.mp h).2

/-- And a search may go in this way. -/
theorem mayGo_creation (cluster : GuestCluster) {provider : String} {network : Option String}
    {ranges : List RangeRecord} {range : RangeRecord} (guest : IsGuestNs ns)
    (chosen : chooseRange ranges provider network = some range) :
    MayGo (handle ns) (creation ns cluster provider network ranges range)
      (.ok (.created ⟨ns, cluster.name ++ "-kubevip"⟩)) := by
  rw [handle_of_guest guest]
  iterate 7 refine mayGo_ask_iff.mpr ⟨_, _, rfl, ?_⟩
  dsimp only [andThen, Function.comp, ExceptT.bindCont]
  rw [chosen]
  exact .ask _ (.done _)

/-- The record of the object that a search creates. -/
def requested (ns cluster range : String) : FloatingRecord :=
  { key := ⟨ns, cluster ++ "-kubevip"⟩, cluster, range, forceRefresh := true }

/-- The object passes the check, and the record says what the search has found. -/
theorem ofManifest_request {cluster range : String} (clusterNamed : Text.Proper cluster)
    (rangeNamed : Text.Proper range) :
    FloatingRecord.ofManifest (request ns cluster range) = .ok (requested ns cluster range) := by
  have annotated (key : String) : (request ns cluster range).metadata.annotated? key =
      (if "updateConfigMap" = key then some "true" else if "fiprange" = key then some range
        else if "clustername" = key then some cluster else none).bind Text.nonBlank := by
    simp [request, Metadata.annotated?, Manifest.annotationKeys, Std.ExtTreeMap.ofList_cons,
      Std.ExtTreeMap.insertMany_cons, Std.ExtTreeMap.getElem?_insert]
  refine FloatingRecord.ofManifest_eq_ok.mpr ⟨⟨rfl, rfl⟩, ?_, ?_, rfl, ?_⟩ <;> rw [annotated]
  · simp [Manifest.annotationKeys, clusterNamed.nonBlank, requested]
  · simp [Manifest.annotationKeys, rangeNamed.nonBlank, requested]
  · show ((Text.nonBlank "true").bind Text.truth?).getD false = true
    decide +kernel

end Discovery

namespace Inventory

variable {inv : Inventory} {range : RangeRecord} {record : FloatingRecord}

/-- An address of a range that nobody holds. -/
def Free (inv : Inventory) (range : RangeRecord) (address : Ipv4) : Prop :=
  range.span.contains address ∧ inv.allocator.owner range.name address = none

/-- The lowest address of a range that nobody holds. -/
structure LowestFree (inv : Inventory) (range : RangeRecord) (address : Ipv4) : Prop where
  free : inv.Free range address
  le : ∀ other, inv.Free range other → address ≤ other

/-- If a range has a free address, a claim that asks for none obtains the lowest one. -/
theorem Sound.claim_lowest (sound : inv.Sound) (record : FloatingRecord)
    (found : inv.range? record.range = some range) (unasked : record.address = none)
    {free : Ipv4} (isFree : inv.Free range free) :
    ∃ claim after, inv.claim record = .ok (claim, after) ∧ inv.LowestFree range claim.address := by
  have named := (sound.range _ _ found).1
  have known := sound.span_of_range? found
  rw [← named] at known
  obtain ⟨address, allocator, acquired, -⟩ :=
    Allocator.acquire_le record.owner known isFree.1 isFree.2
  obtain ⟨usable, unheld, -⟩ := Allocator.acquire_granted known (sound.ordered known) acquired
  have lowest : inv.LowestFree range address := by
    refine ⟨⟨usable, unheld.resolve_right (by simp)⟩, fun other isFree => ?_⟩
    obtain ⟨address', _, acquired', le⟩ :=
      Allocator.acquire_le record.owner known isFree.1 isFree.2
    rw [acquired] at acquired'
    cases acquired'
    exact le
  rw [named, ← unasked] at acquired
  obtain ⟨after, h⟩ := claim_of_acquire acquired
  exact ⟨_, after, h, lowest⟩

/-- If it has none, the claim is refused for this reason. -/
theorem Sound.claim_of_full (sound : inv.Sound) (record : FloatingRecord)
    (found : inv.range? record.range = some range) (unasked : record.address = none)
    (full : ∀ address, ¬inv.Free range address) :
    inv.claim record = .error (.exhausted record.range) := by
  have named := (sound.range _ _ found).1
  have known := sound.span_of_range? found
  refine claim_of_acquire_error ?_
  rw [unasked]
  refine Allocator.acquire_of_full known (sound.ordered known) fun address usable unheld => ?_
  exact full address ⟨usable, named ▸ unheld⟩

end Inventory

namespace Operator

variable {persist : RecordKey → Ipv4 → Except OperatorError Unit} {op : Operator}
  {m : Manifest.Floating} {incoming : FloatingRecord}

/-- Its claim is granted, and the address can be written back. -/
theorem finish_applyFloating_written (missing : op.inventory.floating? (lookupKey m) = none)
    (accepted : FloatingRecord.ofManifest m = .ok incoming) (blank : incoming.address = none)
    {claim : Inventory.Claim} {after : Inventory}
    (granted : op.inventory.claim incoming = .ok (claim, after))
    (written : persist incoming.key claim.address = .ok ()) :
    (op.finish persist (applyFloating m).run).1 = .ok () ∧
      (op.finish persist (applyFloating m).run).2.inventory = after ∧
      op.writes persist (applyFloating m).run = [(incoming.key, claim.address)] := by
  have same := op.finish_inventory persist (applyFloating m).run
  have writes := op.writes_eq persist (applyFloating m).run
  have claimed : op.inventory.answer persist (.claim incoming) = (.ok claim, after) := by
    rw [Inventory.answer, Inventory.attempt_of_ok granted]
  have answered : after.answer persist (.persist incoming.key claim.address) = (.ok (), after) :=
    congrArg (·, after) written
  rw [unmeasured_applyFloating, play_ask, Inventory.answer_floating, missing, accepted] at same
  rw [unmeasured_applyFloating, Inventory.writes, questions_ask, Inventory.answer_floating, missing,
    accepted] at writes
  dsimp only at same writes
  rw [blank, unmeasured_createFloating, play_ask, claimed] at same
  rw [blank, unmeasured_createFloating, questions_ask, claimed] at writes
  simp only [writingBack, Option.isSome_none, Bool.false_eq_true, if_false, play_ask,
    questions_ask, answered, play_done] at same writes
  exact ⟨(congrArg Prod.fst same).symm, (congrArg Prod.snd same).symm, writes⟩

/-- Its claim is refused. -/
theorem finish_applyFloating_unclaimed (missing : op.inventory.floating? (lookupKey m) = none)
    (accepted : FloatingRecord.ofManifest m = .ok incoming) {error : AllocationError}
    (refused : op.inventory.claim incoming = .error error) :
    (op.finish persist (applyFloating m).run).1 = .error (.allocation error) := by
  have same := op.finish_inventory persist (applyFloating m).run
  rw [unmeasured_applyFloating, play_ask, Inventory.answer_floating, missing, accepted] at same
  dsimp only at same
  rw [unmeasured_createFloating, play_ask, Inventory.answer,
    Inventory.attempt_of_error refused] at same
  exact (congrArg Prod.fst same).symm

end Operator

namespace Tasks

/-- A search that knows the ranges of a state that comes about creates an object, and there is no
record of this object yet. The object passes the check, and its range is registered for the provider
of the cluster. If the range has a free address, the object is accepted: its record belongs to the
cluster, has the lowest free address, and this address is written back. Otherwise it is refused
because the range is exhausted, and for no other reason. -/
theorem Reached.created_is_accepted {t : Tasks} (reached : Reached t) {ns : String}
    {talk : List (Exchange Discovery.Call Discovery.Answer)} {key : RecordKey}
    (created : MayGo (Discovery.handle ns) talk (.ok (.created key)))
    (listed : ∀ ranges, ⟨.ranges, ranges⟩ ∈ talk → ranges = t.operator.inventory.store.ranges)
    (clusterNamed : ∀ cluster, ⟨.findCluster ns, .ok (some cluster)⟩ ∈ talk →
      Text.Proper cluster.name)
    (rangesNamed : ∀ name range, t.operator.inventory.range? name = some range →
      Text.Proper range.name)
    (missing : t.operator.inventory.floating? key = none)
    {persist : RecordKey → Ipv4 → Except OperatorError Unit}
    (writable : ∀ address, persist key address = .ok ()) :
    ∃ m cluster provider network range,
      ⟨.create m, .ok ()⟩ ∈ talk ∧ lookupKey m = key ∧
      ⟨.findCluster ns, .ok (some cluster)⟩ ∈ talk ∧
      ⟨.providerName cluster, .ok (some provider)⟩ ∈ talk ∧
      ⟨.networkName cluster, .ok network⟩ ∈ talk ∧
      chooseRange t.operator.inventory.store.ranges provider network = some range ∧
      t.operator.inventory.range? range.name = some range ∧ range.provider = some provider ∧
      ((∃ address, t.operator.inventory.Free range address) →
        (t.operator.finish persist (applyFloating m).run).1 = .ok () ∧
        ∃ address, t.operator.inventory.LowestFree range address ∧
          (t.operator.finish persist (applyFloating m).run).2.inventory.floating? key =
            some { key, address := some address, cluster := cluster.name, range := range.name
                   forceRefresh := true } ∧
          t.operator.writes persist (applyFloating m).run = [(key, address)]) ∧
      ((∀ address, ¬t.operator.inventory.Free range address) →
        (t.operator.finish persist (applyFloating m).run).1 =
          .error (.allocation (.exhausted range.name))) := by
  have sound := reached.orderly.sound
  obtain ⟨cluster, provider, network, ranges, range, rfl, chosen, rfl⟩ :=
    Discovery.mayGo_handle_created created
  obtain rfl := listed ranges (by simp)
  obtain ⟨member, provided⟩ := mem_of_chooseRange chosen
  obtain ⟨name, known⟩ := Store.mem_ranges.mp member
  obtain rfl := (sound.range _ _ known).1
  have accepted : FloatingRecord.ofManifest (Discovery.request ns cluster.name range.name) =
      .ok (Discovery.requested ns cluster.name range.name) :=
    Discovery.ofManifest_request (clusterNamed cluster (by simp)) (rangesNamed _ _ known)
  refine ⟨Discovery.request ns cluster.name range.name, cluster, provider, network, range,
    by simp [Discovery.creation], rfl, by simp, by simp [Discovery.creation],
    by simp [Discovery.creation], chosen, known, provided, fun ⟨free, isFree⟩ => ?_,
    fun full => ?_⟩
  · obtain ⟨claim, after, granted, lowest⟩ :=
      sound.claim_lowest (Discovery.requested ns cluster.name range.name) known rfl isFree
    obtain ⟨fine, rfl, written⟩ :=
      Operator.finish_applyFloating_written missing accepted rfl granted (writable _)
    obtain ⟨-, -, -, -, floatings⟩ := Inventory.claim_ok granted
    exact ⟨fine, claim.address, lowest, (floatings _).trans (if_pos rfl), written⟩
  · have refused :=
      sound.claim_of_full (Discovery.requested ns cluster.name range.name) known rfl full
    exact Operator.finish_applyFloating_unclaimed missing accepted refused

end Tasks

namespace Sample

/-- The operator knows a range of two addresses, and one of them is held. -/
def tight : Operator :=
  let ranged := (({} : Operator).finish accept (Watch.followRange (.apply {
    metadata := {
      name := some "blue"
      annotations := some (.ofList [("harvesterClusterName", "hv-1")]) }
    cidr := some "10.0.0.0/30" }))).2
  (ranged.finish accept (Watch.followFloating (.apply one))).2

/-- The other address is held as well. -/
def full : Operator :=
  (tight.finish accept (Watch.followFloating (.apply (floating "two" "blue" none)))).2

/-- What is created for a guest cluster whose name is `web`. -/
def webKey : RecordKey := ⟨"c-m-web", "web" ++ "-kubevip"⟩

end Sample

namespace Tasks

theorem reached_tight : Reached (idle Sample.tight) :=
  ((Reached.start {} rfl).followRange _ Sample.accept).followFloating plain_one Sample.accept

theorem reached_full : Reached (idle Sample.full) := by
  have plain : (Watch.Change.apply (Sample.floating "two" "blue" none)).Plain :=
    show RecordKey.Plain ⟨"web", "two"⟩ by decide
  exact reached_tight.followFloating plain Sample.accept

/-- A span from one address to the next has no other addresses. -/
theorem eq_of_contains {span : UsableSpan} {address : Ipv4}
    (bounds : span.bounds = some (.ofOctets 10 0 0 1, .ofOctets 10 0 0 2))
    (usable : span.contains address) :
    address = .ofOctets 10 0 0 1 ∨ address = .ofOctets 10 0 0 2 := by
  have first : (Ipv4.ofOctets 10 0 0 1).word.toNat = 167772161 := by decide +kernel
  have second : (Ipv4.ofOctets 10 0 0 2).word.toNat = 167772162 := by decide +kernel
  obtain ⟨low, high⟩ : .ofOctets 10 0 0 1 ≤ address ∧ address ≤ .ofOctets 10 0 0 2 := by
    simpa [UsableSpan.contains, bounds] using usable
  rw [Ipv4.le_iff] at low high
  rw [Ipv4.eq_iff, Ipv4.eq_iff]
  omega

/-- Of two addresses one is held, so the new guest cluster gets the other one. Once both are held,
its object is refused. -/
theorem created_is_accepted_tight :
    (∃ m, lookupKey m = Sample.webKey ∧
      Sample.tight.writes Sample.accept (applyFloating m).run =
        [(Sample.webKey, .ofOctets 10 0 0 2)]) ∧
    ∃ m, lookupKey m = Sample.webKey ∧
      (Sample.full.finish Sample.accept (applyFloating m).run).1 =
        .error (.allocation (.exhausted "blue")) := by
  have named : Text.Proper "web" ∧ Text.Proper "blue" := by decide +kernel
  have accepted (op : Operator) (reached : Reached (idle op))
      (chosen : (chooseRange op.inventory.store.ranges "hv-1" none).isSome)
      (only : ∀ range ∈ op.inventory.store.ranges, range.name = "blue" ∧
        range.span.bounds = some (.ofOctets 10 0 0 1, .ofOctets 10 0 0 2))
      (held : op.inventory.allocator.owner "blue" (.ofOctets 10 0 0 1) ≠ none)
      (missing : op.inventory.floating? Sample.webKey = none) :
      ∃ m, lookupKey m = Sample.webKey ∧
        (op.inventory.allocator.owner "blue" (.ofOctets 10 0 0 2) = none →
          op.writes Sample.accept (applyFloating m).run =
            [(Sample.webKey, .ofOctets 10 0 0 2)]) ∧
        (op.inventory.allocator.owner "blue" (.ofOctets 10 0 0 2) ≠ none →
          (op.finish Sample.accept (applyFloating m).run).1 =
            .error (.allocation (.exhausted "blue"))) := by
    have blue (name : String) (range : RangeRecord)
        (stored : op.inventory.range? name = some range) :=
      only range (Store.mem_ranges.mpr ⟨name, stored⟩)
    obtain ⟨_, chosen⟩ := Option.isSome_iff_exists.mp chosen
    obtain ⟨m, _, _, _, range, -, own, -, -, -, -, stored, -, granted, refused⟩ :=
      reached.created_is_accepted
        (Discovery.mayGo_creation { name := "web" } (by decide +kernel) chosen)
        (fun ranges => Discovery.ranges_mem_creation.mp)
        (fun cluster found => by rw [Discovery.findCluster_mem_creation.mp found]; exact named.1)
        (fun name range stored => by rw [(blue name range stored).1]; exact named.2)
        missing (show ∀ address, Sample.accept _ address = .ok () from fun _ => rfl)
    obtain ⟨isBlue, bounds⟩ := blue _ _ stored
    have free (address : Ipv4) (isFree : op.inventory.Free range address) :
        address = .ofOctets 10 0 0 2 :=
      (eq_of_contains bounds isFree.1).resolve_left fun first =>
        held (isBlue ▸ first ▸ isFree.2)
    refine ⟨m, own, fun unheld => ?_, fun taken => ?_⟩
    · have isFree : op.inventory.Free range (.ofOctets 10 0 0 2) :=
        ⟨by rw [UsableSpan.contains, bounds]; decide +kernel, isBlue ▸ unheld⟩
      obtain ⟨-, address, lowest, -, written⟩ := granted ⟨_, isFree⟩
      obtain rfl := free address lowest.free
      exact written
    · refine isBlue ▸ refused fun address isFree => taken ?_
      rw [← isBlue, ← free address isFree]
      exact isFree.2
  constructor
  · obtain ⟨m, own, written, -⟩ := accepted Sample.tight reached_tight (by decide +kernel)
      (by decide +kernel) (by decide +kernel) (by decide +kernel)
    exact ⟨m, own, written (by decide +kernel)⟩
  · obtain ⟨m, own, -, refused⟩ := accepted Sample.full reached_full (by decide +kernel)
      (by decide +kernel) (by decide +kernel) (by decide +kernel)
    exact ⟨m, own, refused (by decide +kernel)⟩

end Tasks

end FloatingAddress
