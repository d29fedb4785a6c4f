import FloatingAddress.Proofs.Inventory.Commuting
import FloatingAddress.Proofs.Reconcile.Tasks

/-!
# A range is replaced while a floating address is followed

A changed range is removed and registered again, and in between it is gone. A floating address may
be followed at the same time, with any of its questions before, between and after. Most of them
have nothing to do with the range and may as well come earlier or later. Only a claim from the
range itself is different: it has to come before the removal or after the registration, and then
the whole is as if one change had been followed after the other. A claim that comes in between is
refused.
-/

namespace FloatingAddress

open Dialogue Reconcile

namespace Tasks

variable {α : Type} {name : String} {key : RecordKey} {inv after : Inventory}
  {persist : RecordKey → Ipv4 → Except OperatorError Unit}

/-- The inventory is sound, and the dialogue keeps to the terms of the floating task. -/
structure Proceeds (d : Step α) (inv : Inventory) : Prop where
  sound : inv.Sound
  keeps : d.Keeps Inventory.answer FloatingRely (FloatingMay fun _ => True) (fun _ => True) inv

/-- The question registers or removes no range. -/
def LeavesRanges : Call → Prop
  | .createRange _ | .deleteRange _ => False
  | _ => True

namespace Proceeds

theorem ask {c : Call} {next : Answer c → Step α} (h : Proceeds (.ask c next) inv)
    (persist : RecordKey → Ipv4 → Except OperatorError Unit) :
    FloatingMay (fun _ => True) c inv ∧
      Proceeds (next (inv.answer persist c).1) (inv.answer persist c).2 := by
  obtain ⟨allowed, goesOn⟩ := h.keeps inv (.refl h.sound)
  exact ⟨allowed, (allowed.answer h.sound persist).sound, goesOn persist⟩

theorem change {d : Step α} {f : Inventory → Inventory} (h : Proceeds d inv)
    (change : Inventory.ChangesRange name f) : Proceeds d (f inv) where
  sound := change.sound h.sound
  keeps := h.keeps.interfere (fun first second => first.trans second)
    ⟨change.sound h.sound, fun _ spared => absurd trivial spared,
      fun key _ => change.floatings key h.sound⟩

theorem advance {d d' : Step α} {trace : List Call}
    (advance : Advance (fun c inv => inv.answer persist c) d inv trace d' after)
    (h : Proceeds d inv) :
    Proceeds d' after ∧ (∀ n, after.range? n = inv.range? n) ∧ ∀ c ∈ trace, LeavesRanges c := by
  induction advance with
  | here d inv => exact ⟨h, fun _ => rfl, by simp⟩
  | @ask c next inv after trace d' rest ih =>
    obtain ⟨allowed, goesOn⟩ := h.ask persist
    obtain ⟨proceeds, ranges, leaves⟩ := ih goesOn
    have unchanged := (allowed.answer h.sound persist).range?
    refine ⟨proceeds, fun n => (ranges n).trans (unchanged n id), ?_⟩
    have here : LeavesRanges c := by cases c <;> trivial
    simpa using ⟨here, leaves⟩

end Proceeds

/-- The dialogue claims nothing from the range, and does not care how much it gave back. -/
inductive Apart (name : String) : Step α → Prop
  | done (a : α) : Apart name (.done a)
  | floating (key : RecordKey) (next : Option FloatingRecord → Step α)
    (rest : ∀ found, Apart name (next found)) : Apart name (.ask (.floating key) next)
  | persist (key : RecordKey) (address : Ipv4) (next : Except OperatorError Unit → Step α)
    (rest : ∀ result, Apart name (next result)) : Apart name (.ask (.persist key address) next)
  | rollback (key : RecordKey) (next : Unit → Step α) (rest : Apart name (next ())) :
    Apart name (.ask (.rollback key) next)
  | release (key : RecordKey) (d : Step α) (rest : Apart name d) :
    Apart name (.ask (.release key) fun _ => d)
  | claim (record : FloatingRecord) (other : record.range ≠ name)
    (next : Except OperatorError Inventory.Claim → Step α)
    (rest : ∀ result, Apart name (next result)) : Apart name (.ask (.claim record) next)

/-- Such a dialogue comes to the same result if the range changes before it, and the change may as
well come after it. -/
theorem Apart.play {d : Step α} (apart : Apart name d) (h : Proceeds d inv)
    {f : Inventory → Inventory} (change : Inventory.ChangesRange name f) :
    d.play (fun c inv => inv.answer persist c) (f inv) =
      ((d.play (fun c inv => inv.answer persist c) inv).1,
        f (d.play (fun c inv => inv.answer persist c) inv).2) := by
  induction apart generalizing inv with
  | done a => rfl
  | floating key next rest ih =>
    have goesOn := (h.ask persist).2
    simp only [play_ask, Inventory.answer_floating] at goesOn ⊢
    rw [change.floatings key h.sound, ih _ goesOn]
  | persist key address next rest ih => exact ih _ (h.ask persist).2
  | rollback key next rest ih =>
    have goesOn := (h.ask persist).2
    have moved : (f inv).answer persist (.rollback key) = ((), f (inv.rollback key)) := by
      rw [Inventory.answer, change.rollback h.sound]
    rw [play_ask, moved]
    exact ih goesOn
  | release key d rest ih =>
    have goesOn := (h.ask persist).2
    simp only [play_ask, Inventory.answer_release] at goesOn ⊢
    rw [change.rollback h.sound, ih goesOn]
  | claim record other next rest ih =>
    obtain ⟨⟨plain, missing, -⟩, goesOn⟩ := h.ask persist
    have moved : (f inv).answer persist (.claim record) =
        ((inv.answer persist (.claim record)).1, f (inv.answer persist (.claim record)).2) := by
      simp only [Inventory.answer, Inventory.attempt, change.claim h.sound other plain missing]
      cases inv.claim record <;> rfl
    rw [play_ask, moved]
    exact ih _ goesOn

/-- The question claims an address from the range. -/
def ClaimsFrom (name : String) : Call → Prop
  | .claim record => record.range = name
  | _ => False

instance (name : String) : (c : Call) → Decidable (ClaimsFrom name c)
  | .claim record => inferInstanceAs (Decidable (record.range = name))
  | .range _ | .floating _ | .createRange _ | .deleteRange _ | .rollback _ | .release _
  | .persist _ _ | .measure _ | .report _ => inferInstanceAs (Decidable False)

theorem Apart.advance {d d' : Step α} {trace : List Call} (apart : Apart name d)
    (advance : Advance (fun c inv => inv.answer persist c) d inv trace d' after) :
    Apart name d' ∧ ∀ c ∈ trace, ¬ClaimsFrom name c := by
  induction advance with
  | here d inv => exact ⟨apart, by simp⟩
  | ask _ ih =>
    simp only [List.forall_mem_cons]
    cases apart with
    | floating key next rest => exact (ih (rest _)).imp_right fun none => ⟨id, none⟩
    | persist key address next rest => exact (ih (rest _)).imp_right fun none => ⟨id, none⟩
    | rollback key next rest => exact (ih rest).imp_right fun none => ⟨id, none⟩
    | release key d rest => exact (ih rest).imp_right fun none => ⟨id, none⟩
    | claim record other next rest => exact (ih (rest _)).imp_right fun none => ⟨other, none⟩

/-- The dialogue will at most take out the record of the identity and then claim an address for
it from the range. If that is refused, it is over. -/
inductive Drawing (name : String) (key : RecordKey) : Step (Except OperatorError Unit) → Prop
  | apart (d : Step (Except OperatorError Unit)) (apart : Apart name d) : Drawing name key d
  | floating (next : Option FloatingRecord → Step (Except OperatorError Unit))
    (rest : ∀ found, (∀ stored, found = some stored → stored.key = key) →
      Drawing name key (next found)) :
    Drawing name key (.ask (.floating key) next)
  | release (d : Step (Except OperatorError Unit)) (rest : Drawing name key d) :
    Drawing name key (.ask (.release key) fun _ => d)
  | claim (record : FloatingRecord) (own : record.key = key) (same : record.range = name)
    (next : Except OperatorError Inventory.Claim → Step (Except OperatorError Unit))
    (refused : ∀ error, next (.error error) = .done (.error error))
    (granted : ∀ claim, Apart name (next (.ok claim))) :
    Drawing name key (.ask (.claim record) next)

theorem drawing_create {record : FloatingRecord} (own : record.key = key) (carried : Bool) :
    Drawing name key (unmeasured (createFloating record carried).run) := by
  have granted : ∀ claim : Inventory.Claim,
      Apart name (writingBack record carried claim.address (.done (.ok ()))) := by
    intro claim
    cases carried with
    | true => exact .done _
    | false =>
      refine .persist _ _ _ fun result => ?_
      cases result with
      | error error => exact .rollback _ _ (.done _)
      | ok _ => exact .done _
  rw [unmeasured_createFloating]
  by_cases same : record.range = name
  · exact .claim record own same _ (fun _ => rfl) granted
  · refine .apart _ (.claim record same _ fun result => ?_)
    cases result with
    | error error => exact .done _
    | ok claim => exact granted claim

theorem drawing_apply (name : String) (m : Manifest.Floating) :
    Drawing name (lookupKey m) (unmeasured (applyFloating m).run) := by
  rw [unmeasured_applyFloating]
  refine .floating _ fun found own => ?_
  cases found with
  | none =>
    cases accepted : FloatingRecord.ofManifest m with
    | error error => exact .apart _ (.done _)
    | ok incoming => exact drawing_create (FloatingRecord.ofManifest_ok accepted) _
  | some stored =>
    dsimp only
    rw [own stored rfl]
    cases accepted : FloatingRecord.ofManifest m with
    | error error => exact .release _ (.apart _ (.done _))
    | ok incoming =>
      dsimp only
      split
      · cases stored.address with
        | none => exact .apart _ (.done _)
        | some address =>
          cases incoming.address.isSome with
          | true => exact .apart _ (.done _)
          | false => exact .apart _ (.persist _ _ _ fun _ => .done _)
      · refine .release _ (drawing_create ?_ _)
        rw [keepingAddress_key, FloatingRecord.ofManifest_ok accepted]

variable {d d' : Step (Except OperatorError Unit)} {trace : List Call}

/-- As long as nothing is claimed from the range, a change of the range may as well come first. -/
theorem Drawing.play (drawing : Drawing name key d) (h : Proceeds d inv)
    (advance : Advance (fun c inv => inv.answer persist c) d inv trace d' after)
    (unclaimed : ∀ c ∈ trace, ¬ClaimsFrom name c) {f : Inventory → Inventory}
    (change : Inventory.ChangesRange name f) :
    d'.play (fun c inv => inv.answer persist c) (f after) =
      d.play (fun c inv => inv.answer persist c) (f inv) := by
  induction advance with
  | here d inv => rfl
  | @ask c next inv after trace d' rest ih =>
    have goesOn := (h.ask persist).2
    obtain ⟨unclaimed, unclaimed'⟩ := List.forall_mem_cons.mp unclaimed
    cases drawing with
    | apart _ apart =>
      have apart' := (apart.advance (.ask rest)).1
      rw [apart'.play (goesOn.advance rest).1 change, rest.play, apart.play h change, play_ask]
    | floating next further =>
      rw [ih (further _ fun stored found => (h.sound.floating _ _ found).1) goesOn unclaimed',
        play_ask, Inventory.answer_floating, Inventory.answer_floating,
        change.floatings key h.sound]
    | release d further =>
      rw [ih further goesOn unclaimed', play_ask, Inventory.answer_release,
        Inventory.answer_release, change.rollback h.sound]
    | claim record own same next refused granted => exact absurd same unclaimed

/-- Before it has claimed anything, the dialogue has taken out the record at most. -/
theorem Drawing.advance (drawing : Drawing name key d) (h : Proceeds d inv)
    (advance : Advance (fun c inv => inv.answer persist c) d inv trace d' after) :
    Apart name d' ∨ Drawing name key d' ∧ (∀ c ∈ trace, ¬ClaimsFrom name c) ∧
      after.rollback key = inv.rollback key := by
  induction advance with
  | here d inv => exact .inr ⟨drawing, by simp, rfl⟩
  | @ask c next inv after trace d' rest ih =>
    have goesOn := (h.ask persist).2
    cases drawing with
    | apart _ apart => exact .inl (apart.advance (.ask rest)).1
    | floating next further =>
      obtain apart | ⟨drawing, unclaimed, same⟩ :=
        ih (further _ fun stored found => (h.sound.floating _ _ found).1) goesOn
      · exact .inl apart
      · exact .inr ⟨drawing, List.forall_mem_cons.mpr ⟨id, unclaimed⟩, same⟩
    | release d further =>
      obtain apart | ⟨drawing, unclaimed, same⟩ := ih further goesOn
      · exact .inl apart
      · refine .inr ⟨drawing, List.forall_mem_cons.mpr ⟨id, unclaimed⟩, ?_⟩
        rw [same, Inventory.answer_release, Inventory.rollback_rollback]
    | claim record own same next refused granted =>
      -- Whatever the answer is, nothing more is claimed from the range.
      have apart : Apart name (next (inv.answer persist (.claim record)).1) := by
        cases (inv.answer persist (.claim record)).1 with
        | error error => exact refused error ▸ .done _
        | ok claim => exact granted claim
      exact .inl (apart.advance rest).1

/-- A claim from a range that is gone is refused, and the record has been taken out by then. -/
theorem Drawing.refused (drawing : Drawing name key d) (h : Proceeds d inv)
    (advance : Advance (fun c inv => inv.answer persist c) d inv trace d' after)
    (gone : inv.range? name = none) (claims : ∃ c ∈ trace, ClaimsFrom name c) :
    d' = .done (.error (.allocation (.rangeNotFound name))) ∧ after = inv.rollback key := by
  induction advance with
  | here d inv => simp at claims
  | @ask c next inv after trace d' rest ih =>
    have goesOn := (h.ask persist).2
    cases drawing with
    | apart _ apart =>
      obtain ⟨c, asked, claims⟩ := claims
      exact absurd claims ((apart.advance (.ask rest)).2 c asked)
    | floating next further =>
      exact ih (further _ fun stored found => (h.sound.floating _ _ found).1) goesOn gone
        (by simpa [ClaimsFrom] using claims)
    | release d further =>
      rw [Inventory.answer_release] at ih goesOn
      obtain ⟨ended, taken⟩ := ih further goesOn (by rw [Inventory.range?_rollback, gone])
        (by simpa [ClaimsFrom] using claims)
      exact ⟨ended, by rw [taken, Inventory.rollback_rollback]⟩
    | claim record own same next refused granted =>
      obtain ⟨-, missing, -⟩ := (h.ask persist).1
      have unknown : inv.allocator.span record.range = none :=
        h.sound.span_of_range?_eq_none (same ▸ gone)
      have denied : inv.answer persist (.claim record) =
          (.error (.allocation (.rangeNotFound name)), inv) := by
        rw [Inventory.answer, Inventory.attempt_of_error
          (Inventory.claim_of_acquire_error (Allocator.acquire_of_span_eq_none unknown)), same]
      simp only [denied, refused] at rest
      cases rest
      exact ⟨rfl, by rw [Inventory.rollback_of_none (own ▸ missing)]⟩

/-- The question removes a range. -/
def removesRange : Call → Bool
  | .deleteRange _ => true
  | _ => false

/-- The question registers a range. -/
def registersRange : Call → Bool
  | .createRange _ => true
  | _ => false

/-- What is asked while the range is gone: from its removal until it is registered again. -/
def whileGone (trace : List Call) : List Call :=
  (trace.dropWhile fun c => !removesRange c).takeWhile fun c => !registersRange c

/-- A claim from the range comes while the range is gone. -/
def ClaimsWhileGone (name : String) (trace : List Call) : Prop :=
  ∃ c ∈ whileGone trace, ClaimsFrom name c

instance (name : String) (trace : List Call) : Decidable (ClaimsWhileGone name trace) :=
  inferInstanceAs (Decidable (∃ c ∈ whileGone trace, ClaimsFrom name c))

/-- The result of following the floating address before the range, and the inventory at the end. -/
def floatingFirst (persist : RecordKey → Ipv4 → Except OperatorError Unit) (range : Manifest.Range)
    (floating : Manifest.Floating) (op : Operator) : Except OperatorError Unit × Inventory :=
  let followed := op.finish persist (applyFloating floating).run
  (followed.1, (followed.2.finish persist (applyRange range).run).2.inventory)

/-- The result of following the floating address after the range, and the inventory at the end. -/
def rangeFirst (persist : RecordKey → Ipv4 → Except OperatorError Unit) (range : Manifest.Range)
    (floating : Manifest.Floating) (op : Operator) : Except OperatorError Unit × Inventory :=
  let followed := (op.finish persist (applyRange range).run).2.finish persist
    (applyFloating floating).run
  (followed.1, followed.2.inventory)

theorem whileGone_eq {before between rest : List Call} {c c' : Call}
    (quiet : ∀ c ∈ before, LeavesRanges c) (removes : removesRange c)
    (quiet' : ∀ c ∈ between, LeavesRanges c) (registers : registersRange c') :
    whileGone (before ++ c :: (between ++ c' :: rest)) = c :: between := by
  have stays : ∀ c, LeavesRanges c → !removesRange c ∧ !registersRange c := by
    intro c leaves
    cases c <;> first | exact ⟨rfl, rfl⟩ | exact absurd leaves id
  have unregistered : registersRange c = false := by
    cases c <;> first | rfl | cases removes
  rw [whileGone, List.dropWhile_append_of_pos fun c h => (stays c (quiet c h)).1,
    List.dropWhile_cons_of_neg (by simp [removes]),
    List.takeWhile_cons_of_pos (by simp [unregistered]),
    List.takeWhile_append_of_pos fun c h => (stays c (quiet' c h)).2,
    List.takeWhile_cons_of_neg (by simp [registers]), List.append_nil]

/-- Reports and changes of the metrics do not matter for what is asked while a range is gone. -/
theorem claimsWhileGone_filter (name : String) (trace : List Call) :
    ClaimsWhileGone name (trace.filter fun c => (measureKnown c).isNone) ↔
      ClaimsWhileGone name trace := by
  have removals : (fun c => !(measureKnown c).isNone || !removesRange c) =
      fun c => !removesRange c := by
    funext c
    cases c <;> rfl
  have registrations : (fun c => !(measureKnown c).isNone || !registersRange c) =
      fun c => !registersRange c := by
    funext c
    cases c <;> rfl
  unfold ClaimsWhileGone whileGone
  rw [List.dropWhile_filter, List.takeWhile_filter, removals, registrations]
  constructor
  · rintro ⟨c, asked, claims⟩
    exact ⟨c, (List.mem_filter.mp asked).1, claims⟩
  · rintro ⟨c, asked, claims⟩
    refine ⟨c, List.mem_filter.mpr ⟨asked, ?_⟩, claims⟩
    cases c <;> first | rfl | exact absurd claims id

/-- The inventory after a range was removed and registered again. -/
def replaced (fresh : RangeRecord) (inv : Inventory) : Inventory :=
  (inv.forget fresh.name).enter fresh

theorem replaced_changesRange {fresh : RangeRecord} (formed : fresh.WellFormed) :
    Inventory.ChangesRange fresh.name (replaced fresh) :=
  (Inventory.enter_changesRange formed).comp (Inventory.forget_changesRange fresh.name)

/-- What is left of a range object whose record differs from the stored one: two questions that
change the inventory, whatever the answers are. -/
theorem unmeasured_applyRange_changed {range : Manifest.Range} {stored fresh : RangeRecord}
    (own : stored.name = fresh.name) (valid : RangeRecord.ofManifest range = .ok fresh)
    (changed : fresh ≠ stored) :
    ∃ next, unmeasured (applyRange range).run = .ask (.range fresh.name) next ∧
      next (some stored) = .ask (.deleteRange fresh.name) fun _ =>
        .ask (.createRange fresh) fun result => .done (result.map fun _ => ()) := by
  have named := (RangeRecord.ofManifest_ok valid).1
  rw [unmeasured_applyRange, ← named]
  refine ⟨_, rfl, ?_⟩
  dsimp only [asked]
  rw [valid, if_neg (by simpa [Except.toOption] using changed), own]

/-- A changed range that is known is replaced. -/
theorem play_applyRange {range : Manifest.Range} {stored fresh : RangeRecord} (sound : inv.Sound)
    (valid : RangeRecord.ofManifest range = .ok fresh)
    (known : inv.range? fresh.name = some stored) (changed : fresh ≠ stored) :
    ((unmeasured (applyRange range).run).play (fun c inv => inv.answer persist c) inv).2 =
      replaced fresh inv := by
  obtain ⟨next, asks, goesOn⟩ :=
    unmeasured_applyRange_changed (sound.range _ _ known).1 valid changed
  rw [asks, play_ask, Inventory.answer_range, known, goesOn]
  rfl

/-- Where the questions of the range handler fall in an interleaving. -/
theorem interleave_cuts {range : Manifest.Range} {stored fresh : RangeRecord} {turns : List Turn}
    {a b : Except OperatorError Unit} (h : Proceeds d inv)
    (valid : RangeRecord.ofManifest range = .ok fresh)
    (known : inv.range? fresh.name = some stored) (changed : fresh ≠ stored)
    (run : interleave (fun c inv => inv.answer persist c) turns (unmeasured (applyRange range).run)
      d inv = some (trace, a, b, after)) :
    ∃ d₁ inv₁ before d₂ inv₂ between,
      Advance (fun c inv => inv.answer persist c) d inv before d₁ inv₁ ∧
      Advance (fun c inv => inv.answer persist c) d₁ (inv₁.forget fresh.name) between d₂ inv₂ ∧
      d₂.play (fun c inv => inv.answer persist c) (inv₂.enter fresh) = (b, after) ∧
      whileGone trace = .deleteRange fresh.name :: between := by
  obtain ⟨next, asks, goesOn⟩ :=
    unmeasured_applyRange_changed (h.sound.range _ _ known).1 valid changed
  rw [asks] at run
  obtain ⟨d₀, inv₀, before₀, turns₀, trace₀, advance₀, same₀, run₀⟩ := interleave_ask run
  obtain ⟨proceeds₀, ranges₀, quiet₀⟩ := h.advance advance₀
  rw [Inventory.answer_range, ranges₀, known, goesOn] at run₀
  obtain ⟨d₁, inv₁, before₁, turns₁, trace₁, advance₁, same₁, run₁⟩ := interleave_ask run₀
  obtain ⟨proceeds₁, -, quiet₁⟩ := proceeds₀.advance advance₁
  obtain ⟨d₂, inv₂, between, turns₂, trace₂, advance₂, same₂, run₂⟩ := interleave_ask run₁
  have proceeds₁' := proceeds₁.change (Inventory.forget_changesRange fresh.name)
  obtain ⟨-, -, quiet₂⟩ := proceeds₁'.advance advance₂
  refine ⟨d₁, inv₁, _, d₂, inv₂, between, advance₀.trans advance₁, advance₂,
    (interleave_done run₂).play.symm, ?_⟩
  have quiet : ∀ c ∈ before₀ ++ Call.range fresh.name :: before₁, LeavesRanges c := by
    simp only [List.mem_append, List.mem_cons]
    rintro c (asked | rfl | asked)
    · exact quiet₀ c asked
    · trivial
    · exact quiet₁ c asked
  have whole : trace = (before₀ ++ Call.range fresh.name :: before₁) ++
      Call.deleteRange fresh.name :: (between ++ Call.createRange fresh :: trace₂) := by
    simp [same₀, same₁, same₂]
  rw [whole]
  exact whileGone_eq quiet rfl quiet₂ rfl

/-- Whatever the turns are, the floating address is followed as a whole before the range is
removed, or after it is registered again, or while it is gone. -/
theorem interleave_replacement {range : Manifest.Range} {stored fresh : RangeRecord}
    {turns : List Turn} {a b : Except OperatorError Unit} (drawing : Drawing fresh.name key d)
    (h : Proceeds d inv) (valid : RangeRecord.ofManifest range = .ok fresh)
    (known : inv.range? fresh.name = some stored) (changed : fresh ≠ stored)
    (run : interleave (fun c inv => inv.answer persist c) turns (unmeasured (applyRange range).run)
      d inv = some (trace, a, b, after)) :
    (ClaimsWhileGone fresh.name trace →
      b = .error (.allocation (.rangeNotFound fresh.name)) ∧
        after = replaced fresh (inv.rollback key)) ∧
    (¬ClaimsWhileGone fresh.name trace →
      (b = (d.play (fun c inv => inv.answer persist c) inv).1 ∧
        after = replaced fresh (d.play (fun c inv => inv.answer persist c) inv).2) ∨
      (b, after) = d.play (fun c inv => inv.answer persist c) (replaced fresh inv)) := by
  obtain ⟨d₁, inv₁, before, d₂, inv₂, between, advance₁, advance₂, ends, gone⟩ :=
    interleave_cuts h valid known changed run
  have formed := (RangeRecord.ofManifest_ok valid).2
  have forgetting := Inventory.forget_changesRange fresh.name
  have entering := Inventory.enter_changesRange formed
  obtain ⟨proceeds₁, -⟩ := h.advance advance₁
  have proceeds₁' := proceeds₁.change forgetting
  obtain ⟨proceeds₂, -⟩ := proceeds₁'.advance advance₂
  have claimed : ClaimsWhileGone fresh.name trace ↔ ∃ c ∈ between, ClaimsFrom fresh.name c := by
    simp [ClaimsWhileGone, gone, ClaimsFrom]
  rw [claimed]
  obtain apart | ⟨drawing₁, unclaimed₁, same⟩ := drawing.advance h advance₁
  · -- Everything that is left has nothing to do with the range.
    obtain ⟨apart₂, unclaimed⟩ := apart.advance advance₂
    refine ⟨fun ⟨c, asked, claims⟩ => absurd claims (unclaimed c asked), fun _ => .inl ?_⟩
    rw [apart₂.play proceeds₂ entering, advance₂.play, apart.play proceeds₁ forgetting,
      advance₁.play] at ends
    exact ⟨(congrArg Prod.fst ends).symm, (congrArg Prod.snd ends).symm⟩
  · constructor
    · intro claims
      have missing : (inv₁.forget fresh.name).range? fresh.name = none := by
        rw [(Inventory.forget_view proceeds₁.sound _).2.1, if_pos rfl]
      obtain ⟨rfl, rfl⟩ := drawing₁.refused proceeds₁' advance₂ missing claims
      rw [forgetting.rollback proceeds₁.sound, same] at ends
      exact ⟨(congrArg Prod.fst ends).symm, (congrArg Prod.snd ends).symm⟩
    · intro unclaimed
      right
      have unclaimed₂ : ∀ c ∈ between, ¬ClaimsFrom fresh.name c :=
        fun c asked claims => unclaimed ⟨c, asked, claims⟩
      rw [← ends, drawing₁.play proceeds₁' advance₂ unclaimed₂ entering]
      exact drawing.play h advance₁ unclaimed₁ (replaced_changesRange formed)

/-- The operator without the record of a floating address. -/
def without (key : RecordKey) (op : Operator) : Operator :=
  { op with inventory := op.inventory.rollback key }

theorem finish_applyRange {op : Operator} {range : Manifest.Range} {stored fresh : RangeRecord}
    (sound : op.inventory.Sound) (valid : RangeRecord.ofManifest range = .ok fresh)
    (known : op.inventory.range? fresh.name = some stored) (changed : fresh ≠ stored)
    (persist : RecordKey → Ipv4 → Except OperatorError Unit) :
    (op.finish persist (applyRange range).run).2.inventory = replaced fresh op.inventory := by
  have played := congrArg Prod.snd (op.finish_inventory persist (applyRange range).run)
  exact played.symm.trans (play_applyRange sound valid known changed)

/-- If a changed range is replaced while a floating address is followed, in whatever order the
questions of the two fall, then the result and the inventory are as if one had been followed after
the other, unless an address of the range is claimed while the range is gone. In that case the
claim is refused, and all that remains of the floating address is that its record was taken out. -/
theorem Reached.replacement_interleaved {op after : Operator} (reached : Reached (idle op))
    {range : Manifest.Range} {floating : Manifest.Floating} {stored fresh : RangeRecord}
    (known : op.inventory.range? range.metadata.anyName = some stored)
    (valid : RangeRecord.ofManifest range = .ok fresh) (changed : fresh ≠ stored)
    (plain : (lookupKey floating).Plain)
    {persist : RecordKey → Ipv4 → Except OperatorError Unit} {turns : List Turn}
    {trace : List Call} {a b : Except OperatorError Unit}
    (run : interleave (fun c op => op.reply persist c) turns (applyRange range).run
      (applyFloating floating).run op = some (trace, a, b, after)) :
    (¬ClaimsWhileGone fresh.name trace →
      (b, after.inventory) = floatingFirst persist range floating op ∨
      (b, after.inventory) = rangeFirst persist range floating op) ∧
    (ClaimsWhileGone fresh.name trace →
      b = .error (.allocation (.rangeNotFound fresh.name)) ∧
      after.inventory = ((without (lookupKey floating) op).finish persist
        (applyRange range).run).2.inventory) := by
  have sound : op.inventory.Sound := reached.orderly.sound
  have proceeds : Proceeds (unmeasured (applyFloating floating).run) op.inventory :=
    ⟨sound, keepsFloatings_apply plain trivial _⟩
  rw [← (RangeRecord.ofManifest_ok valid).1] at known
  obtain ⟨turns', run'⟩ := interleave_skip (Inventory.views persist) run
  obtain ⟨lost, kept⟩ := interleave_replacement (drawing_apply fresh.name floating) proceeds valid
    known changed run'
  rw [claimsWhileGone_filter] at lost kept
  constructor
  · intro unclaimed
    obtain ⟨result, final⟩ | both := kept unclaimed
    · left
      obtain ⟨_, whole⟩ := Advance.toEnd (fun c inv => Inventory.answer persist c inv)
        (unmeasured (applyFloating floating).run) op.inventory
      obtain ⟨proceeds', ranges, -⟩ := proceeds.advance whole
      rw [op.finish_inventory] at result final proceeds' ranges
      have known' := (ranges fresh.name).trans known
      have second := finish_applyRange proceeds'.sound valid known' changed persist
      exact Prod.ext result (final.trans second.symm)
    · right
      rw [both, rangeFirst, ← finish_applyRange sound valid known changed persist,
        Operator.finish_inventory]
  · intro claims
    obtain ⟨result, final⟩ := lost claims
    have sound' : (without (lookupKey floating) op).inventory.Sound := sound.rollback _
    have known' : (without (lookupKey floating) op).inventory.range? fresh.name = some stored :=
      (Inventory.range?_rollback fresh.name).trans known
    have second := finish_applyRange sound' valid known' changed persist
    exact ⟨result, final.trans second.symm⟩

end Tasks

namespace Sample

def blue : Operator := (({} : Operator).finish accept
  (Watch.followRange (.apply (range "blue" "10.0.0.0/28")))).2

/-- A smaller network for the range, and a floating address that is new. -/
def smaller : Manifest.Range := range "blue" "10.0.0.0/29"

/-- A new floating address of the range. -/
def one : Manifest.Floating := floating "one" "blue" none

/-- The floating address has its turns when the range has been removed. -/
def lateTurns : List Turn := [.first, .first, .first, .second, .second, .first, .first]

/-- What comes of these turns. -/
def late : Option (List Call × Except OperatorError Unit × Except OperatorError Unit × Operator) :=
  interleave (fun c op => op.reply accept c) lateTurns (applyRange smaller).run
    (applyFloating one).run blue

end Sample

namespace Tasks

theorem reached_blue : Reached (idle Sample.blue) :=
  (Reached.start {} rfl).followRange _ Sample.accept

theorem smaller_changes : ∃ stored fresh : RangeRecord,
    Sample.blue.inventory.range? Sample.smaller.metadata.anyName = some stored ∧
      RangeRecord.ofManifest Sample.smaller = .ok fresh ∧ fresh ≠ stored := by
  have known : (Sample.blue.inventory.range? "blue").any fun stored =>
      (RangeRecord.ofManifest Sample.smaller).toOption.any fun fresh => fresh ≠ stored := by
    decide +kernel
  obtain ⟨stored, found, known⟩ := (Option.any_eq_true ..).mp known
  obtain ⟨fresh, valid, changed⟩ := (Option.any_eq_true ..).mp known
  refine ⟨stored, fresh, found, ?_, by simpa using changed⟩
  cases h : RangeRecord.ofManifest Sample.smaller with
  | error error => rw [h] at valid; cases valid
  | ok record => rw [h] at valid; cases valid; rfl

/-- A floating address that would have been accepted before and after the change of its range is
refused. -/
theorem replacement_loses_claim : ∃ (op after : Operator) (range : Manifest.Range)
    (floating : Manifest.Floating) (stored fresh : RangeRecord)
    (persist : RecordKey → Ipv4 → Except OperatorError Unit) (turns : List Turn)
    (trace : List Call) (a b : Except OperatorError Unit),
    Reached (idle op) ∧ op.inventory.range? range.metadata.anyName = some stored ∧
      RangeRecord.ofManifest range = .ok fresh ∧ fresh ≠ stored ∧ (lookupKey floating).Plain ∧
      interleave (fun c op => op.reply persist c) turns (applyRange range).run
        (applyFloating floating).run op = some (trace, a, b, after) ∧
      (b, after.inventory) ≠ floatingFirst persist range floating op ∧
      (b, after.inventory) ≠ rangeFirst persist range floating op := by
  have refused : Sample.late.any fun r => !r.2.2.1.isOk := by decide +kernel
  obtain ⟨⟨trace, a, b, after⟩, run, refused⟩ := (Option.any_eq_true ..).mp refused
  obtain ⟨stored, fresh, known, valid, changed⟩ := smaller_changes
  have accepted :
      (floatingFirst Sample.accept Sample.smaller Sample.one Sample.blue).1.isOk := by
    decide +kernel
  have accepted' : (rangeFirst Sample.accept Sample.smaller Sample.one Sample.blue).1.isOk := by
    decide +kernel
  refine ⟨Sample.blue, after, Sample.smaller, Sample.one, stored, fresh, Sample.accept,
    Sample.lateTurns, trace, a, b, reached_blue, known, valid, changed, by decide, run,
    fun same => ?_, fun same => ?_⟩
  · rw [← same] at accepted
    simp [accepted] at refused
  · rw [← same] at accepted'
    simp [accepted'] at refused

/-- The claim of the new floating address is lost, and the range is replaced all the same. -/
theorem replacement_interleaved_late : ∃ (trace : List Call) (a b : Except OperatorError Unit)
    (after : Operator), Sample.late = some (trace, a, b, after) ∧
      b = .error (.allocation (.rangeNotFound "blue")) ∧
      after.inventory = ((without (lookupKey Sample.one) Sample.blue).finish Sample.accept
        (applyRange Sample.smaller).run).2.inventory := by
  have lost : Sample.late.any fun r => ClaimsWhileGone "blue" r.1 := by
    decide +kernel
  obtain ⟨⟨trace, a, b, after⟩, run, lost⟩ := (Option.any_eq_true ..).mp lost
  obtain ⟨stored, fresh, known, valid, changed⟩ := smaller_changes
  have named : fresh.name = "blue" := (RangeRecord.ofManifest_ok valid).1
  obtain ⟨refused, final⟩ := (reached_blue.replacement_interleaved known valid changed
    (show (lookupKey Sample.one).Plain by decide) run).2 (named ▸ of_decide_eq_true lost)
  exact ⟨trace, a, b, after, run, named ▸ refused, final⟩

end Tasks

end FloatingAddress
