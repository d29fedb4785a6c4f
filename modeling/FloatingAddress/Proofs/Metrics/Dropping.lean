import FloatingAddress.Proofs.Metrics.Totals

/-!
# Which series a cleanup drops

A cleanup drops the series of the queued guest clusters under every provider label that is known of
them, and no other, except that a series is found by the text of its labels: one whose labels read
like those of a queued cluster goes as well.

All labels of a guest cluster that stand in a series are known. So no series of a queued cluster is
left after a cleanup.
-/

namespace FloatingAddress.Metrics

namespace Family

variable {α β : Type} {family between after : Family α} {dead dead' : List String → Prop}
  {labels : List String} {cluster : String}

/-- A family has lost the series that are found by certain labels, and no other. -/
structure Loses (dead : List String → Prop) (family after : Family α) : Prop where
  gone : ∀ labels, dead labels → after.series[seriesKey labels]? = none
  kept : ∀ key : String, (∀ labels, dead labels → seriesKey labels ≠ key) →
    after.series[key]? = family.series[key]?

theorem Loses.refl (family : Family α) : Loses (fun _ => False) family family :=
  ⟨fun _ no => absurd no id, fun _ _ => rfl⟩

theorem Loses.congr (loses : Loses dead family after)
    (same : ∀ labels, dead labels ↔ dead' labels) : Loses dead' family after :=
  ⟨fun labels h => loses.gone labels ((same labels).mpr h),
    fun key spared => loses.kept key fun labels h => spared labels ((same labels).mp h)⟩

theorem Loses.trans (first : Loses dead family between) (second : Loses dead' between after) :
    Loses (fun labels => dead labels ∨ dead' labels) family after where
  gone labels h := by
    by_cases again : ∃ other, dead' other ∧ seriesKey other = seriesKey labels
    · obtain ⟨other, doomed, same⟩ := again
      rw [← same]
      exact second.gone other doomed
    · have spared : ∀ other, dead' other → seriesKey other ≠ seriesKey labels :=
        fun other doomed same => again ⟨other, doomed, same⟩
      rw [second.kept _ spared]
      obtain h | h := h
      · exact first.gone labels h
      · exact absurd rfl (spared labels h)
  kept key spared := by
    rw [second.kept key fun labels h => spared labels (.inr h),
      first.kept key fun labels h => spared labels (.inl h)]

theorem loses_remove (family : Family α) (labels : List String) :
    Loses (· = labels) family (family.remove labels) where
  gone other same := by
    rw [same, remove, Std.ExtTreeMap.getElem?_erase, if_pos Std.ReflCmp.compare_self]
  kept key spared := by
    rw [remove, Std.ExtTreeMap.getElem?_erase, if_neg]
    intro same
    exact spared labels rfl (Std.LawfulEqCmp.eq_of_compare same)

/-- What is lost step by step is lost in the end. -/
theorem loses_foldl {f : Family α → β → Family α} {dead : β → List String → Prop}
    (step : ∀ family item, Loses (dead item) family (f family item)) (items : List β)
    (family : Family α) :
    Loses (fun labels => ∃ item ∈ items, dead item labels) family (items.foldl f family) := by
  induction items generalizing family with
  | nil => exact (Loses.refl family).congr fun labels => by simp
  | cons item items ih =>
    refine ((step family item).trans (ih (f family item))).congr fun labels => ?_
    simp only [List.mem_cons, exists_eq_or_imp]

/-- What is left was there before. -/
theorem Loses.labels? (loses : Loses dead family after) {key : String}
    (shown : after.labels? key = some labels) : family.labels? key = some labels := by
  by_cases doomed : ∃ other, dead other ∧ seriesKey other = key
  · obtain ⟨other, doomed, rfl⟩ := doomed
    rw [Family.labels?, loses.gone other doomed] at shown
    cases shown
  · rw [Family.labels?, loses.kept key fun other h same => doomed ⟨other, h, same⟩] at shown
    exact shown

theorem Loses.spared (loses : Loses dead family after) {key : String}
    (shown : after.labels? key = some labels) : ∀ other, dead other → seriesKey other ≠ key := by
  rintro other doomed rfl
  rw [Family.labels?, loses.gone other doomed] at shown
  cases shown

theorem Loses.reading? (loses : Loses dead family after) {reading : α}
    (shown : after.reading? labels = some reading) : family.reading? labels = some reading := by
  obtain ⟨s, found, -⟩ := Option.map_eq_some_iff.mp shown
  rwa [Family.reading?, loses.kept _ (loses.spared (labels?_of_some found))] at shown

/-- What is left are the series that do not have the text of labels that are given up. -/
theorem Loses.mem_iff (loses : Loses dead family after) (keyed : family.Keyed) {s : Series α} :
    s ∈ after.toList ↔
      s ∈ family.toList ∧ ¬∃ labels, dead labels ∧ seriesKey labels = seriesKey s.labels := by
  constructor
  · intro member
    obtain ⟨key, left⟩ := mem_toList.mp member
    have spared := loses.spared (labels?_of_some left)
    have before := (loses.kept key spared).symm.trans left
    refine ⟨mem_toList.mpr ⟨key, before⟩, ?_⟩
    rintro ⟨labels, doomed, same⟩
    exact spared labels doomed (same.trans (keyed key s.labels (labels?_of_some before)))
  · rintro ⟨member, spared⟩
    obtain ⟨key, found⟩ := mem_toList.mp member
    have own := keyed key s.labels (labels?_of_some found)
    refine mem_toList.mpr ⟨key, ?_⟩
    rw [loses.kept key fun labels doomed same => spared ⟨labels, doomed, same.trans own.symm⟩,
      found]

/-- A series of the family has a guest cluster as its first label. -/
def Shows (family : Family α) (cluster : String) : Prop :=
  ∃ s ∈ family.toList, s.labels.head? = some cluster

theorem shows_iff : family.Shows cluster ↔
    ∃ key labels, family.labels? key = some labels ∧ labels.head? = some cluster := by
  constructor
  · rintro ⟨s, member, first⟩
    obtain ⟨key, found⟩ := mem_toList.mp member
    exact ⟨key, s.labels, labels?_of_some found, first⟩
  · rintro ⟨key, labels, shown, first⟩
    obtain ⟨s, found, rfl⟩ := Option.map_eq_some_iff.mp shown
    exact ⟨s, mem_toList.mpr ⟨key, found⟩, first⟩

/-- A series that is written is that of the labels, or it was there before. -/
theorem shows_update {initial : α} {f : α → α}
    (present : (family.update labels initial f).Shows cluster) :
    family.Shows cluster ∨ labels.head? = some cluster := by
  obtain ⟨key, shown, h, first⟩ := shows_iff.mp present
  rw [labels?_update] at h
  split at h
  · obtain rfl := Option.some.inj h
    cases found : family.labels? key with
    | none =>
      rw [found, Option.getD_none] at first
      exact .inr first
    | some earlier =>
      rw [found, Option.getD_some] at first
      exact .inl (shows_iff.mpr ⟨key, earlier, found, first⟩)
  · exact .inl (shows_iff.mpr ⟨key, shown, h, first⟩)

end Family

/-- The labels of a status, for a guest cluster and a provider label out of some. -/
def StatusOf (of : String → String → Prop) (labels : List String) : Prop :=
  ∃ cluster provider, of cluster provider ∧ labels = [cluster, provider]

/-- The labels of an event, for a guest cluster and a provider label out of some. -/
def EventOf (of : String → String → Prop) (labels : List String) : Prop :=
  ∃ cluster provider event outcome, of cluster provider ∧
    labels = eventLabels cluster provider event outcome

/-- A provider label is known of a guest cluster. -/
def Knows (m : Metrics) (cluster provider : String) : Prop :=
  provider ∈ (m.providers[cluster]?).getD ∅

/-- The guest cluster of which a change writes a series. -/
def Update.guest? : Update → Option String
  | .guestStatus cluster _ _ | .guestEvent cluster _ _ _ => some cluster
  | _ => none

/-- There is a status or an event of a guest cluster. -/
def Shows (m : Metrics) (cluster : String) : Prop :=
  m.status.Shows cluster ∨ m.events.Shows cluster

/-- The series of some guest clusters under some provider labels are lost, and no other. -/
structure Loses (dead : String → String → Prop) (m after : Metrics) : Prop where
  status : Family.Loses (StatusOf dead) m.status after.status
  events : Family.Loses (EventOf dead) m.events after.events

variable {m between after : Metrics} {dead dead' : String → String → Prop}
  {cluster other provider : String}

theorem Loses.congr (loses : Loses dead m after) (same : ∀ c p, dead c p ↔ dead' c p) :
    Loses dead' m after :=
  ⟨loses.status.congr fun labels => by simp only [StatusOf, same],
    loses.events.congr fun labels => by simp only [EventOf, same]⟩

theorem Loses.refl (m : Metrics) : Loses (fun _ _ => False) m m :=
  ⟨(Family.Loses.refl _).congr fun labels => by simp [StatusOf],
    (Family.Loses.refl _).congr fun labels => by simp [EventOf]⟩

theorem Loses.trans (first : Loses dead m between) (second : Loses dead' between after) :
    Loses (fun c p => dead c p ∨ dead' c p) m after :=
  ⟨(first.status.trans second.status).congr fun labels => by
      simp only [StatusOf, or_and_right, exists_or],
    (first.events.trans second.events).congr fun labels => by
      simp only [EventOf, or_and_right, exists_or]⟩

theorem loses_dropProvider (cluster : String) (m : Metrics) (provider : String) :
    Loses (fun c p => c = cluster ∧ p = provider) m (dropProvider cluster m provider) where
  status := (Family.loses_remove m.status [cluster, provider]).congr fun labels => by
    simp only [StatusOf, and_assoc, exists_and_left, exists_eq_left]
  events := by
    refine (Family.loses_foldl (fun events event => Family.loses_foldl (fun events outcome =>
      Family.loses_remove events (eventLabels cluster provider event outcome)) _ _) _ _).congr
        fun labels => ⟨?_, ?_⟩
    · rintro ⟨event, -, outcome, -, rfl⟩
      exact ⟨cluster, provider, event, outcome, ⟨rfl, rfl⟩, rfl⟩
    · rintro ⟨_, _, event, outcome, ⟨rfl, rfl⟩, rfl⟩
      exact ⟨event, by cases event <;> simp [Event.all], outcome,
        by cases outcome <;> simp [Outcome.all], rfl⟩

/-- What is kept beside the series is left alone. -/
theorem providers_foldl_dropProvider (cluster : String) (known : List String) (m : Metrics) :
    (known.foldl (dropProvider cluster) m).providers = m.providers ∧
      (known.foldl (dropProvider cluster) m).sweeping = m.sweeping := by
  induction known generalizing m with
  | nil => exact ⟨rfl, rfl⟩
  | cons provider known ih => exact ih (dropProvider cluster m provider)

theorem loses_foldl_dropProvider (cluster : String) (known : List String) (m : Metrics) :
    Loses (fun c p => c = cluster ∧ p ∈ known) m (known.foldl (dropProvider cluster) m) := by
  induction known generalizing m with
  | nil => exact (Loses.refl m).congr fun c p => by simp
  | cons provider known ih =>
    refine ((loses_dropProvider cluster m provider).trans (ih _)).congr fun c p => ?_
    rw [List.mem_cons, and_or_left]

theorem loses_dropCluster (m : Metrics) (cluster : String) :
    Loses (fun c p => c = cluster ∧ m.Knows c p) m (m.dropCluster cluster) := by
  have dropped := loses_foldl_dropProvider cluster ((m.providers[cluster]?).getD ∅).toList m
  have same : ∀ c p, (c = cluster ∧ p ∈ ((m.providers[cluster]?).getD ∅).toList) ↔
      (c = cluster ∧ m.Knows c p) := by
    rintro c p
    rw [Std.ExtTreeSet.mem_toList]
    exact and_congr_right fun here => here ▸ Iff.rfl
  obtain ⟨status, events⟩ := dropped.congr same
  exact ⟨status, events⟩

theorem knows_dropCluster :
    (m.dropCluster cluster).Knows other provider ↔ other ≠ cluster ∧ m.Knows other provider := by
  unfold Knows dropCluster
  dsimp only
  rw [(providers_foldl_dropProvider _ _ m).1, Std.ExtTreeMap.getElem?_erase]
  by_cases same : cluster = other
  · subst same
    simp
  · simp [same, Ne.symm same]

theorem sweeping_dropCluster : (m.dropCluster cluster).sweeping = m.sweeping :=
  (providers_foldl_dropProvider ..).2

/-- Dropping clusters one after the other drops what was known of them in the beginning. -/
theorem loses_foldl_dropCluster (clusters : List String) (m : Metrics) :
    Loses (fun c p => c ∈ clusters ∧ m.Knows c p) m (clusters.foldl dropCluster m) ∧
      (∀ c p, (clusters.foldl dropCluster m).Knows c p ↔ c ∉ clusters ∧ m.Knows c p) ∧
      (clusters.foldl dropCluster m).sweeping = m.sweeping := by
  induction clusters generalizing m with
  | nil => exact ⟨(Loses.refl m).congr fun c p => by simp, fun c p => by simp, rfl⟩
  | cons cluster clusters ih =>
    obtain ⟨loses, knows, sweeping⟩ := ih (m.dropCluster cluster)
    refine ⟨((loses_dropCluster m cluster).trans loses).congr fun c p => ?_, fun c p => ?_,
      sweeping.trans sweeping_dropCluster⟩
    · rw [knows_dropCluster, List.mem_cons]
      by_cases here : c = cluster <;> simp [here]
    · rw [List.foldl_cons, knows, knows_dropCluster, List.mem_cons, not_or, and_assoc]
      exact and_left_comm

/-- What a cleanup that is not skipped does. -/
structure Cleans (m after : Metrics) : Prop extends
    Loses (fun c p => c ∈ m.queue ∧ m.Knows c p) m after where
  knows : ∀ cluster provider,
    after.Knows cluster provider ↔ cluster ∉ m.queue ∧ m.Knows cluster provider
  queue : after.queue = ∅
  sweeping : after.sweeping = false

theorem cleans (idle : m.sweeping = false) : m.Cleans m.cleaned := by
  obtain ⟨loses, knows, sweeping⟩ := loses_foldl_dropCluster m.queue.toList m
  have result : m.cleaned = { m.queue.toList.foldl dropCluster m with queue := ∅ } := by
    rw [cleaned, cleanup, if_neg (by simp [idle])]
  simp only [Std.ExtTreeSet.mem_toList] at loses knows
  rw [result]
  exact ⟨⟨loses.status, loses.events⟩, knows, rfl, sweeping.trans idle⟩

/-- A cleanup during a sweep is skipped. -/
theorem cleaned_of_sweeping (busy : m.sweeping = true) : m.cleaned = m := by
  rw [cleaned, cleanup, if_pos busy]

/-- The labels of every series of a guest cluster are known. -/
structure Tracked (m : Metrics) : Prop where
  status : ∀ key labels, m.status.labels? key = some labels →
    seriesKey labels = key ∧ StatusOf m.Knows labels
  events : ∀ key labels, m.events.labels? key = some labels →
    seriesKey labels = key ∧ EventOf m.Knows labels

theorem knows_track (cluster provider : String) {c p : String} :
    (m.track cluster provider).Knows c p ↔ cluster = c ∧ provider = p ∨ m.Knows c p := by
  unfold Knows track
  dsimp only
  rw [Std.ExtTreeMap.getElem?_insert]
  by_cases same : cluster = c
  · subst same
    simp
  · simp [same]

theorem StatusOf.mono {of of' : String → String → Prop} (more : ∀ c p, of c p → of' c p)
    {labels : List String} (h : StatusOf of labels) : StatusOf of' labels := by
  obtain ⟨c, p, known, rfl⟩ := h
  exact ⟨c, p, more c p known, rfl⟩

theorem EventOf.mono {of of' : String → String → Prop} (more : ∀ c p, of c p → of' c p)
    {labels : List String} (h : EventOf of labels) : EventOf of' labels := by
  obtain ⟨c, p, event, outcome, known, rfl⟩ := h
  exact ⟨c, p, event, outcome, more c p known, rfl⟩

/-- A written series has its own labels or those it had before. -/
theorem Family.labels?_update_cases {α : Type} {family : Family α} {labels shown : List String}
    {initial : α} {f : α → α} {key : String}
    (h : (family.update labels initial f).labels? key = some shown) :
    family.labels? key = some shown ∨ seriesKey labels = key ∧ shown = labels := by
  rw [labels?_update] at h
  split at h
  next here =>
    cases found : family.labels? key with
    | none =>
      rw [found, Option.getD_none, Option.some.injEq] at h
      exact .inr ⟨here, h.symm⟩
    | some earlier =>
      rw [found, Option.getD_some] at h
      exact .inl h
  · exact .inl h

theorem Tracked.apply (tracked : m.Tracked) (update : Update) : (m.apply update).Tracked := by
  cases update with
  | guestStatus cluster provider up =>
    have more : ∀ c p, m.Knows c p → (m.track cluster provider).Knows c p :=
      fun c p known => (knows_track ..).mpr (.inr known)
    constructor
    · intro key labels h
      obtain h | ⟨here, rfl⟩ := Family.labels?_update_cases h
      · exact ⟨(tracked.status key labels h).1, (tracked.status key labels h).2.mono more⟩
      · exact ⟨here, cluster, provider, (knows_track ..).mpr (.inl ⟨rfl, rfl⟩), rfl⟩
    · intro key labels h
      exact ⟨(tracked.events key labels h).1, (tracked.events key labels h).2.mono more⟩
  | guestEvent cluster provider event outcome =>
    have more : ∀ c p, m.Knows c p → (m.track cluster provider).Knows c p :=
      fun c p known => (knows_track ..).mpr (.inr known)
    constructor
    · intro key labels h
      exact ⟨(tracked.status key labels h).1, (tracked.status key labels h).2.mono more⟩
    · intro key labels h
      obtain h | ⟨here, rfl⟩ := Family.labels?_update_cases h
      · exact ⟨(tracked.events key labels h).1, (tracked.events key labels h).2.mono more⟩
      · exact ⟨here, cluster, provider, event, outcome,
          (knows_track ..).mpr (.inl ⟨rfl, rfl⟩), rfl⟩
  | _ => exact ⟨tracked.status, tracked.events⟩

/-- The series that are left after a cleanup are of clusters that were not queued. -/
theorem Tracked.cleans (tracked : m.Tracked) (cleans : m.Cleans after) :
    (∀ key labels, after.status.labels? key = some labels →
      seriesKey labels = key ∧ StatusOf (fun c p => c ∉ m.queue ∧ m.Knows c p) labels) ∧
    ∀ key labels, after.events.labels? key = some labels →
      seriesKey labels = key ∧ EventOf (fun c p => c ∉ m.queue ∧ m.Knows c p) labels := by
  constructor
  · intro key labels shown
    obtain ⟨own, c, p, known, rfl⟩ := tracked.status key labels (cleans.status.labels? shown)
    refine ⟨own, c, p, ⟨fun queued => ?_, known⟩, rfl⟩
    exact cleans.status.spared shown [c, p] ⟨c, p, ⟨queued, known⟩, rfl⟩ own
  · intro key labels shown
    obtain ⟨own, c, p, event, outcome, known, rfl⟩ :=
      tracked.events key labels (cleans.events.labels? shown)
    refine ⟨own, c, p, event, outcome, ⟨fun queued => ?_, known⟩, rfl⟩
    exact cleans.events.spared shown _ ⟨c, p, event, outcome, ⟨queued, known⟩, rfl⟩ own

theorem Tracked.cleaned (tracked : m.Tracked) : m.cleaned.Tracked := by
  cases busy : m.sweeping with
  | true => rwa [cleaned_of_sweeping busy]
  | false =>
    have after := Metrics.cleans busy
    obtain ⟨status, events⟩ := tracked.cleans after
    exact ⟨fun key labels h => ⟨(status key labels h).1,
        (status key labels h).2.mono fun c p => (after.knows c p).mpr⟩,
      fun key labels h => ⟨(events key labels h).1,
        (events key labels h).2.mono fun c p => (after.knows c p).mpr⟩⟩

theorem Reached.tracked (reached : m.Reached) : m.Tracked := by
  induction reached with
  | start => exact ⟨by simp [Metrics.empty], by simp [Metrics.empty]⟩
  | apply _ update ih => exact ih.apply update
  | cleaned _ ih => exact ih.cleaned
  | beginSweep _ ih => exact ⟨ih.status, ih.events⟩
  | endSweep _ ih => exact ⟨ih.status, ih.events⟩

/-- After a cleanup no series of a queued guest cluster is left, and no series is new. -/
theorem Tracked.shows_cleans (tracked : m.Tracked) (cleans : m.Cleans after)
    (present : after.Shows cluster) : m.Shows cluster ∧ cluster ∉ m.queue := by
  obtain ⟨status, events⟩ := tracked.cleans cleans
  obtain shown | shown := present
  · obtain ⟨key, labels, here, first⟩ := Family.shows_iff.mp shown
    obtain ⟨-, c, p, ⟨spared, -⟩, rfl⟩ := status key labels here
    obtain rfl := Option.some.inj first
    exact ⟨.inl (Family.shows_iff.mpr ⟨key, _, cleans.status.labels? here, rfl⟩), spared⟩
  · obtain ⟨key, labels, here, first⟩ := Family.shows_iff.mp shown
    obtain ⟨-, c, p, event, outcome, ⟨spared, -⟩, rfl⟩ := events key labels here
    obtain rfl := Option.some.inj first
    exact ⟨.inr (Family.shows_iff.mpr ⟨key, _, cleans.events.labels? here, rfl⟩), spared⟩

/-- A change shows no guest cluster but the one of which it writes a series. -/
theorem shows_apply {update : Update} (present : (m.apply update).Shows cluster) :
    m.Shows cluster ∨ update.guest? = some cluster := by
  cases update with
  | guestStatus c p up =>
    obtain shown | shown := present
    · exact (Family.shows_update shown).imp .inl id
    · exact .inl (.inr shown)
  | guestEvent c p event outcome =>
    obtain shown | shown := present
    · exact .inl (.inl shown)
    · exact (Family.shows_update shown).imp .inr id
  | _ => exact .inl present

end FloatingAddress.Metrics
