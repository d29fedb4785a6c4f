import FloatingAddress.Proofs.Sweep.InMemory

/-!
# Guest clusters do not get in each other's way

In an environment every guest cluster has a state of its own, and a call about it is answered from
that state alone. A visit makes calls about its own guest cluster only, so what happens during the
visit is determined by the state of that cluster and leaves the others alone. It follows that a
sweep treats a guest cluster in the same way in any two environments that agree on it, whatever
becomes of the others.
-/

namespace FloatingAddress.Sweep

open Dialogue

/-- The guest cluster that a call is about. -/
def Call.subject? : Call → Option String
  | .getCluster name | .getKubeconfig name => some name
  | .providerName cluster => some cluster.name
  | c => c.kubeconfig?.map (·.cluster)

/-- Whether a call is about a guest cluster, or asks to change a series of it. -/
def Call.concerns (name : String) : Call → Bool
  | .measure (.guestStatus cluster _ _) | .measure (.guestEvent cluster _ _ _) => cluster = name
  | c => c.subject? = some name

/-- Calls of a visit to a guest cluster. -/
def Call.Stays (name : String) : Call → Prop
  | .measure (.guestStatus cluster _ _) | .measure (.guestEvent cluster _ _ _) => cluster = name
  | .report _ => True
  | c => c.subject? = some name

variable {name other : String} {options : Options} {store : Store} {record : FloatingRecord}

/-- A call of a visit is about its guest cluster, or about none, and then the answer tells
nothing. -/
theorem Call.Stays.cases {c : Call} (stays : c.Stays name) :
    c.subject? = some name ∨ c.subject? = none ∧ Subsingleton (Answer c) := by
  cases c with
  | measure update => exact .inr ⟨rfl, inferInstanceAs (Subsingleton Unit)⟩
  | report notice => exact .inr ⟨rfl, inferInstanceAs (Subsingleton Unit)⟩
  | _ => exact .inl stays

/-- A call of a visit concerns no other guest cluster. -/
theorem Call.Stays.eq_of_concerns {c : Call} (stays : c.Stays name) (h : c.concerns other = true) :
    name = other := by
  cases c with
  | measure update =>
    cases update <;> simp_all [Call.Stays, Call.concerns, Call.subject?, Call.kubeconfig?]
  | _ => simp_all [Call.Stays, Call.concerns, Call.subject?, Call.kubeconfig?]

theorem stays_of_calls {target : Target} (here : target.cluster = name)
    (own : target.kubeconfig.cluster = name) {c : Call} (calls : target.Calls c) :
    c.Stays name := by
  have called : ∀ {c : Call}, c.kubeconfig? = some target.kubeconfig → c.Stays name := by
    intro c called
    cases c <;> simp_all [Call.kubeconfig?, Call.Stays, Call.subject?]
  obtain rfl | serves := calls
  · exact called rfl
  · cases c with
    | measure update =>
      cases update with
      | guestStatus cluster provider up => exact serves.1.trans here
      | guestEvent cluster provider event outcome => exact serves.1.trans here
      | _ => cases serves
    | report notice => trivial
    | probe k => cases serves
    | _ => exact called serves

theorem stays_markedDown {provider : String} {notice : Notice} :
    ∀ x ∈ markedDown name provider notice, x.1.Stays name := by
  simp [markedDown, measured, reported, Call.Stays]

theorem stays_approach {cluster : GuestCluster} {answered : Except GuestError (Option String)}
    {k : Except GuestError Kubeconfig} (same : cluster.name = record.cluster) :
    ∀ x ∈ approach record cluster answered k, x.1.Stays record.cluster := by
  simp [approach, Call.Stays, Call.subject?, same]

/-- A visit keeps to its guest cluster, provided that the registry means what it was asked for. -/
theorem stays_of_visiting {talk : List Exchange} {result : Visit}
    (h : Visiting options store record talk result)
    (named : ∀ cluster, ⟨.getCluster record.cluster, .ok (some cluster)⟩ ∈ talk →
      cluster.name = record.cluster)
    (owned : ∀ k, ⟨.getKubeconfig record.cluster, .ok k⟩ ∈ talk → k.cluster = record.cluster) :
    ∀ x ∈ talk, x.1.Stays record.cluster := by
  cases h with
  | lookupFailed error => exact List.forall_mem_cons.mpr ⟨rfl, stays_markedDown⟩
  | gone => exact List.forall_mem_singleton.mpr rfl
  | estranged cluster lost => exact List.forall_mem_singleton.mpr rfl
  | locked cluster owns answered error =>
    exact List.forall_mem_append.mpr
      ⟨stays_approach (named cluster (by simp [approach])), stays_markedDown⟩
  | stopped cluster owns answered kubeconfig probing =>
    have own := owned kubeconfig (by simp [approach])
    exact List.forall_mem_append.mpr ⟨stays_approach (named cluster (by simp [approach])),
      fun x member => stays_of_calls rfl own (probing.calls x member)⟩
  | served cluster owns answered kubeconfig probing serving =>
    have own := owned kubeconfig (by simp [approach])
    exact List.forall_mem_append.mpr ⟨List.forall_mem_append.mpr
      ⟨stays_approach (named cluster (by simp [approach])),
        fun x member => stays_of_calls rfl own (probing.calls x member)⟩,
      fun x member => stays_of_calls rfl own (serving.calls x member)⟩

/-- Surroundings in which each guest cluster keeps to itself. -/
structure Environment (σ : Type) where
  /-- How calls about a guest cluster are answered, and what becomes of its state. -/
  reply : String → (c : Call) → σ → Answer c × σ
  /-- How a range is used. -/
  holdings : String → UInt32 × List Ipv4
  /-- The registry describes the guest cluster for which it was asked. -/
  named : ∀ name s cluster,
    (reply name (.getCluster name) s).1 = .ok (some cluster) → cluster.name = name
  /-- The credentials are those of the guest cluster for which they were asked. -/
  owned : ∀ name s k, (reply name (.getKubeconfig name) s).1 = .ok k → k.cluster = name

namespace Environment

variable {σ : Type} (E : Environment σ)

/-- A call about a guest cluster is answered from its state. -/
def ask (name : String) (c : Call) (s : String → σ) : Answer c × (String → σ) :=
  ((E.reply name c (s name)).1, Function.update s name (E.reply name c (s name)).2)

theorem ask_self (name : String) (c : Call) (s : String → σ) :
    (E.ask name c s).2 name = (E.reply name c (s name)).2 := Function.update_self ..

theorem ask_of_ne {name other : String} (far : other ≠ name) (c : Call) (s : String → σ) :
    (E.ask name c s).2 other = s other := Function.update_of_ne far ..

/-- The answers of the environment. -/
def answer : (c : Call) → (String → σ) → Answer c × (String → σ)
  | .sweeping _, s | .measure _, s | .report _, s => ((), s)
  | .holdings range, s => (E.holdings range, s)
  | .getCluster name, s => E.ask name (.getCluster name) s
  | .providerName cluster, s => E.ask cluster.name (.providerName cluster) s
  | .getKubeconfig name, s => E.ask name (.getKubeconfig name) s
  | .probe k, s => E.ask k.cluster (.probe k) s
  | .getConfigMap k ns name, s => E.ask k.cluster (.getConfigMap k ns name) s
  | .createConfigMap k m, s => E.ask k.cluster (.createConfigMap k m) s
  | .replaceConfigMap k m, s => E.ask k.cluster (.replaceConfigMap k m) s
  | .releaseExists k ns release, s => E.ask k.cluster (.releaseExists k ns release) s
  | .install k chart, s => E.ask k.cluster (.install k chart) s

theorem answer_of_subject {c : Call} {name : String} (about : c.subject? = some name)
    (s : String → σ) : E.answer c s = E.ask name c s := by
  cases c <;> cases about <;> rfl

/-- Calls about no guest cluster change no state. -/
theorem answer_of_none {c : Call} (about : c.subject? = none) (s : String → σ) :
    (E.answer c s).2 = s := by
  cases c <;> first | rfl | cases about

/-- In an environment, a visit keeps to its guest cluster. -/
theorem stays_visit (options : Options) (store : Store) (record : FloatingRecord)
    (s : String → σ) :
    ∀ x ∈ (visit options store record).transcript E.answer s, x.1.Stays record.cluster := by
  have given := answered_transcript E.answer (visit options store record) s
  refine stays_of_visiting (visiting (mayGo_transcript E.answer _ s)) ?_ ?_
  · intro cluster member
    obtain ⟨t, found⟩ := given.exists_of_mem member
    exact E.named record.cluster (t record.cluster) cluster found.symm
  · intro k member
    obtain ⟨t, found⟩ := given.exists_of_mem member
    exact E.owned record.cluster (t record.cluster) k found.symm

variable {E} {E' : Environment σ} {s s' : String → σ}

/-- Who keeps to one guest cluster leaves the others alone. -/
theorem frame_of_stays {talk : List Exchange} (answered : Answered E.answer s talk s')
    (stays : ∀ x ∈ talk, x.1.Stays name) (far : other ≠ name) : s' other = s other := by
  induction answered with
  | nil => rfl
  | @cons s s' c talk rest ih =>
    rw [ih fun x member => stays x (List.mem_cons_of_mem _ member)]
    obtain about | ⟨about, -⟩ := Call.Stays.cases (stays _ List.mem_cons_self)
    · rw [E.answer_of_subject about, E.ask_of_ne far]
    · rw [E.answer_of_none about]

/-- Who keeps to one guest cluster depends on that cluster alone. -/
theorem agree_of_stays {α : Type} (agree : E.reply name = E'.reply name) (d : Step α)
    (same : s name = s' name) (stays : ∀ x ∈ d.transcript E.answer s, x.1.Stays name) :
    d.transcript E'.answer s' = d.transcript E.answer s ∧
      (d.play E'.answer s').1 = (d.play E.answer s).1 ∧
      (d.play E'.answer s').2 name = (d.play E.answer s).2 name := by
  induction d generalizing s s' with
  | done a => exact ⟨rfl, rfl, same.symm⟩
  | ask c next ih =>
    obtain ⟨here, rest⟩ := List.forall_mem_cons.mp stays
    have step : (E'.answer c s').1 = (E.answer c s).1 ∧
        (E'.answer c s').2 name = (E.answer c s).2 name := by
      obtain about | ⟨about, _⟩ := Call.Stays.cases here
      · rw [E.answer_of_subject about, E'.answer_of_subject about, E.ask_self, E'.ask_self, ask,
          ask, ← agree, same]
        exact ⟨rfl, rfl⟩
      · rw [E.answer_of_none about, E'.answer_of_none about]
        exact ⟨Subsingleton.elim _ _, same.symm⟩
    obtain ⟨answered, after⟩ := step
    rw [transcript_ask, transcript_ask, play_ask, play_ask, answered]
    obtain ⟨talk, result, last⟩ := ih (E.answer c s).1 after.symm rest
    exact ⟨by rw [talk], result, last⟩

def visitsTo (name : String) (legs : List Leg) : List Leg :=
  legs.filter (·.record.cluster = name)

theorem agree_of_legs (agree : E.reply name = E'.reply name) (options : Options) (store : Store)
    (records : List FloatingRecord) (same : s name = s' name) :
    visitsTo name (legs E'.answer options store records s') =
      visitsTo name (legs E.answer options store records s) ∧
    afterLegs E'.answer options store records s' name =
      afterLegs E.answer options store records s name := by
  induction records generalizing s s' with
  | nil => exact ⟨rfl, same.symm⟩
  | cons record records ih =>
    let d := visit options store record
    by_cases own : record.cluster = name
    · -- The visit is the same in both environments.
      subst own
      obtain ⟨talk, result, after⟩ := agree_of_stays agree d same
        (E.stays_visit options store record s)
      obtain ⟨further, last⟩ := ih after.symm
      refine ⟨?_, last⟩
      unfold visitsTo at further ⊢
      rw [legs, legs, List.filter_cons_of_pos (by simp), List.filter_cons_of_pos (by simp), talk,
        result, further]
    · -- The visit does not touch the guest cluster in either environment.
      have untouched := frame_of_stays (answered_transcript E.answer d s)
        (E.stays_visit options store record s) (Ne.symm own)
      have untouched' := frame_of_stays (answered_transcript E'.answer d s')
        (E'.stays_visit options store record s') (Ne.symm own)
      obtain ⟨further, last⟩ := ih (untouched.trans (same.trans untouched'.symm))
      refine ⟨?_, last⟩
      unfold visitsTo at further ⊢
      rw [legs, legs, List.filter_cons_of_neg (by simpa using own),
        List.filter_cons_of_neg (by simpa using own), further]

/-- What concerns a guest cluster is said in the visits to it. -/
theorem concerns_of_legs (E : Environment σ) (options : Options) (store : Store)
    (records : List FloatingRecord) (s : String → σ) (name : String) :
    ((legs E.answer options store records s).flatMap (·.talk)).filter (·.1.concerns name) =
      (visitsTo name (legs E.answer options store records s)).flatMap
        fun leg => leg.talk.filter (·.1.concerns name) := by
  induction records generalizing s with
  | nil => rfl
  | cons record records ih =>
    unfold visitsTo at ih ⊢
    rw [legs, List.flatMap_cons, List.filter_append, ih, List.filter_cons]
    split
    · rfl
    next other =>
      rw [List.filter_eq_nil_iff.mpr, List.nil_append]
      intro x member concerned
      exact other (by simpa using
        (E.stays_visit options store record s x member).eq_of_concerns concerned)

/-- What is said after the visits is about no guest cluster. -/
theorem subject_of_closing {c : Call} (h : c.Closing) : c.subject? = none := by
  cases c <;> first | rfl | cases h

theorem concerns_of_closing {c : Call} (h : c.Closing) : c.concerns name = false := by
  cases c <;> first | rfl | cases h

theorem unchanged_of_closing {closing : List Exchange} (answered : Answered E.answer s closing s')
    (closes : ∀ x ∈ closing, Call.Closing x.1) : s' = s := by
  induction answered with
  | nil => rfl
  | cons _ ih =>
    rw [ih fun x member => closes x (List.mem_cons_of_mem _ member)]
    exact E.answer_of_none
      (subject_of_closing (closes _ List.mem_cons_self)) _

theorem concerns_of_sweep (E : Environment σ) (options : Options) (store : Store) (s : String → σ)
    (name : String) :
    ((sweep options store).transcript E.answer s).filter (·.1.concerns name) =
      (visitsTo name (tour E.answer options store s)).flatMap
        fun leg => leg.talk.filter (·.1.concerns name) := by
  obtain ⟨closing, whole, closes, -⟩ := transcript_sweep E.answer options store s
  have ended : closing.filter (·.1.concerns name) = [] :=
    List.filter_eq_nil_iff.mpr fun x member => by simp [concerns_of_closing (closes x member)]
  rw [whole, List.filter_cons_of_neg (by simp [Call.concerns, Call.subject?, Call.kubeconfig?]),
    List.filter_append, ended, List.append_nil]
  exact concerns_of_legs E options store store.floatings _ name

theorem after_sweep (E : Environment σ) (options : Options) (store : Store) (s : String → σ) :
    ((sweep options store).play E.answer s).2 =
      afterLegs E.answer options store store.floatings s := by
  obtain ⟨closing, -, closes, answered⟩ := transcript_sweep E.answer options store s
  exact unchanged_of_closing answered closes

/-- The visits to all stored floating addresses, each of them once, by namespace and name. -/
structure Complete (store : Store) (legs : List Leg) (report : Report) : Prop where
  ordered : ∃ keys : List RecordKey, keys.Pairwise RecordKey.Before ∧
    (∀ key, key ∈ keys ↔ (store.floating? key).isSome) ∧
    legs.map (some ·.record) = keys.map store.floating?
  /-- Every visit looks its own guest cluster up. -/
  begins : ∀ leg ∈ legs, ∃ found rest, leg.talk = ⟨.getCluster leg.record.cluster, found⟩ :: rest
  visited : report.visited = legs.length

theorem complete_tour (E : Environment σ) (options : Options) (store : Store) (s : String → σ) :
    Complete store (tour E.answer options store s)
      ((sweep options store).play E.answer s).1 where
  ordered := by
    obtain ⟨keys, ordered, covered, listed⟩ := store.floatings_ordered
    refine ⟨keys, ordered, covered, ?_⟩
    rw [← listed, ← records_tour E.answer options store s, List.map_map]
    rfl
  begins leg member := (visiting_of_mem_tour E.answer options store member).first
  visited := by rw [report_sweep, ← records_tour E.answer options store s, List.length_map]

/-- A sweep treats a guest cluster in the same way in two environments that agree on it: it makes
the same calls and asks for the same changes of the series, gets the same answers, and leaves the
cluster in the same state. And whatever the environment, it visits the guest clusters of all stored
floating addresses, and calls about guest clusters are made during the visits only. -/
theorem sweep_isolates (E E' : Environment σ) (options : Options) (store : Store) (name : String)
    (s s' : String → σ) (agree : E.reply name = E'.reply name) (same : s name = s' name) :
    (visitsTo name (tour E.answer options store s) =
        visitsTo name (tour E'.answer options store s') ∧
      ((sweep options store).transcript E.answer s).filter (·.1.concerns name) =
        ((sweep options store).transcript E'.answer s').filter (·.1.concerns name) ∧
      ((sweep options store).play E.answer s).2 name =
        ((sweep options store).play E'.answer s').2 name) ∧
    Complete store (tour E.answer options store s) ((sweep options store).play E.answer s).1 ∧
    ∃ closing, (sweep options store).transcript E.answer s =
        ⟨.sweeping true, ()⟩ :: ((tour E.answer options store s).flatMap (·.talk) ++ closing) ∧
      ∀ x ∈ closing, x.1.subject? = none := by
  obtain ⟨visits, last⟩ := agree_of_legs agree options store store.floatings same
  have visits' : visitsTo name (tour E.answer options store s) =
      visitsTo name (tour E'.answer options store s') := visits.symm
  refine ⟨⟨visits', ?_, ?_⟩, complete_tour E options store s, ?_⟩
  · rw [concerns_of_sweep, concerns_of_sweep, visits']
  · rw [after_sweep, after_sweep, last]
  · obtain ⟨closing, whole, closes, -⟩ := transcript_sweep E.answer options store s
    exact ⟨closing, whole, fun x member => subject_of_closing (closes x member)⟩

end Environment

namespace Sample

/-- Guest clusters that do what they are asked for, except that the registry fails for some of them.
The state is the list of releases. -/
def environment (fails : String → Bool) : Environment (List String) where
  reply name c s := match c with
    | .getCluster _ =>
      (if fails name then .error (.io "lost") else .ok (some { name, ns := some "web" }), s)
    | .providerName _ => (.ok none, s)
    | .getKubeconfig _ => (.ok { cluster := name, yaml := "" }, s)
    | .probe _ => (.ok (), s)
    | .getConfigMap .. => (.ok none, s)
    | .createConfigMap .. | .replaceConfigMap .. => (.ok (), s)
    | .releaseExists _ _ release => (.ok (s.contains release), s)
    | .install _ chart => (.ok (), chart.release :: s)
    | .holdings _ => ((0, []), s)
    | .sweeping _ | .measure _ | .report _ => ((), s)
  holdings _ := (0, [])
  named name s cluster found := by
    cases failing : fails name with
    | true => simp [failing] at found
    | false =>
      simp only [failing] at found
      exact congrArg GuestCluster.name (Option.some.inj (Except.ok.inj found)).symm
  owned name s k found := congrArg Kubeconfig.cluster (Except.ok.inj found).symm

end Sample

namespace Environment

/-- A guest cluster gets its releases whether or not another one can be found. -/
theorem installs_beside_failure :
    ((sweep InMemory.Sample.options InMemory.Sample.store).play
        (Sample.environment (· = "fresh")).answer fun _ => []).2 "guest" =
      ((sweep InMemory.Sample.options InMemory.Sample.store).play
        (Sample.environment fun _ => false).answer fun _ => []).2 "guest" ∧
    ((sweep InMemory.Sample.options InMemory.Sample.store).play
        (Sample.environment (· = "fresh")).answer fun _ => []).2 "guest" =
      ["kube-vip-cloud-provider", "kube-vip"] ∧
    ((sweep InMemory.Sample.options InMemory.Sample.store).play
        (Sample.environment (· = "fresh")).answer fun _ => []).2 "fresh" = [] := by
  have agree : (Sample.environment (· = "fresh")).reply "guest" =
      (Sample.environment fun _ => false).reply "guest" := by
    funext c s
    cases c <;> rfl
  exact ⟨(sweep_isolates _ _ _ _ "guest" _ _ agree rfl).1.2.2, by decide +kernel,
    by decide +kernel⟩

end Environment

end FloatingAddress.Sweep
