import FloatingAddress.Proofs.Sweep.InMemory

/-!
# When guest clusters are touched

A guest cluster is called only after the registry has named it as the owner of the record's
namespace and its credentials were fetched; and all that follows the probe only after the probe
succeeded. A component is installed exactly if the probe succeeded, the policy selects the labels
that the registry told, and the component is to be upgraded in any case or was seen to be missing.
Whatever becomes of one component, the other one and the address are dealt with.

These are facts about the order in which things are said during one visit, for any answers.
-/

namespace FloatingAddress.Sweep

open Dialogue

variable {options : Options} {store : Store} {leg : Leg} {component : Chart.Component}
  {target : Target} {talk part : List Exchange}

def Call.IsInstaller : Call → Prop
  | .releaseExists .. | .install .. => True
  | _ => False

theorem Call.not_isInstaller {c : Call} (silent : c.kubeconfig? = none) : ¬c.IsInstaller := by
  cases c <;> simp_all [kubeconfig?, IsInstaller]

/-- Calls of the installer for the sake of one component. -/
def Call.Handles (options : Options) (component : Chart.Component) : Call → Prop
  | .releaseExists _ ns release => ns = component.ns ∧ release = component.release
  | .install _ chart => chart = options.chartRequest component
  | _ => True

namespace Leg

/-- The registry has answered that the guest cluster exists and owns the namespace of the record. -/
def Admitted (leg : Leg) (talk : List Exchange) : Prop :=
  ∃ cluster, ⟨.getCluster leg.record.cluster, .ok (some cluster)⟩ ∈ talk ∧
    cluster.ns = some leg.record.key.ns

/-- The target got past the probe. -/
def Reached (leg : Leg) : Prop := ∃ k, ⟨.probe k, .ok ()⟩ ∈ leg.talk

/-- The policy selects the labels in the answer of the registry. -/
def Selected (options : Options) (leg : Leg) : Prop :=
  ∃ cluster, ⟨.getCluster leg.record.cluster, .ok (some cluster)⟩ ∈ leg.talk ∧
    options.installPolicy.selects cluster.labels = true

/-- A part of a visit deals with one component as it should. -/
structure Installs (options : Options) (leg : Leg) (component : Chart.Component)
    (part : List Exchange) : Prop where
  /-- The component is installed exactly if the visit got so far, the policy selects the cluster,
  and the component is to be upgraded or was seen to be missing. -/
  install_iff : (∃ k answer, ⟨.install k (options.chartRequest component), answer⟩ ∈ part) ↔
    leg.Reached ∧ leg.Selected options ∧ (options.updateInPlace = true ∨
      ∃ k, ⟨.releaseExists k component.ns component.release, .ok false⟩ ∈ part)
  /-- The installer is called for no other component. -/
  handles : ∀ x ∈ part, x.1.Handles options component
  /-- If the visit got so far and the policy selects the cluster, something is tried. -/
  tried : leg.Reached → leg.Selected options → ∃ k x rest, part = x :: rest ∧
    (x.1 = .releaseExists k component.ns component.release ∨
      x.1 = .install k (options.chartRequest component))

/-- A part of a visit deals with the address as it should, if the visit got so far. -/
def Publishes (options : Options) (leg : Leg) (part : List Exchange) : Prop :=
  leg.Reached →
    match leg.record.address with
    | none => part = [reported (.addressMissing leg.record.key)]
    | some _ => ∃ k answer rest,
      part = ⟨.getConfigMap k options.loadBalancer.ns addressConfigMap, answer⟩ :: rest

/-- A visit has a part for either component and one for the address. -/
def Divided (options : Options) (leg : Leg) : Prop :=
  ∃ start first second last, leg.talk = start ++ first ++ second ++ last ∧
    (∀ x ∈ start ++ last, ¬x.1.IsInstaller) ∧
    leg.Installs options options.loadBalancer first ∧
    leg.Installs options options.cloudProvider second ∧
    leg.Publishes options last

/-- Guest clusters are touched only as it is allowed. -/
structure Permitted (options : Options) (leg : Leg) : Prop where
  /-- Whoever calls a guest cluster or the installer has learned that the cluster exists and owns
  the namespace, and has fetched its credentials. -/
  admitted : ∀ before x after k, leg.talk = before ++ x :: after → x.1.kubeconfig? = some k →
    leg.Admitted before ∧ ⟨.getKubeconfig leg.record.cluster, .ok k⟩ ∈ before
  /-- Apart from the probe itself, this happens after a successful probe. -/
  probed : ∀ before x after k, leg.talk = before ++ x :: after → x.1.kubeconfig? = some k →
    x.1 ≠ .probe k → ⟨.probe k, .ok ()⟩ ∈ before
  /-- Whatever becomes of one part of the visit, there are the others. -/
  divided : leg.Divided options

theorem not_reached_of_silent (silent : ∀ x ∈ leg.talk, x.1.kubeconfig? = none) : ¬leg.Reached := by
  rintro ⟨k, probed⟩
  cases silent _ probed

theorem installs_nothing (stopped : ¬(leg.Reached ∧ leg.Selected options)) :
    leg.Installs options component [] where
  install_iff := by
    refine iff_of_false (by simp) ?_
    rintro ⟨reached, selected, -⟩
    exact stopped ⟨reached, selected⟩
  handles := by simp
  tried reached selected := absurd ⟨reached, selected⟩ stopped

/-- A visit that does not get past the probe has nothing in its parts. -/
theorem divided_of_stopped (stopped : ¬leg.Reached) (idle : ∀ x ∈ leg.talk, ¬x.1.IsInstaller) :
    leg.Divided options :=
  ⟨leg.talk, [], [], [], by simp, by simpa using idle, installs_nothing fun h => stopped h.1,
    installs_nothing fun h => stopped h.1, fun h => absurd h stopped⟩

/-- A visit that calls neither a guest cluster nor the installer does what it may. -/
theorem permitted_of_silent (silent : ∀ x ∈ leg.talk, x.1.kubeconfig? = none) :
    leg.Permitted options where
  admitted before x after k split called := by
    rw [silent x (by simp [split])] at called
    cases called
  probed before x after k split called := by
    rw [silent x (by simp [split])] at called
    cases called
  divided := divided_of_stopped (not_reached_of_silent silent) fun x member =>
    Call.not_isInstaller (silent x member)

end Leg

theorem Attempting.handles {result : Except GuestError Bool}
    (h : Attempting options target component talk result) :
    ∀ x ∈ talk, x.1.Handles options component := by
  cases h with
  | unknown => simp [Call.Handles]
  | present => simp [Call.Handles]
  | called cleared answer => cases cleared <;> simp [Call.Handles]

theorem Attempting.install_iff {result : Except GuestError Bool}
    (h : Attempting options target component talk result) :
    (∃ k answer, ⟨.install k (options.chartRequest component), answer⟩ ∈ talk) ↔
      options.updateInPlace = true ∨
        ∃ k, ⟨.releaseExists k component.ns component.release, .ok false⟩ ∈ talk := by
  cases h with
  | unknown off error => simp [off]
  | present off => simp [off]
  | called cleared answer =>
    cases cleared with
    | upgrading on => simp [on]
    | missing off => simp [off]

theorem Attempting.tried {result : Except GuestError Bool}
    (h : Attempting options target component talk result) :
    ∃ k x rest, talk = x :: rest ∧ (x.1 = .releaseExists k component.ns component.release ∨
      x.1 = .install k (options.chartRequest component)) := by
  cases h with
  | unknown off error => exact ⟨_, _, _, rfl, .inl rfl⟩
  | present off => exact ⟨_, _, _, rfl, .inl rfl⟩
  | called cleared answer =>
    cases cleared with
    | upgrading on => exact ⟨_, _, _, rfl, .inr rfl⟩
    | missing off => exact ⟨_, _, _, rfl, .inl rfl⟩

/-- The part of a visit in which a component is dealt with. -/
theorem Installing.installs {event : Metrics.Event} {failed : Bool}
    (h : Installing options target component event part failed) (reached : leg.Reached)
    (selected : leg.Selected options) : leg.Installs options component part := by
  obtain @⟨talk, result, attempt⟩ := h
  -- What is counted and reported in the end is no call of the installer.
  have within : ∀ (c : Call) (answer : Answer c), c.kubeconfig?.isSome →
      (⟨c, answer⟩ ∈ talk ++ target.concluded event
        (.notInstalled component.release target.cluster) result ↔ ⟨c, answer⟩ ∈ talk) := by
    intro c answer called
    rw [List.mem_append, or_iff_left]
    intro member
    rw [silent_concluded _ member] at called
    cases called
  constructor
  · have installed := fun k answer =>
      within (.install k (options.chartRequest component)) answer rfl
    have missing := fun k =>
      within (.releaseExists k component.ns component.release) (.ok false) rfl
    simp only [installed, missing, attempt.install_iff, reached, selected, true_and]
  · refine List.forall_mem_append.mpr ⟨attempt.handles, fun x member => ?_⟩
    have silent := silent_concluded x member
    revert silent
    cases x.1 <;> simp [Call.kubeconfig?, Call.Handles]
  · rintro - -
    obtain ⟨k, x, rest, rfl, first⟩ := attempt.tried
    exact ⟨k, x, _, List.cons_append, first⟩

theorem Publishing.publishes {failed : Bool} (h : Publishing options target part failed)
    (own : leg.record = target.record) : leg.Publishes options part := by
  intro _
  rw [own]
  cases h with
  | addressless missing => rw [missing]
  | tried has attempt =>
    rw [has]
    cases attempt <;> exact ⟨_, _, _, rfl⟩

theorem Publishing.not_isInstaller {failed : Bool} (h : Publishing options target talk failed) :
    ∀ x ∈ talk, ¬x.1.IsInstaller := by
  cases h with
  | addressless missing => simp [reported, Call.IsInstaller]
  | tried has attempt =>
    refine List.forall_mem_append.mpr ⟨?_, fun x member =>
      Call.not_isInstaller (silent_concluded x member)⟩
    cases attempt <;> simp [Call.IsInstaller]

/-- The work on a guest cluster has all the parts. -/
theorem Serving.divided {labels : TextMap} {failed : Nat} {opening : List Exchange}
    (h : Serving options labels target part failed) (split : leg.talk = opening ++ part)
    (idle : ∀ x ∈ opening, ¬x.1.IsInstaller) (reached : leg.Reached)
    (selected : leg.Selected options ↔ options.installPolicy.selects labels = true)
    (own : leg.record = target.record) : leg.Divided options := by
  have reports : ∀ {complaint : List Exchange},
      (∀ x ∈ complaint, ∃ notice, x = reported notice) → ∀ x ∈ complaint, ¬x.1.IsInstaller :=
    fun complaining x member => Call.not_isInstaller (silent_reports complaining x member)
  cases h with
  | @selected complaint first second last _ _ _ selects complaining one two publishing =>
    refine ⟨opening ++ complaint, first, second, last, by simp [split], ?_,
      one.installs reached (selected.mpr selects), two.installs reached (selected.mpr selects),
      publishing.publishes own⟩
    simp only [List.forall_mem_append]
    exact ⟨⟨idle, reports complaining⟩, publishing.not_isInstaller⟩
  | @spared complaint last _ spares complaining publishing =>
    have stopped : ¬leg.Selected options := by
      rw [selected, spares]
      exact Bool.false_ne_true
    refine ⟨opening ++ complaint, [], [], last, by simp [split], ?_,
      Leg.installs_nothing fun h => stopped h.2, Leg.installs_nothing fun h => stopped h.2,
      publishing.publishes own⟩
    simp only [List.forall_mem_append]
    exact ⟨⟨idle, reports complaining⟩, publishing.not_isInstaller⟩

theorem Probing.not_isInstaller {result : Except Nat Unit} (h : Probing target talk result) :
    ∀ x ∈ talk, ¬x.1.IsInstaller := by
  cases h <;>
    simp [markedDown, Target.counted, measured, reported, Call.IsInstaller]

theorem Probing.probe_of_called {result : Except Nat Unit} (h : Probing target talk result) :
    ∀ x ∈ talk, ∀ {k}, x.1.kubeconfig? = some k → x.1 = .probe k := by
  cases h <;>
    simp [markedDown, Target.counted, measured, reported, Call.kubeconfig?]

section Approach

variable {record : FloatingRecord} {cluster : GuestCluster}
  {name : Except GuestError (Option String)} {k : Kubeconfig} {rest : List Exchange}
  {result : Visit}

/-- After the approach, everything may be called that is called on behalf of the target. -/
theorem admitted_of_approach (owns : cluster.owns record.key.ns = true)
    (calls : ∀ x ∈ rest, (targetOf store record name k).Calls x.1)
    {before after : List Exchange} {x : Exchange} {k' : Kubeconfig}
    (split : approach record cluster name (.ok k) ++ rest = before ++ x :: after)
    (called : x.1.kubeconfig? = some k') :
    Leg.Admitted ⟨record, talk, result⟩ before ∧
      ⟨.getKubeconfig record.cluster, .ok k'⟩ ∈ before := by
  obtain ⟨between, rfl, rfl⟩ := split_after (P := fun x => x.1.kubeconfig?.isSome) split
    (fun y member => by simp [silent_approach y member]) (by simp [called])
  have own : k' = k := (calls x (by simp)).kubeconfig called
  subst own
  refine ⟨⟨cluster, by simp [approach], ?_⟩, by simp [approach]⟩
  simpa [GuestCluster.owns] using owns

theorem not_reached_of_stopped {failed : Nat}
    (probing : Probing (targetOf store record name k) rest (.error failed)) :
    ¬Leg.Reached ⟨record, approach record cluster name (.ok k) ++ rest, result⟩ := by
  rintro ⟨k', probed⟩
  obtain near | far := List.mem_append.mp probed
  · cases silent_approach _ near
  · cases probing <;> simp [markedDown, measured, reported] at far

theorem reached_of_answered {start : List Exchange}
    (probing : Probing (targetOf store record name k) start (.ok ())) :
    Leg.Reached ⟨record, approach record cluster name (.ok k) ++ start ++ rest, result⟩ := by
  cases probing
  exact ⟨k, by simp [targetOf]⟩

/-- Up to the end of the probe, nothing else is called. -/
theorem probe_of_called {probe : Except Nat Unit}
    (probing : Probing (targetOf store record name k) rest probe) :
    ∀ x ∈ approach record cluster name (.ok k) ++ rest, ∀ {k'}, x.1.kubeconfig? = some k' →
      x.1 = .probe k' := by
  intro x member k' called
  obtain near | far := List.mem_append.mp member
  · rw [silent_approach x near] at called
    cases called
  · exact probing.probe_of_called x far called

theorem not_isInstaller_of_probing {probe : Except Nat Unit}
    (probing : Probing (targetOf store record name k) rest probe) :
    ∀ x ∈ approach record cluster name (.ok k) ++ rest, ¬x.1.IsInstaller :=
  List.forall_mem_append.mpr ⟨fun x member => Call.not_isInstaller (silent_approach x member),
    probing.not_isInstaller⟩

/-- The registry is asked once. -/
theorem selected_iff (calls : ∀ x ∈ rest, (targetOf store record name k).Calls x.1) :
    Leg.Selected options ⟨record, approach record cluster name (.ok k) ++ rest, result⟩ ↔
      options.installPolicy.selects cluster.labels = true := by
  constructor
  · rintro ⟨found, asked, selects⟩
    obtain near | far := List.mem_append.mp asked
    · simp only [approach, List.mem_cons, List.not_mem_nil, or_false] at near
      obtain same | no | no := near
      · cases same
        exact selects
      · cases no
      · cases no
    · exact absurd (calls _ far) Target.not_calls_getCluster
  · intro selects
    exact ⟨cluster, by simp [approach], selects⟩

/-- What comes after the probe comes after its success. -/
theorem probed_of_answered {start : List Exchange}
    (probing : Probing (targetOf store record name k) start (.ok ()))
    (calls : ∀ x ∈ rest, (targetOf store record name k).Calls x.1)
    {before after : List Exchange} {x : Exchange} {k' : Kubeconfig}
    (split : approach record cluster name (.ok k) ++ start ++ rest = before ++ x :: after)
    (called : x.1.kubeconfig? = some k') (other : x.1 ≠ .probe k') :
    ⟨.probe k', .ok ()⟩ ∈ before := by
  have without : ∀ y ∈ approach record cluster name (.ok k) ++ start,
      ¬∃ k, y.1.kubeconfig? = some k ∧ y.1 ≠ .probe k := by
    rintro y member ⟨k, called, other⟩
    exact other (probe_of_called probing y member called)
  obtain ⟨between, rfl, rfl⟩ := split_after
    (P := fun y : Exchange => ∃ k, y.1.kubeconfig? = some k ∧ y.1 ≠ .probe k) split without
    ⟨k', called, other⟩
  rw [(calls x (by simp)).kubeconfig called]
  cases probing
  simp

end Approach

/-- Every visit of every sweep touches its guest cluster only as it is allowed. -/
theorem permitted_of_visiting (h : Visiting options store leg.record leg.talk leg.result) :
    leg.Permitted options := by
  obtain ⟨record, talk, result⟩ := leg
  dsimp only at h
  cases h with
  | lookupFailed error =>
    refine Leg.permitted_of_silent fun x member => ?_
    obtain rfl | member := List.mem_cons.mp member
    · rfl
    · exact silent_markedDown x member
  | gone => exact Leg.permitted_of_silent (by simp [Call.kubeconfig?])
  | estranged cluster lost => exact Leg.permitted_of_silent (by simp [Call.kubeconfig?])
  | locked cluster owns name error =>
    exact Leg.permitted_of_silent
      (List.forall_mem_append.mpr ⟨silent_approach, silent_markedDown⟩)
  | stopped cluster owns name kubeconfig probing =>
    constructor
    · exact fun before x after k split called =>
        admitted_of_approach owns probing.calls split called
    · intro before x after k split called other
      have member : x ∈ before ++ x :: after := by simp
      rw [← show _ = before ++ x :: after from split] at member
      exact absurd (probe_of_called probing x member called) other
    · exact Leg.divided_of_stopped (not_reached_of_stopped probing)
        (not_isInstaller_of_probing probing)
  | @served cluster owns name kubeconfig start work failed probing serving =>
    have calls := List.forall_mem_append.mpr ⟨probing.calls, serving.calls⟩
    have selected : Leg.Selected options ⟨record, approach record cluster name (.ok kubeconfig) ++
        start ++ work, .done failed⟩ ↔ options.installPolicy.selects cluster.labels = true := by
      rw [List.append_assoc]
      exact selected_iff calls
    constructor
    · intro before x after k split called
      exact admitted_of_approach owns calls ((List.append_assoc ..).symm.trans split) called
    · exact fun before x after k split called other =>
        probed_of_answered probing serving.calls split called other
    · exact serving.divided rfl (not_isInstaller_of_probing probing) (reached_of_answered probing)
        selected rfl

/-- Whatever is answered, all calls of a sweep to guest clusters and to the installer are made
during its visits, and there only as it is allowed. -/
theorem touches_only_permitted {σ : Type} (answer : (c : Call) → σ → Answer c × σ)
    (options : Options) (store : Store) (s : σ) :
    (∃ closing, (sweep options store).transcript answer s =
      ⟨.sweeping true, ()⟩ :: ((tour answer options store s).flatMap (·.talk) ++ closing) ∧
      ∀ x ∈ closing, x.1.kubeconfig? = none) ∧
    (tour answer options store s).map (·.record) = store.floatings ∧
    ∀ leg ∈ tour answer options store s, leg.Permitted options := by
  obtain ⟨closing, whole, closes, -⟩ := transcript_sweep answer options store s
  exact ⟨⟨closing, whole, fun x member => (closes x member).kubeconfig?⟩,
    records_tour answer options store s, fun leg member =>
      permitted_of_visiting (visiting_of_mem_tour answer options store member)⟩

open InMemory in
/-- The cloud provider is installed although the load balancer is refused. -/
theorem installs_after_refusal :
    ∃ leg ∈ tour Site.reply Sample.options Sample.store Sample.site,
      leg.Permitted Sample.options ∧
      leg.talk.any (fun
        | ⟨.install _ chart, .error _⟩ => chart.release = "kube-vip"
        | _ => false) ∧
      leg.talk.any (fun
        | ⟨.install _ chart, .ok _⟩ => chart.release = "kube-vip-cloud-provider"
        | _ => false) := by
  have happens : (tour Site.reply Sample.options Sample.store Sample.site).any (fun leg =>
      leg.talk.any (fun
        | ⟨.install _ chart, .error _⟩ => chart.release = "kube-vip"
        | _ => false) &&
      leg.talk.any (fun
        | ⟨.install _ chart, .ok _⟩ => chart.release = "kube-vip-cloud-provider"
        | _ => false)) = true := by decide +kernel
  obtain ⟨leg, member, both⟩ := List.any_eq_true.mp happens
  obtain ⟨first, second⟩ := Bool.and_eq_true_iff.mp both
  exact ⟨leg, member, (touches_only_permitted Site.reply _ _ _).2.2 leg member, first, second⟩

end FloatingAddress.Sweep
