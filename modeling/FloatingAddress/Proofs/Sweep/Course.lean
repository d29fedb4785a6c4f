import FloatingAddress.Proofs.Dialogue.Transcript
import FloatingAddress.Sweep

/-!
# How a visit may go

A visit to a guest cluster ends in one of a few ways, and each of them fixes what is asked, in which
order, and what is counted. These ways are listed here, part by part, for any answers: the
installation of one component, the publication of the address, the work on a guest cluster that
answered the probe, and the visit as a whole. The program is walked through once to see that there
is no other way; everything that is said about visits is read off from the lists.
-/

namespace FloatingAddress.Sweep

open Dialogue

/-- A question of the sweep and its answer. -/
abbrev Exchange := Dialogue.Exchange Call Answer

def measured (update : Metrics.Update) : Exchange := ⟨.measure update, ()⟩

def reported (notice : Notice) : Exchange := ⟨.report notice, ()⟩

/-- The end of a step of the visit is counted. -/
def Target.counted (target : Target) (event : Metrics.Event) (outcome : Metrics.Outcome) :
    Exchange :=
  measured (.guestEvent target.cluster target.provider event outcome)

/-- A guest cluster is shown as down, and a failure is counted. -/
def markedDown (cluster provider : String) (notice : Notice) : List Exchange :=
  [reported notice, measured (.guestStatus cluster provider false),
    measured (.guestEvent cluster provider .connectivity .error)]

variable {options : Options} {store : Store} {target : Target} {component : Chart.Component}
  {event : Metrics.Event} {record : FloatingRecord} {talk : List Exchange}

section Step

variable {α : Type} {a : α}

theorem mayGo_step_bind_iff {c : Call} {next : Answer c → Step α} :
    MayGo (step c >>= next) talk a ↔
      ∃ answer rest, talk = ⟨c, answer⟩ :: rest ∧ MayGo (next answer) rest a :=
  mayGo_ask_iff

/-- A question with one possible answer gets that one. -/
theorem mayGo_only_bind_iff {c : Call} {next : Answer c → Step α} {answer : Answer c}
    (only : ∀ other, other = answer) :
    MayGo (step c >>= next) talk a ↔
      ∃ rest, talk = ⟨c, answer⟩ :: rest ∧ MayGo (next answer) rest a := by
  refine mayGo_step_bind_iff.trans ⟨?_, ?_⟩
  · rintro ⟨other, rest, rfl, h⟩
    obtain rfl := only other
    exact ⟨rest, rfl, h⟩
  · rintro ⟨rest, rfl, h⟩
    exact ⟨answer, rest, rfl, h⟩

theorem mayGo_measure_bind_iff {update : Metrics.Update} {next : Step α} :
    MayGo (measure update >>= fun _ => next) talk a ↔
      ∃ rest, talk = measured update :: rest ∧ MayGo next rest a :=
  mayGo_only_bind_iff fun _ => rfl

theorem mayGo_report_bind_iff {notice : Notice} {next : Step α} :
    MayGo (report notice >>= fun _ => next) talk a ↔
      ∃ rest, talk = reported notice :: rest ∧ MayGo next rest a :=
  mayGo_only_bind_iff fun _ => rfl

theorem mayGo_count_bind_iff {outcome : Metrics.Outcome} {next : Step α} :
    MayGo (target.count event outcome >>= fun _ => next) talk a ↔
      ∃ rest, talk = target.counted event outcome :: rest ∧ MayGo next rest a :=
  mayGo_measure_bind_iff

theorem mayGo_pure_iff {b : α} : MayGo (pure b : Step α) talk a ↔ talk = [] ∧ a = b :=
  mayGo_done_iff

theorem mayGo_step_iff {c : Call} {answer : Answer c} :
    MayGo (step c) talk answer ↔ talk = [⟨c, answer⟩] := by
  refine mayGo_ask_iff.trans ⟨?_, ?_⟩
  · rintro ⟨_, rest, rfl, h⟩
    obtain ⟨rfl, rfl⟩ := mayGo_done_iff.mp h
    rfl
  · rintro rfl
    exact ⟨answer, [], rfl, .done answer⟩

theorem mayGo_markDown_bind {cluster provider : String} {notice : Notice} {next : Step α}
    (h : MayGo (markDown cluster provider notice >>= fun _ => next) talk a) :
    ∃ rest, talk = markedDown cluster provider notice ++ rest ∧ MayGo next rest a := by
  obtain ⟨_, first, rest, marked, further, rfl⟩ := h.of_bind
  refine ⟨rest, ?_, further⟩
  obtain ⟨_, rfl, shown⟩ := mayGo_report_bind_iff.mp marked
  obtain ⟨_, rfl, counted⟩ := mayGo_measure_bind_iff.mp shown
  rw [mayGo_step_iff.mp counted]
  rfl

/-- A failed attempt does not go on. -/
theorem run_attempt_bind {β : Type} (x : Step (Except GuestError β)) (next : β → Attempt α) :
    (ExceptT.mk x >>= next).run = x >>= fun
      | .ok b => (next b).run
      | .error error => pure (.error error) := by
  refine congrArg (x >>= ·) (funext fun answer => ?_)
  cases answer <;> rfl

/-- The last call of an attempt decides how it ends. -/
theorem mayGo_last_call {x : Step (Except GuestError Unit)} {result : Except GuestError Bool}
    (h : MayGo (do ExceptT.mk x; return true : Attempt Bool).run talk result) :
    ∃ answer, MayGo x talk answer ∧ result = answer.map fun _ => true := by
  rw [run_attempt_bind] at h
  obtain ⟨answer, first, rest, called, further, rfl⟩ := h.of_bind
  cases answer with
  | ok _ =>
    obtain ⟨rfl, rfl⟩ := mayGo_pure_iff.mp further
    exact ⟨.ok (), by rwa [List.append_nil], rfl⟩
  | error error =>
    obtain ⟨rfl, rfl⟩ := mayGo_pure_iff.mp further
    exact ⟨.error error, by rwa [List.append_nil], rfl⟩

end Step

/-- How the end of a step of the visit is counted and reported. -/
def Target.concluded (target : Target) (event : Metrics.Event) (notice : GuestError → Notice) :
    Except GuestError Bool → List Exchange
  | .ok false => []
  | .ok true => [target.counted event .success]
  | .error error => [reported (notice error), target.counted event .error]

def isFailed : Except GuestError Bool → Bool
  | .ok _ => false
  | .error _ => true

theorem mayGo_conclude {notice : GuestError → Notice} {result : Except GuestError Bool}
    {failed : Bool} (h : MayGo (conclude target event notice result) talk failed) :
    talk = target.concluded event notice result ∧ failed = isFailed result := by
  match result with
  | .ok false => exact mayGo_pure_iff.mp h
  | .ok true =>
    obtain ⟨_, rfl, rest⟩ := mayGo_count_bind_iff.mp h
    obtain ⟨rfl, rfl⟩ := mayGo_pure_iff.mp rest
    exact ⟨rfl, rfl⟩
  | .error error =>
    obtain ⟨_, rfl, counting⟩ := mayGo_report_bind_iff.mp h
    obtain ⟨_, rfl, rest⟩ := mayGo_count_bind_iff.mp counting
    obtain ⟨rfl, rfl⟩ := mayGo_pure_iff.mp rest
    exact ⟨rfl, rfl⟩

/-- Nothing stands in the way of installing a component: it is to be upgraded in any case, or its
release is not there. -/
inductive Cleared (options : Options) (target : Target) (component : Chart.Component) :
    List Exchange → Prop
  | upgrading (on : options.updateInPlace = true) : Cleared options target component []
  | missing (off : options.updateInPlace = false) : Cleared options target component
      [⟨.releaseExists target.kubeconfig component.ns component.release, .ok false⟩]

/-- How an attempt to install a component may go, and whether it was installed. -/
inductive Attempting (options : Options) (target : Target) (component : Chart.Component) :
    List Exchange → Except GuestError Bool → Prop
  | unknown (off : options.updateInPlace = false) (error : GuestError) :
    Attempting options target component
      [⟨.releaseExists target.kubeconfig component.ns component.release, .error error⟩]
      (.error error)
  | present (off : options.updateInPlace = false) : Attempting options target component
      [⟨.releaseExists target.kubeconfig component.ns component.release, .ok true⟩] (.ok false)
  | called {before : List Exchange} (cleared : Cleared options target component before)
    (answer : Except GuestError Unit) : Attempting options target component
      (before ++ [⟨.install target.kubeconfig (options.chartRequest component), answer⟩])
      (answer.map fun _ => true)

theorem attempting {result : Except GuestError Bool}
    (h : MayGo (installComponent options target component).run talk result) :
    Attempting options target component talk result := by
  unfold installComponent at h
  cases flag : options.updateInPlace with
  | true =>
    rw [if_pos flag] at h
    obtain ⟨answer, called, rfl⟩ := mayGo_last_call h
    rw [mayGo_step_iff.mp called]
    exact .called (.upgrading flag) answer
  | false =>
    rw [if_neg (by simp [flag]), run_attempt_bind] at h
    obtain ⟨answer, _, rfl, rest⟩ := mayGo_step_bind_iff.mp h
    match answer with
    | .error error =>
      obtain ⟨rfl, rfl⟩ := mayGo_pure_iff.mp rest
      exact .unknown flag error
    | .ok true =>
      obtain ⟨rfl, rfl⟩ := mayGo_pure_iff.mp rest
      exact .present flag
    | .ok false =>
      obtain ⟨answer, called, rfl⟩ := mayGo_last_call rest
      rw [mayGo_step_iff.mp called]
      exact .called (.missing flag) answer

/-- How the installation of a component may go, and whether it failed. -/
inductive Installing (options : Options) (target : Target) (component : Chart.Component)
    (event : Metrics.Event) : List Exchange → Bool → Prop
  | tried {talk : List Exchange} {result : Except GuestError Bool}
    (attempt : Attempting options target component talk result) :
    Installing options target component event
      (talk ++ target.concluded event (.notInstalled component.release target.cluster) result)
      (isFailed result)

theorem installing {failed : Bool}
    (h : MayGo (install options target component event) talk failed) :
    Installing options target component event talk failed := by
  obtain ⟨result, first, rest, tried, further, rfl⟩ := h.of_bind
  obtain ⟨rfl, rfl⟩ := mayGo_conclude further
  exact .tried (attempting tried)

/-- How an attempt to publish an address may go, and whether anything was written. -/
inductive Writing (target : Target) (ns : String) (address : Ipv4) :
    List Exchange → Except GuestError Bool → Prop
  | unread (error : GuestError) : Writing target ns address
      [⟨.getConfigMap target.kubeconfig ns addressConfigMap, .error error⟩] (.error error)
  | created (answer : Except GuestError Unit) : Writing target ns address
      [⟨.getConfigMap target.kubeconfig ns addressConfigMap, .ok none⟩,
        ⟨.createConfigMap target.kubeconfig (addressMap ns address), answer⟩]
      (answer.map fun _ => true)
  | kept (m : Manifest.ConfigMap) (keep : target.record.forceRefresh = false) :
    Writing target ns address
      [⟨.getConfigMap target.kubeconfig ns addressConfigMap, .ok (some m)⟩] (.ok false)
  | replaced (m : Manifest.ConfigMap) (refresh : target.record.forceRefresh = true)
    (answer : Except GuestError Unit) : Writing target ns address
      [⟨.getConfigMap target.kubeconfig ns addressConfigMap, .ok (some m)⟩,
        ⟨.replaceConfigMap target.kubeconfig (m.withEntry addressKey (addressText address)),
          answer⟩]
      (answer.map fun _ => true)

theorem writing {ns : String} {address : Ipv4} {result : Except GuestError Bool}
    (h : MayGo (publishAddress target ns address).run talk result) :
    Writing target ns address talk result := by
  unfold publishAddress at h
  rw [run_attempt_bind] at h
  obtain ⟨answer, _, rfl, rest⟩ := mayGo_step_bind_iff.mp h
  match answer with
  | .error error =>
    obtain ⟨rfl, rfl⟩ := mayGo_pure_iff.mp rest
    exact .unread error
  | .ok none =>
    obtain ⟨answer, called, rfl⟩ := mayGo_last_call rest
    rw [mayGo_step_iff.mp called]
    exact .created answer
  | .ok (some m) =>
    cases flag : target.record.forceRefresh with
    | false =>
      simp only [flag] at rest
      obtain ⟨rfl, rfl⟩ := mayGo_pure_iff.mp rest
      exact .kept m flag
    | true =>
      simp only [flag] at rest
      obtain ⟨answer, called, rfl⟩ := mayGo_last_call rest
      rw [mayGo_step_iff.mp called]
      exact .replaced m flag answer

/-- How the publication of the address of a target may go, and whether it failed. -/
inductive Publishing (options : Options) (target : Target) : List Exchange → Bool → Prop
  | addressless (missing : target.record.address = none) :
    Publishing options target [reported (.addressMissing target.record.key)] false
  | tried {address : Ipv4} {talk : List Exchange} {result : Except GuestError Bool}
    (has : target.record.address = some address)
    (attempt : Writing target options.loadBalancer.ns address talk result) :
    Publishing options target
      (talk ++ target.concluded .configReconcile (.configMapFailed target.cluster) result)
      (isFailed result)

theorem publishing {failed : Bool} (h : MayGo (publish options target) talk failed) :
    Publishing options target talk failed := by
  unfold publish at h
  cases has : target.record.address with
  | none =>
    rw [has] at h
    obtain ⟨_, rfl, rest⟩ := mayGo_report_bind_iff.mp h
    obtain ⟨rfl, rfl⟩ := mayGo_pure_iff.mp rest
    exact .addressless has
  | some address =>
    rw [has] at h
    obtain ⟨result, first, rest, tried, further, rfl⟩ := h.of_bind
    obtain ⟨rfl, rfl⟩ := mayGo_conclude further
    exact .tried has (writing tried)

/-- How the work on a guest cluster with certain labels may go, and how many steps failed. -/
inductive Serving (options : Options) (labels : TextMap) (target : Target) :
    List Exchange → Nat → Prop
  | selected {complaint first second last : List Exchange} {one two three : Bool}
    (selects : options.installPolicy.selects labels = true)
    (complaining : ∀ x ∈ complaint, ∃ notice, x = reported notice)
    (installingFirst : Installing options target options.loadBalancer .install first one)
    (installingSecond :
      Installing options target options.cloudProvider .installSecondary second two)
    (publishing : Publishing options target last three) :
    Serving options labels target (complaint ++ first ++ second ++ last)
      ([one, two, three].count true)
  | spared {complaint last : List Exchange} {three : Bool}
    (spares : options.installPolicy.selects labels = false)
    (complaining : ∀ x ∈ complaint, ∃ notice, x = reported notice)
    (publishing : Publishing options target last three) :
    Serving options labels target (complaint ++ last) ([three].count true)

theorem complaining {α : Type} {value : Option α} {notice : α → Notice} {x : PUnit}
    (h : MayGo (value.forM fun v => report (notice v)) talk x) :
    ∀ x ∈ talk, ∃ notice, x = reported notice := by
  cases value with
  | none =>
    obtain ⟨rfl, -⟩ := mayGo_pure_iff.mp h
    simp
  | some v =>
    rw [mayGo_step_iff.mp h]
    simp [reported]

theorem serving {labels : TextMap} {failed : Nat}
    (h : MayGo (serve options labels target) talk failed) :
    Serving options labels target talk failed := by
  obtain ⟨_, complaint, _, complained, work, rfl⟩ := h.of_bind
  have complains := complaining complained
  cases selects : options.installPolicy.selects labels with
  | true =>
    simp only [selects, if_true, pure_bind] at work
    obtain ⟨one, first, _, installed, work', rfl⟩ := work.of_bind
    obtain ⟨two, second, _, installed', work'', rfl⟩ := work'.of_bind
    obtain ⟨three, last, _, published, rest, rfl⟩ := MayGo.of_bind work''
    obtain ⟨rfl, rfl⟩ := mayGo_pure_iff.mp rest
    simp only [List.append_nil, ← List.append_assoc]
    exact .selected selects complains (installing installed) (installing installed')
      (publishing published)
  | false =>
    simp only [selects, Bool.false_eq_true, if_false, pure_bind] at work
    obtain ⟨three, last, _, published, rest, rfl⟩ := MayGo.of_bind work
    obtain ⟨rfl, rfl⟩ := mayGo_pure_iff.mp rest
    rw [List.append_nil]
    exact .spared selects complains (publishing published)

/-- How the probe of a guest cluster may go, and whether the visit goes on. -/
inductive Probing (target : Target) : List Exchange → Except Nat Unit → Prop
  | answered : Probing target
      [⟨.probe target.kubeconfig, .ok ()⟩,
        measured (.guestStatus target.cluster target.provider true),
        target.counted .connectivity .success]
      (.ok ())
  | provisioning (error : GuestError) (early : error.isProvisioning = true) : Probing target
      [⟨.probe target.kubeconfig, .error error⟩,
        measured (.guestStatus target.cluster target.provider false)]
      (.error 0)
  | unreachable (error : GuestError) (failed : error.isProvisioning = false) : Probing target
      (⟨.probe target.kubeconfig, .error error⟩ ::
        markedDown target.cluster target.provider (.unreachable target.cluster error))
      (.error 1)

theorem probing {result : Except Nat Unit} (h : MayGo (probe target) talk result) :
    Probing target talk result := by
  obtain ⟨answer, _, rfl, answered⟩ := mayGo_step_bind_iff.mp h
  match answer with
  | .ok () =>
    obtain ⟨_, rfl, shown⟩ := mayGo_measure_bind_iff.mp answered
    obtain ⟨_, rfl, rest⟩ := mayGo_count_bind_iff.mp shown
    obtain ⟨rfl, rfl⟩ := mayGo_pure_iff.mp rest
    exact .answered
  | .error error =>
    cases early : error.isProvisioning with
    | true =>
      simp only [early, if_true] at answered
      obtain ⟨_, rfl, rest⟩ := mayGo_measure_bind_iff.mp answered
      obtain ⟨rfl, rfl⟩ := mayGo_pure_iff.mp rest
      exact .provisioning error early
    | false =>
      simp only [early] at answered
      obtain ⟨_, rfl, rest⟩ := mayGo_markDown_bind answered
      obtain ⟨rfl, rfl⟩ := mayGo_pure_iff.mp rest
      rw [List.append_nil]
      exact .unreachable error early

/-- The provider label of the series of a record's guest cluster: the name of the provider, or as
long as that is not known, the provider of the record's range. -/
def providerLabel (store : Store) (record : FloatingRecord)
    (name : Except GuestError (Option String)) : String :=
  (name.toOption.join).getD (((store.range? record.range).bind (·.provider)).getD "")

def targetOf (store : Store) (record : FloatingRecord)
    (name : Except GuestError (Option String)) (kubeconfig : Kubeconfig) : Target :=
  { record, provider := providerLabel store record name, kubeconfig }

/-- The way to a guest cluster: it is looked up, the name of its provider is asked for, and its
credentials are fetched. -/
def approach (record : FloatingRecord) (cluster : GuestCluster)
    (name : Except GuestError (Option String)) (kubeconfig : Except GuestError Kubeconfig) :
    List Exchange :=
  [⟨.getCluster record.cluster, .ok (some cluster)⟩, ⟨.providerName cluster, name⟩,
    ⟨.getKubeconfig record.cluster, kubeconfig⟩]

/-- How a visit to the guest cluster of a record may go. -/
inductive Visiting (options : Options) (store : Store) (record : FloatingRecord) :
    List Exchange → Visit → Prop
  | lookupFailed (error : GuestError) : Visiting options store record
      (⟨.getCluster record.cluster, .error error⟩ ::
        markedDown record.cluster (providerLabel store record (.ok none))
          (.lookupFailed record.cluster error))
      (.done 1)
  | gone : Visiting options store record [⟨.getCluster record.cluster, .ok none⟩] .orphaned
  | estranged (cluster : GuestCluster) (lost : cluster.owns record.key.ns = false) :
    Visiting options store record [⟨.getCluster record.cluster, .ok (some cluster)⟩] .orphaned
  | locked (cluster : GuestCluster) (owns : cluster.owns record.key.ns = true)
    (name : Except GuestError (Option String)) (error : GuestError) :
    Visiting options store record
      (approach record cluster name (.error error) ++
        markedDown record.cluster (providerLabel store record name)
          (.kubeconfigFailed record.cluster error))
      (.done 1)
  | stopped (cluster : GuestCluster) (owns : cluster.owns record.key.ns = true)
    (name : Except GuestError (Option String)) (kubeconfig : Kubeconfig) {talk : List Exchange}
    {failed : Nat} (probing : Probing (targetOf store record name kubeconfig) talk (.error failed)) :
    Visiting options store record (approach record cluster name (.ok kubeconfig) ++ talk)
      (.done failed)
  | served (cluster : GuestCluster) (owns : cluster.owns record.key.ns = true)
    (name : Except GuestError (Option String)) (kubeconfig : Kubeconfig)
    {start talk : List Exchange} {failed : Nat}
    (probing : Probing (targetOf store record name kubeconfig) start (.ok ()))
    (serving : Serving options cluster.labels (targetOf store record name kubeconfig) talk failed) :
    Visiting options store record
      (approach record cluster name (.ok kubeconfig) ++ start ++ talk) (.done failed)

/-- There is no other way for a visit to go. -/
theorem visiting {result : Visit} (h : MayGo (visit options store record) talk result) :
    Visiting options store record talk result := by
  obtain ⟨answer, _, rfl, found⟩ := mayGo_step_bind_iff.mp h
  match answer with
  | .error error =>
    obtain ⟨_, rfl, rest⟩ := mayGo_markDown_bind found
    obtain ⟨rfl, rfl⟩ := mayGo_pure_iff.mp rest
    rw [List.append_nil]
    exact .lookupFailed error
  | .ok none =>
    obtain ⟨rfl, rfl⟩ := mayGo_pure_iff.mp found
    exact .gone
  | .ok (some cluster) =>
    cases owns : cluster.owns record.key.ns with
    | false =>
      simp only [owns] at found
      obtain ⟨rfl, rfl⟩ := mayGo_pure_iff.mp found
      exact .estranged cluster owns
    | true =>
      simp only [owns] at found
      obtain ⟨name, _, rfl, named⟩ := mayGo_step_bind_iff.mp found
      obtain ⟨answer, _, rfl, unlocked⟩ := mayGo_step_bind_iff.mp named
      match answer with
      | .error error =>
        obtain ⟨_, rfl, rest⟩ := mayGo_markDown_bind unlocked
        obtain ⟨rfl, rfl⟩ := mayGo_pure_iff.mp rest
        rw [List.append_nil]
        exact .locked cluster owns name error
      | .ok kubeconfig =>
        obtain ⟨result, start, _, probed, rest, rfl⟩ := MayGo.of_bind unlocked
        match result with
        | .error failed =>
          obtain ⟨rfl, rfl⟩ := mayGo_pure_iff.mp rest
          rw [List.append_nil]
          exact .stopped cluster owns name kubeconfig (probing probed)
        | .ok () =>
          obtain ⟨failed, talk, _, served, rest', rfl⟩ := MayGo.of_bind rest
          obtain ⟨rfl, rfl⟩ := mayGo_pure_iff.mp rest'
          rw [List.append_nil]
          exact .served cluster owns name kubeconfig (probing probed) (serving served)

/-- Every visit begins with the registry. -/
theorem Visiting.first {result : Visit} (h : Visiting options store record talk result) :
    ∃ found rest, talk = ⟨.getCluster record.cluster, found⟩ :: rest := by
  cases h <;> exact ⟨_, _, rfl⟩

/-- The credentials with which a call to a guest cluster or to the installer is made. -/
def Call.kubeconfig? : Call → Option Kubeconfig
  | .probe k | .getConfigMap k _ _ | .createConfigMap k _ | .replaceConfigMap k _
  | .releaseExists k _ _ | .install k _ => some k
  | _ => none

theorem silent_reports (complaining : ∀ x ∈ talk, ∃ notice, x = reported notice) :
    ∀ x ∈ talk, x.1.kubeconfig? = none := by
  intro x member
  obtain ⟨notice, rfl⟩ := complaining x member
  rfl

theorem silent_concluded {notice : GuestError → Notice}
    {result : Except GuestError Bool} :
    ∀ x ∈ target.concluded event notice result, x.1.kubeconfig? = none := by
  match result with
  | .ok false => simp [Target.concluded]
  | .ok true => simp [Target.concluded, Target.counted, measured, Call.kubeconfig?]
  | .error error => simp [Target.concluded, Target.counted, measured, reported, Call.kubeconfig?]

theorem silent_approach {cluster : GuestCluster}
    {name : Except GuestError (Option String)} {kubeconfig : Except GuestError Kubeconfig} :
    ∀ x ∈ approach record cluster name kubeconfig, x.1.kubeconfig? = none := by
  simp [approach, Call.kubeconfig?]

theorem silent_markedDown {cluster provider : String} {notice : Notice} :
    ∀ x ∈ markedDown cluster provider notice, x.1.kubeconfig? = none := by
  simp [markedDown, measured, reported, Call.kubeconfig?]

/-- Whether a change of the metrics is about a guest cluster under a certain provider label. -/
def IsAbout (cluster provider : String) : Metrics.Update → Prop
  | .guestStatus c p _ | .guestEvent c p _ _ => c = cluster ∧ p = provider
  | _ => False

/-- Calls that are made to work on a target: to its guest cluster with its credentials, about its
series, or to report something. -/
def Target.Serves (target : Target) : Call → Prop
  | .measure update => IsAbout target.cluster target.provider update
  | .report _ => True
  | .probe _ => False
  | c => c.kubeconfig? = some target.kubeconfig

/-- Calls that are made on behalf of a target, the probe included. -/
def Target.Calls (target : Target) (c : Call) : Prop :=
  c = .probe target.kubeconfig ∨ target.Serves c

theorem serves_concluded {notice : GuestError → Notice} {result : Except GuestError Bool} :
    ∀ x ∈ target.concluded event notice result, target.Serves x.1 := by
  match result with
  | .ok false => simp [Target.concluded]
  | .ok true => simp [Target.concluded, Target.counted, measured, Target.Serves, IsAbout]
  | .error error =>
    simp [Target.concluded, Target.counted, measured, reported, Target.Serves, IsAbout]

theorem Attempting.serves {result : Except GuestError Bool}
    (h : Attempting options target component talk result) : ∀ x ∈ talk, target.Serves x.1 := by
  cases h with
  | unknown => simp [Target.Serves, Call.kubeconfig?]
  | present => simp [Target.Serves, Call.kubeconfig?]
  | called cleared answer => cases cleared <;> simp [Target.Serves, Call.kubeconfig?]

theorem Installing.serves {failed : Bool}
    (h : Installing options target component event talk failed) :
    ∀ x ∈ talk, target.Serves x.1 := by
  obtain ⟨attempt⟩ := h
  exact List.forall_mem_append.mpr ⟨attempt.serves, serves_concluded⟩

theorem Writing.serves {ns : String} {address : Ipv4} {result : Except GuestError Bool}
    (h : Writing target ns address talk result) : ∀ x ∈ talk, target.Serves x.1 := by
  cases h <;> simp [Target.Serves, Call.kubeconfig?]

theorem Publishing.serves {failed : Bool} (h : Publishing options target talk failed) :
    ∀ x ∈ talk, target.Serves x.1 := by
  cases h with
  | addressless => simp [reported, Target.Serves]
  | tried has attempt => exact List.forall_mem_append.mpr ⟨attempt.serves, serves_concluded⟩

theorem Serving.serves {labels : TextMap} {failed : Nat}
    (h : Serving options labels target talk failed) : ∀ x ∈ talk, target.Serves x.1 := by
  have reports : ∀ {complaint : List Exchange}, (∀ x ∈ complaint, ∃ notice, x = reported notice) →
      ∀ x ∈ complaint, target.Serves x.1 := by
    intro complaint complaining x member
    obtain ⟨notice, rfl⟩ := complaining x member
    trivial
  cases h with
  | selected _ complaining first second publishing =>
    simp only [List.forall_mem_append]
    exact ⟨⟨⟨reports complaining, first.serves⟩, second.serves⟩, publishing.serves⟩
  | spared _ complaining publishing =>
    exact List.forall_mem_append.mpr ⟨reports complaining, publishing.serves⟩

theorem Probing.calls {result : Except Nat Unit} (h : Probing target talk result) :
    ∀ x ∈ talk, target.Calls x.1 := by
  cases h <;>
    simp [markedDown, Target.counted, measured, reported, Target.Calls, Target.Serves, IsAbout]

theorem Serving.calls {labels : TextMap} {failed : Nat}
    (h : Serving options labels target talk failed) : ∀ x ∈ talk, target.Calls x.1 :=
  fun x member => .inr (h.serves x member)

theorem Target.Calls.kubeconfig {c : Call} (h : target.Calls c) {k : Kubeconfig}
    (called : c.kubeconfig? = some k) : k = target.kubeconfig := by
  cases c <;> simp_all [Call.kubeconfig?, Target.Calls, Target.Serves]

/-- The registry is not asked on behalf of a target. -/
theorem Target.not_calls_getCluster {name : String} : ¬target.Calls (.getCluster name) := by
  simp [Target.Calls, Target.Serves, Call.kubeconfig?]

end FloatingAddress.Sweep
