import FloatingAddress.Proofs.Sweep.Effect
import Mathlib.Data.List.Forall2

/-!
# Two sweeps in a row

A second sweep has nothing left to do. It finds the releases that the first one installed, and it
writes the addresses again in the same order, so that the same one remains. It tries again only what
was refused before: who created a config map in the first sweep finds it in the second one, and who
installed a release finds that. Nothing of this needs the calls to succeed.
-/

namespace FloatingAddress

open Dialogue Sweep

namespace Sweep

/-- Whether a config map is to be created. -/
def Call.isCreate : Call → Bool
  | .createConfigMap .. => true
  | _ => false

/-- Whether a config map was not created, or a chart not installed. -/
def isRefused : Exchange → Bool
  | ⟨.createConfigMap .., .error _⟩ | ⟨.install .., .error _⟩ => true
  | _ => false

/-- The calls of a certain kind. -/
def asked (kind : Call → Bool) (talk : List Exchange) : List Call :=
  (talk.filter (kind ·.1)).map (·.1)

/-- The calls of a certain kind that were refused. -/
def refused (kind : Call → Bool) (talk : List Exchange) : List Call :=
  asked kind (talk.filter isRefused)

/-- A visit tries again what was refused in an earlier visit for the same record, and nothing
else. -/
structure Leg.Retries (options : Options) (leg again : Leg) : Prop where
  record : again.record = leg.record
  creates : (asked Call.isCreate again.talk).Sublist (refused Call.isCreate leg.talk)
  /-- Releases that are there are left alone, unless they are to be upgraded. -/
  installs : options.updateInPlace = false →
    (asked Call.isInstall again.talk).Sublist (refused Call.isInstall leg.talk)

variable {kind : Call → Bool} {talk rest : List Exchange}

@[simp] theorem asked_append : asked kind (talk ++ rest) = asked kind talk ++ asked kind rest := by
  rw [asked, List.filter_append, List.map_append]
  rfl

@[simp] theorem refused_append :
    refused kind (talk ++ rest) = refused kind talk ++ refused kind rest := by
  rw [refused, List.filter_append, asked_append]
  rfl

theorem asked_eq_nil (silent : ∀ x ∈ talk, kind x.1 = false) : asked kind talk = [] := by
  rw [asked, List.filter_eq_nil_iff.mpr fun x member => by simp [silent x member]]
  rfl

end Sweep

namespace InMemory.Site

variable {options : Options} {store : Store} {record : FloatingRecord} {target : Target}
  {component : Chart.Component} {event : Metrics.Event} {site later : Site} {talk : List Exchange}

/-- If a release is still missing after an attempt to install it, the installer refused. -/
theorem refused_of_attempting {result : Except GuestError Bool}
    (h : Attempting options target component talk result)
    (answered : Answered reply site talk later)
    (fine : site.faulty "release_exists" component.release = false)
    (missing : later.hasRelease (releaseOf target.kubeconfig.cluster component) = false) :
    refused Call.isInstall talk =
      [.install target.kubeconfig (options.chartRequest component)] := by
  have absent := (Develops.of_answered answered).releases
    (releaseOf target.kubeconfig.cluster component)
  rw [missing] at absent
  cases h with
  | unknown off' error =>
    rw [faulty_of_releaseExists (answered_cons_iff.mp answered).1.symm] at fine
    cases fine
  | present off' =>
    obtain ⟨-, there⟩ := releaseExists_eq_ok.mp (answered_cons_iff.mp answered).1.symm
    cases absent there
  | called clear answer =>
    obtain ⟨between, -, called⟩ := answered_append_iff.mp answered
    obtain ⟨given, rest⟩ := answered_cons_iff.mp called
    rw [answered_nil_iff.mp rest] at missing
    cases answer with
    | error error => cases clear <;> rfl
    | ok _ =>
      obtain ⟨-, -, after⟩ | ⟨-, ⟨error, refused⟩, -⟩ :=
        between.install_cases (k := target.kubeconfig) (options.chartRequest component)
      · rw [after] at missing
        simp [releaseOf, Options.chartRequest] at missing
      · rw [refused] at given
        cases given

/-- If there is still no config map after an attempt to write one, it could not be created. -/
theorem refused_of_writing {ns : String} {address : Ipv4} {result : Except GuestError Bool}
    (h : Writing target ns address talk result) (answered : Answered reply site talk later)
    (fine : site.faulty "get_config_map" target.kubeconfig.cluster = false)
    (missing : later.configMap?
      { cluster := target.kubeconfig.cluster, ns, name := addressConfigMap } = none) :
    refused Call.isCreate talk = [.createConfigMap target.kubeconfig (addressMap ns address)] := by
  have absent := (Develops.of_answered answered).configMaps
    { cluster := target.kubeconfig.cluster, ns, name := addressConfigMap }
  rw [missing] at absent
  cases h with
  | unread error =>
    rw [faulty_of_getConfigMap (answered_cons_iff.mp answered).1.symm] at fine
    cases fine
  | kept m =>
    obtain ⟨-, found⟩ := getConfigMap_eq_ok.mp (answered_cons_iff.mp answered).1.symm
    rw [found] at absent
    cases absent rfl
  | replaced m =>
    obtain ⟨-, found⟩ := getConfigMap_eq_ok.mp (answered_cons_iff.mp answered).1.symm
    rw [found] at absent
    cases absent rfl
  | created answer =>
    obtain ⟨given, rest⟩ := answered_cons_iff.mp (answered_cons_iff.mp answered).2
    rw [answered_nil_iff.mp rest] at missing
    cases answer with
    | error error => rfl
    | ok _ =>
      rw [reply_createConfigMap] at given missing
      obtain ⟨-, -, after⟩ | ⟨-, ⟨error, refused⟩, -⟩ :=
        writing_cases _ .create target.kubeconfig.cluster (addressMap ns address)
      · rw [after] at missing
        exact absurd missing (by simp [Guests.placeOf, addressMap, Metadata.named, Metadata.nsText])
      · rw [refused] at given
        cases given

theorem asked_quiet {kind : Call → Bool} (within : ∀ c, Quiet c → kind c = false)
    (quiet : ∀ x ∈ talk, Quiet x.1) : asked kind talk = [] :=
  asked_eq_nil fun x member => within _ (quiet x member)

theorem isCreate_of_keeps {c : Call} (keeps : c.isWrite = false) : c.isCreate = false := by
  cases c <;> first | rfl | cases keeps

section Retrying

variable {target' : Target} {talk' : List Exchange} {site' later' : Site} {failed failed' : Bool}

theorem retries_installing (off : options.updateInPlace = false)
    (h : Installing options target component event talk failed)
    (h' : Installing options target' component event talk' failed')
    (answered : Answered reply site talk later) (answered' : Answered reply site' talk' later')
    (developed : Develops later site') (same : target'.kubeconfig = target.kubeconfig) :
    (asked Call.isInstall talk').Sublist (refused Call.isInstall talk) := by
  obtain ⟨attempt⟩ := h
  obtain ⟨attempt'⟩ := h'
  obtain ⟨between, first, counted⟩ := answered_append_iff.mp answered
  obtain ⟨between', second, -⟩ := answered_append_iff.mp answered'
  rw [asked_append, asked_quiet (fun c quiet => quiet.2) quiet_concluded, List.append_nil,
    refused_append]
  refine List.Sublist.trans ?_ (List.sublist_append_left _ _)
  cases attempt' with
  | unknown => exact List.nil_sublist _
  | present => exact List.nil_sublist _
  | called clear' answer' =>
    cases clear' with
    | upgrading on => rw [off] at on; cases on
    | missing =>
      obtain ⟨fine, missing⟩ := releaseExists_eq_ok.mp (answered_cons_iff.mp second).1.symm
      have grown := (Develops.of_answered answered).trans developed
      rw [faulty, grown.faults] at fine
      rw [refused_of_attempting attempt first fine, same]
      · exact List.Sublist.refl _
      · rw [same] at missing
        refine Bool.eq_false_iff.mpr fun there => ?_
        have still := developed.releases _ ((Develops.of_answered counted).releases _ there)
        rw [releaseOf, missing] at still
        cases still

theorem retries_publishing (h : Publishing options target talk failed)
    (h' : Publishing options target' talk' failed')
    (answered : Answered reply site talk later) (answered' : Answered reply site' talk' later')
    (developed : Develops later site') (same : target'.kubeconfig = target.kubeconfig)
    (own : target'.record = target.record) :
    (asked Call.isCreate talk').Sublist (refused Call.isCreate talk) := by
  cases h' with
  | addressless => exact List.nil_sublist _
  | @tried address' _ _ has' attempt' =>
    rw [asked_append, asked_quiet (fun c quiet => isCreate_of_keeps quiet.1) quiet_concluded,
      List.append_nil]
    obtain ⟨between', second, -⟩ := answered_append_iff.mp answered'
    cases attempt' with
    | unread => exact List.nil_sublist _
    | kept => exact List.nil_sublist _
    | replaced => exact List.nil_sublist _
    | created answer' =>
      obtain ⟨fine, missing⟩ := getConfigMap_eq_ok.mp (answered_cons_iff.mp second).1.symm
      have grown := (Develops.of_answered answered).trans developed
      rw [faulty, grown.faults, same] at fine
      rw [same] at missing
      cases h with
      | addressless none => rw [own, none] at has'; cases has'
      | @tried address _ _ has attempt =>
        obtain ⟨between, first, counted⟩ := answered_append_iff.mp answered
        rw [own, has] at has'
        cases has'
        rw [refused_append, refused_of_writing attempt first fine, same]
        · exact List.sublist_append_left _ _
        · refine Option.not_isSome_iff_eq_none.mp fun there => ?_
          have still := developed.configMaps _
            ((Develops.of_answered counted).configMaps _ there)
          rw [missing] at still
          cases still

theorem retries_creating {labels labels' : TextMap} {count count' : Nat}
    (h : Serving options labels target talk count)
    (h' : Serving options labels' target' talk' count')
    (answered : Answered reply site talk later) (answered' : Answered reply site' talk' later')
    (developed : Develops later site') (same : target'.kubeconfig = target.kubeconfig)
    (own : target'.record = target.record) :
    (asked Call.isCreate talk').Sublist (refused Call.isCreate talk) := by
  obtain ⟨front, last, _, rfl, -, publishing⟩ := publishing_of_serving h
  obtain ⟨front', last', _, rfl, keeps', publishing'⟩ := publishing_of_serving h'
  obtain ⟨between, -, published⟩ := answered_append_iff.mp answered
  obtain ⟨between', before', published'⟩ := answered_append_iff.mp answered'
  rw [asked_append, asked_eq_nil fun x member => isCreate_of_keeps (keeps' x member),
    refused_append]
  exact (retries_publishing publishing publishing' published published'
    (developed.trans (.of_answered before')) same own).trans (List.sublist_append_right _ _)

theorem retries_serving {labels : TextMap} {count count' : Nat}
    (off : options.updateInPlace = false) (h : Serving options labels target talk count)
    (h' : Serving options labels target' talk' count')
    (answered : Answered reply site talk later) (answered' : Answered reply site' talk' later')
    (developed : Develops later site') (same : target'.kubeconfig = target.kubeconfig) :
    (asked Call.isInstall talk').Sublist (refused Call.isInstall talk) := by
  have complained : ∀ {complaint : List Exchange},
      (∀ x ∈ complaint, ∃ notice, x = reported notice) → asked Call.isInstall complaint = [] :=
    fun complaining => asked_eq_nil fun x member =>
      (quiet_of_silent (silent_reports complaining x member)).2
  cases h' with
  | spared spares complaining' publishing' =>
    rw [asked_append, complained complaining', asked_eq_nil (keeps_publishing publishing')]
    exact List.nil_sublist _
  | selected selects complaining' installing' installing'' publishing' =>
    cases h with
    | spared spares => rw [spares] at selects; cases selects
    | selected _ complaining installing₁ installing₂ publishing =>
      obtain ⟨three, front, last⟩ := answered_append_iff.mp answered
      obtain ⟨two, front, second⟩ := answered_append_iff.mp front
      obtain ⟨one, complaint, first⟩ := answered_append_iff.mp front
      obtain ⟨three', front', last'⟩ := answered_append_iff.mp answered'
      obtain ⟨two', upto', second'⟩ := answered_append_iff.mp front'
      obtain ⟨one', complaint', first'⟩ := answered_append_iff.mp upto'
      have afterSecond := (Develops.of_answered last).trans developed
      have afterFirst := (Develops.of_answered second).trans afterSecond
      have first := retries_installing off installing₁ installing' first first'
        (afterFirst.trans (.of_answered complaint')) same
      have second := retries_installing off installing₂ installing'' second second'
        (afterSecond.trans (.of_answered upto')) same
      simp only [asked_append, refused_append, complained complaining',
        asked_eq_nil (keeps_publishing publishing'), List.nil_append, List.append_nil]
      exact ((first.trans (List.sublist_append_right _ _)).append second).trans
        (List.sublist_append_left _ _)

/-- A visit that finds what an earlier visit left tries again only what was refused. -/
theorem retries_visiting {result result' : Visit}
    (h : Visiting options store record talk result)
    (h' : Visiting options store record talk' result')
    (answered : Answered reply site talk later) (answered' : Answered reply site' talk' later')
    (developed : Develops later site') :
    Leg.Retries options ⟨record, talk, result⟩ ⟨record, talk', result'⟩ := by
  have creates : ∀ c, Quiet c → c.isCreate = false := fun c quiet => isCreate_of_keeps quiet.1
  have installs : ∀ c, Quiet c → c.isInstall = false := fun c quiet => quiet.2
  obtain ⟨-, quiet⟩ | ⟨cluster', target', before', work', between', failed', reached', own', split',
    quiet', first', last', serving'⟩ := quiet_or_served h' answered'
  · refine ⟨rfl, ?_, fun off => ?_⟩
    · rw [asked_quiet creates quiet]
      exact List.nil_sublist _
    · rw [asked_quiet installs quiet]
      exact List.nil_sublist _
  · have grown := (Develops.of_answered answered).trans developed
    rw [grown.toAlike.reaches] at reached'
    obtain ⟨missed, -⟩ | ⟨cluster, target, before, work, between, failed, reached, own, split,
      quiet, first, last, serving⟩ := quiet_or_served h answered
    · rw [missed] at reached'
      cases reached'
    · rw [reached] at reached'
      obtain ⟨rfl, same⟩ := Prod.mk.inj (Option.some.inj reached')
      have upto := developed.trans (.of_answered first')
      subst split split'
      refine ⟨rfl, ?_, fun off => ?_⟩
      · rw [asked_append, asked_quiet creates quiet', refused_append]
        exact (retries_creating serving serving' last last' upto same.symm
          (own'.trans own.symm)).trans (List.sublist_append_right _ _)
      · rw [asked_append, asked_quiet installs quiet', refused_append]
        exact (retries_serving off serving serving' last last' upto same.symm).trans
          (List.sublist_append_right _ _)

end Retrying

theorem retries_legs (options : Options) (store : Store) (records : List FloatingRecord)
    {site site' : Site} (developed : Develops (afterLegs reply options store records site) site') :
    List.Forall₂ (Leg.Retries options) (legs reply options store records site)
      (legs reply options store records site') := by
  induction records generalizing site site' with
  | nil => exact .nil
  | cons record records ih =>
    let d := visit options store record
    have here := answered_transcript reply d site
    have there := answered_transcript reply d site'
    have further := (effect_of_legs options store records (d.play reply site).2).1
    refine .cons ?_ (ih (developed.trans (.of_answered there)))
    exact retries_visiting (visiting (mayGo_transcript reply d site))
      (visiting (mayGo_transcript reply d site')) here there (further.trans developed)

/-- All that a sweep writes or installs, it writes or installs during its visits. -/
theorem transcript_visits (site : Site) : ∃ closing,
    (Sweep.sweep site.operator.options site.operator.inventory.store).transcript reply site =
      ⟨.sweeping true, ()⟩ :: (site.visits.flatMap (·.talk) ++ closing) ∧
    ∀ x ∈ closing, Quiet x.1 := by
  obtain ⟨closing, whole, closes, -⟩ :=
    transcript_sweep reply site.operator.options site.operator.inventory.store site
  exact ⟨closing, whole, fun x member => quiet_of_silent (closes x member).kubeconfig?⟩

/-- A second sweep leaves the config maps and the releases as the first one did. Its visits try
again what was refused to those of the first, and nothing else. -/
theorem sweep_idempotent (site : Site) :
    (sweep.run (sweep.run site).2).2.configMap? = (sweep.run site).2.configMap? ∧
    (sweep.run (sweep.run site).2).2.hasRelease = (sweep.run site).2.hasRelease ∧
    (∃ closing, (Sweep.sweep site.operator.options site.operator.inventory.store).transcript reply
        (sweep.run site).2 =
      ⟨.sweeping true, ()⟩ :: ((sweep.run site).2.visits.flatMap (·.talk) ++ closing) ∧
      ∀ x ∈ closing, Quiet x.1) ∧
    List.Forall₂ (Leg.Retries site.operator.options) site.visits (sweep.run site).2.visits := by
  obtain ⟨developed, maps, releases⟩ := effect_of_sweep site
  obtain ⟨-, maps', releases'⟩ := effect_of_sweep (sweep.run site).2
  have samePosts : (sweep.run site).2.posts = site.posts :=
    funext fun record => developed.toAlike.posts
  have sameBrings : ∀ release, (sweep.run site).2.brings site.operator.options release =
      site.brings site.operator.options release :=
    fun release => funext fun record => developed.toAlike.brings
  have spoken := transcript_visits (sweep.run site).2
  rw [developed.options, developed.inventory] at maps' spoken
  simp only [developed.options, developed.inventory] at releases'
  refine ⟨?_, ?_, spoken, ?_⟩
  · rw [maps', samePosts, maps, ConfigMaps.postAll_postAll]
  · funext release
    rw [releases', sameBrings, releases, Bool.or_assoc, Bool.or_self]
  · obtain ⟨closed, -, -⟩ := afterVisits_sweep site
    have marked : Develops (sweep.run site).2 _ := develops_reply (.sweeping true) _
    have retries := retries_legs site.operator.options site.operator.inventory.store
      site.operator.inventory.store.floatings (closed.trans marked)
    unfold visits tour
    rwa [developed.options, developed.inventory]

/-- The second address remains, and the load balancer is tried again in vain, while the cloud
provider is not. -/
theorem tries_refused_again :
    (sweep.run (sweep.run Sample.site).2).2.configMap? = (sweep.run Sample.site).2.configMap? ∧
      (((sweep.run Sample.site).2.configMap? ⟨"guest", "kube-system", "kubevip"⟩).bind
        fun m => m.data.bind (·["cidr-global"]?)) = some "10.0.0.2/32" ∧
      List.Forall₂ (Leg.Retries Sample.options) Sample.site.visits
        (sweep.run Sample.site).2.visits ∧
      Sample.site.visits.map (fun leg => (asked Call.isInstall leg.talk).length) = [2, 0, 1] ∧
      (sweep.run Sample.site).2.visits.map
        (fun leg => (asked Call.isInstall leg.talk).length) = [1, 0, 1] := by
  obtain ⟨maps, -, -, retries⟩ := sweep_idempotent Sample.site
  exact ⟨maps, by decide +kernel, retries, by decide +kernel, by decide +kernel⟩

end InMemory.Site

end FloatingAddress
