import FloatingAddress.Proofs.Sweep.Postings

/-!
# What a sweep does to a site

What a visit of a sweep leaves can be told beforehand, from the part of the site that does not
change: whether the visit gets to work on its guest cluster, which address it publishes there, and
which releases it makes sure of. So a sweep posts the addresses of all these visits one after the
other, and adds their releases to the ones that were there.
-/

namespace FloatingAddress

open Dialogue Sweep

namespace InMemory.Site

variable {options : Options} {store : Store} {record : FloatingRecord} {target : Target}
  {component : Chart.Component} {event : Metrics.Event} {site later : Site} {talk : List Exchange}

/-- The guest cluster on which a visit works, with its credentials. -/
def reaches (site : Site) (record : FloatingRecord) : Option (GuestCluster × Kubeconfig) :=
  match site.surroundings.registry.get record.cluster,
    site.surroundings.registry.kubeconfig record.cluster with
  | .ok (some cluster), .ok k =>
    if cluster.owns record.key.ns && (site.surroundings.guests.probe k.cluster).1.isOk then
      some (cluster, k)
    else none
  | _, _ => none

theorem Alike.reaches (alike : Alike site later) : later.reaches record = site.reaches record := by
  have probes : ∀ cluster, (later.surroundings.guests.probe cluster).1 =
      (site.surroundings.guests.probe cluster).1 := by
    intro cluster
    rw [Guests.probe, Guests.probe, alike.probes]
  unfold Site.reaches
  simp only [alike.registry, probes]

/-- Who is worked on gave the answers that led there. -/
theorem cluster_of_reaches {cluster : GuestCluster} {k : Kubeconfig}
    (reached : site.reaches record = some (cluster, k)) : k.cluster = record.cluster := by
  unfold Site.reaches at reached
  split at reached
  next _ k' _ unlocked =>
    split at reached
    · obtain ⟨rfl, rfl⟩ := Prod.mk.inj (Option.some.inj reached)
      unfold Registry.kubeconfig at unlocked
      split at unlocked
      · cases unlocked
      · exact congrArg Kubeconfig.cluster (Except.ok.inj unlocked).symm
    · cases reached
  · cases reached

/-- Calls that change neither a config map nor a release. -/
def Quiet (c : Call) : Prop := c.isWrite = false ∧ c.isInstall = false

theorem quiet_of_silent {c : Call} (silent : c.kubeconfig? = none) : Quiet c := by
  cases c <;> first | exact ⟨rfl, rfl⟩ | cases silent

theorem quiet_concluded {notice : GuestError → Notice} {result : Except GuestError Bool} :
    ∀ x ∈ target.concluded event notice result, Quiet x.1 :=
  fun x member => quiet_of_silent (silent_concluded x member)

theorem quiet_approach {cluster : GuestCluster} {name : Except GuestError (Option String)}
    {k : Except GuestError Kubeconfig} : ∀ x ∈ approach record cluster name k, Quiet x.1 :=
  fun x member => quiet_of_silent (silent_approach x member)

theorem quiet_probing {result : Except Nat Unit}
    (h : Probing target talk result) : ∀ x ∈ talk, Quiet x.1 := by
  cases h <;>
    simp [markedDown, Target.counted, measured, reported, Quiet, Call.isWrite, Call.isInstall]

theorem approached {cluster : GuestCluster} {name : Except GuestError (Option String)}
    {k : Except GuestError Kubeconfig}
    (answered : Answered reply site (approach record cluster name k) later) :
    later = site ∧ site.surroundings.registry.get record.cluster = .ok (some cluster) ∧
      site.surroundings.registry.kubeconfig record.cluster = k := by
  unfold approach at answered
  simp only [answered_cons_iff, answered_nil_iff] at answered
  obtain ⟨found, -, unlocked, rfl⟩ := answered
  have here : (reply (.getCluster record.cluster) site).2 = site := rfl
  rw [here, reply_providerName] at unlocked ⊢
  exact ⟨rfl, found.symm, unlocked.symm⟩

theorem probed {result : Except Nat Unit} (h : Probing target talk result)
    (answered : Answered reply site talk later) :
    (site.surroundings.guests.probe target.kubeconfig.cluster).1.isOk = result.isOk := by
  cases h <;> exact congrArg Except.isOk (answered_cons_iff.mp answered).1.symm

/-- A visit changes nothing unless it works on a guest cluster, and then it does so in the end. -/
theorem quiet_or_served {result : Visit} (h : Visiting options store record talk result)
    (answered : Answered reply site talk later) :
    (site.reaches record = none ∧ ∀ x ∈ talk, Quiet x.1) ∨
    ∃ cluster target before work between failed,
      site.reaches record = some (cluster, target.kubeconfig) ∧ target.record = record ∧
      talk = before ++ work ∧ (∀ x ∈ before, Quiet x.1) ∧
      Answered reply site before between ∧ Answered reply between work later ∧
      Serving options cluster.labels target work failed := by
  cases h with
  | lookupFailed error =>
    have given : .error error = site.surroundings.registry.get record.cluster :=
      (answered_cons_iff.mp answered).1
    refine .inl ⟨by rw [reaches, ← given], List.forall_mem_cons.mpr
      ⟨⟨rfl, rfl⟩, fun x member => quiet_of_silent (silent_markedDown x member)⟩⟩
  | gone =>
    have given : .ok none = site.surroundings.registry.get record.cluster :=
      (answered_cons_iff.mp answered).1
    refine .inl ⟨by rw [reaches, ← given], by simp [Quiet, Call.isWrite, Call.isInstall]⟩
  | estranged cluster lost =>
    have given : .ok (some cluster) = site.surroundings.registry.get record.cluster :=
      (answered_cons_iff.mp answered).1
    refine .inl ⟨?_, by simp [Quiet, Call.isWrite, Call.isInstall]⟩
    rw [reaches, ← given]
    cases site.surroundings.registry.kubeconfig record.cluster <;> simp [lost]
  | locked cluster owns name error =>
    obtain ⟨between, first, -⟩ := answered_append_iff.mp answered
    obtain ⟨-, found, unlocked⟩ := approached first
    exact .inl ⟨by rw [reaches, found, unlocked],
      List.forall_mem_append.mpr ⟨quiet_approach,
        fun x member => quiet_of_silent (silent_markedDown x member)⟩⟩
  | stopped cluster owns name kubeconfig probing =>
    obtain ⟨between, first, second⟩ := answered_append_iff.mp answered
    obtain ⟨rfl, found, unlocked⟩ := approached first
    refine .inl ⟨?_, List.forall_mem_append.mpr ⟨quiet_approach, quiet_probing probing⟩⟩
    have dead := probed probing second
    rw [reaches, found, unlocked]
    simp_all [targetOf, Except.isOk, Except.toBool]
  | @served cluster owns name kubeconfig start work failed probing serving =>
    obtain ⟨between, first, last⟩ := answered_append_iff.mp answered
    obtain ⟨between', approaching, probe⟩ := answered_append_iff.mp first
    obtain ⟨rfl, found, unlocked⟩ := approached approaching
    refine .inr ⟨cluster, targetOf store record name kubeconfig, _, work, between, failed, ?_, rfl,
      rfl, List.forall_mem_append.mpr ⟨quiet_approach, quiet_probing probing⟩, first, last, serving⟩
    have alive := probed probing probe
    rw [reaches, found, unlocked]
    simp_all [targetOf, Except.isOk, Except.toBool]

def releaseOf (cluster : String) (component : Chart.Component) : Release :=
  { cluster, ns := component.ns, name := component.release }

/-- Whether an attempt to install a component makes sure that a release is there. -/
def ensures (options : Options) (cluster : String) (component : Chart.Component) (site : Site)
    (release : Release) : Bool :=
  decide (release = releaseOf cluster component) &&
    !site.surroundings.installer.failing.contains (cluster, component.release) &&
    (options.updateInPlace || !site.faulty "release_exists" component.release)

/-- If nothing stands in the way of an installation, nothing has changed either. -/
theorem cleared (h : Cleared options target component talk)
    (answered : Answered reply site talk later) : later = site ∧
      (options.updateInPlace || !site.faulty "release_exists" component.release) = true := by
  cases h with
  | upgrading on => exact ⟨answered_nil_iff.mp answered, by rw [on, Bool.true_or]⟩
  | missing off =>
    obtain ⟨given, rest⟩ := answered_cons_iff.mp answered
    obtain ⟨fine, -⟩ := releaseExists_eq_ok.mp given.symm
    refine ⟨?_, by rw [fine, Bool.not_false, Bool.or_true]⟩
    rw [answered_nil_iff.mp rest]
    exact reply_releaseExists ..

theorem hasRelease_of_attempting {result : Except GuestError Bool}
    (h : Attempting options target component talk result)
    (answered : Answered reply site talk later) (release : Release) :
    later.hasRelease release = (site.hasRelease release ||
      site.ensures options target.kubeconfig.cluster component release) := by
  cases h with
  | unknown off error =>
    obtain ⟨given, rest⟩ := answered_cons_iff.mp answered
    rw [answered_nil_iff.mp rest, reply_releaseExists, ensures, off,
      faulty_of_releaseExists given.symm, Bool.not_true, Bool.or_false, Bool.and_false,
      Bool.or_false]
  | present off =>
    obtain ⟨given, rest⟩ := answered_cons_iff.mp answered
    obtain ⟨-, there⟩ := releaseExists_eq_ok.mp given.symm
    rw [answered_nil_iff.mp rest, reply_releaseExists]
    by_cases same : release = releaseOf target.kubeconfig.cluster component
    · rw [same, releaseOf, there, Bool.true_or]
    · simp [ensures, same]
  | called clear answer =>
    obtain ⟨asked, first, called⟩ := answered_append_iff.mp answered
    obtain ⟨rfl, free⟩ := cleared clear first
    obtain ⟨-, rest⟩ := answered_cons_iff.mp called
    rw [answered_nil_iff.mp rest, ensures, free, Bool.and_true]
    obtain ⟨fine, -, after⟩ | ⟨failing, -, after⟩ :=
      asked.install_cases (k := target.kubeconfig) (options.chartRequest component)
    · have works : asked.surroundings.installer.failing.contains
          (target.kubeconfig.cluster, component.release) = false := by
        simpa [Options.chartRequest] using fine
      rw [after, works, Bool.not_false, Bool.and_true, Bool.or_comm]
      rfl
    · have refuses : asked.surroundings.installer.failing.contains
          (target.kubeconfig.cluster, component.release) = true := List.contains_iff_mem.mpr failing
      rw [after, refuses, Bool.not_true, Bool.and_false, Bool.or_false]

theorem hasRelease_of_installing {failed : Bool}
    (h : Installing options target component event talk failed)
    (answered : Answered reply site talk later) (release : Release) :
    later.hasRelease release = (site.hasRelease release ||
      site.ensures options target.kubeconfig.cluster component release) := by
  obtain ⟨attempt⟩ := h
  obtain ⟨between, tried, counted⟩ := answered_append_iff.mp answered
  rw [hasRelease_of_answered counted fun x member => (quiet_concluded x member).2]
  exact hasRelease_of_attempting attempt tried release

/-- Whether config maps of a guest cluster cannot be read or written. -/
def blocked (site : Site) (cluster : String) : Bool :=
  site.faulty "get_config_map" cluster || decide (cluster ∈ site.surroundings.guests.failingWrites)

/-- The posting of an address that belongs to a record. -/
def postingOf (record : FloatingRecord) (address : Ipv4) : Posting :=
  { cluster := record.cluster, forced := record.forceRefresh, address }

theorem configMap?_of_writing {ns : String} {address : Ipv4} {result : Except GuestError Bool}
    (h : Writing target ns address talk result) (answered : Answered reply site talk later)
    (own : target.kubeconfig.cluster = target.record.cluster) : later.configMap? =
      if site.blocked target.record.cluster then site.configMap?
      else ConfigMaps.post ns site.configMap? (postingOf target.record address) := by
  let read := (reply (.getConfigMap target.kubeconfig ns addressConfigMap) site).2
  have same : read.configMap? = site.configMap? := funext fun place => configMap?_reply rfl place
  have failing : read.surroundings.guests.failingWrites =
      site.surroundings.guests.failingWrites := (alike_reply _ site).failingWrites
  have spot : (postingOf target.record address).place ns =
      { cluster := target.kubeconfig.cluster, ns, name := addressConfigMap } := by rw [own]; rfl
  cases h with
  | unread error =>
    obtain ⟨given, rest⟩ := answered_cons_iff.mp answered
    have fault := faulty_of_getConfigMap given.symm
    rw [own] at fault
    rw [answered_nil_iff.mp rest, blocked, fault, Bool.true_or, if_pos rfl]
    exact same
  | kept m keep =>
    obtain ⟨given, rest⟩ := answered_cons_iff.mp answered
    obtain ⟨-, found⟩ := getConfigMap_eq_ok.mp given.symm
    have there : (site.configMap? ((postingOf target.record address).place ns)).isSome := by
      rw [spot, found]
      rfl
    rw [answered_nil_iff.mp rest, ConfigMaps.post_unforced keep there, ite_self]
    exact same
  | created answer =>
    obtain ⟨given, rest⟩ := answered_cons_iff.mp answered
    obtain ⟨-, last⟩ := answered_cons_iff.mp rest
    obtain ⟨fine, missing⟩ := getConfigMap_eq_ok.mp given.symm
    have after : (read.writing .create target.kubeconfig.cluster
        (addressMap ns address)).2.configMap? = _ :=
      configMap?_create ((congrFun same _).trans missing)
    rw [failing, same] at after
    rw [answered_nil_iff.mp last, blocked, ← own, fine, Bool.false_or,
      ConfigMaps.post_of_none (by rw [spot, missing]), spot]
    simp only [decide_eq_true_eq]
    exact after
  | replaced m refresh answer =>
    obtain ⟨given, rest⟩ := answered_cons_iff.mp answered
    obtain ⟨-, last⟩ := answered_cons_iff.mp rest
    obtain ⟨fine, found⟩ := getConfigMap_eq_ok.mp given.symm
    have after := read.configMap?_replace target.kubeconfig.cluster
      (m.withEntry addressKey (addressText address))
    rw [failing, same] at after
    have near : (postingOf target.record address).cluster = target.kubeconfig.cluster := own.symm
    have forced : (postingOf target.record address).forced = true := refresh
    rw [answered_nil_iff.mp last, blocked, ← own, fine, Bool.false_or,
      ConfigMaps.post_of_some (m := m) (by rw [spot, found]), near]
    simp only [decide_eq_true_eq, forced, true_and]
    exact after

/-- The address that a visit offers to its guest cluster, if the calls get through. -/
def offers (site : Site) (record : FloatingRecord) : Option Posting :=
  if site.blocked record.cluster then none else record.address.map (postingOf record)

theorem configMap?_of_publishing {failed : Bool} (h : Publishing options target talk failed)
    (answered : Answered reply site talk later)
    (own : target.kubeconfig.cluster = target.record.cluster) : later.configMap? =
      ConfigMaps.postAll options.loadBalancer.ns site.configMap?
        (site.offers target.record).toList := by
  cases h with
  | addressless missing =>
    have same := configMap?_of_answered answered (by simp [reported, Call.isWrite])
    rw [offers, missing, Option.map_none, ite_self]
    exact funext same
  | @tried address talk result has attempt =>
    obtain ⟨between, tried, counted⟩ := answered_append_iff.mp answered
    have same : later.configMap? = between.configMap? :=
      funext (configMap?_of_answered counted fun x member => (quiet_concluded x member).1)
    rw [same, configMap?_of_writing attempt tried own, offers, has]
    split <;> rfl

theorem keeps_installing {failed : Bool}
    (h : Installing options target component event talk failed) :
    ∀ x ∈ talk, x.1.isWrite = false := by
  obtain ⟨attempt⟩ := h
  refine List.forall_mem_append.mpr ⟨?_, fun x member => (quiet_concluded x member).1⟩
  cases attempt with
  | unknown => simp [Call.isWrite]
  | present => simp [Call.isWrite]
  | called clear => cases clear <;> simp [Call.isWrite]

theorem keeps_publishing {failed : Bool} (h : Publishing options target talk failed) :
    ∀ x ∈ talk, x.1.isInstall = false := by
  cases h with
  | addressless => simp [reported, Call.isInstall]
  | tried has attempt =>
    refine List.forall_mem_append.mpr ⟨?_, fun x member => (quiet_concluded x member).2⟩
    cases attempt <;> simp [Call.isInstall]

/-- Whether the work on a guest cluster makes sure that a release is there. -/
def provides (options : Options) (labels : TextMap) (cluster : String) (site : Site)
    (release : Release) : Bool :=
  options.installPolicy.selects labels &&
    (site.ensures options cluster options.loadBalancer release ||
      site.ensures options cluster options.cloudProvider release)

theorem Alike.ensures {cluster : String} {release : Release} (alike : Alike site later) :
    later.ensures options cluster component release =
      site.ensures options cluster component release := by
  rw [Site.ensures, Site.ensures, faulty, faulty, alike.failing, alike.faults]

theorem Alike.offers (alike : Alike site later) : later.offers record = site.offers record := by
  rw [Site.offers, Site.offers, blocked, blocked, faulty, faulty, alike.faults, alike.failingWrites]

/-- The address is published last, and nothing is written before. -/
theorem publishing_of_serving {labels : TextMap} {count : Nat}
    (h : Serving options labels target talk count) : ∃ front last failed, talk = front ++ last ∧
      (∀ x ∈ front, x.1.isWrite = false) ∧ Publishing options target last failed := by
  have reports : ∀ {complaint : List Exchange},
      (∀ x ∈ complaint, ∃ notice, x = reported notice) → ∀ x ∈ complaint, x.1.isWrite = false :=
    fun complaining x member => (quiet_of_silent (silent_reports complaining x member)).1
  cases h with
  | spared _ complaining publishing => exact ⟨_, _, _, rfl, reports complaining, publishing⟩
  | selected _ complaining first second publishing =>
    refine ⟨_, _, _, rfl, ?_, publishing⟩
    simp only [List.forall_mem_append]
    exact ⟨⟨reports complaining, keeps_installing first⟩, keeps_installing second⟩

theorem configMap?_of_serving {labels : TextMap} {count : Nat}
    (h : Serving options labels target talk count) (answered : Answered reply site talk later)
    (own : target.kubeconfig.cluster = target.record.cluster) : later.configMap? =
      ConfigMaps.postAll options.loadBalancer.ns site.configMap?
        (site.offers target.record).toList := by
  obtain ⟨front, last, failed, rfl, keeps, publishing⟩ := publishing_of_serving h
  obtain ⟨between, before, published⟩ := answered_append_iff.mp answered
  rw [configMap?_of_publishing publishing published own,
    funext (configMap?_of_answered before keeps), (Develops.of_answered before).toAlike.offers]

theorem hasRelease_of_serving {labels : TextMap} {count : Nat}
    (h : Serving options labels target talk count) (answered : Answered reply site talk later)
    (release : Release) : later.hasRelease release = (site.hasRelease release ||
      site.provides options labels target.kubeconfig.cluster release) := by
  have complained : ∀ {complaint : List Exchange} {after : Site},
      (∀ x ∈ complaint, ∃ notice, x = reported notice) → Answered reply site complaint after →
      after.hasRelease release = site.hasRelease release :=
    fun complaining answered => hasRelease_of_answered answered
      (fun x member => (quiet_of_silent (silent_reports complaining x member)).2) release
  cases h with
  | spared spares complaining publishing =>
    obtain ⟨one, complaint, published⟩ := answered_append_iff.mp answered
    rw [hasRelease_of_answered published (keeps_publishing publishing),
      complained complaining complaint, provides, spares, Bool.false_and, Bool.or_false]
  | selected selects complaining first second publishing =>
    obtain ⟨three, front, published⟩ := answered_append_iff.mp answered
    obtain ⟨two, upto, installed'⟩ := answered_append_iff.mp front
    obtain ⟨one, complaint, installed⟩ := answered_append_iff.mp upto
    rw [hasRelease_of_answered published (keeps_publishing publishing),
      hasRelease_of_installing second installed', hasRelease_of_installing first installed,
      complained complaining complaint, (Develops.of_answered complaint).toAlike.ensures,
      (Develops.of_answered upto).toAlike.ensures, provides, selects, Bool.true_and, Bool.or_assoc]

/-- The address that a visit publishes. -/
def posts (site : Site) (record : FloatingRecord) : Option Posting :=
  (site.reaches record).bind fun _ => site.offers record

/-- Whether a visit makes sure that a release is there. -/
def brings (options : Options) (site : Site) (release : Release) (record : FloatingRecord) : Bool :=
  (site.reaches record).any fun (cluster, k) =>
    site.provides options cluster.labels k.cluster release

theorem Alike.posts (alike : Alike site later) : later.posts record = site.posts record := by
  rw [Site.posts, Site.posts, alike.reaches, alike.offers]

theorem Alike.brings {release : Release} (alike : Alike site later) :
    later.brings options release record = site.brings options release record := by
  unfold Site.brings provides
  simp only [alike.reaches, alike.ensures]

theorem effect_of_visiting {result : Visit} (h : Visiting options store record talk result)
    (answered : Answered reply site talk later) :
    later.configMap? = ConfigMaps.postAll options.loadBalancer.ns site.configMap?
      (site.posts record).toList ∧
    ∀ release, later.hasRelease release =
      (site.hasRelease release || site.brings options release record) := by
  obtain ⟨missed, quiet⟩ | ⟨cluster, target, before, work, between, failed, reached, own, rfl,
    quiet, first, last, serving⟩ := quiet_or_served h answered
  · rw [posts, missed]
    refine ⟨funext (configMap?_of_answered answered fun x member => (quiet x member).1),
      fun release => ?_⟩
    rw [hasRelease_of_answered answered fun x member => (quiet x member).2, brings, missed]
    exact (Bool.or_false _).symm
  · have near : target.kubeconfig.cluster = target.record.cluster := by
      rw [own, cluster_of_reaches reached]
    have developed := Develops.of_answered first
    rw [posts, reached, Option.bind_some]
    refine ⟨?_, fun release => ?_⟩
    · rw [configMap?_of_serving serving last near,
        funext (configMap?_of_answered first fun x member => (quiet x member).1),
        developed.toAlike.offers, own]
    · rw [hasRelease_of_serving serving last,
        hasRelease_of_answered first fun x member => (quiet x member).2, brings, reached]
      simp only [Option.any_some, provides, developed.toAlike.ensures]

/-- The visits of a sweep post the addresses one after the other, and add releases. -/
theorem effect_of_legs (options : Options) (store : Store) (records : List FloatingRecord)
    (site : Site) :
    Develops site (afterLegs reply options store records site) ∧
    (afterLegs reply options store records site).configMap? =
      ConfigMaps.postAll options.loadBalancer.ns site.configMap? (records.filterMap site.posts) ∧
    ∀ release, (afterLegs reply options store records site).hasRelease release =
      (site.hasRelease release || records.any (site.brings options release)) := by
  induction records generalizing site with
  | nil => exact ⟨Develops.refl site, rfl, fun release => (Bool.or_false _).symm⟩
  | cons record records ih =>
    let next := ((visit options store record).play reply site).2
    have answered := answered_transcript reply (visit options store record) site
    have developed : Develops site next := .of_answered answered
    obtain ⟨maps, releases⟩ := effect_of_visiting
      (visiting (mayGo_transcript reply (visit options store record) site)) answered
    obtain ⟨further, maps', releases'⟩ := ih next
    have sameBrings : ∀ release, next.brings options release = site.brings options release :=
      fun release => funext fun record => developed.toAlike.brings
    have samePosts : next.posts = site.posts := funext fun record => developed.toAlike.posts
    rw [afterLegs, List.filterMap_cons]
    refine ⟨developed.trans further, ?_, fun release => ?_⟩
    · rw [maps', maps, samePosts]
      cases site.posts record <;> rfl
    · rw [releases', releases, sameBrings, List.any_cons, Bool.or_assoc]

/-- The visits of a sweep at a site. -/
def visits (site : Site) : List Leg :=
  tour reply site.operator.options site.operator.inventory.store site

theorem afterVisits_sweep (site : Site) :
    let after := afterTour reply site.operator.options site.operator.inventory.store site
    Develops after (sweep.run site).2 ∧ (sweep.run site).2.configMap? = after.configMap? ∧
      (sweep.run site).2.hasRelease = after.hasRelease := by
  obtain ⟨closing, -, closes, answered⟩ :=
    transcript_sweep reply site.operator.options site.operator.inventory.store site
  have quiet := fun x member => quiet_of_silent (closes x member).kubeconfig?
  rw [run_sweep]
  exact ⟨.of_answered answered,
    funext (configMap?_of_answered answered fun x member => (quiet x member).1),
    funext (hasRelease_of_answered answered fun x member => (quiet x member).2)⟩

/-- What a sweep does to a site. -/
theorem effect_of_sweep (site : Site) : Develops site (sweep.run site).2 ∧
    (sweep.run site).2.configMap? =
      ConfigMaps.postAll site.operator.options.loadBalancer.ns site.configMap?
        (site.operator.inventory.store.floatings.filterMap site.posts) ∧
    ∀ release, (sweep.run site).2.hasRelease release = (site.hasRelease release ||
      site.operator.inventory.store.floatings.any
        (site.brings site.operator.options release)) := by
  let marked := (reply (.sweeping true) site).2
  have started : Develops site marked := develops_reply _ _
  obtain ⟨closed, maps, releases⟩ := afterVisits_sweep site
  obtain ⟨developed, maps', releases'⟩ := effect_of_legs site.operator.options
    site.operator.inventory.store site.operator.inventory.store.floatings marked
  have samePosts : marked.posts = site.posts := funext fun record => started.toAlike.posts
  have sameBrings : ∀ release, marked.brings site.operator.options release =
      site.brings site.operator.options release :=
    fun release => funext fun record => started.toAlike.brings
  refine ⟨(started.trans developed).trans closed, ?_, fun release => ?_⟩
  · rw [maps, afterTour, maps', samePosts]
    rfl
  · rw [releases, afterTour, releases', sameBrings]
    rfl

end InMemory.Site

end FloatingAddress
