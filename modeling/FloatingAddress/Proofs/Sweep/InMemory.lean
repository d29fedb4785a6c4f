import FloatingAddress.InMemory.Site
import FloatingAddress.Proofs.Sweep.Tour
import Mathlib.Logic.Function.Basic

/-!
# Sweeps at a site in memory

A site answers the questions of a sweep one after the other. Most of it stays as it is meanwhile:
the options, the inventory, the registry, which guest clusters answer, and which calls fail. Config
maps and releases come and change, but none goes away, so a site develops in one direction.
-/

namespace FloatingAddress

open Dialogue

namespace Sweep

def Call.isWrite : Call → Bool
  | .createConfigMap .. | .replaceConfigMap .. => true
  | _ => false

def Call.isInstall : Call → Bool
  | .install .. => true
  | _ => false

end Sweep

namespace InMemory

namespace Guests

@[simp] theorem configMap?_record (g : Guests) (call : String) (place : MapPlace) :
    (g.record call).configMap? place = g.configMap? place := rfl

theorem lookup_filter_ne {entries : List (MapPlace × Manifest.ConfigMap)} {place other : MapPlace}
    (different : other ≠ place) :
    (entries.filter (·.1 ≠ place)).lookup other = entries.lookup other := by
  induction entries with
  | nil => rfl
  | cons entry entries ih =>
    rw [List.lookup_cons]
    by_cases here : entry.1 = place
    · rw [List.filter_cons_of_neg (by simp [here]), ih, here, beq_false_of_ne different]
    · rw [List.filter_cons_of_pos (by simp [here]), List.lookup_cons, ih]

@[simp] theorem configMap?_put (g : Guests) (cluster : String) (m : Manifest.ConfigMap)
    (place : MapPlace) : (g.put cluster m).configMap? place =
      if place = placeOf cluster m then some m else g.configMap? place := by
  unfold put configMap?
  rw [List.lookup_cons]
  split
  next same => rw [if_pos (eq_of_beq same)]
  next other =>
    have different : place ≠ placeOf cluster m := ne_of_beq_false other
    rw [if_neg different, lookup_filter_ne different]

/-- Whether a config map can be written: not if the writes of its guest cluster fail, and a new one
only where there is none, and another one only where there is one. -/
def Writable (g : Guests) (how : Write) (cluster : String) (m : Manifest.ConfigMap) : Prop :=
  cluster ∉ g.failingWrites ∧ ((g.configMap? (placeOf cluster m)).isSome ↔ how = .replace)

theorem writable_create_iff {g : Guests} {cluster : String} {m : Manifest.ConfigMap}
    (missing : g.configMap? (placeOf cluster m) = none) :
    g.Writable .create cluster m ↔ cluster ∉ g.failingWrites := by
  simp [Writable, missing]

theorem writable_replace_iff {g : Guests} {cluster : String} {m : Manifest.ConfigMap} :
    g.Writable .replace cluster m ↔
      cluster ∉ g.failingWrites ∧ (g.configMap? (placeOf cluster m)).isSome := by
  simp [Writable]

/-- A write is carried out or refused, and it is recorded either way. -/
theorem write_cases (g : Guests) (how : Write) (cluster : String) (m : Manifest.ConfigMap) :
    (g.Writable how cluster m ∧
      ∃ call, g.write how cluster m = (.ok (), (g.record call).put cluster m)) ∨
    (¬g.Writable how cluster m ∧
      ∃ call error, g.write how cluster m = (.error error, g.record call)) := by
  by_cases failing : cluster ∈ g.failingWrites
  · exact .inr ⟨fun writable => writable.1 failing, _, _, if_pos failing⟩
  · unfold Writable write
    dsimp only
    rw [if_neg (show ¬cluster ∈ (g.record _).failingWrites from failing)]
    cases how <;> cases found : g.configMap? (placeOf cluster m) <;>
      simp only [configMap?_record, found]
    · exact .inl ⟨⟨failing, by simp⟩, _, rfl⟩
    · exact .inr ⟨by simp, _, _, rfl⟩
    · exact .inr ⟨by simp, _, _, rfl⟩
    · exact .inl ⟨⟨failing, by simp⟩, _, rfl⟩

end Guests

namespace Installer

@[simp] theorem hasRelease_add (i : Installer) (release other : Release) :
    (i.add release).hasRelease other = (decide (other = release) || i.hasRelease other) := by
  by_cases same : other = release <;> simp [add, hasRelease, same]

/-- A chart is installed or not, and the request is recorded either way. -/
theorem install_cases (i : Installer) (cluster : String) (chart : Chart.Request) :
    ((cluster, chart.release) ∉ i.failing ∧ ∃ installs, i.install cluster chart =
      (.ok (), add { i with installs } { cluster, ns := chart.ns, name := chart.release })) ∨
    ((cluster, chart.release) ∈ i.failing ∧ ∃ installs error, i.install cluster chart =
      (.error error, { i with installs })) := by
  by_cases failing : (cluster, chart.release) ∈ i.failing
  · exact .inr ⟨failing, _, _, if_pos failing⟩
  · exact .inl ⟨failing, _, if_neg failing⟩

end Installer

namespace Surroundings

variable {α : Type}

theorem asking_snd (s : Surroundings) (call subject : String) (answer : Except GuestError α) :
    (s.asking call subject answer).2 = s := by
  unfold asking calling
  split <;> rfl

end Surroundings

namespace Site

variable {α : Type} {site later : Site} {k : Kubeconfig}

def configMap? (site : Site) (place : MapPlace) : Option Manifest.ConfigMap :=
  site.surroundings.guests.configMap? place

def hasRelease (site : Site) (release : Release) : Bool :=
  site.surroundings.installer.hasRelease release

/-- The answer to a question of the sweep, and what the site is like afterwards. -/
def reply (c : Sweep.Call) (site : Site) : Sweep.Answer c × Site := (answerSweep c).run site

theorem run_answerSweep (d : Sweep.Step α) (site : Site) :
    (d.run answerSweep).run site = d.play reply site := by
  induction d generalizing site with
  | done a => rfl
  | ask c next ih => exact ih _ _

theorem run_sweep (site : Site) : sweep.run site =
    (Sweep.sweep site.operator.options site.operator.inventory.store).play reply site :=
  run_answerSweep _ site

/-- What a sweep does not change. -/
structure Alike (site later : Site) : Prop where
  options : later.operator.options = site.operator.options
  inventory : later.operator.inventory = site.operator.inventory
  registry : later.surroundings.registry = site.surroundings.registry
  faults : later.surroundings.faults = site.surroundings.faults
  probes : later.surroundings.guests.probes = site.surroundings.guests.probes
  failingWrites :
    later.surroundings.guests.failingWrites = site.surroundings.guests.failingWrites
  failing : later.surroundings.installer.failing = site.surroundings.installer.failing

/-- A site may become another one in the course of sweeps: what is there stays there. -/
structure Develops (site later : Site) : Prop extends Alike site later where
  configMaps : ∀ place, (site.configMap? place).isSome → (later.configMap? place).isSome
  releases : ∀ release, site.hasRelease release → later.hasRelease release

theorem Develops.refl (site : Site) : Develops site site :=
  ⟨⟨rfl, rfl, rfl, rfl, rfl, rfl, rfl⟩, fun _ => id, fun _ => id⟩

theorem Develops.trans {last : Site} (h : Develops site later) (h' : Develops later last) :
    Develops site last where
  options := h'.options.trans h.options
  inventory := h'.inventory.trans h.inventory
  registry := h'.registry.trans h.registry
  faults := h'.faults.trans h.faults
  probes := h'.probes.trans h.probes
  failingWrites := h'.failingWrites.trans h.failingWrites
  failing := h'.failing.trans h.failing
  configMaps place there := h'.configMaps place (h.configMaps place there)
  releases release there := h'.releases release (h.releases release there)

theorem reply_providerName (cluster : GuestCluster) (site : Site) :
    (reply (.providerName cluster) site).2 = site :=
  congrArg (fun surroundings => { site with surroundings })
    (Surroundings.asking_snd site.surroundings _ _ _)

theorem reply_releaseExists (ns release : String) (site : Site) :
    (reply (.releaseExists k ns release) site).2 = site :=
  congrArg (fun surroundings => { site with surroundings })
    (Surroundings.asking_snd site.surroundings _ _ _)

/-- Whether a call about something fails on its way. -/
def faulty (site : Site) (call subject : String) : Bool :=
  site.surroundings.faults.contains (call, subject)

theorem releaseExists_eq_ok {ns release : String} {there : Bool} :
    (reply (.releaseExists k ns release) site).1 = .ok there ↔
      site.faulty "release_exists" release = false ∧
        site.hasRelease { cluster := k.cluster, ns, name := release } = there := by
  change (Surroundings.releaseExists site.surroundings _).1 = _ ↔ _
  unfold Surroundings.releaseExists Surroundings.asking Surroundings.calling faulty
  cases site.surroundings.faults.contains ("release_exists", release) with
  | true => simp
  | false => simp [hasRelease]

theorem faulty_of_releaseExists {ns release : String} {error : GuestError}
    (failed : (reply (.releaseExists k ns release) site).1 = .error error) :
    site.faulty "release_exists" release = true := by
  cases fault : site.faulty "release_exists" release with
  | true => rfl
  | false =>
    rw [releaseExists_eq_ok.mpr ⟨fault, rfl⟩] at failed
    cases failed

theorem getConfigMap_eq_ok {ns name : String} {found : Option Manifest.ConfigMap} :
    (reply (.getConfigMap k ns name) site).1 = .ok found ↔
      site.faulty "get_config_map" k.cluster = false ∧
        site.configMap? { cluster := k.cluster, ns, name } = found := by
  change (Surroundings.getConfigMap site.surroundings _).1 = _ ↔ _
  unfold Surroundings.getConfigMap Surroundings.calling faulty
  cases site.surroundings.faults.contains ("get_config_map", k.cluster) with
  | true => simp
  | false => simp [Surroundings.withGuests, Guests.get, configMap?]

theorem faulty_of_getConfigMap {ns name : String} {error : GuestError}
    (failed : (reply (.getConfigMap k ns name) site).1 = .error error) :
    site.faulty "get_config_map" k.cluster = true := by
  cases fault : site.faulty "get_config_map" k.cluster with
  | true => rfl
  | false =>
    rw [getConfigMap_eq_ok.mpr ⟨fault, rfl⟩] at failed
    cases failed

theorem reply_getConfigMap_cases (ns name : String) (site : Site) :
    (reply (.getConfigMap k ns name) site).2 = site ∨
      ∃ call, (reply (.getConfigMap k ns name) site).2 = { site with surroundings :=
        { site.surroundings with guests := site.surroundings.guests.record call } } := by
  have whole : (reply (.getConfigMap k ns name) site).2 = { site with surroundings :=
      (site.surroundings.getConfigMap { cluster := k.cluster, ns, name }).2 } := rfl
  rw [whole]
  unfold Surroundings.getConfigMap Surroundings.calling
  split
  · exact .inl rfl
  · exact .inr ⟨_, rfl⟩

/-- A config map is written at a site. -/
def writing (site : Site) (how : Write) (cluster : String) (m : Manifest.ConfigMap) :
    Except GuestError Unit × Site :=
  let (answer, guests) := site.surroundings.guests.write how cluster m
  (answer, { site with surroundings := { site.surroundings with guests } })

theorem reply_createConfigMap (m : Manifest.ConfigMap) (site : Site) :
    reply (.createConfigMap k m) site = site.writing .create k.cluster m := rfl

theorem writing_cases (site : Site) (how : Write) (cluster : String) (m : Manifest.ConfigMap) :
    (site.surroundings.guests.Writable how cluster m ∧ (site.writing how cluster m).1 = .ok () ∧
      (site.writing how cluster m).2.configMap? =
        Function.update site.configMap? (Guests.placeOf cluster m) (some m)) ∨
    (¬site.surroundings.guests.Writable how cluster m ∧
      (∃ error, (site.writing how cluster m).1 = .error error) ∧
      (site.writing how cluster m).2.configMap? = site.configMap?) := by
  unfold writing
  obtain ⟨writable, call, same⟩ | ⟨refused, call, error, same⟩ :=
    site.surroundings.guests.write_cases how cluster m <;> rw [same]
  · refine .inl ⟨writable, rfl, funext fun place => ?_⟩
    rw [Function.update_apply]
    exact Guests.configMap?_put ..
  · exact .inr ⟨refused, ⟨error, rfl⟩, rfl⟩

/-- A config map that was not there is created unless writes fail. -/
theorem configMap?_create {cluster : String} {m : Manifest.ConfigMap}
    (missing : site.configMap? (Guests.placeOf cluster m) = none) :
    (site.writing .create cluster m).2.configMap? =
      if cluster ∈ site.surroundings.guests.failingWrites then site.configMap?
      else Function.update site.configMap? (Guests.placeOf cluster m) (some m) := by
  have writable := Guests.writable_create_iff missing
  obtain ⟨fits, -, after⟩ | ⟨refused, -, after⟩ := site.writing_cases .create cluster m
  · rw [after, if_neg (writable.mp fits)]
  · rw [after, if_pos (not_not.mp fun fits => refused (writable.mpr fits))]

/-- A config map is replaced where there is one, unless writes fail. -/
theorem configMap?_replace (site : Site) (cluster : String) (m : Manifest.ConfigMap) :
    (site.writing .replace cluster m).2.configMap? =
      if cluster ∈ site.surroundings.guests.failingWrites then site.configMap?
      else if (site.configMap? (Guests.placeOf cluster m)).isSome then
        Function.update site.configMap? (Guests.placeOf cluster m) (some m)
      else site.configMap? := by
  have writable : site.surroundings.guests.Writable .replace cluster m ↔
      cluster ∉ site.surroundings.guests.failingWrites ∧
        (site.configMap? (Guests.placeOf cluster m)).isSome := Guests.writable_replace_iff
  obtain ⟨fits, -, after⟩ | ⟨refused, -, after⟩ := site.writing_cases .replace cluster m
  · obtain ⟨free, there⟩ := writable.mp fits
    rw [after, if_neg free, if_pos there]
  · rw [after]
    split
    · rfl
    next free => rw [if_neg fun there => refused (writable.mpr ⟨free, there⟩)]

theorem install_cases (site : Site) (chart : Chart.Request) :
    ((k.cluster, chart.release) ∉ site.surroundings.installer.failing ∧
      (reply (.install k chart) site).1 = .ok () ∧
      ∀ release, (reply (.install k chart) site).2.hasRelease release =
        (decide (release = { cluster := k.cluster, ns := chart.ns, name := chart.release }) ||
          site.hasRelease release)) ∨
    ((k.cluster, chart.release) ∈ site.surroundings.installer.failing ∧
      (∃ error, (reply (.install k chart) site).1 = .error error) ∧
      ∀ release, (reply (.install k chart) site).2.hasRelease release =
        site.hasRelease release) := by
  have whole : reply (.install k chart) site =
      ((site.surroundings.installer.install k.cluster chart).1, { site with surroundings :=
        { site.surroundings with
          installer := (site.surroundings.installer.install k.cluster chart).2 } }) := rfl
  rw [whole]
  obtain ⟨fine, installs, same⟩ | ⟨failing, installs, error, same⟩ :=
    site.surroundings.installer.install_cases k.cluster chart
  · exact .inl ⟨fine, by rw [same], fun release => by rw [same]; exact Installer.hasRelease_add ..⟩
  · exact .inr ⟨failing, ⟨error, by rw [same]⟩, fun release => by rw [same]; rfl⟩

theorem configMap?_reply {c : Sweep.Call} (keeps : c.isWrite = false) (place : MapPlace) :
    (reply c site).2.configMap? place = site.configMap? place := by
  cases c with
  | createConfigMap k m => cases keeps
  | replaceConfigMap k m => cases keeps
  | providerName cluster => rw [reply_providerName]
  | releaseExists k ns release => rw [reply_releaseExists]
  | getConfigMap k ns name =>
    obtain same | ⟨call, same⟩ := reply_getConfigMap_cases (k := k) ns name site <;> rw [same]
    rfl
  | _ => rfl

theorem hasRelease_reply {c : Sweep.Call} (keeps : c.isInstall = false) (release : Release) :
    (reply c site).2.hasRelease release = site.hasRelease release := by
  cases c with
  | install k chart => cases keeps
  | providerName cluster => rw [reply_providerName]
  | releaseExists k ns release => rw [reply_releaseExists]
  | getConfigMap k ns name =>
    obtain same | ⟨call, same⟩ := reply_getConfigMap_cases (k := k) ns name site <;> rw [same]
    rfl
  | _ => rfl

theorem alike_reply (c : Sweep.Call) (site : Site) : Alike site (reply c site).2 := by
  have same : Alike site site := (Develops.refl site).toAlike
  have written : ∀ how cluster m, Alike site (site.writing how cluster m).2 := by
    intro how cluster m
    unfold writing
    obtain ⟨-, call, same⟩ | ⟨-, call, error, same⟩ :=
      site.surroundings.guests.write_cases how cluster m <;> rw [same] <;> constructor <;> rfl
  cases c with
  | createConfigMap k m => exact written .create k.cluster m
  | replaceConfigMap k m => exact written .replace k.cluster m
  | install k chart =>
    have whole : (reply (.install k chart) site).2 = { site with surroundings :=
        { site.surroundings with
          installer := (site.surroundings.installer.install k.cluster chart).2 } } := rfl
    rw [whole]
    obtain ⟨-, installs, same⟩ | ⟨-, installs, error, same⟩ :=
      site.surroundings.installer.install_cases k.cluster chart <;> rw [same] <;> constructor <;> rfl
  | providerName cluster => rwa [reply_providerName]
  | releaseExists k ns release => rwa [reply_releaseExists]
  | getConfigMap k ns name =>
    obtain unchanged | ⟨call, unchanged⟩ := reply_getConfigMap_cases (k := k) ns name site <;>
      rw [unchanged]
    · exact same
    · constructor <;> rfl
  | _ => constructor <;> rfl

theorem develops_reply (c : Sweep.Call) (site : Site) : Develops site (reply c site).2 := by
  have written : ∀ how cluster m place, (site.configMap? place).isSome →
      ((site.writing how cluster m).2.configMap? place).isSome := by
    intro how cluster m place there
    obtain ⟨-, -, after⟩ | ⟨-, -, after⟩ := site.writing_cases how cluster m <;> rw [after]
    · rw [Function.update_apply]
      split
      · rfl
      · exact there
    · exact there
  refine ⟨alike_reply c site, fun place there => ?_, fun release there => ?_⟩
  · cases c with
    | createConfigMap k m => exact written .create k.cluster m place there
    | replaceConfigMap k m => exact written .replace k.cluster m place there
    | _ => rwa [configMap?_reply rfl]
  · cases c with
    | install k chart =>
      obtain ⟨-, -, after⟩ | ⟨-, -, after⟩ := site.install_cases (k := k) chart <;> rw [after]
      · simp [there]
      · exact there
    | _ => rwa [hasRelease_reply rfl]

/-- In the course of a sweep a site develops. -/
theorem Develops.of_answered {talk : List Sweep.Exchange} (h : Answered reply site talk later) :
    Develops site later :=
  h.keeps Develops.refl Develops.trans develops_reply

theorem configMap?_of_answered {talk : List Sweep.Exchange} (h : Answered reply site talk later)
    (keeps : ∀ x ∈ talk, x.1.isWrite = false) (place : MapPlace) :
    later.configMap? place = site.configMap? place := by
  induction h with
  | nil => rfl
  | cons _ ih =>
    rw [ih fun x member => keeps x (List.mem_cons_of_mem _ member),
      configMap?_reply (keeps _ List.mem_cons_self)]

theorem hasRelease_of_answered {talk : List Sweep.Exchange} (h : Answered reply site talk later)
    (keeps : ∀ x ∈ talk, x.1.isInstall = false) (release : Release) :
    later.hasRelease release = site.hasRelease release := by
  induction h with
  | nil => rfl
  | cons _ ih =>
    rw [ih fun x member => keeps x (List.mem_cons_of_mem _ member),
      hasRelease_reply (keeps _ List.mem_cons_self)]

end Site

namespace Sample

/-- A floating address of the namespace `web`. -/
def floating (name cluster : String) (address : Ipv4) : FloatingRecord :=
  { key := ⟨"web", name⟩, address := some address, cluster, range := "blue", forceRefresh := true }

/-- Two addresses of one guest cluster and one of another. -/
def store : Store :=
  [floating "one" "guest" (.ofOctets 10 0 0 1), floating "two" "guest" (.ofOctets 10 0 0 2),
    floating "three" "fresh" (.ofOctets 10 0 0 3)].foldl Store.putFloating .empty

/-- Charts are installed everywhere. -/
def options : Options := { Options.defaults with installPolicy := .enabled }

/-- The load balancer cannot be installed in the first guest cluster, and the other one is still
being set up. -/
def site : Site where
  operator := { options, inventory := { store } }
  surroundings := {
    registry := (Registry.put {} { name := "guest", ns := some "web" }).put
      { name := "fresh", ns := some "web" }
    guests := { probes := Std.ExtTreeMap.ofList [("fresh", Probe.provisioning)] }
    installer := Installer.fail {} "guest" "kube-vip" }

end Sample

end InMemory

end FloatingAddress
