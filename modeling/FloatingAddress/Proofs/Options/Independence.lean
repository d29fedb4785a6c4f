import FloatingAddress.Options
import FloatingAddress.Proofs.Text.Numeral
import Mathlib.Data.List.Nodup

/-!
# Options do not get in the way of each other

Each field of the options has a key of its own, and is what the entry under this key says, or else
what is assumed without it. What is assumed depends on the entries in one place only: the component
that hands addresses to services is installed next to the load balancer unless it is told otherwise.
So an entry that cannot be used is as good as none, and an entry reaches no fields but those that it
governs.
-/

namespace FloatingAddress.Options

variable {data other : TextMap} {key field : Key} {name text : String}

/-- What an option is about. -/
def Key.Value : Key → Type
  | .traceInventory | .updateInPlace => Bool
  | .sweepInterval => Duration
  | .metricsPort => Nat
  | .installPolicy => InstallPolicy
  | .loadBalancerVersion | .cloudProviderVersion => Option String
  | _ => String

/-- The field of the options that belongs to a key. -/
def get (options : Options) : (key : Key) → key.Value
  | .logLevel => options.logLevel
  | .traceInventory => options.traceInventory
  | .sweepInterval => options.sweepInterval
  | .metricsPort => options.metricsPort
  | .installPolicy => options.installPolicy
  | .loadBalancerNs => options.loadBalancer.ns
  | .loadBalancerRelease => options.loadBalancer.release
  | .chartRepoUrl => options.chartRepoUrl
  | .loadBalancerChart => options.loadBalancer.chart
  | .loadBalancerVersion => options.loadBalancer.version
  | .loadBalancerValues => options.loadBalancer.values
  | .cloudProviderNs => options.cloudProvider.ns
  | .cloudProviderRelease => options.cloudProvider.release
  | .cloudProviderChart => options.cloudProvider.chart
  | .cloudProviderVersion => options.cloudProvider.version
  | .cloudProviderValues => options.cloudProvider.values
  | .updateInPlace => options.updateInPlace

/-- The keys reach every field: options with the same fields are the same. -/
theorem ext_get {one two : Options} (same : ∀ key, one.get key = two.get key) : one = two := by
  obtain ⟨_, _, _, _, _, _, ⟨_, _, _, _, _⟩, ⟨_, _, _, _, _⟩, _⟩ := one
  obtain ⟨_, _, _, _, _, _, ⟨_, _, _, _, _⟩, ⟨_, _, _, _, _⟩, _⟩ := two
  cases same .logLevel
  cases same .traceInventory
  cases same .sweepInterval
  cases same .metricsPort
  cases same .installPolicy
  cases same .loadBalancerNs
  cases same .loadBalancerRelease
  cases same .chartRepoUrl
  cases same .loadBalancerChart
  cases same .loadBalancerVersion
  cases same .loadBalancerValues
  cases same .cloudProviderNs
  cases same .cloudProviderRelease
  cases same .cloudProviderChart
  cases same .cloudProviderVersion
  cases same .cloudProviderValues
  cases same .updateInPlace
  rfl

/-- What the value of a key says, if it can be read. -/
def Key.read? : (key : Key) → String → Option key.Value
  | .traceInventory => Text.truth?
  | .updateInPlace => Text.truth?
  | .sweepInterval => interval?
  | .metricsPort => port?
  | .installPolicy => InstallPolicy.ofText?
  | .loadBalancerValues => document?
  | .cloudProviderValues => document?
  | .loadBalancerVersion => fun text => some (some text)
  | .cloudProviderVersion => fun text => some (some text)
  | .logLevel | .loadBalancerNs | .loadBalancerRelease | .chartRepoUrl | .loadBalancerChart
  | .cloudProviderNs | .cloudProviderRelease | .cloudProviderChart => some

theorem accepts_eq (key : Key) (text : String) : accepts key text = (key.read? text).isSome := by
  cases key <;> rfl

theorem Key.mem_all (key : Key) : key ∈ all := by cases key <;> decide

theorem Key.names_nodup : (all.map Key.name).Nodup := by simp [all, Key.name]

theorem Key.name_injective : Function.Injective Key.name := fun one two same =>
  List.inj_on_of_nodup_map names_nodup (mem_all one) (mem_all two) same

/-- What the entry under a key says, if there is one that can be used. -/
def setting? (data : TextMap) (key : Key) : Option key.Value := (value? data key).bind key.read?

/-- What is assumed without a usable entry under a key. -/
def assumed (data : TextMap) : (key : Key) → key.Value
  | .cloudProviderNs => (setting? data .loadBalancerNs).getD defaults.loadBalancer.ns
  | key => defaults.get key

/-- Every field is what its own entry says, or else what is assumed. -/
theorem get_ofData (data : TextMap) (key : Key) :
    (ofData data).get key = (setting? data key).getD (assumed data key) := by
  have text (key : Key) (fallback : String) :
      (value? data key).getD fallback = ((value? data key).bind some).getD fallback := by
    rw [Option.bind_fun_some]
  have version (key : Key) :
      value? data key = ((value? data key).bind fun s => some (some s)).getD none := by
    cases value? data key <;> rfl
  cases key with
  | traceInventory | sweepInterval | metricsPort | installPolicy | loadBalancerValues
  | cloudProviderValues | updateInPlace => rfl
  | loadBalancerVersion => exact version .loadBalancerVersion
  | cloudProviderVersion => exact version .cloudProviderVersion
  | cloudProviderNs =>
    refine (text .cloudProviderNs _).trans (congrArg (Option.getD _) ?_)
    exact text .loadBalancerNs _
  | logLevel | loadBalancerNs | loadBalancerRelease | chartRepoUrl | loadBalancerChart
  | cloudProviderRelease | cloudProviderChart => exact text _ _

/-- Entries that say the same give the same options. -/
theorem ofData_congr (same : ∀ key, setting? data key = setting? other key) :
    ofData data = ofData other := by
  refine ext_get fun key => ?_
  have fallback : assumed data key = assumed other key := by
    cases key
    case cloudProviderNs => exact congrArg (Option.getD · _) (same .loadBalancerNs)
    all_goals rfl
  rw [get_ofData, get_ofData, same, fallback]

theorem value?_of_eq (same : data[key.name]? = other[key.name]?) :
    value? data key = value? other key := by
  rw [value?, value?, same]

theorem setting?_of_eq (same : data[key.name]? = other[key.name]?) :
    setting? data key = setting? other key := by
  rw [setting?, setting?, value?_of_eq same]

/-- A value of blanks only. -/
def IsBlank (text : String) : Prop := ∀ c ∈ text.toList, Text.isBlank c

/-- An entry that cannot be used: its value is blank or cannot be read, or no option has its
name. -/
inductive Worthless (data : TextMap) : String → Prop
  | blank {name text : String} (entry : data[name]? = some text) (blanks : IsBlank text) :
    Worthless data name
  | unreadable {key : Key} {text : String} (entry : data[key.name]? = some text)
    (bad : accepts key (Text.trim text) = false) : Worthless data key.name
  | unknown {name : String} (other : name ∉ Key.all.map Key.name) : Worthless data name

theorem value?_eq_none_iff :
    value? data key = none ↔ ∀ text, data[key.name]? = some text → IsBlank text := by
  rw [value?, Option.bind_eq_none_iff]
  exact forall₂_congr fun text _ => Text.nonBlank_eq_none_iff text

theorem setting?_of_worthless (worthless : Worthless data key.name) : setting? data key = none := by
  generalize known : key.name = name at worthless
  cases worthless with
  | blank entry blanks =>
    have absent : value? data key = none := by
      rw [value?, known, entry, Option.bind_some, Text.nonBlank_eq_none_iff]
      exact blanks
    rw [setting?, absent, Option.bind_none]
  | @unreadable key' text entry bad =>
    obtain rfl := Key.name_injective known
    rw [accepts_eq, Option.isSome_eq_false_iff, Option.isNone_iff_eq_none] at bad
    rw [setting?, value?, entry, Option.bind_some, Text.nonBlank]
    split
    · rfl
    · exact bad
  | unknown other => exact absurd (List.mem_map.mpr ⟨key, key.mem_all, known⟩) other

theorem setting?_erase (worthless : Worthless data name) :
    setting? data key = setting? (data.erase name) key := by
  by_cases hit : key.name = name
  · subst hit
    rw [setting?_of_worthless worthless, setting?, value?, Std.ExtTreeMap.getElem?_erase_self]
    rfl
  · refine setting?_of_eq ?_
    rw [Std.ExtTreeMap.getElem?_erase, if_neg (by simpa using Ne.symm hit)]

/-- The fields that an entry governs: the one of its key, and the namespace of the component that
hands addresses to services as well as that of the load balancer, as long as the former has no value
of its own. -/
inductive Governs (data : TextMap) : Key → Key → Prop
  | own (key : Key) : Governs data key key
  | beside (free : ∀ text, data[Key.cloudProviderNs.name]? = some text → IsBlank text) :
    Governs data .loadBalancerNs .cloudProviderNs

theorem get_ofData_of_free (same : ∀ name, name ≠ key.name → data[name]? = other[name]?)
    (free : ¬Governs data key field) : (ofData data).get field = (ofData other).get field := by
  have apart : ∀ {key' : Key}, key' ≠ key → setting? data key' = setting? other key' :=
    fun different => setting?_of_eq (same _ fun hit => different (Key.name_injective hit))
  have different : field ≠ key := by
    rintro rfl
    exact free (.own _)
  rw [get_ofData, get_ofData, ← apart different]
  cases known : setting? data field with
  | some value => rfl
  | none =>
    -- without an entry of its own the field is what is assumed, and this depends on one key
    cases field
    case cloudProviderNs =>
      refine congrArg (Option.getD · _) (apart ?_)
      rintro rfl
      refine free (.beside (value?_eq_none_iff.mp ?_))
      exact (Option.bind_fun_some _).symm.trans known
    all_goals rfl

theorem interval?_eq_some {text : String} {period : Duration} (h : interval? text = some period) :
    ∃ n, 1 ≤ n ∧ n < UInt64.size ∧ period = .ofSeconds n := by
  obtain ⟨n, read, rfl⟩ := Option.map_eq_some_iff.mp h
  obtain ⟨number, positive⟩ := Option.filter_eq_some_iff.mp read
  exact ⟨n, of_decide_eq_true positive, Text.lt_of_natBelow? number, rfl⟩

/-- A sweep interval is a number of whole seconds, at least one, that fits into 64 bits. -/
theorem exists_seconds_sweepInterval (data : TextMap) :
    ∃ n, 1 ≤ n ∧ n < UInt64.size ∧ (ofData data).sweepInterval = .ofSeconds n := by
  show ∃ n, 1 ≤ n ∧ n < UInt64.size ∧
    ((value? data .sweepInterval).bind interval?).getD defaults.sweepInterval = .ofSeconds n
  cases known : (value? data .sweepInterval).bind interval? with
  | none => exact ⟨480, by decide, by decide, rfl⟩
  | some period =>
    obtain ⟨text, -, read⟩ := Option.bind_eq_some_iff.mp known
    exact interval?_eq_some read

/-- The component that hands addresses to services goes where the load balancer goes, unless it has
a namespace of its own. -/
theorem cloudProvider_ns_of_free
    (free : ∀ text, data[Key.cloudProviderNs.name]? = some text → IsBlank text) :
    (ofData data).cloudProvider.ns = (ofData data).loadBalancer.ns := by
  show (value? data .cloudProviderNs).getD _ = _
  rw [value?_eq_none_iff.mpr free]
  rfl

/-- An entry that cannot be used may as well be missing. Two maps that differ in one entry give
options that differ at most in the fields that this entry governs; where one entry governs two
fields, they are the same. A sweep interval is at least one second. -/
theorem options_independent (data : TextMap) :
    (∀ name, Worthless data name → ofData data = ofData (data.erase name)) ∧
    (∀ key other, (∀ name, name ≠ key.name → data[name]? = other[name]?) →
      ∀ field, ¬Governs data key field → (ofData data).get field = (ofData other).get field) ∧
    (Governs data .loadBalancerNs .cloudProviderNs →
      (ofData data).cloudProvider.ns = (ofData data).loadBalancer.ns) ∧
    Duration.perSecond ≤ (ofData data).sweepInterval.nanos := by
  refine ⟨fun name worthless => ofData_congr fun key => setting?_erase worthless,
    fun key other same field free => get_ofData_of_free same free, ?_, ?_⟩
  · intro governed
    cases governed with
    | beside free => exact cloudProvider_ns_of_free free
  · obtain ⟨n, positive, -, known⟩ := exists_seconds_sweepInterval data
    rw [known]
    exact Nat.le_mul_of_pos_left _ positive

/-- A port that is too large, next to a namespace. -/
def mistyped : TextMap :=
  (Std.ExtTreeMap.empty.insert "metricsPort" "99999").insert "kubevipNamespace" "vip-system"

/-- The bad port is as good as none, and the namespace does not reach the level of the log. -/
theorem options_independent_mistyped :
    Worthless mistyped "metricsPort" ∧ ofData mistyped = ofData (mistyped.erase "metricsPort") ∧
      (ofData mistyped).logLevel = (ofData (mistyped.erase "kubevipNamespace")).logLevel ∧
      (ofData mistyped).cloudProvider.ns = (ofData mistyped).loadBalancer.ns := by
  have entry : mistyped["metricsPort"]? = some "99999" := by
    simp only [mistyped, Std.ExtTreeMap.getElem?_insert]
    decide
  have worthless : Worthless mistyped "metricsPort" :=
    @Worthless.unreadable _ .metricsPort _ entry (by decide)
  have absent : mistyped["kubevipCloudProviderNamespace"]? = none := by
    simp only [mistyped, Std.ExtTreeMap.getElem?_insert]
    decide
  have beside : Governs mistyped .loadBalancerNs .cloudProviderNs :=
    .beside fun text there => by cases absent.symm.trans there
  refine ⟨worthless, (options_independent mistyped).1 _ worthless, ?_,
    (options_independent mistyped).2.2.1 beside⟩
  refine (options_independent mistyped).2.1 .loadBalancerNs _ (fun name away => ?_) .logLevel nofun
  rw [Std.ExtTreeMap.getElem?_erase, if_neg (by simpa [Key.name] using Ne.symm away)]

end FloatingAddress.Options
