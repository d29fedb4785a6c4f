import FloatingAddress.Inventory
import FloatingAddress.InstallPolicy

/-!
# What the operator reports in its log

Every event that an administrator should see is a notice. A notice keeps the values it is about;
its level and its text are functions of it, so the operations that issue notices do not deal with
wording.
-/

namespace FloatingAddress

/-- The kinds of objects that are watched. -/
inductive WatchKind
  | range | floating | namespaces | options
deriving DecidableEq, Repr

def WatchKind.name : WatchKind → String
  | range => "FloatingIPRange"
  | floating => "FloatingIP"
  | namespaces => "Namespace"
  | options => "ConfigMap"

/-- An event worth a log line. -/
inductive Notice
  /-- An address could not be reserved again for its record. -/
  | untracked (key : RecordKey) (address : Ipv4) (error : AllocationError)
  /-- An object of the startup list was not accepted. -/
  | notLoaded (kind : WatchKind) (object : String) (error : OperatorError)
  /-- A range went away while floating addresses name it. -/
  | rangeOrphans (range : String) (count : Nat)
  /-- The previous state of a changed object could not be removed. -/
  | notReplaced (kind : WatchKind) (object : String) (error : OperatorError)
  /-- A changed object was not accepted. -/
  | notApplied (kind : WatchKind) (object : String) (error : OperatorError)
  /-- A deleted object could not be released. -/
  | notDeleted (kind : WatchKind) (object : String) (error : OperatorError)
  /-- The connection of a watch broke or an object on it could not be read. -/
  | watchError (kind : WatchKind)
  /-- The label that asks for the charts has an unreadable value. -/
  | unreadableLabel (value : String)
  | lookupFailed (cluster : String) (error : GuestError)
  | kubeconfigFailed (cluster : String) (error : GuestError)
  | unreachable (cluster : String) (error : GuestError)
  | notInstalled (release cluster : String) (error : GuestError)
  | configMapFailed (cluster : String) (error : GuestError)
  /-- A floating address has no address that could be published. -/
  | addressMissing (key : RecordKey)
  /-- A new guest cluster does not run on a known provider. -/
  | noProvider (cluster : String)
  /-- No range belongs to the provider of a new guest cluster. -/
  | noRange (provider : String) (network : Option String) (cluster : String)
  | discoveryFailed (ns : String) (error : OperatorError)
  /-- An option value cannot be read. -/
  | badOption (key value : String)
  | unknownOption (key : String)
  | optionsDeleted (ns name : String)
  | optionsMissing (ns name : String)
  | portChanged (before after : Nat)
  | levelSet (level : LogLevel)
  /-- A floating address, shown after a sweep on request. -/
  | floatingTrace (record : FloatingRecord)
  /-- A range, shown after a sweep on request. -/
  | rangeTrace (record : RangeRecord) (capacity : Nat) (held : List Ipv4)

namespace Notice

def level : Notice → LogLevel
  | notLoaded .. | notReplaced .. | unreadableLabel .. | badOption .. => .error
  | levelSet .. | floatingTrace .. | rangeTrace .. => .info
  | _ => .warn

def text : Notice → String
  | untracked key address error => s!"FloatingIP {key} keeps {address} untracked: {error.message}"
  | notLoaded kind object error => s!"Failed to load {kind.name} {object}: {error.message}"
  | rangeOrphans range count =>
    s!"FloatingIPRange {range} removed while {count} FloatingIPs still reference it"
  | notReplaced .range object error =>
    s!"Failed to remove previous FloatingIPRange {object}: {error.message}"
  | notReplaced kind object error =>
    s!"Failed to release previous {kind.name} {object}: {error.message}"
  | notApplied kind object error => s!"Failed to apply {kind.name} {object}: {error.message}"
  | notDeleted kind object error => s!"Failed to delete {kind.name} {object}: {error.message}"
  | watchError kind => s!"{kind.name} watch error"
  | unreadableLabel value =>
    s!"Cannot parse cluster label {InstallPolicy.label}={Text.quote value} as a boolean"
  | lookupFailed cluster error => s!"Cannot look up guest cluster {cluster}: {error.message}"
  | kubeconfigFailed cluster error =>
    s!"Cannot fetch kubeconfig of guest cluster {cluster}: {error.message}"
  | unreachable cluster error => s!"Guest cluster {cluster} unreachable: {error.message}"
  | notInstalled release cluster error =>
    s!"Failed to install {release} into guest cluster {cluster}: {error.message}"
  | configMapFailed cluster error =>
    s!"Failed to reconcile the kubevip ConfigMap of guest cluster {cluster}: {error.message}"
  | addressMissing key => s!"FloatingIP {key} has no address yet, skipping the kubevip ConfigMap"
  | noProvider cluster =>
    s!"Guest cluster {cluster} has no provider cluster, no FloatingIP created"
  | noRange provider network cluster =>
    s!"No FloatingIPRange for provider {provider} (network {Text.showOption Text.quote network}), " ++
      s!"guest cluster {cluster} gets no FloatingIP"
  | discoveryFailed ns error =>
    s!"FloatingIP discovery for namespace {ns} failed: {error.message}"
  | badOption key value =>
    s!"Cannot parse config option {key}={Text.quote value}, keeping the default"
  | unknownOption key => s!"Ignoring unknown config option {key}"
  | optionsDeleted ns name => s!"ConfigMap {ns}/{name} deleted, restoring defaults"
  | optionsMissing ns name => s!"ConfigMap {ns}/{name} not found, using defaults"
  | portChanged before after =>
    s!"Metrics port changed from {before} to {after}, takes effect after restart"
  | levelSet level => s!"Log level set to {level.name}"
  | floatingTrace record =>
    s!"IPAM FloatingIP {record.key}: cluster={record.cluster} range={record.range} " ++
      s!"address={Text.showOption Ipv4.text record.address} refresh={record.forceRefresh}"
  | rangeTrace record capacity held =>
    s!"IPAM FloatingIPRange {record.name}: {record.span} " ++
      s!"provider={Text.showOption Text.quote record.provider} " ++
      s!"network={Text.showOption Text.quote record.network} " ++
      s!"capacity={capacity} held={held.length} {Text.showList Ipv4.text held}"

def line (notice : Notice) : String := s!"{notice.level.label} {notice.text}"

end Notice

/-- What the registration of a range reports: the addresses that it could not reserve again. -/
def Inventory.Registration.notices (r : Inventory.Registration) : List Notice :=
  r.untracked.map fun u => .untracked u.key u.address u.error

end FloatingAddress
