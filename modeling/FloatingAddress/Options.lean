import FloatingAddress.Chart.Request
import FloatingAddress.Clock
import FloatingAddress.InstallPolicy
import FloatingAddress.Manifest.ConfigMap
import FloatingAddress.Notice
import FloatingAddress.Text.Decimal
import FloatingAddress.Yaml.Node

/-!
# Options of the operator

Options are kept as texts in a config map and may change at any time. Every option has a default,
and a value that is blank or cannot be read is as good as none. Each field of the options is a
function of the values of its own keys, so one bad value never spoils another option.
-/

namespace FloatingAddress

/-- What the operator can be told. -/
structure Options where
  logLevel : String
  /-- Whether records and ranges are written to the log after every sweep. -/
  traceInventory : Bool
  /-- How long it takes from one sweep to the next. -/
  sweepInterval : Duration
  metricsPort : Nat
  installPolicy : InstallPolicy
  chartRepoUrl : String
  /-- The load balancer; its namespace also receives the config map with the address. -/
  loadBalancer : Chart.Component
  /-- The component that hands addresses to services. -/
  cloudProvider : Chart.Component
  /-- Whether releases that are there already are upgraded. -/
  updateInPlace : Bool
deriving DecidableEq

namespace Options

/-- The names under which options are kept. -/
inductive Key
  | logLevel | traceInventory | sweepInterval | metricsPort | installPolicy
  | loadBalancerNs | loadBalancerRelease | chartRepoUrl | loadBalancerChart
  | loadBalancerVersion | loadBalancerValues | cloudProviderNs | cloudProviderRelease
  | cloudProviderChart | cloudProviderVersion | cloudProviderValues | updateInPlace
deriving DecidableEq, Repr

namespace Key

def name : Key → String
  | logLevel => "logLevel"
  | traceInventory => "traceIpamData"
  | sweepInterval => "operateGuestClusterInterval"
  | metricsPort => "metricsPort"
  | installPolicy => "kubevipGuestInstall"
  | loadBalancerNs => "kubevipNamespace"
  | loadBalancerRelease => "kubevipReleaseName"
  | chartRepoUrl => "kubevipChartRepoUrl"
  | loadBalancerChart => "kubevipChartRef"
  | loadBalancerVersion => "kubevipChartVersion"
  | loadBalancerValues => "kubevipChartValues"
  | cloudProviderNs => "kubevipCloudProviderNamespace"
  | cloudProviderRelease => "kubevipCloudProviderReleaseName"
  | cloudProviderChart => "kubevipCloudProviderChartRef"
  | cloudProviderVersion => "kubevipCloudProviderChartVersion"
  | cloudProviderValues => "kubevipCloudProviderChartValues"
  | updateInPlace => "kubevipUpdate"

def all : List Key :=
  [logLevel, traceInventory, sweepInterval, metricsPort, installPolicy, loadBalancerNs,
   loadBalancerRelease, chartRepoUrl, loadBalancerChart, loadBalancerVersion, loadBalancerValues,
   cloudProviderNs, cloudProviderRelease, cloudProviderChart, cloudProviderVersion,
   cloudProviderValues, updateInPlace]

/-- The keys whose values need more than to be there, in the order in which bad values are
reported. -/
def checked : List Key :=
  [traceInventory, sweepInterval, metricsPort, installPolicy, updateInPlace, loadBalancerValues,
   cloudProviderValues]

end Key

/-- The repository of the charts has this local name. -/
def chartRepoName : String := "kube-vip"

/-- The options without any setting. -/
def defaults : Options where
  logLevel := "Info"
  traceInventory := false
  sweepInterval := .ofSeconds 480
  metricsPort := 8080
  installPolicy := .labelGated
  chartRepoUrl := "https://kube-vip.io/helm-charts"
  loadBalancer := {
    ns := "kube-system"
    release := "kube-vip"
    chart := chartRepoName ++ "/kube-vip"
    values := "\x7b\"image\":\x7b\"repository\":\"plndr/kube-vip\",\"tag\":\"v0.6.4\"\x7d," ++
      "\"config\":\x7b\"vip_interface\":\"enp1s0\"\x7d," ++
      "\"nodeSelector\":\x7b\"node-role.kubernetes.io/master\":\"true\"\x7d\x7d" }
  cloudProvider := {
    ns := "kube-system"
    release := "kube-vip-cloud-provider"
    chart := chartRepoName ++ "/kube-vip-cloud-provider"
    values := "\x7b\"image\":\x7b\"repository\":\"kubevip/kube-vip-cloud-provider\"," ++
      "\"tag\":\"v0.0.7\"\x7d\x7d" }
  updateInPlace := false

/-- The value of a key without the blanks around it; a blank value is none. -/
def value? (data : TextMap) (key : Key) : Option String := data[key.name]?.bind Text.nonBlank

/-- A sweep interval: a number of seconds, at least one, that fits into 64 bits. -/
def interval? (s : String) : Option Duration :=
  ((Text.natBelow? UInt64.size s).filter (0 < ·)).map .ofSeconds

/-- A port: a number of 16 bits. -/
def port? (s : String) : Option Nat := Text.natBelow? UInt16.size s

/-- The values of a chart: one well-formed document, kept as it is written. -/
def document? (s : String) : Option String := (Yaml.document? s).map fun _ => s

/-- Whether the value of a key can be read. -/
def accepts (key : Key) (s : String) : Bool :=
  match key with
  | .traceInventory | .updateInPlace => (Text.truth? s).isSome
  | .sweepInterval => (interval? s).isSome
  | .metricsPort => (port? s).isSome
  | .installPolicy => (InstallPolicy.ofText? s).isSome
  | .loadBalancerValues | .cloudProviderValues => (document? s).isSome
  | _ => true

/-- The options that the entries of a config map give. -/
def ofData (data : TextMap) : Options where
  logLevel := (value? data .logLevel).getD defaults.logLevel
  traceInventory := ((value? data .traceInventory).bind Text.truth?).getD defaults.traceInventory
  sweepInterval := ((value? data .sweepInterval).bind interval?).getD defaults.sweepInterval
  metricsPort := ((value? data .metricsPort).bind port?).getD defaults.metricsPort
  installPolicy :=
    ((value? data .installPolicy).bind InstallPolicy.ofText?).getD defaults.installPolicy
  chartRepoUrl := (value? data .chartRepoUrl).getD defaults.chartRepoUrl
  loadBalancer := {
    ns := (value? data .loadBalancerNs).getD defaults.loadBalancer.ns
    release := (value? data .loadBalancerRelease).getD defaults.loadBalancer.release
    chart := (value? data .loadBalancerChart).getD defaults.loadBalancer.chart
    version := value? data .loadBalancerVersion
    values := ((value? data .loadBalancerValues).bind document?).getD defaults.loadBalancer.values }
  cloudProvider := {
    ns := (value? data .cloudProviderNs).getD
      ((value? data .loadBalancerNs).getD defaults.loadBalancer.ns)
    release := (value? data .cloudProviderRelease).getD defaults.cloudProvider.release
    chart := (value? data .cloudProviderChart).getD defaults.cloudProvider.chart
    version := value? data .cloudProviderVersion
    values :=
      ((value? data .cloudProviderValues).bind document?).getD defaults.cloudProvider.values }
  updateInPlace := ((value? data .updateInPlace).bind Text.truth?).getD defaults.updateInPlace

/-- What there is to report about the entries of a config map: values that cannot be read, and
keys that mean nothing. -/
def complaints (data : TextMap) : List Notice :=
  let bad := Key.checked.filterMap fun key =>
    ((value? data key).filter fun s => !accepts key s).map (.badOption key.name)
  let unknown := data.keys.filter fun name => name ∉ Key.all.map Key.name
  bad ++ unknown.map .unknownOption

def ofConfigMap (m : Manifest.ConfigMap) : Options :=
  match m.data with
  | none => defaults
  | some data => ofData data

def complaintsOf (m : Manifest.ConfigMap) : List Notice :=
  match m.data with
  | none => []
  | some data => complaints data

def chartRequest (options : Options) (component : Chart.Component) : Chart.Request where
  release := component.release
  chart := component.chart
  ns := component.ns
  repoName := chartRepoName
  repoUrl := options.chartRepoUrl
  version := component.version
  values := component.values

/-- The level from which on messages are shown. -/
def logFilter (options : Options) : LogFilter := .atLeast (.ofOption options.logLevel)

end Options

end FloatingAddress
