import FloatingAddress.Api.Exchange
import FloatingAddress.Failure
import FloatingAddress.Kubeconfig
import FloatingAddress.Manifest.ConfigMap
import FloatingAddress.Manifest.GuestCluster
import FloatingAddress.Text.Utf8

/-!
# The management cluster

It knows all guest clusters. From a cluster object one gets to the provider in two ways: the
secret with the credentials leads to the provider cluster and its name, and the configuration of
the machines names the provider network. The access document of a guest cluster lies in a secret
that is named for the cluster.
-/

namespace FloatingAddress.Management

open Api (Exchange Resource)

/-- Access to the management cluster, which may fail. -/
abbrev Access := ExceptT GuestError Exchange

/-- A fetch as an access to the management cluster. -/
def fetch (f : Api.Fetch α) : Access α := ExceptT.adapt GuestError.api f

/-- The namespace of cluster objects, machine configurations and access documents. -/
def fleetNs : String := "fleet-default"

/-- The namespace of the credentials for providers. -/
def credentialNs : String := "cattle-global-data"

/-- The key under which credentials name the provider cluster. -/
def providerKey : String := "harvestercredentialConfig-clusterId"

/-- The key under which an access document lies. -/
def kubeconfigKey : String := "value"

def clusters : String :=
  Resource.pathIn { group := some "provisioning.cattle.io", version := "v1", plural := "clusters" }
    fleetNs

def providers : String :=
  Resource.path { group := some "management.cattle.io", version := "v3", plural := "clusters" }

def machineConfigs : String :=
  Resource.pathIn
    { group := some "rke-machine-config.cattle.io", version := "v1", plural := "harvesterconfigs" }
    fleetNs

/-- An object of any kind, as it is. -/
def anyObject? (json : Json) : Option Json := (GuestCluster.metadataOf? json).map fun _ => json

def cluster? (name : String) : Access (Option GuestCluster) :=
  fetch (Api.get? clusters name GuestCluster.ofJson?)

/-- The guest cluster that owns a namespace, the first one in the list. -/
def ownerOf? (ns : String) : Access (Option GuestCluster) :=
  (·.find? (·.owns ns)) <$> fetch (Api.list clusters GuestCluster.ofJson?)

/-- The text under a key of a secret. -/
def secretText (ns name key : String) : Access String := do
  match ← fetch (Api.get? (Resource.secrets.pathIn ns) name Manifest.Secret.ofJson?) with
  | none => throw (.notFound s!"secret {ns}/{name}")
  | some secret =>
    match secret.data.lookup key with
    | none => throw (.missingData s!"key {key} in secret {ns}/{name}")
    | some bytes =>
      match Text.Utf8.decode bytes with
      | .ok s => return s
      | .error fault =>
        throw (.missingData s!"key {key} in secret {ns}/{name} is not UTF-8: {fault.message}")

/-- The name of the provider cluster on which a guest cluster runs. -/
def providerName (cluster : GuestCluster) : Access (Option String) := do
  match cluster.credential with
  | none => return none
  | some credential =>
    let id ← secretText credentialNs credential providerKey
    match ← fetch (Api.get? providers id anyObject?) with
    | none => throw (.notFound s!"management cluster {id}")
    | some provider => return GuestCluster.nonEmptyAt? provider ["spec", "displayName"]

/-- The network that the configuration of a machine names, without the namespace before it. -/
def networkOf? (config : Json) : Option String :=
  (((config.get? "networkName").bind Json.str?).bind (Text.after? '/')).filter (· ≠ "")

/-- The name of the provider network to which a guest cluster is attached. -/
def networkName (cluster : GuestCluster) : Access (Option String) := do
  match cluster.machineConfig with
  | none => return none
  | some config => return (← fetch (Api.get? machineConfigs config anyObject?)).bind networkOf?

def kubeconfig (cluster : String) : Access Kubeconfig := do
  let yaml ← secretText fleetNs s!"{cluster}-kubeconfig" kubeconfigKey
  return { cluster, yaml }

end FloatingAddress.Management
