import FloatingAddress.Api.Exchange
import FloatingAddress.Failure
import FloatingAddress.Kubeconfig.Access
import FloatingAddress.Manifest.ConfigMap

/-!
# Guest clusters

A guest cluster is reached with its access document. A connection is opened for every call, and
without a usable document there is none. While a guest cluster is being set up it forbids all
requests, and this is told apart from other failures.
-/

namespace FloatingAddress.Guest

open Api (Exchange Resource)

/-- Access to a guest cluster, which may fail. -/
abbrev Access := ExceptT GuestError Exchange

/-- A fetch as an access to a guest cluster. -/
def fetch (f : Api.Fetch α) : Access α := ExceptT.adapt GuestError.api f

/-- Do something with the server to which an access document leads. -/
def connected (k : Kubeconfig) (access : Access α) : Access α :=
  match Kubeconfig.server? k.yaml with
  | none => throw .kubeconfig
  | some uri => ExceptT.mk (Api.redirect uri.origin uri.stem access.run)

/-- The namespace in which a probe looks. -/
def probeNs : String := "kube-system"

/-- The failure of a probe. A cluster that forbids the request is being set up. -/
def probeFailure (cluster : String) : ApiError → GuestError
  | .refused 403 _ _ => .provisioning cluster
  | error => .api error

def probe (k : Kubeconfig) : Access Unit :=
  connected k (ExceptT.adapt (probeFailure k.cluster)
    (discard (Api.listOne (Resource.pods.pathIn probeNs) Manifest.pod?)))

def configMap? (k : Kubeconfig) (ns name : String) : Access (Option Manifest.ConfigMap) :=
  connected k (fetch (Api.get? (Resource.configMaps.pathIn ns) name Manifest.ConfigMap.ofJson?))

def nsOf (m : Manifest.ConfigMap) : Except GuestError String :=
  match m.metadata.ns with
  | none => .error (.missingData "config map without namespace")
  | some ns => .ok ns

def nameOf (m : Manifest.ConfigMap) : Except GuestError String :=
  match m.metadata.name with
  | none => .error (.missingData "config map without name")
  | some name => .ok name

def createConfigMap (k : Kubeconfig) (m : Manifest.ConfigMap) : Access Unit :=
  connected k do
    let ns ← ExceptT.mk (pure (nsOf m))
    fetch (Api.create (Resource.configMaps.pathIn ns) m.toJson Manifest.ConfigMap.ofJson?)

def replaceConfigMap (k : Kubeconfig) (m : Manifest.ConfigMap) : Access Unit :=
  connected k do
    let ns ← ExceptT.mk (pure (nsOf m))
    let name ← ExceptT.mk (pure (nameOf m))
    fetch (Api.replace (Resource.configMaps.pathIn ns) name m.toJson Manifest.ConfigMap.ofJson?)

end FloatingAddress.Guest
