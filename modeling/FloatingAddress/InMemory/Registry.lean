import FloatingAddress.Failure
import FloatingAddress.Kubeconfig
import FloatingAddress.Manifest.GuestCluster
import Std.Data.ExtTreeSet

/-!
# A cluster registry in memory

It knows guest clusters by name, and for each of them the provider cluster and network. What is
known of the provider stays when a cluster is removed. Every cluster has credentials unless they
were dropped, and all lookups can be made to fail.
-/

namespace FloatingAddress.InMemory

structure Registry where
  clusters : Std.ExtTreeMap String GuestCluster := ∅
  providers : TextMap := ∅
  networks : TextMap := ∅
  withoutKubeconfig : Std.ExtTreeSet String := ∅
  /-- Whether lookups fail. -/
  down : Bool := false

namespace Registry

/-- Register a guest cluster, or replace what is known of it. -/
def put (r : Registry) (cluster : GuestCluster) : Registry :=
  { r with clusters := r.clusters.insert cluster.name cluster }

def setLabel (r : Registry) (cluster key value : String) : Registry :=
  match r.clusters[cluster]? with
  | none => r
  | some known => r.put { known with labels := known.labels.insert key value }

def remove (r : Registry) (cluster : String) : Registry :=
  { r with clusters := r.clusters.erase cluster }

def setProvider (r : Registry) (cluster provider : String) : Registry :=
  { r with providers := r.providers.insert cluster provider }

def setNetwork (r : Registry) (cluster network : String) : Registry :=
  { r with networks := r.networks.insert cluster network }

def dropKubeconfig (r : Registry) (cluster : String) : Registry :=
  { r with withoutKubeconfig := r.withoutKubeconfig.insert cluster }

/-- Answer a lookup, unless lookups fail. -/
def lookup (r : Registry) (answer : α) : Except GuestError α :=
  if r.down then .error (.io "injected registry failure") else .ok answer

def get (r : Registry) (name : String) : Except GuestError (Option GuestCluster) :=
  r.lookup r.clusters[name]?

/-- The guest cluster that owns a namespace, the first one by name. -/
def find (r : Registry) (ns : String) : Except GuestError (Option GuestCluster) :=
  r.lookup (r.clusters.values.find? (·.owns ns))

/-- The access document that is made up for a guest cluster. -/
def kubeconfigText (cluster : String) : String :=
  s!"apiVersion: v1\nkind: Config\ncurrent-context: {cluster}\n"

def kubeconfig (r : Registry) (cluster : String) : Except GuestError Kubeconfig :=
  if cluster ∈ r.withoutKubeconfig then
    .error (.notFound s!"secret fleet-default/{cluster}-kubeconfig")
  else .ok { cluster, yaml := kubeconfigText cluster }

end Registry

end FloatingAddress.InMemory
