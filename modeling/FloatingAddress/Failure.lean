import FloatingAddress.Api
import FloatingAddress.Store

/-!
# What can go wrong

Access to guest clusters fails for reasons of its own (`GuestError`). The operator reports these
together with refused allocations, missing records, faulty objects and failures of the cluster
API as one kind of error (`OperatorError`), each introduced by the area it comes from.
-/

namespace FloatingAddress

/-- Why the management cluster, a guest cluster or the installer did not do what was asked. -/
inductive GuestError
  | api (error : ApiError)
  /-- The guest cluster is not ready for requests yet. -/
  | provisioning (cluster : String)
  /-- The credentials of the guest cluster are unusable. -/
  | kubeconfig
  /-- A referenced object does not exist. -/
  | notFound (what : String)
  /-- An object lacks an expected field. -/
  | missingData (what : String)
  /-- The chart installer failed. -/
  | installer (what : String)
  /-- A file or a program on this machine could not be used. -/
  | io (what : String)
deriving DecidableEq, Repr

namespace GuestError

def message : GuestError → String
  | .api error => s!"Kubernetes error: {error.message}"
  | .provisioning cluster => s!"Guest cluster {cluster} is still provisioning"
  | .kubeconfig => "Invalid kubeconfig"
  | .notFound what => s!"Not found: {what}"
  | .missingData what => s!"Missing data: {what}"
  | .installer what => s!"Helm error: {what}"
  | .io what => s!"I/O error: {what}"

/-- Whether the failure only says that the guest cluster is not ready yet. -/
def isProvisioning : GuestError → Bool
  | .provisioning _ => true
  | _ => false

end GuestError

/-- Why an operation of the operator failed. -/
inductive OperatorError
  | api (error : ApiError)
  | allocation (error : AllocationError)
  | store (error : StoreError)
  | record (error : RecordError)
  | guest (error : GuestError)
  | io (what : String)
  | configuration (what : String)
deriving DecidableEq, Repr

def OperatorError.message : OperatorError → String
  | .api error => s!"Kubernetes error: {error.message}"
  | .allocation error => s!"IPAM error: {error.message}"
  | .store error => s!"Store error: {error.message}"
  | .record error => s!"Invalid resource: {error.message}"
  | .guest error => s!"Guest access error: {error.message}"
  | .io what => s!"I/O error: {what}"
  | .configuration what => s!"Invalid configuration: {what}"

end FloatingAddress
