import FloatingAddress.Manifest.Metadata
import FloatingAddress.Text.Split

/-!
# Guest clusters as the management cluster describes them

A guest cluster is an object of a kind that this library does not know in full. What matters is
picked out of it: the namespace that the cluster owns, its labels, the secret that leads to the
provider cluster, and the machine configuration that leads to the provider network.
-/

namespace FloatingAddress

/-- What is known of a guest cluster. -/
structure GuestCluster where
  name : String
  /-- The namespace that belongs to the cluster, once it has one. -/
  ns : Option String := none
  labels : TextMap := ∅
  /-- The secret with the credentials for the provider. -/
  credential : Option String := none
  /-- The configuration of the first pool of provider machines. -/
  machineConfig : Option String := none

namespace GuestCluster

def owns (cluster : GuestCluster) (ns : String) : Bool := cluster.ns = some ns

/-- The part of a text after its first `sep`, or the whole text without one. -/
def afterOrAll (sep : Char) (s : String) : String := (Text.after? sep s).getD s

/-- The text at the end of a path, unless it is empty. -/
def nonEmptyAt? (json : Json) (path : List String) : Option String :=
  ((json.at? path).bind Json.str?).filter (· ≠ "")

/-- The name of the machine configuration of a pool, if the pool runs on the provider. -/
def machineConfigOf? (pool : Json) : Option String := do
  let ref ← pool.get? "machineConfigRef"
  if (← (ref.get? "kind").bind Json.str?) = "HarvesterConfig" then
    (ref.get? "name").bind Json.str?
  else none

/-- The metadata of an object of any kind, empty if there is none. -/
def metadataOf? (json : Json) : Option Metadata :=
  json.obj?.bind fun fields =>
    match fields.lookup "metadata" with
    | none => some {}
    | some metadata => Metadata.ofJson? metadata

/-- Read what matters of a cluster object. -/
def ofJson? (json : Json) : Option GuestCluster :=
  (metadataOf? json).map fun metadata => {
    name := metadata.name.getD ""
    ns := nonEmptyAt? json ["status", "clusterName"]
    labels := metadata.labels.getD ∅
    credential :=
      (((json.at? ["spec", "cloudCredentialSecretName"]).bind Json.str?).map
        (afterOrAll ':')).filter (· ≠ "")
    machineConfig :=
      ((json.at? ["spec", "rkeConfig", "machinePools"]).bind Json.arr?).bind
        (·.findSome? machineConfigOf?) }

end GuestCluster

end FloatingAddress
