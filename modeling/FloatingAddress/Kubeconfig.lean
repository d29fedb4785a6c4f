import FloatingAddress.Text.Quoted

/-!
# Credentials of guest clusters

The document with which a guest cluster is reached contains secrets. Its description for people
therefore never shows it.
-/

namespace FloatingAddress

/-- The access document of a guest cluster. -/
structure Kubeconfig where
  cluster : String
  yaml : String
deriving DecidableEq

/-- What may be shown of an access document: whose it is. -/
def Kubeconfig.description (k : Kubeconfig) : String :=
  let hidden := Text.quote "<redacted>"
  "GuestKubeconfig \x7b cluster: " ++ Text.quote k.cluster ++ ", yaml: " ++ hidden ++ " \x7d"

end FloatingAddress
