/-!
# Settings of the process

Where the options are kept is told by the environment. A variable that is set counts even if it
is empty.
-/

namespace FloatingAddress

/-- Where the options are kept. -/
structure Settings where
  /-- The namespace of the config map with the options. -/
  ns : String := "kube-fip"
  /-- The name of the config map with the options. -/
  configMap : String := "kube-fip-config"
deriving DecidableEq, Repr

def Settings.ofEnvironment (lookup : String → Option String) : Settings where
  ns := (lookup "KUBEFIP_NAMESPACE").getD "kube-fip"
  configMap := (lookup "KUBEFIP_CONFIGMAP").getD "kube-fip-config"

end FloatingAddress
