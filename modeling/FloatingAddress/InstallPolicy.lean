import FloatingAddress.LogLevel
import FloatingAddress.Manifest.Metadata
import FloatingAddress.Text.Quoted
import FloatingAddress.Text.Truth

/-!
# Which guest clusters get the charts installed

Charts are installed nowhere, everywhere, or in those clusters that ask for it with a label.
-/

namespace FloatingAddress

/-- When charts are installed into a guest cluster. -/
inductive InstallPolicy
  /-- Never. -/
  | disabled
  /-- Always. -/
  | enabled
  /-- If the label of the cluster is true. -/
  | labelGated
deriving DecidableEq, Repr, Inhabited

namespace InstallPolicy

/-- The cluster label that asks for the charts. -/
def label : String := "kube-vip"

/-- The form in which policy names are compared. -/
def normalize (s : String) : String := Text.lowerAscii (Text.trim s)

def ofText? (s : String) : Option InstallPolicy :=
  match normalize s with
  | "disabled" => some disabled
  | "enabled" => some enabled
  | "clusterlabel" | "label-gated" => some labelGated
  | _ => none

def unknownMessage (s : String) : String :=
  s!"unknown install policy {Text.quote (normalize s)}"

/-- Whether a cluster with these labels gets the charts. -/
def selects (policy : InstallPolicy) (labels : TextMap) : Bool :=
  match policy with
  | disabled => false
  | enabled => true
  | labelGated => (labels[label]?.bind Text.truth?).getD false

/-- The value of the label, if it matters and cannot be read. -/
def unreadableLabel (policy : InstallPolicy) (labels : TextMap) : Option String :=
  match policy with
  | labelGated => labels[label]?.filter fun value => (Text.truth? value).isNone
  | _ => none

end InstallPolicy

end FloatingAddress
