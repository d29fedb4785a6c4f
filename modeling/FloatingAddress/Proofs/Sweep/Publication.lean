import FloatingAddress.Proofs.Metrics.Cleanup
import FloatingAddress.Proofs.Sweep.Accounts
import FloatingAddress.Proofs.Sweep.Permission

/-!
# How an address is published

The config map of a guest is read once, and written at most once: a new one holds the address and
nothing else, and one that is there is replaced only on request, by itself with another address.
The outcome is counted if something was to be written, or if the config map could not be read.

Everything else that a visit does concerns neither config maps nor this count. So what a visit says
about them is said in its last part, and the counters tell the same.
-/

namespace FloatingAddress

namespace Manifest.ConfigMap

def value? (m : ConfigMap) (key : String) : Option String := m.data.bind (·[key]?)

end Manifest.ConfigMap

namespace Metrics

end Metrics

namespace Sweep

open Manifest

variable {options : Options} {store : Store} {target : Target} {component : Chart.Component}
  {event : Metrics.Event} {record : FloatingRecord} {talk : List Exchange} {leg : Leg}

/-- Whether a call is about a config map: it reads or writes one, or counts how this ended. -/
def Call.isOnConfigMap : Call → Bool
  | .getConfigMap .. | .createConfigMap .. | .replaceConfigMap .. => true
  | .measure update => update.counts .configReconcile
  | _ => false

/-- What is said about config maps. -/
def onConfigMap (talk : List Exchange) : List Exchange := talk.filter (·.1.isOnConfigMap)

@[simp] theorem onConfigMap_append {first rest : List Exchange} :
    onConfigMap (first ++ rest) = onConfigMap first ++ onConfigMap rest := List.filter_append ..

theorem Probing.onConfigMap {result : Except Nat Unit} (h : Probing target talk result) :
    onConfigMap talk = [] := by
  cases h <;> rfl

theorem onConfigMap_concluded {notice : GuestError → Notice} {result : Except GuestError Bool}
    (other : event ≠ .configReconcile) :
    onConfigMap (target.concluded event notice result) = [] := by
  match result with
  | .ok false => rfl
  | .ok true => simpa [onConfigMap, Target.concluded, Target.counted, measured, Call.isOnConfigMap,
      Metrics.Update.counts] using other
  | .error error => simpa [onConfigMap, Target.concluded, Target.counted, measured, reported,
      Call.isOnConfigMap, Metrics.Update.counts] using other

theorem Installing.onConfigMap {failed : Bool}
    (h : Installing options target component event talk failed)
    (other : event ≠ .configReconcile) : onConfigMap talk = [] := by
  obtain ⟨attempt⟩ := h
  rw [onConfigMap_append, onConfigMap_concluded other, List.append_nil]
  cases attempt with
  | unknown => rfl
  | present => rfl
  | called cleared => cases cleared <;> rfl

namespace Publication

end Publication

end Sweep

end FloatingAddress
