import FloatingAddress.InMemory.Site
import FloatingAddress.Proofs.Dialogue.Transcript

/-!
# One search for a guest cluster

What a search asks falls in two kinds. Whether its namespace is remembered is known inside, and
`onward` answers it at once. For everything else the search turns to its surroundings, and it may
have to wait for an answer. A search touches what is remembered twice at most: at its very
beginning, and after a failure at its very end. In between it asks outside only, and the objects
that it creates are in the namespace which it was started for.
-/

namespace FloatingAddress.Discovery

open Dialogue

variable {α : Type} {ns : String} {seen : Std.ExtTreeSet String}

/-- What is remembered answers some questions by itself, and changes with them. -/
def remembered (seen : Std.ExtTreeSet String) :
    (c : Call) → Option (Answer c × Std.ExtTreeSet String)
  | .markSeen ns => some (!seen.contains ns, seen.insert ns)
  | .forget ns => some ((), seen.erase ns)
  | _ => none

/-- Carry a search on until it asks something outside. -/
def onward : Step α → Std.ExtTreeSet String → Step α × Std.ExtTreeSet String
  | .done a, seen => (.done a, seen)
  | .ask c next, seen =>
    match remembered seen c with
    | some (a, seen) => onward (next a) seen
    | none => (.ask c next, seen)

/-- The namespace is one of a guest cluster. -/
def IsGuestNs (ns : String) : Prop := guestNsStem.toList.isPrefixOf ns.toList

instance : Decidable (IsGuestNs ns) := inferInstanceAs (Decidable (_ = true))

/-- The end of a search: a failure makes it forget the namespace. -/
def conclude (ns : String) : Except OperatorError Result → Step (Except OperatorError Result)
  | .ok result => .done (.ok result)
  | .error error => .ask (.forget ns) fun _ => .done (.error error)

theorem handle_of_other (other : ¬IsGuestNs ns) : handle ns = .done (.ok .ignored) := by
  rw [IsGuestNs, Bool.not_eq_true] at other
  rw [handle, other]
  rfl

theorem handle_of_guest (guest : IsGuestNs ns) :
    handle ns = .ask (.markSeen ns) fun new =>
      if new then (discover ns).run >>= conclude ns else .done (.ok .ignored) := by
  rw [IsGuestNs] at guest
  rw [handle, guest]
  refine congrArg (Dialogue.ask (Call.markSeen ns)) (funext fun new => ?_)
  cases new with
  | false => rfl
  | true =>
    refine bind_congr fun outcome => ?_
    cases outcome <;> rfl

/-- What a search for the guest cluster of a namespace may ask outside. It creates objects in this
namespace only. -/
def Call.Within (ns : String) : Call → Prop
  | .markSeen _ | .forget _ => False
  | .create m => m.metadata.ns = some ns
  | _ => True

/-- What is left of a search for the guest cluster of a namespace. In the end it has dealt with the
namespace, or something has failed. -/
def Seeks (ns : String) : Step (Except OperatorError Result) → Prop
  | .done outcome => outcome ≠ .ok .ignored
  | .ask c next => c.Within ns ∧ ∀ a, Seeks ns (next a)

theorem Call.Within.not_remembered {c : Call} (within : c.Within ns) :
    remembered seen c = none := by
  cases c with
  | markSeen _ | forget _ => exact within.elim
  | _ => rfl

/-- A search waits, and then it looks for the guest cluster. -/
theorem discover_begins (ns : String) :
    ∃ next, (discover ns).run = .ask .settle fun _ => .ask (.findCluster ns) next :=
  ⟨_, rfl⟩

theorem seeks_return {result : Result} (real : result ≠ .ignored) :
    Seeks ns (pure result : Search Result).run :=
  fun same => real (Except.ok.inj same)

/-- A part of the search that fails ends the search, and else the search goes on. -/
theorem seeks_bind {x : Search α} {f : α → Search Result} (asks : x.run.Only (Call.Within ns))
    (rest : ∀ a, Seeks ns (f a).run) : Seeks ns (x >>= f).run := by
  rw [ExceptT.run_bind]
  generalize x.run = d at asks
  induction d with
  | done outcome =>
    cases outcome with
    | ok a => exact rest a
    | error error =>
      intro same
      cases same
  | ask c next ih => exact ⟨asks.1, fun a => ih a (asks.2 a)⟩

theorem seeks_discover (ns : String) : Seeks ns (discover ns).run := by
  unfold discover
  refine seeks_bind ⟨trivial, fun _ => trivial⟩ fun _ => ?_
  refine seeks_bind ⟨trivial, fun _ => trivial⟩ fun found => ?_
  cases found with
  | none => exact seeks_return (by decide)
  | some cluster =>
    refine seeks_bind ⟨trivial, fun _ => trivial⟩ fun provider => ?_
    cases provider with
    | none => exact seeks_bind ⟨trivial, fun _ => trivial⟩ fun _ => seeks_return (by decide)
    | some provider =>
      refine seeks_bind ⟨trivial, fun _ => trivial⟩ fun network => ?_
      refine seeks_bind ⟨trivial, fun _ => trivial⟩ fun served => ?_
      cases served with
      | true => exact seeks_return (by decide)
      | false =>
        refine seeks_bind ⟨trivial, fun _ => trivial⟩ fun ranges => ?_
        cases chooseRange ranges provider network with
        | none => exact seeks_bind ⟨trivial, fun _ => trivial⟩ fun _ => seeks_return (by decide)
        | some range => exact seeks_bind ⟨rfl, fun _ => trivial⟩ fun _ => seeks_return (by simp)

/-- A search is over at once if its namespace is none of a guest cluster, or is remembered. -/
theorem onward_handle_known (known : ¬IsGuestNs ns ∨ ns ∈ seen) :
    onward (handle ns) seen = (.done (.ok .ignored), seen) := by
  by_cases guest : IsGuestNs ns
  · have member := known.resolve_left (not_not_intro guest)
    have there : seen.contains ns := Std.ExtTreeSet.contains_iff_mem.mpr member
    have same : seen.insert ns = seen := by
      refine Std.ExtTreeSet.ext_mem fun other => ?_
      rw [Std.ExtTreeSet.mem_insert, Std.LawfulEqCmp.compare_eq_iff_eq]
      exact or_iff_right_of_imp fun eq => eq ▸ member
    rw [handle_of_guest guest, onward, remembered, same, there]
    rfl
  · rw [handle_of_other guest]
    rfl

/-- Else the namespace is remembered, and the search begins. -/
theorem onward_handle_new (guest : IsGuestNs ns) (new : ns ∉ seen) :
    onward (handle ns) seen = ((discover ns).run >>= conclude ns, seen.insert ns) := by
  obtain ⟨next, begins⟩ := discover_begins ns
  have new' : seen.contains ns = false :=
    Bool.eq_false_iff.mpr fun there => new (Std.ExtTreeSet.contains_iff_mem.mp there)
  rw [handle_of_guest guest, onward, remembered, begins]
  simp only [new']
  rfl

theorem onward_ask {c : Call} {next : Answer c → Step (Except OperatorError Result)}
    (within : c.Within ns) : onward (.ask c next) seen = (.ask c next, seen) := by
  rw [onward, within.not_remembered]

/-- What is remembered is part of the operator of a site, and it is asked and changed there. -/
theorem answerDiscovery_remembered {site : InMemory.Site} {c : Call} {a : Answer c}
    (known : remembered site.operator.seen c = some (a, seen)) :
    (InMemory.Site.answerDiscovery c).run site =
      (a, { site with operator := { site.operator with seen } }) := by
  cases c with
  | markSeen ns | forget ns =>
    cases known
    rfl
  | _ => cases known

/-- Nothing else that a search asks at a site changes what is remembered. -/
theorem answerDiscovery_spares {site : InMemory.Site} {c : Call}
    (unknown : remembered site.operator.seen c = none) :
    ((InMemory.Site.answerDiscovery c).run site).2.operator.seen = site.operator.seen := by
  cases c with
  | markSeen _ | forget _ => cases unknown
  | _ => rfl

end FloatingAddress.Discovery
