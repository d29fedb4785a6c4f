import FloatingAddress.Proofs.Metrics.Dropping
import FloatingAddress.Proofs.Sweep.Accounts
import FloatingAddress.Proofs.Sweep.Permission

/-!
# What a sweep shows of guest clusters

A visit that finds its guest cluster shows it exactly once, as up if the probe was answered and as
down otherwise. Whatever it writes into the metrics goes under one provider label, for which the
answer to the visit's own question for the name of the provider is decisive. A visit to a cluster
that is gone writes nothing. So what a sweep writes is about guest clusters of stored records only,
and the statuses that it shows are those of its visits, one after the other.
-/

namespace FloatingAddress

open Dialogue

namespace Metrics

/-- A guest cluster is shown as up or down under a provider label. -/
structure Showing where
  cluster : String
  provider : String
  up : Bool
deriving DecidableEq, Repr

def Showing.labels (shown : Showing) : List String := [shown.cluster, shown.provider]

def Showing.reading (shown : Showing) : Int64 := if shown.up then 1 else 0

def Update.showing? : Update → Option Showing
  | .guestStatus cluster provider up => some { cluster, provider, up }
  | _ => none

end Metrics

namespace Sweep

open Metrics (Showing)

variable {options : Options} {store : Store} {target : Target} {component : Chart.Component}
  {event : Metrics.Event} {record : FloatingRecord} {talk before after : List Exchange}
  {cluster provider : String} {up : Bool}

/-- What is shown in the course of a talk. -/
def showings (talk : List Exchange) : List Showing :=
  talk.filterMap fun x => x.1.update?.bind (·.showing?)

@[simp] theorem showings_append {first rest : List Exchange} :
    showings (first ++ rest) = showings first ++ showings rest := List.filterMap_append

theorem showings_cons (x : Exchange) (talk : List Exchange) :
    showings (x :: talk) = showings [x] ++ showings talk := by
  rw [← showings_append, List.singleton_append]

theorem showings_flatMap (legs : List Leg) :
    showings (legs.flatMap (·.talk)) = legs.flatMap fun leg => showings leg.talk := by
  induction legs with
  | nil => rfl
  | cons leg legs ih => rw [List.flatMap_cons, showings_append, ih, List.flatMap_cons]

theorem showings_of_silent (silent : ∀ x ∈ talk, x.1.update? = none) : showings talk = [] := by
  refine List.filterMap_eq_nil_iff.mpr fun x member => ?_
  rw [silent x member, Option.bind_none]

theorem showings_concluded {notice : GuestError → Notice} {result : Except GuestError Bool} :
    showings (target.concluded event notice result) = [] := by
  match result with
  | .ok false => rfl
  | .ok true => rfl
  | .error error => rfl

theorem Installing.showings_eq {failed : Bool}
    (h : Installing options target component event talk failed) : showings talk = [] := by
  obtain ⟨attempt⟩ := h
  rw [showings_append, showings_of_silent attempt.silent, showings_concluded, List.append_nil]

theorem Publishing.showings_eq {failed : Bool} (h : Publishing options target talk failed) :
    showings talk = [] := by
  cases h with
  | addressless => rfl
  | tried has attempt =>
    rw [showings_append, showings_of_silent attempt.silent, showings_concluded, List.append_nil]

theorem Serving.showings_eq {labels : TextMap} {failed : Nat}
    (h : Serving options labels target talk failed) : showings talk = [] := by
  cases h with
  | selected _ complaining first second publishing =>
    rw [showings_append, showings_append, showings_append, first.showings_eq, second.showings_eq,
      publishing.showings_eq, showings_of_silent (silent_complaint complaining)]
    rfl
  | spared _ complaining publishing =>
    rw [showings_append, publishing.showings_eq, showings_of_silent (silent_complaint complaining)]
    rfl

/-- A talk shows a guest cluster once, and writes series of this cluster under one provider label
only. -/
structure Marks (cluster provider : String) (up : Bool) (talk : List Exchange) : Prop where
  shown : showings talk = [{ cluster, provider, up }]
  about : ∀ x ∈ talk, ∀ update, x.1.update? = some update → IsAbout cluster provider update

theorem marks_markedDown {notice : Notice} :
    Marks cluster provider false (markedDown cluster provider notice) := by
  refine ⟨rfl, ?_⟩
  simp [markedDown, measured, reported, Call.update?, IsAbout]

theorem Marks.prepend (marks : Marks cluster provider up talk)
    (silent : ∀ x ∈ before, x.1.update? = none) : Marks cluster provider up (before ++ talk) := by
  refine ⟨?_, fun x member update written => ?_⟩
  · rw [showings_append, showings_of_silent silent, marks.shown, List.nil_append]
  · obtain here | here := List.mem_append.mp member
    · rw [silent x here] at written
      cases written
    · exact marks.about x here update written

theorem Marks.append (marks : Marks cluster provider up talk) (shown : showings after = [])
    (about : ∀ x ∈ after, ∀ update, x.1.update? = some update → IsAbout cluster provider update) :
    Marks cluster provider up (talk ++ after) := by
  refine ⟨by rw [showings_append, shown, marks.shown, List.append_nil], fun x member => ?_⟩
  obtain here | here := List.mem_append.mp member
  · exact marks.about x here
  · exact about x here

theorem Target.Serves.about {x : Exchange} (serves : target.Serves x.1) {update : Metrics.Update}
    (written : x.1.update? = some update) : IsAbout target.cluster target.provider update := by
  obtain ⟨c, answer⟩ := x
  cases c <;> cases written
  exact serves

/-- The probe shows the guest cluster as up if it is answered, and as down otherwise. -/
theorem Probing.marks {result : Except Nat Unit} (h : Probing target talk result) :
    Marks target.cluster target.provider result.isOk talk := by
  cases h with
  | answered =>
    refine ⟨rfl, ?_⟩
    simp [Target.counted, measured, Call.update?, IsAbout]
  | provisioning error early =>
    refine ⟨rfl, ?_⟩
    simp [measured, Call.update?, IsAbout]
  | unreachable error failed =>
    exact marks_markedDown.prepend (List.forall_mem_singleton.mpr rfl)

/-- The answer to a question for the name of a provider. -/
def Call.providerName? : (c : Call) → Answer c → Option (Except GuestError (Option String))
  | .providerName _, name => some name
  | _, _ => none

/-- What is said about the name of the provider in the course of a talk. If nobody asks, no name is
known. -/
def providerNamed (talk : List Exchange) : Except GuestError (Option String) :=
  (talk.findSome? fun x => x.1.providerName? x.2).getD (.ok none)

theorem providerNamed_approach {cluster : GuestCluster} {name : Except GuestError (Option String)}
    {kubeconfig : Except GuestError Kubeconfig} (rest : List Exchange) :
    providerNamed (approach record cluster name kubeconfig ++ rest) = name := rfl

/-- A visit that finds its guest cluster shows it once, as up exactly if the probe was answered. The
provider label is that of the name that this visit was told. -/
theorem Visiting.marks {failed : Nat} (h : Visiting options store record talk (.done failed)) :
    ∃ up, (up = true ↔ Leg.Reached ⟨record, talk, .done failed⟩) ∧
      Marks record.cluster (providerLabel store record (providerNamed talk)) up talk := by
  cases h with
  | lookupFailed error =>
    refine ⟨false, iff_of_false nofun ?_, ?_⟩
    · exact Leg.not_reached_of_silent (List.forall_mem_cons.mpr ⟨rfl, silent_markedDown⟩)
    · exact marks_markedDown.prepend (List.forall_mem_singleton.mpr rfl)
  | locked cluster owns name error =>
    refine ⟨false, iff_of_false nofun ?_, ?_⟩
    · exact Leg.not_reached_of_silent (List.forall_mem_append.mpr
        ⟨silent_approach, silent_markedDown⟩)
    · exact marks_markedDown.prepend silent_approach_update
  | stopped cluster owns name kubeconfig probing =>
    refine ⟨false, iff_of_false nofun (not_reached_of_stopped probing), ?_⟩
    exact probing.marks.prepend silent_approach_update
  | served cluster owns name kubeconfig probing serving =>
    refine ⟨true, iff_of_true rfl (reached_of_answered probing), ?_⟩
    rw [List.append_assoc, providerNamed_approach, ← List.append_assoc]
    exact (probing.marks.prepend silent_approach_update).append serving.showings_eq
      fun x member _ => (serving.serves x member).about

/-- A visit to a guest cluster that is gone writes nothing. -/
theorem Visiting.silent_of_orphaned (h : Visiting options store record talk .orphaned) :
    ∀ x ∈ talk, x.1.update? = none := by
  cases h <;> simp [Call.update?]

/-- Whatever a visit writes is about the guest cluster of its record. -/
theorem Visiting.about {result : Visit} (h : Visiting options store record talk result)
    {x : Exchange} (member : x ∈ talk) {update : Metrics.Update}
    (written : x.1.update? = some update) : ∃ provider, IsAbout record.cluster provider update := by
  cases result with
  | orphaned =>
    rw [h.silent_of_orphaned x member] at written
    cases written
  | done failed =>
    obtain ⟨up, -, marks⟩ := h.marks
    exact ⟨_, marks.about x member update written⟩

section Sweep

variable {σ : Type} (answer : (c : Call) → σ → Answer c × σ) (options : Options) (store : Store)
  (s : σ)

/-- A sweep shows what its visits show. -/
theorem showings_sweep : showings ((sweep options store).transcript answer s) =
    (tour answer options store s).flatMap fun leg => showings leg.talk := by
  obtain ⟨closing, whole, closes, -⟩ := transcript_sweep answer options store s
  have first : showings [⟨.sweeping true, ()⟩] = [] := rfl
  rw [whole, ← List.singleton_append, showings_append, showings_append, showings_flatMap, first,
    showings_of_silent fun x member => (closes x member).update?, List.append_nil, List.nil_append]

variable {answer options store s}

/-- What a sweep writes is about guest clusters of the records in the store. -/
theorem about_of_mem_sweep {x : Exchange}
    (member : x ∈ (sweep options store).transcript answer s) {update : Metrics.Update}
    (written : x.1.update? = some update) :
    ∃ record ∈ store.floatings, ∃ provider, IsAbout record.cluster provider update := by
  obtain ⟨closing, whole, closes, -⟩ := transcript_sweep answer options store s
  rw [whole, List.mem_cons, List.mem_append, List.mem_flatMap] at member
  obtain rfl | ⟨leg, visited, here⟩ | last := member
  · cases written
  · refine ⟨leg.record, ?_, (visiting_of_mem_tour answer options store visited).about here written⟩
    rw [← records_tour answer options store s]
    exact List.mem_map_of_mem visited
  · rw [(closes x last).update?] at written
    cases written

variable (answer options store s)

/-- The last thing that a sweep does is to clear its mark. -/
theorem transcript_sweep_last : ∃ front,
    (sweep options store).transcript answer s = front ++ [⟨.sweeping false, ()⟩] := by
  have split : sweep options store =
      (do
        step (.sweeping true)
        let report ← visitAll options store {} store.floatings
        if options.traceInventory then traceStore store
        return report) >>= fun report => do
          step (.sweeping false)
          return report := by
    rw [sweep, bind_assoc]
    refine congrArg _ (funext fun _ => ?_)
    rw [bind_assoc]
    refine congrArg _ (funext fun report => ?_)
    split
    · rw [bind_assoc]
      rfl
    · rfl
  rw [split, transcript_bind]
  exact ⟨_, rfl⟩

/-- After a sweep its mark is cleared. -/
theorem sweeping_metricsAfter_sweep (m : Metrics) :
    (metricsAfter m ((sweep options store).transcript answer s)).sweeping = false := by
  obtain ⟨front, whole⟩ := transcript_sweep_last answer options store s
  rw [whole, metricsAfter, List.foldl_append]
  rfl

end Sweep

end Sweep

end FloatingAddress
