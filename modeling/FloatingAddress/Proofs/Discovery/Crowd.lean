import FloatingAddress.Proofs.Discovery.Search

/-!
# Many notifications at once

Every notification of a namespace starts a search of its own. A search waits long and asks often,
so many of them are under way at a time, and they go on in any order. What they share is the set of
remembered namespaces, which is a lock and a memory in one: a namespace is remembered exactly while
one search is under way for it or after one has dealt with it, and there is never more than one such
search. A search that fails gives its namespace up, so the next notification starts anew, also if
another one was ignored in the meantime.
-/

namespace FloatingAddress.Discovery

open Dialogue

variable {ns other : String}

/-- A search that a notification has started: what is left of it. -/
structure Task where
  ns : String
  rest : Step (Except OperatorError Result)

/-- All searches, in the order of the notifications. -/
structure Crowd where
  seen : Std.ExtTreeSet String := ∅
  tasks : List Task := []

/-- What can happen. -/
inductive Event
  /-- A namespace is notified of. -/
  | notify (ns : String)
  /-- The search of some number gets an answer. The answers of the surroundings may be any. -/
  | turn (i : Nat) (answer : (c : Call) → Answer c)

namespace Task

variable {t : Task}

/-- The search has not come to its end. -/
def UnderWay (t : Task) : Prop := ∃ c next, t.rest = .ask c next

/-- What the search has come to, if it is at its end. -/
def outcome? (t : Task) : Option (Except OperatorError Result) :=
  match t.rest with
  | .ask .. => none
  | .done outcome => some outcome

/-- The search is under way, or it has dealt with its namespace. -/
def Holds (t : Task) : Prop :=
  match t.rest with
  | .ask .. => True
  | .done outcome => ∃ result, outcome = .ok result ∧ result ≠ .ignored

/-- If the search is under way, the rest of it is as it should be. -/
def Orderly (t : Task) : Prop :=
  t.UnderWay → IsGuestNs t.ns ∧ ∃ c next,
    t.rest = .ask c next >>= conclude t.ns ∧ Seeks t.ns (.ask c next)

theorem orderly_done (ns : String) (outcome : Except OperatorError Result) :
    Task.Orderly ⟨ns, .done outcome⟩ := by
  rintro ⟨c, next, asks⟩
  cases asks

theorem orderly_begun (guest : IsGuestNs ns) :
    Task.Orderly ⟨ns, (discover ns).run >>= conclude ns⟩ := by
  obtain ⟨next, begins⟩ := discover_begins ns
  have seeks := seeks_discover ns
  rw [begins] at seeks ⊢
  exact fun _ => ⟨guest, _, _, rfl, seeks⟩

theorem UnderWay.holds (underWay : t.UnderWay) : t.Holds := by
  obtain ⟨c, next, same⟩ := underWay
  rw [Holds, same]
  trivial

end Task

namespace Crowd

/-- Let something happen. Between two answers nobody else comes in. -/
def act (crowd : Crowd) : Event → Crowd
  | .notify ns =>
    let (rest, seen) := onward (handle ns) crowd.seen
    { seen, tasks := crowd.tasks ++ [{ ns, rest }] }
  | .turn i answer =>
    match crowd.tasks[i]? with
    | some { ns, rest := .ask c next } =>
      let (rest, seen) := onward (next (answer c)) crowd.seen
      { seen, tasks := crowd.tasks.set i { ns, rest } }
    | _ => crowd

/-- What has become of the searches after some events. -/
def after (crowd : Crowd) (events : List Event) : Crowd := events.foldl act crowd

/-- The search of some number holds a namespace. -/
def Holder (tasks : List Task) (ns : String) (i : Nat) : Prop :=
  ∃ t, tasks[i]? = some t ∧ t.ns = ns ∧ t.Holds

/-- Exactly the namespaces that some search holds are remembered, and it is only one search. -/
structure Orderly (crowd : Crowd) : Prop where
  tasks : ∀ t ∈ crowd.tasks, t.Orderly
  held : ∀ ns, ns ∈ crowd.seen ↔ ∃ i, Holder crowd.tasks ns i
  once : ∀ {ns i j}, Holder crowd.tasks ns i → Holder crowd.tasks ns j → i = j

/-- What an event can come to. -/
inductive Goes (crowd : Crowd) : Event → Crowd → Prop
  /-- Nobody waits for the answer. -/
  | lost {i : Nat} {answer : (c : Call) → Answer c} : Goes crowd (.turn i answer) crowd
  /-- The notification is about no guest cluster, or its namespace is remembered. -/
  | ignored {ns : String} (known : ¬IsGuestNs ns ∨ ns ∈ crowd.seen) :
    Goes crowd (.notify ns)
      { crowd with tasks := crowd.tasks ++ [{ ns, rest := .done (.ok .ignored) }] }
  /-- The notification starts a search. -/
  | begun {ns : String} (guest : IsGuestNs ns) (new : ns ∉ crowd.seen) :
    Goes crowd (.notify ns)
      { seen := crowd.seen.insert ns,
        tasks := crowd.tasks ++ [{ ns, rest := (discover ns).run >>= conclude ns }] }
  /-- The search asks its next question, or it has dealt with its namespace. -/
  | continued {i : Nat} {answer : (c : Call) → Answer c} {t t' : Task}
    (found : crowd.tasks[i]? = some t) (underWay : t.UnderWay) (same : t'.ns = t.ns)
    (orderly : t'.Orderly) (holds : t'.Holds) :
    Goes crowd (.turn i answer) { crowd with tasks := crowd.tasks.set i t' }
  /-- The search fails, and its namespace is forgotten. -/
  | failed {i : Nat} {answer : (c : Call) → Answer c} {t : Task} {error : OperatorError}
    (found : crowd.tasks[i]? = some t) (underWay : t.UnderWay) :
    Goes crowd (.turn i answer)
      { seen := crowd.seen.erase t.ns,
        tasks := crowd.tasks.set i { t with rest := .done (.error error) } }

variable {crowd later : Crowd} {e : Event} {i j : Nat} {t t' : Task}

theorem goes_notify (crowd : Crowd) (ns : String) :
    crowd.Goes (.notify ns) (crowd.act (.notify ns)) := by
  by_cases guest : IsGuestNs ns
  · by_cases known : ns ∈ crowd.seen
    · rw [act, onward_handle_known (.inr known)]
      exact .ignored (.inr known)
    · rw [act, onward_handle_new guest known]
      exact .begun guest known
  · rw [act, onward_handle_known (.inl guest)]
    exact .ignored (.inl guest)

theorem goes_turn (orderly : ∀ t ∈ crowd.tasks, t.Orderly) (i : Nat)
    (answer : (c : Call) → Answer c) :
    crowd.Goes (.turn i answer) (crowd.act (.turn i answer)) := by
  cases found : crowd.tasks[i]? with
  | none =>
    rw [act, found]
    exact .lost
  | some t =>
    obtain ⟨ns, rest⟩ := t
    by_cases underWay : Task.UnderWay ⟨ns, rest⟩
    · obtain ⟨guest, c, next, same, -, seeks⟩ :=
        orderly _ (List.mem_of_getElem? found) underWay
      dsimp only at same
      subst same
      have acts : crowd.act (.turn i answer) =
          { seen := (onward (next (answer c) >>= conclude ns) crowd.seen).2
            tasks := crowd.tasks.set i
              { ns, rest := (onward (next (answer c) >>= conclude ns) crowd.seen).1 } } := by
        rw [act, found]
        rfl
      have seeks' := seeks (answer c)
      rw [acts]
      cases goesOn : next (answer c) with
      | ask c' next' =>
        rw [goesOn] at seeks'
        rw [ask_bind, onward_ask seeks'.1]
        exact .continued found underWay rfl (fun _ => ⟨guest, c', next', rfl, seeks'⟩) trivial
      | done outcome =>
        rw [goesOn] at seeks'
        cases outcome with
        | error error => exact .failed found underWay
        | ok result =>
          exact .continued found underWay rfl (Task.orderly_done ns _)
            ⟨result, rfl, fun same => seeks' (congrArg Except.ok same)⟩
    · cases rest with
      | ask c next => exact absurd ⟨c, next, rfl⟩ underWay
      | done outcome =>
        rw [act, found]
        exact .lost

theorem goes_act (orderly : ∀ t ∈ crowd.tasks, t.Orderly) (e : Event) :
    crowd.Goes e (crowd.act e) := by
  cases e with
  | notify ns => exact goes_notify crowd ns
  | turn i answer => exact goes_turn orderly i answer

section Holder

variable {tasks : List Task}

theorem holder_append : Holder (tasks ++ [t]) ns j ↔
    Holder tasks ns j ∨ j = tasks.length ∧ t.ns = ns ∧ t.Holds := by
  unfold Holder
  obtain before | rfl | behind := Nat.lt_trichotomy j tasks.length
  · rw [List.getElem?_append_left before]
    simp [Nat.ne_of_lt before]
  · simp
  · have outside : (tasks ++ [t]).length ≤ j := by
      rw [List.length_append]
      exact behind
    rw [List.getElem?_eq_none outside, List.getElem?_eq_none (Nat.le_of_lt behind)]
    simp [Nat.ne_of_gt behind]

theorem holder_set (found : tasks[i]? = some t) : Holder (tasks.set i t') ns j ↔
    if j = i then t'.ns = ns ∧ t'.Holds else Holder tasks ns j := by
  have inside : i < tasks.length := (List.getElem?_eq_some_iff.mp found).1
  unfold Holder
  rw [List.getElem?_set]
  by_cases same : j = i
  · subst same
    simp [inside]
  · simp [same, Ne.symm same]

/-- A search holds its own namespace only. -/
theorem Holder.eq (holder : Holder tasks ns i) (found : tasks[i]? = some t) : t.ns = ns := by
  obtain ⟨t', found', rfl, -⟩ := holder
  rw [found, Option.some.injEq] at found'
  rw [found']

theorem holder_of_underWay (found : tasks[i]? = some t) (underWay : t.UnderWay) :
    Holder tasks t.ns i :=
  ⟨t, found, rfl, underWay.holds⟩

/-- A search that was ignored holds nothing. -/
theorem holder_ignored :
    Holder (tasks ++ [⟨other, .done (.ok .ignored)⟩]) ns j ↔ Holder tasks ns j := by
  rw [holder_append]
  refine or_iff_left ?_
  rintro ⟨-, -, result, same, others⟩
  cases same
  exact others rfl

theorem holder_begun : Holder (tasks ++ [⟨other, (discover other).run >>= conclude other⟩]) ns j ↔
    Holder tasks ns j ∨ j = tasks.length ∧ other = ns := by
  obtain ⟨next, begins⟩ := discover_begins other
  have holds : Task.Holds ⟨other, (discover other).run >>= conclude other⟩ := by
    rw [begins]
    trivial
  rw [holder_append]
  simp only [holds, and_true]

/-- A search that goes on holds its namespace as before. -/
theorem holder_continued (found : tasks[i]? = some t) (underWay : t.UnderWay)
    (same : t'.ns = t.ns) (holds : t'.Holds) :
    Holder (tasks.set i t') ns j ↔ Holder tasks ns j := by
  rw [holder_set found]
  split
  · subst j
    refine ⟨?_, fun here => ⟨same.trans (here.eq found), holds⟩⟩
    rintro ⟨rfl, -⟩
    exact same ▸ holder_of_underWay found underWay
  · rfl

/-- A search that failed holds nothing any more. -/
theorem holder_failed (once : ∀ {ns i j}, Holder tasks ns i → Holder tasks ns j → i = j)
    (found : tasks[i]? = some t) (underWay : t.UnderWay) {error : OperatorError} :
    Holder (tasks.set i { t with rest := .done (.error error) }) ns j ↔
      t.ns ≠ ns ∧ Holder tasks ns j := by
  rw [holder_set found]
  split
  · subst j
    constructor
    · rintro ⟨-, result, same, -⟩
      cases same
    · rintro ⟨others, here⟩
      exact absurd (here.eq found) others
  · rename_i others
    refine ⟨fun here => ⟨?_, here⟩, And.right⟩
    rintro rfl
    exact others (once here (holder_of_underWay found underWay))

end Holder

theorem Orderly.empty : Orderly {} where
  tasks := nofun
  held ns := by simp [Holder]
  once := by
    rintro ns i j ⟨t, found, -⟩
    cases found

theorem Orderly.tasks_append (orderly : crowd.Orderly) (fits : t'.Orderly) :
    ∀ t ∈ crowd.tasks ++ [t'], t.Orderly := by
  intro t member
  obtain before | last := List.mem_append.mp member
  · exact orderly.tasks t before
  · exact List.mem_singleton.mp last ▸ fits

theorem Orderly.tasks_set (orderly : crowd.Orderly) (fits : t'.Orderly) (i : Nat) :
    ∀ t ∈ crowd.tasks.set i t', t.Orderly := by
  intro t member
  obtain before | same := List.mem_or_eq_of_mem_set member
  · exact orderly.tasks t before
  · exact same ▸ fits

/-- Nothing changes in who holds what, and in what is remembered. -/
theorem Orderly.of_same (orderly : crowd.Orderly) (tasks : ∀ t ∈ later.tasks, t.Orderly)
    (seen : later.seen = crowd.seen)
    (same : ∀ ns j, Holder later.tasks ns j ↔ Holder crowd.tasks ns j) : later.Orderly where
  tasks := tasks
  held ns := by simp only [seen, orderly.held, same]
  once first second := orderly.once ((same ..).mp first) ((same ..).mp second)

theorem Orderly.ignored (orderly : crowd.Orderly) (ns : String) :
    Orderly { crowd with tasks := crowd.tasks ++ [⟨ns, .done (.ok .ignored)⟩] } :=
  orderly.of_same (orderly.tasks_append (Task.orderly_done ns _)) rfl fun _ _ => holder_ignored

theorem Orderly.begun (orderly : crowd.Orderly) (guest : IsGuestNs ns) (new : ns ∉ crowd.seen) :
    Orderly ⟨crowd.seen.insert ns,
      crowd.tasks ++ [⟨ns, (discover ns).run >>= conclude ns⟩]⟩ where
  tasks := orderly.tasks_append (Task.orderly_begun guest)
  held other := by
    simp only [holder_begun, Std.ExtTreeSet.mem_insert, orderly.held,
      Std.LawfulEqCmp.compare_eq_iff_eq, exists_or, exists_eq_left, or_comm]
  once := by
    have unheld : ∀ i, ¬Holder crowd.tasks ns i :=
      fun i here => new ((orderly.held ns).mpr ⟨i, here⟩)
    intro other i j first second
    obtain first | ⟨rfl, rfl⟩ := holder_begun.mp first
    · obtain second | ⟨-, rfl⟩ := holder_begun.mp second
      · exact orderly.once first second
      · exact absurd first (unheld i)
    · obtain second | ⟨rfl, -⟩ := holder_begun.mp second
      · exact absurd second (unheld j)
      · rfl

theorem Orderly.failed (orderly : crowd.Orderly) (found : crowd.tasks[i]? = some t)
    (underWay : t.UnderWay) (error : OperatorError) :
    Orderly ⟨crowd.seen.erase t.ns,
      crowd.tasks.set i { t with rest := .done (.error error) }⟩ where
  tasks := orderly.tasks_set (Task.orderly_done t.ns _) i
  held ns := by
    simp only [holder_failed orderly.once found underWay, Std.ExtTreeSet.mem_erase, orderly.held,
      ne_eq, Std.LawfulEqCmp.compare_eq_iff_eq, exists_and_left]
  once first second := by
    rw [holder_failed orderly.once found underWay] at first second
    exact orderly.once first.2 second.2

theorem Orderly.act (orderly : crowd.Orderly) (e : Event) : (crowd.act e).Orderly := by
  generalize acted : crowd.act e = later
  have goes := goes_act orderly.tasks e
  rw [acted] at goes
  cases goes with
  | lost => exact orderly
  | ignored known => exact orderly.ignored _
  | begun guest new => exact orderly.begun guest new
  | continued found underWay same goesOn holds =>
    exact orderly.of_same (orderly.tasks_set goesOn _) rfl fun _ _ =>
      holder_continued found underWay same holds
  | failed found underWay => exact orderly.failed found underWay _

theorem Orderly.after (orderly : crowd.Orderly) (events : List Event) :
    (crowd.after events).Orderly := by
  induction events generalizing crowd with
  | nil => exact orderly
  | cons e events ih => exact ih (orderly.act e)

/-- A search that has come to its end stays as it is. -/
theorem Goes.finished (goes : crowd.Goes e later) (found : crowd.tasks[i]? = some t)
    (finished : ¬t.UnderWay) : later.tasks[i]? = some t := by
  have inside : i < crowd.tasks.length := (List.getElem?_eq_some_iff.mp found).1
  have others : ∀ {k t' u}, crowd.tasks[k]? = some u → u.UnderWay →
      (crowd.tasks.set k t')[i]? = some t := by
    intro k t' u found' underWay
    rw [List.getElem?_set_ne, found]
    rintro rfl
    rw [found, Option.some.injEq] at found'
    exact finished (found' ▸ underWay)
  cases goes with
  | lost => exact found
  | ignored _ | begun _ _ => rw [List.getElem?_append_left inside, found]
  | continued found' underWay _ _ _ => exact others found' underWay
  | failed found' underWay => exact others found' underWay

theorem Orderly.finished (orderly : crowd.Orderly) (found : crowd.tasks[i]? = some t)
    (finished : ¬t.UnderWay) (more : List Event) : (crowd.after more).tasks[i]? = some t := by
  induction more generalizing crowd with
  | nil => exact found
  | cons e more ih =>
    exact ih (orderly.act e) ((goes_act orderly.tasks e).finished found finished)

/-- Only a notification of a namespace makes it remembered. -/
theorem Goes.free (goes : crowd.Goes e later) (free : ns ∉ crowd.seen) (others : e ≠ .notify ns) :
    ns ∉ later.seen := by
  cases goes with
  | lost | ignored _ | continued _ _ _ _ _ => exact free
  | @begun new guest _ =>
    simp only [Std.ExtTreeSet.mem_insert, Std.LawfulEqCmp.compare_eq_iff_eq, not_or]
    exact ⟨fun same => others (same ▸ rfl), free⟩
  | failed _ _ => exact fun there => free (Std.ExtTreeSet.mem_of_mem_erase there)

theorem Orderly.free (orderly : crowd.Orderly) (free : ns ∉ crowd.seen) {more : List Event}
    (others : .notify ns ∉ more) : ns ∉ (crowd.after more).seen := by
  induction more generalizing crowd with
  | nil => exact free
  | cons e more ih =>
    obtain ⟨other, others⟩ := List.ne_and_not_mem_of_not_mem_cons others
    exact ih (orderly.act e) ((goes_act orderly.tasks e).free free other.symm) others

/-- A notification would be ignored, and nobody would be asked anything. -/
def Ignores (crowd : Crowd) (ns : String) : Prop :=
  crowd.act (.notify ns) =
    { crowd with tasks := crowd.tasks ++ [{ ns, rest := .done (.ok .ignored) }] }

/-- A notification would start a search that waits and then looks for the guest cluster. -/
def LooksUp (crowd : Crowd) (ns : String) : Prop :=
  ∃ next, crowd.act (.notify ns) =
    { seen := crowd.seen.insert ns,
      tasks := crowd.tasks ++
        [{ ns, rest := .ask .settle fun _ => .ask (.findCluster ns) next }] }

theorem looksUp_of_new (guest : IsGuestNs ns) (new : ns ∉ crowd.seen) : crowd.LooksUp ns := by
  obtain ⟨next, begins⟩ := discover_begins ns
  refine ⟨fun found => next found >>= conclude ns, ?_⟩
  rw [act, onward_handle_new guest new, begins]
  rfl

theorem ignores_of_known (known : ¬IsGuestNs ns ∨ ns ∈ crowd.seen) : crowd.Ignores ns := by
  rw [Ignores, act, onward_handle_known known]

theorem Ignores.known (ignores : crowd.Ignores ns) : ¬IsGuestNs ns ∨ ns ∈ crowd.seen := by
  by_cases guest : IsGuestNs ns
  · by_cases known : ns ∈ crowd.seen
    · exact .inr known
    · obtain ⟨next, looks⟩ := looksUp_of_new guest known
      rw [Ignores, looks] at ignores
      simp at ignores
  · exact .inl guest

/-- The search of some number is for a namespace, and it is under way. -/
def UnderWay (crowd : Crowd) (ns : String) (i : Nat) : Prop :=
  ∃ t, crowd.tasks[i]? = some t ∧ t.ns = ns ∧ t.UnderWay

/-- The search of some number was for a namespace, and it has come to its end. -/
def Ended (crowd : Crowd) (ns : String) (i : Nat) (outcome : Except OperatorError Result) : Prop :=
  crowd.tasks[i]? = some { ns, rest := .done outcome }

/-- The search of some number is asking something. -/
def Asks (crowd : Crowd) (i : Nat) (c : Call) : Prop :=
  ∃ ns next, crowd.tasks[i]? = some { ns, rest := .ask c next }

/-- What is known of the search of some number: for which namespace it is, and how it has ended. -/
def known? (crowd : Crowd) (i : Nat) : Option (String × Option (Except OperatorError Result)) :=
  crowd.tasks[i]?.map fun t => (t.ns, t.outcome?)

theorem underWay_iff : crowd.UnderWay ns i ↔ crowd.known? i = some (ns, none) := by
  rw [known?, Option.map_eq_some_iff]
  constructor
  · rintro ⟨⟨_, rest⟩, found, rfl, c, next, rfl⟩
    exact ⟨_, found, rfl⟩
  · rintro ⟨⟨_, rest⟩, found, same⟩
    cases rest with
    | done outcome => cases same
    | ask c next =>
      cases same
      exact ⟨_, found, rfl, c, next, rfl⟩

theorem ended_iff {outcome : Except OperatorError Result} :
    crowd.Ended ns i outcome ↔ crowd.known? i = some (ns, some outcome) := by
  rw [known?, Option.map_eq_some_iff]
  constructor
  · intro found
    exact ⟨_, found, rfl⟩
  · rintro ⟨⟨_, rest⟩, found, same⟩
    cases rest with
    | ask c next => cases same
    | done outcome =>
      cases same
      exact found

instance : DecidableEq (Except OperatorError Result)
  | .ok a, .ok b => decidable_of_iff (a = b) ⟨congrArg _, Except.ok.inj⟩
  | .error a, .error b => decidable_of_iff (a = b) ⟨congrArg _, Except.error.inj⟩
  | .ok _, .error _ | .error _, .ok _ => isFalse nofun

instance : Decidable (crowd.UnderWay ns i) := decidable_of_iff _ underWay_iff.symm

instance {outcome : Except OperatorError Result} : Decidable (crowd.Ended ns i outcome) :=
  decidable_of_iff _ ended_iff.symm

theorem UnderWay.holder (underWay : crowd.UnderWay ns i) : Holder crowd.tasks ns i := by
  obtain ⟨t, found, rfl, underWay⟩ := underWay
  exact holder_of_underWay found underWay

theorem Ended.holder {result : Result} (ended : crowd.Ended ns i (.ok result))
    (real : result ≠ .ignored) : Holder crowd.tasks ns i :=
  ⟨_, ended, rfl, result, rfl, real⟩

/-- Whoever holds a namespace is searching, or has dealt with the namespace. -/
theorem Holder.cases (holder : Holder crowd.tasks ns i) :
    crowd.UnderWay ns i ∨ ∃ result, crowd.Ended ns i (.ok result) ∧ result ≠ .ignored := by
  obtain ⟨⟨_, rest⟩, found, rfl, holds⟩ := holder
  cases rest with
  | ask c next => exact .inl ⟨_, found, rfl, c, next, rfl⟩
  | done outcome =>
    obtain ⟨result, rfl, real⟩ := holds
    exact .inr ⟨result, found, real⟩

/-- Objects are created in the namespace of the search. -/
theorem Orderly.asks_create (orderly : crowd.Orderly) {m : Manifest.Floating}
    (asks : crowd.Asks i (.create m)) : ∃ ns, crowd.UnderWay ns i ∧ m.metadata.ns = some ns := by
  obtain ⟨ns, next, found⟩ := asks
  have underWay : Task.UnderWay ⟨ns, .ask (.create m) next⟩ := ⟨_, _, rfl⟩
  obtain ⟨-, c, next', same, within, -⟩ := orderly.tasks _ (List.mem_of_getElem? found) underWay
  obtain ⟨rfl, -⟩ := Dialogue.ask.inj same
  exact ⟨ns, ⟨_, found, rfl, underWay⟩, within⟩

theorem Orderly.ended_after (orderly : crowd.Orderly) {outcome : Except OperatorError Result}
    (ended : crowd.Ended ns i outcome) (more : List Event) :
    (crowd.after more).Ended ns i outcome := by
  refine orderly.finished ended ?_ more
  rintro ⟨c, next, asks⟩
  cases asks

theorem Ended.not_underWay {outcome : Except OperatorError Result}
    (ended : crowd.Ended ns i outcome) : ¬crowd.UnderWay other i := by
  rintro ⟨t, found, -, c, next, asks⟩
  cases ended.symm.trans found
  cases asks

theorem Ended.not_holder {error : OperatorError} (ended : crowd.Ended ns i (.error error)) :
    ¬Holder crowd.tasks other i := by
  rintro ⟨t, found, -, holds⟩
  cases ended.symm.trans found
  obtain ⟨result, same, -⟩ := holds
  cases same

/-- Nobody takes a namespace that is remembered. -/
theorem Goes.held (goes : crowd.Goes e later) (orderly : crowd.Orderly) (known : ns ∈ crowd.seen)
    (holder : Holder later.tasks ns j) : Holder crowd.tasks ns j := by
  cases goes with
  | lost => exact holder
  | ignored _ => exact holder_ignored.mp holder
  | begun _ new =>
    obtain before | ⟨-, rfl⟩ := holder_begun.mp holder
    · exact before
    · exact absurd known new
  | continued found underWay same _ holds =>
    exact (holder_continued found underWay same holds).mp holder
  | failed found underWay => exact ((holder_failed orderly.once found underWay).mp holder).2

/-- After a failure a namespace is forgotten. -/
theorem Orderly.forgotten (orderly : crowd.Orderly) {error : OperatorError}
    (underWay : crowd.UnderWay ns i) (ended : (crowd.act e).Ended ns i (.error error)) :
    ns ∉ (crowd.act e).seen := by
  intro there
  obtain ⟨j, holder⟩ := ((orderly.act e).held ns).mp there
  have known : ns ∈ crowd.seen := (orderly.held ns).mpr ⟨i, underWay.holder⟩
  have before := (goes_act orderly.tasks e).held orderly known holder
  exact ended.not_holder (orderly.once before underWay.holder ▸ holder)

/-- A namespace that has been dealt with is ignored from then on. -/
theorem Orderly.ignores_after (orderly : crowd.Orderly) {result : Result}
    (ended : crowd.Ended ns i (.ok result)) (real : result ≠ .ignored) (more : List Event) :
    (crowd.after more).Ignores ns := by
  have holder := (orderly.ended_after ended more).holder real
  exact ignores_of_known (.inr (((orderly.after more).held ns).mpr ⟨i, holder⟩))

/-- Whatever the order in which the searches go on, and whatever they are answered:

* for each namespace at most one search is under way;
* for each namespace at most one search creates an object, and none is created in it afterwards;
* after a search has dealt with its namespace, every notification of it is ignored;
* so it is after a notification was ignored while no search for the namespace was under way;
* after a search has failed, the next notification of its namespace looks for the guest cluster. -/
theorem one_search_per_namespace (events : List Event) :
    let crowd := ({} : Crowd).after events
    (∀ ns i j, crowd.UnderWay ns i → crowd.UnderWay ns j → i = j) ∧
    (∀ ns i key more, crowd.Ended ns i (.ok (.created key)) →
      (∀ j key', (crowd.after more).Ended ns j (.ok (.created key')) → j = i) ∧
      ∀ j m, (crowd.after more).Asks j (.create m) → m.metadata.ns ≠ some ns) ∧
    (∀ ns i result more, crowd.Ended ns i (.ok result) → result ≠ .ignored →
      (crowd.after more).Ignores ns) ∧
    (∀ ns more, crowd.Ignores ns → (∀ i, ¬crowd.UnderWay ns i) →
      ((crowd.act (.notify ns)).after more).Ignores ns) ∧
    ∀ ns i e error more, crowd.UnderWay ns i → (crowd.act e).Ended ns i (.error error) →
      .notify ns ∉ more → ((crowd.act e).after more).LooksUp ns := by
  intro crowd
  have orderly : crowd.Orderly := Orderly.empty.after events
  refine ⟨?_, ?_, ?_, ?_, ?_⟩
  · intro ns i j first second
    exact orderly.once first.holder second.holder
  · intro ns i key more created
    have holder := (orderly.ended_after created more).holder nofun
    refine ⟨fun j key' other => (orderly.after more).once (other.holder nofun) holder,
      fun j m asks within => ?_⟩
    obtain ⟨ns', underWay, named⟩ := (orderly.after more).asks_create asks
    rw [named, Option.some.injEq] at within
    subst within
    have same := (orderly.after more).once underWay.holder holder
    exact (orderly.ended_after created more).not_underWay (same ▸ underWay)
  · intro ns i result more ended real
    exact orderly.ignores_after ended real more
  · intro ns more ignores idle
    obtain other | known := ignores.known
    · exact ignores_of_known (.inl other)
    · obtain ⟨i, holder⟩ := (orderly.held ns).mp known
      obtain underWay | ⟨result, ended, real⟩ := holder.cases
      · exact absurd underWay (idle i)
      · exact orderly.ignores_after ended real (.notify ns :: more)
  · intro ns i e error more underWay ended others
    have forgotten := (orderly.act e).free (orderly.forgotten underWay ended) others
    obtain ⟨t, found, rfl, searching⟩ := underWay
    exact looksUp_of_new (orderly.tasks t (List.mem_of_getElem? found) searching).1 forgotten

end Crowd

namespace Sample

/-- Surroundings in which the guest cluster of a namespace is found in some way, and everything else
that a search asks goes well. -/
def finds (found : Except OperatorError (Option GuestCluster)) : (c : Call) → Answer c
  | .findCluster _ => found
  | .markSeen _ => true
  | .providerName _ => .ok (some "hv-1")
  | .networkName _ => .ok none
  | .isServed _ => .ok false
  | .ranges => [{
      name := "blue"
      cidr := "10.0.0.0/28"
      span := { cidr := ⟨.ofOctets 10 0 0 0, 28, by decide⟩, bounds := none }
      provider := some "hv-1" }]
  | .create _ => .ok ()
  | .forget _ | .settle | .report _ => ()

/-- The first search goes on, and the guest cluster cannot be looked up. -/
def fails : Event := .turn 0 (finds (.error (.io "closed")))

/-- The first search goes on, and everything goes well. -/
def goesWell : Event := .turn 0 (finds (.ok (some { name := "web" })))

/-- A namespace of a guest cluster is notified of twice, and the first search waits. -/
def twice : List Event := [.notify "c-m-web", .notify "c-m-web", fails]

/-- A search goes well up to its end. -/
def created : List Event := .notify "c-m-web" :: List.replicate 7 goesWell

end Sample

namespace Crowd

/-- The first search fails in the lookup, and the next notification looks the cluster up again. A
search that creates an object stays alone, and further notifications are ignored. -/
theorem one_search_of_web :
    (((Crowd.after {} Sample.twice).act Sample.fails).after [.notify "c-m-other"]).LooksUp
        "c-m-web" ∧
      ((Crowd.after {} Sample.created).after [.notify "c-m-web"]).Ignores "c-m-web" ∧
      ∀ j key, ((Crowd.after {} Sample.created).after [.notify "c-m-web"]).Ended "c-m-web" j
        (.ok (.created key)) → j = 0 := by
  have underWay : (Crowd.after {} Sample.twice).UnderWay "c-m-web" 0 := by decide +kernel
  have failed : ((Crowd.after {} Sample.twice).act Sample.fails).Ended "c-m-web" 0
      (.error (.io "closed")) := by decide +kernel
  have ended : (Crowd.after {} Sample.created).Ended "c-m-web" 0
      (.ok (.created ⟨"c-m-web", "web-kubevip"⟩)) := by decide +kernel
  obtain ⟨-, -, -, -, again⟩ := one_search_per_namespace Sample.twice
  obtain ⟨-, alone, dealtWith, -⟩ := one_search_per_namespace Sample.created
  refine ⟨again _ 0 _ _ _ underWay failed (by simp), dealtWith _ 0 _ _ ended nofun, ?_⟩
  exact (alone _ 0 _ _ ended).1

/-- A search was ignored while another one was under way, so it has ended without a failure. The
other one fails afterwards, and the next notification is not ignored. -/
theorem ignored_then_searched : ∃ events ns i result more,
    (Crowd.after {} events).Ended ns i (.ok result) ∧
      ¬((Crowd.after {} events).after more).Ignores ns := by
  refine ⟨Sample.twice, "c-m-web", 1, .ignored, [Sample.fails], by decide +kernel,
    fun ignores => ?_⟩
  have guest : IsGuestNs "c-m-web" := by decide +kernel
  have forgotten : ¬"c-m-web" ∈ ((Crowd.after {} Sample.twice).after [Sample.fails]).seen := by
    decide +kernel
  exact ignores.known.elim (absurd guest) forgotten

/-- At a site the rest of a search is carried out without interruption. That is one of the orders in
which the searches can go on. -/
theorem exists_turns_of_run {i : Nat} (d : Step (Except OperatorError Result))
    (site : InMemory.Site) (tasks : List Task)
    (found : tasks[i]? = some ⟨ns, (onward d site.operator.seen).1⟩) :
    ∃ answers : List ((c : Call) → Answer c),
      Crowd.after ⟨(onward d site.operator.seen).2, tasks⟩ (answers.map (.turn i)) =
        ⟨((d.run InMemory.Site.answerDiscovery).run site).2.operator.seen,
          tasks.set i ⟨ns, .done ((d.run InMemory.Site.answerDiscovery).run site).1⟩⟩ := by
  induction d generalizing site tasks with
  | done outcome =>
    obtain ⟨inside, same⟩ := List.getElem?_eq_some_iff.mp found
    refine ⟨[], congrArg (Crowd.mk _) ?_⟩
    change tasks = tasks.set i ⟨ns, (onward (.done outcome) site.operator.seen).1⟩
    rw [← same, List.set_getElem_self]
  | ask c next ih =>
    rw [run_ask]
    cases known : remembered site.operator.seen c with
    | some answered =>
      obtain ⟨a, seen⟩ := answered
      rw [onward, known] at found ⊢
      obtain ⟨answers, same⟩ :=
        ih a { site with operator := { site.operator with seen } } tasks found
      refine ⟨answers, same.trans ?_⟩
      rw [StateT.run_bind, answerDiscovery_remembered known]
      rfl
    | none =>
      rw [onward, known] at found ⊢
      have inside : i < tasks.length := (List.getElem?_eq_some_iff.mp found).1
      let answer (c : Call) : Answer c := ((InMemory.Site.answerDiscovery c).run site).1
      have acts : Crowd.act ⟨site.operator.seen, tasks⟩ (.turn i answer) =
          ⟨(onward (next (answer c)) site.operator.seen).2,
            tasks.set i ⟨ns, (onward (next (answer c)) site.operator.seen).1⟩⟩ := by
        rw [act, found]
      rw [← answerDiscovery_spares known] at acts
      obtain ⟨answers, same⟩ := ih (answer c) ((InMemory.Site.answerDiscovery c).run site).2 _
        (List.getElem?_set_self inside)
      rw [List.set_set, ← acts, answerDiscovery_spares known] at same
      exact ⟨answer :: answers, same⟩

/-- So a site that deals with a notification at one go does nothing but what may happen here. -/
theorem exists_turns_of_handle {crowd : Crowd} {site : InMemory.Site}
    (same : crowd.seen = site.operator.seen) (ns : String) :
    ∃ answers : List ((c : Call) → Answer c),
      (crowd.act (.notify ns)).after (answers.map (.turn crowd.tasks.length)) =
        ⟨(((handle ns).run InMemory.Site.answerDiscovery).run site).2.operator.seen,
          crowd.tasks ++
            [⟨ns, .done (((handle ns).run InMemory.Site.answerDiscovery).run site).1⟩]⟩ := by
  obtain ⟨answers, goes⟩ := exists_turns_of_run (handle ns) site
    (crowd.tasks ++ [⟨ns, (onward (handle ns) site.operator.seen).1⟩]) List.getElem?_concat_length
  refine ⟨answers, ?_⟩
  rw [act, same]
  simpa using goes

end Crowd

end FloatingAddress.Discovery
