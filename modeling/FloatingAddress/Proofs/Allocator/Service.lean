import FloatingAddress.Proofs.Allocator.Counting

/-!
# An allocator at the service of many owners

An allocator serves requests one after the other, and a request that it refuses leaves it as it is.
What was asked and answered is the record of its service. Whatever was asked before, a range holds
nothing but its usable addresses, so it never holds more of them than it has. An address that was
acquired stays with its owner, and nobody else acquires it, until it is given back or its range is
forgotten.
-/

namespace FloatingAddress

namespace Allocator

inductive Request
  | register (name cidr : String)
  | deregister (name : String)
  | acquire (range owner : String) (requested : Option Ipv4)
  | release (range : String) (address : Ipv4)
deriving DecidableEq

inductive Reply
  | registered (span : UsableSpan)
  | deregistered (count : Nat)
  | acquired (address : Ipv4)
  /-- The address was given back, if anybody held it. -/
  | released (held : Bool)
  | refused (error : AllocationError)
deriving DecidableEq

/-- The answer of an operation that may fail. If it fails, the allocator stays as it is: an operation
returns an allocator on success only, so this follows from the type of its result and says nothing
about what the operation does. -/
def settle {α : Type} (alloc : Allocator) (reply : α → Reply) :
    Except AllocationError (α × Allocator) → Reply × Allocator
  | .error error => (.refused error, alloc)
  | .ok (a, after) => (reply a, after)

def serve (alloc : Allocator) : Request → Reply × Allocator
  | .register name cidr => alloc.settle .registered (alloc.register name cidr)
  | .deregister name => alloc.settle .deregistered (alloc.deregister name)
  | .acquire range owner requested => alloc.settle .acquired (alloc.acquire range owner requested)
  | .release range address =>
    (.released (alloc.release range address).1, (alloc.release range address).2)

variable {alloc after : Allocator} {request : Request} {range owner : String} {address : Ipv4}

/-- What a request can come to. -/
inductive Outcome (alloc : Allocator) : Request → Reply × Allocator → Prop
  | refused (request : Request) (error : AllocationError) :
    Outcome alloc request (.refused error, alloc)
  | registered {name cidr : String} {span : UsableSpan} {after : Allocator}
    (done : alloc.register name cidr = .ok (span, after)) :
    Outcome alloc (.register name cidr) (.registered span, after)
  | deregistered {name : String} {count : Nat} {after : Allocator}
    (done : alloc.deregister name = .ok (count, after)) :
    Outcome alloc (.deregister name) (.deregistered count, after)
  | acquired {range owner : String} {requested : Option Ipv4} {address : Ipv4} {after : Allocator}
    (done : alloc.acquire range owner requested = .ok (address, after)) :
    Outcome alloc (.acquire range owner requested) (.acquired address, after)
  | released (range : String) (address : Ipv4) :
    Outcome alloc (.release range address)
      (.released (alloc.release range address).1, (alloc.release range address).2)

theorem outcome_serve (alloc : Allocator) (request : Request) :
    Outcome alloc request (alloc.serve request) := by
  cases request with
  | register name cidr =>
    rw [serve]
    cases done : alloc.register name cidr with
    | error error => exact .refused _ error
    | ok result => exact .registered done
  | deregister name =>
    rw [serve]
    cases done : alloc.deregister name with
    | error error => exact .refused _ error
    | ok result => exact .deregistered done
  | acquire range owner requested =>
    rw [serve]
    cases done : alloc.acquire range owner requested with
    | error error => exact .refused _ error
    | ok result => exact .acquired done
  | release range address => exact .released range address

/-- A request that is refused leaves the allocator as it is. -/
theorem Outcome.of_refused {error : AllocationError}
    (outcome : Outcome alloc request (.refused error, after)) : after = alloc := by
  cases outcome
  rfl

/-- Every range has the usable span of a network and holds nothing but usable addresses. -/
def Confined (alloc : Allocator) : Prop :=
  ∀ name span, alloc.span name = some span → (∃ net, UsableSpan.ofCidr net = span) ∧
    ∀ address, (alloc.owner name address).isSome → span.contains address

theorem confined_empty : Confined .empty := by
  simp [Confined]

/-- An address that is acquired is usable, and nobody else has held it. -/
theorem Confined.acquired (confined : alloc.Confined) {requested : Option Ipv4} {span : UsableSpan}
    (known : alloc.span range = some span)
    (done : alloc.acquire range owner requested = .ok (address, after)) :
    span.contains address ∧ ∀ holder, alloc.owner range address = some holder → holder = owner := by
  obtain ⟨⟨net, rfl⟩, -⟩ := confined range span known
  obtain ⟨usable, unheld, -⟩ := acquire_granted known (UsableSpan.ofCidr_ordered net) done
  refine ⟨usable, fun holder held => ?_⟩
  obtain unheld | ⟨own, -⟩ := unheld
  · rw [unheld] at held
    cases held
  · exact Option.some.inj (held.symm.trans own)

/-- Every request keeps to the usable addresses. -/
theorem Confined.step {reply : Reply} (confined : alloc.Confined)
    (outcome : Outcome alloc request (reply, after)) : after.Confined := by
  intro n known isKnown
  cases outcome with
  | refused => exact confined n known isKnown
  | registered done =>
    obtain ⟨-, parsed, spans, owners⟩ := register_ok done
    rw [spans] at isKnown
    simp only [owners]
    split at isKnown
    next same =>
      cases isKnown
      obtain ⟨net, -, formed⟩ := Option.map_eq_some_iff.mp parsed
      exact ⟨⟨net, formed⟩, by simp [same]⟩
    next other => simpa only [if_neg other] using confined n known isKnown
  | deregistered done =>
    obtain ⟨-, spans, owners⟩ := deregister_ok done
    rw [spans] at isKnown
    simp only [owners]
    split at isKnown
    · cases isKnown
    next other => simpa only [if_neg other] using confined n known isKnown
  | acquired done =>
    obtain ⟨-, spans, owners⟩ := acquire_ok done
    rw [spans] at isKnown
    obtain ⟨network, usable⟩ := confined n known isKnown
    refine ⟨network, fun a held => ?_⟩
    rw [owners] at held
    split at held
    next hit =>
      obtain ⟨rfl, rfl⟩ := hit
      exact (confined.acquired isKnown done).1
    · exact usable a held
  | released range address =>
    rw [span_release] at isKnown
    obtain ⟨network, usable⟩ := confined n known isKnown
    refine ⟨network, fun a held => ?_⟩
    rw [owner_release] at held
    split at held
    · cases held
    · exact usable a held

/-- An address stays with its owner unless it is given back or its range is forgotten, and whoever
acquires it is its owner already. -/
theorem Confined.keeps {reply : Reply} (confined : alloc.Confined)
    (outcome : Outcome alloc request (reply, after))
    (held : alloc.owner range address = some owner)
    (unreleased : request ≠ .release range address)
    (remembered : request ≠ .deregister range) :
    after.owner range address = some owner ∧ ∀ owner' requested,
      request = .acquire range owner' requested → reply = .acquired address → owner' = owner := by
  cases outcome with
  | refused _ error => exact ⟨held, by simp⟩
  | @registered name cidr _ _ done =>
    obtain ⟨fresh, -, -, owners⟩ := register_ok done
    refine ⟨?_, by simp⟩
    rw [owners, if_neg, held]
    rintro rfl
    rw [owner_of_span_eq_none fresh] at held
    cases held
  | deregistered done =>
    obtain ⟨-, -, owners⟩ := deregister_ok done
    refine ⟨?_, by simp⟩
    rw [owners, if_neg, held]
    rintro rfl
    exact remembered rfl
  | @acquired range' owner' _ address' _ done =>
    obtain ⟨known, -, owners⟩ := acquire_ok done
    obtain ⟨span, known⟩ := Option.isSome_iff_exists.mp known
    obtain ⟨-, others⟩ := confined.acquired known done
    constructor
    · rw [owners]
      split
      next hit =>
        obtain ⟨rfl, rfl⟩ := hit
        rw [others owner held]
      · exact held
    · rintro _ _ ⟨⟩ ⟨⟩
      exact (others owner held).symm
  | released range' address' =>
    refine ⟨?_, by simp⟩
    rw [owner_release, if_neg, held]
    rintro ⟨rfl, rfl⟩
    exact unreleased rfl

/-- An allocator serves requests one after the other and comes to another one. The record tells what
was asked and answered, the earliest first. -/
inductive Serves : Allocator → List (Request × Reply) → Allocator → Prop
  | nothing (alloc : Allocator) : Serves alloc [] alloc
  | request {alloc after : Allocator} {record : List (Request × Reply)} (request : Request)
    (rest : Serves (alloc.serve request).2 record after) :
    Serves alloc ((request, (alloc.serve request).1) :: record) after

/-- Serve all requests of a list, and keep the record. -/
def serveAll (alloc : Allocator) : List Request → List (Request × Reply) × Allocator
  | [] => ([], alloc)
  | request :: rest =>
    let (record, after) := (alloc.serve request).2.serveAll rest
    ((request, (alloc.serve request).1) :: record, after)

theorem serves_serveAll (alloc : Allocator) (requests : List Request) :
    Serves alloc (alloc.serveAll requests).1 (alloc.serveAll requests).2 := by
  induction requests generalizing alloc with
  | nil => exact .nothing alloc
  | cons request rest ih => exact .request request (ih _)

variable {record earlier later : List (Request × Reply)}

/-- The first entry of a record is what the first request came to. -/
theorem Serves.head {reply : Reply} (serves : Serves alloc ((request, reply) :: record) after) :
    ∃ next, Outcome alloc request (reply, next) ∧ Serves next record after := by
  cases serves with
  | request _ rest => exact ⟨_, outcome_serve alloc request, rest⟩

theorem Serves.split (serves : Serves alloc (earlier ++ later) after) :
    ∃ middle, Serves alloc earlier middle ∧ Serves middle later after := by
  induction earlier generalizing alloc with
  | nil => exact ⟨alloc, .nothing alloc, serves⟩
  | cons entry earlier ih =>
    cases serves with
    | request request rest =>
      obtain ⟨middle, first, second⟩ := ih rest
      exact ⟨middle, .request request first, second⟩

theorem Confined.serves (confined : alloc.Confined) (serves : Serves alloc record after) :
    after.Confined := by
  induction serves with
  | nothing => exact confined
  | @request alloc _ _ request _ ih => exact ih (confined.step (outcome_serve alloc request))

/-- An address stays with its owner throughout a service in which it is not given back and its range
is not forgotten, and nobody else acquires it. -/
theorem Confined.keepsServing (confined : alloc.Confined) (serves : Serves alloc record after)
    (held : alloc.owner range address = some owner)
    (kept : ∀ entry ∈ record, entry.1 ≠ .release range address ∧ entry.1 ≠ .deregister range) :
    after.owner range address = some owner ∧ ∀ owner' requested,
      (.acquire range owner' requested, .acquired address) ∈ record → owner' = owner := by
  induction serves with
  | nothing => exact ⟨held, by simp⟩
  | @request alloc after record request _ ih =>
    have outcome := outcome_serve alloc request
    obtain ⟨⟨unreleased, remembered⟩, kept⟩ := List.forall_mem_cons.mp kept
    obtain ⟨held', first⟩ := confined.keeps outcome held unreleased remembered
    obtain ⟨held'', others⟩ := ih (confined.step outcome) held' kept
    refine ⟨held'', fun owner' requested member => ?_⟩
    obtain same | member := List.mem_cons.mp member
    · obtain ⟨asked, answered⟩ := Prod.mk.inj same
      exact first owner' requested asked.symm answered.symm
    · exact others owner' requested member

/-- Whatever an allocator has served since it was new, every held address is usable in its range,
and no range holds more addresses than it has. Whoever has acquired an address holds it, and nobody
else has acquired it since, as long as it is not given back and its range not forgotten. A request
that is refused leaves the allocator as it is. -/
theorem Serves.held_exclusively (serves : Serves .empty record alloc) :
    (∀ range address owner, alloc.owner range address = some owner →
      ∃ span, alloc.span range = some span ∧ span.contains address) ∧
    (∀ range span, alloc.span range = some span →
      (alloc.allocated range).length ≤ span.capacity.toNat) ∧
    (∀ earlier later range owner requested address,
      record = earlier ++ (.acquire range owner requested, .acquired address) :: later →
      (∀ entry ∈ later, entry.1 ≠ .release range address ∧ entry.1 ≠ .deregister range) →
      alloc.owner range address = some owner ∧ ∀ owner' requested',
        (.acquire range owner' requested', .acquired address) ∈ later → owner' = owner) ∧
    ∀ request error, (alloc.serve request).1 = .refused error →
      (alloc.serve request).2 = alloc := by
  have confined := confined_empty.serves serves
  refine ⟨fun range address owner held => ?_, fun range span known => ?_, ?_,
    fun request error refused => ?_⟩
  · cases known : alloc.span range with
    | none =>
      rw [owner_of_span_eq_none known] at held
      cases held
    | some span => exact ⟨span, rfl, (confined range span known).2 address (by simp [held])⟩
  · obtain ⟨⟨net, rfl⟩, usable⟩ := confined range span known
    exact length_allocated_le_capacity usable
  · rintro earlier later range owner requested address rfl kept
    obtain ⟨middle, before, rest⟩ := serves.split
    obtain ⟨next, outcome, since⟩ := rest.head
    have confined' := (confined_empty.serves before).step outcome
    have held : next.owner range address = some owner := by
      cases outcome with
      | acquired done => rw [(acquire_ok done).2.2, if_pos ⟨rfl, rfl⟩]
    exact confined'.keepsServing since held kept
  · have answered : alloc.serve request = (.refused error, (alloc.serve request).2) :=
      Prod.ext refused rfl
    have outcome := outcome_serve alloc request
    rw [answered] at outcome
    exact outcome.of_refused

end Allocator

namespace Sample

/-- Two owners ask for addresses of one range, and the second one asks for what the first one has. -/
def contested : List Allocator.Request :=
  [.register "lab" "10.0.0.0/29", .acquire "lab" "web/one" none,
    .acquire "lab" "web/two" (some (.ofOctets 10 0 0 1)),
    .acquire "lab" "web/one" (some (.ofOctets 10 0 0 1)), .acquire "lab" "web/two" none,
    .release "lab" (.ofOctets 10 0 0 2), .register "lab" "10.0.0.0/30"]

end Sample

namespace Allocator

/-- The first owner has the address still, and it is the only one that has acquired it. -/
theorem held_exclusively_contested :
    (Allocator.empty.serveAll Sample.contested).2.owner "lab" (.ofOctets 10 0 0 1) =
        some "web/one" ∧
      ∀ owner requested, (.acquire "lab" owner requested, .acquired (.ofOctets 10 0 0 1)) ∈
        (Allocator.empty.serveAll Sample.contested).1.drop 2 → owner = "web/one" := by
  have serves := serves_serveAll .empty Sample.contested
  obtain ⟨-, -, exclusive, -⟩ := serves.held_exclusively
  refine exclusive ((Allocator.empty.serveAll Sample.contested).1.take 1) _ "lab" "web/one" none
    (.ofOctets 10 0 0 1) ?_ ?_
  · decide +kernel
  · decide +kernel

end Allocator

end FloatingAddress
