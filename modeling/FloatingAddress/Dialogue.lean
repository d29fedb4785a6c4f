/-!
# Computations that ask their surroundings

What the operator does depends on answers from outside: from the cluster API, from guest clusters,
from the state that several tasks share. A dialogue is such a computation with every question
made visible. It is either done, or it asks one question and goes on with the answer. Since the
questions are data, a run can be carried out, recorded, interleaved with another one, or halted
between two questions.
-/

namespace FloatingAddress

/-- A computation that asks questions of the type `Call`. -/
inductive Dialogue (Call : Type) (Answer : Call → Type) (α : Type)
  | done (result : α)
  | ask (call : Call) (next : Answer call → Dialogue Call Answer α)

namespace Dialogue

variable {Call : Type} {Answer : Call → Type} {α β : Type}

def call (c : Call) : Dialogue Call Answer (Answer c) := .ask c .done

/-- Go on with the result of a dialogue. -/
def andThen : Dialogue Call Answer α → (α → Dialogue Call Answer β) → Dialogue Call Answer β
  | .done result, f => f result
  | .ask c next, f => .ask c fun answer => (next answer).andThen f

instance : Monad (Dialogue Call Answer) where
  pure := .done
  bind := andThen

@[simp] theorem pure_eq (a : α) : (pure a : Dialogue Call Answer α) = .done a := rfl

@[simp] theorem done_bind (a : α) (f : α → Dialogue Call Answer β) :
    (Dialogue.done a >>= f) = f a := rfl

@[simp] theorem ask_bind (c : Call) (next : Answer c → Dialogue Call Answer α)
    (f : α → Dialogue Call Answer β) :
    (Dialogue.ask c next >>= f) = .ask c fun answer => next answer >>= f := rfl

/-- Carry a dialogue out, each question being answered by `answer`. -/
def run {m : Type → Type} [Monad m] (answer : (c : Call) → m (Answer c)) :
    Dialogue Call Answer α → m α
  | .done result => pure result
  | .ask c next => do run answer (next (← answer c))

@[simp] theorem run_done {m : Type → Type} [Monad m] (answer : (c : Call) → m (Answer c))
    (a : α) : (Dialogue.done a).run answer = (pure a : m α) := rfl

@[simp] theorem run_ask {m : Type → Type} [Monad m] (answer : (c : Call) → m (Answer c))
    (c : Call) (next : Answer c → Dialogue Call Answer α) :
    (Dialogue.ask c next).run answer = (do (next (← answer c)).run answer : m α) := rfl

/-- Answer the questions from a state that changes with them. -/
def play {σ : Type} (answer : (c : Call) → σ → Answer c × σ) (d : Dialogue Call Answer α)
    (s : σ) : α × σ :=
  match d with
  | .done result => (result, s)
  | .ask c next =>
    let (a, s) := answer c s
    (next a).play answer s

end Dialogue

end FloatingAddress
