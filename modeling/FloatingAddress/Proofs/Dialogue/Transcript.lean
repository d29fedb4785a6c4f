import FloatingAddress.Proofs.Dialogue.Sharing

/-!
# What is said in a run

A transcript lists the questions of a run together with their answers. `MayGo` tells which
transcripts a dialogue can have at all, whoever answers. `Answered` tells that the answers are those
of a state that changes with them. What a program does follows from the first, what its surroundings
do from the second, and a run has both.
-/

namespace FloatingAddress.Dialogue

variable {Call : Type} {Answer : Call → Type} {α β σ : Type}

/-- A question and its answer. -/
abbrev Exchange (Call : Type) (Answer : Call → Type) := (c : Call) × Answer c

/-- A dialogue may go like this, and then this is its result. -/
inductive MayGo : Dialogue Call Answer α → List (Exchange Call Answer) → α → Prop
  | done (a : α) : MayGo (.done a) [] a
  | ask {c : Call} {next : Answer c → Dialogue Call Answer α} {talk : List (Exchange Call Answer)}
    {b : α} (a : Answer c) (rest : MayGo (next a) talk b) : MayGo (.ask c next) (⟨c, a⟩ :: talk) b

/-- What has a property comes after a beginning that has nothing with the property. -/
theorem split_after {α : Type} {P : α → Prop} {head tail before after : List α} {x : α}
    (split : head ++ tail = before ++ x :: after) (without : ∀ y ∈ head, ¬P y) (has : P x) :
    ∃ between, before = head ++ between ∧ tail = between ++ x :: after := by
  obtain ⟨between, rfl, rfl⟩ | ⟨between, rfl, same⟩ := List.append_eq_append_iff.mp split
  · exact ⟨between, rfl, rfl⟩
  · cases between with
    | nil => exact ⟨[], by simp, by simpa using same.symm⟩
    | cons y between =>
      obtain ⟨rfl, -⟩ := List.cons.inj same
      exact absurd has (without x (by simp))

section MayGo

variable {talk : List (Exchange Call Answer)} {b : β}

theorem mayGo_done_iff {a : β} :
    MayGo (.done a : Dialogue Call Answer β) talk b ↔ talk = [] ∧ b = a := by
  constructor
  · rintro ⟨⟩
    exact ⟨rfl, rfl⟩
  · rintro ⟨rfl, rfl⟩
    exact .done b

theorem mayGo_ask_iff {c : Call} {next : Answer c → Dialogue Call Answer β} :
    MayGo (.ask c next) talk b ↔ ∃ a rest, talk = ⟨c, a⟩ :: rest ∧ MayGo (next a) rest b := by
  constructor
  · rintro ⟨⟩
    exact ⟨_, _, rfl, by assumption⟩
  · rintro ⟨a, rest, rfl, h⟩
    exact .ask a h

/-- First one dialogue goes on to its end, and then the other. -/
theorem MayGo.of_bind {d : Dialogue Call Answer α} {f : α → Dialogue Call Answer β}
    (h : MayGo (d >>= f) talk b) :
    ∃ a first rest, MayGo d first a ∧ MayGo (f a) rest b ∧ talk = first ++ rest := by
  induction d generalizing talk with
  | done a => exact ⟨a, [], talk, .done a, h, rfl⟩
  | ask c next ih =>
    obtain ⟨answer, talk', rfl, goesOn⟩ := mayGo_ask_iff.mp h
    obtain ⟨a, first, rest, goes, further, rfl⟩ := ih answer goesOn
    exact ⟨a, _, rest, .ask answer goes, further, rfl⟩

end MayGo

/-- Whatever the answers are, the dialogue asks nothing but what it may. -/
def Only (may : Call → Prop) : Dialogue Call Answer α → Prop
  | .done _ => True
  | .ask c next => may c ∧ ∀ a, (next a).Only may

section Only

variable {may : Call → Prop} {d : Dialogue Call Answer α}

theorem only_of_forall (all : ∀ c, may c) (d : Dialogue Call Answer α) : d.Only may := by
  induction d with
  | done a => trivial
  | ask c next ih => exact ⟨all c, ih⟩

theorem Only.bind {f : α → Dialogue Call Answer β} (only : d.Only may)
    (rest : ∀ a, (f a).Only may) : (d >>= f).Only may := by
  induction d with
  | done a => exact rest a
  | ask c next ih => exact ⟨only.1, fun a => ih a (only.2 a)⟩

/-- What the questions keep up holds after a run. -/
theorem Only.play {answer : (c : Call) → σ → Answer c × σ} {holds : σ → Prop} (only : d.Only may)
    (step : ∀ c s, may c → holds s → holds (answer c s).2) {s : σ} (start : holds s) :
    holds (d.play answer s).2 := by
  induction d generalizing s with
  | done a => exact start
  | ask c next ih => exact ih _ (only.2 _) (step c s only.1 start)

end Only

section Run

variable (answer : (c : Call) → σ → Answer c × σ)

/-- The questions and answers of a run. -/
def transcript : Dialogue Call Answer α → σ → List (Exchange Call Answer)
  | .done _, _ => []
  | .ask c next, s => ⟨c, (answer c s).1⟩ :: (next (answer c s).1).transcript (answer c s).2

@[simp] theorem transcript_done (a : α) (s : σ) :
    (done a : Dialogue Call Answer α).transcript answer s = [] := rfl

@[simp] theorem transcript_ask (c : Call) (next : Answer c → Dialogue Call Answer α) (s : σ) :
    (ask c next).transcript answer s =
      ⟨c, (answer c s).1⟩ :: (next (answer c s).1).transcript answer (answer c s).2 := rfl

theorem transcript_bind (d : Dialogue Call Answer α) (f : α → Dialogue Call Answer β) (s : σ) :
    (d >>= f).transcript answer s = d.transcript answer s ++
      (f (d.play answer s).1).transcript answer (d.play answer s).2 := by
  induction d generalizing s with
  | done a => rfl
  | ask c next ih =>
    rw [ask_bind, transcript_ask, ih, transcript_ask, play_ask, List.cons_append]

/-- A run is one of the ways in which a dialogue may go. -/
theorem mayGo_transcript (d : Dialogue Call Answer α) (s : σ) :
    MayGo d (d.transcript answer s) (d.play answer s).1 := by
  induction d generalizing s with
  | done a => exact .done a
  | ask c next ih => exact .ask _ (ih _ _)

/-- The answers of a transcript are those of a state that changes from the first state to the
second. -/
inductive Answered : σ → List (Exchange Call Answer) → σ → Prop
  | nil (s : σ) : Answered s [] s
  | cons {s s' : σ} {c : Call} {talk : List (Exchange Call Answer)}
    (rest : Answered (answer c s).2 talk s') : Answered s (⟨c, (answer c s).1⟩ :: talk) s'

theorem answered_transcript (d : Dialogue Call Answer α) (s : σ) :
    Answered answer s (d.transcript answer s) (d.play answer s).2 := by
  induction d generalizing s with
  | done a => exact .nil s
  | ask c next ih => exact .cons (ih _ _)

variable {answer}

theorem answered_nil_iff {s s' : σ} : Answered answer s [] s' ↔ s' = s := by
  constructor
  · rintro ⟨⟩
    rfl
  · rintro rfl
    exact .nil s'

theorem answered_cons_iff {s s' : σ} {x : Exchange Call Answer}
    {talk : List (Exchange Call Answer)} :
    Answered answer s (x :: talk) s' ↔
      x.2 = (answer x.1 s).1 ∧ Answered answer (answer x.1 s).2 talk s' := by
  constructor
  · rintro ⟨⟩
    exact ⟨rfl, by assumption⟩
  · obtain ⟨c, a⟩ := x
    rintro ⟨given, rest⟩
    dsimp only at given
    subst given
    exact .cons rest

/-- The answers of two parts of a transcript meet in a state in between. -/
theorem answered_append_iff {s s' : σ} {first rest : List (Exchange Call Answer)} :
    Answered answer s (first ++ rest) s' ↔
      ∃ between, Answered answer s first between ∧ Answered answer between rest s' := by
  induction first generalizing s with
  | nil => simp [answered_nil_iff]
  | cons x first ih =>
    rw [List.cons_append, answered_cons_iff, ih]
    simp only [answered_cons_iff, and_assoc, exists_and_left]

/-- What every answer keeps up, a transcript keeps up. -/
theorem Answered.keeps {holds : σ → σ → Prop} (refl : ∀ s, holds s s)
    (trans : ∀ {s s' s''}, holds s s' → holds s' s'' → holds s s'')
    (step : ∀ c s, holds s (answer c s).2) {s s' : σ} {talk : List (Exchange Call Answer)}
    (h : Answered answer s talk s') : holds s s' := by
  induction h with
  | nil s => exact refl s
  | cons _ ih => exact trans (step _ _) ih

/-- A part of the state that changes with the questions only follows from the questions asked. -/
theorem Answered.foldl (part : σ → β) (change : β → Call → β)
    (step : ∀ c s, part (answer c s).2 = change (part s) c) {s s' : σ}
    {talk : List (Exchange Call Answer)} (h : Answered answer s talk s') :
    part s' = talk.foldl (fun b x => change b x.1) (part s) := by
  induction h with
  | nil s => rfl
  | cons _ ih => rw [ih, step, List.foldl_cons]

/-- Every answer was given by some state of the run. -/
theorem Answered.exists_of_mem {s s' : σ} {talk : List (Exchange Call Answer)}
    (h : Answered answer s talk s') {x : Exchange Call Answer} (member : x ∈ talk) :
    ∃ t, x.2 = (answer x.1 t).1 := by
  induction h with
  | nil s => cases member
  | @cons s s' c talk rest ih =>
    obtain rfl | further := List.mem_cons.mp member
    · exact ⟨s, rfl⟩
    · exact ih further

end Run

end FloatingAddress.Dialogue
