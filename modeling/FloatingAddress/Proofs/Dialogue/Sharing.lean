import FloatingAddress.Dialogue

/-!
# Dialogues that share a state

Two tasks that ask questions of one state may take turns in any way, and between two questions of
one task the other may change the state. `interleave` carries out two dialogues by a given order
of turns. `Keeps` says what a task does whatever the others do in between, as long as they keep to
what it relies on.

Some questions have an answer that is known beforehand and do not touch the part of the state
that is looked at. `skip` leaves them out, and neither `play` nor `interleave` notices.
-/

namespace FloatingAddress.Dialogue

variable {Call : Type} {Answer : Call → Type} {α β σ τ ι : Type}

protected theorem bind_done (d : Dialogue Call Answer α) : d >>= done = d := by
  induction d with
  | done a => rfl
  | ask c next ih => rw [ask_bind, funext ih]

protected theorem bind_assoc {γ : Type} (d : Dialogue Call Answer α)
    (f : α → Dialogue Call Answer β) (g : β → Dialogue Call Answer γ) :
    d >>= f >>= g = d >>= fun a => f a >>= g := by
  induction d with
  | done a => rfl
  | ask c next ih => simp only [ask_bind, ih]

instance : LawfulMonad (Dialogue Call Answer) :=
  LawfulMonad.mk' _ Dialogue.bind_done (fun _ _ => rfl) Dialogue.bind_assoc

section Play

variable (answer : (c : Call) → σ → Answer c × σ)

@[simp] theorem play_done (a : α) (s : σ) :
    (done a : Dialogue Call Answer α).play answer s = (a, s) := rfl

@[simp] theorem play_ask (c : Call) (next : Answer c → Dialogue Call Answer α) (s : σ) :
    (ask c next).play answer s = (next (answer c s).1).play answer (answer c s).2 := rfl

theorem play_bind (d : Dialogue Call Answer α) (f : α → Dialogue Call Answer β) (s : σ) :
    (d >>= f).play answer s = (f (d.play answer s).1).play answer (d.play answer s).2 := by
  induction d generalizing s with
  | done a => rfl
  | ask c next ih => rw [ask_bind, play_ask, ih, play_ask]

end Play

/-- Leave out the questions whose answers are known. -/
def skip (known : (c : Call) → Option (Answer c)) :
    Dialogue Call Answer α → Dialogue Call Answer α
  | .done a => .done a
  | .ask c next =>
    match known c with
    | some a => (next a).skip known
    | none => .ask c fun a => (next a).skip known

section Skip

variable {known : (c : Call) → Option (Answer c)}

theorem skip_ask_known {c : Call} {a : Answer c} (h : known c = some a)
    (next : Answer c → Dialogue Call Answer α) :
    (ask c next).skip known = (next a).skip known := by
  simp only [skip, h]

theorem skip_ask_unknown {c : Call} (h : known c = none)
    (next : Answer c → Dialogue Call Answer α) :
    (ask c next).skip known = .ask c fun a => (next a).skip known := by
  simp only [skip, h]

@[simp] theorem skip_bind (d : Dialogue Call Answer α) (f : α → Dialogue Call Answer β) :
    (d >>= f).skip known = d.skip known >>= fun a => (f a).skip known := by
  induction d with
  | done a => rfl
  | ask c next ih =>
    cases h : known c with
    | some a => rw [ask_bind, skip_ask_known h, skip_ask_known h, ih]
    | none => simp only [ask_bind, skip_ask_unknown h, ih]

end Skip

/-- A part of the state answers the questions as well as the whole does, apart from questions whose
answers are known. -/
structure Views (answer : (c : Call) → σ → Answer c × σ) (part : (c : Call) → τ → Answer c × τ)
    (view : σ → τ) (known : (c : Call) → Option (Answer c)) : Prop where
  /-- A question with a known answer does not change the part. -/
  silent : ∀ {c a} s, known c = some a → (answer c s).1 = a ∧ view (answer c s).2 = view s
  /-- Any other question is answered by the part. -/
  asked : ∀ {c} s, known c = none →
    (answer c s).1 = (part c (view s)).1 ∧ view (answer c s).2 = (part c (view s)).2

section Views

variable {answer : (c : Call) → σ → Answer c × σ} {part : (c : Call) → τ → Answer c × τ}
  {view : σ → τ} {known : (c : Call) → Option (Answer c)}

theorem Views.play (views : Views answer part view known) (d : Dialogue Call Answer α) (s : σ) :
    (d.skip known).play part (view s) = ((d.play answer s).1, view (d.play answer s).2) := by
  induction d generalizing s with
  | done a => rfl
  | ask c next ih =>
    cases h : known c with
    | some a =>
      obtain ⟨answered, same⟩ := views.silent s h
      rw [skip_ask_known h, play_ask, answered, ← ih, same]
    | none =>
      obtain ⟨answered, changed⟩ := views.asked s h
      rw [skip_ask_unknown h, play_ask, play_ask, ← answered, ← changed, ih]

end Views

def questions (answer : (c : Call) → σ → Answer c × σ) : Dialogue Call Answer α → σ → List Call
  | .done _, _ => []
  | .ask c next, s => c :: (next (answer c s).1).questions answer (answer c s).2

section Questions

variable {answer : (c : Call) → σ → Answer c × σ} {part : (c : Call) → τ → Answer c × τ}
  {view : σ → τ} {known : (c : Call) → Option (Answer c)}

@[simp] theorem questions_done (a : α) (s : σ) :
    (done a : Dialogue Call Answer α).questions answer s = [] := rfl

@[simp] theorem questions_ask (c : Call) (next : Answer c → Dialogue Call Answer α) (s : σ) :
    (ask c next).questions answer s =
      c :: (next (answer c s).1).questions answer (answer c s).2 := rfl

/-- Leaving out questions with known answers leaves the others, in the same order. -/
theorem Views.questions (views : Views answer part view known) (d : Dialogue Call Answer α)
    (s : σ) :
    (d.skip known).questions part (view s) =
      (d.questions answer s).filter fun c => (known c).isNone := by
  induction d generalizing s with
  | done a => rfl
  | ask c next ih =>
    rw [questions_ask]
    cases h : known c with
    | some a =>
      obtain ⟨answered, same⟩ := views.silent s h
      rw [skip_ask_known h, List.filter_cons_of_neg (by simp [h]), ← ih, answered, same]
    | none =>
      obtain ⟨answered, changed⟩ := views.asked s h
      rw [skip_ask_unknown h, questions_ask, List.filter_cons_of_pos (by simp [h]), ← answered,
        ← changed, ih]

end Questions

inductive Turn
  | first | second
deriving DecidableEq, Repr

/-- Carry out two dialogues on one state by the given turns. The result tells which questions were
asked, what both dialogues came to, and the final state. There is none if a dialogue has a turn
after its end, or if it has not come to its end after all turns. -/
def interleave (answer : (c : Call) → σ → Answer c × σ) :
    List Turn → Dialogue Call Answer α → Dialogue Call Answer β → σ →
      Option (List Call × α × β × σ)
  | [], .done a, .done b, s => some ([], a, b, s)
  | .first :: turns, .ask c next, e, s =>
    (interleave answer turns (next (answer c s).1) e (answer c s).2).map
      fun (trace, result) => (c :: trace, result)
  | .second :: turns, d, .ask c next, s =>
    (interleave answer turns d (next (answer c s).1) (answer c s).2).map
      fun (trace, result) => (c :: trace, result)
  | _, _, _, _ => none

section Interleave

variable {answer : (c : Call) → σ → Answer c × σ} {turns : List Turn}
  {d : Dialogue Call Answer α} {e : Dialogue Call Answer β} {s s' : σ}
  {trace : List Call} {a : α} {b : β}

/-- An interleaving has come to its end, or one of the dialogues asks and the rest follows. -/
theorem interleave_cases (h : interleave answer turns d e s = some (trace, a, b, s')) :
    (turns = [] ∧ d = .done a ∧ e = .done b ∧ trace = [] ∧ s' = s) ∨
      (∃ c next turns' trace', turns = .first :: turns' ∧ d = .ask c next ∧ trace = c :: trace' ∧
        interleave answer turns' (next (answer c s).1) e (answer c s).2 =
          some (trace', a, b, s')) ∨
      ∃ c next turns' trace', turns = .second :: turns' ∧ e = .ask c next ∧ trace = c :: trace' ∧
        interleave answer turns' d (next (answer c s).1) (answer c s).2 =
          some (trace', a, b, s') := by
  match turns, d, e with
  | [], .done _, .done _ =>
    simp only [interleave, Option.some.injEq, Prod.mk.injEq] at h
    obtain ⟨rfl, rfl, rfl, rfl⟩ := h
    exact .inl ⟨rfl, rfl, rfl, rfl, rfl⟩
  | .first :: turns, .ask c next, e =>
    simp only [interleave, Option.map_eq_some_iff] at h
    obtain ⟨⟨trace', result⟩, rest, same⟩ := h
    cases same
    exact .inr (.inl ⟨c, next, turns, trace', rfl, rfl, rfl, rest⟩)
  | .second :: turns, d, .ask c next =>
    simp only [interleave, Option.map_eq_some_iff] at h
    obtain ⟨⟨trace', result⟩, rest, same⟩ := h
    cases same
    exact .inr (.inr ⟨c, next, turns, trace', rfl, rfl, rfl, rest⟩)
  | [], .ask _ _, _ | [], .done _, .ask _ _ => simp [interleave] at h
  | .first :: _, .done _, .done _ | .first :: _, .done _, .ask _ _ => simp [interleave] at h
  | .second :: _, .done _, .done _ | .second :: _, .ask _ _, .done _ => simp [interleave] at h

/-- Leaving out questions with known answers leaves an interleaving of the rest. -/
theorem interleave_skip {part : (c : Call) → τ → Answer c × τ} {view : σ → τ}
    {known : (c : Call) → Option (Answer c)} (views : Views answer part view known)
    (h : interleave answer turns d e s = some (trace, a, b, s')) :
    ∃ turns', interleave part turns' (d.skip known) (e.skip known) (view s) =
      some (trace.filter fun c => (known c).isNone, a, b, view s') := by
  induction turns generalizing d e s trace with
  | nil =>
    obtain ⟨-, rfl, rfl, rfl, rfl⟩ | ⟨_, _, _, _, no, -⟩ | ⟨_, _, _, _, no, -⟩ := interleave_cases h
    · exact ⟨[], rfl⟩
    · cases no
    · cases no
  | cons turn turns ih =>
    obtain ⟨no, -⟩ | ⟨c, next, _, trace', same, rfl, rfl, rest⟩ |
      ⟨c, next, _, trace', same, rfl, rfl, rest⟩ := interleave_cases h
    · cases no
    · cases same
      obtain ⟨turns', rest'⟩ := ih rest
      cases h : known c with
      | some answered =>
        obtain ⟨given, same⟩ := views.silent s h
        refine ⟨turns', ?_⟩
        rw [skip_ask_known h, List.filter_cons_of_neg (by simp [h]), ← rest', given, same]
      | none =>
        obtain ⟨given, changed⟩ := views.asked s h
        refine ⟨.first :: turns', ?_⟩
        rw [skip_ask_unknown h, List.filter_cons_of_pos (by simp [h]), interleave, ← given,
          ← changed, rest']
        rfl
    · cases same
      obtain ⟨turns', rest'⟩ := ih rest
      cases h : known c with
      | some answered =>
        obtain ⟨given, same⟩ := views.silent s h
        refine ⟨turns', ?_⟩
        rw [skip_ask_known h, List.filter_cons_of_neg (by simp [h]), ← rest', given, same]
      | none =>
        obtain ⟨given, changed⟩ := views.asked s h
        refine ⟨.second :: turns', ?_⟩
        rw [skip_ask_unknown h, List.filter_cons_of_pos (by simp [h]), interleave, ← given,
          ← changed, rest']
        rfl

end Interleave

/-- A dialogue asks the questions of the trace one after the other, and has come to a certain
point of its run. -/
inductive Advance (answer : (c : Call) → σ → Answer c × σ) :
    Dialogue Call Answer α → σ → List Call → Dialogue Call Answer α → σ → Prop
  | here (d : Dialogue Call Answer α) (s : σ) : Advance answer d s [] d s
  | ask {c : Call} {next : Answer c → Dialogue Call Answer α} {s s' : σ} {trace : List Call}
    {d' : Dialogue Call Answer α} (rest : Advance answer (next (answer c s).1) (answer c s).2
      trace d' s') :
    Advance answer (.ask c next) s (c :: trace) d' s'

section Advance

variable {answer : (c : Call) → σ → Answer c × σ} {d d' : Dialogue Call Answer α}
  {s s' : σ} {trace : List Call}

/-- A run goes on from every point of it to the same end. -/
theorem Advance.play (h : Advance answer d s trace d' s') :
    d'.play answer s' = d.play answer s := by
  induction h with
  | here d s => rfl
  | ask _ ih => rw [ih, play_ask]

theorem Advance.trans {d'' : Dialogue Call Answer α} {s'' : σ} {trace' : List Call}
    (first : Advance answer d s trace d' s') (second : Advance answer d' s' trace' d'' s'') :
    Advance answer d s (trace ++ trace') d'' s'' := by
  induction first with
  | here d s => exact second
  | ask _ ih => exact .ask (ih second)

/-- The rest of a run, up to its end. -/
theorem Advance.toEnd (answer : (c : Call) → σ → Answer c × σ) (d : Dialogue Call Answer α)
    (s : σ) :
    ∃ trace, Advance answer d s trace (.done (d.play answer s).1) (d.play answer s).2 := by
  induction d generalizing s with
  | done a => exact ⟨[], .here _ _⟩
  | ask c next ih =>
    obtain ⟨trace, rest⟩ := ih (answer c s).1 (answer c s).2
    exact ⟨c :: trace, .ask rest⟩

/-- What is left of a dialogue after a number of questions, and the state then. A dialogue that ends
earlier is left as it is. -/
def pause (answer : (c : Call) → σ → Answer c × σ) :
    Nat → Dialogue Call Answer α → σ → Dialogue Call Answer α × σ
  | n + 1, .ask c next, s => (next (answer c s).1).pause answer n (answer c s).2
  | _, d, s => (d, s)

theorem Advance.pause (answer : (c : Call) → σ → Answer c × σ) (n : Nat)
    (d : Dialogue Call Answer α) (s : σ) :
    ∃ trace, Advance answer d s trace (d.pause answer n s).1 (d.pause answer n s).2 := by
  induction n generalizing d s with
  | zero => exact ⟨[], .here d s⟩
  | succ n ih =>
    cases d with
    | done a => exact ⟨[], .here _ s⟩
    | ask c next =>
      obtain ⟨trace, rest⟩ := ih (next (answer c s).1) (answer c s).2
      exact ⟨c :: trace, .ask rest⟩

/-- Leaving out questions with known answers leaves part of a run. -/
theorem Advance.skip {part : (c : Call) → τ → Answer c × τ} {view : σ → τ}
    {known : (c : Call) → Option (Answer c)} (views : Views answer part view known)
    (h : Advance answer d s trace d' s') :
    Advance part (d.skip known) (view s) (trace.filter fun c => (known c).isNone)
      (d'.skip known) (view s') := by
  induction h with
  | here d s => exact .here _ _
  | @ask c next s s' trace d' rest ih =>
    cases h : known c with
    | some a =>
      obtain ⟨answered, same⟩ := views.silent s h
      rw [skip_ask_known h, List.filter_cons_of_neg (by simp [h]), ← answered, ← same]
      exact ih
    | none =>
      obtain ⟨answered, changed⟩ := views.asked s h
      rw [skip_ask_unknown h, List.filter_cons_of_pos (by simp [h])]
      refine .ask ?_
      rw [← answered, ← changed]
      exact ih

/-- Before the first dialogue asks its next question, the second one has come to some point. -/
theorem interleave_ask {turns : List Turn} {c : Call} {next : Answer c → Dialogue Call Answer β}
    {b : β} {a : α}
    (h : interleave answer turns (.ask c next) d s = some (trace, b, a, s')) :
    ∃ d₁ s₁ before turns₁ after, Advance answer d s before d₁ s₁ ∧
      trace = before ++ c :: after ∧
      interleave answer turns₁ (next (answer c s₁).1) d₁ (answer c s₁).2 =
        some (after, b, a, s') := by
  induction turns generalizing d s trace with
  | nil =>
    obtain ⟨-, no, -⟩ | ⟨_, _, _, _, no, -⟩ | ⟨_, _, _, _, no, -⟩ := interleave_cases h
    · cases no
    · cases no
    · cases no
  | cons turn turns ih =>
    obtain ⟨no, -⟩ | ⟨_, _, _, after, same, asks, rfl, rest⟩ |
      ⟨c', next', _, after, same, rfl, rfl, rest⟩ := interleave_cases h
    · cases no
    · cases same
      cases asks
      exact ⟨d, s, [], turns, after, .here d s, rfl, rest⟩
    · cases same
      obtain ⟨d₁, s₁, before, turns₁, after', advance, rfl, rest'⟩ := ih rest
      exact ⟨d₁, s₁, c' :: before, turns₁, after', .ask advance, rfl, rest'⟩

/-- Once the first dialogue is done, the second one comes to its end. -/
theorem interleave_done {turns : List Turn} {b b' : β} {a : α}
    (h : interleave answer turns (.done b : Dialogue Call Answer β) d s =
      some (trace, b', a, s')) :
    Advance answer d s trace (.done a) s' := by
  induction turns generalizing d s trace with
  | nil =>
    obtain ⟨-, -, rfl, rfl, rfl⟩ | ⟨_, _, _, _, no, -⟩ | ⟨_, _, _, _, no, -⟩ := interleave_cases h
    · exact .here _ _
    · cases no
    · cases no
  | cons turn turns ih =>
    obtain ⟨no, -⟩ | ⟨_, _, _, _, -, no, -⟩ | ⟨c, next, _, _, same, rfl, rfl, rest⟩ :=
      interleave_cases h
    · cases no
    · cases no
    · cases same
      exact .ask (ih rest)

end Advance

/-- Whatever the others do to the state before each question, as long as they keep to `rely`, the
dialogue asks nothing but what it may, and its result is as `post` says. The answers may depend on
something that nobody knows beforehand. -/
def Keeps (answer : ι → (c : Call) → σ → Answer c × σ) (rely : σ → σ → Prop)
    (may : Call → σ → Prop) (post : α → Prop) : Dialogue Call Answer α → σ → Prop
  | .done a, _ => post a
  | .ask c next, s => ∀ s', rely s s' → may c s' ∧
    ∀ i, Keeps answer rely may post (next (answer i c s').1) (answer i c s').2

section Keeps

variable {answer : ι → (c : Call) → σ → Answer c × σ} {rely : σ → σ → Prop}
  {may : Call → σ → Prop} {post : α → Prop}

/-- The others may go on. -/
theorem Keeps.interfere (trans : ∀ {s s' s''}, rely s s' → rely s' s'' → rely s s'')
    {d : Dialogue Call Answer α} {s s' : σ} (h : Keeps answer rely may post d s)
    (change : rely s s') : Keeps answer rely may post d s' := by
  cases d with
  | done a => exact h
  | ask c next => exact fun s'' change' => h s'' (trans change change')

/-- Terms may be loosened, and more may be relied on. -/
theorem Keeps.mono {rely' : σ → σ → Prop} {may' : Call → σ → Prop} {d : Dialogue Call Answer α}
    {s : σ} (h : Keeps answer rely may post d s) (relies : ∀ s s', rely' s s' → rely s s')
    (allows : ∀ c s, may c s → may' c s) : Keeps answer rely' may' post d s := by
  induction d generalizing s with
  | done a => exact h
  | ask c next ih =>
    intro s' change
    obtain ⟨allowed, goesOn⟩ := h s' (relies s s' change)
    exact ⟨allows c s' allowed, fun i => ih _ (goesOn i)⟩

theorem Keeps.bind {post' : β → Prop} {d : Dialogue Call Answer α}
    {f : α → Dialogue Call Answer β} {s : σ} (h : Keeps answer rely may post d s)
    (rest : ∀ a s', post a → Keeps answer rely may post' (f a) s') :
    Keeps answer rely may post' (d >>= f) s := by
  induction d generalizing s with
  | done a => exact rest a s h
  | ask c next ih =>
    intro s' change
    obtain ⟨allowed, goesOn⟩ := h s' change
    exact ⟨allowed, fun i => ih _ (goesOn i)⟩

/-- It does not matter what the dialogue came to if nobody asks. -/
theorem Keeps.forget {d : Dialogue Call Answer α} {s : σ}
    (h : Keeps answer rely may (fun _ => True) d s) (b : β) :
    Keeps answer rely may (fun _ => True) (d >>= fun _ => .done b) s :=
  h.bind fun _ _ _ => trivial

/-- A dialogue that keeps to its terms may ask what it asks next, and keeps to them with the answer.
Questions with known answers are no matter as far as the terms allow them. -/
theorem Keeps.reply {whole : (c : Call) → τ → Answer c × τ} {view : τ → σ}
    {known : (c : Call) → Option (Answer c)} {i : ι} {c : Call}
    {next : Answer c → Dialogue Call Answer α} {s : τ} (views : Views whole (answer i) view known)
    (same : rely (view s) (view s)) (silent : ∀ a, known c = some a → may c (view s))
    (h : ((ask c next).skip known).Keeps answer rely may post (view s)) :
    may c (view s) ∧
      ((next (whole c s).1).skip known).Keeps answer rely may post (view (whole c s).2) := by
  cases found : known c with
  | some a =>
    obtain ⟨answered, unchanged⟩ := views.silent s found
    rw [skip_ask_known found, ← answered] at h
    exact ⟨silent a found, unchanged ▸ h⟩
  | none =>
    rw [skip_ask_unknown found] at h
    obtain ⟨allowed, goesOn⟩ := h _ same
    obtain ⟨answered, changed⟩ := views.asked s found
    rw [answered, changed]
    exact ⟨allowed, goesOn i⟩

/-- If nobody else is there, what the allowed questions keep up holds in the end. -/
theorem Keeps.play {d : Dialogue Call Answer α} {s : σ} {i : ι} {holds : σ → Prop}
    (h : Keeps answer rely may post d s) (same : ∀ s, holds s → rely s s)
    (step : ∀ c s, may c s → holds s → holds (answer i c s).2) (start : holds s) :
    post (d.play (answer i) s).1 ∧ holds (d.play (answer i) s).2 := by
  induction d generalizing s with
  | done a => exact ⟨h, start⟩
  | ask c next ih =>
    obtain ⟨allowed, goesOn⟩ := h s (same s start)
    exact ih _ (goesOn i) (step c s allowed start)

end Keeps

end FloatingAddress.Dialogue
