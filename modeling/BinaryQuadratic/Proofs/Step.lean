import BinaryQuadratic.HostMemory

/-!
# What holds after a step

A step's outcome is described by two predicates: one of its result and the state it leaves, and one for a step that
ends early, of how it ended and the state it was left in. A sequence of steps is described part by part
(`post_bind`).
-/

namespace BinaryQuadratic

/-- An error is an answer. -/
theorem Halt.error_ne_crash {ε : Type} (cause : ε) : Halt.error cause ≠ .crash := by simp

namespace Step

variable {ε δ σ τ α β : Type}

/-- What holds after a step: `ok` of its result and state, or `halt` of its early ending and state. -/
def Post (step : Step ε σ α) (s : σ) (ok : α → σ → Prop) (halt : Halt ε → σ → Prop) : Prop :=
  match step s with
  | .ok a s' => ok a s'
  | .error h s' => halt h s'

variable {s s' : σ} {a : α} {step : Step ε σ α} {ok ok' : α → σ → Prop} {halt halt' : Halt ε → σ → Prop}

theorem post_of_eq_ok (h : step s = .ok a s') (h' : ok a s') : Post step s ok halt := by
  unfold Post
  rw [h]
  exact h'

theorem post_of_eq_error {ending : Halt ε} (h : step s = .error ending s') (h' : halt ending s') :
    Post step s ok halt := by
  unfold Post
  rw [h]
  exact h'

theorem Post.of_ok (post : Post step s ok halt) (h : step s = .ok a s') : ok a s' := by
  unfold Post at post
  rw [h] at post
  exact post

theorem Post.of_error (post : Post step s ok halt) {ending : Halt ε} (h : step s = .error ending s') :
    halt ending s' := by
  unfold Post at post
  rw [h] at post
  exact post

theorem Post.mono (post : Post step s ok halt) (h : ∀ a s', ok a s' → ok' a s')
    (h' : ∀ ending s', halt ending s' → halt' ending s') : Post step s ok' halt' := by
  unfold Post at *
  split
  · next done => exact h _ _ (by rwa [done] at post)
  · next halted => exact h' _ _ (by rwa [halted] at post)

theorem Post.and (post : Post step s ok halt) (post' : Post step s ok' halt') :
    Post step s (fun a s' => ok a s' ∧ ok' a s') fun ending s' => halt ending s' ∧ halt' ending s' := by
  unfold Post at *
  cases done : step s with
  | ok a s' =>
    rw [done] at post post'
    exact ⟨post, post'⟩
  | error ending s' =>
    rw [done] at post post'
    exact ⟨post, post'⟩

/-- A step that cannot end early has a result. -/
theorem Post.exists_ok (post : Post step s ok fun _ _ => False) : ∃ a s', step s = .ok a s' ∧ ok a s' := by
  unfold Post at post
  split at post
  · next a s' done => exact ⟨a, s', done, post⟩
  · exact post.elim

/-- A step that has a result exactly under a condition, and crashes otherwise. -/
theorem Post.ite {P : Prop} [Decidable P]
    (post : Post step s (fun a s' => P ∧ ok a s') fun ending _ => ¬ P ∧ ending = .crash) :
    if P then ∃ a s', step s = .ok a s' ∧ ok a s' else ∃ s', step s = .error .crash s' := by
  unfold Post at post
  split at post
  · next a s' done =>
    rw [if_pos post.1]
    exact ⟨a, s', done, post.2⟩
  · next ending s' halted =>
    obtain ⟨never, rfl⟩ := post
    rw [if_neg never]
    exact ⟨s', halted⟩

/-! ## Sequences -/

@[simp]
theorem post_pure : Post (pure a : Step ε σ α) s ok halt ↔ ok a s := Iff.rfl

theorem bind_apply {next : α → Step ε σ β} :
    (step >>= next) s =
      match step s with
      | .ok a s => next a s
      | .error ending s => .error ending s := by
  show EStateM.bind step next s = _
  simp only [EStateM.bind]
  cases step s <;> rfl

theorem post_bind {next : α → Step ε σ β} {ok : β → σ → Prop} :
    Post (step >>= next) s ok halt ↔ Post step s (fun a s' => Post (next a) s' ok halt) halt := by
  unfold Post
  rw [bind_apply]
  cases step s <;> rfl

@[simp]
theorem post_get {ok : σ → σ → Prop} : Post (get : Step ε σ σ) s ok halt ↔ ok s s := Iff.rfl

@[simp]
theorem post_set {t : σ} {ok : PUnit → σ → Prop} : Post (set t : Step ε σ PUnit) s ok halt ↔ ok ⟨⟩ t := Iff.rfl

@[simp]
theorem post_modify {f : σ → σ} {ok : PUnit → σ → Prop} :
    Post (modify f : Step ε σ PUnit) s ok halt ↔ ok ⟨⟩ (f s) := Iff.rfl

@[simp]
theorem post_fail {cause : ε} : Post (fail cause : Step ε σ α) s ok halt ↔ halt (.error cause) s := Iff.rfl

@[simp]
theorem post_crash : Post (crash : Step ε σ α) s ok halt ↔ halt .crash s := Iff.rfl

@[simp]
theorem post_ofOption_some : Post (ofOption (some a) : Step ε σ α) s ok halt ↔ ok a s := Iff.rfl

@[simp]
theorem post_ofExcept_ok {f : δ → ε} : Post (ofExcept f (.ok a) : Step ε σ α) s ok halt ↔ ok a s := Iff.rfl

@[simp]
theorem post_ofExcept_error {f : δ → ε} {cause : δ} :
    Post (ofExcept f (.error cause) : Step ε σ α) s ok halt ↔ halt (.error (f cause)) s := Iff.rfl

/-- A step with a cleanup ends as the step does, or as the cleanup after an error does. -/
theorem post_orCleanup {cleanup : Step ε σ Unit} :
    Post (step.orCleanup cleanup) s ok halt ↔
      Post step s ok fun ending s' =>
        match ending with
        | .error cause => Post cleanup s' (fun _ s'' => halt (.error cause) s'') halt
        | .crash => halt .crash s' := by
  unfold Post orCleanup
  cases h : step s with
  | ok a s' => rfl
  | error ending s' =>
    cases ending with
    | crash => rfl
    | error cause =>
      dsimp only
      cases cleanup s' <;> rfl

theorem post_ignoreError {step : Step ε σ Unit} {ok : Unit → σ → Prop} :
    Post step.ignoreError s ok halt ↔
      Post step s ok fun ending s' =>
        match ending with
        | .error _ => ok () s'
        | .crash => halt .crash s' := by
  unfold Post ignoreError
  cases h : step s with
  | ok a s' => rfl
  | error ending s' => cases ending <;> rfl

theorem post_onFirst {t : τ} {ok : α → σ × τ → Prop} {halt : Halt ε → σ × τ → Prop} :
    Post (onFirst step) (s, t) ok halt ↔
      Post step s (fun a s' => ok a (s', t)) fun ending s' => halt ending (s', t) := by
  unfold Post onFirst
  cases step s <;> rfl

theorem post_reserve {count bytes : Nat} {ok : Unit → σ → Prop} :
    Post (HostMemory.reserve count bytes : Step ε σ Unit) s ok halt ↔
      if HostMemory.Fits count bytes then ok () s else halt .crash s := by
  unfold HostMemory.reserve
  split <;> rfl

/-- Visiting a list: an invariant that every visit carries on to the next place holds at the end. -/
theorem post_forM {visit : α → Step ε σ Unit} {inv : List α → σ → Prop} {halt : Halt ε → σ → Prop} (xs : List α)
    (h : ∀ x rest s, inv (x :: rest) s → Post (visit x) s (fun _ s' => inv rest s') halt) (start : inv xs s) :
    Post (forM xs visit) s (fun _ s' => inv [] s') halt := by
  induction xs generalizing s with
  | nil => exact start
  | cons x xs ih =>
    rw [List.forM_cons, post_bind]
    exact (h x xs s start).mono (fun _ s' next => ih next) fun _ _ ended => ended

/-! ## What steps keep -/

/-- The step keeps a property of states, however it ends. -/
def Keeps (inv : σ → Prop) (step : Step ε σ α) : Prop :=
  ∀ s, inv s → Post step s (fun _ s' => inv s') fun _ s' => inv s'

namespace Keeps

variable {inv : σ → Prop} {step : Step ε σ α}

theorem pure (a : α) : Keeps inv (pure a : Step ε σ α) := fun _ holds => holds

theorem fail (cause : ε) : Keeps inv (fail cause : Step ε σ α) := fun _ holds => holds

theorem ofExcept (f : δ → ε) (result : Except δ α) : Keeps inv (ofExcept f result : Step ε σ α) := fun _ holds => by
  cases result <;> exact holds

theorem modify {f : σ → σ} (h : ∀ s, inv s → inv (f s)) : Keeps inv (modify f : Step ε σ PUnit) := h

theorem reserve (count bytes : Nat) : Keeps inv (HostMemory.reserve count bytes : Step ε σ Unit) := fun _ holds =>
  post_reserve.2 (by split <;> exact holds)

theorem bind {next : α → Step ε σ β} (h : Keeps inv step) (h' : ∀ a, Keeps inv (next a)) :
    Keeps inv (step >>= next) := fun s holds =>
  post_bind.2 ((h s holds).mono (fun a s' holds => h' a s' holds) fun _ _ holds => holds)

theorem get_bind {next : σ → Step ε σ β} (h : ∀ s, inv s → Keeps inv (next s)) : Keeps inv (get >>= next) :=
  fun s holds => post_bind.2 (h s holds s holds)

theorem ite {P : Prop} [Decidable P] {step' : Step ε σ α} (h : Keeps inv step) (h' : Keeps inv step') :
    Keeps inv (if P then step else step') := by
  split
  · exact h
  · exact h'

/-- What is done unless a condition holds, and what follows it. -/
theorem unless_bind {P : Prop} [Decidable P] {act : Step ε σ PUnit} {next : PUnit → Step ε σ α} (h : Keeps inv act)
    (h' : Keeps inv (next ⟨⟩)) : Keeps inv (if P then next ⟨⟩ else act >>= next) :=
  ite h' (h.bind fun _ => h')

theorem forM {visit : α → Step ε σ Unit} (h : ∀ x, Keeps inv (visit x)) (xs : List α) : Keeps inv (forM xs visit) := by
  induction xs with
  | nil => exact .pure _
  | cons x xs ih =>
    rw [List.forM_cons]
    exact (h x).bind fun _ => ih

theorem onFirst {other : τ → Prop} (h : Keeps inv step) :
    Keeps (fun t : σ × τ => inv t.1 ∧ other t.2) (onFirst step) := fun t holds =>
  post_onFirst.2 ((h t.1 holds.1).mono (fun _ _ kept => ⟨kept, holds.2⟩) fun _ _ kept => ⟨kept, holds.2⟩)

theorem orCleanup {cleanup : Step ε σ Unit} (h : Keeps inv step) (h' : Keeps inv cleanup) :
    Keeps inv (step.orCleanup cleanup) := fun s holds =>
  post_orCleanup.2 ((h s holds).mono (fun _ _ holds => holds) fun ending s' holds => by
    cases ending with
    | error cause => exact h' s' holds
    | crash => exact holds)

end Keeps

end Step

end BinaryQuadratic
