import BinaryQuadratic.Backend.Basic
import BinaryQuadratic.Proofs.Step

/-!
# Steps that mirror each other

A step mirrors another one through a map of states when it does on the image of every state what the other one does on
the state itself: it ends alike, and leaves the image of what the other one leaves (`Step.Mirrors`). Sequences of
mirrored steps mirror each other. A backend mirrors another one when all steps of its workers do
(`Backend.Mirror`), and then pools and rounds do as well. So what is known of one backend, which may keep more than is
needed to run, holds of the other one.
-/

namespace BinaryQuadratic

/-! ## Steps -/

namespace Step

variable {ε σ τ α β γ δ : Type}

/-- The outcome of a step, with its state and result seen through maps. -/
def outcomeMap (view : σ → τ) (see : α → β) : EStateM.Result (Halt ε) σ α → EStateM.Result (Halt ε) τ β
  | .ok a s => .ok (see a) (view s)
  | .error ending s => .error ending (view s)

/-- The second step does on images what the first one does. -/
def Mirrors (view : σ → τ) (see : α → β) (step : Step ε σ α) (image : Step ε τ β) : Prop :=
  ∀ s, image (view s) = outcomeMap view see (step s)

variable {view : σ → τ} {see : α → β} {step : Step ε σ α} {image : Step ε τ β}

namespace Mirrors

theorem pure {a : α} : Mirrors view see (pure a : Step ε σ α) (pure (see a)) := fun _ => rfl

theorem fail {cause : ε} : Mirrors view see (fail cause) (fail cause) := fun _ => rfl

theorem crash : Mirrors view see (crash : Step ε σ α) crash := fun _ => rfl

theorem get : Mirrors view view (get : Step ε σ σ) get := fun _ => rfl

theorem modify {f : σ → σ} {f' : τ → τ} (h : ∀ s, view (f s) = f' (view s)) :
    Mirrors view id (modify f : Step ε σ PUnit) (modify f') := fun s =>
  congrArg (EStateM.Result.ok PUnit.unit) (h s).symm

theorem ofExcept {f : δ → ε} {result : Except δ α} :
    Mirrors view id (ofExcept f result) (ofExcept f result) := fun _ => by cases result <;> rfl

theorem reserve {count bytes : Nat} :
    Mirrors view id (HostMemory.reserve count bytes : Step ε σ Unit) (HostMemory.reserve count bytes) := fun _ => by
  unfold HostMemory.reserve
  split <;> rfl

theorem bind {see' : γ → δ} {next : α → Step ε σ γ} {next' : β → Step ε τ δ} (h : Mirrors view see step image)
    (h' : ∀ a, Mirrors view see' (next a) (next' (see a))) : Mirrors view see' (step >>= next) (image >>= next') := by
  intro s
  rw [bind_apply, bind_apply, h s]
  cases step s with
  | ok a s' => exact h' a s'
  | error ending s' => rfl

/-- A step is followed by what reads the state first. -/
theorem get_bind {see' : γ → δ} {next : σ → Step ε σ γ} {next' : τ → Step ε τ δ}
    (h : ∀ s, Mirrors view see' (next s) (next' (view s))) :
    Mirrors view see' ((MonadState.get : Step ε σ σ) >>= next) ((MonadState.get : Step ε τ τ) >>= next') :=
  get.bind h

theorem ite {P P' : Prop} [Decidable P] [Decidable P'] {step' : Step ε σ α} {image' : Step ε τ β} (same : P ↔ P')
    (h : Mirrors view see step image) (h' : Mirrors view see step' image') :
    Mirrors view see (if P then step else step') (if P' then image else image') := by
  by_cases holds : P
  · rw [if_pos holds, if_pos (same.1 holds)]
    exact h
  · rw [if_neg holds, if_neg fun holds' => holds (same.2 holds')]
    exact h'

/-- What is done unless a condition holds, and what follows it. -/
theorem unless_bind {P P' : Prop} [Decidable P] [Decidable P'] {act : Step ε σ PUnit} {act' : Step ε τ PUnit}
    {next : PUnit → Step ε σ α} {next' : PUnit → Step ε τ β} (same : P ↔ P') (h : Mirrors view id act act')
    (h' : Mirrors view see (next ⟨⟩) (next' ⟨⟩)) :
    Mirrors view see (if P then next ⟨⟩ else act >>= next) (if P' then next' ⟨⟩ else act' >>= next') :=
  ite same h' (h.bind fun _ => h')

theorem orCleanup {cleanup : Step ε σ Unit} {cleanup' : Step ε τ Unit} (h : Mirrors view see step image)
    (h' : Mirrors view id cleanup cleanup') : Mirrors view see (step.orCleanup cleanup) (image.orCleanup cleanup') := by
  intro s
  unfold Step.orCleanup
  rw [h s]
  cases step s with
  | ok a s' => rfl
  | error ending s' =>
    cases ending with
    | crash => rfl
    | error cause =>
      dsimp only [outcomeMap]
      rw [h' s']
      cases cleanup s' <;> rfl

end Mirrors

end Step

/-! ## Backends -/

open Step

variable {B B' R W W' : Type} [Backend B R W] [Backend B' R W']

/-- The second backend and its workers do on images what the first one and its workers do. -/
structure Backend.Mirror (view : B → B') (see : W → W') : Prop where
  name (b : B) : Backend.name (view b) = Backend.name b
  workers (b : B) : Backend.workers (view b) = Backend.workers b
  workerBytes : Backend.workerBytes B' = Backend.workerBytes B
  create (weights : Matrix R) (tileSize : UInt64) :
    Mirrors view see (Backend.create weights tileSize) (Backend.create weights tileSize)
  discard (worker : W) : Mirrors view id (Backend.discard worker) (Backend.discard (see worker))
  reset (worker : W) : see (Backend.reset B worker) = Backend.reset B' (see worker)
  best (worker : W) : Backend.best B' (see worker) = Backend.best B worker
  scan (span : Span) : Mirrors (Prod.map view see) id (Backend.scan span) (Backend.scan span)

namespace Backend.Mirror

variable {view : B → B'} {see : W → W'} (h : Mirror view see)
include h

theorem discardAll (pool : List W) :
    Mirrors view id (Backend.discardAll pool) (Backend.discardAll (pool.map see)) := by
  induction pool with
  | nil => exact .pure
  | cons worker pool ih => exact (h.discard worker).bind fun _ => ih

theorem createMore (weights : Matrix R) (tileSize : UInt64) (k : Nat) (made : List W) :
    Mirrors view (List.map see) (Backend.createMore weights tileSize k made)
      (Backend.createMore weights tileSize k (made.map see)) := by
  induction k generalizing made with
  | zero => exact .pure
  | succ k ih =>
    refine ((h.create weights tileSize).orCleanup (h.discardAll made)).bind fun worker => ?_
    have more := ih (made ++ [worker])
    rwa [List.map_append] at more

theorem createPool (weights : Matrix R) (tileSize : UInt64) (count : Count) :
    Mirrors view (List.map see) (Backend.createPool weights tileSize count)
      (Backend.createPool weights tileSize count) := by
  unfold Backend.createPool
  rw [h.workerBytes]
  exact Mirrors.reserve.bind fun _ => h.createMore weights tileSize count.1.toNat []

theorem scanRound (tiles : List Tile) :
    Mirrors (Prod.map view (List.map see)) id (Backend.scanRound tiles) (Backend.scanRound tiles) := by
  induction tiles with
  | nil => exact .pure
  | cons tile tiles ih =>
    rintro ⟨b, pool⟩
    cases pool with
    | nil => rfl
    | cons worker rest =>
      have first := h.scan tile.span (b, worker)
      simp only [Prod.map, Backend.scanRound, List.map_cons] at first ⊢
      rw [first]
      cases Backend.scan tile.span (b, worker) with
      | error ending t => rfl
      | ok _ t =>
        have others := ih (t.1, rest)
        simp only [Prod.map] at others
        simp only [outcomeMap, Prod.map]
        rw [others]
        cases Backend.scanRound tiles (t.1, rest) <;> rfl

end Backend.Mirror

end BinaryQuadratic
