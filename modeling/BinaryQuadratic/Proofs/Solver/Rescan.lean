import BinaryQuadratic.Proofs.Solver.Tracking

/-!
# Scanning with retries

A round that succeeds moves the cursor past its indices, all of which were met in it. A round that fails leaves the
cursor, and a later one begins at the same index. Making results from what the workers report cannot fail.
-/

namespace BinaryQuadratic.Solver

open Step Resilient

variable {B R W : Type} [Scalar R] [Backend B R W] {value : Problem R → Index → R} [Resilient B value]
  {s s' s'' : Solver (Journal B) R (Journaled W)} {p : Problem R} {schedule : Schedule}

/-- The scan goes on: no index is met twice that was not before, and energies are not made by the way. -/
structure Proceeds (s s' : Solver (Journal B) R (Journaled W)) : Prop where
  retains : Retains s s'
  once : s.Once → s'.Once
  hasEnergy : s.lifecycle.hasEnergy = false → s'.lifecycle.hasEnergy = false

theorem Proceeds.trans (h : Proceeds s s') (h' : Proceeds s' s'') : Proceeds s s'' :=
  ⟨h.retains.trans h'.retains, h'.once ∘ h.once, h'.hasEnergy ∘ h.hasEnergy⟩

/-! ## Rounds -/

/-- The indices of the tiles of a round follow what was met below the cursor. -/
theorem Underway.advance (h : s.Underway p schedule) :
    Post (Backend.scanRound schedule.round) (s.backend, s.pool)
      (fun _ t => Underway { s with backend := t.1, pool := t.2 } p schedule.advance ∧ Alike s.backend t.1 ∧
        (t.2.flatMap Journaled.met).Perm
          (s.pool.flatMap Journaled.met ++ Index.between schedule.cursor.toNat schedule.advance.cursor.toNat) ∧
        (Fit p s.poolTile 0 s.backend.backend → Fit p s.poolTile 0 t.1.backend))
      fun _ t => Underway { s with backend := t.1, pool := t.2 } p schedule ∧ Alike s.backend t.1 ∧
        ¬ Fit p s.poolTile 0 s.backend.backend := by
  have enough : schedule.round.length ≤ s.pool.length := h.length_pool ▸ schedule.length_round_le
  have short (t : Tile) (ht : t ∈ schedule.round) : t.span.size ≤ s.poolTile.toNat :=
    h.tile ▸ schedule.size_le_of_mem_round ht
  have inside (t : Tile) (ht : t ∈ schedule.round) : t.span.stop ≤ Index.limit p.size :=
    h.stop ▸ schedule.stop_le_of_mem_round ht
  have length {pool : List (Journaled W)} {spans : List Span} (fewer : spans.length ≤ s.pool.length)
      (journals : pool.map (·.spans) = entered (s.pool.map (·.spans)) spans) :
      pool.length = schedule.workers.1.toNat := by
    rw [← List.length_map (·.spans), journals, length_entered (by rwa [List.length_map]), List.length_map,
      h.length_pool]
  obtain ⟨again, perm, alone⟩ := h.met
  have sound : SoundPool p s.poolTile s.backend ([] ++ s.pool) := h.sound
  refine (Resilient.scanRound_spec sound h.truthful enough short inside).mono ?_ ?_
  · rintro _ ⟨j, pool⟩ ⟨sound, truthful, journals, alike, fit⟩
    have fewer : (schedule.round.map (·.span)).length ≤ s.pool.length := by rwa [List.length_map]
    have met := met_of_entered journals fewer
    rw [List.flatMap_map, schedule.flatMap_round] at met
    refine ⟨⟨h.stop, h.workers.trans alike.workers.symm, h.tile, length fewer journals, sound, truthful, again, ?_,
      alone⟩, alike, met, fit⟩
    refine met.trans ((perm.append_right _).trans ?_)
    -- what was met again moves past the tiles of the round
    rw [← Index.between_append (Nat.zero_le _) schedule.toNat_cursor_le_advance, List.append_assoc, List.append_assoc]
    exact List.perm_append_comm.append_left _
  · rintro _ ⟨j, pool⟩ ⟨sound, truthful, ⟨k, early, journals⟩, alike, unfit⟩
    have fewer : ((schedule.round.take k).map (·.span)).length ≤ s.pool.length := by
      rw [List.length_map]
      exact Nat.le_trans (List.length_take_le _ _) (Nat.le_trans (Nat.le_of_lt early) enough)
    refine ⟨⟨h.stop, h.workers.trans alike.workers.symm, h.tile, length fewer journals, sound, truthful,
      again ++ ((schedule.round.take k).map (·.span)).flatMap Span.indices, ?_, fun one => ?_⟩, alike, unfit⟩
    · refine (met_of_entered journals fewer).trans ((perm.append_right _).trans ?_)
      rw [List.append_assoc]
    · -- a worker that is alone scans its tile or not
      have first : k = 0 := by
        have := schedule.length_round_le
        omega
      rw [alone one, first]
      rfl

/-- A round of a prepared solver moves the cursor on, or leaves it where it is. -/
theorem scanRound_resilient (h : s.Tracked) (posed : s.problem = some p) (scheduled : s.schedule = some schedule) :
    Post (scanRound : Action (Journal B) R (Journaled W) (Bool × Index)) s
      (fun reply s' => Proceeds s s' ∧ s'.schedule = some schedule.advance ∧
        reply = (schedule.advance.isComplete, schedule.advance.cursor) ∧
        (s'.pool.flatMap Journaled.met).Perm
          (s.pool.flatMap Journaled.met ++ Index.between schedule.cursor.toNat schedule.advance.cursor.toNat) ∧
        s'.poolTile = s.poolTile ∧
        (Fit p s.poolTile 0 s.backend.backend → Fit p s.poolTile 0 s'.backend.backend))
      fun _ s' => Retains s s' ∧ ¬ Fit p s.poolTile 0 s.backend.backend := by
  have prepared := h.isPrepared_of_schedule scheduled
  rw [scanRound, post_bind, post_moveOn, Lifecycle.startRound_of_isPrepared prepared]
  simp only [post_bind, post_get, scheduled, post_onPool, post_modify, post_pure]
  refine (h.underway posed scheduled).advance.mono ?_ ?_
  · rintro _ ⟨j, pool⟩ ⟨underway, alike, met, fit⟩
    have next := Tracked.of_underway (s := { s with
      lifecycle := .prepared false false, schedule := some schedule.advance, backend := j, pool := pool })
      rfl posed rfl (underway.of_same rfl rfl rfl) (absurd · Bool.false_ne_true)
    refine ⟨⟨⟨next, alike, rfl⟩, ?_, fun _ => rfl⟩, trivial, trivial, met, trivial, fit⟩
    rintro once _ ⟨⟩
    refine met.trans (((once schedule scheduled).append_right _).trans ?_)
    rw [Index.between_append (Nat.zero_le _) schedule.toNat_cursor_le_advance]
  · rintro _ ⟨j, pool⟩ ⟨underway, alike, unfit⟩
    have again := Tracked.of_underway (s := { s with
      lifecycle := .prepared false false, schedule := some schedule, backend := j, pool := pool })
      rfl posed rfl (underway.of_same rfl rfl rfl) (absurd · Bool.false_ne_true)
    exact ⟨⟨again, alike, rfl⟩, unfit⟩

/-- Several rounds, up to the first that fails. -/
theorem scanRounds_resilient (k : Nat) (h : s.Tracked) (posed : s.problem = some p)
    (scheduled : s.schedule = some schedule) :
    Post (scanRounds k : Action (Journal B) R (Journaled W) Unit) s
      (fun _ s' => Proceeds s s' ∧ s'.schedule = some (schedule.advanceBy k))
      fun _ s' => Retains s s' ∧ ¬ Fit p s.poolTile 0 s.backend.backend := by
  induction k generalizing s schedule with
  | zero => exact ⟨⟨h.retains, id, id⟩, scheduled⟩
  | succ k ih =>
    rw [scanRounds, post_bind]
    refine (scanRound_resilient h posed scheduled).mono ?_ fun _ _ halted => halted
    rintro _ s' ⟨on, scheduled', -, -, tile, fit⟩
    refine (ih on.retains.tracked (on.retains.problem.trans posed) scheduled').mono ?_ ?_
    · rintro _ s'' ⟨on', scheduled''⟩
      exact ⟨on.trans on', scheduled''⟩
    · rintro _ s'' ⟨retains', unfit⟩
      rw [tile] at unfit
      exact ⟨on.retains.trans retains', fun good => unfit (fit good)⟩

/-- Rounds until every index is handed out, or one fails. -/
theorem scanRest_resilient (h : s.Tracked) (posed : s.problem = some p) (scheduled : s.schedule = some schedule) :
    Post (scanRest : Action (Journal B) R (Journaled W) Unit) s
      (fun _ s' => Proceeds s s' ∧ ∃ last, s'.schedule = some last ∧ last.isComplete = true)
      fun _ s' => Retains s s' ∧ ¬ Fit p s.poolTile 0 s.backend.backend := by
  rw [scanRest, post_bind, post_get, scheduled]
  refine (scanRounds_resilient schedule.roundsLeft h posed scheduled).mono ?_ fun _ _ halted => halted
  rintro _ s' ⟨on, scheduled'⟩
  exact ⟨on, _, scheduled', schedule.isComplete_advanceBy_roundsLeft⟩

/-! ## Results -/

/-- Making solutions shows what the workers report. -/
theorem gatherSolutions_resilient (h : s.Tracked) (posed : s.problem = some p)
    (scheduled : s.schedule = some schedule) :
    Post (gatherSolutions : Action (Journal B) R (Journaled W) Unit) s
      (fun _ s' => Proceeds s s' ∧ s'.schedule = some schedule ∧ s'.lifecycle.hasSolution = true)
      fun _ _ => False := by
  have prepared := h.isPrepared_of_schedule scheduled
  have inUse : s.tileInUse = some schedule.tileSize := by rw [tileInUse, scheduled]; rfl
  rw [gatherSolutions, post_bind, post_require, Lifecycle.requirePrepared_of_isPrepared prepared]
  simp only [post_bind, post_get, inUse]
  refine (post_current_of posed).2 ?_
  simp only [post_modify, post_moveOn, Lifecycle.gainSolution_of_isPrepared prepared]
  have underway := h.underway posed scheduled
  refine ⟨⟨⟨.of_underway rfl posed scheduled ?_ fun _ => ⟨rfl, rfl⟩, .refl _ _, rfl⟩, id, id⟩, scheduled, rfl⟩
  exact underway.of_same rfl rfl rfl

/-- Making energies changes nothing else of what counts as available: solutions that do get one each, at least one. -/
theorem fillEnergies_resilient (h : s.Tracked) (posed : s.problem = some p) (scheduled : s.schedule = some schedule) :
    Post (fillEnergies : Action (Journal B) R (Journaled W) Unit) s
      (fun _ s' => Retains s s' ∧ (s.lifecycle.hasSolution = true →
        s'.energies = List.replicate (max s.solutions.length 1) (p.external s.minimum))) fun _ _ => False := by
  have prepared := h.isPrepared_of_schedule scheduled
  have fill {s : Solver (Journal B) R (Journaled W)} (h : s.Tracked) (posed : s.problem = some p)
      (scheduled : s.schedule = some schedule) :
      Post (do
          let problem ← current
          modify fun s =>
            { s with energies := List.replicate (max s.solutions.length 1) (problem.external s.minimum) }
          moveOn Lifecycle.gainEnergy : Action (Journal B) R (Journaled W) Unit) s
        (fun _ s' => Retains s s' ∧
          s'.energies = List.replicate (max s.solutions.length 1) (p.external s.minimum)) fun _ _ => False := by
    have prepared := h.isPrepared_of_schedule scheduled
    rw [post_bind]
    refine (post_current_of posed).2 ?_
    simp only [post_bind, post_modify, post_moveOn, Lifecycle.gainEnergy_of_isPrepared prepared]
    have underway := h.underway posed scheduled
    refine ⟨⟨.of_underway rfl posed scheduled ?_ (h.gathered posed scheduled), .refl _ _, rfl⟩, trivial⟩
    exact underway.of_same rfl rfl rfl
  rw [fillEnergies, post_bind, post_require, Lifecycle.requirePrepared_of_isPrepared prepared]
  simp only [post_bind, post_get]
  by_cases available : s.lifecycle.hasSolution = true
  · rw [if_pos available]
    refine (fill h posed scheduled).mono ?_ fun _ _ never => never
    rintro _ s' ⟨retains, energies⟩
    exact ⟨retains, fun _ => energies⟩
  · rw [if_neg available, post_bind]
    refine (gatherSolutions_resilient h posed scheduled).mono ?_ fun _ _ never => never
    rintro _ s' ⟨on, scheduled', -⟩
    refine (fill on.retains.tracked (on.retains.problem.trans posed) scheduled').mono ?_ fun _ _ never => never
    rintro _ s'' ⟨retains, -⟩
    exact ⟨on.retains.trans retains, fun already => absurd already available⟩

/-! ## Full scans -/

/-- Every index was handed out, and solutions count as available. -/
def Concluded (s : Solver (Journal B) R (Journaled W)) : Prop :=
  s.lifecycle.hasSolution = true ∧ ∃ last, s.schedule = some last ∧ last.isComplete = true

/-- A search starts over and scans every index, or fails. -/
theorem search_resilient (h : s.Tracked) (posed : s.problem = some p) :
    Post (search : Action (Journal B) R (Journaled W) Unit) s (fun _ s' => Retains s s' ∧ s'.Concluded)
      fun _ s' => Retains s s' := by
  rw [search, post_bind]
  refine (prepare_resilient h posed).mono ?_ fun _ _ halted => halted.1
  rintro _ s₁ ⟨retains₁, -, scheduled₁, -, -⟩
  have posed₁ := retains₁.problem.trans posed
  rw [post_bind]
  refine (scanRest_resilient retains₁.tracked posed₁ scheduled₁).mono ?_ fun _ _ halted => retains₁.trans halted.1
  rintro _ s₂ ⟨on₂, last, scheduled₂, every⟩
  have posed₂ := on₂.retains.problem.trans posed₁
  refine (gatherSolutions_resilient on₂.retains.tracked posed₂ scheduled₂).mono ?_ fun _ _ never => never.elim
  rintro _ s₃ ⟨on₃, scheduled₃, available⟩
  exact ⟨retains₁.trans (on₂.trans on₃).retains, available, last, scheduled₃, every⟩

/-- The rounds that are left, and solutions unless they are there already. -/
theorem finish_resilient (h : s.Tracked) (posed : s.problem = some p) (scheduled : s.schedule = some schedule) :
    Post (do
        scanRest
        unless (← get).lifecycle.hasSolution do gatherSolutions : Action (Journal B) R (Journaled W) Unit) s
      (fun _ s' => Proceeds s s' ∧ s'.Concluded)
      fun _ s' => Retains s s' ∧ ¬ Fit p s.poolTile 0 s.backend.backend := by
  rw [post_bind]
  refine (scanRest_resilient h posed scheduled).mono ?_ fun _ _ halted => halted
  rintro _ s₁ ⟨on₁, last, scheduled₁, every⟩
  rw [post_bind, post_get]
  by_cases available : s₁.lifecycle.hasSolution = true
  · rw [if_pos available]
    exact ⟨on₁, available, last, scheduled₁, every⟩
  · rw [if_neg available]
    refine (gatherSolutions_resilient on₁.retains.tracked (on₁.retains.problem.trans posed) scheduled₁).mono ?_
      fun _ _ never => never.elim
    rintro _ s₂ ⟨on₂, scheduled₂, available₂⟩
    exact ⟨on₁.trans on₂, available₂, last, scheduled₂, every⟩

/-- How a solver is left when what was missing for a full scan was done. -/
structure Completes (s s' : Solver (Journal B) R (Journaled W)) : Prop where
  retains : Retains s s'
  concluded : s'.Concluded
  /-- Workers are only made on a backend that can be used. -/
  healthy : s.schedule = none → Healthy s.backend.backend
  /-- A scan that was not begun before takes every index once. -/
  once : s.schedule = none → s'.Once
  hasEnergy : s.schedule = none → s'.lifecycle.hasEnergy = false

/-- What is missing for a full scan is done, or not. A backend that welcomes new workers is enough. -/
theorem complete_resilient (h : s.Tracked) (posed : s.problem = some p) :
    Post (complete : Action (Journal B) R (Journaled W) Unit) s (fun _ s' => Completes s s')
      fun _ s' => Retains s s' ∧ (s.schedule = none → ¬ s.Welcomes p) := by
  have allowed : s.lifecycle.hasProblem = true := by rw [h.hasProblem, posed]; rfl
  rw [complete, post_bind, post_require, Lifecycle.requireProblem_of_hasProblem allowed]
  simp only [post_bind, post_get]
  by_cases prepared : s.lifecycle.isPrepared = true
  · -- a scan that was begun is finished
    obtain ⟨q, schedule, posed', scheduled⟩ := h.exists_of_isPrepared prepared
    have begun : s.schedule ≠ none := scheduled ▸ Option.some_ne_none schedule
    rw [if_pos prepared]
    refine (finish_resilient h posed' scheduled).mono ?_ ?_
    · rintro _ s' ⟨on, concluded⟩
      exact ⟨on.retains, concluded, fun none => absurd none begun, fun none => absurd none begun,
        fun none => absurd none begun⟩
    · rintro _ s' ⟨retains, -⟩
      exact ⟨retains, fun none => absurd none begun⟩
  · -- otherwise it is begun first
    rw [if_neg prepared, post_bind]
    refine (prepare_resilient h posed).mono ?_ ?_
    · rintro _ s₁ ⟨retains₁, lifecycle₁, scheduled₁, once₁, fit⟩
      refine (finish_resilient retains₁.tracked (retains₁.problem.trans posed) scheduled₁).mono ?_ ?_
      · rintro _ s₂ ⟨on₂, concluded⟩
        refine ⟨retains₁.trans on₂.retains, concluded, fun none => (fit none).1, fun _ => on₂.once once₁, fun _ => ?_⟩
        exact on₂.hasEnergy (by rw [lifecycle₁]; rfl)
      · rintro _ s₂ ⟨retains₂, unfit⟩
        exact ⟨retains₁.trans retains₂, fun none welcome => unfit ((fit none).2 welcome)⟩
    · rintro _ s₁ ⟨retains₁, -, refused⟩
      exact ⟨retains₁, refused⟩

end BinaryQuadratic.Solver
