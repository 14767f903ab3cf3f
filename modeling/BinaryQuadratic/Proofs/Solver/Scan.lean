import BinaryQuadratic.Proofs.Solver.Prepare

/-!
# Scanning

Rounds, and making solutions and energies, keep the invariant of a prepared solver and never fail on a reliable
backend. A round moves the cursor past the indices that its workers met, and solutions are the optimum of the indices
below the cursor.
-/

namespace BinaryQuadratic.Solver

open Step Reliable

variable {B R W : Type} [Scalar R] [Backend B R W] {value : Problem R → Index → R} [Reliable B value]
  {s : Solver B R W} {p : Problem R} {schedule : Schedule}

/-! ## Rounds -/

/-- Workers that met the indices below the cursor have, after the round, met those below the next cursor. -/
theorem Scanning.advance (h : Scanning value s p schedule) (sound : Sound p s.backend s.pool) :
    Post (Backend.scanRound schedule.round) (s.backend, s.pool)
      (fun _ t => Sound p t.1 t.2 ∧ Backend.workers t.1 = Backend.workers s.backend ∧
        Scanning value { s with backend := t.1, pool := t.2 } p schedule.advance) fun _ _ => False := by
  obtain ⟨parts, hpool, holds, perm⟩ := h.met
  have length : parts.length = (Backend.workers s.backend).1.toNat := by
    rw [← h.length_pool, hpool, List.length_map]
  have start : Sound p s.backend ([] ++ parts.map (·.1)) := by
    rw [List.nil_append, ← hpool]
    exact sound
  have enough : schedule.round.length ≤ parts.length := by
    rw [length, ← h.workers]
    exact schedule.length_round_le
  have dealt := scanRound_spec start holds enough fun tile htile => h.stop ▸ schedule.stop_le_of_mem_round htile
  rw [hpool]
  refine dealt.mono ?_ fun _ _ never => never
  rintro _ ⟨b, pool⟩ after
  obtain ⟨parts', hpool', sound', holds', length', perm', same⟩ := after
  refine ⟨sound', same, h.stop, h.workers.trans same.symm, ?_, parts', hpool', holds', ?_⟩
  · show pool.length = (Backend.workers b).1.toNat
    rw [same, ← length, ← length', show pool = _ from hpool', List.length_map]
  · -- what was met before, and the tiles of the round, follow each other
    rw [schedule.flatMap_round] at perm'
    refine perm'.trans ((perm.append_right _).trans ?_)
    rw [Index.between_append (Nat.zero_le _) schedule.toNat_cursor_le_advance]

/-- A round of a prepared solver moves the cursor on, and what was made of earlier rounds is no longer available. -/
theorem scanRound_spec (h : s.Faithful value) (posed : s.problem = some p) (scheduled : s.schedule = some schedule) :
    Post (scanRound : Action B R W (Bool × Index)) s
      (fun reply s' => s'.Faithful value ∧ Kept s s' ∧ s'.lifecycle = .prepared false false ∧
        s'.schedule = some schedule.advance ∧ reply = (schedule.advance.isComplete, schedule.advance.cursor))
      fun _ _ => False := by
  have scanning := h.scanning posed scheduled
  have prepared := h.isPrepared_of_schedule scheduled
  rw [scanRound, post_bind, post_moveOn, Lifecycle.startRound_of_isPrepared prepared]
  simp only [post_bind, post_get, scheduled, post_onPool, post_modify, post_pure]
  refine (scanning.advance (h.sound p (Or.inl posed))).mono ?_ fun _ _ never => never
  rintro _ ⟨b, pool⟩ after
  obtain ⟨sound, same, scanning'⟩ := after
  refine ⟨?_, ⟨rfl, rfl, same⟩, trivial, trivial, trivial⟩
  refine Faithful.of_scanning rfl posed rfl sound ?_ ?_ ?_
  · exact ⟨scanning'.stop, scanning'.workers, scanning'.length_pool, scanning'.met⟩
  · show HostMemory.Fits (Backend.workers b).1.toNat _
    rw [same]
    exact h.fits scanning
  · intro none
    cases none

/-- Several rounds. -/
theorem scanRounds_spec (k : Nat) (h : s.Faithful value) (posed : s.problem = some p)
    (scheduled : s.schedule = some schedule) :
    Post (scanRounds k : Action B R W Unit) s
      (fun _ s' => s'.Faithful value ∧ Kept s s' ∧ s'.schedule = some (schedule.advanceBy k) ∧
        (k = 0 → s' = s) ∧ (k ≠ 0 → s'.lifecycle = .prepared false false)) fun _ _ => False := by
  induction k generalizing s schedule with
  | zero => exact ⟨h, ⟨rfl, rfl, rfl⟩, scheduled, fun _ => rfl, fun nonzero => absurd rfl nonzero⟩
  | succ k ih =>
    rw [scanRounds, post_bind]
    refine (scanRound_spec h posed scheduled).mono ?_ fun _ _ never => never
    intro _ s' after
    obtain ⟨faithful, kept, started, scheduled', -⟩ := after
    refine (ih faithful (kept.problem.trans posed) scheduled').mono ?_ fun _ _ never => never
    intro _ s'' after
    obtain ⟨faithful', kept', scheduled'', none, some⟩ := after
    refine ⟨faithful', kept.trans kept', scheduled'', fun zero => absurd zero (Nat.succ_ne_zero k), fun _ => ?_⟩
    by_cases last : k = 0
    · rw [none last]
      exact started
    · exact some last

/-- All rounds that are left: none if every index was handed out. -/
theorem scanRest_spec (h : s.Faithful value) (posed : s.problem = some p) (scheduled : s.schedule = some schedule) :
    Post (scanRest : Action B R W Unit) s
      (fun _ s' => s'.Faithful value ∧ Kept s s' ∧
        (∃ last, s'.schedule = some last ∧ last.isComplete = true ∧ last.tileSize = schedule.tileSize) ∧
        (s.isComplete = true → s' = s) ∧ (s.isComplete = false → s'.lifecycle = .prepared false false))
      fun _ _ => False := by
  have finished := h.isComplete_eq scheduled
  have every := schedule.isComplete_advanceBy_roundsLeft
  rw [scanRest, post_bind, post_get, scheduled]
  refine (scanRounds_spec schedule.roundsLeft h posed scheduled).mono ?_ fun _ _ never => never
  intro _ s' after
  obtain ⟨faithful, kept, scheduled', none, some⟩ := after
  refine ⟨faithful, kept, ⟨_, scheduled', every, Schedule.tileSize_advanceBy _ _⟩, ?_, ?_⟩
  · -- no round is left of a complete scan
    intro complete
    exact none (schedule.roundsLeft_eq_zero_iff.2 (finished ▸ complete))
  · intro incomplete
    apply some
    intro zero
    rw [zero] at every
    rw [finished, show schedule.isComplete = true from every] at incomplete
    nomatch incomplete

end BinaryQuadratic.Solver
