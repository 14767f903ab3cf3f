import BinaryQuadratic.Proofs.Backend.Resilient
import BinaryQuadratic.Proofs.Solver.Prepare

/-!
# Solvers on resilient backends

What holds of a solver on a resilient backend, however many of its steps failed: while it is prepared its pool is
complete, and the workers have met every index below the cursor, some of them perhaps more than once. Solutions that
count as available are what the workers report.

A round that ends early leaves the cursor where it is, but those workers that scanned their tiles before it ended have
met them; so they meet them again in the next round. This is how indices come to be met more than once.
-/

namespace BinaryQuadratic.Solver

open Step Resilient

variable {B R W : Type} [Scalar R] [Backend B R W] {value : Problem R → Index → R} [Resilient B value]
  {s s' s'' : Solver (Journal B) R (Journaled W)} {p : Problem R} {schedule : Schedule}

/-! ## The invariant -/

/-- The workers are in the middle of a scan for this problem. -/
structure Underway (s : Solver (Journal B) R (Journaled W)) (p : Problem R) (schedule : Schedule) : Prop where
  stop : schedule.stop = Index.limit p.size
  workers : schedule.workers = Backend.workers s.backend
  tile : s.poolTile = schedule.tileSize.1
  length_pool : s.pool.length = schedule.workers.1.toNat
  sound : SoundPool p s.poolTile s.backend s.pool
  truthful : ∀ v ∈ s.pool, Truthful B p v
  /-- Every index below the cursor was met; a worker that is alone meets none of them again. -/
  met : ∃ again, (s.pool.flatMap Journaled.met).Perm (Index.between 0 schedule.cursor.toNat ++ again) ∧
    (schedule.workers.1.toNat = 1 → again = [])

/-- A scan has to do with the backend and the pool only. -/
theorem Underway.of_same (h : s.Underway p schedule) (backend : s'.backend = s.backend) (pool : s'.pool = s.pool)
    (tile : s'.poolTile = s.poolTile) : s'.Underway p schedule := by
  obtain ⟨stop, workers, hasTile, length, sound, truthful, met⟩ := h
  refine ⟨stop, ?_, ?_, ?_, ?_, ?_, ?_⟩
  · rwa [backend]
  · rwa [tile]
  · rwa [pool]
  · rwa [backend, pool, tile]
  · rwa [pool]
  · rwa [pool]

/-- The minimum and the solutions are what the workers report. -/
def Gathered (s : Solver (Journal B) R (Journaled W)) (p : Problem R) (schedule : Schedule) : Prop :=
  let merged := Incumbent.merge (s.pool.map (Backend.best (Journal B))) schedule.tileSize.1.toNat
  s.minimum = merged.energy ∧ s.solutions = merged.indices.map (·.decode p.size)

/-- The workers met every index below the cursor once, and no others. -/
def Once (s : Solver (Journal B) R (Journaled W)) : Prop :=
  ∀ schedule, s.schedule = some schedule →
    (s.pool.flatMap Journaled.met).Perm (Index.between 0 schedule.cursor.toNat)

/-- What holds of a solver after any calls none of which broke off giving up workers. -/
structure Tracked (s : Solver (Journal B) R (Journaled W)) : Prop where
  hasProblem : s.lifecycle.hasProblem = s.problem.isSome
  isPrepared : s.lifecycle.isPrepared = s.schedule.isSome
  /-- There are no workers unless the solver is prepared. -/
  idle : s.schedule = none → s.pool = [] ∧
    ∀ (p : Problem R) (tile : UInt64), SoundPool p tile s.backend ([] : List (Journaled W))
  underway {p : Problem R} {schedule : Schedule} : s.problem = some p → s.schedule = some schedule →
    s.Underway p schedule
  gathered {p : Problem R} {schedule : Schedule} : s.problem = some p → s.schedule = some schedule →
    s.lifecycle.hasSolution = true → s.Gathered p schedule

/-- The solver is tracked again, on a backend like the one before, and its problem is the same. -/
structure Retains (s s' : Solver (Journal B) R (Journaled W)) : Prop where
  tracked : s'.Tracked
  alike : Alike s.backend s'.backend
  problem : s'.problem = s.problem

theorem Retains.trans (h : Retains s s') (h' : Retains s' s'') : Retains s s'' :=
  ⟨h'.tracked, h.alike.trans h'.alike, h'.problem.trans h.problem⟩

namespace Tracked

theorem retains (h : s.Tracked) : Retains s s := ⟨h, .refl _ _, rfl⟩

/-- A prepared solver has a problem and a schedule. -/
theorem exists_of_isPrepared (h : s.Tracked) (prepared : s.lifecycle.isPrepared = true) :
    ∃ p schedule, s.problem = some p ∧ s.schedule = some schedule := by
  obtain ⟨schedule, hschedule⟩ := Option.isSome_iff_exists.1 (h.isPrepared ▸ prepared)
  have posed := h.hasProblem ▸ Lifecycle.hasProblem_of_isPrepared prepared
  obtain ⟨p, hp⟩ := Option.isSome_iff_exists.1 posed
  exact ⟨p, schedule, hp, hschedule⟩

theorem isPrepared_of_schedule (h : s.Tracked) (scheduled : s.schedule = some schedule) :
    s.lifecycle.isPrepared = true := by
  rw [h.isPrepared, scheduled]
  rfl

/-- Some problem makes the pool sound. -/
theorem exists_sound (h : s.Tracked) : ∃ (p : Problem R) (tile : UInt64), SoundPool p tile s.backend s.pool := by
  cases scheduled : s.schedule with
  | none =>
    obtain ⟨empty, sound⟩ := h.idle scheduled
    exact ⟨⟨⟨0, 0, #[], rfl⟩, .minimize, rfl, Nat.zero_lt_succ 63⟩, 0, by rw [empty]; exact sound _ _⟩
  | some schedule =>
    obtain ⟨p, _, posed, scheduled⟩ := h.exists_of_isPrepared (h.isPrepared_of_schedule scheduled)
    exact ⟨p, s.poolTile, (h.underway posed scheduled).sound⟩

/-- A solver without workers. -/
theorem of_idle (hasProblem : s.lifecycle.hasProblem = s.problem.isSome) (unprepared : s.lifecycle.isPrepared = false)
    (unscheduled : s.schedule = none) (empty : s.pool = [])
    (sound : ∀ (p : Problem R) (tile : UInt64), SoundPool p tile s.backend ([] : List (Journaled W))) : s.Tracked where
  hasProblem := hasProblem
  isPrepared := by rw [unprepared, unscheduled]; rfl
  idle _ := ⟨empty, sound⟩
  underway _ scheduled := absurd (scheduled.symm.trans unscheduled) (Option.some_ne_none _)
  gathered _ scheduled := absurd (scheduled.symm.trans unscheduled) (Option.some_ne_none _)

/-- A solver in the middle of a scan. -/
theorem of_underway (prepared : s.lifecycle.isPrepared = true) (posed : s.problem = some p)
    (scheduled : s.schedule = some schedule) (underway : s.Underway p schedule)
    (gathered : s.lifecycle.hasSolution = true → s.Gathered p schedule) : s.Tracked where
  hasProblem := by rw [Lifecycle.hasProblem_of_isPrepared prepared, posed]; rfl
  isPrepared := by rw [prepared, scheduled]; rfl
  idle none := absurd (scheduled.symm.trans none) (Option.some_ne_none schedule)
  underway hp hschedule := by
    obtain rfl := Option.some.inj (posed.symm.trans hp)
    obtain rfl := Option.some.inj (scheduled.symm.trans hschedule)
    exact underway
  gathered hp hschedule available := by
    obtain rfl := Option.some.inj (posed.symm.trans hp)
    obtain rfl := Option.some.inj (scheduled.symm.trans hschedule)
    exact gathered available

end Tracked

/-! ## Setting up -/

/-- Giving up the workers succeeds, or is broken off by a crash. -/
theorem releaseWorkers_resilient {tile : UInt64} (sound : SoundPool p tile s.backend s.pool) :
    Post (releaseWorkers : Action (Journal B) R (Journaled W) Unit) s
      (fun _ s' => ∃ j : Journal B, s' = { s with backend := j, pool := [], poolTile := 0, schedule := none } ∧
        (∀ (q : Problem R) (tile : UInt64), SoundPool q tile j ([] : List (Journaled W))) ∧ Alike s.backend j ∧
        (s.pool = [] → j = s.backend))
      fun ending s' => ending = .crash ∧ ¬ Steady (plan s.backend.backend) ∧ s.pool ≠ [] ∧
        ∃ j : Journal B, s' = { s with backend := j, pool := [] } ∧ Lost j.backend ∧ Alike s.backend j := by
  simp only [releaseWorkers, post_bind, post_get, post_modify, post_onBackend]
  cases empty : s.pool with
  | nil =>
    rw [empty] at sound
    exact ⟨s.backend, rfl, fun q tile => sound_nil sound, .refl _ _, fun _ => rfl⟩
  | cons v pool =>
    rw [← empty]
    refine (discardAll_spec sound).mono ?_ ?_
    · rintro _ j ⟨none, alike⟩
      exact ⟨j, rfl, fun q tile => sound_nil none, alike, fun none => absurd none (empty ▸ List.cons_ne_nil v pool)⟩
    · rintro ending j ⟨crash, lost, unsteady, alike⟩
      exact ⟨crash, unsteady, empty ▸ List.cons_ne_nil v pool, j, rfl, lost, alike⟩

/-- A problem is set, and nothing else: there is no schedule, no worker and no result. -/
structure Stripped {B W : Type} (s : Solver B R W) : Prop where
  lifecycle : s.lifecycle = .assigned
  schedule : s.schedule = none
  pool : s.pool = []
  minimum : s.minimum = Scalar.infinity
  solutions : s.solutions = []
  energies : s.energies = []

/-- Nothing stands in the way of a pool for this problem, nor of its work. -/
def Welcomes (s : Solver (Journal B) R (Journaled W)) (p : Problem R) : Prop :=
  HostMemory.Fits (Backend.workers s.backend).1.toNat (Backend.workerBytes B) ∧
    Fit p (s.tileFor p).1 (Backend.workers s.backend).1.toNat s.backend.backend

/-- A pool that fits the tile size is kept, and any other is replaced. -/
theorem fillPool_resilient (sound : SoundPool p s.poolTile s.backend s.pool)
    (length : s.pool = [] ∨ s.pool.length = (Backend.workers s.backend).1.toNat) (unscheduled : s.schedule = none) :
    Post (fillPool p.weights (s.tileFor p).1 : Action (Journal B) R (Journaled W) Unit) s
      (fun _ s' => ∃ (j : Journal B) (pool : List (Journaled W)),
        s' = { s with backend := j, pool := pool, poolTile := (s.tileFor p).1 } ∧
        SoundPool p (s.tileFor p).1 j pool ∧ Alike s.backend j ∧
        pool.length = (Backend.workers s.backend).1.toNat ∧
        (s.pool = [] → Healthy s.backend.backend ∧ (s.Welcomes p → Fit p (s.tileFor p).1 0 j.backend)))
      fun _ s' => ∃ (j : Journal B) (tile : UInt64), s' = { s with backend := j, pool := [], poolTile := tile } ∧
        (∀ (q : Problem R) (tile : UInt64), SoundPool q tile j ([] : List (Journaled W))) ∧ Alike s.backend j ∧
        (s.pool = [] → ¬ s.Welcomes p) := by
  rw [fillPool, post_bind, post_get]
  split
  · rw [post_bind]
    refine (releaseWorkers_resilient sound).mono ?_ ?_
    · rintro _ _ ⟨j, rfl, none, alike, untouched⟩
      rw [post_bind, post_onBackend]
      refine (createPool_spec (Backend.workers s.backend) (none p (s.tileFor p).1)).mono ?_ ?_
      · rintro pool j' ⟨made, full, alike', healthy, fit⟩
        refine ⟨j', pool, ?_, made, alike.trans alike', full, fun empty => ?_⟩
        · rw [unscheduled]
        · rw [← untouched empty]
          refine ⟨healthy, fun welcome => fit ?_⟩
          rw [untouched empty]
          exact welcome.2
      · rintro _ j' ⟨none', alike', refused⟩
        refine ⟨j', 0, ?_, fun q tile => sound_nil none', alike.trans alike', fun empty welcome => refused ?_⟩
        · rw [unscheduled]
        · rw [untouched empty]
          exact welcome
    · rintro _ _ ⟨-, -, some, j, rfl, lost, alike⟩
      exact ⟨j, s.poolTile, rfl, fun q tile => sound_of_lost _ lost, alike, fun none => absurd none some⟩
  · next fitting =>
    -- the pool is there and fits the tile size
    have kept : s.pool ≠ [] ∧ s.poolTile = (s.tileFor p).1 := by simpa using fitting
    refine ⟨s.backend, s.pool, ?_, kept.2 ▸ sound, .refl _ _, length.resolve_left kept.1, (absurd · kept.1)⟩
    rw [← kept.2]

omit [Scalar R] [Resilient B value] in
/-- Workers that were reset met nothing. -/
theorem perm_met_reset (pool : List (Journaled W)) :
    ((pool.map (Backend.reset (Journal B))).flatMap Journaled.met).Perm (Index.between 0 0) := by
  rw [List.flatMap_map, Index.between_of_le (Nat.le_refl 0)]
  show (pool.flatMap fun _ => []).Perm []
  simp

/-- Workers that were reset are at the start of a scan. -/
theorem Tracked.of_reset {j : Journal B} {pool : List (Journaled W)} {size count : Count} {tile : UInt64}
    (sound : SoundPool p tile j pool) (full : pool.length = count.1.toNat) (hcount : count = Backend.workers j)
    (htile : tile = (Schedule.start p.size size count).tileSize.1) :
    Tracked (⟨j, size, .prepared false false, some p, some (Schedule.start p.size size count),
      pool.map (Backend.reset (Journal B)), tile, Scalar.infinity, [], []⟩ : Solver (Journal B) R (Journaled W)) := by
  refine of_underway rfl rfl rfl ⟨rfl, hcount, htile, ?_, ?_, ?_, [], ?_, fun _ => rfl⟩ (absurd · Bool.false_ne_true)
  · exact (List.length_map _).trans full
  · have none := sound_reset sound
    rw [List.map_map] at none
    rw [SoundPool, List.map_map]
    exact none
  · intro v hv
    obtain ⟨w, -, rfl⟩ := List.mem_map.1 hv
    show (Backend.best B (Backend.reset B w.worker)).Follows (value p) (2 ^ p.size) []
    rw [best_reset]
    exact Incumbent.follows_empty _ _
  · rw [List.append_nil]
    exact perm_met_reset pool

/-- Preparing starts the scan over, with workers that met nothing; or it leaves the problem and nothing else. -/
theorem prepare_resilient (h : s.Tracked) (posed : s.problem = some p) :
    Post (prepare : Action (Journal B) R (Journaled W) Unit) s
      (fun _ s' => Retains s s' ∧ s'.lifecycle = .prepared false false ∧
        s'.schedule = some (Schedule.start p.size s.tileSize (Backend.workers s.backend)) ∧ s'.Once ∧
        (s.schedule = none → Healthy s.backend.backend ∧
          (s.Welcomes p → Fit p s'.poolTile 0 s'.backend.backend)))
      fun _ s' => Retains s s' ∧ s'.Stripped ∧ (s.schedule = none → ¬ s.Welcomes p) := by
  have allowed : s.lifecycle.hasProblem = true := by rw [h.hasProblem, posed]; rfl
  rw [prepare, post_bind, post_require, Lifecycle.requireProblem_of_hasProblem allowed]
  simp only [post_bind, post_current, posed, post_modify, post_clearResults, post_get,
    Lifecycle.invalidate_of_hasProblem allowed]
  -- what the pool is filled in: the problem is all that is left
  let cleared : Solver (Journal B) R (Journaled W) :=
    { s with
      lifecycle := .assigned
      problem := some p
      schedule := none
      minimum := Scalar.infinity
      solutions := []
      energies := [] }
  have sound : SoundPool p s.poolTile s.backend s.pool := by
    cases scheduled : s.schedule with
    | none =>
      obtain ⟨empty, none⟩ := h.idle scheduled
      rw [empty]
      exact none p s.poolTile
    | some schedule => exact (h.underway posed scheduled).sound
  have length : s.pool = [] ∨ s.pool.length = (Backend.workers s.backend).1.toNat := by
    cases scheduled : s.schedule with
    | none => exact Or.inl (h.idle scheduled).1
    | some schedule =>
      have underway := h.underway posed scheduled
      exact Or.inr (underway.workers ▸ underway.length_pool)
  refine (fillPool_resilient (s := cleared) sound length rfl).mono ?_ ?_
  · rintro _ _ ⟨j, pool, rfl, made, alike, full, fit⟩
    rw [post_moveOn]
    refine ⟨⟨?_, alike, posed.symm⟩, rfl, rfl, ?_, fun unscheduled => fit (h.idle unscheduled).1⟩
    · exact Tracked.of_reset made full alike.workers.symm rfl
    · rintro _ ⟨⟩
      exact perm_met_reset pool
  · rintro _ _ ⟨j, tile, rfl, none, alike, refused⟩
    refine ⟨⟨?_, alike, posed.symm⟩, ⟨rfl, rfl, rfl, rfl, rfl, rfl⟩, fun unscheduled => refused (h.idle unscheduled).1⟩
    exact .of_idle rfl rfl rfl rfl none

end BinaryQuadratic.Solver
