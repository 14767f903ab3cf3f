import BinaryQuadratic.Proofs.Solver.Invariant

/-!
# Setting up

Taking up a problem, giving up workers and preparing a scan keep the invariant, also where they fail. Preparing can only
fail when a pool cannot be made (`Refuses`), and leaves the problem set then.
-/

namespace BinaryQuadratic.Solver

open Step Reliable

variable {B R W : Type} [Scalar R] [Backend B R W] {value : Problem R → Index → R} [Reliable B value]
  {s : Solver B R W} {p : Problem R}

/-- Giving up the workers always succeeds. -/
theorem releaseWorkers_spec (sound : Sound p s.backend s.pool) :
    Post (releaseWorkers : Action B R W Unit) s
      (fun _ s' => ∃ b : B, s' = { s with backend := b, pool := [], poolTile := 0, schedule := none } ∧
        Backend.discardAll s.pool s.backend = .ok () b ∧ (∀ q : Problem R, Sound q b ([] : List W)) ∧
        Backend.workers b = Backend.workers s.backend) fun _ _ => False := by
  obtain ⟨_, b, discarded, none, same⟩ := (discardAll_spec sound).exists_ok
  simp only [releaseWorkers, post_bind, post_get, post_modify, post_onBackend]
  exact post_of_eq_ok discarded ⟨b, rfl, discarded, fun q => sound_nil none, same⟩

/-- What is left of a solver whose workers were given up, for any problem. -/
theorem Faithful.of_no_workers {b : B} {lifecycle : Lifecycle} {problem : Option (Problem R)} {minimum : R}
    {solutions : List Assignment} {energies : List R} {tile : UInt64} {size : Count}
    (hasProblem : lifecycle.hasProblem = problem.isSome) (unprepared : lifecycle.isPrepared = false)
    (sound : ∀ q : Problem R, Sound q b ([] : List W)) :
    Faithful value (⟨b, size, lifecycle, problem, none, [], tile, minimum, solutions, energies⟩ : Solver B R W) where
  hasProblem := hasProblem
  isPrepared := unprepared
  unposed _ := rfl
  sound q _ := sound q
  length_pool := Or.inl rfl
  scanning _ h := nomatch h
  shows _ h := nomatch h

/-- A new problem is taken up exactly if it can be posed. -/
theorem setProblem_spec (h : s.Faithful value) (weights : Matrix R) (direction : Direction) :
    Post (setProblem weights direction : Action B R W Unit) s
      (fun _ s' => s'.Faithful value ∧ Backend.workers s'.backend = Backend.workers s.backend ∧
        Backend.discardAll s.pool s.backend = .ok () s'.backend ∧
        ∃ p, Problem.pose weights direction = .ok p ∧ s'.problem = some p ∧ s'.lifecycle = .assigned)
      fun ending s' => s' = s ∧
        ∃ error, Problem.pose weights direction = .error error ∧ ending = .error (.matrix error) := by
  rw [setProblem, post_bind]
  cases posed : Problem.pose weights direction with
  | error error => exact ⟨rfl, error, rfl, rfl⟩
  | ok p =>
    obtain ⟨q, sound⟩ := h.exists_sound
    rw [post_ofExcept_ok, post_bind]
    refine (releaseWorkers_spec sound).mono ?_ fun _ _ never => never.elim
    rintro _ _ ⟨b, rfl, discarded, idle, same⟩
    simp only [post_bind, post_clearResults, post_modify]
    exact ⟨Faithful.of_no_workers rfl rfl idle, same, discarded, p, rfl, rfl, rfl⟩

/-- Giving up the workers and the results always succeeds, and keeps the problem. -/
theorem release_spec (h : s.Faithful value) :
    Post (release : Action B R W Unit) s
      (fun _ s' => s'.Faithful value ∧ Backend.workers s'.backend = Backend.workers s.backend ∧
        Backend.discardAll s.pool s.backend = .ok () s'.backend ∧ s'.problem = s.problem ∧
        s'.lifecycle = s.lifecycle.invalidate) fun _ _ => False := by
  obtain ⟨q, sound⟩ := h.exists_sound
  rw [release, post_bind]
  refine (releaseWorkers_spec sound).mono ?_ fun _ _ never => never
  rintro _ _ ⟨b, rfl, discarded, idle, same⟩
  simp only [post_bind, post_clearResults, post_modify]
  refine ⟨Faithful.of_no_workers ?_ ?_ idle, same, discarded, trivial, trivial⟩
  · rw [Lifecycle.hasProblem_invalidate, h.hasProblem]
  · exact Lifecycle.isPrepared_invalidate _

/-! ## Preparing -/

/-- The tile size that the next preparation takes for this problem. -/
def tileFor (s : Solver B R W) (p : Problem R) : Count :=
  (Schedule.start p.size s.tileSize (Backend.workers s.backend)).tileSize

/-- After the workers were given up, making a new pool is refused with this ending, and leaves this backend. -/
def Refuses (s : Solver B R W) (p : Problem R) (ending : Halt SolverError) (left : B) : Prop :=
  ∃ b : B, Backend.discardAll s.pool s.backend = .ok () b ∧ Backend.workers b = Backend.workers s.backend ∧
    Sound p b ([] : List W) ∧
    Backend.createPool (B := B) p.weights (s.tileFor p).1 (Backend.workers b) b = .error ending left

/-- Without workers there are none to give up first. -/
theorem Refuses.of_idle {ending : Halt SolverError} {left : B} (h : s.Refuses p ending left) (idle : s.pool = []) :
    Backend.createPool (B := B) p.weights (s.tileFor p).1 (Backend.workers s.backend) s.backend = .error ending left := by
  obtain ⟨b, discarded, -, -, refused⟩ := h
  rw [idle] at discarded
  cases discarded
  exact refused

/-- A pool that fits the tile size is kept, and any other is replaced. -/
theorem fillPool_spec (sound : Sound p s.backend s.pool)
    (length : s.pool = [] ∨ s.pool.length = (Backend.workers s.backend).1.toNat ∧
      HostMemory.Fits (Backend.workers s.backend).1.toNat (Backend.workerBytes B))
    (unscheduled : s.schedule = none) :
    Post (fillPool p.weights (s.tileFor p).1 : Action B R W Unit) s
      (fun _ s' => ∃ (b : B) (pool : List W), s' = { s with backend := b, pool := pool, poolTile := (s.tileFor p).1 } ∧
        Sound p b pool ∧ Backend.workers b = Backend.workers s.backend ∧
        pool.length = (Backend.workers b).1.toNat ∧
        HostMemory.Fits (Backend.workers b).1.toNat (Backend.workerBytes B))
      fun ending s' => ∃ b : B, s' = { s with backend := b, pool := [], poolTile := 0 } ∧
        Sound p b ([] : List W) ∧ Backend.workers b = Backend.workers s.backend ∧ s.Refuses p ending b := by
  rw [fillPool, post_bind, post_get]
  split
  · next needed =>
    rw [post_bind]
    refine (releaseWorkers_spec sound).mono ?_ fun _ _ never => never.elim
    rintro _ _ ⟨b, rfl, discarded, idle, same⟩
    rw [post_bind, post_onBackend]
    cases created : Backend.createPool p.weights (s.tileFor p).1 (Backend.workers s.backend) b with
    | ok pool b' =>
      obtain ⟨made, full, same', fits⟩ := (createPool_spec _ _ (idle p)).of_ok created
      refine post_of_eq_ok created ⟨b', pool, ?_, made, same'.trans same, ?_, ?_⟩
      · rw [unscheduled]
      · rw [full, same', same]
      · rw [same', same]
        exact fits
    | error ending b' =>
      obtain ⟨none, same'⟩ := (createPool_spec _ _ (idle p)).of_error created
      refine post_of_eq_error created ⟨b', ?_, none, same'.trans same, b, discarded, same, idle p, ?_⟩
      · rw [unscheduled]
      · rw [same]
        exact created
  · next fitting =>
    -- the pool is there and fits the tile size
    have kept : s.pool ≠ [] ∧ s.poolTile = (s.tileFor p).1 := by simpa using fitting
    obtain ⟨full, fits⟩ := length.resolve_left kept.1
    refine ⟨s.backend, s.pool, ?_, sound, rfl, full, fits⟩
    rw [← kept.2]

/-- Workers that were reset are at the start of a scan. -/
theorem Faithful.of_reset {b : B} {pool : List W} {size count : Count} {tile : UInt64} (sound : Sound p b pool)
    (full : pool.length = (Backend.workers b).1.toNat) (hcount : count = Backend.workers b)
    (fits : HostMemory.Fits (Backend.workers b).1.toNat (Backend.workerBytes B)) :
    Faithful value (⟨b, size, .prepared false false, some p, some (Schedule.start p.size size count),
      pool.map (Backend.reset B), tile, Scalar.infinity, [], []⟩ : Solver B R W) where
  hasProblem := rfl
  isPrepared := rfl
  unposed h := nomatch h
  sound q hq := by
    rcases hq with posed | empty
    · obtain rfl := Option.some.inj posed
      exact sound_reset sound
    · have none := sound_reset sound
      simp only at empty
      rw [empty] at none ⊢
      exact sound_nil none
  length_pool := Or.inr ⟨by rw [List.length_map, full], fits⟩
  scanning hp hschedule := by
    obtain rfl := Option.some.inj hp
    obtain rfl := Option.some.inj hschedule
    refine ⟨rfl, hcount, by rw [List.length_map, full], pool.map fun worker => (Backend.reset B worker, []), ?_, ?_, ?_⟩
    · rw [List.map_map]
      rfl
    · intro part hpart
      obtain ⟨worker, -, rfl⟩ := List.mem_map.1 hpart
      rw [best_reset]
      exact Incumbent.holds_empty _
    · rw [List.flatMap_map]
      show ((pool.flatMap fun _ => [])).Perm (Index.between 0 0)
      rw [Index.between_of_le (Nat.le_refl 0)]
      simp
  shows _ _ h := nomatch h

/-- Preparing starts the scan over, with workers that met nothing. -/
theorem prepare_spec (h : s.Faithful value) (posed : s.problem = some p) :
    Post (prepare : Action B R W Unit) s
      (fun _ s' => s'.Faithful value ∧ Kept s s' ∧ s'.lifecycle = .prepared false false ∧
        s'.schedule = some (Schedule.start p.size s.tileSize (Backend.workers s.backend)))
      fun ending s' => s'.Faithful value ∧ Kept s s' ∧ s'.lifecycle = .assigned ∧ s.Refuses p ending s'.backend := by
  have allowed : s.lifecycle.hasProblem = true := by rw [h.hasProblem, posed]; rfl
  rw [prepare, post_bind, post_require, Lifecycle.requireProblem_of_hasProblem allowed]
  simp only [post_bind, post_current, posed, post_modify, post_clearResults, post_get,
    Lifecycle.invalidate_of_hasProblem allowed]
  -- what the pool is filled in: the problem is all that is left
  let cleared : Solver B R W :=
    { s with
      lifecycle := .assigned
      problem := some p
      schedule := none
      minimum := Scalar.infinity
      solutions := []
      energies := [] }
  refine (fillPool_spec (s := cleared) (h.sound p (Or.inl posed)) h.length_pool rfl).mono ?_ ?_
  · rintro _ _ ⟨b, pool, rfl, sound, same, full, fits⟩
    rw [post_moveOn]
    exact ⟨Faithful.of_reset sound full same.symm fits, ⟨posed.symm, rfl, same⟩, rfl, rfl⟩
  · rintro ending _ ⟨b, rfl, none, same, refused⟩
    exact ⟨Faithful.of_no_workers rfl rfl fun q => sound_nil none, ⟨posed.symm, rfl, same⟩, rfl, refused⟩

end BinaryQuadratic.Solver
