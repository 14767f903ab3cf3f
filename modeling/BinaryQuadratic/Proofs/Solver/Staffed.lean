import BinaryQuadratic.Proofs.Solver.Keeps

/-!
# Staffed solvers

The parts of a solver move together, whatever backend it has and whatever fails there: problem, schedule and lifecycle
tell the same, and there are workers exactly while there is a schedule, as many as it counts on, built for its tile size
and for the weights of the problem. The backend's account is that of the pool (`Staffed`). Every call keeps this, unless
the backend is excused from its account (`enduring_staffed`).
-/

namespace BinaryQuadratic.Solver

open Step

variable {B R W : Type} [Backend B R W]

/-- The workers are those that the schedule counts on, for this problem. -/
structure Manned (built : Matrix R → UInt64 → W → Prop) (s : Solver B R W) (p : Problem R) (schedule : Schedule) :
    Prop where
  workers : schedule.workers = Backend.workers s.backend
  length_pool : s.pool.length = schedule.workers.1.toNat
  poolTile : s.poolTile = schedule.tileSize.1
  built : ∀ worker ∈ s.pool, built p.weights s.poolTile worker

/-- The parts of the solver agree with each other, and its pool with the backend's account. -/
structure Staffed (account : B → List W → Prop) (built : Matrix R → UInt64 → W → Prop) (s : Solver B R W) : Prop where
  hasProblem : s.lifecycle.hasProblem = s.problem.isSome
  isPrepared : s.lifecycle.isPrepared = s.schedule.isSome
  hasSolution : s.lifecycle.hasEnergy = true → s.lifecycle.hasSolution = true
  account : account s.backend s.pool
  idle : s.schedule = none → s.pool = []
  manned {schedule : Schedule} : s.schedule = some schedule → ∃ p, s.problem = some p ∧ s.Manned built p schedule

variable {excused : B → Prop} {account : B → List W → Prop} {built : Matrix R → UInt64 → W → Prop}
  {s : Solver B R W} {p : Problem R}

namespace Staffed

theorem exists_of_isPrepared (h : s.Staffed account built) (prepared : s.lifecycle.isPrepared = true) :
    ∃ p schedule, s.problem = some p ∧ s.schedule = some schedule ∧ s.Manned built p schedule := by
  obtain ⟨schedule, scheduled⟩ := Option.isSome_iff_exists.1 (h.isPrepared ▸ prepared)
  obtain ⟨p, posed, manned⟩ := h.manned scheduled
  exact ⟨p, schedule, posed, scheduled, manned⟩

/-- A solver without workers. -/
theorem of_idle (hasProblem : s.lifecycle.hasProblem = s.problem.isSome) (unprepared : s.lifecycle.isPrepared = false)
    (unscheduled : s.schedule = none) (empty : s.pool = []) (entered : account s.backend []) :
    s.Staffed account built where
  hasProblem := hasProblem
  isPrepared := by rw [unprepared, unscheduled]; rfl
  hasSolution available := by
    rw [Lifecycle.hasEnergy_of_not_isPrepared unprepared] at available
    exact absurd available Bool.false_ne_true
  account := by rw [empty]; exact entered
  idle _ := empty
  manned scheduled := absurd (scheduled.symm.trans unscheduled) (Option.some_ne_none _)

/-- While a solver is prepared, its lifecycle can move among prepared ones, as long as energies are those of
solutions. -/
theorem of_prepared {solution energy : Bool} {minimum : R} {solutions : List Assignment} {energies : List R}
    (h : s.Staffed account built) (prepared : s.lifecycle.isPrepared = true) (made : energy = true → solution = true) :
    Staffed account built { s with
      lifecycle := .prepared solution energy
      minimum := minimum
      solutions := solutions
      energies := energies } where
  hasProblem := (Lifecycle.hasProblem_of_isPrepared prepared).symm.trans h.hasProblem
  isPrepared := prepared.symm.trans h.isPrepared
  hasSolution := made
  account := h.account
  idle := h.idle
  manned scheduled := by
    obtain ⟨p, posed, manned⟩ := h.manned scheduled
    exact ⟨p, posed, manned.workers, manned.length_pool, manned.poolTile, manned.built⟩

end Staffed

/-! ## Results -/

section Results

variable [Scalar R]

/-- Making solutions only fails out of order. -/
theorem gatherSolutions_staffed (staffed : s.Staffed account built) :
    Post (gatherSolutions : Action B R W Unit) s
      (fun _ s' => s'.Staffed account built ∧ s'.lifecycle = .prepared true s.lifecycle.hasEnergy)
      fun _ s' => s' = s ∧ s.lifecycle.isPrepared = false := by
  rw [gatherSolutions, post_bind, post_require]
  cases prepared : s.lifecycle.isPrepared with
  | false =>
    rw [Lifecycle.requirePrepared_of_not_isPrepared prepared]
    exact ⟨rfl, rfl⟩
  | true =>
    obtain ⟨p, schedule, posed, scheduled, -⟩ := staffed.exists_of_isPrepared prepared
    have inUse : s.tileInUse = some schedule.tileSize := by rw [tileInUse, scheduled]; rfl
    rw [Lifecycle.requirePrepared_of_isPrepared prepared]
    simp only [post_bind, post_get, inUse]
    refine (post_current_of posed).2 ?_
    simp only [post_modify, post_moveOn, Lifecycle.gainSolution_of_isPrepared prepared]
    exact ⟨staffed.of_prepared prepared fun _ => rfl, trivial⟩

/-- Making energies of solutions that are available. -/
theorem gainEnergies_staffed (staffed : s.Staffed account built) (available : s.lifecycle.hasSolution = true) :
    Post (do
        let problem ← current
        modify fun s => { s with energies := List.replicate (max s.solutions.length 1) (problem.external s.minimum) }
        moveOn Lifecycle.gainEnergy : Action B R W Unit) s
      (fun _ s' => s'.Staffed account built ∧ s'.lifecycle = .prepared true true) fun _ _ => False := by
  have prepared := Lifecycle.isPrepared_of_hasSolution available
  obtain ⟨p, schedule, posed, -, -⟩ := staffed.exists_of_isPrepared prepared
  rw [post_bind]
  refine (post_current_of posed).2 ?_
  simp only [post_bind, post_modify, post_moveOn, Lifecycle.gainEnergy_of_isPrepared prepared, available]
  exact ⟨staffed.of_prepared prepared fun _ => rfl, trivial⟩

/-- Making energies only fails out of order. -/
theorem fillEnergies_staffed (staffed : s.Staffed account built) :
    Post (fillEnergies : Action B R W Unit) s
      (fun _ s' => s'.Staffed account built ∧ s'.lifecycle = .prepared true true)
      fun _ s' => s' = s ∧ s.lifecycle.isPrepared = false := by
  rw [fillEnergies, post_bind, post_require]
  cases prepared : s.lifecycle.isPrepared with
  | false =>
    rw [Lifecycle.requirePrepared_of_not_isPrepared prepared]
    exact ⟨rfl, rfl⟩
  | true =>
    rw [Lifecycle.requirePrepared_of_isPrepared prepared]
    simp only [post_bind, post_get]
    by_cases available : s.lifecycle.hasSolution = true
    · rw [if_pos available]
      exact (gainEnergies_staffed staffed available).mono (fun _ _ done => done) fun _ _ never => never.elim
    · rw [if_neg available, post_bind]
      refine (gatherSolutions_staffed staffed).mono ?_ fun _ s' left => ?_
      · rintro _ s' ⟨staffed', lifecycle⟩
        have made : s'.lifecycle.hasSolution = true := by rw [lifecycle]; rfl
        exact (gainEnergies_staffed staffed' made).mono (fun _ _ done => done) fun _ _ never => never.elim
      · rw [prepared] at left
        exact absurd left.2.symm Bool.false_ne_true

end Results

/-! ## Excuses -/

/-- The solver is staffed, unless its backend is excused from its account. -/
def Excusably (excused : B → Prop) (inv : Solver B R W → Prop) (s : Solver B R W) : Prop := excused s.backend ∨ inv s

/-- A step that keeps solvers staffed, or has the backend excused, once excused keeps it so. -/
theorem keeps_excusably {α : Type} {step : Action B R W α} (lost : Keeps (fun s => excused s.backend) step)
    (staffed : ∀ s : Solver B R W, s.Staffed account built →
      Post step s (fun _ s' => s'.Excusably excused (Staffed account built))
        fun _ s' => s'.Excusably excused (Staffed account built)) :
    Keeps (Excusably excused (Staffed account built)) step := by
  rintro s (excuse | holds)
  · exact (lost s excuse).mono (fun _ _ excuse => Or.inl excuse) fun _ _ excuse => Or.inl excuse
  · exact staffed s holds

section Ledger

variable (h : Backend.Ledger excused account built)
include h

/-! ## Setting up -/

theorem releaseWorkers_staffed (entered : account s.backend s.pool) :
    Post (releaseWorkers : Action B R W Unit) s
      (fun _ s' => ∃ b : B, s' = { s with backend := b, pool := [], poolTile := 0, schedule := none } ∧
        account b [] ∧ Backend.workers b = Backend.workers s.backend)
      fun _ s' => excused s'.backend := by
  have workers := (h.keeps_workers (Backend.workers s.backend)).discardAll s.pool s.backend rfl
  simp only [releaseWorkers, post_bind, post_get, post_modify, post_onBackend]
  refine ((h.discardAll entered).and workers).mono ?_ fun _ _ lost => lost.1
  rintro _ b ⟨none, same⟩
  exact ⟨b, rfl, none, same⟩

variable [Scalar R]

theorem setProblem_staffed (weights : Matrix R) (direction : Direction) (staffed : s.Staffed account built) :
    Post (setProblem weights direction : Action B R W Unit) s
      (fun _ s' => s'.Staffed account built ∧ s'.pool = [] ∧ s'.lifecycle = .assigned)
      fun _ s' => excused s'.backend ∨ s' = s := by
  rw [setProblem, post_bind]
  cases Problem.pose weights direction with
  | error error => exact Or.inr rfl
  | ok p =>
    rw [post_ofExcept_ok, post_bind]
    refine (releaseWorkers_staffed h staffed.account).mono ?_ fun _ _ lost => Or.inl lost
    rintro _ _ ⟨b, rfl, none, -⟩
    simp only [post_bind, post_clearResults, post_modify]
    exact ⟨.of_idle rfl rfl rfl rfl none, trivial, rfl⟩

theorem release_staffed (staffed : s.Staffed account built) :
    Post (release : Action B R W Unit) s
      (fun _ s' => s'.Staffed account built ∧ s'.pool = [] ∧ s'.lifecycle = s.lifecycle.invalidate)
      fun _ s' => excused s'.backend := by
  rw [release, post_bind]
  refine (releaseWorkers_staffed h staffed.account).mono ?_ fun _ _ lost => lost
  rintro _ _ ⟨b, rfl, none, -⟩
  simp only [post_bind, post_clearResults, post_modify]
  refine ⟨.of_idle ?_ (Lifecycle.isPrepared_invalidate _) rfl rfl none, trivial, trivial⟩
  rw [Lifecycle.hasProblem_invalidate, staffed.hasProblem]

omit [Scalar R] in
/-- A pool for this tile size is kept, and any other one is replaced by a new one, or by none. -/
theorem fillPool_staffed (entered : account s.backend s.pool) (unscheduled : s.schedule = none)
    (manned : s.pool ≠ [] → s.pool.length = (Backend.workers s.backend).1.toNat ∧
      ∀ worker ∈ s.pool, built p.weights s.poolTile worker) :
    Post (fillPool p.weights (s.tileFor p).1 : Action B R W Unit) s
      (fun _ s' => ∃ (b : B) (pool : List W), s' = { s with backend := b, pool := pool, poolTile := (s.tileFor p).1 } ∧
        account b pool ∧ Backend.workers b = Backend.workers s.backend ∧
        pool.length = (Backend.workers s.backend).1.toNat ∧ ∀ worker ∈ pool, built p.weights (s.tileFor p).1 worker)
      fun _ s' => excused s'.backend ∨
        ∃ b : B, s' = { s with backend := b, pool := [], poolTile := 0 } ∧ account b [] := by
  rw [fillPool, post_bind, post_get]
  split
  · rw [post_bind]
    refine (releaseWorkers_staffed h entered).mono ?_ fun _ _ lost => Or.inl lost
    rintro _ _ ⟨b, rfl, none, same⟩
    have workers := (h.keeps_workers (Backend.workers s.backend)).createPool p.weights (s.tileFor p).1
      (Backend.workers s.backend) b same
    rw [post_bind, post_onBackend]
    refine ((h.createPool _ none).and workers).mono ?_ ?_
    · rintro pool b' ⟨⟨all, length, fitting⟩, same'⟩
      refine ⟨b', pool, ?_, all, same', length, fitting⟩
      rw [unscheduled]
    · rintro _ b' ⟨none', -⟩
      refine Or.inr ⟨b', ?_, none'⟩
      rw [unscheduled]
  · next fitting =>
    have kept : s.pool ≠ [] ∧ s.poolTile = (s.tileFor p).1 := by simpa using fitting
    obtain ⟨length, every⟩ := manned kept.1
    refine ⟨s.backend, s.pool, ?_, entered, rfl, length, ?_⟩
    · rw [← kept.2]
    · rw [← kept.2]
      exact every

/-- Preparing makes the solver ready for a scan, or leaves it without workers. -/
theorem prepare_staffed (staffed : s.Staffed account built) (posed : s.problem = some p) :
    Post (prepare : Action B R W Unit) s
      (fun _ s' => s'.Staffed account built ∧ s'.lifecycle = .prepared false false)
      fun _ s' => excused s'.backend ∨ s'.Staffed account built ∧ s'.pool = [] ∧ s'.lifecycle = .assigned := by
  have allowed : s.lifecycle.hasProblem = true := by rw [staffed.hasProblem, posed]; rfl
  rw [prepare, post_bind, post_require, Lifecycle.requireProblem_of_hasProblem allowed]
  simp only [post_bind, post_current, posed, post_modify, post_clearResults, post_get,
    Lifecycle.invalidate_of_hasProblem allowed]
  -- what the pool is filled in: the problem is all that is left
  let cleared : Solver B R W :=
    { s with
      lifecycle := .assigned
      problem := some p
      schedule := none
      minimum := Scalar.infinity
      solutions := []
      energies := [] }
  have manned : cleared.pool ≠ [] → cleared.pool.length = (Backend.workers cleared.backend).1.toNat ∧
      ∀ worker ∈ cleared.pool, built p.weights cleared.poolTile worker := by
    intro some
    cases scheduled : s.schedule with
    | none => exact absurd (staffed.idle scheduled) some
    | some schedule =>
      obtain ⟨q, posed', manned⟩ := staffed.manned scheduled
      obtain rfl := Option.some.inj (posed.symm.trans posed')
      refine ⟨?_, manned.built⟩
      rw [← manned.workers]
      exact manned.length_pool
  refine (fillPool_staffed (s := cleared) h staffed.account rfl manned).mono ?_ ?_
  · rintro _ _ ⟨b, pool, rfl, entered, same, length, fitting⟩
    rw [post_moveOn]
    refine ⟨⟨rfl, rfl, fun made => absurd made Bool.false_ne_true, h.reset entered, fun absent => ?_, ?_⟩, rfl⟩
    · exact absurd absent (Option.some_ne_none _)
    intro schedule scheduled
    obtain rfl := Option.some.inj scheduled
    refine ⟨p, rfl, same.symm, by rw [List.length_map]; exact length, rfl, ?_⟩
    intro worker among
    obtain ⟨before, old, rfl⟩ := List.mem_map.1 among
    exact h.built_reset (fitting before old)
  · rintro _ s' (lost | ⟨b, rfl, none⟩)
    · exact Or.inl lost
    · exact Or.inr ⟨.of_idle rfl rfl rfl rfl none, rfl, rfl⟩

/-! ## Rounds -/

omit [Scalar R] in
theorem scanRound_staffed (staffed : s.Staffed account built) :
    Post (scanRound : Action B R W (Bool × Index)) s (fun _ s' => s'.Staffed account built)
      fun _ s' => s'.Staffed account built := by
  rw [scanRound, post_bind, post_moveOn]
  cases prepared : s.lifecycle.isPrepared with
  | false =>
    rw [Lifecycle.startRound_of_not_isPrepared prepared]
    exact staffed
  | true =>
    obtain ⟨p, schedule, posed, scheduled, manned⟩ := staffed.exists_of_isPrepared prepared
    rw [Lifecycle.startRound_of_isPrepared prepared]
    have entered : account s.backend ([] ++ s.pool) := staffed.account
    have round := h.scanRound schedule.round entered
    have workers := (h.keeps_workers (Backend.workers s.backend)).scanRound schedule.round (s.backend, s.pool) rfl
    -- the cursor moves on or stays; the workers are the same
    have after (t : B × List W) (last : Schedule)
        (left : (account t.1 ([] ++ t.2) ∧ t.2.length = s.pool.length ∧
          ∀ weights tileSize, (∀ worker ∈ s.pool, built weights tileSize worker) →
            ∀ worker ∈ t.2, built weights tileSize worker) ∧ Backend.workers t.1 = Backend.workers s.backend)
        (tile : last.tileSize = schedule.tileSize) (count : last.workers = schedule.workers) :
        Staffed account built { s with
          backend := t.1
          pool := t.2
          lifecycle := .prepared false false
          schedule := some last } := by
      obtain ⟨⟨entered, length, fitting⟩, same⟩ := left
      refine ⟨?_, rfl, fun made => absurd made Bool.false_ne_true, entered, fun absent => ?_, ?_⟩
      · show true = s.problem.isSome
        rw [posed]
        rfl
      · exact absurd absent (Option.some_ne_none _)
      · intro other same'
        obtain rfl := Option.some.inj same'
        refine ⟨p, posed, ?_, ?_, ?_, fitting _ _ manned.built⟩
        · exact (count.trans manned.workers).trans same.symm
        · exact (length.trans manned.length_pool).trans (by rw [count])
        · exact manned.poolTile.trans (by rw [tile])
    simp only [post_bind, post_get, scheduled, post_onPool, post_modify, post_pure]
    refine (round.and workers).mono (fun _ t left => after t _ left rfl rfl) fun _ t left => ?_
    exact after t schedule left rfl rfl

/-! ## Every call -/

/-- Every step keeps a solver staffed, unless its backend is excused. -/
theorem enduring_staffed : Enduring (Excusably excused (Staffed (R := R) account built)) := by
  have lost := enduring_backend h.keeps_excused
  constructor
  · rintro s size (excuse | staffed)
    · exact Or.inl excuse
    · refine Or.inr ⟨staffed.hasProblem, staffed.isPrepared, staffed.hasSolution, staffed.account, staffed.idle, ?_⟩
      intro schedule scheduled
      obtain ⟨p, posed, manned⟩ := staffed.manned scheduled
      exact ⟨p, posed, manned.workers, manned.length_pool, manned.poolTile, manned.built⟩
  · intro weights direction
    refine keeps_excusably (lost.setProblem weights direction) fun s staffed => ?_
    refine (setProblem_staffed h weights direction staffed).mono (fun _ _ after => Or.inr after.1) ?_
    rintro _ s' (excuse | rfl)
    · exact Or.inl excuse
    · exact Or.inr staffed
  · refine keeps_excusably lost.prepare fun s staffed => ?_
    cases posed : s.problem with
    | none =>
      have missing : s.lifecycle.hasProblem = false := by rw [staffed.hasProblem, posed]; rfl
      exact (outOfOrder_prepare missing).post fun _ => Or.inr staffed
    | some p =>
      refine (prepare_staffed h staffed posed).mono (fun _ _ after => Or.inr after.1) ?_
      rintro _ s' (excuse | ⟨staffed', -⟩)
      · exact Or.inl excuse
      · exact Or.inr staffed'
  · refine keeps_excusably lost.scanRound fun s staffed => ?_
    exact (scanRound_staffed h staffed).mono (fun _ _ after => Or.inr after) fun _ _ after => Or.inr after
  · refine keeps_excusably lost.gatherSolutions fun s staffed => ?_
    refine (gatherSolutions_staffed staffed).mono (fun _ _ after => Or.inr after.1) ?_
    rintro _ s' ⟨rfl, -⟩
    exact Or.inr staffed
  · refine keeps_excusably lost.fillEnergies fun s staffed => ?_
    refine (fillEnergies_staffed staffed).mono (fun _ _ after => Or.inr after.1) ?_
    rintro _ s' ⟨rfl, -⟩
    exact Or.inr staffed
  · refine keeps_excusably lost.release fun s staffed => ?_
    exact (release_staffed h staffed).mono (fun _ _ after => Or.inr after.1) fun _ _ excuse => Or.inl excuse

end Ledger

/-- A new solver is staffed where no workers are accounted for. -/
theorem staffed_fresh [Scalar R] {b : B} (entered : account b []) : (fresh b : Solver B R W).Staffed account built :=
  .of_idle rfl rfl rfl rfl entered

end BinaryQuadratic.Solver
