import BinaryQuadratic.Proofs.Backend
import BinaryQuadratic.Proofs.Schedule
import BinaryQuadratic.Proofs.Solver.Basic

/-!
# The invariant of solvers

What holds of a solver on a reliable backend after any calls: its parts are there when its lifecycle says so, its
workers are fit for use, and while it is prepared they have met every index below the cursor once. Solutions that count
as available are then the optimum of these indices.
-/

namespace BinaryQuadratic

/-! ## Lifecycles -/

namespace Lifecycle

@[simp]
theorem hasProblem_invalidate (l : Lifecycle) : l.invalidate.hasProblem = l.hasProblem := by cases l <;> rfl

@[simp]
theorem isPrepared_invalidate (l : Lifecycle) : l.invalidate.isPrepared = false := by cases l <;> rfl

@[simp]
theorem hasEnergy_invalidate (l : Lifecycle) : l.invalidate.hasEnergy = false := by cases l <;> rfl

theorem hasProblem_of_isPrepared {l : Lifecycle} (h : l.isPrepared = true) : l.hasProblem = true := by
  cases l with
  | unset => exact absurd h Bool.false_ne_true
  | assigned => rfl
  | prepared => rfl

theorem invalidate_of_hasProblem {l : Lifecycle} (h : l.hasProblem = true) : l.invalidate = .assigned := by
  cases l with
  | unset => exact absurd h Bool.false_ne_true
  | assigned => rfl
  | prepared => rfl

theorem isPrepared_of_hasSolution {l : Lifecycle} (h : l.hasSolution = true) : l.isPrepared = true := by
  cases l with
  | unset => exact h
  | assigned => exact h
  | prepared => rfl

theorem isPrepared_of_not_hasProblem {l : Lifecycle} (h : l.hasProblem = false) : l.isPrepared = false := by
  cases l with
  | unset => rfl
  | assigned => rfl
  | prepared => exact absurd h.symm Bool.false_ne_true

theorem hasEnergy_of_not_isPrepared {l : Lifecycle} (h : l.isPrepared = false) : l.hasEnergy = false := by
  cases l with
  | unset => rfl
  | assigned => rfl
  | prepared => exact absurd h.symm Bool.false_ne_true

/-! Steps that are in order. -/

theorem requireProblem_of_hasProblem {l : Lifecycle} (h : l.hasProblem = true) : l.requireProblem = .ok () := by
  cases l with
  | unset => exact absurd h Bool.false_ne_true
  | assigned => rfl
  | prepared => rfl

theorem requirePrepared_of_isPrepared {l : Lifecycle} (h : l.isPrepared = true) : l.requirePrepared = .ok () := by
  cases l with
  | unset => exact absurd h Bool.false_ne_true
  | assigned => exact absurd h Bool.false_ne_true
  | prepared => rfl

theorem startRound_of_isPrepared {l : Lifecycle} (h : l.isPrepared = true) :
    l.startRound = .ok (.prepared false false) := by
  cases l with
  | unset => exact absurd h Bool.false_ne_true
  | assigned => exact absurd h Bool.false_ne_true
  | prepared => rfl

theorem gainSolution_of_isPrepared {l : Lifecycle} (h : l.isPrepared = true) :
    l.gainSolution = .ok (.prepared true l.hasEnergy) := by
  cases l with
  | unset => exact absurd h Bool.false_ne_true
  | assigned => exact absurd h Bool.false_ne_true
  | prepared => rfl

theorem gainEnergy_of_isPrepared {l : Lifecycle} (h : l.isPrepared = true) :
    l.gainEnergy = .ok (.prepared l.hasSolution true) := by
  cases l with
  | unset => exact absurd h Bool.false_ne_true
  | assigned => exact absurd h Bool.false_ne_true
  | prepared => rfl

/-! Making results leaves a search as prepared as it was. -/

theorem isPrepared_of_gainSolution {l l' : Lifecycle} (made : l.gainSolution = .ok l') :
    l'.isPrepared = l.isPrepared := by
  cases l <;> cases made
  rfl

theorem isPrepared_of_gainEnergy {l l' : Lifecycle} (made : l.gainEnergy = .ok l') : l'.isPrepared = l.isPrepared := by
  cases l <;> cases made
  rfl

/-! Steps that are out of order. -/

theorem requireProblem_of_not_hasProblem {l : Lifecycle} (h : l.hasProblem = false) :
    l.requireProblem = .error .noProblem := by
  cases l with
  | unset => rfl
  | assigned => exact absurd h.symm Bool.false_ne_true
  | prepared => exact absurd h.symm Bool.false_ne_true

/-- Why a search that is not prepared is refused: a missing problem comes first. -/
def refusal (l : Lifecycle) : LifecycleError := if l.hasProblem then .notPrepared else .noProblem

theorem requirePrepared_of_not_isPrepared {l : Lifecycle} (h : l.isPrepared = false) :
    l.requirePrepared = .error l.refusal := by
  cases l with
  | unset => rfl
  | assigned => rfl
  | prepared => exact absurd h.symm Bool.false_ne_true

theorem startRound_of_not_isPrepared {l : Lifecycle} (h : l.isPrepared = false) : l.startRound = .error l.refusal := by
  cases l with
  | unset => rfl
  | assigned => rfl
  | prepared => exact absurd h.symm Bool.false_ne_true

end Lifecycle

/-! ## Solvers -/

namespace Solver

variable {B R W : Type} [Scalar R] [Backend B R W]

/-- The minimum and the solutions are those of the indices of `n` variables below the stop, with at most as many
solutions as a tile holds. -/
def Shows (s : Solver B R W) (value : Index → R) (n stop : Nat) : Prop :=
  ∃ size, s.tileInUse = some size ∧ Reported value n stop size.1.toNat s.minimum s.solutions

/-- The workers are in the middle of a scan for this problem. -/
structure Scanning (value : Problem R → Index → R) (s : Solver B R W) (p : Problem R) (schedule : Schedule) :
    Prop where
  stop : schedule.stop = Index.limit p.size
  workers : schedule.workers = Backend.workers s.backend
  length_pool : s.pool.length = (Backend.workers s.backend).1.toNat
  met : ∃ parts : List (W × List Index), s.pool = parts.map (·.1) ∧
    (∀ part ∈ parts, (Backend.best B part.1).Holds (value p) part.2) ∧
    (parts.flatMap (·.2)).Perm (Index.between 0 schedule.cursor.toNat)

namespace Scanning

variable {value : Problem R → Index → R} {s : Solver B R W} {p : Problem R} {schedule : Schedule}

theorem pool_ne_nil (h : Scanning value s p schedule) : s.pool ≠ [] := by
  intro empty
  have length := h.length_pool
  rw [empty, List.length_nil, ← h.workers] at length
  have := schedule.workers_pos
  omega

theorem toNat_stop (h : Scanning value s p schedule) : schedule.stop.toNat = 2 ^ p.size := by
  rw [h.stop]
  exact Index.toNat_limit p.size_lt

theorem toNat_cursor_le (h : Scanning value s p schedule) : schedule.cursor.toNat ≤ 2 ^ p.size := by
  rw [← h.toNat_stop]
  exact schedule.toNat_cursor_le_stop

/-- Merging the workers reports the optimum of what was scanned. -/
theorem merge_spec [Scalar.Ordered R] (h : Scanning value s p schedule) (cap : Nat) :
    Reported (value p) p.size schedule.cursor.toNat cap (Incumbent.merge (s.pool.map (Backend.best B)) cap).energy
      ((Incumbent.merge (s.pool.map (Backend.best B)) cap).indices.map (·.decode p.size)) := by
  obtain ⟨parts, hpool, holds, perm⟩ := h.met
  have bound : schedule.cursor.toNat ≤ 2 ^ 64 := Nat.le_of_lt schedule.cursor.toNat_lt
  have incumbents : s.pool.map (Backend.best B) =
      (parts.map fun part => (Backend.best B part.1, part.2)).map (·.1) := by
    rw [hpool, List.map_map, List.map_map]
    rfl
  have shares : Incumbent.Shares (value p) (parts.map fun part => (Backend.best B part.1, part.2))
      schedule.cursor.toNat := by
    constructor
    · intro part hpart
      obtain ⟨q, hq, rfl⟩ := List.mem_map.1 hpart
      exact holds q hq
    · rw [List.flatMap_map]
      exact perm
  rw [incumbents]
  exact ⟨Incumbent.optimum_merge (shares.covers bound) cap, by rw [Incumbent.indices_merge shares bound cap]⟩

end Scanning

/-- What scanning and making results leave as it is. -/
structure Kept (s s' : Solver B R W) : Prop where
  problem : s'.problem = s.problem
  tileSize : s'.tileSize = s.tileSize
  workers : Backend.workers s'.backend = Backend.workers s.backend

omit [Scalar R] in
theorem Kept.trans {s s' s'' : Solver B R W} (h : Kept s s') (h' : Kept s' s'') : Kept s s'' :=
  ⟨h'.problem.trans h.problem, h'.tileSize.trans h.tileSize, h'.workers.trans h.workers⟩

omit [Scalar R] [Backend B R W] in
theorem isComplete_of_isPrepared {s : Solver B R W} {schedule : Schedule} (prepared : s.lifecycle.isPrepared = true)
    (scheduled : s.schedule = some schedule) : s.isComplete = schedule.isComplete := by
  rw [isComplete, prepared, scheduled]
  rfl

/-- What holds of a solver after any calls. -/
structure Faithful (value : Problem R → Index → R) [Reliable B value] (s : Solver B R W) : Prop where
  hasProblem : s.lifecycle.hasProblem = s.problem.isSome
  isPrepared : s.lifecycle.isPrepared = s.schedule.isSome
  unposed : s.problem = none → s.pool = []
  sound (p : Problem R) : s.problem = some p ∨ s.pool = [] → Reliable.Sound p s.backend s.pool
  length_pool : s.pool = [] ∨ s.pool.length = (Backend.workers s.backend).1.toNat ∧
    HostMemory.Fits (Backend.workers s.backend).1.toNat (Backend.workerBytes B)
  scanning {p : Problem R} {schedule : Schedule} : s.problem = some p → s.schedule = some schedule →
    Scanning value s p schedule
  shows {p : Problem R} {schedule : Schedule} : s.problem = some p → s.schedule = some schedule →
    s.lifecycle.hasSolution = true → s.Shows (value p) p.size schedule.cursor.toNat

variable {value : Problem R → Index → R} [Reliable B value] {s : Solver B R W} {p : Problem R}

namespace Faithful

/-- A prepared solver has a problem and a schedule. -/
theorem exists_of_isPrepared (h : s.Faithful value) (prepared : s.lifecycle.isPrepared = true) :
    ∃ p schedule, s.problem = some p ∧ s.schedule = some schedule := by
  obtain ⟨schedule, hschedule⟩ := Option.isSome_iff_exists.1 (h.isPrepared ▸ prepared)
  have posed := h.hasProblem ▸ Lifecycle.hasProblem_of_isPrepared prepared
  obtain ⟨p, hp⟩ := Option.isSome_iff_exists.1 posed
  exact ⟨p, schedule, hp, hschedule⟩

/-- Some problem makes the pool sound. -/
theorem exists_sound (h : s.Faithful value) : ∃ p : Problem R, Reliable.Sound p s.backend s.pool := by
  cases hp : s.problem with
  | none => exact ⟨⟨⟨0, 0, #[], rfl⟩, .minimize, rfl, Nat.zero_lt_succ 63⟩, h.sound _ (Or.inr (h.unposed hp))⟩
  | some p => exact ⟨p, h.sound p (Or.inl hp)⟩

theorem isPrepared_of_schedule (h : s.Faithful value) {schedule : Schedule} (scheduled : s.schedule = some schedule) :
    s.lifecycle.isPrepared = true := by
  rw [h.isPrepared, scheduled]
  rfl

/-- A solver in the middle of a scan. -/
theorem of_scanning {schedule : Schedule} (prepared : s.lifecycle.isPrepared = true) (posed : s.problem = some p)
    (scheduled : s.schedule = some schedule) (sound : Reliable.Sound p s.backend s.pool)
    (scanning : Scanning value s p schedule)
    (fits : HostMemory.Fits (Backend.workers s.backend).1.toNat (Backend.workerBytes B))
    (shows : s.lifecycle.hasSolution = true → s.Shows (value p) p.size schedule.cursor.toNat) : s.Faithful value where
  hasProblem := by rw [Lifecycle.hasProblem_of_isPrepared prepared, posed]; rfl
  isPrepared := by rw [prepared, scheduled]; rfl
  unposed none := by rw [posed] at none; nomatch none
  sound q hq := by
    -- another problem is only asked about where there are no workers
    rcases hq with same | empty
    · obtain rfl := Option.some.inj (posed.symm.trans same)
      exact sound
    · rw [empty] at sound ⊢
      exact Reliable.sound_nil sound
  length_pool := Or.inr ⟨scanning.length_pool, fits⟩
  scanning hp hschedule := by
    obtain rfl := Option.some.inj (posed.symm.trans hp)
    obtain rfl := Option.some.inj (scheduled.symm.trans hschedule)
    exact scanning
  shows hp hschedule available := by
    obtain rfl := Option.some.inj (posed.symm.trans hp)
    obtain rfl := Option.some.inj (scheduled.symm.trans hschedule)
    exact shows available

theorem isComplete_eq (h : s.Faithful value) {schedule : Schedule} (scheduled : s.schedule = some schedule) :
    s.isComplete = schedule.isComplete :=
  isComplete_of_isPrepared (h.isPrepared_of_schedule scheduled) scheduled

/-- A solver whose schedule is complete shows the optimum of all indices. -/
theorem shows_all (h : s.Faithful value) (posed : s.problem = some p) {schedule : Schedule}
    (scheduled : s.schedule = some schedule) (complete : schedule.isComplete = true)
    (shows : s.Shows (value p) p.size schedule.cursor.toNat) : s.Shows (value p) p.size (2 ^ p.size) := by
  rwa [(Schedule.isComplete_iff _).1 complete, (h.scanning posed scheduled).toNat_stop] at shows

/-- Host memory can hold the pool of a solver in the middle of a scan. -/
theorem fits (h : s.Faithful value) {schedule : Schedule} (scanning : Scanning value s p schedule) :
    HostMemory.Fits (Backend.workers s.backend).1.toNat (Backend.workerBytes B) :=
  (h.length_pool.resolve_left scanning.pool_ne_nil).2

end Faithful

end Solver

end BinaryQuadratic
