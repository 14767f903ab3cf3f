import BinaryQuadratic.Proofs.Mirror
import BinaryQuadratic.Proofs.Solver.Basic
import BinaryQuadratic.Proofs.Symmetry
import BinaryQuadratic.Solver.Call

/-!
# Solvers on mirrored backends

A solver only sees of its backend what a mirrored one shows as well, and of its problem what every symmetry keeps. So
every call, with its weights and direction changed by a symmetry, ends alike on a mirrored backend, but for the
direction and the energies that it shows (`mirrors_perform`), and runs go on alike (`run_through`). With nothing changed
this is what a solver does on mirrored backends (`run_view`).
-/

namespace BinaryQuadratic.Solver

open Step

variable {B B' R W W' : Type} [Scalar R] [Backend B R W] [Backend B' R W']

/-- The solver with its backend and its workers seen through maps. -/
def view (view : B → B') (see : W → W') (s : Solver B R W) : Solver B' R W' :=
  { s with backend := view s.backend, pool := s.pool.map see }

/-- The solver with its backend and its workers seen through maps, and its problem through a symmetry. -/
def through (f : B → B') (g : W → W') (symmetry : Problem.Symmetry R) (s : Solver B R W) : Solver B' R W' :=
  { s with
    backend := f s.backend
    pool := s.pool.map g
    problem := s.problem.map (Problem.redirected symmetry.direction)
    energies := s.energies.map symmetry.energy }

/-- The call with weights and direction changed by a symmetry. -/
def Call.through (symmetry : Problem.Symmetry R) : Call R → Call R
  | .setProblem m d => .setProblem (symmetry.weights m) (symmetry.direction d)
  | call => call

/-- The reply with direction and energies changed by a symmetry. -/
def Reply.through (symmetry : Problem.Symmetry R) : Reply R → Reply R
  | .energies shown => .energies (shown.map symmetry.energy)
  | .energy shown => .energy (symmetry.energy shown)
  | .direction shown => .direction (symmetry.direction shown)
  | reply => reply

variable {f : B → B'} {g : W → W'} {symmetry : Problem.Symmetry R} {α β : Type}

section Parts

omit [Backend B R W] [Backend B' R W']

theorem mirrors_outOfOrder {see : α → β} {error : LifecycleError} :
    Mirrors (through f g symmetry) see (outOfOrder error : Action B R W α) (outOfOrder error) := .fail

theorem mirrors_require (allowed : Lifecycle → Except LifecycleError Unit) :
    Mirrors (through f g symmetry) id (require allowed : Action B R W Unit) (require allowed) :=
  .get_bind fun _ => .ofExcept

theorem mirrors_moveOn (step : Lifecycle → Except LifecycleError Lifecycle) :
    Mirrors (through f g symmetry) id (moveOn step : Action B R W Unit) (moveOn step) :=
  .get_bind fun _ => Mirrors.ofExcept.bind fun _ => .modify fun _ => rfl

theorem mirrors_current :
    Mirrors (through f g symmetry) (Problem.redirected symmetry.direction) (current : Action B R W (Problem R)) current :=
  .get_bind fun s => by
    dsimp only [through]
    cases s.problem with
    | none => exact mirrors_outOfOrder
    | some p => exact .pure

theorem mirrors_onBackend {see : α → β} {step : Step SolverError B α} {step' : Step SolverError B' β}
    (h : Mirrors f see step step') :
    Mirrors (through f g symmetry) see (onBackend step : Action B R W α) (onBackend step') := by
  intro s
  unfold onBackend
  rw [show (through f g symmetry s).backend = f s.backend from rfl, h s.backend]
  cases step s.backend <;> rfl

theorem mirrors_onPool {see : α → β} {step : Step SolverError (B × List W) α}
    {step' : Step SolverError (B' × List W') β}
    (h : Mirrors (Prod.map f (List.map g)) see step step') :
    Mirrors (through f g symmetry) see (onPool step : Action B R W α) (onPool step') := by
  intro s
  have here := h (s.backend, s.pool)
  simp only [Prod.map] at here
  unfold onPool
  rw [show ((through f g symmetry s).backend, (through f g symmetry s).pool) = (f s.backend, s.pool.map g) from rfl,
    here]
  cases step (s.backend, s.pool) <;> rfl

theorem mirrors_clearResults :
    Mirrors (through f g symmetry) id (clearResults : Action B R W Unit) clearResults :=
  .modify fun _ => rfl

end Parts

section Mirrored

variable (h : Backend.Mirror f g)
include h

theorem mirrors_releaseWorkers :
    Mirrors (through f g symmetry) id (releaseWorkers : Action B R W Unit) releaseWorkers :=
  .get_bind fun s => Mirrors.bind (.modify fun _ => rfl) fun _ =>
    (mirrors_onBackend (h.discardAll s.pool)).bind fun _ => .modify fun _ => rfl

theorem mirrors_setProblem (weights : Matrix R) (direction : Direction) :
    Mirrors (through f g symmetry) id (setProblem weights direction : Action B R W Unit)
      (setProblem (symmetry.weights weights) (symmetry.direction direction)) := by
  have posed : Mirrors (through f g symmetry) (Problem.redirected symmetry.direction)
      (ofExcept .matrix (Problem.pose weights direction) : Action B R W (Problem R))
      (ofExcept .matrix (Problem.pose (symmetry.weights weights) (symmetry.direction direction))) := by
    intro s
    rw [symmetry.pose_eq]
    cases Problem.pose weights direction <;> rfl
  exact posed.bind fun _ => (mirrors_releaseWorkers h).bind fun _ => mirrors_clearResults.bind fun _ =>
    .modify fun _ => rfl

theorem mirrors_fillPool (weights : Matrix R) (tileSize : UInt64) :
    Mirrors (through f g symmetry) id (fillPool weights tileSize : Action B R W Unit) (fillPool weights tileSize) := by
  refine .get_bind fun s => Mirrors.ite ?_ ?_ .pure
  · simp [through]
  · refine (mirrors_releaseWorkers h).bind fun _ => ?_
    rw [show Backend.workers (through f g symmetry s).backend = Backend.workers s.backend from h.workers s.backend]
    exact (mirrors_onBackend (h.createPool weights tileSize _)).bind fun _ => .modify fun _ => rfl

theorem mirrors_prepare : Mirrors (through f g symmetry) id (prepare : Action B R W Unit) prepare := by
  refine (mirrors_require _).bind fun _ => mirrors_current.bind fun p => Mirrors.bind (.modify fun _ => rfl) fun _ =>
    mirrors_clearResults.bind fun _ => .get_bind fun s => ?_
  rw [show Backend.workers (through f g symmetry s).backend = Backend.workers s.backend from h.workers s.backend]
  refine (mirrors_fillPool h _ _).bind fun _ => Mirrors.bind (.modify fun s => ?_) fun _ => mirrors_moveOn _
  simp only [through, List.map_map]
  congr 1
  exact List.map_congr_left fun worker _ => h.reset worker

theorem mirrors_scanRound :
    Mirrors (through f g symmetry) id (scanRound : Action B R W (Bool × Index)) scanRound := by
  refine (mirrors_moveOn _).bind fun _ => .get_bind fun s => ?_
  dsimp only [through]
  cases s.schedule with
  | none => exact mirrors_outOfOrder
  | some schedule =>
    exact (mirrors_onPool (h.scanRound schedule.round)).bind fun _ => Mirrors.bind (.modify fun _ => rfl) fun _ => .pure

theorem mirrors_scanRounds (k : Nat) :
    Mirrors (through f g symmetry) id (scanRounds k : Action B R W Unit) (scanRounds k) := by
  induction k with
  | zero => exact .pure
  | succ k ih => exact (mirrors_scanRound h).bind fun _ => ih

theorem mirrors_scanRest : Mirrors (through f g symmetry) id (scanRest : Action B R W Unit) scanRest := by
  refine .get_bind fun s => ?_
  dsimp only [through]
  cases s.schedule with
  | none => exact mirrors_outOfOrder
  | some schedule => exact mirrors_scanRounds h _

theorem mirrors_gatherSolutions :
    Mirrors (through f g symmetry) id (gatherSolutions : Action B R W Unit) gatherSolutions := by
  refine (mirrors_require _).bind fun _ => .get_bind fun s => ?_
  rw [show (through f g symmetry s).tileInUse = s.tileInUse from rfl]
  cases s.tileInUse with
  | none => exact mirrors_outOfOrder
  | some cap =>
    refine mirrors_current.bind fun p => .get_bind fun s => ?_
    rw [show (through f g symmetry s).pool.map (Backend.best B') = s.pool.map (Backend.best B) by
      simp only [through, List.map_map]
      exact List.map_congr_left fun worker _ => h.best worker]
    exact Mirrors.bind (.modify fun _ => rfl) fun _ => mirrors_moveOn _

theorem mirrors_fillEnergies :
    Mirrors (through f g symmetry) id (fillEnergies : Action B R W Unit) fillEnergies := by
  refine (mirrors_require _).bind fun _ => .get_bind fun _ => .unless_bind Iff.rfl (mirrors_gatherSolutions h) <|
    mirrors_current.bind fun p => Mirrors.bind (.modify fun s => ?_) fun _ => mirrors_moveOn _
  simp only [through, List.map_replicate, symmetry.external_eq]

theorem mirrors_search : Mirrors (through f g symmetry) id (search : Action B R W Unit) search :=
  (mirrors_prepare h).bind fun _ => (mirrors_scanRest h).bind fun _ => mirrors_gatherSolutions h

theorem mirrors_complete : Mirrors (through f g symmetry) id (complete : Action B R W Unit) complete :=
  (mirrors_require _).bind fun _ => .get_bind fun _ => .unless_bind Iff.rfl (mirrors_prepare h) <|
    (mirrors_scanRest h).bind fun _ => .get_bind fun _ => .ite Iff.rfl .pure (mirrors_gatherSolutions h)

theorem mirrors_readSolutions :
    Mirrors (through f g symmetry) id (readSolutions : Action B R W (List Assignment)) readSolutions :=
  (mirrors_complete h).bind fun _ => .get_bind fun _ => .pure

theorem mirrors_readEnergies :
    Mirrors (through f g symmetry) (List.map symmetry.energy) (readEnergies : Action B R W (List R)) readEnergies :=
  (mirrors_complete h).bind fun _ => .get_bind fun _ => .unless_bind Iff.rfl (mirrors_fillEnergies h) <|
    .get_bind fun _ => .pure

theorem mirrors_readMinimum :
    Mirrors (through f g symmetry) symmetry.energy (readMinimum : Action B R W R) readMinimum := by
  refine (mirrors_complete h).bind fun _ => mirrors_current.bind fun p => .get_bind fun s => ?_
  rw [symmetry.external_eq]
  exact .pure

theorem mirrors_release : Mirrors (through f g symmetry) id (release : Action B R W Unit) release :=
  (mirrors_releaseWorkers h).bind fun _ => mirrors_clearResults.bind fun _ => .modify fun _ => rfl

/-! ## Calls and runs -/

theorem mirrors_perform (call : Call R) :
    Mirrors (through f g symmetry) (Reply.through symmetry) (perform call : Action B R W (Reply R))
      (perform (call.through symmetry)) := by
  have preference (s : Solver B R W) : (through f g symmetry s).preference = s.preference := by
    funext name
    cases name with
    | device => exact congrArg Preference.device (h.name s.backend)
    | _ => rfl
  have applied (s : Solver B R W) (change : Option Count) :
      through f g symmetry (s.applyChange change) = (through f g symmetry s).applyChange change := by
    cases change <;> rfl
  have set (preference : Preference) : Mirrors (through f g symmetry) id
      (setPreference preference : Action B R W Unit) (setPreference preference) :=
    Mirrors.ofExcept.bind fun change => .modify fun s => applied s change
  cases call with
  | setProblem weights direction => exact (mirrors_setProblem h weights direction).bind fun _ => .pure
  | prepare => exact (mirrors_prepare h).bind fun _ => .pure
  | scanRound => exact (mirrors_scanRound h).bind fun _ => .pure
  | gatherSolutions => exact (mirrors_gatherSolutions h).bind fun _ => .pure
  | fillEnergies => exact (mirrors_fillEnergies h).bind fun _ => .pure
  | search => exact (mirrors_search h).bind fun _ => .pure
  | release => exact (mirrors_release h).bind fun _ => .pure
  | solutions => exact (mirrors_readSolutions h).bind fun _ => .pure
  | energies => exact (mirrors_readEnergies h).bind fun _ => .pure
  | minimumEnergy => exact (mirrors_readMinimum h).bind fun _ => .pure
  | problemSize => exact mirrors_current.bind fun _ => .pure
  | direction => exact mirrors_current.bind fun _ => .pure
  | algorithm => exact .pure
  | selectAlgorithm _ => exact .pure
  | backend =>
    refine .get_bind fun s => .get_bind fun t => ?_
    rw [show Backend.name (through f g symmetry s).backend = Backend.name s.backend from h.name s.backend,
      show Backend.workers (through f g symmetry t).backend = Backend.workers t.backend from h.workers t.backend]
    exact .pure
  | preferences =>
    refine .get_bind fun s => ?_
    rw [show (through f g symmetry s).preferences = s.preferences by rw [preferences, preference s, preferences]]
    exact .pure
  | preference name =>
    refine .get_bind fun s => ?_
    rw [preference s]
    exact .pure
  | setPreference preference => exact (set preference).bind fun _ => .pure
  | setPreferences preferences =>
    refine Mirrors.bind (Mirrors.ofExcept.bind fun changes => .modify fun s => ?_) fun _ => .pure
    exact (List.foldl_hom (through f g symmetry) fun s change => (applied s change).symm).symm
  | setPreferenceText name value =>
    exact Mirrors.bind (Mirrors.ofExcept.bind fun preference => set preference) fun _ => .pure

/-- Calls that a symmetry changes end alike on mirrored backends, but for what they show. -/
theorem answer_through (s : Solver B R W) (call : Call R) :
    (s.through f g symmetry).answer (call.through symmetry) =
      ((s.answer call).1.map (Reply.through symmetry), (s.answer call).2.through f g symmetry) := by
  unfold answer
  rw [mirrors_perform h call s]
  cases perform call s <;> rfl

/-- Runs that a symmetry changes end alike on mirrored backends, but for what they show. -/
theorem run_through (s : Solver B R W) (calls : List (Call R)) :
    (s.through f g symmetry).run (calls.map (Call.through symmetry)) =
      ((s.run calls).1.map (Except.map (Reply.through symmetry)), (s.run calls).2.through f g symmetry) := by
  induction calls generalizing s with
  | nil => rfl
  | cons call calls ih =>
    simp only [run, List.map_cons, answer_through h s call]
    rw [ih (s.answer call).2]

/-! ### With nothing changed -/

omit [Backend B R W] [Backend B' R W'] h in
theorem view_eq_through (s : Solver B R W) : s.view f g = s.through f g .same := by
  have problem : s.problem.map (Problem.redirected id) = s.problem := by
    cases s.problem <;> rfl
  simp only [view, through, Problem.Symmetry.same, problem, List.map_id]

omit h in
theorem Call.through_same (call : Call R) : call.through .same = call := by cases call <;> rfl

omit h in
theorem Reply.through_same : Reply.through (.same : Problem.Symmetry R) = id := by
  funext reply
  cases reply with
  | energies energies => exact congrArg Reply.energies (List.map_id energies)
  | _ => rfl

/-- Calls end alike on mirrored backends. -/
theorem answer_view (s : Solver B R W) (call : Call R) :
    (s.view f g).answer call = ((s.answer call).1, (s.answer call).2.view f g) := by
  have seen : (s.through f g .same).answer (call.through .same) = _ := answer_through h s call
  rwa [Call.through_same, Reply.through_same, Except.map_id, ← view_eq_through, ← view_eq_through] at seen

/-- Runs end alike on mirrored backends. -/
theorem run_view (s : Solver B R W) (calls : List (Call R)) :
    (s.view f g).run calls = ((s.run calls).1, (s.run calls).2.view f g) := by
  induction calls generalizing s with
  | nil => rfl
  | cons call calls ih =>
    simp only [run, answer_view h s call]
    rw [ih (s.answer call).2]

end Mirrored

end BinaryQuadratic.Solver
