import BinaryQuadratic.Proofs.Admission
import BinaryQuadratic.Proofs.Device.Aftermath
import BinaryQuadratic.Proofs.Parity

/-!
# Taking up a problem

A solver takes up exactly the problems that can be posed, whatever state it is in (`Solver.TakesUp`). A problem that is
refused leaves the solver as it is, with its device. Of one that is taken up nothing earlier remains: the solver is a new
one on a backend that gave up the pool, with tiles of the same size, that was given the problem. Giving up the pool
frees the buffers of its workers, whether or not a device has them or was lost, and nothing else
(`SharedDevice.discardAll_eq`).
-/

namespace BinaryQuadratic

open Step

/-! ## Freeing buffers -/

namespace Device

variable {P R : Type} [Provider P R]

/-- Freeing a buffer may fail but not crash. -/
def FreesCalmly (P : Type) {R : Type} [Provider P R] : Prop :=
  ∀ (d d' : P) (id : Nat), Provider.perform (.free id) d ≠ .error .crash d'

/-- What is left of a device when buffers are freed, one after the other. -/
def freed (d : P) (ids : List Nat) : P := ids.foldl (fun d id => (Provider.perform (.free id)).left d) d

namespace Guarded

theorem ignoreError_free (calm : FreesCalmly P) (g : Guarded P) (id : Nat) :
    (free id).ignoreError g = .ok () { g with device := (Provider.perform (.free id)).left g.device } := by
  have never := calm g.device
  simp only [Step.ignoreError, free, Provider.perform, Guarded.perform, left]
  cases freed : Provider.perform (.free id) g.device with
  | ok a d => rfl
  | error ending d =>
    cases ending with
    | error cause => rfl
    | crash => exact absurd freed (never d id)

theorem freeAll_eq (calm : FreesCalmly P) (g : Guarded P) (ids : List Nat) :
    freeAll ids g = .ok () { g with device := freed g.device ids } := by
  induction ids generalizing g with
  | nil => rfl
  | cons id ids ih =>
    rw [freeAll, bind_apply, ignoreError_free calm]
    exact ih _

end Guarded

namespace Machine

variable [Scalar R]

theorem freesCalmly : FreesCalmly (Machine R) := by
  intro d d' id crashed
  have released : Post (release id) d (fun _ _ => True) fun ending _ => ending ≠ .crash := by
    rw [release, post_bind, post_get]
    cases d.memory.buffer? id with
    | none => exact Halt.error_ne_crash _
    | some buffer => trivial
  exact released.of_error crashed rfl

/-- On a machine, the places of the buffers are emptied. -/
theorem exists_freed (d : Machine R) (ids : List Nat) :
    ∃ allocated, freed d ids = { d with memory := ids.foldl Memory.remove d.memory, allocated := allocated } := by
  induction ids generalizing d with
  | nil => exact ⟨d.allocated, rfl⟩
  | cons id ids ih =>
    obtain ⟨allocated, first⟩ := exists_left_release d id
    obtain ⟨allocated', rest⟩ := ih ((release id).left d)
    have step : freed d (id :: ids) = freed ((release id).left d) ids := rfl
    refine ⟨allocated', ?_⟩
    rw [step, rest, first]
    rfl

end Machine

end Device

/-! ## Giving up a pool -/

open Device

namespace SharedDevice

variable {P R : Type} [Scalar R] [Provider P R]

/-- The backend without the buffers of these workers, unless its device was lost. -/
def relieved (b : SharedDevice P) (pool : List (Worker R)) : SharedDevice P :=
  let ids := pool.flatMap fun worker => worker.buffers.ids
  { b with device := { b.device with device := if b.device.lost then b.device.device else freed b.device.device ids } }

theorem discard_eq (calm : FreesCalmly P) (b : SharedDevice P) (worker : Worker R) :
    Backend.discard worker b = .ok () (b.relieved [worker]) := by
  have given : worker.discard b.device = .ok () (b.relieved [worker]).device := by
    rw [Worker.discard, bind_apply, relieved, List.flatMap_singleton]
    show (if b.device.lost = true then pure () else freeAll worker.buffers.ids) b.device = _
    split
    · rfl
    · exact Guarded.freeAll_eq calm b.device worker.buffers.ids
  have after : Post (onDevice worker.discard) b (fun _ b' => b' = b.relieved [worker]) fun _ _ => False :=
    post_onDevice.2 (post_of_eq_ok given rfl)
  obtain ⟨_, _, done, rfl⟩ := after.exists_ok
  exact done

omit [Scalar R] in
theorem relieved_cons (b : SharedDevice P) (worker : Worker R) (pool : List (Worker R)) :
    b.relieved (worker :: pool) = (b.relieved [worker]).relieved pool := by
  cases lost : b.device.lost with
  | true => simp [relieved, lost]
  | false => simp [relieved, lost, freed, List.foldl_append]

/-- Giving up the workers frees their buffers, and does not fail. -/
theorem discardAll_eq (calm : FreesCalmly P) (b : SharedDevice P) (pool : List (Worker R)) :
    Backend.discardAll pool b = .ok () (b.relieved pool) := by
  induction pool generalizing b with
  | nil => simp [Backend.discardAll, relieved, freed, pure, EStateM.pure]
  | cons worker pool ih =>
    rw [Backend.discardAll, bind_apply, discard_eq calm, b.relieved_cons worker pool]
    exact ih _

end SharedDevice

theorem Threads.discardAll_eq {R : Type} [Scalar R] (b : Threads R) (pool : List (ThreadWorker R)) :
    Backend.discardAll pool b = .ok () b := by
  induction pool with
  | nil => rfl
  | cons worker pool ih => exact ih

namespace Solver

variable {B R W : Type} [Scalar R] [Backend B R W] {s : Solver B R W} {b : B} {weights : Matrix R}
  {direction : Direction}

/-! ## Taking up a problem -/

theorem answer_setProblem_of_refused {error : MatrixError} (refused : weights.Refused error) :
    s.answer (.setProblem weights direction) = (.error (.error (.matrix error)), s) := by
  have step : setProblem weights direction s = .error (.error (.matrix error)) s := by
    rw [setProblem, Problem.pose_eq_error_iff.2 refused]
    rfl
  rw [answer, perform, bind_apply, step]

theorem answer_setProblem_of_posed {p : Problem R} (posed : Problem.pose weights direction = .ok p)
    (discarded : Backend.discardAll s.pool s.backend = .ok () b) :
    s.answer (.setProblem weights direction) = (.ok .done, preferring b s.tileSize p) := by
  have after : Post (setProblem weights direction : Action B R W Unit) s
      (fun _ s' => s' = preferring b s.tileSize p) fun _ _ => False := by
    rw [setProblem, posed, post_bind, post_ofExcept_ok, releaseWorkers]
    simp only [post_bind, post_get, post_modify, post_onBackend, post_clearResults]
    exact post_of_eq_ok discarded rfl
  obtain ⟨_, _, step, rfl⟩ := after.exists_ok
  rw [answer, perform, bind_apply, step]
  rfl

/-- How the solver takes up a problem with these weights, on a backend that is then `b`. -/
structure TakesUp (s : Solver B R W) (weights : Matrix R) (direction : Direction) (b : B) : Prop where
  /-- It is taken up if the weights are admissible. -/
  accepted_iff : (s.answer (.setProblem weights direction)).1 = .ok .done ↔ weights.Admissible
  /-- Otherwise the call ends with what the weights are refused for. -/
  refused_iff (ending : Halt SolverError) : (s.answer (.setProblem weights direction)).1 = .error ending ↔
    ∃ error, ending = .error (.matrix error) ∧ weights.Refused error
  /-- A problem that is refused changes nothing. -/
  unchanged : ¬ weights.Admissible → (s.answer (.setProblem weights direction)).2 = s
  /-- All later calls are answered as if it had not been asked for. -/
  unnoticed (calls : List (Call R)) : ¬ weights.Admissible → s.run (.setProblem weights direction :: calls) =
    ((s.answer (.setProblem weights direction)).1 :: (s.run calls).1, (s.run calls).2)
  /-- What is taken up is the problem of the weights, and of the solver before only the tile size is left. -/
  posed : weights.Admissible → ∃ p : Problem R, p.Represents weights direction ∧
    (s.answer (.setProblem weights direction)).2 = preferring b s.tileSize p
  /-- A problem that is taken up is that of a new solver, of which only the tile size was set before. -/
  asNew : weights.Admissible →
    (s.answer (.setProblem weights direction)).2 = ((fresh b : Solver B R W).run (asking s.tileSize weights direction)).2

theorem takesUp_of_discarded (discarded : Backend.discardAll s.pool s.backend = .ok () b) (weights : Matrix R)
    (direction : Direction) : s.TakesUp weights direction b := by
  cases posed : Problem.pose weights direction with
  | error error =>
    have refused := Problem.pose_eq_error_iff.1 posed
    have answer : s.answer (.setProblem weights direction) = _ := answer_setProblem_of_refused refused
    refine ⟨?_, fun ending => ?_, fun _ => ?_, fun calls _ => ?_, fun admissible => ?_, fun admissible => ?_⟩
    · rw [answer]
      exact iff_of_false (fun same => by cases same) refused.not_admissible
    · rw [answer]
      constructor
      · intro same
        cases same
        exact ⟨error, rfl, refused⟩
      · rintro ⟨other, rfl, refused'⟩
        rw [refused.unique refused']
    · rw [answer]
    · rw [run_cons, answer]
    · exact absurd admissible refused.not_admissible
    · exact absurd admissible refused.not_admissible
  | ok p =>
    have admissible : weights.Admissible := Problem.exists_pose_iff.1 ⟨p, posed⟩
    have answer : s.answer (.setProblem weights direction) = _ := answer_setProblem_of_posed posed discarded
    refine ⟨?_, fun ending => ?_, fun refused => ?_, fun calls refused => ?_, fun _ => ?_, fun _ => ?_⟩
    · rw [answer]
      exact iff_of_true rfl admissible
    · rw [answer]
      constructor
      · intro same
        cases same
      · rintro ⟨error, -, refused⟩
        exact absurd admissible refused.not_admissible
    · exact absurd admissible refused
    · exact absurd admissible refused
    · exact ⟨p, Problem.represents_of_pose posed, congrArg Prod.snd answer⟩
    · rw [answer, asking, run_preferring posed]

/-- **A problem is taken up as a whole or not at all.** Whatever state a solver on the processor or on a device is in,
it takes up a problem exactly if the weights are square, equal to their transpose, and for fewer than 64 variables.
Otherwise it reports their shape, or the first place at which they differ from their transpose, or their number, in this
order; the solver and its device are as they were, and all later calls are answered as if there had been no such call. A
solver that takes up a problem is a new one with tiles of the same size that was given it, on a backend that gave up the
pool. On the processor that is the same backend; on a device, of which freeing a buffer does not crash, the buffers of the
pool were freed, unless the device was lost. A machine in host memory is such a device, and its buffers are gone then. -/
theorem problem_taken_up_or_refused (weights : Matrix R) (direction : Direction) :
    (∀ s : OnProcessor R, s.TakesUp weights direction s.backend) ∧
    (∀ s : OnDevice R, s.TakesUp weights direction (s.backend.relieved s.pool)) ∧
    (∀ {P : Type} [Provider P R], FreesCalmly P → ∀ s : Solver (SharedDevice P) R (Worker R),
      s.TakesUp weights direction (s.backend.relieved s.pool)) ∧
    ∀ (d : Machine R) (ids : List Nat), ∃ allocated,
      freed d ids = { d with memory := ids.foldl Memory.remove d.memory, allocated := allocated } := by
  refine ⟨fun s => ?_, fun s => ?_, fun calm s => ?_, Machine.exists_freed⟩
  · exact takesUp_of_discarded (Threads.discardAll_eq _ _) weights direction
  · exact takesUp_of_discarded (SharedDevice.discardAll_eq Machine.freesCalmly _ _) weights direction
  · exact takesUp_of_discarded (SharedDevice.discardAll_eq calm _ _) weights direction

/-- The corners off the diagonal differ, and behind them two entries that are not numbers. -/
def crooked : Matrix Float where
  rows := 3
  cols := 3
  data := #[0, 1, 2, 1, 0, 0 / 0, 3, 0 / 0, 0]
  size_data := rfl

/-- In the middle of a scan the corners are reported, and a problem with one variable is taken up. -/
theorem problem_taken_up_or_refused_crooked :
    let s : OnDevice Float := OnDevice.after none ⟨1, by decide⟩
      [.setProblem (Matrix.identity Float 2) .minimize, .setPreference (.tileSize 1), .prepare, .scanRound]
    FreesCalmly (Machine Float) ∧ crooked.Refused (.notSymmetric 0 2) ∧ ¬ crooked.Admissible ∧
      s.answer (.setProblem crooked .maximize) = (.error (.error (.matrix (.notSymmetric 0 2))), s) ∧
      (Matrix.identity Float 1).Admissible ∧
      (s.answer (.setProblem (Matrix.identity Float 1) .maximize)).1 = .ok .done := by
  intro s
  -- nothing depends on how far the scan went
  clear_value s
  have refused : crooked.Refused (.notSymmetric 0 2) := by
    have found : crooked.asymmetry = some (0, 2) := by decide +kernel
    obtain ⟨differs, first⟩ := Matrix.first_of_asymmetry rfl found
    exact .notSymmetric 0 2 rfl differs first
  have admissible : (Matrix.identity Float 1).Admissible := by
    refine ⟨rfl, fun row col above inside => ?_, show 1 < 64 by decide⟩
    have low : col < 1 := inside
    omega
  have calm : FreesCalmly (Machine Float) := Machine.freesCalmly
  have takes : s.TakesUp crooked .maximize (s.backend.relieved s.pool) :=
    (problem_taken_up_or_refused crooked .maximize).2.2.1 calm s
  have takes' : s.TakesUp (Matrix.identity Float 1) .maximize (s.backend.relieved s.pool) :=
    (problem_taken_up_or_refused (Matrix.identity Float 1) .maximize).2.2.1 calm s
  have done := takes'.accepted_iff.2 admissible
  refine ⟨calm, refused, refused.not_admissible, ?_, admissible, done⟩
  apply Prod.ext
  · exact (takes.refused_iff _).2 ⟨_, rfl, refused⟩
  · exact takes.unchanged refused.not_admissible

end Solver

end BinaryQuadratic
