import BinaryQuadratic.Proofs.Format.Precision
import BinaryQuadratic.Proofs.Optimality.Processor
import BinaryQuadratic.Proofs.Solver.Mirror

/-!
# Opposite runs

Whoever poses opposite weights in the opposite direction, and calls the same otherwise, is answered the same, but for the
direction and the signs of energies. Every solver stands where the other one does all along: in the same phase, at the
same cursor, with the same workers and the same solutions. This is so on every backend, also where calls end early, and
whatever was refused.
-/

namespace BinaryQuadratic.Solver

variable {B R W : Type} [Scalar R] [Backend B R W]

/-- The same call; a problem is posed with opposite weights in the opposite direction. -/
def Call.opposite : Call R → Call R
  | .setProblem weights d => .setProblem weights.negated d.opposite
  | call => call

/-- The same reply, with the sign of every energy changed, and the direction. -/
def Reply.opposite : Reply R → Reply R
  | .energies shown => .energies (shown.map (- ·))
  | .energy shown => .energy (-shown)
  | .direction shown => .direction shown.opposite
  | reply => reply

/-- The same solver, but for the direction of its problem and the signs of the energies that it shows. -/
def opposite (s : Solver B R W) : Solver B R W :=
  { s with
    problem := s.problem.map fun p => { p with direction := p.direction.opposite }
    energies := s.energies.map (- ·) }

omit [Scalar R] in
/-- Every backend is its own mirror image. -/
theorem mirror_id : Backend.Mirror (id : B → B) (id : W → W) where
  name _ := rfl
  workers _ := rfl
  workerBytes := rfl
  create weights tileSize b := by
    show Backend.create weights tileSize b = _
    cases Backend.create weights tileSize b <;> rfl
  discard worker b := by
    show Backend.discard worker b = _
    cases Backend.discard worker b <;> rfl
  reset _ := rfl
  best _ := rfl
  scan span t := by
    show Backend.scan span t = _
    cases Backend.scan span t <;> rfl

variable [Scalar.Signed R]

omit [Backend B R W] in
theorem through_opposite (s : Solver B R W) : s.through id id .opposite = s.opposite := by
  simp only [through, opposite, List.map_id, id]
  rfl

theorem Call.through_opposite : (Call.through .opposite : Call R → Call R) = Call.opposite := by
  funext call
  cases call <;> rfl

theorem Reply.through_opposite : (Reply.through .opposite : Reply R → Reply R) = Reply.opposite := by
  funext reply
  cases reply <;> rfl

/-- Opposite runs from opposite solvers are opposite. -/
theorem run_opposite (s : Solver B R W) (calls : List (Call R)) :
    s.opposite.run (calls.map Call.opposite) =
      ((s.run calls).1.map (Except.map Reply.opposite), (s.run calls).2.opposite) := by
  have seen : (s.through id id .opposite).run (calls.map (Call.through .opposite)) = _ := run_through mirror_id s calls
  rwa [through_opposite, through_opposite, Call.through_opposite, Reply.through_opposite] at seen

/-- **Sign symmetry.** Of two new solvers on the same backend, one is given calls, the other one the same calls with
opposite weights and directions. Call by call both succeed or end early in the same way, and every reply is the same
but for the signs of energies and the direction. Afterwards both stand in the same phase, at the same place of the same
schedule, complete or not, with the same solutions and with opposite energies. -/
theorem answers_opposite (b : B) (calls : List (Call R)) :
    let first := (fresh b : Solver B R W).run calls
    let second := (fresh b : Solver B R W).run (calls.map Call.opposite)
    second.1 = first.1.map (Except.map Reply.opposite) ∧ second.2 = first.2.opposite ∧
      second.2.lifecycle = first.2.lifecycle ∧ second.2.schedule = first.2.schedule ∧
      second.2.isComplete = first.2.isComplete ∧ second.2.solutions = first.2.solutions ∧
      second.2.energies = first.2.energies.map (- ·) := by
  intro first second
  have runs : second = (first.1.map (Except.map Reply.opposite), first.2.opposite) :=
    run_opposite (fresh b) calls
  rw [runs]
  exact ⟨rfl, rfl, rfl, rfl, rfl, rfl, rfl⟩

/-- Two threads and numbers of double precision: a greatest energy of two is a least energy of minus two. -/
theorem answers_opposite_binary64 :
    Scalar.Signed Float ∧
      let first := (fresh ⟨2, by decide⟩ : OnProcessor Float).run
        [.setProblem (Matrix.identity Float 2) .maximize, .energies]
      let second := (fresh ⟨2, by decide⟩ : OnProcessor Float).run
        [.setProblem (Matrix.identity Float 2).negated .minimize, .energies]
      second.1 = first.1.map (Except.map Reply.opposite) ∧ second.2.energies = first.2.energies.map (- ·) ∧
        first.1.map (·.isOk) = [true, true] ∧ first.2.energies.map (· == 2) = [true] := by
  obtain ⟨replies, -, -, -, -, -, energies⟩ := answers_opposite (⟨2, by decide⟩ : Threads Float)
    [.setProblem (Matrix.identity Float 2) .maximize, .energies]
  exact ⟨inferInstance, replies, energies, by decide +kernel, by decide +kernel⟩

end BinaryQuadratic.Solver
