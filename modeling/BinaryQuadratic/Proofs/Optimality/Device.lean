import BinaryQuadratic.Proofs.Backend.SharedDevice
import BinaryQuadratic.Proofs.Format.Precision
import BinaryQuadratic.Proofs.Solver.Call

/-!
# Optimality of a search on a device

Whatever was called before, and however calls failed for want of memory or order, a result that is read is the optimum
of all indices, by the quadratic forms of their assignments over the weights of the last problem that was posed. Forms
may be undefined; such indices are never reported.
-/

namespace BinaryQuadratic.Solver

open Step Reliable

/-! ## What is read -/

section Reading

variable {B R W : Type} [Scalar R] [Scalar.Ordered R] [Backend B R W] {value : Problem R → Index → R}
  [Reliable B value] {s s' : Solver B R W} {reply : Reply R}

/-- A minimum that is read is that of all indices, of the problem there is. -/
theorem optimum_of_answer (h : s.Faithful value) (read : s.answer .minimumEnergy = (.ok reply, s')) :
    ∃ p minimum, s.problem = some p ∧ reply = .energy (p.external minimum) ∧
      Optimum (value p) (2 ^ p.size) minimum := by
  have post : Post (perform .minimumEnergy) s
      (fun reply _ => ∃ p minimum, s.problem = some p ∧ reply = .energy (p.external minimum) ∧
        Optimum (value p) (2 ^ p.size) minimum) fun _ _ => True := by
    rw [perform, post_bind]
    cases posed : s.problem with
    | none => exact (outOfOrder_readMinimum (by rw [h.hasProblem, posed]; rfl)).post fun _ => trivial
    | some p =>
      refine (readMinimum_spec h posed).mono ?_ fun _ _ _ => trivial
      rintro _ s' ⟨done, rfl⟩
      obtain ⟨size, -, reported⟩ := done.finished.shows
      exact ⟨p, s'.minimum, rfl, rfl, reported.optimum⟩
  exact of_answer_ok post read

/-- Solutions that are read are the first of all indices at their minimum, as many as a tile holds. -/
theorem reported_of_answer (h : s.Faithful value) (read : s.answer .solutions = (.ok reply, s')) :
    ∃ p size minimum solutions, s.problem = some p ∧ s'.tileInUse = some size ∧ reply = .solutions solutions ∧
      Reported (value p) p.size (2 ^ p.size) size.1.toNat minimum solutions := by
  have post : Post (perform .solutions) s
      (fun reply s' => ∃ p size minimum solutions, s.problem = some p ∧ s'.tileInUse = some size ∧
        reply = .solutions solutions ∧ Reported (value p) p.size (2 ^ p.size) size.1.toNat minimum solutions)
      fun _ _ => True := by
    rw [perform, post_bind]
    cases posed : s.problem with
    | none => exact (outOfOrder_readSolutions (by rw [h.hasProblem, posed]; rfl)).post fun _ => trivial
    | some p =>
      refine (readSolutions_spec h posed).mono ?_ fun _ _ _ => trivial
      rintro _ s' ⟨done, rfl⟩
      obtain ⟨size, inUse, reported⟩ := done.finished.shows
      exact ⟨p, size, s'.minimum, s'.solutions, rfl, inUse, rfl, reported⟩
  exact of_answer_ok post read

end Reading

/-! ## On a device in host memory -/

variable {R : Type} [Scalar R] [Scalar.Ordered R]

/-- A solver on a device in host memory. -/
abbrev OnDevice (R : Type) : Type := Solver (SharedDevice (Device.Machine R)) R (Device.Worker R)

namespace OnDevice

/-- A new solver with this number of workers on a new device with this capacity. -/
def start (capacity : Option Nat) (workers : Count) : OnDevice R := fresh ⟨.fresh (.empty capacity), "host", workers⟩

/-- The solver that given calls on a new one leave. -/
def after (capacity : Option Nat) (workers : Count) (calls : List (Call R)) : OnDevice R :=
  ((start capacity workers).run calls).2

theorem continues_after (capacity : Option Nat) (workers : Count) (calls : List (Call R)) :
    Continues Problem.form (start capacity workers : OnDevice R) (lastPosed calls) (after capacity workers calls) :=
  run_spec (faithful_fresh fun _ => SharedDevice.usable_of_equipped (.nil ⟨rfl, rfl, rfl⟩)) calls

end OnDevice

/-- **Optimality on a device.** After any calls, the solver's problem is the last one that was posed, which is that of
the last weights that were admissible. A minimum that is read is the optimum of all indices in the direction of the
problem, and solutions that are read are the assignments of the first indices that reach it, as many as a tile holds. -/
theorem device_search_optimal (capacity : Option Nat) (workers : Count) (calls : List (Call R)) :
    (OnDevice.after capacity workers calls).problem = lastPosed calls ∧
    (∀ p, lastPosed calls = some p ↔ PosesLast calls p) ∧
    (∀ reply s', (OnDevice.after capacity workers calls).answer .minimumEnergy = (.ok reply, s') →
      ∃ (p : Problem R) (minimum : R), lastPosed calls = some p ∧ reply = .energy (p.external minimum) ∧
        Optimum p.form (2 ^ p.size) minimum) ∧
    ∀ reply s', (OnDevice.after capacity workers calls).answer .solutions = (.ok reply, s') →
      ∃ (p : Problem R) (size : Count) (minimum : R) (solutions : List Assignment), lastPosed calls = some p ∧
        s'.tileInUse = some size ∧ reply = .solutions solutions ∧
        Reported p.form p.size (2 ^ p.size) size.1.toNat minimum solutions := by
  obtain ⟨faithful, -, problem⟩ := OnDevice.continues_after capacity workers calls
  have posed : (OnDevice.after capacity workers calls).problem = lastPosed calls := problem.trans Option.or_none
  refine ⟨posed, fun p => lastPosed_eq_some_iff, fun reply s' read => ?_, fun reply s' read => ?_⟩
  · obtain ⟨p, minimum, hp, form, optimum⟩ := optimum_of_answer faithful read
    exact ⟨p, minimum, posed ▸ hp, form, optimum⟩
  · obtain ⟨p, size, minimum, solutions, hp, inUse, form, reported⟩ := reported_of_answer faithful read
    exact ⟨p, size, minimum, solutions, posed ▸ hp, inUse, form, reported⟩

/-- One weight, which is infinite: the form of the index that leaves it out is undefined. -/
def infiniteWeight : Matrix Float := ⟨1, 1, #[Scalar.infinity], rfl⟩

/-- Two workers and an infinite weight, on a device on which the first solver calls fail. -/
theorem device_search_optimal_infiniteWeight :
    ∃ reply s', (OnDevice.after (some 20) ⟨2, by decide⟩ [.search, .setProblem infiniteWeight .maximize]).answer
        .minimumEnergy = (.ok reply, s') ∧
      ∃ (p : Problem Float) (minimum : Float),
        lastPosed [.search, .setProblem infiniteWeight .maximize] = some p ∧ reply = .energy (p.external minimum) ∧
        Optimum p.form (2 ^ p.size) minimum := by
  have read : ((OnDevice.after (some 20) ⟨2, by decide⟩ [.search, .setProblem infiniteWeight .maximize]).answer
      .minimumEnergy).1.isOk = true := by decide +kernel
  generalize answered : (OnDevice.after (some 20) ⟨2, by decide⟩ [.search, .setProblem infiniteWeight .maximize]).answer
    .minimumEnergy = outcome at *
  obtain ⟨_ | reply, s'⟩ := outcome
  · nomatch read
  · exact ⟨reply, s', rfl, (device_search_optimal (some 20) ⟨2, by decide⟩ _).2.2.1 reply s' answered⟩

end BinaryQuadratic.Solver
