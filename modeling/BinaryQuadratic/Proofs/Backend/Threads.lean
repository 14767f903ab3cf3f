import BinaryQuadratic.Backend.Threads
import BinaryQuadratic.Proofs.Backend.Ledger
import BinaryQuadratic.Proofs.Energy

/-!
# Workers on the processor are reliable

A worker takes in the indices of its span in order, each with its energy. Nothing can fail but making a pool that no
block of host memory could hold.
-/

namespace BinaryQuadratic

open Step

variable {R : Type} [Scalar R]

namespace ThreadWorker

/-- Scanning changes the incumbent only, however it ends. -/
theorem weights_scan {ε : Type} (w : ThreadWorker R) (span : Span) :
    Post (scan span : Step ε (ThreadWorker R) Unit) w (fun _ w' => w'.weights = w.weights)
      fun _ w' => w'.weights = w.weights := by
  unfold Post scan
  cases span.walk (observe w.weights) w.best <;> rfl

variable [Scalar.Ordered R] {p : Problem R} {met : List Index}

theorem post_observe {ε : Type} {best : Incumbent R} (h : best.Holds p.energy met) (x : Index) :
    Post (observe p.weights x : Step ε (Incumbent R) Unit) best
      (fun _ best' => best'.Holds p.energy (met ++ [x])) fun _ _ => False := by
  rw [observe, post_bind, p.energy?_eq, post_ofOption_some, post_modify]
  exact h.observe x

theorem post_forM_observe {ε : Type} {best : Incumbent R} (h : best.Holds p.energy met) (xs : List Index) :
    Post (forM xs (observe p.weights) : Step ε (Incumbent R) Unit) best
      (fun _ best' => best'.Holds p.energy (met ++ xs)) fun _ _ => False := by
  induction xs generalizing best met with
  | nil =>
    rw [List.append_nil]
    exact h
  | cons x xs ih =>
    rw [List.forM_cons, post_bind]
    refine (post_observe h x).mono ?_ fun _ _ never => never
    intro _ best' next
    refine (ih next).mono ?_ fun _ _ never => never
    intro _ best'' rest
    rwa [List.append_assoc] at rest

/-- Scanning a span takes in its indices, in order. -/
theorem scan_spec {ε : Type} {w : ThreadWorker R} (weights : w.weights = p.weights) (h : w.best.Holds p.energy met)
    (span : Span) :
    Post (scan span : Step ε (ThreadWorker R) Unit) w
      (fun _ w' => w'.weights = p.weights ∧ w'.best.Holds p.energy (met ++ span.indices)) fun _ _ => False := by
  have scanned := post_forM_observe (ε := ε) h span.indices
  rw [← Span.walk_eq_forM, ← weights] at scanned
  unfold Post scan at *
  cases done : span.walk (observe w.weights) w.best with
  | ok _ best =>
    rw [done] at scanned
    exact ⟨weights, scanned⟩
  | error ending best =>
    rw [done] at scanned
    exact scanned

end ThreadWorker

namespace Threads

theorem post_scan {b : Threads R} {w : ThreadWorker R} {span : Span} {ok : Unit → Threads R × ThreadWorker R → Prop}
    {halt : Halt SolverError → Threads R × ThreadWorker R → Prop} :
    Post (Backend.scan span) (b, w) ok halt ↔
      Post (ThreadWorker.scan span) w (fun _ w' => ok () (b, w')) fun ending w' => halt ending (b, w') := by
  cases scanned : ThreadWorker.scan (ε := SolverError) span w with
  | ok _ w' =>
    have done : Backend.scan (B := Threads R) span (b, w) = .ok () (b, w') := by
      simp only [Backend.scan, scanned]
    unfold Post
    rw [done, scanned]
  | error ending w' =>
    have halted : Backend.scan (B := Threads R) span (b, w) = .error ending (b, w') := by
      simp only [Backend.scan, scanned]
    unfold Post
    rw [halted, scanned]

/-- Workers on the processor give every index its energy. -/
instance [Scalar.Ordered R] : Reliable (Threads R) (Problem.energy (R := R)) where
  Sound p _ pool := ∀ worker ∈ pool, worker.weights = p.weights
  sound_nil _ worker none := absurd none List.not_mem_nil
  sound_reset sound worker reset := by
    obtain ⟨w, hw, rfl⟩ := List.mem_map.1 reset
    exact sound w hw
  best_reset _ := rfl
  discard_spec sound := ⟨fun worker rest => sound worker (List.mem_cons_of_mem _ rest), rfl⟩
  create_spec {p _ pool} _ sound := by
    refine ⟨?_, rfl⟩
    intro worker joined
    rcases List.mem_append.1 joined with before | new
    · exact sound worker before
    · rw [List.mem_singleton.1 new]
      rfl
  scan_spec {p b before after worker met span} sound holds _ := by
    have own := sound worker (List.mem_append_right _ List.mem_cons_self)
    refine post_scan.2 ((ThreadWorker.scan_spec own holds span).mono ?_ fun _ _ never => never)
    rintro _ worker' ⟨weights, holds'⟩
    refine ⟨?_, holds', rfl⟩
    intro w hw
    rcases List.mem_append.1 hw with left | right
    · exact sound w (List.mem_append_left _ left)
    · rcases List.mem_cons.1 right with rfl | right
      · exact weights
      · exact sound w (List.mem_append_right _ (List.mem_cons_of_mem _ right))

/-- There is nothing to account for, and what workers are built for are weights. -/
theorem ledger : Backend.Ledger (fun _ : Threads R => False) (fun _ _ => True)
    fun weights _ worker => worker.weights = weights where
  keeps_workers count :=
    ⟨fun _ _ _ holds => holds, fun _ _ holds => holds, fun span t holds => post_scan.2 <|
      (ThreadWorker.weights_scan t.2 span).mono (fun _ _ _ => holds) fun _ _ _ => holds⟩
  keeps_excused := ⟨fun _ _ _ never => never.elim, fun _ _ never => never.elim, fun _ _ never => never.elim⟩
  account_of_excused _ never := never.elim
  create _ _ _ := ⟨trivial, rfl⟩
  discard _ := trivial
  reset _ := trivial
  built_reset fitting := fitting
  scan {b before after worker} span _ := post_scan.2 <| by
    have same (w' : ThreadWorker R) (weights : w'.weights = worker.weights) (other : Matrix R) (_ : UInt64)
        (fitting : worker.weights = other) : w'.weights = other := weights.trans fitting
    exact (ThreadWorker.weights_scan worker span).mono (fun _ w' h => ⟨trivial, same w' h⟩)
      fun _ w' h => ⟨trivial, same w' h⟩

/-- A pool is made exactly if host memory can hold its workers, and crashes otherwise. -/
theorem createPool_spec (weights : Matrix R) (tileSize : UInt64) (count : Count) (b : Threads R) :
    Post (Backend.createPool weights tileSize count) b
      (fun _ _ => HostMemory.Fits count.1.toNat (Backend.workerBytes (Threads R)))
      fun ending _ => ending = .crash ∧ ¬ HostMemory.Fits count.1.toNat (Backend.workerBytes (Threads R)) := by
  have made (k : Nat) (pool : List (ThreadWorker R)) :
      Post (Backend.createMore weights tileSize k pool) b (fun _ _ => True) fun _ _ => False := by
    induction k generalizing pool with
    | zero => trivial
    | succ k ih =>
      rw [Backend.createMore, post_bind, post_orCleanup]
      exact ih _
  rw [Backend.createPool, post_bind, post_reserve]
  split
  · next fits => exact (made _ _).mono (fun _ _ _ => fits) fun _ _ never => never.elim
  · next large => exact ⟨rfl, large⟩

end Threads

end BinaryQuadratic
