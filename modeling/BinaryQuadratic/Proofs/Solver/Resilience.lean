import BinaryQuadratic.Proofs.Repetition
import BinaryQuadratic.Proofs.Solver.Mirror
import BinaryQuadratic.Proofs.Solver.Rescan
import BinaryQuadratic.Proofs.Solver.Ruin

/-!
# Runs on resilient backends

Every call keeps the invariant of solvers on resilient backends, however it ends, with one exception: when a call that
gives up the workers of a solver is broken off by a crash, the solver has lost its workers without noticing
(`breaksOff`). From then on its backend is lost and it has no workers, whatever is called (`Ruined`).
-/

namespace BinaryQuadratic.Solver

open Step Resilient

/-! ## Broken off -/

section Intact

variable {B R W : Type} [Scalar R] [Backend B R W] {s : Solver B R W}

/-- A call that was to give up the workers of a solver ended with a crash. -/
def breaksOff : Call R → Outcome R → Bool
  | .setProblem _ _, .error .crash => true
  | .release, .error .crash => true
  | _, _ => false

/-- None of the calls, made one after the other, breaks off giving up workers. -/
def Intact (s : Solver B R W) (calls : List (Call R)) : Prop :=
  ∀ answered ∈ calls.zip (s.run calls).1, breaksOff answered.1 answered.2 = false

theorem intact_nil : s.Intact [] := fun _ none => absurd none List.not_mem_nil

theorem intact_cons {call : Call R} {calls : List (Call R)} :
    s.Intact (call :: calls) ↔ breaksOff call (s.answer call).1 = false ∧ (s.answer call).2.Intact calls := by
  rw [Intact, run_cons, List.zip_cons_cons, List.forall_mem_cons]
  rfl

end Intact

variable {B R W : Type} [Scalar R] [Backend B R W] {value : Problem R → Index → R} [Resilient B value]
  {s s' : Solver (Journal B) R (Journaled W)} {p : Problem R}

/-! ## Calls -/

/-- What every call keeps that does not break off giving up workers: the invariant, the kind of backend, and the
problem unless another one is posed. -/
structure Resumes (s : Solver (Journal B) R (Journaled W)) (posed : Option (Problem R))
    (s' : Solver (Journal B) R (Journaled W)) : Prop where
  tracked : s'.Tracked
  alike : Alike s.backend s'.backend
  problem : s'.problem = posed.or s.problem

theorem Retains.resumes (h : Retains s s') : Resumes s none s' := ⟨h.tracked, h.alike, h.problem⟩

/-- How a call leaves a solver. -/
def Leaves (s : Solver (Journal B) R (Journaled W)) (call : Call R) (outcome : Outcome R)
    (s' : Solver (Journal B) R (Journaled W)) : Prop :=
  if breaksOff call outcome = true then s'.Ruined ∧ ¬ Steady (plan s.backend.backend) else Resumes s call.posed s'

theorem leaves_of_resumes {call : Call R} {outcome : Outcome R} (stays : breaksOff call outcome = false)
    (h : Resumes s call.posed s') : Leaves s call outcome s' := by
  rw [Leaves, if_neg (Bool.eq_false_iff.1 stays)]
  exact h

theorem leaves_of_ruined {call : Call R} {outcome : Outcome R} (broken : breaksOff call outcome = true)
    (h : s'.Ruined) (unsteady : ¬ Steady (plan s.backend.backend)) : Leaves s call outcome s' := by
  rw [Leaves, if_pos broken]
  exact ⟨h, unsteady⟩

/-- A problem that is refused changes nothing, and any other one is taken up unless the workers are not given up. -/
theorem setProblem_resilient (h : s.Tracked) (weights : Matrix R) (direction : Direction) :
    Post (perform (.setProblem weights direction) : Action (Journal B) R (Journaled W) (Reply R)) s
      (fun reply s' => Leaves s (.setProblem weights direction) (.ok reply) s')
      fun ending s' => Leaves s (.setProblem weights direction) (.error ending) s' := by
  rw [perform, post_bind, setProblem, post_bind]
  cases posed : Problem.pose weights direction with
  | error error =>
    refine leaves_of_resumes rfl ⟨h, .refl _ _, ?_⟩
    rw [Call.posed, posed]
    rfl
  | ok p =>
    obtain ⟨q, tile, sound⟩ := h.exists_sound
    rw [post_ofExcept_ok, post_bind]
    refine (releaseWorkers_resilient sound).mono ?_ ?_
    · rintro _ _ ⟨j, rfl, none, alike, -⟩
      simp only [post_bind, post_clearResults, post_modify]
      refine leaves_of_resumes rfl ⟨.of_idle rfl rfl rfl rfl none, alike, ?_⟩
      rw [Call.posed, posed]
      rfl
    · rintro _ _ ⟨rfl, unsteady, -, j, rfl, lost, -⟩
      exact leaves_of_ruined rfl ⟨rfl, lost, h.isPrepared⟩ unsteady

/-- The problem stays unless the workers are not given up. -/
theorem release_resilient (h : s.Tracked) :
    Post (perform .release : Action (Journal B) R (Journaled W) (Reply R)) s
      (fun reply s' => Leaves s .release (.ok reply) s') fun ending s' => Leaves s .release (.error ending) s' := by
  obtain ⟨q, tile, sound⟩ := h.exists_sound
  rw [perform, post_bind, release, post_bind]
  refine (releaseWorkers_resilient sound).mono ?_ ?_
  · rintro _ _ ⟨j, rfl, none, alike, -⟩
    simp only [post_bind, post_clearResults, post_modify]
    refine leaves_of_resumes rfl ⟨.of_idle ?_ ?_ rfl rfl none, alike, rfl⟩
    · rw [Lifecycle.hasProblem_invalidate, h.hasProblem]
    · exact Lifecycle.isPrepared_invalidate _
  · rintro _ _ ⟨rfl, unsteady, -, j, rfl, lost, -⟩
    exact leaves_of_ruined rfl ⟨rfl, lost, h.isPrepared⟩ unsteady

/-- Another tile size is for the next preparation only. -/
theorem retains_tileSize (h : s.Tracked) (size : Count) : Retains s { s with tileSize := size } := by
  refine ⟨⟨h.hasProblem, h.isPrepared, h.idle, ?_, ?_⟩, .refl _ _, rfl⟩
  · exact fun posed scheduled => (h.underway posed scheduled).of_same rfl rfl rfl
  · exact fun posed scheduled => h.gathered posed scheduled

/-- Calls that give up workers for good apart, every call keeps the invariant and the problem. -/
theorem perform_resilient (h : s.Tracked) (call : Call R) (stays : ∀ outcome, breaksOff call outcome = false) :
    Post (perform call : Action (Journal B) R (Journaled W) (Reply R)) s (fun _ s' => Retains s s')
      fun _ s' => Retains s s' := by
  have self := h.retains
  have agrees := h.hasProblem
  have ready := h.exists_of_isPrepared
  cases call with
  | setProblem weights direction => exact absurd (stays (.error .crash)).symm Bool.false_ne_true
  | release => exact absurd (stays (.error .crash)).symm Bool.false_ne_true
  | prepare =>
    refine post_reply (post_of_posed agrees outOfOrder_prepare (fun _ => self) fun p posed => ?_)
    exact (prepare_resilient h posed).mono (fun _ _ after => after.1) fun _ _ after => after.1
  | scanRound =>
    refine post_reply (post_of_prepared ready outOfOrder_scanRound (fun _ => self) fun p schedule posed scheduled => ?_)
    exact (scanRound_resilient h posed scheduled).mono (fun _ _ after => after.1.retains) fun _ _ after => after.1
  | gatherSolutions =>
    refine post_reply (post_of_prepared ready outOfOrder_gatherSolutions (fun _ => self)
      fun p schedule posed scheduled => ?_)
    refine (gatherSolutions_resilient h posed scheduled).mono ?_ fun _ _ never => never.elim
    exact fun _ _ after => after.1.retains
  | fillEnergies =>
    refine post_reply (post_of_prepared ready outOfOrder_fillEnergies (fun _ => self)
      fun p schedule posed scheduled => ?_)
    exact (fillEnergies_resilient h posed scheduled).mono (fun _ _ after => after.1) fun _ _ never => never.elim
  | search =>
    refine post_reply (post_of_posed agrees outOfOrder_search (fun _ => self) fun p posed => ?_)
    exact (search_resilient h posed).mono (fun _ _ after => after.1) fun _ _ after => after
  | solutions =>
    refine post_reply (post_of_posed agrees outOfOrder_readSolutions (fun _ => self) fun p posed => ?_)
    rw [readSolutions, post_bind]
    exact (complete_resilient h posed).mono (fun _ _ after => after.retains) fun _ _ after => after.1
  | energies =>
    refine post_reply (post_of_posed agrees outOfOrder_readEnergies (fun _ => self) fun p posed => ?_)
    rw [readEnergies, post_bind]
    refine (complete_resilient h posed).mono ?_ fun _ _ after => after.1
    rintro _ s₁ ⟨retains, ⟨-, last, scheduled, -⟩, -, -, -⟩
    rw [post_bind, post_get]
    split
    · exact retains
    · rw [post_bind]
      refine (fillEnergies_resilient retains.tracked (retains.problem.trans posed) scheduled).mono ?_
        fun _ _ never => never.elim
      exact fun _ _ made => retains.trans made.1
  | minimumEnergy =>
    refine post_reply (post_of_posed agrees outOfOrder_readMinimum (fun _ => self) fun p posed => ?_)
    rw [readMinimum, post_bind]
    refine (complete_resilient h posed).mono ?_ fun _ _ after => after.1
    intro _ s₁ done
    rw [post_bind]
    exact (post_current_of (done.retains.problem.trans posed)).2 done.retains
  | _ => exact perform_quiet (retains_tileSize h) rfl

theorem answer_resilient (h : s.Tracked) (call : Call R) : Leaves s call (s.answer call).1 (s.answer call).2 := by
  refine (answer_iff call (Leaves s call)).2 ?_
  have resumes (stays : ∀ outcome, breaksOff call outcome = false) (same : call.posed = none) :
      Post (perform call) s (fun reply s' => Leaves s call (.ok reply) s')
        fun ending s' => Leaves s call (.error ending) s' := by
    refine (perform_resilient h call stays).mono ?_ ?_
    · exact fun reply _ retains => leaves_of_resumes (stays _) (same ▸ retains.resumes)
    · exact fun ending _ retains => leaves_of_resumes (stays _) (same ▸ retains.resumes)
  cases call with
  | setProblem weights direction => exact setProblem_resilient h weights direction
  | release => exact release_resilient h
  | _ => exact resumes (fun _ => rfl) rfl

/-! ## Runs -/

/-- A run keeps the invariant unless one of its calls breaks off giving up workers, and ruins the solver then. -/
theorem run_resilient (h : s.Tracked) (calls : List (Call R)) :
    (s.Intact calls → Resumes s (lastPosed calls) (s.run calls).2) ∧ (¬ s.Intact calls → (s.run calls).2.Ruined) := by
  induction calls generalizing s with
  | nil => exact ⟨fun _ => h.retains.resumes, fun broken => absurd intact_nil broken⟩
  | cons call calls ih =>
    have left := answer_resilient h call
    rw [intact_cons, run_cons]
    by_cases broken : breaksOff call (s.answer call).1 = true
    · rw [Leaves, if_pos broken] at left
      refine ⟨fun intact => absurd broken (Bool.eq_false_iff.1 intact.1), fun _ => ?_⟩
      exact left.1.run calls
    · rw [Leaves, if_neg broken] at left
      obtain ⟨resumed, ruined⟩ := ih left.tracked
      refine ⟨fun intact => ?_, fun not => ruined fun rest => not ⟨Bool.eq_false_iff.2 broken, rest⟩⟩
      have last := resumed intact.2
      refine ⟨last.tracked, left.alike.trans last.alike, ?_⟩
      rw [lastPosed_cons, last.problem, left.problem, Option.or_assoc]

/-- Calls on a steady backend break nothing off. -/
theorem intact_of_steady (h : s.Tracked) (steady : Steady (plan s.backend.backend)) (calls : List (Call R)) :
    s.Intact calls := by
  induction calls generalizing s with
  | nil => exact intact_nil
  | cons call calls ih =>
    have left := answer_resilient h call
    by_cases broken : breaksOff call (s.answer call).1 = true
    · rw [Leaves, if_pos broken] at left
      exact absurd steady left.2
    · rw [Leaves, if_neg broken] at left
      exact intact_cons.2 ⟨Bool.eq_false_iff.2 broken, ih left.tracked (left.alike.plan ▸ steady)⟩

/-! ## What is read -/

/-- How often the workers met an index since the scan was begun. -/
def timesMet (s : Solver (Journal B) R (Journaled W)) (x : Index) : Nat := (s.pool.flatMap Journaled.met).count x

variable {schedule : Schedule}

omit [Scalar R] [Backend B R W] [Resilient B value] in
theorem Once.timesMet_le_one (h : s.Once) (scheduled : s.schedule = some schedule) (x : Index) : s.timesMet x ≤ 1 := by
  have bound : schedule.cursor.toNat ≤ 2 ^ 64 := Nat.le_of_lt schedule.cursor.toNat_lt
  rw [timesMet, (h schedule scheduled).count_eq]
  refine List.nodup_iff_count.1 ((Index.pairwise_between bound).imp ?_) x
  intro a b less same
  exact UInt64.lt_irrefl b (same ▸ less)

namespace Underway

theorem toNat_stop (h : s.Underway p schedule) : schedule.stop.toNat = 2 ^ p.size := by
  rw [h.stop]
  exact Index.toNat_limit p.size_lt

/-- Every index below the cursor was met. -/
theorem one_le_timesMet (h : s.Underway p schedule) {x : Index} (hx : x.toNat < schedule.cursor.toNat) :
    1 ≤ s.timesMet x := by
  obtain ⟨again, perm, -⟩ := h.met
  have bound : schedule.cursor.toNat ≤ 2 ^ 64 := Nat.le_of_lt schedule.cursor.toNat_lt
  exact List.one_le_count_iff.2 (perm.mem_iff.2 (List.mem_append_left _ ((mem_between_zero bound).2 hx)))

/-- A worker that is alone meets no index twice. -/
theorem once_of_alone (h : s.Underway p schedule) (scheduled : s.schedule = some schedule)
    (alone : schedule.workers.1.toNat = 1) : s.Once := by
  intro _ same
  obtain rfl := Option.some.inj (scheduled.symm.trans same)
  obtain ⟨again, perm, none⟩ := h.met
  rwa [none alone, List.append_nil] at perm

/-- Workers that met every index report the optimum, and every index at it as often as it was met. -/
theorem merge_spec [Scalar.Ordered R] (h : s.Underway p schedule) (complete : schedule.isComplete = true) (cap : Nat) :
    Optimum (value p) (2 ^ p.size) (Incumbent.merge (s.pool.map (Backend.best (Journal B))) cap).energy ∧
      (Incumbent.merge (s.pool.map (Backend.best (Journal B))) cap).indices = repeatedAt (value p) (2 ^ p.size) cap
        s.timesMet (Incumbent.merge (s.pool.map (Backend.best (Journal B))) cap).energy := by
  have last : schedule.cursor.toNat = 2 ^ p.size := ((Schedule.isComplete_iff _).1 complete).trans h.toNat_stop
  have bound : 2 ^ p.size ≤ 2 ^ 64 := last ▸ Nat.le_of_lt schedule.cursor.toNat_lt
  have incumbents : s.pool.map (Backend.best (Journal B)) =
      (s.pool.map fun v => (Backend.best (Journal B) v, v.met)).map (·.1) := by
    rw [List.map_map]
    rfl
  have all : (s.pool.map fun v => (Backend.best (Journal B) v, v.met)).flatMap (·.2) =
      s.pool.flatMap Journaled.met := by
    rw [List.flatMap_map]
  have covers : Incumbent.Covers (value p) (s.pool.map fun v => (Backend.best (Journal B) v, v.met)) (2 ^ p.size) := by
    refine ⟨fun part hpart => ?_, fun x hx => ?_⟩
    · obtain ⟨v, hv, rfl⟩ := List.mem_map.1 hpart
      exact h.truthful v hv
    · rw [all]
      exact List.one_le_count_iff.1 (h.one_le_timesMet (last ▸ hx))
  have indices := Incumbent.indices_merge_of_covers covers bound cap
  rw [all] at indices
  rw [incumbents]
  exact ⟨Incumbent.optimum_merge covers cap, indices⟩

end Underway

/-- What a full scan shows: the optimum, and the indices at it, each as often as it was met. -/
structure Exhibits (value : Problem R → Index → R) (s : Solver (Journal B) R (Journaled W)) (p : Problem R)
    (size : Count) : Prop where
  inUse : s.tileInUse = some size
  optimum : Optimum (value p) (2 ^ p.size) s.minimum
  solutions : s.solutions =
    (repeatedAt (value p) (2 ^ p.size) size.1.toNat s.timesMet s.minimum).map (·.decode p.size)
  present (x : Index) : x.toNat < 2 ^ p.size → 1 ≤ s.timesMet x
  alone : (Backend.workers s.backend).1.toNat = 1 → s.Once

namespace Exhibits

variable {size : Count}

omit [Resilient B value] in
/-- The solutions are those to be reported exactly if all indices that are reported, but perhaps the last, were met
once. -/
theorem reported_iff (h : Exhibits value s p size) :
    Reported (value p) p.size (2 ^ p.size) size.1.toNat s.minimum s.solutions ↔
      ∀ x ∈ firstAt (value p) (2 ^ p.size) (size.1.toNat - 1) s.minimum, s.timesMet x = 1 := by
  rw [h.solutions]
  exact reported_repeatedAt_iff p.size_lt h.present h.optimum

omit [Resilient B value] in
/-- They always are after a scan that met every index once. -/
theorem reported_of_once (h : Exhibits value s p size) (once : s.Once) :
    Reported (value p) p.size (2 ^ p.size) size.1.toNat s.minimum s.solutions := by
  have bound : 2 ^ p.size ≤ 2 ^ 64 := Nat.pow_le_pow_right (by omega) (Nat.le_of_lt p.size_lt)
  obtain ⟨schedule, scheduled, -⟩ := Option.map_eq_some_iff.1 h.inUse
  refine h.reported_iff.2 fun x hx => ?_
  exact Nat.le_antisymm (once.timesMet_le_one scheduled x) (h.present x (lt_of_mem_firstAt bound hx))

end Exhibits

theorem Tracked.exhibits [Scalar.Ordered R] (h : s.Tracked) (posed : s.problem = some p) (concluded : s.Concluded) :
    ∃ size, Exhibits value s p size := by
  obtain ⟨available, last, scheduled, complete⟩ := concluded
  have underway := h.underway posed scheduled
  obtain ⟨minimum, solutions⟩ := h.gathered posed scheduled available
  obtain ⟨optimum, indices⟩ := underway.merge_spec complete last.tileSize.1.toNat
  refine ⟨last.tileSize, ⟨by rw [tileInUse, scheduled]; rfl, ?_, ?_, fun x hx => ?_, ?_⟩⟩
  · rw [minimum]
    exact optimum
  · rw [solutions, indices, minimum]
  · refine underway.one_le_timesMet ?_
    rwa [(Schedule.isComplete_iff _).1 complete, underway.toNat_stop]
  · rw [← underway.workers]
    exact underway.once_of_alone scheduled

/-- A minimum that is read is that of a full scan, in the direction of the problem. -/
theorem exhibits_of_minimumEnergy [Scalar.Ordered R] (h : s.Tracked) {reply : Reply R}
    (read : s.answer .minimumEnergy = (.ok reply, s')) :
    ∃ p size, s.problem = some p ∧ reply = .energy (p.external s'.minimum) ∧ Exhibits value s' p size := by
  have post : Post (perform .minimumEnergy) s
      (fun reply s' => ∃ p size, s.problem = some p ∧ reply = .energy (p.external s'.minimum) ∧
        Exhibits value s' p size) fun _ _ => True := by
    rw [perform, post_bind]
    cases posed : s.problem with
    | none => exact (outOfOrder_readMinimum (by rw [h.hasProblem, posed]; rfl)).post fun _ => trivial
    | some p =>
      rw [readMinimum, post_bind]
      refine (complete_resilient h posed).mono ?_ fun _ _ _ => trivial
      intro _ s₁ done
      have posed₁ := done.retains.problem.trans posed
      obtain ⟨size, exhibits⟩ := done.retains.tracked.exhibits posed₁ done.concluded
      rw [post_bind]
      exact (post_current_of posed₁).2 ⟨p, size, rfl, rfl, exhibits⟩
  exact of_answer_ok post read

/-- Solutions that are read are those of a full scan. -/
theorem exhibits_of_solutions [Scalar.Ordered R] (h : s.Tracked) {reply : Reply R}
    (read : s.answer .solutions = (.ok reply, s')) :
    ∃ p size, s.problem = some p ∧ reply = .solutions s'.solutions ∧ Exhibits value s' p size ∧
      (s.schedule = none → s'.Once) := by
  have post : Post (perform .solutions) s
      (fun reply s' => ∃ p size, s.problem = some p ∧ reply = .solutions s'.solutions ∧ Exhibits value s' p size ∧
        (s.schedule = none → s'.Once)) fun _ _ => True := by
    rw [perform, post_bind]
    cases posed : s.problem with
    | none => exact (outOfOrder_readSolutions (by rw [h.hasProblem, posed]; rfl)).post fun _ => trivial
    | some p =>
      rw [readSolutions, post_bind]
      refine (complete_resilient h posed).mono ?_ fun _ _ _ => trivial
      intro _ s₁ done
      obtain ⟨size, exhibits⟩ := done.retains.tracked.exhibits (done.retains.problem.trans posed) done.concluded
      exact ⟨p, size, rfl, rfl, exhibits, done.once⟩
  exact of_answer_ok post read

/-! ## From the first call on -/

/-- The solver that calls leave of a new one on this backend, when its workers keep journals. -/
def journaled (b : B) (calls : List (Call R)) : Solver (Journal B) R (Journaled W) := ((fresh ⟨b⟩).run calls).2

omit [Resilient B value] in
theorem journaled_concat (b : B) (calls : List (Call R)) (call : Call R) :
    journaled b (calls ++ [call]) = ((journaled b calls).answer call).2 := run_concat calls call

omit [Resilient B value] in
/-- Without journals the calls end alike. -/
theorem run_fresh (b : B) (calls : List (Call R)) :
    (fresh b : Solver B R W).run calls =
      (((fresh ⟨b⟩ : Solver (Journal B) R (Journaled W)).run calls).1,
        (journaled b calls).view Journal.backend Journaled.worker) :=
  run_view Journal.mirror (fresh ⟨b⟩) calls

omit [Resilient B value] in
theorem answer_journaled (b : B) (calls : List (Call R)) (call : Call R) :
    ((fresh b : Solver B R W).run calls).2.answer call =
      (((journaled b calls).answer call).1, (journaled b (calls ++ [call])).view Journal.backend Journaled.worker) := by
  rw [run_fresh, answer_view Journal.mirror, journaled_concat]

theorem tracked_fresh {b : B} (sound : ∀ (p : Problem R) (tile : UInt64), Sound p tile b ([] : List W)) :
    (fresh ⟨b⟩ : Solver (Journal B) R (Journaled W)).Tracked :=
  .of_idle rfl rfl rfl rfl sound

/-- After calls on a new solver the problem is the last one that was posed. -/
theorem Resumes.problem_eq_lastPosed {b : B} {calls : List (Call R)}
    (h : Resumes (fresh ⟨b⟩) (lastPosed calls) (journaled b calls)) : (journaled b calls).problem = lastPosed calls :=
  h.problem.trans Option.or_none

omit [Resilient B value] in
theorem intact_fresh (b : B) (calls : List (Call R)) :
    (fresh ⟨b⟩ : Solver (Journal B) R (Journaled W)).Intact calls ↔ (fresh b : Solver B R W).Intact calls := by
  rw [Intact, Intact, run_fresh b calls]

end BinaryQuadratic.Solver
