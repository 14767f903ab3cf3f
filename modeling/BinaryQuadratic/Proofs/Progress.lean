import BinaryQuadratic.Proofs.Optimality.FaultyDevice
import BinaryQuadratic.Proofs.Solver.Rounds

/-!
# Progress and scanning

Requests to a device may fail or crash by any plan, and whoever calls goes on after a crash. A round that succeeds moves
the cursor on, and a prepared solver has as many workers as its schedule counts on, so that every index the cursor
passes is scanned. There is one way to lose this: a crash while workers are given up, for another problem or for none,
leaves the solver prepared and without workers. Its rounds then succeed and scan nothing (`progress_iff_intact`).
-/

namespace BinaryQuadratic.Solver

open Step Resilient OnFaultyDevice

/-! ## What a round does -/

section Rounds

variable {B R W : Type} [Backend B R W]

theorem answer_scanRound_advance [Scalar R] {s s' : Solver B R W} {reply : Reply R}
    (done : s.answer .scanRound = (.ok reply, s')) :
    ∃ schedule, s.schedule = some schedule ∧ s'.schedule = some schedule.advance ∧
      reply = .progress schedule.advance.isComplete schedule.advance.cursor := by
  have post : Post (perform .scanRound) s
      (fun reply s' => ∃ schedule, s.schedule = some schedule ∧ s'.schedule = some schedule.advance ∧
        reply = .progress schedule.advance.isComplete schedule.advance.cursor) fun _ _ => True := by
    rw [perform, post_bind]
    refine (post_scanRound_schedule s).mono ?_ fun _ _ _ => trivial
    rintro _ s' ⟨schedule, scheduled, -, advanced, rfl⟩
    exact ⟨schedule, scheduled, advanced, rfl⟩
  exact of_answer_ok post done

variable [Scalar R] {value : Problem R → Index → R} [Resilient B value]
  {s s' : Solver (Journal B) R (Journaled W)} {schedule : Schedule} {reply : Reply R}

/-- The indices that were met more often after a round are those that the cursor passed. -/
theorem Tracked.timesMet_lt_iff (h : s.Tracked) (scheduled : s.schedule = some schedule)
    (done : s.answer .scanRound = (.ok reply, s')) (x : Index) :
    s.timesMet x < s'.timesMet x ↔ schedule.cursor ≤ x ∧ x < schedule.advance.cursor := by
  have post : Post (perform .scanRound) s
      (fun _ s' => (s'.pool.flatMap Journaled.met).Perm
        (s.pool.flatMap Journaled.met ++ Index.between schedule.cursor.toNat schedule.advance.cursor.toNat))
      fun _ _ => True := by
    obtain ⟨p, _, posed, -⟩ := h.exists_of_isPrepared (h.isPrepared_of_schedule scheduled)
    rw [perform, post_bind]
    refine (scanRound_resilient h posed scheduled).mono ?_ fun _ _ _ => trivial
    rintro _ s' ⟨-, -, -, met, -⟩
    exact met
  have bound : schedule.advance.cursor.toNat ≤ 2 ^ 64 := Nat.le_of_lt schedule.advance.cursor.toNat_lt
  rw [timesMet, timesMet, (of_answer_ok post done).count_eq, List.count_append, Nat.lt_add_right_iff_pos,
    List.count_pos_iff, Index.mem_between bound, UInt64.le_iff_toNat_le, UInt64.lt_iff_toNat_lt]

/-- A prepared solver has the workers that its schedule counts on. -/
theorem Tracked.exists_length_pool (h : s.Tracked) (prepared : s.lifecycle.isPrepared = true) :
    ∃ schedule, s.schedule = some schedule ∧ s.pool.length = schedule.workers.1.toNat := by
  obtain ⟨p, schedule, posed, scheduled⟩ := h.exists_of_isPrepared prepared
  exact ⟨schedule, scheduled, (h.underway posed scheduled).length_pool⟩

/-- Every index was met when a result is read. -/
theorem Tracked.one_le_timesMet [Scalar.Ordered R] (h : s.Tracked) {call : Call R}
    (reads : call = .minimumEnergy ∨ call = .solutions) (read : s.answer call = (.ok reply, s')) :
    ∃ p, s.problem = some p ∧ ∀ x : Index, x.toNat < 2 ^ p.size → 1 ≤ s'.timesMet x := by
  rcases reads with rfl | rfl
  · obtain ⟨p, size, posed, -, exhibits⟩ := exhibits_of_minimumEnergy h read
    exact ⟨p, posed, exhibits.present⟩
  · obtain ⟨p, size, posed, -, exhibits, -⟩ := exhibits_of_solutions h read
    exact ⟨p, posed, exhibits.present⟩

theorem Ruined.timesMet_eq_zero (h : s.Ruined) (x : Index) : s.timesMet x = 0 := by
  rw [timesMet, h.empty]
  rfl

/-- A schedule counts on workers, but there are none. -/
theorem Ruined.exists_length_pool (h : s.Ruined) (prepared : s.lifecycle.isPrepared = true) :
    ∃ schedule, s.schedule = some schedule ∧ s.pool.length ≠ schedule.workers.1.toNat := by
  obtain ⟨schedule, scheduled⟩ := Option.isSome_iff_exists.1 (h.isPrepared ▸ prepared)
  have positive := UInt64.lt_iff_toNat_lt.1 schedule.workers.2
  refine ⟨schedule, scheduled, ?_⟩
  rw [h.empty]
  exact Nat.ne_of_lt positive

end Rounds

/-! ## On a device that fails or crashes -/

variable {R : Type} [Scalar R] [Scalar.Ordered R]

section Journals

variable {capacity : Option Nat} {plan : Device.FaultPlan} {workers : Count} {calls : List (Call R)}

theorem OnFaultyDevice.resumes_of_intact (intact : (start capacity plan workers).Intact calls) :
    Resumes (fresh ⟨device R capacity plan workers⟩) (lastPosed calls)
      (journaled (device R capacity plan workers) calls) :=
  (run_resilient tracked_start calls).1 ((intact_fresh _ calls).2 intact)

theorem OnFaultyDevice.ruined_of_not_intact (broken : ¬ (start capacity plan workers).Intact calls) :
    (journaled (device R capacity plan workers) calls).Ruined :=
  (run_resilient tracked_start calls).2 fun intact => broken ((intact_fresh _ calls).1 intact)

end Journals

/-- **Progress is scanning.** On a device whose requests fail or crash by any plan, after any calls, however they
ended: a prepared solver has as many workers as its schedule counts on, and a round that succeeds scans every index that
the cursor passes, exactly if no call crashed that was to give up workers for another problem or for none. If none did,
what each worker holds is what it scanned, and nothing is read before every index was scanned. -/
theorem progress_iff_intact (capacity : Option Nat) (plan : Device.FaultPlan) (workers : Count)
    (calls : List (Call R)) :
    ((after capacity plan workers calls).lifecycle.isPrepared = true →
      ∃ schedule, (after capacity plan workers calls).schedule = some schedule ∧
        ((after capacity plan workers calls).pool.length = schedule.workers.1.toNat ↔
          (start capacity plan workers).Intact calls)) ∧
    (∀ reply s', (after capacity plan workers calls).answer .scanRound = (.ok reply, s') →
      ∃ schedule, (after capacity plan workers calls).schedule = some schedule ∧
        s'.schedule = some schedule.advance ∧
        reply = .progress schedule.advance.isComplete schedule.advance.cursor ∧
        ∀ x, timesScanned capacity plan workers calls x <
            timesScanned capacity plan workers (calls ++ [.scanRound]) x ↔
          (start capacity plan workers).Intact calls ∧ schedule.cursor ≤ x ∧ x < schedule.advance.cursor) ∧
    ((start capacity plan workers).Intact calls →
      (∀ p, lastPosed calls = some p → (after capacity plan workers calls).lifecycle.isPrepared = true →
        ∀ v ∈ (journaled (device R capacity plan workers) calls).pool,
          v.worker.best.Follows p.form (2 ^ p.size) v.met) ∧
      ∀ call reply s', call = .minimumEnergy ∨ call = .solutions →
        (after capacity plan workers calls).answer call = (.ok reply, s') →
        ∃ p, lastPosed calls = some p ∧ ∀ x : Index, x.toNat < 2 ^ p.size →
          1 ≤ timesScanned capacity plan workers (calls ++ [call]) x) := by
  refine ⟨fun prepared => ?_, fun reply s' done => ?_, fun intact =>
    ⟨fun p posed prepared v hv => ?_, fun call reply s' reads read => ?_⟩⟩
  · rw [after_eq_view] at prepared ⊢
    by_cases intact : (start capacity plan workers).Intact calls
    · obtain ⟨schedule, scheduled, full⟩ := (resumes_of_intact intact).tracked.exists_length_pool prepared
      exact ⟨schedule, scheduled, iff_of_true ((List.length_map _).trans full) intact⟩
    · obtain ⟨schedule, scheduled, other⟩ := (ruined_of_not_intact intact).exists_length_pool prepared
      exact ⟨schedule, scheduled, iff_of_false (fun full => other ((List.length_map _).symm.trans full)) intact⟩
  · obtain ⟨schedule, scheduled, advanced, rfl⟩ := answer_scanRound_advance done
    refine ⟨schedule, scheduled, advanced, rfl, fun x => ?_⟩
    rw [after_eq_view] at scheduled
    rw [timesScanned, timesScanned]
    by_cases intact : (start capacity plan workers).Intact calls
    · rw [(resumes_of_intact intact).tracked.timesMet_lt_iff scheduled (answer_of_after done).1 x]
      exact (and_iff_right intact).symm
    · have after : (journaled (device R capacity plan workers) (calls ++ [.scanRound])).Ruined := by
        rw [journaled_concat]
        exact (ruined_of_not_intact intact).run [.scanRound]
      rw [(ruined_of_not_intact intact).timesMet_eq_zero, after.timesMet_eq_zero]
      exact iff_of_false (Nat.lt_irrefl 0) fun scanned => intact scanned.1
  · rw [after_eq_view] at prepared
    obtain ⟨q, schedule, posed', scheduled⟩ := (resumes_of_intact intact).tracked.exists_of_isPrepared prepared
    obtain rfl := Option.some.inj (posed'.symm.trans ((resumes_of_intact intact).problem_eq_lastPosed.trans posed))
    exact ((resumes_of_intact intact).tracked.underway posed' scheduled).truthful v hv
  · obtain ⟨p, posed, every⟩ := (resumes_of_intact intact).tracked.one_le_timesMet reads (answer_of_after read).1
    exact ⟨p, (resumes_of_intact intact).problem_eq_lastPosed.symm.trans posed, every⟩

/-- After a round that failed the next one scans the tiles of both workers. -/
theorem progress_iff_intact_scanAgain :
    (start none (failingAt 25 (.error .pending)) ⟨2, by decide⟩).Intact scanAgain ∧
    ∃ reply s' schedule, (after none (failingAt 25 (.error .pending)) ⟨2, by decide⟩ scanAgain).answer .scanRound =
        (.ok reply, s') ∧
      (after none (failingAt 25 (.error .pending)) ⟨2, by decide⟩ scanAgain).schedule = some schedule ∧
      s'.schedule = some schedule.advance ∧
      ∀ x, timesScanned none (failingAt 25 (.error .pending)) ⟨2, by decide⟩ scanAgain x <
          timesScanned none (failingAt 25 (.error .pending)) ⟨2, by decide⟩ (scanAgain ++ [.scanRound]) x ↔
        schedule.cursor ≤ x ∧ x < schedule.advance.cursor := by
  have intact : (start none (failingAt 25 (.error .pending)) ⟨2, by decide⟩).Intact scanAgain :=
    (intact_fresh _ _).1 (intact_of_steady tracked_start (failingAt_ne_crash 25 .pending) _)
  have done : ((after none (failingAt 25 (.error .pending)) ⟨2, by decide⟩ scanAgain).answer .scanRound).1.isOk =
      true := by
    decide +kernel
  have rounds := (progress_iff_intact none (failingAt 25 (.error .pending)) ⟨2, by decide⟩ scanAgain).2.1
  obtain ⟨reply, s', answered⟩ := exists_answer_of_isOk done
  obtain ⟨schedule, scheduled, advanced, -, scanned⟩ := rounds reply s' answered
  refine ⟨intact, reply, s', schedule, answered, scheduled, advanced, fun x => ?_⟩
  rw [scanned x]
  exact and_iff_right intact

/-- Workers are given up in the middle of a scan. -/
def giveUp : List (Call Float) := [.setProblem (Matrix.identity Float 1) .maximize, .prepare, .release]

/-- Giving back a buffer crashes. The next round succeeds and scans nothing, and neither does reading the minimum. -/
theorem timesScanned_eq_zero_giveUp :
    (after none (failingAt 8 .crash) ⟨1, by decide⟩ giveUp).lifecycle.isPrepared = true ∧
    (after none (failingAt 8 .crash) ⟨1, by decide⟩ giveUp).pool = [] ∧
    ((after none (failingAt 8 .crash) ⟨1, by decide⟩ giveUp).answer .scanRound).1.isOk = true ∧
    (∃ schedule, (after none (failingAt 8 .crash) ⟨1, by decide⟩ giveUp).schedule = some schedule ∧
      schedule.cursor < schedule.advance.cursor) ∧
    (∀ x, timesScanned none (failingAt 8 .crash) ⟨1, by decide⟩ (giveUp ++ [.scanRound]) x = 0) ∧
    ((after none (failingAt 8 .crash) ⟨1, by decide⟩ giveUp).answer .minimumEnergy).1.isOk = true ∧
    ∀ x, timesScanned none (failingAt 8 .crash) ⟨1, by decide⟩ (giveUp ++ [.minimumEnergy]) x = 0 := by
  have unscanned {calls : List (Call Float)}
      (empty : (journaled (device Float none (failingAt 8 .crash) ⟨1, by decide⟩) calls).pool.isEmpty = true)
      (x : Index) : timesScanned none (failingAt 8 .crash) ⟨1, by decide⟩ calls x = 0 := by
    rw [timesScanned, timesMet, List.isEmpty_iff.1 empty]
    rfl
  have passed : (after none (failingAt 8 .crash) ⟨1, by decide⟩ giveUp).schedule.any
      (fun schedule => decide (schedule.cursor < schedule.advance.cursor)) = true := by
    decide +kernel
  have empty : (after none (failingAt 8 .crash) ⟨1, by decide⟩ giveUp).pool.isEmpty = true := by decide +kernel
  obtain ⟨schedule, scheduled, less⟩ := (Option.any_eq_true _ _).1 passed
  exact ⟨by decide +kernel, List.isEmpty_iff.1 empty, by decide +kernel,
    ⟨schedule, scheduled, of_decide_eq_true less⟩, unscanned (by decide +kernel), by decide +kernel,
    unscanned (by decide +kernel)⟩

end BinaryQuadratic.Solver
