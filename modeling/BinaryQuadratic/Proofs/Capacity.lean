import BinaryQuadratic.Proofs.Backend.Capacity
import BinaryQuadratic.Proofs.Optimality.Device
import BinaryQuadratic.Proofs.Solver.Readiness
import BinaryQuadratic.Proofs.Solver.Staffed

/-!
# What a device in good order fails at

A device whose requests do not fail by plan is only ever short of memory, and that exactly when the workers that are to
be made do not fit into its capacity (`device_fails_iff_pool_exceeds_capacity`). Nothing but a preparation finds this
out, and it leaves no buffer behind. So no buffer is ever too short or of the wrong type or missing, nothing is read
before the device is waited for, and the device is never lost.

This takes a host that does not run out of memory before the device does. Otherwise a request crashes, as it may on any
backend.
-/

namespace BinaryQuadratic.Solver

open Step Reliable Device

variable {R : Type} [Scalar R]

namespace OnDevice

/-- Number of elements that workers need for `n` variables when tiles of this size are asked for. For `t` indices in a
tile each holds `n * n` weights, `n * t` bits, `t` energies, `t` indices, the least energy, and the number of indices at
it. -/
def demand (workers requested : Count) (n : Nat) : Nat :=
  workers.1.toNat * (n * n + n * min requested.1.toNat (2 ^ n) + 2 * min requested.1.toNat (2 ^ n) + 2)

/-- Host memory can hold the list of workers, and every buffer for the solver's problem that does not exceed the
capacity of the device. -/
structure HostAmple (capacity : UInt64) (s : OnDevice R) : Prop where
  pool : HostMemory.Fits s.backend.workers.1.toNat (Backend.workerBytes (SharedDevice (Machine R)))
  buffers : ∀ p ∈ s.problem, Storable R capacity.toNat p.size (s.tileFor p).1.toNat

instance (capacity : UInt64) (s : OnDevice R) : Decidable (s.HostAmple capacity) :=
  decidable_of_iff (HostMemory.Fits s.backend.workers.1.toNat (Backend.workerBytes (SharedDevice (Machine R))) ∧
      ∀ p ∈ s.problem, Storable R capacity.toNat p.size (s.tileFor p).1.toNat)
    ⟨fun both => ⟨both.1, both.2⟩, fun ample => ⟨ample.pool, ample.buffers⟩⟩

variable {s s' : OnDevice R} {p : Problem R} {capacity : UInt64} {call : Call R}

theorem demand_eq (s : OnDevice R) (p : Problem R) :
    demand s.backend.workers s.tileSize p.size =
      s.backend.workers.1.toNat * footprint p.size (Worker.batchFor (s.tileFor p).1).1.toNat := by
  have space : (Index.limit p.size).toNat = 2 ^ p.size := Index.toNat_limit p.size_lt
  have tile : (s.tileFor p).1.toNat = min s.tileSize.1.toNat (2 ^ p.size) := by
    rw [← space]
    exact Index.toNat_min _ _
  rw [demand, Worker.batchFor_eq, tile, footprint]
  congr 1
  omega

/-- Books of a device list the buffers of the pool, until the device is lost. -/
abbrev Accounted (b : SharedDevice (Machine R)) (pool : List (Worker R)) : Prop :=
  Machine.Balanced (pool.flatMap Worker.entries) b.device

theorem ledger : Backend.Ledger (fun b : SharedDevice (Machine R) => b.device.lost = true) Accounted
    SharedDevice.Fitting :=
  SharedDevice.ledger Machine.accounting

variable [Scalar.Ordered R]

/-- The device was not lost, and its books list what the pool owns. -/
structure Sturdy (capacity : UInt64) (s : OnDevice R) : Prop where
  faithful : s.Faithful Problem.form
  staffed : s.Staffed Accounted SharedDevice.Fitting
  limited : s.backend.device.device.capacity = some capacity.toNat
  held : s.backend.device.lost = false

/-- A device with workers was not lost. -/
theorem held_of_isPrepared (h : s.Faithful Problem.form) (prepared : s.lifecycle.isPrepared = true) :
    s.backend.device.lost = false := by
  obtain ⟨p, schedule, posed, scheduled⟩ := h.exists_of_isPrepared prepared
  have sound : SharedDevice.Usable p s.backend.device s.pool := h.sound p (Or.inl posed)
  unfold SharedDevice.Usable at sound
  split at sound
  · exact absurd sound (h.scanning posed scheduled).pool_ne_nil
  · next held => exact Bool.eq_false_iff.2 held

namespace Sturdy

variable (h : s.Sturdy capacity)
include h

theorem exists_equipped : ∃ q : Problem R, SharedDevice.Equipped q s.backend.device s.pool := by
  obtain ⟨q, sound⟩ := h.faithful.exists_sound
  have usable : SharedDevice.Usable q s.backend.device s.pool := sound
  rw [SharedDevice.Usable, h.held, if_neg Bool.false_ne_true] at usable
  exact ⟨q, usable⟩

/-- Giving up the workers does not lose the device. -/
theorem ready_of_discardAll {b : SharedDevice (Machine R)} (discarded : Backend.discardAll s.pool s.backend = .ok () b) :
    b.device.Ready := by
  obtain ⟨q, equipped⟩ := h.exists_equipped
  exact ((SharedDevice.discardAll_equipped equipped).of_ok discarded).ready

theorem books : s.backend.device.device.Books (s.pool.flatMap Worker.entries) := by
  refine h.staffed.account.resolve_left fun lost => ?_
  rw [h.held] at lost
  exact Bool.false_ne_true lost

/-- The workers of a solver that is prepared fit into the capacity. -/
theorem demand_le {schedule : Schedule} (scheduled : s.schedule = some schedule) (posed : s.problem = some p) :
    s.backend.workers.1.toNat * footprint p.size (Worker.batchFor schedule.tileSize.1).1.toNat ≤ capacity.toNat := by
  obtain ⟨q, posed', manned⟩ := h.staffed.manned scheduled
  obtain rfl := Option.some.inj (posed.symm.trans posed')
  have within := h.books.within h.limited
  have count : s.pool.length = s.backend.workers.1.toNat := manned.length_pool.trans (by rw [manned.workers]; rfl)
  rw [h.books.allocated, SharedDevice.total_entries manned.built, manned.poolTile, count] at within
  exact within

/-- Without workers there are no buffers. -/
theorem live_eq_zero (empty : s.pool = []) : s.backend.device.device.memory.live = 0 := by
  rw [h.books.live_eq, empty]
  rfl

/-! ## Preparing -/

variable (ample : s.HostAmple capacity)
include ample

/-- A pool is refused for want of memory, when it does not fit. -/
theorem of_refuses (posed : s.problem = some p) {ending : Halt SolverError} {left : SharedDevice (Machine R)}
    (refused : s.Refuses p ending left) :
    left.device.lost = false ∧ capacity.toNat < demand s.backend.workers s.tileSize p.size ∧
      ∃ needed available, ending = .error (.device (.outOfMemory needed available)) := by
  obtain ⟨b, discarded, same, -, refused⟩ := refused
  have ready := h.ready_of_discardAll discarded
  have empty : b.device.device.Books [] := by
    refine ((ledger.discardAll h.staffed.account).of_ok discarded).resolve_left fun lost => ?_
    rw [ready.held] at lost
    exact Bool.false_ne_true lost
  have limited := ((SharedDevice.keeps_capacity _).discardAll s.pool s.backend h.limited).of_ok discarded
  have storable := ample.buffers p posed
  have host : HostMemory.Fits (Backend.workers b).1.toNat (Backend.workerBytes (SharedDevice (Machine R))) := by
    rw [same]
    exact ample.pool
  rw [← Worker.batchFor_eq (s.tileFor p)] at storable
  obtain ⟨equipped, crowded, cause⟩ :=
    (SharedDevice.createPool_cases (.nil ready) empty limited capacity.toNat_lt storable host).of_error refused
  rw [same] at crowded
  refine ⟨equipped.ready.held, ?_, cause⟩
  rw [demand_eq]
  exact crowded

/-- A preparation succeeds exactly if the workers fit. -/
theorem prepare_cases (posed : s.problem = some p) :
    Post prepare s (fun _ _ => demand s.backend.workers s.tileSize p.size ≤ capacity.toNat)
      fun ending s' => capacity.toNat < demand s.backend.workers s.tileSize p.size ∧
        (∃ needed available, ending = .error (.device (.outOfMemory needed available))) ∧
        s'.backend.device.device.memory.live = 0 := by
  have limited := (enduring_backend (SharedDevice.keeps_capacity (some capacity.toNat))).prepare s h.limited
  refine (((prepare_spec h.faithful posed).and (prepare_staffed ledger h.staffed posed)).and limited).mono ?_ ?_
  · rintro _ s' ⟨⟨⟨faithful, kept, lifecycle, scheduled⟩, staffed, -⟩, limited⟩
    have held := held_of_isPrepared faithful (by rw [lifecycle]; rfl)
    have sturdy : Sturdy capacity s' := ⟨faithful, staffed, limited, held⟩
    have same : s'.backend.workers = s.backend.workers := kept.workers
    have enough := sturdy.demand_le scheduled (kept.problem.trans posed)
    rw [same] at enough
    rw [demand_eq]
    exact enough
  · rintro ending s' ⟨⟨⟨faithful, -, -, refused⟩, left⟩, limited⟩
    obtain ⟨held, crowded, cause⟩ := h.of_refuses ample posed refused
    refine ⟨crowded, cause, ?_⟩
    rcases left with lost | ⟨staffed, empty, -⟩
    · rw [held] at lost
      exact absurd lost Bool.false_ne_true
    · have sturdy : Sturdy capacity s' := ⟨faithful, staffed, limited, held⟩
      exact sturdy.live_eq_zero empty

/-- A call that begins with a preparation succeeds exactly if the workers fit. -/
theorem answer_of_prepares (posed : s.problem = some p) (begins : call.prepares s = true) :
    (demand s.backend.workers s.tileSize p.size ≤ capacity.toNat → (s.answer call).1.isOk = true) ∧
    (capacity.toNat < demand s.backend.workers s.tileSize p.size →
      (∃ needed available, (s.answer call).1 = .error (.error (.device (.outOfMemory needed available)))) ∧
        (s.answer call).2.backend.device.device.memory.live = 0) := by
  constructor
  · intro fits
    refine (answer_iff call fun outcome _ => outcome.isOk = true).2 ?_
    refine (perform_makesReady h.faithful posed (readiness_of_prepares begins)).mono (fun _ _ _ => rfl) ?_
    rintro ending s' ⟨-, -, -, refused⟩
    obtain ⟨-, crowded, -⟩ := h.of_refuses ample posed refused
    exact absurd fits (Nat.not_le_of_lt crowded)
  · intro crowded
    have allowed : s.lifecycle.hasProblem = true := by rw [h.faithful.hasProblem, posed]; rfl
    cases prepared : prepare s with
    | ok _ s' => exact absurd ((h.prepare_cases ample posed).of_ok prepared) (Nat.not_le_of_lt crowded)
    | error ending s' =>
      obtain ⟨-, ⟨needed, available, rfl⟩, none⟩ := (h.prepare_cases ample posed).of_error prepared
      rw [Solver.answer_of_prepares allowed prepared begins]
      exact ⟨⟨needed, available, rfl⟩, none⟩

end Sturdy

/-! ## Every call -/

/-- The call did not lose the device, and if it failed on the device, it began with a preparation. -/
structure Survives (s : OnDevice R) (call : Call R) (outcome : Outcome R) (s' : OnDevice R) : Prop where
  held : s'.backend.device.lost = false
  answered : outcome ≠ .error .crash
  prepares : ∀ error, outcome = .error (.error (.device error)) → call.prepares s = true ∧ s.problem.isSome = true

omit [Scalar R] [Scalar.Ordered R] in
theorem Survives.of_ok {s s' : OnDevice R} {call : Call R} {reply : Reply R} (held : s'.backend.device.lost = false) :
    s.Survives call (.ok reply) s' where
  held := held
  answered := by intro same; cases same
  prepares := by intro error same; cases same

omit [Scalar R] [Scalar.Ordered R] in
/-- An error that the device does not report. -/
theorem Survives.of_error {s s' : OnDevice R} {call : Call R} {cause : SolverError}
    (held : s'.backend.device.lost = false) (plain : ∀ error, cause ≠ .device error) :
    s.Survives call (.error (.error cause)) s' where
  held := held
  answered := by intro same; cases same
  prepares := by
    intro error same
    cases same
    exact absurd rfl (plain error)

theorem Sturdy.survives (h : s.Sturdy capacity) (ample : s.HostAmple capacity) (call : Call R) :
    s.Survives call (s.answer call).1 (s.answer call).2 := by
  have begins (makes : call.readiness = some true) (needs : call.needsProblem = true) :
      s.Survives call (s.answer call).1 (s.answer call).2 := by
    cases posed : s.problem with
    | none =>
      have missing : s.lifecycle.hasProblem = false := by rw [h.faithful.hasProblem, posed]; rfl
      rw [answer_of_not_hasProblem missing posed needs]
      exact Survives.of_error h.held (by simp)
    | some p =>
      refine (answer_iff call (s.Survives call)).2 ((perform_makesReady h.faithful posed makes).mono ?_ ?_)
      · rintro reply s' ⟨faithful, -, prepared⟩
        exact Survives.of_ok (held_of_isPrepared faithful prepared)
      · rintro ending s' ⟨-, -, prepares, refused⟩
        obtain ⟨held, -, needed, available, rfl⟩ := h.of_refuses ample posed refused
        exact ⟨held, by simp, fun _ _ => ⟨prepares, by rw [posed]; rfl⟩⟩
  have goesOn (needs : call.needsPreparation = true) : s.Survives call (s.answer call).1 (s.answer call).2 := by
    cases prepared : s.lifecycle.isPrepared with
    | false =>
      rw [answer_of_not_isPrepared prepared needs]
      exact Survives.of_error h.held (by simp)
    | true =>
      refine (answer_iff call (s.Survives call)).2 ((perform_needsPreparation h.faithful prepared needs).mono ?_ ?_)
      · rintro reply s' ⟨faithful, prepared'⟩
        exact Survives.of_ok (held_of_isPrepared faithful prepared')
      · exact fun _ _ never => never.elim
  have still (quiet : call.isQuiet = true) : s.Survives call (s.answer call).1 (s.answer call).2 := by
    refine (answer_iff call (s.Survives call)).2 ?_
    have held : Post (perform call) s (fun _ s' => s'.backend.device.lost = false) fun ending s' =>
        s' = s ∧ ∃ cause, ending = .error cause ∧ ∀ error, cause ≠ .device error :=
      post_quiet (fun _ => h.held) (fun cause plain => ⟨rfl, cause, rfl, plain⟩) quiet
    refine held.mono (fun _ s' held => .of_ok held) ?_
    rintro ending s' ⟨rfl, cause, rfl, plain⟩
    exact Survives.of_error h.held plain
  cases call with
  | setProblem weights direction =>
    refine (answer_iff _ (s.Survives (.setProblem weights direction))).2 ?_
    rw [perform, post_bind]
    refine (setProblem_spec h.faithful weights direction).mono ?_ ?_
    · rintro _ s' ⟨-, -, discarded, -⟩
      exact Survives.of_ok (h.ready_of_discardAll discarded).held
    · rintro ending s' ⟨rfl, error, -, rfl⟩
      exact Survives.of_error h.held (by simp)
  | release =>
    refine (answer_iff _ (s.Survives .release)).2 ?_
    rw [perform, post_bind]
    refine (release_spec h.faithful).mono ?_ fun _ _ never => never.elim
    rintro _ s' ⟨-, -, discarded, -⟩
    exact Survives.of_ok (h.ready_of_discardAll discarded).held
  | prepare => exact begins rfl rfl
  | search => exact begins rfl rfl
  | solutions => exact begins rfl rfl
  | energies => exact begins rfl rfl
  | minimumEnergy => exact begins rfl rfl
  | scanRound => exact goesOn rfl
  | gatherSolutions => exact goesOn rfl
  | fillEnergies => exact goesOn rfl
  | _ => exact still rfl

/-- What is true of a device that was not lost. -/
theorem sturdy_of_held (workers : Count) (calls : List (Call R))
    (held : (after (some capacity.toNat) workers calls : OnDevice R).backend.device.lost = false) :
    (after (some capacity.toNat) workers calls : OnDevice R).Sturdy capacity where
  faithful := (continues_after (some capacity.toNat) workers calls).1
  staffed := by
    have staffed := (enduring_staffed ledger).run calls
      (Or.inr (staffed_fresh (Or.inr (.empty (some capacity.toNat))) :
        (start (some capacity.toNat) workers : OnDevice R).Staffed Accounted SharedDevice.Fitting))
    refine staffed.resolve_left fun lost => ?_
    exact Bool.false_ne_true (held.symm.trans lost)
  limited := (enduring_backend (SharedDevice.keeps_capacity (some capacity.toNat))).run calls rfl
  held := held

/-- The device is never lost on a host with ample memory. -/
theorem sturdy_after (workers : Count) (calls : List (Call R))
    (ample : ∀ earlier, earlier <+: calls → (after (some capacity.toNat) workers earlier : OnDevice R).HostAmple capacity) :
    (after (some capacity.toNat) workers calls : OnDevice R).Sturdy capacity := by
  refine sturdy_of_held workers calls ?_
  induction calls using List.reverseRecOn with
  | nil => rfl
  | append_singleton calls call ih =>
    have before := ih fun earlier inside => ample earlier (inside.trans (List.prefix_append calls [call]))
    rw [after, run_concat]
    exact ((sturdy_of_held workers calls before).survives (ample calls (List.prefix_append calls [call])) call).held

end OnDevice

variable [Scalar.Ordered R]

/-- **A device in good order.** On a device that is used by one solver and whose requests do not fail by plan, after any
calls on a host with ample memory: a preparation succeeds exactly if the workers for the problem fit into the capacity,
and so does every other call that begins with one; otherwise they fail for want of memory, and no buffer is left. No
other call ever fails on the device, and none crashes. -/
theorem device_fails_iff_pool_exceeds_capacity (capacity : UInt64) (workers : Count) (calls : List (Call R))
    (ample : ∀ earlier, earlier <+: calls →
      (OnDevice.after (some capacity.toNat) workers earlier : OnDevice R).HostAmple capacity)
    (s : OnDevice R) (reached : OnDevice.after (some capacity.toNat) workers calls = s) :
    (∀ (p : Problem R) (call : Call R), lastPosed calls = some p → call.prepares s = true →
      (OnDevice.demand workers s.tileSize p.size ≤ capacity.toNat → (s.answer call).1.isOk = true) ∧
      (capacity.toNat < OnDevice.demand workers s.tileSize p.size →
        (∃ needed available, (s.answer call).1 = .error (.error (.device (.outOfMemory needed available)))) ∧
          (s.answer call).2.backend.device.device.memory.live = 0)) ∧
    (∀ (call : Call R) (error : DeviceError), (s.answer call).1 = .error (.error (.device error)) →
      call.prepares s = true ∧ ∃ (p : Problem R) (needed available : Nat), lastPosed calls = some p ∧
        capacity.toNat < OnDevice.demand workers s.tileSize p.size ∧ error = .outOfMemory needed available) ∧
    ∀ call : Call R, (s.answer call).1 ≠ .error .crash := by
  have sturdy := OnDevice.sturdy_after workers calls ample
  have here := ample calls (List.prefix_refl calls)
  obtain ⟨-, same, problem⟩ := OnDevice.continues_after (R := R) (some capacity.toNat) workers calls
  subst reached
  generalize OnDevice.after (some capacity.toNat) workers calls = s at *
  have posed : s.problem = lastPosed calls := problem.trans Option.or_none
  have count : s.backend.workers = workers := same
  rw [← posed, ← count]
  refine ⟨fun p call posed begins => sturdy.answer_of_prepares here posed begins, fun call error failed => ?_,
    fun call => (sturdy.survives here call).answered⟩
  obtain ⟨begins, some⟩ := (sturdy.survives here call).prepares error failed
  obtain ⟨p, posed⟩ := Option.isSome_iff_exists.1 some
  obtain ⟨succeeds, fails⟩ := sturdy.answer_of_prepares here posed begins
  rw [failed] at succeeds fails
  have crowded := Nat.lt_of_not_le fun fits => Bool.false_ne_true (succeeds fits)
  obtain ⟨⟨needed, available, same⟩, -⟩ := fails crowded
  cases same
  exact ⟨begins, p, needed, available, posed, crowded, rfl⟩

def twoWorkers : Count := ⟨2, by decide⟩

/-- Two workers fit into twenty elements for the first problem, of one variable, and not for the second one. -/
def growing : List (Call Float) :=
  [.setProblem (Matrix.identity Float 1) .maximize, .prepare, .setProblem (Matrix.identity Float 2) .minimize]

/-- Two workers on a device for twenty elements. -/
def onTwenty (calls : List (Call Float)) : OnDevice Float := OnDevice.after (some (20 : UInt64).toNat) twoWorkers calls

/-- The first problem can be prepared, and the second one cannot. -/
theorem device_fails_iff_pool_exceeds_capacity_growing :
    (∀ earlier, earlier <+: growing → (onTwenty earlier).HostAmple 20) ∧
    ((onTwenty (growing.take 1)).answer .prepare).1.isOk = true ∧
    (∃ needed available,
      ((onTwenty growing).answer .prepare).1 = .error (.error (.device (.outOfMemory needed available)))) ∧
    ((onTwenty growing).answer .prepare).2.backend.device.device.memory.live = 0 := by
  have every : ∀ earlier ∈ growing.inits, (onTwenty earlier).HostAmple 20 := by decide +kernel
  have ample (earlier : List (Call Float)) (inside : earlier <+: growing) : (onTwenty earlier).HostAmple 20 :=
    every earlier ((List.mem_inits _ _).2 inside)
  have size (n : Nat) (calls : List (Call Float)) (of : (lastPosed calls).map (·.size) = some n) :
      ∃ p, lastPosed calls = some p ∧ p.size = n := Option.map_eq_some_iff.1 of
  obtain ⟨p, posed, one⟩ := size 1 (growing.take 1) (by decide +kernel)
  obtain ⟨q, posed', two⟩ := size 2 growing (by decide +kernel)
  have tile : (onTwenty (growing.take 1)).tileSize = Schedule.defaultTileSize := by decide +kernel
  have tile' : (onTwenty growing).tileSize = Schedule.defaultTileSize := by decide +kernel
  have fits : OnDevice.demand twoWorkers (onTwenty (growing.take 1)).tileSize p.size ≤ (20 : UInt64).toNat := by
    rw [tile, one]
    decide
  have crowded : (20 : UInt64).toNat < OnDevice.demand twoWorkers (onTwenty growing).tileSize q.size := by
    rw [tile', two]
    decide
  have earlier (first : List (Call Float)) (inside : first <+: growing.take 1) : (onTwenty first).HostAmple 20 :=
    ample first (inside.trans (List.take_prefix 1 growing))
  obtain ⟨succeeds, -⟩ :=
    (device_fails_iff_pool_exceeds_capacity 20 twoWorkers _ earlier (onTwenty (growing.take 1)) rfl).1 p .prepare posed
      rfl
  obtain ⟨-, fails⟩ :=
    (device_fails_iff_pool_exceeds_capacity 20 twoWorkers _ ample (onTwenty growing) rfl).1 q .prepare posed' rfl
  obtain ⟨refused, none⟩ := fails crowded
  exact ⟨ample, succeeds fits, refused, none⟩

end BinaryQuadratic.Solver
