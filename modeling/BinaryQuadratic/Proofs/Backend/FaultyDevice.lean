import BinaryQuadratic.Proofs.Backend.Resilient
import BinaryQuadratic.Proofs.Backend.SharedDevice
import BinaryQuadratic.Proofs.Device.FaultyScan
import BinaryQuadratic.Proofs.Device.FaultyWorker

/-!
# Workers on a shared machine that may fail

The workers of a pool on a machine whose requests fail by plan are resilient. Either the machine is lost, and then
nothing further is computed, or the pool is stocked. All further steps succeed on a machine that is not lost and has
nothing in its queue that names a buffer that was freed, if no further request fails by plan and there is room.
-/

namespace BinaryQuadratic

open Step

namespace Device.Guarded

variable {R : Type}

/-- The machine is there, and no command in its queue names a buffer that was freed. -/
structure Healthy (g : Guarded (Faulty (Machine R) R)) : Prop where
  held : g.lost = false
  alive : g.machine.poisoned = false
  clear : g.machine.Clear

/-- This many workers can be made for the problem and tiles of this size, and nothing further will fail. -/
structure Fit [Scalar R] (p : Problem R) (tile : UInt64) (k : Nat) (g : Guarded (Faulty (Machine R) R)) : Prop where
  quiet : g.Quiet
  healthy : g.Healthy
  room : g.machine.HasRoom (k * footprint p.size (Worker.batchFor tile).1.toNat)
  blocks : Blocks R p.size (Worker.batchFor tile).1.toNat

end Device.Guarded

namespace SharedDevice

open Device

variable {R : Type} [Scalar R] {p : Problem R} {tile : UInt64} {b b' : SharedDevice (Faulty (Machine R) R)}
  {worker : Worker R} {before after pool : List (Worker R)} {ending : Halt DeviceError}

/-- The machine was lost, or it is stocked for the pool. -/
def Tended (p : Problem R) (tile : UInt64) (b : SharedDevice (Faulty (Machine R) R)) (pool : List (Worker R)) : Prop :=
  b.device.lost = true ∨ Left p tile pool b.device.machine

omit [Scalar R] in
theorem map_device_eq_crash_iff : ending.map SolverError.device = .crash ↔ ending = .crash := by
  cases ending <;> simp [Halt.map]

theorem alike_of_plan {device : Guarded (Faulty (Machine R) R)} (plan : device.device.plan = b.device.device.plan) :
    Backend.Alike (fun b : SharedDevice (Faulty (Machine R) R) => b.device.device.plan) b { b with device := device } :=
  ⟨rfl, plan⟩

theorem discard_tended (tended : Tended p tile b (worker :: pool)) :
    Post (onDevice (worker.discard : Step DeviceError (Guarded (Faulty (Machine R) R)) Unit)) b
      (fun _ b' => Tended p tile b' pool ∧ Backend.Alike (fun b => b.device.device.plan) b b')
      fun ending b' => ending = .crash ∧ b'.device.lost = true ∧ ¬ b.device.Steady ∧
        Backend.Alike (fun b => b.device.device.plan) b b' := by
  refine post_onDevice.2 ?_
  cases held : b.device.lost with
  | true =>
    -- nothing is given back to a machine that was lost
    rw [Worker.discard, post_bind, post_get, held]
    exact ⟨Or.inl held, .refl _ _⟩
  | false =>
    refine (Worker.discard_faulty held (tended.resolve_left (Bool.eq_false_iff.1 held))).mono ?_ ?_
    · rintro _ g ⟨d, onward, left⟩
      obtain rfl := onward.machine
      exact ⟨Or.inr left, alike_of_plan onward.plan⟩
    · rintro ending g ⟨rfl, lost, plan, unsteady⟩
      exact ⟨rfl, lost, unsteady, alike_of_plan plan⟩

theorem create_of_lost (weights : Matrix R) (lost : b.device.lost = true) :
    onDevice (Worker.create weights tile) b = .error (.error (.device .poisoned)) b := by
  have refused : Post (onDevice (Worker.create weights tile) : Step SolverError _ (Worker R)) b (fun _ _ => False)
      fun ending b' => ending = .error (.device .poisoned) ∧ b' = b := by
    refine post_onDevice.2 ?_
    rw [Worker.create, post_bind, Guarded.acquire, post_bind, post_get, lost]
    exact ⟨rfl, rfl⟩
  cases created : (onDevice (Worker.create weights tile) : Step SolverError _ (Worker R)) b with
  | ok w b' => exact (refused.of_ok created).elim
  | error ending b' =>
    obtain ⟨rfl, rfl⟩ := refused.of_error created
    rfl

theorem create_tended (tended : Tended p tile b pool) :
    Post (onDevice (Worker.create p.weights tile)) b
      (fun w b' => Tended p tile b' (pool ++ [w]) ∧ Backend.Alike (fun b => b.device.device.plan) b b' ∧
        b.device.Healthy ∧ ∀ k, b.device.Fit p tile (k + 1) → b'.device.Fit p tile k)
      fun ending b' => (if ending = .crash then b'.device.lost = true else Tended p tile b' pool) ∧
        Backend.Alike (fun b => b.device.device.plan) b b' ∧ ∀ k, ¬ b.device.Fit p tile (k + 1) := by
  cases held : b.device.lost with
  | true =>
    refine post_of_eq_error (create_of_lost p.weights held) ⟨?_, .refl _ _, fun k fit => ?_⟩
    · exact tended
    · exact Bool.false_ne_true (fit.healthy.held.symm.trans held)
  | false =>
    have left := tended.resolve_left (Bool.eq_false_iff.1 held)
    refine post_onDevice.2 (Post.mono (Worker.create_attempt held left) ?_ ?_)
    · rintro w g ⟨d, onward, created⟩
      obtain rfl := onward.machine
      refine ⟨Or.inr (Or.inr created.stocked), alike_of_plan onward.plan, ⟨held, created.clear.1, created.clear.2⟩, ?_⟩
      intro k fit
      refine ⟨onward.quiet fit.quiet, ⟨onward.lost.trans held, created.alive, Machine.clear_of_idle created.idle⟩, ?_,
        fit.blocks⟩
      refine created.room ?_
      rw [Nat.add_comm, ← Nat.succ_mul]
      exact fit.room
    · rintro ending g ⟨⟨blame, plan⟩, ended⟩
      refine ⟨?_, alike_of_plan plan, fun k fit =>
        blame ⟨fit.quiet, fit.healthy.alive, fit.healthy.clear, ?_, fit.blocks⟩⟩
      · simp only [map_device_eq_crash_iff]
        split at ended
        · next crash => rwa [if_pos crash]
        · next other =>
          obtain ⟨d, onward, left⟩ := ended
          obtain rfl := onward.machine
          rw [if_neg other]
          exact Or.inr left
      · refine fit.room.mono ?_
        rw [Nat.succ_mul]
        exact Nat.le_add_left _ _

theorem le_toNat_batchFor (tile : UInt64) : tile.toNat ≤ (Worker.batchFor tile).1.toNat := by
  unfold Worker.batchFor
  split
  · exact Nat.le_refl _
  · next zero =>
    have none : tile.toNat = 0 := by simpa [UInt64.lt_iff_toNat_lt] using zero
    omega

variable [Scalar.Ordered R] {met : List Index} {span : Span}

theorem scan_tended (tended : Tended p tile b (before ++ worker :: after))
    (follows : worker.best.Follows p.form (2 ^ p.size) met) (short : span.size ≤ tile.toNat)
    (inside : span.stop ≤ Index.limit p.size) :
    Post (scan span) (b, worker)
      (fun _ t => Tended p tile t.1 (before ++ t.2 :: after) ∧
        t.2.best.Follows p.form (2 ^ p.size) (met ++ span.indices) ∧
        Backend.Alike (fun b => b.device.device.plan) b t.1 ∧ (b.device.Fit p tile 0 → t.1.device.Fit p tile 0))
      fun _ t => Tended p tile t.1 (before ++ t.2 :: after) ∧ t.2.best.Follows p.form (2 ^ p.size) met ∧
        Backend.Alike (fun b => b.device.device.plan) b t.1 ∧ ¬ b.device.Fit p tile 0 := by
  refine post_scan.2 ?_
  cases held : b.device.lost with
  | true =>
    -- the machine is not even asked
    rw [Worker.scan, post_bind, post_onFirst, Guarded.acquire, post_bind, post_get, held]
    exact ⟨Or.inl held, follows, .refl _ _, fun fit => Bool.false_ne_true (fit.healthy.held.symm.trans held)⟩
  | false =>
    have left := tended.resolve_left (Bool.eq_false_iff.1 held)
    have among : worker ∈ before ++ worker :: after := List.mem_append_right _ List.mem_cons_self
    have replaced {d : Machine R} {w : Worker R} (left : Left p tile (before ++ worker :: after) d)
        (same : worker.Alike w) : Left p tile (before ++ w :: after) d := left.imp id fun stocked => stocked.alike same
    have short' (stocked : Stocked p tile b.device.machine (before ++ worker :: after)) :
        span.size ≤ worker.batch.1.toNat := by
      rw [stocked.batch worker among]
      exact Nat.le_trans short (le_toNat_batchFor tile)
    refine (Worker.scan_faulty held left among short' inside follows).mono ?_ ?_
    · rintro _ ⟨g, w⟩ ⟨⟨d, onward, left, fine⟩, alike, follows'⟩
      obtain rfl := onward.machine
      refine ⟨Or.inr (replaced left alike), follows', alike_of_plan onward.plan, fun fit => ?_⟩
      obtain ⟨alive, clear⟩ := fine fit.healthy.alive fit.healthy.clear
      refine ⟨onward.quiet fit.quiet, ⟨onward.lost.trans held, alive, clear⟩, ?_, fit.blocks⟩
      rw [Nat.zero_mul]
      exact fun available _ => Nat.zero_le available
    · rintro ending ⟨g, w⟩ ⟨blame, plan, ended, alike, follows'⟩
      refine ⟨?_, follows', alike_of_plan plan, fun fit => blame ⟨fit.quiet, fit.healthy.alive, fit.healthy.clear⟩⟩
      split at ended
      · exact Or.inl ended
      · obtain ⟨d, onward, left⟩ := ended
        obtain rfl := onward.machine
        exact Or.inr (replaced left alike)

/-- Workers on a shared machine whose requests fail by plan give every index the quadratic form of its assignment. -/
instance : Resilient (SharedDevice (Faulty (Machine R) R)) (Problem.form (R := R)) where
  Sound := Tended
  Lost b := b.device.lost = true
  Plan := FaultPlan
  plan b := b.device.device.plan
  Steady plan := ∀ k, plan k ≠ some .crash
  Healthy b := b.device.Healthy
  Fit p tile k b := b.device.Fit p tile k
  sound_nil tended := tended.imp id fun left => left.imp id fun stocked => .nil stocked.proper
  sound_of_lost _ lost := Or.inl lost
  sound_reset tended := tended.imp id fun left => left.imp id fun stocked => stocked.reset
  best_reset _ := rfl
  discard_spec := discard_tended
  create_spec := create_tended
  create_of_lost weights _ lost := ⟨_, create_of_lost weights lost⟩
  scan_spec := scan_tended

end SharedDevice

end BinaryQuadratic
