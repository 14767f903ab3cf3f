import BinaryQuadratic.Proofs.Backend.Ledger
import BinaryQuadratic.Proofs.Backend.SharedDevice
import BinaryQuadratic.Proofs.Device.Accounting

/-!
# Accounts of pools on a shared device

A pool on a device is accounted for by the books that the device keeps: they list the buffers of the pool's workers, six
for each, and no others. What a worker is built for are the number of variables and the size of its batches, which its
buffers measure.
-/

namespace BinaryQuadratic.SharedDevice

open Step Device

variable {P R : Type} [Scalar R] [Provider P R]

/-- The worker is for weights of this size, and for batches that fill tiles of this size. -/
def Fitting (weights : Matrix R) (tileSize : UInt64) (w : Worker R) : Prop :=
  w.n = weights.rows ∧ w.batch = Worker.batchFor tileSize

omit [Scalar R] [Provider P R] in
/-- Steps on the device leave the number of workers as it is. -/
theorem keeps_workers_onDevice {α : Type} (step : Step DeviceError (Guarded P) α) (count : Count) :
    Keeps (fun b : SharedDevice P => b.workers = count) (onDevice step) := fun b same => by
  rw [post_onDevice]
  unfold Post
  split <;> exact same

theorem keeps_workers (count : Count) : Backend.Keeps fun b : SharedDevice P => Backend.workers b = count where
  create weights tileSize := keeps_workers_onDevice _ count
  discard worker := keeps_workers_onDevice _ count
  scan span := fun t same => by
    refine post_scan.2 ?_
    unfold Post
    split <;> exact same

variable {excused : Guarded P → Prop} {holds : List (Nat × Nat) → Guarded P → Prop} (h : Accounting excused holds)
include h

/-- An excuse of the device is one of the backend. -/
theorem keeps_excused : Backend.Keeps fun b : SharedDevice P => excused b.device where
  create weights tileSize := fun b lost => by
    have entered : Unbooked excused [] b.device := lost
    refine post_onDevice.2 ((h.unbooked.create weights tileSize entered).mono (fun _ _ after => after.1) ?_)
    intro ending g' left
    split at left <;> exact left
  discard worker := fun b lost => by
    have entered : Unbooked excused (worker.entries ++ []) b.device := lost
    exact post_onDevice.2 (h.unbooked.discard entered)
  scan span := fun t lost => by
    have entered : Unbooked excused [] t.1.device := lost
    refine post_scan.2 ((h.unbooked.keeps_scan t.2 span (t.1.device, t.2) ⟨entered, rfl, rfl, rfl⟩).mono ?_ ?_)
    · exact fun _ _ kept => kept.1
    · exact fun _ _ kept => kept.1

/-- The books of the device account for the pool. -/
theorem ledger : Backend.Ledger (fun b : SharedDevice P => excused b.device)
    (fun b pool => holds (pool.flatMap Worker.entries) b.device) Fitting where
  keeps_workers := keeps_workers
  keeps_excused := keeps_excused h
  account_of_excused pool lost := h.of_excused _ lost
  create {b pool} weights tileSize entered := by
    refine post_onDevice.2 ((h.create weights tileSize entered).mono ?_ ?_)
    · rintro w g' ⟨joined, fitting⟩
      refine ⟨?_, fitting⟩
      rw [List.flatMap_append, List.flatMap_singleton]
      exact h.perm joined List.perm_append_comm
    · intro ending g' left
      cases ending <;> exact left
  discard {b worker pool} entered := post_onDevice.2 (h.discard entered)
  reset {b pool} entered := by
    rw [List.flatMap_map]
    exact entered
  built_reset fitting := fitting
  scan {b before after worker} span entered := by
    have left (t : Guarded P × Worker R) (kept : holds ((before ++ worker :: after).flatMap Worker.entries) t.1 ∧
        worker.Alike t.2) : holds ((before ++ t.2 :: after).flatMap Worker.entries) t.1 ∧
          ∀ weights tileSize, Fitting weights tileSize worker → Fitting weights tileSize t.2 := by
      obtain ⟨entered, alike⟩ := kept
      rw [List.flatMap_append, List.flatMap_cons] at entered ⊢
      rw [alike.entries]
      exact ⟨entered, fun weights tileSize fitting => ⟨alike.1.trans fitting.1, alike.2.1.trans fitting.2⟩⟩
    refine post_scan.2 ((h.keeps_scan worker span (b.device, worker) ⟨entered, rfl, rfl, rfl⟩).mono ?_ ?_)
    · exact fun _ t kept => left t kept
    · exact fun _ t kept => left t kept

end BinaryQuadratic.SharedDevice
