import BinaryQuadratic.Backend.SharedDevice
import BinaryQuadratic.Proofs.Backend
import BinaryQuadratic.Proofs.Device.Scan

/-!
# Workers on a shared machine are reliable

As long as the machine is not lost, the workers of the pool own their buffers, no buffer belongs to two of them, and
nothing waits in the queue: so their scans do not meet. A machine is lost only by a crash while workers are made, and
then there is no pool.
-/

namespace BinaryQuadratic

open Step

variable {R : Type} [Scalar R]

namespace SharedDevice

open Device

/-! ## Pools that own their buffers -/

/-- The machine can be used, and the workers own their buffers, each its own. -/
structure Equipped (p : Problem R) (g : Guarded (Machine R)) (pool : List (Worker R)) : Prop where
  ready : g.Ready
  owns : ∀ w ∈ pool, w.Owns p g.device.memory
  nodup : (pool.flatMap (·.buffers.ids)).Nodup

variable {p : Problem R} {g g' : Guarded (Machine R)} {worker : Worker R} {before after pool : List (Worker R)}

omit [Scalar R] in
theorem Equipped.nil (ready : g.Ready) : Equipped p g [] :=
  ⟨ready, fun _ none => absurd none List.not_mem_nil, List.nodup_nil⟩

omit [Scalar R] in
/-- The buffers of a worker belong to none of the others. -/
theorem Equipped.not_mem (h : Equipped p g (before ++ worker :: after)) {w : Worker R} (other : w ∈ before ++ after)
    {id : Nat} (own : id ∈ w.buffers.ids) : id ∉ worker.buffers.ids := by
  have nodup := h.nodup
  rw [List.flatMap_append, List.flatMap_cons, List.nodup_append, List.nodup_append] at nodup
  obtain ⟨-, ⟨-, -, apart⟩, apart'⟩ := nodup
  intro both
  rcases List.mem_append.1 other with left | right
  · exact apart' id (List.mem_flatMap.2 ⟨w, left, own⟩) id (List.mem_append_left _ both) rfl
  · exact apart id both id (List.mem_flatMap.2 ⟨w, right, own⟩) rfl

omit [Scalar R] in
/-- What is done to the buffers of one worker leaves the others the owners of theirs. -/
theorem Equipped.owns_others (h : Equipped p g (before ++ worker :: after)) {m : Memory R}
    (outside : Memory.SameOutside worker.buffers.ids g.device.memory m) {w : Worker R} (other : w ∈ before ++ after) :
    w.Owns p m := by
  have among : w ∈ before ++ worker :: after := by
    rcases List.mem_append.1 other with left | right
    · exact List.mem_append_left _ left
    · exact List.mem_append_right _ (List.mem_cons_of_mem _ right)
  exact (h.owns w among).of_same fun id own => outside id (h.not_mem other own)

omit [Scalar R] in
/-- A worker that changed nothing but its own buffers and what it met. -/
theorem Equipped.replace (h : Equipped p g (before ++ worker :: after)) {m : Memory R} {w : Worker R}
    (outside : Memory.SameOutside worker.buffers.ids g.device.memory m) (own : w.Owns p m)
    (same : w.buffers = worker.buffers) : Equipped p (g.loaded m []) (before ++ w :: after) where
  ready := h.ready.loaded m
  owns v hv := by
    rcases List.mem_append.1 hv with left | right
    · exact h.owns_others outside (List.mem_append_left _ left)
    · rcases List.mem_cons.1 right with rfl | right
      · exact own
      · exact h.owns_others outside (List.mem_append_right _ right)
  nodup := by
    have nodup := h.nodup
    rw [List.flatMap_append, List.flatMap_cons] at nodup ⊢
    rw [same]
    exact nodup

/-- A new worker joins the pool. -/
theorem Equipped.join (h : Equipped p g pool) (batch : Count) :
    Equipped p ((g.grown (WorkerBuffers.blank R p.size batch.1.toNat)).loaded
      (Worker.equip g.device.memory p batch.1.toNat) [])
      (pool ++ [⟨p.size, batch, WorkerBuffers.numbered g.device.memory.slots.size, .empty⟩]) where
  ready := (h.ready.grown _).loaded _
  owns w hw := by
    rcases List.mem_append.1 hw with old | new
    · refine (h.owns w old).of_same fun id own => ?_
      exact Worker.buffer?_equip_of_lt _ _ _ ((h.owns w old).lt_size own)
    · obtain rfl := List.mem_singleton.1 new
      exact Worker.owns_equip _ _ _ _
  nodup := by
    rw [List.flatMap_append, List.flatMap_singleton, List.nodup_append, WorkerBuffers.ids_numbered]
    refine ⟨h.nodup, List.nodup_range', ?_⟩
    rintro id old _ new rfl
    -- old numbers were given out before
    obtain ⟨w, hw, own⟩ := List.mem_flatMap.1 old
    have low := (h.owns w hw).lt_size own
    have high := (List.mem_range'_1.1 new).1
    omega

theorem Equipped.reset (h : Equipped p g pool) : Equipped p g (pool.map Worker.reset) where
  ready := h.ready
  owns w hw := by
    obtain ⟨v, hv, rfl⟩ := List.mem_map.1 hw
    exact (h.owns v hv).of_worker ⟨rfl, rfl, rfl⟩
  nodup := by
    rw [List.flatMap_map]
    exact h.nodup

/-! ## Steps on the backend's device -/

section Steps

variable {P : Type} {b : SharedDevice P}

omit [Scalar R] in
theorem post_onDevice {α : Type} {step : Step DeviceError (Guarded P) α} {ok : α → SharedDevice P → Prop}
    {halt : Halt SolverError → SharedDevice P → Prop} :
    Post (onDevice step) b ok halt ↔
      Post step b.device (fun a device => ok a { b with device := device }) fun ending device =>
        halt (ending.map .device) { b with device := device } := by
  unfold Post onDevice mapError EStateM.adaptExcept
  cases step b.device <;> rfl

theorem post_scan [Provider P R] {span : Span} {ok : Unit → SharedDevice P × Worker R → Prop}
    {halt : Halt SolverError → SharedDevice P × Worker R → Prop} :
    Post (scan span) (b, worker) ok halt ↔
      Post (Worker.scan span) (b.device, worker) (fun _ t => ok () ({ b with device := t.1 }, t.2)) fun ending t =>
        halt (ending.map .device) ({ b with device := t.1 }, t.2) := by
  unfold Post scan mapError EStateM.adaptExcept
  dsimp only
  cases Worker.scan span (b.device, worker) <;> rfl

end Steps

variable {b : SharedDevice (Machine R)}

/-- Giving up a worker leaves the others equipped. -/
theorem discard_spec (h : Equipped p g (worker :: pool)) :
    Post worker.discard g (fun _ g' => Equipped p g' pool) fun _ _ => False := by
  refine (Worker.discard_spec h.ready).mono ?_ fun _ _ never => never
  intro _ g' after
  obtain ⟨ready, freed⟩ := after
  have nodup := h.nodup
  rw [List.flatMap_cons, List.nodup_append] at nodup
  refine ⟨ready, fun w hw => ?_, nodup.2.1⟩
  have first : Equipped p g ([] ++ worker :: pool) := h
  refine first.owns_others (fun id outside => ?_) hw
  rw [freed, if_neg outside]

/-- The pool is equipped, or it is empty and the machine was lost. -/
def Usable (p : Problem R) (g : Guarded (Machine R)) (pool : List (Worker R)) : Prop :=
  if g.lost then pool = [] else Equipped p g pool

omit [Scalar R] in
theorem usable_of_equipped (h : Equipped p g pool) : Usable p g pool := by
  rw [Usable, h.ready.held, if_neg Bool.false_ne_true]
  exact h

omit [Scalar R] in
theorem usable_nil_of_lost (lost : g.lost = true) : Usable p g [] := by
  rw [Usable, if_pos lost]

omit [Scalar R] in
theorem equipped_of_mem (h : Usable p g pool) (some : worker ∈ pool) : Equipped p g pool := by
  unfold Usable at h
  split at h
  · rw [h] at some
    exact absurd some List.not_mem_nil
  · exact h

/-- A new worker joins a pool that is equipped; after an error the pool is left as it was, and after a crash the machine
is lost. -/
theorem create_spec (tileSize : UInt64) (h : Usable p g pool) :
    Post (Worker.create p.weights tileSize) g (fun w g' => Usable p g' (pool ++ [w])) fun ending g' =>
      match ending with
      | .error _ => Usable p g' pool
      | .crash => g'.lost = true := by
  by_cases lost : g.lost = true
  · rw [Worker.create, post_bind, Guarded.acquire, post_bind, post_get, if_pos lost]
    exact h
  · rw [Usable, if_neg lost] at h
    refine (Worker.create_spec h.ready tileSize).mono ?_ ?_
    · rintro _ _ ⟨rfl, rfl⟩
      exact usable_of_equipped (h.join _)
    · intro ending g' refused
      obtain ⟨-, left⟩ := refused
      cases ending with
      | error cause =>
        obtain ⟨ready, same⟩ := left
        exact usable_of_equipped ⟨ready, fun w hw => (h.owns w hw).of_same fun id _ => same id, h.nodup⟩
      | crash => exact left

/-- Workers on a shared machine give every index the quadratic form of its assignment. -/
instance [Scalar.Ordered R] : Reliable (SharedDevice (Machine R)) (Problem.form (R := R)) where
  Sound p b pool := Usable p b.device pool
  sound_nil {p q b} h := by
    unfold Usable at *
    split at h
    · next lost => rw [if_pos lost]
    · next held =>
      rw [if_neg held]
      exact Equipped.nil h.ready
  sound_reset {p b pool} h := by
    unfold Usable at *
    split at h
    · next lost =>
      rw [if_pos lost, h]
      rfl
    · next held =>
      rw [if_neg held]
      exact h.reset
  best_reset _ := rfl
  discard_spec {p b worker pool} h := by
    refine post_onDevice.2 ?_
    refine (discard_spec (equipped_of_mem h List.mem_cons_self)).mono ?_ fun _ _ never => never
    exact fun _ _ equipped => ⟨usable_of_equipped equipped, rfl⟩
  create_spec {p b pool} tileSize h := by
    refine post_onDevice.2 ((create_spec tileSize h).mono (fun _ _ joined => ⟨joined, rfl⟩) ?_)
    intro ending g' left
    refine ⟨?_, rfl⟩
    cases ending with
    | error cause => exact left
    | crash => exact usable_nil_of_lost left
  scan_spec {p b before after worker met span} h holds _ := by
    refine post_scan.2 ?_
    -- a pool with a worker in it is not that of a lost machine
    have equipped := equipped_of_mem h (List.mem_append_right _ List.mem_cons_self)
    refine (Worker.scan_spec equipped.ready (equipped.owns _ (List.mem_append_right _ List.mem_cons_self)) holds
      span).mono ?_ fun _ _ never => never
    rintro _ ⟨g', w⟩ after
    obtain ⟨same, holds', m, loaded, own, outside⟩ := after
    obtain rfl : g' = b.device.loaded m [] := loaded
    exact ⟨usable_of_equipped (equipped.replace outside (own.of_worker same) same.2.2), holds', rfl⟩

/-! ## Ample machines -/

/-- A new machine with this capacity has room for a pool of workers, and so has host memory. -/
structure Ample (R : Type) [Scalar R] (capacity : Option Nat) (workers : Count) (n batch : Nat) : Prop where
  pool : HostMemory.Fits workers.1.toNat (Backend.workerBytes (SharedDevice (Machine R)))
  room : ∀ limit, capacity = some limit → workers.1.toNat * footprint n batch ≤ limit
  blocks : Blocks R n batch

/-- Workers for whose buffers there is room are all made. -/
theorem createMore_ok {tileSize : UInt64} (blocks : Blocks R p.size (Worker.batchFor tileSize).1.toNat) (k : Nat)
    (made : List (Worker R)) (ready : b.device.Ready)
    (room : b.device.device.HasRoom (k * footprint p.size (Worker.batchFor tileSize).1.toNat)) :
    Post (Backend.createMore p.weights tileSize k made) b (fun _ _ => True) fun _ _ => False := by
  induction k generalizing b made with
  | zero => trivial
  | succ k ih =>
    rw [Nat.succ_mul, Nat.add_comm] at room
    rw [Backend.createMore, post_bind, post_orCleanup]
    refine post_onDevice.2 ((Worker.create_spec ready tileSize).mono ?_ ?_)
    · rintro _ _ ⟨rfl, rfl⟩
      have left : (b.device.grown (WorkerBuffers.blank R p.size (Worker.batchFor tileSize).1.toNat)).device.HasRoom
          (k * footprint p.size (Worker.batchFor tileSize).1.toNat) := by
        refine Machine.hasRoom_grown ?_
        rw [WorkerBuffers.total_blank]
        exact room
      exact ih _ ((ready.grown _).loaded _) (Guarded.hasRoom_loaded.2 left)
    · intro ending g' left
      obtain ⟨denied, -⟩ := left
      exact (denied.crowded ⟨room.mono (Nat.le_add_right _ _), blocks⟩).elim

/-- A pool on an ample new machine is made. -/
theorem createPool_ok {capacity : Option Nat} {name : String} {workers size : Count}
    (ample : Ample R capacity workers p.size size.1.toNat) :
    Post (Backend.createPool p.weights size.1 workers)
      (⟨.fresh (.empty capacity), name, workers⟩ : SharedDevice (Machine R)) (fun _ _ => True) fun _ _ => False := by
  have blocks := ample.blocks
  rw [← Worker.batchFor_eq size] at blocks
  rw [Backend.createPool, post_bind, post_reserve, if_pos ample.pool]
  refine createMore_ok blocks _ [] ⟨rfl, rfl, rfl⟩ ?_
  intro available limit
  obtain ⟨total, limited, rfl⟩ := Option.map_eq_some_iff.1 limit
  rw [Worker.batchFor_eq]
  show _ ≤ total - 0
  rw [Nat.sub_zero]
  exact ample.room total limited

end SharedDevice

end BinaryQuadratic
