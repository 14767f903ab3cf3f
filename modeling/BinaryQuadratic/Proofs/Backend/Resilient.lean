import BinaryQuadratic.Proofs.Backend
import BinaryQuadratic.Proofs.Backend.Journal
import BinaryQuadratic.Proofs.Incumbent

/-!
# Resilient backends

A backend is resilient when its steps may fail or crash, but its workers never mistake what they met: a scan that
succeeds took in its span by the values that the problem gives indices, and one that does not took in nothing but
perhaps an energy. What it takes for workers to be kept is up to the backend (`Sound`), and so is what it takes for all
further steps to succeed (`Fit`).

From the laws of single workers follow those of pools: a new pool is sound and complete or there is none
(`createPool_spec`), and a round that ends early was scanned up to some tile (`scanRound_spec`).
-/

namespace BinaryQuadratic

open Step

/-- The number of workers is the same, and so is the plan. -/
structure Backend.Alike {B R W Plan : Type} [Backend B R W] (plan : B → Plan) (b b' : B) : Prop where
  workers : Backend.workers b' = Backend.workers b
  plan : plan b' = plan b

namespace Backend.Alike

variable {B R W Plan : Type} [Backend B R W] {plan : B → Plan} {b b' b'' : B}

theorem refl (plan : B → Plan) (b : B) : Alike plan b b := ⟨rfl, rfl⟩

theorem trans (h : Alike plan b b') (h' : Alike plan b' b'') : Alike plan b b'' :=
  ⟨h'.workers.trans h.workers, h'.plan.trans h.plan⟩

end Backend.Alike

/-- A backend whose workers can be relied on to give indices these values, however often they fail. -/
class Resilient (B : Type) {R W : outParam Type} [Scalar R] [Backend B R W]
    (value : outParam (Problem R → Index → R)) where
  /-- The pool was made for this problem and this tile size, and its workers kept what they need. -/
  Sound : Problem R → UInt64 → B → List W → Prop
  /-- A crash made the backend useless. -/
  Lost : B → Prop
  /-- How a backend fails. -/
  Plan : Type
  plan : B → Plan
  /-- Giving up workers does not crash. -/
  Steady : Plan → Prop
  /-- The backend can be used. -/
  Healthy : B → Prop
  /-- This many workers can be made for the problem and the tile size, and no step of theirs will fail. -/
  Fit : Problem R → UInt64 → Nat → B → Prop
  sound_nil {p q : Problem R} {tile tile' : UInt64} {b : B} : Sound p tile b [] → Sound q tile' b []
  sound_of_lost {p : Problem R} {tile : UInt64} {b : B} (pool : List W) : Lost b → Sound p tile b pool
  sound_reset {p : Problem R} {tile : UInt64} {b : B} {pool : List W} :
    Sound p tile b pool → Sound p tile b (pool.map (Backend.reset B))
  best_reset (worker : W) : Backend.best B (Backend.reset B worker) = .empty
  discard_spec {p : Problem R} {tile : UInt64} {b : B} {worker : W} {pool : List W} : Sound p tile b (worker :: pool) →
    Post (Backend.discard worker) b (fun _ b' => Sound p tile b' pool ∧ Backend.Alike plan b b')
      fun ending b' => ending = .crash ∧ Lost b' ∧ ¬ Steady (plan b) ∧ Backend.Alike plan b b'
  /-- A new worker joins the pool; after an error the pool is as sound as before. -/
  create_spec {p : Problem R} {tile : UInt64} {b : B} {pool : List W} : Sound p tile b pool →
    Post (Backend.create p.weights tile) b
      (fun worker b' => Sound p tile b' (pool ++ [worker]) ∧ Backend.Alike plan b b' ∧ Healthy b ∧
        ∀ k, Fit p tile (k + 1) b → Fit p tile k b')
      fun ending b' => (if ending = .crash then Lost b' else Sound p tile b' pool) ∧ Backend.Alike plan b b' ∧
        ∀ k, ¬ Fit p tile (k + 1) b
  create_of_lost {b : B} (weights : Matrix R) (tile : UInt64) : Lost b →
    ∃ cause, Backend.create weights tile b = .error (.error cause) b
  /-- A worker of the pool takes in all indices of a span, in order, or none of them. -/
  scan_spec {p : Problem R} {tile : UInt64} {b : B} {before after : List W} {worker : W} {met : List Index}
    {span : Span} : Sound p tile b (before ++ worker :: after) →
    (Backend.best B worker).Follows (value p) (2 ^ p.size) met → span.size ≤ tile.toNat →
    span.stop ≤ Index.limit p.size →
    Post (Backend.scan span) (b, worker)
      (fun _ t => Sound p tile t.1 (before ++ t.2 :: after) ∧
        (Backend.best B t.2).Follows (value p) (2 ^ p.size) (met ++ span.indices) ∧ Backend.Alike plan b t.1 ∧
        (Fit p tile 0 b → Fit p tile 0 t.1))
      fun _ t => Sound p tile t.1 (before ++ t.2 :: after) ∧
        (Backend.best B t.2).Follows (value p) (2 ^ p.size) met ∧ Backend.Alike plan b t.1 ∧ ¬ Fit p tile 0 b

namespace Resilient

variable {B R W : Type} [Scalar R] [Backend B R W] {value : Problem R → Index → R} [Resilient B value]
  {p : Problem R} {tile : UInt64} {j : Journal B}

/-- The number of workers is the same, and so is the plan, with journals. -/
abbrev Alike (j j' : Journal B) : Prop := Backend.Alike (fun b : B => plan b) j.backend j'.backend

/-- The workers of the pool are sound, whatever their journals. -/
abbrev SoundPool (p : Problem R) (tile : UInt64) (j : Journal B) (pool : List (Journaled W)) : Prop :=
  Sound p tile j.backend (pool.map (·.worker))

/-- The incumbent of the worker follows what its journal says it met. -/
abbrev Truthful (B : Type) {R W : Type} [Scalar R] [Backend B R W] {value : Problem R → Index → R} [Resilient B value]
    (p : Problem R) (v : Journaled W) : Prop :=
  (Backend.best B v.worker).Follows (value p) (2 ^ p.size) v.met

/-! ## Pools -/

/-- Giving up workers ends early only by a crash, of which a steady backend is free. -/
theorem discardAll_spec {pool : List (Journaled W)} (sound : SoundPool p tile j pool) :
    Post (Backend.discardAll pool) j (fun _ j' => SoundPool p tile j' ([] : List (Journaled W)) ∧ Alike j j')
      fun ending j' => ending = .crash ∧ Lost j'.backend ∧ ¬ Steady (plan j.backend) ∧ Alike j j' := by
  induction pool generalizing j with
  | nil => exact ⟨sound, .refl _ _⟩
  | cons v pool ih =>
    rw [Backend.discardAll, post_bind]
    refine Journal.post_onBackend.2 ((discard_spec sound).mono ?_ fun _ _ broken => broken)
    rintro _ b ⟨rest, kept⟩
    refine (ih (j := ⟨b⟩) rest).mono ?_ ?_
    · rintro _ j' ⟨none, kept'⟩
      exact ⟨none, kept.trans kept'⟩
    · rintro ending j' ⟨crash, lost, unsteady, kept'⟩
      exact ⟨crash, lost, kept.plan ▸ unsteady, kept.trans kept'⟩

theorem createMore_spec {made : List (Journaled W)} (k : Nat) (sound : SoundPool p tile j made) :
    Post (Backend.createMore p.weights tile k made) j
      (fun pool j' => SoundPool p tile j' pool ∧ pool.length = made.length + k ∧ Alike j j' ∧
        (0 < k → Healthy j.backend) ∧ (Fit p tile k j.backend → Fit p tile 0 j'.backend))
      fun _ j' => SoundPool p tile j' ([] : List (Journaled W)) ∧ Alike j j' ∧ ¬ Fit p tile k j.backend := by
  induction k generalizing j made with
  | zero => exact ⟨sound, rfl, .refl _ _, fun pos => absurd pos (Nat.lt_irrefl 0), id⟩
  | succ k ih =>
    rw [Backend.createMore, post_bind, post_orCleanup]
    refine Journal.post_onBackend.2 ((create_spec sound).mono ?_ ?_)
    · rintro worker b ⟨joined, kept, healthy, fit⟩
      have joined' : SoundPool p tile (⟨b⟩ : Journal B) (made ++ [⟨worker, []⟩]) := by
        rw [SoundPool, List.map_append]
        exact joined
      refine (ih joined').mono ?_ ?_
      · rintro pool j' ⟨all, length, kept', -, fit'⟩
        refine ⟨all, ?_, kept.trans kept', fun _ => healthy, fun good => fit' (fit k good)⟩
        rw [length, List.length_append, List.length_singleton]
        omega
      · rintro _ j' ⟨none, kept', unfit⟩
        exact ⟨none, kept.trans kept', fun good => unfit (fit k good)⟩
    · rintro ending b ⟨left, kept, unfit⟩
      cases ending with
      | crash => exact ⟨sound_of_lost _ left, kept, unfit k⟩
      | error cause =>
        -- the workers made so far are given up
        refine (discardAll_spec (j := ⟨b⟩) left).mono ?_ ?_
        · rintro _ j' ⟨none, kept'⟩
          exact ⟨none, kept.trans kept', unfit k⟩
        · rintro _ j' ⟨-, lost, -, kept'⟩
          exact ⟨sound_of_lost _ lost, kept.trans kept', unfit k⟩

/-- A pool is made with all its workers, or not at all. -/
theorem createPool_spec (count : Count) (sound : SoundPool p tile j ([] : List (Journaled W))) :
    Post (Backend.createPool p.weights tile count) j
      (fun pool j' => SoundPool p tile j' pool ∧ pool.length = count.1.toNat ∧ Alike j j' ∧ Healthy j.backend ∧
        (Fit p tile count.1.toNat j.backend → Fit p tile 0 j'.backend))
      fun _ j' => SoundPool p tile j' ([] : List (Journaled W)) ∧ Alike j j' ∧
        ¬ (HostMemory.Fits count.1.toNat (Backend.workerBytes B) ∧ Fit p tile count.1.toNat j.backend) := by
  rw [Backend.createPool, post_bind, post_reserve]
  split
  · refine (createMore_spec count.1.toNat sound).mono ?_ ?_
    · rintro pool j' ⟨all, length, kept, healthy, fit⟩
      refine ⟨all, ?_, kept, healthy (UInt64.lt_iff_toNat_lt.1 count.2), fit⟩
      rw [length, List.length_nil, Nat.zero_add]
    · rintro _ j' ⟨none, kept, unfit⟩
      exact ⟨none, kept, fun both => unfit both.2⟩
  · next large => exact ⟨sound, .refl _ _, fun both => large both.1⟩

/-- No pool is made on a backend that was lost. -/
theorem createPool_of_lost (weights : Matrix R) (tile : UInt64) (count : Count) (lost : Lost j.backend) :
    Post (Backend.createPool (B := Journal B) weights tile count) j (fun _ _ => False) fun _ j' => j' = j := by
  rw [Backend.createPool, post_bind, post_reserve]
  split
  · obtain ⟨k, positive⟩ : ∃ k, count.1.toNat = k + 1 := ⟨count.1.toNat - 1, by
      have := UInt64.lt_iff_toNat_lt.1 count.2
      change 0 < _ at this
      omega⟩
    obtain ⟨cause, refused⟩ : ∃ cause, Backend.create weights tile j.backend = .error (.error cause) j.backend :=
      Resilient.create_of_lost weights tile lost
    rw [positive, Backend.createMore, post_bind, post_orCleanup]
    exact Journal.post_onBackend.2 (post_of_eq_error refused rfl)
  · rfl

/-! ## Rounds -/

/-- A round in which every tile has a worker: all its spans are entered, or those before a tile whose scan ended
early. -/
theorem scanRound_spec {before pool : List (Journaled W)} {tiles : List Tile}
    (sound : SoundPool p tile j (before ++ pool)) (truthful : ∀ v ∈ pool, Truthful B p v)
    (enough : tiles.length ≤ pool.length)
    (short : ∀ t ∈ tiles, t.span.size ≤ tile.toNat) (inside : ∀ t ∈ tiles, t.span.stop ≤ Index.limit p.size) :
    Post (Backend.scanRound tiles) (j, pool)
      (fun _ t => SoundPool p tile t.1 (before ++ t.2) ∧ (∀ v ∈ t.2, Truthful B p v) ∧
        t.2.map (·.spans) = entered (pool.map (·.spans)) (tiles.map (·.span)) ∧ Alike j t.1 ∧
        (Fit p tile 0 j.backend → Fit p tile 0 t.1.backend))
      fun _ t => SoundPool p tile t.1 (before ++ t.2) ∧ (∀ v ∈ t.2, Truthful B p v) ∧
        (∃ k, k < tiles.length ∧ t.2.map (·.spans) = entered (pool.map (·.spans)) ((tiles.take k).map (·.span))) ∧
        Alike j t.1 ∧ ¬ Fit p tile 0 j.backend := by
  induction tiles generalizing j before pool with
  | nil => exact ⟨sound, truthful, (entered_nil _).symm, .refl _ _, id⟩
  | cons first tiles ih =>
    cases pool with
    | nil => exact absurd enough (Nat.not_succ_le_zero _)
    | cons v pool =>
      rw [List.forall_mem_cons] at truthful short inside
      have placed : Sound p tile j.backend (before.map (·.worker) ++ v.worker :: pool.map (·.worker)) := by
        simpa [SoundPool] using sound
      have joined {b : B} {w : W} {rest : List (Journaled W)} (spans : List Span)
          (h : Sound p tile b (before.map (·.worker) ++ w :: rest.map (·.worker))) :
          SoundPool p tile (⟨b⟩ : Journal B) ((before ++ [⟨w, spans⟩]) ++ rest) := by
        simpa [SoundPool] using h
      refine Backend.post_scanRound_cons.2 (Journal.post_scan.2 ?_)
      refine (scan_spec placed truthful.1 short.1 inside.1).mono ?_ ?_
      · rintro _ ⟨b, w⟩ ⟨sound', follows, kept, fit⟩
        have met : Truthful B p (⟨w, v.spans ++ [first.span]⟩ : Journaled W) := by
          simpa [Truthful, Journaled.met] using follows
        have joins := joined (v.spans ++ [first.span]) sound'
        refine (ih joins truthful.2 (Nat.le_of_succ_le_succ enough) short.2 inside.2).mono ?_ ?_
        · rintro _ ⟨j', rest⟩ ⟨sound'', truthful', spans, kept', fit'⟩
          refine ⟨?_, List.forall_mem_cons.2 ⟨met, truthful'⟩, ?_, kept.trans kept', fit' ∘ fit⟩
          · rwa [List.append_assoc] at sound''
          · simp only [List.map_cons, entered_cons_cons, spans]
        · rintro _ ⟨j', rest⟩ ⟨sound'', truthful', ⟨k, fewer, spans⟩, kept', unfit⟩
          refine ⟨?_, List.forall_mem_cons.2 ⟨met, truthful'⟩, ⟨k + 1, Nat.succ_lt_succ fewer, ?_⟩, kept.trans kept',
            unfit ∘ fit⟩
          · rwa [List.append_assoc] at sound''
          · simp only [List.map_cons, List.take_succ_cons, entered_cons_cons, spans]
      · rintro _ ⟨b, w⟩ ⟨sound', follows, kept, unfit⟩
        refine ⟨?_, List.forall_mem_cons.2 ⟨follows, truthful.2⟩, ⟨0, Nat.zero_lt_succ _, ?_⟩, kept, unfit⟩
        · have whole := joined v.spans sound'
          rwa [List.append_assoc] at whole
        · rw [List.take_zero, List.map_nil, entered_nil, List.map_cons, List.map_cons]

end Resilient

end BinaryQuadratic
