import BinaryQuadratic.Backend.Basic
import BinaryQuadratic.Problem
import BinaryQuadratic.Proofs.Optimum
import BinaryQuadratic.Proofs.Step

/-!
# Reliable backends

A backend is reliable when its workers give every index the value that the problem gives it, and keep what they met in
their incumbents. What it takes for workers to be fit for use is up to the backend (`Sound`). Creating a
worker may fail; nothing else may, as long as the pool is sound.

From the laws of single workers follow those of pools: a new pool is sound and complete or there is none
(`createPool_spec`), and a round deals out its tiles (`scanRound_spec`).
-/

namespace BinaryQuadratic

open Step

/-- A round begins with the tile of the first worker. -/
theorem Backend.post_scanRound_cons {B R W : Type} [Backend B R W] {b : B} {worker : W} {pool : List W} {tile : Tile}
    {tiles : List Tile} {ok : Unit → B × List W → Prop} {halt : Halt SolverError → B × List W → Prop} :
    Post (Backend.scanRound (tile :: tiles)) (b, worker :: pool) ok halt ↔
      Post (Backend.scan tile.span) (b, worker)
        (fun _ t => Post (Backend.scanRound tiles) (t.1, pool) (fun _ u => ok () (u.1, t.2 :: u.2))
          fun ending u => halt ending (u.1, t.2 :: u.2))
        fun ending t => halt ending (t.1, t.2 :: pool) := by
  unfold Post
  rw [Backend.scanRound]
  dsimp only
  cases Backend.scan tile.span (b, worker) with
  | error ending t => rfl
  | ok _ t =>
    dsimp only
    cases Backend.scanRound tiles (t.1, pool) <;> rfl

/-- A backend whose workers can be relied on to give indices these values. -/
class Reliable (B : Type) {R W : Type} [Scalar R] [Backend B R W] (value : outParam (Problem R → Index → R)) where
  /-- The pool is fit for use with this problem on this backend. -/
  Sound : Problem R → B → List W → Prop
  sound_nil {p q : Problem R} {b : B} : Sound p b [] → Sound q b []
  sound_reset {p : Problem R} {b : B} {pool : List W} : Sound p b pool → Sound p b (pool.map (Backend.reset B))
  best_reset (worker : W) : Backend.best B (Backend.reset B worker) = .empty
  discard_spec {p : Problem R} {b : B} {worker : W} {pool : List W} : Sound p b (worker :: pool) →
    Post (Backend.discard worker) b
      (fun _ b' => Sound p b' pool ∧ Backend.workers b' = Backend.workers b) fun _ _ => False
  /-- A new worker joins the pool; after an error the pool is as sound as before, and after a crash there is none. -/
  create_spec {p : Problem R} {b : B} {pool : List W} (tileSize : UInt64) : Sound p b pool →
    Post (Backend.create p.weights tileSize) b
      (fun worker b' => Sound p b' (pool ++ [worker]) ∧ Backend.workers b' = Backend.workers b)
      fun ending b' => Sound p b' (if ending = .crash then [] else pool) ∧ Backend.workers b' = Backend.workers b
  /-- A worker of the pool takes in all indices of a span, in order. -/
  scan_spec {p : Problem R} {b : B} {before after : List W} {worker : W} {met : List Index} {span : Span} :
    Sound p b (before ++ worker :: after) → (Backend.best B worker).Holds (value p) met →
    span.stop ≤ Index.limit p.size →
    Post (Backend.scan span) (b, worker)
      (fun _ t => Sound p t.1 (before ++ t.2 :: after) ∧
        (Backend.best B t.2).Holds (value p) (met ++ span.indices) ∧ Backend.workers t.1 = Backend.workers b)
      fun _ _ => False

namespace Reliable

variable {B R W : Type} [Scalar R] [Backend B R W] {value : Problem R → Index → R} [Reliable B value]
  {p : Problem R} {b : B}

/-! ## Pools -/

theorem discardAll_spec {pool : List W} (sound : Sound p b pool) :
    Post (Backend.discardAll pool) b
      (fun _ b' => Sound p b' ([] : List W) ∧ Backend.workers b' = Backend.workers b) fun _ _ => False := by
  induction pool generalizing b with
  | nil => exact ⟨sound, rfl⟩
  | cons worker pool ih =>
    rw [Backend.discardAll, post_bind]
    refine (discard_spec sound).mono ?_ fun _ _ never => never
    intro _ b' after
    obtain ⟨rest, same⟩ := after
    refine (ih rest).mono ?_ fun _ _ never => never
    intro _ b'' after
    obtain ⟨none, same'⟩ := after
    exact ⟨none, same'.trans same⟩

theorem createMore_spec {made : List W} (tileSize : UInt64) (k : Nat) (sound : Sound p b made) :
    Post (Backend.createMore p.weights tileSize k made) b
      (fun pool b' => Sound p b' pool ∧ pool.length = made.length + k ∧ Backend.workers b' = Backend.workers b)
      fun _ b' => Sound p b' ([] : List W) ∧ Backend.workers b' = Backend.workers b := by
  induction k generalizing b made with
  | zero => exact ⟨sound, rfl, rfl⟩
  | succ k ih =>
    rw [Backend.createMore, post_bind, post_orCleanup]
    refine (create_spec tileSize sound).mono ?_ ?_
    · intro worker b' after
      obtain ⟨joined, same⟩ := after
      refine (ih joined).mono ?_ ?_
      · intro pool b'' after
        obtain ⟨all, length, same'⟩ := after
        refine ⟨all, ?_, same'.trans same⟩
        rw [length, List.length_append, List.length_singleton]
        omega
      · intro _ b'' after
        obtain ⟨none, same'⟩ := after
        exact ⟨none, same'.trans same⟩
    · intro ending b' refused
      obtain ⟨left, same⟩ := refused
      cases ending with
      | crash => exact ⟨left, same⟩
      | error cause =>
        -- the workers made so far are given up
        refine (discardAll_spec left).mono ?_ fun _ _ never => never.elim
        intro _ b'' after
        obtain ⟨none, same'⟩ := after
        exact ⟨none, same'.trans same⟩

/-- A pool is made with all its workers, which host memory must be able to hold, or not at all. -/
theorem createPool_spec (tileSize : UInt64) (count : Count) (sound : Sound p b ([] : List W)) :
    Post (Backend.createPool p.weights tileSize count) b
      (fun pool b' => Sound p b' pool ∧ pool.length = count.1.toNat ∧ Backend.workers b' = Backend.workers b ∧
        HostMemory.Fits count.1.toNat (Backend.workerBytes B))
      fun _ b' => Sound p b' ([] : List W) ∧ Backend.workers b' = Backend.workers b := by
  rw [Backend.createPool, post_bind, post_reserve]
  split
  · next fits =>
    refine (createMore_spec tileSize count.1.toNat sound).mono ?_ fun _ _ none => none
    intro pool b' after
    obtain ⟨all, length, same⟩ := after
    refine ⟨all, ?_, same, fits⟩
    rw [length, List.length_nil, Nat.zero_add]
  · exact ⟨sound, rfl⟩

/-! ## Rounds -/

/-- A round in which every tile has a worker: all of its indices are met, each by one worker, after what was met
before. -/
theorem scanRound_spec {before : List W} {parts : List (W × List Index)} {tiles : List Tile}
    (sound : Sound p b (before ++ parts.map (·.1)))
    (met : ∀ part ∈ parts, (Backend.best B part.1).Holds (value p) part.2) (enough : tiles.length ≤ parts.length)
    (inside : ∀ tile ∈ tiles, tile.span.stop ≤ Index.limit p.size) :
    Post (Backend.scanRound tiles) (b, parts.map (·.1))
      (fun _ t => ∃ parts' : List (W × List Index), t.2 = parts'.map (·.1) ∧ Sound p t.1 (before ++ t.2) ∧
        (∀ part ∈ parts', (Backend.best B part.1).Holds (value p) part.2) ∧ parts'.length = parts.length ∧
        (parts'.flatMap (·.2)).Perm (parts.flatMap (·.2) ++ tiles.flatMap (·.span.indices)) ∧
        Backend.workers t.1 = Backend.workers b) fun _ _ => False := by
  induction tiles generalizing b before parts with
  | nil =>
    refine ⟨parts, rfl, sound, met, rfl, ?_, rfl⟩
    rw [List.flatMap_nil, List.append_nil]
  | cons tile tiles ih =>
    cases parts with
    | nil => exact absurd enough (Nat.not_succ_le_zero _)
    | cons part parts =>
      obtain ⟨_, ⟨b', worker⟩, scanned, sound', holds, same⟩ :=
        (scan_spec sound (met part List.mem_cons_self) (inside tile List.mem_cons_self)).exists_ok
      have rest : Sound p b' ((before ++ [worker]) ++ parts.map (·.1)) := by simpa using sound'
      have others := ih rest (fun part hpart => met part (List.mem_cons_of_mem _ hpart))
        (Nat.le_of_succ_le_succ enough) (fun tile htile => inside tile (List.mem_cons_of_mem _ htile))
      obtain ⟨_, ⟨b'', rest⟩, rested, parts', hrest, sound'', holds', length, perm, same'⟩ := others.exists_ok
      have round : Backend.scanRound (tile :: tiles) (b, (part :: parts).map (·.1)) = .ok () (b'', worker :: rest) := by
        simp only [Backend.scanRound, List.map_cons, scanned, rested]
      refine post_of_eq_ok round ?_
      refine ⟨(worker, part.2 ++ tile.span.indices) :: parts', ?_, ?_, ?_, ?_, ?_, same'.trans same⟩
      · exact congrArg (worker :: ·) hrest
      · simpa using sound''
      · intro q hq
        rcases List.mem_cons.1 hq with rfl | later
        · exact holds
        · exact holds' q later
      · rw [List.length_cons, length, List.length_cons]
      · rw [List.flatMap_cons, List.flatMap_cons, List.flatMap_cons, List.append_assoc, List.append_assoc]
        -- the first tile moves past what the other workers met before
        refine List.Perm.append_left _ ((perm.append_left _).trans ?_)
        rw [← List.append_assoc, ← List.append_assoc]
        exact List.perm_append_comm.append_right _

end Reliable

end BinaryQuadratic
