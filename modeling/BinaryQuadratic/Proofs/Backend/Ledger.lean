import BinaryQuadratic.Proofs.Backend

/-!
# Accounts of pools

A backend may keep an account of its pool: what it set aside for the workers, and nothing for anybody else
(`Backend.Ledger`). Workers are entered when they are created, and struck off when they are given up; a step that fails
leaves the account as it was. Some endings excuse the backend from its account for good. Unlike the laws of reliable
backends these say nothing of what workers compute, and they hold whatever fails.

A worker is also built for something, weights and a tile size, and remains so.
-/

namespace BinaryQuadratic

open Step

variable {B R W : Type} [Backend B R W]

/-! ## What all steps keep -/

/-- No step of the backend and its workers loses this property. -/
structure Backend.Keeps (P : B → Prop) : Prop where
  create (weights : Matrix R) (tileSize : UInt64) : Step.Keeps P (Backend.create (B := B) weights tileSize)
  discard (worker : W) : Step.Keeps P (Backend.discard worker)
  scan (span : Span) : Step.Keeps (fun t => P t.1) (Backend.scan (B := B) span)

namespace Backend.Keeps

variable {P : B → Prop} (h : Backend.Keeps P)
include h

theorem discardAll (pool : List W) : Step.Keeps P (Backend.discardAll pool) := by
  induction pool with
  | nil => exact .pure _
  | cons worker pool ih => exact (h.discard worker).bind fun _ => ih

theorem createMore (weights : Matrix R) (tileSize : UInt64) (k : Nat) (made : List W) :
    Step.Keeps P (Backend.createMore weights tileSize k made) := by
  induction k generalizing made with
  | zero => exact .pure _
  | succ k ih => exact ((h.create weights tileSize).orCleanup (h.discardAll made)).bind fun _ => ih _

theorem createPool (weights : Matrix R) (tileSize : UInt64) (count : Count) :
    Step.Keeps P (Backend.createPool (B := B) weights tileSize count) :=
  (Step.Keeps.reserve _ _).bind fun _ => h.createMore weights tileSize _ []

theorem scanRound (tiles : List Tile) : Step.Keeps (fun t => P t.1) (Backend.scanRound (B := B) tiles) := by
  induction tiles with
  | nil => exact .pure _
  | cons tile tiles ih =>
    rintro ⟨b, pool⟩ holds
    cases pool with
    | nil => exact holds
    | cons worker rest =>
      rw [post_scanRound_cons]
      refine (h.scan tile.span (b, worker) holds).mono (fun _ t holds => ?_) fun _ _ holds => holds
      exact (ih (t.1, rest) holds).mono (fun _ _ holds => holds) fun _ _ holds => holds

end Backend.Keeps

/-! ## Accounts -/

/-- Laws of an account that a backend keeps of its pool, and of what workers are built for. -/
structure Backend.Ledger (excused : B → Prop) (account : B → List W → Prop) (built : Matrix R → UInt64 → W → Prop) :
    Prop where
  keeps_workers (count : Count) : Backend.Keeps fun b : B => Backend.workers b = count
  /-- Once excused, the backend stays so. -/
  keeps_excused : Backend.Keeps excused
  account_of_excused {b : B} (pool : List W) : excused b → account b pool
  create {b : B} {pool : List W} (weights : Matrix R) (tileSize : UInt64) : account b pool →
    Post (Backend.create weights tileSize) b
      (fun worker b' => account b' (pool ++ [worker]) ∧ built weights tileSize worker)
      fun ending b' => if ending = .crash then excused b' else account b' pool
  discard {b : B} {worker : W} {pool : List W} : account b (worker :: pool) →
    Post (Backend.discard worker) b (fun _ b' => account b' pool) fun _ b' => excused b'
  reset {b : B} {pool : List W} : account b pool → account b (pool.map (Backend.reset B))
  built_reset {weights : Matrix R} {tileSize : UInt64} {worker : W} : built weights tileSize worker →
    built weights tileSize (Backend.reset B worker)
  /-- A scan changes the worker and its backend only, whether it is finished or not. -/
  scan {b : B} {before after : List W} {worker : W} (span : Span) : account b (before ++ worker :: after) →
    let left (t : B × W) := account t.1 (before ++ t.2 :: after) ∧
      ∀ weights tileSize, built weights tileSize worker → built weights tileSize t.2
    Post (Backend.scan span) (b, worker) (fun _ t => left t) fun _ t => left t

namespace Backend.Ledger

variable {excused : B → Prop} {account : B → List W → Prop} {built : Matrix R → UInt64 → W → Prop}
  (h : Backend.Ledger excused account built) {b : B} {weights : Matrix R} {tileSize : UInt64}
include h

theorem discardAll {pool : List W} (entered : account b pool) :
    Post (Backend.discardAll pool) b (fun _ b' => account b' []) fun _ b' => excused b' := by
  induction pool generalizing b with
  | nil => exact entered
  | cons worker pool ih =>
    rw [Backend.discardAll, post_bind]
    exact (h.discard entered).mono (fun _ _ rest => ih rest) fun _ _ lost => lost

theorem createMore {made : List W} (k : Nat) (entered : account b made)
    (fitting : ∀ worker ∈ made, built weights tileSize worker) :
    Post (Backend.createMore weights tileSize k made) b
      (fun pool b' => account b' pool ∧ pool.length = made.length + k ∧
        ∀ worker ∈ pool, built weights tileSize worker)
      fun _ b' => account b' [] := by
  induction k generalizing b made with
  | zero => exact ⟨entered, rfl, fitting⟩
  | succ k ih =>
    rw [Backend.createMore, post_bind, post_orCleanup]
    refine (h.create weights tileSize entered).mono ?_ ?_
    · rintro worker b' ⟨joined, new⟩
      refine (ih joined ?_).mono ?_ fun _ _ none => none
      · intro other among
        rcases List.mem_append.1 among with old | last
        · exact fitting other old
        · rw [List.mem_singleton.1 last]
          exact new
      · rintro pool b'' ⟨all, length, every⟩
        refine ⟨all, ?_, every⟩
        rw [length, List.length_append, List.length_singleton]
        omega
    · intro ending b' ended
      cases ending with
      | crash => exact h.account_of_excused [] ended
      | error cause =>
        -- the workers made so far are struck off
        exact (h.discardAll ended).mono (fun _ _ none => none) fun _ _ lost => h.account_of_excused [] lost

/-- A new pool is complete and fitting, or there is none. -/
theorem createPool (count : Count) (entered : account b []) :
    Post (Backend.createPool weights tileSize count) b
      (fun pool b' => account b' pool ∧ pool.length = count.1.toNat ∧ ∀ worker ∈ pool, built weights tileSize worker)
      fun _ b' => account b' [] := by
  rw [Backend.createPool, post_bind, post_reserve]
  split
  · refine (h.createMore count.1.toNat entered fun _ none => absurd none List.not_mem_nil).mono ?_ fun _ _ none => none
    rintro pool b' ⟨all, length, every⟩
    exact ⟨all, by rw [length, List.length_nil, Nat.zero_add], every⟩
  · exact entered

/-- A round changes workers and their backend only, however far it goes. -/
theorem scanRound {before pool : List W} (tiles : List Tile) (entered : account b (before ++ pool)) :
    let left (t : B × List W) := account t.1 (before ++ t.2) ∧ t.2.length = pool.length ∧
      ∀ weights tileSize, (∀ worker ∈ pool, built weights tileSize worker) →
        ∀ worker ∈ t.2, built weights tileSize worker
    Post (Backend.scanRound tiles) (b, pool) (fun _ t => left t) fun _ t => left t := by
  induction tiles generalizing b before pool with
  | nil => exact ⟨entered, rfl, fun _ _ fitting => fitting⟩
  | cons tile tiles ih =>
    cases pool with
    | nil => exact ⟨entered, rfl, fun _ _ fitting => fitting⟩
    | cons worker rest =>
      rw [post_scanRound_cons]
      refine (h.scan tile.span entered).mono ?_ ?_
      · rintro _ ⟨b', worker'⟩ ⟨kept, same⟩
        have next : account b' ((before ++ [worker']) ++ rest) := by simpa using kept
        -- whether the others are finished or not, they are entered behind this one
        have joined (u : B × List W) (left : account u.1 ((before ++ [worker']) ++ u.2) ∧ u.2.length = rest.length ∧
            ∀ weights tileSize, (∀ worker ∈ rest, built weights tileSize worker) →
              ∀ worker ∈ u.2, built weights tileSize worker) :
            account u.1 (before ++ worker' :: u.2) ∧ (worker' :: u.2).length = (worker :: rest).length ∧
              ∀ weights tileSize, (∀ other ∈ worker :: rest, built weights tileSize other) →
                ∀ other ∈ worker' :: u.2, built weights tileSize other := by
          obtain ⟨all, length, every⟩ := left
          refine ⟨by simpa using all, congrArg (· + 1) length, fun weights tileSize fitting => ?_⟩
          rw [List.forall_mem_cons] at fitting ⊢
          exact ⟨same _ _ fitting.1, every _ _ fitting.2⟩
        exact (ih next).mono (fun _ u left => joined u left) fun _ u left => joined u left
      · rintro _ ⟨b', worker'⟩ ⟨kept, same⟩
        refine ⟨kept, rfl, fun weights tileSize fitting => ?_⟩
        rw [List.forall_mem_cons] at fitting ⊢
        exact ⟨same _ _ fitting.1, fitting.2⟩

end Backend.Ledger

end BinaryQuadratic
