import BinaryQuadratic.Proofs.Device.Books
import BinaryQuadratic.Proofs.Device.Worker

/-!
# Providers that keep books

A provider keeps books of its buffers, entry by entry, as long as nothing excuses it from them for good
(`Accounting`). From the entries of single requests follow those of workers, whatever fails on the way: a worker that is
made is entered with its six buffers, or with none; a worker that is given up is struck off; and scanning changes the
books of nobody.
-/

namespace BinaryQuadratic.Device

open Step

variable {P R : Type} [Provider P R]

/-- Laws of the books that a provider keeps for those who share it. Freeing a buffer must not fail, nor may a request
crash, or else the provider is excused. -/
structure Accounting (excused : Guarded P → Prop) (holds : List (Nat × Nat) → Guarded P → Prop) : Prop where
  of_excused {g : Guarded P} (entries : List (Nat × Nat)) : excused g → holds entries g
  excused_of_lost {g : Guarded P} {entries : List (Nat × Nat)} : holds entries g → g.lost = true → excused g
  abandon {g : Guarded P} : excused g → excused { g with lost := true }
  perm {g : Guarded P} {entries entries' : List (Nat × Nat)} : holds entries g → entries.Perm entries' →
    holds entries' g
  keeps_excused {kind : Kind} (request : Request R kind) : Keeps excused (Provider.perform (P := Guarded P) request)
  perform {kind : Kind} (request : Request R kind) {g : Guarded P} {entries : List (Nat × Nat)} : holds entries g →
    (∀ id, request.frees = some id → id ∈ entries.map (·.1)) →
    Post (Provider.perform request) g
      (fun a g' => holds (request.enter entries a) g' ∧ (excused g' ∨ request.Answered a))
      fun ending g' => if ending = .crash ∨ request.frees.isSome then excused g' else holds entries g'

/-- The provider is excused, whatever the entries. -/
def Unbooked (excused : Guarded P → Prop) (_ : List (Nat × Nat)) (g : Guarded P) : Prop := excused g

namespace Accounting

/-- What all requests keep is kept as books are. -/
theorem of_keeps {inv : Guarded P → Prop}
    (h : ∀ {kind : Kind} (request : Request R kind), Keeps inv (Provider.perform (P := Guarded P) request))
    (abandon : ∀ {g : Guarded P}, inv g → inv { g with lost := true }) : Accounting inv (Unbooked inv) where
  of_excused _ holds := holds
  excused_of_lost holds _ := holds
  abandon := abandon
  perm holds _ := holds
  keeps_excused := h
  perform request _ _ holds _ :=
    (h request _ holds).mono (fun _ _ holds => ⟨holds, Or.inl holds⟩) fun _ _ holds => by
      split <;> exact holds

variable {excused : Guarded P → Prop} {holds : List (Nat × Nat) → Guarded P → Prop} (h : Accounting excused holds)
  {g : Guarded P} {own rest : List (Nat × Nat)}
include h

theorem unbooked : Accounting excused (Unbooked excused) := .of_keeps h.keeps_excused h.abandon

theorem of_left {ending : Halt DeviceError} (left : if ending = .crash then excused g else holds rest g) :
    holds rest g := by
  split at left
  · exact h.of_excused rest left
  · exact left

/-- Requests that have no entry of their own. -/
theorem neutral {kind : Kind} (request : Request R kind) (same : ∀ a, request.enter rest a = rest)
    (frees : request.frees = none) (entered : holds rest g) :
    Post (Provider.perform request) g (fun a g' => holds rest g' ∧ (excused g' ∨ request.Answered a))
      fun ending g' => if ending = .crash then excused g' else holds rest g' := by
  have listed (id : Nat) (freed : request.frees = some id) : id ∈ rest.map (·.1) := nomatch frees.symm.trans freed
  refine (h.perform request entered listed).mono (fun a g' after => ?_) fun ending g' left => ?_
  · exact ⟨same a ▸ after.1, after.2⟩
  · simpa [frees] using left

theorem keeps {kind : Kind} (request : Request R kind) (same : ∀ a, request.enter rest a = rest)
    (frees : request.frees = none) : Keeps (holds rest) (Provider.perform (P := Guarded P) request) := fun _ entered =>
  (h.neutral request same frees entered).mono (fun _ _ after => after.1) fun _ _ left => h.of_left left

theorem keeps_launch (kernel : Kernel R) : Keeps (holds rest) (launch (P := Guarded P) kernel) :=
  h.keeps _ (fun _ => rfl) rfl

theorem keeps_synchronize : Keeps (holds rest) (synchronize (P := Guarded P)) := h.keeps _ (fun _ => rfl) rfl

theorem keeps_readIndices (source : IndexHandle) (length : Nat) :
    Keeps (holds rest) (readIndices (P := Guarded P) source length) := h.keeps _ (fun _ => rfl) rfl

/-! ## Freeing -/

theorem ignoreError_free {id length : Nat} (entered : holds ((id, length) :: rest) g) :
    Post (free id).ignoreError g (fun _ g' => holds rest g') fun _ g' => excused g' := by
  have listed (other : Nat) (freed : (Request.free id : Request R .done).frees = some other) :
      other ∈ ((id, length) :: rest).map (·.1) := by
    obtain rfl : id = other := Option.some.inj freed
    exact List.mem_cons_self
  rw [post_ignoreError]
  refine (h.perform (.free id) entered listed).mono (fun _ g' after => ?_) fun ending g' left => ?_
  · have struck : ((id, length) :: rest).eraseP (·.1 == id) = rest := List.eraseP_cons_of_pos (beq_self_eq_true id)
    exact struck ▸ after.1
  · have failed : ending = .crash ∨ (Request.free id : Request R .done).frees.isSome = true := Or.inr rfl
    rw [if_pos failed] at left
    cases ending with
    | error cause => exact h.of_excused rest left
    | crash => exact left

/-- Buffers are struck off one after the other. -/
theorem freeAll (own : List (Nat × Nat)) (entered : holds (own ++ rest) g) :
    Post (freeAll (own.map (·.1))) g (fun _ g' => holds rest g') fun _ g' => excused g' := by
  induction own generalizing g with
  | nil => exact entered
  | cons entry own ih =>
    rw [List.map_cons, Device.freeAll, post_bind]
    exact (h.ignoreError_free entered).mono (fun _ _ others => ih others) fun _ _ lost => lost

/-! ## Allocating -/

/-- The step enters a buffer of this length, or leaves the books as they are. -/
def Enters (excused : Guarded P → Prop) (holds : List (Nat × Nat) → Guarded P → Prop) {α : Type}
    (step : Step DeviceError (Guarded P) α) (id : α → Nat) (length : Nat) : Prop :=
  ∀ entries g, holds entries g → Post step g (fun a g' => holds ((id a, length) :: entries) g')
    fun ending g' => if ending = .crash then excused g' else holds entries g'

theorem enters {kind : Kind} {request : Request R kind} {id : kind.Answer R → Nat} {length : Nat}
    (entry : ∀ entries a, request.enter entries a = (id a, length) :: entries) (frees : request.frees = none) :
    Enters excused holds (Provider.perform (P := Guarded P) request) id length := fun entries g entered => by
  have listed (id : Nat) (freed : request.frees = some id) : id ∈ entries.map (·.1) := nomatch frees.symm.trans freed
  refine (h.perform request entered listed).mono (fun a g' after => ?_) fun ending g' left => ?_
  · exact entry entries a ▸ after.1
  · simpa [frees] using left

theorem enters_allocReals (length : Nat) :
    Enters excused holds (allocReals (P := Guarded P) length) RealHandle.id length :=
  h.enters (fun _ _ => rfl) rfl

theorem enters_allocIndices (length : Nat) :
    Enters excused holds (allocIndices (P := Guarded P) length) IndexHandle.id length :=
  h.enters (fun _ _ => rfl) rfl

/-- No buffer is entered whose length is no word. -/
theorem enters_allocRows (a b : Nat) :
    Enters excused holds (bufferLength a b >>= allocReals (P := Guarded P)) RealHandle.id (a * b) :=
  fun entries g entered => by
    rw [post_bind, bufferLength]
    split
    · exact h.enters_allocReals (a * b) entries g entered
    · exact entered

/-- A step after which buffers that were allocated before are freed, if it fails. -/
theorem orFreeAll {α : Type} {step : Step DeviceError (Guarded P) α} {ok : α → Guarded P → Prop}
    (own : List (Nat × Nat)) (post : Post step g ok fun ending g' =>
      if ending = .crash then excused g' else holds (own ++ rest) g') :
    Post (step.orCleanup (Device.freeAll (own.map (·.1)))) g ok
      fun ending g' => if ending = .crash then excused g' else holds rest g' := by
  rw [post_orCleanup]
  refine post.mono (fun _ _ done => done) fun ending g' left => ?_
  cases ending with
  | crash => exact left
  | error cause =>
    refine (h.freeAll own left).mono (fun _ _ struck => struck) fun ending g'' lost => ?_
    split
    · exact lost
    · exact h.of_excused rest lost

/-- A buffer is entered besides those that are there already, or all of them are struck off. -/
theorem another {α : Type} {step : Step DeviceError (Guarded P) α} {id : α → Nat} {length : Nat}
    (enters : Enters excused holds step id length) (own : List (Nat × Nat)) (entered : holds (own ++ rest) g) :
    Post (step.orCleanup (Device.freeAll (own.map (·.1)))) g
      (fun a g' => holds ((own ++ [(id a, length)]) ++ rest) g')
      fun ending g' => if ending = .crash then excused g' else holds rest g' := by
  refine h.orFreeAll own ((enters _ g entered).mono (fun a g' after => ?_) fun _ _ left => left)
  rw [List.append_assoc]
  exact h.perm after List.perm_middle.symm

end Accounting

/-! ## Workers -/

/-- The entries of a worker's buffers, in the order of their allocation. -/
def WorkerBuffers.entries (b : WorkerBuffers) (n batch : Nat) : List (Nat × Nat) :=
  [(b.weights.id, n * n), (b.bits.id, n * batch), (b.energies.id, batch), (b.minimum.id, 1), (b.selected.id, batch),
    (b.count.id, 1)]

theorem WorkerBuffers.total_entries (b : WorkerBuffers) (n batch : Nat) :
    total (b.entries n batch) = footprint n batch := by
  simp [entries, total, footprint, Nat.add_assoc]

namespace Worker

variable {R : Type}

/-- The entries of the worker. -/
def entries (w : Worker R) : List (Nat × Nat) := w.buffers.entries w.n w.batch.1.toNat

theorem length_entries (w : Worker R) : w.entries.length = 6 := rfl

theorem Alike.entries {w w' : Worker R} (h : Alike w w') : w'.entries = w.entries := by
  obtain ⟨n, batch, buffers⟩ := h
  rw [Worker.entries, Worker.entries, n, batch, buffers]

end Worker

namespace Accounting

variable {excused : Guarded P → Prop} {holds : List (Nat × Nat) → Guarded P → Prop} (h : Accounting excused holds)
  {g : Guarded P} {rest : List (Nat × Nat)}
include h

/-- Six buffers are entered, or none. -/
theorem allocate (n batch : Nat) (entered : holds rest g) :
    Post (WorkerBuffers.allocate n batch) g (fun b g' => holds (b.entries n batch ++ rest) g')
      fun ending g' => if ending = .crash then excused g' else holds rest g' := by
  rw [WorkerBuffers.allocate, post_bind]
  refine (h.enters_allocRows n n rest g entered).mono (fun weights g₁ first => ?_) fun _ _ left => left
  rw [post_bind]
  refine (h.another (h.enters_allocRows n batch) [(weights.id, n * n)] first).mono (fun bits g₂ second => ?_)
    fun _ _ left => left
  rw [post_bind]
  refine (h.another (h.enters_allocReals batch) _ second).mono (fun energies g₃ third => ?_) fun _ _ left => left
  rw [post_bind]
  refine (h.another (h.enters_allocReals 1) _ third).mono (fun minimum g₄ fourth => ?_) fun _ _ left => left
  rw [post_bind]
  refine (h.another (h.enters_allocIndices batch) _ fourth).mono (fun selected g₅ fifth => ?_) fun _ _ left => left
  rw [post_bind]
  exact (h.another (h.enters_allocIndices 1) _ fifth).mono (fun _ _ all => all) fun _ _ left => left

variable [Scalar R]

/-- A worker is entered, or leaves the books as they were. -/
theorem create (weights : Matrix R) (tileSize : UInt64) (entered : holds rest g) :
    Post (Worker.create weights tileSize) g
      (fun w g' => holds (w.entries ++ rest) g' ∧ w.n = weights.rows ∧ w.batch = Worker.batchFor tileSize)
      fun ending g' => if ending = .crash then excused g' else holds rest g' := by
  rw [Worker.create, post_bind, Guarded.acquire, post_bind, post_get]
  split
  · exact entered
  · rw [post_pure, post_bind]
    refine (h.allocate weights.rows (Worker.batchFor tileSize).1.toNat entered).mono (fun buffers g' all => ?_)
      fun _ _ left => left
    rw [post_bind]
    refine (h.orFreeAll (buffers.entries weights.rows (Worker.batchFor tileSize).1.toNat) ?_).mono
      (fun _ g'' kept => ⟨kept, rfl, rfl⟩) fun _ _ left => left
    rw [post_bind]
    refine (h.neutral (.copy _ _) (fun _ => rfl) rfl all).mono (fun _ _ queued => ?_) fun _ _ left => left
    exact (h.neutral .synchronize (fun _ => rfl) rfl queued.1).mono (fun _ _ after => after.1) fun _ _ left => left

omit [Scalar R] in
/-- A worker that is given up is struck off. -/
theorem discard {w : Worker R} (entered : holds (w.entries ++ rest) g) :
    Post w.discard g (fun _ g' => holds rest g') fun _ g' => excused g' := by
  rw [Worker.discard, post_bind, post_get]
  split
  · next lost => exact h.of_excused rest (h.excused_of_lost entered lost)
  · exact h.freeAll w.entries entered

/-! ## Scanning -/

omit [Scalar R] in
/-- There is a first entry, unless the provider is excused. -/
theorem post_first {α : Type} {values : List α} (entered : holds rest g) (answered : excused g ∨ values.length = 1) :
    Post (Worker.first values) g (fun _ g' => holds rest g') fun _ g' => holds rest g' := by
  cases values with
  | nil => exact h.of_excused rest (h.abandon (answered.resolve_right Nat.zero_ne_one))
  | cons a values => exact entered

omit [Scalar R] in
/-- What follows a request that has no entry of its own can rely on the length of its answer. -/
theorem keeps_bind {β : Type} {kind : Kind} (request : Request R kind) (same : ∀ a, request.enter rest a = rest)
    (frees : request.frees = none) {next : kind.Answer R → Step DeviceError (Guarded P) β}
    (h' : ∀ a g, holds rest g → excused g ∨ request.Answered a →
      Post (next a) g (fun _ g' => holds rest g') fun _ g' => holds rest g') :
    Keeps (holds rest) (Provider.perform request >>= next) := fun _ entered =>
  post_bind.2 <| (h.neutral request same frees entered).mono (fun a g' after => h' a g' after.1 after.2)
    fun _ _ left => h.of_left left

omit [Scalar R] in
theorem keeps_minimumOf (w : Worker R) (batch : Span) :
    Keeps (holds rest) (w.minimumOf (D := P) batch) :=
  (h.keeps_launch _).bind fun _ => (h.keeps_launch _).bind fun _ => (h.keeps_launch _).bind fun _ =>
    h.keeps_synchronize.bind fun _ => h.keeps_bind (.readReals _ _) (fun _ => rfl) rfl fun _ _ => h.post_first

omit [Scalar R] in
theorem keeps_indicesAt (w : Worker R) (batch : Span) (energy : R) :
    Keeps (holds rest) (w.indicesAt (D := P) batch energy) := by
  refine (h.keeps_launch _).bind fun _ => h.keeps_synchronize.bind fun _ => ?_
  refine h.keeps_bind (.readIndices _ _) (fun _ => rfl) rfl fun counts g entered answered => ?_
  rw [post_bind]
  exact (h.post_first entered answered).mono (fun count g' kept => h.keeps_readIndices _ _ g' kept)
    fun _ _ kept => kept

/-- Scanning changes no books, and nothing of the worker but its incumbent. -/
theorem keeps_scan (w : Worker R) (span : Span) :
    Keeps (fun t => holds rest t.1 ∧ w.Alike t.2) (Worker.scan (D := P) span) := by
  have scanBatch (batch : Span) : Keeps (fun t => holds rest t.1 ∧ w.Alike t.2) (Worker.scanBatch (D := P) batch) := by
    refine .get_bind fun t alike => ?_
    have update (best : Incumbent R) : w.Alike { t.2 with best := best } := alike.2
    refine (h.keeps_minimumOf t.2 batch).onFirst.bind fun energy => ?_
    refine Keeps.bind (.modify fun _ kept => ⟨kept.1, update _⟩) fun _ => .ite ?_ (.pure _)
    exact (h.keeps_indicesAt t.2 batch energy).onFirst.bind fun _ => .modify fun _ kept => ⟨kept.1, update _⟩
  have acquire : Keeps (holds rest) (Guarded.acquire (P := P)) := .get_bind fun _ _ => .ite (.fail _) (.pure _)
  refine acquire.onFirst.bind fun _ => .get_bind fun t _ => ?_
  rw [Span.walkBatches_eq_forM]
  exact .forM scanBatch _

end Accounting

end BinaryQuadratic.Device
