import BinaryQuadratic.Proofs.Device.Accounting
import BinaryQuadratic.Proofs.Device.Faulty

/-!
# Histories of devices

The log of a provider tells its whole history: made again in order, from the same beginning, the requests leave the same
provider (`Faulty.replay`). So what was true of every request where it was made can be told from the log
(`Faulty.Each`).

A machine behind a plan keeps books of its buffers as long as no request crashes and no request to free a buffer fails by
plan, and then every buffer that is freed exists (`Guarded.accounting`).
-/

namespace BinaryQuadratic.Device

open Step

/-! ## Replaying a log -/

namespace Faulty

variable {P R : Type} [Provider P R]

/-- What a request leaves, whatever its answer. -/
def left (f : Faulty P R) (request : Σ kind, Request R kind) : Faulty P R :=
  match perform request.2 f with
  | .ok _ f => f
  | .error _ f => f

/-- What requests leave of a provider, of which the latest stands first. -/
def replay (start : Faulty P R) : List (Σ kind, Request R kind) → Faulty P R
  | [] => start
  | request :: earlier => (replay start earlier).left request

/-- Every request is as demanded of the provider that it was made of. -/
inductive Each (start : Faulty P R) (demand : Faulty P R → (Σ kind, Request R kind) → Prop) :
    List (Σ kind, Request R kind) → Prop
  | nil : Each start demand []
  | cons {request : Σ kind, Request R kind} {earlier : List (Σ kind, Request R kind)} :
    demand (start.replay earlier) request → Each start demand earlier → Each start demand (request :: earlier)

theorem each_cons_iff {start : Faulty P R} {demand : Faulty P R → (Σ kind, Request R kind) → Prop}
    {request : Σ kind, Request R kind} {earlier : List (Σ kind, Request R kind)} :
    start.Each demand (request :: earlier) ↔ demand (start.replay earlier) request ∧ start.Each demand earlier := by
  constructor
  · rintro (_ | ⟨demanded, before⟩)
    exact ⟨demanded, before⟩
  · exact fun both => .cons both.1 both.2

instance decidableEach (start : Faulty P R) (demand : Faulty P R → (Σ kind, Request R kind) → Prop)
    [∀ f request, Decidable (demand f request)] : (log : List (Σ kind, Request R kind)) →
    Decidable (start.Each demand log)
  | [] => isTrue .nil
  | _ :: earlier =>
    have := decidableEach start demand earlier
    decidable_of_iff _ each_cons_iff.symm

/-- There is no answer to the request. -/
def crashes (f : Faulty P R) (request : Σ kind, Request R kind) : Bool :=
  match perform request.2 f with
  | .error .crash _ => true
  | _ => false

/-- The request does not crash, and if it frees a buffer, it does not fail by plan. -/
structure Spares (f : Faulty P R) (request : Σ kind, Request R kind) : Prop where
  answered : f.crashes request = false
  unplanned : request.2.frees.isSome = true → (f.plan f.count).isNone = true

instance (f : Faulty P R) (request : Σ kind, Request R kind) : Decidable (f.Spares request) :=
  decidable_of_iff (f.crashes request = false ∧ (request.2.frees.isSome = true → (f.plan f.count).isNone = true))
    ⟨fun both => ⟨both.1, both.2⟩, fun spares => ⟨spares.answered, spares.unplanned⟩⟩

/-- If the request frees a buffer, there is such a buffer. -/
def FreesLive (f : Faulty (Machine R) R) (request : Σ kind, Request R kind) : Prop :=
  ∀ id, request.2.frees = some id → (f.device.memory.buffer? id).isSome = true

@[simp]
theorem log_left (f : Faulty P R) (request : Σ kind, Request R kind) : (f.left request).log = request :: f.log := by
  obtain ⟨kind, request⟩ := request
  unfold left perform
  cases f.plan f.count with
  | some halt => rfl
  | none =>
    dsimp only
    cases Provider.perform request f.device <;> rfl

end Faulty

namespace Guarded

variable {P R : Type} [Provider P R]

/-- A request is logged, and what it leaves of a provider that is held is what it leaves of the provider. -/
theorem post_left (g : Guarded (Faulty P R)) {kind : Kind} (request : Request R kind) :
    Post (Provider.perform request) g
      (fun _ g' => g'.device = g.device.left ⟨kind, request⟩ ∧ g'.lost = g.lost)
      fun ending g' => g'.device = g.device.left ⟨kind, request⟩ ∧
        if ending = .crash then ¬ g.device.Spares ⟨kind, request⟩ else g'.lost = g.lost := by
  obtain ⟨f, lost⟩ := g
  unfold Post
  simp only [Provider.perform, Guarded.perform, Faulty.left]
  cases done : Faulty.perform request f with
  | ok a f' => exact ⟨rfl, rfl⟩
  | error ending f' =>
    cases ending with
    | error cause => exact ⟨rfl, rfl⟩
    | crash =>
      refine ⟨rfl, fun spares => ?_⟩
      have answered := spares.answered
      rw [Faulty.crashes, done] at answered
      exact Bool.false_ne_true answered.symm

/-! ## Books of a machine behind a plan -/

variable [Scalar R] {g : Guarded (Faulty (Machine R) R)} {start : Faulty (Machine R) R} {entries : List (Nat × Nat)}

/-- Only freeing a buffer by plan fails without being in the books. -/
theorem books_perform {kind : Kind} (request : Request R kind) (h : g.machine.Books entries)
    (listed : ∀ id, request.frees = some id → id ∈ entries.map (·.1)) :
    Post (Provider.perform request) g
      (fun a g' => g'.machine.Books (request.enter entries a) ∧ request.Answered a)
      fun ending g' => ending ≠ .crash →
        g'.machine.Books entries ∧ (request.frees = none ∨ (g.device.plan g.device.count).isNone = false) := by
  refine post_perform_faulty.2 ?_
  split
  · next planned =>
    intro _
    refine ⟨h, Or.inr ?_⟩
    rw [planned]
    rfl
  · exact fun other => absurd rfl other
  · refine (Machine.books_perform request h listed).mono (fun _ _ entered => entered) fun ending d left => ?_
    cases ending with
    | error cause => exact fun other => ⟨(left other).1, Or.inl (left other).2⟩
    | crash => exact fun other => absurd rfl other

/-- Some request was not spared. -/
def Struck (start : Faulty (Machine R) R) (g : Guarded (Faulty (Machine R) R)) : Prop :=
  ¬ start.Each Faulty.Spares g.device.log

/-- The log tells the history of the machine, in which no buffer was freed that did not exist, and these are its books
now. -/
structure Recorded (start : Faulty (Machine R) R) (entries : List (Nat × Nat)) (g : Guarded (Faulty (Machine R) R)) :
    Prop where
  held : g.lost = false
  replayed : g.device = start.replay g.device.log
  freesLive : start.Each Faulty.FreesLive g.device.log
  books : g.machine.Books entries

/-- What was not spared is never forgotten. -/
theorem keeps_struck {kind : Kind} (request : Request R kind) :
    Keeps (Struck start) (Provider.perform (P := Guarded (Faulty (Machine R) R)) request) := fun g struck => by
  have after {g' : Guarded (Faulty (Machine R) R)} (left : g'.device = g.device.left ⟨kind, request⟩) :
      Struck start g' := fun spared => by
    rw [left, Faulty.log_left] at spared
    exact struck (Faulty.each_cons_iff.1 spared).2
  exact (post_left g request).mono (fun _ _ left => after left.1) fun _ _ left => after left.1

/-- A request that is not spared strikes. -/
theorem Recorded.struck (h : Recorded start entries g) {g' : Guarded (Faulty (Machine R) R)}
    {request : Σ kind, Request R kind} (left : g'.device = g.device.left request)
    (unspared : ¬ g.device.Spares request) : Struck start g' := fun spared => by
  rw [left, Faulty.log_left] at spared
  exact unspared (h.replayed ▸ (Faulty.each_cons_iff.1 spared).1)

/-- The record goes on with a request that frees nothing but what is in the books. -/
theorem Recorded.next (h : Recorded start entries g) {g' : Guarded (Faulty (Machine R) R)} {kind : Kind}
    {request : Request R kind} {entries' : List (Nat × Nat)} (left : g'.device = g.device.left ⟨kind, request⟩)
    (lost : g'.lost = g.lost) (books : g'.machine.Books entries')
    (listed : ∀ id, request.frees = some id → id ∈ entries.map (·.1)) : Recorded start entries' g' where
  held := lost.trans h.held
  replayed := by
    rw [left, Faulty.log_left]
    exact congrArg (Faulty.left · ⟨kind, request⟩) h.replayed
  freesLive := by
    rw [left, Faulty.log_left]
    refine .cons (fun id frees => ?_) h.freesLive
    have live := h.books.mem_ids_iff.1 (listed id frees)
    rw [Memory.length?, Option.isSome_map] at live
    rw [← h.replayed]
    exact live
  books := books

/-- A machine behind a plan keeps books, unless a request was not spared. -/
theorem accounting (start : Faulty (Machine R) R) :
    Accounting (Struck start) fun entries g => Struck start g ∨ Recorded start entries g where
  of_excused _ struck := Or.inl struck
  excused_of_lost held lost := by
    refine held.resolve_right fun recorded => ?_
    rw [recorded.held] at lost
    exact Bool.false_ne_true lost
  abandon struck := struck
  perm held same := held.imp_right fun recorded => { recorded with books := recorded.books.perm same }
  keeps_excused := keeps_struck
  perform {kind} request {g entries} entered listed := by
    rcases entered with struck | recorded
    · refine (keeps_struck request g struck).mono (fun _ _ struck => ⟨Or.inl struck, Or.inl struck⟩) fun _ _ struck => ?_
      split
      · exact struck
      · exact Or.inl struck
    refine ((post_left g request).and (books_perform request recorded.books listed)).mono ?_ ?_
    · rintro a g' ⟨⟨left, lost⟩, books, answered⟩
      exact ⟨Or.inr (recorded.next left lost books listed), Or.inr answered⟩
    · rintro ending g' ⟨⟨left, ended⟩, books⟩
      split at ended
      · next crash =>
        rw [if_pos (Or.inl crash)]
        exact recorded.struck left ended
      · next other =>
        obtain ⟨books, unplanned⟩ := books other
        split
        · next frees =>
          have freeing := frees.resolve_left other
          refine recorded.struck left fun spares => ?_
          rcases unplanned with none | planned
          · rw [none] at freeing
            exact Bool.false_ne_true freeing
          · exact Bool.false_ne_true (planned.symm.trans (spares.unplanned freeing))
        · exact Or.inr (recorded.next left ended books listed)

/-- Nothing was recorded of a machine that nobody used yet. -/
theorem recorded_fresh (capacity : Option Nat) (name : String) (plan : FaultPlan) :
    Recorded (.fresh (.empty capacity) name plan) [] (.fresh (.fresh (.empty capacity : Machine R) name plan)) where
  held := rfl
  replayed := rfl
  freesLive := .nil
  books := .empty capacity

end Guarded

end BinaryQuadratic.Device
