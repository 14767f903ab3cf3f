import BinaryQuadratic.Proofs.Backend.Capacity
import BinaryQuadratic.Proofs.Format.Precision

/-!
# Workers that share a device

A workshop is a device with workers that come and go, each for its own problem and with batches of its own size. Beside
it stands, for each worker, what it was asked to do since it last started from nothing (`Duty`). Whatever the order of
the calls, every worker owns its buffers, no two workers have one in common, and the books of the device list these
buffers and no others (`Manned`). So a worker meets the indices that it was given, in order, as if it were alone
(`Workshop.best_eq_serial`).
-/

namespace BinaryQuadratic

namespace Device

open Step

/-! ## Calls -/

/-- A device with its workers, each at the place of its number. The place of a worker that was dropped is empty. -/
structure Workshop (R : Type) where
  device : Guarded (Machine R)
  workers : List (Option (Worker R))

namespace Workshop

/-- What those who share the device can ask for. -/
inductive Call (R : Type) where
  | create (p : Problem R) (batch : UInt64)
  | drop (place : Nat)
  | reset (place : Nat)
  | scan (place : Nat) (span : Span)

variable {R : Type}

/-- A new device with this capacity, and nobody on it. -/
def fresh (capacity : Option Nat) : Workshop R := ⟨.fresh (.empty capacity), []⟩

/-- A step on the device. -/
def onDevice {α : Type} (step : Step DeviceError (Guarded (Machine R)) α) : Step DeviceError (Workshop R) α := fun s =>
  match step s.device with
  | .ok a device => .ok a { s with device := device }
  | .error halt device => .error halt { s with device := device }

/-- A step of the worker at this place, if there is one. -/
def onWorker (place : Nat) (step : Step DeviceError (Guarded (Machine R) × Worker R) Unit) :
    Step DeviceError (Workshop R) Unit := fun s =>
  match s.workers[place]?.join with
  | none => .ok () s
  | some worker =>
    match step (s.device, worker) with
    | .ok _ (device, worker) => .ok () ⟨device, s.workers.set place (some worker)⟩
    | .error halt (device, worker) => .error halt ⟨device, s.workers.set place (some worker)⟩

variable [Scalar R]

/-- Answers a call. -/
def perform : Call R → Step DeviceError (Workshop R) Unit
  | .create p batch => do
    let worker ← onDevice (Worker.create p.weights batch)
    modify fun s => { s with workers := s.workers ++ [some worker] }
  | .drop place => do
    match (← get).workers[place]?.join with
    | none => pure ()
    | some worker =>
      onDevice worker.discard
      modify fun s => { s with workers := s.workers.set place none }
  | .reset place => onWorker place (modify fun t => (t.1, t.2.reset))
  | .scan place span => onWorker place (Worker.scan span)

/-- Answers calls one after the other. -/
def run (calls : List (Call R)) : Step DeviceError (Workshop R) Unit := forM calls perform

end Workshop

/-! ## Duties -/

/-- What a worker is there for: its problem, the size that was asked for its batches, and the spans it was given since it
last started from nothing. -/
structure Duty (R : Type) where
  problem : Problem R
  batch : UInt64
  spans : List Span

namespace Duty

variable {R : Type} [Scalar R]

/-- Incumbent of a scan that meets the indices of the spans one by one, with the forms of their assignments. -/
def serial (d : Duty R) : Incumbent R :=
  Incumbent.empty.observeAll ((d.spans.flatMap Span.indices).map fun x => (x, d.problem.form x))

/-- Number of elements in the buffers of the worker. -/
def footprint (d : Duty R) : Nat := Device.footprint d.problem.size (Worker.batchFor d.batch).1.toNat

/-- Duties after a call. -/
def assign (duties : List (Option (Duty R))) : Workshop.Call R → List (Option (Duty R))
  | .create p batch => duties ++ [some ⟨p, batch, []⟩]
  | .drop place => duties.modify place fun _ => none
  | .reset place => duties.modify place (Option.map fun d => { d with spans := [] })
  | .scan place span => duties.modify place (Option.map fun d => { d with spans := d.spans ++ [span] })

/-- Number of elements in the buffers of all workers. -/
def demand : List (Option (Duty R)) → Nat
  | [] => 0
  | none :: duties => demand duties
  | some d :: duties => d.footprint + demand duties

omit [Scalar R] in
theorem demand_append (duties more : List (Option (Duty R))) :
    demand (duties ++ more) = demand duties + demand more := by
  induction duties with
  | nil => exact (Nat.zero_add _).symm
  | cons duty duties ih =>
    cases duty with
    | none => exact ih
    | some d => rw [List.cons_append, demand, demand, ih, Nat.add_assoc]

end Duty

namespace Workshop

variable {R : Type} [Scalar R]

/-- The duties of the workers after these calls. -/
def duties (calls : List (Call R)) : List (Option (Duty R)) := calls.foldl Duty.assign []

/-- There is room on the device for the buffers of all workers, and blocks of host memory can hold them. -/
structure Ample (capacity : Option Nat) (duties : List (Option (Duty R))) : Prop where
  room : ∀ limit, capacity = some limit → Duty.demand duties ≤ limit
  blocks : ∀ d, some d ∈ duties → Blocks R d.problem.size (Worker.batchFor d.batch).1.toNat

instance (capacity : Option Nat) (duties : List (Option (Duty R))) : Decidable (Ample capacity duties) :=
  decidable_of_iff ((∀ limit ∈ capacity, Duty.demand duties ≤ limit) ∧
      ∀ duty ∈ duties, ∀ d ∈ duty, Blocks R d.problem.size (Worker.batchFor d.batch).1.toNat)
    ⟨fun both => ⟨both.1, fun d among => both.2 _ among d rfl⟩,
      fun ample => ⟨ample.room, fun _ among d same => ample.blocks d (same ▸ among)⟩⟩

/-! ## Posts -/

/-- The worker owns its buffers, and holds what it met. -/
structure Serves (m : Memory R) (w : Worker R) (d : Duty R) : Prop where
  owns : w.Owns d.problem m
  batch : w.batch = Worker.batchFor d.batch
  holds : w.best.Holds d.problem.form (d.spans.flatMap Span.indices)

/-- A place with its worker and what this is there for, if it is not empty. -/
abbrev Place (R : Type) := Option (Worker R × Duty R)

/-- Entries of the buffers at these places. -/
def entries (places : List (Place R)) : List (Nat × Nat) := places.flatMap fun place => place.elim [] (·.1.entries)

/-- The device can be used, its books list the buffers of the workers, and every worker does its duty. -/
structure Manned (capacity : Option Nat) (places : List (Place R)) (s : Workshop R) : Prop where
  workers : s.workers = places.map (Option.map Prod.fst)
  ready : s.device.Ready
  capacity : s.device.device.capacity = capacity
  books : s.device.device.Books (entries places)
  serves : ∀ w d, some (w, d) ∈ places → Serves s.device.device.memory w d

variable {capacity : Option Nat} {places before after : List (Place R)} {place : Place R} {s : Workshop R}
  {w : Worker R} {d : Duty R}

omit [Scalar R] in
theorem entries_append (places more : List (Place R)) : entries (places ++ more) = entries places ++ entries more :=
  List.flatMap_append

omit [Scalar R] in
theorem entries_cons (place : Place R) (places : List (Place R)) :
    entries (place :: places) = place.elim [] (·.1.entries) ++ entries places := List.flatMap_cons

omit [Scalar R] in
theorem entries_singleton (w : Worker R) (d : Duty R) : entries [some (w, d)] = w.entries := List.flatMap_singleton _ _

omit [Scalar R] in
theorem mem_ids_entries (among : some (w, d) ∈ places) {id : Nat} (own : id ∈ w.buffers.ids) :
    id ∈ (entries places).map (·.1) := by
  rw [entries, List.map_flatMap]
  exact List.mem_flatMap.2 ⟨_, among, own⟩

/-- The buffers of the workers take what their duties demand. -/
theorem total_entries {m : Memory R} (serves : ∀ w d, some (w, d) ∈ places → Serves m w d) :
    total (entries places) = Duty.demand (places.map (Option.map Prod.snd)) := by
  induction places with
  | nil => rfl
  | cons place places ih =>
    have rest := ih fun w d among => serves w d (List.mem_cons_of_mem _ among)
    rw [entries_cons, total_append, rest, List.map_cons]
    cases place with
    | none => exact Nat.zero_add _
    | some post =>
      obtain ⟨w, d⟩ := post
      have own := serves w d List.mem_cons_self
      have first : total w.entries = d.footprint := by
        rw [Worker.entries, WorkerBuffers.total_entries, own.owns.size, own.batch]
        rfl
      exact congrArg (· + _) first

namespace Manned

/-- What is done to the buffers of one worker leaves the others the owners of theirs. -/
theorem serves_others (h : Manned capacity (before ++ some (w, d) :: after) s) {m : Memory R}
    (outside : Memory.SameOutside w.buffers.ids s.device.device.memory m) {v : Worker R} {e : Duty R}
    (other : some (v, e) ∈ before ++ after) : Serves m v e := by
  have nodup := h.books.nodup
  rw [entries_append, entries_cons, List.map_append, List.map_append, List.nodup_append, List.nodup_append] at nodup
  obtain ⟨-, ⟨-, -, apart⟩, apart'⟩ := nodup
  have own : Serves s.device.device.memory v e := by
    refine h.serves v e ?_
    rcases List.mem_append.1 other with left | right
    · exact List.mem_append_left _ left
    · exact List.mem_append_right _ (List.mem_cons_of_mem _ right)
  refine ⟨own.owns.of_same fun id mine => outside id fun both => ?_, own.batch, own.holds⟩
  rcases List.mem_append.1 other with left | right
  · exact apart' id (mem_ids_entries left mine) id (List.mem_append_left _ both) rfl
  · exact apart id both id (mem_ids_entries right mine) rfl

/-- One place changes, and nothing outside of the buffers of its worker. -/
theorem change (h : Manned capacity (before ++ some (w, d) :: after) s) {g : Guarded (Machine R)}
    (ready : g.Ready) (same : g.device.capacity = capacity)
    (books : g.device.Books (entries (before ++ place :: after)))
    (outside : Memory.SameOutside w.buffers.ids s.device.device.memory g.device.memory)
    (serves : ∀ v e, place = some (v, e) → Serves g.device.memory v e) :
    Manned capacity (before ++ place :: after) ⟨g, s.workers.set before.length (place.map Prod.fst)⟩ where
  workers := by
    rw [h.workers, List.map_append, List.map_append, List.map_cons, List.map_cons,
      ← List.length_map (Option.map Prod.fst), List.set_append_right _ _ (Nat.le_refl _), Nat.sub_self,
      List.set_cons_zero]
  ready := ready
  capacity := same
  books := books
  serves v e among := by
    rcases List.mem_append.1 among with left | right
    · exact h.serves_others outside (List.mem_append_left _ left)
    · rcases List.mem_cons.1 right with own | right
      · exact serves v e own.symm
      · exact h.serves_others outside (List.mem_append_right _ right)

end Manned

/-! ## Steps -/

section Steps

variable {i : Nat}

omit [Scalar R] in
theorem post_onDevice {α : Type} {step : Step DeviceError (Guarded (Machine R)) α} {ok : α → Workshop R → Prop}
    {halt : Halt DeviceError → Workshop R → Prop} :
    Post (onDevice step) s ok halt ↔
      Post step s.device (fun a g => ok a { s with device := g })
        fun ending g => halt ending { s with device := g } := by
  unfold Post onDevice
  cases step s.device <;> rfl

omit [Scalar R] in
theorem post_onWorker {step : Step DeviceError (Guarded (Machine R) × Worker R) Unit} {ok : Unit → Workshop R → Prop}
    {halt : Halt DeviceError → Workshop R → Prop} (found : s.workers[i]?.join = some w) :
    Post (onWorker i step) s ok halt ↔
      Post step (s.device, w) (fun _ t => ok () ⟨t.1, s.workers.set i (some t.2)⟩)
        fun ending t => halt ending ⟨t.1, s.workers.set i (some t.2)⟩ := by
  unfold Post onWorker
  rw [found]
  dsimp only
  cases step (s.device, w) <;> rfl

omit [Scalar R] in
theorem onWorker_of_none {step : Step DeviceError (Guarded (Machine R) × Worker R) Unit}
    (missing : s.workers[i]?.join = none) : onWorker i step s = .ok () s := by
  rw [onWorker, missing]

omit [Scalar R] in
/-- A place is empty, or it has a worker and places before and after it. -/
theorem place_cases (places : List (Place R)) (i : Nat) :
    places[i]?.join = none ∨ ∃ before w d after, places = before ++ some (w, d) :: after ∧ i = before.length := by
  cases held : places[i]? with
  | none => exact Or.inl rfl
  | some place =>
    cases place with
    | none => exact Or.inl rfl
    | some post =>
      obtain ⟨inside, same⟩ := List.getElem?_eq_some_iff.1 held
      refine Or.inr ⟨places.take i, post.1, post.2, places.drop (i + 1), ?_, ?_⟩
      · have whole := List.take_append_drop i places
        rwa [← List.getElem_cons_drop inside, same, eq_comm] at whole
      · rw [List.length_take, Nat.min_eq_left (Nat.le_of_lt inside)]

omit [Scalar R] in
/-- Duties change in the place of the worker. -/
theorem modify_append_cons (f : Option (Duty R) → Option (Duty R)) (before after : List (Place R)) (place : Place R) :
    ((before ++ place :: after).map (Option.map Prod.snd)).modify before.length f =
      before.map (Option.map Prod.snd) ++ f (place.map Prod.snd) :: after.map (Option.map Prod.snd) := by
  induction before with
  | nil => rfl
  | cons first before ih => exact congrArg (_ :: ·) ih

omit [Scalar R] in
/-- An empty place has no duties to change. -/
theorem modify_of_none {f : Option (Duty R) → Option (Duty R)} (still : f none = none)
    (missing : places[i]?.join = none) :
    (places.map (Option.map Prod.snd)).modify i f = places.map (Option.map Prod.snd) := by
  apply List.ext_getElem?
  intro j
  rw [List.getElem?_modify]
  by_cases here : i = j
  · subst here
    rw [List.getElem?_map]
    cases held : places[i]? with
    | none => rfl
    | some place =>
      rw [held] at missing
      obtain rfl : place = none := missing
      simp [still]
  · simp [here]

end Steps

/-! ## Calls keep the device manned -/

/-- The call is answered, and what the workers are there for changes as it says. -/
def Answered (capacity : Option Nat) (places : List (Place R)) (call : Call R) (s : Workshop R) : Prop :=
  ∃ places' : List (Place R), Manned capacity places' s ∧
    places'.map (Option.map Prod.snd) = Duty.assign (places.map (Option.map Prod.snd)) call

namespace Manned

variable {i : Nat}

omit [Scalar R] in
theorem worker_eq_none (workers : s.workers = places.map (Option.map Prod.fst)) (missing : places[i]?.join = none) :
    s.workers[i]?.join = none := by
  rw [workers, List.getElem?_map]
  cases held : places[i]? with
  | none => rfl
  | some place =>
    rw [held] at missing
    obtain rfl : place = none := missing
    rfl

theorem worker_eq_some (h : Manned capacity (before ++ some (w, d) :: after) s) :
    s.workers[before.length]?.join = some w := by
  rw [h.workers, List.getElem?_map, List.getElem?_append_right (Nat.le_refl _), Nat.sub_self]
  rfl

/-- There is room for one more worker. -/
theorem accommodates (h : Manned capacity places s) {d : Duty R}
    (ample : Ample capacity (places.map (Option.map Prod.snd) ++ [some d])) :
    s.device.device.Accommodates d.problem.size (Worker.batchFor d.batch).1.toNat where
  room available left := by
    obtain ⟨limit, limited, rfl⟩ := Option.map_eq_some_iff.1 left
    have enough := ample.room limit (h.capacity ▸ limited)
    rw [Duty.demand_append, ← total_entries h.serves, ← h.books.allocated] at enough
    change _ + (d.footprint + 0) ≤ _ at enough
    change d.footprint ≤ _
    omega
  blocks := ample.blocks d (by simp)

/-- A new worker takes the next place. -/
theorem create (h : Manned capacity places s) {p : Problem R} {batch : UInt64}
    (ample : Ample capacity (places.map (Option.map Prod.snd) ++ [some ⟨p, batch, []⟩])) :
    Post (perform (.create p batch)) s (fun _ s' => Answered capacity places (.create p batch) s')
      fun _ _ => False := by
  have booked := Machine.accounting.create p.weights batch (Or.inr h.books)
  rw [perform, post_bind]
  refine post_onDevice.2 (((Worker.create_spec h.ready batch).and booked).mono ?_ ?_)
  · rintro w g ⟨⟨made, rfl⟩, entered, -⟩
    have ready := (h.ready.grown (WorkerBuffers.blank R p.size (Worker.batchFor batch).1.toNat)).loaded
      (Worker.equip s.device.device.memory p (Worker.batchFor batch).1.toNat)
    refine ⟨places ++ [some (w, ⟨p, batch, []⟩)], ⟨?_, ready, h.capacity, ?_, ?_⟩, List.map_append⟩
    · rw [List.map_append, h.workers]
      rfl
    · rw [entries_append, entries_singleton]
      exact (entered.books ready).perm List.perm_append_comm
    · intro v e among
      rcases List.mem_append.1 among with old | new
      · have own := h.serves v e old
        refine ⟨own.owns.of_same fun id mine => ?_, own.batch, own.holds⟩
        exact Worker.buffer?_equip_of_lt _ _ _ (own.owns.lt_size mine)
      · cases List.mem_singleton.1 new
        subst made
        exact ⟨Worker.owns_equip _ _ _ _, rfl, Incumbent.holds_empty _⟩
  · rintro ending g ⟨⟨denied, -⟩, -⟩
    exact denied.crowded (h.accommodates ample)

/-- A worker that is dropped leaves its place empty, and nothing of it in the books. -/
theorem drop (h : Manned capacity places s) :
    Post (perform (.drop i)) s (fun _ s' => Answered capacity places (.drop i) s') fun _ _ => False := by
  rw [perform, post_bind, post_get]
  rcases place_cases places i with missing | ⟨before, w, d, after, rfl, rfl⟩
  · rw [worker_eq_none h.workers missing]
    exact ⟨places, h, (modify_of_none rfl missing).symm⟩
  · rw [h.worker_eq_some]
    have apart : (w.entries ++ (entries before ++ entries after)).Perm (entries (before ++ some (w, d) :: after)) := by
      rw [entries_append, entries_cons]
      exact List.perm_append_comm_assoc _ _ _
    have struck := Machine.accounting.discard (Or.inr (h.books.perm apart.symm))
    have limited : Unbooked (fun g : Guarded (Machine R) => g.device.capacity = capacity) (w.entries ++ []) s.device :=
      h.capacity
    have kept := (Machine.accounting_capacity capacity).discard limited
    dsimp only
    rw [post_bind]
    refine post_onDevice.2 ((((Worker.discard_spec h.ready).and struck).and kept).mono ?_ ?_)
    · rintro _ g ⟨⟨⟨ready, emptied⟩, balanced⟩, same⟩
      refine ⟨before ++ none :: after, h.change ready same ?_ (fun id outside => ?_) ?_, ?_⟩
      · rw [entries_append, entries_cons]
        exact balanced.books ready
      · rw [emptied, if_neg outside]
      · intro v e none
        cases none
      · rw [Duty.assign, modify_append_cons, List.map_append]
        rfl
    · rintro ending g ⟨⟨never, -⟩, -⟩
      exact never

/-- A worker starts from nothing. -/
theorem reset (h : Manned capacity places s) :
    Post (perform (.reset i)) s (fun _ s' => Answered capacity places (.reset i) s') fun _ _ => False := by
  rw [perform]
  rcases place_cases places i with missing | ⟨before, w, d, after, rfl, rfl⟩
  · refine post_of_eq_ok (onWorker_of_none (worker_eq_none h.workers missing)) ?_
    exact ⟨places, h, (modify_of_none rfl missing).symm⟩
  · have own := h.serves w d (List.mem_append_right _ List.mem_cons_self)
    refine (post_onWorker h.worker_eq_some).2 (post_modify.2 ?_)
    refine ⟨before ++ some (w.reset, { d with spans := [] }) :: after,
      h.change h.ready h.capacity ?_ (.refl _ _) ?_, ?_⟩
    · have books := h.books
      rw [entries_append, entries_cons] at books ⊢
      exact books
    · rintro v e same
      cases same
      exact ⟨own.owns.of_worker ⟨rfl, rfl, rfl⟩, own.batch, Incumbent.holds_empty _⟩
    · rw [Duty.assign, modify_append_cons, List.map_append]
      rfl

/-- A worker meets the indices of a span. -/
theorem scan [Scalar.Ordered R] (h : Manned capacity places s) (span : Span) :
    Post (perform (.scan i span)) s (fun _ s' => Answered capacity places (.scan i span) s') fun _ _ => False := by
  rw [perform]
  rcases place_cases places i with missing | ⟨before, w, d, after, rfl, rfl⟩
  · refine post_of_eq_ok (onWorker_of_none (worker_eq_none h.workers missing)) ?_
    exact ⟨places, h, (modify_of_none rfl missing).symm⟩
  · have own := h.serves w d (List.mem_append_right _ List.mem_cons_self)
    have scanned := Worker.scan_spec h.ready own.owns own.holds span
    have booked := Machine.accounting.keeps_scan w span (s.device, w) ⟨Or.inr h.books, rfl, rfl, rfl⟩
    refine (post_onWorker h.worker_eq_some).2 ((scanned.and booked).mono ?_ fun _ _ never => never.1)
    rintro _ ⟨g, w'⟩ ⟨⟨same, holds, m, loaded, owns, outside⟩, balanced, alike⟩
    obtain rfl : g = s.device.loaded m [] := loaded
    have ready := h.ready.loaded m
    have books := balanced.books ready
    refine ⟨before ++ some (w', { d with spans := d.spans ++ [span] }) :: after,
      h.change ready h.capacity ?_ outside ?_, ?_⟩
    · rw [entries_append, entries_cons] at books ⊢
      rw [show (some (w', _) : Place R).elim [] (·.1.entries) = w.entries from Worker.Alike.entries alike]
      exact books
    · rintro v e same'
      cases same'
      refine ⟨owns.of_worker same, same.2.1.trans own.batch, ?_⟩
      rw [List.flatMap_append, List.flatMap_singleton]
      exact holds
    · rw [Duty.assign, modify_append_cons, List.map_append]
      rfl

/-- No call fails as long as there is room for the workers it leaves. -/
theorem perform [Scalar.Ordered R] (h : Manned capacity places s) (call : Call R)
    (ample : Ample capacity (Duty.assign (places.map (Option.map Prod.snd)) call)) :
    Post (Workshop.perform call) s (fun _ s' => Answered capacity places call s') fun _ _ => False := by
  cases call with
  | create p batch => exact h.create ample
  | drop i => exact h.drop
  | reset i => exact h.reset
  | scan i span => exact h.scan span

/-- Every worker holds what it would have met alone. -/
theorem best_eq [Scalar.Ordered R] (h : Manned capacity places s) :
    s.workers.map (Option.map (·.best)) = (places.map (Option.map Prod.snd)).map (Option.map Duty.serial) := by
  rw [h.workers, List.map_map, List.map_map]
  apply List.map_congr_left
  intro place among
  cases place with
  | none => rfl
  | some post =>
    obtain ⟨w, d⟩ := post
    have serial := (Incumbent.holds_empty d.problem.form).observeAll (d.spans.flatMap Span.indices)
    exact congrArg some ((h.serves w d among).holds.unique serial)

end Manned

theorem manned_fresh (capacity : Option Nat) : Manned capacity [] (fresh capacity : Workshop R) where
  workers := rfl
  ready := ⟨rfl, rfl, rfl⟩
  capacity := rfl
  books := .empty capacity
  serves _ _ none := absurd none List.not_mem_nil

omit [Scalar R] in
theorem duties_concat (calls : List (Call R)) (call : Call R) :
    duties (calls ++ [call]) = Duty.assign (duties calls) call := by
  rw [duties, List.foldl_append]
  rfl

/-- After some of the calls, with the rest to come, the device is manned. -/
def Onward (capacity : Option Nat) (calls rest : List (Call R)) (s : Workshop R) : Prop :=
  ∃ earlier, earlier ++ rest = calls ∧
    ∃ places : List (Place R), Manned capacity places s ∧ places.map (Option.map Prod.snd) = duties earlier

theorem run_onward [Scalar.Ordered R] {calls : List (Call R)}
    (ample : ∀ earlier, earlier <+: calls → Ample capacity (duties earlier)) :
    Post (run calls) (fresh capacity) (fun _ s => Onward capacity calls [] s) fun _ _ => False := by
  refine post_forM calls (fun call rest s onward => ?_) ⟨[], rfl, [], manned_fresh capacity, rfl⟩
  obtain ⟨earlier, rfl, places, manned, same⟩ := onward
  have enough := ample (earlier ++ [call]) ⟨rest, by simp⟩
  rw [duties_concat, ← same] at enough
  refine (manned.perform call enough).mono ?_ fun _ _ never => never
  rintro _ s' ⟨places', manned', same'⟩
  exact ⟨earlier ++ [call], by simp, places', manned', by rw [duties_concat, ← same, same']⟩

/-- **Sharing makes no difference.** Workers for any problems and any sizes of batches are created and dropped on one
device, which has room for all of them at every time, and in between start from nothing and scan any spans, in any
order. Then no call fails, and every worker has the least energy and the ties, in order, of a scan that meets the
indices of its spans one by one with the quadratic forms of their assignments. It is so after every call, as whatever
led there is such a run, too. -/
theorem best_eq_serial [Scalar.Ordered R] (capacity : Option Nat) (calls : List (Call R))
    (ample : ∀ earlier, earlier <+: calls → Ample capacity (duties earlier)) :
    ∃ s : Workshop R, run calls (fresh capacity) = .ok () s ∧
      s.workers.map (Option.map (·.best)) = (duties calls).map (Option.map Duty.serial) := by
  obtain ⟨⟨⟩, s, done, earlier, all, places, manned, same⟩ := (run_onward ample).exists_ok
  rw [List.append_nil] at all
  subst all
  exact ⟨s, done, same ▸ manned.best_eq⟩

/-- The form of its only variable. -/
def lone : Problem Float := ⟨Matrix.identity Float 1, .minimize, rfl, by decide⟩

/-- It is best to set one of the two variables. -/
def rivals : Problem Float := ⟨⟨2, 2, #[-2, 3, 3, -2], rfl⟩, .minimize, rfl, by decide⟩

/-- The third worker comes when the first one has gone. No span is made of whole batches of three indices. -/
def shift : List (Call Float) :=
  [.create lone 3, .create rivals 3, .scan 0 ⟨0, 2⟩, .drop 0, .create lone 3, .scan 1 ⟨0, 4⟩, .scan 2 ⟨0, 2⟩, .reset 2,
    .scan 2 ⟨1, 2⟩]

/-- A device for thirty-two elements has room for two workers at a time. -/
theorem best_eq_serial_shift :
    (∀ earlier, earlier <+: shift → Ample (some 32) (duties earlier)) ∧
      ∃ s : Workshop Float, run shift (fresh (some 32)) = .ok () s ∧
        s.workers.map (Option.map fun w => (w.best.energy, w.best.ties.toList)) =
          [none, some (-2, [1, 2]), some (1, [1])] := by
  have every : ∀ earlier ∈ shift.inits, Ample (some 32) (duties earlier) := by decide +kernel
  have ample (earlier : List (Call Float)) (inside : earlier <+: shift) : Ample (some 32) (duties earlier) :=
    every earlier ((List.mem_inits _ _).2 inside)
  obtain ⟨s, done, best⟩ := best_eq_serial (some 32) shift ample
  have held : (s.workers.map (Option.map (·.best))).map (Option.map fun c => (c.energy, c.ties.toList)) =
      [none, some (-2, [1, 2]), some (1, [1])] := by
    rw [best]
    decide +kernel
  rw [List.map_map, Option.map_comp_map] at held
  exact ⟨ample, s, done, held⟩

end Workshop

end Device

end BinaryQuadratic
