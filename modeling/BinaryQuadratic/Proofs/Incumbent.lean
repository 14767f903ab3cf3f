import BinaryQuadratic.Proofs.Observation
import BinaryQuadratic.Proofs.Span

/-!
# What incumbents hold

An incumbent holds a list of indices, numbered by `value`, when its energy is the least value of the list and its ties
are the indices of the list at that value, in the order of the list (`Holds`). Taking in indices one by one keeps this
(`Holds.observeAll`), and so does taking in a whole batch at once when its least value is known first
(`Holds.takeBatch`). A batch that is broken off after its least value is known leaves an incumbent whose energy takes in more than was kept
(`Tracks`, `Tracks.lower`); taking in the batch once more makes up for it. What merged incumbents report is in
`BinaryQuadratic.Proofs.Optimum`.
-/

namespace BinaryQuadratic.Incumbent

open Scalar

variable {R : Type} [Scalar R] {value : Index → R}

/-- The incumbent met exactly these indices, in this order. -/
structure Holds (c : Incumbent R) (value : Index → R) (met : List Index) : Prop where
  energy : c.energy = least (met.map value)
  ties : c.ties.toList = met.filter fun x => value x == c.energy

/-- The ties are among the indices that were met, in their order, and the energy is the least of all that were seen,
which are those that were met and perhaps others. -/
structure Tracks (c : Incumbent R) (value : Index → R) (met seen : List Index) : Prop where
  within : ∀ x ∈ met, x ∈ seen
  energy : c.energy = least (seen.map value)
  ties : c.ties.toList = met.filter fun x => value x == c.energy

/-- The incumbent keeps the ties among what was met, and its energy is the least of these and perhaps of further
indices below the stop. -/
def Follows (c : Incumbent R) (value : Index → R) (stop : Nat) (met : List Index) : Prop :=
  ∃ seen : List Index, (∀ x ∈ seen, x.toNat < stop) ∧ Tracks c value met seen

theorem Follows.lt {c : Incumbent R} {met : List Index} (h : Follows c value stop met) {x : Index} (hx : x ∈ met) :
    x.toNat < stop := by
  obtain ⟨seen, below, tracks⟩ := h
  exact below x (tracks.within x hx)

theorem holds_empty (value : Index → R) : Holds (empty : Incumbent R) value [] := ⟨rfl, rfl⟩

theorem Holds.tracks {c : Incumbent R} {met : List Index} (h : Holds c value met) : Tracks c value met met :=
  ⟨fun _ among => among, h.energy, h.ties⟩

theorem follows_empty (value : Index → R) (stop : Nat) : Follows (empty : Incumbent R) value stop [] :=
  ⟨[], fun _ none => absurd none List.not_mem_nil, (holds_empty value).tracks⟩

theorem Tracks.holds {c : Incumbent R} {met : List Index} (h : Tracks c value met met) : Holds c value met :=
  ⟨h.energy, h.ties⟩

namespace Tracks

variable [Ordered R] {c : Incumbent R} {met seen : List Index}

theorem isDefined (h : Tracks c value met seen) : IsDefined c.energy := by
  rw [h.energy]
  exact isDefined_least _

theorem not_below (h : Tracks c value met seen) {x : Index} (hx : x ∈ seen) : below (value x) c.energy = false := by
  rw [h.energy]
  exact not_below_least (List.mem_map_of_mem hx)

/-- Nothing that was met reaches an energy below the incumbent's. -/
theorem filter_eq_nil (h : Tracks c value met seen) {energy : R} (low : below energy c.energy = true) :
    met.filter (fun x => value x == energy) = [] := by
  rw [List.filter_eq_nil_iff]
  intro x hx same
  have under := below_of_beq_of_below same low
  rw [h.not_below (h.within x hx)] at under
  exact Bool.false_ne_true under

/-- Moving down to the least energy of a batch: the batch was seen, but not met yet. -/
theorem lower (h : Tracks c value met seen) {batch : List Index} {energy : R}
    (least_batch : energy = least (batch.map value)) : Tracks (c.lower energy) value met (seen ++ batch) := by
  have both : least ((seen ++ batch).map value) = lesser c.energy energy := by
    rw [List.map_append, Scalar.least_append, ← h.energy, ← least_batch]
  refine ⟨fun x hx => List.mem_append_left _ (h.within x hx), ?_, ?_⟩
  · rw [both, energy_lower]
  · rw [Incumbent.lower]
    split
    · next low =>
      rw [h.filter_eq_nil low]
    · exact h.ties

/-- Taking in a batch whose least energy is known: move down to it, then keep the indices that reach it. -/
theorem takeBatch (h : Tracks c value met seen) {batch : List Index} {energy : R}
    (least_batch : energy = least (batch.map value)) :
    Tracks (c.take energy (batch.filter fun x => value x == energy)) value (met ++ batch) (seen ++ batch) := by
  have lowered := h.lower least_batch
  have within : ∀ x ∈ met ++ batch, x ∈ seen ++ batch := fun x hx =>
    (List.mem_append.1 hx).elim (fun old => List.mem_append_left _ (h.within x old)) (List.mem_append_right _)
  have reached := indicesAt_lesser h.isDefined (batch.map fun x => (x, value x))
  simp only [List.map_map, Function.comp_def, ← least_batch, indicesAt_map] at reached
  refine ⟨within, ?_, ?_⟩
  · rw [energy_take, ← energy_lower]
    exact lowered.energy
  · rw [energy_take, toList_ties_take, ← toList_ties_lower, lowered.ties, energy_lower, List.filter_append, reached]

end Tracks

namespace Holds

variable [Ordered R] {c c' : Incumbent R} {met : List Index}

omit [Ordered R] in
/-- What was met determines the incumbent. -/
theorem unique (h : Holds c value met) (h' : Holds c' value met) : c = c' := by
  have energy : c.energy = c'.energy := h.energy.trans h'.energy.symm
  apply ext_toList energy
  rw [h.ties, h'.ties, energy]

/-- Taking in a batch whose least energy is known. -/
theorem takeBatch (h : Holds c value met) {batch : List Index} {energy : R}
    (least_batch : energy = least (batch.map value)) :
    Holds (c.take energy (batch.filter fun x => value x == energy)) value (met ++ batch) :=
  (h.tracks.takeBatch least_batch).holds

/-- Taking in indices one by one. -/
theorem observeAll (h : Holds c value met) (xs : List Index) :
    Holds (c.observeAll (xs.map fun x => (x, value x))) value (met ++ xs) := by
  have lowest : least (xs.map value) = least (xs.map value) := rfl
  have taken := h.takeBatch lowest
  rw [← indicesAt_map] at taken
  rw [← take_eq_observeAll h.tracks.isDefined]
  simpa [Function.comp_def] using taken

/-- Taking in one index. -/
theorem observe (h : Holds c value met) (x : Index) : Holds (c.observe x (value x)) value (met ++ [x]) :=
  h.observeAll [x]

end Holds

end BinaryQuadratic.Incumbent
