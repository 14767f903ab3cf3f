import BinaryQuadratic.Problem
import BinaryQuadratic.Proofs.Matrix

/-!
# Which weights can be posed

A problem is posed if its weights are square, equal to their transpose, and few enough (`Matrix.Admissible`), and is
refused for the first of these that they are not (`Matrix.Refused`). Where the weights differ from their transpose is
told by the first such place above the diagonal, row by row: the places are searched in this order
(`Matrix.pairwise_upperPlaces`), so what is found stands before all others. The problem that is posed stores the weights,
with their signs changed if they are to be maximised, and shows energies with the signs that they had
(`Problem.Represents`); there is one such problem only, and it is the one posed (`Problem.pose_eq_ok_iff`).
-/

namespace BinaryQuadratic

variable {R : Type} [Scalar R]

namespace Matrix

variable {w : Matrix R} {n row col : Nat}

/-! ## Places above the diagonal -/

/-- A place stands before another one, row by row. -/
abbrev Before : Nat × Nat → Nat × Nat → Prop := Prod.Lex (· < ·) (· < ·)

theorem Before.asymm {place other : Nat × Nat} (h : Before place other) : ¬ Before other place := by
  rw [Before, Prod.lex_def] at *
  omega

theorem mem_upperPlaces : (row, col) ∈ upperPlaces n ↔ row < col ∧ col < n := by
  simp only [upperPlaces, List.mem_flatMap, List.mem_range, List.mem_map, List.mem_range'_1, Prod.mk.injEq]
  constructor
  · rintro ⟨row', inside, col', within, rfl, rfl⟩
    omega
  · intro above
    exact ⟨row, by omega, col, by omega, rfl, rfl⟩

theorem pairwise_upperPlaces (n : Nat) : (upperPlaces n).Pairwise Before := by
  rw [upperPlaces, List.pairwise_flatMap]
  constructor
  · -- within a row the columns ascend
    intro row _
    rw [List.pairwise_map]
    exact (List.pairwise_lt_range' 1).imp fun ascending => .right _ ascending
  · apply List.pairwise_lt_range.imp
    intro row row' ascending place among place' among'
    obtain ⟨_, _, rfl⟩ := List.mem_map.1 among
    obtain ⟨_, _, rfl⟩ := List.mem_map.1 among'
    exact .left _ _ ascending

/-- In a list whose places stand in order, the first one with a property stands before all others that have it. -/
theorem before_of_find?_eq_some {places : List (Nat × Nat)} (sorted : places.Pairwise Before) {p : Nat × Nat → Bool}
    {place : Nat × Nat} (found : places.find? p = some place) :
    place ∈ places ∧ p place = true ∧ ∀ other ∈ places, p other = true → other = place ∨ Before place other := by
  obtain ⟨holds, before, after, rfl, skipped⟩ := List.find?_eq_some_iff_append.1 found
  refine ⟨by simp, holds, fun other among holds' => ?_⟩
  rcases List.mem_append.1 among with early | late
  · have fails := skipped other early
    rw [holds'] at fails
    cases fails
  · rcases List.mem_cons.1 late with same | later
    · exact .inl same
    · exact .inr ((List.pairwise_cons.1 (List.pairwise_append.1 sorted).2.1).1 other later)

/-! ## Symmetry -/

/-- Above the diagonal, the entry at this place and the one at the transposed place are not equal as numbers. -/
def DiffersAt (w : Matrix R) (place : Nat × Nat) : Prop :=
  place.1 < place.2 ∧ place.2 < w.rows ∧ (w.weight place.1 place.2 == w.weight place.2 place.1) = false

theorem differsAt_iff (square : w.rows = w.cols) {place : Nat × Nat} :
    w.DiffersAt place ↔ place ∈ upperPlaces w.rows ∧ (!w.agreesAt place) = true := by
  obtain ⟨row, col⟩ := place
  rw [mem_upperPlaces, DiffersAt, ← and_assoc]
  refine and_congr_right fun above => ?_
  rw [agreesAt, get?_eq (by omega) (by omega), get?_eq (by omega) (by omega), Bool.not_eq_true']
  rfl

theorem not_differsAt_of_asymmetry (square : w.rows = w.cols) (none : w.asymmetry = none) (place : Nat × Nat) :
    ¬ w.DiffersAt place := by
  rw [asymmetry, isSquare, if_pos (beq_iff_eq.2 square), List.find?_eq_none] at none
  intro differs
  obtain ⟨among, disagrees⟩ := (differsAt_iff square).1 differs
  exact none place among disagrees

theorem first_of_asymmetry (square : w.rows = w.cols) {place : Nat × Nat} (found : w.asymmetry = some place) :
    w.DiffersAt place ∧ ∀ other, w.DiffersAt other → other = place ∨ Before place other := by
  rw [asymmetry, isSquare, if_pos (beq_iff_eq.2 square)] at found
  obtain ⟨among, disagrees, first⟩ := before_of_find?_eq_some (pairwise_upperPlaces w.rows) found
  refine ⟨(differsAt_iff square).2 ⟨among, disagrees⟩, fun other differs => ?_⟩
  obtain ⟨among', disagrees'⟩ := (differsAt_iff square).1 differs
  exact first other among' disagrees'

/-! ## Admission -/

/-- The weights are square, equal to their transpose, and for fewer than 64 variables. -/
structure Admissible (w : Matrix R) : Prop where
  square : w.rows = w.cols
  symmetric (row col : Nat) : row < col → col < w.rows → (w.weight row col == w.weight col row) = true
  small : w.rows < 64

/-- What the weights are refused for: their shape before any place at which they differ, the first such place, and only
then their number. -/
inductive Refused (w : Matrix R) : MatrixError → Prop
  | shape (oblong : w.rows ≠ w.cols) : Refused w (.shape w.rows w.cols)
  | notSymmetric (row col : Nat) (square : w.rows = w.cols) (differs : w.DiffersAt (row, col))
    (first : ∀ place, w.DiffersAt place → place = (row, col) ∨ Before (row, col) place) :
    Refused w (.notSymmetric row col)
  | sizeLimit (square : w.rows = w.cols) (symmetric : ∀ place, ¬ w.DiffersAt place) (large : 64 ≤ w.rows) :
    Refused w (.sizeLimit w.rows)

/-- There is only one reason. -/
theorem Refused.unique {error other : MatrixError} (h : w.Refused error) (h' : w.Refused other) : error = other := by
  cases h with
  | shape oblong =>
    cases h' with
    | shape => rfl
    | notSymmetric _ _ square => exact absurd square oblong
    | sizeLimit square => exact absurd square oblong
  | notSymmetric row col square differs first =>
    cases h' with
    | shape oblong => exact absurd square oblong
    | notSymmetric row' col' _ differs' first' =>
      rcases first _ differs' with same | later
      · cases same
        rfl
      · rcases first' _ differs with same | later'
        · cases same
          rfl
        · exact absurd later' later.asymm
    | sizeLimit _ symmetric => exact absurd differs (symmetric _)
  | sizeLimit square symmetric large =>
    cases h' with
    | shape oblong => exact absurd square oblong
    | notSymmetric _ _ _ differs => exact absurd differs (symmetric _)
    | sizeLimit => rfl

theorem Refused.not_admissible {error : MatrixError} (h : w.Refused error) : ¬ w.Admissible := by
  intro admissible
  cases h with
  | shape oblong => exact oblong admissible.square
  | notSymmetric row col _ differs =>
    obtain ⟨above, inside, unequal⟩ := differs
    exact Bool.false_ne_true (unequal.symm.trans (admissible.symmetric row col above inside))
  | sizeLimit _ _ large => exact absurd admissible.small (Nat.not_lt.2 large)

/-! ## Equal weights -/

theorem weight_negated (hrow : row < w.rows) (hcol : col < w.cols) :
    w.negated.weight row col = -w.weight row col := by
  have same := w.get?_negated row col
  rw [get?_eq hrow hcol, get?_eq (w := w.negated) hrow hcol] at same
  exact Option.some.inj same

/-- Matrices are equal if they have the same dimensions and the same weight in each place. -/
theorem eq_of_weight_eq {w w' : Matrix R} (rows : w.rows = w'.rows) (cols : w.cols = w'.cols)
    (same : ∀ row col, row < w.rows → col < w.cols → w.weight row col = w'.weight row col) : w = w' := by
  obtain ⟨n, m, data, size⟩ := w
  obtain ⟨n', m', data', size'⟩ := w'
  obtain rfl : n = n' := rows
  obtain rfl : m = m' := cols
  congr 1
  refine Array.ext (size.trans size'.symm) fun k inside inside' => ?_
  -- the place with this number is in the row that it fills
  have bound : k < n * m := size ▸ inside
  have pos : 0 < m := Nat.pos_of_ne_zero fun zero => by simp [zero] at bound
  have row : k / m < n := (Nat.div_lt_iff_lt_mul pos).2 bound
  have col : k % m < m := Nat.mod_lt k pos
  have equal : (⟨n, m, data, size⟩ : Matrix R).get? (k / m) (k % m) =
      (⟨n, m, data', size'⟩ : Matrix R).get? (k / m) (k % m) := by
    rw [get?_eq row col, get?_eq row col, same _ _ row col]
  simp only [get?, Nat.div_add_mod'] at equal
  rw [Array.getElem?_eq_getElem inside, Array.getElem?_eq_getElem inside'] at equal
  exact Option.some.inj equal

end Matrix

/-- A number with the sign that weights and energies in this direction have where only the least is looked for. -/
def Direction.signed : Direction → R → R
  | .minimize, a => a
  | .maximize, a => -a

namespace Problem

variable {w : Matrix R} {direction : Direction} {p q : Problem R}

/-- The problem is that of these weights in this direction: it has each of them, with its sign changed if they are to be
maximised, and an energy is shown with its sign changed back. -/
structure Represents (p : Problem R) (w : Matrix R) (d : Direction) : Prop where
  direction : p.direction = d
  size : p.size = w.rows
  cols : p.weights.cols = w.cols
  weight (row col : Nat) : row < w.rows → col < w.cols → p.weights.weight row col = d.signed (w.weight row col)
  external (energy : R) : p.external energy = d.signed energy

/-- There is one such problem only. -/
theorem Represents.unique (h : p.Represents w direction) (h' : q.Represents w direction) : p = q := by
  have weights : p.weights = q.weights := by
    refine Matrix.eq_of_weight_eq (h.size.trans h'.size.symm) (h.cols.trans h'.cols.symm) fun row col hrow hcol => ?_
    have inside : row < w.rows := h.size ▸ hrow
    have within : col < w.cols := h.cols ▸ hcol
    rw [h.weight row col inside within, h'.weight row col inside within]
  have directions : p.direction = q.direction := h.direction.trans h'.direction.symm
  cases p
  cases q
  congr

/-- A problem is posed with weights that are admissible, and refused for what its weights are refused for. -/
theorem pose_spec (w : Matrix R) (direction : Direction) :
    match pose w direction with
    | .ok _ => w.Admissible
    | .error error => w.Refused error := by
  unfold pose
  by_cases square : w.rows = w.cols
  · rw [dif_pos square]
    cases found : w.asymmetry with
    | some place =>
      obtain ⟨differs, first⟩ := Matrix.first_of_asymmetry square found
      exact .notSymmetric place.1 place.2 square differs first
    | none =>
      have symmetric := Matrix.not_differsAt_of_asymmetry square found
      by_cases small : w.rows < 64
      · have admissible : w.Admissible := by
          refine ⟨square, fun row col above inside => ?_, small⟩
          cases equal : w.weight row col == w.weight col row with
          | true => rfl
          | false => exact absurd ⟨above, inside, equal⟩ (symmetric (row, col))
        dsimp only
        rw [dif_pos small]
        cases direction <;> exact admissible
      · dsimp only
        rw [dif_neg small]
        exact .sizeLimit square symmetric (Nat.not_lt.1 small)
  · rw [dif_neg square]
    exact .shape square

theorem exists_pose_iff : (∃ p, pose w direction = .ok p) ↔ w.Admissible := by
  have spec := pose_spec w direction
  cases posed : pose w direction with
  | ok p =>
    rw [posed] at spec
    exact iff_of_true ⟨p, rfl⟩ spec
  | error error =>
    rw [posed] at spec
    exact iff_of_false (fun posed => by cases posed.choose_spec) spec.not_admissible

theorem pose_eq_error_iff {error : MatrixError} : pose w direction = .error error ↔ w.Refused error := by
  have spec := pose_spec w direction
  cases posed : pose w direction with
  | ok p =>
    rw [posed] at spec
    exact iff_of_false (fun refused => by cases refused) fun refused => refused.not_admissible spec
  | error other =>
    rw [posed] at spec
    constructor
    · intro same
      cases same
      exact spec
    · exact fun refused => congrArg Except.error (spec.unique refused)

theorem represents_of_pose (posed : pose w direction = .ok p) : p.Represents w direction := by
  unfold pose at posed
  split at posed
  · split at posed
    · cases posed
    · split at posed
      · cases direction with
        | minimize =>
          cases posed
          exact ⟨rfl, rfl, rfl, fun _ _ _ _ => rfl, fun _ => rfl⟩
        | maximize =>
          cases posed
          exact ⟨rfl, rfl, rfl, fun _ _ hrow hcol => Matrix.weight_negated hrow hcol, fun _ => rfl⟩
      · cases posed
  · cases posed

/-- What is posed of admissible weights is their problem. -/
theorem pose_eq_ok_iff : pose w direction = .ok p ↔ w.Admissible ∧ p.Represents w direction := by
  constructor
  · exact fun posed => ⟨exists_pose_iff.1 ⟨p, posed⟩, represents_of_pose posed⟩
  · rintro ⟨admissible, represents⟩
    obtain ⟨q, posed⟩ := exists_pose_iff.2 admissible
    rw [posed, (represents_of_pose posed).unique represents]

end Problem

end BinaryQuadratic
