import BinaryQuadratic.Matrix.Energy

/-!
# Energies as sums

Inside a matrix no checked access fails, so both ways to an energy give a number: the energy over some variables is the
sum over these of their fields (`energyOver?_eq`), and the quadratic form of a row is a sum over all variables
(`energyOfRow?_eq`).
-/

namespace BinaryQuadratic

variable {R : Type} [Scalar R]

theorem foldlM_add_eq {α : Type} {f : α → Option R} {g : α → R} {xs : List α} (h : ∀ x ∈ xs, f x = some (g x)) (a : R) :
    xs.foldlM (fun sum x => (f x).map (sum + ·)) a = some ((xs.map g).foldl (· + ·) a) := by
  induction xs generalizing a with
  | nil => rfl
  | cons x xs ih =>
    rw [List.foldlM_cons, h x List.mem_cons_self, List.map_cons, List.foldl_cons]
    exact ih (fun x hx => h x (List.mem_cons_of_mem _ hx)) _

namespace Matrix

variable (w : Matrix R)

/-- The entry at this place, zero outside of the matrix. -/
def weight (row col : Nat) : R := (w.entry? row col).getD 0

/-- Sum of the entries of a row over the given columns. -/
def field (row : Nat) (cols : List Nat) : R := Scalar.sum (cols.map (w.weight row))

section

variable {w} {row col : Nat}

omit [Scalar R] in
theorem lt_size_data (hrow : row < w.rows) (hcol : col < w.cols) : row * w.cols + col < w.data.size := by
  have all := Nat.mul_le_mul_right w.cols (show row + 1 ≤ w.rows from hrow)
  rw [Nat.succ_mul] at all
  rw [w.size_data]
  omega

theorem get?_eq (hrow : row < w.rows) (hcol : col < w.cols) : w.get? row col = some (w.weight row col) := by
  rw [weight, entry?, if_pos hcol, get?, Array.getElem?_eq_getElem (lt_size_data hrow hcol)]
  rfl

theorem entry?_eq (hrow : row < w.rows) (hcol : col < w.cols) : w.entry? row col = some (w.weight row col) := by
  unfold entry?
  rw [if_pos hcol, get?_eq hrow hcol]

theorem field?_eq {cols : List Nat} (hrow : row < w.rows) (hcols : ∀ col ∈ cols, col < w.cols) :
    w.field? row cols = some (w.field row cols) :=
  foldlM_add_eq (fun col hcol => entry?_eq hrow (hcols col hcol)) 0

theorem energyOver?_eq {selected : List Nat} (hrows : ∀ i ∈ selected, i < w.rows) (hcols : ∀ i ∈ selected, i < w.cols) :
    w.energyOver? selected = some (Scalar.sum (selected.map fun row => w.field row selected)) :=
  foldlM_add_eq (fun row hrow => field?_eq (hrows row hrow) hcols) 0

end

/-! ## The quadratic form -/

/-- The row of a matrix within its data. -/
theorem take_drop_data {row : Nat} (hrow : row < w.rows) :
    (w.data.toList.drop (row * w.cols)).take w.cols = (List.range w.cols).map (w.weight row) := by
  apply List.ext_getElem?
  intro col
  by_cases inside : col < w.cols
  · rw [List.getElem?_take_of_lt inside, List.getElem?_drop, List.getElem?_map, List.getElem?_range inside,
      Array.getElem?_toList]
    exact get?_eq hrow inside
  · rw [List.getElem?_take_eq_none (by omega), List.getElem?_eq_none (by simpa using inside)]

theorem dot_map (f g : Nat → R) (cols : List Nat) :
    dot (cols.map f) (cols.map g) = Scalar.sum (cols.map fun col => f col * g col) := by
  rw [dot, List.zipWith_map, List.zipWith_self]

/-- Rows from some row on, added to an energy. -/
theorem addRows?_eq (values : Nat → R) (bits : List R) (k first : Nat) (energy : R) (h : first + k ≤ w.rows) :
    addRows? w.cols bits ((List.range' first k).map values) (w.data.toList.drop (first * w.cols)) energy =
      some (((List.range' first k).map fun row =>
        values row * dot ((List.range w.cols).map (w.weight row)) bits).foldl (· + ·) energy) := by
  induction k generalizing first energy with
  | zero => rfl
  | succ k ih =>
    have enough : ¬ (w.data.toList.drop (first * w.cols)).length < w.cols := by
      have all := Nat.mul_le_mul_right w.cols (show first + 1 ≤ w.rows by omega)
      rw [Nat.succ_mul] at all
      rw [List.length_drop, Array.length_toList, w.size_data]
      omega
    -- the first row is taken from the data, and the others start after it
    rw [List.range'_succ, List.map_cons, List.map_cons, addRows?, if_neg enough, List.drop_drop, ← Nat.succ_mul,
      w.take_drop_data (by omega), List.foldl_cons]
    exact ih (first + 1) _ (by omega)

/-- The quadratic form of a row of numbers, one for each variable. -/
theorem energyOfRow?_eq (square : w.rows = w.cols) (bit : Nat → R) :
    w.energyOfRow? ((List.range w.cols).map bit) = some (Scalar.sum ((List.range w.cols).map fun row =>
      bit row * Scalar.sum ((List.range w.cols).map fun col => w.weight row col * bit col))) := by
  have all := w.addRows?_eq bit ((List.range w.cols).map bit) w.cols 0 0 (by omega)
  rw [Nat.zero_mul, List.drop_zero, ← List.range_eq_range'] at all
  rw [energyOfRow?, quadraticForm?, List.take_of_length_le (by simp), all]
  simp only [dot_map]
  rfl

end Matrix

end BinaryQuadratic
