import BinaryQuadratic.Proofs.Energy
import BinaryQuadratic.Proofs.Optimum
import BinaryQuadratic.Proofs.Scalar.Ieee

/-!
# Where the two ways to an energy agree

The energy of an index leaves unselected variables out, and the quadratic form multiplies by zero there. The two are
the same number, to the last bit, if these products are zeros; a product of zero with a number that is not finite is
undefined, and so is then the whole form. So wherever the form is defined it is the energy (`form_eq_energy`), and it is
defined only where every weight and every row sum that meets a zero is finite (`tame_of_isDefined_form`).

For a whole scan this means that both ways report the same minimum and the same indices exactly if all indices that the
energies report have a form (`same_report_iff`).
-/

namespace BinaryQuadratic

open Scalar

variable {R : Type} [Scalar R] [Ieee R]

namespace Problem

variable {p : Problem R} {x : Index}

/-- Whatever the zeros of an assignment are multiplied with is finite: the weights in unselected columns, and the sums
of unselected rows. -/
def Tame (p : Problem R) (x : Index) : Prop :=
  ∀ row < p.size, (∀ col < p.size, x.bit col p.size = false → IsFinite (p.weight row col)) ∧
    (x.bit row p.size = false → IsFinite (p.field x row))

/-- A row whose weights in unselected columns are finite has its field for a product. -/
theorem product_eq_field {row : Nat} (h : ∀ col < p.size, x.bit col p.size = false → IsFinite (p.weight row col)) :
    p.product x row = p.field x row := by
  have zeros : ∀ col ∈ List.range p.size, x.bit col p.size = false →
      IsZero (p.weight row col * unit R (x.bit col p.size)) := by
    intro col hcol unset
    rw [unset]
    exact h col (List.mem_range.1 hcol) unset
  rw [product, sum_map_filter (fun col => x.bit col p.size) _ _ zeros]
  show _ = sum ((x.selected p.size).map _)
  rw [p.selected_eq_filter]
  congr 1
  apply List.map_congr_left
  intro col hcol
  rw [(List.mem_filter.1 hcol).2]
  exact Scalar.mul_one _

/-- Where all is finite the form is the energy. -/
theorem form_eq_energy_of_tame (h : p.Tame x) : p.form x = p.energy x := by
  have zeros : ∀ row ∈ List.range p.size, x.bit row p.size = false →
      IsZero (unit R (x.bit row p.size) * p.product x row) := by
    intro row hrow unset
    have inside := h row (List.mem_range.1 hrow)
    rw [unset, product_eq_field inside.1]
    show IsZero (0 * _)
    rw [Scalar.zero_mul]
    exact inside.2 unset
  rw [p.form_eq, p.energy_eq, sum_map_filter (fun row => x.bit row p.size) _ _ zeros, p.selected_eq_filter]
  congr 1
  apply List.map_congr_left
  intro row hrow
  obtain ⟨hrange, hset⟩ := List.mem_filter.1 hrow
  rw [hset, product_eq_field (h row (List.mem_range.1 hrange)).1]
  exact Scalar.one_mul _

/-- The form is defined only where all is finite. -/
theorem tame_of_isDefined_form (h : IsDefined (p.form x)) : p.Tame x := by
  intro row hrow
  rw [p.form_eq] at h
  have term := isDefined_of_mem_sum h (List.mem_map_of_mem (List.mem_range.2 hrow))
  have cols : ∀ col < p.size, x.bit col p.size = false → IsFinite (p.weight row col) := by
    intro col hcol unset
    -- every term of the row is defined, and this one is a product with zero
    have entry := isDefined_of_mem_sum (isDefined_of_mul term).2 (List.mem_map_of_mem (List.mem_range.2 hcol))
    rw [unset] at entry
    exact (Scalar.mul_zero _).resolve_right fun undefined => undefined entry
  refine ⟨cols, fun unset => ?_⟩
  rw [unset, product_eq_field cols] at term
  change IsDefined (0 * p.field x row) at term
  rw [Scalar.zero_mul] at term
  exact (Scalar.mul_zero _).resolve_right fun undefined => undefined term

/-- Where the form is defined it is the energy, to the last bit. -/
theorem form_eq_energy (h : IsDefined (p.form x)) : p.form x = p.energy x :=
  form_eq_energy_of_tame (tame_of_isDefined_form h)

theorem not_isNegativeZero_energy (p : Problem R) (x : Index) : ¬ IsNegativeZero (p.energy x) := by
  rw [p.energy_eq]
  exact not_isNegativeZero_sum _

end Problem

/-! ## Scans by partial values -/

/-- A prefix of a filtered list that passes a stricter test is a prefix of the list filtered by that test. -/
theorem take_filter_of_forall {α : Type} {keep strict : α → Bool} {xs : List α} {cap : Nat}
    (implied : ∀ x ∈ xs, strict x = true → keep x = true)
    (passed : ∀ x ∈ (xs.filter keep).take cap, strict x = true) :
    (xs.filter strict).take cap = (xs.filter keep).take cap := by
  have twice : xs.filter strict = (xs.filter keep).filter strict := by
    rw [List.filter_filter]
    apply List.filter_congr
    intro x hx
    cases h : strict x with
    | true => rw [implied x hx h]; rfl
    | false => rfl
  -- the prefix passes the stricter test as a whole
  have first : ((xs.filter keep).take cap).filter strict = (xs.filter keep).take cap := List.filter_eq_self.2 passed
  rw [twice]
  conv => lhs; rw [← List.take_append_drop cap (xs.filter keep), List.filter_append, first]
  rcases Nat.le_total cap (xs.filter keep).length with enough | few
  · have length : ((xs.filter keep).take cap).length = cap := by rw [List.length_take, Nat.min_eq_left enough]
    rw [List.take_append_of_le_length (by omega), List.take_of_length_le (by omega)]
  · rw [List.drop_of_length_le few, List.filter_nil, List.append_nil, List.take_take, Nat.min_self]

section Scans

variable {full partly : Index → R} {stop cap : Nat} {m m' : R}

theorem not_isNegativeZero_of_optimum {value : Index → R} (optimum : Optimum value stop m)
    (h : ∀ x, IsDefined (value x) → ¬ IsNegativeZero (value x)) : ¬ IsNegativeZero m := by
  rcases optimum.origin with infinite | ⟨x, -, rfl⟩
  · rw [infinite]
    exact not_isNegativeZero_infinity
  · exact h x optimum.isDefined

/-- An index at the minimum of the full values whose own value is defined gives both scans the same minimum. -/
theorem same_minimum (optimum : Optimum full stop m) (optimum' : Optimum partly stop m')
    (positive : ∀ x, ¬ IsNegativeZero (full x)) (agrees : ∀ x, IsDefined (partly x) → partly x = full x) {x : Index}
    (hx : x.toNat < stop) (reached : (full x == m) = true) (hdefined : IsDefined (partly x)) : m' = m := by
  have here : (partly x == m) = true := by
    rw [agrees x hdefined]
    exact reached
  -- each minimum is not below the other
  have least : below m m' = false := by
    rw [← below_congr_left here]
    exact optimum'.not_below x hx
  have least' : below m' m = false := by
    rcases optimum'.attained with ⟨y, hy, hvalue⟩ | ⟨-, undefined⟩
    · rw [← below_congr_left hvalue, agrees y (isDefined_of_beq hvalue).1]
      exact optimum.not_below y hy
    · exact absurd hdefined (undefined x hx)
  have same : (m' == m) = true := beq_of_not_below optimum'.isDefined optimum.isDefined least' least
  refine eq_of_beq same (not_isNegativeZero_of_optimum optimum' fun y hy => ?_)
    (not_isNegativeZero_of_optimum optimum fun y _ => positive y)
  rw [agrees y hy]
  exact positive y

/-- Scans by values that may be undefined and by the full ones report the same exactly if all that the latter reports
is defined for the former. -/
theorem same_report_iff (bound : stop ≤ 2 ^ 64) (pos : 0 < cap) (optimum : Optimum full stop m)
    (optimum' : Optimum partly stop m') (positive : ∀ x, ¬ IsNegativeZero (full x))
    (agrees : ∀ x, IsDefined (partly x) → partly x = full x) :
    (m' = m ∧ firstAt partly stop cap m' = firstAt full stop cap m) ↔
      ∀ x ∈ firstAt full stop cap m, IsDefined (partly x) := by
  constructor
  · rintro ⟨-, same⟩ x hx
    rw [← same] at hx
    exact (isDefined_of_beq (beq_of_mem_firstAt hx)).1
  · intro reported
    have minimum : m' = m := by
      rcases optimum.attained with ⟨x, hx, reached⟩ | ⟨infinite, undefined⟩
      · obtain ⟨y, hy⟩ := exists_mem_firstAt bound pos hx reached
        exact same_minimum optimum optimum' positive agrees (lt_of_mem_firstAt bound hy) (beq_of_mem_firstAt hy)
          (reported y hy)
      · rcases optimum'.attained with ⟨x, hx, reached⟩ | ⟨infinite', -⟩
        · have hdefined := (isDefined_of_beq reached).1
          exact absurd (agrees x hdefined ▸ hdefined) (undefined x hx)
        · rw [infinite, infinite']
    refine ⟨minimum, ?_⟩
    rw [minimum]
    apply take_filter_of_forall
    · intro x _ reached
      rw [← agrees x (isDefined_of_beq reached).1]
      exact reached
    · intro x hx
      rw [agrees x (reported x hx)]
      exact beq_of_mem_firstAt hx

end Scans

/-! ## Reports -/

namespace Problem

/-- All that meets a zero in the forms of these assignments is finite. -/
def TameAt (p : Problem R) (solutions : List Assignment) : Prop :=
  ∀ x : Index, x.toNat < 2 ^ p.size → x.decode p.size ∈ solutions → p.Tame x

omit [Scalar R] [Ieee R] in
theorem two_pow_size_le (p : Problem R) : 2 ^ p.size ≤ 2 ^ 64 :=
  Nat.pow_le_pow_right (by decide) (Nat.le_of_lt p.size_lt)

variable {p : Problem R} {cap : Nat} {minimum minimum' : R} {solutions solutions' : List Assignment}

/-- Assignments that are reported by their forms have forms that are defined. -/
theorem tameAt_of_reported (reported : Reported p.form p.size (2 ^ p.size) cap minimum solutions) :
    p.TameAt solutions := by
  obtain ⟨-, rfl⟩ := reported
  intro x hx hmem
  obtain ⟨y, hy, decoded⟩ := List.mem_map.1 hmem
  obtain rfl := Index.decode_injective (lt_of_mem_firstAt p.two_pow_size_le hy) hx decoded
  exact tame_of_isDefined_form (isDefined_of_beq (beq_of_mem_firstAt hy)).1

/-- What is reported by the energies and by the forms is the same exactly if the assignments that the energies report
are tame. -/
theorem same_reported_iff (pos : 0 < cap) (reported : Reported p.energy p.size (2 ^ p.size) cap minimum solutions)
    (reported' : Reported p.form p.size (2 ^ p.size) cap minimum' solutions') :
    (p.external minimum' = p.external minimum ∧ solutions' = solutions) ↔ p.TameAt solutions := by
  constructor
  · rintro ⟨-, rfl⟩
    exact tameAt_of_reported reported'
  · intro tame
    obtain ⟨optimum, rfl⟩ := reported
    obtain ⟨optimum', rfl⟩ := reported'
    have defined : ∀ x ∈ firstAt p.energy (2 ^ p.size) cap minimum, IsDefined (p.form x) := by
      intro x hx
      rw [form_eq_energy_of_tame (tame x (lt_of_mem_firstAt p.two_pow_size_le hx) (List.mem_map_of_mem hx))]
      exact (isDefined_of_beq (beq_of_mem_firstAt hx)).1
    obtain ⟨rfl, indices⟩ := (same_report_iff p.two_pow_size_le pos optimum optimum' p.not_isNegativeZero_energy
      fun x => p.form_eq_energy).2 defined
    exact ⟨rfl, by rw [indices]⟩

end Problem

end BinaryQuadratic
