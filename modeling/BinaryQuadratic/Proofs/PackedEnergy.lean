import Mathlib.Algebra.BigOperators.Group.Finset.Basic
import Mathlib.Algebra.BigOperators.Ring.Finset
import Mathlib.Algebra.Field.Rat
import BinaryQuadratic.Proofs.Agreement
import BinaryQuadratic.Proofs.Format.Precision

/-!
# Energies of packed indices

The energy of an index is summed over the bits of a word that is read backwards and then emptied bit by bit. What comes
out are nested sums over the set bits, so only the bits used for the variables matter, and nothing is read past the
matrix. Where all these sums are exact, the energy is the quadratic form of the assignment
(`Matrix.packed_energy_eq_sums`).

For numbers of the two precisions the energy is also the form that is computed from the decoded assignment, to the last
bit, as long as nothing infinite or undefined meets a zero (`Matrix.packed_energy_eq_quadraticForm`).
-/

namespace BinaryQuadratic

variable {R : Type} [Scalar R] {K : Type} [CommSemiring K]

namespace Index

/-- Positions of the variables that are set among `n`, ascending. -/
def ones (x : Index) (n : Nat) : List Nat := (List.range n).filter fun position => x.bit position n

/-- Bits above those of the variables make no difference. -/
theorem ones_congr {x y : Index} {n : Nat} (same : y.toNat % 2 ^ n = x.toNat % 2 ^ n) : y.ones n = x.ones n := by
  apply List.filter_congr
  intro position inside
  have low := List.mem_range.1 inside
  have bits (z : Index) : z.bit position n = (z.toNat % 2 ^ n).testBit (n - 1 - position) := by
    rw [bit, Nat.testBit_mod_two_pow, decide_eq_true (by omega), Bool.true_and]
  rw [bits, bits, same]

/-- Value of the variable at `position`, counted from zero, as a number. -/
def entry (x : Index) (n position : Nat) : Nat := ((x.decode n).entries.getD position 0).toNat

theorem entry_eq (x : Index) {n position : Nat} (inside : position < n) :
    x.entry n position = if x.bit position n = true then 1 else 0 := by
  rw [entry, decode, List.getD_eq_getElem?_getD, List.getElem?_map, List.getElem?_range inside, Option.map_some,
    Option.getD_some]
  split <;> rfl

theorem sum_filter_range (keep : Nat → Bool) (f : Nat → K) (n : Nat) :
    (((List.range n).filter keep).map f).sum = ∑ i ∈ Finset.range n, if keep i = true then f i else 0 := by
  induction n with
  | zero => rfl
  | succ n ih =>
    rw [List.range_succ, List.filter_append, List.map_append, List.sum_append, Finset.sum_range_succ, ih]
    cases kept : keep n <;> simp [kept]

/-- A sum over the set bits is one over all variables, each term times the value of its variable. -/
theorem sum_ones (x : Index) (n : Nat) (f : Nat → K) :
    ((x.ones n).map f).sum = ∑ i ∈ Finset.range n, f i * x.entry n i := by
  rw [ones, sum_filter_range]
  apply Finset.sum_congr rfl
  intro i inside
  rw [x.entry_eq (Finset.mem_range.1 inside)]
  split <;> simp

end Index

/-! ## Exact sums -/

/-- Adding these numbers to `a`, one after the other, is exact when numbers are read by `v`. -/
def ExactSum (v : R → K) : R → List R → Prop
  | _, [] => True
  | a, b :: rest => v (a + b) = v a + v b ∧ ExactSum v (a + b) rest

instance decidableExactSum [DecidableEq K] (v : R → K) (a : R) : (values : List R) → Decidable (ExactSum v a values)
  | [] => .isTrue trivial
  | b :: rest =>
    have := decidableExactSum v (a + b) rest
    inferInstanceAs (Decidable (_ ∧ _))

theorem ExactSum.foldl_eq {v : R → K} {a : R} {values : List R} (exact : ExactSum v a values) :
    v (values.foldl (· + ·) a) = v a + (values.map v).sum := by
  induction values generalizing a with
  | nil => simp
  | cons b rest ih =>
    obtain ⟨first, others⟩ := exact
    rw [List.foldl_cons, ih others, first, List.map_cons, List.sum_cons, add_assoc]

theorem ExactSum.sum_eq {v : R → K} {values : List R} (exact : ExactSum v 0 values) (zero : v 0 = 0) :
    v (Scalar.sum values) = (values.map v).sum := by
  rw [Scalar.sum, exact.foldl_eq, zero, zero_add]

/-- The rational number that a value stands for, zero if it is not finite. -/
def Encoded.toRat {spec : Float.Model.Format} [Encoded R spec] (a : R) : ℚ :=
  match Encoded.value a with
  | .finite .positive m e _ => m * 2 ^ e
  | .finite .negative m e _ => -(m * 2 ^ e)
  | _ => 0

namespace Matrix

variable (w : Matrix R)

/-- Every sum in the energy of an index is exact. -/
structure ExactAt (v : R → K) (x : Index) : Prop where
  zero : v 0 = 0
  fields : ∀ i ∈ x.ones w.rows, ExactSum v 0 ((x.ones w.rows).map (w.weight i))
  energy : ExactSum v 0 ((x.ones w.rows).map fun i => w.field i (x.ones w.rows))

variable {w}

/-- Read by `v`, an exact energy is the quadratic form. -/
theorem ExactAt.energy_eq {v : R → K} {x : Index} (exact : w.ExactAt v x) :
    v (Scalar.sum ((x.ones w.rows).map fun i => w.field i (x.ones w.rows))) =
      ∑ i ∈ Finset.range w.rows, ∑ j ∈ Finset.range w.rows,
        v (w.weight i j) * x.entry w.rows i * x.entry w.rows j := by
  have fields : ((x.ones w.rows).map fun i => w.field i (x.ones w.rows)).map v =
      (x.ones w.rows).map fun i => ∑ j ∈ Finset.range w.rows, v (w.weight i j) * x.entry w.rows j := by
    rw [List.map_map]
    apply List.map_congr_left
    intro i selected
    rw [Function.comp_apply, field, (exact.fields i selected).sum_eq exact.zero, List.map_map, x.sum_ones]
    rfl
  rw [exact.energy.sum_eq exact.zero, fields, x.sum_ones]
  apply Finset.sum_congr rfl
  intro i _
  rw [Finset.sum_mul]
  apply Finset.sum_congr rfl
  intro j _
  exact mul_right_comm _ _ _

/-- **Energies of packed indices.** The energy of any word over a square matrix of less than 64 rows is a number: the
sum, over the variables that the word sets, of the sums of their rows over the same variables, each from zero and in
ascending order. So only the bits of the variables matter, and if all these sums are exact, the energy is the quadratic
form of the decoded assignment. -/
theorem packed_energy_eq_sums (w : Matrix R) (square : w.rows = w.cols) (small : w.rows < 64) (x : Index) :
    w.energy? x = some (Scalar.sum ((x.ones w.rows).map fun i => Scalar.sum ((x.ones w.rows).map (w.weight i)))) ∧
    (∀ y : Index, y.toNat % 2 ^ w.rows = x.toNat % 2 ^ w.rows → w.energy? y = w.energy? x) ∧
    ∀ (K : Type) [CommSemiring K] (v : R → K), w.ExactAt v x →
      (w.energy? x).map v = some (∑ i ∈ Finset.range w.rows, ∑ j ∈ Finset.range w.rows,
        v (w.weight i j) * x.entry w.rows i * x.entry w.rows j) := by
  have sums (y : Index) :
      w.energy? y = some (Scalar.sum ((y.ones w.rows).map fun i => w.field i (y.ones w.rows))) := by
    have inside (i : Nat) (selected : i ∈ y.ones w.rows) : i < w.rows :=
      List.mem_range.1 (List.mem_filter.1 selected).1
    rw [energy?, Index.selected_eq_filter y (Nat.le_of_lt small)]
    exact energyOver?_eq inside fun i selected => square ▸ inside i selected
  refine ⟨sums x, fun y same => ?_, fun K _ v exact => ?_⟩
  · rw [sums, sums, Index.ones_congr same]
  · rw [sums, Option.map_some, exact.energy_eq]

/-- Two variables, with a penalty for setting both. -/
def coupled : Matrix Float := ⟨2, 2, #[-1, 3, 3, -2], rfl⟩

/-- Index seven sets both variables, and a bit that is not used. -/
theorem packed_energy_eq_sums_coupled :
    coupled.rows = coupled.cols ∧ coupled.rows < 64 ∧ coupled.ExactAt Encoded.toRat 7 ∧
      (coupled.energy? 7).map Encoded.toRat = some 3 := by
  have exact : coupled.ExactAt Encoded.toRat 7 := ⟨by decide +kernel, by decide +kernel, by decide +kernel⟩
  obtain ⟨-, -, form⟩ := packed_energy_eq_sums coupled rfl (by decide) 7
  refine ⟨rfl, by decide, exact, ?_⟩
  rw [form ℚ Encoded.toRat exact]
  decide +kernel

end Matrix

/-! ## Agreement with the quadratic form -/

/-- A number that is neither infinite nor undefined has a zero for its product with zero. -/
theorem Encoded.isFinite_of_value {spec : Float.Model.Format} [Encoded R spec] {a : R}
    (h : (Encoded.value a).isFinite = true) : Scalar.IsFinite a := by
  have product := Encoded.bits_product a 0
  rw [Encoded.value_zero] at product
  have zero : ∃ sign, Float.Model.UnpackedFloat.mul spec (Encoded.value a) (.zero .positive) = .zero sign := by
    cases read : Encoded.value a with
    | infinity sign => rw [read] at h; cases h
    | notANumber => rw [read] at h; cases h
    | zero sign => exact ⟨_, rfl⟩
    | finite sign m e pos => exact ⟨_, rfl⟩
  obtain ⟨sign, zero⟩ := zero
  have packed : Encoded.bits (a * 0) = (Float.Model.UnpackedFloat.zero sign).pack spec := product.trans (by rw [zero])
  exact Encoded.isZero_iff.2 ⟨sign, Encoded.eq_of_bits_eq_pack packed Float.Model.UnpackedFloat.unpack_packedZero⟩

namespace Matrix

/-- **Energies to the last bit.** Over a square matrix of less than 64 rows, none of whose entries is infinite or
undefined, the energy of an index and the quadratic form of the assignment it decodes to are one and the same number,
if the sums of all rows over the selected variables, of those not selected as well, are neither infinite nor
undefined. -/
theorem packed_energy_eq_quadraticForm {spec : Float.Model.Format} [Encoded R spec] (w : Matrix R)
    (square : w.rows = w.cols) (small : w.rows < 64) (x : Index)
    (entries : ∀ a ∈ w.data, (Encoded.value a).isFinite = true)
    (sums : ∀ row < w.rows, (Encoded.value (w.field row (x.ones w.rows))).isFinite = true) :
    ∃ energy : R, w.energy? x = some energy ∧
      quadraticForm? w.data.toList w.rows ((x.decode w.rows).toScalars R) = some energy := by
  let p : Problem R := ⟨w, .minimize, square, small⟩
  have selected : x.selected w.rows = x.ones w.rows := Index.selected_eq_filter x (Nat.le_of_lt small)
  have tame : p.Tame x := by
    intro row inside
    constructor
    · intro col inside' _
      have stored := w.get?_eq inside (show col < w.cols from square ▸ inside')
      exact Encoded.isFinite_of_value (entries _ (Array.mem_of_getElem? stored))
    · intro _
      rw [Problem.field, show x.selected p.size = x.ones w.rows from selected]
      exact Encoded.isFinite_of_value (sums row inside)
  have form := p.energyOfRow?_eq x
  rw [p.form_eq_energy_of_tame tame, energyOfRow?, ← p.square] at form
  exact ⟨p.energy x, p.energy?_eq x, form⟩

/-- Index two sets the first variable only. -/
theorem packed_energy_eq_quadraticForm_coupled :
    (∀ a ∈ coupled.data, (Encoded.value a).isFinite = true) ∧
    (∀ row < coupled.rows, (Encoded.value (coupled.field row ((2 : Index).ones coupled.rows))).isFinite = true) ∧
    ∃ energy : Float, coupled.energy? 2 = some energy ∧
      quadraticForm? coupled.data.toList coupled.rows (((2 : Index).decode coupled.rows).toScalars Float) =
        some energy := by
  have entries : ∀ a ∈ coupled.data, (Encoded.value a).isFinite = true := by decide +kernel
  have sums : ∀ row < coupled.rows,
      (Encoded.value (coupled.field row ((2 : Index).ones coupled.rows))).isFinite = true := by decide +kernel
  exact ⟨entries, sums, packed_energy_eq_quadraticForm coupled rfl (by decide) 2 entries sums⟩

end Matrix

end BinaryQuadratic
