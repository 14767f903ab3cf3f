import BinaryQuadratic.Assignment

/-!
# Selected variables

A word that is not zero is `2 ^ (k + 1) * q + 2 ^ k`, where `k` is its lowest set bit (`exists_lowest`). Clearing that
bit leaves the first summand, so clearing over and over visits the set bits from the lowest up (`onesOf_eq_filter`). In
the word read backwards these are the selected variables in ascending order (`selected_eq_filter`). Indices below the
limit and their assignments determine each other (`decode_injective`).
-/

namespace BinaryQuadratic.Index

/-! ## The lowest set bit -/

/-- A number that is not zero, taken apart at its lowest set bit. -/
theorem exists_lowest {m : Nat} (h : m ≠ 0) : ∃ k q, m = 2 ^ (k + 1) * q + 2 ^ k := by
  induction m using Nat.strongRecOn with
  | ind m ih =>
    rcases Nat.mod_two_eq_zero_or_one m with even | odd
    · obtain ⟨k, q, half⟩ := ih (m / 2) (by omega) (by omega)
      refine ⟨k + 1, q, ?_⟩
      rw [show m = 2 * (m / 2) by omega, half, Nat.mul_add, ← Nat.mul_assoc, ← Nat.pow_succ', ← Nat.pow_succ']
    · exact ⟨0, m / 2, by omega⟩

section Lowest

variable {k q : Nat}

/-- One less has the same bits above the lowest one, and all bits below it. -/
theorem sub_one_eq (k q : Nat) : 2 ^ (k + 1) * q + 2 ^ k - 1 = 2 ^ (k + 1) * q + (2 ^ k - 1) := by
  have := Nat.two_pow_pos k
  omega

theorem two_pow_lt_succ (k : Nat) : 2 ^ k < 2 ^ (k + 1) := Nat.pow_lt_pow_right (by omega) (by omega)

/-- Among the bits of such a number, the lowest one is set and those below it are not. -/
theorem testBit_lowest (i : Nat) :
    (2 ^ (k + 1) * q + 2 ^ k).testBit i = (decide (i = k) || (2 ^ (k + 1) * q).testBit i) := by
  rw [Nat.testBit_two_pow_mul_add _ (two_pow_lt_succ k), Nat.testBit_two_pow_mul, Nat.testBit_two_pow]
  by_cases low : i < k + 1
  · simp [low, show ¬ i ≥ k + 1 by omega, eq_comm]
  · simp [low, show i ≥ k + 1 by omega, show i ≠ k by omega]

theorem testBit_sub_one (i : Nat) :
    (2 ^ (k + 1) * q + 2 ^ k - 1).testBit i = (decide (i < k) || (2 ^ (k + 1) * q).testBit i) := by
  have small : 2 ^ k - 1 < 2 ^ (k + 1) := Nat.lt_of_le_of_lt (Nat.sub_le _ _) (two_pow_lt_succ k)
  rw [sub_one_eq, Nat.testBit_two_pow_mul_add _ small, Nat.testBit_two_pow_mul, Nat.testBit_two_pow_sub_one]
  by_cases low : i < k + 1
  · simp [low, show ¬ i ≥ k + 1 by omega]
  · simp [low, show i ≥ k + 1 by omega, show ¬ i < k by omega]

theorem testBit_low (h : i ≤ k) : (2 ^ (k + 1) * q).testBit i = false := by
  rw [Nat.testBit_two_pow_mul]
  simp [show ¬ i ≥ k + 1 by omega]

/-- Clearing the lowest set bit. -/
theorem and_sub_one_eq : (2 ^ (k + 1) * q + 2 ^ k) &&& (2 ^ (k + 1) * q + 2 ^ k - 1) = 2 ^ (k + 1) * q := by
  apply Nat.eq_of_testBit_eq
  intro i
  rw [Nat.testBit_and, testBit_lowest, testBit_sub_one]
  by_cases own : i = k
  · simp [own, testBit_low]
  · cases (2 ^ (k + 1) * q).testBit i <;> simp [own]

/-- The lowest set bit and those below it. -/
theorem xor_sub_one_eq : (2 ^ (k + 1) * q + 2 ^ k) ^^^ (2 ^ (k + 1) * q + 2 ^ k - 1) = 2 ^ (k + 1) - 1 := by
  apply Nat.eq_of_testBit_eq
  intro i
  rw [Nat.testBit_xor, testBit_lowest, testBit_sub_one, Nat.testBit_two_pow_sub_one]
  by_cases low : i < k + 1
  · by_cases own : i = k
    · simp [own, testBit_low]
    · simp [own, testBit_low (i := i) (k := k) (by omega), low, show i < k by omega]
  · simp [low, show ¬ i = k by omega, show ¬ i < k by omega]

variable {m : Index}

theorem toNat_and_sub_one (nonzero : m ≠ 0) (h : m.toNat = 2 ^ (k + 1) * q + 2 ^ k) :
    (m &&& (m - 1)).toNat = 2 ^ (k + 1) * q := by
  rw [UInt64.toNat_and, toNat_sub_one nonzero, h, and_sub_one_eq]

theorem trailingZeros_eq (nonzero : m ≠ 0) (h : m.toNat = 2 ^ (k + 1) * q + 2 ^ k) : trailingZeros m = k := by
  have pos := Nat.two_pow_pos k
  have double : 2 ^ (k + 1) = 2 ^ k * 2 := Nat.pow_succ 2 k
  have log : (m ^^^ (m - 1)).log2.toNat = (m ^^^ (m - 1)).toNat.log2 := rfl
  rw [trailingZeros, if_neg nonzero, log, UInt64.toNat_xor, toNat_sub_one nonzero, h, xor_sub_one_eq,
    Nat.log2_eq_iff (by omega)]
  omega

end Lowest

/-! ## Set bits in order -/

/-- The lowest set bit comes before the other ones. -/
theorem filter_testBit_lowest {k q n : Nat} (h : k < n) :
    (List.range n).filter (2 ^ (k + 1) * q + 2 ^ k).testBit = k :: (List.range n).filter (2 ^ (k + 1) * q).testBit := by
  have parts : List.range n = List.range k ++ k :: List.range' (k + 1) (n - (k + 1)) := by
    rw [List.range_eq_range', List.range_eq_range', ← List.range'_succ, show n - (k + 1) + 1 = n - k by omega]
    have whole := List.range'_append_1 (s := 0) (m := k) (n := n - k)
    rw [Nat.zero_add, show k + (n - k) = n by omega] at whole
    exact whole.symm
  have before (p : Nat → Bool) (none : ∀ i < k, p i = false) : (List.range k).filter p = [] := by
    rw [List.filter_eq_nil_iff]
    intro i low
    rw [none i (List.mem_range.1 low)]
    exact Bool.false_ne_true
  have isSet : (2 ^ (k + 1) * q + 2 ^ k).testBit k = true := by rw [testBit_lowest]; simp
  have unset : ¬ (2 ^ (k + 1) * q).testBit k = true := by rw [testBit_low (Nat.le_refl k)]; exact Bool.false_ne_true
  rw [parts, List.filter_append, List.filter_append, before, before, List.nil_append, List.nil_append,
    List.filter_cons_of_pos isSet, List.filter_cons_of_neg unset]
  · congr 1
    apply List.filter_congr
    intro i above
    have far := List.mem_range'_1.1 above
    rw [testBit_lowest, decide_eq_false (by omega), Bool.false_or]
  · exact fun i low => testBit_low (by omega)
  · intro i low
    rw [testBit_lowest, testBit_low (by omega), decide_eq_false (by omega), Bool.or_self]

theorem onesOf_eq_filter (m : Index) : onesOf m = (List.range 64).filter m.toNat.testBit := by
  fun_induction onesOf m with
  | case1 => simp
  | case2 m nonzero ih =>
    obtain ⟨k, q, lowest⟩ := exists_lowest (m := m.toNat) fun zero => nonzero (UInt64.toNat_inj.1 zero)
    have inside : k < 64 := by
      have bound := m.toNat_lt
      exact (Nat.pow_lt_pow_iff_right (a := 2) (by omega)).1 (by omega)
    rw [ih, trailingZeros_eq nonzero lowest, toNat_and_sub_one nonzero lowest, lowest, filter_testBit_lowest inside]

theorem testBit_reversed (x : Index) (i : Nat) :
    x.reversed.toNat.testBit i = (decide (i < 64) && x.toNat.testBit (63 - i)) := by
  have reads : x.toBitVec.reverse.getLsbD i = (decide (i < 64) && x.toBitVec.getLsbD (63 - i)) := by
    rw [BitVec.getLsbD_reverse, BitVec.getMsbD_eq_getLsbD]
  exact reads

/-- The last `n` bits, read backwards. -/
theorem testBit_selected (x : Index) {n : Nat} (h : n ≤ 64) (i : Nat) :
    (if n = 0 then 0 else x.reversed >>> (64 - n).toUInt64).toNat.testBit i = (decide (i < n) && x.bit i n) := by
  by_cases none : n = 0
  · simp [none]
  · have small : (64 - n).toUInt64.toNat % 64 = 64 - n := by
      show (64 - n) % 2 ^ 64 % 64 = 64 - n
      omega
    rw [if_neg none, UInt64.toNat_shiftRight, small, Nat.testBit_shiftRight, testBit_reversed, bit]
    by_cases low : i < n
    · rw [decide_eq_true (by omega), decide_eq_true low, show 63 - (64 - n + i) = n - 1 - i by omega]
    · rw [decide_eq_false (by omega), decide_eq_false low, Bool.false_and, Bool.false_and]

/-- The selected variables are those whose bit is set. -/
theorem selected_eq_filter (x : Index) {n : Nat} (h : n ≤ 64) :
    x.selected n = (List.range n).filter fun position => x.bit position n := by
  have parts := List.range'_append_1 (s := 0) (m := n) (n := 64 - n)
  rw [show n + (64 - n) = 64 by omega, Nat.zero_add, ← List.range_eq_range', ← List.range_eq_range'] at parts
  have beyond : (List.range' n (64 - n)).filter (fun i => decide (i < n) && x.bit i n) = [] := by
    rw [List.filter_eq_nil_iff]
    intro i above
    have far := (List.mem_range'_1.1 above).1
    rw [decide_eq_false (by omega), Bool.false_and]
    exact Bool.false_ne_true
  rw [selected, onesOf_eq_filter, funext (x.testBit_selected h), ← parts, List.filter_append, beyond, List.append_nil]
  apply List.filter_congr
  intro i inside
  rw [decide_eq_true (List.mem_range.1 inside), Bool.true_and]

/-! ## Bits and assignments -/

/-- The bit of a variable is the last one of the word shifted down. -/
theorem bit_iff_shiftRight {position n : Nat} (small : n ≤ 64) (x : Index) :
    x.bit position n = true ↔ (x >>> (n - 1 - position).toUInt64) &&& 1 ≠ 0 := by
  have places : (n - 1 - position).toUInt64.toNat % 64 = n - 1 - position := by
    show (n - 1 - position) % 2 ^ 64 % 64 = n - 1 - position
    omega
  have last : ((x >>> (n - 1 - position).toUInt64) &&& 1).toNat = x.toNat >>> (n - 1 - position) &&& 1 := by
    rw [UInt64.toNat_and, UInt64.toNat_shiftRight, places]
    rfl
  rw [bit, Nat.testBit, Nat.and_comm, ← last, bne_iff_ne, ne_eq, ne_eq, ← UInt64.toNat_inj]
  rfl

/-- Indices below the limit differ in their assignments. -/
theorem decode_injective {n : Nat} {x y : Index} (hx : x.toNat < 2 ^ n) (hy : y.toNat < 2 ^ n)
    (h : x.decode n = y.decode n) : x = y := by
  rw [decode, decode, Assignment.mk.injEq] at h
  apply UInt64.toNat_inj.1
  apply Nat.eq_of_testBit_eq
  intro i
  by_cases used : i < n
  · have entries : (if x.bit (n - 1 - i) n then (1 : UInt8) else 0) = if y.bit (n - 1 - i) n then 1 else 0 :=
      List.map_inj_left.1 h (n - 1 - i) (List.mem_range.2 (by omega))
    rw [bit, bit, show n - 1 - (n - 1 - i) = i by omega] at entries
    generalize x.toNat.testBit i = a at entries ⊢
    generalize y.toNat.testBit i = b at entries ⊢
    revert a b
    decide
  · -- bits past the last variable are not set
    have above : 2 ^ n ≤ 2 ^ i := Nat.pow_le_pow_right (by omega) (by omega)
    rw [Nat.testBit_lt_two_pow (Nat.lt_of_lt_of_le hx above), Nat.testBit_lt_two_pow (Nat.lt_of_lt_of_le hy above)]

/-- So do lists of them. -/
theorem eq_of_map_decode {n : Nat} {xs ys : List Index} (hxs : ∀ x ∈ xs, x.toNat < 2 ^ n)
    (hys : ∀ y ∈ ys, y.toNat < 2 ^ n) (h : xs.map (·.decode n) = ys.map (·.decode n)) : xs = ys := by
  induction xs generalizing ys with
  | nil => exact (List.map_eq_nil_iff.1 h.symm).symm
  | cons x xs ih =>
    cases ys with
    | nil => exact absurd h (by simp)
    | cons y ys =>
      rw [List.forall_mem_cons] at hxs hys
      rw [List.map_cons, List.map_cons, List.cons.injEq] at h
      rw [decode_injective hxs.1 hys.1 h.1, ih hxs.2 hys.2 h.2]

end BinaryQuadratic.Index
