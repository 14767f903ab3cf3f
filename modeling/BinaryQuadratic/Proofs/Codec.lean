import Mathlib.Data.String.Basic
import BinaryQuadratic.Assignment
import BinaryQuadratic.Proofs.Format.Precision

/-!
# Indices and assignments

Decoding asks a word for one bit per variable, from the first variable on; encoding shifts the entries into a word, one
after the other. An entry counts there by its lowest bit (`Assignment.testBit_encode`), so encoding after decoding gives
the last `n` bits of a word, and decoding after encoding the lowest bits of the entries. Assignments of zeros and ones
and indices below the limit therefore stand for each other, and the order of the indices is that of the assignments,
entry by entry, and of their texts, character by character (`Index.decode_encode_ordered`).

Conversion to numbers, on the other hand, asks whether an entry is zero. The two readings of an assignment agree exactly
if no entry is even other than zero (`Assignment.toScalars_decode_encode_iff`).
-/

namespace BinaryQuadratic

namespace Index

/-! ## Bits in the order of the variables -/

/-- The bits of the variables, first variable first. -/
def bits (x : Index) (n : Nat) : List Bool := (List.range n).map fun position => x.bit position n

/-- The first variable has the highest bit, and the others those of one variable less. -/
theorem bits_succ (x : Index) (n : Nat) : x.bits (n + 1) = x.toNat.testBit n :: x.bits n := by
  rw [bits, List.range_succ_eq_map, List.map_cons, List.map_map]
  congr 1
  apply List.map_congr_left
  intro position _
  rw [Function.comp_apply, bit, bit, show n + 1 - 1 - position.succ = n - 1 - position by omega]

theorem entries_decode (x : Index) (n : Nat) :
    (x.decode n).entries = (x.bits n).map fun b => if b = true then 1 else 0 := by
  rw [decode, bits, List.map_map]
  rfl

/-- The text of a decoded assignment has one digit for each variable. -/
theorem toList_text_decode (x : Index) (n : Nat) :
    (x.decode n).text.toList = (x.bits n).map fun b => if b = true then '1' else '0' := by
  rw [Assignment.text, String.toList_join, entries_decode, List.map_map, List.flatMap_map]
  induction x.bits n with
  | nil => rfl
  | cons b rest ih =>
    rw [List.flatMap_cons, List.map_cons, ih]
    cases b <;> rfl

/-! ## Order -/

/-- Where a set bit is told from one that is not by an order, lists of bits have the order of the numbers that they
stand for. -/
theorem lex_bits_iff {α : Type} {r : α → α → Prop} {f : Bool → α} (rising : r (f false) (f true))
    (falling : ¬ r (f true) (f false)) (irreflexive : ∀ b, ¬ r (f b) (f b)) (x y : Index) (n : Nat) :
    List.Lex r ((x.bits n).map f) ((y.bits n).map f) ↔ x.toNat % 2 ^ n < y.toNat % 2 ^ n := by
  have apart : f false ≠ f true := by
    intro same
    rw [same] at rising
    exact irreflexive true rising
  induction n with
  | zero =>
    rw [Nat.pow_zero, Nat.mod_one, Nat.mod_one]
    simp [bits]
  | succ n ih =>
    have low := Nat.mod_lt x.toNat (Nat.two_pow_pos n)
    have low' := Nat.mod_lt y.toNat (Nat.two_pow_pos n)
    rw [bits_succ, bits_succ, List.map_cons, List.map_cons, Nat.mod_pow_succ, Nat.mod_pow_succ, ← Nat.toNat_testBit,
      ← Nat.toNat_testBit]
    simp only [List.cons_lex_cons_iff, ih]
    -- the highest bits decide, unless they are the same
    cases x.toNat.testBit n with
    | false =>
      cases y.toNat.testBit n with
      | false => simp [irreflexive]
      | true => simp only [rising, true_or, true_iff, Bool.toNat_false, Bool.toNat_true]; omega
    | true =>
      cases y.toNat.testBit n with
      | false =>
        simp only [falling, apart.symm, false_and, or_self, false_iff, Bool.toNat_false, Bool.toNat_true]
        omega
      | true => simp [irreflexive]

theorem lex_decode_iff {x y : Index} {n : Nat} (hx : x.toNat < 2 ^ n) (hy : y.toNat < 2 ^ n) :
    List.Lex (· < ·) (x.decode n).entries (y.decode n).entries ↔ x < y := by
  rw [entries_decode, entries_decode, lex_bits_iff (by decide) (by decide) (by decide), Nat.mod_eq_of_lt hx,
    Nat.mod_eq_of_lt hy, UInt64.lt_iff_toNat_lt]

theorem text_decode_lt_iff {x y : Index} {n : Nat} (hx : x.toNat < 2 ^ n) (hy : y.toNat < 2 ^ n) :
    (x.decode n).text < (y.decode n).text ↔ x < y := by
  rw [String.lt_iff_toList_lt, toList_text_decode, toList_text_decode]
  refine (lex_bits_iff (by decide) (by decide) (by decide) x y n).trans ?_
  rw [Nat.mod_eq_of_lt hx, Nat.mod_eq_of_lt hy, UInt64.lt_iff_toNat_lt]

end Index

/-! ## Encoding -/

namespace Assignment

/-- Shifting an entry into a word puts its lowest bit last. -/
theorem testBit_shift (x : Index) (entry : UInt8) {k : Nat} (inside : k < 64) :
    ((x <<< 1) ||| (entry &&& 1).toUInt64).toNat.testBit k =
      if k = 0 then entry.toNat.testBit 0 else x.toNat.testBit (k - 1) := by
  have lowest : (entry &&& 1).toUInt64.toNat = entry.toNat &&& 1 := by
    rw [UInt8.toNat_toUInt64, UInt8.toNat_and]
    rfl
  have shifted : (x <<< 1).toNat.testBit k = (decide (1 ≤ k) && x.toNat.testBit (k - 1)) := by
    rw [UInt64.toNat_shiftLeft, Nat.testBit_mod_two_pow, decide_eq_true inside, Bool.true_and]
    exact Nat.testBit_shiftLeft _
  rw [UInt64.toNat_or, Nat.testBit_or, shifted, lowest, Nat.testBit_and]
  cases k with
  | zero => simp
  | succ k => simp [Nat.testBit_succ]

/-- Entries that are shifted into a word push up its bits. -/
theorem testBit_foldl_shift (entries : List UInt8) (x : Index) {k : Nat} (inside : k < 64) :
    (entries.foldl (fun (x : Index) entry => (x <<< 1) ||| (entry &&& 1).toUInt64) x).toNat.testBit k =
      if k < entries.length then (entries.getD (entries.length - 1 - k) 0).toNat.testBit 0
      else x.toNat.testBit (k - entries.length) := by
  induction entries generalizing x with
  | nil => simp
  | cons entry entries ih =>
    rw [List.foldl_cons, ih, List.length_cons]
    by_cases later : k < entries.length
    · rw [if_pos later, if_pos (by omega), show entries.length + 1 - 1 - k = entries.length - 1 - k + 1 by omega,
        List.getD_cons_succ]
    · rw [if_neg later, testBit_shift x entry (by omega)]
      by_cases own : k = entries.length
      · rw [if_pos (by omega), if_pos (by omega), show entries.length + 1 - 1 - k = 0 by omega, List.getD_cons_zero]
      · rw [if_neg (by omega), if_neg (by omega), Nat.sub_sub]

/-- The bits of an index that was encoded are the lowest bits of the entries, and there are no others. -/
theorem testBit_encode (a : Assignment) {k : Nat} (inside : k < 64) :
    a.encode.toNat.testBit k =
      (decide (k < a.entries.length) && (a.entries.getD (a.entries.length - 1 - k) 0).toNat.testBit 0) := by
  rw [encode, testBit_foldl_shift a.entries 0 inside]
  split
  · next used => rw [decide_eq_true used, Bool.true_and]
  · next unused =>
    rw [decide_eq_false unused, Bool.false_and]
    exact Nat.zero_testBit _

/-- Decoding what was encoded gives the lowest bits of the entries. -/
theorem decode_encode (a : Assignment) (short : a.entries.length ≤ 64) :
    (a.encode.decode a.entries.length).entries = a.entries.map (· &&& 1) := by
  apply List.ext_getElem
  · simp
  · intro i inside inside'
    have low : i < a.entries.length := by simpa using inside'
    have lowest (entry : UInt8) : (if entry.toNat.testBit 0 = true then (1 : UInt8) else 0) = entry &&& 1 := by
      rw [← UInt8.toNat_inj, UInt8.toNat_and, Nat.testBit_zero]
      show _ = entry.toNat &&& 1
      rw [Nat.and_one_is_mod]
      split
      · next odd => exact (of_decide_eq_true odd).symm
      · next even =>
        have := of_decide_eq_false (Bool.eq_false_iff.2 even)
        show 0 = _
        omega
    simp only [Index.decode, List.getElem_map, List.getElem_range, Index.bit]
    rw [testBit_encode a (by omega), decide_eq_true (by omega), Bool.true_and,
      show a.entries.length - 1 - (a.entries.length - 1 - i) = i by omega, List.getD_eq_getElem _ _ low]
    exact lowest _

end Assignment

/-- The bits of the variables survive decoding and encoding. -/
theorem Index.encode_decode (x : Index) (n : Nat) : (x.decode n).encode.toNat = x.toNat % 2 ^ n := by
  apply Nat.eq_of_testBit_eq
  intro k
  rw [Nat.testBit_mod_two_pow]
  by_cases inside : k < 64
  · rw [Assignment.testBit_encode _ inside, Index.length_decode]
    by_cases used : k < n
    · have entry : (x.decode n).entries.getD (n - 1 - k) 0 = if x.bit (n - 1 - k) n = true then 1 else 0 := by
        rw [List.getD_eq_getElem _ _ (by rw [length_decode]; omega)]
        simp [decode]
      rw [entry, bit, show n - 1 - (n - 1 - k) = k by omega]
      cases x.toNat.testBit k <;> simp [used]
    · rw [decide_eq_false used, Bool.false_and, Bool.false_and]
  · have high (y : Index) : y.toNat.testBit k = false :=
      Nat.testBit_lt_two_pow (Nat.lt_of_lt_of_le y.toNat_lt (Nat.pow_le_pow_right (by omega) (by omega)))
    rw [high, high, Bool.and_false]

namespace Index

/-- **Indices and assignments stand for each other, in order.** For less than 64 variables: encoding what was decoded
from any word gives its last `n` bits, and decoding what was encoded gives every assignment of zeros and ones back. Of
two indices below the limit the smaller one has the assignment that comes first entry by entry, so lists of indices
ascend exactly if the texts of their assignments do, character by character. -/
theorem decode_encode_ordered (n : Nat) (small : n < 64) :
    (∀ x : Index, (x.decode n).encode.toNat = x.toNat % 2 ^ n) ∧
    (∀ a : Assignment, a.entries.length = n → (∀ entry ∈ a.entries, entry = 0 ∨ entry = 1) → a.encode.decode n = a) ∧
    (∀ x y : Index, x.toNat < 2 ^ n → y.toNat < 2 ^ n →
      (x < y ↔ List.Lex (· < ·) (x.decode n).entries (y.decode n).entries)) ∧
    ∀ xs : List Index, (∀ x ∈ xs, x.toNat < 2 ^ n) →
      (xs.Pairwise (· < ·) ↔ (xs.map fun x => (x.decode n).text).Pairwise (· < ·)) := by
  refine ⟨fun x => x.encode_decode n, ?_, fun x y hx hy => (lex_decode_iff hx hy).symm, ?_⟩
  · rintro a rfl binary
    have lowest : a.entries.map (· &&& 1) = a.entries.map id := by
      apply List.map_congr_left
      intro entry among
      rcases binary entry among with rfl | rfl <;> rfl
    have decoded := a.decode_encode (Nat.le_of_lt small)
    rw [lowest, List.map_id] at decoded
    cases a
    exact congrArg Assignment.mk decoded
  · intro xs below
    rw [List.pairwise_map]
    apply List.Pairwise.iff_of_mem
    intro x y hx hy
    exact (text_decode_lt_iff (below x hx) (below y hy)).symm

/-- With 63 variables the highest bit of a word is lost. The text of the first index comes before that of the last. -/
theorem decode_encode_ordered_widest :
    63 < 64 ∧ (maximum.decode 63).encode.toNat = 2 ^ 63 - 1 ∧
      ((0 : Index).decode 63).text < ((0x7FFFFFFFFFFFFFFF : Index).decode 63).text := by
  have small : 63 < 64 := by decide
  have below : ∀ x ∈ [(0 : Index), 0x7FFFFFFFFFFFFFFF], x.toNat < 2 ^ 63 := by simp
  have rising : (0 : Index) < 0x7FFFFFFFFFFFFFFF := by decide
  obtain ⟨encoded, -, -, texts⟩ := decode_encode_ordered 63 small
  exact ⟨small, encoded maximum, List.pairwise_pair.1 ((texts _ below).1 (List.pairwise_pair.2 rising))⟩

end Index

/-! ## Two readings of an entry -/

/-- In both precisions zero and one differ. -/
theorem Encoded.zero_ne_one {R : Type} [Scalar R] {spec : Float.Model.Format} [Encoded R spec] : (0 : R) ≠ 1 := by
  intro same
  have values := congrArg Encoded.value same
  rw [Encoded.value_zero, Encoded.value_one] at values
  cases values

namespace Assignment

variable {R : Type} [Scalar R]

/-- An entry is read alike by its lowest bit and by whether it is zero. -/
def ReadsAlike (entry : UInt8) : Prop := entry = 0 ∨ entry.toNat % 2 = 1

theorem and_one_eq_zero_iff (entry : UInt8) : entry &&& 1 = 0 ↔ entry.toNat % 2 = 0 := by
  rw [← UInt8.toNat_inj, UInt8.toNat_and]
  show entry.toNat &&& 1 = 0 ↔ _
  rw [Nat.and_one_is_mod]

theorem readsAlike_iff {entry : UInt8} : ReadsAlike entry ↔ (entry &&& 1 = 0 ↔ entry = 0) := by
  rw [and_one_eq_zero_iff]
  constructor
  · rintro (rfl | odd)
    · simp
    · constructor
      · intro even
        omega
      · rintro rfl
        rfl
  · intro same
    by_cases zero : entry = 0
    · exact .inl zero
    · have odd := mt same.1 zero
      exact .inr (by omega)

theorem toScalars_decode_encode (a : Assignment) (short : a.entries.length ≤ 64) :
    (a.encode.decode a.entries.length).toScalars R = a.entries.map fun entry => if entry &&& 1 = 0 then 0 else 1 := by
  rw [toScalars, decode_encode a short, List.map_map]
  rfl

/-- **Encoding reads the lowest bits.** For at most 63 entries, a bit of the index is set exactly if its entry is odd. So
the bits tell which entries are not zero, and the decoded assignment has the numbers of the first one, exactly if no entry
is even other than zero. -/
theorem toScalars_decode_encode_iff {spec : Float.Model.Format} [Encoded R spec] (a : Assignment)
    (short : a.entries.length ≤ 63) :
    (∀ (i : Nat) (inside : i < a.entries.length),
      a.encode.toNat.testBit (a.entries.length - 1 - i) = true ↔ a.entries[i].toNat % 2 = 1) ∧
    ((∀ (i : Nat) (inside : i < a.entries.length),
      a.encode.toNat.testBit (a.entries.length - 1 - i) = true ↔ a.entries[i] ≠ 0) ↔
        ∀ entry ∈ a.entries, ReadsAlike entry) ∧
    ((a.encode.decode a.entries.length).toScalars R = a.toScalars R ↔ ∀ entry ∈ a.entries, ReadsAlike entry) := by
  have odd (i : Nat) (inside : i < a.entries.length) :
      a.encode.toNat.testBit (a.entries.length - 1 - i) = true ↔ a.entries[i].toNat % 2 = 1 := by
    rw [testBit_encode a (by omega), decide_eq_true (by omega), Bool.true_and,
      show a.entries.length - 1 - (a.entries.length - 1 - i) = i by omega, List.getD_eq_getElem _ _ inside,
      Nat.testBit_zero, decide_eq_true_eq]
  refine ⟨odd, ?_, ?_⟩
  · rw [List.forall_mem_iff_forall_getElem]
    apply forall₂_congr
    intro i inside
    rw [odd i inside, ReadsAlike]
    by_cases zero : a.entries[i] = 0
    · simp [zero]
    · simp [zero]
  · rw [toScalars_decode_encode a (by omega), toScalars, List.map_inj_left]
    apply forall₂_congr
    intro entry _
    rw [readsAlike_iff]
    by_cases even : entry &&& 1 = 0
    · by_cases zero : entry = 0
      · simp [zero]
      · simp [even, zero, Encoded.zero_ne_one]
    · have nonzero : entry ≠ 0 := by
        rintro rfl
        exact even rfl
      simp [even, nonzero]

/-- Three is odd and reads as one in both ways. Two does not: its bit is not set. -/
theorem toScalars_decode_encode_iff_two :
    let a : Assignment := ⟨[3, 2]⟩
    a.entries.length ≤ 63 ∧ a.encode.toNat.testBit 1 = true ∧
      ((a.encode.decode 2).toScalars Float ≠ a.toScalars Float) := by
  intro a
  have short : a.entries.length ≤ 63 := by decide
  obtain ⟨odd, -, alike⟩ := toScalars_decode_encode_iff (R := Float) a short
  refine ⟨short, (odd 0 (by decide)).2 (by decide), ?_⟩
  intro same
  have two := alike.1 same 2 (by decide)
  revert two
  unfold ReadsAlike
  decide

/-- An entry that is not zero is lost when it is encoded. -/
theorem toScalars_decode_encode_ne_two :
    ((⟨[2]⟩ : Assignment).encode.decode 1).toScalars Float ≠ (⟨[2]⟩ : Assignment).toScalars Float := by
  have lost : ((⟨[2]⟩ : Assignment).encode.decode 1).entries = [0] := by decide
  rw [toScalars, toScalars, lost]
  intro same
  exact Encoded.zero_ne_one (List.cons.inj same).1

end Assignment

end BinaryQuadratic
