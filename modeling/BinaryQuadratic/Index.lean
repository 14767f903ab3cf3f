/-!
# Packed indices

An assignment of `n` binary variables is numbered by a 64-bit word, its index: the first variable is the highest of the
`n` bits used, so the order of indices is the order of assignments read from left to right. Bits above the `n` used
ones carry no meaning.

Words wrap around; where a search moves forward by sums and products that could pass the largest word, it uses the
saturating operations given here, which stop there instead.
-/

-- powers of naturals are those of the core library, also beside one with powers of its own
attribute [instance (20000), default_instance 20000] instPowNat

namespace BinaryQuadratic

/-- Number of an assignment, packed into a word. -/
abbrev Index := UInt64

/-- A positive word: sizes of tiles and numbers of workers. -/
abbrev Count := { k : UInt64 // 0 < k }

namespace Index

/-- The largest index. -/
def maximum : Index := 0xFFFFFFFFFFFFFFFF

/-- One past the last index of `n` variables, for `n` below 64. -/
def limit (n : Nat) : Index := 1 <<< n.toUInt64

/-- Whether the variable at `position`, counted from zero, is set among `n` variables. For `position < n ≤ 64` this is the
last bit of the word shifted down by `n - 1 - position` places (`bit_iff_shiftRight`); a word has no places for more
variables. -/
def bit (x : Index) (position n : Nat) : Bool := x.toNat.testBit (n - 1 - position)

/-- Hexadecimal form, as messages show it. -/
def text (x : Index) : String := "0x" ++ String.ofList (Nat.toDigits 16 x.toNat)

/-! ## Saturating arithmetic -/

/-- The sum, or the largest index if that is smaller. -/
def addSat (a b : Index) : Index := if a.toNat + b.toNat < 2 ^ 64 then a + b else maximum

/-- The product, or the largest index if that is smaller. -/
def mulSat (a b : Index) : Index := if a.toNat * b.toNat < 2 ^ 64 then a * b else maximum

theorem toNat_addSat (a b : Index) : (a.addSat b).toNat = min (a.toNat + b.toNat) (2 ^ 64 - 1) := by
  unfold addSat
  split
  · next h => rw [UInt64.toNat_add, Nat.mod_eq_of_lt h]; omega
  · next h => show 2 ^ 64 - 1 = _; omega

theorem toNat_mulSat (a b : Index) : (a.mulSat b).toNat = min (a.toNat * b.toNat) (2 ^ 64 - 1) := by
  unfold mulSat
  split
  · next h => rw [UInt64.toNat_mul, Nat.mod_eq_of_lt h]; omega
  · next h => show 2 ^ 64 - 1 = _; omega

theorem toNat_min (a b : Index) : (min a b).toNat = min a.toNat b.toNat := by
  show (if a ≤ b then a else b).toNat = _
  split <;> rename_i h <;> rw [UInt64.le_iff_toNat_le] at h <;> omega

theorem toNat_limit {n : Nat} (h : n < 64) : (limit n).toNat = 2 ^ n := by
  have small : n.toUInt64.toNat = n := by
    show n % 2 ^ 64 = n
    omega
  rw [limit, UInt64.toNat_shiftLeft, small, Nat.mod_eq_of_lt h]
  show 1 <<< n % 2 ^ 64 = 2 ^ n
  rw [Nat.one_shiftLeft]
  exact Nat.mod_eq_of_lt (Nat.pow_lt_pow_right (by omega) h)

theorem limit_pos (n : Nat) : 0 < limit n := by
  rw [UInt64.lt_iff_toNat_lt, limit, UInt64.toNat_shiftLeft]
  show 0 < 1 <<< (n.toUInt64.toNat % 64) % 2 ^ 64
  rw [Nat.one_shiftLeft, Nat.mod_eq_of_lt (Nat.pow_lt_pow_right (by omega) (Nat.mod_lt _ (by omega)))]
  exact Nat.two_pow_pos _

/-! ## Selected variables -/

/-- The word with its bits in the opposite order. -/
def reversed (x : Index) : Index := ⟨x.toBitVec.reverse⟩

/-- Number of bits below the lowest one that is set. -/
def trailingZeros (m : Index) : Nat := if m = 0 then 64 else (m ^^^ (m - 1)).log2.toNat

theorem toNat_pos {m : Index} (h : m ≠ 0) : 0 < m.toNat := Nat.pos_of_ne_zero fun zero => h (UInt64.toNat_inj.1 zero)

theorem toNat_sub_one {m : Index} (h : m ≠ 0) : (m - 1).toNat = m.toNat - 1 :=
  UInt64.toNat_sub_of_le _ _ (UInt64.le_iff_toNat_le.2 (toNat_pos h))

/-- Without the lowest bit that is set, a word is smaller. -/
theorem toNat_and_sub_one_lt {m : Index} (h : m ≠ 0) : (m &&& (m - 1)).toNat < m.toNat := by
  have below := Nat.and_le_right (n := m.toNat) (m := m.toNat - 1)
  have pos := toNat_pos h
  rw [UInt64.toNat_and, toNat_sub_one h]
  omega

/-- Positions of the set bits, ascending: the lowest one comes first and is cleared before going on. -/
def onesOf (m : Index) : List Nat :=
  if m = 0 then [] else trailingZeros m :: onesOf (m &&& (m - 1))
termination_by m.toNat
decreasing_by exact toNat_and_sub_one_lt ‹_›

/-- Positions of the variables that are set among `n`, at most 64, ascending. Read backwards, the last `n` bits have the
first variable for the lowest bit. -/
def selected (x : Index) (n : Nat) : List Nat :=
  onesOf (if n = 0 then 0 else x.reversed >>> (64 - n).toUInt64)

end Index

end BinaryQuadratic
