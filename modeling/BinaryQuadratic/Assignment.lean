import BinaryQuadratic.Index
import BinaryQuadratic.Scalar

/-!
# Assignments

An assignment lists one entry per variable. Decoding an index writes out its bits from the highest used one down,
encoding reads them back as a binary number. Entries are bytes: encoding looks at the lowest bit of each, conversion to
numbers asks whether it is zero, and the two agree on assignments made of zeros and ones.
-/

namespace BinaryQuadratic

/-- Values of the variables, first variable first. -/
structure Assignment where
  entries : List UInt8
  deriving DecidableEq, Inhabited

namespace Index

/-- The assignment of `n` variables with this index. -/
def decode (x : Index) (n : Nat) : Assignment :=
  ⟨(List.range n).map fun position => if x.bit position n then 1 else 0⟩

@[simp]
theorem length_decode (x : Index) (n : Nat) : (x.decode n).entries.length = n := by
  simp [decode]

end Index

namespace Assignment

/-- The index that the lowest bits of the entries spell, the first entry being the highest. Past 64 entries the
earliest ones are shifted out. -/
def encode (a : Assignment) : Index :=
  a.entries.foldl (fun x entry => (x <<< 1) ||| (entry &&& 1).toUInt64) 0

/-- One for each entry that is not zero, zero for the others. -/
def toScalars (R : Type) [Scalar R] (a : Assignment) : List R :=
  a.entries.map fun entry => if entry = 0 then 0 else 1

/-- The entries in decimal, one after the other. -/
def text (a : Assignment) : String :=
  String.join (a.entries.map fun entry => toString entry.toNat)

@[simp]
theorem length_toScalars (R : Type) [Scalar R] (a : Assignment) :
    (a.toScalars R).length = a.entries.length := by
  simp [toScalars]

end Assignment

end BinaryQuadratic
