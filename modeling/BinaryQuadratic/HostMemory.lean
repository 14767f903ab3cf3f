import BinaryQuadratic.Index
import BinaryQuadratic.Step

/-!
# Host memory

A list is kept in one block of host memory, and a block has fewer than `2 ^ 63` bytes. How much of it there really is
makes no difference here, but a list that no block could hold is never made: asking for one crashes.
-/

namespace BinaryQuadratic.HostMemory

/-- Bytes of a word: an address, a length or an index. -/
def wordBytes : Nat := 8

/-- Whether a block can hold this many entries of this many bytes each. -/
abbrev Fits (count bytes : Nat) : Prop := count * bytes < 2 ^ 63

/-- Makes sure of a block for this many entries, or crashes. -/
def reserve {ε σ : Type} (count bytes : Nat) : Step ε σ Unit := if Fits count bytes then pure () else Step.crash

end BinaryQuadratic.HostMemory
