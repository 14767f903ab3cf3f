import BinaryQuadratic.Device.Kernel
import BinaryQuadratic.Proofs.Device.Memory
import BinaryQuadratic.Proofs.Energy
import BinaryQuadratic.Proofs.Span

/-!
# What kernels compute

A kernel whose operands fit replaces the buffers it writes, and their fronts are what it computes: the rows of the
assignments of a span, the quadratic form of each, the least of these, and the indices at a given energy.
-/

namespace BinaryQuadratic.Device

open Step

variable {R : Type} [Scalar R]

/-! ## Rows -/

theorem bitRows_eq (n rows : Nat) (start : Index) :
    bitRows n rows start = (List.range rows).flatMap fun r => ((start + r.toUInt64).decode n).toScalars R := by
  unfold bitRows
  split
  · next none =>
    -- without variables there are no rows, and each of them would be empty
    symm
    rw [List.flatMap_eq_nil_iff]
    intro r _
    apply List.eq_nil_of_length_eq_zero
    rw [Assignment.length_toScalars, Index.length_decode, none]
  · rfl

omit [Scalar R] in
theorem length_flatMap_of_length {f : Nat → List R} {n : Nat} (h : ∀ r, (f r).length = n) (xs : List Nat) :
    (xs.flatMap f).length = xs.length * n := by
  induction xs with
  | nil => rw [List.flatMap_nil, List.length_nil, List.length_nil, Nat.zero_mul]
  | cons r xs ih => rw [List.flatMap_cons, List.length_append, h, ih, List.length_cons, Nat.succ_mul, Nat.add_comm]

omit [Scalar R] in
/-- Rows of one length are found again in their concatenation. -/
theorem rowsOf_flatMap {f : Nat → List R} {n : Nat} (h : ∀ r, (f r).length = n) (xs : List Nat) :
    rowsOf n xs.length (xs.flatMap f) = xs.map f := by
  induction xs with
  | nil => rfl
  | cons r xs ih =>
    rw [List.length_cons, rowsOf, List.flatMap_cons, List.take_left' (h r), List.drop_left' (h r), ih, List.map_cons]

theorem length_row (n : Nat) (x : Index) : ((x.decode n).toScalars R).length = n := by
  rw [Assignment.length_toScalars, Index.length_decode]

theorem length_bitRows (n rows : Nat) (start : Index) : (bitRows n rows start : List R).length = rows * n := by
  rw [bitRows_eq, length_flatMap_of_length fun r => length_row n (start + r.toUInt64), List.length_range]

theorem rowsOf_bitRows (n : Nat) (s : Span) :
    rowsOf n s.size (bitRows n s.size s.start) = s.indices.map fun x => (x.decode n).toScalars R := by
  have rows := rowsOf_flatMap (fun r => length_row (R := R) n (s.start + r.toUInt64)) (List.range s.size)
  rw [List.length_range] at rows
  rw [bitRows_eq, rows, s.indices_eq_map, List.map_map]
  rfl

/-! ## Energies -/

omit [Scalar R] in
theorem mapM_eq_some {α : Type} {f : α → Option R} {g : α → R} {xs : List α} (h : ∀ x ∈ xs, f x = some (g x)) :
    xs.mapM f = some (xs.map g) := by
  induction xs with
  | nil => rfl
  | cons x xs ih =>
    rw [List.mapM_cons, h x List.mem_cons_self, ih fun x hx => h x (List.mem_cons_of_mem _ hx)]
    rfl

/-- The rows of a span have the forms of its indices for energies. -/
theorem mapM_quadraticForm? (p : Problem R) (s : Span) :
    (rowsOf p.size s.size (bitRows p.size s.size s.start)).mapM (quadraticForm? p.weights.data.toList p.size) =
      some (s.indices.map p.form) := by
  have each (x : Index) : quadraticForm? p.weights.data.toList p.size ((x.decode p.size).toScalars R) =
      some (p.form x) := by
    have own := p.energyOfRow?_eq x
    rw [Matrix.energyOfRow?, ← p.square] at own
    exact own
  rw [rowsOf_bitRows, List.mapM_map]
  exact mapM_eq_some fun x _ => each x

/-! ## Selecting -/

/-- Places counted along with the values, from some place on. -/
theorem filterMap_zipIdx (value : Index → R) (start : Index) (threshold : R) (first count : Nat) :
    (((List.range' first count).map fun k => value (start + k.toUInt64)).zipIdx first).filterMap
        (fun (value, k) => if value == threshold then some (start + k.toUInt64) else none) =
      ((List.range' first count).map fun k => start + k.toUInt64).filter fun x => value x == threshold := by
  induction count generalizing first with
  | zero => rfl
  | succ count ih =>
    rw [List.range'_succ, List.map_cons, List.map_cons, List.zipIdx_cons, List.filterMap_cons, List.filter_cons, ih]
    by_cases same : (value (start + first.toUInt64) == threshold) = true
    · simp only [same, if_true]
    · simp only [same, if_false, Bool.false_eq_true]

/-- Counting from the start of a span, the places of a value are the indices at it. -/
theorem selectedFrom_map (value : Index → R) (s : Span) (threshold : R) :
    selectedFrom (s.indices.map value) threshold s.start = s.indices.filter fun x => value x == threshold := by
  have places := filterMap_zipIdx value s.start threshold 0 s.size
  rw [← List.range_eq_range', ← s.indices_eq_map] at places
  rw [selectedFrom, s.indices_eq_map, List.map_map, ← s.indices_eq_map]
  exact places

/-! ## Running kernels -/

section Run

variable {m : Memory R} {ok : Unit → Memory R → Prop} {halt : Halt DeviceError → Memory R → Prop}

theorem post_copy {target : RealHandle} {old data : List R} (h : m.HasReals target old)
    (room : data.length ≤ old.length) :
    Post (Command.run (.copy target data)) m ok halt ↔
      ok () (m.replace target.id (.reals (Memory.overwrite old data))) := by
  rw [Command.run, post_bind, Memory.post_takeReals h room]
  rfl

theorem post_writeAssignments {out : RealHandle} {old : List R} {n : Nat} {s : Span} (h : m.HasReals out old)
    (ordered : s.start ≤ s.stop) (room : s.size * n ≤ old.length) :
    Post (Kernel.run (.writeAssignments out n s.start s.stop)) m ok halt ↔
      ok () (m.replace out.id (.reals (Memory.overwrite old (bitRows n s.size s.start)))) := by
  have forward : ¬ s.stop < s.start := UInt64.not_lt.2 ordered
  rw [Kernel.run, if_neg forward]
  show Post (Memory.takeReals out (s.size * n) >>= _) m ok halt ↔ _
  rw [post_bind, Memory.post_takeReals h room]
  rfl

theorem post_energies {weights bits out : RealHandle} {n rows : Nat} {w b old energies : List R}
    (hweights : m.HasReals weights w) (hbits : m.HasReals bits b) (hout : m.HasReals out old)
    (others : out.id ≠ weights.id ∧ out.id ≠ bits.id) (enough : n * n ≤ w.length) (enough' : rows * n ≤ b.length)
    (room : rows ≤ old.length)
    (computed : (rowsOf n rows (b.take (rows * n))).mapM (quadraticForm? (w.take (n * n)) n) = some energies) :
    Post (Kernel.run (.energies weights bits n rows out)) m ok halt ↔
      ok () (m.replace out.id (.reals (Memory.overwrite old energies))) := by
  -- the operands are read while the buffer that is written is detached
  have detached (other : RealHandle) {values : List R} (different : out.id ≠ other.id) (h : m.HasReals other values) :
      (m.remove out.id).HasReals other values := by
    rw [Memory.HasReals, Memory.buffer?_remove, if_neg different]
    exact h
  rw [Kernel.run, post_bind, Memory.post_takeReals hout room, post_bind, post_orCleanup, evaluateRows, post_bind,
    Memory.post_readReals (detached weights others.1 hweights) enough, post_bind,
    Memory.post_readReals (detached bits others.2 hbits) enough', computed]
  rfl

theorem post_reduceLeast {values out : RealHandle} {length : Nat} {v old : List R} (hvalues : m.HasReals values v)
    (hout : m.HasReals out old) (enough : length ≤ v.length) (room : 1 ≤ old.length) :
    Post (Kernel.run (.reduceLeast values length out)) m ok halt ↔
      ok () (m.replace out.id (.reals (Memory.overwrite old [Scalar.least (v.take length)]))) := by
  rw [Kernel.run, post_bind, Memory.post_readReals hvalues enough, post_bind, Memory.post_takeReals hout room]
  rfl

theorem post_select {values : RealHandle} {out count : IndexHandle} {length : Nat} {threshold : R} {base : Index}
    {v : List R} {old old' selected : List Index} (hvalues : m.HasReals values v) (hout : m.HasIndices out old)
    (hcount : m.HasIndices count old') (different : out.id ≠ count.id) (enough : length ≤ v.length)
    (computed : selectedFrom (v.take length) threshold base = selected) (room : selected.length ≤ old.length)
    (room' : 1 ≤ old'.length) :
    Post (Kernel.run (.select values length threshold base out count)) m ok halt ↔
      ok () ((m.replace out.id (.indices (Memory.overwrite old selected))).replace count.id
        (.indices (Memory.overwrite old' [selected.length.toUInt64]))) := by
  have kept : (m.replace out.id (.indices (Memory.overwrite old selected))).HasIndices count old' := by
    rw [Memory.HasIndices, Memory.buffer?_replace_of_ne hout _ different]
    exact hcount
  rw [Kernel.run, post_bind, Memory.post_readReals hvalues enough, computed, post_bind,
    Memory.post_takeIndices hout room, post_bind, Memory.putIndices, post_modify, post_bind]
  exact Memory.post_takeIndices kept room'

end Run

end BinaryQuadratic.Device
