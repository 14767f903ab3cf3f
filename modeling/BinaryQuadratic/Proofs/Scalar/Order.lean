import BinaryQuadratic.Scalar

/-!
# Order of numbers

What a search relies on when it compares numbers. The two tests, below and equal, order all numbers that are defined: a
number is defined when it equals itself, and an undefined one is neither below, above nor equal to anything. Numbers
that are equal need not be the same, as the two zeros show, but the tests do not tell them apart.

`least` is then the least of the defined numbers of a list, or infinity if there is none, and it does not matter at
which places a list is cut into parts that are reduced first (`foldl_lesser`).
-/

namespace BinaryQuadratic.Scalar

variable {R : Type} [Scalar R]

/-- The number equals itself. -/
def IsDefined (a : R) : Prop := (a == a) = true

instance (a : R) : Decidable (IsDefined a) := inferInstanceAs (Decidable (_ = true))

/-! ## Where the least of a list comes from -/

theorem lesser_eq_or (a b : R) : lesser a b = a ∨ lesser a b = b := by
  unfold lesser
  split
  · exact Or.inr rfl
  · exact Or.inl rfl

theorem foldl_lesser_eq_or_mem (a : R) (values : List R) :
    values.foldl lesser a = a ∨ values.foldl lesser a ∈ values := by
  induction values generalizing a with
  | nil => exact Or.inl rfl
  | cons value values ih =>
    rcases ih (lesser a value) with start | found
    · rcases lesser_eq_or a value with first | second
      · exact Or.inl (start.trans first)
      · exact Or.inr (List.mem_cons.2 (Or.inl (start.trans second)))
    · exact Or.inr (List.mem_cons_of_mem _ found)

/-- The least number of a list is infinity or one of the list. -/
theorem least_eq_infinity_or_mem (values : List R) : least values = infinity ∨ least values ∈ values :=
  foldl_lesser_eq_or_mem infinity values

/-! ## Laws of the tests -/

/-- The laws of the two tests. -/
class Ordered (R : Type) [Scalar R] : Prop where
  below_irrefl (a : R) : below a a = false
  below_trans {a b c : R} : below a b = true → below b c = true → below a c = true
  beq_symm {a b : R} : (a == b) = true → (b == a) = true
  beq_trans {a b c : R} : (a == b) = true → (b == c) = true → (a == c) = true
  below_of_below_of_beq {a b c : R} : below a b = true → (b == c) = true → below a c = true
  below_of_beq_of_below {a b c : R} : (a == b) = true → below b c = true → below a c = true
  isDefined_of_below {a b : R} : below a b = true → IsDefined a ∧ IsDefined b
  below_total {a b : R} : IsDefined a → IsDefined b → below a b = true ∨ (a == b) = true ∨ below b a = true
  isDefined_infinity : IsDefined (infinity : R)
  infinity_not_below (a : R) : below infinity a = false

export Ordered (below_irrefl below_trans beq_symm beq_trans below_of_below_of_beq below_of_beq_of_below
  isDefined_of_below below_total isDefined_infinity infinity_not_below)

variable [Ordered R] {a b c : R}

theorem isDefined_of_beq (h : (a == b) = true) : IsDefined a ∧ IsDefined b :=
  ⟨beq_trans h (beq_symm h), beq_trans (beq_symm h) h⟩

theorem not_below_of_below (h : below a b = true) : below b a = false := by
  rw [Bool.eq_false_iff]
  intro back
  have := below_trans h back
  rw [below_irrefl] at this
  exact Bool.false_ne_true this

theorem below_congr_left (h : (a == b) = true) : below a c = below b c :=
  Bool.eq_iff_iff.2 ⟨below_of_beq_of_below (beq_symm h), below_of_beq_of_below h⟩

theorem beq_congr_right (h : (b == c) = true) : (a == b) = (a == c) :=
  Bool.eq_iff_iff.2 ⟨fun same => beq_trans same h, fun same => beq_trans same (beq_symm h)⟩

/-- Of two defined numbers, one that is not below the other and not equal to it is above it. -/
theorem below_of_not_below (ha : IsDefined a) (hb : IsDefined b) (h : below a b = false)
    (different : ¬ (a == b) = true) : below b a = true := by
  rcases below_total ha hb with under | same | above
  · exact absurd (h.symm.trans under) Bool.false_ne_true
  · exact absurd same different
  · exact above

/-- Defined numbers of which neither is below the other are equal. -/
theorem beq_of_not_below (ha : IsDefined a) (hb : IsDefined b) (h : below a b = false) (h' : below b a = false) :
    (a == b) = true := by
  apply Decidable.byContradiction
  intro different
  exact Bool.false_ne_true (h'.symm.trans (below_of_not_below ha hb h different))

/-- Not being below is transitive among defined numbers. -/
theorem not_below_trans (middle : IsDefined b) (last : IsDefined c) (h : below a b = false)
    (h' : below b c = false) : below a c = false := by
  rw [Bool.eq_false_iff]
  intro low
  -- wherever the middle number stands, one of the hypotheses fails
  rcases below_total middle last with under | same | above
  · exact Bool.false_ne_true (h'.symm.trans under)
  · exact Bool.false_ne_true (h.symm.trans (below_of_below_of_beq low (beq_symm same)))
  · exact Bool.false_ne_true (h.symm.trans (below_trans low above))

/-- A number that is below another is below all that are not lower than that one. -/
theorem below_of_below_of_not_below (low : below a b = true) (high : below c b = false) (last : IsDefined c) :
    below a c = true := by
  rcases below_total (isDefined_of_below low).1 last with under | same | above
  · exact under
  · exact absurd (high.symm.trans (below_of_beq_of_below (beq_symm same) low)) Bool.false_ne_true
  · exact absurd (high.symm.trans (below_trans above low)) Bool.false_ne_true

/-! ## The smaller of two numbers -/

theorem isDefined_lesser (h : IsDefined a) : IsDefined (lesser a b) := by
  unfold lesser
  split
  · next low => exact (isDefined_of_below low).1
  · exact h

theorem not_below_lesser_left (a b : R) : below a (lesser a b) = false := by
  unfold lesser
  split
  · next low => exact not_below_of_below low
  · exact below_irrefl a

theorem not_below_lesser_right (a b : R) : below b (lesser a b) = false := by
  unfold lesser
  split
  · exact below_irrefl b
  · next high => exact Bool.eq_false_iff.2 high

/-- The smaller of two numbers is below the first exactly if the second is. -/
theorem below_lesser_self (a b : R) : below (lesser a b) a = below b a := by
  unfold lesser
  split
  · rfl
  · next high => rw [below_irrefl, Bool.eq_false_iff.2 high]

theorem lesser_infinity (a : R) : lesser a infinity = a := by
  simp [lesser, infinity_not_below]

theorem lesser_assoc (ha : IsDefined a) (hb : IsDefined b) : lesser (lesser a b) c = lesser a (lesser b c) := by
  by_cases low : below b a = true
  · by_cases lower : below c b = true
    · simp [lesser, low, lower, below_trans lower low]
    · simp [lesser, low, lower]
  · by_cases lower : below c b = true
    · simp [lesser, low, lower]
    · -- the left side compares the third number with the first, the right side does not
      have high : below c a = false :=
        not_below_trans hb ha (Bool.eq_false_iff.2 lower) (Bool.eq_false_iff.2 low)
      simp [lesser, low, lower, high]

/-! ## The least of a list -/

/-- Reducing from the smaller of two numbers is the same as reducing from the second alone and comparing with the first
at the end. -/
theorem foldl_lesser_lesser (ha : IsDefined a) (hb : IsDefined b) (values : List R) :
    values.foldl lesser (lesser a b) = lesser a (values.foldl lesser b) := by
  induction values generalizing b with
  | nil => rfl
  | cons value values ih =>
    rw [List.foldl_cons, List.foldl_cons, lesser_assoc ha hb]
    exact ih (isDefined_lesser hb)

/-- Reducing a list from a defined number compares that number with the least of the list. -/
theorem foldl_lesser (ha : IsDefined a) (values : List R) : values.foldl lesser a = lesser a (least values) := by
  have parts := foldl_lesser_lesser ha isDefined_infinity values
  rwa [lesser_infinity] at parts

theorem isDefined_foldl_lesser (ha : IsDefined a) (values : List R) : IsDefined (values.foldl lesser a) := by
  induction values generalizing a with
  | nil => exact ha
  | cons value values ih => exact ih (isDefined_lesser ha)

/-- The number that a list is reduced from is not below the result. -/
theorem not_below_foldl_lesser (ha : IsDefined a) (values : List R) : below a (values.foldl lesser a) = false := by
  rw [foldl_lesser ha]
  exact not_below_lesser_left _ _

theorem isDefined_least (values : List R) : IsDefined (least values) :=
  isDefined_foldl_lesser isDefined_infinity values

/-- No number of a list is below the least one. -/
theorem not_below_least {values : List R} (h : a ∈ values) : below a (least values) = false := by
  obtain ⟨before, after, rfl⟩ := List.append_of_mem h
  have defined := isDefined_least before
  -- the numbers before, the number itself, and the least of those after it
  have split : least (before ++ a :: after) = lesser (lesser (least before) a) (least after) := by
    rw [least, List.foldl_append, List.foldl_cons]
    exact foldl_lesser (isDefined_lesser defined) after
  rw [split]
  exact not_below_trans (isDefined_lesser defined) (isDefined_lesser (isDefined_lesser defined))
    (not_below_lesser_right _ _) (not_below_lesser_left _ _)

/-- Two lists are reduced apart from each other, and compared at the end. -/
theorem least_append (values more : List R) : least (values ++ more) = lesser (least values) (least more) := by
  rw [← foldl_lesser (isDefined_least values)]
  exact List.foldl_append

theorem least_singleton_least (values : List R) : least [least values] = least values :=
  (foldl_lesser isDefined_infinity values).symm

/-- Reducing the parts of a list first makes no difference. -/
theorem least_map_least (parts : List (List R)) : least (parts.map least) = least parts.flatten := by
  induction parts with
  | nil => rfl
  | cons values parts ih =>
    rw [List.map_cons, List.flatten_cons, least_append, ← ih, ← List.singleton_append, least_append,
      least_singleton_least]

/-- The number is the least of those of a list that are defined, or infinity if none is. -/
structure LeastOf (values : List R) (m : R) : Prop where
  not_below : ∀ value ∈ values, below value m = false
  attained : (∃ value ∈ values, (value == m) = true) ∨ m = infinity ∧ ∀ value ∈ values, ¬ IsDefined value

theorem leastOf_least (values : List R) : LeastOf values (least values) := by
  refine ⟨fun _ among => not_below_least among, ?_⟩
  rcases least_eq_infinity_or_mem values with none | some
  · by_cases h : ∃ value ∈ values, IsDefined value
    · -- a value that is defined and not below infinity equals infinity
      obtain ⟨value, among, defined⟩ := h
      refine Or.inl ⟨value, among, ?_⟩
      apply beq_of_not_below defined (isDefined_least values) (not_below_least among)
      rw [none, infinity_not_below]
    · exact Or.inr ⟨none, fun value among defined => h ⟨value, among, defined⟩⟩
  · exact Or.inl ⟨_, some, isDefined_least values⟩

theorem LeastOf.isDefined {values : List R} {m : R} (h : LeastOf values m) : IsDefined m := by
  rcases h.attained with ⟨value, -, same⟩ | ⟨rfl, -⟩
  · exact (isDefined_of_beq same).2
  · exact isDefined_infinity

/-- Among the same numbers the least one is the same, but for the sign of a zero. -/
theorem LeastOf.beq {values values' : List R} {m m' : R} (h : LeastOf values m) (h' : LeastOf values' m')
    (same : ∀ value, value ∈ values ↔ value ∈ values') : (m == m') = true := by
  have notBelow {values values' : List R} {m m' : R} (h : LeastOf values m) (h' : LeastOf values' m')
      (among : ∀ value ∈ values, value ∈ values') : below m m' = false := by
    rcases h.attained with ⟨value, inside, here⟩ | ⟨rfl, -⟩
    · rw [← below_congr_left here]
      exact h'.not_below value (among value inside)
    · exact infinity_not_below m'
  apply beq_of_not_below h.isDefined h'.isDefined
  · exact notBelow h h' fun value => (same value).1
  · exact notBelow h' h fun value => (same value).2

/-! ## Signs -/

/-- The laws of sign changes: twice is not at all, and numbers are equal exactly if their opposites are. -/
class Signed (R : Type) [Scalar R] : Prop where
  neg_neg (a : R) : - -a = a
  neg_beq_neg (a b : R) : (-a == -b) = (a == b)

end BinaryQuadratic.Scalar
