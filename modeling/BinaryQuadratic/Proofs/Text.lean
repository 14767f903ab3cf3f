import Mathlib.Data.List.DropRight
import Mathlib.Data.List.Induction
import BinaryQuadratic.Text.Blank
import BinaryQuadratic.Text.Decimal

/-!
# What texts denote

Trimming takes away the blank characters at the two ends of a text and nothing else (`Text.trim_eq_iff`). A word is read
from a text exactly if that is a decimal number below the limit of words, with or without a plus sign in front of it
(`Text.word?_eq_some_iff`); zeros in front are allowed. So what is written is read as the same word (`Text.word?_ofWord`),
and there is nothing to be trimmed about it.
-/

namespace BinaryQuadratic.Text

/-! ## Trimming -/

/-- The text is the core with blank characters around it, and the core neither begins nor ends with one. -/
structure Trimmed (text core : String) : Prop where
  around : ∃ before after : List Char, text.toList = before ++ (core.toList ++ after) ∧
    (∀ c ∈ before, isBlank c = true) ∧ ∀ c ∈ after, isBlank c = true
  head : ∀ c ∈ core.toList.head?, isBlank c = false
  last : ∀ c ∈ core.toList.getLast?, isBlank c = false

theorem toList_trim (text : String) : (trim text).toList = (text.toList.dropWhile isBlank).rdropWhile isBlank := by
  rw [trim, String.toList_ofList]
  rfl

theorem dropWhile_isBlank_of_head {cs : List Char} (h : ∀ c ∈ cs.head?, isBlank c = false) :
    cs.dropWhile isBlank = cs := by
  cases cs with
  | nil => rfl
  | cons c cs => exact List.dropWhile_cons_of_neg (by rw [h c rfl]; exact Bool.false_ne_true)

theorem rdropWhile_isBlank_of_last {cs : List Char} (h : ∀ c ∈ cs.getLast?, isBlank c = false) :
    cs.rdropWhile isBlank = cs := by
  rw [List.rdropWhile, dropWhile_isBlank_of_head (by rwa [List.head?_reverse]), List.reverse_reverse]

theorem rdropWhile_isBlank_append {cs after : List Char} (blank : ∀ c ∈ after, isBlank c = true) :
    (cs ++ after).rdropWhile isBlank = cs.rdropWhile isBlank := by
  rw [List.rdropWhile, List.reverse_append,
    List.dropWhile_append_of_pos fun c among => blank c (List.mem_reverse.1 among)]
  rfl

/-- A core is what is left when the blank characters around it are taken away. -/
theorem Trimmed.trim_eq {text core : String} (h : Trimmed text core) : trim text = core := by
  obtain ⟨⟨before, after, parts, blank, blank'⟩, head, last⟩ := h
  rw [← String.toList_inj, toList_trim, parts, List.dropWhile_append_of_pos blank]
  cases chars : core.toList with
  | nil =>
    have none : after.dropWhile isBlank = [] := List.dropWhile_eq_nil_iff.2 blank'
    rw [List.nil_append, none, List.rdropWhile_nil]
  | cons c cs =>
    rw [chars] at head last
    have front : (c :: cs ++ after).dropWhile isBlank = c :: cs ++ after :=
      dropWhile_isBlank_of_head fun _ same => head _ same
    rw [front, rdropWhile_isBlank_append blank', rdropWhile_isBlank_of_last last]

theorem trimmed_trim (text : String) : Trimmed text (trim text) := by
  have front := List.takeWhile_append_dropWhile (p := isBlank) (l := text.toList)
  have head := List.head?_dropWhile_not isBlank text.toList
  have core := toList_trim text
  generalize text.toList.dropWhile isBlank = rest at front head core
  refine ⟨⟨text.toList.takeWhile isBlank, rest.rtakeWhile isBlank, ?_, ?_, ?_⟩, ?_, ?_⟩
  · rw [core, List.rdropWhile_append_rtakeWhile, front]
  · exact fun c among => List.mem_takeWhile_imp among
  · exact fun c among => List.mem_rtakeWhile_imp among
  · -- the core begins as the rest does, if it begins at all
    rw [core]
    intro c first
    obtain ⟨others, same⟩ := List.rdropWhile_prefix isBlank rest
    have among : rest.head? = some c := by
      rw [← same, List.head?_append, Option.mem_def.1 first]
      rfl
    rwa [among] at head
  · rw [core]
    intro c final
    obtain ⟨nonempty, rfl⟩ := List.mem_getLast?_eq_getLast final
    exact Bool.not_eq_true _ ▸ List.rdropWhile_last_not isBlank rest nonempty

theorem trim_eq_iff {text core : String} : trim text = core ↔ Trimmed text core :=
  ⟨fun same => same ▸ trimmed_trim text, Trimmed.trim_eq⟩

/-- Without blank characters there is nothing to be trimmed. -/
theorem trim_eq_self {text : String} (h : ∀ c ∈ text.toList, isBlank c = false) : trim text = text :=
  trim_eq_iff.2 ⟨⟨[], [], by simp, by simp, by simp⟩, fun c first => h c (List.mem_of_mem_head? first),
    fun c final => h c (List.mem_of_mem_getLast? final)⟩

/-! ## Decimal numbers -/

/-- The character is a digit of ASCII, with this value. -/
def IsDigit (c : Char) (d : Nat) : Prop := d < 10 ∧ c.toNat = '0'.toNat + d

/-- The digits denote the number, in decimal notation. -/
inductive Digits : List Char → Nat → Prop where
  | one {c : Char} {d : Nat} (digit : IsDigit c d) : Digits [c] d
  | more {cs : List Char} {c : Char} {k d : Nat} (front : Digits cs k) (digit : IsDigit c d) :
      Digits (cs ++ [c]) (10 * k + d)

/-- The text is a decimal number, with or without a plus sign in front. -/
def Numeral (text : String) (k : Nat) : Prop :=
  ∃ digits, Digits digits k ∧ (text.toList = digits ∨ text.toList = '+' :: digits)

theorem isDigit_iff {c : Char} : c.isDigit = true ↔ ∃ d, IsDigit c d := by
  have zero : '0'.toNat = 48 := rfl
  have nine : '9'.toNat = 57 := rfl
  rw [Char.isDigit_iff_toNat]
  constructor
  · rintro ⟨low, high⟩
    exact ⟨c.toNat - 48, by omega, by omega⟩
  · rintro ⟨d, small, same⟩
    omega

/-- Reading digit by digit gives the number that the digits denote. -/
theorem digits_iff {cs : List Char} {k : Nat} :
    Digits cs k ↔ cs ≠ [] ∧ (∀ c ∈ cs, c.isDigit = true) ∧ Nat.ofDigitChars 10 cs 0 = k := by
  constructor
  · intro h
    induction h with
    | @one c d digit =>
      refine ⟨List.cons_ne_nil _ _, List.forall_mem_singleton.2 (isDigit_iff.2 ⟨d, digit⟩), ?_⟩
      rw [Nat.ofDigitChars_cons, Nat.ofDigitChars_nil, digit.2]
      omega
    | @more cs c k d front digit ih =>
      obtain ⟨-, all, value⟩ := ih
      refine ⟨by simp, List.forall_mem_append.2 ⟨all, List.forall_mem_singleton.2 (isDigit_iff.2 ⟨d, digit⟩)⟩, ?_⟩
      rw [Nat.ofDigitChars_append, value, Nat.ofDigitChars_cons, Nat.ofDigitChars_nil, digit.2]
      omega
  · rintro ⟨some, all, rfl⟩
    induction cs using List.reverseRecOn with
    | nil => exact absurd rfl some
    | append_singleton cs c ih =>
      rw [List.forall_mem_append, List.forall_mem_singleton] at all
      obtain ⟨d, digit⟩ := isDigit_iff.1 all.2
      have value : c.toNat - '0'.toNat = d := by rw [digit.2]; omega
      rw [Nat.ofDigitChars_append, Nat.ofDigitChars_cons, Nat.ofDigitChars_nil, value]
      by_cases none : cs = []
      · subst none
        exact (Nat.zero_add d).symm ▸ .one digit
      · exact .more (ih none all.1) digit

theorem dropPlus_of_digits {cs : List Char} {k : Nat} (h : Digits cs k) : dropPlus cs = cs := by
  obtain ⟨-, all, -⟩ := digits_iff.1 h
  unfold dropPlus
  split
  · next rest => exact absurd (all '+' List.mem_cons_self) (by decide)
  · rfl

/-- The digits after a plus sign are those of a number exactly if the text is a decimal number. -/
theorem numeral_iff {text : String} {k : Nat} : Numeral text k ↔ Digits (dropPlus text.toList) k := by
  constructor
  · rintro ⟨digits, h, same | same⟩
    · rwa [same, dropPlus_of_digits h]
    · rwa [same]
  · intro h
    refine ⟨dropPlus text.toList, h, ?_⟩
    unfold dropPlus
    split
    · next rest same => exact .inr same
    · exact .inl rfl

/-- **What is read as a word.** Decimal numbers below the limit are, with or without a plus sign. -/
theorem word?_eq_some_iff {text : String} {k : UInt64} : word? text = some k ↔ Numeral text k.toNat := by
  rw [numeral_iff, digits_iff, word?]
  simp only [Bool.and_eq_true, Bool.not_eq_true', List.isEmpty_eq_false_iff, List.all_eq_true, decide_eq_true_eq,
    Option.ite_none_right_eq_some, Option.some.injEq]
  generalize Nat.ofDigitChars 10 (dropPlus text.toList) 0 = value
  constructor
  · rintro ⟨⟨⟨some, all⟩, small⟩, rfl⟩
    exact ⟨some, all, (Nat.mod_eq_of_lt small).symm⟩
  · rintro ⟨some, all, rfl⟩
    exact ⟨⟨⟨some, all⟩, k.toNat_lt⟩, UInt64.ofNat_toNat⟩

theorem exists_word?_iff {text : String} : (∃ k, word? text = some k) ↔ ∃ k < 2 ^ 64, Numeral text k := by
  constructor
  · rintro ⟨k, read⟩
    exact ⟨k.toNat, k.toNat_lt, word?_eq_some_iff.1 read⟩
  · rintro ⟨k, small, numeral⟩
    have same : k.toUInt64.toNat = k := Nat.mod_eq_of_lt small
    exact ⟨k.toUInt64, word?_eq_some_iff.2 (same.symm ▸ numeral)⟩

/-! ## Written words -/

theorem digits_ofWord (k : UInt64) : Digits (ofWord k).toList k.toNat := by
  rw [ofWord, String.toList_ofList]
  exact digits_iff.2 ⟨Nat.toDigits_ne_nil, fun c among => Nat.isDigit_of_mem_toDigits (by decide) (by decide) among,
    Nat.ofDigitChars_ten_toDigits⟩

/-- A word is read from what was written. -/
theorem word?_ofWord (k : UInt64) : word? (ofWord k) = some k :=
  word?_eq_some_iff.2 ⟨_, digits_ofWord k, .inl rfl⟩

theorem isBlank_of_isDigit {c : Char} (h : c.isDigit = true) : isBlank c = false := by
  obtain ⟨d, small, value⟩ := isDigit_iff.1 h
  have zero : '0'.toNat = 48 := rfl
  rw [Bool.eq_false_iff]
  intro blank
  simp only [isBlank, blankRanges, List.any_cons, List.any_nil, Bool.or_eq_true, Bool.and_eq_true, decide_eq_true_eq,
    Bool.false_eq_true, or_false] at blank
  omega

theorem trim_ofWord (k : UInt64) : trim (ofWord k) = ofWord k := by
  obtain ⟨-, all, -⟩ := digits_iff.1 (digits_ofWord k)
  exact trim_eq_self fun c among => isBlank_of_isDigit (all c among)

end BinaryQuadratic.Text
