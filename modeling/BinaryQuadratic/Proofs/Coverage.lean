import BinaryQuadratic.Coverage
import Mathlib.Data.List.Induction
import Mathlib.Tactic.Common

/-!
# Coverage is the exact union

Adding a span to merged spans leaves them merged, adds its indices and no others, and finds out whether one of them was
covered (`merged_absorb`, `mem_absorb`, `fresh_absorb`). The verdict is reached while the added span grows over others,
so that it is the grown span that is compared with the next one; since merged spans do not even touch, the part that it
grew by meets none of those that follow. Hence a coverage records the spans that were added to it
(`Coverage.insertAll_records`), however they overlap, touch or contain each other.
-/

namespace BinaryQuadratic

namespace Index

theorem toNat_max (a b : Index) : (max a b).toNat = max a.toNat b.toNat := by
  show (if a ≤ b then b else a).toNat = _
  split <;> rename_i h <;> rw [UInt64.le_iff_toNat_le] at h <;> omega

end Index

namespace Span

/-- The two spans have an index in common. -/
def Meets (s t : Span) : Prop := ∃ x, x ∈ s ∧ x ∈ t

theorem meets_iff {s t : Span} : s.Meets t ↔ max s.start t.start < min s.stop t.stop := by
  simp only [Meets, mem_iff, UInt64.lt_iff_toNat_lt, UInt64.le_iff_toNat_le, Index.toNat_min, Index.toNat_max]
  constructor
  · rintro ⟨x, inside, inside'⟩
    omega
  · intro less
    refine ⟨max s.start t.start, ?_⟩
    rw [Index.toNat_max]
    omega

instance (s t : Span) : Decidable (s.Meets t) := decidable_of_iff _ meets_iff.symm

theorem Meets.symm {s t : Span} (h : s.Meets t) : t.Meets s := by
  obtain ⟨x, inside, inside'⟩ := h
  exact ⟨x, inside', inside⟩

theorem not_meets_of_lt {s t : Span} (before : s.stop < t.start) : ¬ s.Meets t := by
  simp only [meets_iff, UInt64.lt_iff_toNat_lt, Index.toNat_min, Index.toNat_max] at *
  omega

/-- An empty span meets none. -/
theorem not_meets_of_isEmpty {s : Span} (empty : s.isEmpty = true) (t : Span) : ¬ s.Meets t := by
  simp only [isEmpty, decide_eq_true_eq, UInt64.le_iff_toNat_le] at empty
  simp only [meets_iff, UInt64.lt_iff_toNat_lt, Index.toNat_min, Index.toNat_max]
  omega

theorem overlaps_iff {s t : Span} (hs : s.start < s.stop) (ht : t.start < t.stop) :
    s.overlaps t = true ↔ s.Meets t := by
  simp only [overlaps, meets_iff, Bool.and_eq_true, decide_eq_true_eq, UInt64.lt_iff_toNat_lt, Index.toNat_min,
    Index.toNat_max] at *
  omega

/-- The span from the lower start to the higher stop holds nothing else, for spans with no gap between them. -/
theorem mem_hull {s t : Span} (below : ¬ t.stop < s.start) (above : ¬ s.stop < t.start) {x : Index} :
    x ∈ (⟨min s.start t.start, max s.stop t.stop⟩ : Span) ↔ x ∈ s ∨ x ∈ t := by
  simp only [mem_iff, UInt64.lt_iff_toNat_lt, UInt64.le_iff_toNat_le, Index.toNat_min, Index.toNat_max] at *
  omega

theorem hull_nonempty {s : Span} (hs : s.start < s.stop) (t : Span) : min s.start t.start < max s.stop t.stop := by
  simp only [UInt64.lt_iff_toNat_lt, Index.toNat_min, Index.toNat_max] at *
  omega

end Span

namespace Coverage

open BinaryQuadratic.Span

/-! ## Merged spans -/

/-- Ascending spans, none of them empty, with a gap between any two. -/
structure Merged (spans : List Span) : Prop where
  nonempty : ∀ s ∈ spans, s.start < s.stop
  apart : spans.Pairwise fun s t => s.stop < t.start

theorem merged_nil : Merged [] := ⟨fun _ none => absurd none List.not_mem_nil, .nil⟩

theorem merged_cons {s : Span} {rest : List Span} :
    Merged (s :: rest) ↔ s.start < s.stop ∧ (∀ t ∈ rest, s.stop < t.start) ∧ Merged rest := by
  constructor
  · intro merged
    obtain ⟨nonempty, rest_nonempty⟩ := List.forall_mem_cons.1 merged.nonempty
    obtain ⟨apart, rest_apart⟩ := List.pairwise_cons.1 merged.apart
    exact ⟨nonempty, apart, rest_nonempty, rest_apart⟩
  · rintro ⟨nonempty, apart, rest⟩
    exact ⟨List.forall_mem_cons.2 ⟨nonempty, rest.nonempty⟩, List.pairwise_cons.2 ⟨apart, rest.apart⟩⟩

/-- One of the spans holds the index. -/
def Covers (spans : List Span) (x : Index) : Prop := ∃ s ∈ spans, x ∈ s

@[simp]
theorem not_covers_nil (x : Index) : ¬ Covers [] x := by simp [Covers]

@[simp]
theorem covers_cons {s : Span} {rest : List Span} {x : Index} : Covers (s :: rest) x ↔ x ∈ s ∨ Covers rest x := by
  simp [Covers]

@[simp]
theorem covers_append {spans rest : List Span} {x : Index} :
    Covers (spans ++ rest) x ↔ Covers spans x ∨ Covers rest x := by
  simp [Covers, or_and_right, exists_or]

/-- Meeting one of the spans takes a covered index, whichever spans cover it. -/
theorem exists_meets_iff {spans : List Span} {s : Span} :
    (∃ t ∈ spans, s.Meets t) ↔ ∃ x, x ∈ s ∧ Covers spans x := by
  constructor
  · rintro ⟨t, among, x, inside, inside'⟩
    exact ⟨x, inside, t, among, inside'⟩
  · rintro ⟨x, inside, t, among, inside'⟩
    exact ⟨t, among, x, inside, inside'⟩

/-- What lies below the first of merged spans lies below all of them. -/
theorem Merged.lt_start {s : Span} {rest : List Span} (merged : Merged (s :: rest)) {bound : Index}
    (low : bound < s.start) : ∀ t ∈ s :: rest, bound < t.start := by
  obtain ⟨nonempty, apart, -⟩ := merged_cons.1 merged
  refine List.forall_mem_cons.2 ⟨low, fun t later => ?_⟩
  have gap := apart t later
  simp only [UInt64.lt_iff_toNat_lt] at *
  omega

/-- Up to the stop of the first of merged spans the others cover nothing. -/
theorem Merged.not_covers {s : Span} {rest : List Span} (merged : Merged (s :: rest)) {x : Index} (low : x ≤ s.stop) :
    ¬ Covers rest x := by
  obtain ⟨-, apart, -⟩ := merged_cons.1 merged
  rintro ⟨t, among, inside⟩
  have gap := apart t among
  simp only [mem_iff, UInt64.lt_iff_toNat_lt, UInt64.le_iff_toNat_le] at *
  omega

/-! ## Absorbing -/

variable {added : Span} {spans : List Span}

/-- What lies below the added span and below all others lies below the result. -/
theorem lt_start_absorb {bound : Index} (low : bound < added.start) (others : ∀ s ∈ spans, bound < s.start) :
    ∀ s ∈ (absorb added spans).spans, bound < s.start := by
  fun_induction absorb added spans with
  | case1 added => simpa using low
  | case2 added s rest before after ih =>
    obtain ⟨first, later⟩ := List.forall_mem_cons.1 others
    exact List.forall_mem_cons.2 ⟨first, ih low later⟩
  | case3 added s rest _ before => exact List.forall_mem_cons.2 ⟨low, others⟩
  | case4 added s rest _ _ after ih =>
    obtain ⟨first, later⟩ := List.forall_mem_cons.1 others
    apply ih _ later
    simp only [UInt64.lt_iff_toNat_lt, Index.toNat_min] at *
    omega

/-- Merged spans stay merged. -/
theorem merged_absorb (nonempty : added.start < added.stop) (merged : Merged spans) :
    Merged (absorb added spans).spans := by
  fun_induction absorb added spans with
  | case1 added => exact merged_cons.2 ⟨nonempty, by simp, merged_nil⟩
  | case2 added s rest before after ih =>
    obtain ⟨first, apart, later⟩ := merged_cons.1 merged
    exact merged_cons.2 ⟨first, lt_start_absorb before apart, ih nonempty later⟩
  | case3 added s rest _ before => exact merged_cons.2 ⟨nonempty, merged.lt_start before, merged⟩
  | case4 added s rest _ _ after ih =>
    obtain ⟨-, -, later⟩ := merged_cons.1 merged
    exact ih (hull_nonempty nonempty s) later

/-- The indices afterwards are those of the added span and those covered before. -/
theorem mem_absorb {x : Index} : Covers (absorb added spans).spans x ↔ x ∈ added ∨ Covers spans x := by
  fun_induction absorb added spans with
  | case1 added => simp
  | case2 added s rest before after ih =>
    simp only [covers_cons]
    rw [ih, or_left_comm]
  | case3 added s rest _ before => simp
  | case4 added s rest below above after ih =>
    rw [ih, mem_hull below above, covers_cons, or_assoc]

/-- The verdict on the added span, whatever it grows over. -/
theorem fresh_absorb (nonempty : added.start < added.stop) (merged : Merged spans) :
    (absorb added spans).fresh = true ↔ ∀ s ∈ spans, ¬ added.Meets s := by
  fun_induction absorb added spans with
  | case1 added => simp
  | case2 added s rest before after ih =>
    obtain ⟨-, -, later⟩ := merged_cons.1 merged
    have past : ¬ added.Meets s := fun meets => not_meets_of_lt before meets.symm
    rw [List.forall_mem_cons, and_iff_right past]
    exact ih nonempty later
  | case3 added s rest _ before =>
    simp only [true_iff]
    intro t among
    exact not_meets_of_lt (merged.lt_start before t among)
  | case4 added s rest below above after ih =>
    obtain ⟨first, apart, later⟩ := merged_cons.1 merged
    -- what the span grew by meets none of those that follow
    have alike (t : Span) (among : t ∈ rest) :
        (⟨min added.start s.start, max added.stop s.stop⟩ : Span).Meets t ↔ added.Meets t := by
      have gap := not_meets_of_lt (apart t among)
      simp only [Meets, mem_hull below above, or_and_right, exists_or] at gap ⊢
      exact or_iff_left gap
    have rest_alike : (∀ t ∈ rest, ¬ (⟨min added.start s.start, max added.stop s.stop⟩ : Span).Meets t) ↔
        ∀ t ∈ rest, ¬ added.Meets t :=
      forall₂_congr fun t among => not_congr (alike t among)
    rw [Bool.and_eq_true, ih (hull_nonempty nonempty s) later, rest_alike, List.forall_mem_cons, and_comm,
      Bool.not_eq_true', ← Bool.not_eq_true, overlaps_iff nonempty first]

/-- Merged spans that cover the indices below a bound, and no others, are a single one. -/
theorem eq_singleton_of_covers {stop : Index} (pos : 0 < stop) (merged : Merged spans)
    (exactly : ∀ x, Covers spans x ↔ x < stop) : spans = [⟨0, stop⟩] := by
  cases spans with
  | nil => exact absurd ((exactly 0).2 pos) (not_covers_nil 0)
  | cons s rest =>
    obtain ⟨nonempty, apart, later⟩ := merged_cons.1 merged
    have start : s.start = 0 := by
      have zero := covers_cons.1 ((exactly 0).2 pos)
      have inside := zero.resolve_right (merged.not_covers UInt64.zero_le)
      exact UInt64.le_zero_iff.1 inside.1
    have reach : s.stop = stop := by
      -- the last index of the span is covered, the one after it is not
      have nonzero : s.stop ≠ 0 := fun zero => UInt64.not_lt_zero (zero ▸ nonempty)
      have before := Index.toNat_sub_one nonzero
      have last : s.stop - 1 < stop := by
        apply (exactly _).1
        apply covers_cons.2
        left
        simp only [mem_iff, UInt64.lt_iff_toNat_lt, UInt64.le_iff_toNat_le] at *
        omega
      have next : ¬ s.stop < stop := by
        rw [← exactly, covers_cons]
        rintro (inside | later)
        · exact UInt64.lt_irrefl _ inside.2
        · exact merged.not_covers (UInt64.le_refl _) later
      apply UInt64.toNat_inj.1
      simp only [UInt64.lt_iff_toNat_lt] at *
      omega
    have none : rest = [] := by
      apply List.eq_nil_iff_forall_not_mem.2
      intro t among
      have inside : t.start ∈ t := ⟨UInt64.le_refl _, later.nonempty t among⟩
      have low := (exactly t.start).1 (covers_cons.2 (.inr ⟨t, among, inside⟩))
      rw [← reach] at low
      exact UInt64.lt_asymm low (apart t among)
    rw [none, ← reach, ← start]

/-! ## Spans added one after the other -/

/-- The number of spans that have an index in common with one before them. -/
def repeats (spans : List Span) : Nat :=
  spans.zipIdx.countP fun (s, position) => decide (∃ t ∈ spans.take position, s.Meets t)

theorem repeats_concat (spans : List Span) (s : Span) :
    repeats (spans ++ [s]) = repeats spans + if ∃ t ∈ spans, s.Meets t then 1 else 0 := by
  have earlier : spans.zipIdx.countP (fun (s', position) =>
        decide (∃ t ∈ (spans ++ [s]).take position, s'.Meets t)) = repeats spans := by
    apply List.countP_congr
    rintro ⟨s', position⟩ among
    have before := (List.mem_zipIdx among).2.1
    simp only [List.take_append_of_le_length (show position ≤ spans.length by omega)]
  rw [repeats, List.zipIdx_append, List.countP_append, earlier]
  simp

/-- Indices that lie in one of the spans at least are those that are covered. -/
theorem countP_pos_iff {spans : List Span} {x : Index} : 0 < spans.countP (x ∈ ·) ↔ Covers spans x := by
  simp [Covers, List.countP_pos_iff]

/-- No span repeats an index exactly when none lies in two of them. -/
theorem repeats_eq_zero_iff (spans : List Span) : repeats spans = 0 ↔ ∀ x, spans.countP (x ∈ ·) ≤ 1 := by
  induction spans using List.reverseRecOn with
  | nil => simp [repeats]
  | append_singleton spans s ih =>
    have last (x : Index) : (spans ++ [s]).countP (x ∈ ·) = spans.countP (x ∈ ·) + if x ∈ s then 1 else 0 := by
      simp [List.countP_append, List.countP_singleton]
    simp only [repeats_concat, last]
    constructor
    · intro none x
      have once := ih.1 (by omega) x
      split
      · next inside =>
        have unmet : ¬ Covers spans x := by
          intro covered
          rw [if_pos (exists_meets_iff.2 ⟨x, inside, covered⟩)] at none
          omega
        have zero := mt countP_pos_iff.1 unmet
        omega
      · omega
    · intro once
      have unmet : ¬ ∃ t ∈ spans, s.Meets t := by
        intro meets
        obtain ⟨x, inside, covered⟩ := exists_meets_iff.1 meets
        have twice := once x
        have positive := countP_pos_iff.2 covered
        rw [if_pos inside] at twice
        omega
      rw [if_neg unmet, Nat.add_zero, ih]
      intro x
      have le := once x
      omega

/-- What a coverage knows of the spans that were added to it. -/
structure Records (c : Coverage) (spans : List Span) : Prop where
  merged : Merged c.spans
  covers : ∀ x, Covers c.spans x ↔ Covers spans x
  overlaps : c.overlaps = repeats spans

variable {c : Coverage}

theorem records_empty : empty.Records [] := ⟨merged_nil, fun _ => Iff.rfl, rfl⟩

/-- The verdict on the next span. -/
theorem Records.isFree (records : c.Records spans) (s : Span) : c.isFree s = true ↔ ¬ ∃ t ∈ spans, s.Meets t := by
  have alike : (∃ t ∈ spans, s.Meets t) ↔ ∃ t ∈ c.spans, s.Meets t := by
    simp only [exists_meets_iff, records.covers]
  rw [alike, Coverage.isFree, Bool.or_eq_true]
  by_cases none : s.isEmpty = true
  · simp [none, not_meets_of_isEmpty]
  · have nonempty : s.start < s.stop := by simpa [isEmpty] using none
    rw [or_iff_right none, fresh_absorb nonempty records.merged]
    push Not
    rfl

theorem Records.insert (records : c.Records spans) (s : Span) : (c.insert s).Records (spans ++ [s]) := by
  have verdict := records.isFree s
  rw [Coverage.isFree] at verdict
  unfold Coverage.insert
  split
  · next none =>
    have outside (x : Index) : x ∉ s := fun inside => not_meets_of_isEmpty none s ⟨x, inside, inside⟩
    have apart : ¬ ∃ t ∈ spans, s.Meets t := fun ⟨t, _, meets⟩ => not_meets_of_isEmpty none t meets
    refine ⟨records.merged, fun x => ?_, ?_⟩
    · simp [records.covers x, outside]
    · rw [repeats_concat, if_neg apart]
      exact records.overlaps
  · next none =>
    have nonempty : s.start < s.stop := by simpa [isEmpty] using none
    simp only [none, Bool.false_or] at verdict
    refine ⟨merged_absorb nonempty records.merged, fun x => ?_, ?_⟩
    · rw [mem_absorb, records.covers, covers_append, covers_cons, or_comm]
      simp
    · show (if (absorb s c.spans).fresh then c.overlaps else c.overlaps + 1) = _
      rw [repeats_concat, ← records.overlaps]
      by_cases meets : ∃ t ∈ spans, s.Meets t
      · rw [if_neg fun fresh => verdict.1 fresh meets, if_pos meets]
      · rw [if_pos (verdict.2 meets), if_neg meets, Nat.add_zero]

theorem Records.insertAll {before : List Span} (records : c.Records before) (spans : List Span) :
    (c.insertAll spans).Records (before ++ spans) := by
  induction spans generalizing c before with
  | nil =>
    rw [List.append_nil]
    exact records
  | cons s spans ih =>
    rw [List.append_cons]
    exact ih (records.insert s)

theorem insertAll_records (spans : List Span) : (empty.insertAll spans).Records spans :=
  records_empty.insertAll spans

/-- A scan is exhaustive when each index below the bound lies in one span, and no other index in any. -/
theorem Records.isExhaustive (records : c.Records spans) {stop : Index} (pos : 0 < stop) :
    c.isExhaustive stop = true ↔ ∀ x, spans.countP (x ∈ ·) = if x < stop then 1 else 0 := by
  have single (x : Index) : Covers [⟨0, stop⟩] x ↔ x < stop := by simp [mem_iff]
  rw [Coverage.isExhaustive, Bool.and_eq_true, beq_iff_eq, beq_iff_eq, records.overlaps, repeats_eq_zero_iff]
  constructor
  · rintro ⟨once, whole⟩ x
    have covered := (countP_pos_iff.trans (records.covers x).symm).trans (whole ▸ single x)
    have le := once x
    split <;> rename_i low
    · have positive := covered.2 low
      omega
    · have zero := mt covered.1 low
      omega
  · intro exactly
    refine ⟨fun x => ?_, eq_singleton_of_covers pos records.merged fun x => ?_⟩
    · rw [exactly]
      split <;> omega
    · rw [records.covers, ← countP_pos_iff, exactly]
      split <;> simp_all

/-- **The record is the exact union.** Any spans are added to an empty coverage, one after the other: empty and
reversed ones, nested, touching or equal ones, ones that fill a gap. Then its spans are ascending, not empty and with a
gap between any two, and cover the indices that lie in an added span. A further span is found free unless it has an
index in common with one of those added, and the count is that of the added spans that were not free in their turn. A
scan below a positive bound is called exhaustive when each index below it lies in exactly one added span and no other
index lies in any. -/
theorem insertAll_exact (spans : List Span) :
    ((∀ s ∈ (empty.insertAll spans).spans, s.start < s.stop) ∧
      (empty.insertAll spans).spans.Pairwise fun s t => s.stop < t.start) ∧
    (∀ x, (∃ s ∈ (empty.insertAll spans).spans, x ∈ s) ↔ ∃ s ∈ spans, x ∈ s) ∧
    (∀ s, (empty.insertAll spans).isFree s = false ↔ ∃ t ∈ spans, ∃ x, x ∈ s ∧ x ∈ t) ∧
    (empty.insertAll spans).overlaps = repeats spans ∧
    ∀ stop, 0 < stop →
      ((empty.insertAll spans).isExhaustive stop = true ↔
        ∀ x, spans.countP (x ∈ ·) = if x < stop then 1 else 0) := by
  have records := insertAll_records spans
  refine ⟨⟨records.merged.nonempty, records.merged.apart⟩, records.covers, fun s => ?_, records.overlaps, ?_⟩
  · rw [← Bool.not_eq_true, records.isFree, not_not]
    rfl
  · intro stop pos
    exact records.isExhaustive pos

/-- Two spans that touch, the first one reversed, and the spans on either side of them. -/
def patched : List Span := [⟨4, 6⟩, ⟨2, 4⟩, ⟨6, 4⟩, ⟨6, 8⟩, ⟨0, 2⟩]

/-- They tile the first eight indices, so a span that reaches into these is not free. -/
theorem insertAll_exact_patched :
    (0 : Index) < 8 ∧ (∀ x, patched.countP (x ∈ ·) = if x < 8 then 1 else 0) ∧
      (empty.insertAll patched).isFree ⟨7, 9⟩ = false := by
  obtain ⟨-, -, free, -, exhaustive⟩ := insertAll_exact patched
  have pos : (0 : Index) < 8 := by decide
  have whole : (empty.insertAll patched).isExhaustive 8 = true := by decide
  refine ⟨pos, (exhaustive 8 pos).1 whole, (free ⟨7, 9⟩).2 ?_⟩
  exact ⟨⟨6, 8⟩, by decide, 7, by decide, by decide⟩

end Coverage

end BinaryQuadratic
