import BinaryQuadratic.Preference
import BinaryQuadratic.Proofs.Text

/-!
# Preferences in words

A name and a value in words denote a preference if the name is spelled as one of the four names and the value is one of
that preference (`Preference.Denoted`). Exactly what is denoted is parsed, so what is not has no preference at all, and
what is written of a preference is parsed as the same one (`Preference.parse_exact`). Two things are lost in reading: the
blank characters around a number or the name of an algorithm, and which unknown algorithm was asked for.
-/

namespace BinaryQuadratic

/-! ## Names -/

/-- Where no two entries have the same spelling, the entry that is found by its spelling is the one. -/
theorem find?_text_eq_some_iff {α : Type} {all : List α} {text : α → String} (complete : ∀ a, a ∈ all)
    (injective : Function.Injective text) {name : String} {a : α} :
    all.find? (text · == name) = some a ↔ text a = name := by
  constructor
  · intro found
    have spelled := List.find?_some found
    exact eq_of_beq spelled
  · rintro rfl
    have some : (all.find? (text · == text a)).isSome = true :=
      List.find?_isSome.2 ⟨a, complete a, beq_self_eq_true _⟩
    obtain ⟨b, found⟩ := Option.isSome_iff_exists.1 some
    have spelled := List.find?_some found
    rw [found, injective (eq_of_beq spelled)]

theorem PreferenceName.ofText?_eq_some_iff {text : String} {name : PreferenceName} :
    ofText? text = some name ↔ name.text = text := by
  refine find?_text_eq_some_iff (fun a => by cases a <;> decide) fun a b => ?_
  cases a <;> cases b <;> decide

theorem Algorithm.ofText?_eq_some_iff {text : String} {algorithm : Algorithm} :
    ofText? text = some algorithm ↔ algorithm.text = text := by
  refine find?_text_eq_some_iff (fun a => by cases a <;> decide) fun a b => ?_
  cases a <;> cases b <;> decide

namespace Preference

open Text

/-! ## Values -/

/-- The name and the value in words denote the preference. -/
def Denoted (name value : String) : Preference → Prop
  | .algorithm asked =>
    name = "algorithm" ∧ ∃ core, Trimmed value core ∧
      (asked.text = core ∨ asked = .default ∧ ∀ known : Algorithm, known.text ≠ core)
  | .tileSize size => name = "tile_size" ∧ ∃ core, Trimmed value core ∧ Numeral core size.toNat
  | .precision text => name = "precision" ∧ text = value
  | .device text => name = "device" ∧ text = value

/-- The text is a number that fits into a word, perhaps with blank characters around it. -/
def IsSize (value : String) : Prop := ∃ core, Trimmed value core ∧ ∃ k < 2 ^ 64, Numeral core k

theorem isSize_iff {value : String} : IsSize value ↔ ∃ size, word? (trim value) = some size := by
  rw [exists_word?_iff]
  constructor
  · rintro ⟨core, trimmed, number⟩
    rwa [trimmed.trim_eq]
  · intro number
    exact ⟨trim value, trimmed_trim value, number⟩

theorem getD_ofText?_eq_iff (text : String) {asked : Algorithm} :
    (Algorithm.ofText? text).getD .default = asked ↔
      asked.text = text ∨ asked = .default ∧ ∀ known : Algorithm, known.text ≠ text := by
  cases found : Algorithm.ofText? text with
  | none =>
    have unknown (known : Algorithm) : known.text ≠ text := fun same => by
      rw [Algorithm.ofText?_eq_some_iff.2 same] at found
      cases found
    simp [unknown, eq_comm]
  | some known =>
    have spelled := Algorithm.ofText?_eq_some_iff.1 found
    constructor
    · rintro rfl
      exact .inl spelled
    · rintro (same | ⟨-, unknown⟩)
      · exact Option.some.inj (found.symm.trans (Algorithm.ofText?_eq_some_iff.2 same))
      · exact absurd spelled (unknown known)

/-! ## Parsing -/

theorem parse_of_unknown {name : String} (unknown : ∀ known : PreferenceName, known.text ≠ name) (value : String) :
    parse name value = .error (.unknown name) := by
  cases found : PreferenceName.ofText? name with
  | none => rw [parse, found]
  | some known => exact absurd (PreferenceName.ofText?_eq_some_iff.1 found) (unknown known)

theorem parse_text (known : PreferenceName) (value : String) :
    parse known.text value =
      match known with
      | .algorithm => .ok (.algorithm ((Algorithm.ofText? (trim value)).getD .default))
      | .tileSize =>
        match word? (trim value) with
        | some size => .ok (.tileSize size)
        | none => .error .tileSize
      | .precision => .ok (.precision value)
      | .device => .ok (.device value) := by
  rw [parse, PreferenceName.ofText?_eq_some_iff.2 rfl]
  cases known <;> rfl

theorem parse_algorithm (value : String) :
    parse "algorithm" value = .ok (.algorithm ((Algorithm.ofText? (trim value)).getD .default)) :=
  parse_text .algorithm value

theorem parse_tileSize (value : String) :
    parse "tile_size" value =
      match word? (trim value) with
      | some size => .ok (.tileSize size)
      | none => .error .tileSize := parse_text .tileSize value

theorem parse_precision (value : String) : parse "precision" value = .ok (.precision value) :=
  parse_text .precision value

theorem parse_device (value : String) : parse "device" value = .ok (.device value) := parse_text .device value

theorem parse_of_denoted {name value : String} {p : Preference} (h : Denoted name value p) :
    parse name value = .ok p := by
  cases p with
  | algorithm asked =>
    obtain ⟨rfl, core, trimmed, which⟩ := h
    rw [parse_algorithm, trimmed.trim_eq, (getD_ofText?_eq_iff core).2 which]
  | tileSize size =>
    obtain ⟨rfl, core, trimmed, number⟩ := h
    rw [parse_tileSize, trimmed.trim_eq, word?_eq_some_iff.2 number]
  | precision text =>
    obtain ⟨rfl, rfl⟩ := h
    exact parse_precision text
  | device text =>
    obtain ⟨rfl, rfl⟩ := h
    exact parse_device text

theorem denoted_of_parse {name value : String} {p : Preference} (h : parse name value = .ok p) :
    Denoted name value p := by
  by_cases known : ∃ n : PreferenceName, n.text = name
  · obtain ⟨n, rfl⟩ := known
    cases n with
    | algorithm =>
      obtain rfl := Except.ok.inj ((parse_algorithm value).symm.trans h)
      exact ⟨rfl, trim value, trimmed_trim value, (getD_ofText?_eq_iff (trim value)).1 rfl⟩
    | tileSize =>
      replace h := (parse_tileSize value).symm.trans h
      cases read : word? (trim value) with
      | none => rw [read] at h; cases h
      | some size =>
        rw [read] at h
        cases h
        exact ⟨rfl, trim value, trimmed_trim value, word?_eq_some_iff.1 read⟩
    | precision =>
      obtain rfl := Except.ok.inj ((parse_precision value).symm.trans h)
      exact ⟨rfl, rfl⟩
    | device =>
      obtain rfl := Except.ok.inj ((parse_device value).symm.trans h)
      exact ⟨rfl, rfl⟩
  · rw [parse_of_unknown (not_exists.1 known)] at h
    cases h

theorem parse_eq_ok_iff {name value : String} {p : Preference} : parse name value = .ok p ↔ Denoted name value p :=
  ⟨denoted_of_parse, parse_of_denoted⟩

/-- Only an unknown name and a tile size that is no number are refused. -/
theorem parse_eq_error_iff {name value : String} {error : PreferenceError} :
    parse name value = .error error ↔
      (∀ known : PreferenceName, known.text ≠ name) ∧ error = .unknown name ∨
        name = "tile_size" ∧ ¬ IsSize value ∧ error = .tileSize := by
  constructor
  · intro h
    by_cases known : ∃ n : PreferenceName, n.text = name
    · obtain ⟨n, rfl⟩ := known
      cases n with
      | algorithm => cases (parse_algorithm value).symm.trans h
      | tileSize =>
        replace h := (parse_tileSize value).symm.trans h
        refine .inr ⟨rfl, ?_⟩
        rw [isSize_iff]
        cases read : word? (trim value) with
        | none =>
          rw [read] at h
          cases h
          exact ⟨by simp, rfl⟩
        | some size => rw [read] at h; cases h
      | precision => cases (parse_precision value).symm.trans h
      | device => cases (parse_device value).symm.trans h
    · rw [parse_of_unknown (not_exists.1 known)] at h
      cases h
      exact .inl ⟨not_exists.1 known, rfl⟩
  · rintro (⟨unknown, rfl⟩ | ⟨rfl, no, rfl⟩)
    · exact parse_of_unknown unknown value
    · have unread : word? (trim value) = none := by
        rw [isSize_iff, not_exists] at no
        exact Option.eq_none_iff_forall_ne_some.2 no
      rw [parse_tileSize, unread]

/-! ## Writing -/

/-- What is written of a preference denotes it. -/
theorem denoted_text (p : Preference) : Denoted p.name.text p.text p := by
  cases p with
  | algorithm asked =>
    refine ⟨rfl, asked.text, trim_eq_iff.1 ?_, .inl rfl⟩
    cases asked <;> rfl
  | tileSize size => exact ⟨rfl, ofWord size, trim_eq_iff.1 (trim_ofWord size), word?_eq_some_iff.1 (word?_ofWord size)⟩
  | precision text => exact ⟨rfl, rfl⟩
  | device text => exact ⟨rfl, rfl⟩

/-- **What is parsed, and what is not.** A name and a value are parsed as the preference that they denote. There is one
exactly if the name is that of an algorithm, a precision or a device, or that of a tile size and the value is a number
below the limit of words; otherwise the name is refused, or the tile size. What is written of a preference is parsed as
the same preference. -/
theorem parse_exact :
    (∀ (name value : String) (p : Preference), parse name value = .ok p ↔ Denoted name value p) ∧
    (∀ name value : String, (∃ p, parse name value = .ok p) ↔
      name = "algorithm" ∨ name = "precision" ∨ name = "device" ∨ name = "tile_size" ∧ IsSize value) ∧
    (∀ (name value : String) (error : PreferenceError), parse name value = .error error ↔
      (∀ known : PreferenceName, known.text ≠ name) ∧ error = .unknown name ∨
        name = "tile_size" ∧ ¬ IsSize value ∧ error = .tileSize) ∧
    ∀ p : Preference, parse p.name.text p.text = .ok p := by
  refine ⟨fun _ _ _ => parse_eq_ok_iff, fun name value => ?_, fun _ _ _ => parse_eq_error_iff, fun p => ?_⟩
  · constructor
    · rintro ⟨p, parsed⟩
      have denoted := denoted_of_parse parsed
      cases p with
      | algorithm asked => exact .inl denoted.1
      | tileSize size =>
        obtain ⟨same, core, trimmed, number⟩ := denoted
        exact .inr (.inr (.inr ⟨same, core, trimmed, size.toNat, size.toNat_lt, number⟩))
      | precision text => exact .inr (.inl denoted.1)
      | device text => exact .inr (.inr (.inl denoted.1))
    · rintro (rfl | rfl | rfl | ⟨rfl, size⟩)
      · exact ⟨_, parse_algorithm value⟩
      · exact ⟨_, parse_precision value⟩
      · exact ⟨_, parse_device value⟩
      · obtain ⟨size, read⟩ := isSize_iff.1 size
        exact ⟨.tileSize size, by rw [parse_tileSize, read]⟩
  · exact parse_of_denoted (denoted_text p)

end Preference

end BinaryQuadratic
