import BinaryQuadratic.Proofs.Optimality.Processor
import BinaryQuadratic.Proofs.Solver.Retiling
import BinaryQuadratic.Proofs.Solver.Rounds
import Mathlib.Data.List.Forall2

/-!
# Setting preferences

A preference is refused if it is a tile size of zero or is only for reading (`Preference.Refused`). Several preferences
are set if none of them is refused, and otherwise the first that is refused decides the error and nothing changes. What
is set is the tile size asked for, which is for the next preparation: in what a prepared solver goes on to show, calls
that set preferences can be put in or left out anywhere (`Solver.preferences_wait`).
-/

namespace BinaryQuadratic

/-! ## Traversing a list -/

section Traversal

variable {ε α β : Type} {f : α → Except ε β}

/-- A traversal succeeds with the results for the elements, one by one. -/
theorem mapM_eq_ok_iff {l : List α} {results : List β} :
    l.mapM f = .ok results ↔ List.Forall₂ (fun a b => f a = .ok b) l results := by
  induction l generalizing results with
  | nil =>
    rw [List.forall₂_nil_left_iff]
    exact ⟨fun h => (Except.ok.inj h).symm, fun h => congrArg Except.ok h.symm⟩
  | cons a l ih =>
    rw [List.mapM_cons, List.forall₂_cons_left_iff]
    constructor
    · intro h
      cases first : f a with
      | error error => rw [first] at h; cases h
      | ok b =>
        cases rest : l.mapM f with
        | error error => rw [first, rest] at h; cases h
        | ok bs =>
          rw [first, rest] at h
          exact ⟨b, bs, first ▸ rfl, ih.1 rest, (Except.ok.inj h).symm⟩
    · rintro ⟨b, bs, first, rest, rfl⟩
      rw [first, ih.2 rest]
      rfl

/-- A traversal fails as the first element does that fails. -/
theorem mapM_eq_error_iff {l : List α} {error : ε} :
    l.mapM f = .error error ↔
      ∃ before a after, l = before ++ a :: after ∧ (∀ b ∈ before, ∃ c, f b = .ok c) ∧ f a = .error error := by
  induction l with
  | nil =>
    refine ⟨fun h => (by cases h), ?_⟩
    rintro ⟨before, a, after, split, -⟩
    cases before <;> cases split
  | cons a l ih =>
    rw [List.mapM_cons]
    constructor
    · intro h
      cases first : f a with
      | error other =>
        rw [first] at h
        cases h
        exact ⟨[], a, l, rfl, nofun, first⟩
      | ok b =>
        cases rest : l.mapM f with
        | ok bs => rw [first, rest] at h; cases h
        | error other =>
          rw [first, rest] at h
          cases h
          obtain ⟨before, a', after, rfl, fine, fails⟩ := ih.1 rest
          exact ⟨a :: before, a', after, rfl, List.forall_mem_cons.2 ⟨⟨b, first⟩, fine⟩, fails⟩
    · rintro ⟨before, a', after, split, fine, fails⟩
      cases before with
      | nil =>
        cases split
        rw [fails]
        rfl
      | cons b before =>
        cases split
        obtain ⟨⟨c, first⟩, fine⟩ := List.forall_mem_cons.1 fine
        rw [first, ih.2 ⟨before, a', after, rfl, fine, fails⟩]
        rfl

end Traversal

/-! ## What is refused -/

namespace Preference

/-- A preference that is refused, and why. -/
inductive Refused : Preference → PreferenceError → Prop
  | zero : Refused (.tileSize 0) .tileSize
  | precision (value : String) : Refused (.precision value) (.readOnly .precision)
  | device (value : String) : Refused (.device value) (.readOnly .device)

/-- The tile size that a preference asks for, if it does. -/
def size? : Preference → Option UInt64
  | .tileSize value => some value
  | _ => none

/-- The first preference of the list that is refused is refused for this reason. -/
def FirstRefused (preferences : List Preference) (error : PreferenceError) : Prop :=
  ∃ before p after, preferences = before ++ p :: after ∧ (∀ q ∈ before, ∀ error, ¬ q.Refused error) ∧ p.Refused error

variable {p : Preference} {error : PreferenceError} {ps : List Preference}

theorem change_eq_error_iff : p.change = .error error ↔ p.Refused error := by
  constructor
  · intro h
    cases p with
    | algorithm value => cases h
    | tileSize value =>
      by_cases positive : 0 < value
      · rw [change, dif_pos positive] at h
        cases h
      · obtain rfl : value = 0 := by
          rw [UInt64.lt_iff_toNat_lt, UInt64.toNat_zero, Nat.not_lt, Nat.le_zero] at positive
          exact UInt64.toNat.inj positive
        cases h
        exact .zero
    | precision value => cases h; exact .precision value
    | device value => cases h; exact .device value
  · rintro ⟨⟩ <;> rfl

theorem exists_change_iff : (∃ size, p.change = .ok size) ↔ ∀ error, ¬ p.Refused error := by
  constructor
  · rintro ⟨size, h⟩ error refused
    rw [change_eq_error_iff.2 refused] at h
    cases h
  · intro settable
    cases h : p.change with
    | ok size => exact ⟨size, rfl⟩
    | error error => exact absurd (change_eq_error_iff.1 h) (settable error)

/-- A preference that can be set changes the tile size to what it asks for. -/
theorem size?_of_change {size : Option Count} (h : p.change = .ok size) : size.map Subtype.val = p.size? := by
  cases p with
  | algorithm value => cases h; rfl
  | tileSize value =>
    by_cases positive : 0 < value
    · rw [change, dif_pos positive] at h
      cases h
      rfl
    · rw [change, dif_neg positive] at h
      cases h
  | precision value => cases h
  | device value => cases h

theorem mapM_change_eq_error_iff : ps.mapM change = .error error ↔ FirstRefused ps error := by
  simp only [mapM_eq_error_iff, exists_change_iff, change_eq_error_iff, FirstRefused]

theorem exists_mapM_change_iff : (∃ sizes, ps.mapM change = .ok sizes) ↔ ∀ p ∈ ps, ∀ error, ¬ p.Refused error := by
  constructor
  · rintro ⟨sizes, h⟩
    replace h := mapM_eq_ok_iff.1 h
    induction h with
    | nil => exact nofun
    | cons changed _ ih => exact List.forall_mem_cons.2 ⟨exists_change_iff.1 ⟨_, changed⟩, ih⟩
  · intro settable
    cases h : ps.mapM change with
    | ok sizes => exact ⟨sizes, rfl⟩
    | error error =>
      obtain ⟨before, p, after, rfl, -, refused⟩ := mapM_change_eq_error_iff.1 h
      exact absurd refused (settable p (by simp) error)

end Preference

namespace Solver

open Step

/-! ## Setting -/

section Setting

variable {B R W : Type} {s : Solver B R W}

/-- The changes leave the tile size asked for last, if any is asked for. -/
theorem foldl_applyChange {ps : List Preference} {changes : List (Option Count)}
    (changed : List.Forall₂ (fun p size => p.change = .ok size) ps changes) :
    ∃ size, changes.foldl applyChange s = s.retiled size ∧
      size.1 = (ps.filterMap Preference.size?).getLast?.getD s.tileSize.1 := by
  induction changed generalizing s with
  | nil => exact ⟨s.tileSize, rfl, rfl⟩
  | @cons p change ps changes changed _ ih =>
    have asked := Preference.size?_of_change changed
    cases change with
    | none =>
      rw [List.filterMap_cons_none asked.symm]
      exact ih
    | some size =>
      obtain ⟨last, left, asked'⟩ := ih (s := s.retiled size)
      refine ⟨last, left, ?_⟩
      rw [List.filterMap_cons_some asked.symm, List.getLast?_cons, asked']
      rfl

variable [Scalar R] [Backend B R W] {ps : List Preference}

theorem answer_setPreferences_of_error {error : PreferenceError} (h : ps.mapM Preference.change = .error error) :
    s.answer (.setPreferences ps) = (.error (.error (.preference error)), s) := by
  have set : (setPreferences ps : Action B R W Unit) s = .error (.error (.preference error)) s := by
    rw [setPreferences, h]
    rfl
  rw [answer, perform, bind_apply, set]

theorem answer_setPreferences_of_ok {changes : List (Option Count)} (h : ps.mapM Preference.change = .ok changes) :
    s.answer (.setPreferences ps) = (.ok .done, changes.foldl applyChange s) := by
  have set : (setPreferences ps : Action B R W Unit) s = .ok () (changes.foldl applyChange s) := by
    rw [setPreferences, h]
    rfl
  rw [answer, perform, bind_apply, set]
  rfl

/-- Several preferences are set together, or none of them. -/
structure SetsTogether (s : Solver B R W) (ps : List Preference) : Prop where
  done_iff : (s.answer (.setPreferences ps)).1 = .ok .done ↔ ∀ p ∈ ps, ∀ error, ¬ p.Refused error
  error_iff (ending : Halt SolverError) : (s.answer (.setPreferences ps)).1 = .error ending ↔
    ∃ error, ending = .error (.preference error) ∧ Preference.FirstRefused ps error
  /-- What fails changes nothing. -/
  unchanged : (s.answer (.setPreferences ps)).1 ≠ .ok .done → (s.answer (.setPreferences ps)).2 = s
  /-- What is done changes the tile size asked for to the last one in the list, if there is one. -/
  retiled : (s.answer (.setPreferences ps)).1 = .ok .done →
    ∃ size : Count, (s.answer (.setPreferences ps)).2 = s.retiled size ∧
      size.1 = (ps.filterMap Preference.size?).getLast?.getD s.tileSize.1

theorem setsTogether (s : Solver B R W) (ps : List Preference) : s.SetsTogether ps := by
  cases h : ps.mapM Preference.change with
  | error error =>
    have first : Preference.FirstRefused ps error := Preference.mapM_change_eq_error_iff.1 h
    have answered := answer_setPreferences_of_error (s := s) h
    have failed : (s.answer (.setPreferences ps)).1 ≠ .ok .done := by rw [answered]; nofun
    constructor
    · refine ⟨fun done => absurd done failed, fun settable => ?_⟩
      obtain ⟨sizes, h'⟩ := Preference.exists_mapM_change_iff.2 settable
      cases h.symm.trans h'
    · intro ending
      rw [answered]
      constructor
      · rintro ⟨⟩
        exact ⟨error, rfl, first⟩
      · rintro ⟨other, rfl, first'⟩
        cases h.symm.trans (Preference.mapM_change_eq_error_iff.2 first')
        rfl
    · exact fun _ => congrArg Prod.snd answered
    · exact fun done => absurd done failed
  | ok changes =>
    have answered := answer_setPreferences_of_ok (s := s) h
    have done : (s.answer (.setPreferences ps)).1 = .ok .done := congrArg Prod.fst answered
    constructor
    · exact ⟨fun _ => Preference.exists_mapM_change_iff.1 ⟨changes, h⟩, fun _ => done⟩
    · intro ending
      constructor
      · intro failed
        cases done.symm.trans failed
      · rintro ⟨error, -, first⟩
        cases h.symm.trans (Preference.mapM_change_eq_error_iff.2 first)
    · exact fun failed => absurd done failed
    · intro _
      obtain ⟨size, left, asked⟩ := foldl_applyChange (s := s) (mapM_eq_ok_iff.1 h)
      exact ⟨size, (congrArg Prod.snd answered).trans left, asked⟩

/-- A preference by itself is set as in a list of one. -/
theorem answer_setPreference (s : Solver B R W) (p : Preference) :
    s.answer (.setPreference p) = s.answer (.setPreferences [p]) := by
  cases h : p.change with
  | error error =>
    have refused : [p].mapM Preference.change = .error error := by rw [List.mapM_cons, h]; rfl
    have failed : (setPreference p : Action B R W Unit) s = .error (.error (.preference error)) s := by
      rw [setPreference, h]
      rfl
    rw [answer_setPreferences_of_error refused, answer, perform, bind_apply, failed]
  | ok change =>
    have settable : [p].mapM Preference.change = .ok [change] := by rw [List.mapM_cons, h]; rfl
    have done : (setPreference p : Action B R W Unit) s = .ok () (s.applyChange change) := by
      rw [setPreference, h]
      rfl
    rw [answer_setPreferences_of_ok settable, answer, perform, bind_apply, done]
    rfl

/-- A preference in words is set as the one that is parsed, if there is one. -/
theorem answer_setPreferenceText (s : Solver B R W) (name value : String) :
    s.answer (.setPreferenceText name value) =
      match Preference.parse name value with
      | .ok p => s.answer (.setPreference p)
      | .error error => (.error (.error (.preference error)), s) := by
  rw [answer, perform, setPreferenceText]
  cases Preference.parse name value <;> rfl

end Setting

/-! ## Scans under way -/

variable {B R W : Type} [Scalar R] [Backend B R W]

/-- Preparation that succeeds leaves the solver prepared. -/
theorem isPrepared_of_prepare {s s' : Solver B R W} {reply : Reply R} (done : s.answer .prepare = (.ok reply, s')) :
    s'.lifecycle.isPrepared = true := by
  have answered : Post (perform .prepare) s (fun _ t => t.lifecycle.isPrepared = true) fun _ _ => True := by
    rw [perform, post_bind]
    refine (post_prepare_schedule s).mono ?_ fun _ _ _ => trivial
    rintro _ t ⟨prepared, -⟩
    exact congrArg Lifecycle.isPrepared prepared
  exact of_answer_ok answered done

/-- What a run shows: of every call that neither sets nor shows preferences how it ends, and the lifecycle and the tile
size in use after it. -/
def shown (s : Solver B R W) : List (Call R) → List (Outcome R × Lifecycle × Option Count)
  | [] => []
  | call :: calls =>
    let (outcome, s) := s.answer call
    if call.setsPreferences || call.showsPreferences then shown s calls
    else (outcome, s.lifecycle, s.tileInUse) :: shown s calls

section Shown

variable {s : Solver B R W} {call : Call R} {calls : List (Call R)}

theorem shown_cons_of_unseen (unseen : (call.setsPreferences || call.showsPreferences) = true) :
    s.shown (call :: calls) = (s.answer call).2.shown calls := if_pos unseen

theorem shown_cons_of_seen (sets : call.setsPreferences = false) (shows : call.showsPreferences = false) :
    s.shown (call :: calls) =
      ((s.answer call).1, (s.answer call).2.lifecycle, (s.answer call).2.tileInUse) :: (s.answer call).2.shown calls :=
  if_neg (by rw [sets, shows]; decide)

/-- A prepared solver that is asked for tiles of any size shows what it would show without the calls that set
preferences, and only the tile size asked for tells what it leaves from what it would leave. -/
theorem shown_retiled (prepared : s.lifecycle.isPrepared = true) (goesOn : ∀ call ∈ calls, call.startsOver = false)
    (size : Count) :
    (s.retiled size).shown calls = s.shown (calls.filter (!·.setsPreferences)) ∧
      ∃ size', ((s.retiled size).run calls).2 = (s.run (calls.filter (!·.setsPreferences))).2.retiled size' := by
  induction calls generalizing s size with
  | nil => exact ⟨rfl, size, rfl⟩
  | cons call calls ih =>
    obtain ⟨next, goesOn⟩ := List.forall_mem_cons.1 goesOn
    cases sets : call.setsPreferences with
    | true =>
      obtain ⟨size', left⟩ := exists_retiled_of_setsPreferences (s.retiled size) sets
      rw [List.filter_cons_of_neg (by rw [sets]; decide), shown_cons_of_unseen (by rw [sets]; rfl), run_cons, left]
      exact ih prepared goesOn size'
    | false =>
      rw [List.filter_cons_of_pos (by rw [sets]; rfl), run_cons, run_cons]
      cases shows : call.showsPreferences with
      | true =>
        have unseen : (call.setsPreferences || call.showsPreferences) = true := by rw [sets, shows]; rfl
        rw [shown_cons_of_unseen unseen, shown_cons_of_unseen unseen, answer_of_showsPreferences _ shows,
          answer_of_showsPreferences _ shows]
        exact ih prepared goesOn size
      | false =>
        obtain ⟨rest, left⟩ := ih (isPrepared_answer prepared next sets shows) goesOn size
        rw [shown_cons_of_seen sets shows, shown_cons_of_seen sets shows, answer_retiled prepared next sets shows]
        exact ⟨congrArg _ rest, left⟩

end Shown

/-- **Preferences are set together or not at all, and wait for the next preparation.** Whatever state a solver is in,
several preferences are set exactly if none is a tile size of zero, a precision or a device. Otherwise the error is that
of the first such one and the solver is as it was; what is set changes nothing but the tile size asked for, to the last
one in the list. From a successful preparation on, for as long as no problem is taken up, nothing is prepared again and
nothing is released, two runs that differ only in the calls that set preferences show the same: the rounds, the results,
the reads, the lifecycle and the tile size in use. Only the tile size asked for tells the solvers they leave apart. -/
theorem preferences_wait (s : Solver B R W) :
    (∀ ps : List Preference, s.SetsTogether ps) ∧
    (∀ reply s', s.answer .prepare = (.ok reply, s') → s'.lifecycle.isPrepared = true) ∧
    (s.lifecycle.isPrepared = true → ∀ calls calls' : List (Call R),
      (∀ call ∈ calls, call.startsOver = false) → (∀ call ∈ calls', call.startsOver = false) →
      calls.filter (!·.setsPreferences) = calls'.filter (!·.setsPreferences) →
        s.shown calls = s.shown calls' ∧ ∃ size, (s.run calls).2 = (s.run calls').2.retiled size) := by
  refine ⟨setsTogether s, fun reply s' done => isPrepared_of_prepare done, ?_⟩
  intro prepared calls calls' goesOn goesOn' same
  obtain ⟨shows, size, left⟩ := shown_retiled prepared goesOn s.tileSize
  obtain ⟨shows', size', left'⟩ := shown_retiled prepared goesOn' s.tileSize
  rw [same] at shows left
  refine ⟨shows.trans shows'.symm, size, ?_⟩
  calc (s.run calls).2
      = (s.run (calls'.filter (!·.setsPreferences))).2.retiled size := left
    _ = ((s.run (calls'.filter (!·.setsPreferences))).2.retiled size').retiled size := rfl
    _ = (s.run calls').2.retiled size := congrArg (retiled size) left'.symm

theorem two_threads_pos : (0 : UInt64) < 2 := by decide

/-- A solver with three variables, prepared for tiles of two. -/
def preparedForTwo : OnProcessor Float :=
  OnProcessor.after ⟨2, two_threads_pos⟩
    [.setProblem (Matrix.identity Float 3) .minimize, .setPreference (.tileSize 2), .prepare]

/-- A round, solutions and energies. -/
def roundOnly : List (Call Float) := [.scanRound, .gatherSolutions, .energies]

/-- The same with preferences set in between, two of them in vain. -/
def roundWithSettings : List (Call Float) :=
  [.setPreferences [.tileSize 1024, .algorithm .default, .tileSize 5], .scanRound, .setPreference (.tileSize 0),
    .gatherSolutions, .setPreferenceText "precision" "f64", .selectAlgorithm .default, .energies]

/-- The calls in between leave no trace but the tile size asked for. -/
theorem preferences_wait_preparedForTwo :
    preparedForTwo.lifecycle.isPrepared = true ∧ (preparedForTwo.shown roundOnly).length = 3 ∧
      preparedForTwo.shown roundWithSettings = preparedForTwo.shown roundOnly ∧
      (preparedForTwo.run roundWithSettings).2 = (preparedForTwo.run roundOnly).2.retiled ⟨5, by decide⟩ := by
  have prepared : preparedForTwo.lifecycle.isPrepared = true := by decide +kernel
  obtain ⟨-, -, waits⟩ := preferences_wait preparedForTwo
  obtain ⟨shown, size, left⟩ := waits prepared roundWithSettings roundOnly (by decide) (by decide) rfl
  have asked : (preparedForTwo.run roundWithSettings).2.tileSize = ⟨5, by decide⟩ := by decide +kernel
  obtain rfl : size = ⟨5, by decide⟩ := by rw [← asked, left]; rfl
  exact ⟨prepared, rfl, shown, left⟩

end Solver

end BinaryQuadratic
