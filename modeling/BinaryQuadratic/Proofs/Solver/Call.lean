import BinaryQuadratic.Proofs.Admission
import BinaryQuadratic.Proofs.Solver.Refusal
import BinaryQuadratic.Solver.Call

/-!
# Calls and runs

Every call keeps the invariant, however it ends, and the problem of a solver is the last one that could be posed: the
problem of the last weights that were admissible (`lastPosed_eq_some_iff`).
-/

namespace BinaryQuadratic.Solver

open Step Reliable

/-- The problem that a call poses, if it does. -/
def Call.posed {R : Type} [Scalar R] : Call R → Option (Problem R)
  | .setProblem w d => (Problem.pose w d).toOption
  | _ => none

/-- The last problem that one of the calls posed. -/
def lastPosed {R : Type} [Scalar R] (calls : List (Call R)) : Option (Problem R) := calls.reverse.findSome? Call.posed

theorem lastPosed_cons {R : Type} [Scalar R] (call : Call R) (calls : List (Call R)) :
    lastPosed (call :: calls) = (lastPosed calls).or call.posed := by
  rw [lastPosed, List.reverse_cons, List.findSome?_append, List.findSome?_singleton]
  rfl

section Posed

variable {R : Type} [Scalar R] {p : Problem R} {call : Call R} {calls : List (Call R)}

theorem Call.posed_eq_some_iff :
    call.posed = some p ↔ ∃ w d, call = .setProblem w d ∧ w.Admissible ∧ p.Represents w d := by
  constructor
  · intro posed
    cases call with
    | setProblem w d =>
      cases made : Problem.pose w d with
      | ok q =>
        rw [Call.posed, made] at posed
        cases posed
        exact ⟨w, d, rfl, Problem.pose_eq_ok_iff.1 made⟩
      | error error =>
        rw [Call.posed, made] at posed
        cases posed
    | _ => cases posed
  · rintro ⟨w, d, rfl, own⟩
    rw [Call.posed, Problem.pose_eq_ok_iff.2 own]
    rfl

theorem Call.posed_eq_none_iff : call.posed = none ↔ ∀ w d, call = .setProblem w d → ¬ w.Admissible := by
  constructor
  · rintro none w d rfl admissible
    obtain ⟨p, posed⟩ := Problem.exists_pose_iff.2 admissible
    rw [Call.posed, posed] at none
    cases none
  · intro refused
    cases call with
    | setProblem w d =>
      cases posed : Problem.pose w d with
      | ok p => exact absurd (Problem.exists_pose_iff.1 ⟨p, posed⟩) (refused w d rfl)
      | error error => rw [Call.posed, posed]; rfl
    | _ => rfl

/-- The problem is that of the weights in one of these calls. They are admissible, and those of no later call are. -/
def PosesLast (calls : List (Call R)) (p : Problem R) : Prop :=
  ∃ before w d after, calls = before ++ .setProblem w d :: after ∧ w.Admissible ∧ p.Represents w d ∧
    ∀ w' d', .setProblem w' d' ∈ after → ¬ w'.Admissible

theorem lastPosed_eq_some_iff : lastPosed calls = some p ↔ PosesLast calls p := by
  rw [lastPosed, List.findSome?_eq_some_iff]
  constructor
  · rintro ⟨later, call, earlier, split, posed, refused⟩
    obtain ⟨w, d, rfl, admissible, represents⟩ := Call.posed_eq_some_iff.1 posed
    refine ⟨earlier.reverse, w, d, later.reverse, ?_, admissible, represents, fun w' d' among => ?_⟩
    · rw [← List.reverse_reverse calls, split]
      simp
    · exact Call.posed_eq_none_iff.1 (refused _ (List.mem_reverse.1 among)) w' d' rfl
  · rintro ⟨before, w, d, after, rfl, admissible, represents, refused⟩
    refine ⟨after.reverse, .setProblem w d, before.reverse, by simp,
      Call.posed_eq_some_iff.2 ⟨w, d, rfl, admissible, represents⟩, fun call among => ?_⟩
    refine Call.posed_eq_none_iff.2 ?_
    rintro w' d' rfl
    exact refused w' d' (List.mem_reverse.1 among)

end Posed

variable {B R W : Type} [Scalar R] [Backend B R W] {s : Solver B R W}

/-- How a call ends and what it leaves, by what holds after the step that answers it. -/
theorem answer_iff (call : Call R) (outcome : Outcome R → Solver B R W → Prop) :
    outcome (s.answer call).1 (s.answer call).2 ↔
      Post (perform call) s (fun reply s' => outcome (.ok reply) s') fun ending s' => outcome (.error ending) s' := by
  unfold answer Post
  cases perform call s <;> rfl

/-- What holds of a reply and what is left, by what holds after the step that makes the reply. -/
theorem of_answer_ok {call : Call R} {ok : Reply R → Solver B R W → Prop}
    {halt : Halt SolverError → Solver B R W → Prop} {reply : Reply R} {s' : Solver B R W}
    (post : Post (perform call) s ok halt) (h : s.answer call = (.ok reply, s')) : ok reply s' := by
  have outcome := (answer_iff call fun o t => ∀ reply, o = .ok reply → ok reply t).2
    (post.mono (fun a _ holds reply same => by cases same; exact holds) fun _ _ _ _ other => nomatch other)
  rw [h] at outcome
  exact outcome reply rfl

theorem exists_answer_of_isOk {call : Call R} (done : (s.answer call).1.isOk = true) :
    ∃ reply s', s.answer call = (.ok reply, s') := by
  cases answered : s.answer call with
  | mk outcome s' =>
    rw [answered] at done
    cases outcome with
    | ok reply => exact ⟨reply, s', rfl⟩
    | error ending => exact absurd done Bool.false_ne_true

theorem exists_answer_of_not_isOk {call : Call R} (failed : (s.answer call).1.isOk = false) :
    ∃ ending, s.answer call = (.error ending, (s.answer call).2) := by
  cases answered : s.answer call with
  | mk outcome s' =>
    rw [answered] at failed
    cases outcome with
    | ok reply => exact absurd failed.symm Bool.false_ne_true
    | error ending => exact ⟨ending, rfl⟩

theorem answer_of_ok {call : Call R} {α : Type} {step : Action B R W α} {reply : α → Reply R} {a : α}
    {s' : Solver B R W} (form : perform call = do return reply (← step)) (h : step s = .ok a s') :
    s.answer call = (.ok (reply a), s') := by
  unfold answer
  rw [form, bind_apply, h]
  rfl

theorem answer_of_error {call : Call R} {α : Type} {step : Action B R W α} {reply : α → Reply R}
    {ending : Halt SolverError} {s' : Solver B R W} (form : perform call = do return reply (← step))
    (h : step s = .error ending s') : s.answer call = (.error ending, s') := by
  unfold answer
  rw [form, bind_apply, h]

theorem answer_solutions_of_complete {s' : Solver B R W} (done : complete s = .ok () s') :
    s.answer .solutions = (.ok (.solutions s'.solutions), s') :=
  answer_of_ok rfl (readSolutions_of_complete done)

theorem answer_minimumEnergy_of_complete {p : Problem R} {s' : Solver B R W} (done : complete s = .ok () s')
    (posed : s'.problem = some p) : s.answer .minimumEnergy = (.ok (.energy (p.external s'.minimum)), s') :=
  answer_of_ok rfl (readMinimum_of_complete done posed)

/-- Solutions can only be read once what was missing for a full scan is done. -/
theorem complete_of_answer_solutions {reply : Reply R} {s' : Solver B R W}
    (read : s.answer .solutions = (.ok reply, s')) : complete s = .ok () s' ∧ reply = .solutions s'.solutions := by
  cases done : complete s with
  | ok _ t =>
    obtain ⟨⟨⟩, ⟨⟩⟩ := (answer_solutions_of_complete done).symm.trans read
    exact ⟨rfl, rfl⟩
  | error ending t =>
    have halted : s.answer .solutions = (.error ending, t) := answer_of_error rfl (error_of_complete done _)
    nomatch halted.symm.trans read

theorem run_cons (call : Call R) (calls : List (Call R)) :
    s.run (call :: calls) =
      ((s.answer call).1 :: ((s.answer call).2.run calls).1, ((s.answer call).2.run calls).2) := rfl

/-- One more call after a run. -/
theorem run_concat (calls : List (Call R)) (call : Call R) :
    (s.run (calls ++ [call])).2 = ((s.run calls).2.answer call).2 := by
  induction calls generalizing s with
  | nil => rfl
  | cons first calls ih => exact ih

variable {value : Problem R → Index → R} [Reliable B value] {p : Problem R}

/-- The invariant holds of a solver on which nothing was called yet. -/
theorem faithful_fresh {b : B} (sound : ∀ p : Problem R, Sound p b ([] : List W)) :
    (fresh b : Solver B R W).Faithful value where
  hasProblem := rfl
  isPrepared := rfl
  unposed _ := rfl
  sound p _ := sound p
  length_pool := Or.inl rfl
  scanning posed := nomatch posed
  shows posed := nomatch posed

/-- What every call keeps: the invariant, the number of workers, and the problem unless another one is posed. -/
def Continues (value : Problem R → Index → R) [Reliable B value] (s : Solver B R W) (posed : Option (Problem R))
    (s' : Solver B R W) : Prop :=
  s'.Faithful value ∧ Backend.workers s'.backend = Backend.workers s.backend ∧ s'.problem = posed.or s.problem

theorem continues_self (h : s.Faithful value) : Continues value s none s := ⟨h, rfl, rfl⟩

theorem continues_of_kept {s' : Solver B R W} (h : s'.Faithful value) (kept : Kept s s') : Continues value s none s' :=
  ⟨h, kept.workers, kept.problem⟩

/-- Another tile size is for the next preparation only. -/
theorem continues_tileSize (h : s.Faithful value) (size : Count) :
    Continues value s none { s with tileSize := size } := by
  refine ⟨⟨h.hasProblem, h.isPrepared, h.unposed, h.sound, h.length_pool, ?_, h.shows⟩, rfl, rfl⟩
  intro p schedule posed scheduled
  have scanning := h.scanning posed scheduled
  exact ⟨scanning.stop, scanning.workers, scanning.length_pool, scanning.met⟩

/-! ## Calls that set preferences, or nothing -/

omit [Scalar R] [Backend B R W] in
theorem applyChange_eq (change : Option Count) : ∃ size, s.applyChange change = { s with tileSize := size } := by
  cases change with
  | none => exact ⟨s.tileSize, rfl⟩
  | some size => exact ⟨size, rfl⟩

omit [Scalar R] [Backend B R W] in
theorem foldl_applyChange_eq (changes : List (Option Count)) :
    ∃ size, changes.foldl applyChange s = { s with tileSize := size } := by
  induction changes generalizing s with
  | nil => exact ⟨s.tileSize, rfl⟩
  | cons change changes ih =>
    obtain ⟨size, eq⟩ := applyChange_eq (s := s) change
    obtain ⟨size', eq'⟩ := ih (s := { s with tileSize := size })
    exact ⟨size', by rw [List.foldl_cons, eq, eq']⟩

/-- Calls that change the tile size asked for, if anything. -/
def Call.isQuiet {R : Type} : Call R → Bool
  | .problemSize | .direction | .algorithm | .selectAlgorithm _ | .backend | .preferences | .preference _
  | .setPreference _ | .setPreferences _ | .setPreferenceText _ _ => true
  | _ => false

section Quiet

variable {ok : Solver B R W → Prop} {halt : Halt SolverError → Solver B R W → Prop}
  (keeps : ∀ size, ok { s with tileSize := size })
  (fails : ∀ cause, (∀ error, cause ≠ SolverError.device error) → halt (.error cause) s)
include keeps fails

omit [Scalar R] [Backend B R W] in
theorem post_setPreference (preference : Preference) :
    Post (setPreference preference : Action B R W Unit) s (fun _ s' => ok s') halt := by
  rw [setPreference, post_bind]
  cases preference.change with
  | error error => exact fails _ nofun
  | ok change =>
    obtain ⟨size, eq⟩ := applyChange_eq (s := s) change
    show ok (s.applyChange change)
    rw [eq]
    exact keeps size

/-- A quiet call changes the tile size asked for, or fails and changes nothing; no device has to do with it. -/
theorem post_quiet {call : Call R} (quiet : call.isQuiet = true) : Post (perform call) s (fun _ s' => ok s') halt := by
  have self : ok s := keeps s.tileSize
  cases call with
  | problemSize =>
    rw [perform, post_bind, post_current]
    cases s.problem with
    | none => exact fails _ nofun
    | some p => exact self
  | direction =>
    rw [perform, post_bind, post_current]
    cases s.problem with
    | none => exact fails _ nofun
    | some p => exact self
  | algorithm => exact self
  | selectAlgorithm requested => exact self
  | backend => exact self
  | preferences => exact self
  | preference name => exact self
  | setPreference preference =>
    rw [perform, post_bind]
    exact post_setPreference keeps fails preference
  | setPreferences preferences =>
    rw [perform, post_bind, setPreferences, post_bind]
    cases preferences.mapM Preference.change with
    | error error => exact fails _ nofun
    | ok changes =>
      obtain ⟨size, eq⟩ := foldl_applyChange_eq (s := s) changes
      show ok (changes.foldl applyChange s)
      rw [eq]
      exact keeps size
  | setPreferenceText key text =>
    rw [perform, post_bind, setPreferenceText, post_bind]
    cases Preference.parse key text with
    | error error => exact fails _ nofun
    | ok preference => exact post_setPreference keeps fails preference
  | _ => exact absurd quiet Bool.false_ne_true

omit fails in
/-- What does not depend on the tile size asked for is kept by every quiet call. -/
theorem perform_quiet {call : Call R} (quiet : call.isQuiet = true) :
    Post (perform call) s (fun _ s' => ok s') fun _ s' => ok s' :=
  post_quiet keeps (fun _ _ => keeps s.tileSize) quiet

end Quiet

/-! ## Calls that need a problem or preparation -/

section Needs

variable {α : Type} {step : Action B R W α} {inv : Solver B R W → Prop}

omit [Scalar R] [Backend B R W] in
/-- What holds after a step that needs a problem, if it holds already without one. -/
theorem post_of_posed (h : s.lifecycle.hasProblem = s.problem.isSome)
    (unposed : s.lifecycle.hasProblem = false → OutOfOrder step s)
    (self : s.lifecycle.hasProblem = false → inv s)
    (posed : ∀ p, s.problem = some p → Post step s (fun _ s' => inv s') fun _ s' => inv s') :
    Post step s (fun _ s' => inv s') fun _ s' => inv s' := by
  cases hp : s.problem with
  | none =>
    have missing : s.lifecycle.hasProblem = false := by rw [h, hp]; rfl
    exact (unposed missing).post fun _ => self missing
  | some p => exact posed p hp

omit [Scalar R] [Backend B R W] in
/-- What holds after a step that needs preparation, if it holds already without. -/
theorem post_of_prepared
    (h : s.lifecycle.isPrepared = true → ∃ p schedule, s.problem = some p ∧ s.schedule = some schedule)
    (unprepared : s.lifecycle.isPrepared = false → OutOfOrder step s)
    (self : s.lifecycle.isPrepared = false → inv s)
    (prepared : ∀ p schedule, s.problem = some p → s.schedule = some schedule →
      Post step s (fun _ s' => inv s') fun _ s' => inv s') :
    Post step s (fun _ s' => inv s') fun _ s' => inv s' := by
  cases ready : s.lifecycle.isPrepared with
  | false => exact (unprepared ready).post fun _ => self ready
  | true =>
    obtain ⟨p, schedule, posed, scheduled⟩ := h ready
    exact prepared p schedule posed scheduled

end Needs

omit [Scalar R] [Backend B R W] in
/-- What a step keeps does not depend on the reply that is made of its result. -/
theorem post_reply {α β : Type} {step : Action B R W α} {reply : α → β} {inv : Solver B R W → Prop}
    (h : Post step s (fun _ s' => inv s') fun _ s' => inv s') :
    Post (do return reply (← step) : Action B R W β) s (fun _ s' => inv s') fun _ s' => inv s' := by
  rw [post_bind]
  exact h

section Continues

variable {α : Type} {step : Action B R W α} {ok : α → Solver B R W → Prop}
  {halt : Halt SolverError → Solver B R W → Prop}

/-- A step that keeps the invariant and the problem, however it ends. -/
theorem continues_of_spec
    (spec : Post step s (fun a s' => s'.Faithful value ∧ Kept s s' ∧ ok a s')
      fun ending s' => s'.Faithful value ∧ Kept s s' ∧ halt ending s') :
    Post step s (fun _ s' => Continues value s none s') fun _ s' => Continues value s none s' := by
  refine spec.mono ?_ ?_
  · rintro _ s' ⟨faithful, kept, -⟩
    exact continues_of_kept faithful kept
  · rintro _ s' ⟨faithful, kept, -⟩
    exact continues_of_kept faithful kept

/-- A step that does so and does not end early. -/
theorem continues_of_succeeds
    (spec : Post step s (fun a s' => s'.Faithful value ∧ Kept s s' ∧ ok a s') fun _ _ => False) :
    Post step s (fun _ s' => Continues value s none s') fun _ s' => Continues value s none s' := by
  refine spec.mono ?_ fun _ _ never => never.elim
  rintro _ s' ⟨faithful, kept, -⟩
  exact continues_of_kept faithful kept

/-- A step that reads what a full scan finds. -/
theorem continues_of_completes
    (spec : Post step s (fun a s' => Completed value s p s' ∧ ok a s')
      fun ending s' => s'.Faithful value ∧ Kept s s' ∧ halt ending s') :
    Post step s (fun _ s' => Continues value s none s') fun _ s' => Continues value s none s' :=
  continues_of_spec (spec.mono (fun _ _ after => ⟨after.1.faithful, after.1.kept, after.2⟩) fun _ _ failed => failed)

end Continues

/-- Every call keeps the invariant, and no call but one that poses a problem changes the problem. -/
theorem perform_spec [Scalar.Ordered R] (h : s.Faithful value) (call : Call R) :
    Post (perform call) s (fun _ s' => Continues value s call.posed s')
      fun _ s' => Continues value s call.posed s' := by
  have self := continues_self h
  have agrees := h.hasProblem
  have ready := h.exists_of_isPrepared
  cases call with
  | setProblem w d =>
    rw [perform, post_bind]
    refine (setProblem_spec h w d).mono ?_ ?_
    · intro _ s' after
      obtain ⟨faithful, same, -, p, posed, problem, -⟩ := after
      refine ⟨faithful, same, ?_⟩
      rw [problem, Call.posed, posed]
      rfl
    · rintro ending s' ⟨rfl, error, refused, -⟩
      rw [Call.posed, refused]
      exact self
  | prepare =>
    refine post_reply (post_of_posed agrees outOfOrder_prepare (fun _ => self) fun p posed => ?_)
    exact continues_of_spec (prepare_spec h posed)
  | scanRound =>
    refine post_reply (post_of_prepared ready outOfOrder_scanRound (fun _ => self) fun p schedule posed scheduled => ?_)
    exact continues_of_succeeds (scanRound_spec h posed scheduled)
  | gatherSolutions =>
    refine post_reply (post_of_prepared ready outOfOrder_gatherSolutions (fun _ => self)
      fun p schedule posed scheduled => ?_)
    exact continues_of_succeeds (gatherSolutions_spec h posed scheduled)
  | fillEnergies =>
    refine post_reply (post_of_prepared ready outOfOrder_fillEnergies (fun _ => self)
      fun p schedule posed scheduled => ?_)
    exact continues_of_succeeds (fillEnergies_spec h posed scheduled)
  | search =>
    refine post_reply (post_of_posed agrees outOfOrder_search (fun _ => self) fun p posed => ?_)
    exact continues_of_spec (search_spec h posed)
  | release =>
    refine post_reply ((release_spec h).mono ?_ fun _ _ never => never.elim)
    intro _ s' after
    obtain ⟨faithful, same, -, problem, -⟩ := after
    exact ⟨faithful, same, problem⟩
  | solutions =>
    refine post_reply (post_of_posed agrees outOfOrder_readSolutions (fun _ => self) fun p posed => ?_)
    exact continues_of_completes (readSolutions_spec h posed)
  | energies =>
    refine post_reply (post_of_posed agrees outOfOrder_readEnergies (fun _ => self) fun p posed => ?_)
    exact continues_of_spec (readEnergies_spec h posed)
  | minimumEnergy =>
    refine post_reply (post_of_posed agrees outOfOrder_readMinimum (fun _ => self) fun p posed => ?_)
    exact continues_of_completes (readMinimum_spec h posed)
  | _ => exact perform_quiet (continues_tileSize h) rfl

variable [Scalar.Ordered R]

theorem answer_spec (h : s.Faithful value) (call : Call R) : Continues value s call.posed (s.answer call).2 :=
  (answer_iff call fun _ s' => Continues value s call.posed s').2 (perform_spec h call)

/-- A run keeps the invariant, and the problem is the last one that was posed. -/
theorem run_spec (h : s.Faithful value) (calls : List (Call R)) :
    Continues value s (lastPosed calls) (s.run calls).2 := by
  induction calls generalizing s with
  | nil => exact continues_self h
  | cons call calls ih =>
    obtain ⟨faithful, same, problem⟩ := answer_spec h call
    obtain ⟨faithful', same', problem'⟩ := ih faithful
    refine ⟨faithful', same'.trans same, ?_⟩
    rw [run_cons, lastPosed_cons]
    show ((s.answer call).2.run calls).2.problem = _
    rw [problem', problem, Option.or_assoc]

end BinaryQuadratic.Solver
