import BinaryQuadratic.Proofs.Optimality.Processor

/-!
# Energies and the solutions they belong to

Whether energies count as available, and the energies themselves, are changed by different steps. Rounds only say that
there are none; making solutions only clears them. So a solver whose solutions are made once more, while its energies
count as available, goes on to show no energies at all. In every other case there is one energy for each solution, at
least one, and each is the minimum.
-/

namespace BinaryQuadratic.Solver

open Step

variable {B R W : Type} [Scalar R] [Backend B R W]

/-! ## Energies that were cleared -/

/-- Whether energies that count as available were cleared, after one more call: making solutions clears them, and
making energies, which a read does unless they count as available, makes them anew. -/
def Call.clearsEnergies (s : Solver B R W) (cleared : Bool) : Call R → Bool
  | .gatherSolutions => cleared || s.lifecycle.hasEnergy
  | .fillEnergies => false
  | .energies => cleared && (s.isComplete && s.lifecycle.hasEnergy)
  | _ => cleared

/-- Whether energies that count as available were cleared, after some more calls. -/
def clearedBy (s : Solver B R W) (cleared : Bool) : List (Call R) → Bool
  | [] => cleared
  | call :: calls => clearedBy (s.answer call).2 (call.clearsEnergies s cleared) calls

/-- One energy for each solution, at least one, each of them the minimum in the direction of the problem. -/
def energiesFor (s : Solver B R W) (p : Problem R) : List R :=
  List.replicate (max s.solutions.length 1) (p.external s.minimum)

/-- Energies that count as available are those of solutions that do, unless they were cleared. -/
structure Records (s : Solver B R W) (cleared : Bool) : Prop where
  hasSolution : s.lifecycle.hasEnergy = true → s.lifecycle.hasSolution = true
  energies {p : Problem R} : s.lifecycle.hasEnergy = true → s.problem = some p →
    s.energies = if cleared then [] else s.energiesFor p

variable {s : Solver B R W} {cleared : Bool}

omit [Backend B R W] in
/-- Nothing is recorded where energies do not count as available. -/
theorem records_of_lifecycle {l : Lifecycle} (h : s.lifecycle = l) (none : l.hasEnergy = false) :
    s.Records cleared := by
  have lacking : s.lifecycle.hasEnergy ≠ true := by
    rw [h, none]
    exact Bool.false_ne_true
  exact ⟨fun available => absurd available lacking, fun available => absurd available lacking⟩

omit [Backend B R W] in
/-- Where the energies are those of the solutions, nothing was cleared. -/
theorem records_of_eq {p : Problem R} (available : s.lifecycle.hasSolution = true) (posed : s.problem = some p)
    (h : s.energies = s.energiesFor p) : s.Records false where
  hasSolution _ := available
  energies _ posed' := by
    obtain rfl := Option.some.inj (posed.symm.trans posed')
    exact h

variable {value : Problem R → Index → R} [Reliable B value] [Scalar.Ordered R]

omit [Scalar.Ordered R] in
/-- Doing what is missing for a full scan either finds nothing missing or leaves no energies. -/
theorem Completed.same_or_none {p : Problem R} {s' : Solver B R W} (done : Completed value s p s')
    (h : s.Records cleared) :
    (s.isComplete && s.lifecycle.hasEnergy) = true ∧ s' = s ∨
      (s.isComplete && s.lifecycle.hasEnergy) = false ∧ s'.lifecycle.hasEnergy = false := by
  cases ready : s.isComplete && s.lifecycle.hasEnergy with
  | true =>
    rw [Bool.and_eq_true] at ready
    exact Or.inl ⟨rfl, done.same ready.1 (h.hasSolution ready.2)⟩
  | false =>
    rw [Bool.and_eq_false_iff] at ready
    exact Or.inr ⟨rfl, done.hasEnergy ready⟩

omit [Scalar.Ordered R] in
theorem Completed.records {p : Problem R} {s' : Solver B R W} (done : Completed value s p s') (h : s.Records cleared) :
    s'.Records cleared := by
  rcases done.same_or_none h with ⟨-, rfl⟩ | ⟨-, none⟩
  · exact h
  · exact records_of_lifecycle rfl none

omit [Scalar.Ordered R] in
/-- What is recorded after a step that leaves nothing but the problem when it ends early. -/
theorem records_of_spec {α : Type} {step : Action B R W α} {ok : α → Solver B R W → Prop}
    {halt : Halt SolverError → Solver B R W → Prop}
    (spec : Post step s ok fun ending s' => s'.Faithful value ∧ Kept s s' ∧ s'.lifecycle = .assigned ∧ halt ending s')
    (succeeds : ∀ a s', ok a s' → s'.Records cleared) :
    Post step s (fun _ s' => s'.Records cleared) fun _ s' => s'.Records cleared := by
  refine spec.mono succeeds ?_
  rintro _ s' ⟨-, -, lifecycle, -⟩
  exact records_of_lifecycle lifecycle rfl

/-- What is recorded after a call. -/
theorem perform_records (h : s.Faithful value) (recorded : s.Records cleared) (call : Call R) :
    Post (perform call) s (fun _ s' => s'.Records (call.clearsEnergies s cleared))
      fun _ s' => s'.Records (call.clearsEnergies s cleared) := by
  have unprepared {c : Bool} (h : s.lifecycle.isPrepared = false) : s.Records c :=
    records_of_lifecycle rfl (Lifecycle.hasEnergy_of_not_isPrepared h)
  have agrees := h.hasProblem
  have ready := h.exists_of_isPrepared
  cases call with
  | setProblem w d =>
    rw [perform, post_bind]
    refine (setProblem_spec h w d).mono ?_ ?_
    · intro _ s' after
      obtain ⟨-, -, -, p, -, -, lifecycle⟩ := after
      exact records_of_lifecycle lifecycle rfl
    · rintro ending s' ⟨rfl, -⟩
      exact recorded
  | prepare =>
    refine post_reply (post_of_posed agrees outOfOrder_prepare (fun _ => recorded) fun p posed => ?_)
    refine records_of_spec (prepare_spec h posed) fun _ s' after => ?_
    obtain ⟨-, -, lifecycle, -⟩ := after
    exact records_of_lifecycle lifecycle rfl
  | scanRound =>
    refine post_reply (post_of_prepared ready outOfOrder_scanRound (fun _ => recorded)
      fun p schedule posed scheduled => ?_)
    refine (scanRound_spec h posed scheduled).mono ?_ fun _ _ never => never.elim
    intro _ s' after
    obtain ⟨-, -, lifecycle, -⟩ := after
    exact records_of_lifecycle lifecycle rfl
  | gatherSolutions =>
    refine post_reply (post_of_prepared ready outOfOrder_gatherSolutions unprepared
      fun p schedule posed scheduled => ?_)
    refine (gatherSolutions_spec h posed scheduled).mono ?_ fun _ _ never => never.elim
    intro _ s' after
    obtain ⟨-, -, -, -, none, lifecycle⟩ := after
    refine ⟨fun _ => by rw [lifecycle]; rfl, fun available _ => ?_⟩
    -- they count as available only if they did so before, and then they are cleared now
    have already : s.lifecycle.hasEnergy = true := by rwa [lifecycle] at available
    rw [none, Call.clearsEnergies, already, Bool.or_true, if_pos rfl]
  | fillEnergies =>
    refine post_reply (post_of_prepared ready outOfOrder_fillEnergies unprepared fun p schedule posed scheduled => ?_)
    refine (fillEnergies_spec h posed scheduled).mono ?_ fun _ _ never => never.elim
    intro _ s' after
    obtain ⟨-, kept, -, -, -, energies, lifecycle⟩ := after
    exact records_of_eq (by rw [lifecycle]; rfl) (kept.problem.trans posed) energies
  | search =>
    refine post_reply (post_of_posed agrees outOfOrder_search (fun _ => recorded) fun p posed => ?_)
    refine records_of_spec (search_spec h posed) fun _ s' after => ?_
    obtain ⟨-, -, -, lifecycle⟩ := after
    exact records_of_lifecycle lifecycle rfl
  | release =>
    refine post_reply ((release_spec h).mono ?_ fun _ _ never => never.elim)
    intro _ s' after
    obtain ⟨-, -, -, -, lifecycle⟩ := after
    exact records_of_lifecycle lifecycle (Lifecycle.hasEnergy_invalidate _)
  | solutions =>
    refine post_reply (post_of_posed agrees outOfOrder_readSolutions (fun _ => recorded) fun p posed => ?_)
    refine records_of_spec (readSolutions_spec h posed) fun _ s' after => ?_
    obtain ⟨done, -⟩ := after
    exact done.records recorded
  | energies =>
    refine post_reply (post_of_posed agrees outOfOrder_readEnergies (fun missing => ?_) fun p posed => ?_)
    · exact unprepared (Lifecycle.isPrepared_of_not_hasProblem missing)
    refine records_of_spec (readEnergies_spec h posed) fun energies s' after => ?_
    obtain ⟨-, kept, finished, -, same, made⟩ := after
    cases ready : s.isComplete && s.lifecycle.hasEnergy with
    | true =>
      rw [Call.clearsEnergies, ready, Bool.and_true]
      rw [Bool.and_eq_true] at ready
      rw [same ready.1 (recorded.hasSolution ready.2) ready.2]
      exact recorded
    | false =>
      rw [Call.clearsEnergies, ready, Bool.and_false]
      rw [Bool.and_eq_false_iff] at ready
      exact records_of_eq finished.available finished.problem (made ready)
  | minimumEnergy =>
    refine post_reply (post_of_posed agrees outOfOrder_readMinimum (fun _ => recorded) fun p posed => ?_)
    refine records_of_spec (readMinimum_spec h posed) fun _ s' after => ?_
    obtain ⟨done, -⟩ := after
    exact done.records recorded
  | _ => exact perform_quiet (fun _ => ⟨recorded.hasSolution, recorded.energies⟩) rfl

/-- What is recorded after a run. -/
theorem run_records (h : s.Faithful value) (recorded : s.Records cleared) (calls : List (Call R)) :
    (s.run calls).2.Records (s.clearedBy cleared calls) := by
  induction calls generalizing s cleared with
  | nil => exact recorded
  | cons call calls ih =>
    have faithful := (answer_spec h call).1
    exact ih faithful ((answer_iff call fun _ s' => s'.Records _).2 (perform_records h recorded call))

/-! ## Reading -/

/-- The energies that are read are those of the solutions, except where they were cleared and count as available. -/
theorem readEnergies_of_complete {s' : Solver B R W} {p : Problem R} (done : complete s = .ok () s')
    (completed : Completed value s p s') (recorded : s.Records cleared) :
    Post readEnergies s
      (fun energies _ => energies =
        if cleared && (s.isComplete && s.lifecycle.hasEnergy) then [] else s'.energiesFor p) fun _ _ => False := by
  rw [readEnergies, post_bind]
  refine post_of_eq_ok done ?_
  refine (returnEnergies_spec completed.faithful completed.finished).mono ?_ fun _ _ never => never
  rintro energies s'' ⟨-, -, -, rfl, ready, lacking⟩
  rcases completed.same_or_none recorded with ⟨every, rfl⟩ | ⟨missing, none⟩
  · have available := (Bool.and_eq_true_iff.1 every).2
    rw [every, Bool.and_true, ready available]
    exact recorded.energies available completed.finished.problem
  · obtain ⟨minimum, solutions, made⟩ := lacking none
    rw [missing, Bool.and_false, made, minimum, solutions]
    rfl

/-! ## On the processor -/

/-- Whether energies that count as available were cleared by the last of these calls that had to do with energies. -/
def OnProcessor.energiesCleared {R : Type} [Scalar R] (threads : Count) (calls : List (Call R)) : Bool :=
  (fresh ⟨threads⟩ : OnProcessor R).clearedBy false calls

/-- **One energy for each solution, unless they were cleared.** After any calls, energies that count as available are
one for each solution, at least one, each of them the minimum, or there are none because they were cleared. Of a solver
with a problem, solutions, minimum and energies can all be read, or none can because host memory cannot hold the
workers. The energies that are read are then one for each solution, at least one, each equal to the minimum that is
read; only if the scan is complete, and energies that count as available were cleared, there are none. -/
theorem energies_eq_unless_cleared {R : Type} [Scalar R] [Scalar.Ordered R] (threads : Count) (calls : List (Call R))
    (p : Problem R) (posed : lastPosed calls = some p) :
    ((OnProcessor.after threads calls).lifecycle.hasEnergy = true →
      (OnProcessor.after threads calls).energies =
        if OnProcessor.energiesCleared threads calls then []
        else List.replicate (max (OnProcessor.after threads calls).solutions.length 1)
          (p.external (OnProcessor.after threads calls).minimum)) ∧
    if HostMemory.Fits threads.1.toNat (Backend.workerBytes (Threads R)) then
      ∃ (solutions : List Assignment) (minimum : R) (energies : List R),
        ((OnProcessor.after threads calls).answer .solutions).1 = .ok (.solutions solutions) ∧
        ((OnProcessor.after threads calls).answer .minimumEnergy).1 = .ok (.energy minimum) ∧
        ((OnProcessor.after threads calls).answer .energies).1 = .ok (.energies energies) ∧
        energies =
          if OnProcessor.energiesCleared threads calls && ((OnProcessor.after threads calls).isComplete &&
            (OnProcessor.after threads calls).lifecycle.hasEnergy) then []
          else List.replicate (max solutions.length 1) minimum
    else
      ((OnProcessor.after threads calls).answer .solutions).1 = .error .crash ∧
      ((OnProcessor.after threads calls).answer .minimumEnergy).1 = .error .crash ∧
      ((OnProcessor.after threads calls).answer .energies).1 = .error .crash := by
  obtain ⟨faithful, workers, problem⟩ := OnProcessor.continues_after threads calls
  have recorded : (OnProcessor.after threads calls).Records (OnProcessor.energiesCleared threads calls) := by
    have start : (fresh ⟨threads⟩ : OnProcessor R).Records false := records_of_lifecycle rfl rfl
    exact run_records (faithful_fresh fun _ _ none => absurd none List.not_mem_nil) start calls
  generalize OnProcessor.after threads calls = s at *
  generalize OnProcessor.energiesCleared threads calls = cleared at *
  have hp : s.problem = some p := (problem.trans Option.or_none).trans posed
  have same : s.backend.threads = threads := workers
  refine ⟨fun available => recorded.energies available hp, ?_⟩
  have completes := OnProcessor.complete_cases faithful hp same
  split
  · next fits =>
    rw [if_pos fits] at completes
    obtain ⟨s', done, completed⟩ := completes
    obtain ⟨energies, s'', read, eq⟩ := (readEnergies_of_complete done completed recorded).exists_ok
    refine ⟨s'.solutions, p.external s'.minimum, energies, ?_, ?_, ?_, eq⟩
    · exact congrArg Prod.fst (answer_solutions_of_complete done)
    · exact congrArg Prod.fst (answer_minimumEnergy_of_complete done completed.finished.problem)
    · exact congrArg Prod.fst (answer_of_ok rfl read)
  · next large =>
    rw [if_neg large] at completes
    obtain ⟨s', crash⟩ := completes
    refine ⟨?_, ?_, ?_⟩
    · exact congrArg Prod.fst (answer_of_error rfl (error_of_complete crash _))
    · exact congrArg Prod.fst (answer_of_error rfl (error_of_complete crash _))
    · exact congrArg Prod.fst (answer_of_error rfl (error_of_complete crash _))

/-- Calls that make solutions once more after energies were made. -/
def gatherAgain : List (Call Float) :=
  [.setProblem (Matrix.identity Float 2) .maximize, .search, .fillEnergies, .gatherSolutions]

/-- After these calls energies count as available, but were cleared. -/
theorem energies_eq_unless_cleared_gatherAgain :
    ∃ p, lastPosed gatherAgain = some p ∧ (OnProcessor.after ⟨2, by decide⟩ gatherAgain).energies = [] ∧
      ((OnProcessor.after ⟨2, by decide⟩ gatherAgain).answer .energies).1 = .ok (.energies []) := by
  have posed : (lastPosed gatherAgain).isSome = true := by decide +kernel
  obtain ⟨p, hp⟩ := Option.isSome_iff_exists.1 posed
  obtain ⟨recorded, reads⟩ := energies_eq_unless_cleared ⟨2, by decide⟩ gatherAgain p hp
  rw [if_pos (by decide)] at reads
  obtain ⟨solutions, minimum, energies, -, -, read, eq⟩ := reads
  rw [if_pos (by decide +kernel)] at recorded eq
  rw [eq] at read
  exact ⟨p, hp, recorded (by decide +kernel), read⟩

/-- There are solutions to read, and fewer energies. -/
theorem length_energies_gatherAgain :
    ∃ (solutions : List Assignment) (energies : List Float),
      ((OnProcessor.after ⟨1, by decide⟩ gatherAgain).answer .solutions).1 = .ok (.solutions solutions) ∧
      ((OnProcessor.after ⟨1, by decide⟩ gatherAgain).answer .energies).1 = .ok (.energies energies) ∧
      energies.length ≠ max 1 solutions.length := by
  have fewer :
      (match ((OnProcessor.after ⟨1, by decide⟩ gatherAgain).answer .solutions).1,
          ((OnProcessor.after ⟨1, by decide⟩ gatherAgain).answer .energies).1 with
        | .ok (.solutions solutions), .ok (.energies energies) => decide (energies.length ≠ max 1 solutions.length)
        | _, _ => false) = true := by
    decide +kernel
  split at fewer
  · next solutions energies made read => exact ⟨solutions, energies, made, read, of_decide_eq_true fewer⟩
  · exact absurd fewer Bool.false_ne_true

end BinaryQuadratic.Solver
