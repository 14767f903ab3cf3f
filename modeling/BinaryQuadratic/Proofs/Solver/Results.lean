import BinaryQuadratic.Proofs.Solver.Scan

/-!
# Results

Solutions are the optimum of what was scanned, and energies are made from them. Reading a result first does what is
missing for a full scan, which can only fail if workers are still to be made; what is read is then the optimum of all
indices.
-/

namespace BinaryQuadratic.Solver

open Step Reliable

variable {B R W : Type} [Scalar R] [Scalar.Ordered R] [Backend B R W] {value : Problem R → Index → R}
  [Reliable B value] {s : Solver B R W} {p : Problem R} {schedule : Schedule}

/-! ## Making solutions and energies -/

/-- Making solutions shows the optimum of what was scanned, and clears the energies, but they do not cease to count as
available. -/
theorem gatherSolutions_spec (h : s.Faithful value) (posed : s.problem = some p)
    (scheduled : s.schedule = some schedule) :
    Post (gatherSolutions : Action B R W Unit) s
      (fun _ s' => s'.Faithful value ∧ Kept s s' ∧ s'.schedule = some schedule ∧
        s'.Shows (value p) p.size schedule.cursor.toNat ∧ s'.energies = [] ∧
        s'.lifecycle = .prepared true s.lifecycle.hasEnergy) fun _ _ => False := by
  have scanning := h.scanning posed scheduled
  have prepared := h.isPrepared_of_schedule scheduled
  have inUse : s.tileInUse = some schedule.tileSize := by rw [tileInUse, scheduled]; rfl
  have reported := scanning.merge_spec schedule.tileSize.1.toNat
  rw [gatherSolutions, post_bind, post_require, Lifecycle.requirePrepared_of_isPrepared prepared]
  simp only [post_bind, post_get, inUse]
  refine (post_current_of posed).2 ?_
  simp only [post_modify, post_moveOn, Lifecycle.gainSolution_of_isPrepared prepared]
  refine ⟨?_, ⟨rfl, rfl, rfl⟩, scheduled, ⟨schedule.tileSize, inUse, reported⟩, trivial, trivial⟩
  refine Faithful.of_scanning rfl posed scheduled (h.sound p (Or.inl posed)) ?_ (h.fits scanning) fun _ => ?_
  · exact ⟨scanning.stop, scanning.workers, scanning.length_pool, scanning.met⟩
  · exact ⟨schedule.tileSize, inUse, reported⟩

omit [Scalar.Ordered R] in
/-- Making energies of solutions that are available. -/
theorem replicate_spec (h : s.Faithful value) (posed : s.problem = some p) (scheduled : s.schedule = some schedule)
    (available : s.lifecycle.hasSolution = true) :
    Post (do
        let problem ← current
        modify fun s => { s with energies := List.replicate (max s.solutions.length 1) (problem.external s.minimum) }
        moveOn Lifecycle.gainEnergy : Action B R W Unit) s
      (fun _ s' => s'.Faithful value ∧ Kept s s' ∧ s'.schedule = some schedule ∧
        s'.Shows (value p) p.size schedule.cursor.toNat ∧ s'.minimum = s.minimum ∧ s'.solutions = s.solutions ∧
        s'.energies = List.replicate (max s.solutions.length 1) (p.external s.minimum) ∧
        s'.lifecycle = .prepared true true) fun _ _ => False := by
  have scanning := h.scanning posed scheduled
  have prepared := h.isPrepared_of_schedule scheduled
  have shows := h.shows posed scheduled available
  rw [post_bind]
  refine (post_current_of posed).2 ?_
  simp only [post_bind, post_modify, post_moveOn, Lifecycle.gainEnergy_of_isPrepared prepared, available]
  refine ⟨?_, ⟨rfl, rfl, rfl⟩, scheduled, shows, trivial, trivial, trivial, trivial⟩
  refine Faithful.of_scanning rfl posed scheduled (h.sound p (Or.inl posed)) ?_ (h.fits scanning) fun _ => shows
  exact ⟨scanning.stop, scanning.workers, scanning.length_pool, scanning.met⟩

/-- Energies are one for each solution, at least one, in the direction of the problem; solutions that are missing are
made first. -/
theorem fillEnergies_spec (h : s.Faithful value) (posed : s.problem = some p) (scheduled : s.schedule = some schedule) :
    Post (fillEnergies : Action B R W Unit) s
      (fun _ s' => s'.Faithful value ∧ Kept s s' ∧ s'.schedule = some schedule ∧
        s'.Shows (value p) p.size schedule.cursor.toNat ∧
        (s.lifecycle.hasSolution = true → s'.minimum = s.minimum ∧ s'.solutions = s.solutions) ∧
        s'.energies = List.replicate (max s'.solutions.length 1) (p.external s'.minimum) ∧
        s'.lifecycle = .prepared true true) fun _ _ => False := by
  have prepared := h.isPrepared_of_schedule scheduled
  rw [fillEnergies, post_bind, post_require, Lifecycle.requirePrepared_of_isPrepared prepared]
  simp only [post_bind, post_get]
  by_cases available : s.lifecycle.hasSolution = true
  · rw [if_pos available]
    refine (replicate_spec h posed scheduled available).mono ?_ fun _ _ never => never
    intro _ s' after
    obtain ⟨faithful, kept, scheduled', shows, minimum, solutions, energies, lifecycle⟩ := after
    rw [minimum, solutions]
    exact ⟨faithful, kept, scheduled', shows, fun _ => ⟨rfl, rfl⟩, energies, lifecycle⟩
  · rw [if_neg available, post_bind]
    refine (gatherSolutions_spec h posed scheduled).mono ?_ fun _ _ never => never
    intro _ s' after
    obtain ⟨faithful, kept, scheduled', -, -, lifecycle⟩ := after
    have made : s'.lifecycle.hasSolution = true := by rw [lifecycle]; rfl
    refine (replicate_spec faithful (kept.problem.trans posed) scheduled' made).mono ?_ fun _ _ never => never
    intro _ s'' after
    obtain ⟨faithful', kept', scheduled'', shows, minimum, solutions, energies, lifecycle'⟩ := after
    rw [minimum, solutions]
    exact ⟨faithful', kept.trans kept', scheduled'', shows, fun already => absurd already available, energies,
      lifecycle'⟩

/-! ## Full scans -/

/-- The solver went through every index and shows their optimum. -/
structure Finished (value : Problem R → Index → R) (s : Solver B R W) (p : Problem R) : Prop where
  problem : s.problem = some p
  complete : s.isComplete = true
  available : s.lifecycle.hasSolution = true
  shows : s.Shows (value p) p.size (2 ^ p.size)

omit [Scalar.Ordered R] in
/-- Host memory can hold the pool of a solver that went through every index. -/
theorem Faithful.fits_of_finished (h : s.Faithful value) (finished : Finished value s p) :
    HostMemory.Fits (Backend.workers s.backend).1.toNat (Backend.workerBytes B) := by
  obtain ⟨q, schedule, posed, scheduled⟩ :=
    h.exists_of_isPrepared (Lifecycle.isPrepared_of_hasSolution finished.available)
  exact h.fits (h.scanning posed scheduled)

/-- A search starts over and scans every index. -/
theorem search_spec (h : s.Faithful value) (posed : s.problem = some p) :
    Post (search : Action B R W Unit) s
      (fun _ s' => s'.Faithful value ∧ Kept s s' ∧ Finished value s' p ∧ s'.lifecycle = .prepared true false)
      fun ending s' => s'.Faithful value ∧ Kept s s' ∧ s'.lifecycle = .assigned ∧ s.Refuses p ending s'.backend := by
  rw [search, post_bind]
  refine (prepare_spec h posed).mono ?_ fun _ _ refused => refused
  intro _ s₁ after
  obtain ⟨faithful₁, kept₁, started₁, scheduled₁⟩ := after
  have posed₁ := kept₁.problem.trans posed
  rw [post_bind]
  refine (scanRest_spec faithful₁ posed₁ scheduled₁).mono ?_ fun _ _ never => never.elim
  intro _ s₂ after
  obtain ⟨faithful₂, kept₂, ⟨last, scheduled₂, every, -⟩, none, some⟩ := after
  have posed₂ := kept₂.problem.trans posed₁
  -- rounds leave nothing available, whether there are any or not
  have started₂ : s₂.lifecycle = .prepared false false := by
    cases complete : s₁.isComplete with
    | true => rw [none complete, started₁]
    | false => exact some complete
  refine (gatherSolutions_spec faithful₂ posed₂ scheduled₂).mono ?_ fun _ _ never => never.elim
  intro _ s₃ after
  obtain ⟨faithful₃, kept₃, scheduled₃, shows, -, lifecycle⟩ := after
  have posed₃ := kept₃.problem.trans posed₂
  refine ⟨faithful₃, (kept₁.trans kept₂).trans kept₃, ⟨posed₃, ?_, ?_, ?_⟩, ?_⟩
  · rw [faithful₃.isComplete_eq scheduled₃, every]
  · rw [lifecycle]
    rfl
  · exact faithful₃.shows_all posed₃ scheduled₃ every shows
  · rw [lifecycle, started₂]
    rfl

/-- How a solver is left when what was missing for a full scan was done, and no more. -/
structure Completed (value : Problem R → Index → R) [Reliable B value] (s : Solver B R W) (p : Problem R)
    (s' : Solver B R W) : Prop where
  faithful : s'.Faithful value
  kept : Kept s s'
  finished : Finished value s' p
  /-- Nothing was missing. -/
  same : s.isComplete = true → s.lifecycle.hasSolution = true → s' = s
  hasEnergy : s.isComplete = false ∨ s.lifecycle.hasEnergy = false → s'.lifecycle.hasEnergy = false
  tileInUse : s'.tileInUse = if s.lifecycle.isPrepared then s.tileInUse else some (s.tileFor p)

/-- The rounds that are left, and solutions unless they are there already. -/
theorem finish_spec (h : s.Faithful value) (posed : s.problem = some p) (scheduled : s.schedule = some schedule) :
    Post (do
        scanRest
        unless (← get).lifecycle.hasSolution do gatherSolutions : Action B R W Unit) s
      (fun _ s' => Completed value s p s') fun _ _ => False := by
  rw [post_bind]
  refine (scanRest_spec h posed scheduled).mono ?_ fun _ _ never => never
  intro _ s₁ after
  obtain ⟨faithful₁, kept₁, ⟨last, scheduled₁, every, tile⟩, none, some⟩ := after
  have posed₁ := kept₁.problem.trans posed
  have inUse {s₂ : Solver B R W} (scheduled₂ : s₂.schedule = .some last) :
      s₂.tileInUse = if s.lifecycle.isPrepared then s.tileInUse else .some (s.tileFor p) := by
    rw [h.isPrepared_of_schedule scheduled, if_pos rfl, tileInUse, tileInUse, scheduled, scheduled₂, Option.map_some,
      Option.map_some, tile]
  have complete₁ : s₁.isComplete = true := by rw [faithful₁.isComplete_eq scheduled₁, every]
  -- rounds clear what was made before, and without rounds nothing changes
  have energy₁ : s.isComplete = false ∨ s.lifecycle.hasEnergy = false → s₁.lifecycle.hasEnergy = false := by
    intro lacking
    cases complete : s.isComplete with
    | true =>
      rw [none complete]
      exact lacking.resolve_left (by rw [complete]; exact Bool.noConfusion)
    | false =>
      rw [some complete]
      rfl
  rw [post_bind, post_get]
  by_cases available : s₁.lifecycle.hasSolution = true
  · rw [if_pos available, post_pure]
    have shows := faithful₁.shows_all posed₁ scheduled₁ every (faithful₁.shows posed₁ scheduled₁ available)
    exact ⟨faithful₁, kept₁, ⟨posed₁, complete₁, available, shows⟩, fun complete _ => none complete, energy₁,
      inUse scheduled₁⟩
  · rw [if_neg available]
    refine (gatherSolutions_spec faithful₁ posed₁ scheduled₁).mono ?_ fun _ _ never => never
    intro _ s₂ after
    obtain ⟨faithful₂, kept₂, scheduled₂, shows, -, lifecycle⟩ := after
    have posed₂ := kept₂.problem.trans posed₁
    refine ⟨faithful₂, kept₁.trans kept₂, ⟨posed₂, ?_, ?_, ?_⟩, ?_, ?_, inUse scheduled₂⟩
    · rw [faithful₂.isComplete_eq scheduled₂, every]
    · rw [lifecycle]
      rfl
    · exact faithful₂.shows_all posed₂ scheduled₂ every shows
    · intro complete already
      rw [none complete] at available
      exact absurd already available
    · intro lacking
      rw [lifecycle]
      exact energy₁ lacking

/-- What is missing for a full scan is done: preparing, rounds, solutions. -/
theorem complete_spec (h : s.Faithful value) (posed : s.problem = some p) :
    Post (complete : Action B R W Unit) s
      (fun _ s' => Completed value s p s')
      fun ending s' => s'.Faithful value ∧ Kept s s' ∧ s'.lifecycle = .assigned ∧
        s.lifecycle.isPrepared = false ∧ s.Refuses p ending s'.backend := by
  have allowed : s.lifecycle.hasProblem = true := by rw [h.hasProblem, posed]; rfl
  rw [complete, post_bind, post_require, Lifecycle.requireProblem_of_hasProblem allowed]
  simp only [post_bind, post_get]
  by_cases prepared : s.lifecycle.isPrepared = true
  · -- a scan that was begun is finished
    obtain ⟨q, schedule, posed', scheduled⟩ := h.exists_of_isPrepared prepared
    rw [if_pos prepared]
    exact (finish_spec h posed scheduled).mono (fun _ _ done => done) fun _ _ never => never.elim
  · -- otherwise it is begun first
    have unprepared : s.lifecycle.isPrepared = false := Bool.eq_false_iff.2 prepared
    have incomplete : s.isComplete = false := by rw [isComplete, unprepared, Bool.false_and]
    rw [if_neg prepared, post_bind]
    refine (prepare_spec h posed).mono ?_ ?_
    · intro _ s₁ after
      obtain ⟨faithful₁, kept₁, started₁, scheduled₁⟩ := after
      refine (finish_spec faithful₁ (kept₁.problem.trans posed) scheduled₁).mono ?_ fun _ _ never => never.elim
      intro _ s₂ done
      refine ⟨done.faithful, kept₁.trans done.kept, done.finished, ?_, fun _ => done.hasEnergy (Or.inr ?_), ?_⟩
      · intro complete
        rw [incomplete] at complete
        nomatch complete
      · rw [started₁]
        rfl
      · rw [if_neg prepared, done.tileInUse, faithful₁.isPrepared_of_schedule scheduled₁, if_pos rfl, tileInUse,
          scheduled₁]
        rfl
    · intro ending s₁ ended
      obtain ⟨faithful₁, kept₁, left, refused⟩ := ended
      exact ⟨faithful₁, kept₁, left, unprepared, refused⟩

/-! ## Reading -/

section Complete

variable {s' : Solver B R W}

omit [Scalar.Ordered R] [Reliable B value] in
/-- Nothing is read if what is missing for a full scan cannot be done. -/
theorem error_of_complete {α : Type} {ending : Halt SolverError} (halted : complete s = .error ending s')
    (next : Unit → Action B R W α) : (complete >>= next) s = .error ending s' := by
  rw [bind_apply, halted]

omit [Scalar.Ordered R] [Reliable B value] in
theorem readSolutions_of_complete (done : complete s = .ok () s') : readSolutions s = .ok s'.solutions s' := by
  rw [readSolutions, bind_apply, done]
  rfl

omit [Scalar.Ordered R] [Reliable B value] in
theorem readMinimum_of_complete (done : complete s = .ok () s') (posed : s'.problem = some p) :
    readMinimum s = .ok (p.external s'.minimum) s' := by
  have read : Post readMinimum s (fun energy s'' => energy = p.external s'.minimum ∧ s'' = s') fun _ _ => False := by
    rw [readMinimum, post_bind]
    refine post_of_eq_ok done ?_
    rw [post_bind]
    exact (post_current_of posed).2 ⟨rfl, rfl⟩
  obtain ⟨_, _, read, rfl, rfl⟩ := read.exists_ok
  exact read

end Complete

/-- The solutions that are read are those of a full scan. -/
theorem readSolutions_spec (h : s.Faithful value) (posed : s.problem = some p) :
    Post (readSolutions : Action B R W (List Assignment)) s
      (fun reply s' => Completed value s p s' ∧ reply = s'.solutions)
      fun ending s' => s'.Faithful value ∧ Kept s s' ∧ s'.lifecycle = .assigned ∧
        s.lifecycle.isPrepared = false ∧ s.Refuses p ending s'.backend := by
  rw [readSolutions, post_bind]
  exact (complete_spec h posed).mono (fun _ _ done => ⟨done, rfl⟩) fun _ _ refused => refused

/-- The minimum that is read is that of a full scan, in the direction of the problem. -/
theorem readMinimum_spec (h : s.Faithful value) (posed : s.problem = some p) :
    Post (readMinimum : Action B R W R) s
      (fun reply s' => Completed value s p s' ∧ reply = p.external s'.minimum)
      fun ending s' => s'.Faithful value ∧ Kept s s' ∧ s'.lifecycle = .assigned ∧
        s.lifecycle.isPrepared = false ∧ s.Refuses p ending s'.backend := by
  rw [readMinimum, post_bind]
  refine (complete_spec h posed).mono ?_ fun _ _ refused => refused
  intro _ s' done
  rw [post_bind]
  exact (post_current_of done.finished.problem).2 ⟨done, rfl⟩

/-- Energies that count as available are read as they are, and are made otherwise. -/
theorem returnEnergies_spec (h : s.Faithful value) (finished : Finished value s p) :
    Post (do
        unless (← get).lifecycle.hasEnergy do fillEnergies
        return (← get).energies : Action B R W (List R)) s
      (fun reply s' => s'.Faithful value ∧ Kept s s' ∧ Finished value s' p ∧ reply = s'.energies ∧
        (s.lifecycle.hasEnergy = true → s' = s) ∧
        (s.lifecycle.hasEnergy = false → s'.minimum = s.minimum ∧ s'.solutions = s.solutions ∧
          s'.energies = List.replicate (max s'.solutions.length 1) (p.external s'.minimum)))
      fun _ _ => False := by
  rw [post_bind, post_get]
  by_cases ready : s.lifecycle.hasEnergy = true
  · rw [if_pos ready]
    refine ⟨h, ⟨rfl, rfl, rfl⟩, finished, rfl, fun _ => rfl, fun lacking => ?_⟩
    rw [lacking] at ready
    exact absurd ready Bool.false_ne_true
  · rw [if_neg ready]
    obtain ⟨q, schedule, posed, scheduled⟩ :=
      h.exists_of_isPrepared (Lifecycle.isPrepared_of_hasSolution finished.available)
    obtain rfl := Option.some.inj (finished.problem.symm.trans posed)
    rw [post_bind]
    refine (fillEnergies_spec h posed scheduled).mono ?_ fun _ _ never => never.elim
    intro _ s' after
    obtain ⟨faithful, kept, scheduled', shows, made, energies, lifecycle⟩ := after
    have complete : s'.isComplete = true := by
      rw [faithful.isComplete_eq scheduled', ← h.isComplete_eq scheduled]
      exact finished.complete
    have every : schedule.isComplete = true := faithful.isComplete_eq scheduled' ▸ complete
    have posed' := kept.problem.trans posed
    obtain ⟨minimum, solutions⟩ := made finished.available
    refine ⟨faithful, kept, ⟨posed', complete, ?_, ?_⟩, rfl, fun already => absurd already ready,
      fun _ => ⟨minimum, solutions, energies⟩⟩
    · rw [lifecycle]
      rfl
    · exact faithful.shows_all posed' scheduled' every shows

/-- The energies that are read are those of the solutions, unless they count as available already: then they are read
as they are. -/
theorem readEnergies_spec (h : s.Faithful value) (posed : s.problem = some p) :
    Post (readEnergies : Action B R W (List R)) s
      (fun reply s' => s'.Faithful value ∧ Kept s s' ∧ Finished value s' p ∧ reply = s'.energies ∧
        (s.isComplete = true → s.lifecycle.hasSolution = true → s.lifecycle.hasEnergy = true → s' = s) ∧
        (s.isComplete = false ∨ s.lifecycle.hasEnergy = false →
          s'.energies = List.replicate (max s'.solutions.length 1) (p.external s'.minimum)))
      fun ending s' => s'.Faithful value ∧ Kept s s' ∧ s'.lifecycle = .assigned ∧
        s.lifecycle.isPrepared = false ∧ s.Refuses p ending s'.backend := by
  rw [readEnergies, post_bind]
  refine (complete_spec h posed).mono ?_ fun _ _ refused => refused
  intro _ s₁ done
  refine (returnEnergies_spec done.faithful done.finished).mono ?_ fun _ _ never => never.elim
  intro reply s₂ after
  obtain ⟨faithful, kept, finished, read, ready, lacking⟩ := after
  refine ⟨faithful, done.kept.trans kept, finished, read, ?_, fun missing => (lacking (done.hasEnergy missing)).2.2⟩
  intro complete available already
  have same := done.same complete available
  rw [ready (by rw [same]; exact already), same]

end BinaryQuadratic.Solver
