import BinaryQuadratic.Proofs.Mirror

/-!
# Journals of workers

A backend whose workers keep a journal of the spans that they scanned. Journals are only for looking at: steps of the
backend and of its workers end as they do without (`Journal.mirror`). A span is entered when its scan succeeds, and a
worker that is reset begins a new journal.
-/

namespace BinaryQuadratic

open Step

/-- A backend whose workers keep journals. -/
structure Journal (B : Type) where
  backend : B

/-- A worker with the spans that it scanned since it was reset, in order. -/
structure Journaled (W : Type) where
  worker : W
  spans : List Span

/-- The indices that a worker met since it was reset, in order. -/
def Journaled.met {W : Type} (v : Journaled W) : List Index := v.spans.flatMap Span.indices

namespace Journal

variable {ε B R W α β : Type}

/-- A step on the backend, as one on the backend with journals. -/
def onBackend (see : α → β) (step : Step ε B α) : Step ε (Journal B) β := fun j =>
  match step j.backend with
  | .ok a b => .ok (see a) ⟨b⟩
  | .error ending b => .error ending ⟨b⟩

theorem post_onBackend {see : α → β} {step : Step ε B α} {j : Journal B} {ok : β → Journal B → Prop}
    {halt : Halt ε → Journal B → Prop} :
    Post (onBackend see step) j ok halt ↔
      Post step j.backend (fun a b => ok (see a) ⟨b⟩) fun ending b => halt ending ⟨b⟩ := by
  unfold Post onBackend
  cases step j.backend <;> rfl

theorem mirrors_onBackend {see : α → β} {back : β → α} (same : ∀ a, back (see a) = a) (step : Step ε B α) :
    Mirrors Journal.backend back (onBackend see step) step := by
  intro j
  unfold onBackend
  cases step j.backend with
  | ok a b => exact congrArg (EStateM.Result.ok · b) (same a).symm
  | error ending b => rfl

variable [Backend B R W]

/-- Lets a worker scan a span, and enters it. -/
def scan (span : Span) : Step SolverError (Journal B × Journaled W) Unit := fun (j, v) =>
  match Backend.scan span (j.backend, v.worker) with
  | .ok _ (b, worker) => .ok () (⟨b⟩, ⟨worker, v.spans ++ [span]⟩)
  | .error ending (b, worker) => .error ending (⟨b⟩, ⟨worker, v.spans⟩)

instance : Backend (Journal B) R (Journaled W) where
  name j := Backend.name j.backend
  workers j := Backend.workers j.backend
  workerBytes := Backend.workerBytes B
  create weights tileSize := onBackend (Journaled.mk · []) (Backend.create weights tileSize)
  discard v := onBackend id (Backend.discard v.worker)
  reset v := ⟨Backend.reset B v.worker, []⟩
  best v := Backend.best B v.worker
  scan := scan

theorem post_scan {span : Span} {j : Journal B} {v : Journaled W} {ok : Unit → Journal B × Journaled W → Prop}
    {halt : Halt SolverError → Journal B × Journaled W → Prop} :
    Post (Backend.scan span) (j, v) ok halt ↔
      Post (Backend.scan span) (j.backend, v.worker) (fun _ t => ok () (⟨t.1⟩, ⟨t.2, v.spans ++ [span]⟩))
        fun ending t => halt ending (⟨t.1⟩, ⟨t.2, v.spans⟩) := by
  show Post (scan span) (j, v) ok halt ↔ _
  unfold Post scan
  dsimp only
  cases Backend.scan span (j.backend, v.worker) <;> rfl

/-- Nothing depends on the journals. -/
theorem mirror : Backend.Mirror (Journal.backend : Journal B → B) (Journaled.worker : Journaled W → W) where
  name _ := rfl
  workers _ := rfl
  workerBytes := rfl
  create _ _ := mirrors_onBackend (fun _ => rfl) _
  discard _ := mirrors_onBackend (fun _ => rfl) _
  reset _ := rfl
  best _ := rfl
  scan span := by
    rintro ⟨j, v⟩
    show Backend.scan span (j.backend, v.worker) = outcomeMap _ _ (scan span (j, v))
    unfold scan
    dsimp only
    cases Backend.scan span (j.backend, v.worker) <;> rfl

end Journal

/-! ## Entries of a round -/

/-- The journals of a pool after a round: each span is entered by the worker at its place. -/
def entered : List (List Span) → List Span → List (List Span)
  | journals, [] => journals
  | [], _ => []
  | journal :: journals, span :: spans => (journal ++ [span]) :: entered journals spans

section Entered

variable {journals : List (List Span)} {spans : List Span}

@[simp]
theorem entered_nil (journals : List (List Span)) : entered journals [] = journals := by cases journals <;> rfl

@[simp]
theorem entered_cons_cons (journal : List Span) (journals : List (List Span)) (span : Span) (spans : List Span) :
    entered (journal :: journals) (span :: spans) = (journal ++ [span]) :: entered journals spans := rfl

theorem length_entered (enough : spans.length ≤ journals.length) :
    (entered journals spans).length = journals.length := by
  induction spans generalizing journals with
  | nil => rw [entered_nil]
  | cons span spans ih =>
    cases journals with
    | nil => exact absurd enough (Nat.not_succ_le_zero _)
    | cons journal journals =>
      rw [entered_cons_cons, List.length_cons, ih (Nat.le_of_succ_le_succ enough), List.length_cons]

/-- A round adds its spans to what the pool scanned. -/
theorem flatten_entered (enough : spans.length ≤ journals.length) :
    (entered journals spans).flatten.Perm (journals.flatten ++ spans) := by
  induction spans generalizing journals with
  | nil => rw [entered_nil, List.append_nil]
  | cons span spans ih =>
    cases journals with
    | nil => exact absurd enough (Nat.not_succ_le_zero _)
    | cons journal journals =>
      rw [entered_cons_cons, List.flatten_cons, List.flatten_cons, List.append_assoc, List.append_assoc]
      -- the first span moves past the journals of the other workers
      exact ((ih (Nat.le_of_succ_le_succ enough)).cons span |>.trans List.perm_middle.symm).append_left journal

/-- What a pool met is what stands in its journals. -/
theorem flatMap_met {W : Type} (pool : List (Journaled W)) :
    pool.flatMap Journaled.met = (pool.map (·.spans)).flatten.flatMap Span.indices := by
  rw [← List.flatMap_def, List.flatMap_assoc]
  rfl

/-- After a round the pool met the indices of its spans as well. -/
theorem met_of_entered {W : Type} {pool pool' : List (Journaled W)}
    (h : pool'.map (·.spans) = entered (pool.map (·.spans)) spans) (enough : spans.length ≤ pool.length) :
    (pool'.flatMap Journaled.met).Perm (pool.flatMap Journaled.met ++ spans.flatMap Span.indices) := by
  rw [flatMap_met, flatMap_met, h, ← List.flatMap_append]
  exact (flatten_entered (by rwa [List.length_map])).flatMap_right _

end Entered

end BinaryQuadratic
