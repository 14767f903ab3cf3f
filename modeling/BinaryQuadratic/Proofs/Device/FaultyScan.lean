import BinaryQuadratic.Proofs.Device.Stocked

/-!
# Scanning on a machine that may fail

A worker's kernels are run after whatever was queued before. If that loses the machine, the scan fails; otherwise the
worker finds its buffers and its weights as they were, and its kernels compute what they always do. A scan that fails
meets nothing further, but the worker's least energy may take in the batch already (`scanBatch_faulty`).
-/

namespace BinaryQuadratic.Device

open Step

variable {R : Type} [Scalar R] {p : Problem R} {tile : UInt64} {d : Machine R} {w : Worker R} {pool : List (Worker R)}

/-! ## Commands of a worker -/

namespace Worker

variable {m : Memory R} {batch : Span}

omit [Scalar R] in
theorem issues_of {kernel : Kernel R} (own : w.Owns p m) (inOrder : kernel.InOrder)
    (suits : ∀ operand ∈ kernel.operands, m.Suits operand.1 operand.2 ∧ operand.1 ∈ w.buffers.ids)
    (writes : ∀ id ∈ kernel.writes, id ∈ w.buffers.ids ∧ id ≠ w.buffers.weights.id) : w.Issues m (.launch kernel) := by
  refine ⟨⟨inOrder, fun operand among => (suits operand among).1⟩, fun operand among => ?_, writes⟩
  have own' := (suits operand among).2
  simp only [WorkerBuffers.ids, List.mem_cons, List.not_mem_nil, or_false] at own'
  rcases own' with same | same | same | same | same | same
  · exact same ▸ Memory.isLive_of_reals own.weights
  · exact same ▸ own.bits.isLive
  · exact same ▸ own.energies.isLive
  · exact same ▸ own.minimum.isLive
  · exact same ▸ own.selected.isLive
  · exact same ▸ own.count.isLive

omit [Scalar R] in
theorem roomReals_weights (own : w.Owns p m) : m.RoomReals w.buffers.weights (w.n * w.n) :=
  ⟨_, own.weights, Nat.le_of_eq (by rw [own.size, length_weights])⟩

omit [Scalar R] in
theorem issues_minimumCommands (own : w.Owns p m) (ordered : batch.start ≤ batch.stop)
    (short : batch.size ≤ w.batch.1.toNat) : ∀ command ∈ w.minimumCommands batch, w.Issues m command := by
  have apart := apart_of_nodup own.nodup
  have rows : batch.size * w.n ≤ w.batch.1.toNat * p.size := by
    rw [own.size]
    exact Nat.mul_le_mul_right _ short
  have bits := Memory.suits_of_roomReals (own.bits.mono rows)
  have energies := Memory.suits_of_roomReals (own.energies.mono short)
  simp only [minimumCommands, List.forall_mem_cons]
  refine ⟨issues_of own ordered ?_ ?_, issues_of own ?_ ?_ ?_, issues_of own trivial ?_ ?_, ?_⟩
  · simpa [Kernel.operands, WorkerBuffers.ids, Span.size] using bits
  · simpa [Kernel.writes, WorkerBuffers.ids] using apart.bits_weights
  · exact ⟨apart.energies_weights, apart.energies_bits⟩
  · simpa [Kernel.operands, WorkerBuffers.ids] using
      ⟨Memory.suits_of_roomReals (roomReals_weights own), bits, energies⟩
  · simpa [Kernel.writes, WorkerBuffers.ids] using apart.energies_weights
  · simpa [Kernel.operands, WorkerBuffers.ids] using ⟨energies, Memory.suits_of_roomReals own.minimum⟩
  · simpa [Kernel.writes, WorkerBuffers.ids] using apart.minimum_weights
  · exact fun _ none => absurd none List.not_mem_nil

omit [Scalar R] in
theorem issues_selectCommand (own : w.Owns p m) (short : batch.size ≤ w.batch.1.toNat) (energy : R) :
    w.Issues m (w.selectCommand batch energy) := by
  have apart := apart_of_nodup own.nodup
  refine issues_of own apart.selected_count ?_ ?_
  · simpa [Kernel.operands, WorkerBuffers.ids] using
      ⟨Memory.suits_of_roomReals (own.energies.mono short), Memory.suits_of_roomIndices (own.selected.mono short),
        Memory.suits_of_roomIndices own.count⟩
  · simpa [Kernel.writes, WorkerBuffers.ids] using ⟨apart.selected_weights, apart.count_weights⟩

/-! ## Scanning -/

variable {g : Guarded (Faulty (Machine R) R)}

/-- A command that a worker queues. -/
theorem launch_attempt (stocked : Stocked p tile g.machine pool) (hw : w ∈ pool) {kernel : Kernel R}
    (issues : w.Issues g.machine.memory (.launch kernel)) {fine : Prop} (alive : fine → g.machine.poisoned = false) :
    Attempt (launch kernel) g fine
      (fun _ d => d = g.machine.queued (.launch kernel) ∧ g.machine.poisoned = false ∧ Stocked p tile d pool)
      (Left p tile pool) := by
  refine (Attempt.launch kernel).mono alive ?_ ?_
  · rintro _ _ ⟨rfl, alive⟩
    exact ⟨rfl, alive, stocked.queued hw issues⟩
  · rintro _ rfl
    exact Or.inr stocked

/-- Waiting for a machine with these commands last in its queue: the worker's are run on what is left of the others. -/
theorem synchronize_attempt {commands : List (Command R)} (stocked : Stocked p tile g.machine pool)
    (hqueue : g.machine.queue = d.queue ++ commands) (hmemory : g.machine.memory = d.memory)
    (before : Stocked p tile d pool) {fine : Prop} (alive : fine → g.machine.poisoned = false)
    (clear : fine → g.machine.Clear) (hw : w ∈ pool) (result : Memory R → Prop)
    (run : ∀ m, Command.runAll d.queue d.memory = .ok () m → w.Owns p m → Post (Command.runAll commands) m
      (fun _ m' => w.Owns p m' ∧ Memory.SameOutside w.buffers.ids m m' ∧ result m') fun _ _ => False) :
    Attempt synchronize g fine
      (fun _ d' => d'.poisoned = false ∧ d'.queue = [] ∧ Stocked p tile d' pool ∧ result d'.memory)
      (Left p tile pool) := by
  refine Attempt.synchronize.mono (fun good => ⟨alive good, stocked.exists_runAll (clear good)⟩) ?_ ?_
  · rintro _ _ ⟨held, m', ran, rfl⟩
    rw [hqueue, hmemory] at ran
    obtain ⟨m, old, new⟩ := Command.runAll_append_eq_ok ran
    have left := ((Command.post_runAll d.queue).of_ok old).1
    obtain ⟨own, outside, computed⟩ := (run m old (before.ran left hw)).of_ok new
    refine ⟨held, rfl, stocked.drained fun v hv => ?_, computed⟩
    -- the worker's commands touch none of the others' buffers
    by_cases same : w = v
    · exact same ▸ own
    · refine (before.ran left hv).of_same fun id own' => outside id fun among => ?_
      exact same (Stocked.eq_of_mem before.nodup hw hv among own')
  · rintro d' (rfl | lost)
    · exact Or.inr stocked
    · exact Or.inl lost

/-- The least energy of a batch, if it is told, is the least form. -/
theorem minimumOf_attempt (stocked : Stocked p tile g.machine pool) (hw : w ∈ pool)
    (ordered : batch.start ≤ batch.stop) (short : batch.size ≤ w.batch.1.toNat) :
    Attempt (w.minimumOf batch) g (g.machine.poisoned = false ∧ g.machine.Clear)
      (fun energy d => energy = Scalar.least (batch.indices.map p.form) ∧ d.poisoned = false ∧ d.queue = [] ∧
        Stocked p tile d pool ∧ w.Computed p d.memory batch) (Left p tile pool) := by
  have issues := issues_minimumCommands (stocked.owns w hw) ordered short
  simp only [minimumCommands, List.forall_mem_cons] at issues
  obtain ⟨issues₁, issues₂, issues₃, -⟩ := issues
  refine (launch_attempt stocked hw issues₁ And.left).bind fun _ g₁ done₁ => ?_
  obtain ⟨hd₁, alive, stocked₁⟩ := done₁
  have memory₁ : g₁.machine.memory = g.machine.memory := by rw [hd₁]; rfl
  refine (launch_attempt stocked₁ hw (memory₁ ▸ issues₂) fun _ => by rw [hd₁]; exact alive).bind
    fun _ g₂ done₂ => ?_
  obtain ⟨hd₂, -, stocked₂⟩ := done₂
  have memory₂ : g₂.machine.memory = g.machine.memory := by rw [hd₂]; exact memory₁
  refine (launch_attempt stocked₂ hw (memory₂ ▸ issues₃) fun _ => by rw [hd₂, hd₁]; exact alive).bind
    fun _ g₃ done₃ => ?_
  obtain ⟨hd₃, -, stocked₃⟩ := done₃
  have memory₃ : g₃.machine.memory = g.machine.memory := by rw [hd₃]; exact memory₂
  have queue₃ : g₃.machine.queue = g.machine.queue ++ w.minimumCommands batch := by
    rw [hd₃, Machine.queued, hd₂, Machine.queued, hd₁, Machine.queued, minimumCommands, List.append_assoc,
      List.append_assoc]
    rfl
  have clear₃ (clear : g.machine.Clear) : g₃.machine.Clear := by
    rw [Machine.Clear, queue₃, memory₃, List.forall_mem_append]
    refine ⟨clear, ?_⟩
    simp only [minimumCommands, List.forall_mem_cons]
    exact ⟨issues₁.live, issues₂.live, issues₃.live, fun _ none => absurd none List.not_mem_nil⟩
  refine (synchronize_attempt stocked₃ queue₃ memory₃ stocked (fun _ => by rw [hd₃, hd₂, hd₁]; exact alive)
    (fun good => clear₃ good.2) hw (fun m => w.Computed p m batch ∧ ∃ values, m.HasReals w.buffers.minimum values ∧
      1 ≤ values.length ∧ values.take 1 = [Scalar.least (batch.indices.map p.form)]) fun m _ own => ?_).bind
    fun _ g₄ done₄ => ?_
  · refine (runAll_minimumCommands own ordered short).mono ?_ fun _ _ never => never
    rintro _ m' ⟨computed, outside, minimum⟩
    exact ⟨computed.owns, outside, computed, minimum⟩
  · obtain ⟨alive₄, idle, stocked₄, computed, values, hvalues, room, least⟩ := done₄
    refine ((Attempt.readReals idle hvalues room).mono (fun _ => alive₄) (fun _ _ done => done) ?_).bind
      fun read g₅ done₅ => ?_
    · rintro _ rfl
      exact Or.inr stocked₄
    · obtain ⟨hread, hd₅⟩ := done₅
      rw [hread, least]
      refine Attempt.pure ?_
      rw [hd₅]
      exact ⟨rfl, alive₄, idle, stocked₄, computed⟩

/-- The indices of a batch at an energy, if they are told, are those with this form, in order. -/
theorem indicesAt_attempt (stocked : Stocked p tile g.machine pool) (hw : w ∈ pool) (idle : g.machine.queue = [])
    (alive : g.machine.poisoned = false) (computed : w.Computed p g.machine.memory batch)
    (short : batch.size ≤ w.batch.1.toNat) (energy : R) :
    Attempt (w.indicesAt batch energy) g True
      (fun xs d => xs = (batch.indices.filter fun x => p.form x == energy) ∧ d.poisoned = false ∧ d.queue = [] ∧
        Stocked p tile d pool) (Left p tile pool) := by
  generalize hxs : (batch.indices.filter fun x => p.form x == energy) = xs
  have issues := issues_selectCommand (stocked.owns w hw) short energy
  refine (launch_attempt stocked hw issues fun _ => alive).bind fun _ g₁ done₁ => ?_
  obtain ⟨hd₁, -, stocked₁⟩ := done₁
  have memory₁ : g₁.machine.memory = g.machine.memory := by rw [hd₁]; rfl
  have queue₁ : g₁.machine.queue = g.machine.queue ++ [w.selectCommand batch energy] := by rw [hd₁]; rfl
  have alive₁ : g₁.machine.poisoned = false := by rw [hd₁]; exact alive
  have clear₁ : g₁.machine.Clear := by
    rw [Machine.Clear, queue₁, memory₁, idle]
    exact List.forall_mem_cons.2 ⟨issues.live, fun _ none => absurd none List.not_mem_nil⟩
  refine (synchronize_attempt stocked₁ queue₁ memory₁ stocked (fun _ => alive₁) (fun _ => clear₁) hw
    (fun m => (∃ values, m.HasIndices w.buffers.count values ∧ 1 ≤ values.length ∧
        values.take 1 = [xs.length.toUInt64]) ∧
      ∃ values, m.HasIndices w.buffers.selected values ∧ xs.length ≤ values.length ∧ values.take xs.length = xs)
    fun m ran own => ?_).bind
    fun _ g₂ done₂ => ?_
  · -- nothing else was queued
    rw [idle] at ran
    cases ran
    exact runAll_selectCommand computed short hxs.symm
  · obtain ⟨alive₂, idle₂, stocked₂, ⟨counts, hcounts, room, count⟩, selected, hselected, fits, front⟩ := done₂
    refine ((Attempt.readIndices idle₂ hcounts room).mono (fun _ => alive₂) (fun _ _ done => done) ?_).bind
      fun read g₃ done₃ => ?_
    · rintro _ rfl
      exact Or.inr stocked₂
    · obtain ⟨hread, hd₃⟩ := done₃
      rw [hread, count]
      show Attempt (readIndices w.buffers.selected xs.length.toUInt64.toNat) g₃ _ _ _
      rw [toNat_length_selected hxs.symm]
      rw [← hd₃] at alive₂ idle₂ stocked₂ hselected
      refine (Attempt.readIndices idle₂ hselected fits).mono (fun _ => alive₂) ?_ ?_
      · rintro _ _ ⟨rfl, rfl⟩
        exact ⟨front, alive₂, idle₂, stocked₂⟩
      · rintro _ rfl
        exact Or.inr stocked₂

/-- A machine that was lost tells nothing. -/
theorem minimumOf_of_poisoned (lost : g.machine.poisoned = true) (w : Worker R) (batch : Span) :
    Attempt (w.minimumOf batch) g False (fun _ _ => False) fun d => d.poisoned = true := by
  refine ((Attempt.launch _).mono False.elim (fun _ _ done => done) ?_).bind fun _ g₁ done => ?_
  · rintro _ rfl
    exact lost
  · exact absurd lost (Bool.eq_false_iff.1 done.2)

variable [Scalar.Ordered R] {met : List Index}

/-- The machine and the worker after a scan that did not succeed: nothing further was met. -/
structure Halted (p : Problem R) (tile : UInt64) (g : Guarded (Faulty (Machine R) R)) (w : Worker R)
    (pool : List (Worker R)) (met : List Index) (ending : Halt DeviceError)
    (t : Guarded (Faulty (Machine R) R) × Worker R) : Prop where
  blame : ¬ (g.Quiet ∧ g.machine.poisoned = false ∧ g.machine.Clear)
  plan : t.1.device.plan = g.device.plan
  left : if ending = .crash then t.1.lost = true else ∃ d, g.Onward d t.1 ∧ Left p tile pool d
  alike : w.Alike t.2
  follows : t.2.best.Follows p.form (2 ^ p.size) met

/-- The machine and the worker after a scan: it met these indices. -/
structure Met (p : Problem R) (tile : UInt64) (g : Guarded (Faulty (Machine R) R)) (w : Worker R)
    (pool : List (Worker R)) (met : List Index) (t : Guarded (Faulty (Machine R) R) × Worker R) : Prop where
  left : ∃ d, g.Onward d t.1 ∧ Left p tile pool d ∧
    (g.machine.poisoned = false → g.machine.Clear → d.poisoned = false ∧ d.Clear)
  alike : w.Alike t.2
  follows : t.2.best.Follows p.form (2 ^ p.size) met

omit [Scalar R] [Scalar.Ordered R] in
theorem lt_of_mem_indices {span : Span} (inside : span.stop ≤ Index.limit p.size) {x : Index} (hx : x ∈ span.indices) :
    x.toNat < 2 ^ p.size := by
  have high := UInt64.lt_iff_toNat_lt.1 (Span.mem_indices.1 hx).2
  have limit : (Index.limit p.size).toNat = 2 ^ p.size := Index.toNat_limit p.size_lt
  rw [UInt64.le_iff_toNat_le, limit] at inside
  exact Nat.lt_of_lt_of_le high inside

omit [Scalar.Ordered R] in
/-- No batch is taken in on a machine that was lost. -/
theorem scanBatch_of_poisoned (lost : g.machine.poisoned = true) (batch : Span)
    (follows : w.best.Follows p.form (2 ^ p.size) met) :
    Post (scanBatch batch) (g, w) (fun _ _ => False) (Halted p tile g w pool met) := by
  rw [scanBatch, post_bind, post_get, post_bind, post_onFirst]
  refine Post.mono (minimumOf_of_poisoned lost w batch) ?_ ?_
  · rintro _ _ ⟨_, _, never⟩
    exact never.elim
  · rintro ending g₁ ⟨⟨-, plan⟩, ended⟩
    refine ⟨fun good => Bool.eq_false_iff.1 good.2.1 lost, plan, ?_, ⟨rfl, rfl, rfl⟩, follows⟩
    split at ended
    · next crash => rwa [if_pos crash]
    · next other =>
      obtain ⟨d, onward, lost'⟩ := ended
      rw [if_neg other]
      exact ⟨d, onward, Or.inl lost'⟩

/-- A batch is taken in, or it is not; its least energy alone may be. -/
theorem scanBatch_faulty (stocked : Stocked p tile g.machine pool) (hw : w ∈ pool) (ordered : batch.start ≤ batch.stop)
    (short : batch.size ≤ w.batch.1.toNat) (inside : batch.stop ≤ Index.limit p.size)
    (follows : w.best.Follows p.form (2 ^ p.size) met) :
    Post (scanBatch batch) (g, w) (fun _ t => Met p tile g w pool (met ++ batch.indices) t)
      (Halted p tile g w pool met) := by
  rw [scanBatch, post_bind, post_get, post_bind, post_onFirst]
  refine Post.mono (minimumOf_attempt stocked hw ordered short) ?_ ?_
  · rintro energy g₁ ⟨d, onward, least, alive, idle, stocked₁, computed⟩
    obtain rfl := onward.machine
    obtain ⟨seen, below, tracks⟩ := follows
    have below' : ∀ x ∈ seen ++ batch.indices, x.toNat < 2 ^ p.size := fun x hx =>
      (List.mem_append.1 hx).elim (below x) (lt_of_mem_indices inside)
    have taken := tracks.takeBatch least
    rw [Incumbent.take] at taken
    rw [post_bind, post_modify]
    by_cases reached : (w.best.lower energy).reaches energy = true
    · rw [if_pos reached] at taken ⊢
      rw [post_bind, post_onFirst]
      refine Post.mono (indicesAt_attempt stocked₁ hw idle alive computed short energy) ?_ ?_
      · rintro _ g₂ ⟨d, onward', rfl, alive₂, idle₂, stocked₂⟩
        exact ⟨⟨d, onward.trans onward', Or.inr stocked₂, fun _ _ => ⟨alive₂, Machine.clear_of_idle idle₂⟩⟩,
          ⟨rfl, rfl, rfl⟩, _, below', taken⟩
      · -- the energy of the batch was taken in, but none of its indices
        rintro ending g₂ ⟨⟨blame, plan⟩, ended⟩
        refine ⟨fun good => blame ⟨onward.quiet good.1, trivial⟩, plan.trans onward.plan, ?_, ⟨rfl, rfl, rfl⟩, _,
          below', tracks.lower least⟩
        split at ended
        · next crash => rwa [if_pos crash]
        · next other =>
          obtain ⟨d, onward', left⟩ := ended
          rw [if_neg other]
          exact ⟨d, onward.trans onward', left⟩
    · rw [if_neg reached] at taken ⊢
      exact ⟨⟨_, onward, Or.inr stocked₁, fun _ _ => ⟨alive, Machine.clear_of_idle idle⟩⟩, ⟨rfl, rfl, rfl⟩, _,
        below', taken⟩
  · rintro ending g₁ ⟨⟨blame, plan⟩, ended⟩
    exact ⟨blame, plan, ended, ⟨rfl, rfl, rfl⟩, follows⟩

/-- A span that is not longer than a batch is taken in as a whole, or not. -/
theorem scan_faulty (held : g.lost = false) (left : Left p tile pool g.machine) (hw : w ∈ pool) {span : Span}
    (short : Stocked p tile g.machine pool → span.size ≤ w.batch.1.toNat) (inside : span.stop ≤ Index.limit p.size)
    (follows : w.best.Follows p.form (2 ^ p.size) met) :
    Post (scan span) (g, w) (fun _ t => Met p tile g w pool (met ++ span.indices) t) (Halted p tile g w pool met) := by
  rw [scan, post_bind, post_onFirst, Guarded.acquire, post_bind, post_get, held, if_neg Bool.false_ne_true, post_pure,
    post_bind, post_get, Span.walkBatches_eq_forM]
  by_cases nonempty : span.start < span.stop
  · rcases left with lost | stocked
    · rw [Span.batches, dif_pos nonempty, List.forM_cons, post_bind]
      exact (scanBatch_of_poisoned lost _ follows).mono (fun _ _ never => never.elim) fun _ _ halted => halted
    · rw [Span.batches_of_short nonempty (short stocked), List.forM_cons, post_bind]
      refine (scanBatch_faulty stocked hw (UInt64.le_of_lt nonempty) (short stocked) inside follows).mono
        (fun _ _ met => ?_) fun _ _ halted => halted
      exact met
  · rw [Span.batches_of_empty nonempty, Span.indices_of_empty nonempty, List.append_nil]
    exact ⟨⟨g.machine, .refl g, left, fun alive clear => ⟨alive, clear⟩⟩, ⟨rfl, rfl, rfl⟩, follows⟩

end Worker

end BinaryQuadratic.Device
