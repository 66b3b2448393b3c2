import AnyPlug.Foundations.Transition

/-!
# A cell that is read and written without a lock

Any number of threads update a cell. An operation reads the cell, computes and writes it back
(`apply`), and other operations may write in between, so what it writes may rest on a value that is
no longer there.

What the cell holds is nevertheless always what some of the operations make of it one after another
(`serial_of_reachable`): an operation that is overwritten is lost as a whole. What every operation
keeps, every interleaving keeps (`all_step`). `throughout_shows_iff` says when no operation is lost:
every write must make of the value that was read what it would have made of the value that it
replaces.
-/

namespace AnyPlug

variable {σ ω τ : Type*} [DecidableEq τ]

/-- The value of the cell, and what each thread has read for the operation it is at. The operations
that are finished are kept in the order of their writes. -/
structure SharedCell (σ ω τ : Type*) where
  value : σ
  reading : τ → Option (ω × σ)
  log : List ω

namespace SharedCell

/-- A thread reads the cell for an operation, or finishes its operation. -/
inductive Action (ω τ : Type*)
  | read (t : τ) (op : ω)
  | write (t : τ)

variable (apply : ω → σ → Option σ)

def start (v : σ) : SharedCell σ ω τ := ⟨v, fun _ => none, []⟩

/-- An operation writes what it makes of the value it has read, or does not write. -/
def step (s : SharedCell σ ω τ) : Action ω τ → Option (SharedCell σ ω τ)
  | .read t op =>
    match s.reading t with
    | none => some { s with reading := Function.update s.reading t (some (op, s.value)) }
    | some _ => none
  | .write t =>
    match s.reading t with
    | none => none
    | some (op, v) =>
      some ⟨(apply op v).getD s.value, Function.update s.reading t none, s.log ++ [op]⟩

/-- The operations one after another. -/
def applyAll (v : σ) (ops : List ω) : σ := ops.foldl (fun v op => (apply op v).getD v) v

variable {apply}

theorem applyAll_append_singleton (v : σ) (ops : List ω) (op : ω) :
    applyAll apply v (ops ++ [op]) =
      (apply op (applyAll apply v ops)).getD (applyAll apply v ops) := by
  rw [applyAll, List.foldl_append]
  rfl

/-- The value is what some of the operations make of `v₀` one after another. -/
def Serial (apply : ω → σ → Option σ) (v₀ : σ) (log : List ω) (v : σ) : Prop :=
  ∃ ops : List ω, ops.Sublist log ∧ applyAll apply v₀ ops = v

theorem Serial.append {v₀ v : σ} {log : List ω} (h : Serial apply v₀ log v) (op : ω) :
    Serial apply v₀ (log ++ [op]) v := by
  obtain ⟨ops, hsub, rfl⟩ := h
  exact ⟨ops, hsub.trans (List.sublist_append_left log [op]), rfl⟩

theorem Serial.write {v₀ v w : σ} {log : List ω} (h : Serial apply v₀ log v) {op : ω}
    (hw : apply op v = some w) : Serial apply v₀ (log ++ [op]) w := by
  obtain ⟨ops, hsub, rfl⟩ := h
  refine ⟨ops ++ [op], hsub.append (List.Sublist.refl _), ?_⟩
  rw [applyAll_append_singleton, hw, Option.getD_some]

/-- The value and everything that was read have a property. -/
structure All (P : σ → Prop) (s : SharedCell σ ω τ) : Prop where
  value : P s.value
  reading : ∀ t op v, s.reading t = some (op, v) → P v

omit [DecidableEq τ] in
theorem all_start {P : σ → Prop} {v : σ} (h : P v) : All P (start v : SharedCell σ ω τ) := by
  refine ⟨h, ?_⟩
  rintro t op w ⟨⟩

/-- **The steps of the cell.** -/
theorem step_cases {s s' : SharedCell σ ω τ} {a : Action ω τ} (h : step apply s a = some s') :
    (∃ t op, a = .read t op ∧ s.reading t = none ∧
      s' = { s with reading := Function.update s.reading t (some (op, s.value)) }) ∨
    ∃ t op v, a = .write t ∧ s.reading t = some (op, v) ∧
      s' = ⟨(apply op v).getD s.value, Function.update s.reading t none, s.log ++ [op]⟩ := by
  cases a with
  | read t op =>
    simp only [step] at h
    split at h
    · rename_i hnone
      exact .inl ⟨t, op, rfl, hnone, (Option.some.inj h).symm⟩
    · cases h
  | write t =>
    simp only [step] at h
    split at h
    · cases h
    · rename_i op v hread
      exact .inr ⟨t, op, v, rfl, hread, (Option.some.inj h).symm⟩

section All

variable {P Q : σ → Prop} {s s' : SharedCell σ ω τ}

theorem All.read (hs : All P s) (t : τ) (op : ω) :
    All P { s with reading := Function.update s.reading t (some (op, s.value)) } := by
  refine ⟨hs.value, fun t' op' v hv => ?_⟩
  by_cases ht : t' = t
  · subst ht
    obtain ⟨rfl, rfl⟩ : op = op' ∧ s.value = v := by simpa using hv
    exact hs.value
  · exact hs.reading t' op' v (by simpa [ht] using hv)

theorem All.write (hs : All P s) (hPQ : ∀ v, P v → Q v) {w : σ} (hw : Q w) (t : τ)
    (log : List ω) : All Q ⟨w, Function.update s.reading t none, log⟩ := by
  refine ⟨hw, fun t' op' v' hv => ?_⟩
  by_cases ht : t' = t
  · simp [ht] at hv
  · exact hPQ v' (hs.reading t' op' v' (by simpa [ht] using hv))

/-- **What every operation keeps, every interleaving keeps.** -/
theorem all_step (hP : ∀ op v w, P v → apply op v = some w → P w) (s : SharedCell σ ω τ)
    (a : Action ω τ) (s' : SharedCell σ ω τ) (hs : All P s) (h : step apply s a = some s') :
    All P s' := by
  obtain ⟨t, op, -, -, rfl⟩ | ⟨t, op, v, -, hread, rfl⟩ := step_cases h
  · exact hs.read t op
  · refine hs.write (fun _ => id) ?_ t _
    cases hw : apply op v with
    | none => exact hs.value
    | some w => exact hP op v w (hs.reading t op v hread) hw

/-- One step keeps it that everything is serial. -/
theorem serial_step {v₀ : σ} (s : SharedCell σ ω τ) (a : Action ω τ) (s' : SharedCell σ ω τ)
    (hs : All (Serial apply v₀ s.log) s) (h : step apply s a = some s') :
    All (Serial apply v₀ s'.log) s' := by
  obtain ⟨t, op, -, -, rfl⟩ | ⟨t, op, v, -, hread, rfl⟩ := step_cases h
  · exact hs.read t op
  · refine hs.write (fun _ hv => hv.append op) ?_ t _
    cases hw : apply op v with
    | none => exact hs.value.append op
    | some w => exact (hs.reading t op v hread).write hw

end All

/-- **Some of the operations one after another**: whatever the interleaving, the cell holds what a
sublist of the finished operations makes of its first value. -/
theorem serial_of_reachable {v₀ : σ} {s : SharedCell σ ω τ}
    (h : Reachable (step apply) (start v₀) s) : Serial apply v₀ s.log s.value := by
  have hstart : All (Serial apply v₀ []) (start v₀ : SharedCell σ ω τ) :=
    all_start ⟨[], List.Sublist.refl _, rfl⟩
  have hs := h.invariant (P := fun s => All (Serial apply v₀ s.log) s) serial_step hstart
  exact hs.value

/-! ## Lost updates -/

section View

variable {β : Type*} (view : σ → β) (effect : ω → β → β)

/-- The cell shows what all the finished operations were to do, one after another. -/
def Shows (v₀ : σ) (s : SharedCell σ ω τ) : Prop :=
  view s.value = s.log.foldl (fun b op => effect op b) (view v₀)

/-- The operation that is finished does to the cell what it was to do, although the value it rests
on may have been replaced. -/
def Effective (apply : ω → σ → Option σ) (s : SharedCell σ ω τ) : Action ω τ → Prop
  | .read _ _ => True
  | .write t => ∀ op v, s.reading t = some (op, v) →
      view ((apply op v).getD s.value) = effect op (view s.value)

variable {view effect}

/-- One step. -/
theorem shows_step_iff {v₀ : σ} {s s' : SharedCell σ ω τ} {a : Action ω τ}
    (hs : Shows view effect v₀ s) (h : step apply s a = some s') :
    Shows view effect v₀ s' ↔ Effective view effect apply s a := by
  obtain ⟨t, op, rfl, -, rfl⟩ | ⟨t, op, v, rfl, hread, rfl⟩ := step_cases h
  · exact iff_of_true hs trivial
  · have hview : view s.value = s.log.foldl (fun b op => effect op b) (view v₀) := hs
    simp only [Shows, List.foldl_append, List.foldl_cons, List.foldl_nil]
    rw [← hview]
    constructor
    · intro heq op' v' hread'
      obtain ⟨rfl, rfl⟩ : op = op' ∧ v = v' := by simpa [hread] using hread'
      exact heq
    · exact fun heff => heff op v hread

/-- **No operation is lost in a run exactly when every write is effective.** What is effective may
be said in other words (`C`) where everything has a property that the operations keep. -/
theorem throughout_shows_iff {P : σ → Prop} (hP : ∀ op v w, P v → apply op v = some w → P w)
    {C : SharedCell σ ω τ → Action ω τ → Prop}
    (hC : ∀ s a, All P s → (C s a ↔ Effective view effect apply s a)) {v₀ : σ} (h₀ : P v₀)
    {as : List (Action ω τ)} {s : SharedCell σ ω τ} (h : run (step apply) (start v₀) as = some s) :
    Throughout (step apply) (Shows view effect v₀) (start v₀) as ↔
      Along (step apply) C (start v₀) as := by
  refine throughout_iff_along (I := All P) (fun s a t hs _ hstep => all_step hP s a t hs hstep)
    (fun s a t hs hshows hstep => ?_) (all_start h₀) rfl h
  rw [hC s a hs]
  exact shows_step_iff hshows hstep

end View

end SharedCell

end AnyPlug
