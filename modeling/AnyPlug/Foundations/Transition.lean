import Mathlib

/-!
# Labelled transition systems

A system is a function `step` that takes a state and a label to the next state, or to `none` where
the label is not enabled. `run` follows a list of labels.

An invariant of the steps is an invariant of the runs (`run_invariant`). Where a step keeps the
invariant only under a condition, the condition is asked of every step of the run (`Along`), and
`Along.invariant` is the rule. `throughout_iff_along` is for a condition that is also necessary.
-/

namespace AnyPlug

variable {σ ι : Type*} (step : σ → ι → Option σ)

/-- Follow a list of labels. -/
def run : σ → List ι → Option σ
  | s, [] => some s
  | s, a :: as => (step s a).bind fun s => run s as

/-- `t` is reached from `s` by some list of labels. -/
def Reachable (s t : σ) : Prop := ∃ as, run step s as = some t

/-- Every step of a run meets the condition `C`. -/
def Along (C : σ → ι → Prop) : σ → List ι → Prop
  | _, [] => True
  | s, a :: as => C s a ∧ ∀ t, step s a = some t → Along C t as

/-- Every state of a run has the property `P`. -/
def Throughout (P : σ → Prop) (s : σ) (as : List ι) : Prop :=
  ∀ pre post u, as = pre ++ post → run step s pre = some u → P u

/-- A test of every step of a run. -/
def alongTest (test : σ → ι → Bool) : σ → List ι → Bool
  | _, [] => true
  | s, a :: as => test s a && ((step s a).map fun t => alongTest test t as).getD true

variable {step}

theorem run_cons_eq_some {s u : σ} {a : ι} {as : List ι} :
    run step s (a :: as) = some u ↔ ∃ t, step s a = some t ∧ run step t as = some u :=
  Option.bind_eq_some_iff

theorem run_append_eq_some {s u : σ} {as bs : List ι} :
    run step s (as ++ bs) = some u ↔ ∃ t, run step s as = some t ∧ run step t bs = some u := by
  induction as generalizing s with
  | nil => simp [run]
  | cons a as ih =>
    simp only [List.cons_append, run_cons_eq_some, ih]
    constructor
    · rintro ⟨t, ht, v, hv, hu⟩
      exact ⟨v, ⟨t, ht, hv⟩, hu⟩
    · rintro ⟨v, ⟨t, ht, hv⟩, hu⟩
      exact ⟨t, ht, v, hv, hu⟩

theorem run_singleton {s t : σ} {a : ι} : run step s [a] = some t ↔ step s a = some t := by
  simp [run]

/-- The last step of a run. -/
theorem run_append_singleton_eq_some {s u : σ} {as : List ι} {a : ι} :
    run step s (as ++ [a]) = some u ↔ ∃ t, run step s as = some t ∧ step t a = some u := by
  simp only [run_append_eq_some, run_singleton]

/-- **What every step keeps, every run keeps.** -/
theorem run_invariant {P : σ → Prop} (hstep : ∀ s a t, P s → step s a = some t → P t) {s t : σ}
    {as : List ι} (hs : P s) (h : run step s as = some t) : P t := by
  induction as generalizing s with
  | nil => exact Option.some.inj h ▸ hs
  | cons a as ih =>
    obtain ⟨u, hu, hrun⟩ := run_cons_eq_some.1 h
    exact ih (hstep s a u hs hu) hrun

theorem Reachable.invariant {P : σ → Prop} (hstep : ∀ s a t, P s → step s a = some t → P t)
    {s t : σ} (hs : P s) (h : Reachable step s t) : P t :=
  h.elim fun _ => run_invariant hstep hs

theorem Reachable.refl (s : σ) : Reachable step s s := ⟨[], rfl⟩

theorem Reachable.head {s t u : σ} {a : ι} (h : step s a = some t) (hu : Reachable step t u) :
    Reachable step s u := by
  obtain ⟨as, has⟩ := hu
  exact ⟨a :: as, run_cons_eq_some.2 ⟨t, h, has⟩⟩

theorem Reachable.trans {s t u : σ} (ht : Reachable step s t) (hu : Reachable step t u) :
    Reachable step s u := by
  obtain ⟨as, has⟩ := ht
  obtain ⟨bs, hbs⟩ := hu
  exact ⟨as ++ bs, run_append_eq_some.2 ⟨t, has, hbs⟩⟩

theorem Reachable.tail {s t u : σ} {a : ι} (ht : Reachable step s t) (h : step t a = some u) :
    Reachable step s u :=
  ht.trans (.head h (.refl u))

/-- A state is reached in no step, or in one step and then some more. -/
theorem Reachable.cases_head {s u : σ} (h : Reachable step s u) :
    s = u ∨ ∃ a t, step s a = some t ∧ Reachable step t u := by
  obtain ⟨_ | ⟨a, as⟩, has⟩ := h
  · exact .inl (Option.some.inj has)
  · obtain ⟨t, ht, hrun⟩ := run_cons_eq_some.1 has
    exact .inr ⟨a, t, ht, as, hrun⟩

/-- A halted state reaches only itself. -/
theorem Reachable.eq_of_halted {s u : σ} (h : Reachable step s u) (hs : ∀ a, step s a = none) :
    s = u := by
  obtain rfl | ⟨a, t, ht, -⟩ := h.cases_head
  · rfl
  · rw [hs a] at ht
    cases ht

/-- Where there is one label, of two states that are reached one is reached from the other. -/
theorem Reachable.total [Subsingleton ι] {s t u : σ} (ht : Reachable step s t)
    (hu : Reachable step s u) : Reachable step t u ∨ Reachable step u t := by
  obtain ⟨as, has⟩ := ht
  induction as generalizing s with
  | nil => exact .inl (Option.some.inj has ▸ hu)
  | cons a as ih =>
    obtain ⟨v, hv, hrun⟩ := run_cons_eq_some.1 has
    obtain rfl | ⟨b, w, hw, hu⟩ := hu.cases_head
    · exact .inr ⟨a :: as, has⟩
    · obtain rfl := Subsingleton.elim a b
      obtain rfl := Option.some.inj (hv.symm.trans hw)
      exact ih hu hrun

/-- Where there is one label, a run can halt in one state only. -/
theorem Reachable.halted_unique [Subsingleton ι] {s t u : σ} (ht : Reachable step s t)
    (hu : Reachable step s u) (htn : ∀ a, step t a = none) (hun : ∀ a, step u a = none) :
    t = u := by
  obtain h | h := ht.total hu
  · obtain rfl | ⟨a, v, hv, -⟩ := h.cases_head
    · rfl
    · rw [htn a] at hv
      cases hv
  · obtain rfl | ⟨a, v, hv, -⟩ := h.cases_head
    · rfl
    · rw [hun a] at hv
      cases hv

section Inside

variable {τ : Type*} {outer : τ → ι → Option τ} {f : σ → τ}

/-- A machine inside another one takes the outer one along. -/
theorem Reachable.inside (hf : ∀ s a t, step s a = some t → outer (f s) a = some (f t)) {s t : σ}
    (h : Reachable step s t) : Reachable outer (f s) (f t) := by
  obtain ⟨as, has⟩ := h
  induction as generalizing s with
  | nil => exact Option.some.inj has ▸ .refl _
  | cons a as ih =>
    obtain ⟨u, hu, hrun⟩ := run_cons_eq_some.1 has
    exact .head (hf s a u hu) (ih hrun)

/-- An outer machine that goes on only with the inner one, or where that has halted, is at a state
of the inner one or has left it where it halted. -/
theorem Reachable.leave
    (hf : ∀ s a u, outer (f s) a = some u →
      (∃ t, step s a = some t ∧ u = f t) ∨ ∀ b, step s b = none) {s : σ} {u : τ}
    (h : Reachable outer (f s) u) :
    (∃ t, u = f t) ∨ ∃ t a v, Reachable step s t ∧ (∀ b, step t b = none) ∧
      outer (f t) a = some v ∧ Reachable outer v u := by
  obtain ⟨as, has⟩ := h
  induction as generalizing s with
  | nil => exact .inl ⟨s, (Option.some.inj has).symm⟩
  | cons a as ih =>
    obtain ⟨v, hv, hrun⟩ := run_cons_eq_some.1 has
    obtain ⟨t, ht, rfl⟩ | hhalt := hf s a v hv
    · obtain hin | ⟨t', b, w, hreach, hout⟩ := ih hrun
      · exact .inl hin
      · exact .inr ⟨t', b, w, .head ht hreach, hout⟩
    · exact .inr ⟨s, a, v, .refl s, hhalt, hv, as, hrun⟩

end Inside

/-- A rank that every step of a state with the invariant decreases bounds its runs. -/
theorem exists_reachable_halted {β : Type*} [Preorder β] [WellFoundedLT β] {P : σ → Prop}
    (rank : σ → β) (hinv : ∀ s a t, P s → step s a = some t → P t)
    (hrank : ∀ s a t, P s → step s a = some t → rank t < rank s) {s : σ} (hs : P s) :
    ∃ t, Reachable step s t ∧ ∀ a, step t a = none := by
  induction h : rank s using WellFoundedLT.induction generalizing s with
  | ind n ih =>
    by_cases hhalt : ∀ a, step s a = none
    · exact ⟨s, .refl s, hhalt⟩
    · push Not at hhalt
      obtain ⟨a, ha⟩ := hhalt
      obtain ⟨t, ht⟩ := Option.ne_none_iff_exists'.1 ha
      obtain ⟨u, hu, hnone⟩ := ih (rank t) (h ▸ hrank s a t hs ht) (hinv s a t hs ht) rfl
      exact ⟨u, .head ht hu, hnone⟩

theorem Along.cons {C : σ → ι → Prop} {s t : σ} {a : ι} {as : List ι} (hC : C s a)
    (ht : step s a = some t) (h : Along step C t as) : Along step C s (a :: as) := by
  refine ⟨hC, fun u hu => ?_⟩
  obtain rfl := Option.some.inj (ht.symm.trans hu)
  exact h

/-- **What every step that meets the condition keeps**, every run of such steps keeps. -/
theorem Along.invariant {P : σ → Prop} {C : σ → ι → Prop}
    (hstep : ∀ s a t, P s → C s a → step s a = some t → P t) {s t : σ} {as : List ι} (hs : P s)
    (hC : Along step C s as) (h : run step s as = some t) : P t := by
  induction as generalizing s with
  | nil => exact Option.some.inj h ▸ hs
  | cons a as ih =>
    obtain ⟨u, hu, hrun⟩ := run_cons_eq_some.1 h
    exact ih (hstep s a u hs hC.1 hu) (hC.2 u hu) hrun

/-- Every step of a run meets the condition when every step of it that is taken does. -/
theorem along_iff {C : σ → ι → Prop} {s : σ} {as : List ι} :
    Along step C s as ↔
      ∀ pre a post t, as = pre ++ a :: post → run step s pre = some t → C t a := by
  constructor
  · intro hC pre
    induction pre generalizing s as with
    | nil =>
      rintro a post t rfl ht
      exact Option.some.inj ht ▸ hC.1
    | cons b pre ih =>
      rintro a post t rfl ht
      obtain ⟨u, hu, hrun⟩ := run_cons_eq_some.1 ht
      exact ih (hC.2 u hu) a post t rfl hrun
  · intro h
    induction as generalizing s with
    | nil => trivial
    | cons a as ih =>
      refine ⟨h [] a as s rfl rfl, fun u hu => ih fun pre b post t has ht => ?_⟩
      refine h (a :: pre) b post t ?_ ?_
      · rw [has, List.cons_append]
      · exact run_cons_eq_some.2 ⟨u, hu, ht⟩

theorem Along.append_left {C : σ → ι → Prop} {s : σ} {pre post : List ι}
    (hC : Along step C s (pre ++ post)) : Along step C s pre := by
  rw [along_iff] at hC ⊢
  rintro xs a ys t rfl ht
  refine hC xs a (ys ++ post) t ?_ ht
  rw [List.append_assoc, List.cons_append]

theorem along_of_forall {C : σ → ι → Prop} {s : σ} {as : List ι} (h : ∀ a ∈ as, ∀ s, C s a) :
    Along step C s as := by
  rw [along_iff]
  rintro pre a post t rfl -
  exact h a (List.mem_append_right _ List.mem_cons_self) t

theorem Along.append {C : σ → ι → Prop} {s : σ} {as bs : List ι} (has : Along step C s as)
    (hbs : ∀ t, run step s as = some t → Along step C t bs) : Along step C s (as ++ bs) := by
  induction as generalizing s with
  | nil => exact hbs s rfl
  | cons a as ih =>
    refine ⟨has.1, fun t ht => ih (has.2 t ht) fun u hu => hbs u ?_⟩
    exact run_cons_eq_some.2 ⟨t, ht, hu⟩

/-- The rule of `Along.invariant`, for every state of the run. -/
theorem Along.throughout {P Q : σ → Prop} {C : σ → ι → Prop}
    (hstep : ∀ s a t, P s → C s a → step s a = some t → P t) (hQ : ∀ s, P s → Q s) {s : σ}
    {as : List ι} (hs : P s) (hC : Along step C s as) : Throughout step Q s as := by
  rintro pre post u rfl hu
  exact hQ u (hC.append_left.invariant hstep hs hu)

theorem Throughout.last {P : σ → Prop} {s t : σ} {as : List ι} (hP : Throughout step P s as)
    (h : run step s as = some t) : P t :=
  hP as [] t (List.append_nil as).symm h

/-- **The condition is necessary**: when a step to a state with the property meets the condition,
every step of a run does whose states all have the property. -/
theorem Throughout.along {P Q : σ → Prop} {C : σ → ι → Prop}
    (hstep : ∀ s a t, P s → step s a = some t → Q t → C s a ∧ P t) {s t : σ} {as : List ι}
    (hs : P s) (h : run step s as = some t) (hQ : Throughout step Q s as) :
    Along step C s as := by
  induction as generalizing s with
  | nil => trivial
  | cons a as ih =>
    obtain ⟨u, hu, hrun⟩ := run_cons_eq_some.1 h
    have hQu : Q u := hQ [a] as u rfl (run_singleton.2 hu)
    obtain ⟨hC, hPu⟩ := hstep s a u hs hu hQu
    refine ⟨hC, fun v hv => ?_⟩
    obtain rfl := Option.some.inj (hu.symm.trans hv)
    refine ih hPu hrun ?_
    rintro pre post w rfl hw
    exact hQ (a :: pre) post w rfl (run_cons_eq_some.2 ⟨u, hu, hw⟩)

/-- **A property that a step keeps exactly under a condition** holds in every state of a run exactly
when every step of the run meets the condition. The steps that meet it keep an invariant. -/
theorem throughout_iff_along {I P : σ → Prop} {C : σ → ι → Prop}
    (hinv : ∀ s a t, I s → C s a → step s a = some t → I t)
    (hstep : ∀ s a t, I s → P s → step s a = some t → (P t ↔ C s a)) {s t : σ} {as : List ι}
    (hI : I s) (hP : P s) (h : run step s as = some t) :
    Throughout step P s as ↔ Along step C s as := by
  constructor
  · refine Throughout.along (P := fun s => I s ∧ P s) ?_ ⟨hI, hP⟩ h
    rintro s a t ⟨hI, hP⟩ ht hPt
    have hC := (hstep s a t hI hP ht).1 hPt
    exact ⟨hC, hinv s a t hI hC ht, hPt⟩
  · refine Along.throughout (P := fun s => I s ∧ P s) ?_ (fun s hs => hs.2) ⟨hI, hP⟩
    rintro s a t ⟨hI, hP⟩ hC ht
    exact ⟨hinv s a t hI hC ht, (hstep s a t hI hP ht).2 hC⟩

/-- A test of the condition, step by step. -/
theorem Along.of_test {C : σ → ι → Prop} {test : σ → ι → Bool}
    (htest : ∀ s a, test s a = true → C s a) {s : σ} {as : List ι}
    (h : alongTest step test s as = true) : Along step C s as := by
  induction as generalizing s with
  | nil => trivial
  | cons a as ih =>
    obtain ⟨ha, has⟩ := Bool.and_eq_true_iff.1 h
    refine ⟨htest s a ha, fun t ht => ih ?_⟩
    rw [ht] at has
    exact has

/-- The label `p` was taken, and no label of `T` after it. -/
def Since (T : ι → Prop) (p : ι) (as : List ι) : Prop :=
  ∃ pre post, as = pre ++ p :: post ∧ ∀ a ∈ post, ¬T a

theorem not_since_nil {T : ι → Prop} {p : ι} : ¬Since T p [] := by
  rintro ⟨pre, post, h, -⟩
  simp at h

theorem since_append_singleton {T : ι → Prop} {p a : ι} {as : List ι} :
    Since T p (as ++ [a]) ↔ a = p ∨ ¬T a ∧ Since T p as := by
  constructor
  · rintro ⟨pre, post, h, hpost⟩
    rcases post.eq_nil_or_concat with rfl | ⟨post, b, rfl⟩
    · exact .inl (List.cons.inj (List.append_inj' h rfl).2).1
    · rw [List.concat_eq_append, ← List.cons_append, ← List.append_assoc] at h
      obtain ⟨rfl, hab⟩ := List.append_inj' h rfl
      obtain rfl := (List.cons.inj hab).1
      refine .inr ⟨hpost a (by simp), pre, post, rfl, fun b hb => hpost b (by simp [hb])⟩
  · rintro (rfl | ⟨ha, pre, post, rfl, hpost⟩)
    · exact ⟨as, [], rfl, fun b hb => absurd hb List.not_mem_nil⟩
    · refine ⟨pre, post ++ [a], by simp, fun b hb => ?_⟩
      rcases List.mem_append.1 hb with hb | hb
      · exact hpost b hb
      · exact List.mem_singleton.1 hb ▸ ha

end AnyPlug
