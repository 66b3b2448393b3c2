import AnyPlug.Foundations.Transition

/-!
# A field that owns a resource

A resource is acquired first and written into a field afterwards; whoever wants to release it reads
the field, releases what is in it and clears the field, in two steps. Nothing keeps other steps
from coming between.

`field_iff` says what is in the field, and `mem_held_iff` what is held in the end: a resource that
is written after it was acquired is released exactly when somebody comes to release what is in the
field before the field is written again.
-/

namespace AnyPlug

variable {ρ : Type*} [DecidableEq ρ]

/-- What is in the field, and what is held. -/
structure OwnedField (ρ : Type*) where
  field : Option ρ
  held : Finset ρ
  deriving DecidableEq

inductive FieldEvent (ρ : Type*)
  | acquire (r : ρ)
  | write (r : Option ρ)
  | release
  deriving DecidableEq

namespace OwnedField

/-- Nothing is in the field, and nothing is held. -/
def empty : OwnedField ρ := ⟨none, ∅⟩

def apply (s : OwnedField ρ) : FieldEvent ρ → OwnedField ρ
  | .acquire r => { s with held := insert r s.held }
  | .write r => { s with field := r }
  | .release => { s with held := s.held \ s.field.toFinset }

def after (es : List (FieldEvent ρ)) : OwnedField ρ := es.foldl apply empty

theorem after_append_singleton (es : List (FieldEvent ρ)) (e : FieldEvent ρ) :
    after (es ++ [e]) = (after es).apply e := by
  rw [after, List.foldl_append]
  rfl

/-! ## What is in the field -/

def IsWrite (e : FieldEvent ρ) : Prop := ∃ r, e = .write r

/-- The field holds what was written last. -/
theorem field_iff {es : List (FieldEvent ρ)} {r : ρ} :
    (after es).field = some r ↔ Since IsWrite (.write (some r)) es := by
  induction es using List.reverseRecOn with
  | nil => simp [after, empty, not_since_nil]
  | append_singleton es e ih =>
    rw [after_append_singleton, since_append_singleton, ← ih]
    cases e with
    | acquire r' => simp [apply, IsWrite]
    | write r' => simp [apply, IsWrite]
    | release => simp [apply, IsWrite]

/-! ## What is held -/

/-- Somebody has come to release what is in the field while `r` was in it. -/
def Released (r : ρ) (es : List (FieldEvent ρ)) : Prop :=
  ∃ pre post, es = pre ++ .release :: post ∧ Since IsWrite (.write (some r)) pre

/-- Before `r` is acquired it has neither been acquired nor written. -/
def Fresh (r : ρ) (es : List (FieldEvent ρ)) : Prop :=
  ∀ pre post, es = pre ++ .acquire r :: post → .acquire r ∉ pre ∧ .write (some r) ∉ pre

omit [DecidableEq ρ] in
theorem released_append_singleton {r : ρ} {es : List (FieldEvent ρ)} {e : FieldEvent ρ} :
    Released r (es ++ [e]) ↔
      e = .release ∧ Since IsWrite (.write (some r)) es ∨ Released r es := by
  constructor
  · rintro ⟨pre, post, h, hsince⟩
    rcases post.eq_nil_or_concat with rfl | ⟨post, b, rfl⟩
    · obtain ⟨rfl, he⟩ := List.append_inj' h rfl
      exact .inl ⟨(List.cons.inj he).1, hsince⟩
    · rw [List.concat_eq_append, ← List.cons_append, ← List.append_assoc] at h
      exact .inr ⟨pre, post, (List.append_inj' h rfl).1, hsince⟩
  · rintro (⟨rfl, hsince⟩ | ⟨pre, post, rfl, hsince⟩)
    · exact ⟨es, [], rfl, hsince⟩
    · exact ⟨pre, post ++ [e], by simp, hsince⟩

omit [DecidableEq ρ] in
theorem Fresh.of_append {r : ρ} {es es' : List (FieldEvent ρ)} (h : Fresh r (es ++ es')) :
    Fresh r es := by
  rintro pre post rfl
  exact h pre (post ++ es') (by simp)

omit [DecidableEq ρ] in
/-- What has not been written cannot have been released. -/
theorem Released.mem_write {r : ρ} {es : List (FieldEvent ρ)} (h : Released r es) :
    .write (some r) ∈ es := by
  obtain ⟨pre, post, rfl, pre', post', rfl, -⟩ := h
  simp

/-- **What is held in the end** has been acquired, and was not released while it was in the
field. -/
theorem mem_held_iff {r : ρ} {es : List (FieldEvent ρ)} (h : Fresh r es) :
    r ∈ (after es).held ↔ .acquire r ∈ es ∧ ¬Released r es := by
  induction es using List.reverseRecOn with
  | nil => simp [after, empty]
  | append_singleton es e ih =>
    have ih := ih h.of_append
    rw [after_append_singleton, released_append_singleton, List.mem_append, List.mem_singleton]
    cases e with
    | acquire r' =>
      by_cases hr : r' = r
      · subst hr
        have hnew : ¬Released r' es := fun hrel => (h es [] rfl).2 hrel.mem_write
        simp [apply, hnew]
      · simp [apply, ih, Ne.symm hr]
    | write r' => simp [apply, ih]
    | release =>
      rw [← field_iff]
      simp only [apply, Finset.mem_sdiff, ih, Option.mem_toFinset, Option.mem_def]
      simp only [reduceCtorEq, or_false, true_and, not_or]
      tauto

/-! ## A field that is tidy -/

/-- What is held is what is in the field. -/
def Tidy (s : OwnedField ρ) : Prop := s.held = s.field.toFinset

/-- What is in a tidy field is released and then the field is cleared. -/
theorem Tidy.release {s : OwnedField ρ} (h : s.Tidy) : (s.apply .release).held = ∅ := by
  rw [apply, h, Finset.sdiff_self]

omit [DecidableEq ρ] in
theorem Tidy.card_le {s : OwnedField ρ} (h : s.Tidy) : s.held.card ≤ 1 := by
  rw [h, Option.card_toFinset]
  cases s.field <;> simp

end OwnedField

end AnyPlug
