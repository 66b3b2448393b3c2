import AnyPlug.Foundations.Transition

/-!
# Two parties that swap messages

Each of two parties writes its message and then reads the message of the other, symbol by symbol,
over a pipe of bounded capacity in each direction. A party reads until what it has read gives a
`verdict`, and leaves with it. A write waits while the pipe is full, a read while it is empty.

Nobody reads before it has written everything. So the swap gets stuck only when both parties write
and both pipes are full, which cannot happen when one of the messages fits its pipe:

* `Swap.halted`: a run stops with both verdicts, or with both parties writing;
* `Swap.completes_iff`: no run gets stuck exactly when one of the messages fits its pipe;
* `Swap.result_eq`: a party that has left has the verdict on the whole message of the other.

The verdict is a parameter. What is asked of it is that it is given on the whole message, and not
before (`Decisive`).
-/

namespace AnyPlug

variable {α ρ : Type*}

/-- What the parties write, how they read and what the pipes hold. The parties are `false` and
`true`. -/
structure SwapSpec (α ρ : Type*) where
  message : Bool → List α
  /-- What a party makes of what it has read; it reads on where this is `none`. -/
  verdict : Bool → List α → Option ρ
  cap : Bool → ℕ

/-- A verdict on the message of the other party is given when it was read to its end. -/
structure SwapSpec.Decisive (c : SwapSpec α ρ) : Prop where
  before : ∀ i {p q : List α}, p ++ q = c.message !i → q ≠ [] → c.verdict i p = none
  whole : ∀ i, (c.verdict i (c.message !i)).isSome = true

/-- The two parties, and the pipe that each of them writes to. -/
@[ext] structure Swap (α ρ : Type*) where
  toWrite : Bool → List α
  pipe : Bool → List α
  got : Bool → List α
  result : Bool → Option ρ

namespace Swap

variable (c : SwapSpec α ρ)

/-- A party writes a symbol, reads a symbol, or leaves. -/
inductive Action
  | write (i : Bool)
  | read (i : Bool)
  | leave (i : Bool)
  deriving DecidableEq

def start : Swap α ρ := ⟨c.message, fun _ => [], fun _ => [], fun _ => none⟩

/-- The party has more to write, and its pipe is full. -/
def Blocked (s : Swap α ρ) (i : Bool) : Prop := s.toWrite i ≠ [] ∧ c.cap i ≤ (s.pipe i).length

/-- A party writes a symbol, when there is room for it. -/
def write (s : Swap α ρ) (i : Bool) : Option (Swap α ρ) :=
  match s.toWrite i with
  | [] => none
  | x :: xs =>
    if (s.pipe i).length < c.cap i then
      some { s with
        toWrite := Function.update s.toWrite i xs
        pipe := Function.update s.pipe i (s.pipe i ++ [x]) }
    else none

/-- A party that has written everything reads a symbol, when there is one. -/
def read (s : Swap α ρ) (i : Bool) : Option (Swap α ρ) :=
  match s.toWrite i, c.verdict i (s.got i), s.pipe !i with
  | [], none, x :: xs =>
    some { s with
      pipe := Function.update s.pipe (!i) xs
      got := Function.update s.got i (s.got i ++ [x]) }
  | _, _, _ => none

/-- A party that has its verdict leaves with it. -/
def leave (s : Swap α ρ) (i : Bool) : Option (Swap α ρ) :=
  match s.toWrite i, c.verdict i (s.got i), s.result i with
  | [], some r, none => some { s with result := Function.update s.result i (some r) }
  | _, _, _ => none

def step (s : Swap α ρ) : Action → Option (Swap α ρ)
  | .write i => s.write c i
  | .read i => s.read c i
  | .leave i => s.leave c i

/-! ## The invariant -/

/-- Nothing is lost, and who has left has read and written everything. -/
structure Inv (s : Swap α ρ) : Prop where
  conserved : ∀ i, s.got (!i) ++ (s.pipe i ++ s.toWrite i) = c.message i
  result : ∀ i r, s.result i = some r → s.toWrite i = [] ∧ c.verdict i (s.got i) = some r

theorem inv_start : Inv c (start c) where
  conserved _ := rfl
  result i r h := by cases h

variable {c}

theorem Inv.write {s t : Swap α ρ} (hs : Inv c s) {i : Bool} (h : s.write c i = some t) :
    Inv c t := by
  unfold Swap.write at h
  split at h
  · cases h
  · rename_i x xs hx
    split at h
    · cases h
      refine ⟨fun j => ?_, fun j r hr => ?_⟩
      · have hj := hs.conserved j
        by_cases hji : j = i
        · subst hji
          rw [hx] at hj
          simpa using hj
        · simpa [hji] using hj
      · obtain ⟨hnil, hverdict⟩ := hs.result j r hr
        by_cases hji : j = i
        · rw [hji, hx] at hnil
          cases hnil
        · exact ⟨by simpa [hji] using hnil, hverdict⟩
    · cases h

theorem Inv.read {s t : Swap α ρ} (hs : Inv c s) {i : Bool} (h : s.read c i = some t) :
    Inv c t := by
  unfold Swap.read at h
  split at h
  · rename_i x xs hnil hverdict hx
    cases h
    refine ⟨fun j => ?_, fun j r hr => ?_⟩
    · have hj := hs.conserved j
      by_cases hji : j = !i
      · subst hji
        rw [hx] at hj
        simpa using hj
      · have hji' : (!j) ≠ i := fun hne => hji (by rw [← hne, Bool.not_not])
        simpa [hji, hji'] using hj
    · obtain ⟨hnil', hverdict'⟩ := hs.result j r hr
      by_cases hji : j = i
      · rw [hji, hverdict] at hverdict'
        cases hverdict'
      · exact ⟨hnil', by simpa [hji] using hverdict'⟩
  · cases h

theorem Inv.leave {s t : Swap α ρ} (hs : Inv c s) {i : Bool} (h : s.leave c i = some t) :
    Inv c t := by
  unfold Swap.leave at h
  split at h
  · rename_i r₀ hnil hverdict hresult
    cases h
    refine ⟨hs.conserved, fun j r hr => ?_⟩
    by_cases hji : j = i
    · subst hji
      obtain rfl : r₀ = r := by simpa using hr
      exact ⟨hnil, hverdict⟩
    · exact hs.result j r (by simpa [hji] using hr)
  · cases h

theorem inv_step (s : Swap α ρ) (a : Action) (t : Swap α ρ) (hs : Inv c s)
    (h : step c s a = some t) : Inv c t := by
  cases a with
  | write i => exact hs.write h
  | read i => exact hs.read h
  | leave i => exact hs.leave h

theorem inv_of_reachable {s : Swap α ρ} (h : Reachable (step c) (start c) s) : Inv c s :=
  h.invariant inv_step (inv_start c)

/-! ## Results -/

/-- A verdict means that everything was read. -/
theorem Inv.all_read {s : Swap α ρ} (hs : Inv c s) (hc : c.Decisive) {i : Bool} {r : ρ}
    (h : c.verdict i (s.got i) = some r) :
    s.got i = c.message (!i) ∧ s.pipe (!i) = [] ∧ s.toWrite (!i) = [] := by
  have hcons := hs.conserved (!i)
  rw [Bool.not_not] at hcons
  have hnil : s.pipe (!i) ++ s.toWrite (!i) = [] := by
    by_contra hne
    rw [hc.before i hcons hne] at h
    cases h
  rw [hnil, List.append_nil] at hcons
  exact ⟨hcons, List.append_eq_nil_iff.1 hnil⟩

/-- **A party that has left has the verdict on the whole message of the other.** -/
theorem result_eq (hc : c.Decisive) {s : Swap α ρ} (h : Reachable (step c) (start c) s) {i : Bool}
    {r : ρ} (hr : s.result i = some r) : c.verdict i (c.message !i) = some r := by
  have hs := inv_of_reachable h
  obtain ⟨-, hverdict⟩ := hs.result i r hr
  rw [← (hs.all_read hc hverdict).1]
  exact hverdict

/-- A run stops with both verdicts, or with both parties before a full pipe. -/
theorem halted (hc : c.Decisive) (hcap : ∀ i, 0 < c.cap i) {s : Swap α ρ} (hs : Inv c s)
    (h : ∀ a, step c s a = none) :
    (∀ i, (s.result i).isSome = true) ∨ ∀ i, s.Blocked c i := by
  -- a party that still writes is before a full pipe
  have hfull (i : Bool) (hne : s.toWrite i ≠ []) : c.cap i ≤ (s.pipe i).length := by
    obtain ⟨x, xs, hx⟩ := List.exists_cons_of_ne_nil hne
    by_contra hlt
    have hw := h (.write i)
    simp [step, write, hx, not_le.1 hlt] at hw
  -- a party that has written everything makes the other one do so, and has its verdict
  have hdone (i : Bool) (hnil : s.toWrite i = []) :
      s.toWrite (!i) = [] ∧ (s.result i).isSome = true := by
    cases hverdict : c.verdict i (s.got i) with
    | some r =>
      refine ⟨(hs.all_read hc hverdict).2.2, ?_⟩
      cases hresult : s.result i with
      | some r => rfl
      | none =>
        have hl := h (.leave i)
        simp [step, leave, hnil, hverdict, hresult] at hl
    | none =>
      have hpipe : s.pipe (!i) = [] := by
        cases hx : s.pipe (!i) with
        | nil => rfl
        | cons x xs =>
          have hr := h (.read i)
          simp [step, read, hnil, hverdict, hx] at hr
      have hwritten : s.toWrite (!i) = [] := by
        by_contra hne
        have hle := hfull (!i) hne
        have hpos := hcap (!i)
        rw [hpipe, List.length_nil] at hle
        omega
      have hcons := hs.conserved (!i)
      rw [Bool.not_not, hpipe, hwritten, List.append_nil, List.append_nil] at hcons
      have hwhole := hc.whole i
      rw [← hcons, hverdict] at hwhole
      cases hwhole
  by_cases hex : ∃ i, s.toWrite i = []
  · left
    obtain ⟨i, hi⟩ := hex
    obtain ⟨hother, hres⟩ := hdone i hi
    intro j
    by_cases hji : j = i
    · rw [hji]
      exact hres
    · obtain rfl : j = !i := Bool.eq_not.2 hji
      exact (hdone (!i) hother).2
  · right
    push Not at hex
    exact fun i => ⟨hex i, hfull i (hex i)⟩

/-! ## Runs -/

/-- What a party has still to do: each symbol is written and then read, and the party leaves. -/
def work (s : Swap α ρ) (i : Bool) : ℕ :=
  2 * (s.toWrite i).length + (s.pipe i).length + if (s.result i).isSome then 0 else 1

/-- **Every step is progress.** -/
theorem work_step {s t : Swap α ρ} {a : Action} (h : step c s a = some t) :
    t.work false + t.work true + 1 = s.work false + s.work true := by
  cases a with
  | write i =>
    simp only [step, write] at h
    split at h
    · cases h
    · rename_i x xs hx
      split at h
      · cases h
        cases i <;> simp [work, hx] <;> omega
      · cases h
  | read i =>
    simp only [step, read] at h
    split at h
    · rename_i x xs hnil hverdict hx
      cases h
      cases i <;> simp_all [work] <;> omega
    · cases h
  | leave i =>
    simp only [step, leave] at h
    split at h
    · rename_i r hnil hverdict hresult
      cases h
      cases i <;> simp [work, hresult] <;> omega
    · cases h

/-- The length of a run is the work it has done. -/
theorem length_run {s t : Swap α ρ} {as : List Action} (h : run (step c) s as = some t) :
    as.length + (t.work false + t.work true) = s.work false + s.work true := by
  induction as generalizing s with
  | nil =>
    obtain rfl := Option.some.inj h
    simp
  | cons a as ih =>
    obtain ⟨u, hu, hrun⟩ := run_cons_eq_some.1 h
    have hstep := work_step hu
    have hrest := ih hrun
    rw [List.length_cons]
    omega

/-- A party can write as much as there is room for. -/
theorem exists_writes (i : Bool) (n : ℕ) {s : Swap α ρ} (hn : n ≤ (s.toWrite i).length)
    (hroom : (s.pipe i).length + n ≤ c.cap i) :
    ∃ t, Reachable (step c) s t ∧ (t.toWrite i).length = (s.toWrite i).length - n ∧
      (t.pipe i).length = (s.pipe i).length + n ∧ t.toWrite (!i) = s.toWrite (!i) ∧
      t.pipe (!i) = s.pipe (!i) := by
  induction n generalizing s with
  | zero => exact ⟨s, .refl s, rfl, rfl, rfl, rfl⟩
  | succ n ih =>
    obtain ⟨x, xs, hx⟩ : ∃ x xs, s.toWrite i = x :: xs :=
      List.exists_cons_of_length_pos (by omega)
    have hlt : (s.pipe i).length < c.cap i := by omega
    have hne : (!i) ≠ i := by simp
    let s₁ : Swap α ρ := { s with
      toWrite := Function.update s.toWrite i xs
      pipe := Function.update s.pipe i (s.pipe i ++ [x]) }
    have hstep : step c s (.write i) = some s₁ := by simp [step, write, hx, hlt, s₁]
    have hlen : (s.toWrite i).length = xs.length + 1 := by rw [hx, List.length_cons]
    obtain ⟨t, ht, hwrite, hpipe, howrite, hopipe⟩ := ih (s := s₁)
      (by simp only [s₁, Function.update_self]; omega)
      (by simp only [s₁, Function.update_self, List.length_append, List.length_singleton]; omega)
    refine ⟨t, .head hstep ht, ?_, ?_, ?_, ?_⟩
    · rw [hwrite]
      simp only [s₁, Function.update_self]
      omega
    · rw [hpipe]
      simp only [s₁, Function.update_self, List.length_append, List.length_singleton]
      omega
    · rw [howrite]
      exact Function.update_of_ne hne _ _
    · rw [hopipe]
      exact Function.update_of_ne hne _ _

/-- Two messages that do not fit leave both parties before a full pipe. -/
theorem exists_stuck (hlt : ∀ i, c.cap i < (c.message i).length) :
    ∃ s, Reachable (step c) (start c) s ∧ (∀ a, step c s a = none) ∧
      ∀ i, s.Blocked c i ∧ s.result i = none := by
  obtain ⟨t, ht, hwrite, hpipe, howrite, hopipe⟩ := exists_writes (c := c) (s := start c) false
    (c.cap false) (hlt false).le (by simp [start])
  obtain ⟨u, hu, hwrite', hpipe', howrite', hopipe'⟩ := exists_writes (c := c) (s := t) true
    (c.cap true) (by rw [show true = !false from rfl, howrite]; exact (hlt true).le)
    (by rw [show true = !false from rfl, hopipe]; simp [start])
  have hne (i : Bool) : u.toWrite i ≠ [] := by
    apply List.ne_nil_of_length_pos
    cases i with
    | false =>
      have := hlt false
      rw [show false = !true from rfl, howrite', Bool.not_true, hwrite]
      simp only [start]
      omega
    | true =>
      have := hlt true
      rw [hwrite', show true = !false from rfl, howrite]
      simp only [start, Bool.not_false]
      omega
  have hfull (i : Bool) : c.cap i ≤ (u.pipe i).length := by
    cases i with
    | false =>
      rw [show false = !true from rfl, hopipe', Bool.not_true, hpipe]
      simp [start]
    | true => rw [hpipe']; omega
  have hreach := ht.trans hu
  have hinv := inv_of_reachable hreach
  refine ⟨u, hreach, fun a => ?_, fun i => ?_⟩
  · cases a with
    | write i =>
      obtain ⟨x, xs, hx⟩ := List.exists_cons_of_ne_nil (hne i)
      simp [step, write, hx, hfull i]
    | read i =>
      obtain ⟨x, xs, hx⟩ := List.exists_cons_of_ne_nil (hne i)
      simp [step, read, hx]
    | leave i =>
      obtain ⟨x, xs, hx⟩ := List.exists_cons_of_ne_nil (hne i)
      simp [step, leave, hx]
  · refine ⟨⟨hne i, hfull i⟩, ?_⟩
    cases hresult : u.result i with
    | none => rfl
    | some r => exact absurd (hinv.result i r hresult).1 (hne i)

/-- **No run gets stuck exactly when one of the messages fits its pipe.** -/
theorem completes_iff (hc : c.Decisive) (hcap : ∀ i, 0 < c.cap i) :
    (∀ s, Reachable (step c) (start c) s → (∀ a, step c s a = none) →
      ∀ i, (s.result i).isSome = true) ↔ ∃ i, (c.message i).length ≤ c.cap i := by
  constructor
  · intro h
    by_contra hno
    push Not at hno
    obtain ⟨s, hreach, hhalt, hnone⟩ := exists_stuck hno
    have hsome := h s hreach hhalt false
    rw [(hnone false).2] at hsome
    cases hsome
  · rintro ⟨i, hfits⟩ s hreach hhalt
    have hs := inv_of_reachable hreach
    refine (halted hc hcap hs hhalt).resolve_right fun hfull => ?_
    obtain ⟨hne, hle⟩ := hfull i
    have hcons := congrArg List.length (hs.conserved i)
    have hpos := List.length_pos_iff.2 hne
    simp only [List.length_append] at hcons
    omega

end Swap

end AnyPlug
