import Mathlib

/-!
# Self-delimiting framings

A `Reader` takes one message off the front of an input, or fails. It need not be told where a
message ends: `IsFrame read f` says that `f` alone decides how much is read, whatever follows it.

* `readN read n` calls the reader `n` times (`readN_flatten`: on a concatenation of frames it
  returns the frames and leaves what follows them).
* `drain read` calls it until it fails, and is what a peer sees of a finished stream
  (`drain_flatten_append`).
* `readLoop` is the loop of a program that reads a message, handles it and goes on, until the
  reader fails or the handler stops.

`drain` is defined with fuel, one unit for each symbol of the input. That is enough for a reader
that uses something up whenever it succeeds (`Shrinking`); `drain_of_ok` and `drain_of_error` are
the equations without fuel.
-/

namespace AnyPlug

variable {α ε σ ρ : Type*}

/-- A reader takes one message off the front of its input, or fails. -/
abbrev Reader (ε α : Type*) := List α → Except ε (List α × List α)

/-- `f` is exactly one message for `read`, whatever follows it. -/
def IsFrame (read : Reader ε α) (f : List α) : Prop :=
  ∀ rest, read (f ++ rest) = .ok (f, rest)

/-- A reader that succeeds leaves less than it was given. -/
def Shrinking (read : Reader ε α) : Prop :=
  ∀ ⦃s f rest⦄, read s = .ok (f, rest) → rest.length < s.length

theorem Shrinking.nil_error {read : Reader ε α} (hs : Shrinking read) :
    ∃ e, read [] = .error e := by
  rcases h : read [] with e | ⟨f, rest⟩
  · exact ⟨e, rfl⟩
  · exact absurd (hs h) (Nat.not_lt_zero _)

/-- A reader that succeeds splits its input into a non-empty message and the rest. -/
structure Consuming (read : Reader ε α) : Prop where
  append_eq : ∀ {s f rest}, read s = .ok (f, rest) → f ++ rest = s
  ne_nil : ∀ {s f rest}, read s = .ok (f, rest) → f ≠ []

namespace Consuming

variable {read : Reader ε α}

theorem shrinking (hc : Consuming read) : Shrinking read := by
  intro s f rest h
  have hf := List.length_pos_iff.2 (hc.ne_nil h)
  rw [← hc.append_eq h, List.length_append]
  omega

end Consuming

/-- A consuming reader that decides from the message alone how much it reads. -/
structure SelfDelimiting (read : Reader ε α) : Prop extends Consuming read where
  isFrame : ∀ {s f rest}, read s = .ok (f, rest) → IsFrame read f

/-- A stream that ends inside a frame is not read. -/
theorem SelfDelimiting.error_of_strict_append {read : Reader ε α} (hs : SelfDelimiting read)
    {p q : List α} (h : IsFrame read (p ++ q)) (hq : q ≠ []) : ∃ e, read p = .error e := by
  rcases hp : read p with e | ⟨f, rest⟩
  · exact ⟨e, rfl⟩
  · -- the message read off `p` would also be what is read off the frame
    have hf := hs.isFrame hp (rest ++ q)
    have hpq := h []
    rw [List.append_nil, ← hs.append_eq hp, List.append_assoc, hf] at hpq
    have hlen := congrArg List.length (Prod.mk.inj (Except.ok.inj hpq)).2
    rw [List.length_append, List.length_nil] at hlen
    exact absurd (List.length_eq_zero_iff.1 (by omega)) hq

/-! ## A fixed number of messages -/

/-- Call the reader `n` times. -/
def readN (read : Reader ε α) : ℕ → List α → Except ε (List (List α) × List α)
  | 0, s => .ok ([], s)
  | n + 1, s => do
    let (f, s) ← read s
    let (fs, s) ← readN read n s
    return (f :: fs, s)

/-- **Frames delimit themselves**: reading as many messages as there are frames returns the frames
and leaves what follows them. -/
theorem readN_flatten (read : Reader ε α) (fs : List (List α)) (h : ∀ f ∈ fs, IsFrame read f)
    (rest : List α) : readN read fs.length (fs.flatten ++ rest) = .ok (fs, rest) := by
  induction fs with
  | nil => rfl
  | cons f fs ih =>
    have hf := h f (by simp) (fs.flatten ++ rest)
    have ht := ih fun g hg => h g (by simp [hg])
    rw [List.length_cons, List.flatten_cons, List.append_assoc, readN, hf]
    change (do let (fs, s) ← readN read fs.length (fs.flatten ++ rest); pure (f :: fs, s)) = _
    rw [ht]
    rfl

/-! ## All the messages -/

/-- Call the reader at most `n` times, until it fails. -/
def drainN (read : Reader ε α) : ℕ → List α → List (List α)
  | 0, _ => []
  | n + 1, s =>
    match read s with
    | .error _ => []
    | .ok (f, rest) => f :: drainN read n rest

/-- The messages a stream carries: call the reader until it fails. -/
def drain (read : Reader ε α) (s : List α) : List (List α) := drainN read s.length s

section Drain

variable {read : Reader ε α}

/-- More fuel than symbols changes nothing. -/
theorem drainN_add (hs : Shrinking read) (n k : ℕ) (s : List α) (h : s.length ≤ n) :
    drainN read (n + k) s = drainN read n s := by
  induction n generalizing s with
  | zero =>
    rw [List.length_eq_zero_iff.1 (Nat.le_zero.1 h)]
    obtain ⟨e, he⟩ := hs.nil_error
    cases k <;> simp [drainN, he]
  | succ n ih =>
    rw [show n + 1 + k = n + k + 1 by omega]
    rcases hr : read s with e | ⟨f, rest⟩
    · simp only [drainN, hr]
    · have hlt := hs hr
      simp only [drainN, hr, ih rest (by omega)]

theorem drain_of_error {s : List α} {e : ε} (h : read s = .error e) : drain read s = [] := by
  unfold drain
  cases s.length <;> simp [drainN, h]

theorem drain_of_ok (hs : Shrinking read) {s f rest : List α} (h : read s = .ok (f, rest)) :
    drain read s = f :: drain read rest := by
  have hlt := hs h
  obtain ⟨k, hk⟩ : ∃ k, s.length = rest.length + k + 1 := ⟨s.length - rest.length - 1, by omega⟩
  rw [drain, hk, drainN, h]
  simp only [drainN_add hs _ k rest le_rfl, drain]

@[simp] theorem drain_nil : drain read [] = [] := rfl

theorem drain_frame_append (hc : Consuming read) {f : List α} (h : IsFrame read f)
    (rest : List α) : drain read (f ++ rest) = f :: drain read rest :=
  drain_of_ok hc.shrinking (h rest)

/-- The messages of a concatenation of frames are the frames, then those of what follows. -/
theorem drain_flatten_append (hc : Consuming read) {fs : List (List α)}
    (h : ∀ f ∈ fs, IsFrame read f) (rest : List α) :
    drain read (fs.flatten ++ rest) = fs ++ drain read rest := by
  induction fs with
  | nil => rfl
  | cons f fs ih =>
    rw [List.flatten_cons, List.append_assoc, drain_frame_append hc (h f (by simp)),
      ih fun g hg => h g (by simp [hg]), List.cons_append]

theorem drain_flatten (hc : Consuming read) {fs : List (List α)}
    (h : ∀ f ∈ fs, IsFrame read f) : drain read fs.flatten = fs := by
  simpa using drain_flatten_append hc h []

/-- What is read off a stream are frames. -/
theorem isFrame_of_mem_drain (hs : SelfDelimiting read) {s m : List α} (h : m ∈ drain read s) :
    IsFrame read m := by
  unfold drain at h
  generalize s.length = n at h
  induction n generalizing s with
  | zero => cases h
  | succ n ih =>
    rw [drainN] at h
    split at h
    · cases h
    · rename_i f rest hread
      rcases List.mem_cons.1 h with rfl | h
      · exact hs.isFrame hread
      · exact ih h

/-- **A list of messages is read back off its concatenation exactly when each of them is a
frame.** -/
theorem drain_flatten_eq_iff (hs : SelfDelimiting read) {fs : List (List α)} :
    drain read fs.flatten = fs ↔ ∀ f ∈ fs, IsFrame read f := by
  constructor
  · intro h f hf
    rw [← h] at hf
    exact isFrame_of_mem_drain hs hf
  · exact drain_flatten hs.toConsuming

/-- A stream is the messages read off it, then a remainder that is not read. -/
theorem exists_flatten_drain_append (hc : Consuming read) (s : List α) :
    ∃ r e, (drain read s).flatten ++ r = s ∧ read r = .error e := by
  generalize hn : s.length = n
  induction n using Nat.strong_induction_on generalizing s with
  | _ n ih =>
    rcases hread : read s with e | ⟨f, rest⟩
    · exact ⟨s, e, by rw [drain_of_error hread, List.flatten_nil, List.nil_append], hread⟩
    · have hlt := hc.shrinking hread
      obtain ⟨r, e, hr, he⟩ := ih rest.length (by omega) rest rfl
      refine ⟨r, e, ?_, he⟩
      rw [drain_of_ok hc.shrinking hread, List.flatten_cons, List.append_assoc, hr,
        hc.append_eq hread]

end Drain

/-! ## Readers of values -/

/-- A reader that takes a value off the front of its input, or fails. -/
abbrev ValueReader (α β : Type*) := List α → Option (β × List α)

/-- Take `n` values. -/
def readValues {β : Type*} (read : ValueReader α β) : ℕ → List α → Option (List β × List α)
  | 0, s => some ([], s)
  | n + 1, s => do
    let (v, s) ← read s
    let (vs, s) ← readValues read n s
    return (v :: vs, s)

section Values

variable {β : Type*} {read : ValueReader α β}

theorem readValues_succ_eq_some {n : ℕ} {s : List α} {v : β} {vs : List β} {rest : List α} :
    readValues read (n + 1) s = some (v :: vs, rest) ↔
      ∃ s', read s = some (v, s') ∧ readValues read n s' = some (vs, rest) := by
  simp only [readValues, Option.bind_eq_bind, Option.bind_eq_some_iff, Option.pure_def,
    Option.some.injEq, Prod.exists, Prod.mk.injEq, List.cons.injEq]
  constructor
  · rintro ⟨v', s', hv, vs', rest', hvs, ⟨rfl, rfl⟩, rfl⟩
    exact ⟨s', hv, hvs⟩
  · rintro ⟨s', hv, hvs⟩
    exact ⟨v, s', hv, vs, rest, hvs, ⟨rfl, rfl⟩, rfl⟩

/-- The values use up the input, when each of them uses up what it is wide. -/
theorem length_readValues {width : β → ℕ}
    (hw : ∀ {s v rest}, read s = some (v, rest) → s.length = width v + rest.length) {n : ℕ}
    {s rest : List α} {vs : List β} (h : readValues read n s = some (vs, rest)) :
    s.length = (vs.map width).sum + rest.length := by
  induction n generalizing s vs with
  | zero =>
    obtain ⟨rfl, rfl⟩ := Prod.mk.inj (Option.some.inj h)
    simp
  | succ n ih =>
    cases vs with
    | nil => simp [readValues, Option.bind_eq_some_iff] at h
    | cons v vs =>
      obtain ⟨s', hv, hvs⟩ := readValues_succ_eq_some.1 h
      rw [hw hv, ih hvs, List.map_cons, List.sum_cons, Nat.add_assoc]

end Values

/-! ## The loop of a reading program -/

/-- What the handler of a message says: go on with a state, or leave the loop with a result. -/
inductive Flow (σ ρ : Type*)
  | next (st : σ)
  | stop (r : ρ)

/-- Handle the messages of a list in order, until the handler stops. -/
def overFrames (body : σ → List α → Flow σ ρ) (atEnd : σ → ρ) : σ → List (List α) → ρ
  | st, [] => atEnd st
  | st, f :: fs =>
    match body st f with
    | .next st => overFrames body atEnd st fs
    | .stop r => r

/-- Read a message, handle it and go on; leave when the reader fails or the handler stops. -/
def readLoop (read : Reader ε α) (body : σ → List α → Flow σ ρ) (atEnd : σ → ρ) (st : σ)
    (s : List α) : ρ :=
  overFrames body atEnd st (drain read s)

end AnyPlug
