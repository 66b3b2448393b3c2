import AnyPlug.Foundations.Framing
import AnyPlug.Foundations.Transition

/-!
# Pipelines of reading programs

A `Stage` is a program that reads messages off one stream and writes symbols to another while it
handles them. `Stage.eval` is what it writes and the result it leaves with, on a list of messages.

`Producer.pipe` connects a stage to whatever produces its input through a pipe of bounded capacity.
The two run concurrently: the producer goes on while there is room in the pipe, and the stage takes
one symbol at a time, waits when the pipe is empty and handles a message when the last symbol of it
has come. Any number of stages may follow each other.

The order of the steps cannot be seen in what comes out. A producer is `Determined` when every state
of it has a fixed future, whatever the schedule; a stage fed by a determined producer is one again
(`Determined.pipe`), and its future is `Stage.eval` of what it has still to read. So a run of the
pipeline ends, never gets stuck (`Determined.halted_iff`) and leaves the result of the sequential
evaluation (`Determined.outcome_run`).
-/

namespace AnyPlug

variable {α ε σ ρ τ ι : Type*}

/-! ## Stages -/

/-- A program that reads messages, and writes symbols while it handles them. -/
structure Stage (ε α σ ρ : Type*) where
  read : Reader ε α
  /-- Handle a message: the symbols written, and how to go on. -/
  body : σ → List α → List α × Flow σ ρ
  /-- The stream has ended: the symbols written, and the result. -/
  atEnd : σ → List α × ρ

namespace Stage

variable (g : Stage ε α σ ρ)

/-- What the stage writes on a list of messages, and its result. -/
def eval : σ → List (List α) → List α × ρ
  | st, [] => g.atEnd st
  | st, f :: fs =>
    match g.body st f with
    | (out, .next st) => (out ++ (eval st fs).1, (eval st fs).2)
    | (out, .stop r) => (out, r)

variable {g} in
theorem eval_cons_next {st st' : σ} {f : List α} {out : List α}
    (h : g.body st f = (out, .next st')) (fs : List (List α)) :
    g.eval st (f :: fs) = (out ++ (g.eval st' fs).1, (g.eval st' fs).2) := by
  rw [eval, h]

variable {g} in
theorem eval_cons_stop {st : σ} {f out : List α} {r : ρ} (h : g.body st f = (out, .stop r))
    (fs : List (List α)) : g.eval st (f :: fs) = (out, r) := by
  rw [eval, h]

/-- The steps the stage takes on a list of messages, the reading of the symbols apart. -/
def cost : σ → List (List α) → ℕ
  | st, [] => (g.atEnd st).1.length + 2
  | st, f :: fs =>
    match g.body st f with
    | (out, .next st) => out.length + 2 + cost st fs
    | (out, .stop _) => out.length + 2

/-- The result is that of the loop over the messages. -/
theorem snd_eval (st : σ) (fs : List (List α)) :
    (g.eval st fs).2 =
      overFrames (fun st f => (g.body st f).2) (fun st => (g.atEnd st).2) st fs := by
  induction fs generalizing st with
  | nil => rfl
  | cons f fs ih =>
    rw [eval, overFrames]
    rcases g.body st f with ⟨out, st' | r⟩
    · exact ih st'
    · rfl

end Stage

/-- Where a stage stands. -/
inductive Stage.Phase (α σ ρ : Type*)
  /-- It reads, or waits for, the next symbol of a message. -/
  | reading (st : σ)
  | writing (pending : List α) (next : Flow σ ρ)
  | left (r : ρ)

namespace Stage.Phase

variable (g : Stage ε α σ ρ)

/-- What a stage has still to write and the result it will leave with, when these are the messages
that it has still to read. -/
def eval (fs : List (List α)) : Stage.Phase α σ ρ → List α × ρ
  | .reading st => g.eval st fs
  | .writing pending (.next st) => (pending ++ (g.eval st fs).1, (g.eval st fs).2)
  | .writing pending (.stop r) => (pending, r)
  | .left r => ([], r)

/-- The steps it has still to take. -/
def cost (fs : List (List α)) : Stage.Phase α σ ρ → ℕ
  | .reading st => g.cost st fs
  | .writing pending (.next st) => pending.length + 1 + g.cost st fs
  | .writing pending (.stop _) => pending.length + 1
  | .left _ => 0

end Stage.Phase

/-! ## Producers -/

/-- A system that emits symbols, at most one with a step, until it is done. -/
structure Producer (α τ ι : Type*) where
  step : τ → ι → Option (τ × Option α)
  done : τ → Bool

/-- **A producer whose schedule cannot be seen**: what it emits from a state is fixed, it can always
go on until it is done, and it takes a bounded number of steps. -/
structure Determined (P : Producer α τ ι) where
  future : τ → List α
  rank : τ → ℕ
  silent : ∀ {t a t'}, P.step t a = some (t', none) → future t' = future t
  emit : ∀ {t a t' x}, P.step t a = some (t', some x) → future t = x :: future t'
  future_done : ∀ {t}, P.done t = true → future t = []
  progress : ∀ {t}, P.done t = false → ∃ a t' o, P.step t a = some (t', o)
  rank_lt : ∀ {t a t' o}, P.step t a = some (t', o) → rank t' < rank t

/-- The producer of a list of symbols. -/
def Producer.ofList (α : Type*) : Producer α (List α) Unit where
  step
    | [], _ => none
    | x :: xs, _ => some (xs, some x)
  done := List.isEmpty

/-- A list has its symbols still to emit. -/
def Determined.ofList (α : Type*) : Determined (Producer.ofList α) where
  future := id
  rank := List.length
  silent {t a t'} h := by
    cases t <;> cases h
  emit {t a t' x} h := by
    cases t with
    | nil => cases h
    | cons y ys =>
      cases h
      rfl
  future_done h := List.isEmpty_iff.1 h
  progress {t} h := by
    cases t with
    | nil => cases h
    | cons y ys => exact ⟨(), ys, some y, rfl⟩
  rank_lt {t a t' o} h := by
    cases t with
    | nil => cases h
    | cons y ys =>
      cases h
      exact Nat.lt_succ_self _

/-! ## A stage behind a producer -/

/-- A producer, the pipe, and the stage that reads from it. -/
structure Piped (α σ ρ τ : Type*) where
  up : τ
  pipe : List α
  /-- What was read of the message that comes next. -/
  buffer : List α
  phase : Stage.Phase α σ ρ

/-- A step of the producer, or of the stage. -/
inductive PipeAction (ι : Type*)
  | upstream (a : ι)
  | advance

namespace Piped

/-- The stage has left. -/
def done (s : Piped α σ ρ τ) : Bool :=
  match s.phase with
  | .left _ => true
  | _ => false

/-- The producer takes a step. A symbol it emits needs room in the pipe; once the stage has left,
nothing is read any more. -/
def upstream (P : Producer α τ ι) (cap : ℕ) (s : Piped α σ ρ τ) (a : ι) :
    Option (Piped α σ ρ τ) :=
  if s.done then none
  else
    match P.step s.up a with
    | none => none
    | some (t, none) => some { s with up := t }
    | some (t, some x) =>
      if s.pipe.length < cap then some { s with up := t, pipe := s.pipe ++ [x] } else none

/-- The stage takes a step: it handles the message that is complete, takes a symbol from the pipe,
sees the end of the stream, writes a symbol or goes on after its last one. -/
def advance (P : Producer α τ ι) (g : Stage ε α σ ρ) (s : Piped α σ ρ τ) :
    Option (Piped α σ ρ τ × Option α) :=
  match s.phase with
  | .reading st =>
    match g.read s.buffer with
    | .ok (f, rest) =>
      some ({ s with buffer := rest, phase := .writing (g.body st f).1 (g.body st f).2 }, none)
    | .error _ =>
      match s.pipe with
      | x :: xs => some ({ s with pipe := xs, buffer := s.buffer ++ [x] }, none)
      | [] =>
        if P.done s.up then
          some ({ s with phase := .writing (g.atEnd st).1 (.stop (g.atEnd st).2) }, none)
        else none
  | .writing (x :: xs) next => some ({ s with phase := .writing xs next }, some x)
  | .writing [] (.next st) => some ({ s with phase := .reading st }, none)
  | .writing [] (.stop r) => some ({ s with phase := .left r }, none)
  | .left _ => none

end Piped

/-- A stage behind a producer, as a producer of what the stage writes. -/
def Producer.pipe (P : Producer α τ ι) (g : Stage ε α σ ρ) (cap : ℕ) :
    Producer α (Piped α σ ρ τ) (PipeAction ι) where
  step
    | s, .upstream a => (s.upstream P cap a).map fun s => (s, none)
    | s, .advance => s.advance P g
  done := Piped.done

/-! ## The stage goes on as it would on the whole stream -/

/-- A message that is complete is read whatever follows it. -/
theorem SelfDelimiting.drain_append {read : Reader ε α} (hs : SelfDelimiting read)
    {b f rest : List α} (h : read b = .ok (f, rest)) (more : List α) :
    drain read (b ++ more) = f :: drain read (rest ++ more) := by
  rw [← hs.append_eq h, List.append_assoc]
  exact drain_frame_append hs.toConsuming (hs.isFrame h) (rest ++ more)

namespace Piped

variable {P : Producer α τ ι} (F : Determined P) {g : Stage ε α σ ρ} {cap : ℕ}

theorem done_iff {s : Piped α σ ρ τ} : s.done = true ↔ ∃ r, s.phase = .left r := by
  unfold done
  cases s.phase <;> simp

/-- The messages that the stage has still to read. -/
def toCome (g : Stage ε α σ ρ) (s : Piped α σ ρ τ) : List (List α) :=
  drain g.read (s.buffer ++ (s.pipe ++ F.future s.up))

/-- What is still to be written, and the result to come. -/
def eval (g : Stage ε α σ ρ) (s : Piped α σ ρ τ) : List α × ρ :=
  s.phase.eval g (s.toCome F g)

/-- The steps of the stage and the symbols that have not been taken from the pipe. -/
def rank (g : Stage ε α σ ρ) (s : Piped α σ ρ τ) : ℕ :=
  F.rank s.up + (s.pipe ++ F.future s.up).length + s.phase.cost g (s.toCome F g)

theorem up_upstream {s s' : Piped α σ ρ τ} {a : ι} (h : s.upstream P cap a = some s') :
    ∃ o, P.step s.up a = some (s'.up, o) := by
  unfold upstream at h
  split at h
  · cases h
  · split at h
    · cases h
    · rename_i t hstep
      cases h
      exact ⟨none, hstep⟩
    · rename_i t x hstep
      split at h
      · cases h
        exact ⟨some x, hstep⟩
      · cases h

theorem up_advance {s s' : Piped α σ ρ τ} {o : Option α} (h : s.advance P g = some (s', o)) :
    s'.up = s.up := by
  unfold advance at h
  split at h
  · split at h
    · cases h
      rfl
    · split at h
      · cases h
        rfl
      · split at h
        · cases h
          rfl
        · cases h
  · cases h
    rfl
  · cases h
    rfl
  · cases h
    rfl
  · cases h

/-- **A step of the producer** changes neither what is to come nor the stage. -/
theorem upstream_spec {s s' : Piped α σ ρ τ} {a : ι} (h : s.upstream P cap a = some s') :
    s'.pipe ++ F.future s'.up = s.pipe ++ F.future s.up ∧ s'.buffer = s.buffer ∧
      s'.phase = s.phase ∧ F.rank s'.up < F.rank s.up := by
  unfold upstream at h
  split at h
  · cases h
  · split at h
    · cases h
    · rename_i t hstep
      cases h
      exact ⟨by rw [F.silent hstep], rfl, rfl, F.rank_lt hstep⟩
    · rename_i t x hstep
      split at h
      · cases h
        refine ⟨?_, rfl, rfl, F.rank_lt hstep⟩
        rw [F.emit hstep, List.append_assoc, List.singleton_append]
      · cases h

theorem eval_upstream {s s' : Piped α σ ρ τ} {a : ι} (h : s.upstream P cap a = some s') :
    s'.eval F g = s.eval F g := by
  obtain ⟨hstream, hbuffer, hphase, -⟩ := upstream_spec F h
  rw [eval, eval, toCome, toCome, hphase, hbuffer, hstream]

theorem rank_upstream {s s' : Piped α σ ρ τ} {a : ι} (h : s.upstream P cap a = some s') :
    s'.rank F g < s.rank F g := by
  obtain ⟨hstream, hbuffer, hphase, hrank⟩ := upstream_spec F h
  rw [rank, rank, toCome, toCome, hphase, hbuffer, hstream]
  omega

/-- **A step of the stage** writes the first symbol of what it has still to write, or none. -/
theorem advance_spec (hg : SelfDelimiting g.read) {s s' : Piped α σ ρ τ} {o : Option α}
    (h : s.advance P g = some (s', o)) :
    s.eval F g = (o.toList ++ (s'.eval F g).1, (s'.eval F g).2) ∧
      s'.rank F g < s.rank F g := by
  obtain ⟨up, pipe, buffer, phase⟩ := s
  unfold advance at h
  cases phase with
  | reading st =>
    dsimp only at h
    split at h
    · -- a message is handled
      rename_i f rest hread
      cases h
      have hdrain := hg.drain_append hread (pipe ++ F.future up)
      simp only [eval, rank, toCome, hdrain, Stage.Phase.eval, Stage.Phase.cost, Stage.eval,
        Stage.cost]
      rcases g.body st f with ⟨out, st' | r⟩
      · refine ⟨rfl, ?_⟩
        simp only
        omega
      · refine ⟨rfl, ?_⟩
        simp only
        omega
    · rename_i e hread
      split at h
      · -- a symbol is taken from the pipe
        rename_i x xs
        cases h
        refine ⟨by simp [eval, toCome], ?_⟩
        simp [rank, toCome]
      · split at h
        · -- the stream has ended
          rename_i hdone
          cases h
          have hdrain : drain g.read (buffer ++ ([] ++ F.future up)) = [] := by
            rw [F.future_done hdone, List.append_nil, List.append_nil, drain_of_error hread]
          simp only [eval, rank, toCome, hdrain, Stage.Phase.eval, Stage.Phase.cost, Stage.eval,
        Stage.cost]
          exact ⟨rfl, by omega⟩
        · cases h
  | writing pending next =>
    cases pending with
    | nil =>
      cases next with
      | next st =>
        cases h
        simp [eval, rank, toCome, Stage.Phase.eval, Stage.Phase.cost]
      | stop r =>
        cases h
        simp [eval, rank, Stage.Phase.eval, Stage.Phase.cost]
    | cons x xs =>
      cases h
      cases next <;> simp [eval, rank, toCome, Stage.Phase.eval, Stage.Phase.cost]
  | left r => cases h

/-- A stage that cannot go on waits for its producer, which can. -/
theorem progress (F : Determined P) (hcap : 0 < cap) {s : Piped α σ ρ τ} (h : s.done = false) :
    ∃ a s' o, (P.pipe g cap).step s a = some (s', o) := by
  obtain ⟨up, pipe, buffer, phase⟩ := s
  cases phase with
  | reading st =>
    rcases hread : g.read buffer with e | ⟨f, rest⟩
    · cases pipe with
      | nil =>
        cases hdone : P.done up with
        | false =>
          -- there is room in the empty pipe
          obtain ⟨a, t, _ | x, hstep⟩ := F.progress hdone
          · refine ⟨.upstream a, ⟨t, [], buffer, .reading st⟩, none, ?_⟩
            simp [Producer.pipe, upstream, done, hstep]
          · refine ⟨.upstream a, ⟨t, [x], buffer, .reading st⟩, none, ?_⟩
            simp [Producer.pipe, upstream, done, hstep, hcap]
        | true =>
          refine ⟨.advance, ⟨up, [], buffer, .writing (g.atEnd st).1 (.stop (g.atEnd st).2)⟩,
            none, ?_⟩
          simp [Producer.pipe, advance, hread, hdone]
      | cons x xs =>
        refine ⟨.advance, ⟨up, xs, buffer ++ [x], .reading st⟩, none, ?_⟩
        simp [Producer.pipe, advance, hread]
    · refine ⟨.advance, ⟨up, pipe, rest, .writing (g.body st f).1 (g.body st f).2⟩, none, ?_⟩
      simp [Producer.pipe, advance, hread]
  | writing pending next =>
    cases pending with
    | nil => cases next <;> exact ⟨.advance, _, _, rfl⟩
    | cons x xs => exact ⟨.advance, _, _, rfl⟩
  | left r => cases h

end Piped

/-- **A stage behind a determined producer is a determined producer.** Its future is what it writes
on the whole of its input. -/
def Determined.pipe {P : Producer α τ ι} (F : Determined P) {g : Stage ε α σ ρ}
    (hg : SelfDelimiting g.read) {cap : ℕ} (hcap : 0 < cap) : Determined (P.pipe g cap) where
  future s := (s.eval F g).1
  rank s := s.rank F g
  silent {s a s'} h := by
    cases a with
    | upstream a =>
      obtain ⟨s₁, hup, heq⟩ := Option.map_eq_some_iff.1 h
      obtain rfl := (Prod.mk.inj heq).1
      rw [Piped.eval_upstream F hup]
    | advance =>
      obtain ⟨heval, -⟩ := Piped.advance_spec F hg h
      exact (congrArg Prod.fst heval).symm
  emit {s a s' x} h := by
    cases a with
    | upstream a =>
      obtain ⟨s₁, -, heq⟩ := Option.map_eq_some_iff.1 h
      cases (Prod.mk.inj heq).2
    | advance =>
      obtain ⟨heval, -⟩ := Piped.advance_spec F hg h
      exact congrArg Prod.fst heval
  future_done {s} h := by
    obtain ⟨r, hr⟩ := Piped.done_iff.1 h
    rw [Piped.eval, hr]
    rfl
  progress h := Piped.progress F hcap h
  rank_lt {s a s' o} h := by
    cases a with
    | upstream a =>
      obtain ⟨s₁, hup, heq⟩ := Option.map_eq_some_iff.1 h
      obtain rfl := (Prod.mk.inj heq).1
      exact Piped.rank_upstream F hup
    | advance => exact (Piped.advance_spec F hg h).2

/-! ## Runs of a pipeline -/

/-- The steps of a pipeline, whatever its last stage writes. -/
def Producer.machine (P : Producer α τ ι) (t : τ) (a : ι) : Option τ := (P.step t a).map Prod.fst

section Runs

variable {P : Producer α τ ι} (F : Determined P) {g : Stage ε α σ ρ} {cap : ℕ}

theorem Producer.machine_eq_some {t t' : τ} {a : ι} :
    P.machine t a = some t' ↔ ∃ o, P.step t a = some (t', o) := by
  simp [Producer.machine]

/-- The result that the last stage will leave with. -/
def Determined.outcome (g : Stage ε α σ ρ) (s : Piped α σ ρ τ) : ρ := (s.eval F g).2

/-- **No step changes the result.** -/
theorem Determined.outcome_step (hg : SelfDelimiting g.read) {s s' : Piped α σ ρ τ}
    {a : PipeAction ι} (h : (P.pipe g cap).machine s a = some s') :
    F.outcome g s' = F.outcome g s := by
  obtain ⟨o, h⟩ := Producer.machine_eq_some.1 h
  cases a with
  | upstream a =>
    obtain ⟨s₁, hup, heq⟩ := Option.map_eq_some_iff.1 h
    obtain rfl := (Prod.mk.inj heq).1
    rw [Determined.outcome, Piped.eval_upstream F hup, Determined.outcome]
  | advance =>
    obtain ⟨heval, -⟩ := Piped.advance_spec F hg h
    exact (congrArg Prod.snd heval).symm

theorem Determined.outcome_run (hg : SelfDelimiting g.read) {s s' : Piped α σ ρ τ}
    {as : List (PipeAction ι)} (h : run (P.pipe g cap).machine s as = some s') :
    F.outcome g s' = F.outcome g s :=
  run_invariant (P := fun t => F.outcome g t = F.outcome g s)
    (fun _ _ _ ht hstep => (F.outcome_step hg hstep).trans ht) rfl h

/-- **A pipeline stops only when its last stage has left**, with the result that it would have had
from the start. -/
theorem Determined.halted_iff (hcap : 0 < cap) {s : Piped α σ ρ τ} :
    (∀ a, (P.pipe g cap).machine s a = none) ↔ s.phase = .left (F.outcome g s) := by
  constructor
  · intro h
    cases hdone : s.done with
    | false =>
      obtain ⟨a, s', o, hstep⟩ := Piped.progress (g := g) F hcap hdone
      have hnone := h a
      rw [Producer.machine, hstep] at hnone
      cases hnone
    | true =>
      obtain ⟨r, hr⟩ := Piped.done_iff.1 hdone
      rw [hr, Determined.outcome, Piped.eval, hr]
      rfl
  · intro h a
    have hdone : s.done = true := Piped.done_iff.2 ⟨_, h⟩
    cases a with
    | upstream a => simp [Producer.machine, Producer.pipe, Piped.upstream, hdone]
    | advance => simp [Producer.machine, Producer.pipe, Piped.advance, h]

/-- What is upstream of a stage takes its own steps, whatever the stage does. -/
theorem Producer.reachable_up {s s' : Piped α σ ρ τ} (h : Reachable (P.pipe g cap).machine s s') :
    Reachable P.machine s.up s'.up := by
  refine h.invariant (P := fun t => Reachable P.machine s.up t.up) (fun t a t' ht hstep => ?_)
    (.refl _)
  obtain ⟨o, hstep⟩ := machine_eq_some.1 hstep
  cases a with
  | upstream a =>
    obtain ⟨t₁, hup, heq⟩ := Option.map_eq_some_iff.1 hstep
    obtain rfl := (Prod.mk.inj heq).1
    obtain ⟨o, hP⟩ := Piped.up_upstream hup
    exact ht.tail (machine_eq_some.2 ⟨o, hP⟩)
  | advance =>
    rw [Piped.up_advance hstep]
    exact ht

/-- Every run is bounded by the rank. -/
theorem Determined.length_run {t t' : τ} {as : List ι} (h : run P.machine t as = some t') :
    as.length + F.rank t' ≤ F.rank t := by
  induction as generalizing t with
  | nil =>
    obtain rfl := Option.some.inj h
    simp
  | cons a as ih =>
    obtain ⟨u, hu, hrun⟩ := run_cons_eq_some.1 h
    obtain ⟨o, hstep⟩ := Producer.machine_eq_some.1 hu
    have hlt := F.rank_lt hstep
    have hle := ih hrun
    rw [List.length_cons]
    omega

end Runs

end AnyPlug
