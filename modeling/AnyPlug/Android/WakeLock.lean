import AnyPlug.Foundations.Transition

/-!
# The transfer wake lock of the Android service

`AnyPlugService.kt` has a reference-counted wake lock that every URB transfer acquires and, in a
`finally`, releases: in `UsbIpServer.urbLoop` and in `UsbIpClient.submitUrb`. `stop()` and
`onDestroy()` release it once more where they find it held. A release at count zero throws.

`wakeLock_balanced_iff`: the lock is balanced when `stop()` and `onDestroy()` never find it held,
and over a run that ends at rest it is balanced only then.
-/

namespace AnyPlug

/-- The calls that release the lock without having acquired it. -/
inductive Releaser
  | stop
  | onDestroy
  deriving DecidableEq

/-- The wake lock, the transfers and the main thread. -/
structure TransferWakeLock where
  count : ℕ
  inFlight : Finset ℕ
  finished : Finset ℕ
  /-- The call that has found the lock held and is about to release it. -/
  checked : Option Releaser
  /-- The lock was released at count zero. -/
  underLocked : Bool

namespace TransferWakeLock

inductive Event
  | acquire (i : ℕ)
  /-- The `finally` of a transfer, after its normal end or an exception. -/
  | finish (i : ℕ)
  /-- `transferWakeLock?.isHeld == true` -/
  | check (r : Releaser)
  /-- `transferWakeLock?.release()` after it -/
  | release (r : Releaser)

/-- `WakeLock.release`. At count zero it throws, and the count stays. -/
def releaseLock (s : TransferWakeLock) : TransferWakeLock :=
  if s.count = 0 then { s with underLocked := true } else { s with count := s.count - 1 }

def step (s : TransferWakeLock) : Event → Option TransferWakeLock
  | .acquire i =>
    if i ∈ s.inFlight ∨ i ∈ s.finished then none
    else some { s with count := s.count + 1, inFlight := insert i s.inFlight }
  | .finish i =>
    if i ∈ s.inFlight then
      some { s.releaseLock with
        inFlight := s.inFlight.erase i
        finished := insert i s.finished }
    else none
  | .check r =>
    if s.checked = none then
      some { s with checked := if 0 < s.count then some r else none }
    else none
  | .release r =>
    if s.checked = some r then some { s.releaseLock with checked := none } else none

def init : TransferWakeLock := ⟨0, ∅, ∅, none, false⟩

/-- No release was one too many, and the lock is free when no transfer is in flight. -/
structure Balanced (s : TransferWakeLock) : Prop where
  not_underLocked : s.underLocked = false
  free : s.inFlight = ∅ → s.count = 0

/-- `stop()` and `onDestroy()` do not find the lock held. -/
def Free (s : TransferWakeLock) : Event → Prop
  | .check _ => s.count = 0
  | _ => True

/-! ## One step -/

theorem step_cases {s t : TransferWakeLock} {a : Event} (h : step s a = some t) :
    (∃ i ∉ s.inFlight, a = .acquire i ∧
      t = { s with count := s.count + 1, inFlight := insert i s.inFlight }) ∨
    (∃ i ∈ s.inFlight, a = .finish i ∧
      t = { s.releaseLock with
        inFlight := s.inFlight.erase i
        finished := insert i s.finished }) ∨
    (∃ r, a = .check r ∧ s.checked = none ∧
      t = { s with checked := if 0 < s.count then some r else none }) ∨
    ∃ r, a = .release r ∧ s.checked = some r ∧ t = { s.releaseLock with checked := none } := by
  cases a with
  | acquire i =>
    rw [step, Option.ite_none_left_eq_some] at h
    push Not at h
    exact .inl ⟨i, h.1.1, rfl, (Option.some.inj h.2).symm⟩
  | finish i =>
    rw [step, Option.ite_none_right_eq_some] at h
    exact .inr (.inl ⟨i, h.1, rfl, (Option.some.inj h.2).symm⟩)
  | check r =>
    rw [step, Option.ite_none_right_eq_some] at h
    exact .inr (.inr (.inl ⟨r, rfl, h.1, (Option.some.inj h.2).symm⟩))
  | release r =>
    rw [step, Option.ite_none_right_eq_some] at h
    exact .inr (.inr (.inr ⟨r, rfl, h.1, (Option.some.inj h.2).symm⟩))

/-- A release throws or takes one. -/
theorem releaseLock_cases (s : TransferWakeLock) :
    s.count = 0 ∧ s.releaseLock = { s with underLocked := true } ∨
      0 < s.count ∧ s.releaseLock = { s with count := s.count - 1 } := by
  unfold releaseLock
  split
  · next h => exact .inl ⟨h, rfl⟩
  · next h => exact .inr ⟨Nat.pos_of_ne_zero h, rfl⟩

/-- Every count is that of a transfer in flight. -/
structure Inv (s : TransferWakeLock) : Prop where
  count_eq : s.count = s.inFlight.card
  checked : s.checked = none
  not_underLocked : s.underLocked = false

theorem Inv.step {s t : TransferWakeLock} {a : Event} (hs : Inv s) (hfree : Free s a)
    (h : TransferWakeLock.step s a = some t) : Inv t := by
  obtain ⟨i, hi, rfl, rfl⟩ | ⟨i, hi, rfl, rfl⟩ | ⟨r, rfl, hnone, rfl⟩ | ⟨r, rfl, hsome, rfl⟩ :=
    step_cases h
  · refine ⟨?_, hs.checked, hs.not_underLocked⟩
    show s.count + 1 = (insert i s.inFlight).card
    rw [Finset.card_insert_of_notMem hi, hs.count_eq]
  · have hpos : 0 < s.inFlight.card := Finset.card_pos.2 ⟨i, hi⟩
    have hcount := hs.count_eq
    obtain ⟨h0, -⟩ | ⟨-, hrelease⟩ := releaseLock_cases s
    · omega
    · rw [hrelease]
      refine ⟨?_, hs.checked, hs.not_underLocked⟩
      show s.count - 1 = (s.inFlight.erase i).card
      rw [Finset.card_erase_of_mem hi, hs.count_eq]
  · have h0 : s.count = 0 := hfree
    refine ⟨hs.count_eq, ?_, hs.not_underLocked⟩
    exact if_neg (by omega)
  · rw [hs.checked] at hsome
    cases hsome

theorem Inv.balanced {s : TransferWakeLock} (hs : Inv s) : Balanced s where
  not_underLocked := hs.not_underLocked
  free hempty := by rw [hs.count_eq, hempty, Finset.card_empty]

/-! ## A release too many -/

/-- The lock was released at zero, or it counts too little, or it is about to. -/
def Deficit (s : TransferWakeLock) : Prop :=
  s.underLocked = true ∨ s.count < s.inFlight.card ∨
    s.count = s.inFlight.card ∧ s.checked ≠ none

/-- The lock never counts too much. -/
def Bounded (s : TransferWakeLock) : Prop := s.underLocked = true ∨ s.count ≤ s.inFlight.card

theorem bounded_step {s t : TransferWakeLock} {a : Event} (hs : Bounded s)
    (h : step s a = some t) : Bounded t := by
  obtain ⟨i, hi, rfl, rfl⟩ | ⟨i, hi, rfl, rfl⟩ | ⟨r, rfl, hnone, rfl⟩ | ⟨r, rfl, hsome, rfl⟩ :=
    step_cases h
  · refine hs.imp_right fun hle => ?_
    show s.count + 1 ≤ (insert i s.inFlight).card
    rw [Finset.card_insert_of_notMem hi]
    omega
  · obtain ⟨-, hrelease⟩ | ⟨hpos, hrelease⟩ := releaseLock_cases s
    · rw [hrelease]
      exact .inl rfl
    · rw [hrelease]
      refine hs.imp_right fun hle => ?_
      show s.count - 1 ≤ (s.inFlight.erase i).card
      rw [Finset.card_erase_of_mem hi]
      omega
  · exact hs
  · obtain ⟨-, hrelease⟩ | ⟨hpos, hrelease⟩ := releaseLock_cases s
    · rw [hrelease]
      exact .inl rfl
    · rw [hrelease]
      exact hs.imp_right fun hle => (Nat.sub_le _ _).trans hle

/-- What is too little stays too little. -/
theorem deficit_step {s t : TransferWakeLock} {a : Event} (hs : Deficit s)
    (h : step s a = some t) : Deficit t := by
  obtain ⟨i, hi, rfl, rfl⟩ | ⟨i, hi, rfl, rfl⟩ | ⟨r, rfl, hnone, rfl⟩ | ⟨r, rfl, hsome, rfl⟩ :=
    step_cases h
  · have hcard := Finset.card_insert_of_notMem hi
    refine hs.imp_right (Or.imp (fun hlt => ?_) (And.imp_left fun heq => ?_))
    · show s.count + 1 < (insert i s.inFlight).card
      omega
    · show s.count + 1 = (insert i s.inFlight).card
      omega
  · have hcard := Finset.card_erase_of_mem hi
    obtain ⟨-, hrelease⟩ | ⟨hpos, hrelease⟩ := releaseLock_cases s
    · rw [hrelease]
      exact .inl rfl
    · rw [hrelease]
      refine hs.imp_right (Or.imp (fun hlt => ?_) (And.imp_left fun heq => ?_))
      · show s.count - 1 < (s.inFlight.erase i).card
        omega
      · show s.count - 1 = (s.inFlight.erase i).card
        omega
  · exact hs.imp_right (Or.imp_right fun h => absurd hnone h.2)
  · obtain ⟨-, hrelease⟩ | ⟨hpos, hrelease⟩ := releaseLock_cases s
    · rw [hrelease]
      exact .inl rfl
    · rw [hrelease]
      refine hs.imp_right fun h => .inl ?_
      show s.count - 1 < s.inFlight.card
      omega

theorem deficit_of_check {s t : TransferWakeLock} {r : Releaser} (hs : Bounded s)
    (hheld : s.count ≠ 0) (h : step s (.check r) = some t) : Deficit t := by
  rw [step, Option.ite_none_right_eq_some] at h
  rw [← Option.some.inj h.2, if_pos (Nat.pos_of_ne_zero hheld)]
  refine hs.imp_right fun hle => ?_
  obtain hlt | heq := Nat.lt_or_eq_of_le hle
  · exact .inl hlt
  · exact .inr ⟨heq, Option.some_ne_none r⟩

/-! ## Runs -/

/-- **The wake lock is balanced when `stop()` and `onDestroy()` never find it held.** In a run that
ends with no transfer in flight and no such call in progress, it is balanced only then. -/
theorem wakeLock_balanced_iff {events : List Event} {t : TransferWakeLock}
    (h : run step init events = some t) :
    (Along step Free init events → Throughout step Balanced init events) ∧
      (t.inFlight = ∅ → t.checked = none →
        Throughout step Balanced init events → Along step Free init events) := by
  have hinit : Inv init := ⟨rfl, rfl, rfl⟩
  refine ⟨?_, ?_⟩
  · exact Along.throughout (fun s a t hs hfree ht => hs.step hfree ht) (fun s hs => hs.balanced)
      hinit
  · intro hempty hnone hbalanced
    refine along_iff.2 fun pre a post s hevents hs => ?_
    cases a with
    | check r =>
      show s.count = 0
      by_contra hheld
      rw [hevents] at h
      obtain ⟨u, hu, hrest⟩ := run_append_eq_some.1 h
      obtain rfl := Option.some.inj (hs.symm.trans hu)
      obtain ⟨v, hv, hrest⟩ := run_cons_eq_some.1 hrest
      have hbounded : Bounded s :=
        run_invariant (fun s a t => bounded_step) (.inr (Nat.zero_le _)) hs
      have hdeficit : Deficit t :=
        run_invariant (fun s a t => deficit_step) (deficit_of_check hbounded hheld hv) hrest
      have hlast := hbalanced.last (hevents ▸ h)
      rw [Deficit, hlast.not_underLocked, hempty, Finset.card_empty] at hdeficit
      simp [hnone] at hdeficit
    | acquire i => trivial
    | finish i => trivial
    | release r => trivial

/-- Two transfers overlap, and `stop()` and `onDestroy()` come after them. -/
theorem balanced_stopAfter :
    Throughout step Balanced init
      [.acquire 0, .acquire 1, .finish 0, .finish 1, .check .stop, .check .onDestroy] := by
  refine (wakeLock_balanced_iff rfl).1 ?_
  exact .cons trivial rfl (.cons trivial rfl (.cons trivial rfl (.cons trivial rfl
    (.cons rfl rfl (.cons rfl rfl trivial)))))

/-- `stop()` comes while a transfer is in flight: the release of the transfer throws. -/
theorem not_balanced_stopDuring :
    ¬∀ events t, run step init events = some t → Throughout step Balanced init events := by
  intro h
  have hbalanced := h [.acquire 0, .check .stop, .release .stop, .finish 0] _ rfl
  exact Bool.noConfusion (hbalanced.last rfl).not_underLocked

end TransferWakeLock

end AnyPlug
