import AnyPlug.Foundations.Transition

/-!
# The sessions of the Android service

`AnyPlugService.kt` starts a session with `startServer`: it makes a `UsbIpServer`, stores it in
`serverRunner` and launches a coroutine that calls its `start()`. The coroutine reads `serverRunner`
again, and where `start()` throws, its handler writes `currentMode` and `serverRunner`, whatever
session they belong to by then. The calls of the service run on the main thread, the coroutines on
other threads. A step is one statement that reads or writes what they share.

`start()` throws at any time, and it returns only after a `stop()` (`UsbIpServer.kt`).

`owned_of_restart`: the fields are those of the session that runs, if a session is started only
after all coroutines before it have ended. `waiting_of_quiet`: the service waits for its device to
come back, if no `start()` throws meanwhile.
-/

namespace AnyPlug

inductive Mode
  | server
  | client
  | idle
  | awaitingDevice
  deriving DecidableEq

/-- Where the main thread is. -/
inductive MainThread
  /-- Between two calls. -/
  | rest
  /-- `startServer`, before `currentMode = Mode.SERVER`. -/
  | startServer (vid pid : ℕ)
  /-- `startServer`, before `serverRunner = UsbIpServer(..)`. -/
  | newRunner
  /-- `startServer`, before `serviceScope.launch`. -/
  | launch
  /-- `stop`, before `currentMode = Mode.IDLE`. -/
  | stop
  /-- `stop`, before `serverRunner?.stop()`. -/
  | stopRunner
  /-- `onDeviceDisconnected`, before `serverRunner?.stop()`. -/
  | disconnected
  /-- `onDeviceDisconnected`, before `serverRunner = null`. -/
  | clearRunner
  /-- `onDeviceDisconnected`, before `currentMode = Mode.AWAITING_DEVICE`. -/
  | awaitDevice
  deriving DecidableEq

/-- Where the coroutine of a session is. -/
inductive Coroutine
  | absent
  /-- Launched, before it reads `serverRunner`. -/
  | launched
  /-- In `start()` of a runner. -/
  | running (runner : ℕ)
  /-- In the handler, before `currentMode = Mode.IDLE`. -/
  | setIdle
  /-- In the handler, before `serverRunner?.stop()`. -/
  | stopRunner
  /-- In the handler, before `serverRunner = null`. -/
  | clearRunner
  | ended
  deriving DecidableEq

/-- The service. The runner of session `k` is runner `k`. -/
structure Service where
  currentMode : Mode
  serverRunner : Option ℕ
  lastShared : ℕ × ℕ
  main : MainThread
  /-- The number of runners that were made. -/
  runners : ℕ
  /-- The runners on which `stop()` was called. -/
  stopped : ℕ → Bool
  coroutines : ℕ → Coroutine
  /-- A handler has stopped or cleared the runner of a later session, or changed its mode. -/
  overtaken : Bool
  /-- `onDeviceDisconnected` has returned, and the device has not come back since, nor has the user
  started or stopped anything. -/
  awaiting : Bool

/-- The calls of the service. `attached` is `onStartCommand` with `ACTION_USB_DEVICE_ATTACHED`. -/
inductive ServiceCall
  | startServer (vid pid : ℕ)
  | stop
  | onDeviceDisconnected
  | attached (vid pid : ℕ)

namespace Service

inductive Event
  | call (c : ServiceCall)
  /-- The next statement of the call. -/
  | main
  /-- The coroutine reads `serverRunner`, and calls `start()`. -/
  | start (k : ℕ)
  | returns (k : ℕ)
  | throws (k : ℕ)
  /-- The next statement of the handler. -/
  | handler (k : ℕ)

/-- `onStartCommand` starts the server for the device that was shared last. -/
def onStartCommand (s : Service) (vid pid : ℕ) : MainThread :=
  if s.currentMode = .awaitingDevice ∧ (vid, pid) = s.lastShared then .startServer vid pid
  else .rest

/-- `serverRunner?.stop()` -/
def stopRunner (s : Service) : Service :=
  match s.serverRunner with
  | none => s
  | some r => { s with stopped := Function.update s.stopped r true }

def goto (s : Service) (k : ℕ) (c : Coroutine) : Service :=
  { s with coroutines := Function.update s.coroutines k c }

/-- `serverRunner` belongs to a session after session `k`. -/
def ownedAfter (s : Service) (k : ℕ) : Bool := s.serverRunner.any (k < ·)

/-- Begin a call, on a main thread that is at rest. -/
def beginCall (s : Service) : ServiceCall → Service
  | .startServer vid pid => { s with main := .startServer vid pid, awaiting := false }
  | .stop => { s with main := .stop, awaiting := false }
  | .onDeviceDisconnected => { s with main := .disconnected }
  | .attached vid pid =>
    { s with
      main := s.onStartCommand vid pid
      awaiting := s.awaiting && (vid, pid) ≠ s.lastShared }

def mainStep (s : Service) : Option Service :=
  match s.main with
  | .rest => none
  | .startServer vid pid =>
    some { s with currentMode := .server, lastShared := (vid, pid), main := .newRunner }
  | .newRunner =>
    some { s with serverRunner := some s.runners, runners := s.runners + 1, main := .launch }
  | .launch => some { s.goto (s.runners - 1) .launched with main := .rest }
  | .stop => some { s with currentMode := .idle, main := .stopRunner }
  | .stopRunner => some { s.stopRunner with main := .rest }
  | .disconnected => some { s.stopRunner with main := .clearRunner }
  | .clearRunner => some { s with serverRunner := none, main := .awaitDevice }
  | .awaitDevice =>
    some { s with currentMode := .awaitingDevice, main := .rest, awaiting := true }

/-- The handler of session `k`. -/
def handlerStep (s : Service) (k : ℕ) : Option Service :=
  match s.coroutines k with
  | .setIdle =>
    some { s.goto k .stopRunner with
      currentMode := .idle
      overtaken := s.overtaken || (k + 1 < s.runners && s.currentMode ≠ .idle) }
  | .stopRunner =>
    some { s.stopRunner.goto k .clearRunner with overtaken := s.overtaken || s.ownedAfter k }
  | .clearRunner =>
    some { s.goto k .ended with
      serverRunner := none
      overtaken := s.overtaken || s.ownedAfter k }
  | _ => none

def step (s : Service) : Event → Option Service
  | .call c => if s.main = .rest then some (s.beginCall c) else none
  | .main => s.mainStep
  | .start k =>
    if s.coroutines k = .launched then
      match s.serverRunner with
      | none => some (s.goto k .ended)
      | some r => some (s.goto k (.running r))
    else none
  | .returns k =>
    match s.coroutines k with
    | .running r => if s.stopped r then some (s.goto k .ended) else none
    | _ => none
  | .throws k =>
    match s.coroutines k with
    | .running _ => some (s.goto k .setIdle)
    | _ => none
  | .handler k => s.handlerStep k

def init : Service :=
  ⟨.idle, none, (0, 0), .rest, 0, fun _ => false, fun _ => .absent, false, false⟩

/-! ## Ownership -/

/-- The runner of every `start()` that runs and was not stopped is in `serverRunner`; in mode `IDLE`
there is none, unless a call is in progress; no handler has overtaken a later session. -/
structure Owned (s : Service) : Prop where
  live : ∀ k r, s.coroutines k = .running r → s.stopped r = false → s.serverRunner = some r
  idle : s.main = .rest → s.currentMode = .idle →
    ∀ k r, s.coroutines k = .running r → s.stopped r = true
  not_overtaken : s.overtaken = false

/-- The coroutine of a session is launched and has not ended. -/
def Alive (c : Coroutine) : Prop := c ≠ .absent ∧ c ≠ .ended

/-- Its `start()` is still to come or running. -/
def Active (c : Coroutine) : Prop := c = .launched ∨ ∃ r, c = .running r

/-- `startServer` is in progress. -/
def Starting : MainThread → Prop
  | .startServer _ _ | .newRunner | .launch => True
  | _ => False

/-- A session is started only when the coroutines of all sessions have ended. -/
def Restart (s : Service) : Event → Prop
  | .call c => Starting (s.beginCall c).main → ∀ k, ¬Alive (s.coroutines k)
  | _ => True

theorem Active.alive {c : Coroutine} (h : Active c) : Alive c := by
  obtain rfl | ⟨r, rfl⟩ := h
  · exact ⟨Coroutine.noConfusion, Coroutine.noConfusion⟩
  · exact ⟨Coroutine.noConfusion, Coroutine.noConfusion⟩

/-- Only the coroutine of the last session is alive, and `serverRunner` is its runner or null. -/
structure Inv (s : Service) : Prop where
  last : ∀ k, Alive (s.coroutines k) → k + 1 = s.runners
  starting : Starting s.main → ∀ k, ¬Alive (s.coroutines k)
  server : s.main = .newRunner ∨ s.main = .launch → s.currentMode = .server
  launch : s.main = .launch → 0 < s.runners ∧ s.serverRunner = some (s.runners - 1)
  own : ∀ k r, s.coroutines k = .running r → r = k
  field : ∀ k r, Alive (s.coroutines k) → s.serverRunner = some r → r = k
  held : ∀ k, Active (s.coroutines k) → s.stopped k = false → s.serverRunner = some k
  clear : s.main = .clearRunner → ∀ k, Active (s.coroutines k) → s.stopped k = true
  idle : s.currentMode = .idle → s.main = .stopRunner ∨
    ∀ k, Active (s.coroutines k) → s.stopped k = true
  not_overtaken : s.overtaken = false

theorem coroutines_goto_self (s : Service) (k : ℕ) (c : Coroutine) :
    (s.goto k c).coroutines k = c :=
  Function.update_self ..

theorem coroutines_goto_of_ne (s : Service) {k j : ℕ} (c : Coroutine) (h : j ≠ k) :
    (s.goto k c).coroutines j = s.coroutines j :=
  Function.update_of_ne h ..

/-- What the new position of a coroutine has in common with the old one. -/
theorem of_coroutines_goto {s : Service} {k j : ℕ} {c : Coroutine} {P : Coroutine → Prop}
    (hc : P c → P (s.coroutines k)) (h : P ((s.goto k c).coroutines j)) : P (s.coroutines j) := by
  by_cases hjk : j = k
  · rw [hjk, coroutines_goto_self] at h
    rw [hjk]
    exact hc h
  · rwa [coroutines_goto_of_ne s c hjk] at h

/-- The coroutine of the last session goes on. -/
theorem Inv.goto {s : Service} (hs : Inv s) {k : ℕ} {c : Coroutine} (hk : Alive (s.coroutines k))
    (hown : ∀ r, c = .running r → r = k) (hactive : Active c → Active (s.coroutines k)) :
    Inv (s.goto k c) := by
  have halive := fun j =>
    of_coroutines_goto (s := s) (k := k) (j := j) (P := Alive) fun _ : Alive c => hk
  have hactive := fun j => of_coroutines_goto (s := s) (k := k) (j := j) hactive
  refine ⟨fun j hj => hs.last j (halive j hj), fun h j hj => hs.starting h j (halive j hj),
    hs.server, hs.launch, ?_, fun j r hj => hs.field j r (halive j hj),
    fun j hj => hs.held j (hactive j hj), fun h j hj => hs.clear h j (hactive j hj),
    fun h => (hs.idle h).imp_right fun h j hj => h j (hactive j hj), hs.not_overtaken⟩
  intro j r hj
  by_cases hjk : j = k
  · rw [hjk, coroutines_goto_self] at hj
    rw [hjk]
    exact hown r hj
  · rw [coroutines_goto_of_ne s c hjk] at hj
    exact hs.own j r hj

theorem stopRunner_eq (s : Service) :
    s.stopRunner = { s with stopped := s.stopRunner.stopped } := by
  unfold stopRunner
  split
  · rfl
  · rfl

@[simp] theorem coroutines_stopRunner (s : Service) : s.stopRunner.coroutines = s.coroutines := by
  rw [stopRunner_eq]

theorem stopped_stopRunner_of_stopped {s : Service} {k : ℕ} (h : s.stopped k = true) :
    s.stopRunner.stopped k = true := by
  unfold stopRunner
  split
  · exact h
  · next r _ =>
    by_cases hk : k = r
    · rw [hk]
      exact Function.update_self ..
    · exact (Function.update_of_ne hk ..).trans h

theorem Inv.stopRunner {s : Service} (hs : Inv s) : Inv s.stopRunner := by
  rw [stopRunner_eq]
  refine { hs with held := ?_, clear := ?_, idle := ?_ }
  · intro k hk hstopped
    refine hs.held k hk (Bool.eq_false_iff.2 fun h => ?_)
    exact Bool.noConfusion (hstopped.symm.trans (stopped_stopRunner_of_stopped h))
  · exact fun h k hk => stopped_stopRunner_of_stopped (hs.clear h k hk)
  · exact fun h => (hs.idle h).imp_right fun h k hk => stopped_stopRunner_of_stopped (h k hk)

/-- After `serverRunner?.stop()` the runner of every session that is active is stopped. -/
theorem Inv.stopped_stopRunner {s : Service} (hs : Inv s) (k : ℕ)
    (hk : Active (s.stopRunner.coroutines k)) : s.stopRunner.stopped k = true := by
  rw [coroutines_stopRunner] at hk
  cases hstopped : s.stopped k with
  | true => exact stopped_stopRunner_of_stopped hstopped
  | false =>
    rw [Service.stopRunner, hs.held k hk hstopped]
    exact Function.update_self ..

/-! ### The main thread -/

/-- The main thread goes on, and sets the mode. -/
theorem Inv.setMain {s : Service} (hs : Inv s) (mode : Mode) (main : MainThread) (awaiting : Bool)
    (hstarting : Starting main → ∀ k, ¬Alive (s.coroutines k))
    (hmain : main ≠ .newRunner ∧ main ≠ .launch ∧ main ≠ .clearRunner)
    (hidle : mode = .idle → main = .stopRunner ∨
      ∀ k, Active (s.coroutines k) → s.stopped k = true) :
    Inv { s with currentMode := mode, main := main, awaiting := awaiting } :=
  { hs with
    starting := hstarting
    server := fun h => h.elim (fun h => absurd h hmain.1) fun h => absurd h hmain.2.1
    launch := fun h => absurd h hmain.2.1
    clear := fun h => absurd h hmain.2.2
    idle := hidle }

theorem Inv.beginCall {s : Service} (hs : Inv s) (hrest : s.main = .rest) {c : ServiceCall}
    (hrestart : Restart s (.call c)) : Inv (s.beginCall c) := by
  have hidle : ∀ {main : MainThread}, s.currentMode = .idle → main = .stopRunner ∨
      ∀ k, Active (s.coroutines k) → s.stopped k = true := by
    intro main h
    obtain hmain | hall := hs.idle h
    · rw [hrest] at hmain
      cases hmain
    · exact .inr hall
  cases c with
  | startServer vid pid => exact hs.setMain _ _ _ hrestart (by simp) hidle
  | stop => exact hs.setMain _ _ _ hrestart (by simp) hidle
  | onDeviceDisconnected => exact hs.setMain _ _ _ hrestart (by simp) hidle
  | attached vid pid =>
    refine hs.setMain _ _ _ hrestart ?_ hidle
    obtain h | h : s.onStartCommand vid pid = .startServer vid pid ∨
        s.onStartCommand vid pid = .rest := ite_eq_or_eq ..
    · simp [h]
    · simp [h]

theorem Inv.startServer {s : Service} (hs : Inv s) (hmain : Starting s.main) (vid pid : ℕ) :
    Inv { s with currentMode := .server, lastShared := (vid, pid), main := .newRunner } :=
  { hs with
    starting := fun _ => hs.starting hmain
    server := fun _ => rfl
    launch := fun h => MainThread.noConfusion h
    clear := fun h => MainThread.noConfusion h
    idle := fun h => Mode.noConfusion h }

theorem Inv.newRunner {s : Service} (hs : Inv s) (hmain : s.main = .newRunner) :
    Inv { s with
      serverRunner := some s.runners
      runners := s.runners + 1
      main := .launch } := by
  have hnone := hs.starting (hmain ▸ trivial)
  exact
    { hs with
      last := fun k hk => absurd hk (hnone k)
      starting := fun _ => hnone
      server := fun _ => hs.server (.inl hmain)
      launch := fun _ => ⟨Nat.succ_pos _, rfl⟩
      field := fun k r hk => absurd hk (hnone k)
      held := fun k hk => absurd hk.alive (hnone k)
      clear := fun h => MainThread.noConfusion h
      idle := fun _ => .inr fun k hk => absurd hk.alive (hnone k) }

/-- The new session is the one that is alive. -/
theorem Inv.launched {s : Service} (hs : Inv s) (hmain : s.main = .launch) :
    Inv { s.goto (s.runners - 1) .launched with main := .rest } := by
  have hnone := hs.starting (hmain ▸ trivial)
  obtain ⟨hpos, hrunner⟩ := hs.launch hmain
  have heq : ∀ k, Alive ((s.goto (s.runners - 1) .launched).coroutines k) → k = s.runners - 1 := by
    intro k hk
    by_contra hne
    rw [coroutines_goto_of_ne s _ hne] at hk
    exact hnone k hk
  refine ⟨?_, False.elim, by simp, by simp, ?_, ?_, ?_, by simp, ?_, hs.not_overtaken⟩
  · intro k hk
    rw [heq k hk]
    exact Nat.sub_add_cancel hpos
  · intro k r hk
    have hk' : k = s.runners - 1 := heq k ⟨by rw [hk]; simp, by rw [hk]; simp⟩
    rw [hk'] at hk
    cases (coroutines_goto_self s _ _).symm.trans hk
  · intro k r hk hr
    rw [heq k hk]
    exact (Option.some.inj (hrunner.symm.trans hr)).symm
  · intro k hk _
    rw [heq k hk.alive]
    exact hrunner
  · intro hidle
    have hidle : s.currentMode = .idle := hidle
    cases hidle.symm.trans (hs.server (.inr hmain))

theorem Inv.mainStep {s t : Service} (hs : Inv s) (h : s.mainStep = some t) : Inv t := by
  unfold Service.mainStep at h
  split at h
  · cases h
  · next vid pid hmain =>
    cases h
    exact hs.startServer (hmain ▸ trivial) vid pid
  · next hmain =>
    cases h
    exact hs.newRunner hmain
  · next hmain =>
    cases h
    exact hs.launched hmain
  · cases h
    exact hs.setMain _ _ _ False.elim (by simp) fun _ => .inl rfl
  · cases h
    exact hs.stopRunner.setMain _ _ _ False.elim (by simp) fun _ => .inr hs.stopped_stopRunner
  · cases h
    exact
      { hs.stopRunner with
        starting := False.elim
        server := by simp
        launch := by simp
        clear := fun _ => hs.stopped_stopRunner
        idle := fun _ => .inr hs.stopped_stopRunner }
  · next hmain =>
    cases h
    exact
      { hs with
        starting := False.elim
        server := by simp
        launch := by simp
        field := by simp
        held := fun k hk h => Bool.noConfusion ((hs.clear hmain k hk).symm.trans h)
        clear := by simp
        idle := fun _ => .inr (hs.clear hmain) }
  · cases h
    exact hs.setMain _ _ _ False.elim (by simp) (by simp)

/-! ### The coroutines -/

section Handler

variable {s : Service} {k : ℕ}

/-- While a handler runs no other coroutine is active. -/
theorem Inv.not_active (hs : Inv s) (halive : Alive (s.coroutines k))
    (hactive : ¬Active (s.coroutines k)) (j : ℕ) : ¬Active (s.coroutines j) := by
  intro hj
  have hlast := (hs.last j hj.alive).trans (hs.last k halive).symm
  obtain rfl : j = k := Nat.succ.inj hlast
  exact hactive hj

theorem Inv.ownedAfter_eq_false (hs : Inv s) (halive : Alive (s.coroutines k)) :
    s.ownedAfter k = false := by
  cases hr : s.serverRunner with
  | none => rw [ownedAfter, hr, Option.any_none]
  | some r =>
    rw [ownedAfter, hr, hs.field k r halive hr, Option.any_some, decide_eq_false (lt_irrefl k)]

theorem Inv.main_ne (hs : Inv s) (halive : Alive (s.coroutines k)) :
    s.main ≠ .newRunner ∧ s.main ≠ .launch := by
  have hstarting : ¬Starting s.main := fun h => hs.starting h k halive
  constructor
  · intro h
    rw [h] at hstarting
    exact hstarting trivial
  · intro h
    rw [h] at hstarting
    exact hstarting trivial

theorem Inv.handler_setIdle (hs : Inv s) (hk : s.coroutines k = .setIdle) :
    Inv { s.goto k .stopRunner with
      currentMode := .idle
      overtaken := s.overtaken || (k + 1 < s.runners && s.currentMode ≠ .idle) } := by
  have halive : Alive (s.coroutines k) := by rw [hk]; simp [Alive]
  have hactive : ¬Active (s.coroutines k) := by rw [hk]; simp [Active]
  have hgoto : Inv (s.goto k .stopRunner) := hs.goto halive (by simp) (by simp [Active])
  obtain ⟨hnew, hlaunch⟩ := hs.main_ne halive
  refine { hgoto with server := ?_, idle := ?_, not_overtaken := ?_ }
  · exact fun h => h.elim (fun h => absurd h hnew) fun h => absurd h hlaunch
  · intro _
    refine .inr fun j hj => ?_
    exact absurd (of_coroutines_goto (by simp [Active]) hj) (hs.not_active halive hactive j)
  · -- there is no later session whose mode it could change
    have hlt : ¬k + 1 < s.runners := Nat.not_lt_of_le (hs.last k halive).ge
    rw [hs.not_overtaken, decide_eq_false hlt]
    rfl

theorem Inv.handler_stopRunner (hs : Inv s) (hk : s.coroutines k = .stopRunner) :
    Inv { s.stopRunner.goto k .clearRunner with overtaken := s.overtaken || s.ownedAfter k } := by
  have halive : Alive (s.coroutines k) := by rw [hk]; simp [Alive]
  have hgoto : Inv (s.stopRunner.goto k .clearRunner) :=
    hs.stopRunner.goto (by rwa [coroutines_stopRunner]) (by simp) (by simp [Active])
  refine { hgoto with not_overtaken := ?_ }
  rw [hs.not_overtaken, hs.ownedAfter_eq_false halive]
  rfl

theorem Inv.handler_clearRunner (hs : Inv s) (hk : s.coroutines k = .clearRunner) :
    Inv { s.goto k .ended with
      serverRunner := none
      overtaken := s.overtaken || s.ownedAfter k } := by
  have halive : Alive (s.coroutines k) := by rw [hk]; simp [Alive]
  have hactive : ¬Active (s.coroutines k) := by rw [hk]; simp [Active]
  have hgoto : Inv (s.goto k .ended) := hs.goto halive (by simp) (by simp [Active])
  refine { hgoto with launch := ?_, field := ?_, held := ?_, not_overtaken := ?_ }
  · exact fun h => absurd h (hs.main_ne halive).2
  · rintro j r _ ⟨⟩
  · intro j hj
    exact absurd (of_coroutines_goto (by simp [Active]) hj) (hs.not_active halive hactive j)
  · rw [hs.not_overtaken, hs.ownedAfter_eq_false halive]
    rfl

theorem Inv.handlerStep {t : Service} (hs : Inv s) (h : s.handlerStep k = some t) : Inv t := by
  unfold Service.handlerStep at h
  split at h
  · next hk =>
    cases h
    exact hs.handler_setIdle hk
  · next hk =>
    cases h
    exact hs.handler_stopRunner hk
  · next hk =>
    cases h
    exact hs.handler_clearRunner hk
  · cases h

end Handler

theorem Inv.step {s t : Service} {a : Event} (hs : Inv s) (hrestart : Restart s a)
    (h : Service.step s a = some t) : Inv t := by
  cases a with
  | call c =>
    rw [Service.step, Option.ite_none_right_eq_some] at h
    cases h.2
    exact hs.beginCall h.1 hrestart
  | main => exact hs.mainStep h
  | start k =>
    rw [Service.step, Option.ite_none_right_eq_some] at h
    obtain ⟨hk, h⟩ := h
    have halive : Alive (s.coroutines k) := by rw [hk]; simp [Alive]
    split at h
    · cases h
      exact hs.goto halive (by simp) (by simp [Active])
    · next r hr =>
      cases h
      refine hs.goto halive ?_ fun _ => .inl hk
      rintro r' ⟨⟩
      exact hs.field k r halive hr
  | returns k =>
    rw [Service.step] at h
    split at h
    · next r hk =>
      rw [Option.ite_none_right_eq_some] at h
      cases h.2
      exact hs.goto (by rw [hk]; simp [Alive]) (by simp) (by simp [Active])
    · cases h
  | throws k =>
    rw [Service.step] at h
    split at h
    · next r hk =>
      cases h
      exact hs.goto (by rw [hk]; simp [Alive]) (by simp) (by simp [Active])
    · cases h
  | handler k => exact hs.handlerStep h

theorem inv_init : Inv init := by
  refine ⟨?_, False.elim, by simp [init], by simp [init], by simp [init], by simp [init], ?_,
    by simp [init], ?_, rfl⟩
  · intro k hk
    exact absurd rfl hk.1
  · intro k hk
    exact absurd rfl hk.alive.1
  · exact fun _ => .inr fun k hk => absurd rfl hk.alive.1

theorem Inv.owned {s : Service} (hs : Inv s) : Owned s where
  live k r hk hr := by
    obtain rfl := hs.own k r hk
    exact hs.held r (.inr ⟨r, hk⟩) hr
  idle hmain hidle k r hk := by
    obtain rfl := hs.own k r hk
    obtain h | h := hs.idle hidle
    · rw [hmain] at h
      cases h
    · exact h r (.inr ⟨r, hk⟩)
  not_overtaken := hs.not_overtaken

/-- **The fields are those of the session that runs**, along every run in which a session is started
only when the coroutines before it have ended. -/
theorem owned_of_restart {events : List Event} (h : Along Service.step Restart init events) :
    Throughout Service.step Owned init events :=
  h.throughout (P := Inv) (fun _ _ _ hs hrestart ht => hs.step hrestart ht) (fun _ hs => hs.owned)
    inv_init

/-- A session is started, stopped and, after its handler, started again. -/
theorem owned_restartAfter :
    Throughout Service.step Owned init
      [.call (.startServer 1 2), .main, .main, .main, .start 0, .call .stop, .main, .main,
        .throws 0, .handler 0, .handler 0, .handler 0, .call (.startServer 1 2), .main, .main,
        .main, .start 1] := by
  apply owned_of_restart
  refine .cons (fun _ k hk => hk.1 rfl) rfl (.cons trivial rfl (.cons trivial rfl
    (.cons trivial rfl (.cons trivial rfl (.cons False.elim rfl (.cons trivial rfl
    (.cons trivial rfl (.cons trivial rfl (.cons trivial rfl (.cons trivial rfl
    (.cons trivial rfl (.cons ?_ rfl (.cons trivial rfl (.cons trivial rfl (.cons trivial rfl
    (.cons trivial rfl trivial))))))))))))))))
  rintro - (_ | k)
  · exact fun hk => hk.2 rfl
  · exact fun hk => hk.1 rfl

/-- A session is stopped and another one started before the handler of the first has run. -/
theorem not_owned_restartEarly :
    ¬∀ events t, run Service.step init events = some t →
      Throughout Service.step Owned init events := by
  intro h
  have howned := h [.call (.startServer 1 2), .main, .main, .main, .start 0, .call .stop, .main,
    .main, .call (.startServer 1 2), .main, .main, .main, .start 1, .throws 0, .handler 0] _ rfl
  exact Bool.noConfusion (howned.last rfl).not_overtaken

/-! ## The device comes back -/

/-- After `onDeviceDisconnected` the service waits, and starts the server when the device
is back. -/
def Waiting (s : Service) : Prop :=
  s.awaiting = true → s.currentMode = .awaitingDevice ∧
    s.onStartCommand s.lastShared.1 s.lastShared.2 = .startServer s.lastShared.1 s.lastShared.2

/-- When `onDeviceDisconnected` begins to wait no handler is before its assignment to `currentMode`,
and while it waits no `start()` throws. -/
def Quiet (s : Service) : Event → Prop
  | .main => s.main = .awaitDevice → ∀ k, s.coroutines k ≠ .setIdle
  | .throws _ => s.currentMode ≠ .awaitingDevice
  | _ => True

/-- No call but `onDeviceDisconnected` is in progress. -/
def Unplugged : MainThread → Prop
  | .rest | .disconnected | .clearRunner | .awaitDevice => True
  | _ => False

/-- While the service waits nothing is about to change its mode. -/
structure Calm (s : Service) : Prop where
  mode : s.currentMode = .awaitingDevice
  handlers : ∀ k, s.coroutines k ≠ .setIdle
  main : Unplugged s.main

theorem Calm.goto {s : Service} (hs : Calm s) (k : ℕ) {c : Coroutine} (hc : c ≠ .setIdle) :
    Calm (s.goto k c) :=
  ⟨hs.mode, fun j hj => hs.handlers j
    (of_coroutines_goto (P := (· = .setIdle)) (fun h => absurd h hc) hj), hs.main⟩

theorem Calm.stopRunner {s : Service} (hs : Calm s) : Calm s.stopRunner := by
  rw [stopRunner_eq]
  exact ⟨hs.mode, hs.handlers, hs.main⟩

theorem awaiting_stopRunner (s : Service) : s.stopRunner.awaiting = s.awaiting := by
  rw [stopRunner_eq]

theorem calm_beginCall {s : Service} (hs : s.awaiting = true → Calm s) (c : ServiceCall)
    (h : (s.beginCall c).awaiting = true) : Calm (s.beginCall c) := by
  cases c with
  | startServer vid pid => cases h
  | stop => cases h
  | onDeviceDisconnected =>
    have hcalm := hs h
    exact ⟨hcalm.mode, hcalm.handlers, trivial⟩
  | attached vid pid =>
    obtain ⟨hawaiting, hne⟩ := Bool.and_eq_true_iff.1 h
    have hcalm := hs hawaiting
    have hrest : s.onStartCommand vid pid = .rest := if_neg fun h => of_decide_eq_true hne h.2
    refine ⟨hcalm.mode, hcalm.handlers, ?_⟩
    show Unplugged (s.onStartCommand vid pid)
    rw [hrest]
    trivial

theorem calm_mainStep {s t : Service} (hs : s.awaiting = true → Calm s)
    (hquiet : s.main = .awaitDevice → ∀ k, s.coroutines k ≠ .setIdle) (h : s.mainStep = some t)
    (ht : t.awaiting = true) : Calm t := by
  have hunplugged (hawaiting : s.awaiting = true) : Unplugged s.main := (hs hawaiting).main
  cases hmain : s.main with
  | rest =>
    rw [mainStep, hmain] at h
    cases h
  | startServer | newRunner | launch | stop =>
    rw [mainStep, hmain] at h
    cases h
    rw [hmain] at hunplugged
    exact (hunplugged ht).elim
  | stopRunner =>
    rw [mainStep, hmain] at h
    cases h
    rw [hmain] at hunplugged
    exact (hunplugged (awaiting_stopRunner s ▸ ht)).elim
  | disconnected =>
    rw [mainStep, hmain] at h
    cases h
    have hcalm := (hs (awaiting_stopRunner s ▸ ht)).stopRunner
    exact ⟨hcalm.mode, hcalm.handlers, trivial⟩
  | clearRunner =>
    rw [mainStep, hmain] at h
    cases h
    have hcalm := hs ht
    exact ⟨hcalm.mode, hcalm.handlers, trivial⟩
  | awaitDevice =>
    rw [mainStep, hmain] at h
    cases h
    exact ⟨rfl, hquiet hmain, trivial⟩

theorem calm_step {s t : Service} {a : Event} (hs : s.awaiting = true → Calm s) (hquiet : Quiet s a)
    (h : step s a = some t) (ht : t.awaiting = true) : Calm t := by
  cases a with
  | call c =>
    rw [step, Option.ite_none_right_eq_some] at h
    cases h.2
    exact calm_beginCall hs c ht
  | main => exact calm_mainStep hs hquiet h ht
  | start k =>
    rw [step, Option.ite_none_right_eq_some] at h
    obtain ⟨hk, h⟩ := h
    split at h
    · cases h
      exact (hs ht).goto k Coroutine.noConfusion
    · cases h
      exact (hs ht).goto k Coroutine.noConfusion
  | returns k =>
    rw [step] at h
    split at h
    · rw [Option.ite_none_right_eq_some] at h
      cases h.2
      exact (hs ht).goto k Coroutine.noConfusion
    · cases h
  | throws k =>
    rw [step] at h
    split at h
    · cases h
      exact absurd (hs ht).mode hquiet
    · cases h
  | handler k =>
    have h : s.handlerStep k = some t := h
    unfold handlerStep at h
    split at h
    · next hk =>
      cases h
      exact absurd hk ((hs ht).handlers k)
    · cases h
      have hcalm := (hs (awaiting_stopRunner s ▸ ht)).stopRunner.goto k
        (c := .clearRunner) Coroutine.noConfusion
      exact ⟨hcalm.mode, hcalm.handlers, hcalm.main⟩
    · cases h
      have hcalm := (hs ht).goto k (c := .ended) Coroutine.noConfusion
      exact ⟨hcalm.mode, hcalm.handlers, hcalm.main⟩
    · cases h

theorem Calm.waiting {s : Service} (hs : Calm s) : s.currentMode = .awaitingDevice ∧
    s.onStartCommand s.lastShared.1 s.lastShared.2 = .startServer s.lastShared.1 s.lastShared.2 :=
  ⟨hs.mode, if_pos ⟨hs.mode, rfl⟩⟩

/-- **The service waits for its device**, along every run in which no handler is in the way when it
begins to wait and no `start()` throws while it does. -/
theorem waiting_of_quiet {events : List Event} (h : Along step Quiet init events) :
    Throughout step Waiting init events := by
  refine h.throughout (P := fun s => s.awaiting = true → Calm s) ?_ ?_ Bool.noConfusion
  · intro s a t hs hquiet ht
    exact calm_step hs hquiet ht
  · intro s hs hawaiting
    exact (hs hawaiting).waiting

/-- The device is unplugged, `start()` throws and its handler writes the mode before the service
begins to wait, and the device comes back. -/
theorem waiting_handlerFirst :
    Throughout step Waiting init
      [.call (.startServer 1 2), .main, .main, .main, .start 0, .call .onDeviceDisconnected, .main,
        .throws 0, .handler 0, .main, .main, .handler 0, .handler 0, .call (.attached 1 2), .main,
        .main, .main] := by
  apply waiting_of_quiet
  refine .cons trivial rfl (.cons ?_ rfl (.cons ?_ rfl (.cons ?_ rfl (.cons trivial rfl
    (.cons trivial rfl (.cons ?_ rfl (.cons Mode.noConfusion rfl (.cons trivial rfl
    (.cons ?_ rfl (.cons ?_ rfl (.cons trivial rfl (.cons trivial rfl (.cons trivial rfl
    (.cons ?_ rfl (.cons ?_ rfl (.cons ?_ rfl trivial))))))))))))))))
  all_goals try exact fun h => MainThread.noConfusion h
  rintro - (_ | k)
  · exact Coroutine.noConfusion
  · exact Coroutine.noConfusion

/-- The device is unplugged, and `start()` throws because its socket was closed. -/
theorem not_waiting_throws :
    ¬∀ events t, run step init events = some t → Throughout step Waiting init events := by
  intro h
  have hwaiting := h [.call (.startServer 1 2), .main, .main, .main, .start 0,
    .call .onDeviceDisconnected, .main, .main, .main, .throws 0, .handler 0] _ rfl
  exact Mode.noConfusion (hwaiting.last rfl rfl).1

end Service

end AnyPlug
