import AnyPlug.Client.Forwarding
import AnyPlug.Foundations.Transition

/-!
# Reconnecting

`Client::import_device` spawns a task that forwards URBs and, when that fails, decides with the
state machine of `usbip-client/src/reconnect.rs` whether to connect again. The task is a transition
system whose labels are the attempts: what the connection, the host controller, the user and the
random delay do while one `urb_forwarding_task` runs.

The task knows how an attempt went only from its result, and the loop returns `Ok` both when the
user interrupts it and when the server is gone. So a dropped connection is taken for a clean
shutdown.
`terminated_iff` says that this is the only way in which the task ends for no good reason.
-/

namespace AnyPlug

/-! ## The state machine -/

/-- Configuration of the reconnection. The fields that only enter the delay are left to the delay,
which is random. -/
structure ReconnectConfig where
  maxRetries : Option UInt32

/-- Another retry is allowed after `attempt` failures. -/
def ReconnectConfig.shouldRetry (config : ReconnectConfig) (attempt : UInt32) : Bool :=
  match config.maxRetries with
  | none => true
  | some max => attempt < max

/-- State of the reconnect state machine. -/
inductive ReconnectState
  | active
  | backOff (attempt : UInt32) (nextDelay : ℕ)
  | stopped
  deriving DecidableEq

/-- The number of the retry that follows a transient error. -/
def ReconnectState.nextAttempt : ReconnectState → UInt32
  | .active | .stopped => 0
  | .backOff attempt _ => attempt + 1

/-- Advance the state machine. `delay` is `delay_for_attempt`, which fails where the range of its
jitter is empty. -/
def ReconnectState.onError (state : ReconnectState) (error : ErrorKind) (config : ReconnectConfig)
    (delay : UInt32 → Option ℕ) : Option ReconnectState :=
  match error.category with
  | .transient =>
    let attempt := state.nextAttempt
    if config.shouldRetry attempt then (delay attempt).map (.backOff attempt)
    else some .stopped
  | .permanent | .fatal => some .stopped

/-- Retry after a delay, or stop. -/
inductive ReconnectDecision
  | retryAfter (delay : ℕ)
  | stop
  deriving DecidableEq

/-- Evaluate the result of an attempt to decide what to do next. -/
def decideReconnect (result : UsbIpResult Unit) (state : ReconnectState) (config : ReconnectConfig)
    (delay : UInt32 → Option ℕ) : Option (ReconnectDecision × ReconnectState) :=
  match result with
  | .ok () => some (.stop, state)
  | .error e =>
    (state.onError e config delay).map fun state =>
      match state with
      | .backOff _ nextDelay => (.retryAfter nextDelay, state)
      | .active | .stopped => (.stop, state)

/-! ## The task -/

/-- The fields of the client's configuration that the task reads. -/
structure ClientConfig where
  tcpNodelay : Bool
  autoReconnect : Bool
  reconnect : ReconnectConfig

/-- What the world does in one attempt. -/
structure Attempt where
  conn : Connection
  env : ForwardEnv
  delay : UInt32 → Option ℕ

/-- The background task of an imported device. -/
inductive ReconnectTask
  | running (state : ReconnectState)
  | ended
  | panicked
  deriving DecidableEq

/-- The task is over. -/
def ReconnectTask.Terminated (task : ReconnectTask) : Prop := task = .ended ∨ task = .panicked

namespace Attempt

variable (config : ClientConfig) (busid : String)

/-- The result of `urb_forwarding_task`. -/
def result (a : Attempt) : UsbIpResult Unit :=
  (urbForwardingTask a.env a.conn busid config.tcpNodelay).result

end Attempt

/-- One round of the loop of the task. -/
def ReconnectTask.step (config : ClientConfig) (busid : String) :
    ReconnectTask → Attempt → Option ReconnectTask
  | .running state, a =>
    match a.result config busid with
    | .ok () => some .ended
    | .error e =>
      if !config.autoReconnect then some .ended
      else
        match decideReconnect (.error e) state config.reconnect a.delay with
        | none => some .panicked
        | some (.retryAfter _, state) => some (.running state)
        | some (.stop, _) => some .ended
  | .ended, _ | .panicked, _ => none

/-! ## How an attempt ends -/

/-- How an attempt ends. -/
inductive AttemptEnd
  /-- The loop could not read another message. -/
  | disconnected
  /-- The user pressed Ctrl+C. -/
  | interrupted
  /-- A message was malformed. -/
  | malformed
  | failed (err : ErrorKind)
  deriving DecidableEq

/-- What is left of it in the result. -/
def AttemptEnd.result : AttemptEnd → UsbIpResult Unit
  | .disconnected | .interrupted | .malformed => .ok ()
  | .failed err => .error err

/-- How the loop ends on a list of messages. -/
def loopEnd (env : ForwardEnv) : Forward → List Bytes → AttemptEnd
  | st, [] => if env.ctrlC st.handled then .interrupted else .disconnected
  | st, m :: ms =>
    if env.ctrlC st.handled then .interrupted
    else
      match forwardBody env st m with
      | .next st => loopEnd env st ms
      | .stop exit =>
        match exit.result with
        | .ok () => .malformed
        | .error err => .failed err

theorem result_overFrames_eq (env : ForwardEnv) (st : Forward) (ms : List Bytes) :
    (overFrames (forwardBody env) (fun st => ⟨st.calls, .ok ()⟩) st ms).result =
      (loopEnd env st ms).result := by
  induction ms generalizing st with
  | nil =>
    rw [loopEnd]
    split <;> rfl
  | cons m ms ih =>
    rw [overFrames, loopEnd]
    by_cases hc : env.ctrlC st.handled = true
    · rw [if_pos hc, forwardBody, if_pos hc]
      rfl
    · rw [if_neg hc]
      cases forwardBody env st m with
      | next st => exact ih st
      | stop exit =>
        dsimp only
        cases exit.result <;> rfl

/-- No well-formed message is malformed. -/
theorem loopEnd_ne_malformed (env : ForwardEnv) (st : Forward) (fs : List Frame) :
    loopEnd env st (fs.map Frame.bytes) ≠ .malformed := by
  induction fs generalizing st with
  | nil =>
    rw [List.map_nil, loopEnd]
    split <;> simp
  | cons f fs ih =>
    rw [List.map_cons, loopEnd]
    split
    · simp
    · rename_i hc
      rw [forwardBody_of_ctrlC (Bool.eq_false_iff.2 hc)]
      cases f.call with
      | none => exact ih _
      | some c =>
        dsimp only
        cases env.vhci st.calls c with
        | ok _ => exact ih _
        | error err => simp

/-- The loop runs to the end of the stream exactly when the user does not interrupt it and every
call succeeds. -/
theorem loopEnd_eq_disconnected_iff (env : ForwardEnv) (st : Forward) (fs : List Frame) :
    loopEnd env st (fs.map Frame.bytes) = .disconnected ↔
      (∀ k ≤ fs.length, env.ctrlC (st.handled + k) = false) ∧
        ∀ done c, done ++ [c] <+: fs.filterMap Frame.call →
          env.vhci (st.calls ++ done) c = .ok () := by
  induction fs generalizing st with
  | nil =>
    rw [List.map_nil, loopEnd]
    simp
  | cons f fs ih =>
    rw [List.map_cons, loopEnd]
    -- the wait for this message, then those for the later ones
    have hwaits : (∀ k ≤ (f :: fs).length, env.ctrlC (st.handled + k) = false) ↔
        env.ctrlC st.handled = false ∧
          ∀ k ≤ fs.length, env.ctrlC (st.handled + 1 + k) = false := by
      simp only [← Nat.lt_add_one_iff, List.length_cons, Nat.add_assoc st.handled,
        Nat.add_comm 1]
      exact Nat.forall_lt_succ_left
    rw [hwaits]
    by_cases hc : env.ctrlC st.handled = true
    · simp [hc]
    · have hc' := Bool.eq_false_iff.2 hc
      rw [if_neg hc, forwardBody_of_ctrlC hc', and_assoc, and_iff_right hc']
      cases hcall : f.call with
      | none =>
        rw [List.filterMap_cons_none hcall]
        exact ih ⟨st.calls, st.handled + 1⟩
      | some c =>
        rw [List.filterMap_cons_some hcall]
        dsimp only
        cases hv : env.vhci st.calls c with
        | ok _ =>
          refine (ih ⟨st.calls ++ [c], st.handled + 1⟩).trans (and_congr_right fun _ => ?_)
          constructor
          · intro h done c' hpre
            obtain ⟨rfl, rfl⟩ | ⟨done, rfl, htail⟩ := append_singleton_prefix_cons.1 hpre
            · rw [List.append_nil, hv]
            · simpa using h done c' htail
          · intro h done c' hpre
            simpa using h (c :: done) c'
              (append_singleton_prefix_cons.2 (.inr ⟨done, rfl, hpre⟩))
        | error err =>
          refine ⟨fun h => (by cases h), fun h => ?_⟩
          have hok := h.2 [] c (append_singleton_prefix_cons.2 (.inl ⟨rfl, rfl⟩))
          rw [List.append_nil, hv] at hok
          cases hok

namespace Attempt

variable (config : ClientConfig) (busid : String) (a : Attempt)

/-- How the attempt ends. -/
def ending : AttemptEnd :=
  match tcpConnectAndImport a.conn busid config.tcpNodelay with
  | .error err => .failed err
  | .ok stream => loopEnd a.env ⟨[], 0⟩ (drain readMessage stream)

/-- The task sees of the end of an attempt what is left of it in the result. -/
theorem result_eq : a.result config busid = (a.ending config busid).result := by
  unfold result ending urbForwardingTask
  cases tcpConnectAndImport a.conn busid config.tcpNodelay with
  | error err => rfl
  | ok stream => exact result_overFrames_eq a.env ⟨[], 0⟩ (drain readMessage stream)

/-- The attempt ends for a reason to stop: Ctrl+C, or an error that is not transient. -/
def Justified : Prop :=
  a.ending config busid = .interrupted ∨
    ∃ err, a.ending config busid = .failed err ∧ err.category ≠ .transient

/-- The connection drops: the import is accepted, and the stream ends after some messages before
the user interrupts the loop or a call of the host controller fails. -/
def Drops : Prop :=
  ∃ (stream : Bytes) (fs : List Frame),
    tcpConnectAndImport a.conn busid config.tcpNodelay = .ok stream ∧
      drain readMessage stream = fs.map Frame.bytes ∧
      (∀ k ≤ fs.length, a.env.ctrlC k = false) ∧
      ∀ done c, done ++ [c] <+: fs.filterMap Frame.call → a.env.vhci done c = .ok ()

variable {config busid a}

theorem ending_eq_disconnected_iff :
    a.ending config busid = .disconnected ↔ a.Drops config busid := by
  unfold ending Drops
  cases tcpConnectAndImport a.conn busid config.tcpNodelay with
  | error err => simp
  | ok stream =>
    obtain ⟨fs, -, -, hfs, -, -⟩ := exists_frames_append stream
    dsimp only
    constructor
    · intro h
      rw [hfs, loopEnd_eq_disconnected_iff] at h
      refine ⟨stream, fs, rfl, hfs, ?_, h.2⟩
      simpa using h.1
    · rintro ⟨stream', fs', hstream, hfs', hctrl, hvhci⟩
      obtain rfl := Except.ok.inj hstream
      rw [hfs', loopEnd_eq_disconnected_iff]
      exact ⟨by simpa using hctrl, hvhci⟩

theorem ending_ne_malformed : a.ending config busid ≠ .malformed := by
  unfold ending
  cases tcpConnectAndImport a.conn busid config.tcpNodelay with
  | error err => simp
  | ok stream =>
    obtain ⟨fs, -, -, hfs, -, -⟩ := exists_frames_append stream
    dsimp only
    rw [hfs]
    exact loopEnd_ne_malformed a.env ⟨[], 0⟩ fs

end Attempt

/-! ## How the task ends -/

namespace ReconnectTask

variable {config : ClientConfig} {busid : String} {t u : ReconnectTask} {a : Attempt}

/-- The round goes well: the connection does not drop, and the delay of the retry after a transient
error can be drawn. -/
def Smooth (config : ClientConfig) (busid : String) : ReconnectTask → Attempt → Prop
  | .running state, a =>
    ¬a.Drops config busid ∧
      ∀ err, a.ending config busid = .failed err → err.category = .transient →
        (a.delay state.nextAttempt).isSome = true
  | .ended, _ | .panicked, _ => True

/-- A task that is over makes no further attempt. -/
theorem not_terminated_of_step (h : t.step config busid a = some u) :
    ∃ state, t = .running state := by
  cases t with
  | running state => exact ⟨state, rfl⟩
  | ended => cases h
  | panicked => cases h

/-- A dropped connection ends the task. -/
theorem step_of_drops (h : a.Drops config busid) (hstep : t.step config busid a = some u) :
    u = .ended := by
  obtain ⟨state, rfl⟩ := not_terminated_of_step hstep
  have hres := a.result_eq config busid
  rw [Attempt.ending_eq_disconnected_iff.2 h] at hres
  simp only [step, hres, AttemptEnd.result] at hstep
  exact (Option.some.inj hstep).symm

section Unlimited

variable (hauto : config.autoReconnect = true) (hmax : config.reconnect.maxRetries = none)

include hauto hmax

/-- With unlimited retries, a transient error is followed by another attempt or, when the delay
cannot be drawn, by a panic. -/
theorem step_of_transient {state : ReconnectState} {err : ErrorKind}
    (herr : a.ending config busid = .failed err) (hcat : err.category = .transient) :
    (running state).step config busid a =
      match a.delay state.nextAttempt with
      | some d => some (.running (.backOff state.nextAttempt d))
      | none => some .panicked := by
  have hres := a.result_eq config busid
  rw [herr] at hres
  simp only [step, hres, AttemptEnd.result, hauto, decideReconnect, ReconnectState.onError, hcat,
    ReconnectConfig.shouldRetry, hmax, Bool.not_true, Bool.false_eq_true, if_false, if_true]
  cases a.delay state.nextAttempt <;> rfl

/-- A round that does not go well ends the task, for no reason to stop. -/
theorem step_of_not_smooth (h : ¬t.Smooth config busid a)
    (hstep : t.step config busid a = some u) :
    u.Terminated ∧ ¬a.Justified config busid := by
  obtain ⟨state, rfl⟩ := not_terminated_of_step hstep
  by_cases hdrops : a.Drops config busid
  · refine ⟨.inl (step_of_drops hdrops hstep), ?_⟩
    unfold Attempt.Justified
    rw [Attempt.ending_eq_disconnected_iff.2 hdrops]
    simp
  · obtain ⟨err, herr, hcat, hdelay⟩ : ∃ err, a.ending config busid = .failed err ∧
        err.category = .transient ∧ a.delay state.nextAttempt = none := by
      simpa [Smooth, hdrops] using h
    rw [step_of_transient hauto hmax herr hcat, hdelay] at hstep
    refine ⟨.inr (Option.some.inj hstep).symm, ?_⟩
    unfold Attempt.Justified
    rw [herr]
    simp [hcat]

/-- A round that goes well ends the task only for a reason to stop. -/
theorem justified_of_smooth (h : t.Smooth config busid a)
    (hstep : t.step config busid a = some u) (hterm : u.Terminated) :
    a.Justified config busid := by
  obtain ⟨state, rfl⟩ := not_terminated_of_step hstep
  obtain ⟨hdrops, hdraw⟩ := h
  cases hend : a.ending config busid with
  | disconnected => exact absurd (Attempt.ending_eq_disconnected_iff.1 hend) hdrops
  | interrupted => exact .inl hend
  | malformed => exact absurd hend Attempt.ending_ne_malformed
  | failed err =>
    refine .inr ⟨err, hend, fun hcat => ?_⟩
    obtain ⟨d, hd⟩ := Option.isSome_iff_exists.1 (hdraw err hend hcat)
    rw [step_of_transient hauto hmax hend hcat, hd] at hstep
    obtain rfl := Option.some.inj hstep
    rcases hterm with h | h <;> cases h

/-- **The task ends only for a reason to stop, and retries after a dropped connection, exactly when
every round goes well**: no connection drops, and every delay can be drawn. -/
theorem terminated_iff {as : List Attempt}
    (hrun : run (step config busid) (.running .active) as = some t) :
    ((t.Terminated → ∃ a ∈ as.getLast?, a.Justified config busid) ∧
        ∀ a ∈ as.getLast?, a.ending config busid = .disconnected →
          ∃ attempt delay, t = .running (.backOff attempt delay)) ↔
      Along (step config busid) (Smooth config busid) (.running .active) as := by
  rw [along_iff]
  constructor
  · rintro ⟨hterm, -⟩ pre a post s rfl hs
    by_contra hnot
    obtain ⟨s', hs', hrest⟩ := run_append_eq_some.1 hrun
    obtain rfl := Option.some.inj (hs.symm.trans hs')
    obtain ⟨u, hu, hpost⟩ := run_cons_eq_some.1 hrest
    obtain ⟨hend, hjust⟩ := step_of_not_smooth hauto hmax hnot hu
    cases post with
    | nil =>
      obtain rfl := Option.some.inj hpost
      obtain ⟨b, hb, hb'⟩ := hterm hend
      rw [List.getLast?_append_cons, List.getLast?_singleton, Option.mem_some_iff] at hb
      exact hjust (hb ▸ hb')
    | cons b post =>
      -- the task is over after the round, so there is no next one
      obtain ⟨v, hv, -⟩ := run_cons_eq_some.1 hpost
      obtain ⟨state, rfl⟩ := not_terminated_of_step hv
      rcases hend with h | h <;> cases h
  · intro hsmooth
    rcases List.eq_nil_or_concat as with rfl | ⟨pre, a, rfl⟩
    · obtain rfl := Option.some.inj hrun
      refine ⟨fun h => ?_, by simp⟩
      rcases h with h | h <;> cases h
    · rw [List.concat_eq_append] at hrun hsmooth ⊢
      obtain ⟨s, hs, hstep⟩ := run_append_singleton_eq_some.1 hrun
      have hsm := hsmooth pre a [] s rfl hs
      rw [List.getLast?_append_cons, List.getLast?_singleton]
      refine ⟨fun hend => ⟨a, rfl, justified_of_smooth hauto hmax hsm hstep hend⟩, ?_⟩
      rintro b hb hend
      obtain rfl := Option.mem_some_iff.1 hb
      obtain ⟨state, rfl⟩ := not_terminated_of_step hstep
      exact absurd (Attempt.ending_eq_disconnected_iff.1 hend) hsm.1

end Unlimited

/-- Reconnect without a limit. -/
def unlimited : ClientConfig := ⟨true, true, ⟨none⟩⟩

/-- An attempt that cannot open its connection. -/
def unopened (kind : IoErrorKind) : Attempt :=
  ⟨{ Connection.to [] with connect := .error (.io kind) }, .uninterrupted fun _ _ => .ok (),
    fun _ => some 1⟩

theorem ending_unopened (kind : IoErrorKind) :
    (unopened kind).ending unlimited "1-1" = .failed (.io kind) := rfl

/-- The server refuses the first connection and cannot be reached for the second: the task retries
once and stops. -/
theorem terminated_iff_refused :
    run (step unlimited "1-1") (.running .active) [unopened .connectionRefused, unopened .other] =
        some .ended ∧
      ∃ a ∈ [unopened .connectionRefused, unopened .other].getLast?,
        a.Justified unlimited "1-1" := by
  have hrun : run (step unlimited "1-1") (.running .active)
      [unopened .connectionRefused, unopened .other] = some .ended := rfl
  have hnot (kind : IoErrorKind) : ¬(unopened kind).Drops unlimited "1-1" := by
    rw [← Attempt.ending_eq_disconnected_iff, ending_unopened]
    simp
  refine ⟨hrun, ((terminated_iff rfl rfl hrun).2 ⟨⟨hnot _, fun _ _ _ => rfl⟩, fun s hs => ?_⟩).1
    (.inl rfl)⟩
  obtain rfl := Option.some.inj hs
  exact ⟨⟨hnot _, fun _ _ _ => rfl⟩, fun s hs => trivial⟩

/-- The server sends its reply and closes the connection. -/
def closedByServer : Attempt :=
  ⟨.to (importReply wheelEntry DeviceDescriptor.placeholder.toBytes),
    .uninterrupted fun _ _ => .ok (), fun _ => some 1⟩

/-- The task ends when the server closes the connection. -/
theorem terminated_closedByServer :
    run (step unlimited "1-1") (.running .active) [closedByServer] = some .ended ∧
      closedByServer.ending unlimited "1-1" = .disconnected ∧
      ¬closedByServer.Justified unlimited "1-1" := by
  have hend : closedByServer.ending unlimited "1-1" = .disconnected := by decide +kernel
  refine ⟨?_, hend, ?_⟩
  · rw [run_singleton]
    have hstep : ∃ u, (running .active).step unlimited "1-1" closedByServer = some u := by
      simp only [step, closedByServer.result_eq, hend, AttemptEnd.result]
      exact ⟨_, rfl⟩
    obtain ⟨u, hu⟩ := hstep
    rw [hu, step_of_drops (Attempt.ending_eq_disconnected_iff.1 hend) hu]
  · unfold Attempt.Justified
    rw [hend]
    simp

end ReconnectTask

end AnyPlug
