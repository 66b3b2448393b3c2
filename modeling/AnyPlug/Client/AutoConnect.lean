import AnyPlug.Client.Reconnect

/-!
# The monitor of a connection

`auto_connect_loop` of `usbip-client/src/daemon.rs` keeps one connection of the daemon alive. It
imports the device, forwards URBs until that ends, and retries after a delay. `Monitor` is the loop
cut at its suspension points; `Monitor.step` also says what the loop writes into the entry of the
connection.

A run of the loop on its own is `AutoConnect`. Two results are about such runs:

* The loop attaches a virtual device whenever an import succeeds and never removes one.
  `balanced_iff`: there is at most one at a time, and none after a cancellation, exactly when only
  one import succeeds, and no connection with a device is cancelled.
* The state machine of the retries is not reset when an import succeeds. `fresh_iff`: a connection
  that is lost is retried as if for the first time exactly when no retry came before. It is the
  same in the task of `import_device`.
-/

namespace AnyPlug

/-! ## The loop -/

/-- What the daemon says of a connection. -/
inductive ConnectionState
  | disconnected
  | connecting
  | connected
  | error (message : String)
  deriving DecidableEq

/-- Where the loop stands. -/
inductive MonitorPhase
  /-- Before the check at the top of the loop. -/
  | top
  /-- In the pause of 100 ms. -/
  | waiting
  /-- Before the lock for `Connecting`. -/
  | connecting
  | importing
  /-- Before the lock for `Connected`. -/
  | imported
  /-- Before the check that starts the forwarding. -/
  | connected
  | forwarding
  /-- Before the lock for `Error`. -/
  | failed
  /-- Before the check that starts the delay. -/
  | delaying
  | backingOff
  | returned
  | panicked
  deriving DecidableEq

/-- The loop has not ended. -/
def MonitorPhase.alive : MonitorPhase → Bool
  | .returned | .panicked => false
  | _ => true

structure Monitor where
  phase : MonitorPhase
  state : ReconnectState
  deriving DecidableEq

/-- A step of the loop, with the answers it gets. -/
inductive MonitorEvent
  /-- A `select!` is entered: its first look at the tokens. -/
  | check
  /-- A sleep is over. -/
  | elapsed
  /-- A `select!` is left because of a token. -/
  | stop
  /-- The entry of the connection is updated under the lock. -/
  | mark
  /-- `import_device_once` returns. -/
  | imported (r : UsbIpResult Unit)
  /-- `run_urb_forwarding` returns. -/
  | ended (r : UsbIpResult Unit)
  /-- The entry is updated under the lock, and the retry is decided. -/
  | lost (delay : UInt32 → Option ℕ)

/-- The loop looks at its tokens. -/
def MonitorEvent.Looks (e : MonitorEvent) : Prop := e = .check ∨ e = .stop

/-- The default configuration: unlimited retries. -/
def ReconnectConfig.default : ReconnectConfig := ⟨none⟩

namespace Monitor

/-- The loop when it is spawned. -/
def start : Monitor := ⟨.top, .active⟩

def goto (m : Monitor) (phase : MonitorPhase) : Monitor := { m with phase := phase }

/-- One step of the loop, and the state it writes into the entry. `stopped` says that the token of
the connection or that of the daemon is cancelled. -/
def step (stopped : Bool) (m : Monitor) (e : MonitorEvent) :
    Option (Monitor × Option ConnectionState) :=
  match m.phase, e with
  | .top, .check => some (m.goto (if stopped then .returned else .waiting), none)
  | .waiting, .elapsed => some (m.goto .connecting, none)
  | .waiting, .stop => if stopped then some (m.goto .returned, none) else none
  | .connecting, .mark => some (m.goto .importing, some .connecting)
  | .importing, .imported (.ok ()) => some (m.goto .imported, none)
  | .importing, .imported (.error _) => some (m.goto .failed, none)
  | .imported, .mark => some (m.goto .connected, some .connected)
  | .connected, .check => some (m.goto (if stopped then .returned else .forwarding), none)
  | .forwarding, .stop => if stopped then some (m.goto .returned, none) else none
  | .forwarding, .ended (.ok ()) => some (m.goto .returned, none)
  | .forwarding, .ended (.error _) => some (m.goto .failed, none)
  | .failed, .lost delay =>
    let m := match decideReconnect (.error .connectionClosed) m.state .default delay with
      | none => m.goto .panicked
      | some (.retryAfter _, state) => ⟨.delaying, state⟩
      | some (.stop, state) => ⟨.returned, state⟩
    some (m, some (.error "connection lost, retrying"))
  | .delaying, .check => some (m.goto (if stopped then .returned else .backingOff), none)
  | .backingOff, .elapsed => some (m.goto .top, none)
  | .backingOff, .stop => if stopped then some (m.goto .returned, none) else none
  | _, _ => none

/-- The transitions of the loop. The retries are unlimited, so a failure is retried unless its delay
cannot be drawn. -/
inductive Step (stopped : Bool) (m : Monitor) :
    MonitorEvent → Monitor → Option ConnectionState → Prop
  | pause (hp : m.phase = .top) (hs : stopped = false) :
      Step stopped m .check (m.goto .waiting) none
  | goOn (hp : m.phase = .waiting) : Step stopped m .elapsed (m.goto .connecting) none
  | connect (hp : m.phase = .connecting) :
      Step stopped m .mark (m.goto .importing) (some .connecting)
  | attach (hp : m.phase = .importing) : Step stopped m (.imported (.ok ())) (m.goto .imported) none
  | refuse (err) (hp : m.phase = .importing) :
      Step stopped m (.imported (.error err)) (m.goto .failed) none
  | establish (hp : m.phase = .imported) :
      Step stopped m .mark (m.goto .connected) (some .connected)
  | forward (hp : m.phase = .connected) (hs : stopped = false) :
      Step stopped m .check (m.goto .forwarding) none
  | finish (hp : m.phase = .forwarding) : Step stopped m (.ended (.ok ())) (m.goto .returned) none
  | drop (err) (hp : m.phase = .forwarding) :
      Step stopped m (.ended (.error err)) (m.goto .failed) none
  | retry (delay d) (hp : m.phase = .failed) (hd : delay m.state.nextAttempt = some d) :
      Step stopped m (.lost delay) ⟨.delaying, .backOff m.state.nextAttempt d⟩
        (some (.error "connection lost, retrying"))
  | panic (delay) (hp : m.phase = .failed) (hd : delay m.state.nextAttempt = none) :
      Step stopped m (.lost delay) (m.goto .panicked) (some (.error "connection lost, retrying"))
  | backOff (hp : m.phase = .delaying) (hs : stopped = false) :
      Step stopped m .check (m.goto .backingOff) none
  | again (hp : m.phase = .backingOff) : Step stopped m .elapsed (m.goto .top) none
  | halt (hp : m.phase = .top ∨ m.phase = .connected ∨ m.phase = .delaying)
      (hs : stopped = true) : Step stopped m .check (m.goto .returned) none
  | leave (hp : m.phase = .waiting ∨ m.phase = .forwarding ∨ m.phase = .backingOff)
      (hs : stopped = true) : Step stopped m .stop (m.goto .returned) none

theorem step_cases {stopped : Bool} {m n : Monitor} {e : MonitorEvent}
    {w : Option ConnectionState} (h : m.step stopped e = some (n, w)) : Step stopped m e n w := by
  unfold step at h
  split at h
  case h_1 hp =>
    obtain ⟨rfl, rfl⟩ := Prod.mk.inj (Option.some.inj h)
    cases stopped with
    | true => exact .halt (.inl hp) rfl
    | false => exact .pause hp rfl
  case h_2 hp =>
    obtain ⟨rfl, rfl⟩ := Prod.mk.inj (Option.some.inj h)
    exact .goOn hp
  case h_3 hp =>
    split at h
    · obtain ⟨rfl, rfl⟩ := Prod.mk.inj (Option.some.inj h)
      exact .leave (.inl hp) ‹_›
    · cases h
  case h_4 hp =>
    obtain ⟨rfl, rfl⟩ := Prod.mk.inj (Option.some.inj h)
    exact .connect hp
  case h_5 hp =>
    obtain ⟨rfl, rfl⟩ := Prod.mk.inj (Option.some.inj h)
    exact .attach hp
  case h_6 err hp =>
    obtain ⟨rfl, rfl⟩ := Prod.mk.inj (Option.some.inj h)
    exact .refuse err hp
  case h_7 hp =>
    obtain ⟨rfl, rfl⟩ := Prod.mk.inj (Option.some.inj h)
    exact .establish hp
  case h_8 hp =>
    obtain ⟨rfl, rfl⟩ := Prod.mk.inj (Option.some.inj h)
    cases stopped with
    | true => exact .halt (.inr (.inl hp)) rfl
    | false => exact .forward hp rfl
  case h_9 hp =>
    split at h
    · obtain ⟨rfl, rfl⟩ := Prod.mk.inj (Option.some.inj h)
      exact .leave (.inr (.inl hp)) ‹_›
    · cases h
  case h_10 hp =>
    obtain ⟨rfl, rfl⟩ := Prod.mk.inj (Option.some.inj h)
    exact .finish hp
  case h_11 err hp =>
    obtain ⟨rfl, rfl⟩ := Prod.mk.inj (Option.some.inj h)
    exact .drop err hp
  case h_12 delay hp =>
    obtain ⟨rfl, rfl⟩ := Prod.mk.inj (Option.some.inj h)
    cases hd : delay m.state.nextAttempt with
    | none =>
      have hdecide : decideReconnect (.error .connectionClosed) m.state .default delay = none := by
        simp [decideReconnect, ReconnectState.onError, ErrorKind.category,
          ReconnectConfig.shouldRetry, ReconnectConfig.default, hd]
      rw [hdecide]
      exact .panic delay hp hd
    | some d =>
      have hdecide : decideReconnect (.error .connectionClosed) m.state .default delay =
          some (.retryAfter d, .backOff m.state.nextAttempt d) := by
        simp [decideReconnect, ReconnectState.onError, ErrorKind.category,
          ReconnectConfig.shouldRetry, ReconnectConfig.default, hd]
      rw [hdecide]
      exact .retry delay d hp hd
  case h_13 hp =>
    obtain ⟨rfl, rfl⟩ := Prod.mk.inj (Option.some.inj h)
    cases stopped with
    | true => exact .halt (.inr (.inr hp)) rfl
    | false => exact .backOff hp rfl
  case h_14 hp =>
    obtain ⟨rfl, rfl⟩ := Prod.mk.inj (Option.some.inj h)
    exact .again hp
  case h_15 hp =>
    split at h
    · obtain ⟨rfl, rfl⟩ := Prod.mk.inj (Option.some.inj h)
      exact .leave (.inr (.inr hp)) ‹_›
    · cases h
  case h_16 => cases h

theorem alive_of_step {stopped : Bool} {m n : Monitor} {e : MonitorEvent}
    {w : Option ConnectionState} (h : Step stopped m e n w) : m.phase.alive = true := by
  cases h with
  | halt hp hs => rcases hp with hp | hp | hp <;> rw [hp] <;> rfl
  | leave hp hs => rcases hp with hp | hp | hp <;> rw [hp] <;> rfl
  | pause hp _ | goOn hp | connect hp | attach hp | refuse _ hp | establish hp | forward hp _
  | finish hp | drop _ hp | retry _ _ hp _ | panic _ hp _ | backOff hp _ | again hp =>
    rw [hp]
    rfl

end Monitor

/-! ## A run of the loop -/

/-- A call that attaches or removes a virtual device. -/
inductive DeviceCall
  | create
  | remove
  deriving DecidableEq

/-- The successful calls a step of the loop makes: an import that succeeds has attached the device,
and nothing removes one. -/
def MonitorEvent.deviceCalls : MonitorEvent → List DeviceCall
  | .imported (.ok ()) => [.create]
  | _ => []

/-- The loop with its tokens, the calls made for its device, and whether its last import
succeeded. -/
structure AutoConnect where
  monitor : Monitor
  cancelled : Bool
  shutdown : Bool
  calls : List DeviceCall
  imported : Bool

/-- A step of the loop, or of the daemon around it. -/
inductive AutoConnectEvent
  | monitor (e : MonitorEvent)
  | cancel
  | shutdown

namespace AutoConnect

/-- The loop when it is spawned: with no device for a configured connection, and after the import of
`Connect` with one. -/
def start (calls : List DeviceCall) : AutoConnect := ⟨.start, false, false, calls, false⟩

def step (s : AutoConnect) : AutoConnectEvent → Option AutoConnect
  | .monitor e =>
    (s.monitor.step (s.cancelled || s.shutdown) e).map fun (m, _) =>
      { s with
        monitor := m
        calls := s.calls ++ e.deviceCalls
        imported := match e with
          | .imported r => r.toBool
          | _ => s.imported }
  | .cancel => some { s with cancelled := true }
  | .shutdown => some { s with shutdown := true }

variable {s t : AutoConnect} {a : AutoConnectEvent}

/-- What a step does to the calls and to the token. -/
theorem step_cases (h : s.step a = some t) :
    (∃ e, a = .monitor e ∧ t.calls = s.calls ++ e.deviceCalls ∧ t.cancelled = s.cancelled) ∨
      (a = .cancel ∧ t.calls = s.calls ∧ t.cancelled = true) ∨
      (a = .shutdown ∧ t.calls = s.calls ∧ t.cancelled = s.cancelled) := by
  cases a with
  | monitor e =>
    obtain ⟨⟨m, w⟩, -, rfl⟩ := Option.map_eq_some_iff.1 h
    exact .inl ⟨e, rfl, rfl, rfl⟩
  | cancel =>
    obtain rfl := Option.some.inj h
    exact .inr (.inl ⟨rfl, rfl, rfl⟩)
  | shutdown =>
    obtain rfl := Option.some.inj h
    exact .inr (.inr ⟨rfl, rfl, rfl⟩)

/-! ## Virtual devices -/

/-- The number of devices attached and not removed. -/
def balance (s : AutoConnect) : ℤ := s.calls.count .create - s.calls.count .remove

/-- At most one device is attached, and none after the connection has been cancelled. -/
def Balanced (s : AutoConnect) : Prop :=
  s.balance ≤ 1 ∧ (s.cancelled = true → s.balance = 0)

/-- An import succeeds only if none did before and the connection is not cancelled, and a connection
is cancelled only if no import succeeded before. -/
def AttachOnce (s : AutoConnect) : AutoConnectEvent → Prop
  | .monitor (.imported (.ok ())) => s.calls = [] ∧ s.cancelled = false
  | .cancel => s.calls = []
  | _ => True

/-- No device is ever removed. -/
def NoneRemoved (s : AutoConnect) : Prop := ∀ c ∈ s.calls, c = .create

theorem deviceCalls_eq (e : MonitorEvent) :
    e.deviceCalls = [.create] ∧ e = .imported (.ok ()) ∨
      e.deviceCalls = [] ∧ e ≠ .imported (.ok ()) := by
  unfold MonitorEvent.deviceCalls
  split
  · exact .inl ⟨rfl, rfl⟩
  · rename_i he
    exact .inr ⟨rfl, he⟩

theorem NoneRemoved.step (hs : NoneRemoved s) (h : s.step a = some t) : NoneRemoved t := by
  intro c hc
  obtain ⟨e, rfl, hcalls, -⟩ | ⟨rfl, hcalls, -⟩ | ⟨rfl, hcalls, -⟩ := step_cases h
  · rw [hcalls, List.mem_append] at hc
    rcases hc with hc | hc
    · exact hs c hc
    · obtain ⟨he, -⟩ | ⟨he, -⟩ := deviceCalls_eq e
      · rw [he] at hc
        exact List.mem_singleton.1 hc
      · rw [he] at hc
        cases hc
  · exact hs c (hcalls ▸ hc)
  · exact hs c (hcalls ▸ hc)

theorem NoneRemoved.balance_eq (hs : NoneRemoved s) : s.balance = s.calls.length := by
  have hcreate : s.calls.count .create = s.calls.length :=
    List.count_eq_length.2 fun c hc => (hs c hc).symm
  have hremove : s.calls.count .remove = 0 :=
    List.count_eq_zero.2 fun hmem => absurd (hs _ hmem) (by decide)
  rw [balance, hcreate, hremove]
  omega

theorem balanced_step_iff (hnone : NoneRemoved s) (hs : s.Balanced) (h : s.step a = some t) :
    t.Balanced ↔ s.AttachOnce a := by
  have hbalance := hnone.balance_eq
  have hbalance' := (hnone.step h).balance_eq
  have hempty : s.calls = [] ↔ s.calls.length = 0 := List.length_eq_zero_iff.symm
  obtain ⟨hle, hzero⟩ := hs
  obtain ⟨e, rfl, hcalls, hcancelled⟩ | ⟨rfl, hcalls, hcancelled⟩ | ⟨rfl, hcalls, hcancelled⟩ :=
    step_cases h
  · obtain ⟨he, rfl⟩ | ⟨he, hne⟩ := deviceCalls_eq e
    · rw [he] at hcalls
      rw [hcalls, List.length_append, List.length_singleton] at hbalance'
      simp only [Balanced, AttachOnce, hempty, hcancelled, hbalance']
      cases s.cancelled with
      | true =>
        simp
        omega
      | false => simp
    · rw [he, List.append_nil] at hcalls
      rw [hcalls, ← hbalance] at hbalance'
      have hone : s.AttachOnce (.monitor e) := by
        unfold AttachOnce
        split
        · rename_i heq
          exact absurd (AutoConnectEvent.monitor.inj heq) hne
        · trivial
        · trivial
      refine iff_of_true ⟨?_, ?_⟩ hone
      · rw [hbalance']
        exact hle
      · rw [hbalance', hcancelled]
        exact hzero
  · rw [hcalls] at hbalance'
    simp only [Balanced, AttachOnce, hempty, hcancelled, hbalance', forall_const]
    omega
  · rw [hcalls, ← hbalance] at hbalance'
    refine iff_of_true ⟨?_, ?_⟩ trivial
    · rw [hbalance']
      exact hle
    · rw [hbalance', hcancelled]
      exact hzero

/-- **The virtual devices are balanced exactly when** no import succeeds after another one, or after
the cancellation, and no connection with a device is cancelled. -/
theorem balanced_iff (connected : Bool) {as : List AutoConnectEvent}
    (h : run step (start (if connected then [.create] else [])) as = some t) :
    Throughout step Balanced (start (if connected then [.create] else [])) as ↔
      Along step AttachOnce (start (if connected then [.create] else [])) as := by
  refine throughout_iff_along (I := NoneRemoved) (fun s a t hs _ ht => hs.step ht)
    (fun s a t hnone hs ht => balanced_step_iff hnone hs ht) ?_ ?_ h
  · cases connected <;> simp [NoneRemoved, start]
  · cases connected <;> simp [Balanced, balance, start]

/-- The loop imports the device. -/
def importEvents : List AutoConnectEvent :=
  [.monitor .check, .monitor .elapsed, .monitor .mark, .monitor (.imported (.ok ()))]

theorem balanced_importEvents :
    (run step (start []) importEvents).isSome = true ∧
      Throughout step Balanced (start []) importEvents := by
  have hsome : (run step (start []) importEvents).isSome = true := by decide +kernel
  obtain ⟨t, ht⟩ := Option.isSome_iff_exists.1 hsome
  refine ⟨hsome, (balanced_iff false ht).2 ?_⟩
  refine .cons trivial rfl (.cons trivial rfl (.cons trivial rfl ?_))
  exact .cons ⟨rfl, rfl⟩ rfl trivial

/-- A connection that was made by `Connect` is imported again, and then cancelled. -/
def reimportEvents : List AutoConnectEvent :=
  importEvents ++ [.monitor .mark, .cancel, .monitor .check]

/-- Two devices stay behind. -/
theorem balanced_reimportEvents :
    (run step (start [.create]) reimportEvents).isSome = true ∧
      ¬Throughout step Balanced (start [.create]) reimportEvents := by
  have hsome : (run step (start [.create]) reimportEvents).isSome = true := by decide +kernel
  obtain ⟨t, ht⟩ := Option.isSome_iff_exists.1 hsome
  refine ⟨hsome, fun hall => ?_⟩
  have hbalanced := hall.last ht
  obtain rfl := Option.some.inj ht
  exact absurd hbalanced.1 (by decide)

end AutoConnect

/-! ## The budget of the retries -/

/-- A failure is handled as the first one: with the delay of attempt 0, and with all retries
left. -/
def ReconnectState.Fresh (state : ReconnectState) (err : ErrorKind) (config : ReconnectConfig) :
    Prop :=
  ∀ delay, state.onError err config delay = ReconnectState.active.onError err config delay

/-- The state after `n` failures that were retried. -/
def ReconnectState.Counts (config : ReconnectConfig) (state : ReconnectState) (n : ℕ) : Prop :=
  (n = 0 ∧ state = .active) ∨
    (0 < n ∧ config.shouldRetry 0 = true ∧ ∃ d, state = .backOff (.ofNat (n - 1)) d)

theorem ReconnectState.onError_of_transient (state : ReconnectState) {err : ErrorKind}
    (herr : err.category = .transient) (config : ReconnectConfig) (delay : UInt32 → Option ℕ) :
    state.onError err config delay =
      if config.shouldRetry state.nextAttempt then
        (delay state.nextAttempt).map (.backOff state.nextAttempt)
      else some .stopped := by
  simp only [onError, herr]

theorem ReconnectState.nextAttempt_active : ReconnectState.active.nextAttempt = 0 := rfl

namespace ReconnectState.Counts

variable {config : ReconnectConfig} {state : ReconnectState} {n : ℕ}

theorem nextAttempt_eq (h : state.Counts config n) : state.nextAttempt = .ofNat n := by
  obtain ⟨rfl, rfl⟩ | ⟨hn, -, d, rfl⟩ := h
  · rfl
  · obtain ⟨k, rfl⟩ : ∃ k, n = k + 1 := ⟨n - 1, by omega⟩
    rw [nextAttempt, Nat.add_sub_cancel, UInt32.ofNat_add]
    rfl

/-- One more failure. -/
theorem succ (h : state.Counts config n) (hretry : config.shouldRetry state.nextAttempt = true)
    (d : ℕ) : Counts config (.backOff state.nextAttempt d) (n + 1) := by
  refine .inr ⟨Nat.succ_pos n, ?_, d, ?_⟩
  · obtain ⟨-, rfl⟩ | ⟨-, hretry₀, -⟩ := h
    · exact hretry
    · exact hretry₀
  · rw [h.nextAttempt_eq, Nat.add_sub_cancel]

/-- **A failure is handled as the first one exactly when** none was retried before, up to the
overflow of the counter. -/
theorem fresh_iff_dvd (h : state.Counts config n) {err : ErrorKind}
    (herr : err.category = .transient) : state.Fresh err config ↔ 2 ^ 32 ∣ n := by
  have hnext := h.nextAttempt_eq
  constructor
  · intro hfresh
    obtain ⟨rfl, -⟩ | ⟨-, hretry, -⟩ := h
    · exact dvd_zero _
    · have hzero := hfresh fun _ => some 0
      simp only [onError_of_transient _ herr, hnext, nextAttempt_active, hretry, if_true,
        Option.map_some] at hzero
      split at hzero
      · have hattempt := congrArg UInt32.toNat
          (ReconnectState.backOff.inj (Option.some.inj hzero)).1
        rw [UInt32.toNat_ofNat'] at hattempt
        exact Nat.dvd_of_mod_eq_zero hattempt
      · cases hzero
  · rintro ⟨k, rfl⟩ delay
    have hzero : UInt32.ofNat (2 ^ 32 * k) = 0 := by
      apply UInt32.toNat_inj.1
      rw [UInt32.toNat_ofNat', Nat.mul_mod_right]
      rfl
    rw [onError_of_transient _ herr, onError_of_transient _ herr, hnext, hzero,
      nextAttempt_active]

end ReconnectState.Counts

/-- A round of the task of `import_device` that goes on is a retry. -/
theorem ReconnectTask.exists_backOff_of_step {config : ClientConfig} {busid : String}
    {state state' : ReconnectState} {a : Attempt}
    (h : (running state).step config busid a = some (.running state')) :
    config.reconnect.shouldRetry state.nextAttempt = true ∧
      ∃ d, state' = .backOff state.nextAttempt d := by
  simp only [step] at h
  split at h
  · cases h
  · rename_i err hres
    split at h
    · cases h
    · split at h
      · cases h
      · rename_i d state₁ hdecide
        obtain rfl := ReconnectTask.running.inj (Option.some.inj h)
        obtain ⟨state₂, hstate, hpair⟩ := Option.map_eq_some_iff.1 hdecide
        cases state₂ with
        | active => cases hpair
        | stopped => cases hpair
        | backOff attempt d' =>
          obtain ⟨-, rfl⟩ := Prod.mk.inj hpair
          unfold ReconnectState.onError at hstate
          split at hstate
          · dsimp only at hstate
            split at hstate
            · rename_i hretry
              obtain ⟨d'', -, hback⟩ := Option.map_eq_some_iff.1 hstate
              exact ⟨hretry, d'', hback.symm⟩
            · cases hstate
          · cases hstate
          · cases hstate
      · cases h

/-- A run of the task that is still going retried all its attempts. -/
theorem ReconnectTask.counts_of_run {config : ClientConfig} {busid : String} {as : List Attempt}
    {state : ReconnectState}
    (h : run (step config busid) (.running .active) as = some (.running state)) :
    state.Counts config.reconnect as.length := by
  induction as using List.reverseRecOn generalizing state with
  | nil =>
    obtain rfl := ReconnectTask.running.inj (Option.some.inj h)
    exact .inl ⟨rfl, rfl⟩
  | append_singleton as a ih =>
    obtain ⟨u, hu, hstep⟩ := run_append_singleton_eq_some.1 h
    obtain ⟨state₀, rfl⟩ := not_terminated_of_step hstep
    obtain ⟨hretry, d, rfl⟩ := exists_backOff_of_step hstep
    rw [List.length_append, List.length_singleton]
    exact (ih hu).succ hretry d

/-- An attempt connects and imports, and then fails with a transient error. -/
def Attempt.SessionFails (config : ClientConfig) (busid : String) (a : Attempt) (err : ErrorKind) :
    Prop :=
  (∃ stream, tcpConnectAndImport a.conn busid config.tcpNodelay = .ok stream) ∧
    a.ending config busid = .failed err ∧ err.category = .transient

namespace AutoConnect

variable {s t : AutoConnect} {a : AutoConnectEvent}

/-- The step handles a failure of the loop. -/
def isLost : AutoConnectEvent → Bool
  | .monitor (.lost _) => true
  | _ => false

/-- The loop has handled as many failures as its state machine counts. -/
theorem counts_of_run {calls : List DeviceCall} {as : List AutoConnectEvent}
    (h : run step (start calls) as = some t) :
    t.monitor.phase = .panicked ∨ t.monitor.state.Counts .default (as.countP isLost) := by
  induction as using List.reverseRecOn generalizing t with
  | nil =>
    obtain rfl := Option.some.inj h
    exact .inr (.inl ⟨rfl, rfl⟩)
  | append_singleton as a ih =>
    obtain ⟨u, hu, hstep⟩ := run_append_singleton_eq_some.1 h
    rw [List.countP_append, List.countP_singleton]
    cases a with
    | cancel =>
      have hcounts := ih hu
      obtain rfl := Option.some.inj hstep
      exact hcounts
    | shutdown =>
      have hcounts := ih hu
      obtain rfl := Option.some.inj hstep
      exact hcounts
    | monitor e =>
      have hcounts := ih hu
      obtain ⟨⟨m, w⟩, hm, rfl⟩ := Option.map_eq_some_iff.1 hstep
      cases Monitor.step_cases hm with
      | retry delay d hp hd =>
        rw [hp] at hcounts
        exact .inr ((hcounts.resolve_left (by simp)).succ rfl d)
      | panic delay hp hd => exact .inl rfl
      | halt hp hs =>
        rcases hp with hp | hp | hp <;> exact .inr (hcounts.resolve_left (by simp [hp]))
      | leave hp hs =>
        rcases hp with hp | hp | hp <;> exact .inr (hcounts.resolve_left (by simp [hp]))
      | pause hp _ | goOn hp | connect hp | attach hp | refuse _ hp | establish hp | forward hp _
      | finish hp | drop _ hp | backOff hp _ | again hp =>
        exact .inr (hcounts.resolve_left (by simp [hp]))

/-- **A lost connection is retried as if for the first time exactly when no retry came before**, up
to the overflow of the counter: in the task of `import_device`, and in the loop of the daemon. -/
theorem fresh_iff (config : ClientConfig) (busid : String) (calls : List DeviceCall) :
    (∀ (as : List Attempt) (task : ReconnectTask),
      run (ReconnectTask.step config busid) (.running .active) as = some task →
      ((∀ (pre : List Attempt) (a : Attempt) (post : List Attempt) (state : ReconnectState)
          (err : ErrorKind), as = pre ++ a :: post →
          run (ReconnectTask.step config busid) (.running .active) pre = some (.running state) →
          a.SessionFails config busid err → state.Fresh err config.reconnect) ↔
        ∀ (pre : List Attempt) (a : Attempt) (post : List Attempt) (err : ErrorKind),
          as = pre ++ a :: post → a.SessionFails config busid err → 2 ^ 32 ∣ pre.length)) ∧
    ∀ (as : List AutoConnectEvent) (t : AutoConnect), run step (start calls) as = some t →
      ((∀ (pre : List AutoConnectEvent) (delay : UInt32 → Option ℕ) (post : List AutoConnectEvent)
          (s : AutoConnect), as = pre ++ .monitor (.lost delay) :: post →
          run step (start calls) pre = some s → s.imported = true →
          s.monitor.state.Fresh .connectionClosed .default) ↔
        ∀ (pre : List AutoConnectEvent) (delay : UInt32 → Option ℕ) (post : List AutoConnectEvent)
          (s : AutoConnect), as = pre ++ .monitor (.lost delay) :: post →
          run step (start calls) pre = some s → s.imported = true →
          2 ^ 32 ∣ pre.countP isLost) := by
  constructor
  · intro as task h
    constructor
    · rintro hfresh pre a post err rfl hfails
      obtain ⟨u, hu, hrest⟩ := run_append_eq_some.1 h
      obtain ⟨v, hv, -⟩ := run_cons_eq_some.1 hrest
      obtain ⟨state, rfl⟩ := ReconnectTask.not_terminated_of_step hv
      exact ((ReconnectTask.counts_of_run hu).fresh_iff_dvd hfails.2.2).1
        (hfresh pre a post state err rfl hu hfails)
    · intro hfirst pre a post state err has hstate hfails
      exact ((ReconnectTask.counts_of_run hstate).fresh_iff_dvd hfails.2.2).2
        (hfirst pre a post err has hfails)
  · intro as t h
    -- a loop that handles a failure has not panicked
    have hcounts {pre post : List AutoConnectEvent} {delay : UInt32 → Option ℕ} {s : AutoConnect}
        (has : as = pre ++ .monitor (.lost delay) :: post)
        (hs : run step (start calls) pre = some s) :
        s.monitor.state.Fresh .connectionClosed .default ↔ 2 ^ 32 ∣ pre.countP isLost := by
      rw [has] at h
      obtain ⟨u, hu, hrest⟩ := run_append_eq_some.1 h
      obtain rfl := Option.some.inj (hs.symm.trans hu)
      obtain ⟨v, hv, -⟩ := run_cons_eq_some.1 hrest
      obtain ⟨⟨m, w⟩, hm, -⟩ := Option.map_eq_some_iff.1 hv
      have hphase : s.monitor.phase = .failed := by
        cases Monitor.step_cases hm with
        | retry _ _ hp _ => exact hp
        | panic _ hp _ => exact hp
      refine ((counts_of_run hs).resolve_left ?_).fresh_iff_dvd rfl
      rw [hphase]
      simp
    constructor
    · intro hfresh pre delay post s has hs himported
      exact (hcounts has hs).1 (hfresh pre delay post s has hs himported)
    · intro hfirst pre delay post s has hs himported
      exact (hcounts has hs).2 (hfirst pre delay post s has hs himported)

/-- The connection of a session is lost. -/
def sessionEvents : List AutoConnectEvent :=
  importEvents ++ [.monitor .mark, .monitor .check, .monitor (.ended (.error .connectionClosed))]

/-- The retry after a delay of one second. -/
def retryEvent : AutoConnectEvent := .monitor (.lost fun _ => some 1)

/-- The first session is retried as the first. -/
theorem fresh_firstSession :
    (run step (start []) (sessionEvents ++ [retryEvent])).isSome = true ∧
      ∀ s, run step (start []) sessionEvents = some s → s.imported = true →
        s.monitor.state.Fresh .connectionClosed .default := by
  have hsome : (run step (start []) (sessionEvents ++ [retryEvent])).isSome = true := by
    decide +kernel
  obtain ⟨t, ht⟩ := Option.isSome_iff_exists.1 hsome
  refine ⟨hsome, fun s hs himported => ?_⟩
  refine ((fresh_iff ReconnectTask.unlimited "1-1" []).2 _ t ht).2 ?_ sessionEvents _ [] s rfl hs
    himported
  rintro pre delay post s' has - -
  have hone : (sessionEvents ++ [retryEvent]).countP isLost = 1 := rfl
  have hlost : isLost (.monitor (.lost delay)) = true := rfl
  rw [has, List.countP_append, List.countP_cons_of_pos hlost] at hone
  have hzero : pre.countP isLost = 0 := by omega
  rw [hzero]
  exact dvd_zero _

/-- The server refuses a connection, and the next one is lost after the import. -/
def lateSession : List AutoConnectEvent :=
  [.monitor .check, .monitor .elapsed, .monitor .mark,
    .monitor (.imported (.error .connectionClosed)), retryEvent, .monitor .check,
    .monitor .elapsed] ++ sessionEvents

/-- The session is retried as the second failure. -/
theorem fresh_lateSession :
    (run step (start []) (lateSession ++ [retryEvent])).isSome = true ∧
      ¬∀ (pre : List AutoConnectEvent) (delay : UInt32 → Option ℕ) (post : List AutoConnectEvent)
          (s : AutoConnect), lateSession ++ [retryEvent] = pre ++ .monitor (.lost delay) :: post →
        run step (start []) pre = some s → s.imported = true →
        s.monitor.state.Fresh .connectionClosed .default := by
  refine ⟨by decide +kernel, fun hall => ?_⟩
  obtain ⟨s, hs⟩ : ∃ s, run step (start []) lateSession = some s := ⟨_, rfl⟩
  have hfresh := hall lateSession _ [] s rfl hs (by
    obtain rfl := Option.some.inj hs
    rfl)
  have hcounts := (counts_of_run hs).resolve_left (by
    obtain rfl := Option.some.inj hs
    decide)
  have hdvd := (hcounts.fresh_iff_dvd rfl).1 hfresh
  exact absurd hdvd (by decide)

end AutoConnect

end AnyPlug
