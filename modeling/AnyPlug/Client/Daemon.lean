import AnyPlug.Client.AutoConnect

/-!
# The daemon

`DaemonManager` of `usbip-client/src/daemon.rs` keeps a list of connections. Commands arrive on any
number of sockets (`handle_connection`, `handle_command`), and the list is locked only while it is
read or changed: a `Connect` looks for the connection, imports the device with the list unlocked,
and then enters it. It leaves two tasks behind, the monitor of the connection
(`auto_connect_loop`) and the task in which `import_device` forwards URBs.

* `unique_iff`: no connection is entered twice, however the imports under way end, exactly when a
  `Connect` that has found no entry for its connection is alone with it: no other one imports or
  enters the same connection at that moment.
* `disconnected_iff`: `Disconnect` stops everything it is meant to stop exactly when the bus id has
  one entry and the task of `import_device` has ended on its own.
-/

namespace AnyPlug

/-! ## State -/

/-- A connection of the daemon, as it is configured. -/
structure ConnectionConfig where
  server : SocketAddr
  busid : String
  deriving DecidableEq

/-- A connection that the daemon manages. Its token is a number. -/
structure ManagedConnection where
  config : ConnectionConfig
  state : ConnectionState
  cancelToken : ℕ

/-- Where the task of `import_device` stands. The client of the daemon does not reconnect, so the
task ends with its first session, and it has no token. -/
inductive ForwarderPhase
  | spawned
  | forwarding
  | ended
  deriving DecidableEq

structure Forwarder where
  config : ConnectionConfig
  phase : ForwarderPhase

structure MonitorTask where
  config : ConnectionConfig
  monitor : Monitor

inductive DaemonCommand
  | connect (config : ConnectionConfig)
  | disconnect (busid : String)
  | status
  | shutdown

/-- The status of a connection in a response. -/
structure ConnectionStatus where
  config : ConnectionConfig
  state : String
  error : Option String

/-- The message of a response. -/
inductive DaemonMessage
  | alreadyManaging (config : ConnectionConfig)
  | imported (vid pid : UInt16) (server : SocketAddr)
  | importFailed (err : ErrorKind)
  | disconnected (busid : String)
  | noConnection (busid : String)
  | shuttingDown

structure DaemonResponse where
  status : String
  message : Option DaemonMessage
  connections : Option (List ConnectionStatus)

/-- Where the handler of a socket stands. -/
inductive HandlerPhase
  | reading
  | importing (config : ConnectionConfig)
  /-- The import has succeeded, and the connection is to be entered. -/
  | entering (config : ConnectionConfig) (device : UsbIpDeviceEntry)
  | closed

/-- The connection that the handler is about to enter, once its import has succeeded. -/
def HandlerPhase.pending? : HandlerPhase → Option ConnectionConfig
  | .importing c | .entering c _ => some c
  | .reading | .closed => none

/-- The daemon. A monitor is known by its token. -/
structure Daemon where
  connections : List ManagedConnection
  monitors : ℕ → Option MonitorTask
  cancelled : ℕ → Bool
  nextToken : ℕ
  forwarders : ℕ → Option Forwarder
  nextForwarder : ℕ
  handlers : ℕ → HandlerPhase
  shutdown : Bool

/-- A step of a handler or of a task, with the answers it gets. -/
inductive DaemonEvent
  | command (h : ℕ) (cmd : DaemonCommand)
  /-- `import_device` returns to the handler. -/
  | imported (h : ℕ) (r : UsbIpResult UsbIpDeviceEntry)
  | enter (h : ℕ)
  | hangUp (h : ℕ)
  | monitor (token : ℕ) (e : MonitorEvent)
  | forward (k : ℕ)
  | forwarded (k : ℕ) (r : UsbIpResult Unit)
  | shutdown

/-- An import returns, or a connection is entered: a `Connect` that is under way goes on. -/
def DaemonEvent.Finishes : DaemonEvent → Prop
  | .imported _ _ | .enter _ => True
  | _ => False

/-! ## Commands -/

/-- The state of a connection, as it is reported. -/
def ManagedConnection.status (mc : ManagedConnection) : ConnectionStatus where
  config := mc.config
  state := match mc.state with
    | .disconnected => "disconnected"
    | .connecting => "connecting"
    | .connected => "connected"
    | .error e => "error: " ++ e
  error := match mc.state with
    | .error e => some e
    | _ => none

/-- Update the state of the first entry of a connection. -/
def setState (c : ConnectionConfig) (state : ConnectionState) :
    List ManagedConnection → List ManagedConnection
  | [] => []
  | mc :: rest =>
    if mc.config = c then { mc with state := state } :: rest else mc :: setState c state rest

namespace Daemon

/-- The daemon with its configured connections. The source panics where there is one: `run` locks
the list with `blocking_lock` to enter it, and a thread of the runtime must not block. -/
def start (configs : List ConnectionConfig) : Daemon where
  connections := configs.mapIdx fun token c => ⟨c, .disconnected, token⟩
  monitors token := configs[token]?.map fun c => ⟨c, .start⟩
  cancelled _ := false
  nextToken := configs.length
  forwarders _ := none
  nextForwarder := 0
  handlers _ := .reading
  shutdown := false

/-- The token of a monitor, or that of the daemon, is cancelled. -/
def stopped (s : Daemon) (token : ℕ) : Bool := s.cancelled token || s.shutdown

def setHandler (s : Daemon) (h : ℕ) (phase : HandlerPhase) : Daemon :=
  { s with handlers := Function.update s.handlers h phase }

/-- A handler that has responded reads the next command, unless the daemon shuts down. -/
def respond (s : Daemon) (h : ℕ) : Daemon :=
  s.setHandler h (if s.shutdown then .closed else .reading)

/-- Remove the first entry with a bus id, and cancel its token. -/
def remove (s : Daemon) (busid : String) (token : ℕ) : Daemon :=
  { s with
    connections := s.connections.eraseP fun mc => mc.config.busid = busid
    cancelled := Function.update s.cancelled token true }

/-- The task of `import_device` is spawned. -/
def spawnForwarder (s : Daemon) (c : ConnectionConfig) : Daemon :=
  { s with
    forwarders := Function.update s.forwarders s.nextForwarder (some ⟨c, .spawned⟩)
    nextForwarder := s.nextForwarder + 1 }

/-- A connection is entered, and its monitor is spawned. -/
def manage (s : Daemon) (c : ConnectionConfig) : Daemon :=
  { s with
    connections := s.connections ++ [⟨c, .connected, s.nextToken⟩]
    monitors := Function.update s.monitors s.nextToken (some ⟨c, .start⟩)
    cancelled := Function.update s.cancelled s.nextToken false
    nextToken := s.nextToken + 1 }

/-- The list that `Status` reports. -/
def statusList (s : Daemon) : List ConnectionStatus := s.connections.map ManagedConnection.status

/-- Process a command: the next state, and the response unless the command goes on. -/
def handleCommand (s : Daemon) (h : ℕ) : DaemonCommand → Daemon × Option DaemonResponse
  | .connect c =>
    if s.connections.any fun mc => mc.config = c then
      (s.respond h, some ⟨"ok", some (.alreadyManaging c), none⟩)
    else (s.setHandler h (.importing c), none)
  | .disconnect busid =>
    match s.connections.find? fun mc => mc.config.busid = busid with
    | some mc =>
      ((s.remove busid mc.cancelToken).respond h, some ⟨"ok", some (.disconnected busid), none⟩)
    | none => (s.respond h, some ⟨"error", some (.noConnection busid), none⟩)
  | .status => (s.respond h, some ⟨"ok", none, some s.statusList⟩)
  | .shutdown =>
    ({ s with shutdown := true }.respond h, some ⟨"ok", some .shuttingDown, none⟩)

/-- `Connect` after the import: the forwarding task is there when it succeeded. -/
def finishImport (s : Daemon) (h : ℕ) (c : ConnectionConfig) :
    UsbIpResult UsbIpDeviceEntry → Daemon × Option DaemonResponse
  | .ok device => ((s.spawnForwarder c).setHandler h (.entering c device), none)
  | .error err => (s.respond h, some ⟨"error", some (.importFailed err), none⟩)

/-- The end of a `Connect`: the connection is entered. -/
def finishConnect (s : Daemon) (h : ℕ) (c : ConnectionConfig) (device : UsbIpDeviceEntry) :
    Daemon × DaemonResponse :=
  ((s.manage c).respond h, ⟨"ok", some (.imported device.vid device.pid c.server), none⟩)

/-- One step. -/
def step (s : Daemon) : DaemonEvent → Option Daemon
  | .command h cmd =>
    match s.handlers h with
    | .reading => some (s.handleCommand h cmd).1
    | _ => none
  | .imported h r =>
    match s.handlers h with
    | .importing c => some (s.finishImport h c r).1
    | _ => none
  | .enter h =>
    match s.handlers h with
    | .entering c device => some (s.finishConnect h c device).1
    | _ => none
  | .hangUp h =>
    match s.handlers h with
    | .reading => some (s.setHandler h .closed)
    | _ => none
  | .monitor token e =>
    match s.monitors token with
    | some ⟨c, m⟩ =>
      (m.step (s.stopped token) e).map fun (m, w) =>
        { s with
          monitors := Function.update s.monitors token (some ⟨c, m⟩)
          connections := w.elim s.connections fun state => setState c state s.connections }
    | none => none
  | .forward k =>
    match s.forwarders k with
    | some ⟨c, .spawned⟩ =>
      some { s with forwarders := Function.update s.forwarders k (some ⟨c, .forwarding⟩) }
    | _ => none
  | .forwarded k _ =>
    match s.forwarders k with
    | some ⟨c, .forwarding⟩ =>
      some { s with forwarders := Function.update s.forwarders k (some ⟨c, .ended⟩) }
    | _ => none
  | .shutdown => some { s with shutdown := true }

/-! ## What a step can do -/

variable {s t : Daemon} {a : DaemonEvent}

/-- The connections that are managed, one for each entry. -/
def keys (s : Daemon) : List ConnectionConfig := s.connections.map ManagedConnection.config

/-- The steps. Those of a handler alone change nothing else; among them is the check of a `Connect`
that finds no entry. -/
inductive Step (s : Daemon) : DaemonEvent → Daemon → Prop
  | handler (a h phase) (hcmd : ∀ h cmd, a = .command h cmd → cmd ≠ .shutdown)
      (hfound : ∀ h b, a = .command h (.disconnect b) → ∀ mc ∈ s.connections, mc.config.busid ≠ b)
      (ha : (∃ h cmd, a = .command h cmd) ∨ (∃ h r, a = .imported h r) ∨ ∃ h, a = .hangUp h)
      (hphase : ∀ c, phase.pending? = some c → a = .command h (.connect c) ∧ c ∉ s.keys) :
      Step s a (s.setHandler h phase)
  | disconnect (h busid mc phase)
      (hfind : s.connections.find? (fun mc => mc.config.busid = busid) = some mc)
      (hphase : phase.pending? = none) :
      Step s (.command h (.disconnect busid)) ((s.remove busid mc.cancelToken).setHandler h phase)
  | shutdownCommand (h phase) (hphase : phase.pending? = none) :
      Step s (.command h .shutdown) ({ s with shutdown := true }.setHandler h phase)
  | imported (h c device r) (hh : s.handlers h = .importing c) :
      Step s (.imported h r) ((s.spawnForwarder c).setHandler h (.entering c device))
  | enter (h c device phase) (hh : s.handlers h = .entering c device)
      (hphase : phase.pending? = none) :
      Step s (.enter h) ((s.manage c).setHandler h phase)
  | monitor (token e c m n w) (hm : s.monitors token = some ⟨c, m⟩)
      (hstep : Monitor.Step (s.stopped token) m e n w) :
      Step s (.monitor token e)
        { s with
          monitors := Function.update s.monitors token (some ⟨c, n⟩)
          connections := w.elim s.connections fun state => setState c state s.connections }
  | forward (k c) (hk : s.forwarders k = some ⟨c, .spawned⟩) :
      Step s (.forward k)
        { s with forwarders := Function.update s.forwarders k (some ⟨c, .forwarding⟩) }
  | forwarded (k c r) (hk : s.forwarders k = some ⟨c, .forwarding⟩) :
      Step s (.forwarded k r)
        { s with forwarders := Function.update s.forwarders k (some ⟨c, .ended⟩) }
  | shutdown : Step s .shutdown { s with shutdown := true }

/-- A handler that has responded enters nothing. -/
theorem pending?_respond (shutdown : Bool) :
    (if shutdown then HandlerPhase.closed else .reading).pending? = none := by
  cases shutdown <;> rfl

theorem not_pending_respond (shutdown : Bool) (p : ConnectionConfig → Prop) (c : ConnectionConfig)
    (hc : (if shutdown then HandlerPhase.closed else .reading).pending? = some c) : p c := by
  rw [pending?_respond] at hc
  cases hc

theorem any_config_eq_true_iff {c : ConnectionConfig} :
    (s.connections.any fun mc => mc.config = c) = true ↔ c ∈ s.keys := by
  simp [keys]

theorem step_cases (h : s.step a = some t) : Step s a t := by
  cases a with
  | command i cmd =>
    simp only [step] at h
    split at h
    · obtain rfl := Option.some.inj h
      cases cmd with
      | connect c =>
        simp only [handleCommand]
        split
        · exact .handler (.command i (.connect c)) i _ (by simp) (by simp) (.inl ⟨i, _, rfl⟩)
            (not_pending_respond _ _)
        · rename_i hnone
          refine .handler (.command i (.connect c)) i _ (by simp) (by simp) (.inl ⟨i, _, rfl⟩) ?_
          intro c' hc'
          obtain rfl := Option.some.inj hc'
          exact ⟨rfl, fun hmem => hnone (any_config_eq_true_iff.2 hmem)⟩
      | disconnect b =>
        simp only [handleCommand]
        split
        · rename_i mc hfind
          exact .disconnect i b mc _ hfind (pending?_respond _)
        · rename_i hnone
          refine .handler (.command i (.disconnect b)) i _ (by simp) ?_ (.inl ⟨i, _, rfl⟩)
            (not_pending_respond _ _)
          intro _ b' heq mc hmc
          obtain ⟨-, ⟨⟩⟩ := DaemonEvent.command.inj heq
          simpa using List.find?_eq_none.1 hnone mc hmc
      | status =>
        exact .handler _ i _ (by simp) (by simp) (.inl ⟨i, _, rfl⟩) (not_pending_respond _ _)
      | shutdown => exact .shutdownCommand i _ (pending?_respond _)
    · cases h
  | imported i r =>
    simp only [step] at h
    split at h
    · rename_i c hh
      obtain rfl := Option.some.inj h
      cases r with
      | ok device => exact .imported i c device _ hh
      | error err =>
        exact .handler _ i _ (by simp) (by simp) (.inr (.inl ⟨i, _, rfl⟩)) (not_pending_respond _ _)
    · cases h
  | enter i =>
    simp only [step] at h
    split at h
    · rename_i c device hh
      obtain rfl := Option.some.inj h
      exact .enter i c device _ hh (pending?_respond _)
    · cases h
  | hangUp i =>
    simp only [step] at h
    split at h
    · obtain rfl := Option.some.inj h
      exact .handler _ i _ (by simp) (by simp) (.inr (.inr ⟨i, rfl⟩)) (fun _ hc => (by cases hc))
    · cases h
  | monitor token e =>
    simp only [step] at h
    split at h
    · rename_i c m hm
      obtain ⟨⟨n, w⟩, hn, rfl⟩ := Option.map_eq_some_iff.1 h
      exact .monitor token e c m n w hm (Monitor.step_cases hn)
    · cases h
  | forward k =>
    simp only [step] at h
    split at h
    · rename_i c hk
      obtain rfl := Option.some.inj h
      exact .forward k c hk
    · cases h
  | forwarded k r =>
    simp only [step] at h
    split at h
    · rename_i c hk
      obtain rfl := Option.some.inj h
      exact .forwarded k c r hk
    · cases h
  | shutdown =>
    obtain rfl := Option.some.inj h
    exact .shutdown

/-! ## Entries are unique -/

/-- No connection has two entries. -/
def Unique (s : Daemon) : Prop := s.keys.Nodup

/-- A `Connect` that finds no entry for its connection is alone with it: no handler is importing the
connection, or about to enter it. -/
def ChecksAlone (s : Daemon) : DaemonEvent → Prop
  | .command _ (.connect c) => c ∉ s.keys → ∀ h, (s.handlers h).pending? ≠ some c
  | _ => True

theorem map_config_setState (c : ConnectionConfig) (state : ConnectionState)
    (l : List ManagedConnection) :
    (setState c state l).map ManagedConnection.config = l.map ManagedConnection.config := by
  induction l with
  | nil => rfl
  | cons mc rest ih =>
    unfold setState
    split
    · rfl
    · rw [List.map_cons, List.map_cons, ih]

/-- Every connection that is managed, or is going to be entered, is so once. -/
structure Apart (s : Daemon) : Prop where
  unique : s.Unique
  missing : ∀ {h c}, (s.handlers h).pending? = some c → c ∉ s.keys
  alone : ∀ {h i c}, (s.handlers h).pending? = some c → (s.handlers i).pending? = some c → h = i

theorem handlers_setHandler (s : Daemon) (i : ℕ) (phase : HandlerPhase) (j : ℕ) :
    (s.setHandler i phase).handlers j = if j = i then phase else s.handlers j :=
  Function.update_apply _ _ _ _

/-- A handler comes to be about to enter a connection that no other one is about to enter. -/
theorem Apart.setHandler (hs : s.Apart) {i : ℕ} {phase : HandlerPhase}
    (hphase : ∀ c, phase.pending? = some c →
      c ∉ s.keys ∧ ∀ j, j ≠ i → (s.handlers j).pending? ≠ some c) :
    (s.setHandler i phase).Apart := by
  refine ⟨hs.unique, fun {h c} hc => ?_, fun {h j c} hc hc' => ?_⟩
  · rw [handlers_setHandler] at hc
    split at hc
    · exact (hphase c hc).1
    · exact hs.missing hc
  · rw [handlers_setHandler] at hc hc'
    split at hc <;> split at hc'
    · rename_i hh hj
      exact hh.trans hj.symm
    · rename_i hj
      exact absurd hc' ((hphase c hc).2 j hj)
    · rename_i hh _
      exact absurd hc ((hphase c hc').2 h hh)
    · exact hs.alone hc hc'

/-- A handler that has responded is about to enter nothing. -/
theorem Apart.respond (hs : s.Apart) {i : ℕ} {phase : HandlerPhase}
    (hphase : phase.pending? = none) : (s.setHandler i phase).Apart :=
  hs.setHandler fun c hc => absurd (hphase.symm.trans hc) (Option.some_ne_none c).symm

/-- Only entries go, and the handlers stay where they are. -/
theorem Apart.of_sublist (hs : s.Apart) (hkeys : t.keys.Sublist s.keys)
    (hhandlers : t.handlers = s.handlers) : t.Apart := by
  refine ⟨hs.unique.sublist hkeys, fun {h c} hc hmem => ?_, fun {h i c} hc hi => ?_⟩
  · rw [hhandlers] at hc
    exact hs.missing hc (hkeys.subset hmem)
  · rw [hhandlers] at hc hi
    exact hs.alone hc hi

theorem keys_manage (s : Daemon) (c : ConnectionConfig) : (s.manage c).keys = s.keys ++ [c] :=
  List.map_append

/-- The handler that enters a connection was the only one about to enter it. -/
theorem Apart.enter (hs : s.Apart) {i : ℕ} {c : ConnectionConfig} {phase : HandlerPhase}
    (hi : (s.handlers i).pending? = some c) (hphase : phase.pending? = none) :
    ((s.manage c).setHandler i phase).Apart := by
  have hother {h c'} (hc' : (((s.manage c).setHandler i phase).handlers h).pending? = some c') :
      h ≠ i ∧ (s.handlers h).pending? = some c' := by
    rw [handlers_setHandler] at hc'
    split at hc'
    · rw [hphase] at hc'
      cases hc'
    · rename_i hh
      exact ⟨hh, hc'⟩
  refine ⟨?_, fun {h c'} hc' => ?_, fun {h j c'} hc' hj => ?_⟩
  · change (s.manage c).keys.Nodup
    rw [keys_manage, List.nodup_append_comm, List.singleton_append, List.nodup_cons]
    exact ⟨hs.missing hi, hs.unique⟩
  · obtain ⟨hh, hold⟩ := hother hc'
    change c' ∉ (s.manage c).keys
    rw [keys_manage, List.mem_append, List.mem_singleton, not_or]
    refine ⟨hs.missing hold, ?_⟩
    rintro rfl
    exact hh (hs.alone hold hi)
  · exact hs.alone (hother hc').2 (hother hj).2

/-- **Every step keeps the connections apart** in which no `Connect` passes its check while another
one for the same connection is under way. -/
theorem Apart.step (hs : s.Apart) (hC : s.ChecksAlone a) (h : s.step a = some t) : t.Apart := by
  cases step_cases h with
  | handler a i phase hcmd hfound ha hphase =>
    refine hs.setHandler fun c hc => ?_
    obtain ⟨rfl, hmissing⟩ := hphase c hc
    exact ⟨hmissing, fun j _ => hC hmissing j⟩
  | disconnect i busid mc phase hfind hphase =>
    have hremove : (s.remove busid mc.cancelToken).Apart :=
      hs.of_sublist (List.eraseP_sublist.map _) rfl
    exact hremove.respond hphase
  | shutdownCommand i phase hphase =>
    have hshutdown : ({ s with shutdown := true } : Daemon).Apart := hs.of_sublist (.refl _) rfl
    exact hshutdown.respond hphase
  | imported i c device r hh =>
    have hspawn : (s.spawnForwarder c).Apart := hs.of_sublist (.refl _) rfl
    have hi : (s.handlers i).pending? = some c := by rw [hh]; rfl
    refine hspawn.setHandler fun c' hc' => ?_
    obtain rfl := Option.some.inj hc'
    exact ⟨hs.missing hi, fun j hj hc => hj (hs.alone hc hi)⟩
  | enter i c device phase hh hphase => exact hs.enter (by rw [hh]; rfl) hphase
  | monitor token e c m n w hm hstep =>
    refine hs.of_sublist ?_ rfl
    cases w with
    | none => exact .refl _
    | some state =>
      change ((setState c state s.connections).map ManagedConnection.config).Sublist s.keys
      rw [map_config_setState]
      exact .refl _
  | forward k c hk | forwarded k c r hk | shutdown => exact hs.of_sublist (.refl _) rfl

/-- A handler that is about to enter a connection can do so. -/
theorem step_enter {i : ℕ} {c : ConnectionConfig} {device : UsbIpDeviceEntry}
    (hi : s.handlers i = .entering c device) :
    s.step (.enter i) = some ((s.manage c).respond i) := by
  simp only [step, hi]
  rfl

/-- A `Connect` that is under way can go on to the end, whatever the others do. -/
theorem exists_run_enter {h : ℕ} {c : ConnectionConfig} (hc : (s.handlers h).pending? = some c) :
    ∃ bs u, (∀ b ∈ bs, b.Finishes) ∧ run step s bs = some u ∧ u.keys = s.keys ++ [c] ∧
      ∀ i, i ≠ h → u.handlers i = s.handlers i := by
  cases hh : s.handlers h with
  | reading | closed =>
    rw [hh] at hc
    cases hc
  | importing c' =>
    rw [hh] at hc
    obtain rfl := Option.some.inj hc
    set v := (s.spawnForwarder c').setHandler h (.entering c' wheelEntry) with hv
    have himported : s.step (.imported h (.ok wheelEntry)) = some v := by
      simp only [step, hh]
      rfl
    have hentering : v.handlers h = .entering c' wheelEntry := by
      rw [hv, handlers_setHandler, if_pos rfl]
    refine ⟨[.imported h (.ok wheelEntry), .enter h], (v.manage c').respond h,
      by simp [DaemonEvent.Finishes],
      run_cons_eq_some.2 ⟨v, himported, run_singleton.2 (step_enter hentering)⟩,
      keys_manage v c', fun i hi => ?_⟩
    rw [respond, handlers_setHandler, if_neg hi]
    exact (handlers_setHandler _ _ _ _).trans (if_neg hi)
  | entering c' device =>
    rw [hh] at hc
    obtain rfl := Option.some.inj hc
    refine ⟨[.enter h], (s.manage c').respond h, by simp [DaemonEvent.Finishes],
      run_singleton.2 (step_enter hh), keys_manage s c', fun i hi => ?_⟩
    exact (handlers_setHandler _ _ _ _).trans (if_neg hi)

theorem of_step_connect {i : ℕ} {c : ConnectionConfig}
    (h : s.step (.command i (.connect c)) = some t) (hc : c ∉ s.keys) :
    s.handlers i = .reading ∧ t = s.setHandler i (.importing c) := by
  simp only [step] at h
  split at h
  · rename_i hreading
    obtain rfl := Option.some.inj h
    refine ⟨hreading, ?_⟩
    rw [handleCommand, if_neg (mt any_config_eq_true_iff.1 hc)]
  · cases h

/-- **No connection is ever entered twice**, however the imports under way end, exactly when every
`Connect` that finds no entry for its connection is alone with it. -/
theorem unique_iff {as : List DaemonEvent} (hs : s.Unique)
    (hidle : ∀ h, (s.handlers h).pending? = none) (h : run step s as = some t) :
    Along step ChecksAlone s as ↔
      ∀ pre post bs, as = pre ++ post → (∀ b ∈ bs, b.Finishes) →
        Throughout step Unique s (pre ++ bs) := by
  have hapart : s.Apart := by
    refine ⟨hs, fun {h c} hc => ?_, fun {h i c} hc => ?_⟩ <;> rw [hidle h] at hc <;> cases hc
  constructor
  · rintro hC pre post bs rfl hbs
    have hall : Along step ChecksAlone s (pre ++ bs) := by
      refine hC.append_left.append fun u _ => along_of_forall fun b hb u => ?_
      have hfinishes := hbs b hb
      cases b with
      | command i cmd => exact hfinishes.elim
      | _ => trivial
    exact hall.throughout (fun _ _ _ hs hC ht => hs.step hC ht) (fun _ hs => hs.unique) hapart
  · intro hall
    rw [along_iff]
    rintro pre a post u rfl hu
    obtain ⟨u', hu', hrest⟩ := run_append_eq_some.1 h
    obtain rfl := Option.some.inj (hu.symm.trans hu')
    obtain ⟨v, hv, -⟩ := run_cons_eq_some.1 hrest
    unfold ChecksAlone
    split
    · rename_i i c
      intro hmissing j hj
      -- the other handler goes on to the end, and then this one
      obtain ⟨hreading, rfl⟩ := of_step_connect hv hmissing
      have hne : i ≠ j := by
        rintro rfl
        rw [hreading] at hj
        cases hj
      have hj' : ((u.setHandler i (.importing c)).handlers j).pending? = some c := by
        rw [handlers_setHandler, if_neg hne.symm]
        exact hj
      obtain ⟨bs, w, hbs, hw, hkeys, hothers⟩ := exists_run_enter hj'
      have hi : (w.handlers i).pending? = some c := by
        rw [hothers i hne, handlers_setHandler, if_pos rfl]
        rfl
      obtain ⟨bs', w', hbs', hw', hkeys', -⟩ := exists_run_enter hi
      have hall' := hall (pre ++ [.command i (.connect c)]) post (bs ++ bs') (by simp) fun b hb =>
        (List.mem_append.1 hb).elim (hbs b) (hbs' b)
      have hrun : run step s (pre ++ [.command i (.connect c)] ++ (bs ++ bs')) = some w' :=
        run_append_eq_some.2 ⟨_, run_append_singleton_eq_some.2 ⟨u, hu, hv⟩,
          run_append_eq_some.2 ⟨w, hw, hw'⟩⟩
      have hunique : w'.keys.Nodup := hall'.last hrun
      rw [hkeys', hkeys, List.append_assoc] at hunique
      exact absurd (hunique.sublist (List.sublist_append_right _ _)) (by simp)
    · trivial

/-- The wheel of the server at `192.168.1.20`. -/
def wheelConfig : ConnectionConfig := ⟨clientAddr 0, "1-1"⟩

/-- A `Connect` that succeeds. -/
def connectEvents (h : ℕ) : List DaemonEvent :=
  [.command h (.connect wheelConfig), .imported h (.ok wheelEntry), .enter h]

/-- Two `Connect` commands for the wheel, the second after the first is through. -/
theorem unique_connectEvents :
    (run step (start []) (connectEvents 0 ++ [.command 1 (.connect wheelConfig)])).isSome = true ∧
      Throughout step Unique (start [])
        (connectEvents 0 ++ [.command 1 (.connect wheelConfig)]) := by
  have hsome : (run step (start [])
      (connectEvents 0 ++ [.command 1 (.connect wheelConfig)])).isSome = true := by decide +kernel
  obtain ⟨t, ht⟩ := Option.isSome_iff_exists.1 hsome
  refine ⟨hsome, ?_⟩
  have hall := (unique_iff (s := start []) List.nodup_nil (fun _ => rfl) ht).1
    (.cons (fun _ _ => (Option.some_ne_none _).symm) rfl (.cons trivial rfl (.cons trivial rfl
      (.cons (fun hmissing => absurd List.mem_cons_self hmissing) rfl trivial))))
  exact List.append_nil (connectEvents 0 ++ [.command 1 (.connect wheelConfig)]) ▸
    hall _ [] [] (List.append_nil _).symm (List.forall_mem_nil _)

/-- Two `Connect` commands for the wheel, the second while the first still imports it. -/
def twoConnects : List DaemonEvent :=
  [.command 0 (.connect wheelConfig), .command 1 (.connect wheelConfig),
    .imported 0 (.ok wheelEntry), .imported 1 (.ok wheelEntry), .enter 0, .enter 1]

/-- Both enter it. -/
theorem unique_twoConnects :
    (run step (start []) twoConnects).isSome = true ∧ (start []).Unique ∧
      ¬Throughout step Unique (start []) twoConnects := by
  have hsome : (run step (start []) twoConnects).isSome = true := by decide +kernel
  obtain ⟨t, ht⟩ := Option.isSome_iff_exists.1 hsome
  refine ⟨hsome, List.nodup_nil, fun hall => ?_⟩
  have hunique := hall.last ht
  obtain rfl := Option.some.inj ht
  exact absurd (show [wheelConfig, wheelConfig].Nodup from hunique) (by simp)

/-! ## Monitors and their entries -/

/-- The monitor with this token works for the connection, and has not ended. -/
def LiveMonitor (s : Daemon) (token : ℕ) (busid : String) : Prop :=
  ∃ c m, s.monitors token = some ⟨c, m⟩ ∧ c.busid = busid ∧ m.phase.alive = true

/-- The task of `import_device` works for the connection, and has not ended. -/
def LiveForwarder (s : Daemon) (k : ℕ) (busid : String) : Prop :=
  ∃ c phase, s.forwarders k = some ⟨c, phase⟩ ∧ c.busid = busid ∧ phase ≠ .ended

/-- A monitor that is not cancelled has its entry, and tokens are not used twice. -/
structure Tracked (s : Daemon) : Prop where
  entry : ∀ {token task}, s.monitors token = some task →
    s.cancelled token = true ∨
      ∃ mc ∈ s.connections, mc.cancelToken = token ∧ mc.config = task.config
  fresh : ∀ {token}, s.nextToken ≤ token → s.monitors token = none

theorem mem_eraseP_or_find? {α : Type*} {p : α → Bool} {l : List α} {x : α} (h : x ∈ l) :
    x ∈ l.eraseP p ∨ l.find? p = some x := by
  induction l with
  | nil => cases h
  | cons y l ih =>
    cases hy : p y with
    | true =>
      rw [List.eraseP_cons_of_pos hy, List.find?_cons_of_pos hy]
      rcases List.mem_cons.1 h with rfl | h
      · exact .inr rfl
      · exact .inl h
    | false =>
      rw [List.eraseP_cons_of_neg (by simp [hy]), List.find?_cons_of_neg (by simp [hy])]
      rcases List.mem_cons.1 h with rfl | h
      · exact .inl List.mem_cons_self
      · exact (ih h).imp_left (List.mem_cons_of_mem y)

theorem exists_mem_setState {c : ConnectionConfig} {state : ConnectionState}
    {l : List ManagedConnection} {mc : ManagedConnection} (h : mc ∈ l) :
    ∃ mc' ∈ setState c state l, mc'.cancelToken = mc.cancelToken ∧ mc'.config = mc.config := by
  induction l with
  | nil => cases h
  | cons x l ih =>
    unfold setState
    rcases List.mem_cons.1 h with rfl | h
    · split
      · exact ⟨_, List.mem_cons_self, rfl, rfl⟩
      · exact ⟨mc, List.mem_cons_self, rfl, rfl⟩
    · split
      · exact ⟨mc, List.mem_cons_of_mem _ h, rfl, rfl⟩
      · obtain ⟨mc', hmc', heq⟩ := ih h
        exact ⟨mc', List.mem_cons_of_mem _ hmc', heq⟩

theorem Tracked.setHandler (hs : s.Tracked) (i : ℕ) (phase : HandlerPhase) :
    (s.setHandler i phase).Tracked :=
  ⟨hs.entry, hs.fresh⟩

/-- The monitor whose entry is removed is cancelled, and the others keep theirs. -/
theorem Tracked.remove (hs : s.Tracked) {busid : String} {mc : ManagedConnection}
    (hfind : s.connections.find? (fun mc => mc.config.busid = busid) = some mc) :
    (s.remove busid mc.cancelToken).Tracked := by
  refine ⟨fun {token task} htask => ?_, hs.fresh⟩
  change Function.update s.cancelled mc.cancelToken true token = true ∨
    ∃ mc' ∈ s.connections.eraseP _, mc'.cancelToken = token ∧ mc'.config = task.config
  rw [Function.update_apply]
  split
  · exact .inl rfl
  · rename_i hne
    refine (hs.entry htask).imp_right ?_
    rintro ⟨mc', hmc', htoken, hconfig⟩
    rcases mem_eraseP_or_find? hmc' with hmem | hfind'
    · exact ⟨mc', hmem, htoken, hconfig⟩
    · obtain rfl := Option.some.inj (hfind.symm.trans hfind')
      exact absurd htoken.symm hne

theorem Tracked.manage (hs : s.Tracked) (c : ConnectionConfig) : (s.manage c).Tracked := by
  constructor
  · intro token task htask
    change Function.update s.monitors s.nextToken _ token = some task at htask
    change Function.update s.cancelled s.nextToken false token = true ∨
      ∃ mc' ∈ s.connections ++ [_], mc'.cancelToken = token ∧ mc'.config = task.config
    rw [Function.update_apply] at htask ⊢
    split at htask
    · rename_i heq
      obtain rfl := Option.some.inj htask
      exact .inr ⟨_, List.mem_append_right _ List.mem_cons_self, heq.symm, rfl⟩
    · rename_i hne
      rw [if_neg hne]
      refine (hs.entry htask).imp_right ?_
      rintro ⟨mc', hmc', heq⟩
      exact ⟨mc', List.mem_append_left _ hmc', heq⟩
  · intro token htoken
    change s.nextToken + 1 ≤ token at htoken
    change Function.update s.monitors s.nextToken _ token = none
    rw [Function.update_of_ne (by omega)]
    exact hs.fresh (by omega)

/-- The daemon after the step of a monitor. -/
def afterMonitor (s : Daemon) (token : ℕ) (c : ConnectionConfig) (n : Monitor)
    (w : Option ConnectionState) : Daemon :=
  { s with
    monitors := Function.update s.monitors token (some ⟨c, n⟩)
    connections := w.elim s.connections fun state => setState c state s.connections }

theorem Tracked.afterMonitor (hs : s.Tracked) {token : ℕ} {c : ConnectionConfig} {m : Monitor}
    (hm : s.monitors token = some ⟨c, m⟩) (n : Monitor) (w : Option ConnectionState) :
    (s.afterMonitor token c n w).Tracked := by
  constructor
  · intro token' task htask
    change Function.update s.monitors token _ token' = some task at htask
    have hold : s.cancelled token' = true ∨
        ∃ mc ∈ s.connections, mc.cancelToken = token' ∧ mc.config = task.config := by
      rw [Function.update_apply] at htask
      split at htask
      · rename_i heq
        obtain rfl := Option.some.inj htask
        have hentry := hs.entry hm
        exact heq ▸ hentry
      · exact hs.entry htask
    refine hold.imp_right ?_
    rintro ⟨mc, hmc, htoken, hconfig⟩
    cases w with
    | none => exact ⟨mc, hmc, htoken, hconfig⟩
    | some state =>
      obtain ⟨mc', hmc', htoken', hconfig'⟩ := exists_mem_setState hmc
      exact ⟨mc', hmc', htoken'.trans htoken, hconfig'.trans hconfig⟩
  · intro token' htoken'
    change Function.update s.monitors token _ token' = none
    have hnone := hs.fresh htoken'
    rw [Function.update_of_ne, hnone]
    rintro rfl
    rw [hm] at hnone
    cases hnone

theorem Tracked.step (hs : s.Tracked) (h : s.step a = some t) : t.Tracked := by
  cases step_cases h with
  | disconnect i busid mc phase hfind => exact (hs.remove hfind).setHandler i phase
  | enter i c device phase hh => exact (hs.manage c).setHandler i phase
  | monitor token e c m n w hm hstep => exact hs.afterMonitor hm n w
  | handler _ _ _ _ _ _ | shutdownCommand _ _ | imported _ _ _ _ | forward _ _ _
  | forwarded _ _ _ _ | shutdown => exact ⟨hs.entry, hs.fresh⟩

theorem tracked_start (configs : List ConnectionConfig) : (start configs).Tracked where
  entry {token task} htask := by
    obtain ⟨c, hc, rfl⟩ := Option.map_eq_some_iff.1 htask
    refine .inr ⟨⟨c, .disconnected, token⟩, ?_, rfl, rfl⟩
    refine List.mem_of_getElem? (i := token) ?_
    rw [start, List.getElem?_mapIdx, hc]
    rfl
  fresh {token} htoken := by
    change configs[token]?.map _ = none
    rw [List.getElem?_eq_none htoken]
    rfl

/-! ## Disconnect -/

/-- The monitor has been told to stop. -/
def Halting (s : Daemon) (token : ℕ) : Prop :=
  s.stopped token = true ∧ ∃ task, s.monitors token = some task

/-- The monitor has ended. -/
def Halted (s : Daemon) (token : ℕ) : Prop :=
  ∃ task, s.monitors token = some task ∧ task.monitor.phase.alive = false

/-- The monitor of another token, or none, is not touched. -/
theorem monitors_step (hs : s.Tracked) (h : s.step a = some t) {token : ℕ} {task : MonitorTask}
    (htask : s.monitors token = some task) (hother : ∀ e, a ≠ .monitor token e) :
    t.monitors token = some task := by
  cases step_cases h with
  | enter i c device phase hh =>
    change Function.update s.monitors s.nextToken _ token = some task
    rw [Function.update_of_ne, htask]
    rintro rfl
    rw [hs.fresh le_rfl] at htask
    cases htask
  | monitor token' e c m n w hm hstep =>
    change Function.update s.monitors token' _ token = some task
    rw [Function.update_of_ne, htask]
    rintro rfl
    exact hother e rfl
  | handler _ _ _ _ _ _ | disconnect _ _ _ _ _ | shutdownCommand _ _ | imported _ _ _ _
  | forward _ _ _ | forwarded _ _ _ _ | shutdown => exact htask

theorem stopped_step (hs : s.Tracked) (h : s.step a = some t) {token : ℕ} {task : MonitorTask}
    (htask : s.monitors token = some task) (hstopped : s.stopped token = true) :
    t.stopped token = true := by
  unfold stopped at hstopped ⊢
  rw [Bool.or_eq_true] at hstopped ⊢
  cases step_cases h with
  | disconnect i busid mc phase hfind =>
    refine hstopped.imp_left fun hcancelled => ?_
    change Function.update s.cancelled _ true token = true
    rw [Function.update_apply, hcancelled, ite_self]
  | enter i c device phase hh =>
    refine hstopped.imp_left fun hcancelled => ?_
    change Function.update s.cancelled s.nextToken false token = true
    rw [Function.update_of_ne, hcancelled]
    rintro rfl
    rw [hs.fresh le_rfl] at htask
    cases htask
  | shutdownCommand i phase => exact .inr rfl
  | shutdown => exact .inr rfl
  | handler _ _ _ _ _ _ | imported _ _ _ _ | monitor _ _ _ _ _ _ _ _ | forward _ _ _
  | forwarded _ _ _ _ => exact hstopped

theorem Halting.step (hs : s.Tracked) {token : ℕ} (hhalt : s.Halting token)
    (h : s.step a = some t) : t.Halting token := by
  obtain ⟨hstopped, task, htask⟩ := hhalt
  refine ⟨stopped_step hs h htask hstopped, ?_⟩
  by_cases hother : ∀ e, a ≠ .monitor token e
  · exact ⟨task, monitors_step hs h htask hother⟩
  · push Not at hother
    obtain ⟨e, rfl⟩ := hother
    cases step_cases h with
    | handler a i phase hcmd hfound ha => exact ⟨task, htask⟩
    | monitor token e c m n w hm hstep => exact ⟨_, Function.update_self _ _ _⟩

theorem Halted.step (hs : s.Tracked) {token : ℕ} (hhalt : s.Halted token)
    (h : s.step a = some t) : t.Halted token := by
  obtain ⟨task, htask, hdead⟩ := hhalt
  refine ⟨task, monitors_step hs h htask ?_, hdead⟩
  rintro e rfl
  cases step_cases h with
  | handler a i phase hcmd hfound ha => simp at ha
  | monitor token e c m n w hm hstep =>
    obtain rfl := Option.some.inj (htask.symm.trans hm)
    rw [Monitor.alive_of_step hstep] at hdead
    cases hdead

/-- A monitor that was told to stop ends when it looks at its tokens. -/
theorem halted_of_looks {token : ℕ} {e : MonitorEvent} (he : e.Looks) (hhalt : s.Halting token)
    (h : s.step (.monitor token e) = some t) : t.Halted token := by
  cases step_cases h with
  | handler a i phase hcmd hfound ha => simp at ha
  | monitor token e c m n w hm hstep =>
    refine ⟨⟨c, n⟩, Function.update_self _ _ _, ?_⟩
    have hstopped := hhalt.1
    obtain rfl | rfl := he
    · cases hstep with
      | halt hp hs => rfl
      | pause hp hs | forward hp hs | backOff hp hs =>
        rw [hs] at hstopped
        cases hstopped
    · cases hstep with
      | leave hp hs => rfl

/-- **A monitor that was told to stop ends at its next look at the tokens**, whatever happens before
and after it. -/
theorem Halting.halted (hs : s.Tracked) {token : ℕ} (hhalt : s.Halting token)
    {as : List DaemonEvent} (h : run Daemon.step s as = some t) {e : MonitorEvent} (he : e.Looks)
    (hmem : .monitor token e ∈ as) : t.Halted token := by
  obtain ⟨pre, post, rfl⟩ := List.append_of_mem hmem
  obtain ⟨u, hu, hrest⟩ := run_append_eq_some.1 h
  obtain ⟨v, hv, hpost⟩ := run_cons_eq_some.1 hrest
  have hpre : u.Tracked ∧ u.Halting token :=
    run_invariant (P := fun s => s.Tracked ∧ s.Halting token)
      (fun s a t hs ht => ⟨hs.1.step ht, hs.2.step hs.1 ht⟩) ⟨hs, hhalt⟩ hu
  have hlast : t.Tracked ∧ t.Halted token :=
    run_invariant (P := fun s => s.Tracked ∧ s.Halted token)
      (fun s a t hs ht => ⟨hs.1.step ht, hs.2.step hs.1 ht⟩)
      ⟨hpre.1.step hv, halted_of_looks he hpre.2 hv⟩ hpost
  exact hlast.2

/-- The answer to a `Disconnect` is `ok`. -/
def AnswersOk (s : Daemon) (h : ℕ) (busid : String) : Prop :=
  ∃ r, (s.handleCommand h (.disconnect busid)).2 = some r ∧ r.status = "ok"

/-- The connection is gone: it has no entry, and its tasks have been told to stop. The task of
`import_device` cannot be told. -/
structure Disconnected (s : Daemon) (busid : String) : Prop where
  entries : ∀ mc ∈ s.connections, mc.config.busid ≠ busid
  monitors : ∀ token, s.LiveMonitor token busid → s.stopped token = true
  forwarders : ∀ k, ¬s.LiveForwarder k busid
  /-- A monitor does nothing more after its next look at the tokens. -/
  halts : ∀ token, s.LiveMonitor token busid → ∀ as t, run step s as = some t →
    ∀ e : MonitorEvent, e.Looks → .monitor token e ∈ as → t.Halted token

/-- A `Disconnect` that finds an entry finds the only one for the bus id, and no task of
`import_device` that works for it. -/
def DisconnectsAll (s : Daemon) : DaemonEvent → Prop
  | .command h (.disconnect busid) => s.AnswersOk h busid →
    s.connections.countP (fun mc => mc.config.busid = busid) = 1 ∧ ∀ k, ¬s.LiveForwarder k busid
  | _ => True

theorem countP_eraseP_of_find? {α : Type*} {p : α → Bool} {l : List α} {x : α}
    (h : l.find? p = some x) : (l.eraseP p).countP p + 1 = l.countP p := by
  induction l with
  | nil => cases h
  | cons y l ih =>
    cases hy : p y with
    | true => rw [List.eraseP_cons_of_pos hy, List.countP_cons_of_pos hy]
    | false =>
      have hneg : ¬p y = true := by simp [hy]
      rw [List.find?_cons_of_neg hneg] at h
      rw [List.eraseP_cons_of_neg hneg, List.countP_cons_of_neg hneg, List.countP_cons_of_neg hneg,
        ih h]

theorem exists_find?_of_answersOk {h : ℕ} {busid : String} (hok : s.AnswersOk h busid) :
    ∃ mc, s.connections.find? (fun mc => mc.config.busid = busid) = some mc := by
  obtain ⟨r, hr, hstatus⟩ := hok
  simp only [handleCommand] at hr
  split at hr
  · rename_i mc hmc
    exact ⟨mc, hmc⟩
  · obtain rfl := Option.some.inj hr
    exact absurd hstatus (by simp)

/-- The entries of a bus id are gone after the first one is removed exactly when it was the only
one. -/
theorem forall_eraseP_ne_iff {busid : String} {l : List ManagedConnection} {mc : ManagedConnection}
    (h : l.find? (fun mc => mc.config.busid = busid) = some mc) :
    (∀ mc ∈ l.eraseP fun mc => mc.config.busid = busid, mc.config.busid ≠ busid) ↔
      l.countP (fun mc => mc.config.busid = busid) = 1 := by
  rw [← countP_eraseP_of_find? h, Nat.add_eq_right, List.countP_eq_zero]
  simp

/-- Without an entry and a task of `import_device` the connection is gone: a monitor that is not
cancelled would still have its entry. -/
theorem Tracked.disconnected (hs : s.Tracked) {busid : String}
    (hentries : ∀ mc ∈ s.connections, mc.config.busid ≠ busid)
    (hforwarders : ∀ k, ¬s.LiveForwarder k busid) : s.Disconnected busid := by
  have hstopped : ∀ token, s.LiveMonitor token busid → s.stopped token = true := by
    rintro token ⟨c, m, hm, rfl, -⟩
    rcases hs.entry hm with hcancelled | ⟨mc, hmem, -, hconfig⟩
    · exact Bool.or_eq_true_iff.2 (.inl hcancelled)
    · exact absurd (congrArg ConnectionConfig.busid hconfig) (hentries mc hmem)
  refine ⟨hentries, hstopped, hforwarders, ?_⟩
  intro token hlive as t ht e he hmem
  have hhalting : s.Halting token := by
    obtain ⟨c, m, hm, -⟩ := id hlive
    exact ⟨hstopped token hlive, ⟨c, m⟩, hm⟩
  exact hhalting.halted hs ht he hmem

theorem disconnected_iff_of_step (hs : s.Tracked) {i : ℕ} {busid : String}
    (hok : s.AnswersOk i busid) (h : s.step (.command i (.disconnect busid)) = some t) :
    t.Disconnected busid ↔ s.DisconnectsAll (.command i (.disconnect busid)) := by
  have ht : t.Tracked := hs.step h
  obtain ⟨mc, hmc⟩ := exists_find?_of_answersOk hok
  cases step_cases h with
  | handler a i phase hcmd hfound ha =>
    have hbusid := List.find?_some hmc
    exact absurd (of_decide_eq_true hbusid) (hfound _ _ rfl mc (List.mem_of_find?_eq_some hmc))
  | disconnect i busid mc' phase hfind =>
    obtain rfl := Option.some.inj (hmc.symm.trans hfind)
    constructor
    · intro hgone _
      exact ⟨(forall_eraseP_ne_iff hfind).1 hgone.entries, hgone.forwarders⟩
    · intro hall
      obtain ⟨hone, hforwarders⟩ := hall hok
      exact ht.disconnected ((forall_eraseP_ne_iff hfind).2 hone) hforwarders

/-- **`Disconnect` disconnects exactly when** it finds the only entry for the bus id, and the task
of `import_device` has ended before it. -/
theorem disconnected_iff (configs : List ConnectionConfig) {as : List DaemonEvent}
    (h : run step (start configs) as = some t) :
    (∀ (pre : List DaemonEvent) (i : ℕ) (busid : String) (post : List DaemonEvent) (s u : Daemon),
      as = pre ++ .command i (.disconnect busid) :: post →
      run step (start configs) pre = some s →
      s.step (.command i (.disconnect busid)) = some u → s.AnswersOk i busid →
      u.Disconnected busid) ↔ Along step DisconnectsAll (start configs) as := by
  have htracked {pre s} (hs : run step (start configs) pre = some s) : s.Tracked :=
    run_invariant (fun _ _ _ hs ht => hs.step ht) (tracked_start configs) hs
  rw [along_iff]
  constructor
  · rintro hall pre a post s rfl hs
    unfold DisconnectsAll
    split
    · rename_i i busid
      intro hok
      obtain ⟨s', hs', hrest⟩ := run_append_eq_some.1 h
      obtain rfl := Option.some.inj (hs.symm.trans hs')
      obtain ⟨u, hu, -⟩ := run_cons_eq_some.1 hrest
      exact (disconnected_iff_of_step (htracked hs) hok hu).1
        (hall pre i busid post s u rfl hs hu hok) hok
    · trivial
  · intro hall pre i busid post s u has hs hu hok
    exact (disconnected_iff_of_step (htracked hs) hok hu).2 (hall pre _ post s has hs)

/-- The wheel is disconnected after the forwarding of `import_device` has ended. -/
def disconnectEvents : List DaemonEvent :=
  connectEvents 0 ++ [.forward 0, .forwarded 0 (.ok ()), .command 0 (.disconnect "1-1")]

theorem disconnected_disconnectEvents :
    (run step (start []) disconnectEvents).isSome = true ∧
      ∀ s u, run step (start []) disconnectEvents.dropLast = some s →
        s.step (.command 0 (.disconnect "1-1")) = some u → s.AnswersOk 0 "1-1" →
        u.Disconnected "1-1" := by
  have hsome : (run step (start []) disconnectEvents).isSome = true := by decide +kernel
  obtain ⟨t, ht⟩ := Option.isSome_iff_exists.1 hsome
  refine ⟨hsome, fun s u hs hu hok => ?_⟩
  refine (disconnected_iff [] ht).2 ?_ disconnectEvents.dropLast 0 "1-1" [] s u rfl hs hu hok
  refine .cons trivial rfl (.cons trivial rfl (.cons trivial rfl ?_))
  refine .cons trivial rfl (.cons trivial rfl (.cons (fun _ => ⟨rfl, ?_⟩) rfl trivial))
  rintro (_ | k) ⟨c, phase, hk, -, hphase⟩
  · obtain ⟨-, rfl⟩ := Forwarder.mk.inj (Option.some.inj hk)
    exact hphase rfl
  · cases hk

/-- The wheel is disconnected while `import_device` forwards. -/
def disconnectEarly : List DaemonEvent :=
  connectEvents 0 ++ [.forward 0, .command 0 (.disconnect "1-1")]

/-- The forwarding goes on. -/
theorem not_disconnected_disconnectEarly :
    (run step (start []) disconnectEarly).isSome = true ∧
      ¬∀ (pre : List DaemonEvent) (i : ℕ) (busid : String) (post : List DaemonEvent)
          (s u : Daemon), disconnectEarly = pre ++ .command i (.disconnect busid) :: post →
        run step (start []) pre = some s →
        s.step (.command i (.disconnect busid)) = some u → s.AnswersOk i busid →
        u.Disconnected busid := by
  refine ⟨by decide +kernel, fun hall => ?_⟩
  have hgone := hall disconnectEarly.dropLast 0 "1-1" [] _ _ rfl rfl rfl ⟨_, rfl, rfl⟩
  exact hgone.forwarders 0 ⟨wheelConfig, .forwarding, rfl, rfl, by simp⟩

end Daemon

end AnyPlug
