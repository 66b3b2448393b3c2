import AnyPlug.Client.Daemon

/-!
# The status of the daemon

`Status` reports the states that the tasks have written into the list of connections. A task writes
a state when it gets somewhere, and none writes one when it ends. So a report can outlive what it
says: an entry stays `connected` after its forwarding has ended, and `retrying` after its monitor
has been stopped.

`truthful_iff`: the reports are true in every state of a run exactly when, at each step that ends
what a report says, another task makes it true.
-/

namespace AnyPlug

/-- The loop is between a successful import and the end of the forwarding. -/
def MonitorPhase.online : MonitorPhase → Bool
  | .imported | .connected | .forwarding => true
  | _ => false

/-- The loop attempts a connection, or will: past its check it does so even if it is stopped. -/
def MonitorPhase.connects (stopped : Bool) : MonitorPhase → Bool
  | .connecting | .importing => true
  | .top | .waiting | .failed | .delaying | .backingOff => !stopped
  | _ => false

/-- The task of `import_device` starts after a successful import. -/
def ForwarderPhase.online : ForwarderPhase → Bool
  | .spawned | .forwarding => true
  | .ended => false

/-- The state that is reported as retrying. -/
def ConnectionState.retrying : ConnectionState := .error "connection lost, retrying"

namespace ManagedConnection

variable (mc : ManagedConnection)

theorem state_status_eq_connected : mc.status.state = "connected" ↔ mc.state = .connected := by
  unfold status
  split
  · simp_all
  · simp_all
  · simp_all
  · rename_i e he
    rw [he]
    refine iff_of_false ?_ (by simp)
    intro heq
    have hlist := congrArg String.toList heq
    rw [String.toList_append] at hlist
    exact absurd (congrArg List.head? hlist) (by simp)

theorem state_status_eq_retrying :
    mc.status.state = "error: connection lost, retrying" ↔ mc.state = .retrying := by
  unfold status ConnectionState.retrying
  split
  · simp_all
  · simp_all
  · simp_all
  · rename_i e he
    rw [he, ConnectionState.error.injEq]
    change "error: " ++ e = "error: " ++ "connection lost, retrying" ↔ _
    rw [String.append_right_inj]

end ManagedConnection

/-- A task of the daemon. -/
inductive DaemonTask
  | monitor (token : ℕ)
  | forwarder (k : ℕ)

namespace Daemon

/-! ## What is reported -/

/-- The task is between a successful import and the end of the forwarding, for the connection. -/
def OnlineTask (s : Daemon) (c : ConnectionConfig) : DaemonTask → Prop
  | .monitor token => ∃ m, s.monitors token = some ⟨c, m⟩ ∧ m.phase.online = true
  | .forwarder k => ∃ phase, s.forwarders k = some ⟨c, phase⟩ ∧ phase.online = true

/-- The task attempts a connection, or will. The task of `import_device` does not reconnect. -/
def RetryTask (s : Daemon) (c : ConnectionConfig) : DaemonTask → Prop
  | .monitor token =>
    ∃ m, s.monitors token = some ⟨c, m⟩ ∧ m.phase.connects (s.stopped token) = true
  | .forwarder _ => False

def Online (s : Daemon) (c : ConnectionConfig) : Prop := ∃ task, s.OnlineTask c task

def Retrying (s : Daemon) (c : ConnectionConfig) : Prop := ∃ task, s.RetryTask c task

/-- The reports are true. -/
structure Truthful (s : Daemon) : Prop where
  connected : ∀ st ∈ s.statusList, st.state = "connected" → s.Online st.config
  retrying : ∀ st ∈ s.statusList, st.state = "error: connection lost, retrying" →
    s.Retrying st.config

/-- An entry of the connection has the state. -/
def Shows (s : Daemon) (c : ConnectionConfig) (state : ConnectionState) : Prop :=
  ∃ mc ∈ s.connections, mc.config = c ∧ mc.state = state

/-- A task other than this one is online for the connection. -/
def OnlineBut (s : Daemon) (task : DaemonTask) (c : ConnectionConfig) : Prop :=
  ∃ other ≠ task, s.OnlineTask c other

/-- A monitor other than this one retries the connection. -/
def RetryingBut (s : Daemon) (token : ℕ) (c : ConnectionConfig) : Prop :=
  ∃ other ≠ .monitor token, s.RetryTask c other

/-- The monitor is past its check: it attempts a connection even if it is stopped. -/
def Committed (s : Daemon) (token : ℕ) (c : ConnectionConfig) : Prop :=
  ∃ m, s.monitors token = some ⟨c, m⟩ ∧ m.phase.connects true = true

/-- When the step of a monitor ends what a report says, or reports that it retries, the report is
true: of this monitor or of another task. -/
def MonitorKeepsTruth (s : Daemon) (token : ℕ) (c : ConnectionConfig) (m : Monitor) :
    MonitorEvent → Prop
  | .imported (.ok ()) => s.Shows c .retrying → s.RetryingBut token c
  | .imported (.error _) =>
    s.stopped token = true → s.Shows c .retrying → s.RetryingBut token c
  | .ended _ => s.Shows c .connected → s.OnlineBut (.monitor token) c
  | .check | .stop =>
    s.stopped token = true → m.phase.online = true → s.Shows c .connected →
      s.OnlineBut (.monitor token) c
  | .lost delay =>
    c ∈ s.keys → (s.stopped token = false ∧ (delay m.state.nextAttempt).isSome) ∨
      s.RetryingBut token c
  | _ => True

/-- When a step ends what a report says, or makes a report, the report is true: of another task, or
of the task that the report is about. -/
def KeepsTruth (s : Daemon) : DaemonEvent → Prop
  | .enter h => ∀ c device, s.handlers h = .entering c device → s.Online c
  | .forwarded k _ => ∀ c phase, s.forwarders k = some ⟨c, phase⟩ → s.Shows c .connected →
    s.OnlineBut (.forwarder k) c
  | .monitor token e => ∀ c m, s.monitors token = some ⟨c, m⟩ → s.MonitorKeepsTruth token c m e
  | .command _ (.disconnect busid) => ∀ mc,
    s.connections.find? (fun mc => mc.config.busid = busid) = some mc →
    ∀ mc' ∈ s.connections.eraseP fun mc => mc.config.busid = busid, mc'.state = .retrying →
      s.RetryingBut mc.cancelToken mc'.config ∨ s.Committed mc.cancelToken mc'.config
  | .command _ .shutdown | .shutdown => ∀ c, s.Shows c .retrying → ∃ token, s.Committed token c
  | _ => True

variable {s t : Daemon} {a : DaemonEvent}

theorem truthful_iff_shows :
    s.Truthful ↔ (∀ c, s.Shows c .connected → s.Online c) ∧
      ∀ c, s.Shows c .retrying → s.Retrying c := by
  constructor
  · rintro ⟨hconnected, hretrying⟩
    constructor
    · rintro c ⟨mc, hmc, rfl, hstate⟩
      exact hconnected mc.status (List.mem_map_of_mem hmc) (mc.state_status_eq_connected.2 hstate)
    · rintro c ⟨mc, hmc, rfl, hstate⟩
      exact hretrying mc.status (List.mem_map_of_mem hmc) (mc.state_status_eq_retrying.2 hstate)
  · rintro ⟨hconnected, hretrying⟩
    constructor
    · intro st hst hstate
      obtain ⟨mc, hmc, rfl⟩ := List.mem_map.1 hst
      exact hconnected mc.config ⟨mc, hmc, rfl, mc.state_status_eq_connected.1 hstate⟩
    · intro st hst hstate
      obtain ⟨mc, hmc, rfl⟩ := List.mem_map.1 hst
      exact hretrying mc.config ⟨mc, hmc, rfl, mc.state_status_eq_retrying.1 hstate⟩

/-- Fewer reports and more tasks keep the reports true. -/
theorem Truthful.mono (hs : s.Truthful) (hshows : ∀ c state, t.Shows c state → s.Shows c state)
    (honline : ∀ c, s.Online c → t.Online c) (hretrying : ∀ c, s.Retrying c → t.Retrying c) :
    t.Truthful := by
  rw [truthful_iff_shows] at hs ⊢
  exact ⟨fun c hc => honline c (hs.1 c (hshows c _ hc)),
    fun c hc => hretrying c (hs.2 c (hshows c _ hc))⟩

/-! ## The steps of a monitor -/

theorem exists_iff_of_forall_ne {α : Type*} {p q : α → Prop} {a : α} (h : ∀ x ≠ a, p x ↔ q x) :
    (∃ x, p x) ↔ (∃ x ≠ a, q x) ∨ p a := by
  constructor
  · rintro ⟨x, hx⟩
    by_cases hxa : x = a
    · exact .inr (hxa ▸ hx)
    · exact .inl ⟨x, hxa, (h x hxa).1 hx⟩
  · rintro (⟨x, hxa, hx⟩ | ha)
    · exact ⟨x, (h x hxa).2 hx⟩
    · exact ⟨a, ha⟩

section Monitor

variable {token : ℕ} {c : ConnectionConfig} {m n : Monitor} {e : MonitorEvent}
  {w : Option ConnectionState}

theorem exists_update_self_iff {Q : Monitor → Prop} {c' : ConnectionConfig} :
    (∃ m, Function.update s.monitors token (some ⟨c, n⟩) token = some ⟨c', m⟩ ∧ Q m) ↔
      c' = c ∧ Q n := by
  simp only [Function.update_self, Option.some.injEq, MonitorTask.mk.injEq]
  constructor
  · rintro ⟨m, ⟨rfl, rfl⟩, hQ⟩
    exact ⟨rfl, hQ⟩
  · rintro ⟨rfl, hQ⟩
    exact ⟨n, ⟨rfl, rfl⟩, hQ⟩

theorem online_afterMonitor (c' : ConnectionConfig) : (s.afterMonitor token c n w).Online c' ↔
    s.OnlineBut (.monitor token) c' ∨ c' = c ∧ n.phase.online = true := by
  have hself : (s.afterMonitor token c n w).OnlineTask c' (.monitor token) ↔
      c' = c ∧ n.phase.online = true := exists_update_self_iff
  rw [← hself]
  refine exists_iff_of_forall_ne ?_
  rintro (token' | k) hne
  · have hne' : token' ≠ token := fun h => hne (h ▸ rfl)
    simp only [OnlineTask, afterMonitor, Function.update_of_ne hne']
  · rfl

theorem retrying_afterMonitor (c' : ConnectionConfig) :
    (s.afterMonitor token c n w).Retrying c' ↔
      s.RetryingBut token c' ∨ c' = c ∧ n.phase.connects (s.stopped token) = true := by
  have hself : (s.afterMonitor token c n w).RetryTask c' (.monitor token) ↔
      c' = c ∧ n.phase.connects (s.stopped token) = true := exists_update_self_iff
  rw [← hself]
  refine exists_iff_of_forall_ne ?_
  rintro (token' | k) hne
  · have hne' : token' ≠ token := fun h => hne (h ▸ rfl)
    simp only [RetryTask, afterMonitor, stopped, Function.update_of_ne hne']
  · rfl

theorem afterMonitor_self (hm : s.monitors token = some ⟨c, m⟩) :
    s.afterMonitor token c m none = s := by
  rw [afterMonitor, Function.update_eq_self_iff.2 hm.symm]
  rfl

theorem online_iff_but (hm : s.monitors token = some ⟨c, m⟩) (c' : ConnectionConfig) :
    s.Online c' ↔ s.OnlineBut (.monitor token) c' ∨ c' = c ∧ m.phase.online = true := by
  rw [← online_afterMonitor, afterMonitor_self hm]

theorem retrying_iff_but (hm : s.monitors token = some ⟨c, m⟩) (c' : ConnectionConfig) :
    s.Retrying c' ↔
      s.RetryingBut token c' ∨ c' = c ∧ m.phase.connects (s.stopped token) = true := by
  rw [← retrying_afterMonitor, afterMonitor_self hm]

/-- What is said of connections, and was true of one of them because of a monitor, stays true
exactly when another task makes it so if the monitor ceases to. -/
theorem forall_or_iff {shows but : ConnectionConfig → Prop} {old new : Bool}
    (h : ∀ c', shows c' → but c' ∨ c' = c ∧ old = true) :
    (∀ c', shows c' → but c' ∨ c' = c ∧ new = true) ↔
      (old = true → new = false → shows c → but c) := by
  constructor
  · intro hall _ hnew hc
    refine (hall c hc).resolve_right ?_
    rw [hnew]
    simp
  · intro himp c' hc'
    rcases h c' hc' with hbut | ⟨rfl, hold⟩
    · exact .inl hbut
    · cases hnew : new with
      | false => exact .inl (himp hold hnew hc')
      | true => exact .inr ⟨rfl, rfl⟩

/-- A step of a monitor that writes nothing keeps the reports true exactly when, if the monitor
ceases to be what its entry says, another task is. -/
theorem truthful_afterMonitor_none (hs : s.Truthful) (hm : s.monitors token = some ⟨c, m⟩) :
    (s.afterMonitor token c n none).Truthful ↔
      (m.phase.online = true → n.phase.online = false → s.Shows c .connected →
        s.OnlineBut (.monitor token) c) ∧
      (m.phase.connects (s.stopped token) = true → n.phase.connects (s.stopped token) = false →
        s.Shows c .retrying → s.RetryingBut token c) := by
  rw [truthful_iff_shows] at hs ⊢
  simp only [online_iff_but hm, retrying_iff_but hm] at hs
  simp only [online_afterMonitor, retrying_afterMonitor]
  exact and_congr (forall_or_iff hs.1) (forall_or_iff hs.2)

/-! ## What a monitor writes -/

theorem mem_setState {state : ConnectionState} {l : List ManagedConnection}
    {mc : ManagedConnection} (h : mc ∈ setState c state l) :
    mc ∈ l ∨ mc.config = c ∧ mc.state = state := by
  induction l with
  | nil => cases h
  | cons x l ih =>
    unfold setState at h
    split at h
    · rename_i hx
      rcases List.mem_cons.1 h with rfl | h
      · exact .inr ⟨hx, rfl⟩
      · exact .inl (List.mem_cons_of_mem x h)
    · rcases List.mem_cons.1 h with rfl | h
      · exact .inl List.mem_cons_self
      · exact (ih h).imp_left (List.mem_cons_of_mem x)

theorem exists_mem_setState_of_mem {state : ConnectionState} {l : List ManagedConnection}
    (h : c ∈ l.map ManagedConnection.config) :
    ∃ mc ∈ setState c state l, mc.config = c ∧ mc.state = state := by
  induction l with
  | nil => cases h
  | cons x l ih =>
    unfold setState
    split
    · exact ⟨_, List.mem_cons_self, ‹_›, rfl⟩
    · rename_i hx
      rcases List.mem_cons.1 h with rfl | h
      · exact absurd rfl hx
      · obtain ⟨mc, hmc, hstate⟩ := ih h
        exact ⟨mc, List.mem_cons_of_mem x hmc, hstate⟩

theorem shows_afterMonitor {state state' : ConnectionState} {c' : ConnectionConfig}
    (h : (s.afterMonitor token c n (some state)).Shows c' state') :
    s.Shows c' state' ∨ c' = c ∧ state' = state ∧ c ∈ s.keys := by
  obtain ⟨mc, hmc, rfl, rfl⟩ := h
  have hkey : mc.config ∈ s.keys := by
    rw [keys, ← map_config_setState c state]
    exact List.mem_map_of_mem hmc
  rcases mem_setState hmc with hmem | ⟨hconfig, hstate⟩
  · exact .inl ⟨mc, hmem, rfl, rfl⟩
  · exact .inr ⟨hconfig, hstate, hconfig ▸ hkey⟩

theorem Shows.mem_keys {state : ConnectionState} (h : s.Shows c state) : c ∈ s.keys := by
  obtain ⟨mc, hmc, rfl, -⟩ := h
  exact List.mem_map_of_mem hmc

/-- A monitor may write what it is, and what is not a report. -/
theorem truthful_write {state : ConnectionState} (hs : s.Truthful)
    (hm : s.monitors token = some ⟨c, m⟩) (hon : m.phase.online = n.phase.online)
    (hconnects : ∀ stopped, m.phase.connects stopped = n.phase.connects stopped)
    (hconnected : state = .connected → n.phase.online = true) (hretrying : state ≠ .retrying) :
    (s.afterMonitor token c n (some state)).Truthful := by
  rw [truthful_iff_shows] at hs ⊢
  simp only [online_iff_but hm, retrying_iff_but hm, hon, hconnects] at hs
  simp only [online_afterMonitor, retrying_afterMonitor]
  constructor
  · intro c' hc'
    obtain hold | ⟨rfl, hstate, -⟩ := shows_afterMonitor hc'
    · exact hs.1 c' hold
    · exact .inr ⟨rfl, hconnected hstate.symm⟩
  · intro c' hc'
    obtain hold | ⟨-, hstate, -⟩ := shows_afterMonitor hc'
    · exact hs.2 c' hold
    · exact absurd hstate.symm hretrying

theorem truthful_lost_iff (hs : s.Truthful) (hm : s.monitors token = some ⟨c, m⟩)
    (hp : m.phase = .failed) (hoff : n.phase.online = false) :
    (s.afterMonitor token c n (some .retrying)).Truthful ↔
      (c ∈ s.keys → n.phase.connects (s.stopped token) = true ∨ s.RetryingBut token c) := by
  rw [truthful_iff_shows] at hs ⊢
  simp only [online_iff_but hm, retrying_iff_but hm, hp] at hs
  simp only [online_afterMonitor, retrying_afterMonitor, hoff]
  constructor
  · rintro ⟨-, hretrying⟩ hc
    rcases hretrying c (exists_mem_setState_of_mem hc) with hbut | ⟨-, hn⟩
    · exact .inr hbut
    · exact .inl hn
  · intro hretry
    have hc (hc : c ∈ s.keys) :
        s.RetryingBut token c ∨ c = c ∧ n.phase.connects (s.stopped token) = true :=
      (hretry hc).symm.imp_right fun hn => ⟨rfl, hn⟩
    constructor
    · intro c' hc'
      obtain hold | ⟨-, hstate, -⟩ := shows_afterMonitor hc'
      · exact hs.1 c' hold
      · cases hstate
    · intro c' hc'
      obtain hold | ⟨rfl, -, hkey⟩ := shows_afterMonitor hc'
      · rcases hs.2 c' hold with hbut | ⟨rfl, -⟩
        · exact .inl hbut
        · exact hc hold.mem_keys
      · exact hc hkey

theorem truthful_monitor_iff (hs : s.Truthful) (hm : s.monitors token = some ⟨c, m⟩)
    (hstep : Monitor.Step (s.stopped token) m e n w) :
    (s.afterMonitor token c n w).Truthful ↔ s.MonitorKeepsTruth token c m e := by
  cases hstep with
  | connect hp =>
    refine iff_of_true (truthful_write hs hm ?_ ?_ (by simp) ?_) trivial
    · rw [hp]
      rfl
    · intro stopped
      rw [hp]
      rfl
    · simp [ConnectionState.retrying]
  | establish hp =>
    refine iff_of_true (truthful_write hs hm ?_ ?_ (fun _ => rfl) ?_) trivial
    · rw [hp]
      rfl
    · intro stopped
      rw [hp]
      rfl
    · simp [ConnectionState.retrying]
  | retry delay d hp hd =>
    refine (truthful_lost_iff hs hm hp rfl).trans ?_
    simp [MonitorKeepsTruth, MonitorPhase.connects, hd]
  | panic delay hp hd =>
    refine (truthful_lost_iff hs hm hp rfl).trans ?_
    simp [MonitorKeepsTruth, MonitorPhase.connects, hd, Monitor.goto]
  | attach hp =>
    rw [truthful_afterMonitor_none hs hm, hp]
    simp [MonitorKeepsTruth, MonitorPhase.connects, MonitorPhase.online, Monitor.goto]
  | refuse err hp =>
    rw [truthful_afterMonitor_none hs hm, hp]
    simp [MonitorKeepsTruth, MonitorPhase.connects, MonitorPhase.online, Monitor.goto]
  | finish hp =>
    rw [truthful_afterMonitor_none hs hm, hp]
    simp [MonitorKeepsTruth, MonitorPhase.connects, MonitorPhase.online, Monitor.goto]
  | drop err hp =>
    rw [truthful_afterMonitor_none hs hm, hp]
    simp [MonitorKeepsTruth, MonitorPhase.connects, MonitorPhase.online, Monitor.goto]
  | halt hp hstop =>
    rw [truthful_afterMonitor_none hs hm, MonitorKeepsTruth, hstop]
    rcases hp with hp | hp | hp <;>
      simp [hp, MonitorPhase.connects, MonitorPhase.online, Monitor.goto]
  | leave hp hstop =>
    rw [truthful_afterMonitor_none hs hm, MonitorKeepsTruth, hstop]
    rcases hp with hp | hp | hp <;>
      simp [hp, MonitorPhase.connects, MonitorPhase.online, Monitor.goto]
  | pause hp hstop | forward hp hstop | backOff hp hstop =>
    rw [truthful_afterMonitor_none hs hm, MonitorKeepsTruth, hstop, hp]
    simp [MonitorPhase.connects, MonitorPhase.online, Monitor.goto]
  | goOn hp | again hp =>
    rw [truthful_afterMonitor_none hs hm, hp]
    simp +contextual [MonitorKeepsTruth, MonitorPhase.connects, MonitorPhase.online, Monitor.goto]

end Monitor

/-! ## The other steps -/

/-- Forwarders are not used twice. -/
def FreshForwarder (s : Daemon) : Prop := ∀ k, s.nextForwarder ≤ k → s.forwarders k = none

theorem FreshForwarder.step (hs : s.FreshForwarder) (h : s.step a = some t) :
    t.FreshForwarder := by
  intro j hj
  cases step_cases h with
  | imported i c device r =>
    change s.nextForwarder + 1 ≤ j at hj
    change Function.update s.forwarders s.nextForwarder _ j = none
    rw [Function.update_of_ne (by omega)]
    exact hs j (by omega)
  | forward k c hk | forwarded k c r hk =>
    change Function.update s.forwarders k _ j = none
    have hnone := hs j hj
    rw [Function.update_of_ne, hnone]
    rintro rfl
    rw [hk] at hnone
    cases hnone
  | handler _ _ _ _ _ _ | disconnect _ _ _ _ _ | shutdownCommand _ _ | enter _ _ _ _ _
  | monitor _ _ _ _ _ _ _ _ | shutdown => exact hs j hj

/-- The daemon after a step of the task of `import_device`. -/
def afterForwarder (s : Daemon) (k : ℕ) (c : ConnectionConfig) (phase : ForwarderPhase) : Daemon :=
  { s with forwarders := Function.update s.forwarders k (some ⟨c, phase⟩) }

section Forwarder

variable {k : ℕ} {c : ConnectionConfig} {old new : ForwarderPhase}

theorem online_afterForwarder (c' : ConnectionConfig) : (s.afterForwarder k c new).Online c' ↔
    s.OnlineBut (.forwarder k) c' ∨ c' = c ∧ new.online = true := by
  have hself : (s.afterForwarder k c new).OnlineTask c' (.forwarder k) ↔
      c' = c ∧ new.online = true := by
    simp only [OnlineTask, afterForwarder, Function.update_self, Option.some.injEq,
      Forwarder.mk.injEq]
    constructor
    · rintro ⟨phase, ⟨rfl, rfl⟩, honline⟩
      exact ⟨rfl, honline⟩
    · rintro ⟨rfl, honline⟩
      exact ⟨new, ⟨rfl, rfl⟩, honline⟩
  rw [← hself]
  refine exists_iff_of_forall_ne ?_
  rintro (token | k') hne
  · rfl
  · have hne' : k' ≠ k := fun h => hne (h ▸ rfl)
    simp only [OnlineTask, afterForwarder, Function.update_of_ne hne']

theorem online_iff_but_forwarder (hk : s.forwarders k = some ⟨c, old⟩) (c' : ConnectionConfig) :
    s.Online c' ↔ s.OnlineBut (.forwarder k) c' ∨ c' = c ∧ old.online = true := by
  rw [← online_afterForwarder, afterForwarder, Function.update_eq_self_iff.2 hk.symm]

theorem truthful_forwarder_iff (hs : s.Truthful) (hk : s.forwarders k = some ⟨c, old⟩) :
    (s.afterForwarder k c new).Truthful ↔
      (old.online = true → new.online = false → s.Shows c .connected →
        s.OnlineBut (.forwarder k) c) := by
  rw [truthful_iff_shows] at hs ⊢
  simp only [online_iff_but_forwarder hk] at hs
  simp only [online_afterForwarder]
  exact (and_iff_left hs.2).trans (forall_or_iff hs.1)

end Forwarder

/-- A new task of `import_device` takes nothing away. -/
theorem truthful_spawnForwarder (hfresh : s.FreshForwarder) (hs : s.Truthful)
    (c : ConnectionConfig) : (s.spawnForwarder c).Truthful := by
  refine hs.mono (fun _ _ h => h) ?_ (fun _ h => h)
  rintro c' ⟨task, htask⟩
  refine (online_afterForwarder c').2 (.inl ⟨task, ?_, htask⟩)
  rintro rfl
  obtain ⟨phase, hk, -⟩ := htask
  rw [hfresh _ le_rfl] at hk
  cases hk

theorem online_manage (htracked : s.Tracked) {c c' : ConnectionConfig} :
    (s.manage c).Online c' ↔ s.Online c' := by
  have hnone : s.monitors s.nextToken = none := htracked.fresh le_rfl
  refine exists_congr ?_
  rintro (token | k)
  · simp only [OnlineTask, manage, Function.update_apply]
    split
    · rename_i htoken
      rw [htoken, hnone]
      simp [Monitor.start, MonitorPhase.online]
    · rfl
  · rfl

theorem Retrying.manage (htracked : s.Tracked) {c c' : ConnectionConfig} (h : s.Retrying c') :
    (s.manage c).Retrying c' := by
  obtain ⟨token | k, htask⟩ := h
  · have hne : token ≠ s.nextToken := by
      rintro rfl
      obtain ⟨m, hm, -⟩ := htask
      rw [htracked.fresh le_rfl] at hm
      cases hm
    refine ⟨.monitor token, ?_⟩
    simpa only [RetryTask, Daemon.manage, stopped, Function.update_of_ne hne] using htask
  · cases htask

/-- A new entry is reported as connected: some task must be online for it. -/
theorem truthful_manage_iff (htracked : s.Tracked) (hs : s.Truthful) (c : ConnectionConfig) :
    (s.manage c).Truthful ↔ s.Online c := by
  have hshows {c' state} : (s.manage c).Shows c' state ↔
      s.Shows c' state ∨ c = c' ∧ .connected = state := by
    simp [Shows, manage, or_and_right, exists_or]
  rw [truthful_iff_shows] at hs ⊢
  constructor
  · rintro ⟨hconnected, -⟩
    exact (online_manage htracked).1 (hconnected c (hshows.2 (.inr ⟨rfl, rfl⟩)))
  · intro honline
    constructor
    · intro c' hc'
      rw [online_manage htracked]
      rcases hshows.1 hc' with hold | ⟨rfl, -⟩
      · exact hs.1 c' hold
      · exact honline
    · intro c' hc'
      rcases hshows.1 hc' with hold | ⟨-, hstate⟩
      · exact (hs.2 c' hold).manage htracked
      · cases hstate

theorem truthful_remove_iff (hs : s.Truthful) (busid : String) (token : ℕ) :
    (s.remove busid token).Truthful ↔
      ∀ mc ∈ s.connections.eraseP fun mc => mc.config.busid = busid, mc.state = .retrying →
        s.RetryingBut token mc.config ∨ s.Committed token mc.config := by
  have hself (c) : (s.remove busid token).RetryTask c (.monitor token) ↔ s.Committed token c := by
    simp [RetryTask, Committed, remove, stopped]
  have hothers (c) : ∀ other ≠ .monitor token,
      (s.remove busid token).RetryTask c other ↔ s.RetryTask c other := by
    rintro (token' | k) hne
    · have hne' : token' ≠ token := fun h => hne (h ▸ rfl)
      simp only [RetryTask, remove, stopped, Function.update_of_ne hne']
    · rfl
  have hretrying (c) : (s.remove busid token).Retrying c ↔
      s.RetryingBut token c ∨ s.Committed token c := by
    rw [← hself]
    exact exists_iff_of_forall_ne (hothers c)
  rw [truthful_iff_shows] at hs ⊢
  constructor
  · rintro ⟨-, hall⟩ mc hmc hstate
    exact (hretrying _).1 (hall mc.config ⟨mc, hmc, rfl, hstate⟩)
  · intro hall
    constructor
    · rintro c ⟨mc, hmc, hshows⟩
      exact hs.1 c ⟨mc, List.mem_of_mem_eraseP hmc, hshows⟩
    · rintro c ⟨mc, hmc, rfl, hstate⟩
      exact (hretrying _).2 (hall mc hmc hstate)

theorem truthful_shutdown_iff (hs : s.Truthful) :
    { s with shutdown := true }.Truthful ↔
      ∀ c, s.Shows c .retrying → ∃ token, s.Committed token c := by
  have hretrying (c) : { s with shutdown := true }.Retrying c ↔ ∃ token, s.Committed token c := by
    constructor
    · rintro ⟨token | k, htask⟩
      · refine ⟨token, ?_⟩
        simpa [RetryTask, Committed, stopped] using htask
      · cases htask
    · rintro ⟨token, htask⟩
      refine ⟨.monitor token, ?_⟩
      simpa [RetryTask, Committed, stopped] using htask
  rw [truthful_iff_shows] at hs ⊢
  simp only [hretrying]
  exact and_iff_right hs.1

theorem truthful_setHandler {i : ℕ} {phase : HandlerPhase} :
    (s.setHandler i phase).Truthful ↔ s.Truthful :=
  ⟨fun h => ⟨h.connected, h.retrying⟩, fun h => ⟨h.connected, h.retrying⟩⟩

theorem truthful_step_iff (htracked : s.Tracked) (hfresh : s.FreshForwarder) (hs : s.Truthful)
    (h : s.step a = some t) : t.Truthful ↔ s.KeepsTruth a := by
  cases step_cases h with
  | handler a i phase hcmd hfound ha =>
    refine iff_of_true (truthful_setHandler.2 hs) ?_
    obtain ⟨j, cmd, rfl⟩ | ⟨_, _, rfl⟩ | ⟨_, rfl⟩ := ha
    · cases cmd with
      | connect c => trivial
      | disconnect busid =>
        intro mc hmc
        have hbusid := List.find?_some hmc
        exact absurd (of_decide_eq_true hbusid) (hfound _ _ rfl mc (List.mem_of_find?_eq_some hmc))
      | status => trivial
      | shutdown => exact absurd rfl (hcmd _ _ rfl)
    · trivial
    · trivial
  | disconnect i busid mc phase hfind =>
    rw [truthful_setHandler, truthful_remove_iff hs]
    constructor
    · intro hall mc' hmc'
      obtain rfl := Option.some.inj (hfind.symm.trans hmc')
      exact hall
    · intro hall
      exact hall mc hfind
  | shutdownCommand i phase => exact truthful_setHandler.trans (truthful_shutdown_iff hs)
  | imported i c device r =>
    exact iff_of_true (truthful_setHandler.2 (truthful_spawnForwarder hfresh hs c)) trivial
  | enter i c device phase hh =>
    rw [truthful_setHandler, truthful_manage_iff htracked hs]
    constructor
    · intro honline c' device' hh'
      obtain ⟨rfl, -⟩ := HandlerPhase.entering.inj (hh.symm.trans hh')
      exact honline
    · intro hall
      exact hall c device hh
  | monitor token e c m n w hm hstep =>
    refine (truthful_monitor_iff hs hm hstep).trans ?_
    constructor
    · intro hkeeps c' m' hm'
      obtain ⟨rfl, rfl⟩ := MonitorTask.mk.inj (Option.some.inj (hm.symm.trans hm'))
      exact hkeeps
    · intro hall
      exact hall c m hm
  | forward k c hk =>
    refine iff_of_true ((truthful_forwarder_iff hs hk).2 ?_) trivial
    intro _ hended
    cases hended
  | forwarded k c r hk =>
    refine (truthful_forwarder_iff hs hk).trans ?_
    constructor
    · intro himp c' phase' hk'
      obtain ⟨rfl, rfl⟩ := Forwarder.mk.inj (Option.some.inj (hk.symm.trans hk'))
      exact himp rfl rfl
    · intro hall _ _
      exact hall c _ hk
  | shutdown => exact truthful_shutdown_iff hs

theorem truthful_start (configs : List ConnectionConfig) : (start configs).Truthful := by
  have hstate (mc) (hmc : mc ∈ (start configs).connections) : mc.state = .disconnected := by
    obtain ⟨i, hi, rfl⟩ := List.mem_mapIdx.1 hmc
    rfl
  rw [truthful_iff_shows]
  constructor
  · rintro c ⟨mc, hmc, -, hconnected⟩
    rw [hstate mc hmc] at hconnected
    cases hconnected
  · rintro c ⟨mc, hmc, -, hretrying⟩
    rw [hstate mc hmc] at hretrying
    cases hretrying

/-- **The reports are true in every state exactly when**, at each step that ends what a report says,
or makes one, a task is what it says. -/
theorem truthful_iff (configs : List ConnectionConfig) {as : List DaemonEvent}
    (h : run step (start configs) as = some t) :
    Throughout step Truthful (start configs) as ↔ Along step KeepsTruth (start configs) as := by
  refine throughout_iff_along (I := fun s => s.Tracked ∧ s.FreshForwarder) ?_ ?_
    ⟨tracked_start configs, fun _ _ => rfl⟩ (truthful_start configs) h
  · intro s a t hs _ ht
    exact ⟨hs.1.step ht, hs.2.step ht⟩
  · intro s a t hI hs ht
    exact truthful_step_iff hI.1 hI.2 hs ht

theorem truthful_connectEvents :
    (run step (start []) (connectEvents 0)).isSome = true ∧
      Throughout step Truthful (start []) (connectEvents 0) := by
  have hsome : (run step (start []) (connectEvents 0)).isSome = true := by decide +kernel
  obtain ⟨t, ht⟩ := Option.isSome_iff_exists.1 hsome
  refine ⟨hsome, (truthful_iff [] ht).2 ?_⟩
  refine .cons trivial rfl (.cons trivial rfl (.cons ?_ rfl trivial))
  intro c device hh
  obtain ⟨rfl, -⟩ := HandlerPhase.entering.inj hh
  exact ⟨.forwarder 0, .spawned, rfl, rfl⟩

/-- The monitor of a connection imports the device again, and both forwardings end. -/
def endedEvents : List DaemonEvent :=
  connectEvents 0 ++ [.forward 0, .monitor 0 .check, .monitor 0 .elapsed, .monitor 0 .mark,
    .monitor 0 (.imported (.ok ())), .monitor 0 .mark, .monitor 0 .check,
    .forwarded 0 (.ok ()), .monitor 0 (.ended (.ok ()))]

/-- The connection is reported as connected, and no task is left. -/
theorem not_truthful_endedEvents :
    (run step (start []) endedEvents).isSome = true ∧
      ¬Throughout step Truthful (start []) endedEvents := by
  have hsome : (run step (start []) endedEvents).isSome = true := by decide +kernel
  obtain ⟨t, ht⟩ := Option.isSome_iff_exists.1 hsome
  refine ⟨hsome, fun hall => ?_⟩
  have htruthful := hall.last ht
  obtain rfl := Option.some.inj ht
  obtain ⟨task, htask⟩ :=
    htruthful.connected ⟨wheelConfig, "connected", none⟩ List.mem_cons_self rfl
  rcases task with token | k
  · obtain ⟨m, hm, honline⟩ := htask
    rcases token with _ | token
    · obtain ⟨-, rfl⟩ := MonitorTask.mk.inj (Option.some.inj hm)
      cases honline
    · cases hm
  · obtain ⟨phase, hk, honline⟩ := htask
    rcases k with _ | k
    · obtain ⟨-, rfl⟩ := Forwarder.mk.inj (Option.some.inj hk)
      cases honline
    · cases hk

end Daemon

end AnyPlug
