import AnyPlug.Server.Exclusive

/-!
# The device allowlist

`listExportableDevices` filters the attached devices by the allowlist of the configuration. The
server only uses it for what it advertises: the handlers of `OP_REQ_DEVLIST` and `OP_REQ_IMPORT`
work on all attached devices. So the allowlist is respected on every path only when there is
nothing to filter (`exposed_allowed_iff`), and a request for a device is granted whether or not the
device is on the list (`exists_run_claim`).
-/

namespace AnyPlug

namespace Server

/-- The devices a step of a session exposes, when `devices` are attached: those it lists, the one it
claims, and the one it sends a URB to. -/
def exposed (devices : List UsbIpDeviceEntry) (s : Server) (a : ℕ × Event) :
    List UsbIpDeviceEntry :=
  match (s.sessions a.1).phase, a.2 with
  | .devlist, .devlist listed _ => listed
  | .claim busid _, .claim (.ok ()) => (getDeviceEntry devices busid).toList
  | .submit busid _ _ _, .submit _ _ =>
    if s.shared.handles busid then (getDeviceEntry devices busid).toList else []
  | _, _ => []

/-- The devices the backend reports in a step, if it is asked, are the attached ones. -/
def Reports (devices : List UsbIpDeviceEntry) : ℕ × Event → Prop
  | (_, .devlist listed _) => listed = devices
  | (_, .lookup listed _) => listed = devices
  | _ => True

/-- The device is on the allowlist. -/
def Allowed (config : ServerConfig) (d : UsbIpDeviceEntry) : Prop :=
  (d.vid, d.pid) ∈ config.allowedVidPid

variable {config : ServerConfig} {peer : ℕ → SocketAddr} {devices : List UsbIpDeviceEntry}

/-- What is advertised under an allowlist are the attached devices on it. -/
theorem mem_listExportableDevices (h : config.allowedVidPid ≠ []) {d : UsbIpDeviceEntry} :
    d ∈ listExportableDevices devices config.allowedVidPid ↔ d ∈ devices ∧ Allowed config d := by
  have hempty : config.allowedVidPid.isEmpty = false := by simpa using h
  simp [listExportableDevices, Allowed, hempty]

/-- Only attached devices are exposed. -/
theorem mem_of_mem_exposed {s : Server} {a : ℕ × Event} (ha : Reports devices a)
    {d : UsbIpDeviceEntry} (hd : d ∈ exposed devices s a) : d ∈ devices := by
  obtain ⟨i, e⟩ := a
  unfold exposed at hd
  split at hd
  · rename_i listed r _ he
    obtain rfl : e = .devlist listed r := he
    exact (show listed = devices from ha) ▸ hd
  · exact mem_of_getDeviceEntry (Option.mem_toList.1 hd)
  · split at hd
    · exact mem_of_getDeviceEntry (Option.mem_toList.1 hd)
    · cases hd
  · cases hd

/-- A device list request, up to the list. -/
def devlistEvents : List Event :=
  [.setNodelay (.ok ()), .readHeader (.ok (zeroPad 8 (UsbIpHeader.new opReqDevlist).asBytes))]

/-- Whatever the configuration, a session gets to handle its request. -/
theorem run_header (config : ServerConfig) (peer : SocketAddr) (sh : Shared) (command : UInt16) :
    run (fun (p : Shared × Session) e => p.2.step config peer p.1 e) (sh, ⟨.accepted, none, []⟩)
        [.setNodelay (.ok ()), .readHeader (.ok (zeroPad 8 (UsbIpHeader.new command).asBytes))] =
      some (sh, ⟨if command = opReqDevlist then .devlist
        else if command = opReqImport then .readBusid
        else .returned (.ok ()), none, []⟩) := by
  cases hn : config.tcpNodelay <;>
    simp [run, Session.step, hn, Session.propagate, Session.goto, Session.dispatch_new]

theorem exists_run_devlist (config : ServerConfig) (peer : ℕ → SocketAddr) :
    ∃ s, run (step config peer) init (bySession 0 devlistEvents) = some s ∧
      (s.sessions 0).phase = .devlist := by
  have hrun := run_header config (peer 0) init.shared opReqDevlist
  rw [if_pos rfl] at hrun
  exact ⟨_, run_bySession hrun, by simp⟩

/-- **A request for an attached device is granted, whatever the allowlist**: the session gets to
claim it. -/
theorem exists_run_claim (config : ServerConfig) (peer : ℕ → SocketAddr)
    (devices : List UsbIpDeviceEntry) (busid : Bytes) {d : UsbIpDeviceEntry}
    (hd : getDeviceEntry devices (requestedBusid (zeroPad 32 busid)) = some d) :
    ∃ s, run (step config peer) init
        (bySession 0 (requestEvents busid devices ++ [.check (.ok ())])) = some s ∧
      d ∈ exposed devices s (0, .claim (.ok ())) := by
  have hheader := run_header config (peer 0) init.shared opReqImport
  rw [if_neg (by decide), if_pos rfl] at hheader
  have hrest : run (fun (p : Shared × Session) e => p.2.step config (peer 0) p.1 e)
      (init.shared, ⟨.readBusid, none, []⟩)
      [.readBusid (.ok (zeroPad 32 busid)), .lookup devices (.ok ()), .check (.ok ())] =
      some ({ init.shared with
          exports := Function.update init.shared.exports (requestedBusid (zeroPad 32 busid))
            (some (peer 0, d)) },
        ⟨.claim (requestedBusid (zeroPad 32 busid)) d, some (requestedBusid (zeroPad 32 busid)),
          []⟩) := by
    simp [run, Session.step, init, Session.propagate, Session.goto, hd]
  have hrun := run_append_eq_some.2 ⟨_, hheader, hrest⟩
  exact ⟨_, run_bySession hrun, by simp [exposed, hd]⟩

/-- **The allowlist is respected on every path exactly when every attached device is on it.** Only
what is advertised is always filtered. -/
theorem exposed_allowed_iff (config : ServerConfig) (peer : ℕ → SocketAddr)
    (devices : List UsbIpDeviceEntry) :
    ((∀ as a s t, run (step config peer) init as = some s → s.step config peer a = some t →
        (∀ a' ∈ as ++ [a], Reports devices a') → ∀ d ∈ exposed devices s a, Allowed config d) ↔
      ∀ d ∈ devices, Allowed config d) ∧
      (config.allowedVidPid ≠ [] → ∀ d,
        d ∈ listExportableDevices devices config.allowedVidPid ↔
          d ∈ devices ∧ Allowed config d) := by
  refine ⟨?_, fun h d => mem_listExportableDevices h⟩
  constructor
  · intro h d hd
    obtain ⟨s, hs, hphase⟩ := exists_run_devlist config peer
    have hstep : s.step config peer (0, .devlist devices (.ok ())) =
        some (s.after 0 s.shared ((s.sessions 0).answer (devlistReply devices) (.ok ()))) :=
      step_eq_some.2 ⟨_, _, by simp only [Session.step, hphase], rfl⟩
    refine h _ _ s _ hs hstep ?_ d (by simp [exposed, hphase, hd])
    simp [bySession, devlistEvents, Reports]
  · intro h as a s t _ _ hreports d hd
    exact h d (mem_of_mem_exposed (hreports a (by simp)) hd)

/-- With an allowlist that does not have the wheel on it, the wheel is claimed. -/
theorem exposed_wheel :
    ∃ s, run (step { allowedVidPid := [(0x1234, 0x5678)] } clientAddr) init
        (bySession 0 (requestEvents wheelBusid [wheelEntry] ++ [.check (.ok ())])) = some s ∧
      wheelEntry ∈ exposed [wheelEntry] s (0, .claim (.ok ())) ∧
      ¬Allowed { allowedVidPid := [(0x1234, 0x5678)] } wheelEntry := by
  obtain ⟨s, hs, hd⟩ := exists_run_claim { allowedVidPid := [(0x1234, 0x5678)] } clientAddr
    [wheelEntry] wheelBusid (d := wheelEntry) rfl
  exact ⟨s, hs, hd, by simp [Allowed, UsbIpDeviceEntry.vid, wheelEntry]⟩

end Server

end AnyPlug
