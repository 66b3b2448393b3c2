import AnyPlug.Foundations.Transition
import AnyPlug.Server.UrbLoop

/-!
# Sessions

A session is one run of `handle_client` (`usbip-server/src/server.rs`): it answers one device list
request, or imports a device and stays in the URB loop until the client leaves. Any number of
sessions run at once; they share the map of exports and the set of claimed devices.

`Session.step` is one atomic step of a session. Its event carries the answers the step gets: what
was read, which devices are attached, what the device said, whether a write succeeded. A `?` of the
source is `Session.propagate`: go on with the value, or return the error at once. `Server.step`
interleaves the sessions.

`Session.step_cases` says once what a step can do to the shared maps. All invariants of the
sessions derive from it.
-/

namespace AnyPlug

/-! ## State -/

inductive IpAddr
  | v4 (octets : Vector UInt8 4)
  | v6 (segments : Vector UInt16 8)
  deriving DecidableEq

structure SocketAddr where
  ip : IpAddr
  port : UInt16
  deriving DecidableEq

/-- The settings that `handle_client` and the device manager are given. -/
structure ServerConfig where
  allowedVidPid : List (UInt16 × UInt16) := []
  encryptionEnabled : Bool := false
  tcpNodelay : Bool := true

/-- What the sessions share: the exports, and the bus ids the device manager has claimed. -/
structure Shared where
  exports : String → Option (SocketAddr × UsbIpDeviceEntry)
  handles : String → Bool

/-- Where a session stands, with its local variables. -/
inductive Phase
  | accepted
  | readHeader
  | devlist
  | readBusid
  | lookup (busid : String)
  | check (busid : String) (entry : UsbIpDeviceEntry)
  | claim (busid : String) (entry : UsbIpDeviceEntry)
  | describe (busid : String) (entry : UsbIpDeviceEntry)
  | reply (busid : String) (entry : UsbIpDeviceEntry) (tree : Bytes)
  | install (busid : String)
  | urbLoop (busid : String) (bt : UrbBatcher)
  | submit (busid : String) (bt : UrbBatcher) (cmd : UsbIpCmdSubmit) (data : Bytes)
  | write (busid : String) (bt : UrbBatcher) (batch : Bytes)
  | flush (busid : String) (bt : UrbBatcher)
  | release (busid : String)
  | remove (busid : String)
  | returned (result : UsbIpResult Unit)

structure Session where
  phase : Phase
  /-- The bus id that the session has entered into the exports. -/
  entered : Option String
  /-- What the session has handed to its socket or wire. -/
  sent : List Bytes

/-- A step of a session, with the answers it gets. -/
inductive Event
  | setNodelay (r : UsbIpResult Unit)
  | readHeader (r : UsbIpResult (Vector UInt8 8))
  /-- The attached devices, and the outcome of writing the list. -/
  | devlist (devices : List UsbIpDeviceEntry) (r : UsbIpResult Unit)
  | readBusid (r : UsbIpResult (Vector UInt8 32))
  /-- The attached devices, and the outcome of writing that there is no such device. -/
  | lookup (devices : List UsbIpDeviceEntry) (r : UsbIpResult Unit)
  /-- The outcome of writing that the device is busy. -/
  | check (r : UsbIpResult Unit)
  | claim (r : UsbIpResult Unit)
  | describe (r : UsbIpResult Bytes)
  | reply (r : UsbIpResult Unit)
  | install (r : UsbIpResult Unit)
  | readMessage (r : UsbIpResult Bytes)
  /-- The answer of the backend to a URB, and the clock reading when its reply is pushed. -/
  | submit (r : UsbIpResult UrbTransferResult) (now : ℕ)
  | write (r : UsbIpResult Unit)
  | flush (r : UsbIpResult Unit)
  | release (r : UsbIpResult Unit)
  | remove

/-! ## Messages -/

/-- The reply to `OP_REQ_DEVLIST`. -/
def devlistReply (devices : List UsbIpDeviceEntry) : Bytes :=
  (UsbIpHeader.new opRepDevlist).asBytes ++ FixedCodec.u32be.encode (UInt32.ofNat devices.length) ++
    devices.flatMap UsbIpDeviceEntry.asBytes

/-- The reply to `OP_REQ_IMPORT` for a device that is not there. -/
def nodevReply : Bytes := (UsbIpHeader.withStatus opRepImport statusStNodev).asBytes

/-- The reply to `OP_REQ_IMPORT` for a device that is exported. -/
def busyReply : Bytes := (UsbIpHeader.withStatus opRepImport statusStDevBusy).asBytes

/-- The reply to a successful `OP_REQ_IMPORT`. -/
def importReply (entry : UsbIpDeviceEntry) (tree : Bytes) : Bytes :=
  (UsbIpHeader.new opRepImport).asBytes ++ entry.asBytes ++ tree

/-- The bus id of an `OP_REQ_IMPORT`, up to the first zero byte. -/
def requestedBusid (buf : Vector UInt8 32) : String := fromUtf8Lossy (beforeNul buf.toList)

/-! ## Steps -/

namespace Session

def send (ses : Session) (bytes : Bytes) : Session := { ses with sent := ses.sent ++ [bytes] }

def goto (ses : Session) (phase : Phase) : Session := { ses with phase := phase }

/-- Return an error. -/
def fail (ses : Session) (e : ErrorKind) : Session := ses.goto (.returned (.error e))

/-- Go on with a value, or return the error at once. -/
def propagate {α : Type} (ses : Session) (r : UsbIpResult α) (next : α → Phase) : Session :=
  match r with
  | .ok a => ses.goto (next a)
  | .error e => ses.fail e

/-- Write a reply that ends the session. -/
def answer (ses : Session) (reply : Bytes) (r : UsbIpResult Unit) : Session :=
  (ses.send reply).propagate r fun _ => .returned (.ok ())

/-- What a session does after the header of its request. -/
def dispatch (header : Vector UInt8 8) : Phase :=
  match UsbIpHeader.readFromPrefix header.toList with
  | none => .returned (.error (.protocol "invalid header"))
  | some (h, _) =>
    if h.command = opReqDevlist then .devlist
    else if h.command = opReqImport then .readBusid
    else .returned (.ok ())

/-- What the URB loop does after a read. -/
def afterRead (busid : String) (bt : UrbBatcher) : UsbIpResult Bytes → Phase
  | .error _ => .flush busid bt
  | .ok frame =>
    match decodeFrame frame with
    | .leave => .flush busid bt
    | .unknown => .urbLoop busid bt
    | .submit cmd data => .submit busid bt cmd data

/-- What the URB loop does after the reply to a URB was pushed. -/
def afterPush (busid : String) : UrbBatcher × Option Bytes → Phase
  | (bt, none) => .urbLoop busid bt
  | (bt, some batch) => .write busid bt batch

/-- One step of a session of the given peer. -/
def step (config : ServerConfig) (peer : SocketAddr) (sh : Shared) (ses : Session) (e : Event) :
    Option (Shared × Session) :=
  match ses.phase, e with
  | .accepted, .setNodelay r =>
    some (sh, if config.tcpNodelay then ses.propagate r fun _ => .readHeader
      else ses.goto .readHeader)
  | .readHeader, .readHeader r => some (sh, ses.propagate r dispatch)
  | .devlist, .devlist devices r =>
    some (sh, ses.answer (devlistReply devices) r)
  | .readBusid, .readBusid r => some (sh, ses.propagate r fun buf => .lookup (requestedBusid buf))
  | .lookup busid, .lookup devices r =>
    match getDeviceEntry devices busid with
    | some entry => some (sh, ses.goto (.check busid entry))
    | none => some (sh, ses.answer nodevReply r)
  | .check busid entry, .check r =>
    -- under the lock: the check, then the busy reply or the insertion
    if (sh.exports busid).isSome then
      some (sh, ses.answer busyReply r)
    else
      some ({ sh with exports := Function.update sh.exports busid (some (peer, entry)) },
        { ses with phase := .claim busid entry, entered := some busid })
  | .claim busid entry, .claim r =>
    match r with
    | .ok () =>
      some ({ sh with handles := Function.update sh.handles busid true },
        ses.goto (.describe busid entry))
    | .error err => some (sh, ses.fail err)
  | .describe busid entry, .describe r => some (sh, ses.propagate r (.reply busid entry))
  | .reply busid entry tree, .reply r =>
    some (sh, (ses.send (importReply entry tree)).propagate r fun _ => .install busid)
  | .install busid, .install r =>
    -- only the encrypted wire exchanges keys
    some (sh, if config.encryptionEnabled then ses.propagate r fun _ => .urbLoop busid .new
      else ses.goto (.urbLoop busid .new))
  | .urbLoop busid bt, .readMessage r => some (sh, ses.goto (afterRead busid bt r))
  | .submit busid bt cmd data, .submit r now =>
    let result := UsbDeviceManager.submitUrb (sh.handles busid) (fun _ _ _ => r) busid cmd data
    some (sh, ses.goto (afterPush busid (bt.pushReply cmd result now)))
  | .write busid bt batch, .write r =>
    some (sh, (ses.send batch).propagate r fun _ => .urbLoop busid bt)
  | .flush busid bt, .flush _ =>
    -- the outcome of the last write is ignored
    some (sh, (if !bt.isEmpty then ses.send bt.flush.1 else ses).goto (.release busid))
  | .release busid, .release r =>
    -- the manager forgets the device before it asks the backend
    some ({ sh with handles := Function.update sh.handles busid false },
      ses.propagate r fun _ => .remove busid)
  | .remove busid, .remove =>
    some ({ sh with exports := Function.update sh.exports busid none },
      ses.goto (.returned (.ok ())))
  | _, _ => none

end Session

/-- The shared maps and all sessions. A session that has not been accepted yet takes no step. -/
structure Server where
  shared : Shared
  sessions : ℕ → Session

namespace Server

/-- The server before its first client. -/
def init : Server := ⟨⟨fun _ => none, fun _ => false⟩, fun _ => ⟨.accepted, none, []⟩⟩

/-- A session takes a step. -/
def step (config : ServerConfig) (peer : ℕ → SocketAddr) (s : Server) (a : ℕ × Event) :
    Option Server :=
  ((s.sessions a.1).step config (peer a.1) s.shared a.2).map fun (sh, ses) =>
    ⟨sh, Function.update s.sessions a.1 ses⟩

end Server

/-! ## A session in which nothing fails -/

/-- A field of `n` bytes that starts with the given bytes and is zero after them. -/
def zeroPad (n : ℕ) (bs : Bytes) : Vector UInt8 n := Vector.ofFn fun i => bs.getD i 0

theorem toList_zeroPad {n : ℕ} {bs : Bytes} (h : bs.length = n) : (zeroPad n bs).toList = bs := by
  subst h
  apply List.ext_getElem
  · simp
  · intro i h₁ h₂
    simp [zeroPad]

/-- The header of a request. -/
theorem Session.dispatch_new (command : UInt16) :
    dispatch (zeroPad 8 (UsbIpHeader.new command).asBytes) =
      if command = opReqDevlist then .devlist
      else if command = opReqImport then .readBusid
      else .returned (.ok ()) := by
  have hlen : (UsbIpHeader.new command).asBytes.length = 8 := UsbIpHeader.length_asBytes _
  rw [dispatch, toList_zeroPad hlen, UsbIpHeader.readFromPrefix_asBytes]
  rfl

/-- A request, up to the look-up of the device. -/
def requestEvents (busid : Bytes) (devices : List UsbIpDeviceEntry) : List Event :=
  [.setNodelay (.ok ()), .readHeader (.ok (zeroPad 8 (UsbIpHeader.new opReqImport).asBytes)),
    .readBusid (.ok (zeroPad 32 busid)), .lookup devices (.ok ())]

/-- A request that is granted, up to the URB loop. -/
def importEvents (busid : Bytes) (devices : List UsbIpDeviceEntry) (tree : Bytes) : List Event :=
  requestEvents busid devices ++
    [.check (.ok ()), .claim (.ok ()), .describe (.ok tree), .reply (.ok ()), .install (.ok ())]

/-- The client leaves. -/
def leaveEvents : List Event :=
  [.readMessage (.error (.io .unexpectedEof)), .flush (.ok ()), .release (.ok ()), .remove]

/-- Let one session take steps. -/
def bySession (i : ℕ) (events : List Event) : List (ℕ × Event) := events.map (i, ·)

/-- A steering wheel at `1-1`. -/
def wheelEntry : UsbIpDeviceEntry where
  path := Vector.replicate 256 0
  busid := zeroPad 32 [0x31, 0x2D, 0x31]
  busnum := 1
  devnum := 1
  speed := 3
  idVendor := 0x046D
  idProduct := 0xC261
  bcdDevice := 0
  bDeviceClass := 0
  bDeviceSubClass := 0
  bDeviceProtocol := 0
  bConfigurationValue := 1
  bNumConfigurations := 1
  bNumInterfaces := 1

/-- The request for the wheel. -/
def wheelBusid : Bytes := [0x31, 0x2D, 0x31]

/-- Clients on one host. -/
def clientAddr (i : ℕ) : SocketAddr := ⟨.v4 (zeroPad 4 [192, 168, 1, 20]), UInt16.ofNat (50000 + i)⟩

/-! ## What a step can do -/

/-- The bus id a session holds: from the busy check until it has removed its export. -/
def Phase.held : Phase → Option String
  | .claim busid _ | .describe busid _ | .reply busid _ _ | .install busid | .urbLoop busid _
  | .submit busid _ _ _ | .write busid _ _ | .flush busid _ | .release busid | .remove busid =>
    some busid
  | _ => none

/-- The bus id of an attached device that a session is about to look up in the exports. -/
def Phase.checked : Phase → Option String
  | .check busid _ => some busid
  | _ => none

theorem Phase.checked_eq_some {phase : Phase} {b : String} :
    phase.checked = some b ↔ ∃ entry, phase = .check b entry := by
  cases phase <;> simp [Phase.checked]

def Phase.isReturned : Phase → Bool
  | .returned _ => true
  | _ => false

/-- The answer makes a session that has entered a bus id return an error. -/
def Event.fails (config : ServerConfig) : Event → Bool
  | .claim (.error _) | .describe (.error _) | .reply (.error _) | .write (.error _)
  | .release (.error _) => true
  | .install (.error _) => config.encryptionEnabled
  | _ => false

/-- The step is a look-up that finds the device of the bus id. -/
def Found (phase : Phase) (e : Event) (b : String) (entry : UsbIpDeviceEntry) : Prop :=
  phase = .lookup b ∧ ∃ devices r, e = .lookup devices r ∧ getDeviceEntry devices b = some entry

/-- The effects a step can have on the shared maps and on what the session holds. -/
inductive Effect (config : ServerConfig) (peer : SocketAddr) (sh : Shared) (ses : Session)
    (e : Event) : Shared → Session → Prop
  /-- Nothing is shared, and the session goes on with what it holds, if anything. -/
  | quiet {ses' : Session} (hheld : ses'.phase.held = ses.phase.held)
      (hentered : ses'.entered = ses.entered) (hremove : ∀ b, ses'.phase ≠ .remove b)
      (hcheck : ∀ b entry, ses'.phase = .check b entry → Found ses.phase e b entry)
      (hfails : e.fails config = false) : Effect config peer sh ses e sh ses'
  /-- The session passes the busy check and enters its bus id. -/
  | enter {busid : String} {entry : UsbIpDeviceEntry} {ses' : Session}
      (hphase : ses.phase = .check busid entry) (hfree : sh.exports busid = none)
      (hphase' : ses'.phase = .claim busid entry) (hentered : ses'.entered = some busid)
      (hfails : e.fails config = false) :
      Effect config peer sh ses e
        { sh with exports := Function.update sh.exports busid (some (peer, entry)) } ses'
  /-- The device is claimed. -/
  | claim {busid : String} {ses' : Session} (hheld : ses.phase.held = some busid)
      (hheld' : ses'.phase.held = some busid) (hentered : ses'.entered = ses.entered)
      (hremove : ∀ b, ses'.phase ≠ .remove b) (hfails : e.fails config = false) :
      Effect config peer sh ses e
        { sh with handles := Function.update sh.handles busid true } ses'
  /-- A session that holds a bus id returns an error, and leaves the maps as they are. -/
  | fail {busid : String} {ses' : Session} (hheld : ses.phase.held = some busid)
      (hphase' : ses'.phase.isReturned = true) (hentered : ses'.entered = ses.entered)
      (hfails : e.fails config = true) : Effect config peer sh ses e sh ses'
  /-- The device is released, and the session goes on to remove its export or returns an error. -/
  | release {busid : String} {ses' : Session} (hphase : ses.phase = .release busid)
      (hphase' : ses'.phase = .remove busid ∧ e.fails config = false ∨
        ses'.phase.isReturned = true ∧ e.fails config = true)
      (hentered : ses'.entered = ses.entered) :
      Effect config peer sh ses e
        { sh with handles := Function.update sh.handles busid false } ses'
  /-- The export is removed. -/
  | remove {busid : String} {ses' : Session} (hphase : ses.phase = .remove busid)
      (hphase' : ses'.phase.isReturned = true) (hentered : ses'.entered = ses.entered)
      (hfails : e.fails config = false) :
      Effect config peer sh ses e
        { sh with exports := Function.update sh.exports busid none } ses'

namespace Session

@[simp] theorem phase_goto (ses : Session) (phase : Phase) : (ses.goto phase).phase = phase := rfl

theorem sent_answer (ses : Session) (reply : Bytes) (r : UsbIpResult Unit) :
    (ses.answer reply r).sent = ses.sent ++ [reply] := by
  cases r <;> rfl

theorem isReturned_answer (ses : Session) (reply : Bytes) (r : UsbIpResult Unit) :
    (ses.answer reply r).phase.isReturned = true := by
  cases r <;> rfl

theorem held_dispatch (header : Vector UInt8 8) : (dispatch header).held = none := by
  unfold dispatch
  split
  · rfl
  · split
    · rfl
    · split <;> rfl

theorem held_afterRead (busid : String) (bt : UrbBatcher) (r : UsbIpResult Bytes) :
    (afterRead busid bt r).held = some busid := by
  unfold afterRead
  split
  · rfl
  · split <;> rfl

theorem held_afterPush (busid : String) (p : UrbBatcher × Option Bytes) :
    (afterPush busid p).held = some busid := by
  unfold afterPush
  split <;> rfl

theorem dispatch_ne_check (header : Vector UInt8 8) (b : String) (entry : UsbIpDeviceEntry) :
    dispatch header ≠ .check b entry := by
  unfold dispatch
  split
  · simp
  · split
    · simp
    · split <;> simp

theorem afterRead_ne_remove (busid : String) (bt : UrbBatcher) (r : UsbIpResult Bytes)
    (b : String) : afterRead busid bt r ≠ .remove b := by
  unfold afterRead
  split
  · simp
  · split <;> simp

theorem afterPush_ne_remove (busid : String) (p : UrbBatcher × Option Bytes) (b : String) :
    afterPush busid p ≠ .remove b := by
  unfold afterPush
  split <;> simp

variable {config : ServerConfig} {peer : SocketAddr} {sh : Shared} {ses : Session} {e : Event}

/-- The lines of `step`, each with what it has found. -/
inductive Step (config : ServerConfig) (peer : SocketAddr) (sh : Shared) (ses : Session) :
    Event → Shared → Session → Prop
  | setNodelay {r} (hp : ses.phase = .accepted) :
    Step config peer sh ses (.setNodelay r) sh (ses.propagate r fun _ => .readHeader)
  | keepDelay {r} (hp : ses.phase = .accepted) :
    Step config peer sh ses (.setNodelay r) sh (ses.goto .readHeader)
  | readHeader {r} (hp : ses.phase = .readHeader) :
    Step config peer sh ses (.readHeader r) sh (ses.propagate r dispatch)
  | devlist {devices r} (hp : ses.phase = .devlist) :
    Step config peer sh ses (.devlist devices r) sh (ses.answer (devlistReply devices) r)
  | readBusid {r} (hp : ses.phase = .readBusid) :
    Step config peer sh ses (.readBusid r) sh
      (ses.propagate r fun buf => .lookup (requestedBusid buf))
  | found {busid devices entry r} (hp : ses.phase = .lookup busid)
    (hfound : getDeviceEntry devices busid = some entry) :
    Step config peer sh ses (.lookup devices r) sh (ses.goto (.check busid entry))
  | nodev {busid devices r} (hp : ses.phase = .lookup busid) :
    Step config peer sh ses (.lookup devices r) sh (ses.answer nodevReply r)
  | busy {busid entry r} (hp : ses.phase = .check busid entry)
    (hbusy : (sh.exports busid).isSome = true) :
    Step config peer sh ses (.check r) sh (ses.answer busyReply r)
  | enter {busid entry r} (hp : ses.phase = .check busid entry) (hfree : sh.exports busid = none) :
    Step config peer sh ses (.check r)
      { sh with exports := Function.update sh.exports busid (some (peer, entry)) }
      { ses with phase := .claim busid entry, entered := some busid }
  | claim {busid entry} (hp : ses.phase = .claim busid entry) :
    Step config peer sh ses (.claim (.ok ()))
      { sh with handles := Function.update sh.handles busid true }
      (ses.goto (.describe busid entry))
  | claimFails {busid entry err} (hp : ses.phase = .claim busid entry) :
    Step config peer sh ses (.claim (.error err)) sh (ses.fail err)
  | describe {busid entry r} (hp : ses.phase = .describe busid entry) :
    Step config peer sh ses (.describe r) sh (ses.propagate r (.reply busid entry))
  | reply {busid entry tree r} (hp : ses.phase = .reply busid entry tree) :
    Step config peer sh ses (.reply r) sh
      ((ses.send (importReply entry tree)).propagate r fun _ => .install busid)
  | exchange {busid r} (hp : ses.phase = .install busid) (henc : config.encryptionEnabled = true) :
    Step config peer sh ses (.install r) sh (ses.propagate r fun _ => .urbLoop busid .new)
  | install {busid r} (hp : ses.phase = .install busid) (henc : config.encryptionEnabled = false) :
    Step config peer sh ses (.install r) sh (ses.goto (.urbLoop busid .new))
  | readMessage {busid bt r} (hp : ses.phase = .urbLoop busid bt) :
    Step config peer sh ses (.readMessage r) sh (ses.goto (afterRead busid bt r))
  | submit {busid bt cmd data r now} (hp : ses.phase = .submit busid bt cmd data) :
    Step config peer sh ses (.submit r now) sh
      (ses.goto (afterPush busid (bt.pushReply cmd
        (UsbDeviceManager.submitUrb (sh.handles busid) (fun _ _ _ => r) busid cmd data) now)))
  | write {busid bt batch r} (hp : ses.phase = .write busid bt batch) :
    Step config peer sh ses (.write r) sh
      ((ses.send batch).propagate r fun _ => .urbLoop busid bt)
  | flush {busid bt r} (hp : ses.phase = .flush busid bt) :
    Step config peer sh ses (.flush r) sh
      ((if !bt.isEmpty then ses.send bt.flush.1 else ses).goto (.release busid))
  | release {busid r} (hp : ses.phase = .release busid) :
    Step config peer sh ses (.release r)
      { sh with handles := Function.update sh.handles busid false }
      (ses.propagate r fun _ => .remove busid)
  | remove {busid} (hp : ses.phase = .remove busid) :
    Step config peer sh ses .remove
      { sh with exports := Function.update sh.exports busid none } (ses.goto (.returned (.ok ())))

/-- **Every step is one of its lines.** -/
theorem step_of_eq_some {sh' : Shared} {ses' : Session}
    (h : ses.step config peer sh e = some (sh', ses')) : Step config peer sh ses e sh' ses' := by
  unfold step at h
  -- the cases are the lines of `step`, in order
  split at h <;> first | (cases h; done) | skip
  case h_1 hp =>
    obtain ⟨rfl, rfl⟩ := Prod.mk.inj (Option.some.inj h)
    split
    · exact .setNodelay hp
    · exact .keepDelay hp
  case h_5 hp =>
    split at h
    · next hfound =>
      obtain ⟨rfl, rfl⟩ := Prod.mk.inj (Option.some.inj h)
      exact .found hp hfound
    · obtain ⟨rfl, rfl⟩ := Prod.mk.inj (Option.some.inj h)
      exact .nodev hp
  case h_6 hp =>
    split at h
    · next hbusy =>
      obtain ⟨rfl, rfl⟩ := Prod.mk.inj (Option.some.inj h)
      exact .busy hp hbusy
    · next hfree =>
      obtain ⟨rfl, rfl⟩ := Prod.mk.inj (Option.some.inj h)
      exact .enter hp (Option.not_isSome_iff_eq_none.1 hfree)
  case h_7 hp =>
    split at h
    · obtain ⟨rfl, rfl⟩ := Prod.mk.inj (Option.some.inj h)
      exact .claim hp
    · obtain ⟨rfl, rfl⟩ := Prod.mk.inj (Option.some.inj h)
      exact .claimFails hp
  case h_10 hp =>
    obtain ⟨rfl, rfl⟩ := Prod.mk.inj (Option.some.inj h)
    split
    · next henc => exact .exchange hp henc
    · next henc => exact .install hp (Bool.eq_false_iff.2 henc)
  all_goals
    obtain ⟨rfl, rfl⟩ := Prod.mk.inj (Option.some.inj h)
    next hp => constructor; exact hp

/-- A session that holds a bus id does not look for a device any more. -/
theorem quiet_of_held {ses' : Session} {busid : String} (hheld : ses.phase.held = some busid)
    (hheld' : ses'.phase.held = some busid) (hentered : ses'.entered = ses.entered)
    (hremove : ∀ b, ses'.phase ≠ .remove b) (hfails : e.fails config = false) :
    Effect config peer sh ses e sh ses' := by
  refine .quiet (hheld'.trans hheld.symm) hentered hremove (fun b entry hp => ?_) hfails
  rw [hp] at hheld'
  cases hheld'

/-- A `?` before the busy check: nothing is held before or after. -/
theorem quiet_propagate {α : Type} {r : UsbIpResult α} {next : α → Phase}
    (hheld : ses.phase.held = none) (hnext : ∀ a, (next a).held = none)
    (hcheck : ∀ a b entry, next a ≠ .check b entry) (bytes : List Bytes)
    (hfails : e.fails config = false) :
    Effect config peer sh ses e sh ({ ses with sent := bytes }.propagate r next) := by
  cases r with
  | ok a =>
    refine .quiet ((hnext a).trans hheld.symm) rfl (fun b hb => ?_)
      (fun b entry hp => absurd hp (hcheck a b entry)) hfails
    have := hnext a
    rw [show next a = .remove b from hb] at this
    cases this
  | error err =>
    exact .quiet hheld.symm rfl (by simp [propagate, fail]) (by simp [propagate, fail]) hfails

/-- A `?` after the busy check: the session goes on with what it holds, or fails. -/
theorem effect_propagate {α : Type} {r : UsbIpResult α} {next : α → Phase} {busid : String}
    (hheld : ses.phase.held = some busid) (hnext : ∀ a, (next a).held = some busid)
    (hremove : ∀ a b, next a ≠ .remove b) (bytes : List Bytes)
    (hfails : e.fails config = !r.isOk) :
    Effect config peer sh ses e sh ({ ses with sent := bytes }.propagate r next) := by
  cases r with
  | ok a => exact quiet_of_held hheld (hnext a) rfl (hremove a) hfails
  | error err => exact .fail hheld rfl rfl hfails

/-- **What a step can do** to the shared maps, and to what the session holds. -/
theorem step_effect {sh' : Shared} {ses' : Session}
    (h : ses.step config peer sh e = some (sh', ses')) : Effect config peer sh ses e sh' ses' := by
  cases step_of_eq_some h with
  | setNodelay hp | readBusid hp =>
    exact quiet_propagate (by rw [hp]; rfl) (fun _ => rfl) (by simp) ses.sent rfl
  | keepDelay hp => exact .quiet (by rw [hp]; rfl) rfl (by simp) (by simp) rfl
  | readHeader hp =>
    exact quiet_propagate (by rw [hp]; rfl) held_dispatch dispatch_ne_check ses.sent rfl
  | devlist hp | nodev hp | busy hp =>
    exact quiet_propagate (by rw [hp]; rfl) (fun _ => rfl) (by simp) _ rfl
  | @found busid devices entry r hp hfound =>
    refine .quiet (by rw [hp]; rfl) rfl (by simp) (fun b entry' hp' => ?_) rfl
    obtain ⟨rfl, rfl⟩ : busid = b ∧ entry = entry' := by simpa using hp'
    exact ⟨hp, devices, r, rfl, hfound⟩
  | enter hp hfree => exact .enter hp hfree rfl rfl rfl
  | claim hp => exact .claim (by rw [hp]; rfl) rfl rfl (by simp) rfl
  | claimFails hp => exact .fail (by rw [hp]; rfl) rfl rfl rfl
  | @describe busid entry r hp =>
    exact effect_propagate (by rw [hp]; rfl) (fun _ => rfl) (by simp) ses.sent (by cases r <;> rfl)
  | @reply busid entry tree r hp =>
    exact effect_propagate (by rw [hp]; rfl) (fun _ => rfl) (by simp) _ (by cases r <;> rfl)
  | @exchange busid r hp henc =>
    exact effect_propagate (by rw [hp]; rfl) (fun _ => rfl) (by simp) ses.sent
      (by cases r <;> simp [Event.fails, henc, Except.isOk, Except.toBool])
  | @install busid r hp henc =>
    exact quiet_of_held (by rw [hp]; rfl) rfl rfl (by simp)
      (by cases r <;> simp [Event.fails, henc])
  | readMessage hp =>
    exact quiet_of_held (by rw [hp]; rfl) (held_afterRead _ _ _) rfl (afterRead_ne_remove _ _ _) rfl
  | submit hp =>
    exact quiet_of_held (by rw [hp]; rfl) (held_afterPush _ _) rfl (afterPush_ne_remove _ _) rfl
  | @write busid bt batch r hp =>
    exact effect_propagate (by rw [hp]; rfl) (fun _ => rfl) (by simp) _ (by cases r <;> rfl)
  | flush hp => exact quiet_of_held (by rw [hp]; rfl) rfl (by split <;> rfl) (by simp) rfl
  | @release busid r hp =>
    cases r with
    | ok a => exact .release hp (.inl ⟨rfl, rfl⟩) rfl
    | error err => exact .release hp (.inr ⟨rfl, rfl⟩) rfl
  | remove hp => exact .remove hp rfl rfl rfl

/-- A session that has returned takes no step. -/
theorem not_isReturned_of_step {sh' : Shared} {ses' : Session}
    (h : ses.step config peer sh e = some (sh', ses')) : ses.phase.isReturned = false := by
  cases hp : ses.phase with
  | returned r => simp [step, hp] at h
  | _ => rfl

end Session

end AnyPlug
