import AnyPlug.Client.Forwarding
import AnyPlug.Server.Exclusive

/-!
# One import, two connections

`Client::import_device` requests the device twice: `do_import` on a connection that is dropped when
it returns, then `urb_forwarding_task` on a second one. The server takes note of the drop in its own
time: the session of the first connection has to fail a read, flush, release the device and remove
the export. The system here is the client and the two sessions, on a server that nobody else uses.

`not_busy_iff`: the second request is answered that the device is busy, unless the first session
has ended well before the second one checks the exports.
-/

namespace AnyPlug

/-! ## Sessions of an import request -/

/-- The bus id under which the server looks up a request of the client for `busid`. -/
def importKey (busid : String) : String := requestedBusid (busidField busid)

/-- The first message of the session is the reply to a successful import. -/
def Session.Answered (ses : Session) : Prop :=
  ∃ entry tree rest, ses.sent = importReply entry tree :: rest

/-- The session has sent nothing, or one reply that grants nothing. -/
def Session.Refused (ses : Session) : Prop :=
  ses.sent = [] ∨ ses.sent = [nodevReply] ∨ ses.sent = [busyReply] ∨
    ∃ devices, ses.sent = [devlistReply devices]

/-- What a session that is asked for the bus id `b` has entered and sent, by its phase. -/
def Session.Follows (b : String) (ses : Session) : Prop :=
  match ses.phase with
  | .accepted | .readHeader | .devlist | .readBusid => ses.entered = none ∧ ses.sent = []
  | .lookup busid | .check busid _ => busid = b ∧ ses.entered = none ∧ ses.sent = []
  | .claim busid _ | .describe busid _ | .reply busid _ _ =>
    busid = b ∧ ses.entered = some b ∧ ses.sent = []
  | .install busid | .urbLoop busid _ | .submit busid _ _ _ | .write busid _ _ | .flush busid _
  | .release busid | .remove busid => busid = b ∧ ses.entered = some b ∧ ses.Answered
  | .returned _ =>
    ses.entered = none ∧ ses.Refused ∨ ses.entered = some b ∧ (ses.sent = [] ∨ ses.Answered)

/-- The reads of the event return what the client sends: the request for `busid`, and no message
after it. -/
def Event.asks (busid : String) : Event → Bool
  | .readHeader (.ok header) => header = zeroPad 8 (UsbIpHeader.new opReqImport).asBytes
  | .readBusid (.ok field) => field = busidField busid
  | .readMessage (.ok _) => false
  | _ => true

/-- The steps of such a session, as far as the exports of `b` and its first message are
concerned. -/
inductive Session.Progress (b : String) (sh : Shared) (ses : Session) (e : Event) (sh' : Shared)
    (ses' : Session) : Prop
  /-- Nothing happens to the exports, and a session that has entered `b` does not end well. -/
  | quiet (hexports : sh'.exports = sh.exports) (hentered : ses'.entered = ses.entered)
      (hresult : ses.entered = some b → ses'.phase ≠ .returned (.ok ()))
      (hsent : ses'.sent.head? = some busyReply → ses.sent.head? = some busyReply)
  /-- The bus id is exported, and the request is answered so. -/
  | busy (hcheck : ∃ r, e = .check r) (hbusy : (sh.exports b).isSome = true)
      (hexports : sh'.exports = sh.exports) (hentered : ses.entered = none)
      (hentered' : ses'.entered = none) (hsent : ses'.sent = [busyReply])
  /-- The bus id is free, and is entered. -/
  | enter (hfree : sh.exports b = none) (hexports : (sh'.exports b).isSome = true)
      (hentered : ses.entered = none) (hentered' : ses'.entered = some b)
      (hphase : ses'.phase ≠ .returned (.ok ())) (hsent : ses'.sent = [])
  /-- The export is removed, and the session ends well. -/
  | remove (hexports : sh'.exports b = none) (hentered : ses.entered = some b)
      (hentered' : ses'.entered = some b) (hphase : ses'.phase = .returned (.ok ()))
      (hsent : ses'.sent = ses.sent)

namespace Session

variable {config : ServerConfig} {peer : SocketAddr} {sh sh' : Shared} {ses ses' : Session}
  {e : Event} {b busid : String}

/-- The header of the request leads to the bus id. -/
theorem dispatch_importRequest :
    dispatch (zeroPad 8 (UsbIpHeader.new opReqImport).asBytes) = .readBusid := by
  rw [dispatch_new]
  rfl

theorem importReply_ne_busyReply (entry : UsbIpDeviceEntry) (tree : Bytes) :
    importReply entry tree ≠ busyReply := by
  intro h
  have hlen := congrArg List.length h
  simp only [importReply, busyReply, List.length_append, UsbIpHeader.length_asBytes,
    UsbIpDeviceEntry.length_asBytes, UsbIpHeader.size, UsbIpDeviceEntry.size] at hlen
  omega

theorem nodevReply_ne_busyReply : nodevReply ≠ busyReply := by decide

theorem devlistReply_ne_busyReply (devices : List UsbIpDeviceEntry) :
    devlistReply devices ≠ busyReply := by
  intro h
  have hlen := congrArg List.length h
  have hsize : FixedCodec.u32be.size = 4 := rfl
  simp only [devlistReply, busyReply, List.length_append, UsbIpHeader.length_asBytes,
    FixedCodec.length_encode] at hlen
  omega

/-! ### Before the busy check -/

section Before

variable (hent : ses.entered = none) (hsent : ses.sent = [])

include hent

theorem progress_of_entered_none (hexports : sh'.exports = sh.exports) (hent' : ses'.entered = none)
    (hsent' : ses'.sent.head? = some busyReply → ses.sent.head? = some busyReply) :
    Progress b sh ses e sh' ses' :=
  .quiet hexports (hent'.trans hent.symm) (fun h => by rw [hent] at h; cases h) hsent'

include hsent

/-- A `?` before the busy check. -/
theorem follows_propagate {α : Type} {r : UsbIpResult α} {next : α → Phase}
    (hnext : ∀ a, r = .ok a → (ses.goto (next a)).Follows b) :
    (ses.propagate r next).Follows b ∧ Progress b sh ses e sh (ses.propagate r next) := by
  cases r with
  | ok a => exact ⟨hnext a rfl, progress_of_entered_none hent rfl hent id⟩
  | error err => exact ⟨.inl ⟨hent, .inl hsent⟩, progress_of_entered_none hent rfl hent id⟩

/-- A reply that grants nothing. -/
theorem follows_answer {reply : Bytes} (r : UsbIpResult Unit)
    (hreply : (ses.answer reply r).Refused) (hne : reply ≠ busyReply) :
    (ses.answer reply r).Follows b ∧ Progress b sh ses e sh (ses.answer reply r) := by
  have hsent' : (ses.answer reply r).sent.head? = some reply := by
    rw [sent_answer, hsent]
    rfl
  have hprog (hent' : (ses.answer reply r).entered = none) :
      Progress b sh ses e sh (ses.answer reply r) := by
    refine progress_of_entered_none hent rfl hent' fun h => ?_
    rw [hsent'] at h
    exact absurd (Option.some.inj h) hne
  cases r with
  | ok u => exact ⟨.inl ⟨hent, hreply⟩, hprog hent⟩
  | error err => exact ⟨.inl ⟨hent, hreply⟩, hprog hent⟩

end Before

/-! ### After the busy check -/

section After

variable (hent : ses.entered = some b)

include hent

theorem progress_of_entered (hexports : sh'.exports = sh.exports) (hent' : ses'.entered = some b)
    (hphase : ses'.phase ≠ .returned (.ok ()))
    (hsent' : ses'.sent.head? = some busyReply → ses.sent.head? = some busyReply) :
    Progress b sh ses e sh' ses' :=
  .quiet hexports (hent'.trans hent.symm) (fun _ => hphase) hsent'

/-- A `?` after the busy check. -/
theorem follows_propagate_entered {α : Type} {r : UsbIpResult α} {next : α → Phase}
    (hexports : sh'.exports = sh.exports) (hsent : ses.sent = [] ∨ ses.Answered)
    (hnext : ∀ a, (ses.goto (next a)).Follows b) (hphase : ∀ a, next a ≠ .returned (.ok ())) :
    (ses.propagate r next).Follows b ∧ Progress b sh ses e sh' (ses.propagate r next) := by
  cases r with
  | ok a => exact ⟨hnext a, progress_of_entered hent hexports hent (hphase a) id⟩
  | error err =>
    exact ⟨.inr ⟨hent, hsent⟩,
      progress_of_entered hent hexports hent (by simp [propagate, fail]) id⟩

/-- A session that is answered goes on. -/
theorem follows_goto {phase : Phase} (hfol : (ses.goto phase).Follows b)
    (hphase : phase ≠ .returned (.ok ())) :
    (ses.goto phase).Follows b ∧ Progress b sh ses e sh (ses.goto phase) :=
  ⟨hfol, progress_of_entered hent rfl hent hphase id⟩

end After

theorem Answered.send (h : ses.Answered) (bytes : Bytes) : (ses.send bytes).Answered := by
  obtain ⟨entry, tree, rest, hsent⟩ := h
  exact ⟨entry, tree, rest ++ [bytes], by rw [Session.send, hsent, List.cons_append]⟩

theorem Answered.head?_ne (h : ses.Answered) : ses.sent.head? ≠ some busyReply := by
  obtain ⟨entry, tree, rest, hsent⟩ := h
  rw [hsent]
  exact fun h => importReply_ne_busyReply entry tree (Option.some.inj h)

/-- A message is sent, and its outcome is checked. -/
theorem follows_send {m : Bytes} {phase : Phase} (hent : ses.entered = some b)
    (hans : (ses.send m).Answered) (r : UsbIpResult Unit)
    (hfol : ((ses.send m).goto phase).Follows b) (hphase : phase ≠ .returned (.ok ())) :
    ((ses.send m).propagate r fun _ => phase).Follows b ∧
      Progress b sh ses e sh ((ses.send m).propagate r fun _ => phase) := by
  cases r with
  | ok u =>
    exact ⟨hfol, progress_of_entered hent rfl hent hphase fun h => absurd h hans.head?_ne⟩
  | error err =>
    exact ⟨.inr ⟨hent, .inr hans⟩, progress_of_entered hent rfl hent (by simp [propagate, fail])
      fun h => absurd h hans.head?_ne⟩

theorem follows_afterRead (h : busid = b ∧ ses.entered = some b ∧ ses.Answered) (bt : UrbBatcher)
    (r : UsbIpResult Bytes) : (ses.goto (afterRead busid bt r)).Follows b := by
  unfold afterRead
  split
  · exact h
  · split <;> exact h

theorem follows_afterPush (h : busid = b ∧ ses.entered = some b ∧ ses.Answered)
    (p : UrbBatcher × Option Bytes) : (ses.goto (afterPush busid p)).Follows b := by
  unfold afterPush
  split <;> exact h

theorem afterRead_ne_returned (busid : String) (bt : UrbBatcher) (r : UsbIpResult Bytes) :
    afterRead busid bt r ≠ .returned (.ok ()) := by
  intro h
  have hheld := held_afterRead busid bt r
  rw [h] at hheld
  cases hheld

theorem afterPush_ne_returned (busid : String) (p : UrbBatcher × Option Bytes) :
    afterPush busid p ≠ .returned (.ok ()) := by
  intro h
  have hheld := held_afterPush busid p
  rw [h] at hheld
  cases hheld

/-- **A session that is asked for `b` follows the protocol of an import.** -/
theorem follows_step (hf : ses.Follows (importKey busid))
    (hasks : e.asks busid = true) (h : ses.step config peer sh e = some (sh', ses')) :
    ses'.Follows (importKey busid) ∧
      Progress (importKey busid) sh ses e sh' ses' := by
  unfold Follows at hf
  cases step_of_eq_some h with
  | setNodelay hp =>
    rw [hp] at hf
    exact follows_propagate hf.1 hf.2 fun _ _ => hf
  | keepDelay hp =>
    rw [hp] at hf
    exact ⟨hf, progress_of_entered_none hf.1 rfl hf.1 id⟩
  | @readHeader r hp =>
    rw [hp] at hf
    refine follows_propagate hf.1 hf.2 fun header hr => ?_
    subst hr
    have hheader : header = zeroPad 8 (UsbIpHeader.new opReqImport).asBytes := by
      simpa [Event.asks] using hasks
    rw [hheader, dispatch_importRequest]
    exact hf
  | @devlist devices r hp =>
    rw [hp] at hf
    refine follows_answer hf.1 hf.2 r ?_ (devlistReply_ne_busyReply devices)
    exact .inr (.inr (.inr ⟨devices, by rw [sent_answer, hf.2]; rfl⟩))
  | @readBusid r hp =>
    rw [hp] at hf
    refine follows_propagate hf.1 hf.2 fun field hr => ?_
    subst hr
    have hfield : field = busidField busid := by simpa [Event.asks] using hasks
    rw [hfield]
    exact ⟨rfl, hf⟩
  | found hp hfound =>
    rw [hp] at hf
    exact ⟨hf, progress_of_entered_none hf.2.1 rfl hf.2.1 id⟩
  | @nodev busid' devices r hp =>
    rw [hp] at hf
    refine follows_answer hf.2.1 hf.2.2 r ?_ nodevReply_ne_busyReply
    exact .inr (.inl (by rw [sent_answer, hf.2.2]; rfl))
  | @busy busid' entry r hp hbusy =>
    rw [hp] at hf
    obtain ⟨rfl, hent, hsent⟩ := hf
    have hsent' : (ses.answer busyReply r).sent = [busyReply] := by
      rw [sent_answer, hsent]
      rfl
    have hent' : (ses.answer busyReply r).entered = none := by
      cases r <;> exact hent
    refine ⟨?_, .busy ⟨r, rfl⟩ hbusy rfl hent hent' hsent'⟩
    cases r <;> exact .inl ⟨hent', .inr (.inr (.inl hsent'))⟩
  | enter hp hfree =>
    rw [hp] at hf
    obtain ⟨rfl, hent, hsent⟩ := hf
    refine ⟨⟨rfl, rfl, hsent⟩, .enter hfree ?_ hent rfl (by simp) hsent⟩
    simp
  | claim hp =>
    rw [hp] at hf
    obtain ⟨rfl, hent, hsent⟩ := hf
    exact ⟨⟨rfl, hent, hsent⟩, progress_of_entered hent rfl hent (by simp) id⟩
  | claimFails hp =>
    rw [hp] at hf
    obtain ⟨rfl, hent, hsent⟩ := hf
    exact ⟨.inr ⟨hent, .inl hsent⟩, progress_of_entered hent rfl hent (by simp [fail]) id⟩
  | describe hp =>
    rw [hp] at hf
    exact follows_propagate_entered hf.2.1 rfl (.inl hf.2.2) (fun _ => hf) (by simp)
  | @reply busid' entry tree r hp =>
    rw [hp] at hf
    obtain ⟨rfl, hent, hsent⟩ := hf
    have hans : (ses.send (importReply entry tree)).Answered :=
      ⟨entry, tree, [], by rw [Session.send, hsent, List.nil_append]⟩
    exact follows_send hent hans r ⟨rfl, hent, hans⟩ (by simp)
  | exchange hp =>
    rw [hp] at hf
    exact follows_propagate_entered hf.2.1 rfl (.inr hf.2.2) (fun _ => hf) (by simp)
  | install hp =>
    rw [hp] at hf
    exact follows_goto hf.2.1 hf (by simp)
  | @readMessage busid' bt r hp =>
    rw [hp] at hf
    exact follows_goto hf.2.1 (follows_afterRead hf bt r) (afterRead_ne_returned _ _ _)
  | submit hp =>
    rw [hp] at hf
    exact follows_goto hf.2.1 (follows_afterPush hf _) (afterPush_ne_returned _ _)
  | @write busid' bt batch r hp =>
    rw [hp] at hf
    obtain ⟨rfl, hent, hans⟩ := hf
    exact follows_send hent (hans.send batch) r ⟨rfl, hent, hans.send batch⟩ (by simp)
  | @flush busid' bt r hp =>
    rw [hp] at hf
    obtain ⟨rfl, hent, hans⟩ := hf
    split
    · have hans' := hans.send bt.flush.1
      exact ⟨⟨rfl, hent, hans'⟩, progress_of_entered hent rfl hent (by simp)
        fun h => absurd h hans'.head?_ne⟩
    · exact follows_goto hent ⟨rfl, hent, hans⟩ (by simp)
  | release hp =>
    rw [hp] at hf
    exact follows_propagate_entered hf.2.1 rfl (.inr hf.2.2) (fun _ => hf) (by simp)
  | remove hp =>
    rw [hp] at hf
    obtain ⟨rfl, hent, hans⟩ := hf
    exact ⟨.inr ⟨hent, .inr hans⟩, .remove (by simp) hent hent rfl rfl⟩

/-- What the busy check answers. -/
theorem sent_of_check (hf : ses.Follows b) {r : UsbIpResult Unit}
    (h : ses.step config peer sh (.check r) = some (sh', ses')) :
    ses.entered = none ∧
      ((sh.exports b).isSome = true ∧ ses'.sent = [busyReply] ∨
        sh.exports b = none ∧ ses'.sent = []) := by
  cases hp : ses.phase with
  | check busid entry =>
    simp only [Follows, hp] at hf
    obtain ⟨rfl, hent, hsent⟩ := hf
    refine ⟨hent, ?_⟩
    simp only [step, hp] at h
    split at h
    · rename_i hbusy
      obtain ⟨rfl, rfl⟩ := Prod.mk.inj (Option.some.inj h)
      refine .inl ⟨hbusy, ?_⟩
      rw [sent_answer, hsent, List.nil_append]
    · rename_i hfree
      obtain ⟨rfl, rfl⟩ := Prod.mk.inj (Option.some.inj h)
      exact .inr ⟨by simpa using hfree, hsent⟩
  | _ => simp [step, hp] at h

theorem Follows.entered_cases (h : ses.Follows b) :
    ses.entered = none ∧ ses.Refused ∨ ses.entered = some b := by
  cases hp : ses.phase with
  | returned r =>
    simp only [Follows, hp] at h
    rcases h with h | h
    · exact .inl h
    · exact .inr h.1
  | accepted | readHeader | devlist | readBusid =>
    simp only [Follows, hp] at h
    exact .inl ⟨h.1, .inl h.2⟩
  | lookup | check =>
    simp only [Follows, hp] at h
    exact .inl ⟨h.2.1, .inl h.2.2⟩
  | claim | describe | reply | install | urbLoop | submit | write | flush | release | remove =>
    simp only [Follows, hp] at h
    exact .inr h.2.1

/-- A session that has answered that the device is busy has returned. -/
theorem Follows.isReturned (h : ses.Follows b) (hbusy : ses.sent.head? = some busyReply) :
    ses.phase.isReturned = true := by
  have hne (hsent : ses.sent = []) : False := by
    rw [hsent] at hbusy
    cases hbusy
  cases hp : ses.phase with
  | returned r => rfl
  | accepted | readHeader | devlist | readBusid =>
    simp only [Follows, hp] at h
    exact (hne h.2).elim
  | lookup | check | claim | describe | reply =>
    simp only [Follows, hp] at h
    exact (hne h.2.2).elim
  | install | urbLoop | submit | write | flush | release | remove =>
    simp only [Follows, hp] at h
    exact absurd hbusy h.2.2.head?_ne

end Session

/-! ## The handshake of a refused request -/

/-- A reply whose header grants nothing fails the handshake. -/
theorem isOk_tcpConnectAndImport_header {header : UsbIpHeader} (rest : Bytes) (busid : String)
    (tcpNodelay : Bool) (h : header.command ≠ opRepImport ∨ header.status ≠ statusSuccess) :
    (tcpConnectAndImport (.to (header.asBytes ++ rest)) busid tcpNodelay).isOk = false := by
  simp only [tcpConnectAndImport, Connection.to, ok_bind,
    readExact_append (UsbIpHeader.length_asBytes _), UsbIpHeader.readFromPrefix_asBytes, okOr_some]
  by_cases hcmd : header.command = opRepImport
  · have hst : header.status ≠ statusSuccess := h.resolve_left (not_not.2 hcmd)
    rw [if_neg (not_not.2 hcmd), if_pos hst]
    cases tcpNodelay <;> rfl
  · rw [if_pos hcmd]
    cases tcpNodelay <;> rfl

/-- Until the session has entered its bus id, the handshake of the client is not through. -/
theorem Session.Refused.isOk_eq_false {ses : Session} (h : ses.Refused) (busid : String)
    (tcpNodelay : Bool) :
    (tcpConnectAndImport (.to ses.sent.flatten) busid tcpNodelay).isOk = false := by
  rcases h with h | h | h | ⟨devices, h⟩
  · rw [h]
    cases tcpNodelay <;> rfl
  · rw [h, List.flatten_singleton, nodevReply, ← List.append_nil (UsbIpHeader.asBytes _)]
    exact isOk_tcpConnectAndImport_header [] busid tcpNodelay (.inr (by decide))
  · rw [h, List.flatten_singleton, busyReply, ← List.append_nil (UsbIpHeader.asBytes _)]
    exact isOk_tcpConnectAndImport_header [] busid tcpNodelay (.inr (by decide))
  · rw [h, List.flatten_singleton, devlistReply, List.append_assoc]
    exact isOk_tcpConnectAndImport_header _ busid tcpNodelay (.inl (by decide))

/-! ## The client and its two sessions -/

/-- Where the call of `import_device` stands. -/
inductive ImportPhase
  /-- `do_import` is running. -/
  | importing
  /-- `do_import` returned an error, and so did the call. -/
  | failed
  /-- `do_import` returned and dropped its connection; the task is spawned. -/
  | spawned
  /-- The task has opened the second connection. -/
  | forwarding
  deriving DecidableEq

/-- The client, and the server with the sessions of its connections: 0 is the first, 1 the
second. -/
structure SelfImport where
  client : ImportPhase
  server : Server

namespace SelfImport

inductive Action
  | first (e : Event)
  | second (e : Event)
  | imported
  | failed
  | connect

/-- The device is free, and the two sessions have not started. -/
structure Free (busid : String) (server : Server) : Prop where
  first : server.sessions 0 = ⟨.accepted, none, []⟩
  second : server.sessions 1 = ⟨.accepted, none, []⟩
  exports : server.shared.exports (importKey busid) = none

theorem free_init (busid : String) : Free busid .init := ⟨rfl, rfl, rfl⟩

/-- The call of `import_device` starts. -/
def start (server : Server) : SelfImport := ⟨.importing, server⟩

/-- The connection of the first session is still open for reading its next message. -/
def blocked (s : SelfImport) : Event → Bool
  | .readMessage _ => s.client = .importing
  | _ => false

/-- One step. The reads of a session return what the client sends. The client sends nothing after
its request, so the first session reads no further before the connection is dropped. `do_import`
may return when the handshake is through. -/
def step (config : ServerConfig) (peer : ℕ → SocketAddr) (busid : String) (tcpNodelay : Bool)
    (s : SelfImport) : Action → Option SelfImport
  | .first e =>
    if e.asks busid && !s.blocked e then
      (s.server.step config peer (0, e)).map fun server => { s with server := server }
    else none
  | .second e =>
    if s.client = .forwarding && e.asks busid then
      (s.server.step config peer (1, e)).map fun server => { s with server := server }
    else none
  | .imported =>
    if s.client = .importing &&
        (tcpConnectAndImport (.to (s.server.sessions 0).sent.flatten) busid tcpNodelay).isOk then
      some { s with client := .spawned }
    else none
  | .failed => if s.client = .importing then some { s with client := .failed } else none
  | .connect => if s.client = .spawned then some { s with client := .forwarding } else none

/-- The second request is answered that the device is busy. -/
def Busy (s : SelfImport) : Prop := (s.server.sessions 1).sent.head? = some busyReply

/-- When the second session checks the exports, the first one has ended well. -/
def Ended (s : SelfImport) : Action → Prop
  | .second (.check _) => (s.server.sessions 0).phase = .returned (.ok ())
  | _ => True

/-- The invariant: both sessions follow the protocol; until the second one has entered the bus id,
it is exported from when the first one enters it until that ends well; and when `do_import` is
through, the first session has entered it. -/
structure Sound (busid : String) (s : SelfImport) : Prop where
  first : (s.server.sessions 0).Follows (importKey busid)
  second : (s.server.sessions 1).Follows (importKey busid)
  exports : (s.server.sessions 1).entered = none →
    (s.server.sessions 0).entered = none ∧ s.server.shared.exports (importKey busid) = none ∨
      (s.server.sessions 0).entered = some (importKey busid) ∧
        (s.server.shared.exports (importKey busid) = none ↔
          (s.server.sessions 0).phase = .returned (.ok ()))
  imported : s.client = .spawned ∨ s.client = .forwarding →
    (s.server.sessions 0).entered = some (importKey busid)

variable {config : ServerConfig} {peer : ℕ → SocketAddr} {busid : String} {tcpNodelay : Bool}
  {s t : SelfImport}

theorem sound_start {server : Server} (h : Free busid server) : (start server).Sound busid where
  first := by
    rw [start, h.first]
    exact ⟨rfl, rfl⟩
  second := by
    rw [start, h.second]
    exact ⟨rfl, rfl⟩
  exports _ := .inl ⟨by rw [start, h.first], h.exports⟩
  imported h := by rcases h with h | h <;> cases h

/-- A step of the first session. -/
theorem sound_first {e : Event} {sh' : Shared} {ses' : Session} (h : s.Sound busid)
    (hasks : e.asks busid = true)
    (hses : (s.server.sessions 0).step config (peer 0) s.server.shared e = some (sh', ses')) :
    Sound busid ⟨s.client, s.server.after 0 sh' ses'⟩ := by
  obtain ⟨hfol, hprog⟩ := Session.follows_step h.first hasks hses
  have hreturned := Session.not_isReturned_of_step hses
  have hnot : (s.server.sessions 0).phase ≠ .returned (.ok ()) := by
    intro hp
    rw [hp] at hreturned
    cases hreturned
  have hother : (s.server.after 0 sh' ses').sessions 1 = s.server.sessions 1 :=
    Server.sessions_after_of_ne (by decide)
  constructor
  · simpa using hfol
  · simpa only [hother] using h.second
  · simp only [hother, Server.sessions_after_self, Server.shared_after]
    intro hent
    have hexports := h.exports hent
    cases hprog with
    | quiet hsame hentered hresult hsent =>
      rw [hsame, hentered]
      refine hexports.imp id fun ⟨hent₀, hiff⟩ => ⟨hent₀, ?_⟩
      simp [hiff, hnot, hresult hent₀]
    | busy hcheck hbusy hsame hentered hentered' hsent =>
      rcases hexports with ⟨-, hnone⟩ | ⟨hent₀, -⟩
      · exact absurd hnone (Option.isSome_iff_ne_none.1 hbusy)
      · rw [hentered] at hent₀
        cases hent₀
    | enter hfree hsome hentered hentered' hphase hsent =>
      refine .inr ⟨hentered', ?_⟩
      simp [Option.isSome_iff_ne_none.1 hsome, hphase]
    | remove hnone hentered hentered' hphase hsent =>
      exact .inr ⟨hentered', by simp [hnone, hphase]⟩
  · simp only [Server.sessions_after_self]
    intro hclient
    have hent₀ := h.imported hclient
    cases hprog with
    | quiet hsame hentered hresult hsent => exact hentered.trans hent₀
    | busy hcheck hbusy hsame hentered hentered' hsent =>
      rw [hentered] at hent₀
      cases hent₀
    | enter hfree hsome hentered hentered' hphase hsent => exact hentered'
    | remove hnone hentered hentered' hphase hsent => exact hentered'

/-- A step of the second session. -/
theorem sound_second {e : Event} {sh' : Shared} {ses' : Session} (h : s.Sound busid)
    (hasks : e.asks busid = true)
    (hses : (s.server.sessions 1).step config (peer 1) s.server.shared e = some (sh', ses')) :
    Sound busid ⟨s.client, s.server.after 1 sh' ses'⟩ := by
  obtain ⟨hfol, hprog⟩ := Session.follows_step h.second hasks hses
  have hother : (s.server.after 1 sh' ses').sessions 0 = s.server.sessions 0 :=
    Server.sessions_after_of_ne (by decide)
  constructor
  · simpa only [hother] using h.first
  · simpa using hfol
  · simp only [hother, Server.sessions_after_self, Server.shared_after]
    intro hent
    cases hprog with
    | quiet hsame hentered hresult hsent =>
      rw [hsame]
      exact h.exports (hentered.symm.trans hent)
    | busy hcheck hbusy hsame hentered hentered' hsent =>
      rw [hsame]
      exact h.exports hentered
    | enter hfree hsome hentered hentered' hphase hsent =>
      rw [hent] at hentered'
      cases hentered'
    | remove hnone hentered hentered' hphase hsent =>
      rw [hent] at hentered'
      cases hentered'
  · simp only [hother]
    exact h.imported

/-- What a step can do. -/
theorem step_cases {a : Action} (h : s.step config peer busid tcpNodelay a = some t) :
    (∃ e sh' ses', a = .first e ∧ e.asks busid = true ∧
      (s.server.sessions 0).step config (peer 0) s.server.shared e = some (sh', ses') ∧
        t = ⟨s.client, s.server.after 0 sh' ses'⟩) ∨
      (∃ e sh' ses', a = .second e ∧ s.client = .forwarding ∧ e.asks busid = true ∧
        (s.server.sessions 1).step config (peer 1) s.server.shared e = some (sh', ses') ∧
          t = ⟨s.client, s.server.after 1 sh' ses'⟩) ∨
      t.server = s.server ∧ (∀ e, a ≠ .second e) ∧
        (t.client = .failed ∨ t.client = .forwarding ∧ s.client = .spawned ∨
          (tcpConnectAndImport (.to (s.server.sessions 0).sent.flatten) busid tcpNodelay).isOk =
            true) := by
  cases a with
  | first e =>
    simp only [step] at h
    split at h
    · rename_i hgate
      obtain ⟨server, hserver, rfl⟩ := Option.map_eq_some_iff.1 h
      obtain ⟨sh', ses', hses, rfl⟩ := Server.step_eq_some.1 hserver
      exact .inl ⟨e, sh', ses', rfl, (Bool.and_eq_true_iff.1 hgate).1, hses, rfl⟩
    · cases h
  | second e =>
    simp only [step] at h
    split at h
    · rename_i hgate
      obtain ⟨server, hserver, rfl⟩ := Option.map_eq_some_iff.1 h
      obtain ⟨sh', ses', hses, rfl⟩ := Server.step_eq_some.1 hserver
      obtain ⟨hclient, hasks⟩ := Bool.and_eq_true_iff.1 hgate
      exact .inr (.inl ⟨e, sh', ses', rfl, of_decide_eq_true hclient, hasks, hses, rfl⟩)
    · cases h
  | imported =>
    simp only [step] at h
    split at h
    · rename_i hgate
      obtain rfl := Option.some.inj h
      exact .inr (.inr ⟨rfl, by simp, .inr (.inr (Bool.and_eq_true_iff.1 hgate).2)⟩)
    · cases h
  | failed =>
    simp only [step] at h
    split at h
    · obtain rfl := Option.some.inj h
      exact .inr (.inr ⟨rfl, by simp, .inl rfl⟩)
    · cases h
  | connect =>
    simp only [step] at h
    split at h
    · rename_i hgate
      obtain rfl := Option.some.inj h
      exact .inr (.inr ⟨rfl, by simp, .inr (.inl ⟨rfl, hgate⟩)⟩)
    · cases h

/-- **Every step keeps the invariant.** -/
theorem sound_step (s : SelfImport) (a : Action) (t : SelfImport) (h : s.Sound busid)
    (hstep : s.step config peer busid tcpNodelay a = some t) : t.Sound busid := by
  obtain ⟨e, sh', ses', rfl, hasks, hses, rfl⟩ | ⟨e, sh', ses', rfl, -, hasks, hses, rfl⟩ |
    ⟨hserver, -, hclient⟩ := step_cases hstep
  · exact sound_first h hasks hses
  · exact sound_second h hasks hses
  · refine ⟨hserver ▸ h.first, hserver ▸ h.second, hserver ▸ h.exports, fun ht => ?_⟩
    rw [hserver]
    rcases hclient with hclient | ⟨-, hclient⟩ | hok
    · rcases ht with ht | ht <;> rw [hclient] at ht <;> cases ht
    · exact h.imported (.inl hclient)
    · rcases h.first.entered_cases with ⟨-, href⟩ | hent
      · rw [href.isOk_eq_false] at hok
        cases hok
      · exact hent

/-- A busy answer is final. -/
theorem busy_step {a : Action} (h : s.Sound busid) (hbusy : s.Busy)
    (hstep : s.step config peer busid tcpNodelay a = some t) : t.Busy := by
  obtain ⟨e, sh', ses', -, -, -, rfl⟩ | ⟨e, sh', ses', -, -, -, hses, -⟩ | ⟨hserver, -, -⟩ :=
    step_cases hstep
  · unfold Busy
    rw [Server.sessions_after_of_ne (by decide)]
    exact hbusy
  · have hreturned := Session.not_isReturned_of_step hses
    rw [h.second.isReturned hbusy] at hreturned
    cases hreturned
  · unfold Busy
    rw [hserver]
    exact hbusy

/-- A check before the first session has ended well finds the device busy. -/
theorem busy_of_not_ended {a : Action} (h : s.Sound busid) (hC : ¬s.Ended a)
    (hstep : s.step config peer busid tcpNodelay a = some t) : t.Busy := by
  unfold Ended at hC
  split at hC
  · rename_i r
    obtain ⟨e, sh', ses', he, -⟩ | ⟨e, sh', ses', he, hclient, -, hses, rfl⟩ | ⟨-, hne, -⟩ :=
      step_cases hstep
    · cases he
    · obtain rfl := Action.second.inj he
      obtain ⟨hent, hsent⟩ := Session.sent_of_check h.second hses
      have hent₀ := h.imported (.inr hclient)
      rcases h.exports hent with ⟨hent₀', -⟩ | ⟨-, hiff⟩
      · rw [hent₀'] at hent₀
        cases hent₀
      · rcases hsent with ⟨-, hsent⟩ | ⟨hnone, -⟩
        · unfold Busy
          rw [Server.sessions_after_self, hsent]
          rfl
        · exact absurd (hiff.1 hnone) hC
    · exact absurd rfl (hne _)
  · exact absurd trivial hC

/-- Otherwise no step answers that the device is busy. -/
theorem not_busy_of_ended {a : Action} (h : s.Sound busid) (hC : s.Ended a) (hbusy : ¬s.Busy)
    (hstep : s.step config peer busid tcpNodelay a = some t) : ¬t.Busy := by
  obtain ⟨e, sh', ses', -, -, -, rfl⟩ | ⟨e, sh', ses', rfl, hclient, hasks, hses, rfl⟩ |
    ⟨hserver, -, -⟩ := step_cases hstep
  · unfold Busy
    rw [Server.sessions_after_of_ne (by decide)]
    exact hbusy
  · unfold Busy
    rw [Server.sessions_after_self]
    intro hsent'
    obtain ⟨-, hprog⟩ := Session.follows_step h.second hasks hses
    cases hprog with
    | quiet hsame hentered hresult hsent => exact hbusy (hsent hsent')
    | busy hcheck hsome hsame hentered hentered' hsent =>
      obtain ⟨r, rfl⟩ := hcheck
      -- the first session has entered the bus id and ended well, so it is not exported
      rcases h.exports hentered with ⟨-, hnone⟩ | ⟨-, hiff⟩
      · exact absurd hnone (Option.isSome_iff_ne_none.1 hsome)
      · exact absurd (hiff.2 hC) (Option.isSome_iff_ne_none.1 hsome)
    | enter hfree hsome hentered hentered' hphase hsent =>
      rw [hsent] at hsent'
      cases hsent'
    | remove hnone hentered hentered' hphase hsent =>
      rw [hsent] at hsent'
      exact hbusy hsent'
  · unfold Busy
    rw [hserver]
    exact hbusy

/-- **The second request is not answered that the device is busy exactly when the first session has
ended well before the second one checks the exports.** -/
theorem not_busy_iff {server : Server} (hfree : Free busid server) {as : List Action}
    (hrun : run (step config peer busid tcpNodelay) (start server) as = some t) :
    ¬t.Busy ↔ Along (step config peer busid tcpNodelay) Ended (start server) as := by
  constructor
  · intro hbusy
    rw [along_iff]
    rintro pre a post s rfl hs
    by_contra hC
    obtain ⟨s', hs', hrest⟩ := run_append_eq_some.1 hrun
    obtain rfl := Option.some.inj (hs.symm.trans hs')
    obtain ⟨u, hu, hpost⟩ := run_cons_eq_some.1 hrest
    have hsound := run_invariant sound_step (sound_start hfree) hs
    have hu' : u.Sound busid ∧ u.Busy :=
      ⟨sound_step s a u hsound hu, busy_of_not_ended hsound hC hu⟩
    have hfinal : t.Sound busid ∧ t.Busy :=
      run_invariant (P := fun s => s.Sound busid ∧ s.Busy)
        (fun s a t h hstep => ⟨sound_step s a t h.1 hstep, busy_step h.1 h.2 hstep⟩) hu' hpost
    exact hbusy hfinal.2
  · intro hC
    have hstart : ¬(start server).Busy := by
      unfold Busy start
      rw [hfree.second]
      intro h
      cases h
    have hfinal : t.Sound busid ∧ ¬t.Busy :=
      hC.invariant (P := fun s => s.Sound busid ∧ ¬s.Busy)
        (fun s a t h ha hstep =>
          ⟨sound_step s a t h.1 hstep, not_busy_of_ended h.1 ha h.2 hstep⟩)
        ⟨sound_start hfree, hstart⟩ hrun
    exact hfinal.2

/-- The steps of the first session up to its URB loop, and those of the client until the second
connection is open. -/
def openSecond : List Action :=
  (importEvents wheelBusid [wheelEntry] DeviceDescriptor.placeholder.toBytes).map .first ++
    [.imported, .connect]

/-- The second request, up to the busy check. -/
def askAgain : List Action :=
  (requestEvents wheelBusid [wheelEntry] ++ [Event.check (.ok ())]).map .second

def endedTest (s : SelfImport) : Action → Bool
  | .second (.check _) =>
    match (s.server.sessions 0).phase with
    | .returned (.ok ()) => true
    | _ => false
  | _ => true

theorem ended_of_endedTest (s : SelfImport) (a : Action) (h : endedTest s a = true) :
    s.Ended a := by
  unfold endedTest at h
  split at h
  · split at h
    · assumption
    · cases h
  · rename_i hne
    unfold Ended
    split
    · exact absurd rfl (hne _)
    · trivial

/-- The first session sees the drop and ends before the second one checks the exports. -/
theorem not_busy_in_turn :
    ∃ t, run (step {} clientAddr "1-1" true) (start .init)
        (openSecond ++ leaveEvents.map .first ++ askAgain) = some t ∧ ¬t.Busy := by
  obtain ⟨t, ht⟩ := Option.isSome_iff_exists.1
    (show (run (step {} clientAddr "1-1" true) (start .init)
      (openSecond ++ leaveEvents.map .first ++ askAgain)).isSome = true by decide +kernel)
  exact ⟨t, ht, (not_busy_iff (free_init _) ht).2 (.of_test ended_of_endedTest (by decide +kernel))⟩

/-- The second session checks the exports before the first one has seen the drop. -/
theorem busy_overtaken :
    ∃ t, run (step {} clientAddr "1-1" true) (start .init) (openSecond ++ askAgain) = some t ∧
      t.Busy := by
  have hobs : (run (step {} clientAddr "1-1" true) (start .init) (openSecond ++ askAgain)).map
      (fun t => (t.server.sessions 1).sent.head? == some busyReply) = some true := by
    decide +kernel
  obtain ⟨t, ht, hbusy⟩ := Option.map_eq_some_iff.1 hobs
  exact ⟨t, ht, eq_of_beq hbusy⟩

end SelfImport

end AnyPlug
