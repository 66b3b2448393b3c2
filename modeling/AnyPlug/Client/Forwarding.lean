import AnyPlug.Core.Descriptor
import AnyPlug.Server.Session

/-!
# The forwarding task of the client

`urbForwardingTask` is `urb_forwarding_task` of `usbip-client/src/client.rs`: connect and request
the device (`tcpConnectAndImport`), then read messages and hand the replies among them to the
virtual host controller (`urbForwardingLoop`).

The reply of the server to the request is a header, a device entry and a descriptor tree
(`importReply`), with nothing that says how long the tree is. The client reads the header and the
entry and leaves the tree on the stream, so the loop takes its bytes for messages. `forwarded_iff`
says for which trees this goes unnoticed.
-/

namespace AnyPlug

/-! ## Calls of the host controller -/

/-- A call that the loop makes to the virtual host controller. -/
inductive VhciCall
  | completeUrb (seqnum devid : UInt32) (status : Int32) (actualLength : UInt32) (data : Bytes)
  | cancelUrb (seqnum devid : UInt32)
  deriving DecidableEq

/-- What the loop does not decide: what the host controller answers to a call, given the calls made
before, and whether Ctrl+C is pressed while the loop waits for the `k`-th message. -/
structure ForwardEnv where
  vhci : List VhciCall → VhciCall → UsbIpResult Unit
  ctrlC : ℕ → Bool

/-- What the loop makes of a message. -/
inductive Received
  /-- The message is too short and ends the loop. -/
  | leave
  /-- A command the client does not act on. -/
  | skip
  | fail (err : ErrorKind)
  | call (c : VhciCall)

/-- Decode a message that the client receives. -/
def decodeReceived (frame : Bytes) : Received :=
  if frame.length < UsbIpHeader.size then .leave
  else
    match UsbIpHeader.readFromPrefix (frame.take UsbIpHeader.size) with
    | none => .leave
    | some (header, _) =>
      let payload := frame.drop UsbIpHeader.size
      if header.command = usbipCmdSubmit then .skip
      else if header.command = usbipRetSubmit then
        if payload.length < UsbIpRetSubmit.headerSize then .fail (.protocol "invalid RET_SUBMIT")
        else
          match UsbIpRetSubmit.readFromPrefix (payload.take UsbIpRetSubmit.headerSize) with
          | none => .fail (.protocol "invalid RET_SUBMIT")
          | some (ret, _) =>
            .call (.completeUrb ret.seqnum ret.devid (.ofUInt32 ret.status) ret.actualLen
              (ret.inData payload))
      else if header.command = usbipRetUnlink then
        if payload.length < UsbIpRetUnlink.size then .fail (.protocol "invalid RET_UNLINK")
        else
          match UsbIpRetUnlink.readFromPrefix (payload.take UsbIpRetUnlink.size) with
          | none => .fail (.protocol "invalid RET_UNLINK")
          | some (unlink, _) => .call (.cancelUrb unlink.seqnum unlink.devid)
      else .skip

/-! ## The loop -/

/-- The state of the loop: the calls made and the number of messages handled. -/
structure Forward where
  calls : List VhciCall
  handled : ℕ

/-- The loop is left with a result. -/
structure ForwardExit where
  calls : List VhciCall
  result : UsbIpResult Unit

/-- Handle one message. -/
def forwardBody (env : ForwardEnv) (st : Forward) (frame : Bytes) : Flow Forward ForwardExit :=
  if env.ctrlC st.handled then .stop ⟨st.calls, .ok ()⟩
  else
    match decodeReceived frame with
    | .leave => .stop ⟨st.calls, .ok ()⟩
    | .skip => .next ⟨st.calls, st.handled + 1⟩
    | .fail err => .stop ⟨st.calls, .error err⟩
    | .call c =>
      match env.vhci st.calls c with
      | .ok () => .next ⟨st.calls ++ [c], st.handled + 1⟩
      | .error err => .stop ⟨st.calls ++ [c], .error err⟩

/-- The loop on the messages of a stream; a stream that ends is a server that disconnected. -/
def urbForwardingLoop (env : ForwardEnv) (stream : Bytes) : ForwardExit :=
  readLoop readMessage (forwardBody env) (fun st => ⟨st.calls, .ok ()⟩) ⟨[], 0⟩ stream

/-! ## The handshake -/

/-- The connection as the client finds it: the outcomes of opening it and of its writes, and the
bytes the server sends. -/
structure Connection where
  connect : UsbIpResult Unit
  setNodelay : UsbIpResult Unit
  writeAll : Bytes → UsbIpResult Unit
  stream : Bytes

/-- A connection on which nothing fails. -/
def Connection.to (stream : Bytes) : Connection := ⟨.ok (), .ok (), fun _ => .ok (), stream⟩

/-- The bus id field of an `OP_REQ_IMPORT`: at most 31 bytes, then zeros. -/
def busidField (busid : String) : Vector UInt8 32 := zeroPad 32 (busid.toUTF8.toList.take 31)

/-- TCP connect and `OP_REQ_IMPORT` handshake; returns what is left of the stream. -/
def tcpConnectAndImport (conn : Connection) (busid : String) (tcpNodelay : Bool) :
    UsbIpResult Bytes := do
  conn.connect
  if tcpNodelay then conn.setNodelay
  conn.writeAll (UsbIpHeader.new opReqImport).asBytes
  conn.writeAll (busidField busid).toList
  let (buf, stream) ← readExact UsbIpHeader.size conn.stream
  let (header, _) ← okOr (UsbIpHeader.readFromPrefix buf) (.protocol "invalid import reply")
  if header.command ≠ opRepImport then .error (.protocol "unexpected reply")
  else if header.status ≠ statusSuccess then
    .error (.deviceBusy
      ("server rejected import (status=" ++ toString header.status.toInt ++ ")"))
  else
    -- the entry is read and dropped, the descriptor tree is not read
    let (_, stream) ← readExact UsbIpDeviceEntry.size stream
    return stream

/-- Connect, import, then forward URBs. -/
def urbForwardingTask (env : ForwardEnv) (conn : Connection) (busid : String) (tcpNodelay : Bool) :
    ForwardExit :=
  match tcpConnectAndImport conn busid tcpNodelay with
  | .error err => ⟨[], .error err⟩
  | .ok stream => urbForwardingLoop env stream

/-- The handshake leaves the descriptor tree on the stream. -/
theorem tcpConnectAndImport_importReply (entry : UsbIpDeviceEntry) (tree rest : Bytes)
    (busid : String) (tcpNodelay : Bool) :
    tcpConnectAndImport (.to (importReply entry tree ++ rest)) busid tcpNodelay =
      .ok (tree ++ rest) := by
  simp only [tcpConnectAndImport, Connection.to, importReply, List.append_assoc, ok_bind,
    readExact_append (UsbIpHeader.length_asBytes _), UsbIpHeader.readFromPrefix_asBytes, okOr_some,
    readExact_append (UsbIpDeviceEntry.length_asBytes _)]
  cases tcpNodelay <;> rfl

/-! ## The calls of well-formed messages -/

/-- The call that a message stands for. -/
def Frame.call : Frame → Option VhciCall
  | .retSubmit f =>
    some (.completeUrb f.ret.seqnum f.ret.devid (.ofUInt32 f.ret.status) f.ret.actualLen f.data)
  | .retUnlink f => some (.cancelUrb f.unlink.seqnum f.unlink.devid)
  | .cmdSubmit _ => none
  | .unknown _ => none

/-- The message is a `RET_SUBMIT` or a `RET_UNLINK`. -/
def Frame.IsReply (f : Frame) : Prop := f.command = usbipRetSubmit ∨ f.command = usbipRetUnlink

theorem Frame.call_eq_none_iff (f : Frame) : f.call = none ↔ ¬f.IsReply := by
  cases f with
  | cmdSubmit f =>
    simp [Frame.call, Frame.IsReply, Frame.command, usbipRetSubmit_ne_cmdSubmit.symm,
      usbipRetUnlink_ne_cmdSubmit.symm]
  | retSubmit f => simp [Frame.call, Frame.IsReply, Frame.command]
  | retUnlink f => simp [Frame.call, Frame.IsReply, Frame.command]
  | unknown f => simp [Frame.call, Frame.IsReply, Frame.command, f.unknown.2.1, f.unknown.2.2]

theorem RetSubmitFrame.inData_eq (f : RetSubmitFrame) :
    f.ret.inData (f.ret.asBytes ++ f.data) = f.data := by
  have hd := f.length_data
  unfold UsbIpRetSubmit.inData
  split
  · rw [List.drop_left' (UsbIpRetSubmit.length_asBytes _)]
  · rename_i hdata
    rw [if_neg hdata] at hd
    exact (List.length_eq_zero_iff.1 hd).symm

/-- A message is taken for the call it stands for, or skipped. -/
theorem Frame.decodeReceived_bytes (f : Frame) :
    decodeReceived f.bytes = f.call.elim .skip .call := by
  rw [decodeReceived, if_neg (not_lt.2 f.size_le_length_bytes)]
  cases f with
  | cmdSubmit f =>
    simp only [Frame.bytes, CmdSubmitFrame.bytes, List.append_assoc,
      List.take_left' (UsbIpHeader.length_asBytes _), UsbIpHeader.readFromPrefix_asBytes, if_true]
    rfl
  | retSubmit f =>
    have hlen : ¬(f.ret.asBytes ++ f.data).length < UsbIpRetSubmit.headerSize := by simp
    simp only [Frame.bytes, RetSubmitFrame.bytes, List.append_assoc,
      List.take_left' (UsbIpHeader.length_asBytes _), UsbIpHeader.readFromPrefix_asBytes,
      List.drop_left' (UsbIpHeader.length_asBytes _), hlen, if_false, if_true, f.inData_eq,
      List.take_left' (UsbIpRetSubmit.length_asBytes _), UsbIpRetSubmit.readFromPrefix_asBytes,
      usbipRetSubmit_ne_cmdSubmit]
    rfl
  | retUnlink f =>
    have hlen := UsbIpRetUnlink.length_asBytes f.unlink
    simp only [Frame.bytes, RetUnlinkFrame.bytes,
      List.take_left' (UsbIpHeader.length_asBytes _), UsbIpHeader.readFromPrefix_asBytes,
      List.drop_left' (UsbIpHeader.length_asBytes _), hlen, lt_irrefl, if_false, if_true,
      List.take_of_length_le (Nat.le_of_eq hlen), UsbIpRetUnlink.readFromPrefix_asBytes,
      usbipRetUnlink_ne_cmdSubmit, usbipRetUnlink_ne_retSubmit]
    rfl
  | unknown f =>
    obtain ⟨h1, h2, h3⟩ := f.unknown
    simp only [Frame.bytes, List.take_of_length_le (Nat.le_of_eq (UsbIpHeader.length_asBytes _)),
      UsbIpHeader.readFromPrefix_asBytes, h1, h2, h3, if_false]
    rfl

/-! ## The calls of a run -/

/-- The calls made of a list of calls: those up to the first that fails, which ends the loop. -/
def performed (vhci : List VhciCall → VhciCall → UsbIpResult Unit) :
    List VhciCall → List VhciCall → List VhciCall
  | done, [] => done
  | done, c :: cs =>
    match vhci done c with
    | .ok () => performed vhci (done ++ [c]) cs
    | .error _ => done ++ [c]

section Run

variable (vhci : List VhciCall → VhciCall → UsbIpResult Unit)

theorem exists_performed_eq (done cs : List VhciCall) :
    ∃ t, performed vhci done cs = done ++ t := by
  induction cs generalizing done with
  | nil => exact ⟨[], by rw [performed, List.append_nil]⟩
  | cons c cs ih =>
    rw [performed]
    split
    · obtain ⟨t, ht⟩ := ih (done ++ [c])
      exact ⟨c :: t, by rw [ht, List.append_assoc, List.singleton_append]⟩
    · exact ⟨[c], rfl⟩

/-- The first call is always made. -/
theorem head?_performed (cs : List VhciCall) : (performed vhci [] cs).head? = cs.head? := by
  cases cs with
  | nil => rfl
  | cons c cs =>
    rw [performed]
    split
    · obtain ⟨t, ht⟩ := exists_performed_eq vhci ([] ++ [c]) cs
      rw [ht]
      rfl
    · rfl

/-- The environment of a run that the user does not interrupt. -/
def ForwardEnv.uninterrupted : ForwardEnv := ⟨vhci, fun _ => false⟩

/-- What the loop does with a well-formed message, when it is not interrupted. -/
theorem forwardBody_of_ctrlC {env : ForwardEnv} {st : Forward} (h : env.ctrlC st.handled = false)
    (f : Frame) :
    forwardBody env st f.bytes =
      match f.call with
      | none => .next ⟨st.calls, st.handled + 1⟩
      | some c =>
        match env.vhci st.calls c with
        | .ok () => .next ⟨st.calls ++ [c], st.handled + 1⟩
        | .error err => .stop ⟨st.calls ++ [c], .error err⟩ := by
  rw [forwardBody, if_neg (by simp [h]), f.decodeReceived_bytes]
  cases f.call <;> rfl

theorem forwardBody_bytes (st : Forward) (f : Frame) :
    forwardBody (.uninterrupted vhci) st f.bytes =
      match f.call with
      | none => .next ⟨st.calls, st.handled + 1⟩
      | some c =>
        match vhci st.calls c with
        | .ok () => .next ⟨st.calls ++ [c], st.handled + 1⟩
        | .error err => .stop ⟨st.calls ++ [c], .error err⟩ :=
  forwardBody_of_ctrlC rfl f

theorem calls_overFrames (st : Forward) (fs : List Frame) :
    (overFrames (forwardBody (.uninterrupted vhci)) (fun st => ⟨st.calls, .ok ()⟩) st
      (fs.map Frame.bytes)).calls = performed vhci st.calls (fs.filterMap Frame.call) := by
  induction fs generalizing st with
  | nil => rfl
  | cons f fs ih =>
    rw [List.map_cons, overFrames, forwardBody_bytes]
    cases hc : f.call with
    | none =>
      rw [List.filterMap_cons_none hc]
      exact ih ⟨st.calls, st.handled + 1⟩
    | some c =>
      rw [List.filterMap_cons_some hc, performed]
      dsimp only
      cases vhci st.calls c with
      | ok u => exact ih ⟨st.calls ++ [c], st.handled + 1⟩
      | error err => rfl

/-- A call of a list of calls is the first one, or one of the others. -/
theorem append_singleton_prefix_cons {α : Type*} {done as : List α} {a b : α} :
    done ++ [b] <+: a :: as ↔
      done = [] ∧ b = a ∨ ∃ done', done = a :: done' ∧ done' ++ [b] <+: as := by
  cases done with
  | nil => simp
  | cons c done => simp [List.cons_prefix_cons]

/-- The loop reports an error exactly when one of the calls it made from here on failed. -/
theorem result_overFrames (st : Forward) (fs : List Frame) :
    let exit := overFrames (forwardBody (.uninterrupted vhci)) (fun st => ⟨st.calls, .ok ()⟩) st
      (fs.map Frame.bytes)
    (∃ err, exit.result = .error err) ↔
      ∃ t c err, st.calls ++ t ++ [c] <+: exit.calls ∧ vhci (st.calls ++ t) c = .error err := by
  induction fs generalizing st with
  | nil =>
    constructor
    · rintro ⟨err, herr⟩
      cases herr
    · rintro ⟨t, c, err, hpre, -⟩
      have hlen := hpre.length_le
      simp only [List.map_nil, overFrames, List.length_append, List.length_singleton] at hlen
      omega
  | cons f fs ih =>
    rw [List.map_cons, overFrames, forwardBody_bytes]
    cases hc : f.call with
    | none => exact ih ⟨st.calls, st.handled + 1⟩
    | some c =>
      dsimp only
      cases hv : vhci st.calls c with
      | ok u =>
        -- the call succeeded, so a call that failed is among the later ones
        refine (ih ⟨st.calls ++ [c], st.handled + 1⟩).trans ⟨?_, ?_⟩
        · rintro ⟨t, c', err, hpre, herr⟩
          refine ⟨c :: t, c', err, ?_, ?_⟩
          · simpa using hpre
          · simpa using herr
        · rintro ⟨t, c', err, hpre, herr⟩
          obtain ⟨t', ht'⟩ := exists_performed_eq vhci (st.calls ++ [c]) (fs.filterMap Frame.call)
          rw [calls_overFrames, ht', List.append_assoc,
            List.append_assoc, List.prefix_append_right_inj] at hpre
          obtain ⟨rfl, rfl⟩ | ⟨t, rfl, htail⟩ := append_singleton_prefix_cons.1 hpre
          · rw [List.append_nil, hv] at herr
            cases herr
          · refine ⟨t, c', err, ?_, ?_⟩
            · rw [calls_overFrames, ht', List.append_assoc,
                List.prefix_append_right_inj]
              exact htail
            · simpa using herr
      | error err =>
        refine ⟨fun _ => ⟨[], c, err, ?_, ?_⟩, fun _ => ⟨err, rfl⟩⟩
        · simp
        · simpa using hv

/-- The data of a `RET_SUBMIT` are the bytes after its record, where the record announces them. -/
theorem RetSubmitFrame.data_eq (f : RetSubmitFrame) :
    f.data = if f.ret.status = 0 ∧ f.ret.direction ≠ 0 ∧ 0 < f.ret.actualLength then
      (f.bytes.drop (UsbIpHeader.size + 44)).take f.ret.actualLength.toNat else [] := by
  have hd := f.length_data
  have hdrop : f.bytes.drop (UsbIpHeader.size + 44) = f.data := by
    rw [bytes, List.drop_left']
    rw [List.length_append, UsbIpHeader.length_asBytes, UsbIpRetSubmit.length_asBytes]
    rfl
  split
  · rename_i hdata
    rw [if_pos (f.ret.hasData_iff.2 hdata)] at hd
    rw [hdrop]
    exact (List.take_of_length_le (Nat.le_of_eq hd)).symm
  · rename_i hdata
    rw [if_neg (mt f.ret.hasData_iff.1 hdata)] at hd
    exact List.length_eq_zero_iff.1 hd

/-- **The loop dispatches faithfully.** On well-formed messages, then a stream that ends, possibly
inside a message, it makes the calls the messages stand for, in order and up to the first that
fails; it reports an error exactly when a call did; and the data it hands on are the bytes that the
record of a `RET_SUBMIT` announces. -/
theorem urbForwardingLoop_frames (fs : List Frame) {p : Bytes}
    (hp : p = [] ∨ ∃ (f : Frame) (q : Bytes), p ++ q = f.bytes ∧ q ≠ []) :
    let exit := urbForwardingLoop (.uninterrupted vhci) ((fs.map Frame.bytes).flatten ++ p)
    exit.calls = performed vhci [] (fs.filterMap Frame.call) ∧
      ((∃ err, exit.result = .error err) ↔
        ∃ done c err, done ++ [c] <+: exit.calls ∧ vhci done c = .error err) ∧
      ∀ f : RetSubmitFrame, Frame.retSubmit f ∈ fs →
        (Frame.retSubmit f).call = some (.completeUrb f.ret.seqnum f.ret.devid
          (.ofUInt32 f.ret.status) f.ret.actualLength
          (if f.ret.status = 0 ∧ f.ret.direction ≠ 0 ∧ 0 < f.ret.actualLength then
            (f.bytes.drop (UsbIpHeader.size + 44)).take f.ret.actualLength.toNat else [])) := by
  -- the end of the stream is not read as a message
  have herr : ∃ e, readMessage p = .error e := by
    rcases hp with rfl | ⟨f, q, hpq, hq⟩
    · exact selfDelimiting_readMessage.toConsuming.shrinking.nil_error
    · exact selfDelimiting_readMessage.error_of_strict_append (hpq ▸ f.isFrame_bytes) hq
  obtain ⟨e, he⟩ := herr
  have hdrain : drain readMessage ((fs.map Frame.bytes).flatten ++ p) = fs.map Frame.bytes := by
    rw [drain_map_bytes_append, drain_of_error he, List.append_nil]
  intro exit
  have hexit : exit = overFrames (forwardBody (.uninterrupted vhci)) (fun st => ⟨st.calls, .ok ()⟩)
      ⟨[], 0⟩ (fs.map Frame.bytes) := by
    rw [← hdrain]
    rfl
  refine ⟨?_, ?_, fun f _ => ?_⟩
  · rw [hexit]
    exact calls_overFrames vhci ⟨[], 0⟩ fs
  · rw [hexit]
    exact result_overFrames vhci ⟨[], 0⟩ fs
  · rw [← f.data_eq]
    rfl

/-- **The calls of the task** are those of the messages read off the descriptor tree and what
follows it. -/
theorem calls_urbForwardingTask (entry : UsbIpDeviceEntry) {tree rest : Bytes} (busid : String)
    (tcpNodelay : Bool) {fs : List Frame}
    (h : drain readMessage (tree ++ rest) = fs.map Frame.bytes) :
    (urbForwardingTask (.uninterrupted vhci) (.to (importReply entry tree ++ rest)) busid
      tcpNodelay).calls = performed vhci [] (fs.filterMap Frame.call) := by
  rw [urbForwardingTask, tcpConnectAndImport_importReply]
  dsimp only
  rw [urbForwardingLoop, readLoop, h]
  exact calls_overFrames vhci ⟨[], 0⟩ fs

end Run

/-! ## Trees that go unnoticed -/

/-- A message that stands for a call has at least the size of a `RET_UNLINK`. -/
theorem Frame.length_of_call {f : Frame} {c : VhciCall} (h : f.call = some c) :
    UsbIpHeader.size + UsbIpRetUnlink.size ≤ f.bytes.length := by
  cases f with
  | cmdSubmit f => cases h
  | retSubmit f =>
    rw [Frame.bytes, RetSubmitFrame.bytes, List.length_append, List.length_append,
      UsbIpHeader.length_asBytes, UsbIpRetSubmit.length_asBytes]
    unfold UsbIpRetSubmit.headerSize UsbIpRetUnlink.size
    omega
  | retUnlink f =>
    rw [Frame.bytes, RetUnlinkFrame.bytes, List.length_append, UsbIpHeader.length_asBytes,
      UsbIpRetUnlink.length_asBytes]
  | unknown f => cases h

/-- A stream that is too short for a `RET_UNLINK` holds no call. -/
theorem call_eq_none_of_drain {s : Bytes} {fs : List Frame}
    (h : drain readMessage s = fs.map Frame.bytes)
    (hlt : s.length < UsbIpHeader.size + UsbIpRetUnlink.size) : ∀ f ∈ fs, f.call = none := by
  intro f hf
  obtain ⟨r, -, hr, -⟩ := exists_flatten_drain_append selfDelimiting_readMessage.toConsuming s
  cases hc : f.call with
  | none => rfl
  | some c =>
    have hlen := Frame.length_of_call hc
    have hsub := (List.sublist_flatten_of_mem (List.mem_map_of_mem (f := Frame.bytes) hf)).length_le
    rw [← hr, h, List.length_append] at hlt
    omega

/-- The first byte of the sequence number of a `RET_UNLINK`. -/
def RetUnlinkFrame.mark (f : RetUnlinkFrame) : UInt8 := .ofNat (f.unlink.seqnum.toNat / 16777216)

theorem RetUnlinkFrame.getElem?_bytes (f : RetUnlinkFrame) :
    f.bytes[8]? = some f.mark := rfl

theorem RetUnlinkFrame.length_bytes (f : RetUnlinkFrame) :
    f.bytes.length = UsbIpHeader.size + UsbIpRetUnlink.size := by
  rw [bytes, List.length_append, UsbIpHeader.length_asBytes, UsbIpRetUnlink.length_asBytes]

/-- There is a `RET_UNLINK` whose mark is neither a byte of its header nor a given byte. -/
theorem RetUnlinkFrame.exists_mark_ne (b : Option UInt8) : ∃ f : RetUnlinkFrame,
    b ≠ some f.mark ∧ ∀ i < 8, f.bytes[i]? ≠ some f.mark := by
  by_cases hb : b = some 0xFF
  · exact ⟨⟨usbipVersion, 0, 0xFE000000, 0, 0⟩, by subst hb; decide, by decide⟩
  · exact ⟨⟨usbipVersion, 0, 0xFF000000, 0, 0⟩, hb, by decide⟩

/-- A message that starts inside an unread remainder is not the `RET_UNLINK` after it, when the mark
of that message is neither in its header nor where a mark would stand in the remainder. -/
theorem head_call_ne {r : Bytes} {e : ErrorKind} (he : readMessage r = .error e) (hr : r ≠ [])
    {m : RetUnlinkFrame} (hm : r[8]? ≠ some m.mark) (hh : ∀ i < 8, m.bytes[i]? ≠ some m.mark)
    {fs : List Frame} (h : drain readMessage (r ++ m.bytes) = fs.map Frame.bytes) :
    (fs.filterMap Frame.call).head? ≠ (Frame.retUnlink m).call := by
  have hc := selfDelimiting_readMessage.toConsuming
  cases fs with
  | nil => exact Option.some_ne_none _ |>.symm
  | cons g gs =>
    obtain ⟨rest, hread, hgs⟩ : ∃ rest, readMessage (r ++ m.bytes) = .ok (g.bytes, rest) ∧
        drain readMessage rest = gs.map Frame.bytes := by
      rcases hread : readMessage (r ++ m.bytes) with e | ⟨f, rest⟩
      · rw [drain_of_error hread] at h
        cases h
      · rw [drain_of_ok hc.shrinking hread] at h
        obtain ⟨rfl, hgs⟩ := List.cons.inj h
        exact ⟨rest, rfl, hgs⟩
    have happ := hc.append_eq hread
    have hlen := congrArg List.length happ
    rw [List.length_append, List.length_append, m.length_bytes] at hlen
    -- the first message reaches beyond the remainder, which alone is not read
    have hlt : r.length < g.bytes.length := by
      by_contra hle
      obtain ⟨t, rfl⟩ : g.bytes <+: r :=
        List.prefix_of_prefix_length_le ⟨rest, happ⟩ ⟨m.bytes, rfl⟩ (not_lt.1 hle)
      rw [g.isFrame_bytes t] at he
      cases he
    -- so what follows it is too short for another call
    have hnone := call_eq_none_of_drain hgs (by omega)
    have hhead : ((g :: gs).filterMap Frame.call).head? = g.call := by
      rw [List.filterMap_cons, List.filterMap_eq_nil_iff.2 hnone]
      cases g.call <;> rfl
    rw [hhead]
    intro hcall
    -- and it stands for the call of `m` only with the mark of `m` in its place
    have hmark : (r ++ m.bytes)[8]? = some m.mark := by
      rw [← happ]
      cases g with
      | cmdSubmit f => cases hcall
      | retSubmit f => cases hcall
      | retUnlink f =>
        have hseq := (VhciCall.cancelUrb.inj (Option.some.inj hcall)).1
        have hf : f.mark = m.mark := by rw [RetUnlinkFrame.mark, hseq, RetUnlinkFrame.mark]
        rw [List.getElem?_append_left (by rw [Frame.bytes, f.length_bytes]; decide), ← hf]
        exact f.getElem?_bytes
      | unknown f => cases hcall
    have hpos := List.length_pos_iff.2 hr
    rcases Nat.lt_or_ge 8 r.length with h8 | h8
    · rw [List.getElem?_append_left h8] at hmark
      exact hm hmark
    · rw [List.getElem?_append_right h8] at hmark
      exact hh _ (by omega) hmark

/-- **The client hands on exactly the replies after the handshake if and only if the descriptor tree
is a concatenation of complete messages that are no replies.** The handshake leaves the tree on the
stream, and nothing else tells it apart from the messages. -/
theorem forwarded_iff (vhci : List VhciCall → VhciCall → UsbIpResult Unit) (busid : String)
    (tcpNodelay : Bool) (entry : UsbIpDeviceEntry) (tree : Bytes) :
    (∀ msgs : List Frame, (∀ m ∈ msgs, m.IsReply) →
      (urbForwardingTask (.uninterrupted vhci)
        (.to (importReply entry tree ++ (msgs.map Frame.bytes).flatten)) busid tcpNodelay).calls =
          performed vhci [] (msgs.filterMap Frame.call)) ↔
      ∃ fs : List Frame, tree = (fs.map Frame.bytes).flatten ∧ ∀ f ∈ fs, ¬f.IsReply := by
  constructor
  · intro h
    obtain ⟨fs, r, e, hfs, hr, he⟩ := exists_frames_append tree
    -- with no messages after the tree, no call is made
    have hnone : fs.filterMap Frame.call = [] := by
      have h0 := h [] (by simp)
      rw [List.map_nil, List.flatten_nil,
        calls_urbForwardingTask vhci entry busid tcpNodelay (by rwa [List.append_nil])] at h0
      have hhead := congrArg List.head? h0
      rw [head?_performed] at hhead
      exact List.head?_eq_none_iff.1 hhead
    refine ⟨fs, ?_, fun f hf =>
      f.call_eq_none_iff.1 (List.filterMap_eq_nil_iff.1 hnone f hf)⟩
    -- an unread remainder would swallow the start of a `RET_UNLINK`
    have hnil : r = [] := by
      by_contra hne
      obtain ⟨m, hm, hh⟩ := RetUnlinkFrame.exists_mark_ne r[8]?
      obtain ⟨gs, -, -, hgs, -, -⟩ := exists_frames_append (r ++ m.bytes)
      have hdrain : drain readMessage (tree ++ m.bytes) = (fs ++ gs).map Frame.bytes := by
        rw [← hr, List.append_assoc, drain_map_bytes_append, hgs, List.map_append]
      have h1 := h [.retUnlink m] (by simp [Frame.IsReply, Frame.command])
      rw [List.map_singleton, List.flatten_singleton, Frame.bytes,
        calls_urbForwardingTask vhci entry busid tcpNodelay hdrain, List.filterMap_append, hnone,
        List.nil_append] at h1
      have hhead := congrArg List.head? h1
      rw [head?_performed, head?_performed] at hhead
      exact head_call_ne he hne hm hh hgs hhead
    rw [← hr, hnil, List.append_nil]
  · rintro ⟨fs, rfl, hfs⟩ msgs -
    have hdrain :
        drain readMessage ((fs.map Frame.bytes).flatten ++ (msgs.map Frame.bytes).flatten) =
          (fs ++ msgs).map Frame.bytes := by
      have hmsgs := drain_map_bytes_append msgs []
      rw [List.append_nil, drain_nil, List.append_nil] at hmsgs
      rw [drain_map_bytes_append, hmsgs, List.map_append]
    have hnone : fs.filterMap Frame.call = [] :=
      List.filterMap_eq_nil_iff.2 fun f hf => f.call_eq_none_iff.2 (hfs f hf)
    rw [calls_urbForwardingTask vhci entry busid tcpNodelay hdrain, List.filterMap_append, hnone,
      List.nil_append]

/-- A `RET_UNLINK` for the first URB. -/
def unlinkFirst : RetUnlinkFrame := ⟨usbipVersion, 0, 1, 0, 0⟩

/-- The loop is told twice that the first URB was cancelled, and the stream ends inside a third
message; the host controller fails the first call, so there is no second. -/
theorem urbForwardingLoop_frames_unlink :
    let vhci := fun _ _ => Except.error (ErrorKind.connectionClosed)
    let exit := urbForwardingLoop (.uninterrupted vhci)
      (([Frame.retUnlink unlinkFirst, .retUnlink unlinkFirst].map Frame.bytes).flatten ++ [1, 17])
    exit.calls = [.cancelUrb 1 0] ∧ ∃ err, exit.result = .error err := by
  intro vhci exit
  obtain ⟨hcalls, hresult, -⟩ := urbForwardingLoop_frames vhci
    [.retUnlink unlinkFirst, .retUnlink unlinkFirst] (p := [1, 17])
    (.inr ⟨.retUnlink unlinkFirst, unlinkFirst.bytes.drop 2, by decide, by decide⟩)
  have hexit : exit.calls = [.cancelUrb 1 0] := hcalls.trans rfl
  exact ⟨hexit, hresult.2 ⟨[], .cancelUrb 1 0, .connectionClosed, by rw [hexit]; decide, rfl⟩⟩

/-- A client of the IOKit backend is told that URB 1 was cancelled. It takes the device descriptor
and the first two bytes of the message for a `RET_UNLINK` and cancels URB 0 of another device. -/
theorem forwarded_placeholder_ne :
    ¬∀ (vhci : List VhciCall → VhciCall → UsbIpResult Unit) (busid : String) (tcpNodelay : Bool)
      (entry : UsbIpDeviceEntry) (tree : Bytes) (msgs : List Frame), (∀ m ∈ msgs, m.IsReply) →
        (urbForwardingTask (.uninterrupted vhci)
          (.to (importReply entry tree ++ (msgs.map Frame.bytes).flatten)) busid tcpNodelay).calls =
            performed vhci [] (msgs.filterMap Frame.call) := by
  intro h
  have hreply : ∀ m ∈ [Frame.retUnlink unlinkFirst], m.IsReply := by
    simp [Frame.IsReply, Frame.command]
  have hall := h (fun _ _ => .ok ()) "1-1" true wheelEntry DeviceDescriptor.placeholder.toBytes
    [.retUnlink unlinkFirst] hreply
  have hrun : (urbForwardingTask (.uninterrupted fun _ _ => .ok ())
      (.to (importReply wheelEntry DeviceDescriptor.placeholder.toBytes ++
        ([Frame.retUnlink unlinkFirst].map Frame.bytes).flatten)) "1-1" true).calls =
      [.cancelUrb 0 0x00010000] := by
    decide +kernel
  rw [hrun] at hall
  exact absurd hall (by decide)

end AnyPlug
