import AnyPlug.Server.Batcher

/-!
# The URB loop of the server

`handleUrbLoop` is `handle_urb_loop` of `usbip-server/src/server.rs`, from its start to the final
flush; the release of the device is part of the session (`Server.Session`). It reads messages,
submits the URBs among them, pushes each reply into the batcher and writes the batch out when the
batcher asks for it.

The loop is a fold of `urbLoopBody` over the messages the wire delivers before it fails. On the
plain wire these are the messages of the byte stream (`handleUrbLoopPlain`). What the loop does not
decide is in `LoopEnv`: the results of the URBs, the clock and the outcome of its writes.

What is written are the batches of the completed URBs (`written_handleUrbLoopPlain`), in the sense
of `Foundations.Batching` with `Joins` for what may join: after a refusal the loop flushes and goes
on to the next message, so the refused reply is never written.
-/

namespace AnyPlug

/-! ## Messages -/

/-- What the loop makes of a message. -/
inductive Decoded
  /-- The message is malformed and ends the loop. -/
  | leave
  /-- Any command but `CMD_SUBMIT`. -/
  | unknown
  | submit (cmd : UsbIpCmdSubmit) (data : Bytes)

/-- Decode a message of the URB exchange. -/
def decodeFrame (frame : Bytes) : Decoded :=
  if frame.length < UsbIpHeader.size then .leave
  else
    match UsbIpHeader.readFromPrefix (frame.take UsbIpHeader.size) with
    | none => .leave
    | some (header, _) =>
      if header.command = usbipCmdSubmit then
        let payload := frame.drop UsbIpHeader.size
        if payload.length < UsbIpCmdSubmit.headerSize then .leave
        else
          match UsbIpCmdSubmit.readFromPrefix (payload.take UsbIpCmdSubmit.headerSize) with
          | none => .leave
          | some (cmd, _) =>
            let dataLen := cmd.dataLen.toNat
            if !cmd.isIn && 0 < dataLen then
              if payload.length < UsbIpCmdSubmit.headerSize + dataLen then .leave
              else .submit cmd ((payload.drop UsbIpCmdSubmit.headerSize).take dataLen)
            else .submit cmd []
      else .unknown

theorem CmdSubmitFrame.decodeFrame_bytes (f : CmdSubmitFrame) :
    decodeFrame f.bytes = .submit f.cmd f.data := by
  have hrec : (f.cmd.asBytes ++ f.padding.toList).length = UsbIpCmdSubmit.headerSize := by
    simp [UsbIpCmdSubmit.headerSize]
  have hd := f.length_data
  have hlen : ¬f.bytes.length < UsbIpHeader.size :=
    not_lt.2 (Frame.size_le_length_bytes (.cmdSubmit f))
  have hdrop : f.bytes.drop UsbIpHeader.size = (f.cmd.asBytes ++ f.padding.toList) ++ f.data := by
    rw [bytes, List.append_assoc, List.drop_left' (UsbIpHeader.length_asBytes _)]
  have htake : f.bytes.take UsbIpHeader.size =
      (⟨f.version, usbipCmdSubmit, f.status⟩ : UsbIpHeader).asBytes := by
    rw [bytes, List.append_assoc, List.take_left' (UsbIpHeader.length_asBytes _)]
  simp only [decodeFrame, hlen, if_false, htake, UsbIpHeader.readFromPrefix_asBytes, if_true,
    hdrop, List.take_left' hrec, List.drop_left' hrec, UsbIpCmdSubmit.readFromPrefix_asBytes_append,
    @List.length_append _ _ f.data, hrec]
  rw [if_neg (by omega)]
  split
  · rename_i hout
    rw [if_pos (by simp_all)] at hd
    rw [if_neg (by omega), ← hd, List.take_length]
  · rename_i hin
    have hnil : f.data = [] := by
      apply List.length_eq_zero_iff.1
      rw [hd]
      split
      · simp_all
      · rfl
    rw [hnil]

/-! ## The loop -/

/-- The device as the loop sees it: the result of the `k`-th URB, and the clock reading when its
reply is pushed. -/
structure UrbEnv where
  submitUrb : ℕ → UsbIpCmdSubmit → Bytes → UrbResult
  now : ℕ → ℕ

/-- What the loop does not decide: the device, and the outcome of the `k`-th write. -/
structure LoopEnv extends UrbEnv where
  writeMessage : ℕ → UsbIpResult Unit

/-- Push a reply, and take the batch out when the batcher asks for it. -/
def UrbBatcher.pushReply (bt : UrbBatcher) (cmd : UsbIpCmdSubmit) (result : UrbResult) (now : ℕ) :
    UrbBatcher × Option Bytes :=
  match bt.push cmd result now with
  | (true, bt) => (bt.flush.2, some bt.flush.1)
  | (false, bt) => (bt, none)

/-- The state of the loop: the batcher, the URBs submitted and the messages handed to the wire. -/
structure UrbLoop where
  batcher : UrbBatcher
  submitted : List (UsbIpCmdSubmit × Bytes)
  written : List Bytes

/-- The state the loop starts in. -/
def UrbLoop.start : UrbLoop := ⟨.new, [], []⟩

/-- The loop is left, with an error when a write failed inside it. -/
structure LoopExit where
  state : UrbLoop
  result : UsbIpResult Unit

/-- Submit a URB and push its reply. The batch that is due, if any, is left to be written. -/
def UrbLoop.submit (env : UrbEnv) (st : UrbLoop) (cmd : UsbIpCmdSubmit) (data : Bytes) :
    UrbLoop × Option Bytes :=
  let k := st.submitted.length
  let (bt, due) := st.batcher.pushReply cmd (env.submitUrb k cmd data) (env.now k)
  (⟨bt, st.submitted ++ [(cmd, data)], st.written⟩, due)

/-- Hand a message to the wire. -/
def UrbLoop.write (st : UrbLoop) (batch : Bytes) : UrbLoop :=
  { st with written := st.written ++ [batch] }

/-- Flush any remaining batched replies; the outcome of this write is ignored. -/
def UrbLoop.finish (st : UrbLoop) : LoopExit :=
  if !st.batcher.isEmpty then
    ⟨{ st with batcher := st.batcher.flush.2 }.write st.batcher.flush.1, .ok ()⟩
  else ⟨st, .ok ()⟩

/-- Act on a decoded message. -/
def UrbLoop.handle (env : LoopEnv) (st : UrbLoop) : Decoded → Flow UrbLoop LoopExit
  | .leave => .stop st.finish
  | .unknown => .next st
  | .submit cmd data =>
    match st.submit env.toUrbEnv cmd data with
    | (st, none) => .next st
    | (st, some batch) =>
      match env.writeMessage st.written.length with
      | .ok () => .next (st.write batch)
      | .error e => .stop ⟨st.write batch, .error e⟩

/-- Handle one message. -/
def urbLoopBody (env : LoopEnv) (st : UrbLoop) (frame : Bytes) : Flow UrbLoop LoopExit :=
  st.handle env (decodeFrame frame)

/-- The loop, on the messages that the wire delivers before it fails. -/
def handleUrbLoop (env : LoopEnv) (messages : List Bytes) : LoopExit :=
  overFrames (urbLoopBody env) UrbLoop.finish .start messages

/-- The loop on a plain wire. -/
def handleUrbLoopPlain (env : LoopEnv) (stream : Bytes) : LoopExit :=
  readLoop readMessage (urbLoopBody env) UrbLoop.finish .start stream

/-! ## What is written -/

/-- The URBs of `CMD_SUBMIT` messages, when `k` were submitted before. -/
def LoopEnv.completedFrom (env : LoopEnv) : ℕ → List CmdSubmitFrame → List CompletedUrb
  | _, [] => []
  | k, f :: fs => ⟨f.cmd, env.submitUrb k f.cmd f.data, env.now k⟩ :: env.completedFrom (k + 1) fs

/-- The URBs of `CMD_SUBMIT` messages, in order. -/
def LoopEnv.completed (env : LoopEnv) (fs : List CmdSubmitFrame) : List CompletedUrb :=
  env.completedFrom 0 fs

/-- The batches in which the replies to a list of URBs go out. -/
def replyBatches (us : List CompletedUrb) : List (List CompletedUrb) :=
  batches Joins defaultBatchSize us

/-- **Pushing a reply is the arrival of a URB at the open batch.** -/
theorem Holds.pushReply {bt : UrbBatcher} {b : List CompletedUrb} (h : Holds bt b)
    (u : CompletedUrb) :
    Holds (bt.pushReply u.cmd u.result u.now).1 (arrive Joins defaultBatchSize b u).1 ∧
      (bt.pushReply u.cmd u.result u.now).2.toList =
        (arrive Joins defaultBatchSize b u).2.map replies := by
  by_cases hj : Joins b u
  · rw [arrive_of_joins hj, UrbBatcher.pushReply, h.push_of_joins hj]
    by_cases hlen : b.length + 1 < defaultBatchSize
    · rw [if_pos hlen, decide_eq_false (not_le.2 hlen)]
      exact ⟨h.append hlen, rfl⟩
    · rw [if_neg hlen, decide_eq_true (not_lt.1 hlen)]
      exact ⟨holds_flush h.maxBatch h.timeout, rfl⟩
  · rw [arrive_of_not_joins hj, UrbBatcher.pushReply, h.push_of_not_joins hj]
    refine ⟨holds_flush h.maxBatch h.timeout, ?_⟩
    simp [UrbBatcher.flush, h.buffer]

theorem UrbLoop.written_finish {st : UrbLoop} {b : List CompletedUrb} (h : Holds st.batcher b) :
    st.finish.state.written =
      st.written ++ (batchesFrom Joins defaultBatchSize b []).map replies := by
  unfold UrbLoop.finish
  rw [h.isEmpty, batchesFrom]
  cases b with
  | nil => simp
  | cons u b => simp [UrbLoop.write, UrbBatcher.flush, h.buffer]

/-- The URB a submission completes. -/
def UrbLoop.completed (env : UrbEnv) (st : UrbLoop) (cmd : UsbIpCmdSubmit) (data : Bytes) :
    CompletedUrb :=
  ⟨cmd, env.submitUrb st.submitted.length cmd data, env.now st.submitted.length⟩

/-- **One URB**: the batcher holds the open batch, and the batch that is due is the closed one. -/
theorem UrbLoop.submit_spec (env : UrbEnv) {st : UrbLoop} {b : List CompletedUrb}
    (h : Holds st.batcher b) (cmd : UsbIpCmdSubmit) (data : Bytes) :
    Holds (st.submit env cmd data).1.batcher
        (arrive Joins defaultBatchSize b (st.completed env cmd data)).1 ∧
      (st.submit env cmd data).2.toList =
        (arrive Joins defaultBatchSize b (st.completed env cmd data)).2.map replies ∧
      (st.submit env cmd data).1.submitted = st.submitted ++ [(cmd, data)] ∧
      (st.submit env cmd data).1.written = st.written := by
  obtain ⟨hholds, hout⟩ := h.pushReply (st.completed env cmd data)
  exact ⟨hholds, hout, rfl, rfl⟩

section Written

variable {env : LoopEnv} (hw : ∀ n, env.writeMessage n = .ok ())

include hw

/-- When its writes succeed, the loop goes on after a `CMD_SUBMIT`, and has written the batches
that the URB closed. -/
theorem urbLoopBody_eq_next {st : UrbLoop} {b : List CompletedUrb} (h : Holds st.batcher b)
    (f : CmdSubmitFrame) :
    ∃ st', urbLoopBody env st f.bytes = .next st' ∧
      Holds st'.batcher
        (arrive Joins defaultBatchSize b (st.completed env.toUrbEnv f.cmd f.data)).1 ∧
      st'.submitted = st.submitted ++ [(f.cmd, f.data)] ∧
      st'.written = st.written ++ (arrive Joins defaultBatchSize b
        (st.completed env.toUrbEnv f.cmd f.data)).2.map replies := by
  obtain ⟨hholds, hout, hsub, hwr⟩ := UrbLoop.submit_spec env.toUrbEnv h f.cmd f.data
  simp only [urbLoopBody, UrbLoop.handle, f.decodeFrame_bytes, hw]
  rw [← hout]
  rcases hs : st.submit env.toUrbEnv f.cmd f.data with ⟨st', _ | batch⟩
  · rw [hs] at hholds hsub hwr
    exact ⟨st', rfl, hholds, hsub, by simpa using hwr⟩
  · rw [hs] at hholds hsub hwr
    exact ⟨st'.write batch, rfl, hholds, hsub, by simpa [UrbLoop.write] using hwr⟩

/-- The messages of a run of `CMD_SUBMIT`s are the batches of its URBs. -/
theorem written_overFrames (fs : List CmdSubmitFrame) {st : UrbLoop} {b : List CompletedUrb}
    (h : Holds st.batcher b) :
    (overFrames (urbLoopBody env) UrbLoop.finish st (fs.map CmdSubmitFrame.bytes)).state.written =
      st.written ++
        (batchesFrom Joins defaultBatchSize b
          (env.completedFrom st.submitted.length fs)).map replies := by
  induction fs generalizing st b with
  | nil => exact UrbLoop.written_finish h
  | cons f fs ih =>
    obtain ⟨st', hst, hholds, hsub, hwr⟩ := urbLoopBody_eq_next hw h f
    have hlen : st'.submitted.length = st.submitted.length + 1 := by simp [hsub]
    simp only [List.map_cons, overFrames, hst]
    rw [ih hholds, hwr, LoopEnv.completedFrom, batchesFrom, List.map_append, List.append_assoc,
      hlen]
    rfl

/-- **What the loop writes are the batches of the completed URBs.** -/
theorem written_handleUrbLoop (fs : List CmdSubmitFrame) :
    (handleUrbLoop env (fs.map CmdSubmitFrame.bytes)).state.written =
      (replyBatches (env.completed fs)).map replies := by
  rw [handleUrbLoop, written_overFrames hw fs holds_new]
  rfl

theorem written_handleUrbLoopPlain (fs : List CmdSubmitFrame) :
    (handleUrbLoopPlain env (fs.map CmdSubmitFrame.bytes).flatten).state.written =
      (replyBatches (env.completed fs)).map replies := by
  have hframe : ∀ m ∈ fs.map CmdSubmitFrame.bytes, IsFrame readMessage m := by
    intro m hm
    obtain ⟨f, -, rfl⟩ := List.mem_map.1 hm
    exact f.isFrame_bytes
  rw [handleUrbLoopPlain, readLoop, drain_flatten selfDelimiting_readMessage.toConsuming hframe]
  exact written_handleUrbLoop hw fs

end Written

/-- **The loop writes every reply exactly once and in order** exactly when every reply may join the
batch that is open before it: there are eight replies to a batch, and within a batch the sequence
numbers are consecutive, no reply comes 200 µs or more after the first one, and the replies do not
exceed 64 KiB. -/
theorem written_eq_replies_iff (env : LoopEnv) (hw : ∀ n, env.writeMessage n = .ok ())
    (fs : List CmdSubmitFrame) :
    (handleUrbLoopPlain env (fs.map CmdSubmitFrame.bytes).flatten).state.written.flatten =
        replies (env.completed fs) ↔
      ∀ k (hk : k < (env.completed fs).length),
        Joins (openBatch defaultBatchSize ((env.completed fs).take k)) (env.completed fs)[k] := by
  rw [written_handleUrbLoopPlain hw, ← replies_flatten]
  exact (flatMap_flatten_batches_eq_iff _ CompletedUrb.reply_ne_nil _).trans
    (flatten_batches_eq_iff (by decide) _)

/-- A poll of an interrupt endpoint. -/
def pollFrame (seqnum : UInt32) : CmdSubmitFrame where
  version := usbipVersion
  status := 0
  cmd := ⟨seqnum, 1, 1, 0x81, urbDirIn, 8, 0, 0, 0, Vector.replicate 8 0⟩
  padding := Vector.replicate 4 0
  data := []
  length_data := by simp [UsbIpCmdSubmit.isIn, urbDirIn]

/-- A device with nothing to report, and a wire that takes every write. -/
def idleEnv : LoopEnv := ⟨⟨fun _ _ _ => ⟨0, 0, []⟩, fun _ => 0⟩, fun _ => .ok ()⟩

/-- Two polls in sequence are both answered. -/
theorem written_two_polls :
    (handleUrbLoopPlain idleEnv ([pollFrame 1, pollFrame 2].map
      CmdSubmitFrame.bytes).flatten).state.written.flatten =
        replies (idleEnv.completed [pollFrame 1, pollFrame 2]) :=
  (written_eq_replies_iff idleEnv (fun _ => rfl) [pollFrame 1, pollFrame 2]).2 (by decide +kernel)

/-- The reply to the second of two polls is lost when its sequence number is not the successor of
the first. -/
theorem written_poll_jump :
    (handleUrbLoopPlain idleEnv ([pollFrame 1, pollFrame 5].map
      CmdSubmitFrame.bytes).flatten).state.written.flatten ≠
        replies (idleEnv.completed [pollFrame 1, pollFrame 5]) := by
  rw [written_handleUrbLoopPlain fun _ => rfl]
  decide +kernel

end AnyPlug
