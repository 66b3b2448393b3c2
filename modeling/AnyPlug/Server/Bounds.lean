import AnyPlug.Server.UrbLoop

/-!
# The URB loop on arbitrary messages

An encrypted peer chooses the bytes of a message freely: nothing ties its length to the lengths that
are written in it. `decodeFrameChecked` is the decoding of `handle_urb_loop` with every slice and
every sum of `usize` checked, for a `Target` that says how wide `usize` is and whether overflow
checks are on; `none` stands for the panic of the source.

The sum is `data_start + data_len`, of 48 and a `u32`. On a 64-bit target it never overflows. On a
32-bit one it can: with overflow checks the sum panics, and in a release build it wraps to less than
48, so the slice that starts at 48 is out of range. `urbLoopBody_exact_iff` says that the loop is
safe and exact just where the sum fits (`SumFits`), and `sumFits_of_readMessage` that it fits
whatever the plain wire delivers.

On the plain wire a message is a frame, and no frame is malformed (`Frame.decodeFrame_ne_leave`).
-/

namespace AnyPlug

/-! ## The target -/

/-- The width of `usize`. -/
inductive PointerWidth
  | w32
  | w64
  deriving DecidableEq

/-- What the build decides: the width of `usize`, and whether overflows are checked. -/
structure Target where
  pointerWidth : PointerWidth
  overflowChecks : Bool

/-- A release build for a 32-bit machine. -/
def Target.release32 : Target := ⟨.w32, false⟩

/-- The number of values of a `usize`. -/
def Target.usizeSize (target : Target) : ℕ :=
  match target.pointerWidth with
  | .w32 => 2 ^ 32
  | .w64 => 2 ^ 64

/-- The sum of two `usize`. Where it overflows it panics or wraps, as the build decides. -/
def addUsize (target : Target) (a b : ℕ) : Option ℕ :=
  if a + b < target.usizeSize then some (a + b)
  else if target.overflowChecks then none
  else some ((a + b) % target.usizeSize)

theorem Target.two_pow_le_usizeSize (target : Target) : 2 ^ 32 ≤ target.usizeSize := by
  unfold usizeSize
  cases target.pointerWidth with
  | w32 => exact le_rfl
  | w64 => exact Nat.pow_le_pow_right (by decide) (by decide)

theorem addUsize_of_lt {target : Target} {a b : ℕ} (h : a + b < target.usizeSize) :
    addUsize target a b = some (a + b) := if_pos h

/-- A sum that overflows and does not panic is smaller than its first part. -/
theorem lt_of_addUsize_eq_some {target : Target} {a b c : ℕ} (hb : b < target.usizeSize)
    (hover : target.usizeSize ≤ a + b) (ha : a < target.usizeSize)
    (h : addUsize target a b = some c) : c < a := by
  rw [addUsize, if_neg (not_lt.2 hover)] at h
  split at h
  · cases h
  · obtain rfl := Option.some.inj h
    rw [Nat.mod_eq_sub_mod hover, Nat.mod_eq_of_lt (by omega)]
    omega

/-! ## The checked decoding -/

/-- Decode a message, every slice and every sum checked. -/
def decodeFrameChecked (target : Target) (frame : Bytes) : Option Decoded :=
  if frame.length < UsbIpHeader.size then some .leave
  else do
    let head ← slice frame 0 UsbIpHeader.size
    match UsbIpHeader.readFromPrefix head with
    | none => return .leave
    | some (header, _) =>
      if header.command = usbipCmdSubmit then
        let headerPayload ← slice frame UsbIpHeader.size frame.length
        if headerPayload.length < UsbIpCmdSubmit.headerSize then return .leave
        else
          let record ← slice headerPayload 0 UsbIpCmdSubmit.headerSize
          match UsbIpCmdSubmit.readFromPrefix record with
          | none => return .leave
          | some (cmd, _) =>
            let dataLen := cmd.dataLen.toNat
            let dataStart := UsbIpCmdSubmit.headerSize
            if !cmd.isIn && 0 < dataLen then
              let dataEnd ← addUsize target dataStart dataLen
              if headerPayload.length < dataEnd then return .leave
              else
                let dataEnd ← addUsize target dataStart dataLen
                let data ← slice headerPayload dataStart dataEnd
                return .submit cmd data
            else return .submit cmd []
      else return .unknown

/-- The message is a `CMD_SUBMIT` with a whole body, whose record is `cmd`. -/
def HasRecord (frame : Bytes) (cmd : UsbIpCmdSubmit) : Prop :=
  UsbIpHeader.size ≤ frame.length ∧
    (∃ header left, UsbIpHeader.readFromPrefix (frame.take UsbIpHeader.size) = some (header, left) ∧
      header.command = usbipCmdSubmit) ∧
    48 ≤ (frame.drop UsbIpHeader.size).length ∧
    ∃ pad, UsbIpCmdSubmit.readFromPrefix ((frame.drop UsbIpHeader.size).take 48) = some (cmd, pad)

section Record

variable {frame : Bytes} {cmd : UsbIpCmdSubmit}

theorem HasRecord.headerSize_le (h : HasRecord frame cmd) :
    UsbIpCmdSubmit.headerSize ≤ (frame.drop UsbIpHeader.size).length := h.2.2.1

theorem HasRecord.readFromPrefix (h : HasRecord frame cmd) :
    ∃ pad, UsbIpCmdSubmit.readFromPrefix
      ((frame.drop UsbIpHeader.size).take UsbIpCmdSubmit.headerSize) = some (cmd, pad) := h.2.2.2

/-- An OUT transfer with a length is one that has data on the wire. -/
theorem UsbIpCmdSubmit.out_and_pos (hin : cmd.isIn = false)
    (hpos : 0 < cmd.transferBufferLength.toNat) :
    (!cmd.isIn && decide (0 < cmd.dataLen.toNat)) = true := by
  rw [hin, Bool.not_false, Bool.true_and, decide_eq_true_iff]
  exact hpos

end Record

/-- The end of the data that the message announces is a `usize`. -/
def SumFits (target : Target) (frame : Bytes) : Prop :=
  ∀ cmd, HasRecord frame cmd → cmd.isIn = false →
    48 + cmd.transferBufferLength.toNat < target.usizeSize

/-- **No slice is out of range** and no sum overflows where the end of the data is a `usize`. -/
theorem decodeFrameChecked_of_sumFits {target : Target} {frame : Bytes}
    (hfits : SumFits target frame) :
    decodeFrameChecked target frame = some (decodeFrame frame) := by
  unfold decodeFrameChecked decodeFrame
  by_cases hlen : frame.length < UsbIpHeader.size
  · rw [if_pos hlen, if_pos hlen]
  · rw [if_neg hlen, if_neg hlen, slice_take (not_lt.1 hlen), slice_drop (not_lt.1 hlen)]
    simp only [Option.bind_eq_bind, Option.bind_some]
    rcases hhead : UsbIpHeader.readFromPrefix (frame.take UsbIpHeader.size) with _ | ⟨header, left⟩
    · rfl
    dsimp only
    by_cases hcmd : header.command = usbipCmdSubmit
    · rw [if_pos hcmd, if_pos hcmd]
      by_cases hsize : (frame.drop UsbIpHeader.size).length < UsbIpCmdSubmit.headerSize
      · rw [if_pos hsize, if_pos hsize]
        rfl
      · rw [if_neg hsize, if_neg hsize, slice_take (not_lt.1 hsize), Option.bind_some]
        rcases hrec : UsbIpCmdSubmit.readFromPrefix
          ((frame.drop UsbIpHeader.size).take UsbIpCmdSubmit.headerSize) with _ | ⟨cmd, pad⟩
        · rfl
        dsimp only
        by_cases hout : (!cmd.isIn && decide (0 < cmd.dataLen.toNat)) = true
        · have hin : cmd.isIn = false := by
            rw [Bool.and_eq_true, Bool.not_eq_true'] at hout
            exact hout.1
          have hlt : UsbIpCmdSubmit.headerSize + cmd.dataLen.toNat < target.usizeSize :=
            hfits cmd ⟨not_lt.1 hlen, ⟨header, left, hhead, hcmd⟩, not_lt.1 hsize, pad, hrec⟩ hin
          rw [if_pos hout, if_pos hout, addUsize_of_lt hlt, Option.bind_some]
          by_cases hdata : (frame.drop UsbIpHeader.size).length <
              UsbIpCmdSubmit.headerSize + cmd.dataLen.toNat
          · rw [if_pos hdata, if_pos hdata]
            rfl
          · rw [if_neg hdata, if_neg hdata, Option.bind_some, slice_add (not_lt.1 hdata)]
            rfl
        · rw [if_neg hout, if_neg hout]
          rfl
    · rw [if_neg hcmd, if_neg hcmd]
      rfl

/-- **The decoding panics** where the end of the data is no `usize`: at the sum where overflows are
checked, and else at the slice, which ends before it starts. -/
theorem decodeFrameChecked_of_not_sumFits {target : Target} {frame : Bytes}
    (hfits : ¬SumFits target frame) : decodeFrameChecked target frame = none := by
  unfold SumFits at hfits
  push Not at hfits
  obtain ⟨cmd, hrec, hin, hover⟩ := hfits
  have hsize := hrec.headerSize_le
  obtain ⟨pad, hrecord⟩ := hrec.readFromPrefix
  obtain ⟨hlen, ⟨header, left, hhead, hcmd⟩, -⟩ := hrec
  have hsmall := target.two_pow_le_usizeSize
  have hlt : cmd.transferBufferLength.toNat < 2 ^ 32 := cmd.transferBufferLength.toNat_lt
  have hout := UsbIpCmdSubmit.out_and_pos hin (by omega)
  unfold decodeFrameChecked
  rw [if_neg (not_lt.2 hlen), slice_take hlen, slice_drop hlen]
  simp only [Option.bind_eq_bind, Option.bind_some, hhead, if_pos hcmd]
  rw [if_neg (not_lt.2 hsize), slice_take hsize, Option.bind_some, hrecord]
  dsimp only
  rw [if_pos hout]
  cases hsum : addUsize target UsbIpCmdSubmit.headerSize cmd.dataLen.toNat with
  | none => rfl
  | some dataEnd =>
    have hend : dataEnd < UsbIpCmdSubmit.headerSize :=
      lt_of_addUsize_eq_some (hlt.trans_le hsmall) hover
        (lt_of_lt_of_le (by decide) hsmall) hsum
    have hslice : slice (frame.drop UsbIpHeader.size) UsbIpCmdSubmit.headerSize dataEnd = none :=
      if_neg fun h => absurd h.1 (not_le.2 hend)
    have hlong : ¬(frame.drop UsbIpHeader.size).length < dataEnd :=
      not_lt.2 (hend.le.trans hsize)
    rw [Option.bind_some, if_neg hlong, Option.bind_some, hslice]
    rfl

/-- The decoding does not panic exactly where the end of the data is a `usize`. -/
theorem decodeFrameChecked_ne_none_iff {target : Target} {frame : Bytes} :
    decodeFrameChecked target frame ≠ none ↔ SumFits target frame := by
  refine ⟨fun h => ?_, fun h => ?_⟩
  · by_contra hfits
    exact h (decodeFrameChecked_of_not_sumFits hfits)
  · rw [decodeFrameChecked_of_sumFits h]
    exact Option.some_ne_none _

/-- On a 64-bit target the end of the data is always a `usize`. -/
theorem sumFits_of_w64 {target : Target} (h : target.pointerWidth = .w64) (frame : Bytes) :
    SumFits target frame := by
  intro cmd _ _
  have hlt : cmd.transferBufferLength.toNat < 2 ^ 32 := cmd.transferBufferLength.toNat_lt
  rw [Target.usizeSize, h]
  dsimp only
  omega

/-! ## The messages that submit a URB -/

/-- The message is a complete `CMD_SUBMIT` with the record `cmd`: a header, a body of 48 bytes and,
unless the transfer is IN, the data. -/
def IsSubmit (frame : Bytes) (cmd : UsbIpCmdSubmit) : Prop :=
  HasRecord frame cmd ∧
    (cmd.isIn = false →
      48 + cmd.transferBufferLength.toNat ≤ (frame.drop UsbIpHeader.size).length)

/-- The data of a `CMD_SUBMIT`: the bytes from 56 on for OUT, and none for IN. -/
def submitData (frame : Bytes) (cmd : UsbIpCmdSubmit) : Bytes :=
  if cmd.isIn then [] else (frame.drop 56).take cmd.transferBufferLength.toNat

section Submit

variable {header : UsbIpHeader} {payload : Bytes}

/-- A message with another command is not submitted. -/
theorem decodeFrame_of_command_ne (h : header.command ≠ usbipCmdSubmit) :
    decodeFrame (header.asBytes ++ payload) = .unknown := by
  rw [decodeFrame, if_neg (by simp), List.take_left' (UsbIpHeader.length_asBytes _),
    UsbIpHeader.readFromPrefix_asBytes]
  exact if_neg h

/-- A `CMD_SUBMIT` with a short body ends the loop. -/
theorem decodeFrame_of_short (h : header.command = usbipCmdSubmit) (hlt : payload.length < 48) :
    decodeFrame (header.asBytes ++ payload) = .leave := by
  rw [decodeFrame, if_neg (by simp), List.take_left' (UsbIpHeader.length_asBytes _),
    List.drop_left' (UsbIpHeader.length_asBytes _), UsbIpHeader.readFromPrefix_asBytes]
  dsimp only
  rw [if_pos h]
  exact if_pos hlt

/-- A `CMD_SUBMIT` with a whole body is submitted when its data is there. -/
theorem decodeFrame_of_record (h : header.command = usbipCmdSubmit) (cmd : UsbIpCmdSubmit)
    {pad rest : Bytes} (hpad : pad.length = 4) :
    decodeFrame (header.asBytes ++ (cmd.asBytes ++ pad ++ rest)) =
      if cmd.isIn then .submit cmd []
      else if rest.length < cmd.transferBufferLength.toNat then .leave
      else .submit cmd (rest.take cmd.transferBufferLength.toNat) := by
  have hrec : (cmd.asBytes ++ pad).length = UsbIpCmdSubmit.headerSize := by
    rw [List.length_append, UsbIpCmdSubmit.length_asBytes, hpad]
    rfl
  rw [decodeFrame, if_neg (by simp), List.take_left' (UsbIpHeader.length_asBytes _),
    List.drop_left' (UsbIpHeader.length_asBytes _), UsbIpHeader.readFromPrefix_asBytes]
  dsimp only
  rw [if_pos h, List.length_append, hrec, if_neg (by omega), List.take_left' hrec,
    UsbIpCmdSubmit.readFromPrefix_asBytes_append]
  dsimp only
  rw [List.drop_left' hrec, UsbIpCmdSubmit.dataLen]
  cases hin : cmd.isIn with
  | true => rfl
  | false =>
    rw [if_neg Bool.false_ne_true]
    rcases Nat.eq_zero_or_pos cmd.transferBufferLength.toNat with h0 | hpos
    · simp [h0]
    · rw [if_pos (by simp [hpos])]
      by_cases hlt : rest.length < cmd.transferBufferLength.toNat
      · rw [if_pos (by omega), if_pos hlt]
      · rw [if_neg (by omega), if_neg hlt]

/-- **Which messages are submitted, and with which data.** -/
theorem decodeFrame_eq_submit_iff (frame : Bytes) (cmd : UsbIpCmdSubmit) (data : Bytes) :
    decodeFrame frame = .submit cmd data ↔ IsSubmit frame cmd ∧ data = submitData frame cmd := by
  by_cases hlen : frame.length < UsbIpHeader.size
  · rw [decodeFrame, if_pos hlen]
    exact ⟨fun h => (by cases h), fun h => absurd h.1.1.1 (not_le.2 hlen)⟩
  obtain ⟨header, payload, rfl⟩ := UsbIpHeader.codec.exists_encode_append (not_lt.1 hlen)
  change decodeFrame (header.asBytes ++ payload) = _ ↔
    IsSubmit (header.asBytes ++ payload) cmd ∧ data = submitData (header.asBytes ++ payload) cmd
  have htake : (header.asBytes ++ payload).take UsbIpHeader.size = header.asBytes :=
    List.take_left' (UsbIpHeader.length_asBytes header)
  have hdrop : (header.asBytes ++ payload).drop UsbIpHeader.size = payload :=
    List.drop_left' (UsbIpHeader.length_asBytes header)
  unfold IsSubmit HasRecord submitData
  rw [htake, UsbIpHeader.readFromPrefix_asBytes, hdrop]
  by_cases hcmd : header.command = usbipCmdSubmit
  · by_cases hshort : payload.length < 48
    · rw [decodeFrame_of_short hcmd hshort]
      exact ⟨fun h => (by cases h), fun h => absurd h.1.1.2.2.1 (not_le.2 hshort)⟩
    · obtain ⟨cmd₀, pad, rest, hpad, rfl⟩ := UsbIpCmdSubmit.exists_record (not_lt.1 hshort)
      rw [decodeFrame_of_record hcmd cmd₀ hpad]
      have hrec : (cmd₀.asBytes ++ pad).length = 48 := by
        rw [List.length_append, UsbIpCmdSubmit.length_asBytes, hpad]
      have hdata : (header.asBytes ++ (cmd₀.asBytes ++ pad ++ rest)).drop 56 = rest := by
        rw [← List.append_assoc, List.drop_left']
        simp [hpad, UsbIpHeader.size]
      have hlength : (cmd₀.asBytes ++ pad ++ rest).length = 48 + rest.length := by
        rw [List.length_append, hrec]
      rw [hdata, hlength, List.take_left' hrec, UsbIpCmdSubmit.readFromPrefix_asBytes_append]
      constructor
      · intro h
        split at h
        · rename_i hin
          obtain ⟨rfl, rfl⟩ := Decoded.submit.inj h
          refine ⟨⟨⟨not_lt.1 hlen, ⟨header, _, rfl, hcmd⟩, by omega, ⟨_, rfl⟩⟩, ?_⟩, ?_⟩
          · rw [hin]
            intro h
            cases h
          · rw [if_pos hin]
        · rename_i hin
          split at h
          · cases h
          · rename_i hlt
            obtain ⟨rfl, rfl⟩ := Decoded.submit.inj h
            exact ⟨⟨⟨not_lt.1 hlen, ⟨header, _, rfl, hcmd⟩, by omega, ⟨_, rfl⟩⟩, fun _ => by omega⟩,
              by rw [if_neg hin]⟩
      · rintro ⟨⟨⟨-, -, -, ⟨left, hcmd₀⟩⟩, hlong⟩, rfl⟩
        obtain ⟨rfl, -⟩ := Prod.mk.inj (Option.some.inj hcmd₀)
        by_cases hin : cmd₀.isIn = true
        · rw [if_pos hin, if_pos hin]
        · have hlong := hlong (Bool.eq_false_iff.2 hin)
          rw [if_neg hin, if_neg hin, if_neg (by omega)]
  · rw [decodeFrame_of_command_ne hcmd]
    refine ⟨fun h => (by cases h), fun h => ?_⟩
    obtain ⟨⟨⟨-, ⟨header', left, heq, hcmd'⟩, -⟩, -⟩, -⟩ := h
    obtain ⟨rfl, -⟩ := Prod.mk.inj (Option.some.inj heq)
    exact absurd hcmd' hcmd

end Submit

/-- A well-formed message is a `CMD_SUBMIT`, or is skipped. -/
theorem Frame.cmdSubmit_or_decodeFrame_eq (f : Frame) :
    (∃ g, f = .cmdSubmit g) ∨ decodeFrame f.bytes = .unknown := by
  cases f with
  | cmdSubmit f => exact .inl ⟨f, rfl⟩
  | retSubmit f =>
    rw [Frame.bytes, RetSubmitFrame.bytes, List.append_assoc]
    exact .inr (decodeFrame_of_command_ne usbipRetSubmit_ne_cmdSubmit)
  | retUnlink f => exact .inr (decodeFrame_of_command_ne usbipRetUnlink_ne_cmdSubmit)
  | unknown f =>
    rw [Frame.bytes, ← List.append_nil f.header.asBytes]
    exact .inr (decodeFrame_of_command_ne f.unknown.1)

/-- No well-formed message ends the loop. -/
theorem Frame.decodeFrame_ne_leave (f : Frame) : decodeFrame f.bytes ≠ .leave := by
  intro h
  rcases f.cmdSubmit_or_decodeFrame_eq with ⟨g, rfl⟩ | hunknown
  · rw [Frame.bytes, g.decodeFrame_bytes] at h
    cases h
  · rw [hunknown] at h
    cases h

/-! ## The body of the loop -/

/-- The URBs that were submitted when a message has been handled. -/
def Flow.submitted : Flow UrbLoop LoopExit → List (UsbIpCmdSubmit × Bytes)
  | .next st => st.submitted
  | .stop exit => exit.state.submitted

/-- The writes made when a message was handled, those before it included. -/
def Flow.written : Flow UrbLoop LoopExit → List Bytes
  | .next st => st.written
  | .stop exit => exit.state.written

/-- The URB that a message submits. -/
def Decoded.urb? : Decoded → Option (UsbIpCmdSubmit × Bytes)
  | .submit cmd data => some (cmd, data)
  | .leave | .unknown => none

theorem UrbLoop.submitted_finish (st : UrbLoop) : st.finish.state.submitted = st.submitted := by
  unfold UrbLoop.finish
  split <;> rfl

/-- What is submitted is what the message decodes to. -/
theorem UrbLoop.submitted_handle (env : LoopEnv) (st : UrbLoop) (d : Decoded) :
    (st.handle env d).submitted = st.submitted ++ d.urb?.toList := by
  cases d with
  | leave => simp [handle, Flow.submitted, Decoded.urb?, st.submitted_finish]
  | unknown => simp [handle, Flow.submitted, Decoded.urb?]
  | submit cmd data =>
    have hsub : (st.submit env.toUrbEnv cmd data).1.submitted = st.submitted ++ [(cmd, data)] := rfl
    rw [handle]
    rcases hs : st.submit env.toUrbEnv cmd data with ⟨st', _ | batch⟩
    · rw [hs] at hsub
      exact hsub
    · rw [hs] at hsub
      dsimp only
      cases env.writeMessage st'.written.length with
      | ok _ => exact hsub
      | error _ => exact hsub

theorem UrbLoop.exists_written_finish (st : UrbLoop) :
    ∃ ws, st.finish.state.written = st.written ++ ws := by
  unfold UrbLoop.finish
  split
  · exact ⟨_, rfl⟩
  · exact ⟨[], (List.append_nil _).symm⟩

/-- Handling a message only adds to what was written. -/
theorem exists_written_urbLoopBody (env : LoopEnv) (st : UrbLoop) (frame : Bytes) :
    ∃ ws, (urbLoopBody env st frame).written = st.written ++ ws := by
  unfold urbLoopBody
  cases decodeFrame frame with
  | leave => exact st.exists_written_finish
  | unknown => exact ⟨[], (List.append_nil _).symm⟩
  | submit cmd data =>
    have hwritten : (st.submit env.toUrbEnv cmd data).1.written = st.written := rfl
    rw [UrbLoop.handle]
    rcases hs : st.submit env.toUrbEnv cmd data with ⟨st', _ | batch⟩
    · rw [hs] at hwritten
      exact ⟨[], hwritten.trans (List.append_nil _).symm⟩
    · rw [hs] at hwritten
      have hbatch : (st'.write batch).written = st.written ++ [batch] := by
        rw [UrbLoop.write, hwritten]
      dsimp only
      split
      · exact ⟨_, hbatch⟩
      · exact ⟨_, hbatch⟩

/-- The URBs submitted so far are the first of those that the loop submits. -/
theorem submitted_prefix_overFrames (env : LoopEnv) (st : UrbLoop) (ms : List Bytes) :
    st.submitted <+: (overFrames (urbLoopBody env) UrbLoop.finish st ms).state.submitted := by
  induction ms generalizing st with
  | nil => rw [overFrames, st.submitted_finish]
  | cons m ms ih =>
    have hsub : st.submitted <+: (urbLoopBody env st m).submitted := by
      rw [urbLoopBody, UrbLoop.submitted_handle]
      exact List.prefix_append _ _
    rw [overFrames]
    cases hbody : urbLoopBody env st m with
    | next st' =>
      rw [hbody] at hsub
      exact hsub.trans (ih st')
    | stop exit =>
      rw [hbody] at hsub
      exact hsub

/-! ## The loop on a target -/

/-- Handle one message, the decoding checked. -/
def urbLoopBodyChecked (target : Target) (env : LoopEnv) (st : UrbLoop) (frame : Bytes) :
    Option (Flow UrbLoop LoopExit) :=
  (decodeFrameChecked target frame).map (st.handle env)

/-- The loop is safe and exact on a message: it does not panic; the message is submitted, once,
exactly when it is a complete `CMD_SUBMIT`, with the bytes from 56 on as data for OUT and none for
IN; and a message that the plain reader returns does not end the loop. -/
structure ExactOn (target : Target) (frame : Bytes) : Prop where
  safe : ∀ env st, urbLoopBodyChecked target env st frame ≠ none
  submits : ∀ env st flow, urbLoopBodyChecked target env st frame = some flow →
    ∃ urb : Option (UsbIpCmdSubmit × Bytes), flow.submitted = st.submitted ++ urb.toList ∧
      ∀ cmd data, urb = some (cmd, data) ↔ IsSubmit frame cmd ∧ data = submitData frame cmd
  plain : ∀ stream rest, readMessage stream = .ok (frame, rest) →
    decodeFrameChecked target frame ≠ some .leave

/-- A `CMD_SUBMIT` whose data is cut short ends the loop. -/
theorem decodeFrame_of_cut {frame : Bytes} {cmd : UsbIpCmdSubmit} (h : HasRecord frame cmd)
    (hin : cmd.isIn = false)
    (hcut : (frame.drop UsbIpHeader.size).length < 48 + cmd.transferBufferLength.toNat) :
    decodeFrame frame = .leave := by
  have hsize := h.headerSize_le
  obtain ⟨pad, hrecord⟩ := h.readFromPrefix
  obtain ⟨hlen, ⟨header, left, hhead, hcmd⟩, -⟩ := h
  -- with a length of zero the body, which is whole, would not be too short
  have hpos : 0 < cmd.transferBufferLength.toNat := by
    have hbody : 48 ≤ (frame.drop UsbIpHeader.size).length := hsize
    omega
  have hout := UsbIpCmdSubmit.out_and_pos hin hpos
  rw [decodeFrame, if_neg (not_lt.2 hlen), hhead]
  dsimp only
  rw [if_pos hcmd, if_neg (not_lt.2 hsize), hrecord]
  dsimp only
  rw [if_pos hout]
  exact if_pos hcut

/-- **Whatever the plain wire delivers fits**, if the target can hold it. -/
theorem sumFits_of_readMessage {target : Target} {stream frame rest : Bytes}
    (h : readMessage stream = .ok (frame, rest)) (hlen : frame.length < target.usizeSize) :
    SumFits target frame := by
  intro cmd hrec hin
  by_contra hover
  obtain ⟨f, rfl, -⟩ := exists_frame_of_readMessage h
  have hdrop := List.length_drop (i := UsbIpHeader.size) (l := f.bytes)
  exact f.decodeFrame_ne_leave (decodeFrame_of_cut hrec hin (by omega))

theorem exactOn_of_sumFits {target : Target} {frame : Bytes} (hfits : SumFits target frame) :
    ExactOn target frame := by
  have hdecode := decodeFrameChecked_of_sumFits hfits
  refine ⟨fun env st => ?_, fun env st flow hflow => ?_, fun stream rest h => ?_⟩
  · rw [urbLoopBodyChecked, hdecode]
    exact Option.some_ne_none _
  · rw [urbLoopBodyChecked, hdecode] at hflow
    obtain rfl := Option.some.inj hflow
    refine ⟨(decodeFrame frame).urb?, st.submitted_handle env _, fun cmd data => ?_⟩
    rw [← decodeFrame_eq_submit_iff]
    cases decodeFrame frame <;> simp [Decoded.urb?]
  · obtain ⟨f, rfl, -⟩ := exists_frame_of_readMessage h
    rw [hdecode]
    exact fun hleave => f.decodeFrame_ne_leave (Option.some.inj hleave)

/-- **The loop is safe and exact on a message** exactly where the end of the data it announces is a
`usize`. -/
theorem urbLoopBody_exact_iff (target : Target) (frame : Bytes) :
    ExactOn target frame ↔ SumFits target frame := by
  refine ⟨fun h => ?_, exactOn_of_sumFits⟩
  refine decodeFrameChecked_ne_none_iff.1 fun hnone => h.safe idleEnv .start ?_
  rw [urbLoopBodyChecked, hnone, Option.map_none]

/-- On a 64-bit target the loop is safe and exact on every message. -/
theorem exactOn_of_w64 {target : Target} (h : target.pointerWidth = .w64) (frame : Bytes) :
    ExactOn target frame :=
  exactOn_of_sumFits (sumFits_of_w64 h frame)

/-- On the plain wire it is safe and exact on every message the target can hold. -/
theorem exactOn_of_readMessage {target : Target} {stream frame rest : Bytes}
    (h : readMessage stream = .ok (frame, rest)) (hlen : frame.length < target.usizeSize) :
    ExactOn target frame :=
  exactOn_of_sumFits (sumFits_of_readMessage h hlen)

/-- A `CMD_SUBMIT` that announces `2 ^ 32 - 16` bytes of data and carries none. -/
def endlessSubmit : Bytes :=
  (⟨usbipVersion, usbipCmdSubmit, 0⟩ : UsbIpHeader).asBytes ++
    ((⟨1, 1, 0, 2, 0, 0xFFFFFFF0, 0, 0, 0, Vector.replicate 8 0⟩ : UsbIpCmdSubmit).asBytes ++
      [0, 0, 0, 0])

/-- On a 32-bit release build the loop panics on it: the sum is 32, and the slice `[48..32]`. -/
theorem not_exactOn_endlessSubmit : ¬ExactOn .release32 endlessSubmit := by
  intro h
  exact h.safe idleEnv .start (by decide +kernel)

end AnyPlug
