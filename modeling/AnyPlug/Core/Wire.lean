import AnyPlug.Core.Frame
import AnyPlug.Foundations.Framing

/-!
# Plain framing of the URB exchange

`readMessage` is `usbip-core/src/wire.rs`: an 8-byte header, then what the command and the fields
of its record announce, with no length prefix. It reads exactly the well-formed messages:

* `Frame.isFrame_bytes`: a frame is read as exactly itself, whatever follows it;
* `exists_frame_of_readMessage`: whatever is read is a frame, followed by the rest of the stream.
-/

namespace AnyPlug

/-! ## Reading an exact number of bytes -/

/-- `read_exact`: the next `n` bytes of a stream, or an error when it ends before. -/
def readExact (n : ℕ) (stream : Bytes) : UsbIpResult (Bytes × Bytes) :=
  if n ≤ stream.length then .ok (stream.take n, stream.drop n) else .error (.io .unexpectedEof)

theorem readExact_append {n : ℕ} {a : Bytes} (h : a.length = n) (rest : Bytes) :
    readExact n (a ++ rest) = .ok (a, rest) := by
  rw [readExact, if_pos (by simp [h]), List.take_left' h, List.drop_left' h]

theorem readExact_eq_ok {n : ℕ} {stream a rest : Bytes} :
    readExact n stream = .ok (a, rest) ↔ a.length = n ∧ a ++ rest = stream := by
  constructor
  · intro h
    unfold readExact at h
    split at h
    · simp only [Except.ok.injEq, Prod.mk.injEq] at h
      obtain ⟨rfl, rfl⟩ := h
      exact ⟨by simpa using ‹n ≤ stream.length›, List.take_append_drop n stream⟩
    · cases h
  · rintro ⟨h, rfl⟩
    exact readExact_append h rest

/-! ## Reading a message -/

/-- Read one message (header and command-specific payload) off a stream. -/
def readMessage (stream : Bytes) : UsbIpResult (Bytes × Bytes) := do
  let (buf, stream) ← readExact UsbIpHeader.size stream
  let (header, _) ← okOr (UsbIpHeader.readFromPrefix buf) (.invalidMessage "truncated header")
  if header.command = usbipCmdSubmit then
    let (rest, stream) ← readExact UsbIpCmdSubmit.headerSize stream
    let (cmd, _) ← okOr (UsbIpCmdSubmit.readFromPrefix rest)
      (.invalidMessage "truncated CMD_SUBMIT")
    if !cmd.isIn && 0 < cmd.dataLen then
      let (data, stream) ← readExact cmd.dataLen.toNat stream
      return (buf ++ rest ++ data, stream)
    else
      return (buf ++ rest, stream)
  else if header.command = usbipRetSubmit then
    let (rest, stream) ← readExact UsbIpRetSubmit.headerSize stream
    let (ret, _) ← okOr (UsbIpRetSubmit.readFromPrefix rest)
      (.invalidMessage "truncated RET_SUBMIT")
    if ret.hasData then
      let (data, stream) ← readExact ret.actualLen.toNat stream
      return (buf ++ rest ++ data, stream)
    else
      return (buf ++ rest, stream)
  else if header.command = usbipRetUnlink then
    let (rest, stream) ← readExact UsbIpRetUnlink.size stream
    return (buf ++ rest, stream)
  else
    -- an unknown command: the header alone, the caller decides
    return (buf, stream)

/-! ## A frame is read as itself -/

theorem CmdSubmitFrame.isFrame_bytes (f : CmdSubmitFrame) : IsFrame readMessage f.bytes := by
  intro rest
  have hlen : (f.cmd.asBytes ++ f.padding.toList).length = UsbIpCmdSubmit.headerSize := by
    simp [UsbIpCmdSubmit.headerSize]
  have hd := f.length_data
  rw [bytes, List.append_assoc, List.append_assoc, readMessage,
    readExact_append (UsbIpHeader.length_asBytes _)]
  simp only [ok_bind, UsbIpHeader.readFromPrefix_asBytes, okOr_some, if_true,
    readExact_append hlen, UsbIpCmdSubmit.readFromPrefix_asBytes_append]
  split
  · rename_i hout
    rw [if_pos (by simp_all)] at hd
    rw [readExact_append hd]
    rfl
  · rename_i hin
    -- either an IN transfer or an OUT transfer of length zero: no data on the wire
    have hnil : f.data = [] := by
      apply List.length_eq_zero_iff.1
      rw [hd]
      split
      · rename_i hin'
        simp_all [UInt32.lt_iff_toNat_lt]
      · rfl
    simp [hnil]
    rfl

theorem RetSubmitFrame.isFrame_bytes (f : RetSubmitFrame) : IsFrame readMessage f.bytes := by
  intro rest
  have hd := f.length_data
  rw [bytes, List.append_assoc, List.append_assoc, readMessage,
    readExact_append (UsbIpHeader.length_asBytes _)]
  simp only [ok_bind, UsbIpHeader.readFromPrefix_asBytes, okOr_some,
    usbipRetSubmit_ne_cmdSubmit, if_false, if_true,
    readExact_append (UsbIpRetSubmit.length_asBytes _), UsbIpRetSubmit.readFromPrefix_asBytes]
  split
  · rename_i hdata
    rw [if_pos hdata] at hd
    rw [readExact_append hd]
    rfl
  · rename_i hdata
    rw [if_neg hdata] at hd
    simp [List.length_eq_zero_iff.1 hd]
    rfl

theorem RetUnlinkFrame.isFrame_bytes (f : RetUnlinkFrame) : IsFrame readMessage f.bytes := by
  intro rest
  rw [bytes, List.append_assoc, readMessage, readExact_append (UsbIpHeader.length_asBytes _)]
  simp only [ok_bind, UsbIpHeader.readFromPrefix_asBytes, okOr_some,
    usbipRetUnlink_ne_cmdSubmit, usbipRetUnlink_ne_retSubmit, if_false, if_true,
    readExact_append (UsbIpRetUnlink.length_asBytes _)]
  rfl

theorem UnknownFrame.isFrame_bytes (f : UnknownFrame) : IsFrame readMessage f.header.asBytes := by
  intro rest
  obtain ⟨h1, h2, h3⟩ := f.unknown
  rw [readMessage, readExact_append (UsbIpHeader.length_asBytes _)]
  simp only [ok_bind, UsbIpHeader.readFromPrefix_asBytes, okOr_some, h1, h2, h3, if_false]
  rfl

/-- **A frame is read as exactly itself, whatever follows it.** -/
theorem Frame.isFrame_bytes (f : Frame) : IsFrame readMessage f.bytes := by
  cases f with
  | cmdSubmit f => exact f.isFrame_bytes
  | retSubmit f => exact f.isFrame_bytes
  | retUnlink f => exact f.isFrame_bytes
  | unknown f => exact f.isFrame_bytes

/-! ## Whatever is read is a frame -/

/-- The reading of the data section: the data that an announced length calls for. -/
theorem readData_eq_ok {n : ℕ} {pre stream m rest : Bytes} {announced : Bool}
    (h : (if announced = true then do
        let (data, stream) ← readExact n stream
        return (pre ++ data, stream)
      else return (pre, stream) : UsbIpResult (Bytes × Bytes)) = .ok (m, rest)) :
    ∃ data, data.length = (if announced = true then n else 0) ∧ m = pre ++ data ∧
      data ++ rest = stream := by
  cases announced with
  | false =>
    obtain ⟨rfl, rfl⟩ := Prod.mk.inj (Except.ok.inj h)
    exact ⟨[], rfl, by simp, rfl⟩
  | true =>
    rw [if_pos rfl, bind_eq_ok] at h
    obtain ⟨⟨data, stream'⟩, hr, h⟩ := h
    obtain ⟨hlen, rfl⟩ := readExact_eq_ok.1 hr
    obtain ⟨rfl, rfl⟩ := Prod.mk.inj (Except.ok.inj h)
    exact ⟨data, hlen, rfl, rfl⟩

/-- An OUT transfer of length zero announces as much data as an IN transfer: none. -/
theorem UsbIpCmdSubmit.announced_dataLen (cmd : UsbIpCmdSubmit) :
    (if (!cmd.isIn && decide (0 < cmd.dataLen)) = true then cmd.dataLen.toNat else 0) =
      if !cmd.isIn then cmd.dataLen.toNat else 0 := by
  cases cmd.isIn with
  | true => rfl
  | false =>
    rcases Nat.eq_zero_or_pos cmd.dataLen.toNat with h0 | hpos
    · simp [h0]
    · simp [UInt32.lt_iff_toNat_lt, hpos]

/-- A body of at least 48 bytes starts with a record and its padding. -/
theorem UsbIpCmdSubmit.exists_record {payload : Bytes} (h : 48 ≤ payload.length) :
    ∃ (cmd : UsbIpCmdSubmit) (pad rest : Bytes),
      pad.length = 4 ∧ cmd.asBytes ++ pad ++ rest = payload := by
  obtain ⟨cmd, left, rfl⟩ := UsbIpCmdSubmit.codec.exists_encode_append
    (show UsbIpCmdSubmit.codec.size ≤ payload.length from le_trans (by decide) h)
  rw [List.length_append, UsbIpCmdSubmit.codec.length_encode, UsbIpCmdSubmit.size_codec] at h
  refine ⟨cmd, left.take 4, left.drop 4, ?_, ?_⟩
  · rw [List.length_take]
    omega
  · rw [List.append_assoc, List.take_append_drop]
    rfl

/-- **Whatever is read is a frame**, followed by the rest of the stream. -/
theorem exists_frame_of_readMessage {stream m rest : Bytes}
    (h : readMessage stream = .ok (m, rest)) : ∃ f : Frame, f.bytes = m ∧ m ++ rest = stream := by
  rw [readMessage, bind_eq_ok] at h
  obtain ⟨⟨buf, s₁⟩, h₁, h⟩ := h
  obtain ⟨hbuf, rfl⟩ := readExact_eq_ok.1 h₁
  obtain ⟨header, rfl⟩ := UsbIpHeader.codec.exists_encode hbuf
  change (okOr (UsbIpHeader.readFromPrefix header.asBytes) _ >>= _) = _ at h
  rw [UsbIpHeader.readFromPrefix_asBytes, okOr_some, ok_bind] at h
  change ∃ f : Frame, f.bytes = m ∧ m ++ rest = header.asBytes ++ s₁
  dsimp only at h
  split at h
  · rename_i hcmd
    rw [bind_eq_ok] at h
    obtain ⟨⟨body, s₂⟩, h₂, h⟩ := h
    obtain ⟨hbody, rfl⟩ := readExact_eq_ok.1 h₂
    have hbody : body.length = 48 := hbody
    obtain ⟨cmd, pad, tail, hpad, rfl⟩ := UsbIpCmdSubmit.exists_record hbody.ge
    obtain rfl : tail = [] := by
      rw [List.length_append, List.length_append, UsbIpCmdSubmit.length_asBytes, hpad] at hbody
      exact List.length_eq_zero_iff.1 (by omega)
    rw [List.append_nil] at h
    rw [UsbIpCmdSubmit.readFromPrefix_asBytes_append, okOr_some, ok_bind] at h
    obtain ⟨data, hdata, rfl, rfl⟩ := readData_eq_ok h
    refine ⟨.cmdSubmit ⟨header.version, header.status, cmd, ⟨pad.toArray, by simpa using hpad⟩,
      data, ?_⟩, ?_, ?_⟩
    · rw [hdata, cmd.announced_dataLen]
    · simp only [Frame.bytes, CmdSubmitFrame.bytes, ← hcmd]
      rfl
    · simp
      rfl
  · split at h
    · rename_i hcmd
      rw [bind_eq_ok] at h
      obtain ⟨⟨body, s₂⟩, h₂, h⟩ := h
      obtain ⟨hbody, rfl⟩ := readExact_eq_ok.1 h₂
      obtain ⟨ret, rfl⟩ := UsbIpRetSubmit.codec.exists_encode hbody
      change (okOr (UsbIpRetSubmit.readFromPrefix ret.asBytes) _ >>= _) = _ at h
      rw [UsbIpRetSubmit.readFromPrefix_asBytes, okOr_some, ok_bind] at h
      obtain ⟨data, hdata, rfl, rfl⟩ := readData_eq_ok h
      refine ⟨.retSubmit ⟨header.version, header.status, ret, data, hdata⟩, ?_, ?_⟩
      · simp only [Frame.bytes, RetSubmitFrame.bytes, ← hcmd]
        rfl
      · simp
        rfl
    · split at h
      · rename_i hcmd
        rw [bind_eq_ok] at h
        obtain ⟨⟨body, s₂⟩, h₂, h⟩ := h
        obtain ⟨hbody, rfl⟩ := readExact_eq_ok.1 h₂
        obtain ⟨unlink, rfl⟩ := UsbIpRetUnlink.codec.exists_encode hbody
        obtain ⟨rfl, rfl⟩ := Prod.mk.inj (Except.ok.inj h)
        refine ⟨.retUnlink ⟨header.version, header.status, unlink⟩, ?_, ?_⟩
        · simp only [Frame.bytes, RetUnlinkFrame.bytes, ← hcmd]
          rfl
        · exact List.append_assoc _ _ _
      · rename_i h1 h2 h3
        obtain ⟨rfl, rfl⟩ := Prod.mk.inj (Except.ok.inj h)
        exact ⟨.unknown ⟨header, h1, h2, h3⟩, rfl, rfl⟩

theorem selfDelimiting_readMessage : SelfDelimiting readMessage where
  append_eq h := by
    obtain ⟨f, -, h⟩ := exists_frame_of_readMessage h
    exact h
  ne_nil {s m rest} h := by
    obtain ⟨f, rfl, -⟩ := exists_frame_of_readMessage h
    have := f.size_le_length_bytes
    exact List.ne_nil_of_length_pos (Nat.lt_of_lt_of_le (by decide) this)
  isFrame h := by
    obtain ⟨f, rfl, -⟩ := exists_frame_of_readMessage h
    exact f.isFrame_bytes

/-- The frames of the wire are the well-formed messages. -/
theorem isFrame_readMessage_iff {m : Bytes} :
    IsFrame readMessage m ↔ ∃ f : Frame, f.bytes = m := by
  constructor
  · intro h
    obtain ⟨f, hf, -⟩ := exists_frame_of_readMessage (h [])
    exact ⟨f, hf⟩
  · rintro ⟨f, rfl⟩
    exact f.isFrame_bytes

/-- **A `RET_SUBMIT` record and some data are one message exactly when the data has the announced
length.** -/
theorem isFrame_retSubmit_iff (version : UInt16) (status : Int32) (ret : UsbIpRetSubmit)
    (data : Bytes) :
    IsFrame readMessage
        ((⟨version, usbipRetSubmit, status⟩ : UsbIpHeader).asBytes ++ ret.asBytes ++ data) ↔
      data.length = if ret.hasData then ret.actualLength.toNat else 0 := by
  constructor
  · intro h
    obtain ⟨f, hf⟩ := isFrame_readMessage_iff.1 h
    have hret : asRetSubmit f.bytes = some ret := by
      simp [hf, asRetSubmit, List.append_assoc]
    have hlen := Frame.length_of_asRetSubmit hret
    rw [hf, List.length_append, List.length_append, UsbIpHeader.length_asBytes,
      UsbIpRetSubmit.length_asBytes, UsbIpRetSubmit.wireSize, UsbIpRetSubmit.actualLen] at hlen
    split at hlen
    · rename_i hd
      rw [if_pos hd]
      omega
    · rename_i hd
      rw [if_neg hd]
      omega
  · intro h
    exact (RetSubmitFrame.mk version status ret data h).isFrame_bytes

/-! ## The stream -/

theorem drain_map_bytes_append (fs : List Frame) (rest : Bytes) :
    drain readMessage ((fs.map Frame.bytes).flatten ++ rest) =
      fs.map Frame.bytes ++ drain readMessage rest := by
  apply drain_flatten_append selfDelimiting_readMessage.toConsuming
  intro m hm
  obtain ⟨f, -, rfl⟩ := List.mem_map.1 hm
  exact f.isFrame_bytes

/-- Every stream is a concatenation of frames, then a remainder that is not read. -/
theorem exists_frames_append (stream : Bytes) : ∃ (fs : List Frame) (r : Bytes) (e : ErrorKind),
    drain readMessage stream = fs.map Frame.bytes ∧ (fs.map Frame.bytes).flatten ++ r = stream ∧
      readMessage r = .error e := by
  obtain ⟨r, e, hr, he⟩ :=
    exists_flatten_drain_append selfDelimiting_readMessage.toConsuming stream
  have hmem : drain readMessage stream ∈ Set.range (List.map Frame.bytes) := by
    rw [Set.range_list_map]
    intro m hm
    exact isFrame_readMessage_iff.1 (isFrame_of_mem_drain selfDelimiting_readMessage hm)
  obtain ⟨fs, hfs⟩ := hmem
  exact ⟨fs, r, e, hfs.symm, hfs ▸ hr, he⟩

/-- **Plain framing is self-delimiting.** Reading as many messages as there are frames returns the
frames and leaves the suffix; every returned `CMD_SUBMIT` and `RET_SUBMIT` has the size its decoded
record announces; and a stream that ends inside a frame is an error. -/
theorem readN_readMessage_frames (fs : List Frame) (suffix : Bytes) :
    readN readMessage fs.length ((fs.map Frame.bytes).flatten ++ suffix) =
        .ok (fs.map Frame.bytes, suffix) ∧
      (∀ m ∈ fs.map Frame.bytes,
        (∀ cmd, asCmdSubmit m = some cmd → m.length = UsbIpHeader.size + cmd.wireSize) ∧
        (∀ ret, asRetSubmit m = some ret → m.length = UsbIpHeader.size + ret.wireSize)) ∧
      ∀ (f : Frame) (p q : Bytes), p ++ q = f.bytes → q ≠ [] → ∃ e, readMessage p = .error e := by
  refine ⟨?_, ?_, ?_⟩
  · have h := readN_flatten readMessage (fs.map Frame.bytes) (fun m hm => by
      obtain ⟨f, -, rfl⟩ := List.mem_map.1 hm
      exact f.isFrame_bytes) suffix
    rwa [List.length_map] at h
  · intro m hm
    obtain ⟨f, -, rfl⟩ := List.mem_map.1 hm
    exact ⟨fun cmd => Frame.length_of_asCmdSubmit, fun ret => Frame.length_of_asRetSubmit⟩
  · intro f p q hpq hq
    exact selfDelimiting_readMessage.error_of_strict_append (hpq ▸ f.isFrame_bytes) hq

end AnyPlug
