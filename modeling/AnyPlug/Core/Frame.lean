import AnyPlug.Core.Urb

/-!
# Well-formed messages of the URB exchange

A `Frame` is a header followed by what its command and the fields of its record announce. The
length of the data is a field of the structure, so an ill-formed message cannot be built. Version
and status of the header are free: no reader looks at them.
-/

namespace AnyPlug

/-- A `CMD_SUBMIT` message. The data is there exactly when the transfer flags lack `URB_DIR_IN`. -/
structure CmdSubmitFrame where
  version : UInt16
  status : Int32
  cmd : UsbIpCmdSubmit
  padding : Vector UInt8 4
  data : Bytes
  length_data : data.length = if !cmd.isIn then cmd.dataLen.toNat else 0

/-- A `RET_SUBMIT` message. The data is there exactly when the record announces it. -/
structure RetSubmitFrame where
  version : UInt16
  status : Int32
  ret : UsbIpRetSubmit
  data : Bytes
  length_data : data.length = if ret.hasData then ret.actualLen.toNat else 0

/-- A `RET_UNLINK` message. -/
structure RetUnlinkFrame where
  version : UInt16
  status : Int32
  unlink : UsbIpRetUnlink

/-- A message with any other command: a header alone. -/
structure UnknownFrame where
  header : UsbIpHeader
  unknown : header.command ≠ usbipCmdSubmit ∧ header.command ≠ usbipRetSubmit ∧
    header.command ≠ usbipRetUnlink

/-- A well-formed message of the URB exchange. -/
inductive Frame
  | cmdSubmit (f : CmdSubmitFrame)
  | retSubmit (f : RetSubmitFrame)
  | retUnlink (f : RetUnlinkFrame)
  | unknown (f : UnknownFrame)

def CmdSubmitFrame.bytes (f : CmdSubmitFrame) : Bytes :=
  (⟨f.version, usbipCmdSubmit, f.status⟩ : UsbIpHeader).asBytes ++
    (f.cmd.asBytes ++ f.padding.toList) ++ f.data

def RetSubmitFrame.bytes (f : RetSubmitFrame) : Bytes :=
  (⟨f.version, usbipRetSubmit, f.status⟩ : UsbIpHeader).asBytes ++ f.ret.asBytes ++ f.data

def RetUnlinkFrame.bytes (f : RetUnlinkFrame) : Bytes :=
  (⟨f.version, usbipRetUnlink, f.status⟩ : UsbIpHeader).asBytes ++ f.unlink.asBytes

/-- The bytes of a message. -/
def Frame.bytes : Frame → Bytes
  | .cmdSubmit f => f.bytes
  | .retSubmit f => f.bytes
  | .retUnlink f => f.bytes
  | .unknown f => f.header.asBytes

theorem Frame.size_le_length_bytes (f : Frame) : UsbIpHeader.size ≤ f.bytes.length := by
  cases f <;>
    simp [Frame.bytes, CmdSubmitFrame.bytes, RetSubmitFrame.bytes, RetUnlinkFrame.bytes]

/-! ## Decoding a message -/

/-- The `CMD_SUBMIT` record of a message (`UsbIpMessage::as_cmd_submit`). -/
def asCmdSubmit (m : Bytes) : Option UsbIpCmdSubmit := do
  let (header, payload) ← UsbIpHeader.readFromPrefix m
  if header.command ≠ usbipCmdSubmit then none
  else
    let (cmd, _) ← UsbIpCmdSubmit.readFromPrefix payload
    return cmd

/-- The `RET_SUBMIT` record of a message (`UsbIpMessage::as_ret_submit`). -/
def asRetSubmit (m : Bytes) : Option UsbIpRetSubmit := do
  let (header, payload) ← UsbIpHeader.readFromPrefix m
  if header.command ≠ usbipRetSubmit then none
  else
    let (ret, _) ← UsbIpRetSubmit.readFromPrefix payload
    return ret

/-- A message that decodes as a `CMD_SUBMIT` starts with a header and the record. -/
theorem exists_of_asCmdSubmit {stream : Bytes} {cmd : UsbIpCmdSubmit}
    (h : asCmdSubmit stream = some cmd) : ∃ version status rest,
      (⟨version, usbipCmdSubmit, status⟩ : UsbIpHeader).asBytes ++ (cmd.asBytes ++ rest) =
        stream := by
  rw [asCmdSubmit, Option.bind_eq_bind, Option.bind_eq_some_iff] at h
  obtain ⟨⟨header, payload⟩, hheader, h⟩ := h
  obtain rfl := UsbIpHeader.codec.encode_of_decode hheader
  dsimp only at h
  split at h
  · cases h
  · rename_i hcommand
    rw [Option.bind_eq_bind, Option.bind_eq_some_iff] at h
    obtain ⟨⟨cmd', rest⟩, hcmd, h⟩ := h
    obtain rfl : cmd' = cmd := Option.some.inj h
    obtain rfl := UsbIpCmdSubmit.codec.encode_of_decode hcmd
    exact ⟨header.version, header.status, rest, by rw [← not_not.1 hcommand]; rfl⟩

theorem exists_of_asRetSubmit {stream : Bytes} {ret : UsbIpRetSubmit}
    (h : asRetSubmit stream = some ret) : ∃ version status rest,
      (⟨version, usbipRetSubmit, status⟩ : UsbIpHeader).asBytes ++ (ret.asBytes ++ rest) =
        stream := by
  rw [asRetSubmit, Option.bind_eq_bind, Option.bind_eq_some_iff] at h
  obtain ⟨⟨header, payload⟩, hheader, h⟩ := h
  obtain rfl := UsbIpHeader.codec.encode_of_decode hheader
  dsimp only at h
  split at h
  · cases h
  · rename_i hcommand
    rw [Option.bind_eq_bind, Option.bind_eq_some_iff] at h
    obtain ⟨⟨ret', rest⟩, hret, h⟩ := h
    obtain rfl : ret' = ret := Option.some.inj h
    obtain rfl := UsbIpRetSubmit.codec.encode_of_decode hret
    exact ⟨header.version, header.status, rest, by rw [← not_not.1 hcommand]; rfl⟩

theorem asCmdSubmit_append (version : UInt16) (status : Int32) (cmd : UsbIpCmdSubmit)
    (rest : Bytes) :
    asCmdSubmit ((⟨version, usbipCmdSubmit, status⟩ : UsbIpHeader).asBytes ++
      (cmd.asBytes ++ rest)) = some cmd := by
  simp [asCmdSubmit]

theorem asRetSubmit_append (version : UInt16) (status : Int32) (ret : UsbIpRetSubmit)
    (rest : Bytes) :
    asRetSubmit ((⟨version, usbipRetSubmit, status⟩ : UsbIpHeader).asBytes ++
      (ret.asBytes ++ rest)) = some ret := by
  simp [asRetSubmit]

theorem asCmdSubmit_append_ret (version : UInt16) (status : Int32) (ret : UsbIpRetSubmit)
    (rest : Bytes) :
    asCmdSubmit ((⟨version, usbipRetSubmit, status⟩ : UsbIpHeader).asBytes ++
      (ret.asBytes ++ rest)) = none := by
  simp [asCmdSubmit, usbipRetSubmit_ne_cmdSubmit]

theorem CmdSubmitFrame.asCmdSubmit_bytes (f : CmdSubmitFrame) :
    asCmdSubmit f.bytes = some f.cmd := by
  simp [asCmdSubmit, bytes, List.append_assoc, UsbIpHeader.readFromPrefix_asBytes_append]

theorem RetSubmitFrame.asRetSubmit_bytes (f : RetSubmitFrame) :
    asRetSubmit f.bytes = some f.ret := by
  simp [asRetSubmit, bytes, List.append_assoc, UsbIpHeader.readFromPrefix_asBytes_append]

theorem CmdSubmitFrame.length_bytes (f : CmdSubmitFrame) :
    f.bytes.length = UsbIpHeader.size + f.cmd.wireSize := by
  have hd := f.length_data
  simp only [bytes, UsbIpCmdSubmit.wireSize, List.length_append, UsbIpHeader.length_asBytes,
    UsbIpCmdSubmit.length_asBytes, Vector.length_toList, hd, UsbIpCmdSubmit.headerSize]
  split <;> omega

theorem RetSubmitFrame.length_bytes (f : RetSubmitFrame) :
    f.bytes.length = UsbIpHeader.size + f.ret.wireSize := by
  have hd := f.length_data
  simp only [bytes, UsbIpRetSubmit.wireSize, List.length_append, UsbIpHeader.length_asBytes,
    UsbIpRetSubmit.length_asBytes, hd]
  split <;> omega

/-- The command of a frame's header. -/
def Frame.command : Frame → UInt16
  | .cmdSubmit _ => usbipCmdSubmit
  | .retSubmit _ => usbipRetSubmit
  | .retUnlink _ => usbipRetUnlink
  | .unknown f => f.header.command

theorem Frame.readFromPrefix_bytes (f : Frame) :
    ∃ h payload, UsbIpHeader.readFromPrefix f.bytes = some (h, payload) ∧
      h.command = f.command := by
  cases f with
  | cmdSubmit f =>
    rw [Frame.bytes, CmdSubmitFrame.bytes, List.append_assoc]
    exact ⟨_, _, UsbIpHeader.readFromPrefix_asBytes_append _ _, rfl⟩
  | retSubmit f =>
    rw [Frame.bytes, RetSubmitFrame.bytes, List.append_assoc]
    exact ⟨_, _, UsbIpHeader.readFromPrefix_asBytes_append _ _, rfl⟩
  | retUnlink f => exact ⟨_, _, UsbIpHeader.readFromPrefix_asBytes_append _ _, rfl⟩
  | unknown f => exact ⟨_, _, UsbIpHeader.readFromPrefix_asBytes _, rfl⟩

theorem Frame.command_of_asCmdSubmit {f : Frame} {cmd : UsbIpCmdSubmit}
    (h : asCmdSubmit f.bytes = some cmd) : f.command = usbipCmdSubmit := by
  obtain ⟨header, payload, hr, hc⟩ := f.readFromPrefix_bytes
  by_contra hne
  simp [asCmdSubmit, hr, hc, hne] at h

theorem Frame.command_of_asRetSubmit {f : Frame} {ret : UsbIpRetSubmit}
    (h : asRetSubmit f.bytes = some ret) : f.command = usbipRetSubmit := by
  obtain ⟨header, payload, hr, hc⟩ := f.readFromPrefix_bytes
  by_contra hne
  simp [asRetSubmit, hr, hc, hne] at h

/-- A message that decodes as a `CMD_SUBMIT` has the size its record announces. -/
theorem Frame.length_of_asCmdSubmit {f : Frame} {cmd : UsbIpCmdSubmit}
    (h : asCmdSubmit f.bytes = some cmd) : f.bytes.length = UsbIpHeader.size + cmd.wireSize := by
  have hc := Frame.command_of_asCmdSubmit h
  cases f with
  | cmdSubmit f =>
    rw [Frame.bytes, f.asCmdSubmit_bytes] at h
    obtain rfl := Option.some.inj h
    exact f.length_bytes
  | retSubmit f => exact absurd hc usbipRetSubmit_ne_cmdSubmit
  | retUnlink f => exact absurd hc usbipRetUnlink_ne_cmdSubmit
  | unknown f => exact absurd hc f.unknown.1

/-- A message that decodes as a `RET_SUBMIT` has the size its record announces. -/
theorem Frame.length_of_asRetSubmit {f : Frame} {ret : UsbIpRetSubmit}
    (h : asRetSubmit f.bytes = some ret) : f.bytes.length = UsbIpHeader.size + ret.wireSize := by
  have hc := Frame.command_of_asRetSubmit h
  cases f with
  | retSubmit f =>
    rw [Frame.bytes, f.asRetSubmit_bytes] at h
    obtain rfl := Option.some.inj h
    exact f.length_bytes
  | cmdSubmit f => exact absurd hc usbipRetSubmit_ne_cmdSubmit.symm
  | retUnlink f => exact absurd hc usbipRetUnlink_ne_retSubmit
  | unknown f => exact absurd hc f.unknown.2.1

end AnyPlug
