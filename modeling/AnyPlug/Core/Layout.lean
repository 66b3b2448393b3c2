import AnyPlug.Core.Wire

/-!
# The documented layout of the URB exchange

The messages as sections 5.1 to 5.3 of `PROTOCOL.md` lay them out: the record of a `CMD_SUBMIT` has
44 bytes, and data follows at offset 0x2C exactly when the direction is OUT; data follows the record
of a `RET_SUBMIT` exactly when the direction is IN and the status is 0. `SpecMessage` is the
document, not the code.

The reader takes 48 bytes for a `CMD_SUBMIT` and decides by a transfer flag whether data follows, so
it does not read these messages. `drain_spec_iff` says which lists of messages it reads back.
-/

namespace AnyPlug

/-- A `CMD_SUBMIT` as documented. -/
structure SpecCmdSubmit where
  version : UInt16
  status : Int32
  cmd : UsbIpCmdSubmit
  data : Bytes
  length_data : data.length = if cmd.direction = 0 then cmd.transferBufferLength.toNat else 0

/-- A `RET_SUBMIT` as documented. -/
structure SpecRetSubmit where
  version : UInt16
  status : Int32
  ret : UsbIpRetSubmit
  data : Bytes
  length_data : data.length =
    if ret.direction = 1 ∧ ret.status = 0 then ret.actualLength.toNat else 0

/-- A message as documented. A `RET_UNLINK` has no data. -/
inductive SpecMessage
  | cmdSubmit (m : SpecCmdSubmit)
  | retSubmit (m : SpecRetSubmit)
  | retUnlink (m : RetUnlinkFrame)

def SpecCmdSubmit.bytes (m : SpecCmdSubmit) : Bytes :=
  (⟨m.version, usbipCmdSubmit, m.status⟩ : UsbIpHeader).asBytes ++ m.cmd.asBytes ++ m.data

def SpecRetSubmit.bytes (m : SpecRetSubmit) : Bytes :=
  (⟨m.version, usbipRetSubmit, m.status⟩ : UsbIpHeader).asBytes ++ m.ret.asBytes ++ m.data

def SpecMessage.bytes : SpecMessage → Bytes
  | .cmdSubmit m => m.bytes
  | .retSubmit m => m.bytes
  | .retUnlink m => m.bytes

/-! ## Which messages the reader reads -/

theorem SpecCmdSubmit.length_bytes (m : SpecCmdSubmit) : m.bytes.length = 52 + m.data.length := by
  rw [bytes, List.length_append, List.length_append, UsbIpHeader.length_asBytes,
    UsbIpCmdSubmit.length_asBytes]
  rfl

theorem SpecCmdSubmit.asCmdSubmit_bytes (m : SpecCmdSubmit) : asCmdSubmit m.bytes = some m.cmd := by
  simp [asCmdSubmit, bytes, List.append_assoc, UsbIpHeader.readFromPrefix_asBytes_append]

/-- The reader takes four bytes of data for the end of the record, and none after them. -/
theorem SpecCmdSubmit.isFrame_bytes_iff (m : SpecCmdSubmit) :
    IsFrame readMessage m.bytes ↔
      m.cmd.direction = 0 ∧ m.cmd.isIn = true ∧ m.cmd.transferBufferLength = 4 := by
  have hd := m.length_data
  constructor
  · intro h
    obtain ⟨f, hf⟩ := isFrame_readMessage_iff.1 h
    have hlen := Frame.length_of_asCmdSubmit
      (show asCmdSubmit f.bytes = some m.cmd by rw [hf, m.asCmdSubmit_bytes])
    rw [hf, m.length_bytes, hd, UsbIpCmdSubmit.wireSize, UsbIpCmdSubmit.dataLen] at hlen
    have hsize : UsbIpHeader.size + UsbIpCmdSubmit.headerSize = 56 := rfl
    cases hin : m.cmd.isIn with
    | false =>
      simp only [hin, Bool.not_false, if_true] at hlen
      split at hlen <;> omega
    | true =>
      simp only [hin, Bool.not_true, Bool.false_eq_true, if_false] at hlen
      split at hlen
      · rename_i hdir
        refine ⟨hdir, rfl, UInt32.toNat_inj.1 ?_⟩
        show m.cmd.transferBufferLength.toNat = 4
        omega
      · omega
  · rintro ⟨hdir, hin, hlen⟩
    rw [if_pos hdir, hlen] at hd
    have hframe := (CmdSubmitFrame.mk m.version m.status m.cmd
      ⟨m.data.toArray, by simpa using hd⟩ [] (by simp [hin])).isFrame_bytes
    simpa [CmdSubmitFrame.bytes, bytes, List.append_assoc] using hframe

/-- The reader expects data after a `RET_SUBMIT` of any direction but OUT. -/
theorem SpecRetSubmit.isFrame_bytes_iff (m : SpecRetSubmit) :
    IsFrame readMessage m.bytes ↔
      (m.ret.status = 0 → m.ret.actualLength ≠ 0 → m.ret.direction = 0 ∨ m.ret.direction = 1) := by
  have hd := m.length_data
  have hdata := m.ret.hasData_iff
  have hpos : 0 < m.ret.actualLength ↔ m.ret.actualLength.toNat ≠ 0 := by
    rw [UInt32.lt_iff_toNat_lt]
    exact Nat.pos_iff_ne_zero
  have hzero : m.ret.actualLength ≠ 0 ↔ m.ret.actualLength.toNat ≠ 0 :=
    not_congr UInt32.toNat_inj.symm
  rw [bytes, isFrame_retSubmit_iff, hd, hzero]
  by_cases hst : m.ret.status = 0
  · by_cases hdir : m.ret.direction = 1
    · simp [hdata, hpos, hst, hdir]
    · by_cases hdir' : m.ret.direction = 0
      · simp [hdata, hst, hdir']
      · rw [if_neg (fun h => hdir h.1)]
        by_cases hlen : m.ret.actualLength.toNat = 0
        · simp [hlen]
        · rw [if_pos (hdata.2 ⟨hst, hdir', hpos.2 hlen⟩)]
          simp [hst, hdir, hdir', hlen, Ne.symm hlen]
  · simp [hdata, hst]

/-- The messages that the reader reads as they are laid out. -/
def SpecMessage.Read : SpecMessage → Prop
  | .cmdSubmit m => m.cmd.direction = 0 ∧ m.cmd.isIn = true ∧ m.cmd.transferBufferLength = 4
  | .retSubmit m =>
    m.ret.status = 0 → m.ret.actualLength ≠ 0 → m.ret.direction = 0 ∨ m.ret.direction = 1
  | .retUnlink _ => True

theorem SpecMessage.isFrame_bytes_iff (m : SpecMessage) :
    IsFrame readMessage m.bytes ↔ m.Read := by
  cases m with
  | cmdSubmit m => exact m.isFrame_bytes_iff
  | retSubmit m => exact m.isFrame_bytes_iff
  | retUnlink m => exact iff_of_true m.isFrame_bytes trivial

/-- **The reader reads back a list of messages laid out as documented exactly when** every
`CMD_SUBMIT` among them is an OUT transfer of four bytes whose flags say IN, and every successful
`RET_SUBMIT` that transferred something has the direction OUT or IN. -/
theorem drain_spec_iff (ms : List SpecMessage) :
    drain readMessage (ms.map SpecMessage.bytes).flatten = ms.map SpecMessage.bytes ↔
      ∀ m ∈ ms, m.Read := by
  rw [drain_flatten_eq_iff selfDelimiting_readMessage, List.forall_mem_map]
  exact forall₂_congr fun m _ => m.isFrame_bytes_iff

/-- A poll of an interrupt endpoint, as documented. -/
def SpecCmdSubmit.poll : SpecCmdSubmit where
  version := usbipVersion
  status := 0
  cmd := ⟨1, 1, 1, 0x81, urbDirIn, 8, 0, 0, 0, Vector.replicate 8 0⟩
  data := []
  length_data := rfl

/-- Two polls are not read as they are laid out. -/
theorem drain_spec_polls_ne :
    let ms := [SpecMessage.cmdSubmit .poll, .cmdSubmit .poll]
    drain readMessage (ms.map SpecMessage.bytes).flatten ≠ ms.map SpecMessage.bytes := by
  decide +kernel

end AnyPlug
