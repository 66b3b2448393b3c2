import AnyPlug.Core.Wire

/-!
# Serialisation of replies

`serializeReply` is the single writer of `USBIP_RET_SUBMIT` messages (`usbip-core/src/reply.rs`).
It appends the data it is given, whether or not the record announces it; the reader reads what the
record announces. A reply is therefore one frame for the reader exactly when the data has the
announced length (`isFrame_serializeReply_iff`).
-/

namespace AnyPlug

/-- The `RET_SUBMIT` record of a reply to `cmd`. -/
def replyRecord (cmd : UsbIpCmdSubmit) (status : Int32) (actualLength : UInt32) :
    UsbIpRetSubmit where
  seqnum := cmd.seqnum
  devid := cmd.devid
  direction := cmd.direction
  ep := cmd.ep
  status := status.toUInt32
  actualLength := actualLength
  startFrame := cmd.startFrame
  numberOfPackets := cmd.numberOfPackets
  errorCount := if status = 0 then 0 else 1
  setup := cmd.setup

/-- Serialise a reply, appending to a buffer. -/
def serializeReplyInto (buf : Bytes) (cmd : UsbIpCmdSubmit) (status : Int32)
    (actualLength : UInt32) (data : Bytes) : Bytes :=
  buf ++ (UsbIpHeader.new usbipRetSubmit).asBytes ++
    (replyRecord cmd status actualLength).asBytes ++ data

/-- Serialise a complete reply. -/
def serializeReply (cmd : UsbIpCmdSubmit) (status : Int32) (actualLength : UInt32)
    (data : Bytes) : Bytes :=
  serializeReplyInto [] cmd status actualLength data

variable (cmd : UsbIpCmdSubmit) (status : Int32) (actualLength : UInt32) (data : Bytes)

theorem serializeReply_eq :
    serializeReply cmd status actualLength data =
      (UsbIpHeader.new usbipRetSubmit).asBytes ++
        ((replyRecord cmd status actualLength).asBytes ++ data) := by
  rw [serializeReply, serializeReplyInto, List.nil_append, List.append_assoc]

@[simp] theorem length_serializeReply :
    (serializeReply cmd status actualLength data).length =
      UsbIpHeader.size + UsbIpRetSubmit.headerSize + data.length := by
  rw [serializeReply_eq, List.length_append, List.length_append, UsbIpHeader.length_asBytes,
    UsbIpRetSubmit.length_asBytes, Nat.add_assoc]

theorem serializeReply_ne_nil : serializeReply cmd status actualLength data ≠ [] := by
  apply List.ne_nil_of_length_pos
  rw [length_serializeReply]
  exact Nat.lt_of_lt_of_le (by decide) (Nat.le_add_right _ _)

@[simp] theorem asRetSubmit_serializeReply :
    asRetSubmit (serializeReply cmd status actualLength data) =
      some (replyRecord cmd status actualLength) := by
  simp [asRetSubmit, serializeReply_eq, UsbIpHeader.new]

/-- The data the reader expects after the record of a reply. -/
def announcedLength : ℕ :=
  if (replyRecord cmd status actualLength).hasData then actualLength.toNat else 0

theorem announcedLength_eq :
    announcedLength cmd status actualLength =
      if status = 0 ∧ cmd.direction ≠ 0 then actualLength.toNat else 0 := by
  rw [announcedLength]
  by_cases h : status = 0 ∧ cmd.direction ≠ 0
  · rw [if_pos h]
    split
    · rfl
    · rename_i hd
      rw [UsbIpRetSubmit.hasData_iff] at hd
      -- nothing was transferred, which is what the record says
      have h0 : ¬0 < actualLength := fun hpos => hd ⟨toUInt32_eq_zero_iff.2 h.1, h.2, hpos⟩
      have := UInt32.lt_iff_toNat_lt.not.1 h0
      simp only [UInt32.toNat_zero] at this
      omega
  · rw [if_neg h, if_neg]
    rw [UsbIpRetSubmit.hasData_iff]
    exact fun hd => h ⟨toUInt32_eq_zero_iff.1 hd.1, hd.2.1⟩

/-- A reply whose data has the announced length, as a frame. -/
def replyFrame (h : data.length = announcedLength cmd status actualLength) : RetSubmitFrame where
  version := usbipVersion
  status := 0
  ret := replyRecord cmd status actualLength
  data := data
  length_data := h

theorem bytes_replyFrame (h : data.length = announcedLength cmd status actualLength) :
    (replyFrame cmd status actualLength data h).bytes =
      serializeReply cmd status actualLength data := by
  rw [serializeReply_eq, RetSubmitFrame.bytes, List.append_assoc]
  rfl

/-- **A reply is one frame for the reader exactly when its data has the announced length.** -/
theorem isFrame_serializeReply_iff :
    IsFrame readMessage (serializeReply cmd status actualLength data) ↔
      data.length = announcedLength cmd status actualLength := by
  constructor
  · intro h
    rw [serializeReply_eq, ← List.append_assoc] at h
    exact (isFrame_retSubmit_iff usbipVersion 0 _ data).1 h
  · intro h
    rw [← bytes_replyFrame cmd status actualLength data h]
    exact (replyFrame cmd status actualLength data h).isFrame_bytes

end AnyPlug
