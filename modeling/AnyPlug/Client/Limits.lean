import AnyPlug.Client.DeviceList
import AnyPlug.Server.Tunnel

/-!
# The declared limits

`usbip-core/src/lib.rs` declares the largest message (`maxMessageSize`) and the largest number of
devices in a list (`maxDevices`). The encrypted wire refuses a frame that announces more. The plain
`read_message` and `list_remote_devices` compare what they are told with neither limit: they
allocate it.

`messageBuffers`, `CryptoStream.messageBuffers` and `deviceCapacity` are what the readers allocate.
`limited_iff` says which streams the limits hold for.
-/

namespace AnyPlug

/-- Maximum number of devices in a devlist reply. -/
def maxDevices : ℕ := 256

/-! ## Allocations -/

/-- The buffers that are allocated after a step that may fail. -/
def buffersAfter {α : Type} (r : UsbIpResult α) (buffers : α → List ℕ) : List ℕ :=
  match r with
  | .ok a => buffers a
  | .error _ => []

theorem buffersAfter_ok {α : Type} (a : α) (buffers : α → List ℕ) :
    buffersAfter (.ok a) buffers = buffers a := rfl

/-- The lengths of the buffers that `readMessage` allocates, in order. -/
def messageBuffers (stream : Bytes) : List ℕ :=
  UsbIpHeader.size :: buffersAfter (readExact UsbIpHeader.size stream) fun (buf, stream) =>
  buffersAfter (okOr (UsbIpHeader.readFromPrefix buf) (.invalidMessage "truncated header"))
    fun (header, _) =>
  if header.command = usbipCmdSubmit then
    UsbIpCmdSubmit.headerSize :: buffersAfter (readExact UsbIpCmdSubmit.headerSize stream)
      fun (rest, _) =>
    buffersAfter (okOr (UsbIpCmdSubmit.readFromPrefix rest)
      (.invalidMessage "truncated CMD_SUBMIT")) fun (cmd, _) =>
    if !cmd.isIn && 0 < cmd.dataLen then [cmd.dataLen.toNat] else []
  else if header.command = usbipRetSubmit then
    UsbIpRetSubmit.headerSize :: buffersAfter (readExact UsbIpRetSubmit.headerSize stream)
      fun (rest, _) =>
    buffersAfter (okOr (UsbIpRetSubmit.readFromPrefix rest)
      (.invalidMessage "truncated RET_SUBMIT")) fun (ret, _) =>
    if ret.hasData then [ret.actualLen.toNat] else []
  else if header.command = usbipRetUnlink then [UsbIpRetUnlink.size]
  else []

/-- The lengths of the buffers that `CryptoStream.readMessage` allocates, in order. -/
def CryptoStream.messageBuffers (key : Aead) (stream : Bytes) : List ℕ :=
  buffersAfter (readExact 4 stream) fun (buf, stream) =>
  buffersAfter (okOr (FixedCodec.u32be.decode buf) (.io .unexpectedEof)) fun (len, _) =>
  if len = 0 ∨ encryptedMax < len.toNat then []
  else
    len.toNat :: buffersAfter (readExact len.toNat stream) fun (ct, _) =>
    buffersAfter (mapCryptoErr (decryptInPlace key ct)) fun plaintext => [plaintext.length]

/-- The reply of a server to `OP_REQ_DEVLIST`, up to the number of its entries. -/
def readDeviceCount (conn : Connection) (tcpNodelay : Bool) : UsbIpResult (UInt32 × Bytes) := do
  conn.connect
  if tcpNodelay then conn.setNodelay
  conn.writeAll (UsbIpHeader.new opReqDevlist).asBytes
  let (buf, stream) ← readExact UsbIpHeader.size conn.stream
  let (header, _) ← okOr (UsbIpHeader.readFromPrefix buf) (.protocol "invalid reply header")
  if header.command ≠ opRepDevlist then .error (.protocol "unexpected reply")
  else readU32 stream

/-- The entries that `listRemoteDevices` allocates room for before it reads them. -/
def deviceCapacity (conn : Connection) (tcpNodelay : Bool) : ℕ :=
  match readDeviceCount conn tcpNodelay with
  | .ok (ndev, _) => ndev.toNat
  | .error _ => 0

/-- A list is read entry by entry, once their number is known. -/
theorem listRemoteDevices_to (stream : Bytes) (tcpNodelay : Bool) :
    listRemoteDevices (.to stream) tcpNodelay =
      readDeviceCount (.to stream) tcpNodelay >>=
        fun (ndev, stream) => readEntries ndev.toNat stream := by
  simp only [listRemoteDevices, readDeviceCount, Connection.to, ok_bind, ite_self]
  cases readExact UsbIpHeader.size stream with
  | error e => rfl
  | ok b =>
    rw [ok_bind, ok_bind]
    cases okOr (UsbIpHeader.readFromPrefix b.1) (.protocol "invalid reply header") with
    | error e => rfl
    | ok p =>
      rw [ok_bind, ok_bind]
      split <;> rfl

theorem length_le_of_readEntries {n : ℕ} {stream rest : Bytes} {devices : List UsbIpDeviceEntry}
    (h : readEntries n stream = .ok (devices, rest)) : devices.length ≤ n := by
  induction n generalizing stream rest devices with
  | zero =>
    obtain ⟨rfl, -⟩ := Prod.mk.inj (Except.ok.inj h)
    exact Nat.le_refl 0
  | succ n ih =>
    rw [readEntries, bind_eq_ok] at h
    obtain ⟨⟨buf, s₁⟩, -, h⟩ := h
    rw [bind_eq_ok] at h
    obtain ⟨⟨devices', s₂⟩, hrest, h⟩ := h
    have hlen := ih hrest
    dsimp only at h
    split at h
    · obtain ⟨rfl, -⟩ := Prod.mk.inj (Except.ok.inj h)
      rw [List.length_cons]
      omega
    · obtain ⟨rfl, -⟩ := Prod.mk.inj (Except.ok.inj h)
      omega

/-! ## What a stream announces -/

/-- The size of the message that a plain stream announces, once the record that announces it has
arrived. -/
def announcedSize (stream : Bytes) : ℕ :=
  match asCmdSubmit stream, asRetSubmit stream with
  | some cmd, _ =>
    if UsbIpHeader.size + UsbIpCmdSubmit.headerSize ≤ stream.length then
      UsbIpHeader.size + cmd.wireSize
    else 0
  | none, some ret => UsbIpHeader.size + ret.wireSize
  | none, none => 0

/-- The size of the message that an encrypted stream announces: a frame also holds the length of the
nonce, the nonce and the tag. -/
def CryptoStream.announcedSize (stream : Bytes) : ℕ :=
  match FixedCodec.u32be.decode stream with
  | some (len, _) => len.toNat - (4 + nonceLen + tagLen)
  | none => 0

/-- The number of devices that a list announces. -/
def announcedDevices (stream : Bytes) : ℕ :=
  match UsbIpHeader.readFromPrefix stream with
  | some (header, payload) =>
    if header.command = opRepDevlist then
      match FixedCodec.u32be.decode payload with
      | some (ndev, _) => ndev.toNat
      | none => 0
    else 0
  | none => 0

section

variable (version : UInt16) (status : Int32)

/-- A `CMD_SUBMIT` record has buffers for all of its message. -/
theorem sum_messageBuffers_cmdSubmit (cmd : UsbIpCmdSubmit) {pad : Bytes} (hpad : pad.length = 4)
    (rest : Bytes) :
    (messageBuffers ((⟨version, usbipCmdSubmit, status⟩ : UsbIpHeader).asBytes ++
      (cmd.asBytes ++ pad ++ rest))).sum = UsbIpHeader.size + cmd.wireSize := by
  have hlen : (cmd.asBytes ++ pad).length = UsbIpCmdSubmit.headerSize := by
    simp [hpad, UsbIpCmdSubmit.headerSize]
  have hdata := cmd.announced_dataLen
  rw [messageBuffers, readExact_append (UsbIpHeader.length_asBytes _)]
  simp only [buffersAfter_ok, UsbIpHeader.readFromPrefix_asBytes, okOr_some, if_true,
    readExact_append hlen, UsbIpCmdSubmit.readFromPrefix_asBytes_append, UsbIpCmdSubmit.wireSize,
    List.sum_cons]
  split
  · rename_i hout
    rw [if_pos hout] at hdata
    rw [if_pos (by simp_all), List.sum_singleton]
  · rename_i hin
    rw [if_neg hin] at hdata
    split
    · rename_i hout
      rw [if_pos hout] at hdata
      simp [← hdata]
    · simp

theorem sum_messageBuffers_retSubmit (ret : UsbIpRetSubmit) (rest : Bytes) :
    (messageBuffers ((⟨version, usbipRetSubmit, status⟩ : UsbIpHeader).asBytes ++
      (ret.asBytes ++ rest))).sum = UsbIpHeader.size + ret.wireSize := by
  rw [messageBuffers, readExact_append (UsbIpHeader.length_asBytes _)]
  simp only [buffersAfter_ok, UsbIpHeader.readFromPrefix_asBytes, okOr_some,
    usbipRetSubmit_ne_cmdSubmit, if_false, if_true,
    readExact_append (UsbIpRetSubmit.length_asBytes _), UsbIpRetSubmit.readFromPrefix_asBytes,
    UsbIpRetSubmit.wireSize]
  split <;> simp

end

theorem announcedSize_cmdSubmit (f : CmdSubmitFrame) (rest : Bytes) :
    announcedSize (f.bytes ++ rest) = f.bytes.length := by
  have hlen := f.length_bytes
  have hle : UsbIpHeader.size + UsbIpCmdSubmit.headerSize ≤ (f.bytes ++ rest).length := by
    rw [List.length_append, hlen, UsbIpCmdSubmit.wireSize]
    split <;> omega
  have hcmd : asCmdSubmit (f.bytes ++ rest) = some f.cmd := by
    simp only [CmdSubmitFrame.bytes, List.append_assoc]
    exact asCmdSubmit_append _ _ _ _
  rw [announcedSize, hcmd]
  dsimp only
  rw [if_pos hle, hlen]

theorem announcedSize_retSubmit (f : RetSubmitFrame) (rest : Bytes) :
    announcedSize (f.bytes ++ rest) = f.bytes.length := by
  have hbytes : f.bytes ++ rest = (⟨f.version, usbipRetSubmit, f.status⟩ : UsbIpHeader).asBytes ++
      (f.ret.asBytes ++ (f.data ++ rest)) := by
    simp only [RetSubmitFrame.bytes, List.append_assoc]
  rw [hbytes, announcedSize, asCmdSubmit_append_ret, asRetSubmit_append, f.length_bytes]

/-- **A message that is read has the size that was announced**, or it is a header alone or an
unlink. -/
theorem length_of_readMessage {stream m rest : Bytes} (h : readMessage stream = .ok (m, rest)) :
    m.length = announcedSize stream ∨ m.length ≤ UsbIpHeader.size + UsbIpRetUnlink.size := by
  obtain ⟨f, rfl, rfl⟩ := exists_frame_of_readMessage h
  cases f with
  | cmdSubmit f => exact .inl (announcedSize_cmdSubmit f rest).symm
  | retSubmit f => exact .inl (announcedSize_retSubmit f rest).symm
  | retUnlink f =>
    right
    simp [Frame.bytes, RetUnlinkFrame.bytes]
  | unknown f =>
    right
    simp [Frame.bytes]

/-- **What a plain stream announces is allocated.** -/
theorem announcedSize_le_sum (stream : Bytes) :
    announcedSize stream ≤ (messageBuffers stream).sum := by
  unfold announcedSize
  split
  · rename_i cmd hcmd
    obtain ⟨version, status, body, rfl⟩ := exists_of_asCmdSubmit hcmd
    split
    · rename_i hlen
      have hpad : (body.take 4).length = 4 := by
        simp only [List.length_append, UsbIpHeader.length_asBytes, UsbIpCmdSubmit.length_asBytes,
          UsbIpCmdSubmit.headerSize] at hlen
        rw [List.length_take]
        omega
      have hsum := sum_messageBuffers_cmdSubmit version status cmd hpad (body.drop 4)
      rw [List.append_assoc, List.take_append_drop] at hsum
      exact hsum.ge
    · exact Nat.zero_le _
  · rename_i ret _ hret
    obtain ⟨version, status, body, rfl⟩ := exists_of_asRetSubmit hret
    exact (sum_messageBuffers_retSubmit version status ret body).ge
  · exact Nat.zero_le _

/-! ## Which streams the limits hold for -/

namespace Wire

/-- The lengths of the buffers that one read allocates. -/
def buffers : Wire → Bytes → List ℕ
  | .plain => messageBuffers
  | .encrypted key => CryptoStream.messageBuffers key

/-- The size of the message that a stream announces. -/
def announced : Wire → Bytes → ℕ
  | .plain => announcedSize
  | .encrypted _ => CryptoStream.announcedSize

/-- The limit on messages, for one read: what is returned is within it, and a stream that announces
more is an error before that much is allocated. -/
structure Limited (w : Wire) (stream : Bytes) : Prop where
  ok : ∀ m rest, w.readMessage stream = .ok (m, rest) → m.length ≤ maxMessageSize
  rejected : maxMessageSize < w.announced stream →
    (∃ e, w.readMessage stream = .error e) ∧ (w.buffers stream).sum < w.announced stream

/-- The plain wire keeps the limit exactly when its peer does. -/
theorem limited_plain_iff (stream : Bytes) :
    plain.Limited stream ↔ announcedSize stream ≤ maxMessageSize := by
  constructor
  · intro h
    by_contra hlt
    have hsum := (h.rejected (Nat.lt_of_not_le hlt)).2
    exact absurd (announcedSize_le_sum stream) (Nat.not_le_of_lt hsum)
  · intro h
    refine ⟨fun m rest hread => ?_, fun hlt => absurd h (Nat.not_le_of_lt hlt)⟩
    rcases length_of_readMessage hread with hlen | hlen
    · exact hlen.trans_le h
    · exact le_trans hlen (by decide)

end Wire

/-- Opening drops the tag: the plaintext is shorter than the ciphertext by its length. -/
def Aead.DropsTag (key : Aead) : Prop :=
  ∀ nonce ciphertext plaintext, key.openInPlace nonce ciphertext = some plaintext →
    plaintext.length + tagLen = ciphertext.length

namespace CryptoStream

variable {key : Aead}

theorem length_of_decryptInPlace (hk : key.DropsTag) {ct m : Bytes}
    (h : decryptInPlace key ct = .ok m) : m.length + (4 + nonceLen + tagLen) = ct.length := by
  obtain ⟨nonce, ciphertext, hopen, rfl⟩ := decryptInPlace_eq_ok h
  have hlen := hk nonce ciphertext m hopen
  have hprefix : (FixedCodec.u32be.encode 12).length = 4 := FixedCodec.u32be.length_encode 12
  have hnonce : ((FixedCodec.bytes 12).encode nonce).length = nonceLen :=
    (FixedCodec.bytes 12).length_encode nonce
  rw [List.length_append, List.length_append, hprefix, hnonce]
  omega

/-- Nothing that announces too much passes the check of the frame: what a frame holds besides the
message is longer than what the check allows for it. -/
theorem encryptedMax_lt {len : ℕ} (h : maxMessageSize < len - (4 + nonceLen + tagLen)) :
    encryptedMax < len := by
  have hsum : maxMessageSize + (4 + nonceLen + tagLen) < len := Nat.add_lt_of_lt_sub h
  have hle : encryptedMax ≤ maxMessageSize + (4 + nonceLen + tagLen) :=
    Nat.add_le_add_left (show 20 + 4 ≤ 4 + 12 + 16 by decide) maxMessageSize
  exact lt_of_le_of_lt hle hsum

/-- A frame that announces too much is refused, and nothing is allocated for it. -/
theorem readMessage_of_announcedSize (key : Aead) {stream : Bytes}
    (h : maxMessageSize < announcedSize stream) :
    (∃ e, readMessage key stream = .error e) ∧ messageBuffers key stream = [] := by
  unfold announcedSize at h
  split at h
  · rename_i len rest hdec
    obtain rfl := FixedCodec.u32be.encode_of_decode hdec
    have hprefix : (FixedCodec.u32be.encode len).length = 4 := FixedCodec.u32be.length_encode len
    have hlarge : len = 0 ∨ encryptedMax < len.toNat := .inr (encryptedMax_lt h)
    constructor
    · refine ⟨.encryption s!"invalid encrypted frame length: {len}", ?_⟩
      rw [readMessage, readExact_append hprefix, ok_bind]
      dsimp only
      rw [FixedCodec.decode_encode, okOr_some, ok_bind]
      dsimp only
      rw [if_pos hlarge]
    · rw [messageBuffers, readExact_append hprefix, buffersAfter_ok]
      dsimp only
      rw [FixedCodec.decode_encode, okOr_some, buffersAfter_ok]
      dsimp only
      rw [if_pos hlarge]
  · exact absurd h (Nat.not_lt_zero _)

end CryptoStream

/-- The encrypted wire always keeps the limit. -/
theorem Wire.limited_encrypted {key : Aead} (hk : key.DropsTag) (stream : Bytes) :
    (encrypted key).Limited stream := by
  refine ⟨fun m rest hread => ?_, fun hlt => ?_⟩
  · obtain ⟨ct, hmax, hdec, -⟩ := CryptoStream.readMessage_eq_ok hread
    have hlen := CryptoStream.length_of_decryptInPlace hk hdec
    rw [encryptedMax] at hmax
    rw [nonceLen, tagLen] at hlen
    omega
  · obtain ⟨herror, hnone⟩ := CryptoStream.readMessage_of_announcedSize key hlt
    refine ⟨herror, ?_⟩
    show (CryptoStream.messageBuffers key stream).sum < _
    rw [hnone]
    exact lt_of_le_of_lt (Nat.zero_le _) hlt

/-! ## The limit on the list -/

/-- A value that does not decode is not there. -/
theorem readExact_of_decode_none {α : Type} (c : FixedCodec α) {stream : Bytes}
    (h : c.decode stream = none) : readExact c.size stream = .error (.io .unexpectedEof) := by
  refine if_neg fun hle => ?_
  have hsome := c.isSome_decode hle
  rw [h] at hsome
  cases hsome

/-- **Room is made for as many devices as are announced.** -/
theorem deviceCapacity_to (stream : Bytes) (tcpNodelay : Bool) :
    deviceCapacity (.to stream) tcpNodelay = announcedDevices stream := by
  have hcount : readDeviceCount (.to stream) tcpNodelay = (do
      let (buf, stream) ← readExact UsbIpHeader.size stream
      let (header, _) ← okOr (UsbIpHeader.readFromPrefix buf) (.protocol "invalid reply header")
      if header.command ≠ opRepDevlist then .error (.protocol "unexpected reply")
      else readU32 stream) := by
    simp only [readDeviceCount, Connection.to, ok_bind, ite_self]
  rw [deviceCapacity, hcount, announcedDevices]
  cases hheader : UsbIpHeader.readFromPrefix stream with
  | none =>
    have hshort := readExact_of_decode_none UsbIpHeader.codec hheader
    rw [show UsbIpHeader.size = UsbIpHeader.codec.size from rfl, hshort]
    rfl
  | some p =>
    obtain ⟨header, payload⟩ := p
    obtain rfl := UsbIpHeader.codec.encode_of_decode hheader
    change (match (readExact UsbIpHeader.size (header.asBytes ++ payload) >>= _ :
      UsbIpResult (UInt32 × Bytes)) with | .ok (ndev, _) => ndev.toNat | .error _ => 0) = _
    rw [readExact_append (UsbIpHeader.length_asBytes _), ok_bind]
    dsimp only
    rw [UsbIpHeader.readFromPrefix_asBytes, okOr_some, ok_bind]
    dsimp only
    by_cases hcommand : header.command = opRepDevlist
    · rw [if_neg (not_not.2 hcommand), if_pos hcommand]
      cases hndev : FixedCodec.u32be.decode payload with
      | none =>
        have hshort : readExact 4 payload = .error (.io .unexpectedEof) :=
          readExact_of_decode_none FixedCodec.u32be hndev
        rw [readU32, hshort]
        rfl
      | some q =>
        obtain ⟨ndev, rest⟩ := q
        obtain rfl := FixedCodec.u32be.encode_of_decode hndev
        rw [readU32_append]
    · rw [if_pos hcommand, if_neg hcommand]

/-- The limit on the devices of a list, for one list: what is returned is within it, and a list that
announces more is an error before room is made for that many. -/
structure ListLimited (stream : Bytes) (tcpNodelay : Bool) : Prop where
  ok : ∀ devices rest, listRemoteDevices (.to stream) tcpNodelay = .ok (devices, rest) →
    devices.length ≤ maxDevices
  rejected : maxDevices < announcedDevices stream →
    (∃ e, listRemoteDevices (.to stream) tcpNodelay = .error e) ∧
      deviceCapacity (.to stream) tcpNodelay < announcedDevices stream

/-- No list is longer than announced. -/
theorem length_le_announcedDevices {stream rest : Bytes} {tcpNodelay : Bool}
    {devices : List UsbIpDeviceEntry}
    (h : listRemoteDevices (.to stream) tcpNodelay = .ok (devices, rest)) :
    devices.length ≤ announcedDevices stream := by
  rw [listRemoteDevices_to, bind_eq_ok] at h
  obtain ⟨⟨ndev, stream'⟩, hcount, h⟩ := h
  rw [← deviceCapacity_to stream tcpNodelay, deviceCapacity, hcount]
  exact length_le_of_readEntries h

theorem listLimited_iff (stream : Bytes) (tcpNodelay : Bool) :
    ListLimited stream tcpNodelay ↔ announcedDevices stream ≤ maxDevices := by
  constructor
  · intro h
    by_contra hlt
    have hroom := (h.rejected (Nat.lt_of_not_le hlt)).2
    exact absurd (deviceCapacity_to stream tcpNodelay) hroom.ne
  · intro h
    exact ⟨fun devices rest hlist => (length_le_announcedDevices hlist).trans h,
      fun hlt => absurd h (Nat.not_le_of_lt hlt)⟩

/-! ## The limits -/

/-- **The limits bound what the encrypted wire returns.** On the plain wire, and for the list of the
devices of a server, they hold for exactly the streams that announce no more than they allow. -/
theorem limited_iff (key : Aead) (hk : key.DropsTag) :
    (∀ stream, Wire.plain.Limited stream ↔ Wire.plain.announced stream ≤ maxMessageSize) ∧
      (∀ stream, (Wire.encrypted key).Limited stream) ∧
      ∀ stream tcpNodelay,
        ListLimited stream tcpNodelay ↔ announcedDevices stream ≤ maxDevices :=
  ⟨Wire.limited_plain_iff, Wire.limited_encrypted hk, listLimited_iff⟩

theorem dropsTag_nullAead : nullAead.DropsTag := by
  intro nonce ciphertext plaintext h
  unfold nullAead at h
  dsimp only at h
  split at h
  · rename_i htag
    obtain rfl := Option.some.inj h
    have hlen := congrArg List.length htag
    rw [List.length_drop, List.length_replicate] at hlen
    rw [List.length_take]
    omega
  · cases h

theorem limited_iff_nullAead :
    (Wire.encrypted nullAead).Limited
      (CryptoStream.writeMessage nullAead (Vector.replicate 12 0) [1, 2, 3]) :=
  (limited_iff nullAead dropsTag_nullAead).2.1 _

/-- An OUT transfer whose data alone has the size of the largest message. -/
def hugeFrame : CmdSubmitFrame where
  version := usbipVersion
  status := 0
  cmd := ⟨1, 1, 0, 2, 0, 1048576, 0, 0, 0, Vector.replicate 8 0⟩
  padding := Vector.replicate 4 0
  data := List.replicate 1048576 0
  length_data := by
    rw [List.length_replicate]
    rfl

/-- A list of one device more than the largest number. -/
def hugeList : Bytes := (UsbIpHeader.new opRepDevlist).asBytes ++ FixedCodec.u32be.encode 257

theorem length_hugeFrame : hugeFrame.bytes.length = 8 + (48 + 1048576) := hugeFrame.length_bytes

/-- The plain wire returns the huge message, and room is made for the huge list. -/
theorem not_limited_huge : ¬Wire.plain.Limited hugeFrame.bytes ∧ ¬ListLimited hugeList true := by
  constructor
  · intro h
    have hlen := h.ok hugeFrame.bytes [] (by
      have hread := hugeFrame.isFrame_bytes []
      rwa [List.append_nil] at hread)
    rw [length_hugeFrame, maxMessageSize] at hlen
    omega
  · intro h
    exact absurd ((listLimited_iff hugeList true).1 h) (by decide)

end AnyPlug
