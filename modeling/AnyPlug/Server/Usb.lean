import AnyPlug.Core.Reply
import AnyPlug.Core.Descriptor
import AnyPlug.Foundations.Utf8

/-!
# Devices and transfers

The device manager of the server (`usbip-server/src/usb.rs`) over its default backend
(`usbip-server/src/usb_backend.rs`): finding a device by its bus id, and executing a URB.

A backend call is modelled by its answer. For the transfers themselves, `LibusbHandle` holds what
one open device answers to each of the four transfer calls of the library; the buffer of a read
comes back with at most the length that was asked for.

`submitUrb` always has a result, and its result has one of the three shapes of `OfShape`
(`ofShape_submitUrb`). The shape follows the transfer flags of the command; the reader of the
reply follows the direction field that the reply echoes (`Core.Urb`).
`agrees_iff_flags_direction` says when the two agree.

The data of an IN transfer may be more than the client asked for (`submitUrb_within`).
-/

namespace AnyPlug

/-! ## Bus ids -/

/-- The value of a string of decimal digits, as long as it stays below 256. -/
def parseDigits : ℕ → List Char → Option ℕ
  | n, [] => some n
  | n, c :: cs =>
    if c.isDigit && 10 * n + (c.toNat - '0'.toNat) < 256 then
      parseDigits (10 * n + (c.toNat - '0'.toNat)) cs
    else none

/-- `str::parse::<u8>`: decimal digits, with an optional plus sign before them. -/
def parseU8 (s : List Char) : Option UInt8 :=
  match s with
  | [] | ['+'] => none
  | '+' :: digits => (parseDigits 0 digits).map UInt8.ofNat
  | digits => (parseDigits 0 digits).map UInt8.ofNat

/-- Bus and device number of a bus id. Anything after a second hyphen is ignored. -/
def parseBusid (busid : String) : UsbIpResult (UInt8 × UInt8) :=
  match busid.toList.splitOn '-' with
  | bus :: dev :: _ => do
    let busnum ← okOr (parseU8 bus) (.deviceNotFound busid)
    let devnum ← okOr (parseU8 dev) (.deviceNotFound busid)
    return (busnum, devnum)
  | _ => .error (.deviceNotFound busid)

/-- The bus id of a device entry as text, up to the first zero byte. -/
def UsbIpDeviceEntry.busidStr (e : UsbIpDeviceEntry) : String :=
  (fromUtf8 (beforeNul e.busid.toList)).getD "???"

/-- Devices filtered by an allowlist of (VID, PID) pairs. An empty allowlist lets all through. -/
def listExportableDevices (devices : List UsbIpDeviceEntry) (allowed : List (UInt16 × UInt16)) :
    List UsbIpDeviceEntry :=
  if allowed.isEmpty then devices
  else devices.filter fun d => allowed.any fun (vid, pid) => d.vid == vid && d.pid == pid

/-- The attached device with the numbers of a bus id. -/
def getDeviceEntry (devices : List UsbIpDeviceEntry) (busid : String) : Option UsbIpDeviceEntry :=
  match parseBusid busid with
  | .ok (busnum, devnum) =>
    devices.find? fun d => d.busnum == busnum.toUInt32 && d.devnum == devnum.toUInt32
  | .error _ => none

theorem mem_of_getDeviceEntry {devices : List UsbIpDeviceEntry} {busid : String}
    {e : UsbIpDeviceEntry} (h : getDeviceEntry devices busid = some e) : e ∈ devices := by
  unfold getDeviceEntry at h
  split at h
  · exact List.mem_of_find?_eq_some h
  · cases h

/-! ## Transfers -/

/-- The errors of the USB library. -/
inductive RusbError
  | io
  | invalidParam
  | access
  | noDevice
  | notFound
  | busy
  | timeout
  | overflow
  | pipe
  | interrupted
  | noMem
  | notSupported
  | badDescriptor
  | other
  deriving DecidableEq, Repr

/-- The platform-neutral error of an error of the USB library. -/
def mapUsbErr : RusbError → ErrorKind
  | .io => .usb .io
  | .invalidParam => .usb .invalidParam
  | .access => .usb .access
  | .noDevice => .usb .noDevice
  | .notFound => .usb .notFound
  | .busy => .usb .busy
  | .timeout => .usb .timeout
  | .overflow => .usb .overflow
  | .pipe => .usb .pipe
  | .interrupted => .usb .interrupted
  | .noMem => .usb .noMem
  | .notSupported => .usb .notSupported
  | .badDescriptor => .usb .badDescriptor
  | .other => .usb .other

/-- Apply `map_usb_err` to the error of a library call. -/
def mapErr {α : Type} : Except RusbError α → UsbIpResult α
  | .ok a => .ok a
  | .error e => .error (mapUsbErr e)

/-- A setup packet, split into its fields. -/
structure SetupPacket where
  bmRequestType : UInt8
  bRequest : UInt8
  wValue : UInt16
  wIndex : UInt16
  wLength : UInt16

/-- The fields of a setup packet, least significant byte first. -/
def UsbIpCmdSubmit.setupPacket (cmd : UsbIpCmdSubmit) : SetupPacket where
  bmRequestType := cmd.setup[0]
  bRequest := cmd.setup[1]
  wValue := fromLeBytes cmd.setup[2] cmd.setup[3]
  wIndex := fromLeBytes cmd.setup[4] cmd.setup[5]
  wLength := fromLeBytes cmd.setup[6] cmd.setup[7]

/-- What an open device answers to one transfer call. A read fills a buffer of the given length
and returns the part it filled, a write returns how much it took. -/
structure LibusbHandle where
  readControl : SetupPacket → (len : ℕ) → Except RusbError {buf : Bytes // buf.length ≤ len}
  writeControl : SetupPacket → Bytes → Except RusbError ℕ
  readBulk : UInt8 → (len : ℕ) → Except RusbError {buf : Bytes // buf.length ≤ len}
  writeBulk : UInt8 → Bytes → Except RusbError ℕ

/-- Result of a single URB transfer. -/
structure UrbTransferResult where
  status : Int32
  actualLength : UInt32
  data : Bytes
  deriving DecidableEq

/-- Result of a single URB execution, mapped to a wire-ready status. -/
structure UrbResult where
  status : Int32
  actualLength : UInt32
  data : Bytes
  deriving DecidableEq

/-- The result of a read, with its data. -/
def UrbTransferResult.ofRead (buf : Bytes) : UrbTransferResult :=
  ⟨0, UInt32.ofNat buf.length, buf⟩

/-- The result of a write, with no data. -/
def UrbTransferResult.ofWrite (len : ℕ) : UrbTransferResult := ⟨0, UInt32.ofNat len, []⟩

/-- Execute a URB on the open device of a bus id, if there is one. -/
def LibusbBackend.executeUrb (handle : Option LibusbHandle) (busid : String)
    (cmd : UsbIpCmdSubmit) (outData : Bytes) : UsbIpResult UrbTransferResult := do
  let handle ← okOr handle (.deviceNotFound busid)
  let epAddr := cmd.ep.toUInt8
  if cmd.isControl then
    let setup := cmd.setupPacket
    if cmd.isIn then
      let buf ← mapErr (handle.readControl setup setup.wLength.toNat)
      return .ofRead buf.val
    else
      let len ← mapErr (handle.writeControl setup outData)
      return .ofWrite len
  else if cmd.isIn then
    let maxSize := max cmd.dataLen.toNat 512
    let buf ← mapErr (handle.readBulk epAddr maxSize)
    return .ofRead buf.val
  else
    let len ← mapErr (handle.writeBulk epAddr outData)
    return .ofWrite len

/-- Execute a URB on a device the manager has claimed. -/
def UsbDeviceManager.executeUrb (claimed : Bool)
    (backend : String → UsbIpCmdSubmit → Bytes → UsbIpResult UrbTransferResult) (busid : String)
    (cmd : UsbIpCmdSubmit) (outData : Bytes) : UsbIpResult UrbTransferResult :=
  if !claimed then .error (.deviceNotFound busid) else backend busid cmd outData

/-- The URB status of an error. -/
def urbStatus : ErrorKind → Int32
  | .usb code => usbErrorToUrbStatus code
  | .deviceNotFound _ => -19
  | .timeout => -62
  | _ => -5

/-- The wire-ready result of a transfer: an error becomes a negative status. -/
def UrbResult.ofTransfer : UsbIpResult UrbTransferResult → UrbResult
  | .ok transfer => ⟨transfer.status, transfer.actualLength, transfer.data⟩
  | .error e => ⟨urbStatus e, 0, []⟩

/-- Execute a URB and map any error to a negative status, so that there is always a reply. -/
def UsbDeviceManager.submitUrb (claimed : Bool)
    (backend : String → UsbIpCmdSubmit → Bytes → UsbIpResult UrbTransferResult) (busid : String)
    (cmd : UsbIpCmdSubmit) (outData : Bytes) : UrbResult :=
  .ofTransfer (executeUrb claimed backend busid cmd outData)

/-! ## The shape of a result -/

/-- The results a URB can have. -/
inductive OfShape (cmd : UsbIpCmdSubmit) : UrbResult → Prop
  | read (len : UInt32) (data : Bytes) (hin : cmd.isIn = true) (hlen : data.length = len.toNat) :
      OfShape cmd ⟨0, len, data⟩
  | write (len : UInt32) (hout : cmd.isIn = false) : OfShape cmd ⟨0, len, []⟩
  | failed (status : Int32) (hneg : status < 0) : OfShape cmd ⟨status, 0, []⟩

theorem urbStatus_neg (e : ErrorKind) : urbStatus e < 0 := by
  cases e
  case usb code => exact usbErrorToUrbStatus_neg code
  all_goals
    simp only [urbStatus]
    decide

theorem ofShape_ofRead {cmd : UsbIpCmdSubmit} (hin : cmd.isIn = true) {n : ℕ} (hn : n < 2 ^ 32)
    (buf : {buf : Bytes // buf.length ≤ n}) :
    OfShape cmd (.ofTransfer (.ok (.ofRead buf.val))) := by
  refine .read _ _ hin ?_
  rw [UrbTransferResult.ofRead, UInt32.toNat_ofNat',
    Nat.mod_eq_of_lt (lt_of_le_of_lt buf.property hn)]

/-- The transfer of the library's backend, whatever the device answers. -/
theorem ofShape_executeUrb (handle : Option LibusbHandle) (busid : String) (cmd : UsbIpCmdSubmit)
    (outData : Bytes) :
    OfShape cmd (.ofTransfer (LibusbBackend.executeUrb handle busid cmd outData)) := by
  have herr (e : ErrorKind) : OfShape cmd (.ofTransfer (.error e)) := .failed _ (urbStatus_neg e)
  cases handle with
  | none => exact herr _
  | some handle =>
    simp only [LibusbBackend.executeUrb, okOr_some, ok_bind]
    split
    · split
      · rename_i hin
        rcases handle.readControl _ _ with e | buf
        · exact herr _
        · exact ofShape_ofRead hin (lt_trans (UInt16.toNat_lt _) (by decide)) buf
      · rename_i hout
        rcases handle.writeControl _ _ with e | len
        · exact herr _
        · exact .write _ (by simpa using hout)
    · split
      · rename_i hin
        rcases handle.readBulk _ _ with e | buf
        · exact herr _
        · exact ofShape_ofRead hin (max_lt (UInt32.toNat_lt _) (by decide)) buf
      · rename_i hout
        rcases handle.writeBulk _ _ with e | len
        · exact herr _
        · exact .write _ (by simpa using hout)

/-- **Every URB has a result of one of the three shapes**, claimed or not, whatever the device
answers. -/
theorem ofShape_submitUrb (claimed : Bool) (handle : Option LibusbHandle) (busid : String)
    (cmd : UsbIpCmdSubmit) (outData : Bytes) :
    OfShape cmd
      (UsbDeviceManager.submitUrb claimed (LibusbBackend.executeUrb handle) busid cmd outData) := by
  cases claimed with
  | false => exact .failed _ (urbStatus_neg _)
  | true => exact ofShape_executeUrb handle busid cmd outData

/-! ## The length of a transfer -/

/-- The length of the buffer that an IN transfer reads into. -/
def UsbIpCmdSubmit.readSize (cmd : UsbIpCmdSubmit) : ℕ :=
  if cmd.isControl then cmd.setupPacket.wLength.toNat else max cmd.dataLen.toNat 512

/-- The data of a result, and how many there are said to be. -/
structure UrbResult.Within (r : UrbResult) (n : ℕ) : Prop where
  actualLength : r.data.length = r.actualLength.toNat
  length_le : r.data.length ≤ n

theorem readSize_lt (cmd : UsbIpCmdSubmit) : cmd.readSize < 2 ^ 32 := by
  unfold UsbIpCmdSubmit.readSize
  split
  · exact lt_trans (UInt16.toNat_lt _) (by decide)
  · exact max_lt (UInt32.toNat_lt _) (by decide)

theorem within_ofRead {n : ℕ} (hn : n < 2 ^ 32) (buf : {buf : Bytes // buf.length ≤ n}) :
    UrbResult.Within (.ofTransfer (.ok (.ofRead buf.val))) n := by
  refine ⟨?_, buf.property⟩
  show buf.val.length = (UInt32.ofNat buf.val.length).toNat
  rw [UInt32.toNat_ofNat', Nat.mod_eq_of_lt (lt_of_le_of_lt buf.property hn)]

theorem within_error (e : ErrorKind) (n : ℕ) : UrbResult.Within (.ofTransfer (.error e)) n :=
  ⟨rfl, Nat.zero_le n⟩

theorem within_executeUrb (handle : Option LibusbHandle) (busid : String) {cmd : UsbIpCmdSubmit}
    (hin : cmd.isIn = true) (outData : Bytes) :
    UrbResult.Within (.ofTransfer (LibusbBackend.executeUrb handle busid cmd outData))
      cmd.readSize := by
  have hlt := readSize_lt cmd
  cases handle with
  | none => exact within_error _ _
  | some handle =>
    unfold UsbIpCmdSubmit.readSize at hlt ⊢
    simp only [LibusbBackend.executeUrb, okOr_some, ok_bind, hin, if_true]
    split
    · next hcontrol =>
      rw [if_pos hcontrol] at hlt
      rcases handle.readControl _ _ with e | buf
      · exact within_error _ _
      · exact within_ofRead hlt buf
    · next hcontrol =>
      rw [if_neg hcontrol] at hlt
      rcases handle.readBulk _ _ with e | buf
      · exact within_error _ _
      · exact within_ofRead hlt buf

theorem within_submitUrb (claimed : Bool) (handle : Option LibusbHandle) (busid : String)
    {cmd : UsbIpCmdSubmit} (hin : cmd.isIn = true) (outData : Bytes) :
    UrbResult.Within
      (UsbDeviceManager.submitUrb claimed (LibusbBackend.executeUrb handle) busid cmd outData)
      cmd.readSize := by
  cases claimed with
  | false => exact within_error _ _
  | true => exact within_executeUrb handle busid hin outData

/-- A device that fills every buffer it is given. -/
def fillingHandle : LibusbHandle where
  readControl _ len := .ok ⟨List.replicate len 0, List.length_replicate.le⟩
  writeControl _ data := .ok data.length
  readBulk _ len := .ok ⟨List.replicate len 0, List.length_replicate.le⟩
  writeBulk _ data := .ok data.length

theorem length_submitUrb_fillingHandle {cmd : UsbIpCmdSubmit} (hin : cmd.isIn = true) :
    (UsbDeviceManager.submitUrb true (LibusbBackend.executeUrb (some fillingHandle)) "1-1" cmd
      []).data.length = cmd.readSize := by
  have hread (n : ℕ) : (UrbResult.ofTransfer
      (.ok (.ofRead (List.replicate n 0)))).data.length = n := List.length_replicate
  rw [UsbDeviceManager.submitUrb, UsbDeviceManager.executeUrb, Bool.not_true,
    if_neg Bool.false_ne_true]
  unfold UsbIpCmdSubmit.readSize
  simp only [LibusbBackend.executeUrb, okOr_some, ok_bind, hin, if_true]
  split
  · exact hread _
  · exact hread _

/-- **A device fills at most the buffer it was given.** That is what the client asked for, whatever
the device does, exactly when the buffer is no longer than the client's. -/
theorem submitUrb_within {cmd : UsbIpCmdSubmit} (hin : cmd.isIn = true) :
    (∀ claimed handle busid outData,
      UrbResult.Within
        (UsbDeviceManager.submitUrb claimed (LibusbBackend.executeUrb handle) busid cmd outData)
        cmd.readSize) ∧
      ((∀ claimed handle busid outData,
        UrbResult.Within
          (UsbDeviceManager.submitUrb claimed (LibusbBackend.executeUrb handle) busid cmd outData)
          cmd.dataLen.toNat) ↔
        cmd.readSize ≤ cmd.dataLen.toNat) := by
  refine ⟨fun claimed handle busid outData => within_submitUrb claimed handle busid hin outData,
    ?_, ?_⟩
  · intro h
    rw [← length_submitUrb_fillingHandle hin]
    exact (h true (some fillingHandle) "1-1" []).length_le
  · intro hle claimed handle busid outData
    have hwithin := within_submitUrb claimed handle busid hin outData
    exact ⟨hwithin.actualLength, hwithin.length_le.trans hle⟩

/-- An IN transfer of four bytes whose command says so twice. -/
def readCmd : UsbIpCmdSubmit :=
  ⟨1, 1, 1, 0x81, urbDirIn, 4, 0, 0, 0, Vector.replicate 8 0⟩

theorem submitUrb_within_readCmd :
    readCmd.isIn = true ∧ readCmd.readSize = 512 ∧
      UrbResult.Within
        (UsbDeviceManager.submitUrb true (LibusbBackend.executeUrb (some fillingHandle)) "1-1"
          readCmd []) 512 :=
  ⟨by decide, by decide, (submitUrb_within (show readCmd.isIn = true by decide)).1 true
    (some fillingHandle) "1-1" []⟩

/-- A device answers four bytes that were asked for with 512. -/
theorem not_within_readCmd :
    ¬∀ cmd : UsbIpCmdSubmit, cmd.isIn = true → ∀ claimed handle busid outData,
      UrbResult.Within
        (UsbDeviceManager.submitUrb claimed (LibusbBackend.executeUrb handle) busid cmd outData)
        cmd.dataLen.toNat := by
  intro h
  have hlen := length_submitUrb_fillingHandle (show readCmd.isIn = true by decide)
  have hle := (h readCmd (by decide) true (some fillingHandle) "1-1" []).length_le
  rw [hlen] at hle
  exact absurd hle (by decide)

/-! ## Writer and reader of a reply -/

/-- The reply to a command with a result. -/
def UrbResult.reply (r : UrbResult) (cmd : UsbIpCmdSubmit) : Bytes :=
  serializeReply cmd r.status r.actualLength r.data

/-- The reader finds in the reply what the writer put there: one message, whatever follows it,
with the fields of the result and, for an IN transfer, its data. -/
structure Agrees (cmd : UsbIpCmdSubmit) (r : UrbResult) : Prop where
  isFrame : IsFrame readMessage (r.reply cmd)
  decoded : ∃ ret, asRetSubmit (r.reply cmd) = some ret ∧ ret.seqnum = cmd.seqnum ∧
    ret.devid = cmd.devid ∧ Int32.ofUInt32 ret.status = r.status ∧
    ret.actualLength = r.actualLength ∧
    (cmd.isIn = true → ret.inData ((r.reply cmd).drop UsbIpHeader.size) = r.data)

/-- A frame carries the data it was given. -/
theorem inData_reply {cmd : UsbIpCmdSubmit} {r : UrbResult}
    (h : r.data.length = announcedLength cmd r.status r.actualLength) :
    (replyRecord cmd r.status r.actualLength).inData ((r.reply cmd).drop UsbIpHeader.size) =
      r.data := by
  rw [UrbResult.reply, serializeReply_eq, List.drop_left' (UsbIpHeader.length_asBytes _),
    UsbIpRetSubmit.inData, List.drop_left' (UsbIpRetSubmit.length_asBytes _)]
  split
  · rfl
  · rename_i hd
    rw [announcedLength, if_neg hd] at h
    exact (List.length_eq_zero_iff.1 h).symm

theorem agrees_iff_length (cmd : UsbIpCmdSubmit) (r : UrbResult) :
    Agrees cmd r ↔ r.data.length = announcedLength cmd r.status r.actualLength := by
  constructor
  · intro h
    exact (isFrame_serializeReply_iff _ _ _ _).1 h.isFrame
  · intro h
    refine ⟨(isFrame_serializeReply_iff _ _ _ _).2 h, _, asRetSubmit_serializeReply _ _ _ _, rfl,
      rfl, rfl, rfl, fun _ => inData_reply h⟩

/-- **Writer and reader of a reply agree** exactly when the transfer failed, or moved nothing, or
the transfer flags and the direction field of the command say the same. This is for the results of
`OfShape`, as are all that the backend gives. -/
theorem agrees_iff_flags_direction (cmd : UsbIpCmdSubmit) :
    (∀ r, OfShape cmd r →
      (Agrees cmd r ↔
        (r.status = 0 → r.actualLength ≠ 0 → (cmd.isIn = true ↔ cmd.direction ≠ 0)))) ∧
      ∀ claimed handle busid outData, OfShape cmd
        (UsbDeviceManager.submitUrb claimed (LibusbBackend.executeUrb handle) busid cmd
          outData) := by
  refine ⟨fun r h => ?_, fun claimed handle busid outData =>
    ofShape_submitUrb claimed handle busid cmd outData⟩
  have hz (len : UInt32) : len = 0 ↔ len.toNat = 0 := by rw [← UInt32.toNat_inj, UInt32.toNat_zero]
  rw [agrees_iff_length, announcedLength_eq]
  cases h with
  | read len data hin hlen =>
    by_cases hd : cmd.direction = 0 <;> simp [hin, hlen, hd, hz]
  | write len hout =>
    by_cases hd : cmd.direction = 0 <;> simp [hout, hd, hz, eq_comm]
  | failed status hneg =>
    have hne : status ≠ 0 := by
      rintro rfl
      exact absurd hneg (by decide)
    simp [hne]

/-- A read that a device answers is read back. -/
theorem agrees_readCmd :
    Agrees readCmd (UsbDeviceManager.submitUrb true (LibusbBackend.executeUrb (some fillingHandle))
      "1-1" readCmd []) :=
  ((agrees_iff_flags_direction readCmd).1 _
    ((agrees_iff_flags_direction readCmd).2 true (some fillingHandle) "1-1" [])).2
      fun _ _ => by decide

/-- A command whose direction field says IN and whose transfer flags say OUT. -/
def mixedCmd : UsbIpCmdSubmit :=
  ⟨1, 1, 1, 0x01, 0, 4, 0, 0, 0, Vector.replicate 8 0⟩

/-- A write of four bytes, answered as the backend answers it, is no frame for the reader, which
waits for four bytes of data. -/
theorem not_agrees_mixedCmd : OfShape mixedCmd ⟨0, 4, []⟩ ∧ ¬Agrees mixedCmd ⟨0, 4, []⟩ := by
  refine ⟨.write 4 (by decide), fun h => ?_⟩
  have hlen := (agrees_iff_length _ _).1 h
  rw [announcedLength_eq] at hlen
  exact absurd hlen (by decide)

end AnyPlug
