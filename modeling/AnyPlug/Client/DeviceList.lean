import AnyPlug.Android.Handshake

/-!
# The device list

`Client::list_remote_devices` of `usbip-client/src/client.rs` asks a server for its devices and
reads the list (`listRemoteDevices`).

`listRemoteDevices_reply` compares it with the two servers: the list of `handle_devlist` comes back
as it was sent, and so does the one device of the Android server, with every number cut to the width
of its field.
-/

namespace AnyPlug

/-- Read a number of four bytes. -/
def readU32 (stream : Bytes) : UsbIpResult (UInt32 × Bytes) := do
  let (buf, stream) ← readExact 4 stream
  let (x, _) ← okOr (FixedCodec.u32be.decode buf) (.io .unexpectedEof)
  return (x, stream)

/-- Read the entries of a list. An entry that does not decode is left out. -/
def readEntries : ℕ → Bytes → UsbIpResult (List UsbIpDeviceEntry × Bytes)
  | 0, stream => .ok ([], stream)
  | n + 1, stream => do
    let (buf, stream) ← readExact UsbIpDeviceEntry.size stream
    let (devices, stream) ← readEntries n stream
    match UsbIpDeviceEntry.readFromPrefix buf with
    | some (entry, _) => return (entry :: devices, stream)
    | none => return (devices, stream)

/-- Connect to a server and list its devices; returns them and what is left of the stream. -/
def listRemoteDevices (conn : Connection) (tcpNodelay : Bool) :
    UsbIpResult (List UsbIpDeviceEntry × Bytes) := do
  conn.connect
  if tcpNodelay then conn.setNodelay
  conn.writeAll (UsbIpHeader.new opReqDevlist).asBytes
  let (buf, stream) ← readExact UsbIpHeader.size conn.stream
  let (header, _) ← okOr (UsbIpHeader.readFromPrefix buf) (.protocol "invalid reply header")
  if header.command ≠ opRepDevlist then .error (.protocol "unexpected reply")
  else
    let (ndev, stream) ← readU32 stream
    readEntries ndev.toNat stream

/-- The entries of a list are read back, and nothing else. -/
theorem readEntries_flatMap (devices : List UsbIpDeviceEntry) (suffix : Bytes) :
    readEntries devices.length (devices.flatMap UsbIpDeviceEntry.asBytes ++ suffix) =
      .ok (devices, suffix) := by
  induction devices with
  | nil => rfl
  | cons entry devices ih =>
    rw [List.length_cons, List.flatMap_cons, List.append_assoc, readEntries,
      readExact_append (UsbIpDeviceEntry.length_asBytes _), ok_bind]
    dsimp only
    rw [ih, ok_bind, UsbIpDeviceEntry.readFromPrefix_asBytes]
    rfl

theorem readU32_append (x : UInt32) (rest : Bytes) :
    readU32 (FixedCodec.u32be.encode x ++ rest) = .ok (x, rest) := by
  have hlen : (FixedCodec.u32be.encode x).length = 4 := FixedCodec.u32be.length_encode x
  rw [readU32, readExact_append hlen, ok_bind]
  dsimp only
  rw [FixedCodec.decode_encode, okOr_some, ok_bind]
  rfl

/-- Behind the header of the reply stands the number of entries. -/
theorem listRemoteDevices_header (ndev : UInt32) (rest : Bytes) (tcpNodelay : Bool) :
    listRemoteDevices (.to ((UsbIpHeader.new opRepDevlist).asBytes ++
      (FixedCodec.u32be.encode ndev ++ rest))) tcpNodelay = readEntries ndev.toNat rest := by
  have hcommand : (UsbIpHeader.new opRepDevlist).command = opRepDevlist := rfl
  -- a hypothesis, not `ok_bind`: by `rfl` the kernel would compute the bytes of the number
  have hbind {α β : Type} (a : α) (f : α → UsbIpResult β) :
      ((.ok a : UsbIpResult α) >>= f) = f a := ok_bind a f
  simp only [listRemoteDevices, Connection.to, hbind,
    readExact_append (UsbIpHeader.length_asBytes _), UsbIpHeader.readFromPrefix_asBytes, okOr_some,
    readU32_append, hcommand, ne_eq, not_true_eq_false, if_false, ite_self]

theorem listRemoteDevices_devlistReply (devices : List UsbIpDeviceEntry)
    (hlen : devices.length < 2 ^ 32) (suffix : Bytes) (tcpNodelay : Bool) :
    listRemoteDevices (.to (devlistReply devices ++ suffix)) tcpNodelay =
      .ok (devices, suffix) := by
  have hndev : (UInt32.ofNat devices.length).toNat = devices.length := by
    rw [UInt32.toNat_ofNat', Nat.mod_eq_of_lt hlen]
  rw [devlistReply, List.append_assoc, List.append_assoc, listRemoteDevices_header, hndev,
    readEntries_flatMap]

/-- **The lists of both servers are read back.** From the server of this project the client gets the
entries that the backend returned, and from the Android server the device, with every number cut to
the width of its field. -/
theorem listRemoteDevices_reply (tcpNodelay : Bool) :
    (∀ devices : List UsbIpDeviceEntry, devices.length < 2 ^ 32 → ∀ suffix,
      listRemoteDevices (.to (devlistReply devices ++ suffix)) tcpNodelay =
        .ok (devices, suffix)) ∧
    ∀ device : Android.ExportedDevice, ∃ reply entry,
      Android.handleDevList (some device) = some reply ∧
      (∀ suffix, listRemoteDevices (.to (reply ++ suffix)) tcpNodelay = .ok ([entry], suffix)) ∧
      (entry.idVendor.toNat : ℤ) = device.vendorId.toInt % 2 ^ 16 ∧
      (entry.idProduct.toNat : ℤ) = device.productId.toInt % 2 ^ 16 ∧
      (entry.bDeviceClass.toNat : ℤ) = device.deviceClass.toInt % 2 ^ 8 ∧
      (entry.bDeviceSubClass.toNat : ℤ) = device.deviceSubclass.toInt % 2 ^ 8 ∧
      (entry.bDeviceProtocol.toNat : ℤ) = device.deviceProtocol.toInt % 2 ^ 8 ∧
      (entry.busnum.toNat : ℤ) = device.deviceId.toInt % 2 ^ 32 ∧
      (entry.devnum.toNat : ℤ) = device.deviceId.toInt % 2 ^ 32 ∧
      (entry.bNumConfigurations.toNat : ℤ) = device.configurationCount.toInt % 2 ^ 8 ∧
      entry.bNumInterfaces.toNat = device.interfaces.length % 2 ^ 8 ∧
      entry.busid.toList = Android.busidBytes device ++
        List.replicate (32 - (Android.busidBytes device).length) 0 := by
  refine ⟨fun devices hlen suffix => listRemoteDevices_devlistReply devices hlen suffix tcpNodelay,
    fun device => ⟨_, Android.deviceEntry device, Android.handleDevList_some device, ?_⟩⟩
  have hone : [Android.deviceEntry device].length < 2 ^ 32 := by
    rw [List.length_singleton]
    omega
  refine ⟨fun suffix => listRemoteDevices_devlistReply _ hone suffix tcpNodelay,
    Android.toNat_toShort _, Android.toNat_toShort _, Android.toNat_toByte _,
    Android.toNat_toByte _, Android.toNat_toByte _, Android.toNat_toUInt32 _,
    Android.toNat_toUInt32 _, Android.toNat_toByte _, ?_, ?_⟩
  · exact UInt8.toNat_ofNat'
  · exact Android.toList_zeroPad_of_le (Android.length_busidBytes_le device)

/-- Pedals on the same bus as the wheel. -/
def pedalsEntry : UsbIpDeviceEntry :=
  { wheelEntry with busid := zeroPad 32 [0x31, 0x2D, 0x32], devnum := 2, idProduct := 0xC294 }

/-- The wheel and the pedals are listed in the order of the backend. -/
theorem listRemoteDevices_wheel :
    [wheelEntry, pedalsEntry].length < 2 ^ 32 ∧
      listRemoteDevices (.to (devlistReply [wheelEntry, pedalsEntry] ++ [7])) true =
        .ok ([wheelEntry, pedalsEntry], [7]) :=
  ⟨by decide, (listRemoteDevices_reply true).1 [wheelEntry, pedalsEntry] (by decide) [7]⟩

end AnyPlug
