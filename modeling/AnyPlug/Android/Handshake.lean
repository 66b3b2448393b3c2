import AnyPlug.Android.Client
import AnyPlug.Client.Forwarding

/-!
# The handshake of the Android applications

Before the first URB, `UsbIpServer` answers a device list request (`handleDevList`) or an import
request (`handleImport`), and `UsbIpClient` asks for an import and reads the answer
(`requestImport`).

* The entry of the server is put together byte by byte. `buildDeviceEntry_eq`: it is the entry of
  the shared protocol, with every number cut to the width of its field.
* The client reads 4096 bytes for the entry and the descriptor tree, whatever the server sends.
  `requestImport_iff`: it takes the reply and nothing else only for a tree of 3784 bytes. It waits
  for ever after a shorter tree, and leaves the end of a longer one on the stream.
-/

namespace AnyPlug

namespace Android

/-! ## The server -/

/-- The device that the server exports, with what the USB host API tells about it. -/
structure ExportedDevice extends UsbDevice where
  deviceName : String
  deviceId : Int32
  vendorId : Int32
  productId : Int32
  deviceClass : Int32
  deviceSubclass : Int32
  deviceProtocol : Int32
  configurationCount : Int32

/-- `Int.toShort`: the low 16 bits. -/
def toShort (x : Int32) : UInt16 := x.toUInt32.toUInt16

/-- `Int.toByte`: the low 8 bits. -/
def toByte (x : Int32) : UInt8 := x.toUInt32.toUInt8

/-- `String.toByteArray`: the UTF-8 encoding. -/
def toByteArray (s : String) : Bytes := s.toUTF8.data.toList

/-- The bus id that the server advertises: the id of the device in decimal. -/
def busidBytes (device : ExportedDevice) : Bytes := toByteArray (toString device.deviceId.toInt)

/-- `ByteArray.copyOf`: cut to the size, or filled up with zeros. -/
def copyOf (bs : Bytes) (n : ℕ) : Bytes := (zeroPad n bs).toList

/-- The bytes of the entry, in the order they are put. -/
def buildDeviceEntry (device : ExportedDevice) : Bytes :=
  filled 312
    (copyOf (toByteArray ("/sys/bus/usb/devices/" ++ device.deviceName)) 256 ++
      copyOf (busidBytes device) 32 ++
      FixedCodec.u32be.encode device.deviceId.toUInt32 ++
      FixedCodec.u32be.encode device.deviceId.toUInt32 ++
      FixedCodec.u32be.encode 2 ++
      FixedCodec.u16be.encode (toShort device.vendorId) ++
      FixedCodec.u16be.encode (toShort device.productId) ++
      FixedCodec.u16be.encode 0 ++
      [toByte device.deviceClass, toByte device.deviceSubclass, toByte device.deviceProtocol, 0,
        toByte device.configurationCount, .ofNat device.interfaces.length])

/-- The entry that the bytes stand for. -/
def deviceEntry (device : ExportedDevice) : UsbIpDeviceEntry where
  path := zeroPad 256 (toByteArray ("/sys/bus/usb/devices/" ++ device.deviceName))
  busid := zeroPad 32 (busidBytes device)
  busnum := device.deviceId.toUInt32
  devnum := device.deviceId.toUInt32
  speed := 2
  idVendor := toShort device.vendorId
  idProduct := toShort device.productId
  bcdDevice := 0
  bDeviceClass := toByte device.deviceClass
  bDeviceSubClass := toByte device.deviceSubclass
  bDeviceProtocol := toByte device.deviceProtocol
  bConfigurationValue := 0
  bNumConfigurations := toByte device.configurationCount
  bNumInterfaces := .ofNat device.interfaces.length

/-- The descriptor tree: what the connection has, or else a device descriptor. -/
def getRawDescriptors (device : ExportedDevice) (rawDescriptors : Option Bytes) : Bytes :=
  match rawDescriptors with
  | some raw => if raw ≠ [] then raw else fallback
  | none => fallback
where
  fallback : Bytes :=
    [18, 1] ++ toLeBytes 0x0200 ++
      [toByte device.deviceClass, toByte device.deviceSubclass, toByte device.deviceProtocol, 64] ++
      toLeBytes (toShort device.vendorId) ++ toLeBytes (toShort device.productId) ++ toLeBytes 0 ++
      [0, 0, 0, toByte device.configurationCount]

/-- The reply to `OP_REQ_DEVLIST`; there is none without a claimed device. -/
def handleDevList (claimedDevice : Option ExportedDevice) : Option Bytes :=
  claimedDevice.map fun device =>
    (UsbIpHeader.new opRepDevlist).asBytes ++ FixedCodec.u32be.encode 1 ++ buildDeviceEntry device

/-- The reply to `OP_REQ_IMPORT` with a descriptor tree. -/
def importBytes (device : ExportedDevice) (descriptors : Bytes) : Bytes :=
  (UsbIpHeader.new opRepImport).asBytes ++ buildDeviceEntry device ++ descriptors

/-- The reply to `OP_REQ_IMPORT`; there is none without a claimed device. The bus id of the request
is read and not looked at. -/
def handleImport (claimedDevice : Option ExportedDevice) (rawDescriptors : Option Bytes)
    (_busidBuf : Vector UInt8 32) : Option Bytes :=
  claimedDevice.map fun device => importBytes device (getRawDescriptors device rawDescriptors)

theorem filled_of_length {n : ℕ} {puts : Bytes} (h : puts.length = n) : filled n puts = puts := by
  rw [filled, h, Nat.sub_self, List.replicate_zero, List.append_nil]

/-- **The bytes of the entry are those of a device entry.** -/
theorem buildDeviceEntry_eq (device : ExportedDevice) :
    buildDeviceEntry device = (deviceEntry device).asBytes := by
  rw [buildDeviceEntry, filled_of_length]
  · simp only [UsbIpDeviceEntry.asBytes, UsbIpDeviceEntry.codec, FixedCodec.congr, FixedCodec.prod,
      FixedCodec.bytes, FixedCodec.u8, UsbIpDeviceEntry.ofFields, Equiv.coe_fn_symm_mk,
      deviceEntry, copyOf, List.append_assoc, List.singleton_append]
  · simp [copyOf, FixedCodec.u32be, FixedCodec.u16be]

theorem handleDevList_some (device : ExportedDevice) :
    handleDevList (some device) = some (devlistReply [deviceEntry device]) := by
  rw [handleDevList, Option.map_some, buildDeviceEntry_eq, devlistReply, List.flatMap_singleton]
  rfl

theorem importBytes_eq (device : ExportedDevice) (descriptors : Bytes) :
    importBytes device descriptors = importReply (deviceEntry device) descriptors := by
  rw [importBytes, buildDeviceEntry_eq, importReply]

theorem handleImport_some (device : ExportedDevice) (rawDescriptors : Option Bytes)
    (busid : Vector UInt8 32) :
    handleImport (some device) rawDescriptors busid =
      some (importReply (deviceEntry device) (getRawDescriptors device rawDescriptors)) := by
  rw [handleImport, Option.map_some, importBytes_eq]

/-! ## The fields of the entry -/

theorem toNat_toUInt32 (x : Int32) : (x.toUInt32.toNat : ℤ) = x.toInt % 2 ^ 32 := by
  have hx : x.toInt = _ := BitVec.toInt_eq_toNat_cond x.toBitVec
  have hlt : x.toUInt32.toNat < 2 ^ 32 := x.toUInt32.toNat_lt
  change x.toInt = if 2 * x.toUInt32.toNat < 2 ^ 32 then (x.toUInt32.toNat : ℤ)
    else (x.toUInt32.toNat : ℤ) - (2 ^ 32 : ℕ) at hx
  split at hx <;> omega

theorem toNat_toShort (x : Int32) : ((toShort x).toNat : ℤ) = x.toInt % 2 ^ 16 := by
  have hx := toNat_toUInt32 x
  rw [toShort, UInt32.toNat_toUInt16]
  omega

theorem toNat_toByte (x : Int32) : ((toByte x).toNat : ℤ) = x.toInt % 2 ^ 8 := by
  have hx := toNat_toUInt32 x
  rw [toByte, UInt32.toNat_toUInt8]
  omega

theorem toList_zeroPad_of_le {n : ℕ} {bs : Bytes} (h : bs.length ≤ n) :
    (zeroPad n bs).toList = bs ++ List.replicate (n - bs.length) 0 := by
  apply List.ext_getElem
  · simp
    omega
  · intro i h₁ h₂
    simp only [zeroPad, Vector.getElem_toList, Vector.getElem_ofFn]
    rcases Nat.lt_or_ge i bs.length with hi | hi
    · rw [List.getElem_append_left hi, List.getD_eq_getElem _ _ hi]
    · rw [List.getElem_append_right hi, List.getElem_replicate, List.getD_eq_default _ _ hi]

theorem toByteArray_ofList (cs : List Char) :
    toByteArray (String.ofList cs) = cs.flatMap String.utf8EncodeChar := by
  rw [toByteArray, String.toUTF8, String.toByteArray_ofList, List.utf8Encode,
    List.toList_data_toByteArray]

/-- A digit takes one byte. -/
theorem length_toByteArray_repr (n : ℕ) : (toByteArray n.repr).length = n.repr.length := by
  rw [Nat.repr_eq_ofList_toDigits, toByteArray_ofList, String.length_ofList, List.length_flatMap]
  have hone (c) (hc : c ∈ Nat.toDigits 10 n) : (String.utf8EncodeChar c).length = 1 := by
    have hdigit := Char.isDigit_iff_toNat.1 (Nat.isDigit_of_mem_toDigits (by omega) (by omega) hc)
    rw [String.length_utf8EncodeChar, Char.utf8Size_eq_one_iff, UInt32.le_iff_toNat_le]
    exact hdigit.2.trans (by decide)
  rw [List.map_congr_left hone, List.map_const', List.sum_replicate, Nat.smul_one_eq_cast]
  rfl

/-- The advertised bus id is not cut. -/
theorem length_busidBytes_le (device : ExportedDevice) : (busidBytes device).length ≤ 32 := by
  have hlow := device.deviceId.le_toInt
  have hhigh := device.deviceId.toInt_lt
  have hrepr (n : ℕ) (hn : n < 10 ^ 31) : (toByteArray n.repr).length ≤ 31 := by
    rw [length_toByteArray_repr]
    exact (Nat.length_repr_le_iff (by omega)).2 hn
  rw [busidBytes, Int.toString_eq_repr]
  cases hid : device.deviceId.toInt with
  | ofNat n =>
    rw [hid, Int.ofNat_eq_natCast] at hhigh
    have hn := hrepr n (by omega)
    change (toByteArray n.repr).length ≤ 32
    omega
  | negSucc n =>
    rw [hid] at hlow
    have hn := hrepr (n + 1) (by omega)
    change (toByteArray ("-" ++ (n + 1).repr)).length ≤ 32
    rw [toByteArray, String.toUTF8, String.toByteArray_append, ByteArray.toList_data_append,
      List.length_append]
    exact Nat.add_le_add (le_refl 1) hn

/-! ## The client -/

/-- Why a call has not returned. -/
inductive Halt
  /-- It waits for bytes on a stream that is still open. -/
  | waiting
  | illegalState (message : String)
  | io (message : String)
  | indexOutOfBounds
  deriving DecidableEq

/-- `Char.isWhitespace` -/
def isWhitespace (c : Char) : Bool :=
  let n := c.toNat
  (9 ≤ n && n ≤ 13) || (0x1C ≤ n && n ≤ 0x20) || n == 0xA0 || n == 0x1680 ||
    (0x2000 ≤ n && n ≤ 0x200A) || n == 0x2028 || n == 0x2029 || n == 0x202F || n == 0x205F ||
    n == 0x3000

/-- `CharSequence.isBlank` -/
def isBlank (s : String) : Bool := s.toList.all isWhitespace

/-- `Int.toString(16)` of a number that is not negative. -/
def toHex (n : ℕ) : String := String.ofList (Nat.toDigits 16 n)

/-- `ByteBuffer.getShort`, as a number from 0 to 65535. -/
def getShort (buf : Bytes) (index : ℕ) : Option UInt16 :=
  (FixedCodec.u16be.decode (buf.drop index)).map Prod.fst

/-- The request for a bus id. -/
def importRequest (busId : String) : Except Halt Bytes :=
  if isBlank busId then .error (.illegalState "Bus ID is required")
  else
    let busidBytes := toByteArray busId
    if busidBytes.length > 32 then
      .error (.illegalState ("Bus ID exceeds 32 bytes: " ++ toString busidBytes.length))
    else .ok ((UsbIpHeader.new opReqImport).asBytes ++ copyOf busidBytes 32)

/-- Fill a buffer of `n` bytes. A stream that is too short throws once it is closed, and keeps the
call waiting until then. -/
def fill (n : ℕ) (closed : Bool) (message : String) (input : Bytes) :
    Except Halt (Bytes × Bytes) :=
  match readExact n input with
  | some r => .ok r
  | none => .error (if closed then .io message else .waiting)

/-- Ask for an import and read the answer: the request that is written, and what is left of the
stream. -/
def requestImport (busId : String) (closed : Bool) (input : Bytes) :
    Except Halt (Bytes × Bytes) := do
  let request ← importRequest busId
  let (replyHeader, input) ←
    fill 8 closed "Server closed connection before sending import reply" input
  let command ← (getShort replyHeader 2).elim (.error .indexOutOfBounds) .ok
  let status ← (getInt replyHeader 4).elim (.error .indexOutOfBounds) .ok
  if command ≠ opRepImport then
    .error (.illegalState ("Unexpected reply: 0x" ++ toHex command.toNat))
  else if status ≠ 0 then
    .error (.illegalState ("Import rejected: status=" ++ toString status.toInt32.toInt))
  else
    let (_, input) ←
      fill 4096 closed "Server closed connection before sending import payload" input
    return (request, input)

/-! ## What the client takes -/

theorem fill_append {n : ℕ} {a : Bytes} (h : a.length = n) (closed : Bool) (message : String)
    (rest : Bytes) : fill n closed message (a ++ rest) = .ok (a, rest) := by
  rw [fill, readExact_append h]

/-- The fields of a header, at their offsets. -/
theorem getShort_header (h : UsbIpHeader) : getShort h.asBytes 2 = some h.command := by
  have heq : h.asBytes.drop 2 =
      FixedCodec.u16be.encode h.command ++ FixedCodec.i32be.encode h.status := rfl
  rw [getShort, heq, FixedCodec.decode_encode_append]
  rfl

theorem getInt_header (h : UsbIpHeader) : getInt h.asBytes 4 = some h.status.toUInt32 := by
  have heq : h.asBytes.drop 4 = FixedCodec.u32be.encode h.status.toUInt32 := rfl
  rw [getInt, heq, FixedCodec.decode_encode]
  rfl

/-- A client that has sent a request reads 4096 bytes behind the header of a successful reply. -/
theorem requestImport_importReply {busId : String} {request : Bytes}
    (h : importRequest busId = .ok request) (closed : Bool) (entry : UsbIpDeviceEntry)
    (tree later : Bytes) :
    requestImport busId closed (importReply entry tree ++ later) =
      if 3784 ≤ (tree ++ later).length then .ok (request, (tree ++ later).drop 3784)
      else .error (if closed then
        .io "Server closed connection before sending import payload" else .waiting) := by
  have hheader : (UsbIpHeader.new opRepImport).asBytes.length = 8 := UsbIpHeader.length_asBytes _
  have hstatus : (UsbIpHeader.new opRepImport).status = 0 := rfl
  have hentry : entry.asBytes.length = 312 := UsbIpDeviceEntry.length_asBytes _
  have hfill (message : String) : fill 4096 closed message (entry.asBytes ++ (tree ++ later)) =
      if 3784 ≤ (tree ++ later).length then
        .ok (entry.asBytes ++ (tree ++ later).take 3784, (tree ++ later).drop 3784)
      else .error (if closed then .io message else .waiting) := by
    rw [fill, readExact]
    by_cases hle : 3784 ≤ (tree ++ later).length
    · have hle' : 4096 ≤ (entry.asBytes ++ (tree ++ later)).length := by
        rw [List.length_append, hentry]
        omega
      rw [if_pos hle, if_pos hle', List.take_append, List.drop_append, hentry,
        List.take_of_length_le (by omega), List.drop_of_length_le (by omega), List.nil_append]
    · have hle' : ¬4096 ≤ (entry.asBytes ++ (tree ++ later)).length := by
        rw [List.length_append, hentry]
        omega
      rw [if_neg hle, if_neg hle']
  simp only [requestImport, h, ok_bind, importReply, List.append_assoc, fill_append hheader,
    getShort_header, getInt_header, Option.elim_some, hfill, command_new, hstatus,
    ne_eq, not_true_eq_false, if_false, toUInt32_eq_zero_iff]
  split <;> rfl

/-- **The client takes an import reply and nothing else exactly when** the descriptor tree has the
3784 bytes that fill its buffer. -/
theorem requestImport_iff {busId : String} {request : Bytes}
    (h : importRequest busId = .ok request) (entry : UsbIpDeviceEntry) (tree : Bytes) :
    (∀ later, requestImport busId false (importReply entry tree ++ later) =
      .ok (request, later)) ↔ tree.length = 3784 := by
  constructor
  · intro hall
    -- with nothing behind the reply the tree has to be long enough, and then no longer
    have hnil := hall []
    rw [requestImport_importReply h, List.append_nil] at hnil
    split at hnil
    · rename_i hle
      have hlen := congrArg List.length (Prod.mk.inj (Except.ok.inj hnil)).2
      rw [List.length_drop, List.length_nil] at hlen
      omega
    · cases hnil
  · intro hlen later
    rw [requestImport_importReply h, if_pos (by rw [List.length_append]; omega),
      List.drop_left' hlen]

/-- The bus id `1-1`. -/
theorem importRequest_wheel :
    importRequest "1-1" = .ok ((UsbIpHeader.new opReqImport).asBytes ++ copyOf wheelBusid 32) := by
  decide +kernel

theorem requestImport_long_tree :
    importRequest "1-1" = .ok ((UsbIpHeader.new opReqImport).asBytes ++ copyOf wheelBusid 32) ∧
      ∀ later, requestImport "1-1" false
          (importReply wheelEntry (List.replicate 3784 0) ++ later) =
        .ok ((UsbIpHeader.new opReqImport).asBytes ++ copyOf wheelBusid 32, later) :=
  ⟨importRequest_wheel,
    (requestImport_iff importRequest_wheel wheelEntry (List.replicate 3784 0)).2
      List.length_replicate⟩

/-- A phone that the Android server exports without descriptors of the connection. -/
def phone : ExportedDevice where
  interfaces := [[⟨0x81, 64⟩, ⟨0x02, 64⟩]]
  deviceName := "/dev/bus/usb/001/002"
  deviceId := 1002
  vendorId := 0x18D1
  productId := 0x4EE1
  deviceClass := 0
  deviceSubclass := 0
  deviceProtocol := 0
  configurationCount := 1

/-- The client waits for ever behind the reply of the Android server, which is complete. -/
theorem requestImport_short_tree :
    handleImport (some phone) none (zeroPad 32 [0x31, 0x30, 0x30, 0x32]) =
        some (importReply (deviceEntry phone) (getRawDescriptors phone none)) ∧
      ¬∀ later, requestImport "1002" false
          (importReply (deviceEntry phone) (getRawDescriptors phone none) ++ later) =
        .ok ((UsbIpHeader.new opReqImport).asBytes ++ copyOf [0x31, 0x30, 0x30, 0x32] 32,
          later) := by
  refine ⟨handleImport_some _ _ _, fun hall => ?_⟩
  have hreq : importRequest "1002" =
      .ok ((UsbIpHeader.new opReqImport).asBytes ++ copyOf [0x31, 0x30, 0x30, 0x32] 32) := by
    decide +kernel
  have hnil := hall []
  rw [requestImport_importReply hreq, if_neg (by decide)] at hnil
  cases hnil

end Android

end AnyPlug
