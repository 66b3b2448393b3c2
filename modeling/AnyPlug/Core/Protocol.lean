import AnyPlug.Core.Error

/-!
# Command codes, the message header and the device entry

The wire constants and the two fixed records of `usbip-core/src/protocol.rs`. The records are
`#[repr(C, packed)]` with big-endian fields, so their bytes are the bytes of their fields in order:
the codec of a record is the product of the codecs of its fields, along the equivalence of the
record with the tuple of its fields.
-/

namespace AnyPlug

/-! ## Constants -/

/-- The protocol version, v1.1.1. -/
def usbipVersion : UInt16 := 0x0111

def opReqDevlist : UInt16 := 0x8003
def opRepDevlist : UInt16 := 0x0005
def opReqImport : UInt16 := 0x8006
def opRepImport : UInt16 := 0x0007
def usbipCmdSubmit : UInt16 := 0x0001
def usbipRetUnlink : UInt16 := 0x0002
def usbipRetSubmit : UInt16 := 0x0003

theorem usbipRetSubmit_ne_cmdSubmit : usbipRetSubmit ≠ usbipCmdSubmit := by decide
theorem usbipRetUnlink_ne_cmdSubmit : usbipRetUnlink ≠ usbipCmdSubmit := by decide
theorem usbipRetUnlink_ne_retSubmit : usbipRetUnlink ≠ usbipRetSubmit := by decide

def statusSuccess : Int32 := 0
def statusStDevBusy : Int32 := 2
def statusStNodev : Int32 := 4

/-- The transfer flag of an IN transfer. -/
def urbDirIn : UInt32 := 0x0200

/-- A signed 32-bit integer, most significant byte first. -/
def FixedCodec.i32be : FixedCodec Int32 :=
  FixedCodec.u32be.congr
    { toFun := Int32.ofUInt32, invFun := Int32.toUInt32, left_inv := fun _ => rfl,
      right_inv := fun _ => rfl }

theorem toUInt32_eq_zero_iff {status : Int32} : status.toUInt32 = 0 ↔ status = 0 := by
  constructor
  · intro h
    cases status
    cases h
    rfl
  · rintro rfl
    rfl

/-! ## The header -/

/-- The 8-byte header that starts every message. -/
structure UsbIpHeader where
  version : UInt16
  command : UInt16
  status : Int32
  deriving DecidableEq

namespace UsbIpHeader

def size : ℕ := 8

def ofFields : UInt16 × UInt16 × Int32 ≃ UsbIpHeader where
  toFun | (version, command, status) => ⟨version, command, status⟩
  invFun h := (h.version, h.command, h.status)
  left_inv _ := rfl
  right_inv _ := rfl

def codec : FixedCodec UsbIpHeader :=
  (FixedCodec.u16be.prod (FixedCodec.u16be.prod FixedCodec.i32be)).congr ofFields

theorem size_codec : codec.size = size := rfl

def asBytes (h : UsbIpHeader) : Bytes := codec.encode h

def readFromPrefix (bs : Bytes) : Option (UsbIpHeader × Bytes) := codec.decode bs

@[simp] theorem length_asBytes (h : UsbIpHeader) : h.asBytes.length = size :=
  codec.length_encode h

@[simp] theorem readFromPrefix_asBytes (h : UsbIpHeader) :
    readFromPrefix h.asBytes = some (h, []) :=
  codec.decode_encode h

@[simp] theorem readFromPrefix_asBytes_append (h : UsbIpHeader) (rest : Bytes) :
    readFromPrefix (h.asBytes ++ rest) = some (h, rest) :=
  codec.decode_encode_append h rest

/-- A header with a success status. -/
def new (command : UInt16) : UsbIpHeader := ⟨usbipVersion, command, 0⟩

def withStatus (command : UInt16) (status : Int32) : UsbIpHeader := ⟨usbipVersion, command, status⟩

end UsbIpHeader

/-! ## The device entry -/

/-- A device entry of `OP_REP_DEVLIST` and `OP_REP_IMPORT` (312 bytes). -/
structure UsbIpDeviceEntry where
  path : Vector UInt8 256
  busid : Vector UInt8 32
  busnum : UInt32
  devnum : UInt32
  speed : UInt32
  idVendor : UInt16
  idProduct : UInt16
  bcdDevice : UInt16
  bDeviceClass : UInt8
  bDeviceSubClass : UInt8
  bDeviceProtocol : UInt8
  bConfigurationValue : UInt8
  bNumConfigurations : UInt8
  bNumInterfaces : UInt8
  deriving DecidableEq

namespace UsbIpDeviceEntry

def size : ℕ := 312

def ofFields : Vector UInt8 256 × Vector UInt8 32 × UInt32 × UInt32 × UInt32 × UInt16 × UInt16 ×
    UInt16 × UInt8 × UInt8 × UInt8 × UInt8 × UInt8 × UInt8 ≃ UsbIpDeviceEntry where
  toFun
    | (path, busid, busnum, devnum, speed, vid, pid, bcd, cls, sub, proto, cfg, ncfg, nif) =>
      ⟨path, busid, busnum, devnum, speed, vid, pid, bcd, cls, sub, proto, cfg, ncfg, nif⟩
  invFun e := (e.path, e.busid, e.busnum, e.devnum, e.speed, e.idVendor, e.idProduct, e.bcdDevice,
    e.bDeviceClass, e.bDeviceSubClass, e.bDeviceProtocol, e.bConfigurationValue,
    e.bNumConfigurations, e.bNumInterfaces)
  left_inv _ := rfl
  right_inv _ := rfl

open FixedCodec in
def codec : FixedCodec UsbIpDeviceEntry :=
  ((bytes 256).prod <| (bytes 32).prod <| u32be.prod <| u32be.prod <| u32be.prod <| u16be.prod <|
    u16be.prod <| u16be.prod <| u8.prod <| u8.prod <| u8.prod <| u8.prod <| u8.prod u8).congr
      ofFields

theorem size_codec : codec.size = size := rfl

def asBytes (e : UsbIpDeviceEntry) : Bytes := codec.encode e

def readFromPrefix (bs : Bytes) : Option (UsbIpDeviceEntry × Bytes) := codec.decode bs

@[simp] theorem length_asBytes (e : UsbIpDeviceEntry) : e.asBytes.length = size :=
  codec.length_encode e

@[simp] theorem readFromPrefix_asBytes (e : UsbIpDeviceEntry) :
    readFromPrefix e.asBytes = some (e, []) :=
  codec.decode_encode e

def vid (e : UsbIpDeviceEntry) : UInt16 := e.idVendor

def pid (e : UsbIpDeviceEntry) : UInt16 := e.idProduct

end UsbIpDeviceEntry

end AnyPlug
