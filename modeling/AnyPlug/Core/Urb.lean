import AnyPlug.Core.Protocol

/-!
# The records of the URB exchange

`USBIP_CMD_SUBMIT`, `USBIP_RET_SUBMIT` and `USBIP_RET_UNLINK` (`usbip-core/src/urb.rs`), with the
predicates that decide whether data follows them on the wire. The record of a `CMD_SUBMIT` has 44
bytes, but it takes `UsbIpCmdSubmit.headerSize = 48` bytes of a message: the last four are padding
that the record does not model.
-/

namespace AnyPlug

/-- `USBIP_CMD_SUBMIT`: the client requests a USB transfer. -/
structure UsbIpCmdSubmit where
  seqnum : UInt32
  devid : UInt32
  direction : UInt32
  ep : UInt32
  transferFlags : UInt32
  transferBufferLength : UInt32
  startFrame : UInt32
  numberOfPackets : UInt32
  interval : UInt32
  setup : Vector UInt8 8
  deriving DecidableEq

namespace UsbIpCmdSubmit

/-- The bytes the record takes in a message, padding included. -/
def headerSize : ℕ := 48

def ofFields : UInt32 × UInt32 × UInt32 × UInt32 × UInt32 × UInt32 × UInt32 × UInt32 × UInt32 ×
    Vector UInt8 8 ≃ UsbIpCmdSubmit where
  toFun
    | (seqnum, devid, direction, ep, flags, len, frame, packets, interval, setup) =>
      ⟨seqnum, devid, direction, ep, flags, len, frame, packets, interval, setup⟩
  invFun c := (c.seqnum, c.devid, c.direction, c.ep, c.transferFlags, c.transferBufferLength,
    c.startFrame, c.numberOfPackets, c.interval, c.setup)
  left_inv _ := rfl
  right_inv _ := rfl

open FixedCodec in
def codec : FixedCodec UsbIpCmdSubmit :=
  (u32be.prod <| u32be.prod <| u32be.prod <| u32be.prod <| u32be.prod <| u32be.prod <|
    u32be.prod <| u32be.prod <| u32be.prod (bytes 8)).congr ofFields

theorem size_codec : codec.size = 44 := rfl

def asBytes (c : UsbIpCmdSubmit) : Bytes := codec.encode c

def readFromPrefix (bs : Bytes) : Option (UsbIpCmdSubmit × Bytes) := codec.decode bs

@[simp] theorem length_asBytes (c : UsbIpCmdSubmit) : c.asBytes.length = 44 :=
  codec.length_encode c

@[simp] theorem readFromPrefix_asBytes_append (c : UsbIpCmdSubmit) (rest : Bytes) :
    readFromPrefix (c.asBytes ++ rest) = some (c, rest) :=
  codec.decode_encode_append c rest

def dataLen (c : UsbIpCmdSubmit) : UInt32 := c.transferBufferLength

/-- An IN (device to host) transfer. -/
def isIn (c : UsbIpCmdSubmit) : Bool := (c.transferFlags &&& urbDirIn) != 0

/-- A control transfer: the setup packet is not zero. -/
def isControl (c : UsbIpCmdSubmit) : Bool := c.setup != Vector.replicate 8 0

/-- The size of a message's payload, the data of an OUT transfer included. -/
def wireSize (c : UsbIpCmdSubmit) : ℕ :=
  if !c.isIn then headerSize + c.dataLen.toNat else headerSize

end UsbIpCmdSubmit

/-- `USBIP_RET_SUBMIT`: the server responds to a URB submission. -/
structure UsbIpRetSubmit where
  seqnum : UInt32
  devid : UInt32
  direction : UInt32
  ep : UInt32
  status : UInt32
  actualLength : UInt32
  startFrame : UInt32
  numberOfPackets : UInt32
  errorCount : UInt32
  setup : Vector UInt8 8
  deriving DecidableEq

namespace UsbIpRetSubmit

def headerSize : ℕ := 44

def ofFields : UInt32 × UInt32 × UInt32 × UInt32 × UInt32 × UInt32 × UInt32 × UInt32 × UInt32 ×
    Vector UInt8 8 ≃ UsbIpRetSubmit where
  toFun
    | (seqnum, devid, direction, ep, status, len, frame, packets, errors, setup) =>
      ⟨seqnum, devid, direction, ep, status, len, frame, packets, errors, setup⟩
  invFun r := (r.seqnum, r.devid, r.direction, r.ep, r.status, r.actualLength, r.startFrame,
    r.numberOfPackets, r.errorCount, r.setup)
  left_inv _ := rfl
  right_inv _ := rfl

open FixedCodec in
def codec : FixedCodec UsbIpRetSubmit :=
  (u32be.prod <| u32be.prod <| u32be.prod <| u32be.prod <| u32be.prod <| u32be.prod <|
    u32be.prod <| u32be.prod <| u32be.prod (bytes 8)).congr ofFields

theorem size_codec : codec.size = headerSize := rfl

def asBytes (r : UsbIpRetSubmit) : Bytes := codec.encode r

def readFromPrefix (bs : Bytes) : Option (UsbIpRetSubmit × Bytes) := codec.decode bs

@[simp] theorem length_asBytes (r : UsbIpRetSubmit) : r.asBytes.length = headerSize :=
  codec.length_encode r

@[simp] theorem readFromPrefix_asBytes_append (r : UsbIpRetSubmit) (rest : Bytes) :
    readFromPrefix (r.asBytes ++ rest) = some (r, rest) :=
  codec.decode_encode_append r rest

@[simp] theorem readFromPrefix_asBytes (r : UsbIpRetSubmit) :
    readFromPrefix r.asBytes = some (r, []) :=
  codec.decode_encode r

def actualLen (r : UsbIpRetSubmit) : UInt32 := r.actualLength

def isSuccess (r : UsbIpRetSubmit) : Bool := r.status == 0

/-- Data follows the header: a successful IN transfer. -/
def hasData (r : UsbIpRetSubmit) : Bool :=
  r.isSuccess && r.direction != 0 && 0 < r.actualLength

/-- The size of a message's payload, the data of an IN transfer included. -/
def wireSize (r : UsbIpRetSubmit) : ℕ :=
  if r.hasData then headerSize + r.actualLen.toNat else headerSize

/-- The data of a message, from its payload. -/
def inData (r : UsbIpRetSubmit) (payload : Bytes) : Bytes :=
  if r.hasData then payload.drop headerSize else []

theorem hasData_iff (r : UsbIpRetSubmit) :
    r.hasData = true ↔ r.status = 0 ∧ r.direction ≠ 0 ∧ 0 < r.actualLength := by
  simp [hasData, isSuccess, and_assoc]

end UsbIpRetSubmit

/-- `USBIP_RET_UNLINK`: the server notifies the client that a URB was cancelled. -/
structure UsbIpRetUnlink where
  seqnum : UInt32
  devid : UInt32
  status : UInt32
  deriving DecidableEq

namespace UsbIpRetUnlink

def size : ℕ := 12

def ofFields : UInt32 × UInt32 × UInt32 ≃ UsbIpRetUnlink where
  toFun | (seqnum, devid, status) => ⟨seqnum, devid, status⟩
  invFun u := (u.seqnum, u.devid, u.status)
  left_inv _ := rfl
  right_inv _ := rfl

open FixedCodec in
def codec : FixedCodec UsbIpRetUnlink := (u32be.prod <| u32be.prod u32be).congr ofFields

theorem size_codec : codec.size = size := rfl

def asBytes (u : UsbIpRetUnlink) : Bytes := codec.encode u

def readFromPrefix (bs : Bytes) : Option (UsbIpRetUnlink × Bytes) := codec.decode bs

@[simp] theorem length_asBytes (u : UsbIpRetUnlink) : u.asBytes.length = size :=
  codec.length_encode u

@[simp] theorem readFromPrefix_asBytes (u : UsbIpRetUnlink) :
    readFromPrefix u.asBytes = some (u, []) :=
  codec.decode_encode u

end UsbIpRetUnlink

end AnyPlug
