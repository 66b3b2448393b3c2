import AnyPlug.Core.Error

/-!
# USB descriptors

The descriptors of `usbip-core/src/descriptor.rs`: device, configuration, interface, endpoint and
HID. Their 16-bit fields are little-endian, unlike those of the USB/IP records. A `parse` takes the
descriptor from the front of its input, whatever the length byte says. All but that of the device
descriptor look at the type byte.
-/

namespace AnyPlug

/-- `u16::to_le_bytes` -/
def toLeBytes (x : UInt16) : Bytes := [.ofNat x.toNat, .ofNat (x.toNat / 256)]

/-- `u16::from_le_bytes` -/
def fromLeBytes (lo hi : UInt8) : UInt16 := lo.toUInt16 ||| (hi.toUInt16 <<< 8)

theorem toNat_fromLeBytes (lo hi : UInt8) :
    (fromLeBytes lo hi).toNat = lo.toNat + 256 * hi.toNat := by
  have hhi := hi.toNat_lt
  have hshift : hi.toNat <<< 8 % 65536 = 256 * hi.toNat := by
    rw [Nat.shiftLeft_eq]
    omega
  have hor : 256 * hi.toNat + lo.toNat = 256 * hi.toNat ||| lo.toNat :=
    Nat.two_pow_add_eq_or_of_lt (i := 8) lo.toNat_lt hi.toNat
  rw [fromLeBytes, UInt16.toNat_or, UInt16.toNat_shiftLeft, UInt8.toNat_toUInt16,
    UInt8.toNat_toUInt16, UInt16.toNat_ofNat, Nat.or_comm]
  norm_num
  rw [hshift, ← hor, add_comm]

theorem toLeBytes_fromLeBytes (lo hi : UInt8) : toLeBytes (fromLeBytes lo hi) = [lo, hi] := by
  have hlo := lo.toNat_lt
  have hhi := hi.toNat_lt
  simp only [toLeBytes, toNat_fromLeBytes, List.cons.injEq, and_true]
  constructor
  · rw [← UInt8.toNat_inj, UInt8.toNat_ofNat']
    omega
  · rw [← UInt8.toNat_inj, UInt8.toNat_ofNat']
    omega

theorem fromLeBytes_toLeBytes (x : UInt16) :
    fromLeBytes (.ofNat x.toNat) (.ofNat (x.toNat / 256)) = x := by
  have hx := x.toNat_lt
  rw [← UInt16.toNat_inj, toNat_fromLeBytes, UInt8.toNat_ofNat', UInt8.toNat_ofNat']
  omega

/-- Standard USB device descriptor (18 bytes). -/
structure DeviceDescriptor where
  bLength : UInt8
  bDescriptorType : UInt8
  bcdUsb : UInt16
  bDeviceClass : UInt8
  bDeviceSubClass : UInt8
  bDeviceProtocol : UInt8
  bMaxPacketSize0 : UInt8
  idVendor : UInt16
  idProduct : UInt16
  bcdDevice : UInt16
  iManufacturer : UInt8
  iProduct : UInt8
  iSerialNumber : UInt8
  bNumConfigurations : UInt8
  deriving DecidableEq

namespace DeviceDescriptor

def size : ℕ := 18

/-- The 18-byte wire form. -/
def toBytes (d : DeviceDescriptor) : Bytes :=
  [d.bLength, d.bDescriptorType] ++ toLeBytes d.bcdUsb ++
    [d.bDeviceClass, d.bDeviceSubClass, d.bDeviceProtocol, d.bMaxPacketSize0] ++
    toLeBytes d.idVendor ++ toLeBytes d.idProduct ++ toLeBytes d.bcdDevice ++
    [d.iManufacturer, d.iProduct, d.iSerialNumber, d.bNumConfigurations]

@[simp] theorem length_toBytes (d : DeviceDescriptor) : d.toBytes.length = size := rfl

def parse : Bytes → Option DeviceDescriptor
  | b0 :: b1 :: b2 :: b3 :: b4 :: b5 :: b6 :: b7 :: b8 :: b9 :: b10 :: b11 :: b12 :: b13 :: b14 ::
      b15 :: b16 :: b17 :: _ =>
    some ⟨b0, b1, fromLeBytes b2 b3, b4, b5, b6, b7, fromLeBytes b8 b9, fromLeBytes b10 b11,
      fromLeBytes b12 b13, b14, b15, b16, b17⟩
  | _ => none

theorem parse_toBytes_append (d : DeviceDescriptor) (rest : Bytes) :
    parse (d.toBytes ++ rest) = some d := by
  simp only [toBytes, toLeBytes, List.cons_append, List.nil_append, parse, fromLeBytes_toLeBytes]

/-- The device descriptor that the IOKit backend returns for every device, as its whole descriptor
tree. -/
def placeholder : DeviceDescriptor where
  bLength := .ofNat size
  bDescriptorType := 0x01
  bcdUsb := 0x0200
  bDeviceClass := 0
  bDeviceSubClass := 0
  bDeviceProtocol := 0
  bMaxPacketSize0 := 64
  idVendor := 0
  idProduct := 0
  bcdDevice := 0x0100
  iManufacturer := 0
  iProduct := 0
  iSerialNumber := 0
  bNumConfigurations := 1

end DeviceDescriptor

/-- Standard USB configuration descriptor (9 bytes). -/
structure ConfigDescriptor where
  bLength : UInt8
  bDescriptorType : UInt8
  wTotalLength : UInt16
  bNumInterfaces : UInt8
  bConfigurationValue : UInt8
  iConfiguration : UInt8
  bmAttributes : UInt8
  bMaxPower : UInt8
  deriving DecidableEq

namespace ConfigDescriptor

def size : ℕ := 9

def parse : Bytes → Option ConfigDescriptor
  | b0 :: b1 :: b2 :: b3 :: b4 :: b5 :: b6 :: b7 :: b8 :: _ =>
    if b1 ≠ 0x02 then none else some ⟨b0, b1, fromLeBytes b2 b3, b4, b5, b6, b7, b8⟩
  | _ => none

def toBytes (d : ConfigDescriptor) : Bytes :=
  [d.bLength, d.bDescriptorType] ++ toLeBytes d.wTotalLength ++
    [d.bNumInterfaces, d.bConfigurationValue, d.iConfiguration, d.bmAttributes, d.bMaxPower]

@[simp] theorem length_toBytes (d : ConfigDescriptor) : d.toBytes.length = size := rfl

theorem parse_toBytes_append {d : ConfigDescriptor} (htype : d.bDescriptorType = 0x02)
    (rest : Bytes) : parse (d.toBytes ++ rest) = some d := by
  simp only [toBytes, toLeBytes, List.cons_append, List.nil_append, parse, fromLeBytes_toLeBytes]
  exact if_neg (not_not.2 htype)

theorem parse_eq_some_iff {raw : Bytes} {d : ConfigDescriptor} :
    parse raw = some d ↔ d.bDescriptorType = 0x02 ∧ ∃ rest, raw = d.toBytes ++ rest := by
  constructor
  · intro h
    unfold parse at h
    split at h
    · rename_i b0 b1 b2 b3 b4 b5 b6 b7 b8 rest
      split at h
      · cases h
      · next htype =>
        obtain rfl := Option.some.inj h
        refine ⟨not_not.1 htype, rest, ?_⟩
        simp only [toBytes, toLeBytes_fromLeBytes, List.cons_append, List.nil_append]
    · cases h
  · rintro ⟨htype, rest, rfl⟩
    exact parse_toBytes_append htype rest

end ConfigDescriptor

/-- Standard USB interface descriptor (9 bytes). -/
structure InterfaceDescriptor where
  bLength : UInt8
  bDescriptorType : UInt8
  bInterfaceNumber : UInt8
  bAlternateSetting : UInt8
  bNumEndpoints : UInt8
  bInterfaceClass : UInt8
  bInterfaceSubClass : UInt8
  bInterfaceProtocol : UInt8
  iInterface : UInt8
  deriving DecidableEq

namespace InterfaceDescriptor

def size : ℕ := 9

def parse : Bytes → Option InterfaceDescriptor
  | b0 :: b1 :: b2 :: b3 :: b4 :: b5 :: b6 :: b7 :: b8 :: _ =>
    if b1 ≠ 0x04 then none else some ⟨b0, b1, b2, b3, b4, b5, b6, b7, b8⟩
  | _ => none

def toBytes (d : InterfaceDescriptor) : Bytes :=
  [d.bLength, d.bDescriptorType, d.bInterfaceNumber, d.bAlternateSetting, d.bNumEndpoints,
    d.bInterfaceClass, d.bInterfaceSubClass, d.bInterfaceProtocol, d.iInterface]

@[simp] theorem length_toBytes (d : InterfaceDescriptor) : d.toBytes.length = size := rfl

theorem parse_toBytes_append {d : InterfaceDescriptor} (htype : d.bDescriptorType = 0x04)
    (rest : Bytes) : parse (d.toBytes ++ rest) = some d := by
  simp only [toBytes, List.cons_append, List.nil_append, parse]
  exact if_neg (not_not.2 htype)

theorem parse_eq_some_iff {raw : Bytes} {d : InterfaceDescriptor} :
    parse raw = some d ↔ d.bDescriptorType = 0x04 ∧ ∃ rest, raw = d.toBytes ++ rest := by
  constructor
  · intro h
    unfold parse at h
    split at h
    · rename_i b0 b1 b2 b3 b4 b5 b6 b7 b8 rest
      split at h
      · cases h
      · next htype =>
        obtain rfl := Option.some.inj h
        refine ⟨not_not.1 htype, rest, ?_⟩
        simp only [toBytes, List.cons_append, List.nil_append]
    · cases h
  · rintro ⟨htype, rest, rfl⟩
    exact parse_toBytes_append htype rest

end InterfaceDescriptor

/-- Standard USB endpoint descriptor (7 bytes). -/
structure EndpointDescriptor where
  bLength : UInt8
  bDescriptorType : UInt8
  bEndpointAddress : UInt8
  bmAttributes : UInt8
  wMaxPacketSize : UInt16
  bInterval : UInt8
  deriving DecidableEq

namespace EndpointDescriptor

def size : ℕ := 7

def parse : Bytes → Option EndpointDescriptor
  | b0 :: b1 :: b2 :: b3 :: b4 :: b5 :: b6 :: _ =>
    if b1 ≠ 0x05 then none else some ⟨b0, b1, b2, b3, fromLeBytes b4 b5, b6⟩
  | _ => none

def toBytes (d : EndpointDescriptor) : Bytes :=
  [d.bLength, d.bDescriptorType, d.bEndpointAddress, d.bmAttributes] ++
    toLeBytes d.wMaxPacketSize ++ [d.bInterval]

@[simp] theorem length_toBytes (d : EndpointDescriptor) : d.toBytes.length = size := rfl

theorem parse_toBytes_append {d : EndpointDescriptor} (htype : d.bDescriptorType = 0x05)
    (rest : Bytes) : parse (d.toBytes ++ rest) = some d := by
  simp only [toBytes, toLeBytes, List.cons_append, List.nil_append, parse, fromLeBytes_toLeBytes]
  exact if_neg (not_not.2 htype)

theorem parse_eq_some_iff {raw : Bytes} {d : EndpointDescriptor} :
    parse raw = some d ↔ d.bDescriptorType = 0x05 ∧ ∃ rest, raw = d.toBytes ++ rest := by
  constructor
  · intro h
    unfold parse at h
    split at h
    · rename_i b0 b1 b2 b3 b4 b5 b6 rest
      split at h
      · cases h
      · next htype =>
        obtain rfl := Option.some.inj h
        refine ⟨not_not.1 htype, rest, ?_⟩
        simp only [toBytes, toLeBytes_fromLeBytes, List.cons_append, List.nil_append]
    · cases h
  · rintro ⟨htype, rest, rfl⟩
    exact parse_toBytes_append htype rest

end EndpointDescriptor

/-- HID descriptor (class-specific, follows the interface descriptor). -/
structure HidDescriptor where
  bLength : UInt8
  bDescriptorType : UInt8
  bcdHid : UInt16
  bCountryCode : UInt8
  bNumDescriptors : UInt8
  reportDescriptorType : UInt8
  wReportDescriptorLength : UInt16
  deriving DecidableEq

namespace HidDescriptor

def size : ℕ := 9

def parse : Bytes → Option HidDescriptor
  | b0 :: b1 :: b2 :: b3 :: b4 :: b5 :: b6 :: b7 :: b8 :: _ =>
    if b1 ≠ 0x21 then none else some ⟨b0, b1, fromLeBytes b2 b3, b4, b5, b6, fromLeBytes b7 b8⟩
  | _ => none

def toBytes (d : HidDescriptor) : Bytes :=
  [d.bLength, d.bDescriptorType] ++ toLeBytes d.bcdHid ++
    [d.bCountryCode, d.bNumDescriptors, d.reportDescriptorType] ++
    toLeBytes d.wReportDescriptorLength

@[simp] theorem length_toBytes (d : HidDescriptor) : d.toBytes.length = size := rfl

theorem parse_toBytes_append {d : HidDescriptor} (htype : d.bDescriptorType = 0x21)
    (rest : Bytes) : parse (d.toBytes ++ rest) = some d := by
  simp only [toBytes, toLeBytes, List.cons_append, List.nil_append, parse, fromLeBytes_toLeBytes]
  exact if_neg (not_not.2 htype)

theorem parse_eq_some_iff {raw : Bytes} {d : HidDescriptor} :
    parse raw = some d ↔ d.bDescriptorType = 0x21 ∧ ∃ rest, raw = d.toBytes ++ rest := by
  constructor
  · intro h
    unfold parse at h
    split at h
    · rename_i b0 b1 b2 b3 b4 b5 b6 b7 b8 rest
      split at h
      · cases h
      · next htype =>
        obtain rfl := Option.some.inj h
        refine ⟨not_not.1 htype, rest, ?_⟩
        simp only [toBytes, toLeBytes_fromLeBytes, List.cons_append, List.nil_append]
    · cases h
  · rintro ⟨htype, rest, rfl⟩
    exact parse_toBytes_append htype rest

end HidDescriptor

end AnyPlug
