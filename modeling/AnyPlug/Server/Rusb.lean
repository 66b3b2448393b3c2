import AnyPlug.Core.DescriptorRoundTrip
import AnyPlug.Server.Usb

/-!
# Descriptors through rusb

`LibusbBackend::get_descriptor_tree` of `usbip-server/src/usb_backend.rs`. The server does not read
the descriptors of a device itself. It takes them from the typed accessors of the library `rusb`
and writes them again. A `View` is what these accessors return; `view` is the one of a raw
descriptor, as the library documents it. The two together lose bits (`adapter_survives_iff`), and
the tree is written without some of the descriptors that its total lengths count
(`getDescriptorTree_parsedBack`).
-/

namespace AnyPlug

namespace Rusb

/-! ## What the library shows -/

/-- `rusb::Version`. -/
structure Version where
  major : UInt8
  minor : UInt8
  subMinor : UInt8
  deriving DecidableEq

inductive TransferType
  | control
  | isochronous
  | bulk
  | interrupt
  deriving DecidableEq

/-- `TransferType as u8` -/
def TransferType.toU8 : TransferType → UInt8
  | .control => 0
  | .isochronous => 1
  | .bulk => 2
  | .interrupt => 3

/-- The accessors of a `rusb::DeviceDescriptor`. -/
structure DeviceView where
  length : UInt8
  descriptorType : UInt8
  usbVersion : Version
  classCode : UInt8
  subClassCode : UInt8
  protocolCode : UInt8
  maxPacketSize : UInt8
  vendorId : UInt16
  productId : UInt16
  deviceVersion : Version
  manufacturerStringIndex : Option UInt8
  productStringIndex : Option UInt8
  serialNumberStringIndex : Option UInt8
  numConfigurations : UInt8

/-- The accessors of a `rusb::ConfigDescriptor`. -/
structure ConfigView where
  length : UInt8
  descriptorType : UInt8
  totalLength : UInt16
  numInterfaces : UInt8
  number : UInt8
  descriptionStringIndex : Option UInt8
  selfPowered : Bool
  remoteWakeup : Bool
  maxPower : UInt16

/-- The accessors of a `rusb::InterfaceDescriptor`. -/
structure InterfaceView where
  length : UInt8
  descriptorType : UInt8
  interfaceNumber : UInt8
  settingNumber : UInt8
  numEndpoints : UInt8
  classCode : UInt8
  subClassCode : UInt8
  protocolCode : UInt8
  descriptionStringIndex : Option UInt8

/-- The accessors of a `rusb::EndpointDescriptor`. -/
structure EndpointView where
  length : UInt8
  descriptorType : UInt8
  address : UInt8
  transferType : TransferType
  maxPacketSize : UInt16
  interval : UInt8

/-! ## The adapter -/

def deviceToCore (desc : DeviceView) : DeviceDescriptor where
  bLength := desc.length
  bDescriptorType := desc.descriptorType
  bcdUsb := desc.usbVersion.major.toUInt16 <<< 8 ||| desc.usbVersion.minor.toUInt16
  bDeviceClass := desc.classCode
  bDeviceSubClass := desc.subClassCode
  bDeviceProtocol := desc.protocolCode
  bMaxPacketSize0 := desc.maxPacketSize
  idVendor := desc.vendorId
  idProduct := desc.productId
  bcdDevice := desc.deviceVersion.major.toUInt16
  iManufacturer := desc.manufacturerStringIndex.getD 0
  iProduct := desc.productStringIndex.getD 0
  iSerialNumber := desc.serialNumberStringIndex.getD 0
  bNumConfigurations := desc.numConfigurations

def configToCore (config : ConfigView) : ConfigDescriptor where
  bLength := config.length
  bDescriptorType := config.descriptorType
  wTotalLength := config.totalLength
  bNumInterfaces := config.numInterfaces
  bConfigurationValue := config.number
  iConfiguration := config.descriptionStringIndex.getD 0
  bmAttributes :=
    (if config.selfPowered then 0x40 else 0) ||| if config.remoteWakeup then 0x20 else 0
  bMaxPower := config.maxPower.toUInt8

def interfaceToCore (desc : InterfaceView) : InterfaceDescriptor where
  bLength := desc.length
  bDescriptorType := desc.descriptorType
  bInterfaceNumber := desc.interfaceNumber
  bAlternateSetting := desc.settingNumber
  bNumEndpoints := desc.numEndpoints
  bInterfaceClass := desc.classCode
  bInterfaceSubClass := desc.subClassCode
  bInterfaceProtocol := desc.protocolCode
  iInterface := desc.descriptionStringIndex.getD 0

def endpointToCore (desc : EndpointView) : EndpointDescriptor where
  bLength := desc.length
  bDescriptorType := desc.descriptorType
  bEndpointAddress := desc.address
  bmAttributes := desc.transferType.toU8
  wMaxPacketSize := desc.maxPacketSize
  bInterval := desc.interval

/-! ## The view of a raw descriptor -/

/-- `Version::from_bcd`: the decimal value of the high byte, and the two low nibbles. -/
def Version.fromBcd (v : UInt16) : Version where
  major := .ofNat (10 * (v.toNat / 4096) + v.toNat / 256 % 16)
  minor := .ofNat (v.toNat / 16 % 16)
  subMinor := .ofNat (v.toNat % 16)

/-- A string index, where zero stands for no string. -/
def stringIndex (i : UInt8) : Option UInt8 := if i = 0 then none else some i

/-- The transfer type in the low two bits of the attributes of an endpoint. -/
def TransferType.ofAttributes (bmAttributes : UInt8) : TransferType :=
  match bmAttributes.toNat % 4 with
  | 0 => .control
  | 1 => .isochronous
  | 2 => .bulk
  | _ => .interrupt

def deviceView (d : DeviceDescriptor) : DeviceView where
  length := d.bLength
  descriptorType := d.bDescriptorType
  usbVersion := .fromBcd d.bcdUsb
  classCode := d.bDeviceClass
  subClassCode := d.bDeviceSubClass
  protocolCode := d.bDeviceProtocol
  maxPacketSize := d.bMaxPacketSize0
  vendorId := d.idVendor
  productId := d.idProduct
  deviceVersion := .fromBcd d.bcdDevice
  manufacturerStringIndex := stringIndex d.iManufacturer
  productStringIndex := stringIndex d.iProduct
  serialNumberStringIndex := stringIndex d.iSerialNumber
  numConfigurations := d.bNumConfigurations

def configView (d : ConfigDescriptor) : ConfigView where
  length := d.bLength
  descriptorType := d.bDescriptorType
  totalLength := d.wTotalLength
  numInterfaces := d.bNumInterfaces
  number := d.bConfigurationValue
  descriptionStringIndex := stringIndex d.iConfiguration
  selfPowered := d.bmAttributes.toNat.testBit 6
  remoteWakeup := d.bmAttributes.toNat.testBit 5
  maxPower := d.bMaxPower.toUInt16 * 2

def endpointView (d : EndpointDescriptor) : EndpointView where
  length := d.bLength
  descriptorType := d.bDescriptorType
  address := d.bEndpointAddress
  transferType := .ofAttributes d.bmAttributes
  maxPacketSize := d.wMaxPacketSize
  interval := d.bInterval

/-- The four digits of a binary coded decimal. -/
def IsBcd (v : UInt16) : Prop :=
  v.toNat / 4096 ≤ 9 ∧ v.toNat / 256 % 16 ≤ 9 ∧ v.toNat / 16 % 16 ≤ 9 ∧ v.toNat % 16 ≤ 9

theorem eq_digits (n : ℕ) :
    n = 4096 * (n / 4096) + 256 * (n / 256 % 16) + 16 * (n / 16 % 16) + n % 16 := by
  have h : n / 256 / 16 = n / 4096 := Nat.div_div_eq_div_mul n 256 16
  have h' : n / 16 / 16 = n / 256 := Nat.div_div_eq_div_mul n 16 16
  omega

theorem getD_stringIndex (i : UInt8) : (stringIndex i).getD 0 = i := by
  unfold stringIndex
  split
  · next h => exact h.symm
  · rfl

theorem toNat_major {v : UInt16} (hv : IsBcd v) :
    (Version.fromBcd v).major.toNat = 10 * (v.toNat / 4096) + v.toNat / 256 % 16 := by
  obtain ⟨h3, h2, -, -⟩ := hv
  rw [Version.fromBcd, UInt8.toNat_ofNat']
  exact Nat.mod_eq_of_lt (by omega)

theorem toNat_minor (v : UInt16) : (Version.fromBcd v).minor.toNat = v.toNat / 16 % 16 := by
  rw [Version.fromBcd, UInt8.toNat_ofNat']
  exact Nat.mod_eq_of_lt (by omega)

/-- The version comes back when its high digit and its low byte are zero. -/
theorem bcdUsb_survives_iff {v : UInt16} (hv : IsBcd v) :
    (Version.fromBcd v).major.toUInt16 <<< 8 ||| (Version.fromBcd v).minor.toUInt16 = v ↔
      v.toNat < 0x1000 ∧ v.toNat % 256 = 0 := by
  have hcore : ((Version.fromBcd v).major.toUInt16 <<< 8 |||
      (Version.fromBcd v).minor.toUInt16).toNat =
        v.toNat / 16 % 16 + 256 * (10 * (v.toNat / 4096) + v.toNat / 256 % 16) := by
    rw [UInt16.or_comm, ← toNat_minor, ← toNat_major hv]
    exact toNat_fromLeBytes _ _
  obtain ⟨h3, h2, h1, h0⟩ := hv
  have hdigits := eq_digits v.toNat
  have hlow : v.toNat % 256 = 16 * (v.toNat / 16 % 16) + v.toNat % 16 := by omega
  rw [← UInt16.toNat_inj, hcore, hlow]
  generalize v.toNat / 4096 = d3, v.toNat / 256 % 16 = d2, v.toNat / 16 % 16 = d1,
    v.toNat % 16 = d0 at *
  omega

theorem bcdDevice_survives_iff {v : UInt16} (hv : IsBcd v) :
    (Version.fromBcd v).major.toUInt16 = v ↔ v = 0 := by
  have hcore : (Version.fromBcd v).major.toUInt16.toNat =
      10 * (v.toNat / 4096) + v.toNat / 256 % 16 := by
    rw [UInt8.toNat_toUInt16, toNat_major hv]
  obtain ⟨h3, h2, h1, h0⟩ := hv
  have hdigits := eq_digits v.toNat
  rw [← UInt16.toNat_inj, ← UInt16.toNat_inj, hcore, UInt16.toNat_zero]
  omega

theorem toNat_transferType (x : UInt8) :
    (TransferType.ofAttributes x).toU8.toNat = x.toNat % 4 := by
  unfold TransferType.ofAttributes
  split
  · next h => exact h.symm
  · next h => exact h.symm
  · next h => exact h.symm
  · next h0 h1 h2 =>
    have h0 : x.toNat % 4 ≠ 0 := h0
    have h1 : x.toNat % 4 ≠ 1 := h1
    have h2 : x.toNat % 4 ≠ 2 := h2
    show 3 = x.toNat % 4
    omega

/-! ## Raw bytes -/

theorem device_survives_iff {d : DeviceDescriptor} (husb : IsBcd d.bcdUsb)
    (hdevice : IsBcd d.bcdDevice) :
    (deviceToCore (deviceView d)).toBytes = d.toBytes ↔
      (d.bcdUsb.toNat < 0x1000 ∧ d.bcdUsb.toNat % 256 = 0) ∧ d.bcdDevice = 0 := by
  rw [← bcdUsb_survives_iff husb, ← bcdDevice_survives_iff hdevice]
  constructor
  · intro h
    have hcore : deviceToCore (deviceView d) = d := by
      have hparse := DeviceDescriptor.parse_toBytes_append (deviceToCore (deviceView d)) []
      rw [h, DeviceDescriptor.parse_toBytes_append] at hparse
      exact (Option.some.inj hparse).symm
    exact ⟨congrArg DeviceDescriptor.bcdUsb hcore, congrArg DeviceDescriptor.bcdDevice hcore⟩
  · rintro ⟨husb', hdevice'⟩
    rw [deviceToCore, deviceView]
    simp only [husb', hdevice', getD_stringIndex]

/-- The bit that is always set is not written. -/
theorem config_not_survives {d : ConfigDescriptor} (hbit : d.bmAttributes.toNat.testBit 7 = true) :
    (configToCore (configView d)).toBytes ≠ d.toBytes := by
  intro h
  have hattributes : (configToCore (configView d)).bmAttributes = d.bmAttributes :=
    Option.some.inj (congrArg (fun b : Bytes => b[7]?) h)
  have hclear : ∀ selfPowered remoteWakeup : Bool,
      ((if selfPowered then (0x40 : UInt8) else 0) |||
        if remoteWakeup then 0x20 else 0).toNat.testBit 7 = false := by decide
  have hcore := hclear (configView d).selfPowered (configView d).remoteWakeup
  rw [← hattributes] at hbit
  exact Bool.noConfusion (hcore.symm.trans hbit)

theorem endpoint_survives_iff (d : EndpointDescriptor) :
    (endpointToCore (endpointView d)).toBytes = d.toBytes ↔ d.bmAttributes.toNat < 4 := by
  have hcore : (endpointToCore (endpointView d)).bmAttributes = d.bmAttributes ↔
      d.bmAttributes.toNat < 4 := by
    rw [← UInt8.toNat_inj, endpointToCore, endpointView, toNat_transferType]
    omega
  rw [← hcore]
  constructor
  · intro h
    exact Option.some.inj (congrArg (fun b : Bytes => b[3]?) h)
  · intro h
    have heq : endpointToCore (endpointView d) = d :=
      congrArg (fun x => { d with bmAttributes := x }) h
    rw [heq]

/-- **What survives the adapter.** A device descriptor does when the version of the specification is
a one-digit number without minor part and the version of the device is zero, an endpoint descriptor
when its attributes are a transfer type alone, and no configuration descriptor does. -/
theorem adapter_survives_iff {d : DeviceDescriptor} {c : ConfigDescriptor} (e : EndpointDescriptor)
    (husb : IsBcd d.bcdUsb) (hdevice : IsBcd d.bcdDevice)
    (hbit : c.bmAttributes.toNat.testBit 7 = true) :
    ((deviceToCore (deviceView d)).toBytes = d.toBytes ↔
      (d.bcdUsb.toNat < 0x1000 ∧ d.bcdUsb.toNat % 256 = 0) ∧ d.bcdDevice = 0) ∧
    (configToCore (configView c)).toBytes ≠ c.toBytes ∧
    ((endpointToCore (endpointView e)).toBytes = e.toBytes ↔ e.bmAttributes.toNat < 4) :=
  ⟨device_survives_iff husb hdevice, config_not_survives hbit, endpoint_survives_iff e⟩

/-- A hub with USB version 2.00 and device version 0. -/
def hubDevice : DeviceDescriptor := ⟨18, 1, 0x0200, 9, 0, 0, 64, 0x1d6b, 2, 0, 3, 2, 1, 1⟩

def hubConfig : ConfigDescriptor := ⟨9, 2, 25, 1, 1, 0, 0xe0, 0⟩

def hubEndpoint : EndpointDescriptor := ⟨7, 5, 0x81, 3, 4, 12⟩

theorem adapter_survives_hub :
    (deviceToCore (deviceView hubDevice)).toBytes = hubDevice.toBytes ∧
      (configToCore (configView hubConfig)).toBytes ≠ hubConfig.toBytes ∧
      (endpointToCore (endpointView hubEndpoint)).toBytes = hubEndpoint.toBytes := by
  obtain ⟨hdevice, hconfig, hendpoint⟩ := adapter_survives_iff (d := hubDevice) (c := hubConfig)
    hubEndpoint ⟨by decide, by decide, by decide, by decide⟩
    ⟨by decide, by decide, by decide, by decide⟩ (by decide)
  exact ⟨hdevice.2 ⟨⟨by decide, by decide⟩, rfl⟩, hconfig, hendpoint.2 (by decide)⟩

/-- The keyboard of the fixture has USB version 2.10, which comes out as 2.01. -/
theorem keyboard_not_survives :
    ¬((∀ d : DeviceDescriptor, IsBcd d.bcdUsb → IsBcd d.bcdDevice →
        (deviceToCore (deviceView d)).toBytes = d.toBytes) ∧
      (∀ d : ConfigDescriptor, d.bmAttributes.toNat.testBit 7 = true →
        (configToCore (configView d)).toBytes = d.toBytes) ∧
      ∀ d : EndpointDescriptor, (endpointToCore (endpointView d)).toBytes = d.toBytes) := by
  rintro ⟨h, -, -⟩
  have hkeyboard := h keyboard.device ⟨by decide, by decide, by decide, by decide⟩
    ⟨by decide, by decide, by decide, by decide⟩
  exact absurd hkeyboard (by decide)

/-! ## The descriptor tree of a device -/

/-- An alternate setting of an interface. The library has checked the type bytes, and shows as many
endpoints as the descriptor announces. -/
structure Setting where
  desc : InterfaceView
  extra : Bytes
  endpoints : List EndpointView
  descriptorType_eq : desc.descriptorType = 0x04
  endpointTypes_eq : ∀ e ∈ endpoints, e.descriptorType = 0x05
  length_endpoints : endpoints.length = desc.numEndpoints.toNat

/-- A configuration, with the settings of each interface. -/
structure Config where
  desc : ConfigView
  interfaces : List (List Setting)
  descriptorType_eq : desc.descriptorType = 0x02

/-- A device, by what the library answers about it. -/
structure Device where
  deviceDescriptor : Except RusbError DeviceView
  configDescriptor : UInt8 → Except RusbError Config

/-- A setting in the tree. The class-specific descriptors are passed on for the HID class only. -/
def Setting.bytes (s : Setting) : Bytes :=
  (interfaceToCore s.desc).toBytes ++
    (if s.desc.classCode = 0x03 then if s.extra.isEmpty then [] else s.extra else []) ++
    s.endpoints.flatMap fun e => (endpointToCore e).toBytes

def Config.bytes (c : Config) : Bytes :=
  (configToCore c.desc).toBytes ++ c.interfaces.flatMap fun iface => iface.flatMap Setting.bytes

/-- `LibusbBackend::get_descriptor_tree`, for the device that was found. -/
def getDescriptorTree (device : Device) : UsbIpResult Bytes := do
  let desc ← mapErr device.deviceDescriptor
  let configs ← (List.range desc.numConfigurations.toNat).mapM fun idx =>
    return (← mapErr (device.configDescriptor (.ofNat idx))).bytes
  return (deviceToCore desc).toBytes ++ configs.flatten

/-- The library answers all calls about the device. -/
structure Device.Reports (device : Device) (desc : DeviceView) (configs : List Config) : Prop where
  descriptor : device.deviceDescriptor = .ok desc
  configurations : (List.range desc.numConfigurations.toNat).mapM
    (fun idx => device.configDescriptor (.ofNat idx)) = .ok configs

/-- The settings of a configuration in order, each with its endpoints. -/
def Config.settings (c : Config) : List (InterfaceDescriptor × List EndpointDescriptor) :=
  c.interfaces.flatten.map fun s => (interfaceToCore s.desc, s.endpoints.map endpointToCore)

def settings (c : ConfigInfo) : List (InterfaceDescriptor × List EndpointDescriptor) :=
  c.interfaces.map fun i => (i.interface, i.endpoints)

/-- The tree of the device is parsed, with exactly the settings of its configurations. -/
def ParsedBack (checks : Bool) (device : Device) (configs : List Config) : Prop :=
  ∃ raw info, getDescriptorTree device = .ok raw ∧ ParsesTo checks raw (some info) ∧
    info.configs.map settings = configs.map Config.settings

/-- The class-specific descriptors of a HID setting are one HID descriptor or none, and the
endpoints can be counted in a byte with one more. -/
structure Setting.Plain (s : Setting) : Prop where
  extra : s.desc.classCode = 0x03 → s.extra = [] ∨
    ∃ hid : HidDescriptor, hid.bDescriptorType = 0x21 ∧ s.extra = hid.toBytes
  count_le : s.endpoints.length ≤ 254

def Config.Plain (c : Config) : Prop := ∀ iface ∈ c.interfaces, ∀ s ∈ iface, s.Plain

/-- What a tree has of a setting: nine bytes for its descriptor, the class-specific descriptors of
the HID class, and seven bytes for each endpoint. -/
def Setting.size (s : Setting) : ℕ :=
  9 + (if s.desc.classCode = 0x03 then s.extra.length else 0) + 7 * s.endpoints.length

/-- What a tree has of a configuration: nine bytes for its descriptor, and its settings. -/
def Config.size (c : Config) : ℕ := 9 + (c.interfaces.flatten.map Setting.size).sum

/-- The total length of a configuration counts what a tree has of it, no more and no less. -/
structure Config.Kept (c : Config) : Prop where
  plain : c.Plain
  total : c.desc.totalLength.toNat = c.size

/-! ## What is written is a serialized tree -/

theorem Setting.length_bytes (s : Setting) : s.bytes.length = s.size := by
  have hextra : (if s.desc.classCode = 0x03 then if s.extra.isEmpty then [] else s.extra
      else []).length = if s.desc.classCode = 0x03 then s.extra.length else 0 := by
    split
    · cases s.extra <;> rfl
    · rfl
  have hendpoints : (s.endpoints.flatMap fun e => (endpointToCore e).toBytes).length =
      7 * s.endpoints.length := by
    simp [List.length_flatMap, EndpointDescriptor.size, Nat.mul_comm]
  rw [bytes, List.length_append, List.length_append, hextra, hendpoints]
  rfl

theorem Config.length_bytes (c : Config) : c.bytes.length = c.size := by
  rw [bytes, List.length_append, size, ← List.flatMap_assoc, List.flatMap_id', List.length_flatMap]
  simp only [Setting.length_bytes]
  rfl

def Setting.info (s : Setting) : InterfaceInfo where
  interface := interfaceToCore s.desc
  endpoints := s.endpoints.map endpointToCore
  hid := if s.desc.classCode = 0x03 then HidDescriptor.parse s.extra else none

def Config.info (c : Config) : ConfigInfo where
  config := configToCore c.desc
  interfaces := c.interfaces.flatten.map Setting.info

theorem Setting.toBytes_info {s : Setting} (h : s.Plain) : s.info.toBytes = s.bytes := by
  have hhid : (s.info.hid.map HidDescriptor.toBytes).getD [] =
      if s.desc.classCode = 0x03 then if s.extra.isEmpty then [] else s.extra else [] := by
    rw [Setting.info]
    split
    · next hclass =>
      obtain hextra | ⟨hid, htype, hextra⟩ := h.extra hclass
      · rw [hextra]
        rfl
      · have hparse := HidDescriptor.parse_toBytes_append htype []
        rw [List.append_nil] at hparse
        rw [hextra, hparse]
        rfl
    · rfl
  rw [InterfaceInfo.toBytes, hhid, Setting.bytes, Setting.info, List.flatMap_map]

theorem Setting.wellFormed_info {s : Setting} (h : s.Plain) : s.info.WellFormed where
  interface := s.descriptorType_eq
  endpoints := by
    rw [Setting.info, List.forall_mem_map]
    exact s.endpointTypes_eq
  hid := by
    intro hid hmem
    rw [Setting.info] at hmem
    split at hmem
    · exact (HidDescriptor.parse_eq_some_iff.1 hmem).1
    · cases hmem
  count := by
    rw [Setting.info, List.length_map]
    exact s.length_endpoints
  count_le := by
    rw [Setting.info, List.length_map]
    exact h.count_le

theorem Config.plain_iff {c : Config} : c.Plain ↔ ∀ s ∈ c.interfaces.flatten, s.Plain := by
  simp only [Config.Plain, List.mem_flatten]
  constructor
  · rintro h s ⟨iface, hiface, hs⟩
    exact h iface hiface s hs
  · intro h iface hiface s hs
    exact h s ⟨iface, hiface, hs⟩

theorem Config.toBytes_info {c : Config} (h : c.Plain) : c.info.toBytes = c.bytes := by
  rw [Config.plain_iff] at h
  have hinterfaces : c.info.interfaces.flatMap InterfaceInfo.toBytes =
      c.interfaces.flatMap fun iface => iface.flatMap Setting.bytes := by
    rw [Config.info, List.flatMap_map, ← List.flatMap_assoc, List.flatMap_id']
    exact List.flatMap_congr fun s hs => Setting.toBytes_info (h s hs)
  rw [ConfigInfo.toBytes, hinterfaces, Config.bytes, Config.info]

theorem Config.wellFormed_interfaces {c : Config} (h : c.Plain) :
    ∀ i ∈ c.info.interfaces, i.WellFormed := by
  rw [Config.info, List.forall_mem_map]
  exact fun s hs => Setting.wellFormed_info (Config.plain_iff.1 h s hs)

theorem Config.wellFormed_info {c : Config} (h : c.Kept) : c.info.WellFormed where
  config := c.descriptorType_eq
  total := by
    rw [Config.toBytes_info h.plain, Config.length_bytes]
    exact h.total
  interfaces := Config.wellFormed_interfaces h.plain

theorem settings_info (c : Config) : settings c.info = c.settings := by
  rw [settings, Config.info, Config.settings, List.map_map]
  rfl

/-- The bytes of all configurations that the library shows. -/
theorem mapM_bytes {f : ℕ → Except RusbError Config} {l : List ℕ} {configs : List Config}
    (h : l.mapM f = .ok configs) :
    (l.mapM fun idx => do return (← mapErr (f idx)).bytes) =
      (.ok (configs.map Config.bytes) : UsbIpResult (List Bytes)) := by
  induction l generalizing configs with
  | nil =>
    cases h
    rfl
  | cons idx l ih =>
    rw [List.mapM_cons] at h ⊢
    cases hidx : f idx with
    | error e =>
      rw [hidx] at h
      cases h
    | ok c =>
      cases hl : l.mapM f with
      | error e =>
        rw [hidx, hl] at h
        cases h
      | ok cs =>
        rw [hidx, hl] at h
        cases h
        rw [mapErr, ih hl]
        rfl

theorem getDescriptorTree_eq {device : Device} {desc : DeviceView} {configs : List Config}
    (h : device.Reports desc configs) :
    getDescriptorTree device =
      .ok ((deviceToCore desc).toBytes ++ configs.flatMap Config.bytes) := by
  rw [getDescriptorTree, h.descriptor, mapErr, ok_bind, mapM_bytes h.configurations, ok_bind,
    List.flatMap_def]
  rfl

/-- The tree of a device of which nothing is left out. -/
def tree (desc : DeviceView) (configs : List Config) : UsbDeviceInfo :=
  ⟨deviceToCore desc, configs.map Config.info⟩

theorem serialize_tree {desc : DeviceView} {configs : List Config} (h : ∀ c ∈ configs, c.Plain) :
    (tree desc configs).serializeDescriptorTree =
      (deviceToCore desc).toBytes ++ configs.flatMap Config.bytes := by
  rw [UsbDeviceInfo.serializeDescriptorTree, tree, List.flatMap_map]
  exact congrArg _ (List.flatMap_congr fun c hc => Config.toBytes_info (h c hc))

theorem parsedBack_of_kept (checks : Bool) {device : Device} {desc : DeviceView}
    {configs : List Config} (h : device.Reports desc configs) (hkept : ∀ c ∈ configs, c.Kept) :
    ParsedBack checks device configs := by
  have hinfo : (tree desc configs).WellFormed :=
    List.forall_mem_map.2 fun c hc => Config.wellFormed_info (hkept c hc)
  have hparses := (parsesTo_serializeDescriptorTree checks hinfo _).2 rfl
  rw [serialize_tree fun c hc => (hkept c hc).plain] at hparses
  refine ⟨_, _, getDescriptorTree_eq h, hparses, ?_⟩
  rw [tree, List.map_map]
  exact List.map_congr_left fun c _ => settings_info c

theorem not_parsedBack_of_left_out (checks : Bool) {device : Device} {desc : DeviceView}
    {kept : List Config} {last : Config} (h : device.Reports desc (kept ++ [last]))
    (hkept : ∀ c ∈ kept, c.Kept) (hlast : last.Plain)
    (htotal : last.size + InterfaceDescriptor.size ≤ last.desc.totalLength.toNat) :
    ¬ParsedBack checks device (kept ++ [last]) := by
  rintro ⟨raw, info, hraw, hparses, -⟩
  have hplain : ∀ c ∈ kept ++ [last], c.Plain :=
    List.forall_mem_append.2 ⟨fun c hc => (hkept c hc).plain, List.forall_mem_singleton.2 hlast⟩
  rw [getDescriptorTree_eq h, ← serialize_tree hplain] at hraw
  rw [← Except.ok.inj hraw, tree, List.map_append, List.map_singleton] at hparses
  refine not_parsesTo_overlong checks ?_ last.descriptorType_eq
    (Config.wellFormed_interfaces hlast) ?_ info hparses
  · exact List.forall_mem_map.2 fun c hc => Config.wellFormed_info (hkept c hc)
  · rw [Config.toBytes_info hlast, Config.length_bytes]
    exact htotal

/-- **A tree from which nothing is left out is parsed back.** Where the last configuration counts
nine bytes or more that are not written, it is not: such a device has class-specific descriptors
that were left out. -/
theorem getDescriptorTree_parsedBack (checks : Bool) {device : Device} {desc : DeviceView}
    {configs : List Config} (h : device.Reports desc configs) :
    ((∀ c ∈ configs, c.Kept) → ParsedBack checks device configs) ∧
      ∀ kept last, configs = kept ++ [last] → (∀ c ∈ kept, c.Kept) → last.Plain →
        last.size + InterfaceDescriptor.size ≤ last.desc.totalLength.toNat →
          ¬ParsedBack checks device configs := by
  refine ⟨parsedBack_of_kept checks h, ?_⟩
  rintro kept last rfl
  exact not_parsedBack_of_left_out checks h

/-- A keyboard as the library shows it. -/
def keyboardConfig : Config :=
  ⟨configView ⟨9, 2, 34, 1, 1, 0, 0x80, 50⟩,
    [[⟨⟨9, 4, 0, 0, 1, 3, 1, 1, none⟩, [9, 0x21, 0x11, 0x01, 0, 1, 0x22, 64, 0],
      [endpointView ⟨7, 5, 0x81, 3, 8, 10⟩], rfl, List.forall_mem_singleton.2 rfl, rfl⟩]], rfl⟩

def keyboardDevice : Device where
  deviceDescriptor := .ok (deviceView keyboard.device)
  configDescriptor _ := .ok keyboardConfig

theorem parsedBack_keyboard :
    keyboardDevice.Reports (deviceView keyboard.device) [keyboardConfig] ∧
      ParsedBack true keyboardDevice [keyboardConfig] := by
  have hreports : keyboardDevice.Reports (deviceView keyboard.device) [keyboardConfig] := ⟨rfl, rfl⟩
  refine ⟨hreports, (getDescriptorTree_parsedBack true hreports).1 ?_⟩
  refine List.forall_mem_singleton.2 ⟨?_, rfl⟩
  refine List.forall_mem_singleton.2 (List.forall_mem_singleton.2 ⟨fun _ => .inr ?_, by decide⟩)
  exact ⟨⟨9, 0x21, 0x0111, 0, 1, 0x22, 64⟩, rfl, rfl⟩

/-- A serial port: the class-specific descriptor of its interface, five bytes, is not written. -/
def serialPort : Config :=
  ⟨configView ⟨9, 2, 30, 1, 1, 0, 0x80, 50⟩,
    [[⟨⟨9, 4, 0, 0, 1, 2, 2, 1, none⟩, [5, 0x24, 0, 0x10, 0x01],
      [endpointView ⟨7, 5, 0x81, 3, 8, 10⟩], rfl, List.forall_mem_singleton.2 rfl, rfl⟩]], rfl⟩

def serialDevice : Device where
  deviceDescriptor := .ok (deviceView keyboard.device)
  configDescriptor _ := .ok serialPort

theorem not_parsedBack_serialPort :
    ¬∀ checks device desc configs, Device.Reports device desc configs →
      ParsedBack checks device configs := by
  intro h
  have hreports : serialDevice.Reports (deviceView keyboard.device) [serialPort] := ⟨rfl, rfl⟩
  obtain ⟨raw, info, hraw, ⟨configs, hreturned, hinfo⟩, -⟩ := h true _ _ _ hreports
  rw [getDescriptorTree_eq hreports] at hraw
  -- behind the endpoint the parser reads on, for a HID descriptor
  have hpanicked : Reachable (Parser.step true raw) (Parser.start raw) .panicked := by
    rw [← Except.ok.inj hraw]
    exact ⟨List.replicate 4 (), rfl⟩
  cases hpanicked.halted_unique hreturned (fun _ => rfl) (fun _ => rfl)

end Rusb

end AnyPlug
