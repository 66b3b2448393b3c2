import AnyPlug.Foundations.KotlinText
import AnyPlug.Foundations.Utf8RoundTrip
import AnyPlug.Server.Usb

/-!
# The advertised devices

A server advertises its devices in the `devices` property of its mDNS record (`encode_devices_txt`
of `usbip-server/src/discovery.rs`), and `parseDevices` of `ServerDiscovery` reads them. The text
has no mark between two devices: the reader takes a device to be over when the next `vid` comes,
and keeps what it has read of the last one. `parseDevices_encodeDevicesTxt` is the round trip.
-/

namespace AnyPlug

/-! ## The server -/

/-- The text of a device: its ids, its bus id and a name made of the ids. -/
def deviceTxt (d : UsbIpDeviceEntry) : List Char :=
  "vid=0x".toList ++ hexText 4 d.vid.toNat ++ ",pid=0x".toList ++ hexText 4 d.pid.toNat ++
    ",bus=".toList ++ d.busidStr.toList ++ ",n=".toList ++ hexText 4 d.vid.toNat ++ ":".toList ++
    hexText 4 d.pid.toNat

/-- Encode the device list as the `devices` property. -/
def encodeDevicesTxt (devices : List UsbIpDeviceEntry) : String :=
  String.ofList ([','].intercalate (devices.map deviceTxt))

namespace Android

/-! ## The reader -/

/-- A device of a server. -/
structure RemoteDevice where
  name : String
  busId : String
  vid : Int32
  pid : Int32
  deriving DecidableEq

/-- A resolved service: the addresses and the name of its host, its port and its properties. -/
structure ServiceInfo where
  hostAddresses : List String
  server : String
  port : Int32
  propertyNames : List String
  propertyBytes : String → Option Bytes

/-- The value of a property. -/
def ServiceInfo.prop (info : ServiceInfo) (name : String) : Option Bytes :=
  if name ∈ info.propertyNames then some ((info.propertyBytes name).getD []) else none

/-- `toString(Charsets.UTF_8)`. -/
def textOf (bytes : Bytes) : List Char := (fromUtf8Lossy bytes).toList

/-- A number in hexadecimal digits, or else in decimal digits. -/
def hexOrDecimal (s : List Char) : Option Int32 :=
  (Kotlin.toIntOrNull 16 s).orElse fun _ => Kotlin.toIntOrNull 10 s

/-- The value of a `vid` or a `pid`: hexadecimal, also after `0x`, or else decimal. -/
def idValue (s : List Char) : Option Int32 :=
  (Kotlin.toIntOrNull 16 (Kotlin.removePrefix "0x".toList s)).orElse fun _ =>
    Kotlin.toIntOrNull 10 s

def defaultBus : List Char := "1-1".toList
def defaultName : List Char := "USB Device".toList

/-- The devices that have been read, and what has been read of the next one. -/
structure KeyValues where
  list : List RemoteDevice
  vid : Option Int32
  pid : Option Int32
  bus : List Char
  name : List Char

namespace KeyValues

def start : KeyValues := ⟨[], none, none, defaultBus, defaultName⟩

/-- The devices, with the one that has a `vid` and a `pid`. -/
def finish (s : KeyValues) : List RemoteDevice :=
  match s.vid, s.pid with
  | some vid, some pid => s.list ++ [⟨String.ofList s.name, String.ofList s.bus, vid, pid⟩]
  | _, _ => s.list

/-- Before the `vid` of the next device. -/
def next (s : KeyValues) : KeyValues :=
  match s.vid, s.pid with
  | some _, some _ => { s with list := s.finish, bus := defaultBus, name := defaultName }
  | _, _ => s

/-- Take a value for its key. -/
def assign (s : KeyValues) (key value : List Char) : KeyValues :=
  if key = "vid".toList then { s.next with vid := idValue value }
  else if key = "pid".toList then { s with pid := idValue value }
  else if key = "bus".toList then { s with bus := value }
  else if key = "n".toList then { s with name := value }
  else s

/-- Read one token. -/
def read (s : KeyValues) (token : List Char) : KeyValues :=
  match Kotlin.splitTwo '=' (Kotlin.trim token) with
  | [key, value] => s.assign key value
  | _ => s

end KeyValues

/-- The devices of a text of `key=value` tokens. -/
def parseKeyValues (text : List Char) : List RemoteDevice :=
  ((Kotlin.split ',' text).foldl KeyValues.read .start).finish

/-- A device of the form `vid:pid:bus:name`. -/
def parseColons (entry : List Char) : Option RemoteDevice :=
  match Kotlin.split ':' entry with
  | vid :: pid :: bus :: name :: _ => do
    let vid ← hexOrDecimal vid
    let pid ← hexOrDecimal pid
    return ⟨String.ofList name, String.ofList bus, vid, pid⟩
  | _ => none

/-- The devices of a text of either form. -/
def parseDevicesText (text : List Char) : List RemoteDevice :=
  if Kotlin.contains text "vid=".toList then parseKeyValues text
  else (Kotlin.split ',' text).filterMap parseColons

/-- The devices of the `devices` property, if it is there and not blank. -/
def parseListed : Option Bytes → List RemoteDevice
  | none => []
  | some bytes => if Kotlin.isBlank (textOf bytes) then [] else parseDevicesText (textOf bytes)

def parseUInt (bytes : Bytes) : Option Int32 := hexOrDecimal (Kotlin.trim (textOf bytes))

/-- The parts of a property between commas and semicolons. -/
def listParts (bytes : Bytes) : List (List Char) :=
  ((textOf bytes).splitOnP fun c => c == ',' || c == ';').map Kotlin.trim

def parseUIntList : Option Bytes → List Int32
  | none => []
  | some bytes => (listParts bytes).filterMap hexOrDecimal

def parseStringList : Option Bytes → List String
  | none => []
  | some bytes => ((listParts bytes).filter (· ≠ [])).map String.ofList

def placeholder : RemoteDevice := ⟨"USB Device", "1-1", 0, 0⟩

/-- The devices of parallel arrays of properties. -/
def parseArrays (info : ServiceInfo) : List RemoteDevice :=
  let buses := parseStringList (info.prop "bus")
  let names := parseStringList (info.prop "name")
  ((parseUIntList (info.prop "vid")).zip (parseUIntList (info.prop "pid"))).mapIdx
    fun i (vid, pid) =>
      ⟨names[i]?.getD "USB Device", buses[i]?.getD s!"{i + 1}-{i + 1}", vid, pid⟩

/-- The one device of the properties, or a placeholder. -/
def parseSingle (info : ServiceInfo) : List RemoteDevice :=
  match (info.prop "vid").bind parseUInt, (info.prop "pid").bind parseUInt with
  | some vid, some pid =>
    [⟨((info.prop "name").map fromUtf8Lossy).getD "USB Device",
      ((info.prop "bus").map fromUtf8Lossy).getD "1-1", vid, pid⟩]
  | _, _ => [placeholder]

/-- The devices of a service, by the first of the forms that gives any. -/
def parseDevices (info : ServiceInfo) : List RemoteDevice :=
  let listed := parseListed (info.prop "devices")
  if listed ≠ [] then listed
  else
    let vids := parseUIntList (info.prop "vid")
    if vids ≠ [] ∧ vids.length = (parseUIntList (info.prop "pid")).length then parseArrays info
    else parseSingle info

/-! ## The tokens of the text -/

/-- A `key=value` token. -/
def token (key : String) (value : List Char) : List Char := key.toList ++ '=' :: value

/-- The tokens of a device. -/
def deviceTokens (d : UsbIpDeviceEntry) : List (List Char) :=
  [token "vid" ("0x".toList ++ hexText 4 d.vid.toNat),
    token "pid" ("0x".toList ++ hexText 4 d.pid.toNat),
    token "bus" d.busidStr.toList,
    token "n" (hexText 4 d.vid.toNat ++ ':' :: hexText 4 d.pid.toNat)]

theorem deviceTxt_eq (d : UsbIpDeviceEntry) :
    deviceTxt d = [','].intercalate (deviceTokens d) := by
  unfold deviceTxt deviceTokens token
  generalize hexText 4 d.vid.toNat = vid
  generalize hexText 4 d.pid.toNat = pid
  generalize d.busidStr.toList = bus
  simp [List.intercalate_cons_cons]

/-- Properties of the characters of a hexadecimal text, by its sixteen digits. -/
theorem of_mem_hexText {p : Char → Bool} (h : ∀ d < 16, p (Nat.digitChar d) = true) {width n : ℕ} :
    ∀ c ∈ hexText width n, p c = true := by
  intro c hc
  obtain ⟨d, hd, rfl⟩ := exists_digitChar_of_mem_hexText hc
  exact h d hd

theorem comma_notMem_hexText (width n : ℕ) : ',' ∉ hexText width n := fun h =>
  absurd (of_mem_hexText (p := (· != ',')) (by decide) ',' h) (by decide)

theorem not_isWhitespace_of_mem_hexText {width n : ℕ} {c : Char} (h : c ∈ hexText width n) :
    Kotlin.isWhitespace c = false := by
  simpa using of_mem_hexText (p := fun c => !Kotlin.isWhitespace c) (by decide) c h

/-- The value ends in no whitespace, and so does the token. -/
theorem trimmed_token {key : String} {value : List Char} (hkey : Kotlin.Trimmed key.toList)
    (hvalue : ∀ c ∈ value.getLast?, Kotlin.isWhitespace c = false) :
    Kotlin.Trimmed (token key value) := by
  constructor
  · intro c hc
    cases hchars : key.toList with
    | nil =>
      rw [token, hchars] at hc
      cases hc
      decide
    | cons k ks =>
      rw [token, hchars] at hc
      refine hkey.1 c ?_
      rw [hchars]
      exact hc
  · intro c hc
    rw [token, List.getLast?_append, List.getLast?_cons] at hc
    cases hlast : value.getLast? with
    | none =>
      rw [hlast] at hc
      cases hc
      decide
    | some c' =>
      rw [hlast] at hc
      cases hc
      exact hvalue _ hlast

/-- The keys of the tokens. -/
def IsKey (key : String) : Prop := Kotlin.Trimmed key.toList ∧ '=' ∉ key.toList

theorem isKey_vid : IsKey "vid" := by simp [IsKey, Kotlin.Trimmed, Kotlin.isWhitespace]

theorem isKey_pid : IsKey "pid" := by simp [IsKey, Kotlin.Trimmed, Kotlin.isWhitespace]

theorem isKey_bus : IsKey "bus" := by simp [IsKey, Kotlin.Trimmed, Kotlin.isWhitespace]

theorem isKey_n : IsKey "n" := by simp [IsKey, Kotlin.Trimmed, Kotlin.isWhitespace]

/-- A token is read as its key and its value, whatever characters the value has. -/
theorem KeyValues.read_token (s : KeyValues) {key : String} {value : List Char}
    (hkey : IsKey key) (hvalue : ∀ c ∈ value.getLast?, Kotlin.isWhitespace c = false) :
    s.read (token key value) = s.assign key.toList value := by
  rw [KeyValues.read, Kotlin.trim_eq_self (trimmed_token hkey.1 hvalue), token,
    Kotlin.splitTwo_append hkey.2]

theorem idValue_hexText (n : UInt16) :
    idValue ("0x".toList ++ hexText 4 n.toNat) = some (Int32.ofInt n.toNat) := by
  have hlt := n.toNat_lt
  rw [idValue, Kotlin.removePrefix_append, Kotlin.toIntOrNull_hexText 4 (by omega)]
  rfl

/-! ## The round trip -/

/-- The device that a client makes of an entry. -/
def remoteDevice (d : UsbIpDeviceEntry) : RemoteDevice where
  name := String.ofList (hexText 4 d.vid.toNat ++ ':' :: hexText 4 d.pid.toNat)
  busId := d.busidStr
  vid := Int32.ofInt d.vid.toNat
  pid := Int32.ofInt d.pid.toNat

/-- The bus id has no comma and no whitespace around it. -/
def PlainBusid (d : UsbIpDeviceEntry) : Prop :=
  ',' ∉ d.busidStr.toList ∧ Kotlin.Trimmed d.busidStr.toList

namespace KeyValues

variable {d : UsbIpDeviceEntry}

theorem list_next (s : KeyValues) : s.next.list = s.finish := by
  unfold next finish
  split <;> rfl

/-- The state after the tokens of a device. -/
def afterDevice (s : KeyValues) (d : UsbIpDeviceEntry) : KeyValues where
  list := s.finish
  vid := some (Int32.ofInt d.vid.toNat)
  pid := some (Int32.ofInt d.pid.toNat)
  bus := d.busidStr.toList
  name := hexText 4 d.vid.toNat ++ ':' :: hexText 4 d.pid.toNat

/-- **The tokens of a device end the one before and leave their own to be ended.** -/
theorem foldl_deviceTokens (s : KeyValues) (hd : PlainBusid d) :
    (deviceTokens d).foldl read s = s.afterDevice d := by
  have hhex (pre : List Char) (n : ℕ) :
      ∀ c ∈ (pre ++ hexText 4 n).getLast?, Kotlin.isWhitespace c = false := by
    intro c hc
    rw [List.getLast?_append_of_ne_nil _ (hexText_ne_nil 4 n)] at hc
    exact not_isWhitespace_of_mem_hexText (List.mem_of_getLast? hc)
  have hname := hhex (hexText 4 d.vid.toNat ++ [':']) d.pid.toNat
  rw [List.append_assoc, List.singleton_append] at hname
  unfold deviceTokens
  simp only [List.foldl_cons, List.foldl_nil]
  rw [read_token s isKey_vid (hhex _ _), read_token _ isKey_pid (hhex _ _),
    read_token _ isKey_bus hd.2.2, read_token _ isKey_n hname]
  simpa [assign, afterDevice, list_next] using
    And.intro (idValue_hexText d.vid) (idValue_hexText d.pid)

/-- **The devices are read one after another**, after what has been read before. The induction is on
the devices, with the state carried along. -/
theorem finish_foldl_tokens (devices : List UsbIpDeviceEntry)
    (hdevices : ∀ d ∈ devices, PlainBusid d) (s : KeyValues) :
    ((devices.flatMap deviceTokens).foldl read s).finish =
      s.finish ++ devices.map remoteDevice := by
  induction devices generalizing s with
  | nil => rw [List.flatMap_nil, List.foldl_nil, List.map_nil, List.append_nil]
  | cons d devices ih =>
    have hfinish : (s.afterDevice d).finish = s.finish ++ [remoteDevice d] := by
      simp [afterDevice, finish, remoteDevice]
    rw [List.flatMap_cons, List.foldl_append, foldl_deviceTokens s (hdevices d (by simp)),
      ih fun d' hd' => hdevices d' (by simp [hd']), hfinish, List.append_assoc, List.map_cons,
      List.singleton_append]

end KeyValues

theorem comma_notMem_deviceTokens {d : UsbIpDeviceEntry} (hd : PlainBusid d) :
    ∀ t ∈ deviceTokens d, ',' ∉ t := by
  have hvid := comma_notMem_hexText 4 d.vid.toNat
  have hpid := comma_notMem_hexText 4 d.pid.toNat
  intro t ht
  simp only [deviceTokens, List.mem_cons, List.not_mem_nil, or_false] at ht
  rcases ht with rfl | rfl | rfl | rfl
  · simp [token, hvid]
  · simp [token, hpid]
  · simp [token, hd.1]
  · simp [token, hvid, hpid]

theorem toList_encodeDevicesTxt (devices : List UsbIpDeviceEntry) :
    (encodeDevicesTxt devices).toList = [','].intercalate (devices.map deviceTxt) :=
  String.toList_ofList

/-- The parts of the text between commas are the tokens of the devices. -/
theorem split_encodeDevicesTxt {devices : List UsbIpDeviceEntry} (hne : devices ≠ [])
    (hdevices : ∀ d ∈ devices, PlainBusid d) :
    Kotlin.split ',' (encodeDevicesTxt devices).toList = devices.flatMap deviceTokens := by
  rw [toList_encodeDevicesTxt, Kotlin.split]
  induction devices with
  | nil => exact absurd rfl hne
  | cons d devices ih =>
    have hd : (deviceTxt d).splitOn ',' = deviceTokens d := by
      rw [deviceTxt_eq]
      exact List.splitOn_intercalate ',' (comma_notMem_deviceTokens (hdevices d (by simp)))
        (List.cons_ne_nil _ _)
    cases devices with
    | nil => rw [List.map_singleton, List.intercalate_singleton, hd, List.flatMap_singleton]
    | cons d' devices =>
      have hrest := ih (List.cons_ne_nil d' devices) fun e he => hdevices e (by simp [he])
      rw [List.map_cons, List.map_cons, List.intercalate_cons_cons, ← List.map_cons,
        List.append_assoc, List.singleton_append, List.splitOn_append_cons_self, hd, hrest]
      exact List.flatMap_cons.symm

/-- The text begins as the first token does. -/
theorem prefix_encodeDevicesTxt {devices : List UsbIpDeviceEntry} (hne : devices ≠ []) :
    "vid=".toList <+: (encodeDevicesTxt devices).toList := by
  obtain ⟨d, devices, rfl⟩ := List.exists_cons_of_ne_nil hne
  have hd : "vid=".toList <+: deviceTxt d := by
    have hvid : "vid=".toList <+: "vid=0x".toList := by decide
    unfold deviceTxt
    repeat rw [List.append_assoc]
    exact hvid.trans (List.prefix_append _ _)
  rw [toList_encodeDevicesTxt]
  cases devices with
  | nil =>
    rw [List.map_singleton, List.intercalate_singleton]
    exact hd
  | cons d' devices =>
    rw [List.map_cons, List.map_cons, List.intercalate_cons_cons, List.append_assoc]
    exact hd.trans (List.prefix_append _ _)

section RoundTrip

variable {devices : List UsbIpDeviceEntry}

theorem textOf_encodeDevicesTxt :
    textOf (utf8Bytes (encodeDevicesTxt devices)) = (encodeDevicesTxt devices).toList := by
  rw [textOf, fromUtf8Lossy_utf8Bytes]

theorem isBlank_encodeDevicesTxt (hne : devices ≠ []) :
    Kotlin.isBlank (encodeDevicesTxt devices).toList = false := by
  have hvid : 'v' ∈ (encodeDevicesTxt devices).toList :=
    (prefix_encodeDevicesTxt hne).subset (by decide)
  rw [Kotlin.isBlank, List.all_eq_false]
  exact ⟨'v', hvid, by decide⟩

theorem parseDevicesText_encodeDevicesTxt (hne : devices ≠ [])
    (hdevices : ∀ d ∈ devices, PlainBusid d) :
    parseDevicesText (encodeDevicesTxt devices).toList = devices.map remoteDevice := by
  have hcontains : Kotlin.contains (encodeDevicesTxt devices).toList "vid=".toList = true :=
    decide_eq_true (prefix_encodeDevicesTxt hne).isInfix
  rw [parseDevicesText, if_pos hcontains, parseKeyValues, split_encodeDevicesTxt hne hdevices,
    KeyValues.finish_foldl_tokens devices hdevices]
  rfl

theorem parseListed_encodeDevicesTxt (hne : devices ≠ [])
    (hdevices : ∀ d ∈ devices, PlainBusid d) :
    parseListed (some (utf8Bytes (encodeDevicesTxt devices))) = devices.map remoteDevice := by
  have hblank : ¬ Kotlin.isBlank (encodeDevicesTxt devices).toList = true := by
    rw [isBlank_encodeDevicesTxt hne]
    exact Bool.false_ne_true
  unfold parseListed
  dsimp only
  rw [textOf_encodeDevicesTxt, if_neg hblank]
  exact parseDevicesText_encodeDevicesTxt hne hdevices

/-- The devices of the `devices` property come first. -/
theorem parseDevices_of_listed {info : ServiceInfo} {list : List RemoteDevice} (hne : list ≠ [])
    (h : parseListed (info.prop "devices") = list) : parseDevices info = list := by
  unfold parseDevices
  rw [h]
  exact if_pos hne

/-- **The advertised devices are read as they were**, in their order: from the bytes of the text in
the `devices` property a client gets each device with its ids, its bus id and the name made of its
ids. -/
theorem parseDevices_encodeDevicesTxt (hne : devices ≠ [])
    (hdevices : ∀ d ∈ devices, PlainBusid d) {info : ServiceInfo}
    (hinfo : info.prop "devices" = some (utf8Bytes (encodeDevicesTxt devices))) :
    parseDevices info = devices.map remoteDevice := by
  have hsome : devices.map remoteDevice ≠ [] := fun h => hne (List.map_eq_nil_iff.1 h)
  refine parseDevices_of_listed hsome ?_
  rw [hinfo, parseListed_encodeDevicesTxt hne hdevices]

end RoundTrip

/-- A keyboard at `1-2`, and a mouse of the same vendor at `1-3`. -/
def keyboardEntry : UsbIpDeviceEntry where
  path := Vector.replicate 256 0
  busid := .ofFn fun i => [0x31, 0x2D, 0x32].getD i 0
  busnum := 1
  devnum := 2
  speed := 2
  idVendor := 0x046D
  idProduct := 0x00C3
  bcdDevice := 0
  bDeviceClass := 0
  bDeviceSubClass := 0
  bDeviceProtocol := 0
  bConfigurationValue := 1
  bNumConfigurations := 1
  bNumInterfaces := 2

def mouseEntry : UsbIpDeviceEntry :=
  { keyboardEntry with
    busid := .ofFn fun i => [0x31, 0x2D, 0x33].getD i 0
    devnum := 3
    idProduct := 0xC08B }

/-- The service that a server with the two devices is found as. -/
def deskInfo : ServiceInfo where
  hostAddresses := ["192.168.1.10"]
  server := "desk.local."
  port := 3240
  propertyNames := ["devices"]
  propertyBytes _ := some (utf8Bytes (encodeDevicesTxt [keyboardEntry, mouseEntry]))

theorem plainBusid_desk : ∀ d ∈ [keyboardEntry, mouseEntry], PlainBusid d := by
  have hkeyboard : keyboardEntry.busidStr = "1-2" := by decide
  have hmouse : mouseEntry.busidStr = "1-3" := by decide
  intro d hd
  simp only [List.mem_cons, List.not_mem_nil, or_false] at hd
  rcases hd with rfl | rfl
  · simp [PlainBusid, hkeyboard, Kotlin.Trimmed, Kotlin.isWhitespace]
  · simp [PlainBusid, hmouse, Kotlin.Trimmed, Kotlin.isWhitespace]

theorem prop_deskInfo : deskInfo.prop "devices" =
    some (utf8Bytes (encodeDevicesTxt [keyboardEntry, mouseEntry])) := rfl

theorem parseDevices_deskInfo :
    parseDevices deskInfo = [keyboardEntry, mouseEntry].map remoteDevice :=
  parseDevices_encodeDevicesTxt (by simp) plainBusid_desk prop_deskInfo

end Android

end AnyPlug
