import AnyPlug.Android.Advertisement
import AnyPlug.Foundations.ScriptText
import AnyPlug.Server.Busid

/-!
# The devices of a scan

`scanServers` of `web/src/lib/api.ts` makes a list of devices out of the servers that `POST
/api/scan` has found. It reads the `devices` property as the Android client does
(`Android.Advertisement`), with one difference: a vendor or product id of zero counts as missing.

`scanServer_encodeDevicesTxt` says what is read of the devices that a server advertises, and
`readers_agree_iff` when the two readers see the same devices.
-/

namespace AnyPlug

namespace Web

/-! ## The reader -/

/-- A server that was found, with the properties of its mDNS record. -/
structure DiscoveredServer where
  host : String
  port : UInt16
  txt : String → Option String

/-- A device of a server. -/
structure RemoteDevice where
  host : String
  port : UInt16
  busid : String
  vid : ℤ
  pid : ℤ
  path : String
  deriving DecidableEq

def defaultBus : List Char := "1-1".toList
def defaultName : List Char := "USB Device".toList

/-- The devices that have been read, and what has been read of the next one. -/
structure Tokens where
  devices : List RemoteDevice
  curVid : ℤ
  curPid : ℤ
  curBus : List Char
  curName : List Char

namespace Tokens

def start : Tokens := ⟨[], 0, 0, defaultBus, defaultName⟩

variable (server : DiscoveredServer)

/-- The device that has been read of the server. -/
def current (s : Tokens) : RemoteDevice :=
  ⟨server.host, server.port, String.ofList s.curBus, s.curVid, s.curPid, String.ofList s.curName⟩

/-- The devices, with the one that has a `vid` and a `pid` other than zero. -/
def finish (s : Tokens) : List RemoteDevice :=
  if s.curVid ≠ 0 ∧ s.curPid ≠ 0 then s.devices ++ [s.current server] else s.devices

/-- Before the `vid` of the next device. -/
def next (s : Tokens) : Tokens :=
  if s.curVid ≠ 0 ∧ s.curPid ≠ 0 then
    { s with devices := s.finish server, curBus := defaultBus, curName := defaultName }
  else s

/-- The value of a `vid` or a `pid`. -/
def idValue (value : Option (List Char)) : ℤ :=
  Script.hexOrZero (Script.orElse (value.map (Script.replacePrefix "0x".toList)) "0".toList)

/-- Take a value for its key. -/
def assign (s : Tokens) (key : List Char) (value : Option (List Char)) : Tokens :=
  if key = "vid".toList then { s.next server with curVid := idValue value }
  else if key = "pid".toList then { s with curPid := idValue value }
  else if key = "bus".toList then { s with curBus := Script.orElse value defaultBus }
  else if key = "n".toList then { s with curName := Script.orElse value defaultName }
  else s

/-- Read one token: its key is what is before the first `=`, its value what is before the next. -/
def read (s : Tokens) (token : List Char) : Tokens :=
  let parts := (Script.split '=' token).map Script.trim
  s.assign server (parts[0]?.getD []) parts[1]?

end Tokens

/-- The devices of a text of `key=value` tokens. -/
def parseTokens (server : DiscoveredServer) (text : List Char) : List RemoteDevice :=
  ((Script.split ',' text).foldl (Tokens.read server) .start).finish server

/-- A device of the form `vid:pid:bus:name`. -/
def parseEntry (server : DiscoveredServer) (entry : List Char) : Option RemoteDevice :=
  match Script.split ':' entry with
  | vid :: pid :: bus :: name :: _ =>
    some ⟨server.host, server.port, String.ofList bus, Script.hexOrZero vid, Script.hexOrZero pid,
      String.ofList name⟩
  | _ => none

/-- The devices of a text of either form. -/
def parseDevStr (server : DiscoveredServer) (text : List Char) : List RemoteDevice :=
  if Script.includes text "vid=".toList then parseTokens server text
  else (Script.split ',' text).filterMap (parseEntry server)

/-- The device that stands for a server of which none was read. -/
def placeholder (server : DiscoveredServer) : RemoteDevice :=
  ⟨server.host, server.port, "1-1", 0, 0, "USB Device"⟩

/-- The devices that are added for a server. An empty property counts as absent. -/
def addedDevices (server : DiscoveredServer) : List RemoteDevice :=
  match server.txt "devices" with
  | none => []
  | some devStr => if devStr.toList = [] then [] else parseDevStr server devStr.toList

/-- The devices of a server, or a placeholder. -/
def scanServer (server : DiscoveredServer) : List RemoteDevice :=
  if addedDevices server = [] then [placeholder server] else addedDevices server

/-- The devices of the servers that were found. -/
def scanServers (data : List DiscoveredServer) : List RemoteDevice := data.flatMap scanServer

/-! ## The tokens of the advertised devices -/

/-- The bus id is one of those that the backend makes. -/
def HasBusid (d : UsbIpDeviceEntry) : Prop := ∃ bus dev : UInt8, d.busidStr = formatBusid bus dev

/-- The characters of a bus id are digits and hyphens. -/
theorem HasBusid.mem {d : UsbIpDeviceEntry} (h : HasBusid d) {c : Char}
    (hc : c ∈ d.busidStr.toList) : c = '-' ∨ ∃ k < 10, c = Nat.digitChar k := by
  obtain ⟨bus, dev, hb⟩ := h
  rw [hb, toList_formatBusid, List.mem_append, List.mem_cons] at hc
  rcases hc with hc | rfl | hc
  · exact .inr (exists_digitChar_of_mem_toDigits (by decide) hc)
  · exact .inl rfl
  · exact .inr (exists_digitChar_of_mem_toDigits (by decide) hc)

theorem HasBusid.of_mem {d : UsbIpDeviceEntry} (h : HasBusid d) {p : Char → Bool}
    (hhyphen : p '-' = true) (hdigit : ∀ k < 10, p (Nat.digitChar k) = true) :
    ∀ c ∈ d.busidStr.toList, p c = true := by
  intro c hc
  rcases h.mem hc with rfl | ⟨k, hk, rfl⟩
  · exact hhyphen
  · exact hdigit k hk

theorem HasBusid.ne_nil {d : UsbIpDeviceEntry} (h : HasBusid d) : d.busidStr.toList ≠ [] := by
  obtain ⟨bus, dev, hb⟩ := h
  rw [hb, toList_formatBusid]
  simp

/-- Such a bus id is plain for the Android client as well. -/
theorem HasBusid.plain {d : UsbIpDeviceEntry} (h : HasBusid d) : Android.PlainBusid d := by
  have hspace (c : Char) (hc : c ∈ d.busidStr.toList) : Kotlin.isWhitespace c = false := by
    simpa using h.of_mem (p := fun c => !Kotlin.isWhitespace c) (by decide) (by decide) c hc
  refine ⟨fun hcomma => ?_, fun c hc => hspace c (List.mem_of_mem_head? hc),
    fun c hc => hspace c (List.mem_of_getLast? hc)⟩
  exact absurd (h.of_mem (p := (· != ',')) (by decide) (by decide) ',' hcomma) (by decide)

/-- A key of the tokens. -/
def IsKey (key : String) : Prop := ∀ c ∈ key.toList, c ≠ '=' ∧ Script.isSpace c = false

/-- A token is read as its key and its value. -/
theorem Tokens.read_token (server : DiscoveredServer) (s : Tokens) {key : String}
    {value : List Char} (hkey : IsKey key)
    (hvalue : ∀ c ∈ value, c ≠ '=' ∧ Script.isSpace c = false) :
    s.read server (Android.token key value) = s.assign server key.toList (some value) := by
  have hsplit : Script.split '=' (Android.token key value) = [key.toList, value] := by
    rw [Script.split, Android.token,
      List.splitOn_append_cons_self_of_not_mem fun h => (hkey _ h).1 rfl,
      List.splitOn_eq_singleton fun h => (hvalue _ h).1 rfl]
  rw [read, hsplit, List.map_cons, List.map_cons, List.map_nil,
    Script.trim_of_forall fun c hc => (hkey c hc).2,
    Script.trim_of_forall fun c hc => (hvalue c hc).2]
  rfl

theorem isKey_of_mem : ∀ key ∈ ["vid", "pid", "bus", "n"], IsKey key := by
  intro key h
  simp only [List.mem_cons, List.not_mem_nil, or_false] at h
  rcases h with rfl | rfl | rfl | rfl <;> simp [IsKey, Script.isSpace]

theorem plain_hexText (width n : ℕ) :
    ∀ c ∈ hexText width n, c ≠ '=' ∧ Script.isSpace c = false := by
  have hdigit : ∀ d < 16, (Nat.digitChar d != '=' && !Script.isSpace (Nat.digitChar d)) = true := by
    decide
  intro c hc
  simpa using Android.of_mem_hexText (p := fun c => c != '=' && !Script.isSpace c) hdigit c hc

theorem idValue_hexText (n : ℕ) :
    Tokens.idValue (some ("0x".toList ++ hexText 4 n)) = n := by
  rw [Tokens.idValue, Option.map_some, Script.replacePrefix_append,
    Script.orElse_some (hexText_ne_nil 4 n), Script.hexOrZero_hexText]

/-! ## What is read of the advertised devices -/

/-- Both ids are other than zero. -/
def Numbered (d : UsbIpDeviceEntry) : Prop := d.vid ≠ 0 ∧ d.pid ≠ 0

instance (d : UsbIpDeviceEntry) : Decidable (Numbered d) := inferInstanceAs (Decidable (_ ∧ _))

/-- The device that a scan makes of an entry. -/
def remoteDevice (server : DiscoveredServer) (d : UsbIpDeviceEntry) : RemoteDevice where
  host := server.host
  port := server.port
  busid := d.busidStr
  vid := d.vid.toNat
  pid := d.pid.toNat
  path := String.ofList (hexText 4 d.vid.toNat ++ ':' :: hexText 4 d.pid.toNat)

section RoundTrip

variable {server : DiscoveredServer} {d : UsbIpDeviceEntry} {devices : List UsbIpDeviceEntry}

namespace Tokens

/-- The state after the tokens of a device. -/
def afterDevice (server : DiscoveredServer) (s : Tokens) (d : UsbIpDeviceEntry) : Tokens where
  devices := s.finish server
  curVid := d.vid.toNat
  curPid := d.pid.toNat
  curBus := d.busidStr.toList
  curName := hexText 4 d.vid.toNat ++ ':' :: hexText 4 d.pid.toNat

theorem devices_next (s : Tokens) : (s.next server).devices = s.finish server := by
  unfold next finish
  split <;> rfl

/-- **The tokens of a device end the one before and leave their own to be ended.** -/
theorem foldl_deviceTokens (s : Tokens) (hd : HasBusid d) :
    (Android.deviceTokens d).foldl (read server) s = s.afterDevice server d := by
  have hkey {key : String} (h : key ∈ ["vid", "pid", "bus", "n"]) := isKey_of_mem key h
  have hplain : ∀ c ∈ "0x".toList, c ≠ '=' ∧ Script.isSpace c = false := by
    simp [Script.isSpace]
  have hid (n : ℕ) : ∀ c ∈ "0x".toList ++ hexText 4 n, c ≠ '=' ∧ Script.isSpace c = false := by
    intro c hc
    exact (List.mem_append.1 hc).elim (hplain c) (plain_hexText 4 n c)
  have hbus : ∀ c ∈ d.busidStr.toList, c ≠ '=' ∧ Script.isSpace c = false := by
    intro c hc
    simpa using hd.of_mem (p := fun c => c != '=' && !Script.isSpace c) (by decide) (by decide) c hc
  have hname : ∀ c ∈ hexText 4 d.vid.toNat ++ ':' :: hexText 4 d.pid.toNat,
      c ≠ '=' ∧ Script.isSpace c = false := by
    intro c hc
    rw [List.mem_append, List.mem_cons] at hc
    rcases hc with hc | rfl | hc
    · exact plain_hexText _ _ c hc
    · decide
    · exact plain_hexText _ _ c hc
  have hsome : hexText 4 d.vid.toNat ++ ':' :: hexText 4 d.pid.toNat ≠ [] := by simp
  unfold Android.deviceTokens
  simp only [List.foldl_cons, List.foldl_nil]
  rw [read_token server s (hkey (by simp)) (hid _), read_token server _ (hkey (by simp)) (hid _),
    read_token server _ (hkey (by simp)) hbus, read_token server _ (hkey (by simp)) hname]
  simpa [assign, afterDevice, devices_next, Script.orElse_some hd.ne_nil,
    Script.orElse_some hsome] using
      And.intro (idValue_hexText d.vid.toNat) (idValue_hexText d.pid.toNat)

/-- A device with both ids is added when it ends. -/
theorem finish_afterDevice (s : Tokens) :
    (s.afterDevice server d).finish server =
      s.finish server ++ ([d].filter (Numbered ·)).map (remoteDevice server) := by
  have hzero (n : UInt16) : (n.toNat : ℤ) ≠ 0 ↔ n ≠ 0 := by
    rw [Ne, Nat.cast_eq_zero, ← UInt16.toNat_zero, UInt16.toNat_inj]
  have hiff : (s.afterDevice server d).curVid ≠ 0 ∧ (s.afterDevice server d).curPid ≠ 0 ↔
      Numbered d := and_congr (hzero d.vid) (hzero d.pid)
  by_cases hd : Numbered d
  · rw [finish, if_pos (hiff.2 hd), List.filter_cons_of_pos (by simpa using hd)]
    simp [afterDevice, current, remoteDevice]
  · rw [finish, if_neg fun h => hd (hiff.1 h), List.filter_cons_of_neg (by simpa using hd)]
    simp [afterDevice]

/-- **The devices are read one after another**, after what has been read before, but for those
without both ids. -/
theorem finish_foldl_tokens (hdevices : ∀ d ∈ devices, HasBusid d) (s : Tokens) :
    ((devices.flatMap Android.deviceTokens).foldl (read server) s).finish server =
      s.finish server ++ (devices.filter (Numbered ·)).map (remoteDevice server) := by
  induction devices generalizing s with
  | nil => rw [List.flatMap_nil, List.foldl_nil, List.filter_nil, List.map_nil, List.append_nil]
  | cons d devices ih =>
    rw [List.flatMap_cons, List.foldl_append, foldl_deviceTokens s (hdevices d (by simp)),
      ih fun e he => hdevices e (by simp [he]), finish_afterDevice, List.append_assoc,
      ← List.map_append, ← List.filter_append, List.singleton_append]

end Tokens

/-- **The devices with both ids are read**, in their order. -/
theorem parseDevStr_encodeDevicesTxt (hne : devices ≠ []) (hdevices : ∀ d ∈ devices, HasBusid d) :
    parseDevStr server (encodeDevicesTxt devices).toList =
      (devices.filter (Numbered ·)).map (remoteDevice server) := by
  have hincludes : Script.includes (encodeDevicesTxt devices).toList "vid=".toList = true :=
    decide_eq_true (Android.prefix_encodeDevicesTxt hne).isInfix
  have hsplit : Script.split ',' (encodeDevicesTxt devices).toList =
      devices.flatMap Android.deviceTokens :=
    Android.split_encodeDevicesTxt hne fun d hd => (hdevices d hd).plain
  rw [parseDevStr, if_pos hincludes, parseTokens, hsplit, Tokens.finish_foldl_tokens hdevices]
  rfl

end RoundTrip

/-! ## A server and its two readers -/

/-- The properties that `MdnsAdvertiser::start` registers. -/
def advertisedTxt (platform : String) (devices : List UsbIpDeviceEntry) (key : String) :
    Option String :=
  if key = "version" then some "1.1.1"
  else if key = "platform" then some platform
  else if key = "devices" ∧ devices ≠ [] then some (encodeDevicesTxt devices)
  else none

section Readers

variable {server : DiscoveredServer} {platform : String} {devices : List UsbIpDeviceEntry}

theorem advertisedTxt_devices (hne : devices ≠ []) :
    advertisedTxt platform devices "devices" = some (encodeDevicesTxt devices) := by
  simp [advertisedTxt, hne]

theorem addedDevices_advertised (htxt : server.txt = advertisedTxt platform devices)
    (hdevices : ∀ d ∈ devices, HasBusid d) :
    addedDevices server = (devices.filter (Numbered ·)).map (remoteDevice server) := by
  rw [addedDevices, htxt]
  by_cases hne : devices = []
  · simp [hne, advertisedTxt]
  · have htext : (encodeDevicesTxt devices).toList ≠ [] := by
      intro hnil
      have hvid := (Android.prefix_encodeDevicesTxt hne).subset (List.mem_cons_self (a := 'v'))
      rw [hnil] at hvid
      cases hvid
    rw [advertisedTxt_devices hne]
    dsimp only
    rw [if_neg htext, parseDevStr_encodeDevicesTxt hne hdevices]

/-- What the web page shows of a device. -/
def RemoteDevice.shown (d : RemoteDevice) : String × String × ℤ × ℤ :=
  (d.path, d.busid, d.vid, d.pid)

/-- What the Android client shows of a device. -/
def shownOnAndroid (d : Android.RemoteDevice) : String × String × ℤ × ℤ :=
  (d.name, d.busId, d.vid.toInt, d.pid.toInt)

/-- The readers make the same of an entry. -/
theorem shown_remoteDevice (d : UsbIpDeviceEntry) :
    (remoteDevice server d).shown = shownOnAndroid (Android.remoteDevice d) := by
  have hint (n : UInt16) : (Int32.ofInt n.toNat).toInt = n.toNat := by
    have hlt := n.toNat_lt
    rw [Int32.toInt_ofInt_of_le (by omega) (by omega)]
  simp [remoteDevice, RemoteDevice.shown, shownOnAndroid, Android.remoteDevice, hint]

/-- A placeholder has the name of no entry. -/
theorem shown_placeholder_ne (d : UsbIpDeviceEntry) :
    (placeholder server).shown ≠ shownOnAndroid (Android.remoteDevice d) := by
  intro h
  have hname := congrArg (fun shown => shown.1.toList) h
  have hmem : 'U' ∈ hexText 4 d.vid.toNat ++ ':' :: hexText 4 d.pid.toNat := by
    have hU : 'U' ∈ (placeholder server).shown.1.toList := by
      simp [placeholder, RemoteDevice.shown]
    rw [← String.toList_ofList (l := hexText 4 d.vid.toNat ++ _)]
    exact hname ▸ hU
  rw [List.mem_append, List.mem_cons] at hmem
  have hdigit (n : ℕ) : 'U' ∉ hexText 4 n := fun hU =>
    absurd (Android.of_mem_hexText (p := (· != 'U')) (by decide) 'U' hU) (by decide)
  rcases hmem with hU | hU | hU
  · exact hdigit _ hU
  · cases hU
  · exact hdigit _ hU

/-- **A scan of the web page and the Android client see the same devices of a server exactly when
every device has a vendor id and a product id other than zero.** The scan drops the others, and
shows a placeholder when there is no device left; the client keeps them. -/
theorem readers_agree_iff (htxt : server.txt = advertisedTxt platform devices)
    (hdevices : ∀ d ∈ devices, HasBusid d) (hne : devices ≠ []) {info : Android.ServiceInfo}
    (hinfo : info.prop "devices" = (server.txt "devices").map utf8Bytes) :
    (scanServer server =
        if devices.filter (Numbered ·) = [] then [placeholder server]
        else (devices.filter (Numbered ·)).map (remoteDevice server)) ∧
      ((scanServer server).map RemoteDevice.shown =
          (Android.parseDevices info).map shownOnAndroid ↔ ∀ d ∈ devices, Numbered d) := by
  have hscan : scanServer server = if devices.filter (Numbered ·) = [] then [placeholder server]
      else (devices.filter (Numbered ·)).map (remoteDevice server) := by
    rw [scanServer, addedDevices_advertised htxt hdevices]
    simp only [List.map_eq_nil_iff]
  have hlisted : Android.parseListed (info.prop "devices") =
      devices.map Android.remoteDevice := by
    rw [hinfo, htxt, advertisedTxt_devices hne, Option.map_some]
    exact Android.parseListed_encodeDevicesTxt hne fun d hd => (hdevices d hd).plain
  have hsome : devices.map Android.remoteDevice ≠ [] := fun h => hne (List.map_eq_nil_iff.1 h)
  refine ⟨hscan, ?_⟩
  rw [hscan, Android.parseDevices_of_listed hsome hlisted]
  split
  · rename_i hnil
    constructor
    · intro h
      obtain ⟨d, ds, rfl⟩ := List.exists_cons_of_ne_nil hne
      exact absurd (List.cons.inj h).1 (shown_placeholder_ne d)
    · intro hall
      rw [List.filter_eq_self.2 fun d hd => decide_eq_true (hall d hd)] at hnil
      exact absurd hnil hne
  · -- the entries that are kept are shown alike
    have hshown : ((devices.filter (Numbered ·)).map (remoteDevice server)).map
        RemoteDevice.shown =
          ((devices.filter (Numbered ·)).map Android.remoteDevice).map shownOnAndroid := by
      rw [List.map_map, List.map_map]
      exact List.map_congr_left fun d _ => shown_remoteDevice d
    rw [hshown]
    constructor
    · intro h d hd
      have hlen := congrArg List.length h
      simp only [List.length_map] at hlen
      exact of_decide_eq_true (List.length_filter_eq_length_iff.1 hlen d hd)
    · intro hall
      rw [List.filter_eq_self.2 fun d hd => decide_eq_true (hall d hd)]

end Readers

/-- A scan has found the desk. -/
def deskServer : DiscoveredServer :=
  ⟨"192.168.1.10", 3240, advertisedTxt "linux" [Android.keyboardEntry, Android.mouseEntry]⟩

theorem hasBusid_desk : ∀ d ∈ [Android.keyboardEntry, Android.mouseEntry], HasBusid d := by
  intro d hd
  simp only [List.mem_cons, List.not_mem_nil, or_false] at hd
  rcases hd with rfl | rfl
  · exact ⟨1, 2, by decide⟩
  · exact ⟨1, 3, by decide⟩

/-- The keyboard and the mouse are shown on both. -/
theorem readers_agree_desk :
    (scanServer deskServer).map RemoteDevice.shown =
      (Android.parseDevices Android.deskInfo).map shownOnAndroid :=
  (@readers_agree_iff deskServer "linux" _ rfl hasBusid_desk (by simp) Android.deskInfo rfl).2.2
    (by decide)

end Web

end AnyPlug
