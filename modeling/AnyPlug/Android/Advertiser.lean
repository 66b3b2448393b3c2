import AnyPlug.Web.Scan

/-!
# The advertisement of a phone

`ServerAdvertiser.register` makes the properties under which a phone advertises its one device, in
the form `vid:pid:bus:name` and once more as properties of their own. The name of the device comes
from the device; colons and commas are taken out of it, as they separate the parts.

Both readers read the ids back, and the name as it is advertised, unless it holds `vid=`. Then they
take the text for one of `key=value` tokens, and find no device in it: the Android client goes on to
the other properties, and the web page shows its placeholder (`phone_readers`).
-/

namespace AnyPlug

namespace Android

/-! ## The properties -/

/-- A character of the advertised name. -/
def sanitizeChar (c : Char) : Char := if c = ':' ∨ c = ',' then ' ' else c

/-- The name without colons and commas. -/
def sanitizedName (deviceName : String) : List Char :=
  Kotlin.trim (deviceName.toList.map sanitizeChar)

/-- `String.format("%04x", n)`. -/
def idText (n : Int32) : List Char := hexText 4 n.toUInt32.toNat

/-- The `devices` property. -/
def phoneDevicesTxt (deviceName : String) (vid pid : Int32) : List Char :=
  [':'].intercalate [idText vid, idText pid, "1-1".toList, sanitizedName deviceName]

/-- The properties of the service. -/
def phoneAttributes (deviceName : String) (vid pid : Int32) : List (String × String) :=
  [("devices", String.ofList (phoneDevicesTxt deviceName vid pid)),
    ("vid", String.ofList (idText vid)), ("pid", String.ofList (idText pid)), ("bus", "1-1"),
    ("name", String.ofList (sanitizedName deviceName)), ("version", "1.1.1"),
    ("platform", "Android")]

/-- The name holds what the readers know the other form of the property by. -/
def HoldsVid (deviceName : String) : Prop := "vid=".toList <:+: sanitizedName deviceName

instance (deviceName : String) : Decidable (HoldsVid deviceName) :=
  inferInstanceAs (Decidable (_ <:+: _))

theorem lookup_phoneAttributes (deviceName : String) (vid pid : Int32) :
    (phoneAttributes deviceName vid pid).lookup "devices" =
        some (String.ofList (phoneDevicesTxt deviceName vid pid)) ∧
      (phoneAttributes deviceName vid pid).lookup "vid" = some (String.ofList (idText vid)) ∧
      (phoneAttributes deviceName vid pid).lookup "pid" = some (String.ofList (idText pid)) ∧
      (phoneAttributes deviceName vid pid).lookup "bus" = some "1-1" ∧
      (phoneAttributes deviceName vid pid).lookup "name" =
        some (String.ofList (sanitizedName deviceName)) := by
  simp [phoneAttributes, List.lookup]

/-! ## The name -/

theorem mem_sanitizedName {deviceName : String} {c : Char} (h : c ∈ sanitizedName deviceName) :
    c ≠ ':' ∧ c ≠ ',' := by
  have hmem : c ∈ deviceName.toList.map sanitizeChar :=
    (List.dropWhile_sublist _).subset ((List.rdropWhile_prefix _ _).subset h)
  obtain ⟨c', -, rfl⟩ := List.mem_map.1 hmem
  unfold sanitizeChar
  split
  · exact ⟨by decide, by decide⟩
  · rename_i hc
    exact not_or.1 hc

/-- The name does not end with whitespace. -/
theorem getLast_sanitizedName {deviceName : String} {c : Char}
    (h : c ∈ (sanitizedName deviceName).getLast?) : Kotlin.isWhitespace c = false := by
  have hne : sanitizedName deviceName ≠ [] := by
    rintro hnil
    rw [hnil] at h
    cases h
  have hlast := List.rdropWhile_last_not Kotlin.isWhitespace _ hne
  rw [List.getLast?_eq_getLast_of_ne_nil hne] at h
  obtain rfl := Option.some.inj h
  exact Bool.eq_false_iff.2 hlast

theorem not_mem_idText {n : Int32} {c : Char} (h : ∀ d < 16, (Nat.digitChar d != c) = true) :
    c ∉ idText n := fun hc => by
  have hne := of_mem_hexText (p := fun c' => c' != c) h c hc
  simp at hne

/-! ## The text -/

section Text

variable {deviceName : String} {vid pid : Int32}

/-- The parts of the text between colons. -/
theorem split_phoneDevicesTxt :
    (phoneDevicesTxt deviceName vid pid).splitOn ':' =
      [idText vid, idText pid, "1-1".toList, sanitizedName deviceName] := by
  refine List.splitOn_intercalate ':' (fun part hpart => ?_) (List.cons_ne_nil _ _)
  simp only [List.mem_cons, List.not_mem_nil, or_false] at hpart
  rcases hpart with rfl | rfl | rfl | rfl
  · exact not_mem_idText (by decide)
  · exact not_mem_idText (by decide)
  · decide
  · exact fun h => (mem_sanitizedName h).1 rfl

/-- The text is in front of the name, and the name. -/
theorem phoneDevicesTxt_eq : phoneDevicesTxt deviceName vid pid =
    idText vid ++ ':' :: (idText pid ++ ":1-1:".toList) ++ sanitizedName deviceName := by
  simp [phoneDevicesTxt, List.intercalate, List.intersperse]

theorem comma_notMem_phoneDevicesTxt : ',' ∉ phoneDevicesTxt deviceName vid pid := by
  have hvid : ',' ∉ idText vid := not_mem_idText (by decide)
  have hpid : ',' ∉ idText pid := not_mem_idText (by decide)
  have hname : ',' ∉ sanitizedName deviceName := fun h => (mem_sanitizedName h).2 rfl
  rw [phoneDevicesTxt_eq]
  simp [hvid, hpid, hname]

/-- A word whose first letter is not in front of a text is in the text or not at all. -/
theorem infix_append_iff {c : Char} {word front text : List Char} (h : c ∉ front) :
    c :: word <:+: front ++ text ↔ c :: word <:+: text := by
  induction front with
  | nil => rfl
  | cons a front ih =>
    rw [List.mem_cons, not_or] at h
    rw [List.cons_append, List.infix_cons_iff, ih h.2]
    refine or_iff_right fun hpre => ?_
    exact h.1 (List.cons_prefix_cons.1 hpre).1

/-- The text is taken for one of tokens when the name holds `vid=`. -/
theorem infix_phoneDevicesTxt : "vid=".toList <:+: phoneDevicesTxt deviceName vid pid ↔
    HoldsVid deviceName := by
  have hvid : 'v' ∉ idText vid := not_mem_idText (by decide)
  have hpid : 'v' ∉ idText pid := not_mem_idText (by decide)
  have hword : "vid=".toList = 'v' :: "id=".toList := by decide
  rw [phoneDevicesTxt_eq, HoldsVid, hword]
  exact infix_append_iff (by simp [hvid, hpid])

theorem idText_ne_nil (n : Int32) : idText n ≠ [] := hexText_ne_nil _ _

theorem not_isBlank_phoneDevicesTxt :
    Kotlin.isBlank (phoneDevicesTxt deviceName vid pid) = false := by
  rw [Kotlin.isBlank, List.all_eq_false, phoneDevicesTxt_eq]
  exact ⟨':', by simp, by decide⟩

theorem toNat_toUInt32_of_nonneg {n : Int32} (h : 0 ≤ n) : (n.toUInt32.toNat : ℤ) = n.toInt := by
  have hnonneg : 0 ≤ n.toInt := Int32.le_iff_toInt_le.1 h
  have hclamp : n.toNatClampNeg = n.toInt.toNat := rfl
  rw [Int32.toNat_toUInt32_of_le h, hclamp, Int.toNat_of_nonneg hnonneg]

theorem hexOrDecimal_idText {n : Int32} (h : 0 ≤ n) : hexOrDecimal (idText n) = some n := by
  have hint := toNat_toUInt32_of_nonneg h
  have hlt := n.toInt_lt
  rw [hexOrDecimal, idText, Kotlin.toIntOrNull_hexText 4 (by omega), hint, Int32.ofInt_toInt]
  rfl

theorem hexOrZero_idText {n : Int32} (h : 0 ≤ n) : Script.hexOrZero (idText n) = n.toInt := by
  rw [idText, Script.hexOrZero_hexText, toNat_toUInt32_of_nonneg h]

/-- What is before the first `=` holds a colon, so it is none of the keys. -/
theorem exists_key (vid pid : Int32) (h : HoldsVid deviceName) :
    ∃ key value, phoneDevicesTxt deviceName vid pid = key ++ '=' :: value ∧ '=' ∉ key ∧
      ':' ∈ key := by
  have hmem : '=' ∈ phoneDevicesTxt deviceName vid pid :=
    (infix_phoneDevicesTxt.2 h).subset (by decide)
  have hvid : '=' ∉ idText vid := not_mem_idText (by decide)
  obtain ⟨key, value, htext, hkey⟩ := List.eq_append_cons_of_mem hmem
  refine ⟨key, value, htext, hkey, ?_⟩
  rw [phoneDevicesTxt_eq, List.append_assoc, List.cons_append] at htext
  rcases List.append_eq_append_iff.1 htext with ⟨front, hfront, hrest⟩ | ⟨front, hfront, hrest⟩
  · cases front with
    | nil => cases hrest
    | cons c front =>
      obtain rfl := (List.cons.inj hrest).1
      simp [hfront]
  · cases front with
    | nil => cases hrest
    | cons c front =>
      obtain rfl := (List.cons.inj hrest).1
      exact absurd (hfront ▸ by simp) hvid

/-- A key with a colon is none of those that are read. -/
theorem ne_key {key : List Char} (h : ':' ∈ key) :
    key ≠ "vid".toList ∧ key ≠ "pid".toList ∧ key ≠ "bus".toList ∧ key ≠ "n".toList := by
  refine ⟨?_, ?_, ?_, ?_⟩ <;>
  · rintro rfl
    revert h
    decide

/-! ## The Android client -/

theorem textOf_utf8Bytes (s : List Char) : textOf (utf8Bytes (String.ofList s)) = s := by
  rw [textOf, fromUtf8Lossy_utf8Bytes, String.toList_ofList]

theorem trimmed_phoneDevicesTxt (h : HoldsVid deviceName) :
    Kotlin.Trimmed (phoneDevicesTxt deviceName vid pid) := by
  have hne : sanitizedName deviceName ≠ [] := by
    intro hnil
    rw [HoldsVid, hnil, List.infix_nil] at h
    exact absurd h (by decide)
  rw [phoneDevicesTxt_eq]
  constructor
  · intro c hc
    rw [List.append_assoc, List.head?_append_of_ne_nil _ (idText_ne_nil vid)] at hc
    exact not_isWhitespace_of_mem_hexText (List.mem_of_mem_head? hc)
  · intro c hc
    rw [List.getLast?_append_of_ne_nil _ hne] at hc
    exact getLast_sanitizedName hc

/-- No device is read of a text that is taken for one of tokens. -/
theorem parseKeyValues_phone (h : HoldsVid deviceName) :
    parseKeyValues (phoneDevicesTxt deviceName vid pid) = [] := by
  obtain ⟨key, value, htext, hkey, hcolon⟩ := exists_key vid pid h
  obtain ⟨hvid, hpid, hbus, hn⟩ := ne_key hcolon
  have hread : KeyValues.read .start (phoneDevicesTxt deviceName vid pid) = .start := by
    rw [KeyValues.read, Kotlin.trim_eq_self (trimmed_phoneDevicesTxt h), htext,
      Kotlin.splitTwo_append hkey]
    simp only [KeyValues.assign, if_neg hvid, if_neg hpid, if_neg hbus, if_neg hn]
  rw [parseKeyValues, Kotlin.split, List.splitOn_eq_singleton comma_notMem_phoneDevicesTxt,
    List.foldl_cons, List.foldl_nil, hread]
  rfl

theorem parseListed_phone (hvid : 0 ≤ vid) (hpid : 0 ≤ pid) :
    parseListed (some (utf8Bytes (String.ofList (phoneDevicesTxt deviceName vid pid)))) =
      if HoldsVid deviceName then []
      else [⟨String.ofList (sanitizedName deviceName), "1-1", vid, pid⟩] := by
  have hcolons : parseColons (phoneDevicesTxt deviceName vid pid) =
      some ⟨String.ofList (sanitizedName deviceName), "1-1", vid, pid⟩ := by
    rw [parseColons, Kotlin.split, split_phoneDevicesTxt]
    simp only [hexOrDecimal_idText hvid, hexOrDecimal_idText hpid]
    rfl
  rw [parseListed, textOf_utf8Bytes, not_isBlank_phoneDevicesTxt, if_neg Bool.false_ne_true,
    parseDevicesText, Kotlin.contains]
  simp only [decide_eq_true_eq, infix_phoneDevicesTxt]
  split
  · rename_i h
    exact parseKeyValues_phone h
  · rw [Kotlin.split, List.splitOn_eq_singleton comma_notMem_phoneDevicesTxt,
      List.filterMap_cons_some hcolons, List.filterMap_nil]

/-- A property without separators is a list of one part. -/
theorem listParts_utf8Bytes {s : List Char} (h : ∀ c ∈ s, c ≠ ',' ∧ c ≠ ';')
    (htrim : Kotlin.trim s = s) : listParts (utf8Bytes (String.ofList s)) = [s] := by
  have hsplit : (s.splitOnP fun c => c == ',' || c == ';') = [s] := by
    refine List.splitOnP_eq_singleton fun c hc => ?_
    simp [(h c hc).1, (h c hc).2]
  rw [listParts, textOf_utf8Bytes, hsplit, List.map_singleton, htrim]

theorem parseUIntList_idText {n : Int32} (h : 0 ≤ n) :
    parseUIntList (some (utf8Bytes (String.ofList (idText n)))) = [n] := by
  have hcomma : ',' ∉ idText n := not_mem_idText (by decide)
  have hsemicolon : ';' ∉ idText n := not_mem_idText (by decide)
  have hparts : listParts (utf8Bytes (String.ofList (idText n))) = [idText n] := by
    refine listParts_utf8Bytes (fun c hc => ⟨?_, ?_⟩) (Kotlin.trim_eq_self ⟨fun c hc => ?_,
      fun c hc => ?_⟩)
    · exact fun heq => hcomma (heq ▸ hc)
    · exact fun heq => hsemicolon (heq ▸ hc)
    · exact not_isWhitespace_of_mem_hexText (List.mem_of_mem_head? hc)
    · exact not_isWhitespace_of_mem_hexText (List.mem_of_mem_getLast? hc)
  rw [parseUIntList, hparts, List.filterMap_cons_some (hexOrDecimal_idText h), List.filterMap_nil]

/-- The name that the Android client shows: where the advertised name holds `vid=`, only its first
part before a semicolon. -/
def shownName (deviceName : String) : String :=
  if HoldsVid deviceName then
    (parseStringList (some (utf8Bytes (String.ofList (sanitizedName deviceName)))))[0]?.getD
      "USB Device"
  else String.ofList (sanitizedName deviceName)

theorem parseDevices_phone (hvid : 0 ≤ vid) (hpid : 0 ≤ pid) {info : ServiceInfo}
    (hinfo : ∀ key, info.prop key =
      ((phoneAttributes deviceName vid pid).lookup key).map utf8Bytes) :
    parseDevices info = [⟨shownName deviceName, "1-1", vid, pid⟩] := by
  obtain ⟨hdevices, hvidText, hpidText, hbus, hname⟩ := lookup_phoneAttributes deviceName vid pid
  have hlisted : parseListed (some (utf8Bytes (String.ofList (phoneDevicesTxt deviceName vid
      pid)))) = _ := parseListed_phone hvid hpid
  rw [← Option.map_some (f := utf8Bytes), ← hdevices, ← hinfo] at hlisted
  have hvids : parseUIntList (info.prop "vid") = [vid] := by
    rw [hinfo, hvidText]
    exact parseUIntList_idText hvid
  have hpids : parseUIntList (info.prop "pid") = [pid] := by
    rw [hinfo, hpidText]
    exact parseUIntList_idText hpid
  have hbuses : parseStringList (info.prop "bus") = ["1-1"] := by
    have hparts : listParts (utf8Bytes (String.ofList "1-1".toList)) = ["1-1".toList] :=
      listParts_utf8Bytes (by simp)
        (Kotlin.trim_eq_self (by simp [Kotlin.Trimmed, Kotlin.isWhitespace]))
    rw [String.ofList_toList] at hparts
    rw [hinfo, hbus, Option.map_some, parseStringList, hparts]
    rfl
  by_cases h : HoldsVid deviceName
  · rw [if_pos h] at hlisted
    rw [parseDevices, hlisted, hvids, hpids]
    simp only [ne_eq, not_true_eq_false, if_false, List.cons_ne_nil, not_false_eq_true,
      List.length_singleton, and_self, if_true]
    rw [parseArrays, hvids, hpids, hbuses, hinfo "name", hname, shownName, if_pos h]
    rfl
  · rw [if_neg h] at hlisted
    rw [shownName, if_neg h]
    exact parseDevices_of_listed (List.cons_ne_nil _ _) hlisted

/-! ## The web page -/

/-- No device is read of a text that is taken for one of tokens. -/
theorem parseTokens_phone (server : Web.DiscoveredServer)
    (h : HoldsVid deviceName) :
    Web.parseTokens server (phoneDevicesTxt deviceName vid pid) = [] := by
  obtain ⟨key, value, htext, hkey, hcolon⟩ := exists_key vid pid h
  obtain ⟨hvid, hpid, hbus, hn⟩ := ne_key (Script.mem_trim hcolon (by decide))
  have hread : Web.Tokens.read server .start (phoneDevicesTxt deviceName vid pid) = .start := by
    rw [Web.Tokens.read, htext, Script.split, List.splitOn_append_cons_self_of_not_mem hkey]
    simp only [List.map_cons, List.getElem?_cons_zero, Option.getD_some, Web.Tokens.assign,
      if_neg hvid, if_neg hpid, if_neg hbus, if_neg hn]
  rw [Web.parseTokens, Script.split, List.splitOn_eq_singleton comma_notMem_phoneDevicesTxt,
    List.foldl_cons, List.foldl_nil, hread]
  rfl

/-- What the web page shows for the phone. -/
def webDevice (server : Web.DiscoveredServer) (deviceName : String) (vid pid : Int32) :
    Web.RemoteDevice :=
  if HoldsVid deviceName then Web.placeholder server
  else ⟨server.host, server.port, "1-1", vid.toInt, pid.toInt,
    String.ofList (sanitizedName deviceName)⟩

theorem scanServer_phone (hvid : 0 ≤ vid) (hpid : 0 ≤ pid) {server : Web.DiscoveredServer}
    (htxt : ∀ key, server.txt key = (phoneAttributes deviceName vid pid).lookup key) :
    Web.scanServer server = [webDevice server deviceName vid pid] := by
  have hentry : Web.parseEntry server (phoneDevicesTxt deviceName vid pid) =
      some ⟨server.host, server.port, "1-1", vid.toInt, pid.toInt,
        String.ofList (sanitizedName deviceName)⟩ := by
    rw [Web.parseEntry, Script.split, split_phoneDevicesTxt]
    simp only [hexOrZero_idText hvid, hexOrZero_idText hpid]
    rfl
  have hne : phoneDevicesTxt deviceName vid pid ≠ [] := by
    rw [phoneDevicesTxt_eq]
    simp
  have hadded : Web.addedDevices server =
      if HoldsVid deviceName then []
      else [webDevice server deviceName vid pid] := by
    rw [Web.addedDevices, htxt, (lookup_phoneAttributes deviceName vid pid).1]
    simp only [String.toList_ofList, hne, if_false, Web.parseDevStr, Script.includes,
      decide_eq_true_eq, infix_phoneDevicesTxt]
    split
    · rename_i h
      exact parseTokens_phone server h
    · rename_i h
      rw [Script.split, List.splitOn_eq_singleton comma_notMem_phoneDevicesTxt,
        List.filterMap_cons_some hentry, List.filterMap_nil, webDevice, if_neg h]
  rw [Web.scanServer, hadded]
  by_cases h : HoldsVid deviceName
  · rw [if_pos h, if_pos rfl, webDevice, if_pos h]
  · rw [if_neg h, if_neg (List.cons_ne_nil _ _)]

/-! ## Both -/

/-- **What is read of the advertisement of a phone**, whatever the name of its device: both readers
show one device at `1-1`. The client shows its ids; the web page shows them, and the advertised
name, unless that holds `vid=`. They show the same exactly when it does not, or when the device has
no ids and the client shows no name of it either. -/
theorem phone_readers (hvid : 0 ≤ vid) (hpid : 0 ≤ pid) {info : ServiceInfo}
    {server : Web.DiscoveredServer}
    (hinfo : ∀ key, info.prop key =
      ((phoneAttributes deviceName vid pid).lookup key).map utf8Bytes)
    (htxt : ∀ key, server.txt key = (phoneAttributes deviceName vid pid).lookup key) :
    parseDevices info = [⟨shownName deviceName, "1-1", vid, pid⟩] ∧
      Web.scanServer server = [webDevice server deviceName vid pid] ∧
      ((Web.scanServer server).map Web.RemoteDevice.shown =
          (parseDevices info).map Web.shownOnAndroid ↔
        ¬HoldsVid deviceName ∨
          vid = 0 ∧ pid = 0 ∧ shownName deviceName = "USB Device") := by
  have hparse := parseDevices_phone hvid hpid hinfo
  have hscan := scanServer_phone hvid hpid htxt
  refine ⟨hparse, hscan, ?_⟩
  rw [hparse, hscan, List.map_singleton, List.map_singleton, List.cons.injEq]
  have hzero (n : Int32) : (0 : ℤ) = n.toInt ↔ n = 0 := by
    rw [eq_comm, ← Int32.toInt_zero, Int32.toInt_inj]
  by_cases h : HoldsVid deviceName
  · simp only [webDevice, h, if_true, Web.placeholder, Web.RemoteDevice.shown, Web.shownOnAndroid,
      Prod.mk.injEq, hzero, true_and, not_true_eq_false, false_or, and_true]
    rw [eq_comm, and_comm, and_assoc]
  · simp [webDevice, shownName, h, Web.RemoteDevice.shown, Web.shownOnAndroid]

end Text

/-- The phone as a client resolves it. -/
def phoneInfo (deviceName : String) (vid pid : Int32) : ServiceInfo where
  hostAddresses := ["192.168.1.30"]
  server := "phone.local."
  port := 3240
  propertyNames := (phoneAttributes deviceName vid pid).map Prod.fst
  propertyBytes key := ((phoneAttributes deviceName vid pid).lookup key).map utf8Bytes

theorem prop_phoneInfo (deviceName : String) (vid pid : Int32) (key : String) :
    (phoneInfo deviceName vid pid).prop key =
      ((phoneAttributes deviceName vid pid).lookup key).map utf8Bytes := by
  unfold ServiceInfo.prop
  cases hlookup : (phoneAttributes deviceName vid pid).lookup key with
  | none =>
    have hno : key ∉ (phoneInfo deviceName vid pid).propertyNames := by
      intro hmem
      obtain ⟨p, hp, rfl⟩ := List.mem_map.1 hmem
      have hne := List.lookup_eq_none_iff.1 hlookup p hp
      simp at hne
    rw [if_neg hno]
    rfl
  | some value =>
    have hmem : key ∈ (phoneInfo deviceName vid pid).propertyNames := by
      obtain ⟨l₁, l₂, h, -⟩ := List.lookup_eq_some_iff.1 hlookup
      refine List.mem_map.2 ⟨(key, value), ?_, rfl⟩
      rw [h]
      simp
    have hbytes : (phoneInfo deviceName vid pid).propertyBytes key = some (utf8Bytes value) :=
      congrArg (Option.map utf8Bytes) hlookup
    rw [if_pos hmem, hbytes]
    rfl

/-- The phone as a scan of the web page finds it. -/
def phoneServer (deviceName : String) (vid pid : Int32) : Web.DiscoveredServer :=
  ⟨"192.168.1.30", 3240, fun key => (phoneAttributes deviceName vid pid).lookup key⟩

/-- A wheel is shown alike on both; a device with `vid=` in its name is not. -/
theorem phone_readers_wheel :
    (Web.scanServer (phoneServer "Wheel: G29" 0x046d 0xc24f)).map Web.RemoteDevice.shown =
        (parseDevices (phoneInfo "Wheel: G29" 0x046d 0xc24f)).map Web.shownOnAndroid ∧
      (Web.scanServer (phoneServer "vid=1" 0x046d 0xc24f)).map Web.RemoteDevice.shown ≠
        (parseDevices (phoneInfo "vid=1" 0x046d 0xc24f)).map Web.shownOnAndroid := by
  constructor
  · exact (phone_readers (by decide) (by decide) (prop_phoneInfo _ _ _) fun _ => rfl).2.2.2
      (.inl (by decide +kernel))
  · refine mt (phone_readers (by decide) (by decide) (prop_phoneInfo _ _ _)
      fun _ => rfl).2.2.1 ?_
    have hvid : HoldsVid "vid=1" := by decide +kernel
    simp [hvid]

end Android

end AnyPlug
