import AnyPlug.Android.LastKnown

/-!
# The scan of the subnet

`SubnetScanner` and `RestProbe` of `com.anyplug.discovery`. The scan asks the 254 hosts around the
gateway for their status, in batches, and returns the servers that answer. The gateway is read from
the routes of the Wi-Fi networks, or from the routing table of the kernel
(`gatewayAddress_routes`).

The scan is for subnets of 256 addresses only, and `subnetPrefixLength` is to find their mask. It
counts the leading zeros of the inverted mask, not its zeros, and gets 24 for the masks of
`subnetPrefixLength_eq_iff`. The mask of such a subnet is not one of them, in whichever order its
bytes are packed, so the scan finds servers only where there is no mask (`scan_eq`).
-/

namespace AnyPlug

namespace Android

/-! ## Addresses -/

/-- The bytes of an IPv4 address, in the order in which they are written. -/
structure Inet4Address where
  a : UInt8
  b : UInt8
  c : UInt8
  d : UInt8
  deriving DecidableEq

namespace Inet4Address

def zero : Inet4Address := ⟨0, 0, 0, 0⟩

/-- `InetAddress.getHostAddress`. -/
def hostAddress (ip : Inet4Address) : String :=
  String.ofList (Nat.toDigits 10 ip.a.toNat ++ '.' :: Nat.toDigits 10 ip.b.toNat ++ '.' ::
    Nat.toDigits 10 ip.c.toNat ++ '.' :: Nat.toDigits 10 ip.d.toNat)

end Inet4Address

/-- The hosts `.1` to `.254` around the gateway. -/
def expandHosts (gateway : Inet4Address) : List Inet4Address :=
  (List.range' 1 254).map fun host => { gateway with d := UInt8.ofNat host }

/-! ## The gateway -/

/-- `substring(from, from + 2).toInt(16).toByte()`. Both calls throw. -/
def hexByte (text : List Char) (start : ℕ) : Option UInt8 :=
  if start + 2 ≤ text.length then
    (Kotlin.toIntOrNull 16 ((text.drop start).take 2)).map fun n => n.toUInt32.toUInt8
  else none

/-- A line of the routing table. The gateway of a default route is returned, and the loop goes on
at every other line; an exception leaves the loop. -/
def readRoute (line : List Char) : Except Unit (Option Inet4Address) :=
  match Kotlin.split '\t' line with
  | _ :: destination :: gwHex :: _ =>
    if destination = "00000000".toList ∧ gwHex ≠ [] ∧ gwHex ≠ "00000000".toList then
      match hexByte gwHex 6, hexByte gwHex 4, hexByte gwHex 2, hexByte gwHex 0 with
      | some a, some b, some c, some d => .ok (some ⟨a, b, c, d⟩)
      | _, _, _, _ => .error ()
    else .ok none
  | _ => .ok none

/-- The loop over the lines after the first. -/
def gatewayFromLines : List (List Char) → Option Inet4Address
  | [] => none
  | line :: lines =>
    match readRoute line with
    | .error () => none
    | .ok (some gateway) => some gateway
    | .ok none => gatewayFromLines lines

/-- What the phone knows of its network: the first default gateway of each Wi-Fi network that has
link properties, the lines of `/proc/net/route` where it can be read, and the mask of the DHCP
lease. -/
structure PhoneNetwork where
  wifiGateways : List (Option Inet4Address)
  routeLines : Option (List (List Char))
  netmask : Option (BitVec 32)

def gatewayAddress (net : PhoneNetwork) : Option Inet4Address :=
  (net.wifiGateways.findSome? id).orElse fun _ =>
    net.routeLines.bind fun lines => gatewayFromLines (lines.drop 1)

/-! ## The mask -/

def subnetPrefixLength (net : PhoneNetwork) : Option ℕ :=
  net.netmask.bind fun mask =>
    if mask = 0 then none
    else some (32 - (~~~mask &&& 0xffffffff#32).clz.toNat)

/-! ## The probes -/

/-- What is read of the body of a successful `GET /api/status`. A text that is missing is empty. -/
structure StatusReply where
  status : String
  port : Option Int32
  serverId : String
  serverName : String

/-- `takeIf { it.isNotBlank() && it != "null" }`. -/
def reported (text : String) : Option String :=
  if !Kotlin.isBlank text.toList && text != "null" then some text else none

/-- `coerceIn(1, 65535)`. -/
def coercePort (port : Int32) : Int32 :=
  if port < 1 then 1 else if 65535 < port then 65535 else port

/-- `RestProbe.probe`. -/
def probe (getStatus : String → Option StatusReply) (apiPort : Int32) (host : String) :
    Option ServerEndpoint :=
  (getStatus host).bind fun reply =>
    if reply.status = "running" then
      some {
        host := host
        apiPort := apiPort
        wirePort := coercePort (reply.port.getD 3240)
        serverId := reported reply.serverId
        serverName := reported reply.serverName
        source := .rest }
    else none

/-- `SubnetScanner.scan`. A batch is awaited before the next one is asked. -/
def scan (net : PhoneNetwork) (getStatus : String → Option StatusReply) (apiPort : Int32)
    (parallelProbes : ℕ) : List ServerEndpoint :=
  match gatewayAddress net with
  | none => []
  | some gateway =>
    if (subnetPrefixLength net).getD 24 ≠ 24 then []
    else
      ((Kotlin.chunked parallelProbes (expandHosts gateway)).flatMap fun batch =>
        batch.map fun ip => probe getStatus apiPort ip.hostAddress).reduceOption

/-! ## The routing table of the kernel -/

/-- A digit as the kernel prints it. -/
def upperDigit (n : ℕ) : Char := if n < 10 then Char.ofNat (48 + n) else Char.ofNat (55 + n)

def byteHex (b : UInt8) : List Char := [upperDigit (b.toNat / 16), upperDigit (b.toNat % 16)]

/-- The bytes of the address from the last to the first, as the kernel prints a number in the byte
order of the phone. -/
def routeHex (ip : Inet4Address) : List Char :=
  byteHex ip.d ++ byteHex ip.c ++ byteHex ip.b ++ byteHex ip.a

/-- A route: the name of the interface, two addresses, and other columns. -/
structure Route where
  iface : List Char
  destination : Inet4Address
  gateway : Inet4Address
  rest : List (List Char)

namespace Route

def columns (r : Route) : List (List Char) :=
  r.iface :: routeHex r.destination :: routeHex r.gateway :: r.rest

def line (r : Route) : List Char := List.intercalate ['\t'] r.columns

/-- No tab in the columns that are not addresses. -/
def Plain (r : Route) : Prop := '\t' ∉ r.iface ∧ ∀ column ∈ r.rest, '\t' ∉ column

/-- A default route with a gateway. -/
def IsDefault (r : Route) : Prop := r.destination = .zero ∧ r.gateway ≠ .zero

instance (r : Route) : Decidable r.IsDefault := inferInstanceAs (Decidable (_ ∧ _))

end Route

/-- The digits of a byte are read back. -/
theorem toByte_byteHex (b : UInt8) :
    (Kotlin.toIntOrNull 16 (byteHex b)).map (fun n => n.toUInt32.toUInt8) = some b := by
  have hlt := b.toNat_lt
  have hdigit : ∀ d < 16, Kotlin.digitOf 16 (upperDigit d) = some d := by decide
  have hsign : ∀ d < 16, 48 ≤ (upperDigit d).toNat := by decide
  have hread : readDigits (Kotlin.digitOf 16) 16 0 (byteHex b) = some b.toNat := by
    rw [byteHex, readDigits_cons_of_eq (hdigit _ (by omega)),
      readDigits_cons_of_eq (hdigit _ (by omega)), readDigits_nil]
    exact congrArg some (by omega)
  have hhead : ∀ c ∈ (byteHex b).head?, 48 ≤ c.toNat := by
    intro c hc
    obtain rfl := Option.some.inj hc
    exact hsign _ (by omega)
  rw [Kotlin.toIntOrNull_of_digits hhead (List.cons_ne_nil _ _) hread, Kotlin.toInt32,
    if_pos (by omega), Option.map_some]
  have hbyte : (Int32.ofInt (b.toNat : ℤ)).toUInt32.toUInt8 = b := by
    refine UInt8.toNat.inj ?_
    rw [UInt32.toNat_toUInt8, Int32.ofInt, BitVec.ofInt_natCast]
    change (BitVec.ofNat 32 b.toNat).toNat % 2 ^ 8 = b.toNat
    rw [BitVec.toNat_ofNat]
    omega
  rw [hbyte]

theorem hexByte_routeHex (ip : Inet4Address) :
    hexByte (routeHex ip) 6 = some ip.a ∧ hexByte (routeHex ip) 4 = some ip.b ∧
      hexByte (routeHex ip) 2 = some ip.c ∧ hexByte (routeHex ip) 0 = some ip.d :=
  ⟨toByte_byteHex ip.a, toByte_byteHex ip.b, toByte_byteHex ip.c, toByte_byteHex ip.d⟩

theorem routeHex_injective : Function.Injective routeHex := by
  intro ip ip' h
  obtain ⟨ha, hb, hc, hd⟩ := hexByte_routeHex ip
  rw [h] at ha hb hc hd
  obtain ⟨ha', hb', hc', hd'⟩ := hexByte_routeHex ip'
  obtain ⟨a, b, c, d⟩ := ip
  obtain ⟨a', b', c', d'⟩ := ip'
  simp_all

theorem tab_notMem_routeHex (ip : Inet4Address) : '\t' ∉ routeHex ip := by
  have hdigit : ∀ n < 16, upperDigit n ≠ '\t' := by decide
  have hbyte (b : UInt8) : '\t' ∉ byteHex b := by
    have hlt := b.toNat_lt
    have hhigh := hdigit (b.toNat / 16) (by omega)
    have hlow := hdigit (b.toNat % 16) (by omega)
    simp [byteHex, hhigh.symm, hlow.symm]
  simp [routeHex, hbyte]

theorem split_line {r : Route} (h : r.Plain) : Kotlin.split '\t' r.line = r.columns := by
  refine List.splitOn_intercalate '\t' (fun column hcolumn => ?_) (List.cons_ne_nil _ _)
  simp only [Route.columns, List.mem_cons] at hcolumn
  rcases hcolumn with rfl | rfl | rfl | hrest
  · exact h.1
  · exact tab_notMem_routeHex _
  · exact tab_notMem_routeHex _
  · exact h.2 column hrest

theorem readRoute_line {r : Route} (h : r.Plain) :
    readRoute r.line = .ok (if r.IsDefault then some r.gateway else none) := by
  have hzero : "00000000".toList = routeHex .zero := by decide
  have hdefault : (routeHex r.destination = routeHex .zero ∧ routeHex r.gateway ≠ [] ∧
      routeHex r.gateway ≠ routeHex .zero) ↔ r.IsDefault := by
    have hne : routeHex r.gateway ≠ [] := List.cons_ne_nil _ _
    rw [Route.IsDefault, Ne, Ne, Ne, routeHex_injective.eq_iff, routeHex_injective.eq_iff]
    simp [hne]
  obtain ⟨ha, hb, hc, hd⟩ := hexByte_routeHex r.gateway
  rw [readRoute, split_line h, Route.columns, hzero]
  simp only [ha, hb, hc, hd, hdefault]
  split <;> rfl

theorem gatewayFromLines_lines {routes : List Route} (h : ∀ r ∈ routes, r.Plain) :
    gatewayFromLines (routes.map Route.line) =
      (routes.find? (·.IsDefault)).map Route.gateway := by
  induction routes with
  | nil => rfl
  | cons r routes ih =>
    have ih := ih fun r' hr' => h r' (by simp [hr'])
    rw [List.map_cons, gatewayFromLines, readRoute_line (h r (by simp))]
    by_cases hdefault : r.IsDefault
    · simp [hdefault]
    · simpa [hdefault] using ih

/-- **The gateway of the first default route is found** in any routing table that the kernel prints,
where the Wi-Fi networks have no gateway. -/
theorem gatewayAddress_routes {net : PhoneNetwork} {header : List Char} {routes : List Route}
    (hwifi : ∀ g ∈ net.wifiGateways, g = none)
    (hlines : net.routeLines = some (header :: routes.map Route.line))
    (h : ∀ r ∈ routes, r.Plain) :
    gatewayAddress net = (routes.find? (·.IsDefault)).map Route.gateway := by
  have hnone : net.wifiGateways.findSome? id = none := List.findSome?_eq_none_iff.2 hwifi
  rw [gatewayAddress, hnone, hlines]
  exact gatewayFromLines_lines h

/-- The route to the network and the default route. -/
def homeRoutes : List Route :=
  [⟨"wlan0".toList, ⟨192, 168, 1, 0⟩, .zero, ["0001".toList]⟩,
    ⟨"wlan0".toList, .zero, ⟨192, 168, 1, 1⟩, ["0003".toList]⟩]

theorem gatewayAddress_home :
    gatewayAddress ⟨[none], some ("Iface\tDestination\tGateway".toList ::
      homeRoutes.map Route.line), none⟩ = some ⟨192, 168, 1, 1⟩ := by
  have hplain : ∀ r ∈ homeRoutes, r.Plain := by
    intro r hr
    simp only [homeRoutes, List.mem_cons, List.not_mem_nil, or_false] at hr
    rcases hr with rfl | rfl <;> simp [Route.Plain]
  rw [gatewayAddress_routes (by simp) rfl hplain]
  rfl

/-! ## Which masks are taken for those of 256 addresses -/

/-- The leading zeros of a number other than zero, by its size. -/
theorem clz_eq_iff {x : BitVec 32} (hx : x ≠ 0) {k : ℕ} (hk : k < 32) :
    x.clz.toNat = k ↔ 2 ^ (31 - k) ≤ x.toNat ∧ x.toNat < 2 ^ (32 - k) := by
  have hlow := BitVec.two_pow_sub_clz_le_toNat_of_ne_zero (by decide) hx
  have hhigh := BitVec.toNat_lt_two_pow_sub_clz (x := x)
  constructor
  · rintro rfl
    exact ⟨hlow, hhigh⟩
  · rintro ⟨hk1, hk2⟩
    have h1 : 31 - x.clz.toNat < 32 - k := (Nat.pow_lt_pow_iff_right (by decide)).1
      (hlow.trans_lt hk2)
    have h2 : 31 - k < 32 - x.clz.toNat := (Nat.pow_lt_pow_iff_right (by decide)).1
      (hk1.trans_lt hhigh)
    omega

/-- The masks that begin with eight ones and then a zero are taken for those of 256 addresses. -/
theorem subnetPrefixLength_eq_iff {net : PhoneNetwork} :
    subnetPrefixLength net = some 24 ↔
      ∃ mask, net.netmask = some mask ∧ 0xff000000 ≤ mask.toNat ∧ mask.toNat < 0xff800000 := by
  rw [subnetPrefixLength, Option.bind_eq_some_iff]
  refine exists_congr fun mask => and_congr_right fun _ => ?_
  have hlt := mask.isLt
  by_cases hzero : mask = 0
  · simp [hzero]
  have hall : ~~~mask &&& 0xffffffff#32 = ~~~mask := BitVec.and_allOnes
  have hnot : (~~~mask).toNat = 2 ^ 32 - 1 - mask.toNat := BitVec.toNat_not
  rw [if_neg hzero, hall, Option.some.injEq]
  by_cases hones : ~~~mask = 0
  · rw [hones]
    have hmask : mask.toNat = 2 ^ 32 - 1 := by
      have hzeros : (~~~mask).toNat = 0 := congrArg BitVec.toNat hones
      omega
    simp [hmask]
  · have hle : (~~~mask).clz.toNat ≤ 32 := BitVec.clz_le
    have hiff := clz_eq_iff hones (show 8 < 32 by decide)
    rw [hnot] at hiff
    omega

/-- The mask of a subnet with `2 ^ (32 - p)` addresses, its first byte the highest. -/
def prefixMask (p : ℕ) : BitVec 32 := BitVec.allOnes 32 <<< (32 - p)

/-- The bytes in the other order, as `DhcpInfo` packs them. -/
def swapBytes (x : BitVec 32) : BitVec 32 :=
  x.extractLsb' 0 8 ++ x.extractLsb' 8 8 ++ x.extractLsb' 16 8 ++ x.extractLsb' 24 8

/-- The subnet is taken for one of 256 addresses: nothing is known of its mask, or the mask begins
with eight ones and then a zero. -/
def Scanned (net : PhoneNetwork) : Prop :=
  match net.netmask with
  | none => True
  | some mask => mask = 0 ∨ 0xff000000 ≤ mask.toNat ∧ mask.toNat < 0xff800000

instance (net : PhoneNetwork) : Decidable (Scanned net) :=
  decidable_of_iff (∀ mask ∈ net.netmask,
      mask = 0 ∨ 0xff000000 ≤ mask.toNat ∧ mask.toNat < 0xff800000) <| by
    unfold Scanned
    cases net.netmask <;> simp

theorem scanned_iff {net : PhoneNetwork} :
    Scanned net ↔ (subnetPrefixLength net).getD 24 = 24 := by
  have hiff := @subnetPrefixLength_eq_iff net
  unfold Scanned
  cases hmask : net.netmask with
  | none => simp [subnetPrefixLength, hmask]
  | some mask =>
    by_cases hzero : mask = 0
    · simp [subnetPrefixLength, hmask, hzero]
    · simp only [hmask, Option.some.injEq, exists_eq_left'] at hiff
      simp only [hzero, false_or, ← hiff]
      rw [subnetPrefixLength, hmask, Option.bind_some, if_neg hzero, Option.getD_some,
        Option.some.injEq]

/-- No mask as `DhcpInfo` packs it is taken for one of 256 addresses, and in the other order only
that of the subnets with `2 ^ 24` addresses. -/
theorem not_scanned_prefixMask {p : ℕ} (hp : 0 < p) (hle : p ≤ 32) {net : PhoneNetwork}
    (h : net.netmask = some (swapBytes (prefixMask p)) ∨
      p ≠ 8 ∧ net.netmask = some (prefixMask p)) : ¬Scanned net := by
  have hmasks : ∀ p ≤ 32, 0 < p →
      ¬(swapBytes (prefixMask p) = 0 ∨ 0xff000000 ≤ (swapBytes (prefixMask p)).toNat ∧
        (swapBytes (prefixMask p)).toNat < 0xff800000) ∧
      (p ≠ 8 → ¬(prefixMask p = 0 ∨ 0xff000000 ≤ (prefixMask p).toNat ∧
        (prefixMask p).toNat < 0xff800000)) := by decide +kernel
  obtain ⟨hswapped, hplain⟩ := hmasks p hle hp
  rcases h with h | ⟨hne, h⟩
  · simpa only [Scanned, h] using hswapped
  · simpa only [Scanned, h] using hplain hne

/-! ## What the scan finds -/

theorem reduceOption_map {α β : Type*} (f : α → Option β) (xs : List α) :
    (xs.map f).reduceOption = xs.filterMap f := by
  rw [List.reduceOption, List.filterMap_map]
  rfl

theorem toDigits_injective : Function.Injective (Nat.toDigits 10) := by
  intro m n h
  have hm := readDigits_toDigits Kotlin.readsDigits_digitOf_ten (by decide) m
  rw [h, readDigits_toDigits Kotlin.readsDigits_digitOf_ten (by decide) n] at hm
  exact (Option.some.inj hm).symm

theorem sublist_map_filterMap {α β γ : Type*} {g : α → Option β} {h : β → γ} {f : α → γ}
    (hg : ∀ x y, g x = some y → h y = f x) {xs : List α} :
    ((xs.filterMap g).map h).Sublist (xs.map f) := by
  induction xs with
  | nil => exact List.Sublist.refl _
  | cons x xs ih =>
    cases hx : g x with
    | none =>
      rw [List.filterMap_cons_none hx]
      exact ih.cons _
    | some y =>
      rw [List.filterMap_cons_some hx, List.map_cons, List.map_cons, hg x y hx]
      exact ih.cons_cons _

theorem host_of_probe {getStatus : String → Option StatusReply} {apiPort : Int32} {host : String}
    {e : ServerEndpoint} (h : probe getStatus apiPort host = some e) : e.host = host := by
  obtain ⟨reply, -, h⟩ := Option.bind_eq_some_iff.1 h
  split at h
  · rw [← Option.some.inj h]
  · cases h

/-- The hosts have different addresses. -/
theorem nodup_hostAddress (gateway : Inet4Address) :
    ((expandHosts gateway).map Inet4Address.hostAddress).Nodup := by
  rw [expandHosts, List.map_map]
  refine (List.nodup_range' (s := 1) (n := 254)).map_on fun m hm n hn h => ?_
  have htext := toDigits_injective (List.cons.inj (List.append_cancel_left
    (String.ofList_injective h))).2
  have hm := List.mem_range'_1.1 hm
  have hn := List.mem_range'_1.1 hn
  simp only [UInt8.toNat_ofNat'] at htext
  omega

/-- The hosts that the scan asks. -/
def scannedHosts (net : PhoneNetwork) : List Inet4Address :=
  if Scanned net then (gatewayAddress net).elim [] expandHosts else []

/-- **The scan returns the servers among the hosts that it asks, in the order of their addresses
and each once**, and it asks no host of a network whose mask is known, whatever the size of the
network; at most `parallelProbes` requests are under way at a time. -/
theorem scan_eq (net : PhoneNetwork) (getStatus : String → Option StatusReply) (apiPort : Int32)
    {parallelProbes : ℕ} (hpos : 0 < parallelProbes) :
    scan net getStatus apiPort parallelProbes =
        (scannedHosts net).filterMap (fun ip => probe getStatus apiPort ip.hostAddress) ∧
      ((scan net getStatus apiPort parallelProbes).map ServerEndpoint.host).Nodup ∧
      (∀ batch ∈ Kotlin.chunked parallelProbes (scannedHosts net), batch.length ≤ parallelProbes) ∧
      ∀ p, 0 < p → p ≤ 32 → net.netmask = some (swapBytes (prefixMask p)) ∨
        p ≠ 8 ∧ net.netmask = some (prefixMask p) → scannedHosts net = [] := by
  have hscan : scan net getStatus apiPort parallelProbes =
      (scannedHosts net).filterMap (fun ip => probe getStatus apiPort ip.hostAddress) := by
    rw [scan, scannedHosts]
    cases hgateway : gatewayAddress net with
    | none => simp
    | some gateway =>
      by_cases hscanned : Scanned net
      · have hlength := scanned_iff.1 hscanned
        simp only [hlength, hscanned, Option.elim_some, ne_eq, not_true_eq_false, if_false, if_true]
        rw [List.flatMap_def, ← List.map_flatten, Kotlin.flatten_chunked, reduceOption_map]
      · have hlength := mt scanned_iff.2 hscanned
        simp [hlength, hscanned]
  refine ⟨hscan, ?_, fun batch => Kotlin.length_le_of_mem_chunked hpos, fun p hp hle hmask => ?_⟩
  · rw [hscan]
    refine List.Nodup.sublist (sublist_map_filterMap fun ip e he => host_of_probe he) ?_
    rw [scannedHosts]
    split
    · cases gatewayAddress net with
      | none => exact List.nodup_nil
      | some gateway => exact nodup_hostAddress gateway
    · exact List.nodup_nil
  · rw [scannedHosts, if_neg (not_scanned_prefixMask hp hle hmask)]

/-- A phone in a Wi-Fi network at home. -/
def homeNetwork (netmask : Option (BitVec 32)) : PhoneNetwork :=
  ⟨[some ⟨192, 168, 1, 1⟩], none, netmask⟩

/-- A server at one address. -/
def homeStatus (host : String) : Option StatusReply :=
  if host = "192.168.1.20" then some ⟨"running", some 3240, "", ""⟩ else none

/-- The server is not found where the mask is known to be that of 256 addresses, and is found where
it is not known. -/
theorem scan_home :
    scan (homeNetwork (some (swapBytes (prefixMask 24)))) homeStatus 3241 64 = [] ∧
      "192.168.1.20" ∈ (scan (homeNetwork none) homeStatus 3241 64).map ServerEndpoint.host := by
  have hpos : 0 < 64 := by decide
  obtain ⟨hscan, -, -, hknown⟩ :=
    scan_eq (homeNetwork (some (swapBytes (prefixMask 24)))) homeStatus 3241 hpos
  obtain ⟨hscan', -⟩ := scan_eq (homeNetwork none) homeStatus 3241 hpos
  have hgateway : gatewayAddress (homeNetwork none) = some ⟨192, 168, 1, 1⟩ := rfl
  have hunknown : Scanned (homeNetwork none) := trivial
  have hprobe : ∃ e, probe homeStatus 3241 (Inet4Address.hostAddress ⟨192, 168, 1, 20⟩) = some e ∧
      e.host = "192.168.1.20" := ⟨_, rfl, rfl⟩
  constructor
  · rw [hscan, hknown 24 (by decide) (by decide) (.inl rfl), List.filterMap_nil]
  · obtain ⟨e, he, hhost⟩ := hprobe
    rw [hscan', scannedHosts, if_pos hunknown, hgateway, Option.elim_some]
    refine List.mem_map.2 ⟨e, List.mem_filterMap.2 ⟨⟨192, 168, 1, 20⟩, ?_, he⟩, hhost⟩
    exact List.mem_map.2 ⟨20, by simp, rfl⟩

end Android

end AnyPlug
