import AnyPlug.Core.DescriptorTree

/-!
# The round trip of the descriptor tree

`UsbDeviceInfo::serialize_descriptor_tree`, and the parser on what it writes. The parser finds every
boundary again from the type bytes, the endpoint counts and the total lengths. One lemma for each
loop says how far the parser gets on the bytes of that level, with the rest of the input arbitrary
where the level allows it.
-/

namespace AnyPlug

/-! ## Serialization -/

def InterfaceInfo.toBytes (i : InterfaceInfo) : Bytes :=
  i.interface.toBytes ++ (i.hid.map HidDescriptor.toBytes).getD [] ++
    i.endpoints.flatMap EndpointDescriptor.toBytes

def ConfigInfo.toBytes (c : ConfigInfo) : Bytes :=
  c.config.toBytes ++ c.interfaces.flatMap InterfaceInfo.toBytes

/-- Serialize back to the raw descriptor tree wire form. -/
def UsbDeviceInfo.serializeDescriptorTree (info : UsbDeviceInfo) : Bytes :=
  info.device.toBytes ++ info.configs.flatMap ConfigInfo.toBytes

/-- The descriptors of an interface have their type bytes, and the endpoints are counted. -/
structure InterfaceInfo.WellFormed (i : InterfaceInfo) : Prop where
  interface : i.interface.bDescriptorType = 0x04
  endpoints : ∀ e ∈ i.endpoints, e.bDescriptorType = 0x05
  hid : ∀ h ∈ i.hid, h.bDescriptorType = 0x21
  count : i.endpoints.length = i.interface.bNumEndpoints.toNat
  count_le : i.endpoints.length ≤ 254

/-- The total length of a configuration is the size of its block. -/
structure ConfigInfo.WellFormed (c : ConfigInfo) : Prop where
  config : c.config.bDescriptorType = 0x02
  total : c.config.wTotalLength.toNat = c.toBytes.length
  interfaces : ∀ i ∈ c.interfaces, i.WellFormed

def UsbDeviceInfo.WellFormed (info : UsbDeviceInfo) : Prop := ∀ c ∈ info.configs, c.WellFormed

namespace Parser

variable (checks : Bool) {raw rest : Bytes}

theorem drop_add_length {d : Bytes} {i : ℕ} (h : raw.drop i = d ++ rest) :
    raw.drop (i + d.length) = rest := by
  rw [← List.drop_drop, h, List.drop_left]

/-! ## What follows an interface descriptor -/

theorem reachable_endpoints {block : Block} (iface : LocatedInterface) {i : ℕ} (left : ℕ)
    {eps : List EndpointDescriptor} (htypes : ∀ e ∈ eps, e.bDescriptorType = 0x05)
    (h : raw.drop i = eps.flatMap EndpointDescriptor.toBytes ++ rest)
    (hend : i + (eps.flatMap EndpointDescriptor.toBytes).length ≤ block.configEnd) :
    ∃ located : List (Located EndpointDescriptor), located.map Located.value = eps ∧
      Reachable (step checks raw) (.subs block iface (eps.length + left) i)
        (.subs block { iface with endpoints := iface.endpoints ++ located } left
          (i + (eps.flatMap EndpointDescriptor.toBytes).length)) := by
  induction eps generalizing i iface with
  | nil =>
    refine ⟨[], rfl, ?_⟩
    rw [List.length_nil, Nat.zero_add, List.append_nil]
    exact .refl _
  | cons e eps ih =>
    rw [List.flatMap_cons, List.append_assoc] at h
    rw [List.flatMap_cons, List.length_append, EndpointDescriptor.length_toBytes] at hend
    have hparse : EndpointDescriptor.parse (raw.drop i) = some e := by
      rw [h]
      exact EndpointDescriptor.parse_toBytes_append (htypes e List.mem_cons_self) _
    have hstep : step checks raw (.subs block iface ((eps.length + left) + 1) i) () =
        some (.subs block { iface with endpoints := iface.endpoints ++ [⟨i, e⟩] }
          (eps.length + left) (i + EndpointDescriptor.size)) := by
      refine congrArg some (subsStep_endpoint iface (eps.length + left) ?_ hparse)
      rw [EndpointDescriptor.size] at hend
      omega
    obtain ⟨located, hvalue, hreach⟩ := ih { iface with endpoints := iface.endpoints ++ [⟨i, e⟩] }
      (fun e he => htypes e (List.mem_cons_of_mem _ he)) (drop_add_length h)
      (by rw [EndpointDescriptor.length_toBytes]; omega)
    refine ⟨⟨i, e⟩ :: located, by rw [List.map_cons, hvalue], ?_⟩
    rw [List.length_cons, Nat.add_right_comm, List.flatMap_cons, List.length_append,
      ← Nat.add_assoc]
    rw [List.append_assoc, List.singleton_append] at hreach
    exact .head hstep hreach

/-- Where an interface ends: its iterations are used up, the block ends, or the next interface
begins. -/
theorem subsStep_end {block : Block} {iface : LocatedInterface} {left i : ℕ}
    (h : left = 0 ∨ block.configEnd = i ∨ ∃ b0 rest, raw.drop i = b0 :: 0x04 :: rest) :
    subsStep raw block iface left i = block.push iface i := by
  obtain rfl | hend | ⟨b0, rest, hdrop⟩ := h
  · rfl
  · cases left with
    | zero => rfl
    | succ left => rw [subsStep, if_pos (by omega)]
  · exact subsStep_other iface left hdrop (by decide) (by decide)

/-- The HID descriptor of an interface and its endpoints. -/
def subBytes (hid : Option HidDescriptor) (eps : List EndpointDescriptor) : Bytes :=
  (hid.map HidDescriptor.toBytes).getD [] ++ eps.flatMap EndpointDescriptor.toBytes

theorem reachable_subs {block : Block} {i : ℕ} (d : Located InterfaceDescriptor)
    {hid : Option HidDescriptor} {eps : List EndpointDescriptor}
    (hhid : ∀ h ∈ hid, h.bDescriptorType = 0x21) (heps : ∀ e ∈ eps, e.bDescriptorType = 0x05)
    (h : raw.drop i = subBytes hid eps ++ rest)
    (hend : i + (subBytes hid eps).length ≤ block.configEnd) :
    ∃ (located : LocatedInterface) (left : ℕ), located.erase = ⟨d.value, eps, hid⟩ ∧
      Reachable (step checks raw) (.subs block ⟨d, [], none⟩ (eps.length + 1) i)
        (.subs block located left (i + (subBytes hid eps).length)) := by
  cases hid with
  | none =>
    -- one iteration is left, for the HID descriptor that is not there
    obtain ⟨located, hvalue, hreach⟩ := reachable_endpoints checks ⟨d, [], none⟩ 1 heps h hend
    exact ⟨⟨d, located, none⟩, 1, by rw [LocatedInterface.erase, hvalue]; rfl, hreach⟩
  | some hd =>
    rw [subBytes, Option.map_some, Option.getD_some, List.length_append,
      HidDescriptor.length_toBytes, ← Nat.add_assoc] at hend ⊢
    rw [subBytes, Option.map_some, Option.getD_some, List.append_assoc] at h
    have hparse : HidDescriptor.parse (raw.drop i) = some hd := by
      rw [h]
      exact HidDescriptor.parse_toBytes_append (hhid hd rfl) _
    have hstep : step checks raw (.subs block ⟨d, [], none⟩ (eps.length + 1) i) () =
        some (.subs block ⟨d, [], some ⟨i, hd⟩⟩ eps.length (i + HidDescriptor.size)) := by
      refine congrArg some (subsStep_hid ⟨d, [], none⟩ eps.length ?_ hparse)
      rw [HidDescriptor.size] at hend
      omega
    obtain ⟨located, hvalue, hreach⟩ :=
      reachable_endpoints checks ⟨d, [], some ⟨i, hd⟩⟩ 0 heps (drop_add_length h) hend
    refine ⟨⟨d, located, some ⟨i, hd⟩⟩, 0, by rw [LocatedInterface.erase, hvalue]; rfl, ?_⟩
    exact .head hstep hreach

/-- **An interface is found again.** -/
theorem reachable_interface (block : Block) {i : ℕ} {info : InterfaceInfo} (hinfo : info.WellFormed)
    (h : raw.drop i = info.toBytes ++ rest) (hend : i + info.toBytes.length ≤ block.configEnd) :
    ∃ (located : LocatedInterface) (left : ℕ), located.erase = info ∧
      Reachable (step checks raw) (.inner block i)
        (.subs block located left (i + info.toBytes.length)) := by
  have hbytes : info.toBytes = info.interface.toBytes ++ subBytes info.hid info.endpoints :=
    List.append_assoc _ _ _
  rw [hbytes, List.length_append, InterfaceDescriptor.length_toBytes, ← Nat.add_assoc] at hend ⊢
  rw [hbytes, List.append_assoc] at h
  have hcount : (info.interface.bNumEndpoints + 1).toNat = info.endpoints.length + 1 := by
    have hle := hinfo.count_le
    rw [UInt8.toNat_add, ← hinfo.count]
    exact Nat.mod_eq_of_lt (Nat.lt_of_le_of_lt (Nat.add_le_add_right hle 1) (by decide))
  have hne : info.interface.bNumEndpoints ≠ 255 := by
    intro h255
    have hle := hinfo.count_le
    rw [hinfo.count, h255] at hle
    exact absurd hle (by decide)
  have hstep : step checks raw (.inner block i) () =
      some (.subs block ⟨⟨i, info.interface⟩, [], none⟩ (info.endpoints.length + 1)
        (i + InterfaceDescriptor.size)) := by
    rw [← hcount]
    refine congrArg some (innerStep_interface checks (by omega) ?_ hne)
    rw [h]
    exact InterfaceDescriptor.parse_toBytes_append hinfo.interface _
  obtain ⟨located, left, herase, hreach⟩ := reachable_subs checks ⟨i, info.interface⟩ hinfo.hid
    hinfo.endpoints (drop_add_length h) hend
  exact ⟨located, left, herase, .head hstep hreach⟩

/-! ## The loops over a block and over the input -/

/-- The bytes of an interface begin with its descriptor. -/
theorem toBytes_interface {info : InterfaceInfo} (hinfo : info.WellFormed) (rest : Bytes) :
    ∃ b0 rest', info.toBytes ++ rest = b0 :: 0x04 :: rest' := by
  rw [← hinfo.interface]
  exact ⟨_, _, rfl⟩

theorem length_toBytes_pos (info : InterfaceInfo) : 0 < info.toBytes.length := by
  rw [InterfaceInfo.toBytes, List.length_append, List.length_append,
    InterfaceDescriptor.length_toBytes, InterfaceDescriptor.size]
  omega

/-- An interface is listed when the block ends behind it or another one follows. -/
theorem subsStep_between {block : Block} {iface : LocatedInterface} {left i : ℕ}
    {infos : List InterfaceInfo} (hinfos : ∀ info ∈ infos, info.WellFormed)
    (h : raw.drop i = infos.flatMap InterfaceInfo.toBytes ++ rest)
    (hlast : infos = [] → left = 0 ∨ block.configEnd = i) :
    subsStep raw block iface left i = block.push iface i := by
  apply subsStep_end
  cases infos with
  | nil => exact (hlast rfl).imp_right .inl
  | cons next infos =>
    rw [h, List.flatMap_cons, List.append_assoc]
    exact .inr (.inr (toBytes_interface (hinfos next List.mem_cons_self) _))

theorem reachable_interfaces (block : Block) {i : ℕ} {infos : List InterfaceInfo}
    (hinfos : ∀ info ∈ infos, info.WellFormed)
    (h : raw.drop i = infos.flatMap InterfaceInfo.toBytes ++ rest)
    (hend : i + (infos.flatMap InterfaceInfo.toBytes).length = block.configEnd) :
    ∃ located : List LocatedInterface, located.map LocatedInterface.erase = infos ∧
      Reachable (step checks raw) (.inner block i)
        (.outer block.configEnd
          (block.configs ++ [⟨block.config, block.interfaces ++ located⟩])) := by
  induction infos generalizing block i with
  | nil =>
    refine ⟨[], rfl, .head (a := ()) ?_ (.refl _)⟩
    rw [List.flatMap_nil, List.length_nil, Nat.add_zero] at hend
    rw [List.append_nil]
    refine congrArg some ?_
    rw [innerStep, if_neg (by simp only [InterfaceDescriptor.size]; omega)]
    rfl
  | cons info infos ih =>
    obtain ⟨hinfo, hinfos⟩ := List.forall_mem_cons.1 hinfos
    rw [List.flatMap_cons, List.append_assoc] at h
    rw [List.flatMap_cons, List.length_append, ← Nat.add_assoc] at hend
    obtain ⟨located, left, herase, hreach⟩ := reachable_interface checks block hinfo h (by omega)
    have hlast : infos = [] → left = 0 ∨ block.configEnd = i + info.toBytes.length := by
      rintro rfl
      exact .inr hend.symm
    have hpush : step checks raw (.subs block located left (i + info.toBytes.length)) () =
        some (block.push located (i + info.toBytes.length)) :=
      congrArg some (subsStep_between hinfos (drop_add_length h) hlast)
    have hreach := hreach.tail hpush
    rw [Block.push] at hreach
    dsimp only at hreach
    split at hreach
    · next hle =>
      -- the last interface
      obtain rfl : infos = [] := by
        cases infos with
        | nil => rfl
        | cons next infos =>
          have hpos := length_toBytes_pos next
          rw [List.flatMap_cons, List.length_append] at hend
          omega
      refine ⟨[located], by rw [List.map_singleton, herase], hreach⟩
    · next hlt =>
      obtain ⟨others, hothers, hrest⟩ :=
        ih { block with interfaces := block.interfaces ++ [located] } hinfos (drop_add_length h)
          hend
      refine ⟨located :: others, by rw [List.map_cons, herase, hothers], hreach.trans ?_⟩
      rw [List.append_assoc, List.singleton_append] at hrest
      exact hrest

/-- Into the block of a configuration. -/
theorem step_config {offset : ℕ} (configs : List LocatedConfig) {info : ConfigInfo}
    (hinfo : info.config.bDescriptorType = 0x02) (h : raw.drop offset = info.toBytes ++ rest) :
    step checks raw (.outer offset configs) () =
      some (.inner ⟨configs, ⟨offset, info.config⟩,
        offset + min info.config.wTotalLength.toNat raw.length, []⟩
        (offset + info.config.toBytes.length)) := by
  refine congrArg some (outerStep_config configs ?_)
  rw [h, ConfigInfo.toBytes, List.append_assoc]
  exact ConfigDescriptor.parse_toBytes_append hinfo _

theorem reachable_configs {offset : ℕ} (configs : List LocatedConfig) {infos : List ConfigInfo}
    (hinfos : ∀ info ∈ infos, info.WellFormed)
    (h : raw.drop offset = infos.flatMap ConfigInfo.toBytes ++ rest) :
    ∃ located : List LocatedConfig, located.map LocatedConfig.erase = infos ∧
      Reachable (step checks raw) (.outer offset configs)
        (.outer (offset + (infos.flatMap ConfigInfo.toBytes).length) (configs ++ located)) := by
  induction infos generalizing offset configs with
  | nil =>
    refine ⟨[], rfl, ?_⟩
    rw [List.append_nil]
    exact .refl _
  | cons info infos ih =>
    obtain ⟨hinfo, hinfos⟩ := List.forall_mem_cons.1 hinfos
    rw [List.flatMap_cons, List.append_assoc] at h
    have hle : info.toBytes.length ≤ raw.length := by
      have hlen := congrArg List.length h
      rw [List.length_drop, List.length_append] at hlen
      omega
    have hstep := step_config checks configs hinfo.config h
    rw [hinfo.total, Nat.min_eq_left hle] at hstep
    have hend : offset + info.config.toBytes.length +
        (info.interfaces.flatMap InterfaceInfo.toBytes).length = offset + info.toBytes.length := by
      rw [ConfigInfo.toBytes, List.length_append, Nat.add_assoc]
    have hinterfaces : raw.drop (offset + info.config.toBytes.length) =
        info.interfaces.flatMap InterfaceInfo.toBytes ++
          (infos.flatMap ConfigInfo.toBytes ++ rest) := by
      refine drop_add_length ?_
      rw [h, ConfigInfo.toBytes, List.append_assoc]
    obtain ⟨located, herase, hreach⟩ := reachable_interfaces checks
      ⟨configs, ⟨offset, info.config⟩, offset + info.toBytes.length, []⟩ hinfo.interfaces
      hinterfaces hend
    obtain ⟨others, hothers, hrest⟩ :=
      ih (configs ++ [⟨⟨offset, info.config⟩, located⟩]) hinfos (drop_add_length h)
    refine ⟨⟨⟨offset, info.config⟩, located⟩ :: others, ?_, .head hstep (hreach.trans ?_)⟩
    · rw [List.map_cons, hothers, LocatedConfig.erase, herase]
    · rw [List.append_assoc, List.singleton_append] at hrest
      rw [List.flatMap_cons, List.length_append, ← Nat.add_assoc]
      exact hrest

/-! ## A block that announces more than there is -/

/-- At the end of the input the parser looks for another interface. -/
theorem reachable_overlong (block : Block) {i : ℕ} {infos : List InterfaceInfo}
    (hinfos : ∀ info ∈ infos, info.WellFormed)
    (h : raw.drop i = infos.flatMap InterfaceInfo.toBytes) (hle : i ≤ raw.length)
    (hend : i + (infos.flatMap InterfaceInfo.toBytes).length + InterfaceDescriptor.size ≤
      block.configEnd) :
    ∃ t, (t = .returned none ∨ t = .panicked) ∧
      Reachable (step checks raw) (.inner block i) t := by
  induction infos generalizing block i with
  | nil =>
    refine ⟨.returned none, .inl rfl, .head (a := ()) (congrArg some ?_) (.refl _)⟩
    have hslice : sliceFrom raw i = some [] := by
      rw [sliceFrom, if_pos hle, h, List.flatMap_nil]
    rw [List.flatMap_nil, List.length_nil, Nat.add_zero] at hend
    rw [innerStep, if_pos hend]
    simp only [hslice, InterfaceDescriptor.parse]
  | cons info infos ih =>
    obtain ⟨hinfo, hinfos⟩ := List.forall_mem_cons.1 hinfos
    rw [List.flatMap_cons] at h
    rw [List.flatMap_cons, List.length_append, ← Nat.add_assoc] at hend
    obtain ⟨located, left, -, hreach⟩ := reachable_interface checks block hinfo h (by omega)
    have hlen := congrArg List.length (drop_add_length h)
    rw [List.length_drop] at hlen
    have hpos : 0 < InterfaceDescriptor.size := Nat.succ_pos 8
    by_cases hnext : left = 0 ∨ infos ≠ []
    · have hrest : raw.drop (i + info.toBytes.length) =
          infos.flatMap InterfaceInfo.toBytes ++ [] := by
        rw [drop_add_length h, List.append_nil]
      have hpush : subsStep raw block located left (i + info.toBytes.length) =
          .inner { block with interfaces := block.interfaces ++ [located] }
            (i + info.toBytes.length) := by
        rw [subsStep_between hinfos hrest fun hnil => .inl (hnext.resolve_right (· hnil))]
        exact if_neg (by dsimp only; omega)
      obtain ⟨t, ht, hrest⟩ := ih { block with interfaces := block.interfaces ++ [located] } hinfos
        (drop_add_length h) (add_length_le_of_drop h (length_toBytes_pos info)) hend
      exact ⟨t, ht, hreach.trans (.head (a := ()) (congrArg some hpush) hrest)⟩
    · -- the iteration for the HID descriptor reads behind the input
      push Not at hnext
      obtain ⟨hleft, rfl⟩ := hnext
      obtain ⟨left, rfl⟩ := Nat.exists_eq_succ_of_ne_zero hleft
      have hnone : raw[i + info.toBytes.length + 1]? = none := by
        refine List.getElem?_eq_none ?_
        rw [List.flatMap_nil, List.length_nil] at hlen
        omega
      have hsize : InterfaceDescriptor.size = 9 := rfl
      refine ⟨.panicked, .inr rfl, hreach.tail (a := ()) (congrArg some ?_)⟩
      rw [subsStep, if_neg (by omega), hnone]

end Parser

/-- **The descriptor tree round trip.** -/
theorem parsesTo_serializeDescriptorTree (checks : Bool) {info : UsbDeviceInfo}
    (hinfo : info.WellFormed) (result : Option UsbDeviceInfo) :
    ParsesTo checks info.serializeDescriptorTree result ↔ result = some info := by
  have hdevice : DeviceDescriptor.parse info.serializeDescriptorTree = some info.device :=
    DeviceDescriptor.parse_toBytes_append _ _
  have hdrop : info.serializeDescriptorTree.drop DeviceDescriptor.size =
      info.configs.flatMap ConfigInfo.toBytes ++ [] := by
    rw [UsbDeviceInfo.serializeDescriptorTree, ← info.device.length_toBytes, List.drop_left,
      List.append_nil]
  obtain ⟨located, herase, hreach⟩ := Parser.reachable_configs checks [] hinfo hdrop
  have hend : Parser.step checks info.serializeDescriptorTree
      (.outer (DeviceDescriptor.size + (info.configs.flatMap ConfigInfo.toBytes).length) located)
        () = some (.returned (some located)) := by
    refine congrArg some (if_neg (Nat.not_lt_of_le ?_))
    rw [UsbDeviceInfo.serializeDescriptorTree, List.length_append, info.device.length_toBytes]
  have hparses : ParsesTo checks info.serializeDescriptorTree (some info) := by
    refine ⟨some located, ?_, ?_⟩
    · rw [Parser.start, hdevice]
      exact hreach.tail hend
    · rw [Option.bind_some, Parser.info, hdevice, Option.map_some, herase]
  constructor
  · intro h
    exact h.unique hparses
  · rintro rfl
    exact hparses

/-- A tree whose last block announces room for another interface is not parsed. -/
theorem not_parsesTo_overlong (checks : Bool) {device : DeviceDescriptor} {infos : List ConfigInfo}
    {last : ConfigInfo} (hinfos : ∀ info ∈ infos, info.WellFormed)
    (hconfig : last.config.bDescriptorType = 0x02)
    (hinterfaces : ∀ info ∈ last.interfaces, info.WellFormed)
    (htotal : last.toBytes.length + InterfaceDescriptor.size ≤ last.config.wTotalLength.toNat)
    (tree : UsbDeviceInfo) :
    ¬ParsesTo checks (UsbDeviceInfo.mk device (infos ++ [last])).serializeDescriptorTree
      (some tree) := by
  rintro ⟨configs, hreturned, htree⟩
  have hbytes : (UsbDeviceInfo.mk device (infos ++ [last])).serializeDescriptorTree =
      device.toBytes ++ (infos.flatMap ConfigInfo.toBytes ++ (last.toBytes ++ [])) := by
    rw [UsbDeviceInfo.serializeDescriptorTree, List.flatMap_append, List.flatMap_singleton,
      List.append_nil]
  generalize (UsbDeviceInfo.mk device (infos ++ [last])).serializeDescriptorTree = raw at *
  have hdevice : raw.drop DeviceDescriptor.size =
      infos.flatMap ConfigInfo.toBytes ++ (last.toBytes ++ []) := by
    rw [hbytes, ← device.length_toBytes, List.drop_left]
  obtain ⟨located, -, hreach⟩ := Parser.reachable_configs checks [] hinfos hdevice
  have hlast := Parser.drop_add_length hdevice
  have hstart : Parser.start raw = .outer DeviceDescriptor.size [] := by
    rw [Parser.start, hbytes, DeviceDescriptor.parse_toBytes_append]
  have hstep := Parser.step_config checks located hconfig hlast
  have hblock : raw.drop (DeviceDescriptor.size + (infos.flatMap ConfigInfo.toBytes).length +
      last.config.toBytes.length) = last.interfaces.flatMap InterfaceInfo.toBytes := by
    refine Parser.drop_add_length ?_
    rw [hlast, ConfigInfo.toBytes, List.append_nil]
  have hlen : raw.length = DeviceDescriptor.size + ((infos.flatMap ConfigInfo.toBytes).length +
      last.toBytes.length) := by
    rw [hbytes, List.length_append, List.length_append, List.append_nil, device.length_toBytes]
  have hconfigLen : last.toBytes.length = last.config.toBytes.length +
      (last.interfaces.flatMap InterfaceInfo.toBytes).length := List.length_append
  have hroom : DeviceDescriptor.size = InterfaceDescriptor.size + 9 := rfl
  obtain ⟨t, ht, hover⟩ := Parser.reachable_overlong checks
    ⟨located, ⟨_, last.config⟩, DeviceDescriptor.size + (infos.flatMap ConfigInfo.toBytes).length +
      min last.config.wTotalLength.toNat raw.length, []⟩ hinterfaces hblock (by omega)
    (by dsimp only; omega)
  -- the run that gets there is the run that returns
  have hall : Reachable (Parser.step checks raw) (Parser.start raw) t := by
    rw [hstart]
    exact hreach.trans (.head hstep hover)
  obtain rfl | rfl := ht
  · cases hall.halted_unique hreturned (fun _ => rfl) (fun _ => rfl)
    cases htree
  · cases hall.halted_unique hreturned (fun _ => rfl) (fun _ => rfl)

/-- The keyboard of `tests/fixtures/hid_keyboard`. -/
def keyboard : UsbDeviceInfo :=
  ⟨⟨18, 1, 0x0210, 0, 0, 0, 64, 0x1d6b, 0x0104, 0x0001, 0, 0, 0, 1⟩,
    [⟨⟨9, 2, 34, 1, 1, 0, 0x80, 50⟩,
      [⟨⟨9, 4, 0, 0, 1, 3, 1, 1, 0⟩, [⟨7, 5, 0x81, 3, 8, 10⟩],
        some ⟨9, 0x21, 0x0111, 0, 1, 0x22, 64⟩⟩]⟩]⟩

theorem parsesTo_keyboard :
    keyboard.WellFormed ∧ ∀ result,
      ParsesTo true keyboard.serializeDescriptorTree result ↔ result = some keyboard := by
  have hkeyboard : keyboard.WellFormed := by
    refine List.forall_mem_singleton.2 ⟨rfl, rfl, List.forall_mem_singleton.2 ?_⟩
    refine ⟨rfl, List.forall_mem_singleton.2 rfl, ?_, rfl, by decide⟩
    rintro h ⟨⟩
    rfl
  exact ⟨hkeyboard, parsesTo_serializeDescriptorTree true hkeyboard⟩

end AnyPlug
