import AnyPlug.Core.Descriptor
import AnyPlug.Foundations.Transition

/-!
# The descriptor tree parser

`UsbDeviceInfo::parse_descriptor_tree` of `usbip-core/src/descriptor.rs`. The bytes come from the
peer. Three loops are nested: over the input, over a configuration block, over what follows an
interface descriptor. The parser is embedded as a machine whose states are the heads of these loops.
A step is one iteration, and every index and every slice of it is checked: a state `panicked` stands
for the panic of the source. The descriptors that were decoded carry the offset they were decoded
at. The source does not have the offsets, and what it returns forgets them (`info`).

The parser need not halt (`parser_terminates_iff`) and it can panic. `parser_safe_iff` says for
which inputs it returns, with a tree or without one.
-/

namespace AnyPlug

/-! ## The tree -/

structure InterfaceInfo where
  interface : InterfaceDescriptor
  endpoints : List EndpointDescriptor
  hid : Option HidDescriptor
  deriving DecidableEq

structure ConfigInfo where
  config : ConfigDescriptor
  interfaces : List InterfaceInfo
  deriving DecidableEq

/-- A fully-parsed USB device with all its descriptors. -/
structure UsbDeviceInfo where
  device : DeviceDescriptor
  configs : List ConfigInfo
  deriving DecidableEq

/-- A descriptor and the offset it was decoded at. -/
structure Located (α : Type) where
  offset : ℕ
  value : α
  deriving DecidableEq

structure LocatedInterface where
  interface : Located InterfaceDescriptor
  endpoints : List (Located EndpointDescriptor)
  hid : Option (Located HidDescriptor)
  deriving DecidableEq

structure LocatedConfig where
  config : Located ConfigDescriptor
  interfaces : List LocatedInterface
  deriving DecidableEq

def LocatedInterface.erase (i : LocatedInterface) : InterfaceInfo :=
  ⟨i.interface.value, i.endpoints.map Located.value, i.hid.map Located.value⟩

def LocatedConfig.erase (c : LocatedConfig) : ConfigInfo :=
  ⟨c.config.value, c.interfaces.map LocatedInterface.erase⟩

namespace Parser

/-! ## The machine -/

/-- The configuration block that the parser is in: the configurations before it, its descriptor,
`config_end`, and the interfaces that were found in it. -/
structure Block where
  configs : List LocatedConfig
  config : Located ConfigDescriptor
  configEnd : ℕ
  interfaces : List LocatedInterface
  deriving DecidableEq

inductive State
  /-- At the head of the outer loop. -/
  | outer (offset : ℕ) (configs : List LocatedConfig)
  /-- At the head of the loop over a configuration block. -/
  | inner (block : Block) (innerOffset : ℕ)
  /-- At the head of the loop over what follows an interface descriptor, with `left` iterations to
  go. -/
  | subs (block : Block) (iface : LocatedInterface) (left innerOffset : ℕ)
  | returned (tree : Option (List LocatedConfig))
  | panicked
  deriving DecidableEq

/-- The slice `&raw[i..]`, or `none` where it is out of range. -/
def sliceFrom (raw : Bytes) (i : ℕ) : Option Bytes :=
  if i ≤ raw.length then some (raw.drop i) else none

/-- `b_num_endpoints + 1`, in `u8`. The build decides whether an overflow panics or wraps. -/
def subIterations (checks : Bool) (bNumEndpoints : UInt8) : Option ℕ :=
  if checks ∧ bNumEndpoints = 255 then none else some (bNumEndpoints + 1).toNat

/-- Push the configuration and go on at `config_end`. -/
def Block.close (block : Block) : State :=
  .outer block.configEnd (block.configs ++ [⟨block.config, block.interfaces⟩])

/-- Push the interface, and leave the block at its end. -/
def Block.push (block : Block) (iface : LocatedInterface) (innerOffset : ℕ) : State :=
  let block := { block with interfaces := block.interfaces ++ [iface] }
  if block.configEnd ≤ innerOffset then block.close else .inner block innerOffset

/-- An iteration of the outer loop, up to the head of the loop over the block. -/
def outerStep (raw : Bytes) (offset : ℕ) (configs : List LocatedConfig) : State :=
  if offset < raw.length then
    match raw[offset]?, raw[offset + 1]? with
    | some descLen, some descType =>
      if descType = 0x02 then
        match sliceFrom raw offset with
        | none => .panicked
        | some rest =>
          match ConfigDescriptor.parse rest with
          | none => .returned none
          | some config =>
            let configEnd := offset + min config.wTotalLength.toNat raw.length
            .inner ⟨configs, ⟨offset, config⟩, configEnd, []⟩ (offset + ConfigDescriptor.size)
      else if descLen = 0 ∨ raw.length < offset + descLen.toNat then .returned (some configs)
      else .outer (offset + descLen.toNat) configs
    | _, _ => .panicked
  else .returned (some configs)

def innerStep (checks : Bool) (raw : Bytes) (block : Block) (innerOffset : ℕ) : State :=
  if innerOffset + InterfaceDescriptor.size ≤ block.configEnd then
    match sliceFrom raw innerOffset with
    | none => .panicked
    | some rest =>
      match InterfaceDescriptor.parse rest with
      | none => .returned none
      | some iface =>
        match subIterations checks iface.bNumEndpoints with
        | none => .panicked
        | some left =>
          .subs block ⟨⟨innerOffset, iface⟩, [], none⟩ left
            (innerOffset + InterfaceDescriptor.size)
  else block.close

def subsStep (raw : Bytes) (block : Block) (iface : LocatedInterface) (left innerOffset : ℕ) :
    State :=
  match left with
  | 0 => block.push iface innerOffset
  | left + 1 =>
    if block.configEnd < innerOffset + 2 then block.push iface innerOffset
    else
      match raw[innerOffset + 1]? with
      | none => .panicked
      | some subType =>
        if subType = 0x05 then
          match sliceFrom raw innerOffset with
          | none => .panicked
          | some rest =>
            match EndpointDescriptor.parse rest with
            | some ep =>
              .subs block { iface with endpoints := iface.endpoints ++ [⟨innerOffset, ep⟩] } left
                (innerOffset + EndpointDescriptor.size)
            | none => block.push iface innerOffset
        else if subType = 0x21 then
          match sliceFrom raw innerOffset with
          | none => .panicked
          | some rest =>
            match HidDescriptor.parse rest with
            | some h =>
              .subs block { iface with hid := some ⟨innerOffset, h⟩ } left
                (innerOffset + HidDescriptor.size)
            | none => block.push iface innerOffset
        else block.push iface innerOffset

/-- One iteration of the loop whose head the parser is at. -/
def step (checks : Bool) (raw : Bytes) : State → Unit → Option State
  | .outer offset configs, _ => some (outerStep raw offset configs)
  | .inner block innerOffset, _ => some (innerStep checks raw block innerOffset)
  | .subs block iface left innerOffset, _ => some (subsStep raw block iface left innerOffset)
  | .returned _, _ => none
  | .panicked, _ => none

def start (raw : Bytes) : State :=
  match DeviceDescriptor.parse raw with
  | none => .returned none
  | some _ => .outer DeviceDescriptor.size []

/-- The device of a tree, with the offsets forgotten. -/
def info (raw : Bytes) (configs : List LocatedConfig) : Option UsbDeviceInfo :=
  (DeviceDescriptor.parse raw).map fun device => ⟨device, configs.map LocatedConfig.erase⟩

end Parser

/-- `UsbDeviceInfo::parse_descriptor_tree` returns `result`. -/
def ParsesTo (checks : Bool) (raw : Bytes) (result : Option UsbDeviceInfo) : Prop :=
  ∃ tree, Reachable (Parser.step checks raw) (Parser.start raw) (.returned tree) ∧
    tree.bind (Parser.info raw) = result

theorem ParsesTo.unique {checks : Bool} {raw : Bytes} {r r' : Option UsbDeviceInfo}
    (h : ParsesTo checks raw r) (h' : ParsesTo checks raw r') : r = r' := by
  obtain ⟨tree, htree, rfl⟩ := h
  obtain ⟨tree', htree', rfl⟩ := h'
  cases htree.halted_unique htree' (fun _ => rfl) (fun _ => rfl)
  rfl

namespace Parser

/-! ## One iteration -/

/-- What an iteration can do. -/
inductive Progress (checks : Bool) (raw : Bytes) : State → State → Prop
  | finish {offset configs} : Progress checks raw (.outer offset configs) (.returned (some configs))
  | reject {offset configs} : Progress checks raw (.outer offset configs) (.returned none)
  | cut {offset configs} (h : offset + 1 = raw.length) :
    Progress checks raw (.outer offset configs) .panicked
  | enter {offset configs config} (h : ConfigDescriptor.parse (raw.drop offset) = some config) :
    Progress checks raw (.outer offset configs)
      (.inner ⟨configs, ⟨offset, config⟩, offset + min config.wTotalLength.toNat raw.length, []⟩
        (offset + ConfigDescriptor.size))
  | skip {offset configs n} (hn : 0 < n) (h : offset + n ≤ raw.length) :
    Progress checks raw (.outer offset configs) (.outer (offset + n) configs)
  | close {block innerOffset} : Progress checks raw (.inner block innerOffset) block.close
  | rejectInner {block innerOffset} :
      Progress checks raw (.inner block innerOffset) (.returned none)
  | slice {block innerOffset} (h : raw.length < innerOffset) :
    Progress checks raw (.inner block innerOffset) .panicked
  | interface {block innerOffset iface left}
    (hend : innerOffset + InterfaceDescriptor.size ≤ block.configEnd)
    (h : InterfaceDescriptor.parse (raw.drop innerOffset) = some iface) :
    Progress checks raw (.inner block innerOffset)
      (.subs block ⟨⟨innerOffset, iface⟩, [], none⟩ left (innerOffset + InterfaceDescriptor.size))
  | overflow {block innerOffset iface}
    (hend : innerOffset + InterfaceDescriptor.size ≤ block.configEnd)
    (h : InterfaceDescriptor.parse (raw.drop innerOffset) = some iface)
    (hcount : iface.bNumEndpoints = 255) : Progress checks raw (.inner block innerOffset) .panicked
  | push {block iface left innerOffset} :
    Progress checks raw (.subs block iface left innerOffset) (block.push iface innerOffset)
  | endpoint {block iface left innerOffset ep} (hend : innerOffset + 2 ≤ block.configEnd)
    (h : EndpointDescriptor.parse (raw.drop innerOffset) = some ep) :
    Progress checks raw (.subs block iface (left + 1) innerOffset)
      (.subs block { iface with endpoints := iface.endpoints ++ [⟨innerOffset, ep⟩] } left
        (innerOffset + EndpointDescriptor.size))
  | hid {block iface left innerOffset d} (hend : innerOffset + 2 ≤ block.configEnd)
    (h : HidDescriptor.parse (raw.drop innerOffset) = some d) :
    Progress checks raw (.subs block iface (left + 1) innerOffset)
      (.subs block { iface with hid := some ⟨innerOffset, d⟩ } left
        (innerOffset + HidDescriptor.size))
  | cutSub {block iface left innerOffset} (hend : innerOffset + 2 ≤ block.configEnd)
    (h : raw.length < innerOffset + 2) :
    Progress checks raw (.subs block iface (left + 1) innerOffset) .panicked

theorem sliceFrom_eq_some {raw rest : Bytes} {i : ℕ} (h : sliceFrom raw i = some rest) :
    i ≤ raw.length ∧ rest = raw.drop i := by
  unfold sliceFrom at h
  split at h
  · next hle => exact ⟨hle, (Option.some.inj h).symm⟩
  · cases h

theorem lt_of_sliceFrom_eq_none {raw : Bytes} {i : ℕ} (h : sliceFrom raw i = none) :
    raw.length < i := by
  unfold sliceFrom at h
  split at h
  · cases h
  · next hlt => exact Nat.lt_of_not_le hlt

theorem progress_outerStep (checks : Bool) (raw : Bytes) (offset : ℕ)
    (configs : List LocatedConfig) :
    Progress checks raw (.outer offset configs) (outerStep raw offset configs) := by
  unfold outerStep
  split
  · next hlt =>
    split
    · next descLen descType hlen htype =>
      split
      · split
        · next h => exact absurd (lt_of_sliceFrom_eq_none h) (Nat.lt_asymm hlt)
        · next h =>
          obtain ⟨-, rfl⟩ := sliceFrom_eq_some h
          split
          · exact .reject
          · next hparse => exact .enter hparse
      · split
        · exact .finish
        · next h =>
          push Not at h
          have hpos : descLen.toNat ≠ 0 := fun h0 => h.1 (UInt8.toNat_inj.1 h0)
          exact .skip (Nat.pos_of_ne_zero hpos) h.2
    · next hnone =>
      have h : offset + 1 = raw.length := by
        by_contra hne
        refine hnone raw[offset] raw[offset + 1] ?_ ?_
        · exact List.getElem?_eq_getElem hlt
        · exact List.getElem?_eq_getElem (by omega)
      exact .cut h
  · exact .finish

theorem progress_innerStep (checks : Bool) (raw : Bytes) (block : Block) (innerOffset : ℕ) :
    Progress checks raw (.inner block innerOffset) (innerStep checks raw block innerOffset) := by
  unfold innerStep
  split
  · next hend =>
    split
    · next h => exact .slice (lt_of_sliceFrom_eq_none h)
    · next h =>
      obtain ⟨-, rfl⟩ := sliceFrom_eq_some h
      split
      · exact .rejectInner
      · next iface hparse =>
        split
        · next hnone =>
          refine .overflow hend hparse ?_
          unfold subIterations at hnone
          split at hnone
          · next hcount => exact hcount.2
          · cases hnone
        · exact .interface hend hparse
  · exact .close

theorem progress_subsStep (checks : Bool) (raw : Bytes) (block : Block) (iface : LocatedInterface)
    (left innerOffset : ℕ) :
    Progress checks raw (.subs block iface left innerOffset)
      (subsStep raw block iface left innerOffset) := by
  cases left with
  | zero => exact .push
  | succ left =>
    unfold subsStep
    dsimp only
    split
    · exact .push
    · next hend =>
      have hend : innerOffset + 2 ≤ block.configEnd := Nat.le_of_not_lt hend
      split
      · next hnone => exact .cutSub hend (Nat.lt_succ_of_le (List.getElem?_eq_none_iff.1 hnone))
      · next subType hsub =>
        have hlt : innerOffset + 1 < raw.length := (List.getElem?_eq_some_iff.1 hsub).1
        split
        · split
          · next h => exact absurd (lt_of_sliceFrom_eq_none h) (by omega)
          · next h =>
            obtain ⟨-, rfl⟩ := sliceFrom_eq_some h
            split
            · next hparse => exact .endpoint hend hparse
            · exact .push
        · split
          · split
            · next h => exact absurd (lt_of_sliceFrom_eq_none h) (by omega)
            · next h =>
              obtain ⟨-, rfl⟩ := sliceFrom_eq_some h
              split
              · next hparse => exact .hid hend hparse
              · exact .push
          · exact .push

/-- **Every iteration is one of these.** -/
theorem progress_of_step {checks : Bool} {raw : Bytes} {s t : State} {a : Unit}
    (h : step checks raw s a = some t) : Progress checks raw s t := by
  cases s with
  | outer offset configs => exact Option.some.inj h ▸ progress_outerStep checks raw offset configs
  | inner block i => exact Option.some.inj h ▸ progress_innerStep checks raw block i
  | subs block iface left i =>
    exact Option.some.inj h ▸ progress_subsStep checks raw block iface left i
  | returned tree => cases h
  | panicked => cases h

theorem add_length_le_of_drop {raw d rest : Bytes} {i : ℕ} (h : raw.drop i = d ++ rest)
    (hd : 0 < d.length) : i + d.length ≤ raw.length := by
  have hlen := congrArg List.length h
  rw [List.length_drop, List.length_append] at hlen
  omega

theorem config_le_of_parse {raw : Bytes} {i : ℕ} {d : ConfigDescriptor}
    (h : ConfigDescriptor.parse (raw.drop i) = some d) :
    i + ConfigDescriptor.size ≤ raw.length := by
  obtain ⟨-, rest, hrest⟩ := ConfigDescriptor.parse_eq_some_iff.1 h
  exact add_length_le_of_drop hrest (Nat.succ_pos 8)

theorem interface_le_of_parse {raw : Bytes} {i : ℕ} {d : InterfaceDescriptor}
    (h : InterfaceDescriptor.parse (raw.drop i) = some d) :
    i + InterfaceDescriptor.size ≤ raw.length := by
  obtain ⟨-, rest, hrest⟩ := InterfaceDescriptor.parse_eq_some_iff.1 h
  exact add_length_le_of_drop hrest (Nat.succ_pos 8)

theorem endpoint_le_of_parse {raw : Bytes} {i : ℕ} {d : EndpointDescriptor}
    (h : EndpointDescriptor.parse (raw.drop i) = some d) :
    i + EndpointDescriptor.size ≤ raw.length := by
  obtain ⟨-, rest, hrest⟩ := EndpointDescriptor.parse_eq_some_iff.1 h
  exact add_length_le_of_drop hrest (Nat.succ_pos 6)

theorem hid_le_of_parse {raw : Bytes} {i : ℕ} {d : HidDescriptor}
    (h : HidDescriptor.parse (raw.drop i) = some d) : i + HidDescriptor.size ≤ raw.length := by
  obtain ⟨-, rest, hrest⟩ := HidDescriptor.parse_eq_some_iff.1 h
  exact add_length_le_of_drop hrest (Nat.succ_pos 8)

/-- What is known of the input at a descriptor that a slice from `i` begins with. -/
theorem head_of_drop {raw rest : Bytes} {i : ℕ} {b0 b1 : UInt8}
    (h : raw.drop i = b0 :: b1 :: rest) :
    raw[i]? = some b0 ∧ raw[i + 1]? = some b1 ∧ sliceFrom raw i = some (raw.drop i) := by
  have hle : i ≤ raw.length := by
    by_contra hlt
    rw [List.drop_eq_nil_of_le (by omega)] at h
    cases h
  refine ⟨?_, ?_, if_pos hle⟩
  · rw [← List.head?_drop, h, List.head?_cons]
  · rw [← List.getElem?_drop, h]
    rfl

theorem outerStep_config {raw : Bytes} {offset : ℕ} {config : ConfigDescriptor}
    (configs : List LocatedConfig) (h : ConfigDescriptor.parse (raw.drop offset) = some config) :
    outerStep raw offset configs =
      .inner ⟨configs, ⟨offset, config⟩, offset + min config.wTotalLength.toNat raw.length, []⟩
        (offset + ConfigDescriptor.size) := by
  obtain ⟨htype, rest, hdrop⟩ := ConfigDescriptor.parse_eq_some_iff.1 h
  obtain ⟨h0, h1, hslice⟩ := head_of_drop hdrop
  rw [outerStep, if_pos (List.getElem?_eq_some_iff.1 h0).1, h0, h1]
  simp only [htype, if_true, hslice, h]

theorem innerStep_interface (checks : Bool) {raw : Bytes} {block : Block} {i : ℕ}
    {iface : InterfaceDescriptor} (hend : i + InterfaceDescriptor.size ≤ block.configEnd)
    (h : InterfaceDescriptor.parse (raw.drop i) = some iface) (hcount : iface.bNumEndpoints ≠ 255) :
    innerStep checks raw block i =
      .subs block ⟨⟨i, iface⟩, [], none⟩ (iface.bNumEndpoints + 1).toNat
        (i + InterfaceDescriptor.size) := by
  obtain ⟨-, rest, hdrop⟩ := InterfaceDescriptor.parse_eq_some_iff.1 h
  obtain ⟨-, -, hslice⟩ := head_of_drop hdrop
  have hsub : subIterations checks iface.bNumEndpoints = some (iface.bNumEndpoints + 1).toNat :=
    if_neg fun h => hcount h.2
  rw [innerStep, if_pos hend]
  simp only [hslice, h, hsub]

theorem subsStep_endpoint {raw : Bytes} {block : Block} {i : ℕ} {ep : EndpointDescriptor}
    (iface : LocatedInterface) (left : ℕ) (hend : i + 2 ≤ block.configEnd)
    (h : EndpointDescriptor.parse (raw.drop i) = some ep) :
    subsStep raw block iface (left + 1) i =
      .subs block { iface with endpoints := iface.endpoints ++ [⟨i, ep⟩] } left
        (i + EndpointDescriptor.size) := by
  obtain ⟨htype, rest, hdrop⟩ := EndpointDescriptor.parse_eq_some_iff.1 h
  obtain ⟨-, h1, hslice⟩ := head_of_drop hdrop
  rw [subsStep, if_neg (Nat.not_lt_of_le hend), h1]
  simp only [htype, if_true, hslice, h]

theorem subsStep_hid {raw : Bytes} {block : Block} {i : ℕ} {d : HidDescriptor}
    (iface : LocatedInterface) (left : ℕ) (hend : i + 2 ≤ block.configEnd)
    (h : HidDescriptor.parse (raw.drop i) = some d) :
    subsStep raw block iface (left + 1) i =
      .subs block { iface with hid := some ⟨i, d⟩ } left (i + HidDescriptor.size) := by
  obtain ⟨htype, rest, hdrop⟩ := HidDescriptor.parse_eq_some_iff.1 h
  obtain ⟨-, h1, hslice⟩ := head_of_drop hdrop
  have hne : ¬(0x21 : UInt8) = 0x05 := by decide
  rw [subsStep, if_neg (Nat.not_lt_of_le hend), h1]
  simp only [htype, hne, if_false, if_true, hslice, h]

/-- A descriptor of another type ends the interface. -/
theorem subsStep_other {raw rest : Bytes} {block : Block} {i : ℕ} {b0 b1 : UInt8}
    (iface : LocatedInterface) (left : ℕ) (h : raw.drop i = b0 :: b1 :: rest) (h5 : b1 ≠ 0x05)
    (h21 : b1 ≠ 0x21) : subsStep raw block iface left i = block.push iface i := by
  obtain ⟨-, h1, -⟩ := head_of_drop h
  cases left with
  | zero => rfl
  | succ left =>
    rw [subsStep]
    split
    · rfl
    · simp only [h1, h5, h21, if_false]

/-- Leaving an interface goes on in the block or after it. -/
theorem push_cases (block : Block) (iface : LocatedInterface) (i : ℕ) :
    block.push iface i =
        .outer block.configEnd (block.configs ++ [⟨block.config, block.interfaces ++ [iface]⟩]) ∨
      i < block.configEnd ∧
        block.push iface i = .inner { block with interfaces := block.interfaces ++ [iface] } i := by
  unfold Block.push
  dsimp only
  split
  · exact .inl rfl
  · next h => exact .inr ⟨Nat.lt_of_not_le h, rfl⟩

/-! ## Termination -/

/-- What the parser knows in a block whose total length is not zero. -/
def InBlock (raw : Bytes) : State → Prop
  | .inner block i | .subs block _ _ i =>
    i ≤ raw.length ∧ block.config.offset < raw.length ∧ block.config.offset < block.configEnd
  | _ => True

/-- How much is left: of the input, and of the block. -/
def rank (raw : Bytes) : State → ℕ ×ₗ ℕ
  | .outer offset _ => toLex (2 * (raw.length - offset) + 2, 0)
  | .inner block i => toLex (2 * (raw.length - block.config.offset) + 1, 2 * (raw.length - i) + 1)
  | .subs block _ _ i =>
    toLex (2 * (raw.length - block.config.offset) + 1, 2 * (raw.length - i) + 2)
  | _ => toLex (0, 0)

/-- No configuration descriptor that the outer loop comes to announces a total length of zero. -/
def NoEmptyBlock (checks : Bool) (raw : Bytes) : Prop :=
  ∀ offset configs, Reachable (step checks raw) (start raw) (.outer offset configs) →
    ∀ config, ConfigDescriptor.parse (raw.drop offset) = some config → config.wTotalLength ≠ 0

theorem inBlock_progress {checks : Bool} {raw : Bytes} (hcond : NoEmptyBlock checks raw)
    {s t : State} (hreach : Reachable (step checks raw) (start raw) s) (hs : InBlock raw s)
    (h : Progress checks raw s t) : InBlock raw t := by
  cases h with
  | @enter offset configs config hparse =>
    have hle := config_le_of_parse hparse
    have htotal : config.wTotalLength.toNat ≠ 0 := fun h0 =>
      hcond offset configs hreach config hparse (UInt16.toNat_inj.1 h0)
    simp only [InBlock, ConfigDescriptor.size] at hle ⊢
    omega
  | interface hend hparse => exact ⟨interface_le_of_parse hparse, hs.2⟩
  | endpoint hend hparse => exact ⟨endpoint_le_of_parse hparse, hs.2⟩
  | hid hend hparse => exact ⟨hid_le_of_parse hparse, hs.2⟩
  | @push block iface left i =>
    obtain hpush | ⟨-, hpush⟩ := push_cases block iface i
    · rw [hpush]
      trivial
    · rw [hpush]
      exact hs
  | _ => trivial

theorem rank_progress {checks : Bool} {raw : Bytes} {s t : State} (hs : InBlock raw s)
    (ht : InBlock raw t) (h : Progress checks raw s t) : rank raw t < rank raw s := by
  have hlen : ∀ block iface left i, s = .subs block iface left i → i ≤ raw.length := by
    rintro block iface left i rfl
    exact hs.1
  cases h with
  | finish | reject | cut | rejectInner | slice | overflow | cutSub =>
    simp [rank, Prod.Lex.toLex_lt_toLex]
  | enter hparse =>
    simp [rank, Prod.Lex.toLex_lt_toLex]
  | skip hn h =>
    simp only [rank, Prod.Lex.toLex_lt_toLex]
    omega
  | close =>
    simp only [InBlock, rank, Block.close, Prod.Lex.toLex_lt_toLex] at hs ⊢
    omega
  | interface hend hparse =>
    have hle := interface_le_of_parse hparse
    simp only [rank, Prod.Lex.toLex_lt_toLex, InterfaceDescriptor.size, true_and] at hle ⊢
    omega
  | endpoint hend hparse =>
    have hle := endpoint_le_of_parse hparse
    simp only [rank, Prod.Lex.toLex_lt_toLex, EndpointDescriptor.size, true_and] at hle ⊢
    omega
  | hid hend hparse =>
    have hle := hid_le_of_parse hparse
    simp only [rank, Prod.Lex.toLex_lt_toLex, HidDescriptor.size, true_and] at hle ⊢
    omega
  | @push block iface left i =>
    obtain hpush | ⟨-, hpush⟩ := push_cases block iface i
    · rw [hpush]
      simp only [InBlock, rank, Prod.Lex.toLex_lt_toLex] at hs ⊢
      omega
    · rw [hpush]
      simp only [rank, Prod.Lex.toLex_lt_toLex, true_and]
      omega

/-- What comes after an offset that an iteration of the outer loop has passed. -/
def Past (offset : ℕ) : State → Prop
  | .outer offset' _ => offset < offset'
  | .inner block _ | .subs block _ _ _ => offset < block.configEnd
  | _ => True

theorem past_progress {checks : Bool} {raw : Bytes} {offset : ℕ} {s t : State}
    (hs : Past offset s) (h : Progress checks raw s t) : Past offset t := by
  cases h with
  | enter | skip => exact Nat.lt_add_right _ hs
  | close | interface | endpoint | hid => exact hs
  | @push block iface left i =>
    obtain hpush | ⟨-, hpush⟩ := push_cases block iface i
    · rw [hpush]
      exact hs
    · rw [hpush]
      exact hs
  | _ => trivial

/-- The parser halts, and every iteration of its outer loop increases `offset`. -/
structure Terminates (checks : Bool) (raw : Bytes) : Prop where
  halts : ∃ s, Reachable (step checks raw) (start raw) s ∧ ∀ a, step checks raw s a = none
  increases : ∀ offset configs, Reachable (step checks raw) (start raw) (.outer offset configs) →
    ∀ offset' configs', Reachable (step checks raw) (outerStep raw offset configs)
      (.outer offset' configs') → offset < offset'

theorem inBlock_start (raw : Bytes) : InBlock raw (start raw) := by
  unfold start
  split
  · trivial
  · trivial

/-- Where no block that it comes to is empty, the parser halts. -/
theorem exists_halted_of_noEmptyBlock {checks : Bool} {raw : Bytes}
    (hcond : NoEmptyBlock checks raw) :
    ∃ s, Reachable (step checks raw) (start raw) s ∧ ∀ a, step checks raw s a = none := by
  refine exists_reachable_halted (P := fun s =>
    Reachable (step checks raw) (start raw) s ∧ InBlock raw s) (rank raw) ?_ ?_
    ⟨.refl _, inBlock_start raw⟩
  · rintro s a t ⟨hreach, hs⟩ ht
    exact ⟨hreach.tail ht, inBlock_progress hcond hreach hs (progress_of_step ht)⟩
  · rintro s a t ⟨hreach, hs⟩ ht
    have hprogress := progress_of_step ht
    exact rank_progress hs (inBlock_progress hcond hreach hs hprogress) hprogress

section Empty

variable {checks : Bool} {raw : Bytes} {offset : ℕ} {config : ConfigDescriptor}

/-- The parser is in an empty block, or at its start. -/
def AtEmpty (offset : ℕ) (config : ConfigDescriptor) : State → Prop
  | .outer offset' _ => offset' = offset
  | .inner block i =>
    block.config = ⟨offset, config⟩ ∧ block.configEnd = offset ∧ i = offset + ConfigDescriptor.size
  | _ => False

/-- The loop over an empty block ends before its first iteration, where the block started. -/
theorem innerStep_of_empty {block : Block} {i : ℕ} (h : AtEmpty offset config (.inner block i)) :
    innerStep checks raw block i =
      .outer offset (block.configs ++ [⟨⟨offset, config⟩, block.interfaces⟩]) := by
  obtain ⟨hconfig, hend, rfl⟩ := h
  rw [innerStep, if_neg (by rw [hend, ConfigDescriptor.size]; omega), Block.close, hend, hconfig]

theorem atEmpty_outerStep (hparse : ConfigDescriptor.parse (raw.drop offset) = some config)
    (hzero : config.wTotalLength = 0) (configs : List LocatedConfig) :
    AtEmpty offset config (outerStep raw offset configs) := by
  rw [outerStep_config configs hparse, hzero]
  exact ⟨rfl, by simp, rfl⟩

/-- **An empty block is never left.** -/
theorem AtEmpty.step (hparse : ConfigDescriptor.parse (raw.drop offset) = some config)
    (hzero : config.wTotalLength = 0) {s t : State} {a : Unit} (hs : AtEmpty offset config s)
    (h : Parser.step checks raw s a = some t) : AtEmpty offset config t := by
  cases s with
  | outer offset' configs =>
    obtain rfl : offset' = offset := hs
    exact Option.some.inj h ▸ atEmpty_outerStep hparse hzero configs
  | inner block i =>
    obtain rfl := Option.some.inj h
    rw [innerStep_of_empty hs]
    rfl
  | subs | returned | panicked => exact hs.elim

end Empty

/-- A parser that returns has come to no empty block. -/
theorem noEmptyBlock_of_returned {checks : Bool} {raw : Bytes} {tree : Option (List LocatedConfig)}
    (h : Reachable (step checks raw) (start raw) (.returned tree)) : NoEmptyBlock checks raw := by
  intro offset configs hreach config hparse hzero
  have hempty : AtEmpty offset config (.outer offset configs) := rfl
  obtain hback | hon := h.total hreach
  · exact State.noConfusion (hback.eq_of_halted fun _ => rfl)
  · exact hon.invariant (P := AtEmpty offset config)
      (fun _ _ _ hs ht => hs.step hparse hzero ht) hempty

/-- **The parser terminates exactly when no block it comes to is empty.** A configuration descriptor
that announces a total length of zero puts `config_end` at its own start, and the outer loop comes
to it again. -/
theorem parser_terminates_iff (checks : Bool) (raw : Bytes) :
    Terminates checks raw ↔ NoEmptyBlock checks raw := by
  constructor
  · intro h offset configs hreach config hparse hzero
    have hinner := outerStep_config configs hparse
    have hempty := atEmpty_outerStep hparse hzero configs
    rw [hinner] at hempty
    have hback : Reachable (step checks raw) (outerStep raw offset configs)
        (.outer offset (configs ++ [⟨⟨offset, config⟩, []⟩])) := by
      rw [hinner]
      exact ⟨[()], run_singleton.2 (congrArg some (innerStep_of_empty hempty))⟩
    exact lt_irrefl offset (h.increases offset configs hreach offset _ hback)
  · intro hcond
    refine ⟨exists_halted_of_noEmptyBlock hcond, ?_⟩
    intro offset configs hreach offset' configs' h
    have hpast : Past offset (outerStep raw offset configs) := by
      have hprogress := progress_outerStep checks raw offset configs
      generalize outerStep raw offset configs = t at hprogress
      cases hprogress with
      | enter hparse =>
        exact (inBlock_progress hcond hreach trivial (.enter hparse)).2.2
      | skip hn hle => exact Nat.lt_add_of_pos_right hn
      | _ => trivial
    exact h.invariant (P := Past offset)
      (fun s a t hs ht => past_progress hs (progress_of_step ht))
      hpast

/-- A device descriptor and a configuration descriptor that announces a total length of zero. -/
def emptyBlockTree : Bytes :=
  DeviceDescriptor.placeholder.toBytes ++ [9, 2, 0, 0, 0, 1, 0, 0x80, 50]

theorem not_terminates_emptyBlockTree : ¬Terminates true emptyBlockTree := by
  intro h
  have hreach : Reachable (step true emptyBlockTree) (start emptyBlockTree) (.outer 18 []) :=
    .refl _
  have hback : Reachable (step true emptyBlockTree) (outerStep emptyBlockTree 18 [])
      (.outer 18 [⟨⟨18, ⟨9, 2, 0, 0, 1, 0, 0x80, 50⟩⟩, []⟩]) :=
    ⟨[()], rfl⟩
  exact lt_irrefl 18 (h.increases 18 [] hreach 18 _ hback)

/-! ## Panics -/

/-- The sums of `usize` that an iteration computes. -/
def sums (raw : Bytes) : State → List ℕ
  | .outer offset _ =>
    if offset < raw.length then
      [offset + 1, offset + (raw.getD offset 0).toNat, offset + ConfigDescriptor.size] ++
        ((ConfigDescriptor.parse (raw.drop offset)).map fun config =>
          offset + min config.wTotalLength.toNat raw.length).toList
    else []
  | .inner _ i => [i + InterfaceDescriptor.size]
  | .subs _ _ _ i => [i + 2, i + 1, i + EndpointDescriptor.size, i + HidDescriptor.size]
  | .returned _ | .panicked => []

/-- An iteration that does not panic. The outer loop has not one byte left, an interface descriptor
does not announce 255 endpoints, and a byte that `config_end` promises is in the input. -/
def Guarded (raw : Bytes) : State → Prop
  | .outer offset _ => offset + 1 ≠ raw.length
  | .inner block i => i + InterfaceDescriptor.size ≤ block.configEnd →
    ∀ iface, InterfaceDescriptor.parse (raw.drop i) = some iface → iface.bNumEndpoints ≠ 255
  | .subs block _ left i => 0 < left → i + 2 ≤ block.configEnd → i + 2 ≤ raw.length
  | .returned _ | .panicked => True

/-- `inner_offset` is in the input. -/
def InRange (raw : Bytes) : State → Prop
  | .inner _ i | .subs _ _ _ i => i ≤ raw.length
  | _ => True

theorem inRange_progress {checks : Bool} {raw : Bytes} {s t : State} (hs : InRange raw s)
    (h : Progress checks raw s t) : InRange raw t := by
  cases h with
  | enter hparse => exact config_le_of_parse hparse
  | interface hend hparse => exact interface_le_of_parse hparse
  | endpoint hend hparse => exact endpoint_le_of_parse hparse
  | hid hend hparse => exact hid_le_of_parse hparse
  | @push block iface left i =>
    obtain hpush | ⟨-, hpush⟩ := push_cases block iface i
    · rw [hpush]
      trivial
    · rw [hpush]
      exact hs
  | _ => trivial

theorem inRange_start (raw : Bytes) : InRange raw (start raw) := by
  unfold start
  split
  · trivial
  · trivial

theorem inRange_of_reachable {checks : Bool} {raw : Bytes} {s : State}
    (h : Reachable (step checks raw) (start raw) s) : InRange raw s :=
  h.invariant (fun _ _ _ hs ht => inRange_progress hs (progress_of_step ht)) (inRange_start raw)

theorem sums_le {raw : Bytes} {s : State} (hs : InRange raw s) :
    ∀ n ∈ sums raw s, n ≤ raw.length + 65535 := by
  cases s with
  | outer offset configs =>
    unfold sums
    dsimp only
    split
    · next hlt =>
      have hbyte := (raw.getD offset 0).toNat_lt
      intro n hn
      simp only [List.cons_append, List.nil_append, List.mem_cons, Option.mem_toList,
        Option.map_eq_some_iff, ConfigDescriptor.size] at hn
      obtain rfl | rfl | rfl | ⟨config, -, rfl⟩ := hn
      · omega
      · omega
      · omega
      · have htotal := config.wTotalLength.toNat_lt
        omega
    · rintro n ⟨⟩
  | inner block i =>
    intro n hn
    simp only [InRange, sums, List.mem_singleton, InterfaceDescriptor.size] at hs hn
    omega
  | subs block iface left i =>
    intro n hn
    simp only [InRange, sums, List.mem_cons, List.not_mem_nil, or_false, EndpointDescriptor.size,
      HidDescriptor.size] at hs hn
    omega
  | returned tree => rintro n ⟨⟩
  | panicked => rintro n ⟨⟩

/-- A guarded iteration does not panic. -/
theorem ne_panicked_of_guarded {checks : Bool} {raw : Bytes} {s t : State} (hs : InRange raw s)
    (hguard : Guarded raw s) (h : Progress checks raw s t) : t ≠ .panicked := by
  rintro rfl
  generalize ht : State.panicked = t at h
  cases h with
  | cut h => exact hguard h
  | slice h => exact absurd hs (Nat.not_le_of_lt h)
  | overflow hend hparse hcount => exact hguard hend _ hparse hcount
  | cutSub hend h => exact absurd (hguard (Nat.succ_pos _) hend) (Nat.not_le_of_lt h)
  | @push block iface left i =>
    obtain hpush | ⟨-, hpush⟩ := push_cases block iface i
    · exact State.noConfusion (ht.trans hpush)
    · exact State.noConfusion (ht.trans hpush)
  | _ => cases ht

/-- An iteration that is not guarded panics, where the build checks for overflow. -/
theorem step_of_not_guarded {raw : Bytes} {s : State} (hs : InRange raw s)
    (hguard : ¬Guarded raw s) : step true raw s () = some .panicked := by
  cases s with
  | outer offset configs =>
    have hlen : offset + 1 = raw.length := not_not.1 hguard
    have hlast : raw[offset]? = some raw[offset] := List.getElem?_eq_getElem (by omega)
    have hnone : raw[offset + 1]? = none := List.getElem?_eq_none (by omega)
    show some (outerStep ..) = _
    rw [outerStep, if_pos (by omega), hlast, hnone]
  | inner block i =>
    simp only [Guarded, not_forall, not_not] at hguard
    obtain ⟨hend, iface, hparse, hcount⟩ := hguard
    have hslice : sliceFrom raw i = some (raw.drop i) := if_pos hs
    have hsub : subIterations true iface.bNumEndpoints = none := if_pos ⟨rfl, hcount⟩
    show some (innerStep ..) = _
    rw [innerStep, if_pos hend]
    simp only [hslice, hparse, hsub]
  | subs block iface left i =>
    simp only [Guarded, not_forall] at hguard
    obtain ⟨hpos, hend, hcut⟩ := hguard
    obtain ⟨left, rfl⟩ := Nat.exists_eq_add_of_lt hpos
    have hnone : raw[i + 1]? = none := List.getElem?_eq_none (by omega)
    show some (subsStep ..) = _
    rw [Nat.zero_add, subsStep, if_neg (by omega), hnone]
  | returned tree => exact absurd trivial hguard
  | panicked => exact absurd trivial hguard

/-- The parser never panics, and it returns: it finds no tree, or one. The slices are always in
range. No sum is more than `raw.len() + 65535`, and a slice has at most `isize::MAX` bytes. -/
structure Safe (raw : Bytes) : Prop where
  runs : ∀ s, Reachable (step true raw) (start raw) s →
    s ≠ .panicked ∧ ∀ n ∈ sums raw s, n ≤ raw.length + 65535
  returns : ∃ result, ParsesTo true raw result

/-- Where every iteration is guarded, none panics. -/
theorem ne_panicked_of_forall_guarded {raw : Bytes}
    (h : ∀ s, Reachable (step true raw) (start raw) s → Guarded raw s) {s : State}
    (hreach : Reachable (step true raw) (start raw) s) : s ≠ .panicked := by
  have hne : Reachable (step true raw) (start raw) s ∧ s ≠ .panicked := by
    refine hreach.invariant (P := fun s =>
      Reachable (step true raw) (start raw) s ∧ s ≠ .panicked) ?_ ⟨.refl _, ?_⟩
    · rintro s a t ⟨hs, -⟩ ht
      exact ⟨hs.tail ht,
        ne_panicked_of_guarded (inRange_of_reachable hs) (h s hs) (progress_of_step ht)⟩
    · unfold start
      split
      · exact State.noConfusion
      · exact State.noConfusion
  exact hne.2

/-- **The parser is safe exactly when** every iteration is guarded and no block it comes to is
empty. It panics where one byte of the input is left, where 255 endpoints are announced, or where a
block is cut short, and it does not return from an empty block. -/
theorem parser_safe_iff (raw : Bytes) :
    Safe raw ↔
      (∀ s, Reachable (step true raw) (start raw) s → Guarded raw s) ∧ NoEmptyBlock true raw := by
  constructor
  · rintro ⟨hruns, result, tree, htree, -⟩
    refine ⟨fun s hreach => ?_, noEmptyBlock_of_returned htree⟩
    by_contra hguard
    have hstep := step_of_not_guarded (inRange_of_reachable hreach) hguard
    exact (hruns .panicked (hreach.tail hstep)).1 rfl
  · rintro ⟨hguard, hcond⟩
    refine ⟨fun s hreach => ⟨ne_panicked_of_forall_guarded hguard hreach,
      sums_le (inRange_of_reachable hreach)⟩, ?_⟩
    obtain ⟨s, hreach, hhalt⟩ := exists_halted_of_noEmptyBlock hcond
    cases s with
    | returned tree => exact ⟨tree.bind (info raw), tree, hreach, rfl⟩
    | panicked => exact absurd rfl (ne_panicked_of_forall_guarded hguard hreach)
    | outer | inner | subs => exact absurd (hhalt ()) (Option.some_ne_none _)

/-- The parser panics on a device descriptor with one byte after it. -/
theorem not_safe_one_byte_left : ¬Safe (DeviceDescriptor.placeholder.toBytes ++ [9]) := by
  intro h
  exact (h.runs .panicked ⟨[()], rfl⟩).1 rfl

end Parser

end AnyPlug
