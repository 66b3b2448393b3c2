import AnyPlug.Core.DescriptorTree

/-!
# Where the descriptors of a tree come from

The parser tests two bytes against `config_end` before it decodes an endpoint or HID descriptor of
seven or nine, and it goes on at `config_end` even where that lies inside the configuration
descriptor itself. `parser_sound_iff` says when the bytes of a tree are nevertheless inside the
blocks and used once.

In one direction the iterations within the bounds keep an invariant (`Good`). In the other direction
an iteration that is not leaves a trace in the tree, and no later iteration removes it (`Marked`).
-/

namespace AnyPlug

/-! ## Spans -/

/-- The bytes from `lo` to `hi` of the input. -/
structure Span where
  lo : ℕ
  hi : ℕ
  deriving DecidableEq

/-- The byte at `k` is one of the span. -/
def Span.Covers (s : Span) (k : ℕ) : Prop := s.lo ≤ k ∧ k < s.hi

/-- No byte is in both spans. -/
def Span.Apart (s t : Span) : Prop := ∀ k, ¬(s.Covers k ∧ t.Covers k)

theorem Span.Apart.symm {s t : Span} (h : s.Apart t) : t.Apart s := fun k hk => h k hk.symm

theorem Span.apart_of_le {s t : Span} (h : s.hi ≤ t.lo) : s.Apart t := by
  rintro k ⟨hs, ht⟩
  exact absurd (lt_of_lt_of_le hs.2 (h.trans ht.1)) (lt_irrefl k)

def Located.span {α : Type} (d : Located α) (size : ℕ) : Span := ⟨d.offset, d.offset + size⟩

/-- The bytes of an interface, its endpoints and its HID descriptor. -/
def LocatedInterface.spans (i : LocatedInterface) : List Span :=
  i.interface.span InterfaceDescriptor.size ::
    (i.endpoints.map fun e => e.span EndpointDescriptor.size) ++
    (i.hid.toList.map fun h => h.span HidDescriptor.size)

/-- The bytes of all that is listed under a configuration. -/
def LocatedConfig.listed (c : LocatedConfig) : List Span :=
  c.interfaces.flatMap LocatedInterface.spans

/-- The bytes of all descriptors of a tree. -/
def treeSpans (configs : List LocatedConfig) : List Span :=
  ⟨0, DeviceDescriptor.size⟩ ::
    configs.flatMap fun c => c.config.span ConfigDescriptor.size :: c.listed

/-- What is listed under a configuration lies in its block. -/
def LocatedConfig.Contained (c : LocatedConfig) : Prop :=
  ∀ s ∈ c.listed, c.config.offset ≤ s.lo ∧
    s.hi ≤ c.config.offset + c.config.value.wTotalLength.toNat

/-- Every descriptor lies in its block, and no byte is used for two. -/
structure TreeSound (configs : List LocatedConfig) : Prop where
  contained : ∀ c ∈ configs, c.Contained
  apart : (treeSpans configs).Pairwise Span.Apart

/-- The descriptors of an interface are decoded at their offsets. -/
structure LocatedInterface.Decoded (raw : Bytes) (i : LocatedInterface) : Prop where
  interface : InterfaceDescriptor.parse (raw.drop i.interface.offset) = some i.interface.value
  endpoints : ∀ e ∈ i.endpoints, EndpointDescriptor.parse (raw.drop e.offset) = some e.value
  hid : ∀ h ∈ i.hid, HidDescriptor.parse (raw.drop h.offset) = some h.value

structure LocatedConfig.Decoded (raw : Bytes) (c : LocatedConfig) : Prop where
  config : ConfigDescriptor.parse (raw.drop c.config.offset) = some c.config.value
  interfaces : ∀ i ∈ c.interfaces, i.Decoded raw

namespace Parser

/-! ## The tree so far -/

/-- The configurations found so far, with the open one. -/
def State.tree : State → List LocatedConfig
  | .outer _ configs => configs
  | .inner block _ => block.configs ++ [⟨block.config, block.interfaces⟩]
  | .subs block iface _ _ => block.configs ++ [⟨block.config, block.interfaces ++ [iface]⟩]
  | .returned tree => tree.getD []
  | .panicked => []

theorem tree_push (block : Block) (iface : LocatedInterface) (i : ℕ) :
    (block.push iface i).tree = block.configs ++ [⟨block.config, block.interfaces ++ [iface]⟩] := by
  obtain hpush | ⟨-, hpush⟩ := push_cases block iface i
  · rw [hpush]
    rfl
  · rw [hpush]
    rfl

theorem forall_mem_append_singleton {α : Type} {P : α → Prop} {l : List α} {a : α} :
    (∀ x ∈ l ++ [a], P x) ↔ (∀ x ∈ l, P x) ∧ P a := by
  rw [List.forall_mem_append, List.forall_mem_singleton]

theorem decoded_progress {checks : Bool} {raw : Bytes} {s t : State}
    (hs : ∀ c ∈ s.tree, c.Decoded raw) (h : Progress checks raw s t) :
    ∀ c ∈ t.tree, c.Decoded raw := by
  cases h with
  | finish | skip | close => exact hs
  | reject | cut | rejectInner | slice | overflow | cutSub => exact List.forall_mem_nil _
  | enter hparse => exact forall_mem_append_singleton.2 ⟨hs, hparse, List.forall_mem_nil _⟩
  | push =>
    rw [tree_push]
    exact hs
  | interface hend hparse =>
    obtain ⟨hconfigs, hconfig⟩ := forall_mem_append_singleton.1 hs
    refine forall_mem_append_singleton.2 ⟨hconfigs, hconfig.config, ?_⟩
    refine forall_mem_append_singleton.2 ⟨hconfig.interfaces, hparse, List.forall_mem_nil _, ?_⟩
    rintro d ⟨⟩
  | endpoint hend hparse =>
    obtain ⟨hconfigs, hconfig⟩ := forall_mem_append_singleton.1 hs
    obtain ⟨hifaces, hiface⟩ := forall_mem_append_singleton.1 hconfig.interfaces
    refine forall_mem_append_singleton.2 ⟨hconfigs, hconfig.config, ?_⟩
    refine forall_mem_append_singleton.2 ⟨hifaces, hiface.interface, ?_, hiface.hid⟩
    exact forall_mem_append_singleton.2 ⟨hiface.endpoints, hparse⟩
  | hid hend hparse =>
    obtain ⟨hconfigs, hconfig⟩ := forall_mem_append_singleton.1 hs
    obtain ⟨hifaces, hiface⟩ := forall_mem_append_singleton.1 hconfig.interfaces
    refine forall_mem_append_singleton.2 ⟨hconfigs, hconfig.config, ?_⟩
    refine forall_mem_append_singleton.2 ⟨hifaces, hiface.interface, hiface.endpoints, ?_⟩
    rintro d ⟨⟩
    exact hparse

theorem tree_start (raw : Bytes) : (start raw).tree = [] := by
  unfold start
  split
  · rfl
  · rfl

/-- **The offsets are those the descriptors were decoded at.** -/
theorem decoded_of_reachable {checks : Bool} {raw : Bytes} {s : State}
    (h : Reachable (step checks raw) (start raw) s) : ∀ c ∈ s.tree, c.Decoded raw := by
  refine h.invariant (P := fun s => ∀ c ∈ s.tree, c.Decoded raw) ?_ ?_
  · intro s a t hs ht
    exact decoded_progress hs (progress_of_step ht)
  · rw [tree_start]
    exact List.forall_mem_nil _

/-! ## Iterations within the bounds -/

/-- An iteration that stays within the bounds: an endpoint or HID descriptor that it decodes ends
before `config_end`, and a configuration descriptor begins after those before it. -/
def Within (raw : Bytes) : State → Prop
  | .outer offset configs =>
    ∀ config, ConfigDescriptor.parse (raw.drop offset) = some config →
      ∀ c ∈ configs, c.config.offset + ConfigDescriptor.size ≤ offset
  | .subs block _ left i => 0 < left → i + 2 ≤ block.configEnd →
    (∀ ep, EndpointDescriptor.parse (raw.drop i) = some ep →
      i + EndpointDescriptor.size ≤ block.configEnd) ∧
    ∀ h, HidDescriptor.parse (raw.drop i) = some h → i + HidDescriptor.size ≤ block.configEnd
  | _ => True

theorem treeSpans_append_singleton (configs : List LocatedConfig) (c : LocatedConfig) :
    treeSpans (configs ++ [c]) =
      treeSpans configs ++ c.config.span ConfigDescriptor.size :: c.listed := by
  simp only [treeSpans, List.flatMap_append, List.flatMap_singleton, List.cons_append]

theorem forall_mem_treeSpans {configs : List LocatedConfig} {P : Span → Prop} :
    (∀ s ∈ treeSpans configs, P s) ↔ P ⟨0, DeviceDescriptor.size⟩ ∧
      ∀ c ∈ configs, P (c.config.span ConfigDescriptor.size) ∧ ∀ s ∈ c.listed, P s := by
  simp only [treeSpans, List.forall_mem_cons, List.forall_mem_flatMap]

/-- What is known in a block of which `spans` were decoded, up to `i`. -/
structure OpenBlock (configs : List LocatedConfig) (config : Located ConfigDescriptor)
    (configEnd : ℕ) (spans : List Span) (i : ℕ) : Prop where
  contained : ∀ c ∈ configs, c.Contained
  listed : ∀ c ∈ configs, ∀ s ∈ c.listed, s.hi ≤ config.offset
  inside : ∀ s ∈ spans, config.offset ≤ s.lo ∧ s.hi ≤ configEnd
  apart : (treeSpans configs ++ config.span ConfigDescriptor.size :: spans).Pairwise Span.Apart
  below : ∀ s ∈ treeSpans configs ++ config.span ConfigDescriptor.size :: spans, s.hi ≤ i
  device_le : DeviceDescriptor.size ≤ config.offset
  offset_le : config.offset ≤ configEnd
  le_total : configEnd ≤ config.offset + config.value.wTotalLength.toNat

namespace OpenBlock

variable {configs : List LocatedConfig} {config : Located ConfigDescriptor} {configEnd : ℕ}
  {spans : List Span} {i : ℕ}

theorem perm {spans' : List Span} (h : OpenBlock configs config configEnd spans i)
    (hperm : spans.Perm spans') : OpenBlock configs config configEnd spans' i := by
  have hall := (hperm.cons (config.span ConfigDescriptor.size)).append_left (treeSpans configs)
  exact { h with
    inside := fun s hs => h.inside s (hperm.mem_iff.2 hs)
    apart := (hall.pairwise_iff Span.Apart.symm).1 h.apart
    below := fun s hs => h.below s (hall.mem_iff.2 hs) }

/-- A descriptor that is decoded at `i` and ends in the block. -/
theorem add {kept : List Span} (h : OpenBlock configs config configEnd spans i) {n : ℕ}
    (hkept : kept.Sublist spans) (hend : i + n ≤ configEnd) :
    OpenBlock configs config configEnd (kept ++ [⟨i, i + n⟩]) (i + n) := by
  have hoffset : config.offset ≤ i := by
    have hconfig := h.below (config.span ConfigDescriptor.size) (by simp)
    exact (Nat.le_add_right _ _).trans hconfig
  have hall := (hkept.cons_cons (config.span ConfigDescriptor.size)).append_left (treeSpans configs)
  have hbelow := fun s hs => h.below s (hall.subset hs)
  refine { h with inside := ?_, apart := ?_, below := ?_ }
  · refine forall_mem_append_singleton.2 ⟨fun s hs => h.inside s (hkept.subset hs), ?_⟩
    exact ⟨hoffset, hend⟩
  · rw [← List.cons_append, ← List.append_assoc, List.pairwise_append]
    refine ⟨h.apart.sublist hall, List.pairwise_singleton _ _, fun s hs t ht => ?_⟩
    obtain rfl := List.mem_singleton.1 ht
    exact Span.apart_of_le (hbelow s hs)
  · rw [← List.cons_append, ← List.append_assoc]
    refine forall_mem_append_singleton.2 ⟨fun s hs => ?_, le_rfl⟩
    exact (hbelow s hs).trans (Nat.le_add_right i n)

end OpenBlock

/-- What is known at the head of the outer loop. -/
structure Closed (offset : ℕ) (configs : List LocatedConfig) : Prop where
  sound : TreeSound configs
  device_le : DeviceDescriptor.size ≤ offset
  listed : ∀ c ∈ configs, ∀ s ∈ c.listed, s.hi ≤ offset

theorem OpenBlock.close {configs : List LocatedConfig} {config : Located ConfigDescriptor}
    {configEnd i : ℕ} {interfaces : List LocatedInterface}
    (h : OpenBlock configs config configEnd (interfaces.flatMap LocatedInterface.spans) i) :
    Closed configEnd (configs ++ [⟨config, interfaces⟩]) := by
  refine ⟨⟨?_, ?_⟩, h.device_le.trans h.offset_le, ?_⟩
  · refine forall_mem_append_singleton.2 ⟨h.contained, fun s hs => ?_⟩
    exact ⟨(h.inside s hs).1, (h.inside s hs).2.trans h.le_total⟩
  · rw [treeSpans_append_singleton]
    exact h.apart
  · refine forall_mem_append_singleton.2 ⟨fun c hc s hs => ?_, fun s hs => (h.inside s hs).2⟩
    exact (h.listed c hc s hs).trans h.offset_le

theorem Closed.enter {offset : ℕ} {configs : List LocatedConfig} {config : ConfigDescriptor}
    (h : Closed offset configs) (raw : Bytes)
    (hwithin : ∀ c ∈ configs, c.config.offset + ConfigDescriptor.size ≤ offset) :
    OpenBlock configs ⟨offset, config⟩ (offset + min config.wTotalLength.toNat raw.length) []
      (offset + ConfigDescriptor.size) := by
  have hbelow : ∀ s ∈ treeSpans configs, s.hi ≤ offset :=
    forall_mem_treeSpans.2 ⟨h.device_le, fun c hc => ⟨hwithin c hc, h.listed c hc⟩⟩
  refine ⟨h.sound.contained, h.listed, List.forall_mem_nil _, ?_, ?_, h.device_le, ?_, ?_⟩
  · refine List.pairwise_append.2 ⟨h.sound.apart, List.pairwise_singleton _ _, fun s hs t ht => ?_⟩
    obtain rfl := List.mem_singleton.1 ht
    exact Span.apart_of_le (hbelow s hs)
  · refine forall_mem_append_singleton.2 ⟨fun s hs => ?_, le_rfl⟩
    exact (hbelow s hs).trans (Nat.le_add_right _ _)
  · exact Nat.le_add_right _ _
  · exact Nat.add_le_add_left (Nat.min_le_left _ _) offset

/-- The invariant of the iterations within the bounds. -/
def Good : State → Prop
  | .outer offset configs => Closed offset configs
  | .inner block i =>
    OpenBlock block.configs block.config block.configEnd
      (block.interfaces.flatMap LocatedInterface.spans) i
  | .subs block iface _ i =>
    OpenBlock block.configs block.config block.configEnd
      ((block.interfaces ++ [iface]).flatMap LocatedInterface.spans) i
  | .returned tree => ∀ configs, tree = some configs → TreeSound configs
  | .panicked => True

theorem good_progress {checks : Bool} {raw : Bytes} {s t : State} (hs : Good s)
    (hwithin : Within raw s) (h : Progress checks raw s t) : Good t := by
  cases h with
  | finish =>
    rintro configs ⟨⟩
    exact hs.sound
  | reject | rejectInner =>
    rintro configs ⟨⟩
  | cut | slice | overflow | cutSub => trivial
  | enter hparse => exact Closed.enter hs raw (hwithin _ hparse)
  | skip hn hle =>
    refine ⟨hs.sound, hs.device_le.trans (Nat.le_add_right _ _), fun c hc s hs' => ?_⟩
    exact (hs.listed c hc s hs').trans (Nat.le_add_right _ _)
  | close => exact OpenBlock.close hs
  | @push block iface left i =>
    obtain hpush | ⟨-, hpush⟩ := push_cases block iface i
    · rw [hpush]
      exact OpenBlock.close hs
    · rw [hpush]
      exact hs
  | interface hend hparse =>
    have hadd := OpenBlock.add hs (List.Sublist.refl _) hend
    show OpenBlock _ _ _ _ _
    rw [List.flatMap_append, List.flatMap_singleton]
    exact hadd
  | @endpoint block iface left i ep hend hparse =>
    have hep := (hwithin (Nat.succ_pos _) hend).1 _ hparse
    have hadd := OpenBlock.add hs (List.Sublist.refl _) hep
    refine hadd.perm ?_
    simp only [List.flatMap_append, List.flatMap_singleton, LocatedInterface.spans, List.map_append,
      List.map_singleton, List.cons_append, List.append_assoc]
    refine (List.Perm.cons _ ?_).append_left _
    exact List.perm_append_comm.append_left _
  | @hid block iface left i d hend hparse =>
    have hhid := (hwithin (Nat.succ_pos _) hend).2 _ hparse
    -- the HID descriptor before it is no longer reported
    have hkept : (block.interfaces.flatMap LocatedInterface.spans ++
        iface.interface.span InterfaceDescriptor.size ::
          iface.endpoints.map fun e => e.span EndpointDescriptor.size).Sublist
        ((block.interfaces ++ [iface]).flatMap LocatedInterface.spans) := by
      rw [List.flatMap_append, List.flatMap_singleton, LocatedInterface.spans]
      exact (List.sublist_append_left _ _).append_left _
    have hadd := OpenBlock.add hs hkept hhid
    show OpenBlock _ _ _ _ _
    rw [List.flatMap_append, List.flatMap_singleton, LocatedInterface.spans]
    rw [List.append_assoc] at hadd
    exact hadd

/-! ## Iterations out of bounds -/

/-- Where the configurations of a tree were found. -/
def offsets (configs : List LocatedConfig) : List ℕ := configs.map fun c => c.config.offset

/-- What every iteration keeps: the configurations are found in order, and the HID descriptor of the
open interface is behind `inner_offset`. -/
def Ordered (raw : Bytes) : State → Prop
  | .outer offset configs => (offsets configs ++ [offset]).Pairwise (· ≤ ·)
  | .inner block _ => (offsets block.configs ++ [block.config.offset]).Pairwise (· ≤ ·) ∧
    block.configEnd =
      block.config.offset + min block.config.value.wTotalLength.toNat raw.length
  | .subs block iface _ i => (offsets block.configs ++ [block.config.offset]).Pairwise (· ≤ ·) ∧
    block.configEnd =
      block.config.offset + min block.config.value.wTotalLength.toNat raw.length ∧
    ∀ h ∈ iface.hid, h.offset + HidDescriptor.size ≤ i
  | .returned tree => ∀ configs, tree = some configs → (offsets configs).Pairwise (· ≤ ·)
  | .panicked => True

theorem pairwise_append_of_le {l : List ℕ} {a b : ℕ} (h : (l ++ [a]).Pairwise (· ≤ ·))
    (hab : a ≤ b) : (l ++ [b]).Pairwise (· ≤ ·) := by
  obtain ⟨hl, -, ha⟩ := List.pairwise_append.1 h
  refine List.pairwise_append.2 ⟨hl, List.pairwise_singleton _ _, fun x hx y hy => ?_⟩
  obtain rfl := List.mem_singleton.1 hy
  exact (ha x hx a (List.mem_singleton_self a)).trans hab

theorem pairwise_append_append_of_le {l : List ℕ} {a b : ℕ} (h : (l ++ [a]).Pairwise (· ≤ ·))
    (hab : a ≤ b) : (l ++ [a] ++ [b]).Pairwise (· ≤ ·) := by
  refine List.pairwise_append.2 ⟨h, List.pairwise_singleton _ _, fun x hx y hy => ?_⟩
  obtain rfl := List.mem_singleton.1 hy
  obtain ⟨-, -, ha⟩ := List.pairwise_append.1 h
  obtain hx | hx := List.mem_append.1 hx
  · exact (ha x hx a (List.mem_singleton_self a)).trans hab
  · obtain rfl := List.mem_singleton.1 hx
    exact hab

theorem offsets_append_singleton (configs : List LocatedConfig) (c : LocatedConfig) :
    offsets (configs ++ [c]) = offsets configs ++ [c.config.offset] := by
  simp only [offsets, List.map_append, List.map_singleton]

theorem ordered_close {raw : Bytes} {block : Block} (interfaces : List LocatedInterface)
    (h : (offsets block.configs ++ [block.config.offset]).Pairwise (· ≤ ·))
    (hend : block.configEnd =
      block.config.offset + min block.config.value.wTotalLength.toNat raw.length) :
    Ordered raw (.outer block.configEnd (block.configs ++ [⟨block.config, interfaces⟩])) := by
  show (offsets _ ++ [block.configEnd]).Pairwise _
  rw [offsets_append_singleton]
  exact pairwise_append_append_of_le h (hend ▸ Nat.le_add_right _ _)

theorem ordered_progress {checks : Bool} {raw : Bytes} {s t : State} (hs : Ordered raw s)
    (h : Progress checks raw s t) : Ordered raw t := by
  cases h with
  | finish =>
    rintro configs ⟨⟩
    exact hs.sublist (List.sublist_append_left _ _)
  | reject | rejectInner => rintro configs ⟨⟩
  | cut | slice | overflow | cutSub => trivial
  | enter hparse => exact ⟨hs, rfl⟩
  | skip hn hle => exact pairwise_append_of_le hs (Nat.le_add_right _ _)
  | close => exact ordered_close _ hs.1 hs.2
  | @push block iface left i =>
    obtain hpush | ⟨-, hpush⟩ := push_cases block iface i
    · rw [hpush]
      exact ordered_close _ hs.1 hs.2.1
    · rw [hpush]
      exact ⟨hs.1, hs.2.1⟩
  | interface hend hparse =>
    refine ⟨hs.1, hs.2, ?_⟩
    rintro d ⟨⟩
  | endpoint hend hparse =>
    exact ⟨hs.1, hs.2.1, fun d hd => (hs.2.2 d hd).trans (Nat.le_add_right _ _)⟩
  | hid hend hparse =>
    refine ⟨hs.1, hs.2.1, ?_⟩
    rintro d ⟨⟩
    exact le_rfl

theorem ordered_start (raw : Bytes) : Ordered raw (start raw) := by
  unfold start
  split
  · rintro configs ⟨⟩
  · exact List.pairwise_singleton _ _

theorem ordered_of_reachable {checks : Bool} {raw : Bytes} {s : State}
    (h : Reachable (step checks raw) (start raw) s) : Ordered raw s :=
  h.invariant (fun _ _ _ hs ht => ordered_progress hs (progress_of_step ht)) (ordered_start raw)

/-- Something that is listed under a configuration ends after its block. -/
def Crossed (configs : List LocatedConfig) : Prop :=
  ∃ c ∈ configs, ∃ s ∈ c.listed,
    c.config.offset + c.config.value.wTotalLength.toNat < s.hi

/-- The trace of an iteration out of bounds. -/
def Marked (configs : List LocatedConfig) : Prop :=
  Crossed configs ∨ ¬(offsets configs).Pairwise fun a b => a + ConfigDescriptor.size ≤ b

theorem crossed_append_singleton {configs : List LocatedConfig} {c : LocatedConfig} :
    Crossed (configs ++ [c]) ↔ Crossed configs ∨
      ∃ s ∈ c.listed, c.config.offset + c.config.value.wTotalLength.toNat < s.hi := by
  simp only [Crossed, List.mem_append, List.mem_singleton, or_and_right, exists_or, exists_eq_left]

/-- The open configuration gets other interfaces, and keeps what crosses its end. -/
theorem Marked.replace {configs : List LocatedConfig} {config : Located ConfigDescriptor}
    {interfaces interfaces' : List LocatedInterface}
    (h : Marked (configs ++ [⟨config, interfaces⟩]))
    (hkept : ∀ s ∈ interfaces.flatMap LocatedInterface.spans,
      config.offset + config.value.wTotalLength.toNat < s.hi →
        s ∈ interfaces'.flatMap LocatedInterface.spans) :
    Marked (configs ++ [⟨config, interfaces'⟩]) := by
  rw [Marked, crossed_append_singleton, offsets_append_singleton] at h ⊢
  obtain (h | ⟨s, hs, hlt⟩) | h := h
  · exact .inl (.inl h)
  · exact .inl (.inr ⟨s, hkept s hs hlt, hlt⟩)
  · exact .inr h

theorem mem_spans {iface : LocatedInterface} {s : Span} :
    s ∈ iface.spans ↔ s = iface.interface.span InterfaceDescriptor.size ∨
      (∃ e ∈ iface.endpoints, e.span EndpointDescriptor.size = s) ∨
      ∃ h ∈ iface.hid, h.span HidDescriptor.size = s := by
  simp only [LocatedInterface.spans, List.cons_append, List.mem_cons, List.mem_append, List.mem_map,
    Option.mem_toList, Option.mem_def]

theorem marked_progress {checks : Bool} {raw : Bytes} {s t : State} (hs : Ordered raw s)
    (hmark : Marked s.tree) (h : Progress checks raw s t) :
    Marked t.tree ∨ t = .returned none ∨ t = .panicked := by
  cases h with
  | finish | skip | close => exact .inl hmark
  | push =>
    rw [tree_push]
    exact .inl hmark
  | reject | rejectInner => exact .inr (.inl rfl)
  | cut | slice | overflow | cutSub => exact .inr (.inr rfl)
  | @enter offset configs config hparse =>
    left
    show Marked (configs ++ [_])
    rw [Marked, crossed_append_singleton, offsets_append_singleton]
    obtain hmark | hmark := hmark
    · exact .inl (.inl hmark)
    · exact .inr fun hpair => hmark (hpair.sublist (List.sublist_append_left _ _))
  | interface hend hparse =>
    refine .inl (Marked.replace hmark fun s hs _ => ?_)
    rw [List.flatMap_append]
    exact List.mem_append_left _ hs
  | @endpoint block iface left i ep hend hparse =>
    refine .inl (Marked.replace hmark fun s hs _ => ?_)
    rw [List.flatMap_append, List.flatMap_singleton, List.mem_append, mem_spans] at hs ⊢
    obtain hs | hs | ⟨e, he, hs⟩ | hs := hs
    · exact .inl hs
    · exact .inr (.inl hs)
    · exact .inr (.inr (.inl ⟨e, List.mem_append_left _ he, hs⟩))
    · exact .inr (.inr (.inr hs))
  | @hid block iface left i d hend hparse =>
    refine .inl (Marked.replace hmark fun s hmem hlt => ?_)
    rw [List.flatMap_append, List.flatMap_singleton, List.mem_append, mem_spans] at hmem ⊢
    obtain hmem | hmem | hmem | ⟨d', hd', rfl⟩ := hmem
    · exact .inl hmem
    · exact .inr (.inl hmem)
    · exact .inr (.inr (.inl hmem))
    · -- the HID descriptor that is replaced ends before the block does
      have hbehind := hs.2.2 d' hd'
      have hconfigEnd := hs.2.1
      simp only [Located.span] at hlt
      omega

/-- The interface that is open has something that ends after the block. -/
theorem crossed_of_mem_spans (configs : List LocatedConfig) {config : Located ConfigDescriptor}
    (interfaces : List LocatedInterface) {iface : LocatedInterface} {s : Span}
    (hs : s ∈ iface.spans)
    (hlt : config.offset + config.value.wTotalLength.toNat < s.hi) :
    Crossed (configs ++ [⟨config, interfaces ++ [iface]⟩]) := by
  refine crossed_append_singleton.2 (.inr ⟨s, ?_, hlt⟩)
  rw [LocatedConfig.listed, List.flatMap_append, List.flatMap_singleton]
  exact List.mem_append_right _ hs

/-- **An iteration out of bounds leaves its trace.** -/
theorem exists_marked_of_not_within (checks : Bool) {raw : Bytes} {s : State} (hs : Ordered raw s)
    (hwithin : ¬Within raw s) : ∃ t, step checks raw s () = some t ∧ Marked t.tree := by
  cases s with
  | outer offset configs =>
    simp only [Within, not_forall] at hwithin
    obtain ⟨config, hparse, c, hc, hlt⟩ := hwithin
    refine ⟨_, congrArg some (outerStep_config configs hparse), .inr ?_⟩
    intro hpair
    rw [State.tree, offsets_append_singleton] at hpair
    have hle := (List.pairwise_append.1 hpair).2.2 c.config.offset
      (List.mem_map_of_mem (f := fun c : LocatedConfig => c.config.offset) hc) offset
      (List.mem_singleton_self _)
    exact hlt hle
  | subs block iface left i =>
    simp only [Within, not_forall, not_and_or] at hwithin
    obtain ⟨hpos, hend, ⟨ep, hparse, hlt⟩ | ⟨d, hparse, hlt⟩⟩ := hwithin
    · obtain ⟨left, rfl⟩ := Nat.exists_eq_add_of_lt hpos
      refine ⟨_, congrArg some (subsStep_endpoint iface (0 + left) hend hparse), .inl ?_⟩
      have hle := endpoint_le_of_parse hparse
      have hconfigEnd := hs.2.1
      have hlt : block.config.offset + block.config.value.wTotalLength.toNat <
          i + EndpointDescriptor.size := by omega
      refine crossed_of_mem_spans (s := ⟨i, i + EndpointDescriptor.size⟩) block.configs
        block.interfaces (mem_spans.2 ?_) hlt
      exact .inr (.inl ⟨⟨i, ep⟩, List.mem_append_right _ (List.mem_singleton_self _), rfl⟩)
    · obtain ⟨left, rfl⟩ := Nat.exists_eq_add_of_lt hpos
      refine ⟨_, congrArg some (subsStep_hid iface (0 + left) hend hparse), .inl ?_⟩
      have hle := hid_le_of_parse hparse
      have hconfigEnd := hs.2.1
      have hlt : block.config.offset + block.config.value.wTotalLength.toNat <
          i + HidDescriptor.size := by omega
      refine crossed_of_mem_spans (s := ⟨i, i + HidDescriptor.size⟩) block.configs
        block.interfaces (mem_spans.2 ?_) hlt
      exact .inr (.inr ⟨⟨i, d⟩, rfl, rfl⟩)
  | inner block i => exact absurd trivial hwithin
  | returned tree => exact absurd trivial hwithin
  | panicked => exact absurd trivial hwithin

theorem sublist_treeSpans (configs : List LocatedConfig) :
    (configs.map fun c => c.config.span ConfigDescriptor.size).Sublist (treeSpans configs) := by
  refine List.Sublist.cons _ ?_
  induction configs with
  | nil => exact List.Sublist.refl _
  | cons c configs ih =>
    rw [List.map_cons, List.flatMap_cons, List.cons_append]
    exact (ih.trans (List.sublist_append_right _ _)).cons_cons _

theorem not_sound_of_marked {configs : List LocatedConfig}
    (hordered : (offsets configs).Pairwise (· ≤ ·)) (hmark : Marked configs) :
    ¬TreeSound configs := by
  intro hsound
  obtain ⟨c, hc, s, hs, hlt⟩ | hmark := hmark
  · exact absurd (hsound.contained c hc s hs).2 (Nat.not_le_of_lt hlt)
  · refine hmark (List.pairwise_map.2 ?_)
    have hapart := List.pairwise_map.1 (hsound.apart.sublist (sublist_treeSpans configs))
    refine (hapart.and (List.pairwise_map.1 hordered)).imp ?_
    rintro c d ⟨hcd, hle⟩
    by_contra hlt
    refine hcd d.config.offset ⟨⟨hle, Nat.lt_of_not_le hlt⟩, le_rfl, ?_⟩
    exact Nat.lt_add_of_pos_right (Nat.succ_pos 8)

/-! ## The tree that is returned -/

theorem good_start (raw : Bytes) : Good (start raw) := by
  unfold start
  split
  · rintro configs ⟨⟩
  · exact ⟨⟨List.forall_mem_nil _, List.pairwise_singleton _ _⟩, le_rfl, List.forall_mem_nil _⟩

/-- **A tree is sound exactly when every iteration stays within the bounds.** The offsets of its
descriptors are those at which they were decoded. -/
theorem parser_sound_iff {checks : Bool} {raw : Bytes} {configs : List LocatedConfig}
    (h : Reachable (step checks raw) (start raw) (.returned (some configs))) :
    (∀ c ∈ configs, c.Decoded raw) ∧
      (TreeSound configs ↔ ∀ s, Reachable (step checks raw) (start raw) s → Within raw s) := by
  refine ⟨decoded_of_reachable h, ?_, ?_⟩
  · intro hsound s hreach
    by_contra hwithin
    obtain ⟨t, hstep, hmark⟩ :=
      exists_marked_of_not_within checks (ordered_of_reachable hreach) hwithin
    have ht := hreach.tail hstep
    -- the parser goes on from there to the end
    have hend : Reachable (step checks raw) t (.returned (some configs)) := by
      obtain hend | hback := ht.total h
      · exact hend
      · obtain rfl | ⟨a, u, hu, -⟩ := hback.cases_head
        · exact .refl _
        · cases hu
    have hlast := hend.invariant (P := fun s => Ordered raw s ∧
        (Marked s.tree ∨ s = .returned none ∨ s = .panicked)) ?_
      ⟨ordered_of_reachable ht, .inl hmark⟩
    · obtain ⟨hordered, hmark | ⟨⟨⟩⟩ | ⟨⟨⟩⟩⟩ := hlast
      exact not_sound_of_marked (hordered configs rfl) hmark hsound
    · rintro u a v ⟨hordered, hmark | rfl | rfl⟩ hv
      · have hprogress := progress_of_step hv
        exact ⟨ordered_progress hordered hprogress, marked_progress hordered hmark hprogress⟩
      · cases hv
      · cases hv
  · intro hwithin
    have hgood := h.invariant (P := fun s =>
        Reachable (step checks raw) (start raw) s ∧ Good s) ?_ ⟨.refl _, good_start raw⟩
    · exact hgood.2 configs rfl
    · rintro s a t ⟨hreach, hs⟩ ht
      exact ⟨hreach.tail ht, good_progress hs (hwithin s hreach) (progress_of_step ht)⟩

/-- The keyboard of `tests/fixtures/hid_keyboard`: one interface with its HID descriptor and one
endpoint. -/
def keyboardTree : Bytes :=
  [0x12, 0x01, 0x10, 0x02, 0, 0, 0, 0x40, 0x6b, 0x1d, 0x04, 0x01, 0x01, 0, 0, 0, 0, 1] ++
    [9, 2, 34, 0, 1, 1, 0, 0x80, 50] ++ [9, 4, 0, 0, 1, 3, 1, 1, 0] ++
    [9, 0x21, 0x11, 0x01, 0, 1, 0x22, 64, 0] ++ [7, 5, 0x81, 3, 8, 0, 10]

def keyboardConfigs : List LocatedConfig :=
  [⟨⟨18, ⟨9, 2, 34, 1, 1, 0, 0x80, 50⟩⟩,
    [⟨⟨27, ⟨9, 4, 0, 0, 1, 3, 1, 1, 0⟩⟩, [⟨45, ⟨7, 5, 0x81, 3, 8, 10⟩⟩],
      some ⟨36, ⟨9, 0x21, 0x0111, 0, 1, 0x22, 64⟩⟩⟩]⟩]

theorem parser_sound_keyboard :
    Reachable (step true keyboardTree) (start keyboardTree) (.returned (some keyboardConfigs)) ∧
      (TreeSound keyboardConfigs ↔
        ∀ s, Reachable (step true keyboardTree) (start keyboardTree) s →
          Within keyboardTree s) := by
  have h : Reachable (step true keyboardTree) (start keyboardTree)
      (.returned (some keyboardConfigs)) := ⟨List.replicate 6 (), rfl⟩
  exact ⟨h, (parser_sound_iff h).2⟩

/-- A block that ends two bytes into its endpoint descriptor. -/
def crossingTree : Bytes :=
  DeviceDescriptor.placeholder.toBytes ++ [9, 2, 20, 0, 1, 1, 0, 0x80, 50] ++
    [9, 4, 0, 0, 1, 0xff, 0, 0, 0] ++ [7, 5, 0x81, 3, 8, 0, 10]

theorem not_sound_crossingTree :
    ¬∀ checks raw configs, Reachable (step checks raw) (start raw) (.returned (some configs)) →
      TreeSound configs := by
  intro h
  have hsound := h true crossingTree
    [⟨⟨18, ⟨9, 2, 20, 1, 1, 0, 0x80, 50⟩⟩,
      [⟨⟨27, ⟨9, 4, 0, 0, 1, 0xff, 0, 0, 0⟩⟩, [⟨36, ⟨7, 5, 0x81, 3, 8, 10⟩⟩], none⟩]⟩]
    ⟨List.replicate 5 (), rfl⟩
  have hend := (hsound.contained _ (List.mem_singleton_self _) ⟨36, 43⟩ (by decide)).2
  exact absurd hend (by decide)

end Parser

end AnyPlug
