import AnyPlug.Server.Usb

/-!
# Claiming a device

`LibusbBackend::claim_device` and `release_device` of `usbip-server/src/usb_backend.rs`, and the
device manager above them (`usbip-server/src/usb.rs`). The first detaches the kernel driver of each
interface of the first configuration and claims the interface; the second releases every interface
of the active configuration and attaches its kernel driver again.

When a claim fails, the handle is dropped. That releases what was claimed, but the drivers that were
detached stay away. `allOrNothing_iff` says when a device is left as it was found.
-/

namespace AnyPlug

/-! ## The library -/

/-- The descriptor of a configuration: for each interface, the interface number of each of its
settings. -/
structure ConfigInterfaces where
  numInterfaces : UInt8
  interfaces : List (List UInt8)

/-- The interface number of the first setting of an interface. -/
def ConfigInterfaces.ifaceNum (config : ConfigInterfaces) (ifaceIdx : ℕ) : Option UInt8 :=
  config.interfaces[ifaceIdx]?.bind List.head?

/-- The interface numbers of all settings of all interfaces, in order. -/
def ConfigInterfaces.numbers (config : ConfigInterfaces) : List UInt8 := config.interfaces.flatten

/-- What the library answers to `claim_device`; `detach` and `claim` for each interface by its
index. -/
structure ClaimEnv where
  findDevice : UInt8 → UInt8 → UsbIpResult Unit
  openDevice : Except RusbError Unit
  configDescriptor : Except RusbError ConfigInterfaces
  detach : ℕ → Except RusbError Unit
  claim : ℕ → Except RusbError Unit

/-- What the library answers to `release_device`; `release` and `attach` for each call by its
number. -/
structure ReleaseEnv where
  activeConfig : Except RusbError ConfigInterfaces
  release : ℕ → Except RusbError Unit
  attach : ℕ → Except RusbError Unit

/-- All calls succeed. -/
def ReleaseEnv.succeeding (active : ConfigInterfaces) : ReleaseEnv :=
  ⟨.ok active, fun _ => .ok (), fun _ => .ok ()⟩

/-! ## The backend -/

/-- The backend, and the state of the device it works on. -/
structure LibusbBackend where
  /-- The interfaces of the device that have a kernel driver. -/
  attached : UInt8 → Bool
  /-- The interfaces of the device that a handle has claimed. -/
  claimed : ℕ → UInt8 → Bool
  /-- The handle of a bus id. -/
  handles : String → Option ℕ
  /-- The number of handles that were opened. -/
  opened : ℕ

namespace LibusbBackend

/-- Dropping a handle releases its interfaces, and attaches no driver. -/
def drop (s : LibusbBackend) (id : ℕ) : LibusbBackend :=
  { s with claimed := Function.update s.claimed id fun _ => false }

/-- `detach_kernel_driver`, with its answer ignored. -/
def detachKernelDriver (s : LibusbBackend) (num : UInt8) (answer : Except RusbError Unit) :
    LibusbBackend :=
  match answer with
  | .ok () => { s with attached := Function.update s.attached num false }
  | .error _ => s

/-- A claim that succeeds. -/
def claimInterface (s : LibusbBackend) (id : ℕ) (num : UInt8) : LibusbBackend :=
  { s with claimed := Function.update s.claimed id (Function.update (s.claimed id) num true) }

/-- `release_interface`, with its answer ignored. -/
def releaseInterface (s : LibusbBackend) (id : ℕ) (num : UInt8) (answer : Except RusbError Unit) :
    LibusbBackend :=
  match answer with
  | .ok () =>
    { s with claimed := Function.update s.claimed id (Function.update (s.claimed id) num false) }
  | .error _ => s

/-- `attach_kernel_driver`, with its answer ignored. -/
def attachKernelDriver (s : LibusbBackend) (num : UInt8) (answer : Except RusbError Unit) :
    LibusbBackend :=
  match answer with
  | .ok () => { s with attached := Function.update s.attached num true }
  | .error _ => s

/-- Detach and claim the interfaces with the given indices, up to the first claim that fails. -/
def claimInterfaces (env : ClaimEnv) (config : ConfigInterfaces) (id : ℕ) :
    List ℕ → LibusbBackend → UsbIpResult Unit × LibusbBackend
  | [], s => (.ok (), s)
  | idx :: rest, s =>
    match config.ifaceNum idx with
    | none => claimInterfaces env config id rest s
    | some num =>
      let s := s.detachKernelDriver num (env.detach idx)
      match env.claim idx with
      | .ok () => claimInterfaces env config id rest (s.claimInterface id num)
      | .error e => (.error (mapUsbErr e), s)

/-- Enter a handle. One that was there before is dropped. -/
def insert (s : LibusbBackend) (busid : String) (id : ℕ) : LibusbBackend :=
  let s :=
    match s.handles busid with
    | some old => s.drop old
    | none => s
  { s with handles := Function.update s.handles busid (some id) }

/-- Claim a device (detach kernel driver, claim interface). -/
def claimDevice (env : ClaimEnv) (busid : String) (s : LibusbBackend) :
    UsbIpResult Unit × LibusbBackend :=
  match parseBusid busid with
  | .error e => (.error e, s)
  | .ok (busnum, devnum) =>
    match env.findDevice busnum devnum with
    | .error e => (.error e, s)
    | .ok () =>
      match env.openDevice with
      | .error e => (.error (mapUsbErr e), s)
      | .ok () =>
        let id := s.opened
        let s := { s with opened := id + 1 }
        match env.configDescriptor with
        | .error e => (.error (mapUsbErr e), s.drop id)
        | .ok config =>
          -- the handle is dropped at the `?` of a claim that fails
          match claimInterfaces env config id (List.range config.numInterfaces.toNat) s with
          | (.error e, s) => (.error e, s.drop id)
          | (.ok (), s) => (.ok (), s.insert busid id)

/-- Release the interfaces with the given numbers, and attach their drivers. -/
def releaseInterfaces (env : ReleaseEnv) (id : ℕ) : ℕ → List UInt8 → LibusbBackend → LibusbBackend
  | _, [], s => s
  | k, num :: rest, s =>
    releaseInterfaces env id (k + 1) rest
      ((s.releaseInterface id num (env.release k)).attachKernelDriver num (env.attach k))

/-- Release a claimed device. -/
def releaseDevice (env : ReleaseEnv) (busid : String) (s : LibusbBackend) :
    UsbIpResult Unit × LibusbBackend :=
  match s.handles busid with
  | none => (.ok (), s)
  | some id =>
    let s := { s with handles := Function.update s.handles busid none }
    let s :=
      match env.activeConfig with
      | .ok config => releaseInterfaces env id 0 config.numbers s
      | .error _ => s
    (.ok (), s.drop id)

end LibusbBackend

/-! ## The manager -/

/-- The device manager: the bus ids that it has claimed, and its backend. -/
structure UsbDeviceManager where
  handles : String → Bool
  backend : LibusbBackend

namespace UsbDeviceManager

/-- Claim a device. -/
def claimDevice (m : UsbDeviceManager) (env : ClaimEnv) (busid : String) :
    UsbIpResult Unit × UsbDeviceManager :=
  match m.backend.claimDevice env busid with
  | (.error e, backend) => (.error e, { m with backend })
  | (.ok (), backend) => (.ok (), ⟨Function.update m.handles busid true, backend⟩)

/-- Release a claimed device. -/
def releaseDevice (m : UsbDeviceManager) (env : ReleaseEnv) (busid : String) :
    UsbIpResult Unit × UsbDeviceManager :=
  let handles := Function.update m.handles busid false
  match m.backend.releaseDevice env busid with
  | (.error e, backend) => (.error e, ⟨handles, backend⟩)
  | (.ok (), backend) => (.ok (), ⟨handles, backend⟩)

end UsbDeviceManager

/-! ## What claiming does -/

namespace ClaimEnv

variable (env : ClaimEnv)

/-- The configuration whose interfaces are claimed, if the library gets as far as that. -/
def config (busid : String) : Option ConfigInterfaces :=
  match parseBusid busid with
  | .error _ => none
  | .ok (busnum, devnum) =>
    match env.findDevice busnum devnum, env.openDevice, env.configDescriptor with
    | .ok (), .ok (), .ok config => some config
    | _, _, _ => none

/-- The interfaces that are detached, by index and number: those up to the first whose claim
fails. -/
def visited (config : ConfigInterfaces) : List ℕ → List (ℕ × UInt8)
  | [] => []
  | idx :: rest =>
    match config.ifaceNum idx with
    | none => visited config rest
    | some num =>
      (idx, num) ::
        match env.claim idx with
        | .ok () => visited config rest
        | .error _ => []

/-- No claim fails. -/
def Claims (config : ConfigInterfaces) (idxs : List ℕ) : Prop :=
  ∀ p ∈ env.visited config idxs, env.claim p.1 = .ok ()

/-- The driver of an interface is detached. -/
def Detaches (config : ConfigInterfaces) (idxs : List ℕ) (num : UInt8) : Prop :=
  ∃ idx, (idx, num) ∈ env.visited config idxs ∧ env.detach idx = .ok ()

end ClaimEnv

namespace LibusbBackend

variable {env : ClaimEnv} {config : ConfigInterfaces} {id : ℕ} {s : LibusbBackend}

theorem attached_detachKernelDriver (s : LibusbBackend) (num num' : UInt8)
    (answer : Except RusbError Unit) :
    (s.detachKernelDriver num answer).attached num' = true ↔
      s.attached num' = true ∧ ¬(num' = num ∧ answer = .ok ()) := by
  cases answer with
  | error e => simp [detachKernelDriver]
  | ok a =>
    by_cases h : num' = num
    · subst h
      simp [detachKernelDriver]
    · simp [detachKernelDriver, h]

/-- What does not change while the interfaces of a handle are claimed. -/
structure SameButClaims (id : ℕ) (s t : LibusbBackend) : Prop where
  claimed : ∀ id', id' ≠ id → t.claimed id' = s.claimed id'
  handles : t.handles = s.handles

theorem SameButClaims.refl (id : ℕ) (s : LibusbBackend) : SameButClaims id s s := ⟨by simp, rfl⟩

theorem SameButClaims.trans {t u : LibusbBackend} (h : SameButClaims id s t)
    (h' : SameButClaims id t u) : SameButClaims id s u :=
  ⟨fun id' hid => (h'.claimed id' hid).trans (h.claimed id' hid), h'.handles.trans h.handles⟩

theorem sameButClaims_detach (num : UInt8) (answer : Except RusbError Unit) :
    SameButClaims id s (s.detachKernelDriver num answer) := by
  cases answer <;> exact ⟨by simp [detachKernelDriver], rfl⟩

theorem sameButClaims_claim (num : UInt8) : SameButClaims id s (s.claimInterface id num) :=
  ⟨fun _ hid => Function.update_of_ne hid .., rfl⟩

theorem exists_mem_cons_detach (idx : ℕ) (num num' : UInt8) (visited : List (ℕ × UInt8)) :
    (∃ i, (i, num') ∈ (idx, num) :: visited ∧ env.detach i = .ok ()) ↔
      (num' = num ∧ env.detach idx = .ok ()) ∨
        ∃ i, (i, num') ∈ visited ∧ env.detach i = .ok () := by
  constructor
  · rintro ⟨i, hmem, hok⟩
    rcases List.mem_cons.1 hmem with heq | hmem
    · obtain ⟨rfl, rfl⟩ := Prod.mk.inj heq
      exact .inl ⟨rfl, hok⟩
    · exact .inr ⟨i, hmem, hok⟩
  · rintro (⟨rfl, hok⟩ | ⟨i, hmem, hok⟩)
    · exact ⟨idx, by simp, hok⟩
    · exact ⟨i, by simp [hmem], hok⟩

/-- **What the loop of `claim_device` does**: it succeeds exactly when no claim fails, and the
drivers that are left are those that were not detached. -/
theorem claimInterfaces_spec (env : ClaimEnv) (config : ConfigInterfaces) (id : ℕ)
    (idxs : List ℕ) (s : LibusbBackend) :
    ((claimInterfaces env config id idxs s).1 = .ok () ↔ env.Claims config idxs) ∧
      (∀ num, (claimInterfaces env config id idxs s).2.attached num = true ↔
        s.attached num = true ∧ ¬env.Detaches config idxs num) ∧
      SameButClaims id s (claimInterfaces env config id idxs s).2 := by
  induction idxs generalizing s with
  | nil => exact ⟨by simp [claimInterfaces, ClaimEnv.Claims, ClaimEnv.visited],
      by simp [claimInterfaces, ClaimEnv.Detaches, ClaimEnv.visited], .refl id s⟩
  | cons idx rest ih =>
    rw [claimInterfaces]
    cases hnum : config.ifaceNum idx with
    | none =>
      have hvisited : env.visited config (idx :: rest) = env.visited config rest := by
        rw [ClaimEnv.visited, hnum]
      simp only [ClaimEnv.Claims, ClaimEnv.Detaches, hvisited]
      exact ih s
    | some num =>
      have hdetach := attached_detachKernelDriver s num
      cases hclaim : env.claim idx with
      | error e =>
        have hvisited : env.visited config (idx :: rest) = [(idx, num)] := by
          rw [ClaimEnv.visited, hnum, hclaim]
        refine ⟨?_, fun num' => ?_, sameButClaims_detach num _⟩
        · simp [ClaimEnv.Claims, hvisited, hclaim]
        · rw [hdetach, ClaimEnv.Detaches, hvisited, exists_mem_cons_detach]
          simp
      | ok a =>
        have hvisited : env.visited config (idx :: rest) =
            (idx, num) :: env.visited config rest := by
          rw [ClaimEnv.visited, hnum, hclaim]
        obtain ⟨hok, hattached, hsame⟩ :=
          ih ((s.detachKernelDriver num (env.detach idx)).claimInterface id num)
        refine ⟨?_, fun num' => ?_,
          ((sameButClaims_detach num _).trans (sameButClaims_claim num)).trans hsame⟩
        · dsimp only
          rw [hok]
          simp [ClaimEnv.Claims, hvisited, hclaim]
        · dsimp only
          rw [hattached]
          have hkeep : ((s.detachKernelDriver num (env.detach idx)).claimInterface id num).attached
            num' = (s.detachKernelDriver num (env.detach idx)).attached num' := rfl
          rw [hkeep, hdetach, ClaimEnv.Detaches, ClaimEnv.Detaches, hvisited,
            exists_mem_cons_detach, not_or, and_assoc]

/-- No handle has claimed an interface. -/
def Unclaimed (s : LibusbBackend) : Prop := ∀ id num, s.claimed id num = false

theorem Unclaimed.drop (h : s.Unclaimed) (id : ℕ) : (s.drop id).Unclaimed := by
  intro id' num
  by_cases hid : id' = id
  · subst hid
    simp [LibusbBackend.drop]
  · simpa [LibusbBackend.drop, hid] using h id' num

/-- Dropping the one handle that has claimed interfaces leaves none claimed. -/
theorem SameButClaims.unclaimed_drop {t : LibusbBackend} (h : SameButClaims id s t)
    (hs : ∀ id', id' ≠ id → ∀ num, s.claimed id' num = false) : (t.drop id).Unclaimed := by
  intro id' num
  by_cases hid : id' = id
  · subst hid
    simp [LibusbBackend.drop]
  · have hsame := congrFun (h.claimed id' hid) num
    simpa [LibusbBackend.drop, hid, hsame] using hs id' hid num

/-- Nothing is done to a device that the library does not get to claim. -/
theorem claimDevice_of_config_none {busid : String} (h : env.config busid = none)
    (hs : s.Unclaimed) : ∃ e t, claimDevice env busid s = (.error e, t) ∧ t.Unclaimed ∧
      t.attached = s.attached ∧ t.handles = s.handles := by
  unfold ClaimEnv.config at h
  unfold claimDevice
  cases hparse : parseBusid busid with
  | error e => exact ⟨e, s, rfl, hs, rfl, rfl⟩
  | ok p =>
    rw [hparse] at h
    dsimp only at h ⊢
    cases hfind : env.findDevice p.1 p.2 with
    | error e => exact ⟨e, s, rfl, hs, rfl, rfl⟩
    | ok a =>
      cases hopen : env.openDevice with
      | error e => exact ⟨mapUsbErr e, s, rfl, hs, rfl, rfl⟩
      | ok a =>
        cases hconfig : env.configDescriptor with
        | error e =>
          have hdrop : (LibusbBackend.drop { s with opened := s.opened + 1 } s.opened).Unclaimed :=
            Unclaimed.drop (s := { s with opened := s.opened + 1 }) hs s.opened
          exact ⟨mapUsbErr e, _, rfl, hdrop, rfl, rfl⟩
        | ok config =>
          rw [hfind, hopen, hconfig] at h
          cases h

/-- The state in which the loop of `claim_device` starts. -/
def openHandle (s : LibusbBackend) : LibusbBackend := { s with opened := s.opened + 1 }

theorem claimDevice_of_config_some {busid : String} (h : env.config busid = some config)
    (s : LibusbBackend) : claimDevice env busid s =
      match claimInterfaces env config s.opened (List.range config.numInterfaces.toNat)
        s.openHandle with
      | (.error e, t) => (.error e, t.drop s.opened)
      | (.ok (), t) => (.ok (), t.insert busid s.opened) := by
  unfold ClaimEnv.config at h
  split at h
  · cases h
  · rename_i busnum devnum hparse
    split at h
    · rename_i config' hfind hopen hconfig
      obtain rfl := Option.some.inj h
      simp only [claimDevice, hparse, hfind, hopen, hconfig]
      rfl
    · cases h

/-- **What `release_device` does** when all calls succeed: every driver of the active configuration
is attached. -/
theorem releaseInterfaces_spec (active : ConfigInterfaces) (id k : ℕ) (nums : List UInt8)
    (s : LibusbBackend) :
    (∀ num, (releaseInterfaces (.succeeding active) id k nums s).attached num = true ↔
        s.attached num = true ∨ num ∈ nums) ∧
      SameButClaims id s (releaseInterfaces (.succeeding active) id k nums s) := by
  induction nums generalizing k s with
  | nil => exact ⟨by simp [releaseInterfaces], .refl id s⟩
  | cons num rest ih =>
    obtain ⟨hattached, hsame⟩ := ih (k + 1)
      ((s.releaseInterface id num (.ok ())).attachKernelDriver num (.ok ()))
    have hone : SameButClaims id s
        ((s.releaseInterface id num (.ok ())).attachKernelDriver num (.ok ())) :=
      ⟨fun _ hid => Function.update_of_ne hid .., rfl⟩
    refine ⟨fun num' => ?_, hone.trans hsame⟩
    refine (hattached num').trans ?_
    by_cases hnum : num' = num
    · subst hnum
      simp [attachKernelDriver]
    · simp [attachKernelDriver, releaseInterface, hnum]

theorem handles_insert (s : LibusbBackend) (busid : String) (id : ℕ) :
    (s.insert busid id).handles busid = some id := Function.update_self ..

theorem attached_insert (s : LibusbBackend) (busid : String) (id : ℕ) :
    (s.insert busid id).attached = s.attached := by
  unfold LibusbBackend.insert
  cases s.handles busid <;> rfl

/-- Entering a handle claims nothing. -/
theorem unclaimed_insert {busid : String} {id : ℕ} {s : LibusbBackend}
    (hs : ∀ id', id' ≠ id → ∀ num, s.claimed id' num = false) (id' : ℕ) (hid : id' ≠ id)
    (num : UInt8) : (s.insert busid id).claimed id' num = false := by
  unfold LibusbBackend.insert
  cases s.handles busid with
  | none => exact hs id' hid num
  | some old =>
    by_cases hold : id' = old
    · subst hold
      simp [LibusbBackend.drop]
    · simpa [LibusbBackend.drop, hold] using hs id' hid num

/-- A device that is released has no handle with a claim, and the drivers of the active
configuration. -/
theorem releaseDevice_of_some {busid : String} (h : s.handles busid = some id)
    (active : ConfigInterfaces) (hs : ∀ id', id' ≠ id → ∀ num, s.claimed id' num = false) :
    ∃ t, s.releaseDevice (.succeeding active) busid = (.ok (), t) ∧ t.Unclaimed ∧
      ∀ num, t.attached num = true ↔ s.attached num = true ∨ num ∈ active.numbers := by
  obtain ⟨hattached, hsame⟩ := releaseInterfaces_spec active id 0 active.numbers
    { s with handles := Function.update s.handles busid none }
  refine ⟨_, by rw [releaseDevice, h]; rfl, hsame.unclaimed_drop hs, hattached⟩

end LibusbBackend

/-! ## All or nothing -/

/-- A claim that has failed left the device and the maps as they were. -/
structure Undone (before after : UsbDeviceManager) : Prop where
  unclaimed : after.backend.Unclaimed
  attached : ∀ num, before.backend.attached num = true → after.backend.attached num = true
  backendHandles : after.backend.handles = before.backend.handles
  handles : after.handles = before.handles

/-- A device that was released is as it was before it was claimed. -/
structure Restored (before after : UsbDeviceManager) : Prop where
  unclaimed : after.backend.Unclaimed
  attached : ∀ num, before.backend.attached num = true → after.backend.attached num = true

namespace UsbDeviceManager

/-- Claiming is all or nothing: a claim that fails is undone, and one that succeeds is undone by the
release, if all calls of the release succeed. -/
def AllOrNothing (m : UsbDeviceManager) (env : ClaimEnv) (busid : String)
    (active : ConfigInterfaces) : Prop :=
  match m.claimDevice env busid with
  | (.error _, m') => Undone m m'
  | (.ok (), m') => Restored m (m'.releaseDevice (.succeeding active) busid).2

/-- **When claiming is all or nothing**: whenever the driver of an interface is detached, no claim
fails, and the interface is one of the active configuration. -/
theorem allOrNothing_iff (m : UsbDeviceManager) (env : ClaimEnv) (busid : String)
    (active : ConfigInterfaces) (hfresh : m.backend.Unclaimed) :
    m.AllOrNothing env busid active ↔ ∀ config, env.config busid = some config →
      ∀ num, m.backend.attached num = true →
        env.Detaches config (List.range config.numInterfaces.toNat) num →
          env.Claims config (List.range config.numInterfaces.toNat) ∧ num ∈ active.numbers := by
  unfold AllOrNothing claimDevice
  cases hconfig : env.config busid with
  | none =>
    obtain ⟨e, t, ht, hclaims, hattached, hhandles⟩ :=
      LibusbBackend.claimDevice_of_config_none hconfig hfresh
    rw [ht]
    refine iff_of_true ⟨hclaims, fun num hnum => ?_, hhandles, rfl⟩ (by simp)
    show t.attached num = true
    rw [hattached]
    exact hnum
  | some config =>
    obtain ⟨hok, hattached, hsame⟩ := LibusbBackend.claimInterfaces_spec env config
      m.backend.opened (List.range config.numInterfaces.toNat) m.backend.openHandle
    have hother : ∀ id', id' ≠ m.backend.opened → ∀ num,
        m.backend.openHandle.claimed id' num = false := fun id' _ num => hfresh id' num
    rw [LibusbBackend.claimDevice_of_config_some hconfig]
    cases hrun : LibusbBackend.claimInterfaces env config m.backend.opened
      (List.range config.numInterfaces.toNat) m.backend.openHandle with
    | mk r t =>
      rw [hrun] at hok hattached hsame
      cases r with
      | error e =>
        have hfails : ¬env.Claims config (List.range config.numInterfaces.toNat) := by
          rw [← hok]
          simp
        change Undone m ⟨m.handles, t.drop m.backend.opened⟩ ↔ _
        constructor
        · intro h config' hconfig' num hnum hdetach
          obtain rfl := Option.some.inj hconfig'
          exact absurd hdetach ((hattached num).1 (h.attached num hnum)).2
        · intro h
          exact ⟨hsame.unclaimed_drop hother, fun num hnum => (hattached num).2
            ⟨hnum, fun hdetach => hfails (h config rfl num hnum hdetach).1⟩, hsame.handles, rfl⟩
      | ok a =>
        obtain ⟨u, hu, hunclaimed, hrestored⟩ := LibusbBackend.releaseDevice_of_some
          (LibusbBackend.handles_insert t busid m.backend.opened) active
          (LibusbBackend.unclaimed_insert fun id' hid num =>
            (congrFun (hsame.claimed id' hid) num).trans (hother id' hid num))
        have hreleased : (UsbDeviceManager.releaseDevice ⟨Function.update m.handles busid true,
            t.insert busid m.backend.opened⟩ (.succeeding active) busid).2.backend = u := by
          rw [UsbDeviceManager.releaseDevice, hu]
        have hclaims := hok.1 rfl
        change Restored m (UsbDeviceManager.releaseDevice ⟨Function.update m.handles busid true,
            t.insert busid m.backend.opened⟩ (.succeeding active) busid).2 ↔ _
        constructor
        · intro h config' hconfig' num hnum hdetach
          obtain rfl := Option.some.inj hconfig'
          have hback := h.attached num hnum
          rw [hreleased, hrestored, LibusbBackend.attached_insert] at hback
          exact ⟨hclaims, hback.resolve_left fun hleft => ((hattached num).1 hleft).2 hdetach⟩
        · intro h
          refine ⟨by rw [hreleased]; exact hunclaimed, fun num hnum => ?_⟩
          rw [hreleased, hrestored, LibusbBackend.attached_insert]
          by_cases hdetach : env.Detaches config (List.range config.numInterfaces.toNat) num
          · exact .inr (h config rfl num hnum hdetach).2
          · exact .inl ((hattached num).2 ⟨hnum, hdetach⟩)

/-- A claim that has failed is undone, if claiming is all or nothing. -/
theorem AllOrNothing.undone {m : UsbDeviceManager} {env : ClaimEnv} {busid : String}
    {active : ConfigInterfaces} (h : m.AllOrNothing env busid active) {e : ErrorKind}
    (he : (m.claimDevice env busid).1 = .error e) : Undone m (m.claimDevice env busid).2 := by
  unfold AllOrNothing at h
  split at h
  · rename_i heq
    rw [heq]
    exact h
  · rename_i heq
    rw [heq] at he
    cases he

/-- A wheel with a pedal interface, and the kernel's driver on both. -/
def wheelManager : UsbDeviceManager :=
  ⟨fun _ => false, ⟨fun num => num ≤ 1, fun _ _ => false, fun _ => none, 0⟩⟩

def wheelConfig : ConfigInterfaces := ⟨2, [[0], [1]]⟩

/-- All calls succeed but the claims with the given answers. -/
def wheelClaims (claim : ℕ → Except RusbError Unit) : ClaimEnv :=
  ⟨fun _ _ => .ok (), .ok (), .ok wheelConfig, fun _ => .ok (), claim⟩

/-- The wheel is claimed and released. -/
theorem allOrNothing_wheel :
    wheelManager.AllOrNothing (wheelClaims fun _ => .ok ()) "1-1" wheelConfig := by
  refine (allOrNothing_iff wheelManager (wheelClaims fun _ => .ok ()) "1-1" wheelConfig
    fun _ _ => rfl).2 fun config hconfig num _ hdetach => ?_
  obtain rfl : wheelConfig = config := Option.some.inj hconfig
  refine ⟨fun _ _ => rfl, ?_⟩
  obtain ⟨idx, hmem, -⟩ := hdetach
  have hvisited : (wheelClaims fun _ => .ok ()).visited wheelConfig
      (List.range wheelConfig.numInterfaces.toNat) = [(0, 0), (1, 1)] := rfl
  rw [hvisited] at hmem
  rcases List.mem_cons.1 hmem with heq | hmem
  · rw [(Prod.mk.inj heq).2]
    decide
  · rw [(Prod.mk.inj (List.mem_singleton.1 hmem)).2]
    decide

/-- When the pedals cannot be claimed, the wheel has lost both of its drivers. -/
theorem not_allOrNothing_busy :
    ¬wheelManager.AllOrNothing
      (wheelClaims fun idx => if idx = 0 then .ok () else .error .busy) "1-1" wheelConfig := by
  intro h
  have hundone := h.undone (e := .usb .busy) (by decide +kernel)
  have hdriver := hundone.attached 0 (by decide)
  revert hdriver
  decide +kernel

end UsbDeviceManager

end AnyPlug
