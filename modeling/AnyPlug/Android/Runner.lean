import AnyPlug.Android.Handshake
import AnyPlug.Foundations.Transition

/-!
# The life of a runner

`start` and `stop` of `UsbIpServer`. `start` runs once, in a coroutine: it finds the device, claims
its interfaces, publishes the connection in a field, binds the port and accepts clients until it is
stopped. `stop` may be called at any time, from several threads at once; it clears `running`, closes
the sockets, takes the connection out of the field and releases it. Only the closing of the sockets
and the taking are under a lock. `claimDevice`, with its loop over the interfaces, is a single
step, and so is the loop that releases them and closes the connection: what they touch belongs to
the call that runs them.

The connection has one owner at a time (`Owner`): `start` until it is published, then the field,
then the call of `stop` that took it. So the interfaces are claimed all or none of them, and
released once (`owner_of_reachable`). A `stop` that looks for the connection before it is published
leaves it claimed (`claimed_iff`).
-/

namespace AnyPlug

namespace Android

/-! ## Claiming -/

/-- What a server holds of the device, as the USB service sees it. -/
structure UsbHold where
  opened : Bool
  claimed : Finset ℕ
  deriving DecidableEq

namespace UsbHold

def nothing : UsbHold := ⟨false, ∅⟩

/-- The device is open, with all its interfaces claimed. -/
def full (device : ExportedDevice) : UsbHold := ⟨true, Finset.range device.interfaces.length⟩

theorem full_ne_nothing (device : ExportedDevice) : full device ≠ nothing := by
  simp [full, nothing]

/-- Release the interfaces below `n`, and close the connection. -/
def release (u : UsbHold) (n : ℕ) : UsbHold :=
  ⟨false, (List.range n).foldl Finset.erase u.claimed⟩

theorem mem_foldl_erase {is : List ℕ} {s : Finset ℕ} {j : ℕ} :
    j ∈ is.foldl Finset.erase s ↔ j ∈ s ∧ j ∉ is := by
  induction is generalizing s with
  | nil => simp
  | cons i is ih =>
    rw [List.foldl_cons, ih, Finset.mem_erase, List.mem_cons]
    tauto

theorem release_range (opened : Bool) (n : ℕ) :
    (⟨opened, Finset.range n⟩ : UsbHold).release n = nothing := by
  rw [release, nothing, UsbHold.mk.injEq]
  refine ⟨rfl, Finset.ext fun j => ?_⟩
  simp [mem_foldl_erase]

end UsbHold

/-- What the USB service answers when a device is claimed. -/
structure ClaimAnswers where
  hasPermission : Bool
  openDevice : Bool
  claimInterface : ℕ → Bool

/-- Claim the interfaces from `i` on, `n` of them. When one fails, those before it are released and
the connection is closed. The flag says whether there is a connection. -/
def claimFrom (answers : ClaimAnswers) : ℕ → ℕ → UsbHold → UsbHold × Bool
  | 0, _, u => (u, true)
  | n + 1, i, u =>
    if answers.claimInterface i then
      claimFrom answers n (i + 1) { u with claimed := insert i u.claimed }
    else (u.release i, false)

def claimDevice (answers : ClaimAnswers) (device : ExportedDevice) : UsbHold × Bool :=
  if answers.hasPermission && answers.openDevice then
    claimFrom answers device.interfaces.length 0 ⟨true, ∅⟩
  else (.nothing, false)

/-- **Claiming is all or nothing.** -/
theorem claimDevice_cases (answers : ClaimAnswers) (device : ExportedDevice) :
    claimDevice answers device = (.full device, true) ∨
      claimDevice answers device = (.nothing, false) := by
  have hfrom (n i : ℕ) :
      claimFrom answers n i ⟨true, Finset.range i⟩ = (⟨true, Finset.range (i + n)⟩, true) ∨
        claimFrom answers n i ⟨true, Finset.range i⟩ = (.nothing, false) := by
    induction n generalizing i with
    | zero => exact .inl rfl
    | succ n ih =>
      rw [claimFrom]
      split
      · have hrec := ih (i + 1)
        rw [Finset.range_add_one, Nat.add_right_comm] at hrec
        exact hrec
      · rw [UsbHold.release_range]
        exact .inr rfl
  rw [claimDevice]
  split
  · have hall := hfrom device.interfaces.length 0
    rwa [Finset.range_zero, Nat.zero_add] at hall
  · exact .inr rfl

/-! ## The steps -/

/-- Where `start` stands. -/
inductive StartPhase
  | notCalled
  | find
  | claim
  /-- The device is claimed, and the connection is in a local variable. -/
  | publish
  | bind
  /-- `while (running)`. -/
  | test
  | accept
  /-- The `finally` block. -/
  | closeServer
  | ended
  deriving DecidableEq

/-- The connection is not in the field yet. -/
def StartPhase.early : StartPhase → Bool
  | .notCalled | .find | .claim | .publish => true
  | .bind | .test | .accept | .closeServer | .ended => false

/-- The server socket may be open. -/
def StartPhase.listening : StartPhase → Bool
  | .test | .accept | .closeServer => true
  | .notCalled | .find | .claim | .publish | .bind | .ended => false

/-- Where a call of `stop` stands. -/
inductive StopPhase
  | notCalled
  | closeSockets
  | takeDevice
  /-- The connection is in a local variable. -/
  | release (device : ExportedDevice)
  | done

/-- The fields of the server, where its calls stand, and the device as the USB service sees it. -/
structure Runner where
  running : Bool
  claimedDevice : Option ExportedDevice
  /-- `deviceConnection` is not null. -/
  connected : Bool
  /-- `serverSocket` is not null. -/
  listening : Bool
  start : StartPhase
  stops : ℕ → StopPhase
  usb : UsbHold

/-- A step of `start`, or of a call of `stop`, with what it is answered. -/
inductive RunnerEvent
  | start
  | findDevice (found : Option ExportedDevice)
  | claimDevice (answers : ClaimAnswers)
  | publish
  | bind (ok : Bool)
  | test
  /-- A client comes, or `accept` throws. -/
  | accept (client : Bool)
  | closeServer
  | stop (t : ℕ)
  | closeSockets (t : ℕ)
  | takeDevice (t : ℕ)
  | release (t : ℕ)

namespace Runner

def init : Runner := ⟨false, none, false, false, .notCalled, fun _ => .notCalled, .nothing⟩

def goto (s : Runner) (t : ℕ) (phase : StopPhase) : Runner :=
  { s with stops := Function.update s.stops t phase }

/-- One step. -/
def step (s : Runner) : RunnerEvent → Option Runner
  | .start =>
    match s.start with
    | .notCalled => some { s with running := true, start := .find }
    | _ => none
  | .findDevice found =>
    match s.start with
    | .find =>
      match found with
      | some device => some { s with claimedDevice := some device, start := .claim }
      | none => some { s with start := .ended }
    | _ => none
  | .claimDevice answers =>
    match s.start, s.claimedDevice with
    | .claim, some device =>
      let (usb, connection) := Android.claimDevice answers device
      some { s with usb := usb, start := if connection then .publish else .ended }
    -- `claimedDevice!!` throws
    | .claim, none => some { s with start := .ended }
    | _, _ => none
  | .publish =>
    match s.start with
    | .publish => some { s with connected := true, start := .bind }
    | _ => none
  | .bind ok =>
    match s.start with
    | .bind =>
      if ok then some { s with listening := true, start := .test }
      else some { s with start := .ended }
    | _ => none
  | .test =>
    match s.start with
    | .test => some { s with start := if s.running then .accept else .closeServer }
    | _ => none
  | .accept client =>
    match s.start with
    | .accept => some { s with start := if s.listening && client then .test else .closeServer }
    | _ => none
  | .closeServer =>
    match s.start with
    | .closeServer => some { s with listening := false, start := .ended }
    | _ => none
  | .stop t =>
    match s.stops t with
    | .notCalled => some ({ s with running := false }.goto t .closeSockets)
    | _ => none
  | .closeSockets t =>
    match s.stops t with
    | .closeSockets => some ({ s with listening := false }.goto t .takeDevice)
    | _ => none
  | .takeDevice t =>
    match s.stops t, s.connected, s.claimedDevice with
    | .takeDevice, true, some device =>
      some ({ s with connected := false, claimedDevice := none }.goto t (.release device))
    | .takeDevice, _, _ => some (s.goto t .done)
    | _, _, _ => none
  | .release t =>
    match s.stops t with
    | .release device =>
      some ({ s with usb := s.usb.release device.interfaces.length }.goto t .done)
    | _ => none

/-! ## The owner of the connection -/

/-- Who has the connection. -/
inductive Owner
  | start
  | field
  | stop (t : ℕ)

/-- The owner has the connection to the device. -/
def Owns (s : Runner) : Owner → ExportedDevice → Prop
  | .start, device => s.start = .publish ∧ s.claimedDevice = some device
  | .field, device => s.connected = true ∧ s.claimedDevice = some device
  | .stop t, device => s.stops t = .release device

/-- One owner has the connection to the device. -/
structure OwnedBy (s : Runner) (o : Owner) (device : ExportedDevice) : Prop where
  owns : s.Owns o device
  usb : s.usb = .full device
  unique : ∀ o' device', s.Owns o' device' → o' = o ∧ device' = device

/-- Nobody has a connection, and nothing is claimed. -/
structure Unowned (s : Runner) : Prop where
  usb : s.usb = .nothing
  none : ∀ o device, ¬s.Owns o device

structure Inv (s : Runner) : Prop where
  owner : s.Unowned ∨ ∃ o device, s.OwnedBy o device
  found : s.start = .claim ∨ s.start = .publish ∨ s.connected = true →
    s.claimedDevice.isSome = true
  early : s.start.early = true → s.connected = false ∧ ∀ t device, s.stops t ≠ .release device
  listening : s.listening = true → s.start.listening = true

variable {s t : Runner}

/-- A step that moves no connection keeps the owner. -/
theorem owner_of_owns (h : s.Unowned ∨ ∃ o device, s.OwnedBy o device)
    (howns : ∀ o device, t.Owns o device ↔ s.Owns o device) (husb : t.usb = s.usb) :
    t.Unowned ∨ ∃ o device, t.OwnedBy o device := by
  obtain ⟨hu, hn⟩ | ⟨o, device, ho, hu, hunique⟩ := h
  · exact .inl ⟨husb.trans hu, fun o device ho => hn o device ((howns o device).1 ho)⟩
  · exact .inr ⟨o, device, (howns o device).2 ho, husb.trans hu,
      fun o' device' ho' => hunique o' device' ((howns o' device').1 ho')⟩

/-- A call of `stop` that takes no part in the connection. -/
theorem owns_goto {i : ℕ} {phase : StopPhase} (hold : ∀ device, s.stops i ≠ .release device)
    (hnew : ∀ device, phase ≠ .release device) (o : Owner) (device : ExportedDevice) :
    (s.goto i phase).Owns o device ↔ s.Owns o device := by
  cases o with
  | start => exact Iff.rfl
  | field => exact Iff.rfl
  | stop j =>
    by_cases hj : j = i
    · subst hj
      simp [Owns, goto, hold device, hnew device]
    · simp [Owns, goto, hj]

/-- What holds of a call of `stop` that takes no part. -/
theorem release_goto {i : ℕ} {phase : StopPhase} (hnew : ∀ device, phase ≠ .release device)
    (h : ∀ j device, s.stops j ≠ .release device) (j : ℕ) (device : ExportedDevice) :
    (s.goto i phase).stops j ≠ .release device := by
  by_cases hj : j = i
  · subst hj
    simpa [goto] using hnew device
  · simpa [goto, hj] using h j device

theorem inv_init : Inv init where
  owner := by
    refine .inl ⟨rfl, fun o device ho => ?_⟩
    cases o with
    | start => cases ho.1
    | field => cases ho.1
    | stop t => cases ho
  found := by simp [init]
  early _ := ⟨rfl, fun t device h => by cases h⟩
  listening h := by cases h

/-- A step of `start` that moves no connection. -/
theorem Inv.goStart (hs : Inv s) {phase : StartPhase} {running listening : Bool}
    (hclaim : phase ≠ .claim) (hpublish : phase ≠ .publish) (hold : s.start ≠ .publish)
    (hearly : phase.early = true → s.start.early = true)
    (hlistening : listening = true → phase.listening = true) :
    Inv { s with running := running, listening := listening, start := phase } where
  owner := by
    refine owner_of_owns hs.owner (fun o device => ?_) rfl
    cases o with
    | start => simp [Owns, hpublish, hold]
    | field => exact Iff.rfl
    | stop t => exact Iff.rfl
  found h := by
    rcases h with h | h | h
    · exact absurd h hclaim
    · exact absurd h hpublish
    · exact hs.found (.inr (.inr h))
  early h := hs.early (hearly h)
  listening := hlistening

/-- A step of `stop` that moves no connection. -/
theorem Inv.goStop (hs : Inv s) {i : ℕ} {phase : StopPhase} {running listening : Bool}
    (hold : ∀ device, s.stops i ≠ .release device) (hnew : ∀ device, phase ≠ .release device)
    (hlistening : listening = true → s.listening = true) :
    Inv ({ s with running := running, listening := listening }.goto i phase) where
  owner := owner_of_owns hs.owner (fun o device =>
    (owns_goto (s := { s with running := running, listening := listening }) hold hnew o
      device).trans (by cases o <;> exact Iff.rfl)) rfl
  found := hs.found
  early h := ⟨(hs.early h).1, release_goto hnew (hs.early h).2⟩
  listening h := hs.listening (hlistening h)

/-- Where the connection is in a local variable of `start`, that is its only owner. -/
theorem Inv.publish_owner (hs : Inv s) (h : s.start = .publish) :
    ∃ device, s.claimedDevice = some device ∧ s.usb = .full device ∧
      ∀ t device', s.stops t ≠ .release device' := by
  obtain ⟨device, hdevice⟩ := Option.isSome_iff_exists.1 (hs.found (.inr (.inl h)))
  have hearly := hs.early (by rw [h]; rfl)
  obtain ⟨-, hn⟩ | ⟨o, device', -, hu, hunique⟩ := hs.owner
  · exact absurd ⟨h, hdevice⟩ (hn .start device)
  · obtain ⟨-, rfl⟩ := hunique .start device ⟨h, hdevice⟩
    exact ⟨device, hdevice, hu, hearly.2⟩

/-- Where the connection is in the field, that is its only owner. -/
theorem Inv.field_owner (hs : Inv s) (h : s.connected = true) :
    ∃ device, s.claimedDevice = some device ∧ s.usb = .full device ∧ s.start.early = false ∧
      ∀ t device', s.stops t ≠ .release device' := by
  obtain ⟨device, hdevice⟩ := Option.isSome_iff_exists.1 (hs.found (.inr (.inr h)))
  obtain ⟨-, hn⟩ | ⟨o, device', -, hu, hunique⟩ := hs.owner
  · exact absurd ⟨h, hdevice⟩ (hn .field device)
  · obtain ⟨rfl, rfl⟩ := hunique .field device ⟨h, hdevice⟩
    refine ⟨device, hdevice, hu, ?_, fun t device' hrelease => ?_⟩
    · cases hearly : s.start.early with
      | false => rfl
      | true =>
        rw [(hs.early hearly).1] at h
        cases h
    · cases (hunique (.stop t) device' hrelease).1

/-- A socket is open only while `start` listens. -/
theorem Inv.not_listening (hs : Inv s) (h : s.start.listening = false) : s.listening = false := by
  cases hl : s.listening with
  | false => rfl
  | true =>
    rw [hs.listening hl] at h
    cases h

/-- Before the device is claimed nobody has a connection. -/
theorem Inv.unowned (hs : Inv s) (hearly : s.start.early = true) (hpublish : s.start ≠ .publish) :
    s.Unowned := by
  obtain ⟨hconnected, hstops⟩ := hs.early hearly
  refine hs.owner.resolve_right ?_
  rintro ⟨o, device, ho, -, -⟩
  cases o with
  | start => exact hpublish ho.1
  | field => rw [ho.1] at hconnected; cases hconnected
  | stop t => exact hstops t device ho

/-- **Every step keeps the invariant.** -/
theorem inv_step (s : Runner) (a : RunnerEvent) (t : Runner) (hs : Inv s)
    (h : s.step a = some t) : Inv t := by
  cases a with
  | start =>
    simp only [step] at h
    split at h <;> cases h
    rename_i hstart
    have hnot := hs.not_listening (by rw [hstart]; rfl)
    exact hs.goStart (by simp) (by simp) (by simp [hstart]) (fun _ => by rw [hstart]; rfl)
      fun h => by rw [hnot] at h; cases h
  | findDevice found =>
    simp only [step] at h
    split at h
    · rename_i hstart
      have hearly := hs.early (by rw [hstart]; rfl)
      have hnot := hs.not_listening (by rw [hstart]; rfl)
      have hunowned := hs.unowned (by rw [hstart]; rfl) (by simp [hstart])
      cases found with
      | none =>
        cases h
        exact hs.goStart (by simp) (by simp) (by simp [hstart]) (fun h => by cases h)
          (fun h => by rw [hnot] at h; cases h)
      | some device =>
        cases h
        refine ⟨.inl ⟨hunowned.usb, fun o d ho => ?_⟩, fun _ => rfl, fun _ => hearly,
          fun h => by rw [hnot] at h; cases h⟩
        cases o with
        | start => cases ho.1
        | field => rw [hearly.1] at ho; cases ho.1
        | stop i => exact hearly.2 i d ho
    · cases h
  | claimDevice answers =>
    simp only [step] at h
    split at h
    · rename_i device hstart hdevice
      have hearly := hs.early (by rw [hstart]; rfl)
      have hnot := hs.not_listening (by rw [hstart]; rfl)
      rcases claimDevice_cases answers device with hclaim | hclaim
      · rw [hclaim] at h
        cases h
        refine ⟨.inr ⟨.start, device, ⟨rfl, hdevice⟩, rfl, fun o d ho => ?_⟩,
          fun _ => by rw [hdevice]; rfl, fun _ => hearly, fun h => by rw [hnot] at h; cases h⟩
        cases o with
        | start =>
          obtain rfl := Option.some.inj (hdevice.symm.trans ho.2)
          exact ⟨rfl, rfl⟩
        | field =>
          have hconnected : s.connected = true := ho.1
          rw [hearly.1] at hconnected
          cases hconnected
        | stop i => exact absurd ho (hearly.2 i d)
      · rw [hclaim] at h
        cases h
        refine ⟨.inl ⟨rfl, fun o d ho => ?_⟩, fun h => ?_, fun h => (by cases h),
          fun h => by rw [hnot] at h; cases h⟩
        · cases o with
          | start => cases ho.1
          | field =>
            have hconnected : s.connected = true := ho.1
            rw [hearly.1] at hconnected
            cases hconnected
          | stop i => exact hearly.2 i d ho
        · exact (by rw [hdevice]; rfl : s.claimedDevice.isSome = true)
    · rename_i hstart hdevice
      have hfound := hs.found (.inl hstart)
      rw [hdevice] at hfound
      cases hfound
    · cases h
  | publish =>
    simp only [step] at h
    split at h <;> cases h
    rename_i hstart
    obtain ⟨device, hdevice, husb, hstops⟩ := hs.publish_owner hstart
    refine ⟨.inr ⟨.field, device, ⟨rfl, hdevice⟩, husb, fun o d ho => ?_⟩,
      fun _ => by rw [hdevice]; rfl, fun h => (by cases h), fun h => ?_⟩
    · cases o with
      | start => cases ho.1
      | field =>
        obtain rfl := Option.some.inj (hdevice.symm.trans ho.2)
        exact ⟨rfl, rfl⟩
      | stop i => exact absurd ho (hstops i d)
    · have hnot := hs.not_listening (by rw [hstart]; rfl)
      have h : s.listening = true := h
      rw [hnot] at h
      cases h
  | bind ok =>
    simp only [step] at h
    split at h
    · rename_i hstart
      split at h <;> cases h
      · exact hs.goStart (by simp) (by simp) (by simp [hstart]) (fun h => by cases h)
          (fun _ => rfl)
      · have hnot := hs.not_listening (by rw [hstart]; rfl)
        exact hs.goStart (by simp) (by simp) (by simp [hstart]) (fun h => by cases h)
          fun h => by rw [hnot] at h; cases h
    · cases h
  | test =>
    simp only [step] at h
    split at h <;> cases h
    rename_i hstart
    split
    · exact hs.goStart (by simp) (by simp) (by simp [hstart]) (fun h => by cases h) (fun _ => rfl)
    · exact hs.goStart (by simp) (by simp) (by simp [hstart]) (fun h => by cases h) (fun _ => rfl)
  | accept client =>
    simp only [step] at h
    split at h <;> cases h
    rename_i hstart
    split
    · exact hs.goStart (by simp) (by simp) (by simp [hstart]) (fun h => by cases h) (fun _ => rfl)
    · exact hs.goStart (by simp) (by simp) (by simp [hstart]) (fun h => by cases h) (fun _ => rfl)
  | closeServer =>
    simp only [step] at h
    split at h <;> cases h
    rename_i hstart
    exact hs.goStart (by simp) (by simp) (by simp [hstart]) (fun h => by cases h)
      (fun h => by cases h)
  | stop i =>
    simp only [step] at h
    split at h <;> cases h
    rename_i hi
    exact hs.goStop (by simp [hi]) (by simp) id
  | closeSockets i =>
    simp only [step] at h
    split at h <;> cases h
    rename_i hi
    exact hs.goStop (by simp [hi]) (by simp) (fun h => by cases h)
  | takeDevice i =>
    simp only [step] at h
    split at h
    · rename_i device hi hconnected hdevice
      cases h
      obtain ⟨device', hdevice', husb, hearly, hstops⟩ := hs.field_owner hconnected
      obtain rfl := Option.some.inj (hdevice.symm.trans hdevice')
      refine ⟨.inr ⟨.stop i, device, by simp [Owns, goto], husb, fun o d ho => ?_⟩, fun h => ?_,
        fun h => ?_, hs.listening⟩
      · cases o with
        | start => cases ho.2
        | field => cases ho.1
        | stop j =>
          by_cases hj : j = i
          · subst hj
            have hd : StopPhase.release device = .release d := by simpa [Owns, goto] using ho
            cases hd
            exact ⟨rfl, rfl⟩
          · exact absurd (by simpa [Owns, goto, hj] using ho) (hstops j d)
      · -- the device was claimed before, so `start` is past that
        rcases h with h | h | h
        · have h : s.start = .claim := h
          rw [h] at hearly
          cases hearly
        · have h : s.start = .publish := h
          rw [h] at hearly
          cases hearly
        · cases h
      · have h : s.start.early = true := h
        rw [hearly] at h
        cases h
    · rename_i hi _
      cases h
      exact @Inv.goStop _ hs i _ s.running s.listening (by simp [hi]) (by simp) id
    · cases h
  | release i =>
    simp only [step] at h
    split at h <;> cases h
    rename_i device hi
    have howner : Owns s (.stop i) device := hi
    obtain ⟨-, hn⟩ | ⟨o, d, -, husb, hunique⟩ := hs.owner
    · exact absurd howner (hn _ _)
    · obtain ⟨rfl, rfl⟩ := hunique _ _ howner
      refine ⟨.inl ⟨?_, fun o d ho => ?_⟩, hs.found, fun h => ⟨(hs.early h).1, ?_⟩, hs.listening⟩
      · change s.usb.release device.interfaces.length = .nothing
        rw [husb]
        exact UsbHold.release_range _ _
      · cases o with
        | start => cases (hunique .start d ho).1
        | field => cases (hunique .field d ho).1
        | stop j =>
          by_cases hj : j = i
          · subst hj
            simp [Owns, goto] at ho
          · have ho' : s.Owns (.stop j) d := by simpa [Owns, goto, hj] using ho
            exact hj (Owner.stop.inj (hunique _ d ho').1)
      · exact release_goto (by simp) (hs.early h).2

theorem inv_of_reachable (h : Reachable step init s) : Inv s := h.invariant inv_step inv_init

/-- **The connection has one owner.** Whatever the interleaving of `start` with any number of calls
of `stop`: either nobody has a connection and nothing is claimed, or one of `start`, the field and
the calls of `stop` has it, and the device is open with all its interfaces claimed. And
`claimedDevice!!` does not throw. -/
theorem owner_of_reachable (h : Reachable step init s) :
    (s.Unowned ∨ ∃ o device, s.OwnedBy o device) ∧
      (s.start = .claim → ∃ device, s.claimedDevice = some device) := by
  have hs := inv_of_reachable h
  exact ⟨hs.owner, fun hclaim => Option.isSome_iff_exists.1 (hs.found (.inl hclaim))⟩

/-! ## What is left when all is over -/

/-- `start` has ended, and no call of `stop` is under way. -/
structure Over (s : Runner) : Prop where
  start : s.start = .ended
  stops : ∀ t, s.stops t = .notCalled ∨ s.stops t = .done

/-- A call of `stop` looks for the connection. -/
def IsTake (a : RunnerEvent) : Prop := ∃ t, a = .takeDevice t

/-- The connection is in the field when it was published and nobody has looked for it since. -/
theorem connected_step {s t : Runner} {a : RunnerEvent} (hs : Inv s) (h : s.step a = some t) :
    t.connected = true ↔ a = .publish ∨ ¬IsTake a ∧ s.connected = true := by
  cases a with
  | takeDevice i =>
    simp only [step] at h
    have hfound := hs.found
    split at h
    · cases h
      simp [IsTake, goto]
    · rename_i hno
      cases h
      have hconnected : s.connected = false := by
        cases hc : s.connected with
        | false => rfl
        | true =>
          obtain ⟨device, hdevice⟩ := Option.isSome_iff_exists.1 (hfound (.inr (.inr hc)))
          exact absurd hdevice (hno device hc)
      simp [IsTake, goto, hconnected]
    · cases h
  | publish =>
    simp only [step] at h
    split at h <;> cases h
    simp
  | _ =>
    simp only [step] at h
    repeat' split at h
    all_goals cases h
    all_goals simp [IsTake, goto]

theorem connected_iff_since {as : List RunnerEvent} (h : run step init as = some s) :
    s.connected = true ↔ Since IsTake .publish as := by
  induction as using List.reverseRecOn generalizing s with
  | nil =>
    obtain rfl := Option.some.inj h
    exact iff_of_false (by simp [init]) not_since_nil
  | append_singleton as a ih =>
    obtain ⟨u, hu, hstep⟩ := run_append_singleton_eq_some.1 h
    rw [connected_step (inv_of_reachable ⟨as, hu⟩) hstep, ih hu, since_append_singleton]

/-- **A runner leaves the device claimed exactly when nobody has looked for the connection since it
was published**: when `start` and all calls of `stop` are over, in whatever order their steps came,
either a `stop` has looked for the connection after `start` had published it, and everything is
released, or there was no such `stop`, and what was published is claimed for good. The server socket
is closed in any case. -/
theorem claimed_iff {as : List RunnerEvent} (h : run step init as = some s) (hover : s.Over) :
    (s.usb ≠ .nothing ↔ Since IsTake .publish as) ∧ s.listening = false := by
  have hs := inv_of_reachable ⟨as, h⟩
  refine ⟨?_, hs.not_listening (by rw [hover.start]; rfl)⟩
  rw [← connected_iff_since h]
  constructor
  · intro husb
    obtain ⟨hnothing, -⟩ | ⟨o, device, ho, -, -⟩ := hs.owner
    · exact absurd hnothing husb
    · cases o with
      | start =>
        have hpublish : s.start = .publish := ho.1
        rw [hover.start] at hpublish
        cases hpublish
      | field => exact ho.1
      | stop i =>
        have hrelease : s.stops i = .release device := ho
        rcases hover.stops i with hi | hi <;> rw [hi] at hrelease <;> cases hrelease
  · intro hconnected
    obtain ⟨device, -, husb, -, -⟩ := hs.field_owner hconnected
    rw [husb]
    exact UsbHold.full_ne_nothing device

/-- `stop` runs from end to end while `start` claims the device. -/
def stopDuringClaim (device : ExportedDevice) : List RunnerEvent :=
  [.start, .findDevice (some device), .stop 0, .closeSockets 0, .takeDevice 0,
    .claimDevice ⟨true, true, fun _ => true⟩, .publish, .bind true, .test, .closeServer]

/-- The phone stays claimed although the runner was stopped, and has ended. -/
theorem claimed_stopDuringClaim :
    ∃ s, run step init (stopDuringClaim phone) = some s ∧ s.Over ∧ s.running = false ∧
      s.usb ≠ .nothing := by
  obtain ⟨s, hrun, hstart, hrunning, hstops⟩ : ∃ s, run step init (stopDuringClaim phone) =
      some s ∧ s.start = .ended ∧ s.running = false ∧
        s.stops = Function.update (Function.update (Function.update (fun _ => .notCalled) 0
          .closeSockets) 0 .takeDevice) 0 .done := ⟨_, rfl, rfl, rfl, rfl⟩
  have hover : s.Over := by
    refine ⟨hstart, fun t => ?_⟩
    rw [hstops]
    by_cases ht : t = 0 <;> simp [ht]
  refine ⟨s, hrun, hover, hrunning, ((claimed_iff hrun hover).1).2 ?_⟩
  exact ⟨[.start, .findDevice (some phone), .stop 0, .closeSockets 0, .takeDevice 0,
    .claimDevice ⟨true, true, fun _ => true⟩], [.bind true, .test, .closeServer], rfl,
    by simp [IsTake]⟩

/-- In the same run the connection has an owner once it is published. -/
theorem owner_stopDuringClaim :
    ∃ s, Reachable step init s ∧ ∃ o device, s.OwnedBy o device := by
  obtain ⟨s, hrun, hconnected⟩ : ∃ s, run step init ((stopDuringClaim phone).take 7) = some s ∧
      s.usb = .full phone := ⟨_, rfl, rfl⟩
  obtain ⟨howner, -⟩ := owner_of_reachable ⟨_, hrun⟩
  refine ⟨s, ⟨_, hrun⟩, howner.resolve_left fun hnone => ?_⟩
  rw [hnone.usb] at hconnected
  exact UsbHold.full_ne_nothing phone hconnected.symm

end Runner

end Android

end AnyPlug
