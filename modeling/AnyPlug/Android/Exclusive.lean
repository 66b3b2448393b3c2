import AnyPlug.Android.Handshake
import AnyPlug.Foundations.Transition

/-!
# Clients of the Android server

`UsbIpServer` launches one coroutine for each client (`handleClient`), and all of them share the
claimed device. A client that asks for an import is answered and enters the URB loop; when the
server stops, the device is released under all of them.

The protocol has an answer for a device that is exported already and one for a bus id that names
nothing. The server gives neither: it does not look at the bus id, and it does not know who is in
the loop. `log` records what a client was told and when it entered; `Proper` is what the protocol
asks of a record. `proper_iff`: all is well exactly as long as the clients ask for the advertised
bus id one after the other, while the device is claimed.
-/

namespace AnyPlug

namespace Android

/-! ## State -/

/-- Where the coroutine of a client stands, with its local variables. -/
inductive ClientPhase
  | readHeader
  | devList
  | readBusid
  | lookup (busid : Vector UInt8 32)
  | describe (busid : Vector UInt8 32) (device : ExportedDevice)
  | reply (busid : Vector UInt8 32) (device : ExportedDevice) (descriptors : Bytes)
  | enterLoop (busid : Vector UInt8 32)
  | urbLoop (busid : Vector UInt8 32)
  | closed

def ClientPhase.inLoop : ClientPhase → Bool
  | .urbLoop _ => true
  | _ => false

/-- What happened to an import request: the bus id, and the other clients in the loop. -/
inductive Mark
  /-- The reply was sent. -/
  | replied (busid : Vector UInt8 32) (others : List ℕ) (reply : Bytes)
  /-- The connection was closed without a reply. -/
  | dropped (busid : Vector UInt8 32)
  | entered (busid : Vector UInt8 32) (others : List ℕ)

/-- The fields of the server that the clients share, and the clients. `loop` lists the clients in
the loop, for the records. -/
structure UsbIpServer where
  claimedDevice : Option ExportedDevice
  connected : Bool
  clients : ℕ → ClientPhase
  loop : List ℕ
  log : List Mark

/-- A step of a client, with the outcome of its reads and writes, or of the server. -/
inductive ClientEvent
  | readHeader (i : ℕ) (r : Option (Vector UInt8 8))
  | devList (i : ℕ)
  | readBusid (i : ℕ) (r : Option (Vector UInt8 32))
  | lookup (i : ℕ)
  /-- What the connection returns as the raw descriptors. -/
  | describe (i : ℕ) (raw : Option Bytes)
  /-- The reply is written; an exception closes the connection. -/
  | reply (i : ℕ) (written : Bool)
  | enterLoop (i : ℕ)
  | leave (i : ℕ)
  | releaseDevice

namespace UsbIpServer

/-- The server with a claimed device, before its first client. -/
def start (device : ExportedDevice) : UsbIpServer :=
  ⟨some device, true, fun _ => .readHeader, [], []⟩

def goto (s : UsbIpServer) (i : ℕ) (phase : ClientPhase) : UsbIpServer :=
  { s with clients := Function.update s.clients i phase }

def record (s : UsbIpServer) (m : Mark) : UsbIpServer := { s with log := s.log ++ [m] }

/-- The other clients in the loop. -/
def others (s : UsbIpServer) (i : ℕ) : List ℕ := s.loop.filter (· ≠ i)

/-- What a client is served, by the command of its header. -/
def dispatch (headerBuf : Vector UInt8 8) : ClientPhase :=
  match getShort headerBuf.toList 2 with
  | none => .closed
  | some command =>
    if command = opReqDevlist then .devList
    else if command = opReqImport then .readBusid
    else .closed

/-- One step. -/
def step (s : UsbIpServer) : ClientEvent → Option UsbIpServer
  | .readHeader i r =>
    match s.clients i with
    | .readHeader => some (s.goto i (r.elim .closed dispatch))
    | _ => none
  | .devList i =>
    match s.clients i with
    | .devList => some (s.goto i .closed)
    | _ => none
  | .readBusid i r =>
    match s.clients i with
    | .readBusid => some (s.goto i (r.elim .closed .lookup))
    | _ => none
  | .lookup i =>
    match s.clients i with
    | .lookup busid =>
      match s.claimedDevice with
      | some device => some (s.goto i (.describe busid device))
      | none => some ((s.goto i .closed).record (.dropped busid))
    | _ => none
  | .describe i raw =>
    match s.clients i with
    | .describe busid device =>
      let descriptors := getRawDescriptors device (if s.connected then raw else none)
      some (s.goto i (.reply busid device descriptors))
    | _ => none
  | .reply i written =>
    match s.clients i with
    | .reply busid device descriptors =>
      if written then
        some ((s.goto i (.enterLoop busid)).record
          (.replied busid (s.others i) (importBytes device descriptors)))
      else some (s.goto i .closed)
    | _ => none
  | .enterLoop i =>
    match s.clients i with
    | .enterLoop busid =>
      if s.connected then
        some ({ s.goto i (.urbLoop busid) with loop := i :: s.loop }.record
          (.entered busid (s.others i)))
      else some (s.goto i .closed)
    | _ => none
  | .leave i =>
    match s.clients i with
    | .urbLoop _ => some { s.goto i .closed with loop := s.others i }
    | _ => none
  | .releaseDevice =>
    if s.connected ∧ s.claimedDevice.isSome then
      some { s with connected := false, claimedDevice := none }
    else some s

/-! ## What the protocol asks -/

/-- The bus id is the one that the device is advertised with. -/
def Names (device : ExportedDevice) (busid : Vector UInt8 32) : Prop :=
  beforeNul busid.toList = busidBytes device

/-- The status in the header of a reply. -/
def replyStatus (reply : Bytes) : Option Int32 :=
  (UsbIpHeader.readFromPrefix reply).map fun r => r.1.status

/-- A client is told of success, and enters the loop, only if it named the device and no other
client is in the loop; every other request is answered by a failure. -/
def Proper (device : ExportedDevice) : Mark → Prop
  | .replied busid others reply =>
    (replyStatus reply = some 0 ∧ Names device busid ∧ others = []) ∨
      ∃ status, replyStatus reply = some status ∧ status ≠ 0
  | .dropped _ => False
  | .entered busid others => Names device busid ∧ others = []

/-- Everything that was recorded is proper. -/
def AllProper (device : ExportedDevice) (s : UsbIpServer) : Prop := ∀ m ∈ s.log, Proper device m

/-- No other client is in the loop. -/
def Free (s : UsbIpServer) (i : ℕ) : Prop := ∀ j, j ≠ i → (s.clients j).inLoop = false

/-- A request meets the device claimed; a client that is told of success asked for the device and
finds no other in the loop, neither then nor when it enters. -/
def OneByOne (device : ExportedDevice) (s : UsbIpServer) : ClientEvent → Prop
  | .lookup _ => s.claimedDevice ≠ none
  | .reply i written =>
    written = true → s.Free i ∧ ∀ busid d tree, s.clients i = .reply busid d tree →
      Names device busid
  | .enterLoop i => s.connected = true → s.Free i
  | _ => True

/-! ## What a step can do -/

variable {device : ExportedDevice} {s t : UsbIpServer} {a : ClientEvent}

/-- The steps: those that leave the loop and the records as they are, and the others. -/
inductive Step (device : ExportedDevice) (s : UsbIpServer) : ClientEvent → UsbIpServer → Prop
  | quiet (a i phase) (hone : OneByOne device s a) (hout : (s.clients i).inLoop = false)
      (hphase : phase.inLoop = false) (hnot : ∀ busid, phase ≠ .enterLoop busid) :
      Step device s a (s.goto i phase)
  | dropped (i busid) (hout : (s.clients i).inLoop = false) (hnone : s.claimedDevice = none) :
      Step device s (.lookup i) ((s.goto i .closed).record (.dropped busid))
  | replied (i busid d tree) (hclient : s.clients i = .reply busid d tree) :
      Step device s (.reply i true) ((s.goto i (.enterLoop busid)).record
        (.replied busid (s.others i) (importBytes d tree)))
  | entered (i busid) (hclient : s.clients i = .enterLoop busid) (hconn : s.connected = true) :
      Step device s (.enterLoop i) ({ s.goto i (.urbLoop busid) with loop := i :: s.loop }.record
        (.entered busid (s.others i)))
  | left (i) : Step device s (.leave i) { s.goto i .closed with loop := s.others i }
  | released (connected claimedDevice) : Step device s .releaseDevice
      { s with connected := connected, claimedDevice := claimedDevice }

theorem dispatch_quiet (headerBuf : Vector UInt8 8) :
    (dispatch headerBuf).inLoop = false ∧ ∀ busid, dispatch headerBuf ≠ .enterLoop busid := by
  unfold dispatch
  split
  · simp [ClientPhase.inLoop]
  · split
    · simp [ClientPhase.inLoop]
    · split <;> simp [ClientPhase.inLoop]

theorem step_cases (device : ExportedDevice) (h : s.step a = some t) : Step device s a t := by
  cases a with
  | readHeader i r =>
    simp only [step] at h
    split at h
    · rename_i hclient
      obtain rfl := Option.some.inj h
      cases r with
      | none => exact .quiet _ i _ trivial (by rw [hclient]; rfl) rfl (by simp)
      | some headerBuf =>
        obtain ⟨hphase, hnot⟩ := dispatch_quiet headerBuf
        exact .quiet _ i _ trivial (by rw [hclient]; rfl) hphase hnot
    · cases h
  | devList i =>
    simp only [step] at h
    split at h
    · rename_i hclient
      obtain rfl := Option.some.inj h
      exact .quiet _ i _ trivial (by rw [hclient]; rfl) rfl (by simp)
    · cases h
  | readBusid i r =>
    simp only [step] at h
    split at h
    · rename_i hclient
      obtain rfl := Option.some.inj h
      cases r with
      | none => exact .quiet _ i _ trivial (by rw [hclient]; rfl) rfl (by simp)
      | some busid => exact .quiet _ i _ trivial (by rw [hclient]; rfl) rfl (by simp)
    · cases h
  | lookup i =>
    simp only [step] at h
    split at h
    · rename_i busid hclient
      split at h
      · rename_i d hclaimed
        obtain rfl := Option.some.inj h
        refine .quiet _ i _ ?_ (by rw [hclient]; rfl) rfl (by simp)
        simp [OneByOne, hclaimed]
      · rename_i hclaimed
        obtain rfl := Option.some.inj h
        exact .dropped i busid (by rw [hclient]; rfl) hclaimed
    · cases h
  | describe i raw =>
    simp only [step] at h
    split at h
    · rename_i busid d hclient
      obtain rfl := Option.some.inj h
      exact .quiet _ i _ trivial (by rw [hclient]; rfl) rfl (by simp)
    · cases h
  | reply i written =>
    simp only [step] at h
    split at h
    · rename_i busid d tree hclient
      split at h
      · rename_i hwritten
        obtain rfl := Option.some.inj h
        subst hwritten
        exact .replied i busid d tree hclient
      · rename_i hwritten
        obtain rfl := Option.some.inj h
        refine .quiet _ i _ ?_ (by rw [hclient]; rfl) rfl (by simp)
        exact fun htrue => absurd htrue hwritten
    · cases h
  | enterLoop i =>
    simp only [step] at h
    split at h
    · rename_i busid hclient
      split at h
      · rename_i hconn
        obtain rfl := Option.some.inj h
        exact .entered i busid hclient hconn
      · rename_i hconn
        obtain rfl := Option.some.inj h
        refine .quiet _ i _ ?_ (by rw [hclient]; rfl) rfl (by simp)
        exact fun htrue => absurd htrue hconn
    · cases h
  | leave i =>
    simp only [step] at h
    split at h
    · obtain rfl := Option.some.inj h
      exact .left i
    · cases h
  | releaseDevice =>
    simp only [step] at h
    split at h
    · obtain rfl := Option.some.inj h
      exact .released false none
    · obtain rfl := Option.some.inj h
      exact .released s.connected s.claimedDevice

/-! ## Who is in the loop -/

/-- The list of the clients in the loop is right, and a client that is about to enter asked for the
device. -/
structure Inv (device : ExportedDevice) (s : UsbIpServer) : Prop where
  mem_loop : ∀ i, i ∈ s.loop ↔ (s.clients i).inLoop = true
  named : ∀ {i busid}, s.clients i = .enterLoop busid → Names device busid

theorem others_eq_nil_iff (hs : Inv device s) (i : ℕ) : s.others i = [] ↔ s.Free i := by
  simp only [others, List.filter_eq_nil_iff, decide_eq_true_eq, not_not, Free]
  constructor
  · intro h j hj
    by_contra hin
    exact hj (h j ((hs.mem_loop j).2 (by simpa using hin)))
  · intro h j hj
    by_contra hne
    have hin := (hs.mem_loop j).1 hj
    rw [h j hne] at hin
    cases hin

theorem clients_goto (i j : ℕ) (phase : ClientPhase) :
    (s.goto i phase).clients j = if j = i then phase else s.clients j := by
  simp only [goto, Function.update_apply]

theorem Inv.step (hs : Inv device s) (hone : OneByOne device s a) (h : s.step a = some t) :
    Inv device t := by
  cases step_cases device h with
  | quiet a i phase _ hout hphase hnot =>
    constructor
    · intro j
      rw [clients_goto]
      split
      · subst j
        have hold := hs.mem_loop i
        rw [hout] at hold
        rw [hphase]
        exact hold
      · exact hs.mem_loop j
    · intro j busid hj
      rw [clients_goto] at hj
      split at hj
      · exact absurd hj (hnot busid)
      · exact hs.named hj
  | dropped i busid hout hnone => exact absurd hnone hone
  | replied i busid d tree hclient =>
    constructor
    · intro j
      change j ∈ s.loop ↔ ((s.goto i _).clients j).inLoop = true
      rw [clients_goto]
      split
      · subst j
        have hold := hs.mem_loop i
        rw [hclient] at hold
        exact hold
      · exact hs.mem_loop j
    · intro j busid' hj
      change (s.goto i _).clients j = _ at hj
      rw [clients_goto] at hj
      split at hj
      · obtain rfl := ClientPhase.enterLoop.inj hj
        exact (hone rfl).2 busid d tree hclient
      · exact hs.named hj
  | entered i busid hclient hconn =>
    constructor
    · intro j
      change j ∈ i :: s.loop ↔ ((s.goto i _).clients j).inLoop = true
      rw [clients_goto, List.mem_cons, hs.mem_loop j]
      split
      · rename_i hji
        simp [hji, ClientPhase.inLoop]
      · rename_i hji
        simp [hji]
    · intro j busid' hj
      change (s.goto i _).clients j = _ at hj
      rw [clients_goto] at hj
      split at hj
      · cases hj
      · exact hs.named hj
  | left i =>
    constructor
    · intro j
      change j ∈ s.others i ↔ ((s.goto i _).clients j).inLoop = true
      rw [clients_goto, others, List.mem_filter, hs.mem_loop j]
      split
      · rename_i hji
        simp [hji, ClientPhase.inLoop]
      · rename_i hji
        simp [hji]
    · intro j busid' hj
      change (s.goto i _).clients j = _ at hj
      rw [clients_goto] at hj
      split at hj
      · cases hj
      · exact hs.named hj
  | released connected claimedDevice => exact ⟨hs.mem_loop, hs.named⟩

/-- Every reply that is sent is one of success. -/
theorem proper_replied_iff {busid : Vector UInt8 32} {others : List ℕ} {d : ExportedDevice}
    {tree : Bytes} :
    Proper device (.replied busid others (importBytes d tree)) ↔
      Names device busid ∧ others = [] := by
  have hstatus : replyStatus (importBytes d tree) = some 0 := by
    rw [replyStatus, importBytes, List.append_assoc, UsbIpHeader.readFromPrefix_asBytes_append]
    rfl
  simp only [Proper, hstatus, Option.some.injEq, true_and, exists_eq_left', ne_eq,
    not_true_eq_false, or_false]

theorem allProper_record_iff {m : Mark} :
    AllProper device (s.record m) ↔ AllProper device s ∧ Proper device m := by
  simp only [AllProper, record, List.mem_append, List.mem_singleton, or_imp, forall_and,
    forall_eq]

/-- A step records something proper exactly under the condition. -/
theorem allProper_step_iff (hs : Inv device s) (hlog : AllProper device s)
    (h : s.step a = some t) : AllProper device t ↔ OneByOne device s a := by
  cases step_cases device h with
  | quiet a i phase hone hout hphase hnot => exact iff_of_true hlog hone
  | dropped i busid hout hnone =>
    refine iff_of_false (fun hproper => (allProper_record_iff.1 hproper).2) ?_
    simp [OneByOne, hnone]
  | replied i busid d tree hclient =>
    rw [allProper_record_iff, proper_replied_iff, others_eq_nil_iff hs]
    constructor
    · rintro ⟨-, hnames, hfree⟩ -
      refine ⟨hfree, fun busid' d' tree' hclient' => ?_⟩
      obtain ⟨rfl, -, -⟩ := ClientPhase.reply.inj (hclient.symm.trans hclient')
      exact hnames
    · intro hone
      obtain ⟨hfree, hnames⟩ := hone rfl
      exact ⟨hlog, hnames busid d tree hclient, hfree⟩
  | entered i busid hclient hconn =>
    rw [allProper_record_iff, Proper, others_eq_nil_iff hs]
    constructor
    · rintro ⟨-, -, hfree⟩ -
      exact hfree
    · intro hone
      exact ⟨hlog, hs.named hclient, hone hconn⟩
  | left i => exact iff_of_true hlog trivial
  | released connected claimedDevice => exact iff_of_true hlog trivial

theorem inv_start (device : ExportedDevice) : Inv device (start device) where
  mem_loop i := by simp [start, ClientPhase.inLoop]
  named h := by cases h

/-- **The server answers as the protocol asks exactly as long as** every request meets the device
claimed, and every client that is told of success asked for it and finds no other in the loop. -/
theorem proper_iff (device : ExportedDevice) {as : List ClientEvent}
    (h : run step (start device) as = some t) :
    Throughout step (AllProper device) (start device) as ↔
      Along step (OneByOne device) (start device) as := by
  refine throughout_iff_along (I := Inv device) (fun s a t hs hone ht => hs.step hone ht)
    (fun s a t hs hlog ht => allProper_step_iff hs hlog ht) (inv_start device) ?_ h
  intro m hm
  cases hm

/-- A client that asks for a bus id and enters the loop. -/
def importSteps (i : ℕ) (busid : Bytes) : List ClientEvent :=
  [.readHeader i (some (zeroPad 8 (UsbIpHeader.new opReqImport).asBytes)),
    .readBusid i (some (zeroPad 32 busid)), .lookup i, .describe i none, .reply i true,
    .enterLoop i]

/-- The bus id `1002` of the phone. -/
def phoneBusid : Bytes := [0x31, 0x30, 0x30, 0x32]

theorem names_phone : Names phone (zeroPad 32 phoneBusid) := by
  unfold Names
  decide +kernel

theorem proper_oneClient :
    (run step (start phone) (importSteps 0 phoneBusid)).isSome = true ∧
      Throughout step (AllProper phone) (start phone) (importSteps 0 phoneBusid) := by
  have hsome : (run step (start phone) (importSteps 0 phoneBusid)).isSome = true := by
    decide +kernel
  obtain ⟨t, ht⟩ := Option.isSome_iff_exists.1 hsome
  refine ⟨hsome, (proper_iff phone ht).2 ?_⟩
  refine .cons trivial rfl (.cons trivial rfl (.cons (Option.some_ne_none phone) rfl ?_))
  refine .cons trivial rfl (.cons (fun _ => ⟨?_, ?_⟩) rfl (.cons (fun _ => ?_) rfl trivial))
  · intro j hj
    simp [goto, start, hj, ClientPhase.inLoop]
  · intro busid d tree hclient
    obtain ⟨rfl, -, -⟩ := ClientPhase.reply.inj hclient
    exact names_phone
  · intro j hj
    simp [goto, record, start, hj, ClientPhase.inLoop]

/-- Two clients, one after the other, with the first still in the loop. -/
def twoClients : List ClientEvent := importSteps 0 phoneBusid ++ importSteps 1 phoneBusid

/-- The second client is told of success as well. -/
theorem proper_twoClients :
    (run step (start phone) twoClients).isSome = true ∧
      ¬Throughout step (AllProper phone) (start phone) twoClients := by
  have hsome : (run step (start phone) twoClients).isSome = true := by decide +kernel
  obtain ⟨t, ht⟩ := Option.isSome_iff_exists.1 hsome
  refine ⟨hsome, fun hproper => ?_⟩
  have hlog := hproper.last ht
  obtain rfl := Option.some.inj ht
  have hmark : Proper phone (.entered (zeroPad 32 phoneBusid) [0]) :=
    hlog _ (List.mem_append_right _ List.mem_cons_self)
  exact List.cons_ne_nil 0 [] hmark.2

end UsbIpServer

end Android

end AnyPlug
