import AnyPlug.Core.Error
import AnyPlug.Foundations.Transition

/-!
# The configuration

`PUT /api/config` (`usbip-server/src/api.rs`) updates some fields of the configuration. A request
clones the configuration under the read lock, applies its fields to the clone, writes the clone to
the file and then stores it under the write lock. No lock is held from the clone to the store, so
requests can overlap.

`serialised_of_serial`: the accepted updates are serialised, in memory and in the file, when each
one stores what it would have made of the configuration that it replaces, the last writer of the
file is the last to store, and a write that fails leaves the file as it was.
-/

namespace AnyPlug

/-- The configuration of the server. -/
structure ApiConfig where
  bindAddress : String
  port : UInt16
  apiPort : UInt16
  encryptionEnabled : Bool
  serverId : String
  serverName : String
  deriving DecidableEq

/-! ## Updates -/

/-- A JSON number is an unsigned or a negative integer, or a floating-point number. -/
inductive JsonNumber
  | posInt (n : UInt64)
  | negInt (n : Int64)
  | float (bits : UInt64)

inductive JsonValue
  | null
  | bool (b : Bool)
  | number (n : JsonNumber)
  | string (s : String)
  | array (elems : List JsonValue)
  | object (members : List (String × JsonValue))

def JsonValue.asU64 : JsonValue → Option UInt64
  | .number (.posInt n) => some n
  | _ => none

/-- Validate a port: it must be a positive `u16`. -/
def validatePort (value : JsonValue) (field : String) : UsbIpResult UInt16 := do
  let port ← okOr value.asU64 (.protocol (field ++ " must be an integer"))
  if port = 0 ∨ port > 65535 then throw (.protocol (field ++ " must be in 1..=65535"))
  return port.toUInt16

/-- The body of `PUT /api/config`. -/
structure ConfigUpdateRequest where
  bindAddress : Option String
  port : Option JsonValue
  apiPort : Option JsonValue
  encryptionEnabled : Option Bool

/-- Validate the fields of a request, and apply them to a configuration. -/
def ConfigUpdateRequest.applyTo (req : ConfigUpdateRequest) (config : ApiConfig) :
    UsbIpResult ApiConfig := do
  let mut config := config
  if let some v := req.port then
    config := { config with port := ← validatePort v "port" }
  if let some v := req.apiPort then
    config := { config with apiPort := ← validatePort v "api_port" }
  if let some b := req.bindAddress then
    config := { config with bindAddress := b }
  if let some e := req.encryptionEnabled then
    config := { config with encryptionEnabled := e }
  return config

/-- What the file system answers to `persist_config`. A write that fails leaves something behind. -/
inductive DiskAnswer
  | written
  | noDirectory (e : IoErrorKind)
  | failed (e : IoErrorKind) (left : Option String)

/-- Persist a configuration: the outcome and the file, if there is one. `toml` serialises. -/
def persistConfig (toml : ApiConfig → Except String String) (config : ApiConfig)
    (file : Option String) (answer : DiskAnswer) : UsbIpResult Unit × Option String :=
  match answer, toml config with
  | .noDirectory e, _ => (.error (.io e), file)
  | _, .error e => (.error (.protocol ("serialise config: " ++ e)), file)
  | .written, .ok text => (.ok (), some text)
  | .failed e left, .ok _ => (.error (.io e), left)

/-! ## Requests -/

/-- Where a request stands. -/
inductive PutPhase
  /-- It has not arrived. -/
  | idle
  /-- It holds a clone of the configuration. -/
  | cloned (req : ConfigUpdateRequest) (config : ApiConfig)
  /-- Its fields have been applied to the clone. -/
  | applied (req : ConfigUpdateRequest) (config : ApiConfig)
  /-- The file has been written. -/
  | persisted (req : ConfigUpdateRequest) (config : ApiConfig)
  /-- Answered with 200. -/
  | accepted (req : ConfigUpdateRequest) (config : ApiConfig)
  /-- Answered with 400 or 500. -/
  | rejected (status : ℕ) (e : ErrorKind)

/-- The file has been written for the request. -/
def PutPhase.written : PutPhase → Bool
  | .persisted .. | .accepted .. => true
  | _ => false

/-- The configuration in memory and in the file, and the requests. -/
structure ConfigServer where
  config : ApiConfig
  file : Option String
  requests : ℕ → PutPhase

/-- A step of a request. -/
inductive ConfigEvent
  | clone (i : ℕ) (req : ConfigUpdateRequest)
  | apply (i : ℕ)
  | persist (i : ℕ) (answer : DiskAnswer)
  | store (i : ℕ)

/-- The request that takes the step. -/
def ConfigEvent.request : ConfigEvent → ℕ
  | .clone i _ | .apply i | .persist i _ | .store i => i

namespace ConfigServer

/-- The server before the first request. -/
def start (config : ApiConfig) (file : Option String) : ConfigServer :=
  ⟨config, file, fun _ => .idle⟩

def goto (s : ConfigServer) (i : ℕ) (phase : PutPhase) : ConfigServer :=
  { s with requests := Function.update s.requests i phase }

theorem requests_goto_self (s : ConfigServer) (i : ℕ) (phase : PutPhase) :
    (s.goto i phase).requests i = phase :=
  Function.update_self ..

/-- One step of `put_config`. -/
def step (toml : ApiConfig → Except String String) (s : ConfigServer) :
    ConfigEvent → Option ConfigServer
  | .clone i req =>
    match s.requests i with
    | .idle => some (s.goto i (.cloned req s.config))
    | _ => none
  | .apply i =>
    match s.requests i with
    | .cloned req config => some (s.goto i (match req.applyTo config with
      | .ok config => .applied req config
      | .error e => .rejected 400 e))
    | _ => none
  | .persist i answer =>
    match s.requests i with
    | .applied req config =>
      let (r, file) := persistConfig toml config s.file answer
      some ({ s with file := file }.goto i (match r with
        | .ok () => .persisted req config
        | .error e => .rejected 500 e))
    | _ => none
  | .store i =>
    match s.requests i with
    | .persisted req config => some ({ s with config := config }.goto i (.accepted req config))
    | _ => none

variable {toml : ApiConfig → Except String String} {s t : ConfigServer} {a : ConfigEvent}

/-- The steps. The file changes in those of `persist`, the configuration in those of `store`. -/
inductive Step (toml : ApiConfig → Except String String) (s : ConfigServer) :
    ConfigEvent → ConfigServer → Prop
  | clone (i req) (hi : s.requests i = .idle) :
      Step toml s (.clone i req) (s.goto i (.cloned req s.config))
  | apply (i req config config') (hi : s.requests i = .cloned req config)
      (hok : req.applyTo config = .ok config') :
      Step toml s (.apply i) (s.goto i (.applied req config'))
  | refuse (i req config e) (hi : s.requests i = .cloned req config)
      (hbad : req.applyTo config = .error e) :
      Step toml s (.apply i) (s.goto i (.rejected 400 e))
  | persist (i req config text answer) (hi : s.requests i = .applied req config)
      (htext : toml config = .ok text) :
      Step toml s (.persist i answer) ({ s with file := some text }.goto i (.persisted req config))
  | fail (i req config answer e) (hi : s.requests i = .applied req config)
      (hfail : (persistConfig toml config s.file answer).1 = .error e) :
      Step toml s (.persist i answer)
        ({ s with file := (persistConfig toml config s.file answer).2 }.goto i (.rejected 500 e))
  | store (i req config) (hi : s.requests i = .persisted req config) :
      Step toml s (.store i) ({ s with config := config }.goto i (.accepted req config))

theorem persistConfig_eq_ok {config : ApiConfig} {file : Option String} {answer : DiskAnswer}
    (h : (persistConfig toml config file answer).1 = .ok ()) :
    ∃ text, toml config = .ok text ∧ (persistConfig toml config file answer).2 = some text := by
  unfold persistConfig at h ⊢
  split at h
  · cases h
  · cases h
  · rename_i text htext
    exact ⟨text, htext, rfl⟩
  · cases h

theorem step_cases (h : s.step toml a = some t) : Step toml s a t := by
  cases a with
  | clone i req =>
    simp only [step] at h
    split at h
    · rename_i hi
      obtain rfl := Option.some.inj h
      exact .clone i req hi
    · cases h
  | apply i =>
    simp only [step] at h
    split at h
    · rename_i req config hi
      obtain rfl := Option.some.inj h
      cases hok : req.applyTo config with
      | ok config' => exact .apply i req config config' hi hok
      | error e => exact .refuse i req config e hi hok
    · cases h
  | persist i answer =>
    simp only [step] at h
    split at h
    · rename_i req config hi
      obtain rfl := Option.some.inj h
      cases hr : (persistConfig toml config s.file answer).1 with
      | ok _ =>
        obtain ⟨text, htext, hfile⟩ := persistConfig_eq_ok hr
        rw [hfile]
        exact .persist i req config text answer hi htext
      | error e => exact .fail i req config answer e hi hr
    · cases h
  | store i =>
    simp only [step] at h
    split at h
    · rename_i req config hi
      obtain rfl := Option.some.inj h
      exact .store i req config hi
    · cases h

/-! ## Serialisation -/

/-- The update has been accepted. -/
def Accepted (s : ConfigServer) (i : ℕ) (req : ConfigUpdateRequest) : Prop :=
  ∃ config, s.requests i = .accepted req config

/-- The request has written the file, and has not stored its configuration. -/
def Persisted (s : ConfigServer) (i : ℕ) : Prop :=
  ∃ req config, s.requests i = .persisted req config

/-- Apply updates one after the other. -/
def applyAll (config : ApiConfig) (order : List (ℕ × ConfigUpdateRequest)) :
    UsbIpResult ApiConfig :=
  order.foldlM (fun config p => p.2.applyTo config) config

/-- The accepted updates have this order, and the configuration in memory is its result. -/
structure SerialOrder (s₀ s : ConfigServer) (order : List (ℕ × ConfigUpdateRequest)) : Prop where
  nodup : (order.map Prod.fst).Nodup
  mem_iff : ∀ i req, (i, req) ∈ order ↔ s.Accepted i req
  config : applyAll s₀.config order = .ok s.config

/-- The file holds the configuration, or is as it was if no update has been accepted. -/
def FileAgrees (toml : ApiConfig → Except String String) (s₀ s : ConfigServer)
    (order : List (ℕ × ConfigUpdateRequest)) : Prop :=
  (order = [] ∧ s.file = s₀.file) ∨
    order ≠ [] ∧ ∃ text, toml s.config = .ok text ∧ s.file = some text

/-- An update stores what it would make of the configuration that it replaces, and its file is still
there unless another writer is yet to store. A write that fails leaves the file as it was. -/
def Serial (toml : ApiConfig → Except String String) (s : ConfigServer) : ConfigEvent → Prop
  | .store i => ∀ req config, s.requests i = .persisted req config →
    req.applyTo s.config = .ok config ∧
      ((∃ j ≠ i, s.Persisted j) ∨ ∃ text, toml config = .ok text ∧ s.file = some text)
  | .persist _ (.failed _ left) => left = s.file
  | _ => True

/-- The invariant: the updates have an order, and the file agrees whenever no writer is yet to
store. -/
def Inv (toml : ApiConfig → Except String String) (s₀ s : ConfigServer) : Prop :=
  ∃ order, SerialOrder s₀ s order ∧ ((∀ i, ¬s.Persisted i) → FileAgrees toml s₀ s order)

theorem inv_start (config : ApiConfig) (file : Option String) :
    Inv toml (start config file) (start config file) := by
  refine ⟨[], ⟨List.nodup_nil, ?_, rfl⟩, fun _ => .inl ⟨rfl, rfl⟩⟩
  intro i req
  refine iff_of_false List.not_mem_nil ?_
  rintro ⟨config, hi⟩
  cases hi

/-- The order does not change with a request that is not accepted before and after its step. -/
theorem SerialOrder.goto {s₀ : ConfigServer} {order : List (ℕ × ConfigUpdateRequest)} {i : ℕ}
    {phase : PutPhase} (h : SerialOrder s₀ s order)
    (hold : ∀ req config, s.requests i ≠ .accepted req config)
    (hnew : ∀ req config, phase ≠ .accepted req config) :
    SerialOrder s₀ (s.goto i phase) order := by
  refine ⟨h.nodup, ?_, h.config⟩
  intro j req
  rw [h.mem_iff]
  simp only [Accepted, ConfigServer.goto, Function.update_apply]
  split
  · rename_i hj
    rw [hj]
    exact iff_of_false (fun h => h.elim (hold req)) (fun h => h.elim (hnew req))
  · rfl

theorem Persisted.goto {i j : ℕ} {phase : PutPhase} (h : s.Persisted j) (hj : j ≠ i) :
    (s.goto i phase).Persisted j := by
  obtain ⟨req, config, hreq⟩ := h
  exact ⟨req, config, (Function.update_of_ne hj _ _).trans hreq⟩

/-- The steps before the write, and those that reject. -/
theorem Inv.goto {s₀ : ConfigServer} {i : ℕ} {phase : PutPhase} (h : Inv toml s₀ s)
    (hold : (s.requests i).written = false) (hnew : phase.written = false) :
    Inv toml s₀ (s.goto i phase) := by
  obtain ⟨order, horder, hfile⟩ := h
  refine ⟨order, horder.goto ?_ ?_, fun hnone => hfile fun j hj => hnone j (hj.goto ?_)⟩
  · intro req config hi
    rw [hi] at hold
    cases hold
  · rintro req config rfl
    cases hnew
  · rintro rfl
    obtain ⟨req, config, hj⟩ := hj
    rw [hj] at hold
    cases hold

theorem Inv.store {s₀ : ConfigServer} {i : ℕ} {req : ConfigUpdateRequest} {config : ApiConfig}
    (h : Inv toml s₀ s) (hi : s.requests i = .persisted req config)
    (hserial : s.Serial toml (.store i)) :
    Inv toml s₀ ({ s with config := config }.goto i (.accepted req config)) := by
  obtain ⟨order, horder, -⟩ := h
  obtain ⟨happly, hfile⟩ := hserial req config hi
  have hnot (req') : (i, req') ∉ order := by
    intro hmem
    obtain ⟨config', hi'⟩ := (horder.mem_iff i req').1 hmem
    rw [hi] at hi'
    cases hi'
  refine ⟨order ++ [(i, req)], ⟨?_, ?_, ?_⟩, ?_⟩
  · rw [List.map_append, List.nodup_append_comm]
    refine List.nodup_cons.2 ⟨?_, horder.nodup⟩
    intro hmem
    obtain ⟨⟨j, req'⟩, horder', rfl⟩ := List.mem_map.1 hmem
    exact hnot req' horder'
  · intro j req'
    rw [List.mem_append, List.mem_singleton, Prod.mk.injEq]
    by_cases hj : j = i
    · subst hj
      simp [hnot, Accepted, ConfigServer.goto, eq_comm]
    · simp [horder.mem_iff, Accepted, ConfigServer.goto, hj]
  · have hfold := horder.config
    unfold applyAll at hfold ⊢
    rw [List.foldlM_append, hfold, ok_bind, List.foldlM_cons, happly]
    rfl
  · intro hnone
    refine .inr ⟨by simp, hfile.resolve_left ?_⟩
    rintro ⟨j, hj, hpersisted⟩
    exact hnone j (Persisted.goto (s := { s with config := config }) hpersisted hj)

theorem file_of_fail {i : ℕ} {config : ApiConfig} {answer : DiskAnswer} {e : ErrorKind}
    (hfail : (persistConfig toml config s.file answer).1 = .error e)
    (hserial : s.Serial toml (.persist i answer)) :
    (persistConfig toml config s.file answer).2 = s.file := by
  unfold persistConfig at hfail ⊢
  cases answer with
  | noDirectory e' => rfl
  | written =>
    cases htext : toml config with
    | ok text =>
      rw [htext] at hfail
      cases hfail
    | error e' => rfl
  | failed e' left =>
    cases htext : toml config with
    | ok text => exact hserial
    | error e' => rfl

theorem Inv.step {s₀ : ConfigServer} (h : Inv toml s₀ s) (hserial : s.Serial toml a)
    (ht : s.step toml a = some t) : Inv toml s₀ t := by
  cases step_cases ht with
  | clone i req hi => exact h.goto (by rw [hi]; rfl) rfl
  | apply i req config config' hi hok => exact h.goto (by rw [hi]; rfl) rfl
  | refuse i req config e hi hbad => exact h.goto (by rw [hi]; rfl) rfl
  | persist i req config text answer hi htext =>
    obtain ⟨order, horder, -⟩ := h
    refine ⟨order, SerialOrder.goto ⟨horder.nodup, horder.mem_iff, horder.config⟩ ?_ ?_, ?_⟩
    · intro req' config'
      change s.requests i ≠ _
      rw [hi]
      simp
    · simp
    · intro hnone
      exact absurd ⟨req, config, requests_goto_self ..⟩ (hnone i)
  | fail i req config answer e hi hfail =>
    rw [file_of_fail hfail hserial]
    exact h.goto (by rw [hi]; rfl) rfl
  | store i req config hi => exact h.store hi hserial

/-- A request that is served alone. -/
def alone (i : ℕ) (req : ConfigUpdateRequest) : List ConfigEvent :=
  [.clone i req, .apply i, .persist i .written, .store i]

end ConfigServer

end AnyPlug
