import AnyPlug.Server.Config

/-!
# The identity of a server

A server has an identifier by which clients recognise it behind several addresses. `load_config`
(`usbip-server/src/api.rs`) takes it from the file at a start. Where there is no file, or it is not
readable, or the identifier is missing in it, a new one is generated. Only `PUT /api/config` writes
the file, so what was generated at a start is gone at the next one.

`stable_iff`: the identifier is stable exactly when every start after the first finds one in the
file.
-/

namespace AnyPlug

/-- What `toml::from_str` reads for a configuration. The two names may be missing. -/
structure ConfigFile where
  bindAddress : String
  port : UInt16
  apiPort : UInt16
  encryptionEnabled : Bool
  serverId : Option String
  serverName : Option String
  deriving DecidableEq

/-- The file of a configuration, with both names. -/
def ApiConfig.toFile (config : ApiConfig) : ConfigFile where
  bindAddress := config.bindAddress
  port := config.port
  apiPort := config.apiPort
  encryptionEnabled := config.encryptionEnabled
  serverId := some config.serverId
  serverName := some config.serverName

/-- The default configuration, with a generated identifier and the host name. -/
def ApiConfig.default (serverId hostname : String) : ApiConfig where
  bindAddress := "0.0.0.0"
  port := 3240
  apiPort := 3241
  encryptionEnabled := false
  serverId := serverId
  serverName := hostname

/-- Load the configuration. `serverId` is what `generate_server_id` returns if it is called. -/
def loadConfig (fromStr : String → Option ConfigFile) (serverId hostname : String)
    (file : Option String) : ApiConfig :=
  match file with
  | none => .default serverId hostname
  | some text =>
    match fromStr text with
    | none => .default serverId hostname
    | some f =>
      { bindAddress := f.bindAddress
        port := f.port
        apiPort := f.apiPort
        encryptionEnabled := f.encryptionEnabled
        serverId := f.serverId.getD serverId
        serverName := f.serverName.getD hostname }

/-- The command line flags, which override the file at a start. -/
structure Flags where
  bindAddress : String
  port : UInt16
  apiPort : UInt16
  encryptionEnabled : Bool

def Flags.override (flags : Flags) (config : ApiConfig) : ApiConfig :=
  { config with
    bindAddress := flags.bindAddress
    port := flags.port
    apiPort := flags.apiPort
    encryptionEnabled := flags.encryptionEnabled }

/-- The identifier in a file. -/
def fileId (fromStr : String → Option ConfigFile) (file : Option String) : Option String :=
  (file.bind fromStr).bind ConfigFile.serverId

theorem serverId_loadConfig (fromStr : String → Option ConfigFile) (serverId hostname : String)
    (file : Option String) :
    (loadConfig fromStr serverId hostname file).serverId = (fileId fromStr file).getD serverId := by
  unfold loadConfig fileId
  cases file with
  | none => rfl
  | some text =>
    dsimp only [Option.bind_some]
    cases fromStr text with
    | none => rfl
    | some f => rfl

/-- An update does not touch the identifier. -/
theorem serverId_applyTo {req : ConfigUpdateRequest} {config config' : ApiConfig}
    (h : req.applyTo config = .ok config') : config'.serverId = config.serverId := by
  unfold ConfigUpdateRequest.applyTo at h
  dsimp only at h
  split at h
  · obtain ⟨port, -, h⟩ := bind_eq_ok.1 h
    split at h
    · obtain ⟨apiPort, -, h⟩ := bind_eq_ok.1 h
      split at h <;> split at h <;> cases h <;> rfl
    · split at h <;> split at h <;> cases h <;> rfl
  · split at h
    · obtain ⟨apiPort, -, h⟩ := bind_eq_ok.1 h
      split at h <;> split at h <;> cases h <;> rfl
    · split at h <;> split at h <;> cases h <;> rfl

/-! ## Starts and updates -/

/-- A server on its host, over its restarts. -/
structure Installation where
  file : Option String
  /-- The configuration of the running server, which it reports. -/
  config : Option ApiConfig
  starts : ℕ
  /-- The identifier that was reported at the first start. -/
  first : Option String

namespace Installation

inductive Event
  | start (flags : Flags) (hostname : String)
  /-- An update that is accepted. -/
  | put (req : ConfigUpdateRequest)

/-- `uuid n` is the identifier that would be generated at start `n`. -/
def step (uuid : ℕ → String) (fromStr : String → Option ConfigFile)
    (toml : ApiConfig → Except String String) (s : Installation) : Event → Option Installation
  | .start flags hostname =>
    let config := flags.override (loadConfig fromStr (uuid s.starts) hostname s.file)
    some { s with
      config := some config
      starts := s.starts + 1
      first := some (s.first.getD config.serverId) }
  | .put req =>
    match s.config with
    | none => none
    | some config =>
      match req.applyTo config with
      | .error _ => none
      | .ok config =>
        match persistConfig toml config s.file .written with
        | (.ok (), file) => some { s with file := file, config := some config }
        | (.error _, _) => none

/-- A host on which the server has not been started. -/
def new (file : Option String) : Installation := ⟨file, none, 0, none⟩

/-- What is reported is what was reported first. -/
def Stable (s : Installation) : Prop := ∀ config, s.config = some config →
  s.first = some config.serverId

/-- A start after the first finds an identifier in the file. -/
def Found (fromStr : String → Option ConfigFile) (s : Installation) : Event → Prop
  | .start _ _ => s.first ≠ none → fileId fromStr s.file ≠ none
  | .put _ => True

section

variable {uuid : ℕ → String} {fromStr : String → Option ConfigFile}
  {toml : ApiConfig → Except String String}

/-- The two kinds of steps. -/
theorem step_cases {s t : Installation} {a : Event} (h : step uuid fromStr toml s a = some t) :
    (∃ flags hostname config, a = .start flags hostname ∧
      config.serverId = (fileId fromStr s.file).getD (uuid s.starts) ∧
      t = ⟨s.file, some config, s.starts + 1, some (s.first.getD config.serverId)⟩) ∨
    ∃ req config config' text, a = .put req ∧ s.config = some config ∧
      config'.serverId = config.serverId ∧ toml config' = .ok text ∧
      t = ⟨some text, some config', s.starts, s.first⟩ := by
  cases a with
  | start flags hostname =>
    refine .inl ⟨flags, hostname, _, rfl, ?_, (Option.some.inj h).symm⟩
    exact serverId_loadConfig fromStr (uuid s.starts) hostname s.file
  | put req =>
    right
    unfold step at h
    dsimp only at h
    split at h
    · cases h
    · next config hconfig =>
      split at h
      · cases h
      · next config' happly =>
        split at h
        · next file hpersist =>
          obtain ⟨text, htext, rfl⟩ : ∃ text, toml config' = .ok text ∧ file = some text := by
            unfold persistConfig at hpersist
            cases htoml : toml config' with
            | error e =>
              rw [htoml] at hpersist
              cases hpersist
            | ok text =>
              rw [htoml] at hpersist
              cases hpersist
              exact ⟨text, rfl, rfl⟩
          exact ⟨req, config, config', text, rfl, hconfig, serverId_applyTo happly, htext,
            (Option.some.inj h).symm⟩
        · cases h

/-- After the first start the file has the identifier that was reported then, or it has none and
the identifier was generated. -/
structure Inv (uuid : ℕ → String) (fromStr : String → Option ConfigFile) (s : Installation) :
    Prop where
  idle : s.first = none → s.config = none
  origin : ∀ id, s.first = some id → fileId fromStr s.file = some id ∨
    fileId fromStr s.file = none ∧ ∃ k < s.starts, id = uuid k

theorem inv_new (file : Option String) : Inv uuid fromStr (new file) where
  idle _ := rfl
  origin := by rintro id ⟨⟩

theorem fileId_toFile {config : ApiConfig} {text : String}
    (h : fromStr text = some config.toFile) :
    fileId fromStr (some text) = some config.serverId := by
  rw [fileId, Option.bind_some, h, Option.bind_some]
  rfl

theorem Inv.step
    (hround : ∀ config text, toml config = .ok text → fromStr text = some config.toFile)
    {s t : Installation} {a : Event} (hs : Inv uuid fromStr s) (hstable : s.Stable)
    (h : Installation.step uuid fromStr toml s a = some t) : Inv uuid fromStr t := by
  obtain ⟨flags, hostname, config, rfl, hid, rfl⟩ |
    ⟨req, config, config', text, rfl, hconfig, hid, htext, rfl⟩ := step_cases h
  · refine ⟨?_, ?_⟩
    · rintro ⟨⟩
    · rintro id ⟨⟩
      cases hfirst : s.first with
      | none =>
        rw [Option.getD_none, hid]
        cases hfile : fileId fromStr s.file with
        | none => exact .inr ⟨rfl, s.starts, Nat.lt_succ_self _, rfl⟩
        | some id => exact .inl rfl
      | some id =>
        obtain hfile | ⟨hfile, k, hk, hid⟩ := hs.origin id hfirst
        · exact .inl hfile
        · exact .inr ⟨hfile, k, Nat.lt_succ_of_lt hk, hid⟩
  · have hfirst := hstable config hconfig
    refine ⟨?_, ?_⟩
    · intro hnone
      rw [hfirst] at hnone
      cases hnone
    · intro id hid'
      left
      rw [fileId_toFile (hround config' text htext), hid]
      exact hfirst.symm.trans hid'

theorem stable_step_iff (huuid : Function.Injective uuid) {s t : Installation} {a : Event}
    (hs : Inv uuid fromStr s) (hstable : s.Stable)
    (h : Installation.step uuid fromStr toml s a = some t) : t.Stable ↔ Found fromStr s a := by
  obtain ⟨flags, hostname, config, rfl, hid, rfl⟩ |
    ⟨req, config, config', text, rfl, hconfig, hid, htext, rfl⟩ := step_cases h
  · have ht : Stable ⟨s.file, some config, s.starts + 1, some (s.first.getD config.serverId)⟩ ↔
        s.first.getD config.serverId = config.serverId := by
      simp only [Stable, Option.some.injEq, forall_eq']
    rw [ht, Found]
    cases hfirst : s.first with
    | none => simp
    | some id =>
      rw [Option.getD_some, hid]
      obtain hfile | ⟨hfile, k, hk, rfl⟩ := hs.origin id hfirst
      · simp [hfile]
      · -- a new identifier is generated
        have hne : uuid k ≠ uuid s.starts := fun heq => (Nat.ne_of_lt hk) (huuid heq)
        simp [hfile, hne]
  · refine iff_of_true ?_ trivial
    rintro c ⟨⟩
    rw [hid]
    exact hstable config hconfig

/-- **The identifier is stable exactly when every start after the first finds one in the file.** -/
theorem stable_iff (huuid : Function.Injective uuid)
    (hround : ∀ config text, toml config = .ok text → fromStr text = some config.toFile)
    {file : Option String} {events : List Event} {t : Installation}
    (h : run (Installation.step uuid fromStr toml) (new file) events = some t) :
    Throughout (Installation.step uuid fromStr toml) Stable (new file) events ↔
      Along (Installation.step uuid fromStr toml) (Found fromStr) (new file) events := by
  refine throughout_iff_along (I := fun s => Inv uuid fromStr s ∧ s.Stable) ?_ ?_
    ⟨inv_new file, ?_⟩ ?_ h
  · rintro s a t ⟨hs, hstable⟩ hfound ht
    exact ⟨hs.step hround hstable ht, (stable_step_iff huuid hs hstable ht).2 hfound⟩
  · rintro s a t ⟨hs, hstable⟩ - ht
    exact stable_step_iff huuid hs hstable ht
  · rintro config ⟨⟩
  · rintro config ⟨⟩

end

/-! ## A server without a file -/

def flags : Flags := ⟨"0.0.0.0", 3240, 3241, false⟩

/-- Two identifiers of version 7, and others that are longer. -/
def sampleUuid : ℕ → String
  | 0 => "0190e4f0-1234-7234-8234-123456789abc"
  | 1 => "0190e4f0-1234-7234-8234-123456789abd"
  | n + 2 => String.ofList (List.replicate (n + 37) '0')

theorem sampleUuid_injective : Function.Injective sampleUuid := by
  have hlength : ∀ n, (sampleUuid n).length = max 36 (n + 35) := by
    intro n
    match n with
    | 0 | 1 => decide
    | n + 2 =>
      rw [sampleUuid, String.length_ofList, List.length_replicate]
      omega
  have hne : sampleUuid 0 ≠ sampleUuid 1 := by decide
  intro m n h
  have hmn := congrArg String.length h
  rw [hlength, hlength] at hmn
  obtain heq | ⟨rfl, rfl⟩ | ⟨rfl, rfl⟩ : m = n ∨ m = 0 ∧ n = 1 ∨ m = 1 ∧ n = 0 := by omega
  · exact heq
  · exact absurd h hne
  · exact absurd h.symm hne

/-- The configuration after the first start on the host `desk` and an update to encrypted. -/
def sampleConfig : ApiConfig :=
  ⟨"0.0.0.0", 3240, 3241, true, "0190e4f0-1234-7234-8234-123456789abc", "desk"⟩

def sampleText : String :=
  "bind_address = \"0.0.0.0\"\nport = 3240\napi_port = 3241\nencryption_enabled = true\n" ++
    "server_id = \"0190e4f0-1234-7234-8234-123456789abc\"\nserver_name = \"desk\"\n"

/-- `toml::to_string`, on that configuration. -/
def sampleToml (config : ApiConfig) : Except String String :=
  if config = sampleConfig then .ok sampleText else .error "not serialised"

/-- `toml::from_str`, on that text. -/
def sampleFromStr (text : String) : Option ConfigFile :=
  if text = sampleText then some sampleConfig.toFile else none

theorem sample_roundTrip (config : ApiConfig) (text : String) (h : sampleToml config = .ok text) :
    sampleFromStr text = some config.toFile := by
  unfold sampleToml at h
  split at h
  · next hconfig =>
    cases h
    rw [hconfig]
    exact if_pos rfl
  · cases h

/-- The server is started, updated and started again: the file has the identifier by then. -/
theorem stable_after_update :
    Throughout (Installation.step sampleUuid sampleFromStr sampleToml) Stable (new none)
      [.start flags "desk", .put ⟨none, none, none, some true⟩, .start flags "desk"] := by
  have hstart : Installation.step sampleUuid sampleFromStr sampleToml (new none)
      (.start flags "desk") = some ⟨none, some (.default (sampleUuid 0) "desk"), 1,
        some (sampleUuid 0)⟩ := rfl
  have hput : Installation.step sampleUuid sampleFromStr sampleToml
      ⟨none, some (.default (sampleUuid 0) "desk"), 1, some (sampleUuid 0)⟩
      (.put ⟨none, none, none, some true⟩) =
        some ⟨some sampleText, some sampleConfig, 1, some (sampleUuid 0)⟩ := rfl
  have hrun := run_cons_eq_some.2 ⟨_, hstart, run_cons_eq_some.2 ⟨_, hput,
    (run_singleton (a := Event.start flags "desk")).2 rfl⟩⟩
  refine (stable_iff sampleUuid_injective sample_roundTrip hrun).2 ?_
  refine .cons (fun h => absurd rfl h) hstart (.cons trivial hput ⟨fun _ => ?_, fun _ _ => trivial⟩)
  rw [fileId_toFile (sample_roundTrip sampleConfig sampleText rfl)]
  exact Option.some_ne_none _

/-- The server is started twice: it reports two identifiers. -/
theorem not_stable_restart :
    ¬∀ uuid fromStr toml file events t, Function.Injective uuid →
      (∀ config text, toml config = .ok text → fromStr text = some config.toFile) →
      run (Installation.step uuid fromStr toml) (new file) events = some t →
      Throughout (Installation.step uuid fromStr toml) Stable (new file) events := by
  intro h
  have hstable := h sampleUuid sampleFromStr sampleToml none
    [.start flags "desk", .start flags "desk"] _ sampleUuid_injective sample_roundTrip rfl
  have hfirst : some (sampleUuid 0) = some (sampleUuid 1) := hstable.last rfl _ rfl
  exact Nat.zero_ne_one (sampleUuid_injective (Option.some.inj hfirst))

end Installation

end AnyPlug
