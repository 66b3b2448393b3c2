import AnyPlug.Foundations.KotlinText

/-!
# The last server

The store of `com.anyplug.discovery.LastKnownServerStore`: the endpoint of the last server the user
was connected to, spread over five keys. `save` writes the id and the name of the server only where
the endpoint has them, and never removes those of the endpoint before. What is loaded is therefore a
mixture of the saves since the last clear (`load_eq_mixture`), and it is the last of them under the
condition of `loadsLastSaved_iff`.
-/

namespace AnyPlug

namespace Android

inductive DiscoverySource
  | mdns
  | rest
  | lastKnown
  | unknown
  deriving DecidableEq, Repr

/-- What is known of a server. -/
structure ServerEndpoint where
  host : String
  apiPort : Int32
  wirePort : Int32
  serverId : Option String
  serverName : Option String
  source : DiscoverySource
  deriving DecidableEq

/-! ## The store -/

/-- The values of the keys of a data store. -/
abbrev Preferences := String → Option String

namespace LastKnownServerStore

def keyHost : String := "last_known_host"
def keyApiPort : String := "last_known_api_port"
def keyWirePort : String := "last_known_wire_port"
def keyServerId : String := "last_known_server_id"
def keyServerName : String := "last_known_server_name"

/-- Write a value if there is one. -/
def setIfSome (prefs : Preferences) (key : String) : Option String → Preferences
  | none => prefs
  | some value => Function.update prefs key (some value)

def portText (port : Int32) : String := String.ofList (Kotlin.intText port)

def save (endpoint : ServerEndpoint) (prefs : Preferences) : Preferences :=
  let prefs := Function.update prefs keyHost (some endpoint.host)
  let prefs := Function.update prefs keyApiPort (some (portText endpoint.apiPort))
  let prefs := Function.update prefs keyWirePort (some (portText endpoint.wirePort))
  let prefs := setIfSome prefs keyServerId endpoint.serverId
  setIfSome prefs keyServerName endpoint.serverName

def clear (_ : Preferences) : Preferences := fun _ => none

def portOf (text : String) : Option Int32 := Kotlin.toIntOrNull 10 text.toList

def decode (prefs : Preferences) : Option ServerEndpoint := do
  let host ← prefs keyHost
  let apiPort ← (prefs keyApiPort).bind portOf
  let wirePort ← (prefs keyWirePort).bind portOf
  return {
    host := host
    apiPort := apiPort
    wirePort := wirePort
    serverId := prefs keyServerId
    serverName := prefs keyServerName
    source := .lastKnown }

/-- An edit of the store. -/
inductive StoreOp
  | save (endpoint : ServerEndpoint)
  | clear

def StoreOp.apply : StoreOp → Preferences → Preferences
  | .save endpoint => LastKnownServerStore.save endpoint
  | .clear => LastKnownServerStore.clear

/-- The store after some edits, one after another. It is empty at first. -/
def applyAll (ops : List StoreOp) : Preferences :=
  ops.foldl (fun prefs op => op.apply prefs) fun _ => none

def load (ops : List StoreOp) : Option ServerEndpoint := decode (applyAll ops)

/-! ## What should be loaded -/

/-- The saves since the last clear. -/
def savesSinceClear (ops : List StoreOp) : List ServerEndpoint :=
  ops.foldl
    (fun saves op => match op with
      | .save endpoint => saves ++ [endpoint]
      | .clear => [])
    []

/-- The last save since the last clear is loaded, as a last-known endpoint, and nothing where there
is none. -/
def LoadsLastSaved (ops : List StoreOp) : Prop :=
  load ops = (savesSinceClear ops).getLast?.map fun endpoint =>
    { endpoint with source := .lastKnown }

/-- Where the last save has no id or no name, no other save since the last clear has one. -/
def NothingLeftOver (ops : List StoreOp) : Prop :=
  ∀ endpoint ∈ (savesSinceClear ops).getLast?,
    (endpoint.serverId = none → ∀ e ∈ savesSinceClear ops, e.serverId = none) ∧
      (endpoint.serverName = none → ∀ e ∈ savesSinceClear ops, e.serverName = none)

/-! ## What is loaded -/

/-- The last value that was written to an optional field. -/
def lastSome (field : ServerEndpoint → Option String) (saves : List ServerEndpoint) :
    Option String :=
  (saves.filterMap field).getLast?

/-- The endpoint that some saves add up to. -/
def mixture (saves : List ServerEndpoint) : Option ServerEndpoint :=
  saves.getLast?.map fun endpoint =>
    { endpoint with
      serverId := lastSome ServerEndpoint.serverId saves
      serverName := lastSome ServerEndpoint.serverName saves
      source := .lastKnown }

theorem portOf_portText (port : Int32) : portOf (portText port) = some port := by
  rw [portOf, portText, String.toList_ofList, Kotlin.toIntOrNull_intText]

/-- Each key holds what the saves have left there. -/
structure Stores (saves : List ServerEndpoint) (prefs : Preferences) : Prop where
  host : prefs keyHost = saves.getLast?.map ServerEndpoint.host
  apiPort : prefs keyApiPort = saves.getLast?.map fun e => portText e.apiPort
  wirePort : prefs keyWirePort = saves.getLast?.map fun e => portText e.wirePort
  serverId : prefs keyServerId = lastSome ServerEndpoint.serverId saves
  serverName : prefs keyServerName = lastSome ServerEndpoint.serverName saves

theorem stores_nil : Stores [] fun _ => none := ⟨rfl, rfl, rfl, rfl, rfl⟩

theorem lastSome_append_singleton (field : ServerEndpoint → Option String)
    (saves : List ServerEndpoint) (endpoint : ServerEndpoint) :
    lastSome field (saves ++ [endpoint]) = (field endpoint).or (lastSome field saves) := by
  rw [lastSome, List.filterMap_append, List.getLast?_append, lastSome]
  cases h : field endpoint with
  | none => rw [List.filterMap_cons_none h]; rfl
  | some value => rw [List.filterMap_cons_some h]; rfl

theorem setIfSome_self (prefs : Preferences) (key : String) (value : Option String) :
    setIfSome prefs key value key = value.or (prefs key) := by
  cases value with
  | none => rfl
  | some value => exact Function.update_self key (some value) prefs

theorem setIfSome_of_ne {key key' : String} (h : key' ≠ key) (prefs : Preferences)
    (value : Option String) : setIfSome prefs key value key' = prefs key' := by
  cases value with
  | none => rfl
  | some value => exact Function.update_of_ne h (some value) prefs

/-- **A save replaces the host and the ports, and the id and the name where it has them.** -/
theorem Stores.save {saves : List ServerEndpoint} {prefs : Preferences} (h : Stores saves prefs)
    (endpoint : ServerEndpoint) :
    Stores (saves ++ [endpoint]) (LastKnownServerStore.save endpoint prefs) := by
  constructor
  · simp [LastKnownServerStore.save, setIfSome_of_ne, keyHost, keyApiPort, keyWirePort,
      keyServerId, keyServerName]
  · simp [LastKnownServerStore.save, setIfSome_of_ne, keyApiPort, keyWirePort, keyServerId,
      keyServerName]
  · simp [LastKnownServerStore.save, setIfSome_of_ne, keyWirePort, keyServerId, keyServerName]
  · have hsave : LastKnownServerStore.save endpoint prefs keyServerId =
        endpoint.serverId.or (prefs keyServerId) := by
      simp [LastKnownServerStore.save, setIfSome_of_ne, setIfSome_self, keyHost, keyApiPort,
        keyWirePort, keyServerId, keyServerName]
    rw [hsave, lastSome_append_singleton, h.serverId]
  · have hsave : LastKnownServerStore.save endpoint prefs keyServerName =
        endpoint.serverName.or (prefs keyServerName) := by
      simp [LastKnownServerStore.save, setIfSome_of_ne, setIfSome_self, keyHost, keyApiPort,
        keyWirePort, keyServerId, keyServerName]
    rw [hsave, lastSome_append_singleton, h.serverName]

theorem stores_applyAll (ops : List StoreOp) : Stores (savesSinceClear ops) (applyAll ops) := by
  induction ops using List.reverseRecOn with
  | nil => exact stores_nil
  | append_singleton ops op ih =>
    rw [applyAll, savesSinceClear, List.foldl_append, List.foldl_append, ← applyAll,
      ← savesSinceClear]
    cases op with
    | save endpoint => exact ih.save endpoint
    | clear => exact stores_nil

/-- **What is loaded** is the last save with the last id and the last name that any save since the
last clear had. -/
theorem load_eq_mixture (ops : List StoreOp) : load ops = mixture (savesSinceClear ops) := by
  have h := stores_applyAll ops
  rw [load, decode, h.host, h.apiPort, h.wirePort, h.serverId, h.serverName, mixture]
  cases (savesSinceClear ops).getLast? with
  | none => rfl
  | some endpoint =>
    simp only [Option.map_some, Option.bind_eq_bind, Option.bind_some, portOf_portText]
    rfl

/-! ## When that is the last save -/

theorem lastSome_eq_none {field : ServerEndpoint → Option String} {saves : List ServerEndpoint} :
    lastSome field saves = none ↔ ∀ e ∈ saves, field e = none := by
  rw [lastSome, List.getLast?_eq_none_iff, List.filterMap_eq_nil_iff]

/-- The last value is that of the last save, unless that has none and another has one. -/
theorem lastSome_eq_iff {field : ServerEndpoint → Option String} {saves : List ServerEndpoint}
    {endpoint : ServerEndpoint} (h : endpoint ∈ saves.getLast?) :
    lastSome field saves = field endpoint ↔
      (field endpoint = none → ∀ e ∈ saves, field e = none) := by
  obtain ⟨front, rfl⟩ := List.getLast?_eq_some_iff.1 h
  cases hfield : field endpoint with
  | none => rw [lastSome_eq_none]; simp
  | some value =>
    rw [lastSome_append_singleton, hfield]
    exact iff_of_true rfl nofun

/-- **The last save is loaded exactly when** it has an id and a name wherever another save since the
last clear has them. -/
theorem loadsLastSaved_iff (ops : List StoreOp) : LoadsLastSaved ops ↔ NothingLeftOver ops := by
  rw [LoadsLastSaved, NothingLeftOver, load_eq_mixture, mixture]
  cases h : (savesSinceClear ops).getLast? with
  | none => simp
  | some endpoint =>
    have hlast : endpoint ∈ (savesSinceClear ops).getLast? := h
    simp only [Option.map_some, Option.some.injEq, ServerEndpoint.mk.injEq, Option.mem_def,
      true_and, and_true, forall_eq']
    rw [lastSome_eq_iff hlast, lastSome_eq_iff hlast]

/-- A server with an id and a name, and one that has not reported any. -/
def named : ServerEndpoint := ⟨"192.168.1.10", 3241, 3240, some "a1", some "desk", .rest⟩
def unnamed : ServerEndpoint := ⟨"192.168.1.20", 3241, 3240, none, none, .unknown⟩

/-- The second server is loaded with the id and the name of the first. -/
theorem not_loadsLastSaved_unnamed : ¬ LoadsLastSaved [.save named, .save unnamed] := by
  rw [LoadsLastSaved, load_eq_mixture]
  decide

end LastKnownServerStore

end Android

end AnyPlug
