import AnyPlug.Server.Exclusive

/-!
# The REST API and the exports

`POST /api/connect` and `POST /api/disconnect` (`usbip-server/src/api.rs`) write to the map that the
wire sessions keep their exports in: the first records a device that was imported from another
server under the bus id it has there, the second removes whatever is recorded under a bus id.
Neither looks at what is there before.

The map has no owners. To say whose entry is under a bus id, `Tracked` keeps a history variable
beside the server: who made the entry. `owned_of_apart` is what remains true of the sessions'
exports when the bus ids of imported devices are none of those under which local devices are
requested, and nobody disconnects a bus id that a session holds.
-/

namespace AnyPlug

/-- What the API answers. -/
inductive ApiResponse
  /-- 200, with the device that was imported. -/
  | imported (busid : String) (vid pid : UInt16)
  /-- 200, the entry is gone. -/
  | disconnected (busid : String)
  /-- 500, the import failed. -/
  | importFailed (e : ErrorKind)
  /-- 404, there was no entry. -/
  | notFound (e : ErrorKind)

/-- The address that stands for a host that is not one. -/
def unspecifiedAddr : SocketAddr := ⟨.v4 (Vector.replicate 4 0), 0⟩

/-- `POST /api/connect`: the socket address that host and port denote, if they denote one, and the
outcome of the import. -/
def postConnect (sh : Shared) (host : Option SocketAddr) (r : UsbIpResult UsbIpDeviceEntry) :
    Shared × ApiResponse :=
  match r with
  | .ok entry =>
    let busid := entry.busidStr
    ({ sh with
      exports := Function.update sh.exports busid (some (host.getD unspecifiedAddr, entry)) },
      .imported busid entry.vid entry.pid)
  | .error e => (sh, .importFailed e)

/-- `POST /api/disconnect`. -/
def postDisconnect (sh : Shared) (busid : String) : Shared × ApiResponse :=
  ({ sh with exports := Function.update sh.exports busid none },
    match sh.exports busid with
    | some _ => .disconnected busid
    | none => .notFound (.deviceNotFound busid))

/-- A step of a session or a call of the API. -/
inductive Action
  | session (i : ℕ) (e : Event)
  | connect (host : Option SocketAddr) (r : UsbIpResult UsbIpDeviceEntry)
  | disconnect (busid : String)

/-- A step of the server with its API. -/
def Server.apiStep (config : ServerConfig) (peer : ℕ → SocketAddr) (s : Server) :
    Action → Option Server
  | .session i e => s.step config peer (i, e)
  | .connect host r => some { s with shared := (postConnect s.shared host r).1 }
  | .disconnect busid => some { s with shared := (postDisconnect s.shared busid).1 }

/-! ## Who made an entry -/

/-- Who made an entry of the exports. -/
inductive Origin
  | wire (i : ℕ)
  | api
  deriving DecidableEq

/-- The server, and who made the entries of its exports. -/
structure Tracked where
  server : Server
  origin : String → Option Origin

namespace Tracked

def init : Tracked := ⟨.init, fun _ => none⟩

/-- Who made the entries after a step of session `i`: an entry that appears is its own. -/
def originAfter (origin : String → Option Origin) (i : ℕ) (before after : Shared) (b : String) :
    Option Origin :=
  match before.exports b, after.exports b with
  | none, some _ => some (.wire i)
  | some _, none => none
  | _, _ => origin b

/-- A step of the server, with the history variable. -/
def step (config : ServerConfig) (peer : ℕ → SocketAddr) (t : Tracked) (a : Action) :
    Option Tracked :=
  (t.server.apiStep config peer a).map fun s =>
    ⟨s, match a with
      | .session i _ => originAfter t.origin i t.server.shared s.shared
      | .connect _ (.ok entry) => Function.update t.origin entry.busidStr (some .api)
      | .connect _ (.error _) => t.origin
      | .disconnect busid => Function.update t.origin busid none⟩

variable {config : ServerConfig} {peer : ℕ → SocketAddr}

/-- The history variable does not interfere. -/
theorem server_step {t u : Tracked} {a : Action} (h : t.step config peer a = some u) :
    t.server.apiStep config peer a = some u.server := by
  obtain ⟨s, hs, rfl⟩ := Option.map_eq_some_iff.1 h
  exact hs

/-- The sessions own their exports: a held bus id is exported to its holder; a session about to
remove an entry made it; and the entry that makes a request for an attached device busy, when no
session holds its bus id, was not made by the API. -/
structure Owned (peer : ℕ → SocketAddr) (t : Tracked) : Prop where
  owned : ∀ i b, t.server.held i = some b →
    ∃ entry, t.server.shared.exports b = some (peer i, entry)
  removes : ∀ i b, (t.server.sessions i).phase = .remove b → t.origin b = some (.wire i)
  busy : ∀ i b, (t.server.sessions i).phase.checked = some b →
    (t.server.shared.exports b).isSome = true → (∀ j, t.server.held j ≠ some b) →
    t.origin b ≠ some .api

/-- The bus ids of the API stay apart from those in `local_`, under which attached devices are
requested, and nobody disconnects a bus id that a session holds. -/
def Apart (local_ : Set String) (t : Tracked) : Action → Prop
  | .session i (.lookup devices _) => ∀ b, (t.server.sessions i).phase = .lookup b →
      (getDeviceEntry devices b).isSome = true → b ∈ local_
  | .session _ _ => True
  | .connect _ (.ok entry) => entry.busidStr ∉ local_
  | .connect _ (.error _) => True
  | .disconnect busid => ∀ i, t.server.held i ≠ some busid

/-- The invariant of runs whose bus ids stay apart. -/
structure Inv (local_ : Set String) (peer : ℕ → SocketAddr) (t : Tracked) : Prop where
  leases : t.server.leases.Exclusive (Server.Owns peer)
  origin_held : ∀ i b, t.server.held i = some b → t.origin b = some (.wire i)
  held_mem : ∀ i b, t.server.held i = some b → b ∈ local_
  checked_mem : ∀ i b, (t.server.sessions i).phase.checked = some b → b ∈ local_
  api_not_mem : ∀ b, t.origin b = some .api → b ∉ local_

variable {local_ : Set String}

theorem inv_init : Inv local_ peer init where
  leases := Server.sound_init.leases
  origin_held := by simp [init, Server.held, Server.init, Phase.held]
  held_mem := by simp [init, Server.held, Server.init, Phase.held]
  checked_mem := by simp [init, Server.init, Phase.checked]
  api_not_mem := by simp [init]

/-- An entry of the API is made under a bus id that no session holds or requests. -/
theorem Inv.change {t : Tracked} (h : Inv local_ peer t) {b : String}
    (hfree : ∀ i, t.server.held i ≠ some b) (v : Option (SocketAddr × UsbIpDeviceEntry))
    (w : Option Origin) (hw : w = some .api → b ∉ local_) :
    Inv local_ peer ⟨⟨{ t.server.shared with
      exports := Function.update t.server.shared.exports b v }, t.server.sessions⟩,
        Function.update t.origin b w⟩ where
  leases := h.leases.step (.change v hfree)
  origin_held i c hc := by
    have hne : c ≠ b := fun hcb => hfree i (hcb ▸ hc)
    exact (Function.update_of_ne hne ..).trans (h.origin_held i c hc)
  held_mem := h.held_mem
  checked_mem := h.checked_mem
  api_not_mem c hc := by
    by_cases hcb : c = b
    · subst hcb
      exact hw (by simpa using hc)
    · exact h.api_not_mem c (by simpa [hcb] using hc)

section SessionStep

variable {t : Tracked} {i : ℕ} {e : Event} {sh' : Shared} {ses' : Session}

theorem originAfter_of_eq {origin : String → Option Origin} {before after : Shared}
    (h : after.exports = before.exports) : originAfter origin i before after = origin := by
  funext b
  rw [originAfter, h]
  cases before.exports b <;> rfl

theorem originAfter_enter {origin : String → Option Origin} {before after : Shared} {busid : String}
    {v : SocketAddr × UsbIpDeviceEntry} (hfree : before.exports busid = none)
    (h : after.exports = Function.update before.exports busid (some v)) :
    originAfter origin i before after = Function.update origin busid (some (.wire i)) := by
  funext b
  by_cases hb : b = busid
  · subst hb
    simp [originAfter, h, hfree]
  · simp only [originAfter, h, Function.update_of_ne hb]
    cases before.exports b <;> rfl

theorem originAfter_remove {origin : String → Option Origin} {before after : Shared}
    {busid : String} {v : SocketAddr × UsbIpDeviceEntry} (hv : before.exports busid = some v)
    (h : after.exports = Function.update before.exports busid none) :
    originAfter origin i before after = Function.update origin busid none := by
  funext b
  by_cases hb : b = busid
  · subst hb
    simp [originAfter, h, hv]
  · simp only [originAfter, h, Function.update_of_ne hb]
    cases before.exports b <;> rfl

/-- What a session holds after a step, when the step entered nothing. -/
theorem held_of_held_after (hi : ∀ b, ses'.phase.held = some b → t.server.held i = some b) {j : ℕ}
    {b : String} (hj : (t.server.after i sh' ses').held j = some b) : t.server.held j = some b := by
  rw [Server.held_after] at hj
  by_cases hji : j = i
  · subst hji
    exact hi b (by simpa using hj)
  · simpa [hji] using hj

/-- A bus id is checked after it was looked up. -/
theorem checked_mem_after (h : Inv local_ peer t) (hapart : Apart local_ t (.session i e))
    (heff : Effect config (peer i) t.server.shared (t.server.sessions i) e sh' ses') (j : ℕ)
    (b : String) (hj : ((t.server.after i sh' ses').sessions j).phase.checked = some b) :
    b ∈ local_ := by
  by_cases hji : j = i
  · subst hji
    rw [Server.sessions_after_self] at hj
    obtain ⟨entry, hphase⟩ := Phase.checked_eq_some.1 hj
    cases heff with
    | quiet _ _ _ hcheck =>
      obtain ⟨hlookup, devices, r, rfl, hfound⟩ := hcheck b entry hphase
      exact hapart b hlookup (Option.isSome_of_eq_some hfound)
    | enter _ _ hphase' =>
      rw [hphase] at hphase'
      cases hphase'
    | claim _ hheld' =>
      rw [hphase] at hheld'
      cases hheld'
    | fail _ hphase' =>
      rw [hphase] at hphase'
      cases hphase'
    | release _ hphase' =>
      rw [hphase] at hphase'
      rcases hphase' with ⟨hphase', -⟩ | ⟨hphase', -⟩ <;> cases hphase'
    | remove _ hphase' =>
      rw [hphase] at hphase'
      cases hphase'
  · rw [Server.sessions_after_of_ne hji] at hj
    exact h.checked_mem j b hj

/-- A step of a session keeps the invariant. -/
theorem inv_session (h : Inv local_ peer t) (hapart : Apart local_ t (.session i e))
    (heff : Effect config (peer i) t.server.shared (t.server.sessions i) e sh' ses') :
    Inv local_ peer ⟨t.server.after i sh' ses',
      originAfter t.origin i t.server.shared sh'⟩ := by
  have hleases := h.leases.step (Server.leases_step heff)
  have hchecked := checked_mem_after h hapart heff
  rcases Server.exports_cases heff with ⟨hexp, hheld⟩ |
    ⟨busid, entry, hphase, hfree, hphase', hexp⟩ | ⟨busid, hheld, hheld', hexp⟩
  · rw [originAfter_of_eq hexp]
    exact ⟨hleases, fun j b hj => h.origin_held j b (held_of_held_after hheld hj),
      fun j b hj => h.held_mem j b (held_of_held_after hheld hj), hchecked, h.api_not_mem⟩
  · rw [originAfter_enter hfree hexp]
    -- the session that entered `busid` holds it, the others hold what they held
    have hcases (j : ℕ) (b : String) (hj : (t.server.after i sh' ses').held j = some b) :
        j = i ∧ b = busid ∨ b ≠ busid ∧ t.server.held j = some b := by
      rw [Server.held_after, hphase'] at hj
      by_cases hji : j = i
      · subst hji
        exact .inl ⟨rfl, by simpa [Phase.held, eq_comm] using hj⟩
      · rw [Function.update_of_ne hji] at hj
        exact .inr ⟨fun hb => h.leases.held_ne hfree j (hb ▸ hj), hj⟩
    refine ⟨hleases, fun j b hj => ?_, fun j b hj => ?_, hchecked, fun b hb => ?_⟩
    · rcases hcases j b hj with ⟨rfl, rfl⟩ | ⟨hne, hj⟩
      · exact Function.update_self ..
      · exact (Function.update_of_ne hne ..).trans (h.origin_held j b hj)
    · rcases hcases j b hj with ⟨rfl, rfl⟩ | ⟨-, hj⟩
      · exact h.checked_mem j b (Phase.checked_eq_some.2 ⟨entry, hphase⟩)
      · exact h.held_mem j b hj
    · by_cases hbb : b = busid
      · subst hbb
        simp at hb
      · exact h.api_not_mem b (by simpa [hbb] using hb)
  · obtain ⟨v, hv, -⟩ := h.leases.owned i busid hheld
    rw [originAfter_remove hv hexp]
    have hold : ∀ b, ses'.phase.held = some b → t.server.held i = some b := by simp [hheld']
    refine ⟨hleases, fun j b hj => ?_, fun j b hj => h.held_mem j b (held_of_held_after hold hj),
      hchecked, fun b hb => ?_⟩
    · have hj' := held_of_held_after hold hj
      have hne : b ≠ busid := by
        rintro rfl
        obtain rfl := h.leases.unique j i b hj' hheld
        rw [Server.held_after, hheld', Function.update_self] at hj
        cases hj
      exact (Function.update_of_ne hne ..).trans (h.origin_held j b hj')
    · by_cases hbb : b = busid
      · subst hbb
        simp at hb
      · exact h.api_not_mem b (by simpa [hbb] using hb)

end SessionStep

/-- **Every step that keeps the bus ids apart keeps the invariant.** -/
theorem inv_step (t : Tracked) (a : Action) (u : Tracked) (h : Inv local_ peer t)
    (hapart : Apart local_ t a) (hstep : t.step config peer a = some u) : Inv local_ peer u := by
  obtain ⟨s, hs, rfl⟩ := Option.map_eq_some_iff.1 hstep
  cases a with
  | session i e =>
    obtain ⟨sh', ses', hses, rfl⟩ := Server.step_eq_some.1 hs
    exact inv_session h hapart (Session.step_effect hses)
  | connect host r =>
    cases r with
    | ok entry =>
      obtain rfl := Option.some.inj hs
      exact h.change (fun i hi => hapart (h.held_mem i _ hi)) _ _ fun _ => hapart
    | error err =>
      obtain rfl := Option.some.inj hs
      exact h
  | disconnect busid =>
    obtain rfl := Option.some.inj hs
    exact h.change hapart _ _ (by simp)

theorem Inv.owned {t : Tracked} (h : Inv local_ peer t) : Owned peer t where
  owned i b hb := by
    obtain ⟨v, hv, hown⟩ := h.leases.owned i b hb
    exact ⟨v.2, hv.trans (by rw [← show v.1 = peer i from hown])⟩
  removes i b hb := by
    refine h.origin_held i b ?_
    rw [Server.held, hb]
    rfl
  busy i b hb _ _ hapi := h.api_not_mem b hapi (h.checked_mem i b hb)

/-- **The sessions own their exports in every run whose bus ids stay apart**: no
`POST /api/connect` records a bus id under which an attached device is requested over the wire, and
no `POST /api/disconnect` names a bus id that a running session holds. -/
theorem owned_of_apart (local_ : Set String) {as : List Action} {t : Tracked}
    (hrun : run (step config peer) init as = some t)
    (hapart : Along (step config peer) (Apart local_) init as) : Owned peer t :=
  (hapart.invariant inv_step inv_init hrun).owned

/-- Another server. -/
def remoteAddr : SocketAddr := ⟨.v4 (zeroPad 4 [192, 168, 1, 30]), 3240⟩

/-- A wheel that another server exports as `2-1`. -/
def remoteEntry : UsbIpDeviceEntry := { wheelEntry with busid := zeroPad 32 [0x32, 0x2D, 0x31] }

/-- Only `1-1` is requested, it is never recorded, and nothing is disconnected. -/
def apartTest (t : Tracked) : Action → Bool
  | .session i (.lookup _ _) =>
    match (t.server.sessions i).phase with
    | .lookup b => b == "1-1"
    | _ => true
  | .connect _ (.ok entry) => entry.busidStr != "1-1"
  | .disconnect _ => false
  | _ => true

theorem apart_of_apartTest (t : Tracked) (a : Action) (h : apartTest t a = true) :
    Apart {"1-1"} t a := by
  unfold apartTest at h
  split at h
  · intro b hb _
    rw [hb] at h
    simpa using h
  · simpa [Apart] using h
  · cases h
  · rename_i hlookup hconnect hdisconnect
    cases a with
    | session i e =>
      cases e with
      | lookup devices r => exact absurd rfl (hlookup i devices r)
      | _ => trivial
    | connect host r =>
      cases r with
      | ok entry => exact absurd rfl (hconnect host entry)
      | error err => trivial
    | disconnect busid => exact absurd rfl (hdisconnect busid)

/-- A client imports the wheel at `1-1` while the API records one that is `2-1` elsewhere. -/
def apartActions : List Action :=
  .connect (some remoteAddr) (.ok remoteEntry) ::
    (importEvents wheelBusid [wheelEntry] []).map (.session 0)

theorem owned_wheel :
    ∃ t, run (step {} clientAddr) init apartActions = some t ∧ t.server.held 0 = some "1-1" ∧
      t.origin "2-1" = some .api ∧ Owned clientAddr t := by
  have hobs : (run (step {} clientAddr) init apartActions).map
      (fun t => (t.server.held 0, t.origin "2-1")) = some (some "1-1", some .api) := by
    decide +kernel
  obtain ⟨t, ht, hobs⟩ := Option.map_eq_some_iff.1 hobs
  obtain ⟨hheld, horigin⟩ : _ ∧ _ := by simpa using hobs
  exact ⟨t, ht, hheld, horigin,
    owned_of_apart {"1-1"} ht (.of_test apart_of_apartTest (by decide +kernel))⟩

/-- When the API records an import under the bus id that a session holds, the export of the session
is gone while the session runs. -/
theorem not_owned_after_connect :
    ∃ t, run (step {} clientAddr) init
        ((importEvents wheelBusid [wheelEntry] []).map (.session 0) ++
          [.connect (some remoteAddr) (.ok wheelEntry)]) = some t ∧ ¬Owned clientAddr t := by
  have hobs : (run (step {} clientAddr) init
      ((importEvents wheelBusid [wheelEntry] []).map (.session 0) ++
        [.connect (some remoteAddr) (.ok wheelEntry)])).map
        (fun t => (t.server.held 0, (t.server.shared.exports "1-1").map Prod.fst)) =
      some (some "1-1", some remoteAddr) := by
    decide +kernel
  obtain ⟨t, ht, hobs⟩ := Option.map_eq_some_iff.1 hobs
  obtain ⟨hheld, hpeer⟩ := Prod.mk.inj hobs
  refine ⟨t, ht, fun h => ?_⟩
  obtain ⟨entry, hentry⟩ := h.owned 0 "1-1" hheld
  rw [hentry] at hpeer
  exact absurd (Option.some.inj hpeer) (show clientAddr 0 ≠ remoteAddr by decide +kernel)

end Tracked

end AnyPlug
