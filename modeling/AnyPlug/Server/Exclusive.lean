import AnyPlug.Foundations.Lease
import AnyPlug.Server.Session

/-!
# Exclusive export

What holds of the exports and the claimed devices in every state that any number of concurrent
sessions can reach, whatever they request and whatever fails. The exports are a table of leases
(`Foundations.Lease`): a session acquires its bus id at the busy check, removes it at the end of its
URB loop, or walks away from it through a `?`. So a held bus id is exported to the session that
holds it, and to no other. Beyond that, a claimed device is exported, and a session that is about to
remove its export has released its device (`sound_reachable`).

A session that ends by removing its export leaves nothing behind. A session that ends in any other
way after the busy check leaves its bus id exported, and nobody can import the device again
(`no_residue_iff`).
-/

namespace AnyPlug

namespace Server

variable {config : ServerConfig} {peer : ℕ → SocketAddr} {s t : Server} {i : ℕ} {e : Event}
  {sh' : Shared} {ses' : Session}

/-- The bus id a session holds. -/
def held (s : Server) (i : ℕ) : Option String := (s.sessions i).phase.held

/-- The exports as leases of the sessions. -/
def leases (s : Server) : LeaseTable ℕ String (SocketAddr × UsbIpDeviceEntry) :=
  ⟨s.held, s.shared.exports⟩

/-- An export belongs to the session whose peer it names. -/
def Owns (peer : ℕ → SocketAddr) (i : ℕ) (v : SocketAddr × UsbIpDeviceEntry) : Prop := v.1 = peer i

/-- A session takes the step from `s`. -/
def after (s : Server) (i : ℕ) (sh' : Shared) (ses' : Session) : Server :=
  ⟨sh', Function.update s.sessions i ses'⟩

@[simp] theorem shared_after : (s.after i sh' ses').shared = sh' := rfl

@[simp] theorem sessions_after_self : (s.after i sh' ses').sessions i = ses' :=
  Function.update_self ..

theorem sessions_after_of_ne {j : ℕ} (h : j ≠ i) :
    (s.after i sh' ses').sessions j = s.sessions j :=
  Function.update_of_ne h ..

/-- A step of the server is a step of one session. -/
theorem step_eq_some :
    s.step config peer (i, e) = some t ↔
      ∃ sh' ses', (s.sessions i).step config (peer i) s.shared e = some (sh', ses') ∧
        s.after i sh' ses' = t := by
  simp only [step, Option.map_eq_some_iff, Prod.exists, after]

/-- A session that runs alone. -/
theorem run_bySession {events : List Event}
    (h : run (fun (p : Shared × Session) e => p.2.step config (peer i) p.1 e)
      (s.shared, s.sessions i) events = some (sh', ses')) :
    run (step config peer) s (bySession i events) = some (s.after i sh' ses') := by
  induction events generalizing s with
  | nil =>
    obtain ⟨rfl, rfl⟩ := Prod.mk.inj (Option.some.inj h)
    simp [bySession, run, after]
  | cons e events ih =>
    obtain ⟨⟨sh₁, ses₁⟩, hstep, hrun⟩ := run_cons_eq_some.1 h
    refine run_cons_eq_some.2 ⟨s.after i sh₁ ses₁, step_eq_some.2 ⟨_, _, hstep, rfl⟩, ?_⟩
    have hrest := ih (s := s.after i sh₁ ses₁) (by simpa using hrun)
    simpa [bySession, after] using hrest

theorem held_after : (s.after i sh' ses').held = Function.update s.held i ses'.phase.held := by
  funext j
  by_cases h : j = i
  · subst h
    simp [held]
  · simp [held, sessions_after_of_ne h, h]

theorem held_of_isReturned {phase : Phase} (h : phase.isReturned = true) : phase.held = none := by
  cases phase with
  | returned r => rfl
  | _ => cases h

theorem leases_after :
    (s.after i sh' ses').leases = ⟨Function.update s.held i ses'.phase.held, sh'.exports⟩ := by
  rw [leases, held_after, shared_after]

theorem leases_after_of_held (h : ses'.phase.held = s.held i) :
    (s.after i sh' ses').leases = ⟨s.held, sh'.exports⟩ := by
  rw [leases_after, h, Function.update_eq_self]

theorem leases_after_of_isReturned (h : ses'.phase.isReturned = true) :
    (s.after i sh' ses').leases = ⟨Function.update s.held i none, sh'.exports⟩ := by
  rw [leases_after, held_of_isReturned h]

/-- A step of a session is a step of the leases. -/
theorem leases_step
    (heff : Effect config (peer i) s.shared (s.sessions i) e sh' ses') :
    LeaseTable.Step (Owns peer) s.leases (s.after i sh' ses').leases := by
  cases heff with
  | quiet hheld hentered hremove hcheck hfails =>
    rw [leases_after_of_held hheld]
    exact .keep
  | enter hphase hfree hphase' hentered hfails =>
    rw [leases_after, hphase']
    exact .acquire hfree rfl
  | claim hheld hheld' hentered hremove hfails =>
    rw [leases_after_of_held (hheld'.trans hheld.symm)]
    exact .keep
  | fail hheld hphase' hentered hfails =>
    rw [leases_after_of_isReturned hphase']
    exact .abandon i
  | release hphase hphase' hentered =>
    rcases hphase' with ⟨hphase', -⟩ | ⟨hphase', -⟩
    · rw [leases_after_of_held (by rw [hphase', held, hphase]; rfl)]
      exact .keep
    · rw [leases_after_of_isReturned hphase']
      exact .abandon i
  | remove hphase hphase' hentered hfails =>
    rw [leases_after_of_isReturned hphase']
    exact .remove (show s.held i = _ by rw [held, hphase]; rfl)

/-- What a step can do to the exports: nothing, and then no bus id becomes held; enter the bus id
that passed the busy check; or remove the bus id that the session holds, and return. -/
theorem exports_cases (heff : Effect config (peer i) s.shared (s.sessions i) e sh' ses') :
    (sh'.exports = s.shared.exports ∧ ∀ b, ses'.phase.held = some b → s.held i = some b) ∨
      (∃ busid entry, (s.sessions i).phase = .check busid entry ∧
        s.shared.exports busid = none ∧ ses'.phase = .claim busid entry ∧
        sh'.exports = Function.update s.shared.exports busid (some (peer i, entry))) ∨
      ∃ busid, s.held i = some busid ∧ ses'.phase.held = none ∧
        sh'.exports = Function.update s.shared.exports busid none := by
  cases heff with
  | quiet hheld => exact .inl ⟨rfl, fun b hb => hheld.symm.trans hb⟩
  | enter hphase hfree hphase' => exact .inr (.inl ⟨_, _, hphase, hfree, hphase', rfl⟩)
  | claim hheld hheld' => exact .inl ⟨rfl, fun b hb => hheld.trans (hheld'.symm.trans hb)⟩
  | fail _ hphase' =>
    refine .inl ⟨rfl, fun b hb => ?_⟩
    rw [held_of_isReturned hphase'] at hb
    cases hb
  | release hphase hphase' =>
    refine .inl ⟨rfl, fun b hb => ?_⟩
    rcases hphase' with ⟨hphase', -⟩ | ⟨hphase', -⟩
    · rw [hphase'] at hb
      rw [held, hphase]
      exact hb
    · rw [held_of_isReturned hphase'] at hb
      cases hb
  | remove hphase hphase' =>
    exact .inr (.inr ⟨_, by rw [held, hphase]; rfl, held_of_isReturned hphase', rfl⟩)

/-- The invariant of the sessions. -/
structure Sound (peer : ℕ → SocketAddr) (s : Server) : Prop where
  leases : s.leases.Exclusive (Owns peer)
  /-- A claimed device is exported. -/
  exported : ∀ b, s.shared.handles b = true → (s.shared.exports b).isSome = true
  /-- A session about to remove its export has released its device. -/
  released : ∀ i b, (s.sessions i).phase = .remove b → s.shared.handles b = false
  /-- A session that has entered a bus id holds it until it returns. -/
  entered : ∀ i b, (s.sessions i).entered = some b →
    s.held i = some b ∨ (s.sessions i).phase.isReturned = true

theorem sound_init : Sound peer init where
  leases := ⟨by simp [Server.leases, held, init, Phase.held],
    by simp [Server.leases, held, init, Phase.held]⟩
  exported := by simp [init]
  released := by simp [init]
  entered := by simp [init]

/-- A held bus id is exported. -/
theorem Sound.isSome_exports (h : Sound peer s) {b : String} (hb : s.held i = some b) :
    (s.shared.exports b).isSome = true := by
  obtain ⟨v, hv, -⟩ := h.leases.owned i b hb
  exact Option.isSome_of_eq_some hv

theorem exported_after (h : Sound peer s)
    (heff : Effect config (peer i) s.shared (s.sessions i) e sh' ses') (b : String)
    (hb : sh'.handles b = true) : (sh'.exports b).isSome = true := by
  cases heff with
  | quiet => exact h.exported b hb
  | @enter busid entry _ _ hfree =>
    by_cases hbb : b = busid
    · subst hbb
      simp
    · simpa [hbb] using h.exported b hb
  | @claim busid _ hheld =>
    by_cases hbb : b = busid
    · subst hbb
      exact h.isSome_exports hheld
    · exact h.exported b (by simpa [hbb] using hb)
  | fail => exact h.exported b hb
  | @release busid =>
    by_cases hbb : b = busid
    · subst hbb
      simp at hb
    · exact h.exported b (by simpa [hbb] using hb)
  | @remove busid _ hphase =>
    -- the export that goes is that of a device released before
    have hne : b ≠ busid := by
      rintro rfl
      rw [h.released i b hphase] at hb
      cases hb
    simpa [hne] using h.exported b hb

theorem released_after (h : Sound peer s)
    (heff : Effect config (peer i) s.shared (s.sessions i) e sh' ses') (j : ℕ) (b : String)
    (hj : ((s.after i sh' ses').sessions j).phase = .remove b) : sh'.handles b = false := by
  by_cases hji : j = i
  · subst hji
    rw [sessions_after_self] at hj
    cases heff with
    | quiet hheld hentered hremove hcheck hfails => exact absurd hj (hremove b)
    | enter hphase hfree hphase' hentered hfails =>
      rw [hj] at hphase'
      cases hphase'
    | claim hheld hheld' hentered hremove hfails => exact absurd hj (hremove b)
    | fail hheld hphase' hentered hfails =>
      rw [hj] at hphase'
      cases hphase'
    | release hphase hphase' hentered =>
      rw [hj] at hphase'
      rcases hphase' with ⟨hphase', -⟩ | ⟨hphase', -⟩
      · cases hphase'
        exact Function.update_self ..
      · cases hphase'
    | remove hphase hphase' hentered hfails =>
      rw [hj] at hphase'
      cases hphase'
  · rw [sessions_after_of_ne hji] at hj
    have hb := h.released j b hj
    have hheldj : s.held j = some b := by
      rw [held, hj]
      rfl
    cases heff with
    | quiet => exact hb
    | enter => exact hb
    | @claim busid _ hheld =>
      -- another session claims another device
      have hne : b ≠ busid := by
        rintro rfl
        exact hji (h.leases.unique j i b hheldj hheld)
      simpa [hne] using hb
    | fail => exact hb
    | @release busid =>
      by_cases hbb : b = busid
      · subst hbb
        exact Function.update_self ..
      · simpa [hbb] using hb
    | remove => exact hb

theorem entered_after (h : Sound peer s) (hrun : (s.sessions i).phase.isReturned = false)
    (heff : Effect config (peer i) s.shared (s.sessions i) e sh' ses') (j : ℕ) (b : String)
    (hj : ((s.after i sh' ses').sessions j).entered = some b) :
    (s.after i sh' ses').held j = some b ∨
      ((s.after i sh' ses').sessions j).phase.isReturned = true := by
  by_cases hji : j = i
  · subst hji
    rw [held, sessions_after_self] at *
    have hold (hent : (s.sessions j).entered = some b) : s.held j = some b :=
      (h.entered j b hent).resolve_right (by simp [hrun])
    cases heff with
    | quiet hheld hentered hremove hcheck hfails => exact .inl (hheld.trans (hold (hentered ▸ hj)))
    | enter hphase hfree hphase' hentered hfails =>
      rw [hphase']
      exact .inl (hentered.symm.trans hj)
    | claim hheld hheld' hentered hremove hfails =>
      exact .inl (hheld'.trans (hheld.symm.trans (hold (hentered ▸ hj))))
    | fail hheld hphase' hentered hfails => exact .inr hphase'
    | release hphase hphase' hentered =>
      rcases hphase' with ⟨hphase', -⟩ | ⟨hphase', -⟩
      · have hb := hold (hentered ▸ hj)
        rw [held, hphase] at hb
        rw [hphase']
        exact .inl hb
      · exact .inr hphase'
    | remove hphase hphase' hentered hfails => exact .inr hphase'
  · rw [held, sessions_after_of_ne hji] at *
    exact h.entered j b hj

/-- **Every step keeps the invariant.** -/
theorem sound_step (s : Server) (a : ℕ × Event) (t : Server) (h : Sound peer s)
    (hstep : s.step config peer a = some t) : Sound peer t := by
  obtain ⟨i, e⟩ := a
  obtain ⟨sh', ses', hses, rfl⟩ := step_eq_some.1 hstep
  have heff := Session.step_effect hses
  have hrun := Session.not_isReturned_of_step hses
  exact ⟨h.leases.step (leases_step heff), exported_after h heff, released_after h heff,
    entered_after h hrun heff⟩

/-- **In every reachable state** leases are exclusive, claimed devices are exported, and exports
are removed after the release. -/
theorem sound_reachable (h : Reachable (step config peer) init s) : Sound peer s :=
  h.invariant sound_step sound_init

/-- A request that is answered at once changes nothing that is shared. -/
theorem exists_step_answer {reply : Bytes} {r : UsbIpResult Unit}
    (h : (s.sessions i).step config (peer i) s.shared e =
      some (s.shared, (s.sessions i).answer reply r)) :
    ∃ t, s.step config peer (i, e) = some t ∧ t.shared = s.shared ∧
      (t.sessions i).sent = (s.sessions i).sent ++ [reply] ∧
      (t.sessions i).phase.isReturned = true := by
  refine ⟨_, step_eq_some.2 ⟨_, _, h, rfl⟩, rfl, ?_, ?_⟩
  · rw [sessions_after_self, Session.sent_answer]
  · rw [sessions_after_self, Session.isReturned_answer]

/-- **Export is exclusive among wire clients.** In every state that any interleaving of sessions
reaches, whatever they request and whatever fails: a bus id has at most one holder; a claimed device
is exported; a request for an exported bus id is answered busy, and one for an unknown device is
answered that there is none, and both leave the maps as they are; and a session that removes its
export leaves its bus id in neither map. -/
theorem exclusive_export (h : Reachable (step config peer) init s) :
    (∀ i j b, s.held i = some b → s.held j = some b → i = j) ∧
      (∀ b, s.shared.handles b = true → (s.shared.exports b).isSome = true) ∧
      (∀ i b entry r, (s.sessions i).phase = .check b entry → (s.shared.exports b).isSome = true →
        ∃ t, s.step config peer (i, .check r) = some t ∧ t.shared = s.shared ∧
          (t.sessions i).sent = (s.sessions i).sent ++ [busyReply] ∧
          (t.sessions i).phase.isReturned = true) ∧
      (∀ i b devices r, (s.sessions i).phase = .lookup b → getDeviceEntry devices b = none →
        ∃ t, s.step config peer (i, .lookup devices r) = some t ∧ t.shared = s.shared ∧
          (t.sessions i).sent = (s.sessions i).sent ++ [nodevReply] ∧
          (t.sessions i).phase.isReturned = true) ∧
      ∀ i b, (s.sessions i).phase = .remove b →
        ∃ t, s.step config peer (i, .remove) = some t ∧ t.shared.exports b = none ∧
          t.shared.handles b = false ∧ (t.sessions i).phase.isReturned = true := by
  have hs := sound_reachable h
  refine ⟨hs.leases.unique, hs.exported, ?_, ?_, ?_⟩
  · intro i b entry r hphase hbusy
    apply exists_step_answer (r := r)
    simp only [Session.step, hphase, hbusy, if_true]
  · intro i b devices r hphase hnone
    apply exists_step_answer (r := r)
    simp only [Session.step, hphase, hnone]
  · intro i b hphase
    have hses : (s.sessions i).step config (peer i) s.shared .remove =
        some ({ s.shared with exports := Function.update s.shared.exports b none },
          (s.sessions i).goto (.returned (.ok ()))) := by
      simp only [Session.step, hphase]
    refine ⟨_, step_eq_some.2 ⟨_, _, hses, rfl⟩, Function.update_self .., ?_, ?_⟩
    · exact hs.released i b hphase
    · rw [sessions_after_self]
      rfl

/-- One client has the wheel and another asks for it: the second is answered busy. -/
theorem exclusive_export_wheel :
    ∃ s, Reachable (step {} clientAddr) init s ∧ s.held 0 = some "1-1" ∧
      ∃ t, s.step {} clientAddr (1, .check (.ok ())) = some t ∧ t.shared = s.shared ∧
        (t.sessions 1).sent = (s.sessions 1).sent ++ [busyReply] ∧
        (t.sessions 1).phase.isReturned = true := by
  have hrun : (run (step {} clientAddr) init
      (bySession 0 (importEvents wheelBusid [wheelEntry] []) ++
        bySession 1 (requestEvents wheelBusid [wheelEntry]))).map
        (fun s => (s.held 0, (s.shared.exports "1-1").isSome, (s.sessions 1).phase.checked)) =
      some (some "1-1", true, some "1-1") := by
    decide +kernel
  obtain ⟨s, hs, hobs⟩ := Option.map_eq_some_iff.1 hrun
  obtain ⟨hheld, hbusy, hchecked⟩ : _ ∧ _ ∧ _ := by simpa using hobs
  obtain ⟨entry, hphase⟩ := Phase.checked_eq_some.1 hchecked
  exact ⟨s, ⟨_, hs⟩, hheld, (exclusive_export ⟨_, hs⟩).2.2.1 1 "1-1" entry (.ok ()) hphase hbusy⟩

/-! ## What a session leaves behind -/

/-- A failing answer ends the session. -/
theorem isReturned_of_fails (hfails : e.fails config = true)
    (heff : Effect config (peer i) s.shared (s.sessions i) e sh' ses') :
    ses'.phase.isReturned = true := by
  cases heff with
  | quiet _ _ _ _ hf => simp [hfails] at hf
  | enter _ _ _ _ hf => simp [hfails] at hf
  | claim _ _ _ _ hf => simp [hfails] at hf
  | fail _ hphase' => exact hphase'
  | release _ hphase' =>
    rcases hphase' with ⟨-, hf⟩ | ⟨hphase', -⟩
    · simp [hfails] at hf
    · exact hphase'
  | remove _ _ _ hf => simp [hfails] at hf

/-- A session that has not returned got no failing answer. -/
theorem not_fails_of_running {as : List (ℕ × Event)} (hrun : run (step config peer) s as = some t)
    (hi : (t.sessions i).phase.isReturned = false) (he : (i, e) ∈ as) : e.fails config = false := by
  induction as using List.reverseRecOn generalizing t with
  | nil => cases he
  | append_singleton as a ih =>
    obtain ⟨u, hu, hstep⟩ := run_append_singleton_eq_some.1 hrun
    obtain ⟨j, e'⟩ := a
    obtain ⟨sh', ses', hses, rfl⟩ := step_eq_some.1 hstep
    -- the last step is one of session `j`, which need not be `i`
    have hu' : (u.sessions i).phase.isReturned = false := by
      by_cases hij : i = j
      · subst hij
        exact Session.not_isReturned_of_step hses
      · rwa [sessions_after_of_ne hij] at hi
    rcases List.mem_append.1 he with he | he
    · exact ih hu hu' he
    · obtain ⟨rfl, rfl⟩ : i = j ∧ e = e' := by simpa using he
      rw [sessions_after_self] at hi
      by_contra hfails
      have := isReturned_of_fails (by simpa using hfails) (Session.step_effect hses)
      rw [hi] at this
      cases this

/-- **A session leaves no residue exactly when none of its answers after the busy check was a
failure.** The step `(i, e)` is the one with which session `i` returns, after it had entered the
bus id `b`: then `b` is neither exported nor claimed if and only if no claim, descriptor read,
write of the reply, key exchange, write of a batch or release of this session failed. -/
theorem no_residue_iff {as : List (ℕ × Event)} {b : String}
    (hrun : run (step config peer) init as = some s) (hstep : s.step config peer (i, e) = some t)
    (hret : (t.sessions i).phase.isReturned = true) (hb : (t.sessions i).entered = some b) :
    (t.shared.exports b = none ∧ t.shared.handles b = false) ↔
      ∀ e', (i, e') ∈ as ++ [(i, e)] → e'.fails config = false := by
  have hs := sound_reachable ⟨as, hrun⟩
  obtain ⟨sh', ses', hses, rfl⟩ := step_eq_some.1 hstep
  have heff := Session.step_effect hses
  have hrunning := Session.not_isReturned_of_step hses
  rw [sessions_after_self] at hret hb
  have hnone := held_of_isReturned hret
  have hold (hent : (s.sessions i).entered = some b) : s.held i = some b :=
    (hs.entered i b hent).resolve_right (by simp [hrunning])
  have hresidue (hent : ses'.entered = (s.sessions i).entered)
      (hexp : sh'.exports = s.shared.exports) : sh'.exports b ≠ none := by
    have := hs.isSome_exports (hold (hent ▸ hb))
    rw [hexp]
    exact Option.isSome_iff_ne_none.1 this
  have hlast : (∀ e', (i, e') ∈ as ++ [(i, e)] → e'.fails config = false) ↔
      e.fails config = false := by
    constructor
    · intro hall
      exact hall e (by simp)
    · intro he e' he'
      rcases List.mem_append.1 he' with he' | he'
      · exact not_fails_of_running hrun hrunning he'
      · obtain rfl : e' = e := by simpa using he'
        exact he
  rw [hlast, shared_after]
  cases heff with
  | quiet hheld hentered =>
    have := hold (hentered ▸ hb)
    rw [hnone] at hheld
    rw [held, ← hheld] at this
    cases this
  | enter _ _ hphase' =>
    rw [hphase'] at hret
    cases hret
  | claim _ hheld' =>
    rw [hnone] at hheld'
    cases hheld'
  | fail _ _ hentered hfails =>
    exact iff_of_false (fun h => hresidue hentered rfl h.1) (by simp [hfails])
  | release _ hphase' hentered =>
    rcases hphase' with ⟨hphase', -⟩ | ⟨-, hfails⟩
    · rw [hphase'] at hret
      cases hret
    · exact iff_of_false (fun h => hresidue hentered rfl h.1) (by simp [hfails])
  | remove hphase _ hentered hfails =>
    have hb' := hold (hentered ▸ hb)
    rw [held, hphase] at hb'
    obtain rfl := Option.some.inj hb'
    exact iff_of_true ⟨Function.update_self .., hs.released i _ hphase⟩ hfails

/-- A client that imports the wheel and leaves again leaves no residue. -/
theorem no_residue_wheel :
    ∃ s t, run (step {} clientAddr) init
        (bySession 0 (importEvents wheelBusid [wheelEntry] [] ++ leaveEvents.dropLast)) = some s ∧
      s.step {} clientAddr (0, .remove) = some t ∧ t.shared.exports "1-1" = none ∧
        t.shared.handles "1-1" = false := by
  have hobs : (run (step {} clientAddr) init
      (bySession 0 (importEvents wheelBusid [wheelEntry] [] ++ leaveEvents.dropLast)
        ++ [(0, .remove)])).map
        (fun t => ((t.sessions 0).phase.isReturned, (t.sessions 0).entered)) =
      some (true, some "1-1") := by
    decide +kernel
  obtain ⟨t, ht, hobs⟩ := Option.map_eq_some_iff.1 hobs
  obtain ⟨s, hs, hstep⟩ := run_append_singleton_eq_some.1 ht
  obtain ⟨hret, hb⟩ : _ ∧ _ := by simpa using hobs
  refine ⟨s, t, hs, hstep, (no_residue_iff hs hstep hret hb).2 ?_⟩
  simp [bySession, importEvents, requestEvents, leaveEvents, Event.fails]

/-- When the device cannot be claimed, the session returns and its bus id stays exported. -/
theorem residue_after_failed_claim :
    ∃ t, run (step {} clientAddr) init
        (bySession 0 (requestEvents wheelBusid [wheelEntry] ++
          [.check (.ok ()), .claim (.error (.usb .access))])) = some t ∧
      (t.sessions 0).phase.isReturned = true ∧ (t.sessions 0).entered = some "1-1" ∧
      (t.shared.exports "1-1").isSome = true := by
  have hobs : (run (step {} clientAddr) init
      (bySession 0 (requestEvents wheelBusid [wheelEntry] ++
        [.check (.ok ()), .claim (.error (.usb .access))]))).map
        (fun t => ((t.sessions 0).phase.isReturned, (t.sessions 0).entered,
          (t.shared.exports "1-1").isSome)) =
      some (true, some "1-1", true) := by
    decide +kernel
  obtain ⟨t, ht, hobs⟩ := Option.map_eq_some_iff.1 hobs
  exact ⟨t, ht, by simpa using hobs⟩

end Server

end AnyPlug
