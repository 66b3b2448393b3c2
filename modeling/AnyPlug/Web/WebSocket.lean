import AnyPlug.Foundations.Transition

/-!
# The connection of a page

`useWebSocket` of `web/src/hooks/useWebSocket.ts` keeps a page connected to the events of a server.
Its effect makes a socket, and when that closes a timer that makes the next one. The effect can run
again after its cleanup; the sockets and timers of the earlier runs are still around then, and their
handlers find out by the variable `mounted` of their own run that they are late.

`page_refines` compares the hook with the connection it is meant to be: one socket, or one timer
that will make the next one, and nothing after the cleanup. `isConnected_iff` says when the page may
believe what it shows.
-/

namespace AnyPlug

namespace Web

/-! ## The hook -/

/-- The `readyState` of a socket. -/
inductive ReadyState
  | connecting
  | opened
  | closing
  | closed
  deriving DecidableEq

/-- `close()` of a socket. -/
def ReadyState.close : ReadyState → ReadyState
  | .connecting | .opened | .closing => .closing
  | .closed => .closed

/-- A socket, and the run of the effect that has made it. -/
structure Socket where
  effect : ℕ
  readyState : ReadyState
  deriving DecidableEq

/-- A timer, and the run of the effect whose `connect` it calls. -/
structure Timer where
  effect : ℕ
  delay : ℕ
  pending : Bool
  deriving DecidableEq

variable {δ ε : Type*}

/-- The sockets and the timers are numbered as they are made, and so are the runs of the effect,
each of which has its own variable `mounted`. -/
structure UseWebSocket (ε : Type*) where
  effects : ℕ
  mounted : ℕ → Bool
  sockets : List Socket
  timers : List Timer
  wsRef : Option ℕ
  reconnectTimerRef : Option ℕ
  handlers : List ℕ
  isConnected : Bool
  lastEvent : Option ε
  error : Option String
  /-- the calls of handlers so far -/
  calls : List (ℕ × ε)

/-- What can happen, one at a time. A socket may fail to be made, with an exception. -/
inductive PageEvent (δ : Type*)
  | mount (thrown : Option String)
  | unmount
  | opened (i : ℕ)
  | message (i : ℕ) (data : δ)
  | closed (i : ℕ) (failed : Bool)
  | fires (t : ℕ) (thrown : Option String)
  | subscribe (h : ℕ)
  | unsubscribe (h : ℕ)

namespace UseWebSocket

def init : UseWebSocket ε where
  effects := 0
  mounted _ := false
  sockets := []
  timers := []
  wsRef := none
  reconnectTimerRef := none
  handlers := []
  isConnected := false
  lastEvent := none
  error := none
  calls := []

def setTimeout (s : UseWebSocket ε) (effect delay : ℕ) : UseWebSocket ε :=
  { s with
    timers := s.timers ++ [⟨effect, delay, true⟩]
    reconnectTimerRef := some s.timers.length }

/-- `connect` of a run of the effect. -/
def connect (s : UseWebSocket ε) (effect : ℕ) (thrown : Option String) : UseWebSocket ε :=
  if s.mounted effect then
    match thrown with
    | none =>
      { s with
        sockets := s.sockets ++ [⟨effect, .connecting⟩]
        wsRef := some s.sockets.length }
    | some e => { s with error := some e }.setTimeout effect 5000
  else s

def onopen (s : UseWebSocket ε) (effect : ℕ) : UseWebSocket ε :=
  if s.mounted effect then { s with isConnected := true, error := none } else s

/-- A message that is not JSON is ignored. -/
def onmessage (parse : δ → Option ε) (s : UseWebSocket ε) (effect : ℕ) (data : δ) :
    UseWebSocket ε :=
  if s.mounted effect then
    match parse data with
    | none => s
    | some event =>
      { s with
        lastEvent := some event
        calls := s.calls ++ s.handlers.map fun h => (h, event) }
  else s

def onclose (s : UseWebSocket ε) (effect : ℕ) : UseWebSocket ε :=
  if s.mounted effect then { s with isConnected := false }.setTimeout effect 3000 else s

def onerror (s : UseWebSocket ε) (effect : ℕ) : UseWebSocket ε :=
  if s.mounted effect then { s with error := some "WebSocket connection error" } else s

def setReadyState (s : UseWebSocket ε) (i : ℕ) (f : ReadyState → ReadyState) : UseWebSocket ε :=
  { s with sockets := s.sockets.modify i fun k => { k with readyState := f k.readyState } }

def clearTimeout (s : UseWebSocket ε) (t : ℕ) : UseWebSocket ε :=
  { s with timers := s.timers.modify t fun k => { k with pending := false } }

/-- The function that the effect returns. -/
def cleanup (s : UseWebSocket ε) (effect : ℕ) : UseWebSocket ε :=
  let s := { s with mounted := Function.update s.mounted effect false }
  let s := s.reconnectTimerRef.elim s s.clearTimeout
  s.wsRef.elim s fun i => s.setReadyState i .close

/-- The effect has run, and its cleanup has not. -/
def isMounted (s : UseWebSocket ε) : Bool := 0 < s.effects && s.mounted (s.effects - 1)

/-- The effect runs again only after its cleanup. A socket is opened while it connects, gives
messages while it is open, and is closed once; one that fails has an error before. -/
def step (parse : δ → Option ε) (s : UseWebSocket ε) : PageEvent δ → Option (UseWebSocket ε)
  | .mount thrown =>
    if s.isMounted then none
    else
      some ({ s with
        effects := s.effects + 1
        mounted := Function.update s.mounted s.effects true }.connect s.effects thrown)
  | .unmount => if s.isMounted then some (s.cleanup (s.effects - 1)) else none
  | .opened i =>
    match s.sockets[i]? with
    | some ⟨n, .connecting⟩ => some ((s.setReadyState i fun _ => .opened).onopen n)
    | _ => none
  | .message i data =>
    match s.sockets[i]? with
    | some ⟨n, .opened⟩ => some (s.onmessage parse n data)
    | _ => none
  | .closed i failed =>
    match s.sockets[i]? with
    | none | some ⟨_, .closed⟩ => none
    | some ⟨n, _⟩ =>
      let s := s.setReadyState i fun _ => .closed
      some ((if failed then s.onerror n else s).onclose n)
  | .fires t thrown =>
    match s.timers[t]? with
    | some ⟨n, _, true⟩ => some ((s.clearTimeout t).connect n thrown)
    | _ => none
  | .subscribe h =>
    some { s with handlers := if h ∈ s.handlers then s.handlers else s.handlers ++ [h] }
  | .unsubscribe h => some { s with handlers := s.handlers.filter (· ≠ h) }

end UseWebSocket

/-! ## The connection -/

/-- The connection of a page: none, a socket that connects or is open, or a timer that will make
the next socket. -/
inductive Link
  | off
  | connecting (i : ℕ)
  | connected (i : ℕ)
  | waiting (t : ℕ)
  deriving DecidableEq

/-- What an event does to the connection. The numbers of new sockets and timers are left open. -/
inductive Link.Step : Link → PageEvent δ → Link → Prop
  | mount (i : ℕ) : Step .off (.mount none) (.connecting i)
  | mountThrows (e : String) (t : ℕ) : Step .off (.mount (some e)) (.waiting t)
  | unmount {l : Link} (h : l ≠ .off) : Step l .unmount .off
  | opened (i : ℕ) : Step (.connecting i) (.opened i) (.connected i)
  | message (i : ℕ) (data : δ) : Step (.connected i) (.message i data) (.connected i)
  | refused (i : ℕ) (failed : Bool) (t : ℕ) : Step (.connecting i) (.closed i failed) (.waiting t)
  | lost (i : ℕ) (failed : Bool) (t : ℕ) : Step (.connected i) (.closed i failed) (.waiting t)
  | fires (t i : ℕ) : Step (.waiting t) (.fires t none) (.connecting i)
  | firesThrows (t : ℕ) (e : String) (t' : ℕ) :
    Step (.waiting t) (.fires t (some e)) (.waiting t')
  /-- the end of a socket of an earlier run of the effect -/
  | late {l : Link} (i : ℕ) (failed : Bool) (hc : l ≠ .connecting i) (ho : l ≠ .connected i) :
    Step l (.closed i failed) l
  | subscribe (l : Link) (h : ℕ) : Step l (.subscribe h) l
  | unsubscribe (l : Link) (h : ℕ) : Step l (.unsubscribe h) l

/-- A run of the connection. -/
inductive Link.Run : Link → List (PageEvent δ) → Link → Prop
  | nil (l : Link) : Run l [] l
  | snoc {l m n : Link} {as : List (PageEvent δ)} {a : PageEvent δ} (h : Run l as m)
    (ha : Step m a n) : Run l (as ++ [a]) n

namespace UseWebSocket

variable {s t : UseWebSocket ε} {l : Link}

def readyState (s : UseWebSocket ε) (i : ℕ) : Option ReadyState :=
  s.sockets[i]?.map Socket.readyState

def pending (s : UseWebSocket ε) (t : ℕ) : Bool := (s.timers[t]?.map Timer.pending).getD false

/-- The sockets and timers that are there are those of the connection. -/
structure Has (s : UseWebSocket ε) (l : Link) : Prop where
  off : s.isMounted = false ↔ l = .off
  connecting : ∀ i, s.readyState i = some .connecting ↔ l = .connecting i
  connected : ∀ i, s.readyState i = some .opened ↔ l = .connected i
  waiting : ∀ t, s.pending t = true ↔ l = .waiting t

/-- What is known of a socket when the connection is `l`. -/
def SocketOk (s : UseWebSocket ε) (l : Link) (i : ℕ) (k : Socket) : Prop :=
  k.effect < s.effects ∧
    match k.readyState with
    | .connecting => l = .connecting i ∧ k.effect + 1 = s.effects ∧ s.wsRef = some i
    | .opened => l = .connected i ∧ k.effect + 1 = s.effects ∧ s.wsRef = some i
    | .closing => l = .off ∨ k.effect + 1 ≠ s.effects
    | .closed => True

/-- The socket or the timer of the connection is there. -/
def There (s : UseWebSocket ε) : Link → Prop
  | .off => True
  | .connecting i => ∃ n, s.sockets[i]? = some ⟨n, .connecting⟩
  | .connected i => ∃ n, s.sockets[i]? = some ⟨n, .opened⟩
  | .waiting t => ∃ n d, s.timers[t]? = some ⟨n, d, true⟩

/-- The sockets and timers that are there are of the last run of the effect, and the references are
to them. The sockets that are closing are of the runs before. -/
structure Inv (s : UseWebSocket ε) (l : Link) : Prop where
  mounted : ∀ n, s.mounted n = true ↔ l ≠ .off ∧ n + 1 = s.effects
  effects : l ≠ .off → 0 < s.effects
  sockets : ∀ (i : ℕ) (k : Socket), s.sockets[i]? = some k → s.SocketOk l i k
  timers : ∀ (i : ℕ) (k : Timer), s.timers[i]? = some k → k.pending = true →
    l = .waiting i ∧ k.effect + 1 = s.effects ∧ s.reconnectTimerRef = some i
  there : s.There l

/-- A run of the effect is mounted, and there is no socket that connects or is open, and no
timer. -/
structure Ready (s : UseWebSocket ε) : Prop where
  mounted : ∀ n, s.mounted n = true ↔ n + 1 = s.effects
  effects : 0 < s.effects
  sockets : ∀ (i : ℕ) (k : Socket), s.sockets[i]? = some k → k.effect < s.effects ∧
    (k.readyState = .closing ∧ k.effect + 1 ≠ s.effects ∨ k.readyState = .closed)
  timers : ∀ (i : ℕ) (k : Timer), s.timers[i]? = some k → k.pending = false

/-- A socket that is closing is of an earlier run, or it is closed. -/
theorem SocketOk.of_gone {i : ℕ} {k : Socket} (hlt : k.effect < s.effects)
    (h : k.readyState = .closing ∧ k.effect + 1 ≠ s.effects ∨ k.readyState = .closed) :
    s.SocketOk l i k := by
  refine ⟨hlt, ?_⟩
  obtain ⟨hr, hne⟩ | hr := h
  · rw [hr]
    exact .inr hne
  · rw [hr]
    trivial

theorem SocketOk.gone {i : ℕ} {k : Socket} (h : s.SocketOk l i k) (hoff : l ≠ .off)
    (hconnecting : l ≠ .connecting i) (hconnected : l ≠ .connected i) :
    k.readyState = .closing ∧ k.effect + 1 ≠ s.effects ∨ k.readyState = .closed := by
  obtain ⟨-, h⟩ := h
  obtain ⟨n, r⟩ := k
  cases r with
  | connecting => exact absurd h.1 hconnecting
  | opened => exact absurd h.1 hconnected
  | closing => exact .inl ⟨rfl, h.resolve_left hoff⟩
  | closed => exact .inr rfl

/-! ## What is there after a step -/

theorem isMounted_iff : s.isMounted = true ↔ ∃ n, s.effects = n + 1 ∧ s.mounted n = true := by
  unfold isMounted
  cases s.effects with
  | zero => simp
  | succ n => simp

theorem Inv.isMounted_iff (h : Inv s l) : s.isMounted = true ↔ l ≠ .off := by
  rw [UseWebSocket.isMounted_iff]
  constructor
  · rintro ⟨n, -, hn⟩
    exact ((h.mounted n).1 hn).1
  · intro hl
    have hpos := h.effects hl
    exact ⟨s.effects - 1, by omega, (h.mounted _).2 ⟨hl, by omega⟩⟩

theorem readyState_eq_some {i : ℕ} {r : ReadyState} :
    s.readyState i = some r ↔ ∃ n, s.sockets[i]? = some ⟨n, r⟩ := by
  unfold readyState
  cases s.sockets[i]? with
  | none => simp
  | some k =>
    cases k
    simp

theorem pending_iff {i : ℕ} : s.pending i = true ↔ ∃ n d, s.timers[i]? = some ⟨n, d, true⟩ := by
  unfold pending
  cases s.timers[i]? with
  | none => simp
  | some k =>
    cases k
    simp

/-- The sockets and timers are those of the connection. -/
theorem Inv.has (h : Inv s l) : s.Has l where
  off := by rw [← Bool.not_eq_true, h.isMounted_iff, not_not]
  connecting i := by
    rw [readyState_eq_some]
    constructor
    · rintro ⟨n, hn⟩
      exact (h.sockets i _ hn).2.1
    · rintro rfl
      exact h.there
  connected i := by
    rw [readyState_eq_some]
    constructor
    · rintro ⟨n, hn⟩
      exact (h.sockets i _ hn).2.1
    · rintro rfl
      exact h.there
  waiting i := by
    rw [pending_iff]
    constructor
    · rintro ⟨n, d, hn⟩
      exact (h.timers i _ hn rfl).1
    · rintro rfl
      exact h.there

/-- What the page shows is not part of the connection. -/
theorem Inv.view (h : Inv s l) (handlers : List ℕ) (isConnected : Bool) (lastEvent : Option ε)
    (error : Option String) (calls : List (ℕ × ε)) :
    Inv { s with
      handlers := handlers
      isConnected := isConnected
      lastEvent := lastEvent
      error := error
      calls := calls } l :=
  ⟨h.mounted, h.effects, h.sockets, h.timers, by cases l <;> exact h.there⟩

theorem Ready.view (h : Ready s) (isConnected : Bool) (error : Option String) :
    Ready { s with isConnected := isConnected, error := error } :=
  ⟨h.mounted, h.effects, h.sockets, h.timers⟩

/-- What is in a list to which one more was added. -/
theorem getElem?_concat_eq_some {α : Type*} {xs : List α} {a b : α} {i : ℕ} :
    (xs ++ [a])[i]? = some b ↔ xs[i]? = some b ∨ i = xs.length ∧ b = a := by
  rw [List.getElem?_append]
  split
  · grind
  · grind

/-- `setTimeout` makes the one timer. -/
theorem Ready.setTimeout (h : Ready s) {n : ℕ} (hn : n + 1 = s.effects) (delay : ℕ) :
    Inv (s.setTimeout n delay) (.waiting s.timers.length) where
  mounted m := (h.mounted m).trans (by simp [UseWebSocket.setTimeout])
  effects _ := h.effects
  sockets i k hk := by
    obtain ⟨hlt, hgone⟩ := h.sockets i k hk
    exact .of_gone hlt hgone
  timers i k hk hpending := by
    obtain hk | ⟨rfl, rfl⟩ := getElem?_concat_eq_some.1 hk
    · rw [h.timers i k hk] at hpending
      cases hpending
    · exact ⟨rfl, hn, rfl⟩
  there := ⟨n, delay, by simp [UseWebSocket.setTimeout]⟩

/-- `new WebSocket` makes the one socket. -/
theorem Ready.socket (h : Ready s) {n : ℕ} (hn : n + 1 = s.effects) :
    Inv { s with
      sockets := s.sockets ++ [⟨n, .connecting⟩]
      wsRef := some s.sockets.length } (.connecting s.sockets.length) where
  mounted m := (h.mounted m).trans (by simp)
  effects _ := h.effects
  sockets i k hk := by
    obtain hk | ⟨rfl, rfl⟩ := getElem?_concat_eq_some.1 hk
    · obtain ⟨hlt, hgone⟩ := h.sockets i k hk
      exact .of_gone hlt hgone
    · exact ⟨by simp; omega, rfl, hn, rfl⟩
  timers i k hk hpending := by
    rw [h.timers i k hk] at hpending
    cases hpending
  there := ⟨n, by simp⟩

/-- The effect runs again. -/
theorem Inv.mount (h : Inv s .off) :
    Ready { s with
      effects := s.effects + 1
      mounted := Function.update s.mounted s.effects true } where
  mounted n := by
    have hoff : s.mounted n = false := by simpa using h.mounted n
    by_cases hn : n = s.effects <;> simp [hn, hoff]
  effects := Nat.succ_pos _
  sockets i k hk := by
    obtain ⟨hlt, hk⟩ := h.sockets i k hk
    refine ⟨Nat.lt_succ_of_lt hlt, ?_⟩
    cases hr : k.readyState with
    | connecting => simp [hr] at hk
    | opened => simp [hr] at hk
    | closing => exact .inl ⟨rfl, by simp; omega⟩
    | closed => exact .inr rfl
  timers i k hk := by
    by_contra hpending
    have hwait := (h.timers i k hk (by simpa using hpending)).1
    cases hwait

theorem Inv.clearTimeout {i : ℕ} (h : Inv s (.waiting i)) : Ready (s.clearTimeout i) where
  mounted n := (h.mounted n).trans (by simp [UseWebSocket.clearTimeout])
  effects := h.effects (by simp)
  sockets j k hk := ⟨(h.sockets j k hk).1, (h.sockets j k hk).gone (by simp) (by simp) (by simp)⟩
  timers j k hk := by
    rw [UseWebSocket.clearTimeout, List.getElem?_modify] at hk
    obtain ⟨k', hk', rfl⟩ := Option.map_eq_some_iff.1 hk
    by_cases hij : i = j
    · simp [hij]
    · simp only [hij, if_false]
      by_contra hpending
      exact hij (Link.waiting.inj (h.timers j k' hk' (by simpa using hpending)).1)

/-- A socket that changes: the others stay as they are. -/
theorem of_getElem?_setReadyState {i j : ℕ} {f : ReadyState → ReadyState} {k : Socket}
    (h : (s.setReadyState i f).sockets[j]? = some k) :
    ∃ k', s.sockets[j]? = some k' ∧ k.effect = k'.effect ∧
      (i = j ∧ k.readyState = f k'.readyState ∨ i ≠ j ∧ k = k') := by
  rw [setReadyState, List.getElem?_modify] at h
  obtain ⟨k', hk', rfl⟩ := Option.map_eq_some_iff.1 h
  by_cases hij : i = j
  · exact ⟨k', hk', by simp [hij], .inl ⟨hij, by simp [hij]⟩⟩
  · exact ⟨k', hk', by simp [hij], .inr ⟨hij, by simp [hij]⟩⟩

/-- The socket that changes. -/
theorem getElem?_setReadyState_self {i n : ℕ} {r : ReadyState} (f : ReadyState → ReadyState)
    (hi : s.sockets[i]? = some ⟨n, r⟩) : (s.setReadyState i f).sockets[i]? = some ⟨n, f r⟩ := by
  simp [setReadyState, hi]

theorem getElem?_setReadyState_of_ne {i j : ℕ} (f : ReadyState → ReadyState) (hij : i ≠ j) :
    (s.setReadyState i f).sockets[j]? = s.sockets[j]? := by
  simp [setReadyState, hij]

/-- The socket of the connection is closed. -/
theorem Inv.closed {i : ℕ} (h : Inv s l) (hl : l = .connecting i ∨ l = .connected i) :
    Ready (s.setReadyState i fun _ => .closed) := by
  have hoff : l ≠ .off := by rcases hl with rfl | rfl <;> simp
  refine ⟨fun n => (h.mounted n).trans (and_iff_right hoff), h.effects hoff, fun j k hk => ?_,
    fun j k hk => ?_⟩
  · obtain ⟨k', hk', heffect, ⟨-, hr⟩ | ⟨hij, rfl⟩⟩ := of_getElem?_setReadyState hk
    · exact ⟨heffect ▸ (h.sockets j k' hk').1, .inr hr⟩
    · have hok := h.sockets j k hk'
      refine ⟨hok.1, hok.gone hoff ?_ ?_⟩
      · rcases hl with rfl | rfl <;> simp [hij]
      · rcases hl with rfl | rfl <;> simp [hij]
  · by_contra hpending
    have hwait := (h.timers j k hk (by simpa using hpending)).1
    rcases hl with rfl | rfl <;> cases hwait

/-- Sockets in different states are different. -/
theorem ne_of_getElem? {i j m n : ℕ} {r r' : ReadyState} (hi : s.sockets[i]? = some ⟨n, r⟩)
    (hj : s.sockets[j]? = some ⟨m, r'⟩) (hr : r ≠ r') : i ≠ j := by
  rintro rfl
  have hsame := Option.some.inj (hi.symm.trans hj)
  exact hr (congrArg Socket.readyState hsame)

/-- A socket of an earlier run is closed. -/
theorem Inv.late {i n : ℕ} (h : Inv s l) (hi : s.sockets[i]? = some ⟨n, .closing⟩) :
    Inv (s.setReadyState i fun _ => .closed) l where
  mounted := h.mounted
  effects := h.effects
  sockets j k hk := by
    obtain ⟨k', hk', heffect, ⟨-, hr⟩ | ⟨-, rfl⟩⟩ := of_getElem?_setReadyState hk
    · exact .of_gone (heffect ▸ (h.sockets j k' hk').1) (.inr hr)
    · exact h.sockets j k hk'
  timers := h.timers
  there := by
    have hthere := h.there
    cases l with
    | off => trivial
    | waiting t => exact hthere
    | connecting j =>
      obtain ⟨m, hj⟩ := hthere
      exact ⟨m, (getElem?_setReadyState_of_ne _ (ne_of_getElem? hi hj (by simp))).trans hj⟩
    | connected j =>
      obtain ⟨m, hj⟩ := hthere
      exact ⟨m, (getElem?_setReadyState_of_ne _ (ne_of_getElem? hi hj (by simp))).trans hj⟩

/-- The socket of the connection opens. -/
theorem Inv.opened {i : ℕ} (h : Inv s (.connecting i)) :
    Inv (s.setReadyState i fun _ => .opened) (.connected i) where
  mounted n := (h.mounted n).trans (by simp [setReadyState])
  effects _ := h.effects (by simp)
  sockets j k hk := by
    obtain ⟨k', hk', heffect, ⟨rfl, hr⟩ | ⟨hij, rfl⟩⟩ := of_getElem?_setReadyState hk
    · obtain ⟨n, hi⟩ := h.there
      obtain rfl := Option.some.inj (hi.symm.trans hk')
      obtain ⟨hlt, -, hlast, href⟩ := h.sockets i _ hi
      obtain ⟨m, r⟩ := k
      obtain rfl : m = n := heffect
      obtain rfl : r = .opened := hr
      exact ⟨hlt, rfl, hlast, href⟩
    · have hok := h.sockets j k hk'
      exact .of_gone hok.1 (hok.gone (by simp) (by simp [hij]) (by simp))
  timers j k hk hpending := by
    have hwait := (h.timers j k hk hpending).1
    cases hwait
  there := by
    obtain ⟨n, hi⟩ := h.there
    exact ⟨n, getElem?_setReadyState_self _ hi⟩

theorem cleanup_sockets (s : UseWebSocket ε) (n j : ℕ) :
    (s.cleanup n).sockets[j]? = s.sockets[j]?.map fun k =>
      if s.wsRef = some j then { k with readyState := k.readyState.close } else k := by
  unfold cleanup
  cases s.wsRef <;> cases s.reconnectTimerRef <;>
    simp [clearTimeout, setReadyState, List.getElem?_modify]

theorem cleanup_timers (s : UseWebSocket ε) (n j : ℕ) :
    (s.cleanup n).timers[j]? = s.timers[j]?.map fun k =>
      if s.reconnectTimerRef = some j then { k with pending := false } else k := by
  unfold cleanup
  cases s.wsRef <;> cases s.reconnectTimerRef <;>
    simp [clearTimeout, setReadyState, List.getElem?_modify]

theorem cleanup_eq (s : UseWebSocket ε) (n : ℕ) :
    ∃ sockets timers, s.cleanup n = { s with
      mounted := Function.update s.mounted n false
      sockets := sockets
      timers := timers } := by
  unfold cleanup
  cases s.wsRef <;> cases s.reconnectTimerRef <;> simp [clearTimeout, setReadyState]

/-- The cleanup leaves nothing: the socket of the connection is closed by the reference to it, and
its timer is cleared. -/
theorem Inv.cleanup (h : Inv s l) : Inv (s.cleanup (s.effects - 1)) .off where
  mounted n := by
    obtain ⟨sockets, timers, heq⟩ := cleanup_eq s (s.effects - 1)
    have hn := h.mounted n
    have hne : n ≠ s.effects - 1 → s.mounted n = false := by
      intro hne
      rw [← Bool.not_eq_true, hn]
      omega
    simpa [heq, Function.update_apply] using hne
  effects hoff := absurd rfl hoff
  sockets j k hk := by
    rw [cleanup_sockets] at hk
    obtain ⟨⟨n, r⟩, hk', rfl⟩ := Option.map_eq_some_iff.1 hk
    obtain ⟨sockets, timers, heq⟩ := cleanup_eq s (s.effects - 1)
    obtain ⟨hlt, hok⟩ := h.sockets j _ hk'
    rw [heq]
    cases r with
    | connecting => exact ⟨by simpa [hok.2.2] using hlt, by simp [hok.2.2, ReadyState.close]⟩
    | opened => exact ⟨by simpa [hok.2.2] using hlt, by simp [hok.2.2, ReadyState.close]⟩
    | closing => split <;> exact ⟨hlt, .inl rfl⟩
    | closed => split <;> exact ⟨hlt, trivial⟩
  timers j k hk hpending := by
    rw [cleanup_timers] at hk
    obtain ⟨k', hk', rfl⟩ := Option.map_eq_some_iff.1 hk
    by_cases href : s.reconnectTimerRef = some j
    · simp [href] at hpending
    · rw [if_neg href] at hpending
      exact absurd (h.timers j k' hk' hpending).2.2 href
  there := trivial

/-- The connection that `connect` makes. -/
def connectLink (s : UseWebSocket ε) : Option String → Link
  | none => .connecting s.sockets.length
  | some _ => .waiting s.timers.length

theorem Ready.connect (h : Ready s) {n : ℕ} (hn : n + 1 = s.effects) (thrown : Option String) :
    Inv (s.connect n thrown) (s.connectLink thrown) := by
  unfold UseWebSocket.connect
  rw [if_pos ((h.mounted n).2 hn)]
  cases thrown with
  | none => exact h.socket hn
  | some e => exact (h.view s.isConnected (some e)).setTimeout hn 5000

/-- The handlers of the last socket, once it is closed. -/
theorem Ready.onclose (h : Ready s) {n : ℕ} (hn : n + 1 = s.effects) (failed : Bool) :
    Inv ((if failed then s.onerror n else s).onclose n) (.waiting s.timers.length) := by
  have hmounted := (h.mounted n).2 hn
  cases failed with
  | false =>
    simp only [UseWebSocket.onclose, Bool.false_eq_true, if_false, hmounted, if_true]
    exact (h.view false s.error).setTimeout hn 3000
  | true =>
    simp only [UseWebSocket.onclose, UseWebSocket.onerror, if_true, hmounted]
    exact (h.view false _).setTimeout hn 3000

/-- A message changes what the page shows. -/
theorem onmessage_eq (parse : δ → Option ε) (s : UseWebSocket ε) (n : ℕ) (data : δ) :
    ∃ e c, s.onmessage parse n data = { s with lastEvent := e, calls := c } := by
  unfold onmessage
  split
  · split
    · exact ⟨_, _, rfl⟩
    · exact ⟨_, _, rfl⟩
  · exact ⟨_, _, rfl⟩

/-! ## Runs -/

variable {parse : δ → Option ε} {a : PageEvent δ}

/-- Everything that a step can do. -/
inductive Moves (parse : δ → Option ε) (s : UseWebSocket ε) : PageEvent δ → UseWebSocket ε → Prop
  | mount (thrown : Option String) (h : s.isMounted = false) :
    Moves parse s (.mount thrown) ({ s with
      effects := s.effects + 1
      mounted := Function.update s.mounted s.effects true }.connect s.effects thrown)
  | unmount (h : s.isMounted = true) : Moves parse s .unmount (s.cleanup (s.effects - 1))
  | opened {i n : ℕ} (h : s.sockets[i]? = some ⟨n, .connecting⟩) :
    Moves parse s (.opened i) ((s.setReadyState i fun _ => .opened).onopen n)
  | message {i n : ℕ} (data : δ) (h : s.sockets[i]? = some ⟨n, .opened⟩) :
    Moves parse s (.message i data) (s.onmessage parse n data)
  | closed {i n : ℕ} {r : ReadyState} (failed : Bool) (hr : r ≠ .closed)
    (h : s.sockets[i]? = some ⟨n, r⟩) :
    Moves parse s (.closed i failed)
      ((if failed then (s.setReadyState i fun _ => .closed).onerror n
        else s.setReadyState i fun _ => .closed).onclose n)
  | fires {i n d : ℕ} (thrown : Option String) (h : s.timers[i]? = some ⟨n, d, true⟩) :
    Moves parse s (.fires i thrown) ((s.clearTimeout i).connect n thrown)
  | subscribe (h : ℕ) : Moves parse s (.subscribe h)
    { s with handlers := if h ∈ s.handlers then s.handlers else s.handlers ++ [h] }
  | unsubscribe (h : ℕ) : Moves parse s (.unsubscribe h)
    { s with handlers := s.handlers.filter (· ≠ h) }

theorem moves_of_step (ht : step parse s a = some t) : Moves parse s a t := by
  cases a with
  | mount thrown =>
    simp only [step] at ht
    split at ht
    · cases ht
    · rename_i hoff
      exact Option.some.inj ht ▸ .mount thrown (Bool.eq_false_iff.2 hoff)
  | unmount =>
    simp only [step] at ht
    split at ht
    · rename_i hon
      exact Option.some.inj ht ▸ .unmount hon
    · cases ht
  | opened i =>
    simp only [step] at ht
    split at ht
    · rename_i hi
      exact Option.some.inj ht ▸ .opened hi
    · cases ht
  | message i data =>
    simp only [step] at ht
    split at ht
    · rename_i hi
      exact Option.some.inj ht ▸ .message data hi
    · cases ht
  | closed i failed =>
    simp only [step] at ht
    split at ht
    · cases ht
    · cases ht
    · rename_i n r hr hi
      exact Option.some.inj ht ▸ .closed failed hr hi
  | fires i thrown =>
    simp only [step] at ht
    split at ht
    · rename_i hi
      exact Option.some.inj ht ▸ .fires thrown hi
    · cases ht
  | subscribe j => exact Option.some.inj ht ▸ .subscribe j
  | unsubscribe j => exact Option.some.inj ht ▸ .unsubscribe j

/-- The handlers of a run that is not mounted do nothing. -/
theorem onclose_of_not_mounted {n : ℕ} (h : s.mounted n = false) (failed : Bool) :
    (if failed then s.onerror n else s).onclose n = s := by
  cases failed <;> simp [UseWebSocket.onclose, onerror, h]

/-- A socket that is closing is of a run that is not mounted: the cleanup of its run has closed
it. -/
theorem Inv.not_mounted {i n : ℕ} (h : Inv s l) (hi : s.sockets[i]? = some ⟨n, .closing⟩) :
    s.mounted n = false := by
  refine Bool.eq_false_iff.2 fun hn => ?_
  obtain ⟨hon, hlast⟩ := (h.mounted n).1 hn
  exact (h.sockets i _ hi).2.elim hon fun hne => hne hlast

/-- A socket that is closing is closed, and nothing else happens. -/
theorem Inv.onclose_late {i n : ℕ} (h : Inv s l) (hi : s.sockets[i]? = some ⟨n, .closing⟩)
    (failed : Bool) :
    (if failed then (s.setReadyState i fun _ => .closed).onerror n
      else s.setReadyState i fun _ => .closed).onclose n =
      s.setReadyState i fun _ => .closed := by
  have hmounted : (s.setReadyState i fun _ => .closed).mounted n = false := h.not_mounted hi
  exact onclose_of_not_mounted hmounted failed

/-- **The hook follows the connection**, one step. -/
theorem Inv.step (h : Inv s l) (ht : step parse s a = some t) :
    ∃ l', Link.Step l a l' ∧ Inv t l' := by
  cases moves_of_step ht with
  | mount thrown hoff =>
    obtain rfl := h.has.off.1 hoff
    refine ⟨_, ?_, h.mount.connect rfl thrown⟩
    cases thrown with
    | none => exact .mount _
    | some e => exact .mountThrows e _
  | unmount hon => exact ⟨.off, .unmount (h.isMounted_iff.1 hon), h.cleanup⟩
  | @opened i n hi =>
    obtain ⟨-, rfl, hlast, -⟩ := h.sockets i _ hi
    refine ⟨.connected i, .opened i, ?_⟩
    have hmounted : (s.setReadyState i fun _ => .opened).mounted n = true :=
      (h.mounted n).2 ⟨by simp, hlast⟩
    unfold onopen
    rw [if_pos hmounted]
    exact h.opened.view _ _ _ _ _
  | @message i n data hi =>
    obtain ⟨-, rfl, hlast, -⟩ := h.sockets i _ hi
    refine ⟨.connected i, .message i data, ?_⟩
    obtain ⟨e, c, heq⟩ := onmessage_eq parse s n data
    rw [heq]
    exact h.view _ _ _ _ _
  | @closed i n r failed hr hi =>
    obtain ⟨hlt, hok⟩ := h.sockets i _ hi
    cases r with
    | connecting =>
      obtain ⟨rfl, hlast, -⟩ := hok
      exact ⟨_, .refused i failed _, (h.closed (.inl rfl)).onclose hlast failed⟩
    | opened =>
      obtain ⟨rfl, hlast, -⟩ := hok
      exact ⟨_, .lost i failed _, (h.closed (.inr rfl)).onclose hlast failed⟩
    | closing =>
      refine ⟨l, .late i failed ?_ ?_, ?_⟩
      · rintro rfl
        simpa [hi, readyState] using h.has.connecting i
      · rintro rfl
        simpa [hi, readyState] using h.has.connected i
      · rw [h.onclose_late hi]
        exact h.late hi
    | closed => exact absurd rfl hr
  | @fires i n d thrown hi =>
    obtain ⟨rfl, hlast, -⟩ := h.timers i _ hi rfl
    refine ⟨_, ?_, h.clearTimeout.connect hlast thrown⟩
    cases thrown with
    | none => exact .fires i _
    | some e => exact .firesThrows i e _
  | subscribe j => exact ⟨l, .subscribe l j, h.view _ _ _ _ _⟩
  | unsubscribe j => exact ⟨l, .unsubscribe l j, h.view _ _ _ _ _⟩

theorem inv_init : Inv (init : UseWebSocket ε) .off where
  mounted n := by simp [init]
  effects hoff := absurd rfl hoff
  sockets i k hk := by simp [init] at hk
  timers i k hk := by simp [init] at hk
  there := trivial

/-- **The hook follows the connection** along every run. -/
theorem inv_of_run {as : List (PageEvent δ)} (h : run (step parse) init as = some s) :
    ∃ l, Link.Run .off as l ∧ Inv s l := by
  induction as using List.reverseRecOn generalizing s with
  | nil => exact ⟨.off, .nil _, Option.some.inj h ▸ inv_init⟩
  | append_singleton as a ih =>
    obtain ⟨u, hu, hs⟩ := run_append_singleton_eq_some.1 h
    obtain ⟨l, hl, hinv⟩ := ih hu
    obtain ⟨l', hl', hinv'⟩ := hinv.step hs
    exact ⟨l', hl.snoc hl', hinv'⟩

/-! ## What the page shows -/

/-- No socket of the last run of the effect has been opened or closed yet. -/
def Untried (s : UseWebSocket ε) : Prop :=
  ∀ (i : ℕ) (k : Socket), s.sockets[i]? = some k → k.effect + 1 = s.effects →
    k.readyState = .connecting

/-- At the last cleanup the page has shown `connected`. -/
def ShownAtCleanup (parse : δ → Option ε) (as : List (PageEvent δ)) (connected : Bool) : Prop :=
  ∃ pre post u, as = pre ++ .unmount :: post ∧ .unmount ∉ post ∧
    run (step parse) init pre = some u ∧ u.isConnected = connected

theorem ShownAtCleanup.snoc {as : List (PageEvent δ)} {c : Bool} (h : ShownAtCleanup parse as c)
    (ha : a ≠ .unmount) : ShownAtCleanup parse (as ++ [a]) c := by
  obtain ⟨pre, post, u, rfl, hpost, hu, hc⟩ := h
  refine ⟨pre, post ++ [a], u, by simp, ?_, hu, hc⟩
  simp [hpost, ha.symm]

/-- What is known of `isConnected` after the events `as`. -/
structure Shown (parse : δ → Option ε) (as : List (PageEvent δ)) (s : UseWebSocket ε) : Prop where
  opened : ∀ i, s.readyState i = some .opened → s.isConnected = true
  connected : s.isConnected = true → s.isMounted = true →
    (∃ i, s.readyState i = some .opened) ∨ 1 < s.effects ∧ s.Untried
  first : s.effects = 0 → s.isConnected = false
  off : s.isMounted = false → 0 < s.effects → ShownAtCleanup parse as s.isConnected
  untried : s.isMounted = true → 1 < s.effects → s.Untried → ShownAtCleanup parse as s.isConnected

theorem shown_init : Shown parse [] init where
  opened i hi := by simp [readyState, init] at hi
  connected hc := by cases hc
  first _ := rfl
  off _ hpos := absurd hpos (lt_irrefl 0)
  untried hon := by cases hon

theorem isMounted_congr (heffects : t.effects = s.effects) (hmounted : t.mounted = s.mounted) :
    t.isMounted = s.isMounted := by
  rw [UseWebSocket.isMounted, UseWebSocket.isMounted, heffects, hmounted]

/-- A step that opens and closes no socket of a mounted run. -/
theorem Shown.congr {as : List (PageEvent δ)} (h : Shown parse as s) (ha : a ≠ .unmount)
    (hconnected : t.isConnected = s.isConnected) (heffects : t.effects = s.effects)
    (hmounted : t.mounted = s.mounted)
    (hopened : ∀ i, t.readyState i = some .opened ↔ s.readyState i = some .opened)
    (huntried : t.Untried ↔ s.Untried) : Shown parse (as ++ [a]) t := by
  have hon : t.isMounted = s.isMounted := isMounted_congr heffects hmounted
  refine ⟨?_, ?_, ?_, ?_, ?_⟩
  · simpa only [hopened, hconnected] using h.opened
  · simpa only [hopened, hconnected, hon, heffects, huntried] using h.connected
  · simpa only [hconnected, heffects] using h.first
  · rw [hon, heffects, hconnected]
    exact fun hoff hpos => (h.off hoff hpos).snoc ha
  · rw [hon, heffects, hconnected, huntried]
    exact fun hon hlt hs => (h.untried hon hlt hs).snoc ha

/-- `connect` shows nothing. -/
theorem connect_frame (s : UseWebSocket ε) (n : ℕ) (thrown : Option String) :
    (s.connect n thrown).isConnected = s.isConnected ∧ (s.connect n thrown).effects = s.effects ∧
      (s.connect n thrown).mounted = s.mounted := by
  unfold UseWebSocket.connect
  split
  · cases thrown <;> simp [UseWebSocket.setTimeout]
  · simp

/-- `connect` adds a socket that connects, or none. -/
theorem connect_sockets (s : UseWebSocket ε) (n : ℕ) (thrown : Option String) :
    (s.connect n thrown).sockets = s.sockets ∨
      (s.connect n thrown).sockets = s.sockets ++ [⟨n, .connecting⟩] := by
  unfold UseWebSocket.connect
  split
  · cases thrown <;> simp [UseWebSocket.setTimeout]
  · simp

theorem untried_connect {n : ℕ} {thrown : Option String} :
    (s.connect n thrown).Untried ↔ s.Untried := by
  unfold Untried
  rw [(connect_frame s n thrown).2.1]
  obtain hsockets | hsockets := connect_sockets s n thrown
  · rw [hsockets]
  · simp [hsockets, getElem?_concat_eq_some, or_imp, forall_and]

theorem opened_connect {n i : ℕ} {thrown : Option String} :
    (s.connect n thrown).readyState i = some .opened ↔ s.readyState i = some .opened := by
  obtain hsockets | hsockets := connect_sockets s n thrown
  · rw [readyState, hsockets, readyState]
  · simp [readyState_eq_some, hsockets, getElem?_concat_eq_some]

/-- The handlers at the end of a socket. -/
theorem onclose_frame (s : UseWebSocket ε) (n : ℕ) (failed : Bool) :
    ((if failed then s.onerror n else s).onclose n).sockets = s.sockets ∧
      ((if failed then s.onerror n else s).onclose n).effects = s.effects ∧
      (s.mounted n = true →
        ((if failed then s.onerror n else s).onclose n).isConnected = false) := by
  unfold UseWebSocket.onclose onerror
  cases failed <;> cases hmounted : s.mounted n <;> simp [hmounted, UseWebSocket.setTimeout]

/-- The socket of the connection is closed. -/
theorem shown_closed {as : List (PageEvent δ)} {i n : ℕ} {failed : Bool}
    (h : Inv ((if failed then (s.setReadyState i fun _ => .closed).onerror n
        else s.setReadyState i fun _ => .closed).onclose n) (.waiting s.timers.length))
    (hi : ∃ r, s.sockets[i]? = some ⟨n, r⟩) (hlast : n + 1 = s.effects)
    (hmounted : s.mounted n = true) :
    Shown parse as ((if failed then (s.setReadyState i fun _ => .closed).onerror n
        else s.setReadyState i fun _ => .closed).onclose n) := by
  obtain ⟨hsockets, heffects, hconnected⟩ :=
    onclose_frame (s.setReadyState i fun _ => .closed) n failed
  replace hconnected := hconnected hmounted
  refine ⟨fun j hj => ?_, fun hc => ?_, fun _ => hconnected, fun hoff => ?_, fun _ _ hs => ?_⟩
  · have hlink := (h.has.connected j).1 hj
    cases hlink
  · rw [hconnected] at hc
    cases hc
  · have hlink := h.has.off.1 hoff
    cases hlink
  · obtain ⟨r, hi⟩ := hi
    have hk := getElem?_setReadyState_self (fun _ => .closed) hi
    rw [← hsockets] at hk
    have hconnecting := hs i _ hk (hlast.trans heffects.symm)
    cases hconnecting

theorem untried_late {i n : ℕ} (hi : s.sockets[i]? = some ⟨n, .closing⟩) :
    (s.setReadyState i fun _ => .closed).Untried ↔ s.Untried := by
  constructor
  · intro h j k hk hlast
    by_cases hij : i = j
    · obtain rfl := hij
      obtain rfl := Option.some.inj (hi.symm.trans hk)
      have hconnecting := h i _ (getElem?_setReadyState_self _ hi) hlast
      cases hconnecting
    · exact h j k ((getElem?_setReadyState_of_ne _ hij).trans hk) hlast
  · intro h j k hk hlast
    obtain ⟨k', hk', heffect, ⟨rfl, -⟩ | ⟨-, rfl⟩⟩ := of_getElem?_setReadyState hk
    · obtain rfl := Option.some.inj (hi.symm.trans hk')
      have hconnecting := h i _ hi (heffect ▸ hlast)
      cases hconnecting
    · exact h j k hk' hlast

/-- **What is known of `isConnected`** stays known in every step. -/
theorem Shown.step {as : List (PageEvent δ)} (hs : Inv s l) (h : Shown parse as s)
    (hrun : run (UseWebSocket.step parse) init as = some s)
    (ht : UseWebSocket.step parse s a = some t) : Shown parse (as ++ [a]) t := by
  cases moves_of_step ht with
  | mount thrown hoff =>
    obtain rfl := hs.has.off.1 hoff
    have hlink := (hs.mount.connect rfl thrown).has.off
    obtain ⟨hconnected, heffects, -⟩ := connect_frame { s with
      effects := s.effects + 1
      mounted := Function.update s.mounted s.effects true } s.effects thrown
    refine ⟨fun i hi => ?_, fun hc _ => .inr ⟨?_, ?_⟩, fun h0 => ?_, fun hoff => ?_,
      fun _ hlt _ => ?_⟩
    · have hopened := opened_connect.1 hi
      have hconnected := (hs.has.connected i).1 hopened
      cases hconnected
    · rw [hconnected] at hc
      have hpos : s.effects ≠ 0 := fun h0 => by
        rw [h.first h0] at hc
        cases hc
      rw [heffects]
      exact Nat.succ_lt_succ (Nat.pos_of_ne_zero hpos)
    · refine untried_connect.2 fun i k hk hlast => ?_
      have hlt := (hs.sockets i k hk).1
      exact absurd (Nat.succ.inj hlast) hlt.ne
    · rw [heffects] at h0
      cases h0
    · have hconnect := hlink.1 hoff
      cases thrown <;> cases hconnect
    · rw [heffects] at hlt
      rw [hconnected]
      exact (h.off hoff (Nat.lt_of_succ_lt_succ hlt)).snoc (by simp)
  | unmount hon =>
    obtain ⟨sockets, timers, heq⟩ := cleanup_eq s (s.effects - 1)
    have hoff : (s.cleanup (s.effects - 1)).isMounted = false := hs.cleanup.has.off.2 rfl
    refine ⟨fun i hi => ?_, fun _ hon => ?_, fun h0 => ?_, fun _ _ => ?_, fun hon => ?_⟩
    · have hopened := (hs.cleanup.has.connected i).1 hi
      cases hopened
    · rw [hoff] at hon
      cases hon
    · rw [heq] at h0 ⊢
      exact h.first h0
    · exact ⟨as, [], s, rfl, List.not_mem_nil, hrun, by rw [heq]⟩
    · rw [hoff] at hon
      cases hon
  | @opened i n hi =>
    obtain ⟨-, rfl, hlast, -⟩ := hs.sockets i _ hi
    have hmounted : (s.setReadyState i fun _ => .opened).mounted n = true :=
      (hs.mounted n).2 ⟨by simp, hlast⟩
    have hk := getElem?_setReadyState_self (fun _ => .opened) hi
    unfold onopen
    rw [if_pos hmounted]
    refine ⟨fun _ _ => rfl, fun _ _ => .inl ⟨i, readyState_eq_some.2 ⟨n, hk⟩⟩, fun h0 => ?_,
      fun hoff => ?_, fun _ _ huntried => ?_⟩
    · exact absurd (hlast.trans h0) (Nat.succ_ne_zero n)
    · have hlink := hs.opened.has.off.1 hoff
      cases hlink
    · have hconnecting := huntried i _ hk hlast
      cases hconnecting
  | @message i n data hi =>
    obtain ⟨e, c, heq⟩ := onmessage_eq parse s n data
    rw [heq]
    exact h.congr (by simp) rfl rfl rfl (fun _ => Iff.rfl) Iff.rfl
  | @closed i n r failed hr hi =>
    obtain ⟨hlt, hok⟩ := hs.sockets i _ hi
    cases r with
    | connecting =>
      obtain ⟨rfl, hlast, -⟩ := hok
      exact shown_closed ((hs.closed (.inl rfl)).onclose hlast failed) ⟨_, hi⟩ hlast
        ((hs.mounted n).2 ⟨by simp, hlast⟩)
    | opened =>
      obtain ⟨rfl, hlast, -⟩ := hok
      exact shown_closed ((hs.closed (.inr rfl)).onclose hlast failed) ⟨_, hi⟩ hlast
        ((hs.mounted n).2 ⟨by simp, hlast⟩)
    | closing =>
      rw [hs.onclose_late hi]
      refine h.congr (by simp) rfl rfl rfl (fun j => ?_) ?_
      · by_cases hij : i = j
        · simp [readyState, setReadyState, ← hij, hi]
        · simp [readyState, setReadyState, hij]
      · exact untried_late hi
    | closed => exact absurd rfl hr
  | @fires i n d thrown hi =>
    obtain ⟨hconnected, heffects, hmounted⟩ := connect_frame (s.clearTimeout i) n thrown
    exact h.congr (by simp) hconnected heffects hmounted (fun _ => opened_connect) untried_connect
  | subscribe j => exact h.congr (by simp) rfl rfl rfl (fun _ => Iff.rfl) Iff.rfl
  | unsubscribe j => exact h.congr (by simp) rfl rfl rfl (fun _ => Iff.rfl) Iff.rfl

theorem shown_of_run {as : List (PageEvent δ)}
    (h : run (UseWebSocket.step parse) init as = some s) : Shown parse as s := by
  induction as using List.reverseRecOn generalizing s with
  | nil => exact Option.some.inj h ▸ shown_init
  | append_singleton as a ih =>
    obtain ⟨u, hu, hs⟩ := run_append_singleton_eq_some.1 h
    obtain ⟨l, -, hinv⟩ := inv_of_run hu
    exact (ih hu).step hinv hu hs

/-! ## The page -/

/-- There is one connection at a time. -/
theorem Has.unique {m : Link} (hl : s.Has l) (hm : s.Has m) : l = m := by
  cases l with
  | off => exact (hm.off.1 (hl.off.2 rfl)).symm
  | connecting i => exact ((hm.connecting i).1 ((hl.connecting i).2 rfl)).symm
  | connected i => exact ((hm.connected i).1 ((hl.connected i).2 rfl)).symm
  | waiting i => exact ((hm.waiting i).1 ((hl.waiting i).2 rfl)).symm

/-- What the page shows. -/
def view (s : UseWebSocket ε) : Bool × Option String × Option ε × List (ℕ × ε) :=
  (s.isConnected, s.error, s.lastEvent, s.calls)

/-- After the cleanup the page changes only when the effect runs again. -/
theorem Inv.view_of_off (h : Inv s .off) (ht : UseWebSocket.step parse s a = some t) :
    (∃ thrown, a = .mount thrown) ∨ t.view = s.view := by
  cases moves_of_step ht with
  | mount thrown hoff => exact .inl ⟨thrown, rfl⟩
  | unmount hon => exact absurd (h.isMounted_iff.1 hon) (by simp)
  | @opened i n hi =>
    have hlink := (h.sockets i _ hi).2.1
    cases hlink
  | @message i n data hi =>
    have hlink := (h.sockets i _ hi).2.1
    cases hlink
  | @closed i n r failed hr hi =>
    have hok := (h.sockets i _ hi).2
    cases r with
    | connecting => cases hok.1
    | opened => cases hok.1
    | closing =>
      rw [h.onclose_late hi]
      exact .inr rfl
    | closed => exact absurd rfl hr
  | @fires i n d thrown hi =>
    have hlink := (h.timers i _ hi rfl).1
    cases hlink
  | subscribe j => exact .inr rfl
  | unsubscribe j => exact .inr rfl

/-- **The page has one connection.** In every run, with the effect run and cleaned up any number of
times, the sockets that connect or are open and the timers that are pending are those of one
connection, which the events have made. So a page whose effect is mounted has a socket or a timer
that will make the next one, never both and never two, and after the cleanup it has neither and
changes nothing that it shows. -/
theorem page_refines {as : List (PageEvent δ)}
    (h : run (UseWebSocket.step parse) init as = some s) :
    (∃ l, Link.Run .off as l ∧ s.Has l ∧ ∀ m, s.Has m → m = l) ∧
      (s.isMounted = false → ∀ a t, UseWebSocket.step parse s a = some t →
        (∃ thrown, a = .mount thrown) ∨ t.view = s.view) := by
  obtain ⟨l, hl, hinv⟩ := inv_of_run h
  refine ⟨⟨l, hl, hinv.has, fun m hm => hm.unique hinv.has⟩, fun hoff a t ht => ?_⟩
  obtain rfl := hinv.has.off.1 hoff
  exact hinv.view_of_off ht

/-- The effect is cleaned up while its socket is open, and runs again. -/
def remounted : List (PageEvent ℕ) := [.mount none, .opened 0, .unmount, .mount none]

/-- The page after `remounted`. -/
def remountedPage : UseWebSocket ℕ where
  effects := 2
  mounted := Function.update (Function.update (Function.update (fun _ => false) 0 true) 0 false)
    1 true
  sockets := [⟨0, .closing⟩, ⟨1, .connecting⟩]
  timers := []
  wsRef := some 1
  reconnectTimerRef := none
  handlers := []
  isConnected := true
  lastEvent := none
  error := none
  calls := []

theorem run_remounted : run (UseWebSocket.step some) init remounted = some remountedPage := rfl

/-- The second socket is the connection, and the first one is not. -/
theorem page_remounted : remountedPage.Has (.connecting 1) ∧
    Link.Run .off remounted (.connecting 1) := by
  obtain ⟨⟨l, hl, hhas, -⟩, -⟩ := page_refines run_remounted
  obtain rfl := (hhas.connecting 1).1 rfl
  exact ⟨hhas, hl⟩

/-- **What the page shows of its connection is right** while its effect is mounted, once a socket of
this run of the effect has been opened or closed, and always in the first run. Before, it shows what
it showed at the last cleanup. -/
theorem isConnected_iff {as : List (PageEvent δ)}
    (h : run (UseWebSocket.step parse) init as = some s) (hon : s.isMounted = true) :
    (s.effects = 1 ∨ ¬s.Untried →
        (s.isConnected = true ↔ ∃ i, s.readyState i = some .opened)) ∧
      (1 < s.effects → s.Untried → ShownAtCleanup parse as s.isConnected) := by
  have hshown := shown_of_run h
  refine ⟨fun hfirst => ⟨fun hc => ?_, fun ⟨i, hi⟩ => hshown.opened i hi⟩, hshown.untried hon⟩
  obtain hopened | ⟨hlt, huntried⟩ := hshown.connected hc hon
  · exact hopened
  · obtain hone | hnot := hfirst
    · exact absurd hone hlt.ne'
    · exact absurd huntried hnot

/-- The page that has run its effect again shows the connection of the first run. -/
theorem isConnected_remounted : remountedPage.isConnected = true ∧
    (∀ i, remountedPage.readyState i ≠ some .opened) ∧ ShownAtCleanup some remounted true := by
  have huntried : remountedPage.Untried := by
    intro i k hk hlast
    rcases i with _ | _ | i
    · obtain rfl := Option.some.inj hk
      cases hlast
    · exact congrArg Socket.readyState (Option.some.inj hk).symm
    · cases hk
  refine ⟨rfl, fun i hi => ?_, (isConnected_iff run_remounted rfl).2 (by decide) huntried⟩
  obtain ⟨n, hn⟩ := readyState_eq_some.1 hi
  rcases i with _ | _ | i <;> cases hn

end UseWebSocket

end Web

end AnyPlug
