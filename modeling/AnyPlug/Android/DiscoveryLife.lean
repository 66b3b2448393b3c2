import AnyPlug.Foundations.OwnedField

/-!
# The life of a discovery

`start`, `restart`, `stop` and `dispose` of `ServerDiscovery`, which are called on the main thread
one after another, and the coroutines that `start` launches, which run on other threads. A
coroutine opens an mDNS session: it acquires a multicast lock and writes it into a field, then it
creates a `JmDNS` and writes that into another field. `stop` cancels the coroutine, which has no
effect while it opens the session, and then closes and releases what is in the fields.

`held_iff` says which locks stay held and which sessions stay open, in any interleaving: those that
`stop` has not come for before their field was written again.
`held_of_orderly` is the rule that keeps them from being lost: no `stop` while a session is being
opened, and no `start` after the coroutine has ended without a `stop` between.
-/

namespace AnyPlug

namespace Android

/-! ## The machine -/

/-- Where a coroutine that `start` has launched is: before `withContext`, in `openJmDns`, and after
it, where it waits and scans the subnet. -/
inductive JobPhase
  | notLaunched
  | launched
  | createLock
  | publishLock
  | createJmDns
  | publishJmDns
  | waiting
  | done
  deriving DecidableEq

/-- How far a coroutine has come. -/
def JobPhase.rank : JobPhase → ℕ
  | .notLaunched => 0
  | .launched => 1
  | .createLock => 2
  | .publishLock => 3
  | .createJmDns => 4
  | .publishJmDns => 5
  | .waiting => 6
  | .done => 7

/-- The coroutine is in `openJmDns`. -/
def JobPhase.opening : JobPhase → Bool
  | .createLock | .publishLock | .createJmDns | .publishJmDns => true
  | _ => false

/-- What follows the body of `stop`: nothing, the `start` of `restart`, or the end of the scope in
`dispose`. -/
inductive AfterStop
  | returns
  | starts
  | cancelsScope
  deriving DecidableEq

/-- Where the main thread is in `stop`. -/
inductive MainPhase
  | idle
  | closeJmDns (next : AfterStop)
  | clearJmDns (next : AfterStop)
  | releaseLock (next : AfterStop)
  | clearLock (next : AfterStop)
  | finishStop (next : AfterStop)
  deriving DecidableEq

/-- The coroutines are numbered. The lock and the session that a coroutine makes have its
number. -/
structure ServerDiscovery where
  listenerJob : Option ℕ
  launchedJobs : ℕ
  jobs : ℕ → JobPhase
  cancelled : Finset ℕ
  scopeCancelled : Bool
  main : MainPhase
  multicastLock : OwnedField ℕ
  jmdns : OwnedField ℕ

inductive DiscoveryEvent
  /-- the calls on the main thread: `stop`, `restart` and `dispose` differ in what follows -/
  | start
  | stop (next : AfterStop)
  /-- the statements of `stop` -/
  | closeJmDns
  | clearJmDns
  | releaseLock
  | clearLock
  | finishStop
  /-- the steps of a coroutine -/
  | openJmDns (n : ℕ)
  | createLock (n : ℕ)
  | noWifi (n : ℕ)
  | lockFails (n : ℕ)
  | publishLock (n : ℕ)
  | createJmDns (n : ℕ)
  | jmDnsFails (n : ℕ)
  | publishJmDns (n : ℕ)
  | finish (n : ℕ)
  deriving DecidableEq

namespace ServerDiscovery

variable {s t : ServerDiscovery}

def init : ServerDiscovery where
  listenerJob := none
  launchedJobs := 0
  jobs _ := .notLaunched
  cancelled := ∅
  scopeCancelled := false
  main := .idle
  multicastLock := .empty
  jmdns := .empty

def isCancelled (s : ServerDiscovery) (n : ℕ) : Bool := s.scopeCancelled || n ∈ s.cancelled

/-- `listenerJob?.isActive == true`. -/
def isActive (s : ServerDiscovery) : Bool :=
  match s.listenerJob with
  | none => false
  | some n => s.jobs n ≠ .done && !s.isCancelled n

/-- A coroutine goes on. -/
def goto (s : ServerDiscovery) (n : ℕ) (phase : JobPhase) : ServerDiscovery :=
  { s with jobs := Function.update s.jobs n phase }

/-- `start` on the main thread. -/
def launch (s : ServerDiscovery) : ServerDiscovery :=
  if s.isActive then s
  else { s.goto s.launchedJobs .launched with
    listenerJob := some s.launchedJobs, launchedJobs := s.launchedJobs + 1 }

/-- `listenerJob?.cancel(); listenerJob = null`. -/
def cancel (s : ServerDiscovery) : ServerDiscovery :=
  { s with cancelled := s.cancelled ∪ s.listenerJob.toFinset, listenerJob := none }

/-- The main thread goes on. -/
def proceed (s : ServerDiscovery) (phase : MainPhase) : ServerDiscovery := { s with main := phase }

def updateLock (s : ServerDiscovery) (e : FieldEvent ℕ) : ServerDiscovery :=
  { s with multicastLock := s.multicastLock.apply e }

def updateJmDns (s : ServerDiscovery) (e : FieldEvent ℕ) : ServerDiscovery :=
  { s with jmdns := s.jmdns.apply e }

/-- `withContext` throws in a coroutine that is cancelled; the exception is caught, and thrown
again by `delay`. Exceptions of `openJmDns` are caught as well. -/
def step (s : ServerDiscovery) : DiscoveryEvent → Option ServerDiscovery
  | .start => if s.main = .idle then some s.launch else none
  | .stop next => if s.main = .idle then some (s.cancel.proceed (.closeJmDns next)) else none
  | .closeJmDns =>
    match s.main with
    | .closeJmDns next => some ((s.updateJmDns .release).proceed (.clearJmDns next))
    | _ => none
  | .clearJmDns =>
    match s.main with
    | .clearJmDns next => some ((s.updateJmDns (.write none)).proceed (.releaseLock next))
    | _ => none
  | .releaseLock =>
    match s.main with
    | .releaseLock next => some ((s.updateLock .release).proceed (.clearLock next))
    | _ => none
  | .clearLock =>
    match s.main with
    | .clearLock next => some ((s.updateLock (.write none)).proceed (.finishStop next))
    | _ => none
  | .finishStop =>
    match s.main with
    | .finishStop .returns => some (s.proceed .idle)
    | .finishStop .starts => some (s.proceed .idle).launch
    | .finishStop .cancelsScope => some { s.proceed .idle with scopeCancelled := true }
    | _ => none
  | .openJmDns n =>
    if s.jobs n = .launched then
      some (s.goto n (if s.isCancelled n then .done else .createLock))
    else none
  | .createLock n =>
    if s.jobs n = .createLock then some ((s.updateLock (.acquire n)).goto n .publishLock) else none
  | .noWifi n =>
    if s.jobs n = .createLock then some ((s.updateLock (.write none)).goto n .createJmDns) else none
  | .lockFails n => if s.jobs n = .createLock then some (s.goto n .waiting) else none
  | .publishLock n =>
    if s.jobs n = .publishLock then some ((s.updateLock (.write (some n))).goto n .createJmDns)
    else none
  | .createJmDns n =>
    if s.jobs n = .createJmDns then some ((s.updateJmDns (.acquire n)).goto n .publishJmDns)
    else none
  | .jmDnsFails n => if s.jobs n = .createJmDns then some (s.goto n .waiting) else none
  | .publishJmDns n =>
    if s.jobs n = .publishJmDns then some ((s.updateJmDns (.write (some n))).goto n .waiting)
    else none
  | .finish n => if s.jobs n = .waiting then some (s.goto n .done) else none

/-- What a step does. -/
inductive Step (s : ServerDiscovery) : DiscoveryEvent → ServerDiscovery → Prop
  | start (hm : s.main = .idle) : Step s .start s.launch
  | stop {next : AfterStop} (hm : s.main = .idle) :
    Step s (.stop next) (s.cancel.proceed (.closeJmDns next))
  | closeJmDns {next : AfterStop} (hm : s.main = .closeJmDns next) :
    Step s .closeJmDns ((s.updateJmDns .release).proceed (.clearJmDns next))
  | clearJmDns {next : AfterStop} (hm : s.main = .clearJmDns next) :
    Step s .clearJmDns ((s.updateJmDns (.write none)).proceed (.releaseLock next))
  | releaseLock {next : AfterStop} (hm : s.main = .releaseLock next) :
    Step s .releaseLock ((s.updateLock .release).proceed (.clearLock next))
  | clearLock {next : AfterStop} (hm : s.main = .clearLock next) :
    Step s .clearLock ((s.updateLock (.write none)).proceed (.finishStop next))
  | returns (hm : s.main = .finishStop .returns) : Step s .finishStop (s.proceed .idle)
  | starts (hm : s.main = .finishStop .starts) : Step s .finishStop (s.proceed .idle).launch
  | cancelsScope (hm : s.main = .finishStop .cancelsScope) :
    Step s .finishStop { s.proceed .idle with scopeCancelled := true }
  | openJmDns {n : ℕ} (hn : s.jobs n = .launched) :
    Step s (.openJmDns n) (s.goto n (if s.isCancelled n then .done else .createLock))
  | createLock {n : ℕ} (hn : s.jobs n = .createLock) :
    Step s (.createLock n) ((s.updateLock (.acquire n)).goto n .publishLock)
  | noWifi {n : ℕ} (hn : s.jobs n = .createLock) :
    Step s (.noWifi n) ((s.updateLock (.write none)).goto n .createJmDns)
  | lockFails {n : ℕ} (hn : s.jobs n = .createLock) : Step s (.lockFails n) (s.goto n .waiting)
  | publishLock {n : ℕ} (hn : s.jobs n = .publishLock) :
    Step s (.publishLock n) ((s.updateLock (.write (some n))).goto n .createJmDns)
  | createJmDns {n : ℕ} (hn : s.jobs n = .createJmDns) :
    Step s (.createJmDns n) ((s.updateJmDns (.acquire n)).goto n .publishJmDns)
  | jmDnsFails {n : ℕ} (hn : s.jobs n = .createJmDns) : Step s (.jmDnsFails n) (s.goto n .waiting)
  | publishJmDns {n : ℕ} (hn : s.jobs n = .publishJmDns) :
    Step s (.publishJmDns n) ((s.updateJmDns (.write (some n))).goto n .waiting)
  | finish {n : ℕ} (hn : s.jobs n = .waiting) : Step s (.finish n) (s.goto n .done)

theorem step_cases {a : DiscoveryEvent} (h : s.step a = some t) : Step s a t := by
  cases a with
  | finishStop =>
    simp only [step] at h
    split at h
    · rename_i hm
      exact Option.some.inj h ▸ .returns hm
    · rename_i hm
      exact Option.some.inj h ▸ .starts hm
    · rename_i hm
      exact Option.some.inj h ▸ .cancelsScope hm
    · cases h
  | _ =>
    simp only [step] at h
    split at h
    · obtain rfl := Option.some.inj h
      constructor
      assumption
    · cases h

theorem multicastLock_launch : s.launch.multicastLock = s.multicastLock := by
  unfold launch
  split <;> rfl

theorem jmdns_launch : s.launch.jmdns = s.jmdns := by
  unfold launch
  split <;> rfl

/-! ## Which locks are held -/

/-- What a step does with the lock. -/
def lockEvent : DiscoveryEvent → Option (FieldEvent ℕ)
  | .createLock n => some (.acquire n)
  | .noWifi _ | .clearLock => some (.write none)
  | .publishLock n => some (.write (some n))
  | .releaseLock => some .release
  | _ => none

/-- What a step does with the session. -/
def sessionEvent : DiscoveryEvent → Option (FieldEvent ℕ)
  | .createJmDns n => some (.acquire n)
  | .clearJmDns => some (.write none)
  | .publishJmDns n => some (.write (some n))
  | .closeJmDns => some .release
  | _ => none

theorem lockEvent_eq_acquire {a : DiscoveryEvent} {n : ℕ} :
    lockEvent a = some (.acquire n) ↔ a = .createLock n := by
  cases a <;> simp [lockEvent]

theorem lockEvent_eq_write {a : DiscoveryEvent} {n : ℕ} :
    lockEvent a = some (.write (some n)) ↔ a = .publishLock n := by
  cases a <;> simp [lockEvent]

theorem sessionEvent_eq_acquire {a : DiscoveryEvent} {n : ℕ} :
    sessionEvent a = some (.acquire n) ↔ a = .createJmDns n := by
  cases a <;> simp [sessionEvent]

theorem sessionEvent_eq_write {a : DiscoveryEvent} {n : ℕ} :
    sessionEvent a = some (.write (some n)) ↔ a = .publishJmDns n := by
  cases a <;> simp [sessionEvent]

theorem multicastLock_step {a : DiscoveryEvent} (h : s.step a = some t) :
    t.multicastLock = (lockEvent a).elim s.multicastLock s.multicastLock.apply := by
  cases step_cases h with
  | start => exact multicastLock_launch
  | starts => exact multicastLock_launch
  | _ => rfl

theorem jmdns_step {a : DiscoveryEvent} (h : s.step a = some t) :
    t.jmdns = (sessionEvent a).elim s.jmdns s.jmdns.apply := by
  cases step_cases h with
  | start => exact jmdns_launch
  | starts => exact jmdns_launch
  | _ => rfl

/-- A field that the steps update through `event` is what their events make of it. -/
theorem field_run (field : ServerDiscovery → OwnedField ℕ)
    {event : DiscoveryEvent → Option (FieldEvent ℕ)} (hinit : field init = .empty)
    (hstep : ∀ s a t, step s a = some t → field t = (event a).elim (field s) (field s).apply)
    {as : List DiscoveryEvent} (h : run step init as = some s) :
    field s = .after (as.filterMap event) := by
  induction as using List.reverseRecOn generalizing s with
  | nil =>
    obtain rfl := Option.some.inj h
    exact hinit
  | append_singleton as a ih =>
    obtain ⟨u, hu, hstep'⟩ := run_append_singleton_eq_some.1 h
    rw [hstep u a s hstep', ih hu, List.filterMap_append]
    cases ha : event a with
    | none => simp [ha]
    | some e => simp [ha, OwnedField.after_append_singleton]

/-- The numbers of the coroutines that are still to be launched. -/
def Unused (s : ServerDiscovery) : Prop := ∀ n, s.launchedJobs ≤ n → s.jobs n = .notLaunched

theorem unused_goto (hs : s.Unused) {n : ℕ} {before phase : JobPhase} (hn : s.jobs n = before)
    (hbefore : before ≠ .notLaunched) (hrank : before.rank ≤ phase.rank) :
    (s.goto n phase).Unused ∧ ∀ m, (s.jobs m).rank ≤ ((s.goto n phase).jobs m).rank := by
  refine ⟨fun m hm => ?_, fun m => ?_⟩
  · have hne : m ≠ n := by
      rintro rfl
      exact hbefore (hn.symm.trans (hs m hm))
    simpa [goto, hne] using hs m hm
  · by_cases hm : m = n
    · subst hm
      simpa [goto, hn] using hrank
    · simp [goto, hm]

theorem unused_launch (hs : s.Unused) :
    s.launch.Unused ∧ ∀ m, (s.jobs m).rank ≤ (s.launch.jobs m).rank := by
  unfold launch
  split
  · exact ⟨hs, fun m => le_rfl⟩
  · refine ⟨fun m hm => ?_, fun m => ?_⟩
    · have hlt : s.launchedJobs < m := hm
      simpa [goto, hlt.ne'] using hs m hlt.le
    · by_cases hm : m = s.launchedJobs
      · subst hm
        rw [hs _ le_rfl]
        exact Nat.zero_le _
      · simp [goto, hm]

/-- A coroutine does not go back. -/
theorem rank_step {a : DiscoveryEvent} (hs : s.Unused) (h : s.step a = some t) :
    t.Unused ∧ ∀ n, (s.jobs n).rank ≤ (t.jobs n).rank := by
  cases step_cases h with
  | start => exact unused_launch hs
  | starts => exact unused_launch hs
  | openJmDns hn =>
    refine unused_goto hs hn (by decide) ?_
    split <;> decide
  | createLock hn =>
    exact unused_goto (s := s.updateLock _) hs hn (by decide) (by decide)
  | noWifi hn => exact unused_goto (s := s.updateLock _) hs hn (by decide) (by decide)
  | publishLock hn => exact unused_goto (s := s.updateLock _) hs hn (by decide) (by decide)
  | createJmDns hn => exact unused_goto (s := s.updateJmDns _) hs hn (by decide) (by decide)
  | publishJmDns hn => exact unused_goto (s := s.updateJmDns _) hs hn (by decide) (by decide)
  | lockFails hn => exact unused_goto hs hn (by decide) (by decide)
  | jmDnsFails hn => exact unused_goto hs hn (by decide) (by decide)
  | finish hn => exact unused_goto hs hn (by decide) (by decide)
  | _ => exact ⟨hs, fun n => le_rfl⟩

theorem unused_run {as : List DiscoveryEvent} (h : run step init as = some s) : s.Unused :=
  run_invariant (P := Unused) (fun _ _ _ hs hstep => (rank_step hs hstep).1) (fun _ _ => rfl) h

/-- A coroutine that has taken a step stays behind it. -/
theorem rank_of_mem {n k : ℕ} {a : DiscoveryEvent}
    (ha : ∀ s t, step s a = some t → k < (t.jobs n).rank) {as : List DiscoveryEvent}
    (h : run step init as = some s) (hmem : a ∈ as) : k < (s.jobs n).rank := by
  induction as using List.reverseRecOn generalizing s with
  | nil => exact absurd hmem List.not_mem_nil
  | append_singleton as b ih =>
    obtain ⟨u, hu, hstep⟩ := run_append_singleton_eq_some.1 h
    rcases List.mem_append.1 hmem with hmem | hmem
    · exact (ih hu hmem).trans_le ((rank_step (unused_run hu) hstep).2 n)
    · obtain rfl := List.mem_singleton.1 hmem
      exact ha u s hstep

/-- What a coroutine acquires it has not acquired or written before. -/
theorem fresh_run {event : DiscoveryEvent → Option (FieldEvent ℕ)} {n k : ℕ}
    (acquire write : DiscoveryEvent) (hacquire : ∀ a, event a = some (.acquire n) → a = acquire)
    (hwrite : ∀ a, event a = some (.write (some n)) → a = write)
    (hbefore : ∀ s t, step s acquire = some t → (s.jobs n).rank ≤ k)
    (hafter : ∀ s t, step s acquire = some t → k < (t.jobs n).rank)
    (hwritten : ∀ s t, step s write = some t → k < (t.jobs n).rank) {as : List DiscoveryEvent}
    (h : run step init as = some s) : OwnedField.Fresh n (as.filterMap event) := by
  intro pre post heq
  obtain ⟨xs, ys, rfl, hpre, hys⟩ := List.filterMap_eq_append_iff.1 heq
  obtain ⟨zs, a, ws, rfl, hzs, ha, -⟩ := List.filterMap_eq_cons_iff.1 hys
  obtain rfl := hacquire a ha
  rw [← List.append_assoc] at h
  obtain ⟨u, hu, hrest⟩ := run_append_eq_some.1 h
  obtain ⟨v, hv, -⟩ := run_cons_eq_some.1 hrest
  have hlow := hbefore u v hv
  rw [← hpre]
  constructor
  · intro hmem
    obtain ⟨b, hb, hevent⟩ := List.mem_filterMap.1 hmem
    obtain rfl := hacquire b hevent
    have := rank_of_mem hafter hu (List.mem_append_left zs hb)
    omega
  · intro hmem
    obtain ⟨b, hb, hevent⟩ := List.mem_filterMap.1 hmem
    obtain rfl := hwrite b hevent
    have := rank_of_mem hwritten hu (List.mem_append_left zs hb)
    omega

theorem fresh_lock {as : List DiscoveryEvent} (h : run step init as = some s) (n : ℕ) :
    OwnedField.Fresh n (as.filterMap lockEvent) := by
  refine fresh_run (k := 2) (.createLock n) (.publishLock n) (fun _ => lockEvent_eq_acquire.1)
    (fun _ => lockEvent_eq_write.1) (fun s t hst => ?_) (fun s t hst => ?_) (fun s t hst => ?_) h
  · cases step_cases hst with
    | createLock hn => exact hn ▸ le_rfl
  · cases step_cases hst with
    | createLock hn => simp [goto, JobPhase.rank]
  · cases step_cases hst with
    | publishLock hn => simp [goto, JobPhase.rank]

theorem fresh_session {as : List DiscoveryEvent} (h : run step init as = some s) (n : ℕ) :
    OwnedField.Fresh n (as.filterMap sessionEvent) := by
  refine fresh_run (k := 4) (.createJmDns n) (.publishJmDns n)
    (fun _ => sessionEvent_eq_acquire.1) (fun _ => sessionEvent_eq_write.1)
    (fun s t hst => ?_) (fun s t hst => ?_) (fun s t hst => ?_) h
  · cases step_cases hst with
    | createJmDns hn => exact hn ▸ le_rfl
  · cases step_cases hst with
    | createJmDns hn => simp [goto, JobPhase.rank]
  · cases step_cases hst with
    | publishJmDns hn => simp [goto, JobPhase.rank]

/-- **A lock stays held, and a session open, exactly when `stop` has not come for it** between the
write of its field and the next write, in any interleaving of the main thread with the
coroutines. -/
theorem held_iff {as : List DiscoveryEvent} (h : run step init as = some s) (n : ℕ) :
    (n ∈ s.multicastLock.held ↔ .createLock n ∈ as ∧
      ¬OwnedField.Released n (as.filterMap lockEvent)) ∧
    (n ∈ s.jmdns.held ↔ .createJmDns n ∈ as ∧
      ¬OwnedField.Released n (as.filterMap sessionEvent)) := by
  have hlock := field_run multicastLock rfl (fun _ _ _ => multicastLock_step) h
  have hsession := field_run jmdns rfl (fun _ _ _ => jmdns_step) h
  have hmemLock : .acquire n ∈ as.filterMap lockEvent ↔ .createLock n ∈ as := by
    simp [List.mem_filterMap, lockEvent_eq_acquire]
  have hmemSession : .acquire n ∈ as.filterMap sessionEvent ↔ .createJmDns n ∈ as := by
    simp [List.mem_filterMap, sessionEvent_eq_acquire]
  rw [hlock, hsession, OwnedField.mem_held_iff (fresh_lock h n),
    OwnedField.mem_held_iff (fresh_session h n), hmemLock, hmemSession]
  exact ⟨Iff.rfl, Iff.rfl⟩

/-- A coroutine from end to end. -/
def wholeJob (n : ℕ) : List DiscoveryEvent :=
  [.openJmDns n, .createLock n, .publishLock n, .createJmDns n, .publishJmDns n, .finish n]

/-- `stop` from end to end, on the main thread alone. -/
def wholeStop (next : AfterStop) : List DiscoveryEvent :=
  [.stop next, .closeJmDns, .clearJmDns, .releaseLock, .clearLock, .finishStop]

/-- `start` is called again after the coroutine has ended, and then `stop`. -/
def startedTwice : List DiscoveryEvent :=
  .start :: wholeJob 0 ++ .start :: wholeJob 1 ++ wholeStop .returns

/-- The first lock stays held and the first session open. -/
theorem held_startedTwice : ∃ s, run step init startedTwice = some s ∧ s.listenerJob = none ∧
    s.multicastLock.held = {0} ∧ s.jmdns.held = {0} ∧
    ¬OwnedField.Released 0 (startedTwice.filterMap lockEvent) ∧
    ¬OwnedField.Released 0 (startedTwice.filterMap sessionEvent) := by
  have hend : (run step init startedTwice).map
      (fun s => (s.listenerJob, s.multicastLock.held, s.jmdns.held)) = some (none, {0}, {0}) := by
    decide +kernel
  obtain ⟨s, h, heq⟩ := Option.map_eq_some_iff.1 hend
  obtain ⟨hjob, hlock, hsession⟩ : s.listenerJob = none ∧ s.multicastLock.held = {0} ∧
    s.jmdns.held = {0} := by simpa using heq
  obtain ⟨hl, hj⟩ := held_iff h 0
  exact ⟨s, h, hjob, hlock, hsession, (hl.1 (by simp [hlock])).2, (hj.1 (by simp [hsession])).2⟩

/-! ## Orderly calls -/

/-- `start` is called in a discovery that is active or was stopped, `stop` while no coroutine opens
a session. -/
def Orderly (s : ServerDiscovery) : DiscoveryEvent → Prop
  | .start => s.isActive = true ∨ s.listenerJob = none
  | .stop _ => ∀ n < s.launchedJobs, (s.jobs n).opening = false
  | _ => True

instance (s : ServerDiscovery) : (a : DiscoveryEvent) → Decidable (Orderly s a)
  | .start => inferInstanceAs (Decidable (_ ∨ _))
  | .stop _ => inferInstanceAs (Decidable (∀ n < s.launchedJobs, _))
  | .closeJmDns | .clearJmDns | .releaseLock | .clearLock | .finishStop | .openJmDns _
  | .createLock _ | .noWifi _ | .lockFails _ | .publishLock _ | .createJmDns _ | .jmDnsFails _
  | .publishJmDns _ | .finish _ => .isTrue trivial

/-- The coroutine `n` has written its field, or has nothing. -/
def Published (n : ℕ) (field : OwnedField ℕ) : Prop := field = ⟨some n, {n}⟩ ∨ field = .empty

/-- What the current coroutine has, by where it is. -/
def HeldBy (s : ServerDiscovery) (n : ℕ) : JobPhase → Prop
  | .notLaunched => False
  | .launched | .createLock => s.multicastLock = .empty ∧ s.jmdns = .empty
  | .publishLock => s.multicastLock = ⟨none, {n}⟩ ∧ s.jmdns = .empty
  | .createJmDns => Published n s.multicastLock ∧ s.jmdns = .empty
  | .publishJmDns => Published n s.multicastLock ∧ s.jmdns = ⟨none, {n}⟩
  | .waiting | .done => Published n s.multicastLock ∧ Published n s.jmdns

/-- What is held, by where the main thread is. -/
def HeldAt (s : ServerDiscovery) : MainPhase → Prop
  | .idle =>
    match s.listenerJob with
    | none => s.multicastLock = .empty ∧ s.jmdns = .empty
    | some n => s.HeldBy n (s.jobs n)
  | .closeJmDns _ => s.listenerJob = none ∧ s.multicastLock.Tidy ∧ s.jmdns.Tidy
  | .clearJmDns _ => s.listenerJob = none ∧ s.multicastLock.Tidy ∧ s.jmdns.held = ∅
  | .releaseLock _ => s.listenerJob = none ∧ s.multicastLock.Tidy ∧ s.jmdns = .empty
  | .clearLock _ => s.listenerJob = none ∧ s.multicastLock.held = ∅ ∧ s.jmdns = .empty
  | .finishStop _ => s.listenerJob = none ∧ s.multicastLock = .empty ∧ s.jmdns = .empty

/-- Only the current coroutine opens a session or is going to. -/
structure Inv (s : ServerDiscovery) : Prop where
  unused : s.Unused
  opening : ∀ n, (s.jobs n).opening = true → s.listenerJob = some n ∧ s.main = .idle
  launched : ∀ n, s.jobs n = .launched → s.isCancelled n = false →
    s.listenerJob = some n ∧ s.main = .idle
  held : s.HeldAt s.main

theorem inv_init : Inv init where
  unused _ _ := rfl
  opening n h := by cases h
  launched n h := by cases h
  held := ⟨rfl, rfl⟩

theorem Published.tidy {n : ℕ} {field : OwnedField ℕ} (h : Published n field) : field.Tidy := by
  rcases h with rfl | rfl <;> rfl

/-- What the current coroutine has. -/
theorem Inv.heldBy (hs : Inv s) {n : ℕ} {phase : JobPhase}
    (hcur : s.listenerJob = some n ∧ s.main = .idle) (hn : s.jobs n = phase) :
    s.HeldBy n phase := by
  have hheld := hs.held
  rw [hcur.2] at hheld
  simpa only [HeldAt, hcur.1, hn] using hheld

/-- Nothing is lost when no coroutine opens a session. -/
theorem Inv.tidy (hs : Inv s) (hm : s.main = .idle) (hno : ∀ n, (s.jobs n).opening = false) :
    s.multicastLock.Tidy ∧ s.jmdns.Tidy := by
  cases hjob : s.listenerJob with
  | none =>
    have hheld := hs.held
    rw [hm] at hheld
    simp only [HeldAt, hjob] at hheld
    rw [hheld.1, hheld.2]
    exact ⟨rfl, rfl⟩
  | some n =>
    have hheld := hs.heldBy ⟨hjob, hm⟩ rfl
    have hopening := hno n
    cases hn : s.jobs n <;> rw [hn] at hheld hopening
    case notLaunched => exact hheld.elim
    case launched =>
      rw [hheld.1, hheld.2]
      exact ⟨rfl, rfl⟩
    case waiting => exact ⟨hheld.1.tidy, hheld.2.tidy⟩
    case done => exact ⟨hheld.1.tidy, hheld.2.tidy⟩
    all_goals cases hopening

/-- The current coroutine goes on in `openJmDns`. -/
theorem Inv.goto (hs : Inv s) {n : ℕ} {phase : JobPhase} {lock jmdns : OwnedField ℕ}
    (hcur : s.listenerJob = some n ∧ s.main = .idle) (hnot : phase ≠ .notLaunched)
    (hlaunched : phase ≠ .launched)
    (hheld : HeldBy { s with multicastLock := lock, jmdns := jmdns } n phase) :
    Inv ({ s with multicastLock := lock, jmdns := jmdns }.goto n phase) where
  unused m hm := by
    have hne : m ≠ n := by
      rintro rfl
      have hnone := hs.heldBy hcur (hs.unused m hm)
      exact hnone
    simpa [ServerDiscovery.goto, hne] using hs.unused m hm
  opening m hm := by
    by_cases hmn : m = n
    · exact hmn ▸ hcur
    · exact hs.opening m (by simpa [ServerDiscovery.goto, hmn] using hm)
  launched m hm hc := by
    by_cases hmn : m = n
    · subst hmn
      exact absurd (by simpa [ServerDiscovery.goto] using hm) hlaunched
    · exact hs.launched m (by simpa [ServerDiscovery.goto, hmn] using hm) hc
  held := by
    change HeldAt _ s.main
    rw [hcur.2]
    simp only [HeldAt, ServerDiscovery.goto, hcur.1, Function.update_self]
    cases phase <;> exact hheld

/-- A coroutine ends. -/
theorem Inv.done (hs : Inv s) {n : ℕ} (hn : s.jobs n = .launched ∨ s.jobs n = .waiting) :
    Inv (s.goto n .done) where
  unused m hm := by
    have hne : m ≠ n := by
      rintro rfl
      have hnone := hs.unused m hm
      rcases hn with hn | hn <;> rw [hnone] at hn <;> cases hn
    simpa [ServerDiscovery.goto, hne] using hs.unused m hm
  opening m hm := by
    by_cases hmn : m = n
    · subst hmn
      simp [ServerDiscovery.goto, JobPhase.opening] at hm
    · exact hs.opening m (by simpa [ServerDiscovery.goto, hmn] using hm)
  launched m hm hc := by
    by_cases hmn : m = n
    · subst hmn
      simp [ServerDiscovery.goto] at hm
    · exact hs.launched m (by simpa [ServerDiscovery.goto, hmn] using hm) hc
  held := by
    have hheld := hs.held
    change HeldAt _ s.main
    cases hmain : s.main <;> rw [hmain] at hheld
    case idle =>
      cases hjob : s.listenerJob with
      | none => simpa only [HeldAt, ServerDiscovery.goto, hjob] using hheld
      | some m =>
        simp only [HeldAt, hjob] at hheld
        simp only [HeldAt, ServerDiscovery.goto, hjob]
        by_cases hmn : m = n
        · subst hmn
          rw [Function.update_self]
          rcases hn with hn | hn <;> rw [hn] at hheld
          · exact ⟨.inr hheld.1, .inr hheld.2⟩
          · exact hheld
        · rw [Function.update_of_ne hmn]
          cases hphase : s.jobs m <;> rw [hphase] at hheld <;> exact hheld
    all_goals exact hheld

/-- The main thread goes on in `stop`. -/
theorem Inv.proceed (hs : Inv s) (hmain : s.main ≠ .idle) (hjobs : t.jobs = s.jobs)
    (hlaunched : t.launchedJobs = s.launchedJobs)
    (hcancelled : ∀ n, t.isCancelled n = false → s.isCancelled n = false)
    (hheld : t.HeldAt t.main) : Inv t where
  unused n hn := by
    rw [hjobs]
    exact hs.unused n (hlaunched ▸ hn)
  opening n hn := absurd (hs.opening n (hjobs ▸ hn)).2 hmain
  launched n hn hc := absurd (hs.launched n (hjobs ▸ hn) (hcancelled n hc)).2 hmain
  held := hheld

/-- `start` launches a coroutine when there is none. -/
theorem Inv.launch (hs : Inv s) (hmain : s.main = .idle)
    (horderly : s.isActive = true ∨ s.listenerJob = none) : Inv s.launch := by
  rcases horderly with hactive | hnone
  · rw [ServerDiscovery.launch, if_pos hactive]
    exact hs
  · have hactive : s.isActive = false := by rw [isActive, hnone]
    have hheld := hs.held
    rw [hmain] at hheld
    simp only [HeldAt, hnone] at hheld
    have hlaunch : s.launch = { s.goto s.launchedJobs .launched with
        listenerJob := some s.launchedJobs, launchedJobs := s.launchedJobs + 1 } := by
      rw [ServerDiscovery.launch, if_neg (by simp [hactive])]
    refine ⟨(unused_launch hs.unused).1, fun n hn => ?_, fun n hn hc => ?_, ?_⟩
    · rw [hlaunch] at hn
      by_cases hne : n = s.launchedJobs
      · subst hne
        simp [ServerDiscovery.goto, JobPhase.opening] at hn
      · have hcur := (hs.opening n (by simpa [ServerDiscovery.goto, hne] using hn)).1
        rw [hnone] at hcur
        cases hcur
    · rw [hlaunch] at hn hc ⊢
      by_cases hne : n = s.launchedJobs
      · exact ⟨congrArg some hne.symm, hmain⟩
      · have hcur := (hs.launched n (by simpa [ServerDiscovery.goto, hne] using hn) hc).1
        rw [hnone] at hcur
        cases hcur
    · rw [hlaunch]
      change HeldAt _ s.main
      rw [hmain]
      simpa [HeldAt, ServerDiscovery.goto, HeldBy] using hheld

theorem Inv.not_opening (hs : Inv s) {next : AfterStop} (horderly : Orderly s (.stop next))
    (n : ℕ) : (s.jobs n).opening = false := by
  by_cases hn : n < s.launchedJobs
  · exact horderly n hn
  · rw [hs.unused n (Nat.not_lt.1 hn)]
    rfl

/-- `stop` cancels the coroutine. -/
theorem Inv.stop (hs : Inv s) (hmain : s.main = .idle) {next : AfterStop}
    (horderly : Orderly s (.stop next)) : Inv (s.cancel.proceed (.closeJmDns next)) where
  unused := hs.unused
  opening n hn := by
    have hn : (s.jobs n).opening = true := hn
    rw [hs.not_opening horderly n] at hn
    cases hn
  launched n hn hc := by
    simp only [isCancelled, ServerDiscovery.proceed, cancel, Finset.mem_union, Option.mem_toFinset,
      Bool.or_eq_false_iff, decide_eq_false_iff_not, not_or] at hc
    have hcur := (hs.launched n hn (by simp [isCancelled, hc.1, hc.2.1])).1
    exact absurd hcur hc.2.2
  held := ⟨rfl, hs.tidy hmain (hs.not_opening horderly)⟩

/-- What is in the lock's field where the main thread is. -/
theorem Inv.heldAt (hs : Inv s) {phase : MainPhase} (hmain : s.main = phase) : s.HeldAt phase :=
  hmain ▸ hs.held

/-- **Orderly calls keep the invariant.** -/
theorem inv_step {a : DiscoveryEvent} (hs : Inv s) (horderly : Orderly s a)
    (h : s.step a = some t) : Inv t := by
  cases step_cases h with
  | start hm => exact hs.launch hm horderly
  | stop hm => exact hs.stop hm horderly
  | closeJmDns hm =>
    obtain ⟨hjob, hlock, hjmdns⟩ := hs.heldAt hm
    exact hs.proceed (by simp [hm]) rfl rfl (fun _ => id) ⟨hjob, hlock, hjmdns.release⟩
  | clearJmDns hm =>
    obtain ⟨hjob, hlock, hjmdns⟩ := hs.heldAt hm
    refine hs.proceed (by simp [hm]) rfl rfl (fun _ => id) ⟨hjob, hlock, ?_⟩
    exact congrArg (OwnedField.mk none) hjmdns
  | releaseLock hm =>
    obtain ⟨hjob, hlock, hjmdns⟩ := hs.heldAt hm
    exact hs.proceed (by simp [hm]) rfl rfl (fun _ => id) ⟨hjob, hlock.release, hjmdns⟩
  | clearLock hm =>
    obtain ⟨hjob, hlock, hjmdns⟩ := hs.heldAt hm
    refine hs.proceed (by simp [hm]) rfl rfl (fun _ => id) ⟨hjob, ?_, hjmdns⟩
    exact congrArg (OwnedField.mk none) hlock
  | returns hm =>
    obtain ⟨hjob, hlock, hjmdns⟩ := hs.heldAt hm
    refine hs.proceed (by simp [hm]) rfl rfl (fun _ => id) ?_
    simp only [HeldAt, proceed, hjob]
    exact ⟨hlock, hjmdns⟩
  | starts hm =>
    obtain ⟨hjob, hlock, hjmdns⟩ := hs.heldAt hm
    have hidle : Inv (s.proceed .idle) := by
      refine hs.proceed (by simp [hm]) rfl rfl (fun _ => id) ?_
      simp only [HeldAt, proceed, hjob]
      exact ⟨hlock, hjmdns⟩
    exact hidle.launch rfl (.inr hjob)
  | cancelsScope hm =>
    obtain ⟨hjob, hlock, hjmdns⟩ := hs.heldAt hm
    refine hs.proceed (by simp [hm]) rfl rfl (fun n hn => ?_) ?_
    · simp [isCancelled] at hn
    · simp only [HeldAt, proceed, hjob]
      exact ⟨hlock, hjmdns⟩
  | @openJmDns n hn =>
    cases hc : s.isCancelled n with
    | true => exact hs.done (.inl hn)
    | false =>
      have hcur := hs.launched n hn hc
      exact hs.goto hcur (by decide) (by decide)
        (show s.HeldBy n .launched from hs.heldBy hcur hn)
  | @createLock n hn =>
    have hcur := hs.opening n (by rw [hn]; rfl)
    obtain ⟨hlock, hjmdns⟩ := hs.heldBy hcur hn
    refine hs.goto hcur (by decide) (by decide) ⟨?_, hjmdns⟩
    simp [hlock, OwnedField.apply, OwnedField.empty]
  | @noWifi n hn =>
    have hcur := hs.opening n (by rw [hn]; rfl)
    obtain ⟨hlock, hjmdns⟩ := hs.heldBy hcur hn
    refine hs.goto hcur (by decide) (by decide) ⟨.inr ?_, hjmdns⟩
    simp [hlock, OwnedField.apply, OwnedField.empty]
  | @lockFails n hn =>
    have hcur := hs.opening n (by rw [hn]; rfl)
    obtain ⟨hlock, hjmdns⟩ := hs.heldBy hcur hn
    exact hs.goto hcur (by decide) (by decide) ⟨.inr hlock, .inr hjmdns⟩
  | @publishLock n hn =>
    have hcur := hs.opening n (by rw [hn]; rfl)
    obtain ⟨hlock, hjmdns⟩ := hs.heldBy hcur hn
    refine hs.goto hcur (by decide) (by decide) ⟨.inl ?_, hjmdns⟩
    simp [hlock, OwnedField.apply]
  | @createJmDns n hn =>
    have hcur := hs.opening n (by rw [hn]; rfl)
    obtain ⟨hlock, hjmdns⟩ := hs.heldBy hcur hn
    refine hs.goto hcur (by decide) (by decide) ⟨hlock, ?_⟩
    simp [hjmdns, OwnedField.apply, OwnedField.empty]
  | @jmDnsFails n hn =>
    have hcur := hs.opening n (by rw [hn]; rfl)
    obtain ⟨hlock, hjmdns⟩ := hs.heldBy hcur hn
    exact hs.goto hcur (by decide) (by decide) ⟨hlock, .inr hjmdns⟩
  | @publishJmDns n hn =>
    have hcur := hs.opening n (by rw [hn]; rfl)
    obtain ⟨hlock, hjmdns⟩ := hs.heldBy hcur hn
    refine hs.goto hcur (by decide) (by decide) ⟨hlock, .inl ?_⟩
    simp [hjmdns, OwnedField.apply]
  | finish hn => exact hs.done (.inr hn)

theorem Published.card_le {n : ℕ} {field : OwnedField ℕ} (h : Published n field) :
    field.held.card ≤ 1 :=
  h.tidy.card_le

/-- At most one lock is held and one session open. -/
theorem Inv.card_le (hs : Inv s) : s.multicastLock.held.card ≤ 1 ∧ s.jmdns.held.card ≤ 1 := by
  have hheld := hs.held
  cases hmain : s.main <;> rw [hmain] at hheld
  case idle =>
    cases hjob : s.listenerJob with
    | none =>
      simp only [HeldAt, hjob] at hheld
      rw [hheld.1, hheld.2]
      exact ⟨Nat.zero_le 1, Nat.zero_le 1⟩
    | some n =>
      simp only [HeldAt, hjob] at hheld
      cases hphase : s.jobs n <;> rw [hphase] at hheld
      case notLaunched => exact hheld.elim
      case launched => simp [hheld.1, hheld.2, OwnedField.empty]
      case createLock => simp [hheld.1, hheld.2, OwnedField.empty]
      case publishLock => simp [hheld.1, hheld.2, OwnedField.empty]
      case createJmDns => exact ⟨hheld.1.card_le, by simp [hheld.2, OwnedField.empty]⟩
      case publishJmDns => exact ⟨hheld.1.card_le, by simp [hheld.2]⟩
      all_goals exact ⟨hheld.1.card_le, hheld.2.card_le⟩
  case closeJmDns => exact ⟨hheld.2.1.card_le, hheld.2.2.card_le⟩
  case clearJmDns => exact ⟨hheld.2.1.card_le, by simp [hheld.2.2]⟩
  case releaseLock => exact ⟨hheld.2.1.card_le, by simp [hheld.2.2, OwnedField.empty]⟩
  case clearLock => simp [hheld.2.1, hheld.2.2, OwnedField.empty]
  case finishStop => simp [hheld.2.1, hheld.2.2, OwnedField.empty]

/-- **Orderly calls lose nothing**: at most one lock is held and one session open at any time, and
none when the last call was a `stop`. -/
theorem held_of_orderly {as : List DiscoveryEvent} (h : run step init as = some s)
    (horderly : Along step Orderly init as) :
    (s.multicastLock.held.card ≤ 1 ∧ s.jmdns.held.card ≤ 1) ∧
      (s.main = .idle → s.listenerJob = none →
        s.multicastLock.held = ∅ ∧ s.jmdns.held = ∅ ∧ ∀ n, (s.jobs n).opening = false) := by
  have hs : Inv s := horderly.invariant (fun _ _ _ => inv_step) inv_init h
  refine ⟨hs.card_le, fun hmain hjob => ?_⟩
  have hheld := hs.heldAt hmain
  simp only [HeldAt, hjob] at hheld
  rw [hheld.1, hheld.2]
  refine ⟨rfl, rfl, fun n => Bool.eq_false_iff.2 fun hn => ?_⟩
  have hcur := (hs.opening n hn).1
  rw [hjob] at hcur
  cases hcur

/-- The user refreshes the list, and later leaves it. -/
def refreshed : List DiscoveryEvent :=
  .start :: wholeJob 0 ++ wholeStop .starts ++ wholeJob 1 ++ wholeStop .returns

theorem held_refreshed : (run step init refreshed).map (fun s => (s.main, s.listenerJob)) =
      some (.idle, none) ∧
    ∀ s, run step init refreshed = some s → s.multicastLock.held = ∅ ∧ s.jmdns.held = ∅ := by
  have hend : (run step init refreshed).map (fun s => (s.main, s.listenerJob)) =
      some (.idle, none) := by decide +kernel
  refine ⟨hend, fun s h => ?_⟩
  rw [h, Option.map_some, Option.some.injEq, Prod.mk.injEq] at hend
  have hempty := (held_of_orderly h
    (.of_test (fun _ _ => of_decide_eq_true) (by decide +kernel))).2 hend.1 hend.2
  exact ⟨hempty.1, hempty.2.1⟩

end ServerDiscovery

end Android

end AnyPlug
