import AnyPlug.Android.ServerList
import AnyPlug.Foundations.SharedCell

/-!
# Concurrent discovery

The sources of `ServerDiscovery` run concurrently: JmDNS calls `serviceResolved` and
`serviceRemoved` on its own threads, the last-known server and the scan are merged by coroutines on
the threads of `Dispatchers.IO`, and `stop` is called from elsewhere. Each of them reads
`_servers.value` and assigns what it makes of it, with no lock (`Foundations.SharedCell`).

Whatever the interleaving, the list stays a sorted map of servers that were delivered
(`servers_of_reachable`). `discovered_iff` says when it is the list that the deliveries are meant to
give: no server is lost, and none that was removed or cleared comes back.
-/

namespace AnyPlug

namespace Android

/-- The server belongs to the service: its host is the name of the service, or begins with it. -/
def matchesServiceName (server : DiscoveredServer) (serviceName : String) : Bool :=
  let pre := Kotlin.substringBefore "._usbip._tcp.local.".toList serviceName.toList
    serviceName.toList
  server.host.toList = pre || (pre ++ ['.']).isPrefixOf server.host.toList

/-- An operation on the list of servers. -/
inductive Discovering
  /-- `serviceResolved` or `mergeEndpoint`. -/
  | deliver (d : Delivery)
  | serviceRemoved (name : String)
  /-- The assignment in `stop`. -/
  | stop

namespace Discovering

/-- The servers that stay when a service is removed. -/
def remaining (name : String) (current : List DiscoveredServer) : List DiscoveredServer :=
  current.filter fun server => !matchesServiceName server name

/-- What an operation assigns to the list, if it assigns, when it has read `current`. -/
def apply (op : Discovering) (current : List DiscoveredServer) : Option (List DiscoveredServer) :=
  match op with
  | .deliver d => d.server.map (mergeServer current)
  | .serviceRemoved name =>
    let updated := remaining name current
    if updated.length ≠ current.length then some updated else none
  | .stop => some []

/-- What an operation is to do to the servers that are shown. -/
def effect (op : Discovering) (shown : Set DiscoveredServer) : Set DiscoveredServer :=
  match op with
  | .deliver d =>
    match d.server with
    | none => shown
    | some server => {e | e = server ∨ e ∈ shown ∧ e.address ≠ server.address}
  | .serviceRemoved name => {e | e ∈ shown ∧ matchesServiceName e name = false}
  | .stop => ∅

end Discovering

/-! ## The list stays a sorted map -/

/-- The list is sorted by host, and its servers have different hosts or ports. -/
structure SortedMap (l : List DiscoveredServer) : Prop where
  nodup : (l.map keyOf).Nodup
  sorted : l.Pairwise HostLE

theorem sortedMap_nil : SortedMap [] := ⟨List.nodup_nil, List.Pairwise.nil⟩

/-- A merge sorts the list with the server in its place. -/
theorem mergeServer_eq {l : List DiscoveredServer} (h : SortedMap l) (s : DiscoveredServer) :
    mergeServer l s = (InsertionMap.replace keyOf s l).insertionSort HostLE := by
  rw [mergeServer, InsertionMap.associateBy_of_nodup h.nodup, InsertionMap.put_pairs,
    InsertionMap.values_pairs]

theorem SortedMap.mergeServer {l : List DiscoveredServer} (h : SortedMap l)
    (s : DiscoveredServer) : SortedMap (mergeServer l s) := by
  rw [mergeServer_eq h]
  refine ⟨?_, List.pairwise_insertionSort HostLE _⟩
  have hperm := List.perm_insertionSort HostLE (InsertionMap.replace keyOf s l)
  exact (hperm.map keyOf).nodup_iff.2 (InsertionMap.nodup_replace h.nodup)

/-- A merge shows the server in the place of the one with its host and port. -/
theorem mem_mergeServer {l : List DiscoveredServer} (h : SortedMap l) {s e : DiscoveredServer} :
    e ∈ mergeServer l s ↔ e = s ∨ e ∈ l ∧ e.address ≠ s.address := by
  rw [mergeServer_eq h, List.mem_insertionSort, InsertionMap.mem_replace h.nodup, Ne, keyOf_eq_iff]

theorem SortedMap.apply (op : Discovering) (l l' : List DiscoveredServer) (h : SortedMap l)
    (hl' : op.apply l = some l') : SortedMap l' := by
  cases op with
  | deliver d =>
    obtain ⟨s, -, rfl⟩ := Option.map_eq_some_iff.1 hl'
    exact h.mergeServer s
  | serviceRemoved name =>
    simp only [Discovering.apply] at hl'
    split at hl'
    · obtain rfl := Option.some.inj hl'
      exact ⟨h.nodup.sublist (List.filter_sublist.map keyOf), h.sorted.filter _⟩
    · cases hl'
  | stop =>
    obtain rfl := Option.some.inj hl'
    exact sortedMap_nil

/-- What operations make of the empty list one after another was delivered by one of them. -/
theorem exists_delivery {ops : List Discovering} {e : DiscoveredServer}
    (h : e ∈ SharedCell.applyAll Discovering.apply [] ops) :
    ∃ d, .deliver d ∈ ops ∧ d.server = some e := by
  have hmap (ops : List Discovering) :
      SortedMap (SharedCell.applyAll Discovering.apply [] ops) := by
    induction ops using List.reverseRecOn with
    | nil => exact sortedMap_nil
    | append_singleton ops op ih =>
      rw [SharedCell.applyAll_append_singleton]
      cases hop : op.apply (SharedCell.applyAll Discovering.apply [] ops) with
      | none => exact ih
      | some l => exact SortedMap.apply op _ l ih hop
  induction ops using List.reverseRecOn with
  | nil => cases h
  | append_singleton ops op ih =>
    have hearlier (he : e ∈ SharedCell.applyAll Discovering.apply [] ops) :
        ∃ d, .deliver d ∈ ops ++ [op] ∧ d.server = some e := by
      obtain ⟨d, hd, hserver⟩ := ih he
      exact ⟨d, List.mem_append_left _ hd, hserver⟩
    rw [SharedCell.applyAll_append_singleton] at h
    cases op with
    | deliver d =>
      cases hserver : d.server with
      | none => exact hearlier (by simpa [Discovering.apply, hserver] using h)
      | some s =>
        rw [Discovering.apply, hserver, Option.map_some, Option.getD_some,
          mem_mergeServer (hmap ops)] at h
        obtain rfl | ⟨he, -⟩ := h
        · exact ⟨d, by simp, hserver⟩
        · exact hearlier he
    | serviceRemoved name =>
      simp only [Discovering.apply] at h
      split at h
      · exact hearlier (List.mem_of_mem_filter h)
      · exact hearlier h
    | stop => cases h

/-- **The list of a concurrent discovery is a sorted map of delivered servers.** Whatever the
threads do in whatever order: the servers have different hosts or ports, the list is sorted by
host, it is what some of the finished operations make of the empty list one after another, and each
server in it was delivered. -/
theorem servers_of_reachable {s : SharedCell (List DiscoveredServer) Discovering ℕ}
    (h : Reachable (SharedCell.step Discovering.apply) (SharedCell.start []) s) :
    (s.value.map DiscoveredServer.address).Nodup ∧ s.value.Pairwise HostLE ∧
      (∃ ops : List Discovering, ops.Sublist s.log ∧
        SharedCell.applyAll Discovering.apply [] ops = s.value) ∧
      ∀ e ∈ s.value, ∃ d, .deliver d ∈ s.log ∧ d.server = some e := by
  have hmap := (h.invariant (SharedCell.all_step SortedMap.apply)
    (SharedCell.all_start sortedMap_nil)).value
  obtain ⟨ops, hsub, hops⟩ := SharedCell.serial_of_reachable h
  refine ⟨?_, hmap.sorted, ⟨ops, hsub, hops⟩, fun e he => ?_⟩
  · have hnodup := hmap.nodup
    rw [List.Nodup, List.pairwise_map] at hnodup ⊢
    exact hnodup.imp fun hne heq => hne (keyOf_eq_iff.2 heq)
  · rw [← hops] at he
    obtain ⟨d, hd, hserver⟩ := exists_delivery he
    exact ⟨d, hsub.subset hd, hserver⟩

/-! ## When the list is what the operations are to give -/

/-- The servers that are shown. -/
def shown (l : List DiscoveredServer) : Set DiscoveredServer := {e | e ∈ l}

/-- What the operation that a thread finishes has read (`current`) still stands, as far as the
operation carries it over into the list (`value`): for a merge the servers with another host or
port, for the removal of a service the servers that do not belong to it. A removal that has found
nothing to remove assigns nothing, so there must be nothing to remove any more. -/
def Discovering.StillStands (current value : List DiscoveredServer) : Discovering → Prop
  | .deliver d => ∀ server, d.server = some server → ∀ e, e.address ≠ server.address →
      (e ∈ current ↔ e ∈ value)
  | .serviceRemoved name =>
    if ∃ e ∈ current, matchesServiceName e name = true then
      ∀ e, matchesServiceName e name = false → (e ∈ current ↔ e ∈ value)
    else ∀ e ∈ value, matchesServiceName e name = false
  | .stop => True

/-- A write rests on what still stands. -/
def Undisturbed (s : SharedCell (List DiscoveredServer) Discovering ℕ) :
    SharedCell.Action Discovering ℕ → Prop
  | .read _ _ => True
  | .write t => ∀ op current, s.reading t = some (op, current) → op.StillStands current s.value

/-- A removal assigns exactly when it has found a server of the service. -/
theorem apply_serviceRemoved (name : String) (current : List DiscoveredServer) :
    (Discovering.serviceRemoved name).apply current =
      if ∃ e ∈ current, matchesServiceName e name = true then
        some (Discovering.remaining name current) else none := by
  have hlength : (Discovering.remaining name current).length ≠ current.length ↔
      ∃ e ∈ current, matchesServiceName e name = true := by
    rw [Discovering.remaining, Ne, List.length_filter_eq_length_iff]
    push Not
    simp
  simp only [Discovering.apply, hlength]

/-- An operation has its effect exactly when what it rests on still stands. -/
theorem shown_apply_iff {current value : List DiscoveredServer} (hcurrent : SortedMap current)
    (op : Discovering) :
    shown ((op.apply current).getD value) = op.effect (shown value) ↔
      op.StillStands current value := by
  cases op with
  | deliver d =>
    cases hserver : d.server with
    | none => simp [Discovering.apply, Discovering.effect, Discovering.StillStands, hserver]
    | some s =>
      simp only [Discovering.apply, Discovering.effect, Discovering.StillStands, hserver,
        Option.map_some, Option.getD_some, Option.some.injEq, forall_eq', Set.ext_iff, shown,
        Set.mem_ofPred_eq, mem_mergeServer hcurrent]
      refine forall_congr' fun e => ?_
      by_cases hes : e = s
      · simp [hes]
      · simp only [hes, false_or]
        constructor
        · intro h hne
          simpa [hne] using h
        · intro h
          by_cases hne : e.address = s.address
          · simp [hne]
          · simp [hne, h hne]
  | serviceRemoved name =>
    rw [apply_serviceRemoved]
    simp only [Discovering.effect, Discovering.StillStands]
    split
    · -- what is assigned are the servers that stay
      simp only [Option.getD_some, Set.ext_iff, shown, Set.mem_ofPred_eq, Discovering.remaining,
        List.mem_filter, Bool.not_eq_true']
      refine forall_congr' fun e => ?_
      cases matchesServiceName e name <;> simp
    · simp only [Option.getD_none, Set.ext_iff, shown, Set.mem_ofPred_eq]
      refine forall_congr' fun e => ?_
      simp
  | stop => simp [Discovering.apply, Discovering.effect, Discovering.StillStands, shown]

/-- **The list is what the operations are to give, throughout a run, exactly when every write rests
on what still stands**: then it shows the servers that were delivered since they were last removed,
replaced or cleared, and no others. A write that rests on what was replaced in the meantime brings
back or drops a server. -/
theorem discovered_iff {as : List (SharedCell.Action Discovering ℕ)}
    {s : SharedCell (List DiscoveredServer) Discovering ℕ}
    (h : run (SharedCell.step Discovering.apply) (SharedCell.start []) as = some s) :
    Throughout (SharedCell.step Discovering.apply)
        (fun s => shown s.value = s.log.foldl (fun b op => op.effect b) ∅)
        (SharedCell.start []) as ↔
      Along (SharedCell.step Discovering.apply) Undisturbed (SharedCell.start []) as := by
  have hC (s : SharedCell (List DiscoveredServer) Discovering ℕ)
      (a : SharedCell.Action Discovering ℕ) (hs : s.All SortedMap) :
      Undisturbed s a ↔ SharedCell.Effective shown Discovering.effect Discovering.apply s a := by
    cases a with
    | read t op => exact Iff.rfl
    | write t =>
      refine forall_congr' fun op => forall_congr' fun current => forall_congr' fun hread => ?_
      exact (shown_apply_iff (hs.reading t op current hread) op).symm
  have hnil : shown [] = ∅ := by simp [shown]
  have hiff := SharedCell.throughout_shows_iff SortedMap.apply hC sortedMap_nil h
  rw [← hiff]
  have hshows : (SharedCell.Shows shown Discovering.effect [] :
      SharedCell (List DiscoveredServer) Discovering ℕ → Prop) =
        fun s => shown s.value = s.log.foldl (fun b op => op.effect b) ∅ := by
    funext s
    rw [SharedCell.Shows, hnil]
  rw [hshows]

/-- The store and the scan deliver at the same time: both read the empty list. -/
def overlappingDeliveries : List (SharedCell.Action Discovering ℕ) :=
  [.read 0 (.deliver (.endpoint deskEndpoint)), .read 1 (.deliver (.endpoint atticEndpoint)),
    .write 0, .write 1]

/-- The one that writes first is lost. -/
theorem not_discovered_overlapping :
    ¬Throughout (SharedCell.step Discovering.apply)
      (fun s => shown s.value = s.log.foldl (fun b op => op.effect b) ∅) (SharedCell.start [])
      overlappingDeliveries := by
  obtain ⟨s, hrun⟩ : ∃ s, run (SharedCell.step Discovering.apply) (SharedCell.start [])
    overlappingDeliveries = some s := ⟨_, rfl⟩
  rw [discovered_iff hrun]
  intro halong
  -- the scan writes what it has made of the empty list
  have hlast := ((halong.2 _ rfl).2 _ rfl).2 _ rfl
  have hstands := hlast.1 (.deliver (.endpoint atticEndpoint)) [] rfl (endpointServer atticEndpoint)
    rfl (endpointServer deskEndpoint) (by decide)
  exact absurd (hstands.2 (List.mem_singleton.2 rfl)) List.not_mem_nil

/-- What is left of the two is a sorted map of delivered servers. -/
theorem servers_of_reachable_overlapping :
    ∃ s : SharedCell (List DiscoveredServer) Discovering ℕ,
      s.value = [endpointServer atticEndpoint] ∧ s.value.Pairwise HostLE ∧
        ∀ e ∈ s.value, ∃ d, .deliver d ∈ s.log ∧ d.server = some e := by
  obtain ⟨s, hrun, hvalue⟩ : ∃ s, run (SharedCell.step Discovering.apply) (SharedCell.start [])
      overlappingDeliveries = some s ∧ s.value = [endpointServer atticEndpoint] :=
    ⟨_, rfl, rfl⟩
  obtain ⟨-, hsorted, -, hdelivered⟩ := servers_of_reachable ⟨overlappingDeliveries, hrun⟩
  exact ⟨s, hvalue, hsorted, hdelivered⟩

end Android

end AnyPlug
