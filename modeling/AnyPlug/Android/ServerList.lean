import AnyPlug.Android.Advertisement
import AnyPlug.Android.LastKnown
import AnyPlug.Foundations.LastWriter

/-!
# The list of servers

The servers that `ServerDiscovery` has found. Every source merges into one list, keyed by host and
port and sorted by host (`mergeServer`). The list is that of the last merged servers
(`current_mergeAll`), so a source that knows less replaces what a source that knew more has found.
`orderIndependent_iff` says when the order of the sources makes no difference.
-/

namespace AnyPlug

namespace Android

structure DiscoveredServer where
  host : String
  port : Int32
  devices : List RemoteDevice
  deriving DecidableEq

namespace DiscoveredServer

/-- The host and the port. -/
def address (s : DiscoveredServer) : String × Int32 := (s.host, s.port)

end DiscoveredServer

/-- The key of a server: the text `host:port`. -/
def keyOf (server : DiscoveredServer) : String :=
  server.host ++ ":" ++ String.ofList (Kotlin.intText server.port)

/-- The order of the list: by host. -/
def HostLE (s t : DiscoveredServer) : Prop := Kotlin.TextLE s.host t.host

instance (s t : DiscoveredServer) : Decidable (HostLE s t) :=
  inferInstanceAs (Decidable (Kotlin.TextLE s.host t.host))

instance : Std.Total HostLE := ⟨fun s t => total_of Kotlin.TextLE s.host t.host⟩

instance : IsTrans DiscoveredServer HostLE :=
  ⟨fun _ _ _ hst htu => trans_of Kotlin.TextLE hst htu⟩

/-- Merge a server into the list: in the place of the one with its key, or as a new one, and sort
the list by host. The sort is stable. -/
def mergeServer (current : List DiscoveredServer) (server : DiscoveredServer) :
    List DiscoveredServer :=
  let byKey := InsertionMap.associateBy keyOf current
  (byKey.put (keyOf server) server).values.insertionSort HostLE

def mergeAll (servers : List DiscoveredServer) : List DiscoveredServer :=
  servers.foldl mergeServer []

/-! ## Keys -/

/-- A text is taken apart at its last colon in one way. -/
theorem append_colon_inj {xs ys us vs : List Char} (hys : ':' ∉ ys) (hvs : ':' ∉ vs)
    (h : xs ++ ':' :: ys = us ++ ':' :: vs) : xs = us ∧ ys = vs := by
  have hsplit := congrArg (List.splitOn ':') h
  rw [List.splitOn_append_cons_self, List.splitOn_append_cons_self, List.splitOn_eq_singleton hys,
    List.splitOn_eq_singleton hvs] at hsplit
  obtain rfl := (List.cons.inj (List.append_inj' hsplit rfl).2).1
  exact ⟨List.append_cancel_right h, rfl⟩

theorem colon_notMem_intText (x : Int32) : ':' ∉ Kotlin.intText x := fun h => by
  rcases Kotlin.mem_intText h with h | h <;> exact absurd h (by decide)

/-- **The key is the host and the port**, also where the host has colons: the port has none. -/
theorem keyOf_eq_iff {s t : DiscoveredServer} : keyOf s = keyOf t ↔ s.address = t.address := by
  have hkey (s : DiscoveredServer) :
      (keyOf s).toList = s.host.toList ++ ':' :: Kotlin.intText s.port := by
    simp [keyOf, String.toList_append]
  rw [DiscoveredServer.address, DiscoveredServer.address, Prod.mk.injEq, ← String.toList_inj, hkey,
    hkey]
  constructor
  · intro h
    obtain ⟨hhost, hport⟩ :=
      append_colon_inj (colon_notMem_intText _) (colon_notMem_intText _) h
    exact ⟨String.toList_inj.1 hhost, Kotlin.intText_injective hport⟩
  · rintro ⟨hhost, hport⟩
    rw [hhost, hport]

/-! ## What the list holds -/

/-- **The list holds the last merged server of each key.** -/
theorem current_mergeAll (servers : List DiscoveredServer) :
    Current keyOf servers (mergeAll servers) := by
  induction servers using List.reverseRecOn with
  | nil => exact Current.nil
  | append_singleton servers server ih =>
    rw [mergeAll, List.foldl_append, ← mergeAll]
    exact ih.put (List.perm_insertionSort _ _)

theorem pairwise_mergeAll (servers : List DiscoveredServer) :
    (mergeAll servers).Pairwise HostLE := by
  cases servers using List.reverseRecOn with
  | nil => exact List.Pairwise.nil
  | append_singleton servers server =>
    rw [mergeAll, List.foldl_append]
    exact List.pairwise_insertionSort HostLE _

/-- The last writes by key are the last writes by host and port. -/
theorem lastWrite_keyOf (servers : List DiscoveredServer) (s : DiscoveredServer) :
    lastWrite keyOf servers (keyOf s) = lastWrite DiscoveredServer.address servers s.address := by
  rw [lastWrite, lastWrite]
  simp only [keyOf_eq_iff]

theorem nodup_address_mergeAll (servers : List DiscoveredServer) :
    ((mergeAll servers).map DiscoveredServer.address).Nodup := by
  have hnodup := (current_mergeAll servers).nodup
  rw [List.Nodup, List.pairwise_map] at hnodup ⊢
  exact hnodup.imp fun hne heq => hne (keyOf_eq_iff.2 heq)

theorem mem_mergeAll_iff {servers : List DiscoveredServer} {s : DiscoveredServer} :
    s ∈ mergeAll servers ↔
      lastWrite DiscoveredServer.address servers s.address = some s := by
  rw [(current_mergeAll servers).mem_iff, lastWrite_keyOf]

/-- **The list of servers is a sorted map**: after any merges its servers have different hosts or
ports, it is sorted by host, it has exactly one server for each host and port that was merged, and a
server is in it exactly when it was merged and none was merged with its host and port after it. -/
theorem mergeAll_sorted_map (servers : List DiscoveredServer) :
    ((mergeAll servers).map DiscoveredServer.address).Nodup ∧
      (mergeAll servers).Pairwise HostLE ∧
      (∀ address, (∃ s ∈ servers, s.address = address) ↔
        ∃! s, s ∈ mergeAll servers ∧ s.address = address) ∧
      ∀ s, s ∈ mergeAll servers ↔ ∃ before after, servers = before ++ s :: after ∧
        ∀ t ∈ after, t.address ≠ s.address := by
  have hnodup := nodup_address_mergeAll servers
  refine ⟨hnodup, pairwise_mergeAll servers, fun address => ?_, fun s => ?_⟩
  · constructor
    · rintro ⟨s, hs, rfl⟩
      obtain ⟨t, ht⟩ := exists_lastWrite DiscoveredServer.address hs
      obtain ⟨-, haddress⟩ := lastWrite_eq_some ht
      have hmem : t ∈ mergeAll servers := mem_mergeAll_iff.2 (by rw [haddress, ht])
      refine ⟨t, ⟨hmem, haddress⟩, fun u hu => ?_⟩
      exact List.inj_on_of_nodup_map hnodup hu.1 hmem (hu.2.trans haddress.symm)
    · rintro ⟨s, ⟨hmem, rfl⟩, -⟩
      exact ⟨s, (lastWrite_eq_some (mem_mergeAll_iff.1 hmem)).1, rfl⟩
  · rw [mem_mergeAll_iff, lastWrite_eq_some_iff]
    simp

/-! ## The sources -/

/-- The name of a host without the dot at its end. -/
def hostName (server : String) : String :=
  if server.toList.getLast? = some '.' then String.ofList server.toList.dropLast else server

/-- The server of a resolved service, unless it has no host. -/
def resolve (info : ServiceInfo) : Option DiscoveredServer :=
  let host := info.hostAddresses.head?.getD (hostName info.server)
  if host = "" then none else some ⟨host, info.port, parseDevices info⟩

/-- What is known of a server without its devices. -/
def endpointServer (endpoint : ServerEndpoint) : DiscoveredServer :=
  ⟨endpoint.host, endpoint.wirePort, [placeholder]⟩

/-- What a source delivers: a resolved service, or an endpoint of the store or of the scan. -/
inductive Delivery
  | resolved (info : Option ServiceInfo)
  | endpoint (endpoint : ServerEndpoint)

/-- The server that a delivery merges, if it merges one. -/
def Delivery.server : Delivery → Option DiscoveredServer
  | .resolved info => info.bind resolve
  | .endpoint e => some (endpointServer e)

def serviceResolved (current : List DiscoveredServer) (info : Option ServiceInfo) :
    List DiscoveredServer :=
  match info.bind resolve with
  | none => current
  | some server => mergeServer current server

def mergeEndpoint (current : List DiscoveredServer) (endpoint : ServerEndpoint) :
    List DiscoveredServer :=
  mergeServer current (endpointServer endpoint)

/-- The list after a delivery. -/
def deliver (current : List DiscoveredServer) : Delivery → List DiscoveredServer
  | .resolved info => serviceResolved current info
  | .endpoint e => mergeEndpoint current e

/-- The list after some deliveries, one after another. -/
def deliverAll (deliveries : List Delivery) : List DiscoveredServer :=
  deliveries.foldl deliver []

/-! ## The order of the sources -/

/-- The servers that some deliveries merge. -/
def servers (deliveries : List Delivery) : List DiscoveredServer :=
  deliveries.filterMap Delivery.server

/-- The servers among them that come from a resolved service. -/
def resolvedServers (deliveries : List Delivery) : List DiscoveredServer :=
  deliveries.filterMap fun
    | .resolved info => info.bind resolve
    | .endpoint _ => none

/-- The content of the list is the same for every order of the deliveries. -/
def OrderIndependent (deliveries : List Delivery) : Prop :=
  ∀ ds, ds.Perm deliveries → (deliverAll ds).Perm (deliverAll deliveries)

/-- A server resolved with real devices shows them for every order of the deliveries. -/
def KeepsDevices (deliveries : List Delivery) : Prop :=
  ∀ ds, ds.Perm deliveries → ∀ s ∈ resolvedServers deliveries, s.devices ≠ [placeholder] →
    ∀ t ∈ deliverAll ds, t.address = s.address → t.devices ≠ [placeholder]

/-- No endpoint has the host and the port of a server that was resolved with real devices. -/
def NoOverlap (deliveries : List Delivery) : Prop :=
  ∀ s ∈ resolvedServers deliveries, ∀ e, .endpoint e ∈ deliveries →
    (endpointServer e).address = s.address → s.devices = [placeholder]

/-- A delivery merges the server it has. -/
theorem deliver_mergeAll (merged : List DiscoveredServer) (d : Delivery) :
    deliver (mergeAll merged) d = mergeAll (merged ++ d.server.toList) := by
  have hlast (s : DiscoveredServer) :
      mergeServer (mergeAll merged) s = mergeAll (merged ++ [s]) := by
    rw [mergeAll, mergeAll, List.foldl_append]
    rfl
  cases d with
  | resolved info =>
    cases h : info.bind resolve with
    | none => simp [deliver, serviceResolved, Delivery.server, h]
    | some s => simp [deliver, serviceResolved, Delivery.server, h, hlast]
  | endpoint e => exact hlast (endpointServer e)

/-- The list after some deliveries is that of the servers they merge. -/
theorem deliverAll_eq (deliveries : List Delivery) :
    deliverAll deliveries = mergeAll (servers deliveries) := by
  induction deliveries using List.reverseRecOn with
  | nil => rfl
  | append_singleton deliveries d ih =>
    have hservers : servers (deliveries ++ [d]) = servers deliveries ++ d.server.toList := by
      rw [servers, List.filterMap_append, servers]
      cases h : d.server with
      | none => rw [List.filterMap_cons_none h]; rfl
      | some s => rw [List.filterMap_cons_some h]; rfl
    rw [hservers, ← deliver_mergeAll, ← ih, deliverAll, deliverAll, List.foldl_append]
    rfl

theorem mem_servers {deliveries : List Delivery} {s : DiscoveredServer} :
    s ∈ servers deliveries ↔ s ∈ resolvedServers deliveries ∨
      ∃ e, .endpoint e ∈ deliveries ∧ endpointServer e = s := by
  rw [servers, resolvedServers, List.mem_filterMap, List.mem_filterMap]
  constructor
  · rintro ⟨d, hd, hs⟩
    cases d with
    | resolved info => exact .inl ⟨.resolved info, hd, hs⟩
    | endpoint e => exact .inr ⟨e, hd, Option.some.inj hs⟩
  · rintro (⟨d, hd, hs⟩ | ⟨e, he, rfl⟩)
    · cases d with
      | resolved info => exact ⟨.resolved info, hd, hs⟩
      | endpoint e => cases hs
    · exact ⟨.endpoint e, he, rfl⟩

section Orders

variable {deliveries ds : List Delivery} {s t : DiscoveredServer}

/-- A server that is merged at all can be the last one. -/
theorem exists_perm_mem (h : s ∈ servers deliveries) :
    ∃ ds, ds.Perm deliveries ∧ s ∈ deliverAll ds := by
  obtain ⟨d, hd, hs⟩ := List.mem_filterMap.1 h
  obtain ⟨before, after, rfl⟩ := List.append_of_mem hd
  refine ⟨before ++ after ++ [d], ?_, ?_⟩
  · rw [List.append_assoc]
    exact (List.perm_append_singleton d after).append_left before
  · rw [deliverAll_eq, mem_mergeAll_iff, servers, List.filterMap_append,
      List.filterMap_cons_some hs, List.filterMap_nil, lastWrite_append_singleton, if_pos rfl]

/-- Where the content does not depend on the order, what is merged with one address is one
server. -/
theorem eq_of_orderIndependent (h : OrderIndependent deliveries) (hs : s ∈ servers deliveries)
    (ht : t ∈ servers deliveries) (hst : s.address = t.address) : s = t := by
  obtain ⟨ds, hds, hs⟩ := exists_perm_mem hs
  obtain ⟨ds', hds', ht⟩ := exists_perm_mem ht
  have hs := (h ds hds).mem_iff.1 hs
  have ht := (h ds' hds').mem_iff.1 ht
  rw [deliverAll_eq] at hs ht
  exact List.inj_on_of_nodup_map (nodup_address_mergeAll _) hs ht hst

/-- Where no endpoint overlaps, what is merged with one address is one server. -/
theorem injOn_of_noOverlap (h : NoOverlap deliveries)
    (hnodup : ((resolvedServers deliveries).map DiscoveredServer.address).Nodup) :
    Set.InjOn DiscoveredServer.address {s | s ∈ servers deliveries} := by
  have hendpoint {e : ServerEndpoint} {s : DiscoveredServer} (hdevices : s.devices = [placeholder])
      (haddress : (endpointServer e).address = s.address) : endpointServer e = s := by
    obtain ⟨hhost, hport⟩ := Prod.mk.inj haddress
    cases s
    simp_all [endpointServer]
  intro s hs t ht hst
  rcases mem_servers.1 hs with hs | ⟨e, he, rfl⟩
  · rcases mem_servers.1 ht with ht | ⟨e', he', rfl⟩
    · exact List.inj_on_of_nodup_map hnodup hs ht hst
    · exact (hendpoint (h s hs e' he' hst.symm) hst.symm).symm
  · rcases mem_servers.1 ht with ht | ⟨e', he', rfl⟩
    · exact hendpoint (h t ht e he hst) hst
    · exact hendpoint rfl hst

/-- An endpoint that is merged after a server it overlaps shows the placeholder in its place. -/
theorem noOverlap_of_keepsDevices (h : KeepsDevices deliveries) : NoOverlap deliveries := by
  intro s hs e he haddress
  by_contra hdevices
  obtain ⟨ds, hds, hmem⟩ := exists_perm_mem (mem_servers.2 (.inr ⟨e, he, rfl⟩))
  exact h ds hds s hs hdevices _ hmem haddress rfl

theorem noOverlap_of_orderIndependent (h : OrderIndependent deliveries) : NoOverlap deliveries := by
  intro s hs e he haddress
  rw [← eq_of_orderIndependent h (mem_servers.2 (.inr ⟨e, he, rfl⟩)) (mem_servers.2 (.inl hs))
    haddress]
  rfl

/-- **The order of the sources makes no difference exactly when** no endpoint of the store or of the
scan has the host and the port of a server that was resolved with real devices, and this is also
when such a server always shows its devices. -/
theorem orderIndependent_iff
    (hnodup : ((resolvedServers deliveries).map DiscoveredServer.address).Nodup) :
    (OrderIndependent deliveries ↔ NoOverlap deliveries) ∧
      (KeepsDevices deliveries ↔ NoOverlap deliveries) := by
  refine ⟨⟨noOverlap_of_orderIndependent, fun h ds hds => ?_⟩, noOverlap_of_keepsDevices,
    fun h ds hds s hs hdevices t ht haddress => ?_⟩
  · have hinj : Set.InjOn keyOf {s | s ∈ servers deliveries} := fun s hs t ht hkey =>
      injOn_of_noOverlap h hnodup hs ht (keyOf_eq_iff.1 hkey)
    rw [deliverAll_eq, deliverAll_eq, (current_mergeAll _).perm_iff (current_mergeAll _)]
    exact lastWrite_perm_iff.2 hinj _ (hds.filterMap _)
  · have hmem : t ∈ servers deliveries := by
      rw [deliverAll_eq, mem_mergeAll_iff] at ht
      exact (hds.filterMap _).mem_iff.1 (lastWrite_eq_some ht).1
    rwa [injOn_of_noOverlap h hnodup hmem (mem_servers.2 (.inl hs)) haddress]

end Orders

/-- The store knows the desk, and the scan finds another server. -/
def deskEndpoint : ServerEndpoint := ⟨"192.168.1.10", 3241, 3240, none, none, .lastKnown⟩
def atticEndpoint : ServerEndpoint := ⟨"192.168.1.20", 3241, 3240, some "b2", none, .rest⟩

def deskServer : DiscoveredServer := ⟨"192.168.1.10", 3240, parseDevices deskInfo⟩

theorem resolvedServers_desk (e : ServerEndpoint) :
    resolvedServers [.resolved (some deskInfo), .endpoint e] = [deskServer] := rfl

theorem noOverlap_desk_iff (e : ServerEndpoint) :
    NoOverlap [.resolved (some deskInfo), .endpoint e] ↔
      (e.host = "192.168.1.10" → e.wirePort = 3240 → parseDevices deskInfo = [placeholder]) := by
  rw [NoOverlap, resolvedServers_desk]
  simp [deskServer, endpointServer, DiscoveredServer.address]

theorem orderIndependent_attic :
    OrderIndependent [.resolved (some deskInfo), .endpoint atticEndpoint] ∧
      KeepsDevices [.resolved (some deskInfo), .endpoint atticEndpoint] := by
  have hnodup : ((resolvedServers [.resolved (some deskInfo),
      .endpoint atticEndpoint]).map DiscoveredServer.address).Nodup := by
    rw [resolvedServers_desk]
    exact List.nodup_singleton _
  have hiff := orderIndependent_iff hnodup
  have hoverlap := (noOverlap_desk_iff atticEndpoint).2 fun h => absurd h (by decide)
  exact ⟨hiff.1.2 hoverlap, hiff.2.2 hoverlap⟩

/-- The last-known endpoint of a resolved server hides its devices. -/
theorem not_orderIndependent_desk :
    ¬ OrderIndependent [.resolved (some deskInfo), .endpoint deskEndpoint] ∧
      ¬ KeepsDevices [.resolved (some deskInfo), .endpoint deskEndpoint] := by
  have hne : [keyboardEntry, mouseEntry].map remoteDevice ≠ [] := by simp
  have hlisted : parseListed (deskInfo.prop "devices") =
      [keyboardEntry, mouseEntry].map remoteDevice := by
    rw [prop_deskInfo, parseListed_encodeDevicesTxt (List.cons_ne_nil _ _) plainBusid_desk]
  have hoverlap : ¬ NoOverlap [.resolved (some deskInfo), .endpoint deskEndpoint] := by
    rw [noOverlap_desk_iff, parseDevices_of_listed hne hlisted]
    intro h
    simpa using congrArg List.length (h rfl rfl)
  exact ⟨mt noOverlap_of_orderIndependent hoverlap, mt noOverlap_of_keepsDevices hoverlap⟩

end Android

end AnyPlug
