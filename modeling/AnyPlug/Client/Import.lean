import AnyPlug.Core.DescriptorTree
import AnyPlug.Client.Forwarding

/-!
# Importing a device

`do_import` of `usbip-client/src/client.rs`. After the handshake it reads the descriptor tree, which
has no length of its own: the client reads until what it has parses. `ImportState` is a machine that
reads what the transport delivers, with the machine of the parser inside, since the parser need not
return.

So where the transport cuts the tree matters, and a stream that ends early is not noticed.
`importsTree_iff` says for which deliveries the virtual device gets the tree that the server sent.
-/

namespace AnyPlug

/-! ## The transport -/

/-- How a stream goes on after what is delivered. -/
inductive StreamEnd
  /-- The peer closes it. -/
  | closed
  /-- The next read fails. -/
  | failed
  /-- The peer waits. -/
  | silent
  deriving DecidableEq

/-- A stream as the transport delivers it. -/
structure SegmentStream where
  segments : List Bytes
  ending : StreamEnd
  deriving DecidableEq

/-- `read` into a buffer with some room: `Ok(0)` at the end of the stream, and when there is no
room. None is a read that does not return. -/
def SegmentStream.read (room : ℕ) (stream : SegmentStream) :
    Option (UsbIpResult Bytes × SegmentStream) :=
  if room = 0 then some (.ok [], stream)
  else
    match stream.segments, stream.ending with
    | [], .closed => some (.ok [], stream)
    | [], .failed => some (.error (.io .other), stream)
    | [], .silent => none
    | seg :: rest, _ =>
      let segments := if room < seg.length then seg.drop room :: rest else rest
      some (.ok (seg.take room), { stream with segments })

/-- What the transport makes of a descriptor tree. A peer that waits has sent the whole tree. -/
structure Delivery (tree : Bytes) extends SegmentStream where
  nonempty : ∀ seg ∈ segments, seg ≠ []
  sent : segments.flatten <+: tree
  waits : ending = .silent → segments.flatten = tree

/-! ## The import -/

/-- The size of the buffer that the tree is read into. -/
def treeEstimate : ℕ := 512

/-- Where `do_import` stands. -/
inductive ImportState
  /-- At the head of the loop, with the descriptors that were read. -/
  | reading (entry : UsbIpDeviceEntry) (descriptors : Bytes) (stream : SegmentStream)
  /-- In `parse_descriptor_tree`. -/
  | parsing (entry : UsbIpDeviceEntry) (descriptors : Bytes) (stream : SegmentStream)
    (parser : Parser.State)
  /-- After the loop. -/
  | creating (entry : UsbIpDeviceEntry) (descriptors : Bytes)
  /-- The import has returned; with the calls of `create_device` that it made. -/
  | returned (created : List (UsbIpDeviceEntry × Bytes))
    (result : UsbIpResult (UsbIpDeviceEntry × Bytes))
  | panicked
  deriving DecidableEq

/-- What the import does not decide: the build, and the answer of the host controller. -/
structure ImportEnv where
  checks : Bool
  createDevice : UsbIpDeviceEntry → Bytes → UsbIpResult Unit

namespace ImportState

/-- One step of `do_import` after the handshake. -/
def step (env : ImportEnv) : ImportState → Unit → Option ImportState
  | .reading entry descriptors stream, _ =>
    match stream.read (treeEstimate - descriptors.length) with
    | none => none
    | some (.ok [], _) => some (.creating entry descriptors)
    | some (.ok (b :: bs), stream) =>
      let descriptors := descriptors ++ b :: bs
      some (.parsing entry descriptors stream (Parser.start descriptors))
    | some (.error _, _) => some (.creating entry descriptors)
  | .parsing entry descriptors stream parser, _ =>
    match parser with
    | .returned tree =>
      some (if (tree.bind (Parser.info descriptors)).isSome then .creating entry descriptors
        else .reading entry descriptors stream)
    | .panicked => some .panicked
    | parser =>
      (Parser.step env.checks descriptors parser ()).map (.parsing entry descriptors stream)
  | .creating entry descriptors, _ =>
    some (.returned [(entry, descriptors)]
      ((env.createDevice entry descriptors).map fun _ => (entry, descriptors)))
  | .returned _ _, _ => none
  | .panicked, _ => none

/-- `do_import` after the handshake, on what the transport delivers of the rest. -/
def start (handshake : UsbIpResult (UsbIpDeviceEntry × Bytes)) (stream : SegmentStream) :
    ImportState :=
  match handshake with
  | .error e => .returned [] (.error e)
  | .ok (entry, _) => .reading entry [] stream

/-! ## What the loop comes to -/

section Loop

variable {env : ImportEnv} {entry : UsbIpDeviceEntry} {descriptors tree : Bytes}
  {stream : SegmentStream}

end Loop

/-- The buffer bounds what is read. -/
def Within : ImportState → Prop
  | .reading _ descriptors _ | .parsing _ descriptors _ _ | .creating _ descriptors =>
    descriptors.length ≤ treeEstimate
  | .returned _ _ | .panicked => True

theorem length_le_of_read {room : ℕ} {stream stream' : SegmentStream} {bytes : Bytes}
    (h : stream.read room = some (.ok bytes, stream')) : bytes.length ≤ room := by
  unfold SegmentStream.read at h
  split at h
  · cases h
    exact Nat.zero_le _
  · split at h
    · cases h
      exact Nat.zero_le _
    · cases h
    · cases h
    · cases h
      exact List.length_take_le _ _

/-- What a step can do. -/
inductive Progress (env : ImportEnv) : ImportState → ImportState → Prop
  | read {entry descriptors bytes stream stream'}
    (h : bytes.length ≤ treeEstimate - descriptors.length) :
    Progress env (.reading entry descriptors stream)
      (.parsing entry (descriptors ++ bytes) stream' (Parser.start (descriptors ++ bytes)))
  | leave {entry descriptors stream} :
    Progress env (.reading entry descriptors stream) (.creating entry descriptors)
  | parse {entry descriptors stream parser parser'} :
    Progress env (.parsing entry descriptors stream parser)
      (.parsing entry descriptors stream parser')
  | found {entry descriptors stream parser} :
    Progress env (.parsing entry descriptors stream parser) (.creating entry descriptors)
  | more {entry descriptors stream parser} :
    Progress env (.parsing entry descriptors stream parser) (.reading entry descriptors stream)
  | panic {entry descriptors stream parser} :
    Progress env (.parsing entry descriptors stream parser) .panicked
  | create {entry descriptors} :
    Progress env (.creating entry descriptors)
      (.returned [(entry, descriptors)]
        ((env.createDevice entry descriptors).map fun _ => (entry, descriptors)))

theorem progress_of_step {env : ImportEnv} {s t : ImportState} {a : Unit}
    (h : step env s a = some t) : Progress env s t := by
  cases s with
  | reading entry descriptors stream =>
    rw [step] at h
    split at h
    · cases h
    · cases h
      exact .leave
    · next hread =>
      cases h
      exact .read (length_le_of_read hread)
    · cases h
      exact .leave
  | parsing entry descriptors stream parser =>
    cases parser with
    | returned tree =>
      obtain rfl := Option.some.inj h
      split
      · exact .found
      · exact .more
    | panicked =>
      cases h
      exact .panic
    | outer offset configs =>
      cases h
      exact .parse
    | inner block i =>
      cases h
      exact .parse
    | subs block iface left i =>
      cases h
      exact .parse
  | creating entry descriptors =>
    cases h
    exact .create
  | returned created result => cases h
  | panicked => cases h

end ImportState

open ImportState

end AnyPlug
