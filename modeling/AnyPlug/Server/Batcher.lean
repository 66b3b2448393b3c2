import AnyPlug.Foundations.Batching
import AnyPlug.Server.Usb

/-!
# The reply batcher

`UrbBatcher` of `usbip-server/src/batcher.rs` collects the replies to consecutive URBs, so that
they go out in one write. `push` tells its caller to flush in five cases. In one of them the reply
has just filled the batch; in the four others the reply was not added, and stays with the caller.

`Holds bt b` relates the batcher to the URBs whose replies it holds. `Joins b u` is the condition
under which the reply to `u` is added: `push_of_joins` and `push_of_not_joins` are what `push`
does in the two cases.

Times are in nanoseconds. `push` reads the clock once: to see how old the batch is when there is
one, and to start a batch when there is none.
-/

namespace AnyPlug

/-- Default maximum number of URBs per batch. -/
def defaultBatchSize : ℕ := 8

/-- Default maximum delay before flushing: 200 µs. -/
def defaultBatchTimeout : ℕ := 200000

/-- Maximum buffer capacity for a single batch: 64 KiB. -/
def maxBatchCapacity : ℕ := 64 * 1024

/-- Accumulates sequential URB replies for batched writes. -/
structure UrbBatcher where
  buffer : Bytes
  maxBatch : ℕ
  timeout : ℕ
  batchStart : Option ℕ
  lastSeqnum : Option UInt32
  count : ℕ
  deriving DecidableEq

namespace UrbBatcher

/-- A new batcher with default settings. -/
def new : UrbBatcher := ⟨[], defaultBatchSize, defaultBatchTimeout, none, none, 0⟩

/-- The batch holds replies and the URB is not the successor of the last one. -/
def nonSequential (bt : UrbBatcher) (seqnum : UInt32) : Bool :=
  match bt.lastSeqnum with
  | some last => seqnum != last + 1 && !bt.buffer.isEmpty
  | none => false

/-- The batch holds as many replies as it may. -/
def full (bt : UrbBatcher) : Bool := bt.maxBatch ≤ bt.count && !bt.buffer.isEmpty

/-- The batch holds replies and is older than the timeout. The elapsed time saturates at zero. -/
def expired (bt : UrbBatcher) (now : ℕ) : Bool :=
  match bt.batchStart with
  | some start => bt.timeout ≤ now - start && !bt.buffer.isEmpty
  | none => false

/-- Add a URB reply to the batch and return whether the batch should be flushed. -/
def push (bt : UrbBatcher) (cmd : UsbIpCmdSubmit) (result : UrbResult) (now : ℕ) :
    Bool × UrbBatcher :=
  if bt.nonSequential cmd.seqnum then (true, bt)
  else if bt.full then (true, bt)
  else if bt.expired now then (true, bt)
  else
    let reply := serializeReply cmd result.status result.actualLength result.data
    if maxBatchCapacity < bt.buffer.length + reply.length then (true, bt)
    else
      (bt.maxBatch ≤ bt.count + 1,
        { bt with
          buffer := bt.buffer ++ reply
          count := bt.count + 1
          lastSeqnum := some cmd.seqnum
          batchStart := some (bt.batchStart.getD now) })

/-- Whether the batch has timed out and should be flushed. -/
def shouldTimeout (bt : UrbBatcher) (now : ℕ) : Bool := bt.expired now

/-- Take the accumulated bytes out of the batch. The last sequence number stays. -/
def flush (bt : UrbBatcher) : Bytes × UrbBatcher :=
  (bt.buffer, { bt with buffer := [], batchStart := none, count := 0 })

/-- Whether the batch is empty. -/
def isEmpty (bt : UrbBatcher) : Bool := bt.count = 0

end UrbBatcher

/-! ## The replies a batcher holds -/

/-- A URB with its result, and the clock reading when its reply is pushed. -/
structure CompletedUrb where
  cmd : UsbIpCmdSubmit
  result : UrbResult
  now : ℕ
  deriving DecidableEq

/-- The reply to a completed URB. -/
def CompletedUrb.reply (u : CompletedUrb) : Bytes := u.result.reply u.cmd

theorem CompletedUrb.reply_ne_nil (u : CompletedUrb) : u.reply ≠ [] :=
  serializeReply_ne_nil _ _ _ _

/-- The replies to a list of URBs, one after the other. -/
def replies (us : List CompletedUrb) : Bytes := us.flatMap CompletedUrb.reply

@[simp] theorem replies_nil : replies [] = [] := rfl

@[simp] theorem replies_append (us vs : List CompletedUrb) :
    replies (us ++ vs) = replies us ++ replies vs :=
  List.flatMap_append

@[simp] theorem replies_singleton (u : CompletedUrb) : replies [u] = u.reply :=
  List.flatMap_singleton ..

theorem replies_flatten (bs : List (List CompletedUrb)) :
    replies bs.flatten = (bs.map replies).flatten := by
  induction bs with
  | nil => rfl
  | cons b bs ih => rw [List.flatten_cons, replies_append, ih, List.map_cons, List.flatten_cons]

@[simp] theorem isEmpty_replies (us : List CompletedUrb) : (replies us).isEmpty = us.isEmpty := by
  cases us with
  | nil => rfl
  | cons u us => simp [replies, u.reply_ne_nil]

/-- The reply to `u` may join the batch of the replies to `b`: it is the successor of the last
one, the first one is not too old, and the buffer stays within its capacity. -/
structure Joins (b : List CompletedUrb) (u : CompletedUrb) : Prop where
  seqnum : ∀ last ∈ b.getLast?, u.cmd.seqnum = last.cmd.seqnum + 1
  time : ∀ first ∈ b.head?, u.now - first.now < defaultBatchTimeout
  size : (replies b).length + u.reply.length ≤ maxBatchCapacity

instance (b : List CompletedUrb) (u : CompletedUrb) : Decidable (Joins b u) :=
  decidable_of_iff
    ((∀ last ∈ b.getLast?, u.cmd.seqnum = last.cmd.seqnum + 1) ∧
      (∀ first ∈ b.head?, u.now - first.now < defaultBatchTimeout) ∧
      (replies b).length + u.reply.length ≤ maxBatchCapacity)
    ⟨fun h => ⟨h.1, h.2.1, h.2.2⟩, fun h => ⟨h.seqnum, h.time, h.size⟩⟩

/-- The batcher holds the replies to the URBs `b`, fewer than fill a batch. -/
structure Holds (bt : UrbBatcher) (b : List CompletedUrb) : Prop where
  buffer : bt.buffer = replies b
  count : bt.count = b.length
  batchStart : bt.batchStart = b.head?.map CompletedUrb.now
  lastSeqnum : ∀ last ∈ b.getLast?, bt.lastSeqnum = some last.cmd.seqnum
  maxBatch : bt.maxBatch = defaultBatchSize
  timeout : bt.timeout = defaultBatchTimeout
  length_lt : b.length < defaultBatchSize

theorem holds_new : Holds .new [] :=
  ⟨rfl, rfl, rfl, by simp, rfl, rfl, by decide⟩

namespace Holds

variable {bt : UrbBatcher} {b : List CompletedUrb}

theorem isEmpty (h : Holds bt b) : bt.isEmpty = b.isEmpty := by
  cases b with
  | nil => simp [UrbBatcher.isEmpty, h.count]
  | cons u b => simp [UrbBatcher.isEmpty, h.count]

theorem not_full (h : Holds bt b) : bt.full = false := by
  have := h.length_lt
  simp only [UrbBatcher.full, h.maxBatch, h.count, Bool.and_eq_false_iff, decide_eq_false_iff_not]
  omega

theorem nonSequential (h : Holds bt b) (seqnum : UInt32) :
    bt.nonSequential seqnum = false ↔ ∀ last ∈ b.getLast?, seqnum = last.cmd.seqnum + 1 := by
  rcases List.eq_nil_or_concat b with rfl | ⟨b, last, rfl⟩
  · simp only [UrbBatcher.nonSequential, h.buffer, isEmpty_replies]
    cases bt.lastSeqnum <;> simp
  · have hl := h.lastSeqnum last (by simp)
    have hne := last.reply_ne_nil
    simp [UrbBatcher.nonSequential, hl, h.buffer, hne]

theorem expired (h : Holds bt b) (now : ℕ) :
    bt.expired now = false ↔ ∀ first ∈ b.head?, now - first.now < defaultBatchTimeout := by
  cases b with
  | nil => simp [UrbBatcher.expired, h.batchStart]
  | cons first b => simp [UrbBatcher.expired, h.batchStart, h.buffer, h.timeout]

/-- **A reply that may join is added**, and closes the batch when it fills it. -/
theorem push_of_joins (h : Holds bt b) {u : CompletedUrb} (hj : Joins b u) :
    bt.push u.cmd u.result u.now =
      (decide (defaultBatchSize ≤ b.length + 1),
        { bt with
          buffer := replies (b ++ [u])
          count := (b ++ [u]).length
          lastSeqnum := some u.cmd.seqnum
          batchStart := (b ++ [u]).head?.map CompletedUrb.now }) := by
  have hs := (h.nonSequential _).2 hj.seqnum
  have ht := (h.expired _).2 hj.time
  have hc : ¬maxBatchCapacity < (replies b).length +
      (serializeReply u.cmd u.result.status u.result.actualLength u.result.data).length :=
    not_lt.2 hj.size
  have hstart : some (bt.batchStart.getD u.now) = (b ++ [u]).head?.map CompletedUrb.now := by
    rw [h.batchStart]
    cases b <;> rfl
  simp only [UrbBatcher.push, hs, h.not_full, ht, Bool.false_eq_true, if_false, hc, h.maxBatch,
    h.count, h.buffer, hstart, replies_append, replies_singleton, List.length_append,
    List.length_singleton, CompletedUrb.reply, UrbResult.reply]

/-- **A reply that may not join is refused**: the caller is told to flush and nothing is added. -/
theorem push_of_not_joins (h : Holds bt b) {u : CompletedUrb} (hj : ¬Joins b u) :
    bt.push u.cmd u.result u.now = (true, bt) := by
  unfold UrbBatcher.push
  by_cases hs : bt.nonSequential u.cmd.seqnum = true
  · rw [if_pos hs]
  by_cases ht : bt.expired u.now = true
  · simp only [hs, ht, h.not_full, Bool.false_eq_true, if_false, if_true]
  have hc : maxBatchCapacity < bt.buffer.length +
      (serializeReply u.cmd u.result.status u.result.actualLength u.result.data).length := by
    by_contra hc
    refine hj ⟨(h.nonSequential _).1 (by simpa using hs), (h.expired _).1 (by simpa using ht), ?_⟩
    rw [← h.buffer]
    exact not_lt.1 hc
  simp only [hs, ht, h.not_full, Bool.false_eq_true, if_false, hc, if_true]

/-- The batcher after an added reply, as long as there is room for more. -/
theorem append (h : Holds bt b) {u : CompletedUrb} (hlen : b.length + 1 < defaultBatchSize) :
    Holds
      { bt with
        buffer := replies (b ++ [u])
        count := (b ++ [u]).length
        lastSeqnum := some u.cmd.seqnum
        batchStart := (b ++ [u]).head?.map CompletedUrb.now } (b ++ [u]) where
  buffer := rfl
  count := rfl
  batchStart := rfl
  lastSeqnum last hlast := by
    obtain rfl : u = last := by simpa using hlast
    rfl
  maxBatch := h.maxBatch
  timeout := h.timeout
  length_lt := by simpa using hlen

end Holds

/-- A flushed batcher is empty. -/
theorem holds_flush {bt : UrbBatcher} (hm : bt.maxBatch = defaultBatchSize)
    (ht : bt.timeout = defaultBatchTimeout) : Holds bt.flush.2 [] :=
  ⟨rfl, rfl, rfl, by simp, hm, ht, by decide⟩

end AnyPlug
