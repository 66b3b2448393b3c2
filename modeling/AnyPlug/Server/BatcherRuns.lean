import AnyPlug.Server.Batcher

/-!
# The batcher in any order of calls

The URB loop flushes whenever `push` tells it to. Here the calls of `UrbBatcher` come in any order,
with any maximum and any timeout, at any readings of the clock, and the URBs whose replies were
appended are written down beside the batcher. `represents_history` says what the batcher holds then:
the replies to the last `count` of them.
-/

namespace AnyPlug

namespace UrbBatcher

/-- A batcher with custom max batch size and timeout. -/
def withConfig (maxBatch timeout : ℕ) : UrbBatcher := ⟨[], maxBatch, timeout, none, none, 0⟩

theorem withConfig_default : withConfig defaultBatchSize defaultBatchTimeout = new := rfl

/-- The push of a completed URB. -/
def pushUrb (bt : UrbBatcher) (u : CompletedUrb) : Bool × UrbBatcher :=
  bt.push u.cmd u.result u.now

/-- The push appends the reply to the buffer. -/
def Appends (bt : UrbBatcher) (u : CompletedUrb) : Prop :=
  (bt.pushUrb u).2.buffer = bt.buffer ++ u.reply

instance (bt : UrbBatcher) (u : CompletedUrb) : Decidable (bt.Appends u) :=
  inferInstanceAs (Decidable (_ = _))

/-- The batch has room for the URB, which is the successor of the last one unless it starts a
batch. -/
structure Accepts (bt : UrbBatcher) (u : CompletedUrb) : Prop where
  seqnum : bt.buffer ≠ [] → ∀ last ∈ bt.lastSeqnum, u.cmd.seqnum = last + 1
  count : bt.buffer ≠ [] → bt.count < bt.maxBatch
  size : (bt.buffer ++ u.reply).length ≤ maxBatchCapacity

/-- **What one push does**: it refuses the reply and changes nothing, or appends it. -/
theorem pushUrb_cases (bt : UrbBatcher) (u : CompletedUrb) :
    bt.pushUrb u = (true, bt) ∨
      bt.Accepts u ∧ bt.pushUrb u = (decide (bt.maxBatch ≤ bt.count + 1),
        { bt with
          buffer := bt.buffer ++ u.reply
          count := bt.count + 1
          lastSeqnum := some u.cmd.seqnum
          batchStart := some (bt.batchStart.getD u.now) }) := by
  unfold pushUrb push
  split
  · exact .inl rfl
  · next hseq =>
    split
    · exact .inl rfl
    · next hfull =>
      split
      · exact .inl rfl
      · dsimp only
        split
        · exact .inl rfl
        · next hsize =>
          refine .inr ⟨⟨?_, ?_, ?_⟩, rfl⟩
          · intro hne last hlast
            rw [Option.mem_def] at hlast
            simpa [nonSequential, hlast, hne] using hseq
          · intro hne
            simpa [full, hne] using hfull
          · rw [List.length_append]
            exact not_lt.1 hsize

theorem appends_iff {bt : UrbBatcher} {u : CompletedUrb} :
    bt.Appends u ↔ (bt.pushUrb u).2 ≠ bt := by
  have hne : bt.buffer ++ u.reply ≠ bt.buffer := by
    simpa using u.reply_ne_nil
  obtain h | ⟨-, h⟩ := bt.pushUrb_cases u
  · rw [Appends, h]
    exact iff_of_false hne.symm (not_not.2 rfl)
  · rw [Appends, h]
    exact iff_of_true rfl fun heq => hne (congrArg UrbBatcher.buffer heq)

/-! ## Runs -/

/-- The calls of a batcher. -/
inductive Call
  | push (u : CompletedUrb)
  | flush

/-- A batcher, and the URBs whose replies were appended, the last one at the end. -/
structure History where
  batcher : UrbBatcher
  accepted : List CompletedUrb

def History.call (h : History) : Call → History
  | .push u =>
    ⟨(h.batcher.pushUrb u).2, if h.batcher.Appends u then h.accepted ++ [u] else h.accepted⟩
  | .flush => ⟨h.batcher.flush.2, h.accepted⟩

/-- The calls from a new batcher on. -/
def history (maxBatch timeout : ℕ) (calls : List Call) : History :=
  calls.foldl History.call ⟨withConfig maxBatch timeout, []⟩

/-- The URBs whose replies are in the batch. -/
def History.batch (h : History) : List CompletedUrb := h.accepted.rtake h.batcher.count

/-- One URB is the successor of another one. -/
def Successor (u v : CompletedUrb) : Prop := v.cmd.seqnum = u.cmd.seqnum + 1

/-- The batcher holds the replies to the last `count` URBs that were accepted. -/
structure History.Represents (h : History) (maxBatch : ℕ) : Prop where
  buffer : h.batcher.buffer = replies h.batch
  length_batch : h.batch.length = h.batcher.count
  consecutive : h.batch.IsChain Successor
  count_le : h.batcher.count ≤ max maxBatch 1
  length_buffer_le : h.batcher.buffer.length ≤ maxBatchCapacity
  batchStart_eq_none : h.batcher.batchStart = none ↔ h.batcher.count = 0
  buffer_eq_nil : h.batcher.buffer = [] ↔ h.batcher.count = 0

/-- What a push reports. -/
structure Reports (bt : UrbBatcher) (u : CompletedUrb) : Prop where
  appended : (bt.pushUrb u).1 = false → bt.Appends u
  refused : ¬bt.Appends u → bt.pushUrb u = (true, bt)

theorem reports (bt : UrbBatcher) (u : CompletedUrb) : bt.Reports u := by
  obtain h | ⟨-, h⟩ := bt.pushUrb_cases u
  · refine ⟨fun hfalse => ?_, fun _ => h⟩
    rw [h] at hfalse
    cases hfalse
  · have happ : bt.Appends u := by rw [Appends, h]
    exact ⟨fun _ => happ, fun hnot => absurd happ hnot⟩

/-- The fields that the pushes to come look at. -/
structure History.Inv (h : History) (maxBatch : ℕ) : Prop extends h.Represents maxBatch where
  maxBatch_eq : h.batcher.maxBatch = maxBatch
  lastSeqnum : ∀ last ∈ h.batch.getLast?, h.batcher.lastSeqnum = some last.cmd.seqnum

theorem inv_new (maxBatch timeout : ℕ) :
    History.Inv ⟨withConfig maxBatch timeout, []⟩ maxBatch where
  buffer := rfl
  length_batch := rfl
  consecutive := .nil
  count_le := Nat.zero_le _
  length_buffer_le := Nat.zero_le _
  batchStart_eq_none := iff_of_true rfl rfl
  buffer_eq_nil := iff_of_true rfl rfl
  maxBatch_eq := rfl
  lastSeqnum := by rintro last ⟨⟩

/-- A flush empties the batch. -/
theorem History.Inv.flush {h : History} {maxBatch : ℕ} (hs : h.Inv maxBatch) :
    (h.call .flush).Inv maxBatch := by
  have hbatch : (h.call .flush).batch = [] := List.rtake_zero _
  exact
    { buffer := by rw [hbatch]; rfl
      length_batch := by rw [hbatch]; rfl
      consecutive := by rw [hbatch]; exact .nil
      count_le := Nat.zero_le _
      length_buffer_le := Nat.zero_le _
      batchStart_eq_none := iff_of_true rfl rfl
      buffer_eq_nil := iff_of_true rfl rfl
      maxBatch_eq := hs.maxBatch_eq
      lastSeqnum := by
        rw [hbatch]
        rintro last ⟨⟩ }

/-- An accepted reply comes after those in the batch. -/
theorem History.Inv.append {h : History} {maxBatch : ℕ} (hs : h.Inv maxBatch) {u : CompletedUrb}
    (hu : h.batcher.Accepts u) :
    History.Inv
      ⟨{ h.batcher with
        buffer := h.batcher.buffer ++ u.reply
        count := h.batcher.count + 1
        lastSeqnum := some u.cmd.seqnum
        batchStart := some (h.batcher.batchStart.getD u.now) }, h.accepted ++ [u]⟩ maxBatch := by
  have hbatch : (h.accepted ++ [u]).rtake (h.batcher.count + 1) = h.batch ++ [u] :=
    List.rtake_concat_succ ..
  refine ⟨⟨?_, ?_, ?_, ?_, hu.size, ?_, ?_⟩, hs.maxBatch_eq, ?_⟩
  · rw [History.batch, hbatch, replies_append, replies_singleton, ← hs.buffer]
  · rw [History.batch, hbatch, List.length_append, List.length_singleton, hs.length_batch]
  · rw [History.batch, hbatch]
    refine List.isChain_append.2 ⟨hs.consecutive, .singleton u, ?_⟩
    rintro last hlast v hv
    obtain rfl : u = v := by simpa using hv
    have hne : h.batcher.buffer ≠ [] := by
      intro hnil
      have hcount := hs.length_batch.trans (hs.buffer_eq_nil.1 hnil)
      rw [List.length_eq_zero_iff.1 hcount] at hlast
      cases hlast
    exact hu.seqnum hne _ (hs.lastSeqnum last hlast)
  · show h.batcher.count + 1 ≤ max maxBatch 1
    by_cases hnil : h.batcher.buffer = []
    · rw [hs.buffer_eq_nil.1 hnil]
      exact le_max_right _ _
    · have hlt := hu.count hnil
      rw [hs.maxBatch_eq] at hlt
      exact le_max_of_le_left hlt
  · exact iff_of_false (Option.some_ne_none _) (Nat.succ_ne_zero _)
  · refine iff_of_false ?_ (Nat.succ_ne_zero _)
    simp [u.reply_ne_nil]
  · intro last hlast
    rw [History.batch, hbatch, List.getLast?_append] at hlast
    obtain rfl : u = last := by simpa using hlast
    rfl

theorem History.Inv.call {h : History} {maxBatch : ℕ} (hs : h.Inv maxBatch) (c : Call) :
    (h.call c).Inv maxBatch := by
  cases c with
  | flush => exact hs.flush
  | push u =>
    obtain hpush | ⟨hu, hpush⟩ := h.batcher.pushUrb_cases u
    · have hnot : ¬h.batcher.Appends u := by rw [appends_iff, hpush]; exact not_not.2 rfl
      rw [History.call, if_neg hnot, hpush]
      exact hs
    · have happ : h.batcher.Appends u := by rw [Appends, hpush]
      rw [History.call, if_pos happ, hpush]
      exact hs.append hu

theorem inv_history (maxBatch timeout : ℕ) (calls : List Call) :
    (history maxBatch timeout calls).Inv maxBatch := by
  unfold history
  generalize hstart : (⟨withConfig maxBatch timeout, []⟩ : History) = h
  have hs : h.Inv maxBatch := by
    rw [← hstart]
    exact inv_new maxBatch timeout
  clear hstart
  induction calls generalizing h with
  | nil => exact hs
  | cons c calls ih => exact ih _ (hs.call c)

/-- **The batcher holds the replies to the URBs it accepted last**, after any calls in any order,
and what a push reports tells whether the reply was appended. -/
theorem represents_history (maxBatch timeout : ℕ) (calls : List Call) :
    (history maxBatch timeout calls).Represents maxBatch ∧
      ∀ u, (history maxBatch timeout calls).batcher.Reports u :=
  ⟨(inv_history maxBatch timeout calls).toRepresents, fun u => reports _ u⟩

end UrbBatcher

end AnyPlug
