import AnyPlug.Core.Crypto
import AnyPlug.Server.UrbLoop

/-!
# The two wires

`Wire` of `usbip-server/src/crypto_stream.rs`. On the plain wire messages delimit themselves, and
where one write ends and the next begins cannot be seen. On the encrypted wire every write is one
message of its own.

The URB loop hands whole batches of replies to its wire. So a peer that reads both wires gets the
same messages, one to a reply, only when every batch is a single reply (`received_eq_iff`).
-/

namespace AnyPlug

/-- The largest message of the protocol. -/
def maxMessageSize : ℕ := 1048576

/-- Maximum ciphertext size for a single encrypted message. -/
def encryptedMax : ℕ := maxMessageSize + 20 + 4

namespace CryptoStream

variable {key : Aead}

/-- Encrypt a message, with the nonce that was drawn for it, and put its length before it. -/
def writeMessage (key : Aead) (nonce : Nonce) (plaintext : Bytes) : Bytes :=
  let ct := encryptWithNonce key plaintext nonce
  FixedCodec.u32be.encode (UInt32.ofNat ct.length) ++ ct

/-- Read one message from the encrypted stream. -/
def readMessage (key : Aead) (stream : Bytes) : UsbIpResult (Bytes × Bytes) := do
  let (buf, stream) ← readExact 4 stream
  let (len, _) ← okOr (FixedCodec.u32be.decode buf) (.io .unexpectedEof)
  if len = 0 ∨ encryptedMax < len.toNat then
    .error (.encryption s!"invalid encrypted frame length: {len}")
  else
    let (ct, stream) ← readExact len.toNat stream
    let plaintext ← mapCryptoErr (decryptInPlace key ct)
    return (plaintext, stream)

theorem shrinking_readMessage : Shrinking (readMessage key) := by
  intro s f rest h
  unfold readMessage at h
  rw [bind_eq_ok] at h
  obtain ⟨⟨buf, s₁⟩, h₁, h⟩ := h
  rw [bind_eq_ok] at h
  obtain ⟨⟨len, s₂⟩, -, h⟩ := h
  obtain ⟨hbuf, rfl⟩ := readExact_eq_ok.1 h₁
  dsimp only at h
  split at h
  · cases h
  · rw [bind_eq_ok] at h
    obtain ⟨⟨ct, s₃⟩, h₃, h⟩ := h
    rw [bind_eq_ok] at h
    obtain ⟨plaintext, -, h⟩ := h
    obtain ⟨-, hs₃⟩ := readExact_eq_ok.1 h₃
    obtain ⟨rfl, rfl⟩ := Prod.mk.inj (Except.ok.inj h)
    have := congrArg List.length hs₃
    simp only [List.length_append] at this ⊢
    omega

/-- **A message that is not too long is read as it was written.** -/
theorem readMessage_writeMessage_append (hk : key.Lawful) (nonce : Nonce) {plaintext : Bytes}
    (hlen : plaintext.length + 32 ≤ encryptedMax) (rest : Bytes) :
    readMessage key (writeMessage key nonce plaintext ++ rest) = .ok (plaintext, rest) := by
  have hct := length_encryptWithNonce hk plaintext nonce
  have hnat : (UInt32.ofNat (encryptWithNonce key plaintext nonce).length).toNat =
      plaintext.length + 32 := by
    rw [UInt32.toNat_ofNat', Nat.mod_eq_of_lt, hct]
    rw [hct]
    exact lt_of_le_of_lt hlen (by decide)
  have hvalid : ¬(UInt32.ofNat (encryptWithNonce key plaintext nonce).length = 0 ∨
      encryptedMax < (UInt32.ofNat (encryptWithNonce key plaintext nonce).length).toNat) := by
    rw [← UInt32.toNat_inj, hnat, UInt32.toNat_zero]
    omega
  have hprefix : (FixedCodec.u32be.encode
      (UInt32.ofNat (encryptWithNonce key plaintext nonce).length)).length = 4 :=
    FixedCodec.u32be.length_encode _
  rw [writeMessage, List.append_assoc, readMessage, readExact_append hprefix]
  rw [ok_bind]
  dsimp only
  rw [FixedCodec.decode_encode, okOr_some, ok_bind]
  dsimp only
  rw [if_neg hvalid, readExact_append (hct.trans hnat.symm), ok_bind]
  dsimp only
  rw [decryptInPlace_encryptWithNonce hk]
  rfl

end CryptoStream

/-! ## Wires -/

/-- A message-bearing stream that may be plain or encrypted. -/
inductive Wire
  | plain
  | encrypted (key : Aead)

namespace Wire

/-- Read one message. -/
def readMessage : Wire → Reader ErrorKind UInt8
  | .plain => AnyPlug.readMessage
  | .encrypted key => CryptoStream.readMessage key

/-- The bytes of one write. The nonce is only used by the encrypted wire. -/
def writeMessage : Wire → Nonce → Bytes → Bytes
  | .plain, _, m => m
  | .encrypted key, nonce, m => CryptoStream.writeMessage key nonce m

/-- The bytes of a list of writes, the `k`-th with the nonce `nonces k`. -/
def stream (w : Wire) (nonces : ℕ → Nonce) : List Bytes → Bytes
  | [] => []
  | m :: ms => w.writeMessage (nonces 0) m ++ w.stream (fun k => nonces (k + 1)) ms

/-- The messages a peer obtains from a list of writes, by reading until it fails. -/
def received (w : Wire) (nonces : ℕ → Nonce) (ms : List Bytes) : List Bytes :=
  drain w.readMessage (w.stream nonces ms)

theorem stream_plain (nonces : ℕ → Nonce) (ms : List Bytes) :
    plain.stream nonces ms = ms.flatten := by
  induction ms generalizing nonces with
  | nil => rfl
  | cons m ms ih => rw [stream, ih, List.flatten_cons, writeMessage]

/-- On the encrypted wire the messages are the writes. -/
theorem received_encrypted {key : Aead} (hk : key.Lawful) (nonces : ℕ → Nonce) {ms : List Bytes}
    (hlen : ∀ m ∈ ms, m.length + 32 ≤ encryptedMax) :
    (encrypted key).received nonces ms = ms := by
  induction ms generalizing nonces with
  | nil => rfl
  | cons m ms ih =>
    have hread := CryptoStream.readMessage_writeMessage_append hk (nonces 0) (hlen m (by simp))
      ((encrypted key).stream (fun k => nonces (k + 1)) ms)
    have hrest := ih (fun k => nonces (k + 1)) fun m' hm' => hlen m' (by simp [hm'])
    rw [received, stream]
    exact (drain_of_ok CryptoStream.shrinking_readMessage hread).trans (congrArg (m :: ·) hrest)

/-- On the plain wire the messages are as intended exactly when each of them is a frame. -/
theorem received_plain_eq_iff (nonces : ℕ → Nonce) {ms fs : List Bytes}
    (h : ms.flatten = fs.flatten) :
    plain.received nonces ms = fs ↔ ∀ f ∈ fs, IsFrame AnyPlug.readMessage f := by
  rw [received, stream_plain, h]
  constructor
  · intro hdrain f hf
    exact isFrame_of_mem_drain selfDelimiting_readMessage (hdrain.symm ▸ hf)
  · intro hframe
    exact drain_flatten selfDelimiting_readMessage.toConsuming hframe

end Wire

/-! ## The replies of the URB loop on the two wires -/

/-- No batch is too long for the encrypted wire. -/
theorem length_replies_le {us b : List CompletedUrb} (hb : b ∈ replyBatches us) :
    (replies b).length ≤ maxBatchCapacity := by
  refine forall_batchesFrom (Q := fun b => (replies b).length ≤ maxBatchCapacity) (by simp)
    (fun b u _ hj => ?_) us (by simp) b hb
  rw [replies_append, replies_singleton, List.length_append]
  exact hj.size

/-- The replies that are written, in order. -/
def writtenReplies (us : List CompletedUrb) : List Bytes :=
  (replyBatches us).flatten.map CompletedUrb.reply

/-- **The two wires carry the same messages, one to a reply**, exactly when every batch that is
written is a single reply, and that reply is one message for the reader. -/
theorem received_eq_iff_single {env : LoopEnv} (hw : ∀ n, env.writeMessage n = .ok ()) {key : Aead}
    (hk : key.Lawful) (nonces : ℕ → Nonce) (fs : List CmdSubmitFrame) :
    (Wire.plain.received nonces (handleUrbLoop env (fs.map CmdSubmitFrame.bytes)).state.written =
          writtenReplies (env.completed fs) ∧
        (Wire.encrypted key).received nonces
            (handleUrbLoop env (fs.map CmdSubmitFrame.bytes)).state.written =
          writtenReplies (env.completed fs)) ↔
      ∀ b ∈ replyBatches (env.completed fs),
        Single (fun u => IsFrame readMessage u.reply) b := by
  rw [written_handleUrbLoop hw]
  generalize env.completed fs = us
  have henc : (Wire.encrypted key).received nonces ((replyBatches us).map replies) =
      (replyBatches us).map replies := by
    refine Wire.received_encrypted hk nonces fun m hm => ?_
    obtain ⟨b, hb, rfl⟩ := List.mem_map.1 hm
    exact le_trans (Nat.add_le_add_right (length_replies_le hb) 32) (by decide)
  have hsingle := map_flatMap_eq_map_flatten_iff CompletedUrb.reply CompletedUrb.reply_ne_nil
    (replyBatches us)
  have hframes (heq : (replyBatches us).map replies = writtenReplies us) :=
    Wire.received_plain_eq_iff nonces (congrArg List.flatten heq)
  rw [henc]
  constructor
  · rintro ⟨hplain, heq⟩ b hb
    have hone := hsingle.1 heq b hb
    obtain ⟨u, rfl⟩ := List.length_eq_one_iff.1 hone
    refine single_singleton.2 ((hframes heq).1 hplain _ ?_)
    exact List.mem_map.2 ⟨u, List.mem_flatten.2 ⟨[u], hb, by simp⟩, rfl⟩
  · intro h
    have heq : (replyBatches us).map replies = writtenReplies us :=
      hsingle.2 fun b hb => (h b hb).length_eq
    refine ⟨(hframes heq).2 fun f hf => ?_, heq⟩
    obtain ⟨u, hu, rfl⟩ := List.mem_map.1 hf
    obtain ⟨b, hb, hub⟩ := List.mem_flatten.1 hu
    obtain ⟨v, rfl, hv⟩ := h b hb
    obtain rfl : u = v := by simpa using hub
    exact hv

/-- **The two wires carry the same messages, one to a reply**, exactly when the URBs alternate:
every other reply fits a batch and is as long as its record announces, and the reply after it is
refused by the batch of that one. -/
theorem received_eq_iff (env : LoopEnv) (hw : ∀ n, env.writeMessage n = .ok ()) (key : Aead)
    (hk : key.Lawful) (nonces : ℕ → Nonce) (fs : List CmdSubmitFrame) :
    (Wire.plain.received nonces (handleUrbLoop env (fs.map CmdSubmitFrame.bytes)).state.written =
          writtenReplies (env.completed fs) ∧
        (Wire.encrypted key).received nonces
            (handleUrbLoop env (fs.map CmdSubmitFrame.bytes)).state.written =
          writtenReplies (env.completed fs)) ↔
      ∀ k (hk : k < (env.completed fs).length),
        if k % 2 = 0 then
          Joins [] (env.completed fs)[k] ∧
            (env.completed fs)[k].result.data.length =
              announcedLength (env.completed fs)[k].cmd (env.completed fs)[k].result.status
                (env.completed fs)[k].result.actualLength
        else ¬Joins [(env.completed fs)[k - 1]] (env.completed fs)[k] := by
  rw [received_eq_iff_single hw hk, replyBatches, forall_single_batches_iff (by decide)]
  simp only [CompletedUrb.reply, UrbResult.reply, isFrame_serializeReply_iff]

/-- The reply to a single poll is the same message on both wires. -/
theorem received_one_poll :
    Wire.plain.received (fun _ => Vector.replicate 12 0)
        (handleUrbLoop idleEnv ([pollFrame 1].map CmdSubmitFrame.bytes)).state.written =
          writtenReplies (idleEnv.completed [pollFrame 1]) ∧
      (Wire.encrypted nullAead).received (fun _ => Vector.replicate 12 0)
          (handleUrbLoop idleEnv ([pollFrame 1].map CmdSubmitFrame.bytes)).state.written =
        writtenReplies (idleEnv.completed [pollFrame 1]) :=
  (received_eq_iff idleEnv (fun _ => rfl) nullAead lawful_nullAead _ [pollFrame 1]).2
    (by decide +kernel)

/-- The replies to two polls in sequence are two messages on the plain wire and one on the
encrypted wire. -/
theorem received_two_polls_ne :
    Wire.plain.received (fun _ => Vector.replicate 12 0)
        (handleUrbLoop idleEnv
          ([pollFrame 1, pollFrame 2].map CmdSubmitFrame.bytes)).state.written ≠
      (Wire.encrypted nullAead).received (fun _ => Vector.replicate 12 0)
        (handleUrbLoop idleEnv
          ([pollFrame 1, pollFrame 2].map CmdSubmitFrame.bytes)).state.written := by
  rw [written_handleUrbLoop fun _ => rfl, Wire.received_encrypted lawful_nullAead _ (by
    decide +kernel)]
  intro h
  have hlen := congrArg List.length h
  exact absurd hlen (by decide +kernel)

end AnyPlug
