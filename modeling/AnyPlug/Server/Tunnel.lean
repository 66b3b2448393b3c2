import AnyPlug.Foundations.Transition
import AnyPlug.Server.CryptoStream

/-!
# The encrypted tunnel

What the encrypted wire of `usbip-server/src/crypto_stream.rs` does for a whole stream.

* `readN_stream_iff`: a stream of messages is read back exactly when each of them leaves room for
  the 32 bytes that encryption adds. The limit of the reader leaves room for 24 only, so the eight
  largest sizes the protocol admits do not get through.
* `authentic_and_inOrder`: two ends with one session key, and a network that delivers what it likes
  to either of them. With an ideal cipher nothing is received that was not written by one of the
  ends. A message carries neither a number nor a direction, so only a network that delivers the
  bytes of the other end in order makes the received messages a prefix of the written ones
  (`received_replayed`).
-/

namespace AnyPlug

namespace CryptoStream

variable {key : Aead}

/-- **What a successful read says**: a length that is within the limit, a ciphertext of that length
that decrypts, and the rest of the stream. -/
theorem readMessage_eq_ok {stream m rest : Bytes} (h : readMessage key stream = .ok (m, rest)) :
    ∃ ct : Bytes, ct.length ≤ encryptedMax ∧ decryptInPlace key ct = .ok m ∧
      FixedCodec.u32be.encode (UInt32.ofNat ct.length) ++ (ct ++ rest) = stream := by
  unfold readMessage at h
  rw [bind_eq_ok] at h
  obtain ⟨⟨buf, s₁⟩, h₁, h⟩ := h
  obtain ⟨hbuf, rfl⟩ := readExact_eq_ok.1 h₁
  obtain ⟨len, rfl⟩ := FixedCodec.u32be.exists_encode hbuf
  dsimp only at h
  rw [FixedCodec.decode_encode, okOr_some, ok_bind] at h
  dsimp only at h
  split at h
  · cases h
  · rename_i hlen
    rw [bind_eq_ok] at h
    obtain ⟨⟨ct, s₂⟩, h₂, h⟩ := h
    rw [bind_eq_ok] at h
    obtain ⟨plaintext, hdec, h⟩ := h
    obtain ⟨hct, rfl⟩ := readExact_eq_ok.1 h₂
    obtain ⟨rfl, rfl⟩ := Prod.mk.inj (Except.ok.inj h)
    refine ⟨ct, ?_, ?_, ?_⟩
    · rw [hct]
      exact not_lt.1 fun hlt => hlen (.inr hlt)
    · dsimp only at hdec
      cases hd : decryptInPlace key ct with
      | error e =>
        rw [hd] at hdec
        cases hdec
      | ok p =>
        rw [hd] at hdec
        exact congrArg _ (Except.ok.inj hdec)
    · rw [hct, UInt32.ofNat_toNat]

/-- The length that is written before a ciphertext is read as its length. -/
theorem toNat_ofNat_length {ct : Bytes} (h : ct.length < 2 ^ 32) :
    (UInt32.ofNat ct.length).toNat = ct.length := by
  rw [UInt32.toNat_ofNat', Nat.mod_eq_of_lt h]

/-- What is read off a stream that starts with the bytes of a write is the whole write. -/
theorem ciphertext_of_readMessage {nonce : Nonce} {plaintext stream rest m t : Bytes} {key' : Aead}
    (hlt : (encryptWithNonce key plaintext nonce).length < 2 ^ 32)
    (hstream : stream ++ t = writeMessage key nonce plaintext ++ rest)
    {left : Bytes} (h : readMessage key' stream = .ok (m, left)) :
    (encryptWithNonce key plaintext nonce).length ≤ encryptedMax ∧
      decryptInPlace key' (encryptWithNonce key plaintext nonce) = .ok m ∧
      writeMessage key nonce plaintext ++ left = stream := by
  obtain ⟨ct, hmax, hdec, rfl⟩ := readMessage_eq_ok h
  simp only [writeMessage, List.append_assoc] at hstream
  obtain ⟨hlen, hct⟩ := FixedCodec.encode_append_inj _ hstream
  -- the two ciphertexts have the same length, and one continues the other
  have hlen' : ct.length = (encryptWithNonce key plaintext nonce).length := by
    have h₁ := toNat_ofNat_length (lt_of_le_of_lt hmax (by decide))
    have h₂ := toNat_ofNat_length hlt
    rw [← h₁, ← h₂, hlen]
  obtain ⟨rfl, -⟩ := List.append_inj hct hlen'
  refine ⟨hmax, hdec, ?_⟩
  rw [writeMessage, List.append_assoc]

/-- A message that is too long is not read. -/
theorem length_le_of_readMessage (hk : key.Lawful) {nonce : Nonce} {plaintext rest m left : Bytes}
    (hlt : plaintext.length + 32 < 2 ^ 32)
    (h : readMessage key (writeMessage key nonce plaintext ++ rest) = .ok (m, left)) :
    plaintext.length + 32 ≤ encryptedMax := by
  rw [← length_encryptWithNonce hk plaintext nonce] at hlt ⊢
  exact (ciphertext_of_readMessage hlt (List.append_nil _) h).1

end CryptoStream

/-! ## A stream of messages -/

/-- **The tunnel carries a list of admissible messages exactly when each of them is at least eight
bytes below the maximum.** -/
theorem readN_stream_iff {key : Aead} (hk : key.Lawful) (nonces : ℕ → Nonce) (ms : List Bytes)
    (hms : ∀ m ∈ ms, m.length ≤ maxMessageSize) :
    (∀ suffix, readN (CryptoStream.readMessage key) ms.length
        ((Wire.encrypted key).stream nonces ms ++ suffix) = .ok (ms, suffix)) ↔
      ∀ m ∈ ms, m.length + 8 ≤ maxMessageSize := by
  induction ms generalizing nonces with
  | nil => simp [Wire.stream, readN]
  | cons m ms ih =>
    have hm : m.length ≤ 1048576 := hms m (by simp)
    have hrest := ih (fun k => nonces (k + 1)) fun m' hm' => hms m' (by simp [hm'])
    have hsize : m.length + 32 ≤ encryptedMax ↔ m.length + 8 ≤ maxMessageSize := by
      unfold encryptedMax
      omega
    have hcons (suffix : Bytes) : (Wire.encrypted key).stream nonces (m :: ms) ++ suffix =
        CryptoStream.writeMessage key (nonces 0) m ++
          ((Wire.encrypted key).stream (fun k => nonces (k + 1)) ms ++ suffix) :=
      List.append_assoc _ _ _
    rw [List.forall_mem_cons, ← hsize, ← hrest]
    constructor
    · intro h
      have hlen : m.length + 32 ≤ encryptedMax := by
        have h0 := h []
        rw [hcons, List.length_cons, readN, bind_eq_ok] at h0
        obtain ⟨⟨m', left⟩, hread, -⟩ := h0
        exact CryptoStream.length_le_of_readMessage hk (by omega) hread
      refine ⟨hlen, fun suffix => ?_⟩
      have hs := h suffix
      rw [hcons, List.length_cons, readN,
        CryptoStream.readMessage_writeMessage_append hk _ hlen, ok_bind, bind_eq_ok] at hs
      obtain ⟨⟨ms', left⟩, hread, hs⟩ := hs
      obtain ⟨hms', rfl⟩ := Prod.mk.inj (Except.ok.inj hs)
      rw [hread, (List.cons.inj hms').2]
    · rintro ⟨hlen, h⟩ suffix
      rw [hcons, List.length_cons, readN,
        CryptoStream.readMessage_writeMessage_append hk _ hlen, ok_bind]
      dsimp only
      rw [h suffix]
      rfl

/-- Two messages get through under different nonces, and what follows them is left. -/
theorem readN_stream_short :
    readN (CryptoStream.readMessage nullAead) 2
      ((Wire.encrypted nullAead).stream (fun k => Vector.replicate 12 (.ofNat k))
        [[1, 2, 3], [4]] ++ [5]) =
        .ok ([[1, 2, 3], [4]], [5]) :=
  (readN_stream_iff lawful_nullAead _ [[1, 2, 3], [4]] (by simp [maxMessageSize])).2
    (by simp [maxMessageSize]) [5]

/-- A message of the maximum size does not get through. -/
theorem readN_stream_longest_ne :
    readN (CryptoStream.readMessage nullAead) 1
        ((Wire.encrypted nullAead).stream (fun _ => Vector.replicate 12 0)
          [List.replicate maxMessageSize 0]) ≠
      .ok ([List.replicate maxMessageSize 0], []) := by
  intro h
  rw [readN, bind_eq_ok] at h
  obtain ⟨⟨m, left⟩, hread, -⟩ := h
  have hlen := CryptoStream.length_le_of_readMessage lawful_nullAead
    (by rw [List.length_replicate]; decide) hread
  rw [List.length_replicate] at hlen
  exact absurd hlen (by decide)

/-! ## Two ends and a network -/

/-- A cipher that opens only what was sealed. -/
def Aead.ideal (key : Aead) (sealed : List (Nonce × Bytes)) : Aead where
  sealAppendTag := key.sealAppendTag
  openInPlace nonce ciphertext :=
    if (nonce, ciphertext) ∈ sealed then key.openInPlace nonce ciphertext else none

/-- The two ends of a tunnel. -/
inductive End
  | server
  | client
  deriving DecidableEq

def End.other : End → End
  | .server => .client
  | .client => .server

/-- Two ends that share a session key. -/
structure Tunnel where
  /-- What an end has written: the nonces it drew and the messages. -/
  written : End → List (Nonce × Bytes)
  /-- The bytes that were delivered to an end, and those it has not read yet. -/
  delivered : End → Bytes
  inbox : End → Bytes
  /-- What the reads of an end returned. -/
  received : End → List Bytes
  /-- A read failed, and the end has left its loop. -/
  failed : End → Bool

namespace Tunnel

def init : Tunnel := ⟨fun _ => [], fun _ => [], fun _ => [], fun _ => [], fun _ => false⟩

/-- The messages an end has written. -/
def plaintexts (t : Tunnel) (e : End) : List Bytes := (t.written e).map Prod.snd

/-- The bytes of one write. -/
def frame (key : Aead) (w : Nonce × Bytes) : Bytes := CryptoStream.writeMessage key w.1 w.2

/-- The pairs that were sealed under the session key. -/
def sealed (key : Aead) (t : Tunnel) : List (Nonce × Bytes) :=
  (t.written .server ++ t.written .client).map fun w => (w.1, key.sealAppendTag w.1 w.2)

/-- The steps of the ends and of the network. -/
inductive Action
  | write (e : End) (nonce : Nonce) (plaintext : Bytes)
  | deliver (e : End) (bytes : Bytes)
  | read (e : End)

/-- One step. Whatever the network delivers can be read. -/
def step (key : Aead) (t : Tunnel) : Action → Option Tunnel
  | .write e nonce plaintext =>
    some { t with written := Function.update t.written e (t.written e ++ [(nonce, plaintext)]) }
  | .deliver e bytes =>
    some { t with
      delivered := Function.update t.delivered e (t.delivered e ++ bytes)
      inbox := Function.update t.inbox e (t.inbox e ++ bytes) }
  | .read e =>
    if t.failed e then none
    else
      match CryptoStream.readMessage (key.ideal (t.sealed key)) (t.inbox e) with
      | .ok (m, rest) =>
        some { t with
          inbox := Function.update t.inbox e rest
          received := Function.update t.received e (t.received e ++ [m]) }
      | .error _ => some { t with failed := Function.update t.failed e true }

/-- The network delivers whole frames that one of the ends has written. -/
def Frames (key : Aead) (t : Tunnel) : Action → Prop
  | .deliver _ bytes => ∃ e, bytes ∈ (t.written e).map (frame key)
  | _ => True

def framesTest (key : Aead) (t : Tunnel) : Action → Bool
  | .deliver _ bytes =>
    ((t.written .server ++ t.written .client).map (frame key)).contains bytes
  | _ => true

/-- The network delivers to `e` what the other end has written, in order, and the other end writes
messages whose length can be written in four bytes. -/
def InOrder (key : Aead) (e : End) (t : Tunnel) : Action → Prop
  | .deliver e' bytes =>
    e' = e → t.delivered e ++ bytes <+: ((t.written e.other).map (frame key)).flatten
  | .write e' _ plaintext => e' = e.other → plaintext.length + 32 < 2 ^ 32
  | .read _ => True

variable {key : Aead} {t u : Tunnel} {e : End}

/-! ### Nothing is forged -/

/-- A message that is read was sealed by one of the ends. -/
theorem exists_mem_plaintexts (hk : key.Lawful) {stream m rest : Bytes}
    (h : CryptoStream.readMessage (key.ideal (t.sealed key)) stream = .ok (m, rest)) :
    ∃ e, m ∈ t.plaintexts e := by
  obtain ⟨ct, -, hdec, -⟩ := CryptoStream.readMessage_eq_ok h
  obtain ⟨nonce, ciphertext, hopen, -⟩ := decryptInPlace_eq_ok hdec
  unfold Aead.ideal at hopen
  dsimp only at hopen
  split at hopen
  · rename_i hmem
    obtain ⟨⟨n, p⟩, hw, hseal⟩ := List.mem_map.1 hmem
    obtain ⟨rfl, rfl⟩ := Prod.mk.inj hseal
    rw [hk.openInPlace_seal] at hopen
    obtain rfl := Option.some.inj hopen
    rcases List.mem_append.1 hw with hw | hw
    · exact ⟨.server, List.mem_map.2 ⟨_, hw, rfl⟩⟩
    · exact ⟨.client, List.mem_map.2 ⟨_, hw, rfl⟩⟩
  · cases hopen

/-- Every message that was received was written by one of the ends. -/
def Authentic (t : Tunnel) : Prop := ∀ e, ∀ m ∈ t.received e, ∃ e', m ∈ t.plaintexts e'

theorem authentic_step (hk : key.Lawful) (t : Tunnel) (a : Action) (u : Tunnel)
    (h : t.Authentic) (hstep : t.step key a = some u) : u.Authentic := by
  cases a with
  | write e nonce plaintext =>
    obtain rfl := Option.some.inj hstep
    intro e' m hm
    obtain ⟨e'', hm'⟩ := h e' m hm
    refine ⟨e'', ?_⟩
    by_cases he : e'' = e
    · subst he
      simp only [plaintexts, Function.update_self, List.map_append, List.mem_append]
      exact .inl hm'
    · simpa [plaintexts, he] using hm'
  | deliver e bytes =>
    obtain rfl := Option.some.inj hstep
    exact h
  | read e =>
    simp only [step] at hstep
    split at hstep
    · cases hstep
    · split at hstep
      · rename_i m rest hread
        obtain rfl := Option.some.inj hstep
        intro e' m' hm'
        dsimp only at hm'
        by_cases he : e' = e
        · subst he
          rw [Function.update_self] at hm'
          rcases List.mem_append.1 hm' with hm' | hm'
          · exact h e' m' hm'
          · obtain rfl := List.mem_singleton.1 hm'
            exact exists_mem_plaintexts hk hread
        · rw [Function.update_of_ne he] at hm'
          exact h e' m' hm'
      · obtain rfl := Option.some.inj hstep
        exact h

/-! ### What an orderly network delivers -/

/-- What `e` has received are the first messages of the other end, and what it has not read yet
starts the frames of the next ones. -/
def Orderly (key : Aead) (e : End) (t : Tunnel) : Prop :=
  ∃ ws vs, t.written e.other = ws ++ vs ∧ t.received e = ws.map Prod.snd ∧
    t.delivered e = (ws.map (frame key)).flatten ++ t.inbox e ∧
    t.inbox e <+: (vs.map (frame key)).flatten ∧ ∀ w ∈ vs, w.2.length + 32 < 2 ^ 32

/-- A read off the start of the next frames takes the first of them. -/
theorem exists_cons_of_readMessage (hk : key.Lawful) {sealed : List (Nonce × Bytes)}
    {stream m rest : Bytes} {vs : List (Nonce × Bytes)}
    (hpre : stream <+: (vs.map (frame key)).flatten) (hlt : ∀ w ∈ vs, w.2.length + 32 < 2 ^ 32)
    (h : CryptoStream.readMessage (key.ideal sealed) stream = .ok (m, rest)) :
    ∃ w vs', vs = w :: vs' ∧ w.2 = m ∧ frame key w ++ rest = stream := by
  obtain ⟨t, ht⟩ := hpre
  cases vs with
  | nil =>
    obtain rfl : stream = [] := (List.append_eq_nil_iff.1 ht).1
    exact absurd (CryptoStream.shrinking_readMessage h) (Nat.not_lt_zero _)
  | cons w vs =>
    have hlen : (encryptWithNonce key w.2 w.1).length < 2 ^ 32 := by
      rw [length_encryptWithNonce hk]
      exact hlt w (by simp)
    obtain ⟨-, hdec, hstream⟩ := CryptoStream.ciphertext_of_readMessage hlen ht h
    -- the ciphertext opens to the message that was sealed
    obtain ⟨nonce, ciphertext, hopen, heq⟩ := decryptInPlace_eq_ok hdec
    obtain ⟨-, heq⟩ := FixedCodec.encode_append_inj _ heq
    obtain ⟨rfl, rfl⟩ := FixedCodec.encode_append_inj _ heq
    refine ⟨w, vs, rfl, ?_, hstream⟩
    unfold Aead.ideal at hopen
    dsimp only at hopen
    split at hopen
    · rw [hk.openInPlace_seal] at hopen
      exact Option.some.inj hopen
    · cases hopen

theorem orderly_step (hk : key.Lawful) (t : Tunnel) (a : Action) (u : Tunnel)
    (h : t.Orderly key e) (hC : t.InOrder key e a) (hstep : t.step key a = some u) :
    u.Orderly key e := by
  obtain ⟨ws, vs, hw, hr, hd, hi, hlt⟩ := h
  cases a with
  | write e' nonce plaintext =>
    obtain rfl := Option.some.inj hstep
    by_cases he : e' = e.other
    · subst he
      refine ⟨ws, vs ++ [(nonce, plaintext)], ?_, hr, hd, ?_, ?_⟩
      · simp only [Function.update_self, hw, List.append_assoc]
      · rw [List.map_append, List.flatten_append]
        exact hi.trans (List.prefix_append _ _)
      · intro w hmem
        rcases List.mem_append.1 hmem with hmem | hmem
        · exact hlt w hmem
        · obtain rfl := List.mem_singleton.1 hmem
          exact hC rfl
    · refine ⟨ws, vs, ?_, hr, hd, hi, hlt⟩
      simpa [Ne.symm he] using hw
  | deliver e' bytes =>
    obtain rfl := Option.some.inj hstep
    by_cases he : e' = e
    · subst he
      have hpre := hC rfl
      refine ⟨ws, vs, hw, hr, ?_, ?_, hlt⟩
      · simp only [Function.update_self, hd, List.append_assoc]
      · rw [hw, hd, List.map_append, List.flatten_append, List.append_assoc] at hpre
        simpa using (List.prefix_append_right_inj _).1 hpre
    · refine ⟨ws, vs, hw, hr, ?_, ?_, hlt⟩
      · simpa [Ne.symm he] using hd
      · simpa [Ne.symm he] using hi
  | read e' =>
    simp only [step] at hstep
    split at hstep
    · cases hstep
    · split at hstep
      · rename_i m rest hread
        obtain rfl := Option.some.inj hstep
        by_cases he : e' = e
        · subst he
          obtain ⟨w, vs', rfl, rfl, hstream⟩ := exists_cons_of_readMessage hk hi hlt hread
          refine ⟨ws ++ [w], vs', ?_, ?_, ?_, ?_, fun v hv => hlt v (by simp [hv])⟩
          · rw [hw, List.append_assoc, List.singleton_append]
          · simp only [Function.update_self, hr, List.map_append, List.map_singleton]
          · simp only [Function.update_self, List.map_append, List.map_singleton,
              List.flatten_append, List.flatten_singleton, List.append_assoc, hstream, hd]
          · rw [List.map_cons, List.flatten_cons, ← hstream] at hi
            simpa using (List.prefix_append_right_inj _).1 hi
        · refine ⟨ws, vs, hw, ?_, ?_, ?_, hlt⟩
          · simpa [Ne.symm he] using hr
          · simpa [Ne.symm he] using hd
          · simpa [Ne.symm he] using hi
      · obtain rfl := Option.some.inj hstep
        exact ⟨ws, vs, hw, hr, hd, hi, hlt⟩

/-- **Nothing is forged, whatever the network delivers**, and what an end receives from a network
that delivers in order what the other end has written are the first messages of the other end. -/
theorem authentic_and_inOrder (hk : key.Lawful) {as : List Action}
    (hrun : run (step key) init as = some t) :
    t.Authentic ∧ ∀ e, Along (step key) (InOrder key e) init as →
      t.received e <+: t.plaintexts e.other := by
  refine ⟨run_invariant (authentic_step hk) (by simp [Authentic, init]) hrun, fun e hC => ?_⟩
  have hinit : init.Orderly key e := ⟨[], [], rfl, rfl, rfl, by simp [init], by simp⟩
  obtain ⟨ws, vs, hw, hr, -⟩ := hC.invariant (orderly_step hk) hinit hrun
  rw [hr, plaintexts, hw, List.map_append]
  exact List.prefix_append _ _

/-- The server writes one message, and the client reads it. -/
theorem authentic_and_inOrder_hello :
    let w : Nonce × Bytes := (Vector.replicate 12 0, [1, 2, 3])
    let as := [.write .server w.1 w.2, .deliver .client (frame nullAead w), .read .client]
    ∃ t, run (step nullAead) init as = some t ∧ t.received .client = [[1, 2, 3]] ∧ t.Authentic ∧
      t.received .client <+: t.plaintexts .server := by
  intro w as
  obtain ⟨t, ht⟩ := Option.isSome_iff_exists.1
    (show (run (step nullAead) init as).isSome = true by decide +kernel)
  have hreceived : (run (step nullAead) init as).map (fun t => t.received .client) =
      some [[1, 2, 3]] := by decide +kernel
  rw [ht] at hreceived
  obtain ⟨hauth, hpre⟩ := authentic_and_inOrder lawful_nullAead ht
  refine ⟨t, ht, Option.some.inj hreceived, hauth, hpre .client ?_⟩
  -- the one delivery is the frame of the one write
  refine ⟨fun _ => by decide,
    fun t₁ h₁ => ⟨fun _ => ?_, fun t₂ _ => ⟨trivial, fun t₃ _ => trivial⟩⟩⟩
  obtain rfl := Option.some.inj h₁
  exact List.prefix_refl _

theorem frames_of_framesTest (t : Tunnel) (a : Action) (h : framesTest key t a = true) :
    t.Frames key a := by
  cases a with
  | deliver e bytes =>
    rw [framesTest, List.contains_iff_mem, List.map_append, List.mem_append] at h
    rcases h with h | h
    · exact ⟨.server, h⟩
    · exact ⟨.client, h⟩
  | write | read => trivial

/-- **A frame that is delivered twice is received twice.** -/
theorem received_replayed :
    let w : Nonce × Bytes := (Vector.replicate 12 0, [1, 2, 3])
    let as := [.write .server w.1 w.2, .deliver .client (frame nullAead w), .read .client,
      .deliver .client (frame nullAead w), .read .client]
    Along (step nullAead) (Frames nullAead) init as ∧
      ∃ t, run (step nullAead) init as = some t ∧
        ¬t.received .client <+: t.plaintexts .server := by
  intro w as
  refine ⟨?_, ?_⟩
  · exact .of_test frames_of_framesTest (by decide +kernel)
  · obtain ⟨t, ht⟩ := Option.isSome_iff_exists.1
      (show (run (step nullAead) init as).isSome = true by decide +kernel)
    have hlist : (run (step nullAead) init as).map
        (fun t => (t.received .client, t.plaintexts .server)) =
          some ([[1, 2, 3], [1, 2, 3]], [[1, 2, 3]]) := by decide +kernel
    rw [ht] at hlist
    obtain ⟨hr, hp⟩ := Prod.mk.inj (Option.some.inj hlist)
    refine ⟨t, ht, ?_⟩
    rw [hr, hp]
    decide

end Tunnel

end AnyPlug
