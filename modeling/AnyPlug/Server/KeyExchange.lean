import AnyPlug.Foundations.Swap
import AnyPlug.Server.CryptoStream

/-!
# The key exchange of the tunnel

`CryptoStream::server_side` and `CryptoStream::client_side` of `usbip-server/src/crypto_stream.rs`,
with `agree` and `derive_session_key` of `usbip-core/src/crypto.rs`. Each end writes its public key
behind a length prefix, then reads that of the other end and derives the session key. X25519, HKDF
and AES-256-GCM belong to a third-party library; `KeyAgreement` is what is used of them.

The two ends write before they read, so that neither waits for a key that the other one has not sent
(`keySwap`, in the sense of `Foundations.Swap`). `exchange_agrees` says that the ends leave with the
same key, and `exchange_completes_iff` how much room the streams must have for that.
-/

namespace AnyPlug

/-- What the key exchange uses of the cryptographic library. -/
structure KeyAgreement (Priv : Type) where
  computePublicKey : Priv → Vector UInt8 32
  agreeEphemeral : Priv → Bytes → Option Bytes
  /-- The salt, the secret and the info string. -/
  hkdfSha256 : Bytes → Bytes → Bytes → Option Bytes
  aes256Gcm : Bytes → Option Aead

/-- **What the key exchange relies on**: the two ends compute the same secret. -/
def KeyAgreement.Commutes {Priv : Type} (ring : KeyAgreement Priv) : Prop :=
  ∀ a b, ring.agreeEphemeral a (ring.computePublicKey b).toList =
    ring.agreeEphemeral b (ring.computePublicKey a).toList

namespace CryptoStream

variable {Priv : Type} (ring : KeyAgreement Priv)

/-- The shared secret of a private key and the public key of the peer. -/
def agree (priv : Priv) (peerPublicKey : Bytes) : CryptoResult Bytes :=
  match ring.agreeEphemeral priv peerPublicKey with
  | some secret => .ok secret
  | none => .error .keyAgreement

/-- The session key of a shared secret. -/
def deriveSessionKey (sharedSecret : Bytes) : CryptoResult Aead :=
  let salt := "USBIP-PASSTHROUGH-V1".toUTF8.toList
  let info := "usbip-session-key".toUTF8.toList
  match (ring.hkdfSha256 salt sharedSecret info).bind ring.aes256Gcm with
  | some key => .ok key
  | none => .error .keyDerivation

/-- What an end writes first: its public key behind the length of it. -/
def publicKeyMessage (priv : Priv) : Bytes :=
  FixedCodec.u32be.encode 32 ++ (FixedCodec.bytes 32).encode (ring.computePublicKey priv)

/-- The session key of a private key and the public key of the peer. -/
def sessionKey (priv : Priv) (peerPub : Bytes) : UsbIpResult Aead := do
  let shared ← mapCryptoErr (agree ring priv peerPub)
  mapCryptoErr (deriveSessionKey ring shared)

/-- What an end reads: the public key of its peer, from which it derives the session key. -/
def readPublicKey (peer : String) (priv : Priv) (stream : Bytes) : UsbIpResult (Aead × Bytes) := do
  let (lenBuf, stream) ← readExact 4 stream
  let (len, _) ← okOr (FixedCodec.u32be.decode lenBuf) (.io .unexpectedEof)
  if len ≠ 32 then .error (.encryption s!"unexpected {peer} pubkey length: {len}")
  else
    let (peerPub, stream) ← readExact 32 stream
    let key ← sessionKey ring priv peerPub
    return (key, stream)

/-- The server side of the key exchange, after it has written its own key. -/
def serverSide (serverPriv : Priv) (stream : Bytes) : UsbIpResult (Aead × Bytes) :=
  readPublicKey ring "client" serverPriv stream

/-- The client side of the key exchange, after it has written its own key. -/
def clientSide (clientPriv : Priv) (stream : Bytes) : UsbIpResult (Aead × Bytes) :=
  readPublicKey ring "server" clientPriv stream

/-! ## Reading a key -/

theorem length_publicKeyMessage (priv : Priv) : (publicKeyMessage ring priv).length = 36 := by
  rw [publicKeyMessage, List.length_append, FixedCodec.length_encode, FixedCodec.length_encode]
  rfl

/-- **A key is read as it was written**, whatever follows it. -/
theorem readPublicKey_publicKeyMessage_append (peer : String) (priv peerPriv : Priv)
    (rest : Bytes) :
    readPublicKey ring peer priv (publicKeyMessage ring peerPriv ++ rest) =
      (sessionKey ring priv (ring.computePublicKey peerPriv).toList).map
        fun key => (key, rest) := by
  have hlen : (FixedCodec.u32be.encode 32).length = 4 := FixedCodec.u32be.length_encode 32
  have hpub : ((FixedCodec.bytes 32).encode (ring.computePublicKey peerPriv)).length = 32 :=
    (FixedCodec.bytes 32).length_encode _
  rw [publicKeyMessage, List.append_assoc, readPublicKey, readExact_append hlen, ok_bind]
  dsimp only
  rw [FixedCodec.decode_encode, okOr_some, ok_bind]
  dsimp only
  rw [if_neg (by decide), readExact_append hpub, ok_bind]
  change (sessionKey ring priv (ring.computePublicKey peerPriv).toList >>= _) = _
  cases sessionKey ring priv (ring.computePublicKey peerPriv).toList <;> rfl

/-- **A part of a key is not enough**: the end waits for the rest of it. -/
theorem readPublicKey_of_strict_append (peer : String) (priv peerPriv : Priv) {p q : Bytes}
    (h : p ++ q = publicKeyMessage ring peerPriv) (hq : q ≠ []) :
    readPublicKey ring peer priv p = .error (.io .unexpectedEof) := by
  have hlen := congrArg List.length h
  have hpos := List.length_pos_iff.2 hq
  have hprefixLen : (FixedCodec.u32be.encode 32).length = 4 := FixedCodec.u32be.length_encode 32
  rw [List.length_append, length_publicKeyMessage] at hlen
  rw [readPublicKey]
  by_cases h4 : 4 ≤ p.length
  · -- the length has come, the key has not
    have hhead : p.take 4 = FixedCodec.u32be.encode 32 := by
      have htake := congrArg (List.take 4) h
      rwa [List.take_append_of_le_length h4, publicKeyMessage, List.take_left' hprefixLen] at htake
    rw [readExact, if_pos h4, ok_bind]
    dsimp only
    rw [hhead, FixedCodec.decode_encode, okOr_some, ok_bind]
    dsimp only
    rw [if_neg (by decide), readExact, if_neg (by rw [List.length_drop]; omega)]
    rfl
  · rw [readExact, if_neg h4]
    rfl

/-! ## The two ends -/

/-- The two ends: the server is `false`, the client `true`. -/
def side (i : Bool) : Priv → Bytes → UsbIpResult (Aead × Bytes) :=
  bif i then clientSide ring else serverSide ring

/-- What an end makes of the bytes it has: it waits for more where a read would, and otherwise
returns. -/
def verdict (i : Bool) (priv : Priv) (got : Bytes) : Option (UsbIpResult Aead) :=
  match side ring i priv got with
  | .ok (key, _) => some (.ok key)
  | .error (.io .unexpectedEof) => none
  | .error err => some (.error err)

/-- The key exchange between a server and a client, over streams that hold `cap` bytes. -/
def keySwap (priv : Bool → Priv) (cap : Bool → ℕ) : SwapSpec UInt8 (UsbIpResult Aead) where
  message i := publicKeyMessage ring (priv i)
  verdict i := verdict ring i (priv i)
  cap := cap

/-- The derivation of a key does not read. -/
theorem sessionKey_ne_eof (priv : Priv) (peerPub : Bytes) :
    sessionKey ring priv peerPub ≠ .error (.io .unexpectedEof) := by
  rw [sessionKey]
  cases agree ring priv peerPub with
  | error e =>
    change (Except.error (.encryption e.toString) : UsbIpResult Aead) ≠ _
    simp
  | ok shared =>
    rw [mapCryptoErr, ok_bind]
    cases deriveSessionKey ring shared <;> simp [mapCryptoErr]

variable {ring}

/-- On the key of its peer, an end returns the session key. -/
theorem verdict_publicKeyMessage (i : Bool) (priv peerPriv : Priv) :
    verdict ring i priv (publicKeyMessage ring peerPriv) =
      some (sessionKey ring priv (ring.computePublicKey peerPriv).toList) := by
  have hread (peer : String) := readPublicKey_publicKeyMessage_append ring peer priv peerPriv []
  have hne := sessionKey_ne_eof ring priv (ring.computePublicKey peerPriv).toList
  simp only [List.append_nil] at hread
  have hside : side ring i priv (publicKeyMessage ring peerPriv) =
      (sessionKey ring priv (ring.computePublicKey peerPriv).toList).map fun key => (key, []) := by
    cases i with
    | false => exact hread "client"
    | true => exact hread "server"
  rw [verdict, hside]
  revert hne
  cases sessionKey ring priv (ring.computePublicKey peerPriv).toList with
  | ok key => intro _; rfl
  | error err =>
    intro hne
    dsimp only [Except.map]
    split
    · rename_i heq
      cases heq
    · rename_i heq
      obtain rfl := Except.error.inj heq
      exact absurd rfl hne
    · rename_i heq
      cases heq
      rfl

theorem decisive_keySwap (priv : Bool → Priv) (cap : Bool → ℕ) :
    (keySwap ring priv cap).Decisive where
  before i p q h hq := by
    have hread (peer : String) := readPublicKey_of_strict_append ring peer (priv i) (priv !i) h hq
    have hside : side ring i (priv i) p = .error (.io .unexpectedEof) := by
      cases i with
      | false => exact hread "client"
      | true => exact hread "server"
    change verdict ring i (priv i) p = none
    rw [verdict, hside]
  whole i := by
    change (verdict ring i (priv i) (publicKeyMessage ring (priv !i))).isSome = true
    rw [verdict_publicKeyMessage]
    rfl

/-- The two ends derive the same key. -/
theorem sessionKey_comm (hring : ring.Commutes) (a b : Priv) :
    sessionKey ring a (ring.computePublicKey b).toList =
      sessionKey ring b (ring.computePublicKey a).toList := by
  rw [sessionKey, sessionKey, agree, agree, hring a b]

/-- **The ends agree.** Whatever the order of the steps and however the bytes travel, an end that
has left the key exchange has the session key that either private key gives with the other public
key, or the error that this gives. So when both have left with a key, it is the same one, and each
of them reads the messages that the other writes under it. -/
theorem exchange_agrees (hring : ring.Commutes) (priv : Bool → Priv) (cap : Bool → ℕ)
    {s : Swap UInt8 (UsbIpResult Aead)}
    (h : Reachable (Swap.step (keySwap ring priv cap)) (Swap.start (keySwap ring priv cap)) s) :
    (∀ i r, s.result i = some r →
      r = sessionKey ring (priv false) (ring.computePublicKey (priv true)).toList) ∧
      ∀ i (key key' : Aead), s.result i = some (.ok key) → s.result (!i) = some (.ok key') →
        key.Lawful → ∀ (nonces : ℕ → Nonce) (ms : List Bytes),
          (∀ m ∈ ms, m.length + 32 ≤ encryptedMax) →
          drain (readMessage key') ((Wire.encrypted key).stream nonces ms) = ms := by
  have hresult (i : Bool) (r : UsbIpResult Aead) (hr : s.result i = some r) :
      r = sessionKey ring (priv false) (ring.computePublicKey (priv true)).toList := by
    have hverdict := Swap.result_eq (decisive_keySwap priv cap) h hr
    change verdict ring i (priv i) (publicKeyMessage ring (priv !i)) = some r at hverdict
    rw [verdict_publicKeyMessage] at hverdict
    rw [← Option.some.inj hverdict]
    cases i with
    | false => rfl
    | true => exact sessionKey_comm hring _ _
  refine ⟨hresult, fun i key key' hkey hkey' hlawful nonces ms hms => ?_⟩
  have heq := (hresult i _ hkey).trans (hresult (!i) _ hkey').symm
  obtain rfl : key = key' := Except.ok.inj heq
  exact Wire.received_encrypted hlawful nonces hms

/-- **The key exchange never gets stuck exactly when one of the two streams holds a whole key
message**, 36 bytes. Otherwise some run leaves both ends blocked in their writes. In any case it
takes 146 steps at most. -/
theorem exchange_completes_iff (priv : Bool → Priv) (cap : Bool → ℕ) (hcap : ∀ i, 0 < cap i) :
    ((∀ s, Reachable (Swap.step (keySwap ring priv cap)) (Swap.start (keySwap ring priv cap)) s →
      (∀ a, Swap.step (keySwap ring priv cap) s a = none) → ∀ i, (s.result i).isSome = true) ↔
        ∃ i, 36 ≤ cap i) ∧
      ((¬∃ i, 36 ≤ cap i) → ∃ s,
        Reachable (Swap.step (keySwap ring priv cap)) (Swap.start (keySwap ring priv cap)) s ∧
          (∀ a, Swap.step (keySwap ring priv cap) s a = none) ∧
          ∀ i, s.Blocked (keySwap ring priv cap) i ∧ s.result i = none) ∧
      ∀ as s, run (Swap.step (keySwap ring priv cap)) (Swap.start (keySwap ring priv cap)) as =
        some s → as.length ≤ 146 := by
  refine ⟨?_, fun hnone => ?_, fun as s hrun => ?_⟩
  · rw [Swap.completes_iff (decisive_keySwap priv cap) hcap]
    simp only [keySwap, length_publicKeyMessage]
  · refine Swap.exists_stuck fun i => ?_
    simp only [keySwap, length_publicKeyMessage]
    exact not_le.1 (not_exists.1 hnone i)
  · have hlen := Swap.length_run hrun
    have hwork (i : Bool) : (Swap.start (keySwap ring priv cap)).work i = 73 := by
      simp [Swap.work, Swap.start, keySwap, length_publicKeyMessage]
    rw [hwork, hwork] at hlen
    omega

/-- Diffie-Hellman modulo 251, with the cipher that changes nothing. -/
def smallRing : KeyAgreement ℕ where
  computePublicKey a := (Vector.replicate 32 0).set 0 (.ofNat (6 ^ a % 251))
  agreeEphemeral a pub := some [.ofNat ((pub.headD 0).toNat ^ a % 251)]
  hkdfSha256 _ secret _ := some secret
  aes256Gcm _ := some nullAead

theorem commutes_smallRing : smallRing.Commutes := by
  intro a b
  have hhead (n : ℕ) : (((smallRing.computePublicKey n).toList.headD 0).toNat) = 6 ^ n % 251 := by
    have hlt : 6 ^ n % 251 < 251 := Nat.mod_lt _ (by decide)
    change (UInt8.ofNat (6 ^ n % 251)).toNat = _
    rw [UInt8.toNat_ofNat', Nat.mod_eq_of_lt (by omega)]
  simp only [smallRing] at hhead ⊢
  rw [hhead, hhead, ← Nat.pow_mod, ← Nat.pow_mod, ← pow_mul, ← pow_mul, Nat.mul_comm]

/-- Over streams that hold one byte each way a run leaves the server and the client blocked. -/
theorem exchange_stuck_one :
    ∃ s, Reachable (Swap.step (keySwap smallRing (bif · then 7 else 5) fun _ => 1))
        (Swap.start (keySwap smallRing (bif · then 7 else 5) fun _ => 1)) s ∧
      (∀ a, Swap.step (keySwap smallRing (bif · then 7 else 5) fun _ => 1) s a = none) ∧
      ∀ i, s.Blocked (keySwap smallRing (bif · then 7 else 5) fun _ => 1) i ∧ s.result i = none :=
  (exchange_completes_iff (bif · then 7 else 5) (fun _ => 1) (by decide)).2.1 (by decide)

/-- When one of the streams holds a key message, both ends leave, and with the same key. -/
theorem exchange_agrees_small :
    ∃ s, Reachable (Swap.step (keySwap smallRing (bif · then 7 else 5) (bif · then 1 else 36)))
        (Swap.start (keySwap smallRing (bif · then 7 else 5) (bif · then 1 else 36))) s ∧
      s.result false = some (.ok nullAead) ∧ s.result true = some (.ok nullAead) := by
  set c := keySwap smallRing (bif · then 7 else 5) (bif · then 1 else 36)
  have hrank (s : Swap UInt8 (UsbIpResult Aead)) (a : Swap.Action)
      (t : Swap UInt8 (UsbIpResult Aead)) (_ : True) (h : Swap.step c s a = some t) :
      t.work false + t.work true < s.work false + s.work true := by
    have := Swap.work_step h
    omega
  obtain ⟨s, hreach, hhalt⟩ := exists_reachable_halted _ (fun _ _ _ _ _ => trivial) hrank
    (s := Swap.start c) trivial
  have hsome := (Swap.completes_iff (decisive_keySwap (bif · then 7 else 5)
    (bif · then 1 else 36)) (by decide)).2
    ⟨false, by simp [keySwap, length_publicKeyMessage]⟩ s hreach hhalt
  obtain ⟨hagrees, -⟩ := exchange_agrees commutes_smallRing (bif · then 7 else 5)
    (bif · then 1 else 36) hreach
  have hresult (i : Bool) : s.result i = some (.ok nullAead) := by
    obtain ⟨r, hr⟩ := Option.isSome_iff_exists.1 (hsome i)
    rw [hr, hagrees i r hr]
    rfl
  exact ⟨s, hreach, hresult false, hresult true⟩

end CryptoStream

end AnyPlug
