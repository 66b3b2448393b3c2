import AnyPlug.Core.Wire

/-!
# Authenticated encryption

The message format of the encrypted tunnel (`usbip-core/src/crypto.rs`): the length of the nonce,
the nonce, and the ciphertext with its tag. The cipher itself is AES-256-GCM of a third-party
library. `Aead` is the cipher under one session key, and `Aead.Lawful` is what the tunnel relies
on: opening inverts sealing, and sealing adds a tag of 16 bytes.
-/

namespace AnyPlug

abbrev Nonce := Vector UInt8 12

/-- An authenticated cipher under a fixed key. -/
structure Aead where
  sealAppendTag : Nonce → Bytes → Bytes
  openInPlace : Nonce → Bytes → Option Bytes

/-- The length of a nonce and of a tag. -/
def nonceLen : ℕ := 12
def tagLen : ℕ := 16

/-- What the tunnel relies on. -/
structure Aead.Lawful (key : Aead) : Prop where
  openInPlace_seal : ∀ nonce plaintext,
    key.openInPlace nonce (key.sealAppendTag nonce plaintext) = some plaintext
  length_seal : ∀ nonce plaintext,
    (key.sealAppendTag nonce plaintext).length = plaintext.length + tagLen

inductive CryptoError
  | keyGeneration
  | keyAgreement
  | keyDerivation
  | encryption
  | decryption
  | invalidNonce
  deriving DecidableEq, Repr

def CryptoError.toString : CryptoError → String
  | .keyGeneration => "key generation failed"
  | .keyAgreement => "key agreement failed"
  | .keyDerivation => "key derivation failed"
  | .encryption => "encryption failed"
  | .decryption => "decryption failed"
  | .invalidNonce => "invalid nonce"

abbrev CryptoResult := Except CryptoError

/-- A failure of the cipher, as an error of the stack. -/
def mapCryptoErr {α : Type} : CryptoResult α → UsbIpResult α
  | .ok a => .ok a
  | .error e => .error (.encryption e.toString)

/-- Encrypt with explicit nonce: `[4-byte nonce_len = 12][12-byte nonce][ciphertext and tag]`. -/
def encryptWithNonce (key : Aead) (plaintext : Bytes) (nonce : Nonce) : Bytes :=
  FixedCodec.u32be.encode 12 ++ ((FixedCodec.bytes 12).encode nonce ++
    key.sealAppendTag nonce plaintext)

/-- Decrypt what `encryptWithNonce` produced. -/
def decryptInPlace (key : Aead) (buf : Bytes) : CryptoResult Bytes :=
  if buf.length < 4 + nonceLen + tagLen then .error .decryption
  else
    match (FixedCodec.u32be.prod (FixedCodec.bytes 12)).decode buf with
    | none => .error .invalidNonce
    | some ((len, nonce), ciphertext) =>
      if len ≠ 12 then .error .invalidNonce
      else
        match key.openInPlace nonce ciphertext with
        | none => .error .decryption
        | some plaintext => .ok plaintext

variable {key : Aead}

/-- **What a successful decryption says**: a nonce, and a ciphertext that opens under it. -/
theorem decryptInPlace_eq_ok {buf m : Bytes} (h : decryptInPlace key buf = .ok m) :
    ∃ nonce ciphertext, key.openInPlace nonce ciphertext = some m ∧
      FixedCodec.u32be.encode 12 ++ ((FixedCodec.bytes 12).encode nonce ++ ciphertext) = buf := by
  unfold decryptInPlace at h
  split at h
  · cases h
  · split at h
    · cases h
    · rename_i len nonce ciphertext hdec
      have hbuf := FixedCodec.encode_of_decode _ hdec
      change FixedCodec.u32be.encode len ++ (FixedCodec.bytes 12).encode nonce ++ ciphertext = buf
        at hbuf
      split at h
      · cases h
      · rename_i hlen
        obtain rfl := not_not.1 hlen
        split at h
        · cases h
        · rename_i plaintext hopen
          obtain rfl := Except.ok.inj h
          exact ⟨nonce, ciphertext, hopen, by rw [← List.append_assoc, hbuf]⟩

theorem length_encryptWithNonce (hk : key.Lawful) (plaintext : Bytes) (nonce : Nonce) :
    (encryptWithNonce key plaintext nonce).length = plaintext.length + 32 := by
  have h₁ : (FixedCodec.u32be.encode 12).length = 4 := FixedCodec.u32be.length_encode 12
  have h₂ : ((FixedCodec.bytes 12).encode nonce).length = 12 :=
    (FixedCodec.bytes 12).length_encode nonce
  have h₃ := hk.length_seal nonce plaintext
  rw [encryptWithNonce, List.length_append, List.length_append, h₁, h₂, h₃, tagLen]
  omega

/-- Decryption inverts encryption. -/
theorem decryptInPlace_encryptWithNonce (hk : key.Lawful) (plaintext : Bytes) (nonce : Nonce) :
    decryptInPlace key (encryptWithNonce key plaintext nonce) = .ok plaintext := by
  have hlen := length_encryptWithNonce hk plaintext nonce
  have hdec := (FixedCodec.u32be.prod (FixedCodec.bytes 12)).decode_encode_append (12, nonce)
    (key.sealAppendTag nonce plaintext)
  change FixedCodec.decode _ (FixedCodec.u32be.encode 12 ++ (FixedCodec.bytes 12).encode nonce ++ _)
    = _ at hdec
  rw [List.append_assoc] at hdec
  rw [decryptInPlace, if_neg (by rw [hlen, nonceLen, tagLen]; omega), encryptWithNonce, hdec]
  simp [hk.openInPlace_seal]

/-! ## The two decryptors -/

/-- The length in front of a message: the first four bytes, each of them indexed. -/
def lengthField (b : Bytes) : Option UInt32 := do
  let b0 ← b[0]?
  let b1 ← b[1]?
  let b2 ← b[2]?
  let b3 ← b[3]?
  let (len, _) ← FixedCodec.u32be.decode [b0, b1, b2, b3]
  return len

/-- `try_into` an array of twelve bytes. -/
def toNonce (b : Bytes) : Option Nonce :=
  if h : b.length = 12 then some ⟨b.toArray, by simpa using h⟩ else none

/-- `decrypt`, every index and every slice checked: `none` stands for the panic of the source. -/
def decryptChecked (key : Aead) (wireData : Bytes) : Option (CryptoResult Bytes) :=
  if wireData.length < 4 + nonceLen + tagLen then some (.error .decryption)
  else do
    let len ← lengthField wireData
    if len ≠ 12 ∨ wireData.length < 4 + nonceLen + tagLen then return .error .invalidNonce
    else
      let nonceBytes ← slice wireData 4 16
      match toNonce nonceBytes with
      | none => return .error .invalidNonce
      | some nonce =>
        let buf ← slice wireData 16 wireData.length
        match key.openInPlace nonce buf with
        | none => return .error .decryption
        | some plaintext => return .ok plaintext

/-- `decrypt_in_place`, with the buffer as it is after each line. The cipher leaves the plaintext at
the front of its slice, and `scratch` behind it. -/
def decryptInPlaceChecked (key : Aead) (scratch buf : Bytes) : Option (CryptoResult Bytes) :=
  if buf.length < 4 + nonceLen + tagLen then some (.error .decryption)
  else do
    let len ← lengthField buf
    if len ≠ 12 then return .error .invalidNonce
    else
      let nonceBytes ← slice buf 4 16
      match toNonce nonceBytes with
      | none => return .error .invalidNonce
      | some nonce =>
        let bufSlice ← slice buf 16 buf.length
        match key.openInPlace nonce bufSlice with
        | none => return .error .decryption
        | some plaintext =>
          let buf := buf.take 16 ++ (plaintext ++ scratch)
          let buf := buf.take (16 + plaintext.length)
          let plaintext ← slice buf 16 buf.length
          return .ok plaintext

/-- What stands in a buffer that is not too short. -/
theorem exists_fields {buf : Bytes} (h : ¬buf.length < 4 + nonceLen + tagLen) :
    ∃ (len : UInt32) (nonce : Nonce) (ciphertext : Bytes),
      FixedCodec.u32be.encode len ++ (nonce.toList ++ ciphertext) = buf := by
  have hsize : (FixedCodec.u32be.prod (FixedCodec.bytes 12)).size ≤ buf.length := by
    rw [nonceLen, tagLen] at h
    show 4 + 12 ≤ buf.length
    omega
  obtain ⟨⟨len, nonce⟩, ciphertext, hbuf⟩ :=
    (FixedCodec.u32be.prod (FixedCodec.bytes 12)).exists_encode_append hsize
  refine ⟨len, nonce, ciphertext, ?_⟩
  rw [← List.append_assoc]
  exact hbuf

theorem lengthField_encode (len : UInt32) (rest : Bytes) :
    lengthField (FixedCodec.u32be.encode len ++ rest) = some len := by
  have hdec := FixedCodec.u32be.decode_encode len
  show ((FixedCodec.u32be.decode (FixedCodec.u32be.encode len)).bind fun p => some p.1) = some len
  rw [hdec]
  rfl

theorem toNonce_toList (nonce : Nonce) : toNonce nonce.toList = some nonce := by
  rw [toNonce, dif_pos nonce.length_toList]
  exact congrArg some (Vector.toList_inj.1 rfl)

section

variable (len : UInt32) (nonce : Nonce) (ciphertext : Bytes)

theorem slice_nonce : slice (FixedCodec.u32be.encode len ++ (nonce.toList ++ ciphertext)) 4 16 =
    some nonce.toList := by
  have hlen : (FixedCodec.u32be.encode len).length = 4 := FixedCodec.u32be.length_encode len
  have hnonce : nonce.toList.length = 12 := nonce.length_toList
  rw [slice_add (n := 12) (by simp only [List.length_append, hlen, hnonce]; omega),
    List.drop_left' hlen, List.take_left' hnonce]

theorem slice_ciphertext :
    slice (FixedCodec.u32be.encode len ++ (nonce.toList ++ ciphertext)) 16
      (FixedCodec.u32be.encode len ++ (nonce.toList ++ ciphertext)).length = some ciphertext := by
  have hlen : (FixedCodec.u32be.encode len ++ nonce.toList).length = 16 := by
    rw [List.length_append, nonce.length_toList]
    exact congrArg (· + 12) (FixedCodec.u32be.length_encode len)
  rw [← List.append_assoc, slice_drop (by rw [List.length_append, hlen]; omega),
    List.drop_left' hlen]

theorem decryptInPlace_fields (hlong : ¬(FixedCodec.u32be.encode len ++
    (nonce.toList ++ ciphertext)).length < 4 + nonceLen + tagLen) :
    decryptInPlace key (FixedCodec.u32be.encode len ++ (nonce.toList ++ ciphertext)) =
      if len ≠ 12 then .error .invalidNonce
      else
        match key.openInPlace nonce ciphertext with
        | none => .error .decryption
        | some plaintext => .ok plaintext := by
  have hdec := (FixedCodec.u32be.prod (FixedCodec.bytes 12)).decode_encode_append (len, nonce)
    ciphertext
  change FixedCodec.decode _ (FixedCodec.u32be.encode len ++ nonce.toList ++ _) = _ at hdec
  rw [List.append_assoc] at hdec
  rw [decryptInPlace, if_neg hlong, hdec]

end

/-- **No index and no slice of `decrypt` is out of range**, and it returns what `decrypt_in_place`
does. -/
theorem decryptChecked_eq (key : Aead) (wireData : Bytes) :
    decryptChecked key wireData = some (decryptInPlace key wireData) := by
  by_cases hshort : wireData.length < 4 + nonceLen + tagLen
  · rw [decryptChecked, decryptInPlace, if_pos hshort, if_pos hshort]
  · obtain ⟨len, nonce, ciphertext, rfl⟩ := exists_fields hshort
    rw [decryptInPlace_fields len nonce ciphertext hshort, decryptChecked, if_neg hshort,
      lengthField_encode, slice_nonce, slice_ciphertext]
    simp only [Option.bind_eq_bind, Option.bind_some, toNonce_toList, hshort, or_false]
    split
    · rfl
    · cases key.openInPlace nonce ciphertext with
      | none => rfl
      | some plaintext => rfl

theorem decryptInPlaceChecked_eq (key : Aead) (scratch buf : Bytes) :
    decryptInPlaceChecked key scratch buf = some (decryptInPlace key buf) := by
  by_cases hshort : buf.length < 4 + nonceLen + tagLen
  · rw [decryptInPlaceChecked, decryptInPlace, if_pos hshort, if_pos hshort]
  · obtain ⟨len, nonce, ciphertext, rfl⟩ := exists_fields hshort
    rw [decryptInPlace_fields len nonce ciphertext hshort, decryptInPlaceChecked, if_neg hshort,
      lengthField_encode, slice_nonce, slice_ciphertext]
    simp only [Option.bind_eq_bind, Option.bind_some, toNonce_toList]
    split
    · rfl
    · cases key.openInPlace nonce ciphertext with
      | none => rfl
      | some plaintext =>
        -- the buffer is cut behind the plaintext, and the header is skipped
        have hhead : ((FixedCodec.u32be.encode len ++ (nonce.toList ++ ciphertext)).take
            16).length = 16 := by
          rw [List.length_take, min_eq_left]
          rw [nonceLen, tagLen] at hshort
          omega
        dsimp only
        generalize (FixedCodec.u32be.encode len ++ (nonce.toList ++ ciphertext)).take 16 = head
          at hhead
        have hcut : (head ++ (plaintext ++ scratch)).take (16 + plaintext.length) =
            head ++ plaintext := by
          rw [← List.append_assoc, List.take_left' (by rw [List.length_append, hhead])]
        rw [hcut, slice_drop (by rw [List.length_append, hhead]; omega), List.drop_left' hhead]
        rfl

/-- **The two decryptors agree on every buffer**, never index out of range, and invert
encryption. -/
theorem decrypt_eq_decryptInPlace (key : Aead) :
    (∀ wireData scratch, ∃ r, decryptChecked key wireData = some r ∧
      decryptInPlaceChecked key scratch wireData = some r) ∧
      (key.Lawful → ∀ plaintext nonce scratch,
        decryptChecked key (encryptWithNonce key plaintext nonce) = some (.ok plaintext) ∧
          decryptInPlaceChecked key scratch (encryptWithNonce key plaintext nonce) =
            some (.ok plaintext)) := by
  refine ⟨fun wireData scratch => ⟨decryptInPlace key wireData, decryptChecked_eq key wireData,
    decryptInPlaceChecked_eq key scratch wireData⟩, fun hk plaintext nonce scratch => ?_⟩
  rw [decryptChecked_eq, decryptInPlaceChecked_eq,
    decryptInPlace_encryptWithNonce hk plaintext nonce]
  exact ⟨rfl, rfl⟩

/-- The plaintext, with a tag of zeros. -/
def nullAead : Aead where
  sealAppendTag _ plaintext := plaintext ++ List.replicate tagLen 0
  openInPlace _ ciphertext :=
    if ciphertext.drop (ciphertext.length - tagLen) = List.replicate tagLen 0 then
      some (ciphertext.take (ciphertext.length - tagLen))
    else none

theorem lawful_nullAead : nullAead.Lawful where
  openInPlace_seal nonce plaintext := by simp [nullAead]
  length_seal nonce plaintext := by simp [nullAead]

theorem decrypt_eq_decryptInPlace_nullAead :
    decryptChecked nullAead (encryptWithNonce nullAead [1, 2, 3] (Vector.replicate 12 0)) =
        some (.ok [1, 2, 3]) ∧
      decryptInPlaceChecked nullAead (List.replicate 16 0)
          (encryptWithNonce nullAead [1, 2, 3] (Vector.replicate 12 0)) = some (.ok [1, 2, 3]) :=
  (decrypt_eq_decryptInPlace nullAead).2 lawful_nullAead [1, 2, 3] (Vector.replicate 12 0)
    (List.replicate 16 0)

end AnyPlug
