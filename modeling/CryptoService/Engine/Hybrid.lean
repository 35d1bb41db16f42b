import CryptoService.Engine.AesGcm
import CryptoService.Engine.Rsa

/-!
# Hybrid encryption

`HybridEncryption` of `crypto/engine/hybrid_encryption.cpp` seals data under an RSA key pair: a
fresh AES-256 key encrypts the data with AES-GCM, and RSA-OAEP with SHA-256 wraps the AES key.
Decryption unwraps the key, checks that it has 32 bytes, and opens the data with it.

OpenSSL's RSA decryption is abstract as its encryption is (`OaepDecrypt`), with one law: under
the key that encrypted, it returns the plaintext. As in `Engine/Rsa`, the context calls do not
fail, and OpenSSL's size query (`EVP_PKEY_decrypt` without an output buffer) answers.

* `HybridEncryption.decrypt_of_encrypt`: what `encrypt` seals under a key pair, `decrypt` opens
  with it;
* `HybridEncryption.decrypt_of_edit`: a one-byte change of the IV, the ciphertext or the tag of a
  sealed result, its wrapped key left as it is, fails with the opaque integrity error.
-/

namespace CryptoService

/-- OpenSSL's RSA-OAEP decryption under a key with a hash (`none` where `EVP_PKEY_decrypt`
fails): under the key and the hash that encrypted, it returns the plaintext. -/
structure OaepDecrypt (O : OpenSsl) where
  EVP_PKEY_decrypt : EvpPkey → HashAlgorithm → Bytes → Option Bytes
  decrypt_encrypt : ∀ key hash_algo p c, O.EVP_PKEY_encrypt key hash_algo p = some c →
    EVP_PKEY_decrypt key hash_algo c = some p

namespace RSAEngine

variable {O : OpenSsl} (D : OaepDecrypt O)

/-- `RSAEngine::decryptOAEP`; `isValid` is that the pair holds a key. -/
def decryptOAEP (ciphertext : Bytes) (private_key : RSAKeyPair) (hash_algo : HashAlgorithm) :
    Result Bytes :=
  match private_key.key_ with
  | none => err .INVALID_INPUT "Invalid private key".toList
  | some key =>
    match D.EVP_PKEY_decrypt key hash_algo ciphertext with
    | none => err .DECRYPTION_FAILED "Decryption failed".toList
    | some plaintext => .ok plaintext

/-- What `encryptOAEP` wraps under a key pair, `decryptOAEP` unwraps with it. -/
theorem decryptOAEP_of_encryptOAEP {kp : RSAKeyPair} {hash_algo : HashAlgorithm} {p c : Bytes}
    (h : encryptOAEP O p kp hash_algo = .ok c) : decryptOAEP D c kp hash_algo = .ok p := by
  unfold encryptOAEP at h
  cases hk : kp.key_ with
  | none => rw [hk] at h; cases h
  | some key =>
    rw [hk] at h
    dsimp only at h
    split_ifs at h
    · cases h
    · unfold pkeyEncrypt at h
      cases he : O.EVP_PKEY_encrypt key hash_algo p with
      | none => rw [he] at h; cases h
      | some w =>
        rw [he] at h
        cases h
        rw [decryptOAEP, hk]
        dsimp only
        rw [D.decrypt_encrypt key hash_algo p _ he]

end RSAEngine

/-- `AESEngine::generateKey(key_size)`, with the draw of `RAND_bytes` for the key. -/
def AESEngine.generateKey {n : ℕ} : Option (Fixed n) → Result Bytes
  | some key => .ok key.1
  | none => err .KEY_GENERATION_FAILED "Failed to generate random key".toList

/-- `crypto::HybridEncryptResult`. -/
structure HybridEncryptResult where
  wrapped_key : Bytes
  ciphertext : Bytes
  iv : Bytes
  tag : Bytes
  deriving DecidableEq, Repr

namespace HybridEncryption

variable {O : OpenSsl} (D : OaepDecrypt O) (A : Aead)

variable (O) in
/-- `HybridEncryption::encrypt`, with the draws of the AES-256 key and of the IV. -/
def encrypt (plaintext : Bytes) (public_key : RSAKeyPair) (aad : Bytes)
    (keyDraw : Option (Fixed 32)) (ivDraw : Option (Fixed 12)) : Result HybridEncryptResult :=
  match public_key.key_ with
  | none => err .INVALID_INPUT "Invalid public key".toList
  | some _ => do
    let key ← AESEngine.generateKey keyDraw
    let encrypt_result ← encryptGCM A plaintext key aad ivDraw
    let wrapped_key ← RSAEngine.encryptOAEP O key public_key .SHA256
    pure ⟨wrapped_key, encrypt_result.ciphertext, encrypt_result.iv, encrypt_result.tag⟩

/-- `HybridEncryption::decrypt` over the four parts. -/
def decryptParts (wrapped_key ciphertext iv tag : Bytes) (private_key : RSAKeyPair)
    (aad : Bytes) : Result Bytes :=
  match private_key.key_ with
  | none => err .INVALID_INPUT "Invalid private key".toList
  | some _ => do
    let key ← RSAEngine.decryptOAEP D wrapped_key private_key .SHA256
    if key.length ≠ 32 then err .INVALID_KEY_SIZE "Unwrapped key has invalid size".toList
    else decryptGCM A ciphertext key iv tag aad

/-- `HybridEncryption::decrypt` of a sealed result. -/
def decrypt (encrypted : HybridEncryptResult) (private_key : RSAKeyPair) (aad : Bytes) :
    Result Bytes :=
  decryptParts D A encrypted.wrapped_key encrypted.ciphertext encrypted.iv encrypted.tag
    private_key aad

/-- What a successful `encrypt` is made of: the key pair holds a key, and the result is the
wrapped AES key beside the GCM output under it. -/
theorem encrypt_eq_ok {p aad : Bytes} {kp : RSAKeyPair} {kd : Option (Fixed 32)}
    {ivd : Option (Fixed 12)} {r : HybridEncryptResult}
    (h : encrypt O A p kp aad kd ivd = .ok r) :
    ∃ key : Fixed 32, ∃ er, kp.key_.isSome ∧ kd = some key ∧ encryptGCM A p key.1 aad ivd = .ok er ∧
      RSAEngine.encryptOAEP O key.1 kp .SHA256 = .ok r.wrapped_key ∧
      r.ciphertext = er.ciphertext ∧ r.iv = er.iv ∧ r.tag = er.tag := by
  unfold encrypt at h
  split at h
  · cases h
  · rename_i hk
    cases kd with
    | none => cases h
    | some key =>
      simp only [AESEngine.generateKey, ok_bind, bind_eq_ok, pure_eq_ok] at h
      obtain ⟨er, he, w, hw, rfl⟩ := h
      exact ⟨key, er, by simp [hk], rfl, he, hw, rfl, rfl, rfl⟩

/-- With a key pair that holds a key, `decrypt` is the unwrap, the size check, and GCM. -/
theorem decrypt_of_unwrap {kp : RSAKeyPair} (hk : kp.key_.isSome) {r : HybridEncryptResult}
    {key : Bytes} (hu : RSAEngine.decryptOAEP D r.wrapped_key kp .SHA256 = .ok key)
    (hl : key.length = 32) (aad : Bytes) :
    decrypt D A r kp aad = decryptGCM A r.ciphertext key r.iv r.tag aad := by
  obtain ⟨k, hk⟩ := Option.isSome_iff_exists.1 hk
  rw [decrypt, decryptParts, hk]
  dsimp only
  rw [hu, ok_bind, if_neg (not_not.2 hl)]

/-- **What `encrypt` seals, `decrypt` opens** with the same key pair and associated data. -/
theorem decrypt_of_encrypt {p aad : Bytes} {kp : RSAKeyPair} {kd : Option (Fixed 32)}
    {ivd : Option (Fixed 12)} {r : HybridEncryptResult}
    (h : encrypt O A p kp aad kd ivd = .ok r) : decrypt D A r kp aad = .ok p := by
  obtain ⟨key, er, hk, -, he, hw, hc, hiv, ht⟩ := encrypt_eq_ok A h
  obtain ⟨iv, -, he⟩ := encryptGCM_eq_ok A he
  rw [decrypt_of_unwrap D A hk (RSAEngine.decryptOAEP_of_encryptOAEP D hw) key.2, hc, hiv, ht]
  exact decryptGCM_of_encryptGCMWithIV A he

/-- **A one-byte change of a sealed result fails.** Changing one byte of the IV, the
ciphertext or the tag, the wrapped key left as it is, makes `decrypt` fail with the opaque
integrity error. -/
theorem decrypt_of_edit {p aad : Bytes} {kp : RSAKeyPair} {kd : Option (Fixed 32)}
    {ivd : Option (Fixed 12)} {r r' : HybridEncryptResult}
    (h : encrypt O A p kp aad kd ivd = .ok r) (hw : r'.wrapped_key = r.wrapped_key)
    (hiv : r'.iv.length = 12) (ht : r'.tag.length = 16)
    (hc : r'.ciphertext.length ≤ limits.MAX_CIPHERTEXT_SIZE)
    (he : OneByteEdit (r.iv ++ r.ciphertext ++ r.tag) (r'.iv ++ r'.ciphertext ++ r'.tag)) :
    decrypt D A r' kp aad = .error (makeSafeError .INTEGRITY_ERROR) := by
  obtain ⟨key, er, hk, -, hg, hwr, hcr, hivr, htr⟩ := encrypt_eq_ok A h
  obtain ⟨iv, -, hg⟩ := encryptGCM_eq_ok A hg
  obtain ⟨⟨-, ha, hks, hivl⟩, rfl⟩ := (encryptGCMWithIV_eq_ok A).1 hg
  rw [hcr, hivr, htr] at he
  rw [decrypt_of_unwrap D A hk (RSAEngine.decryptOAEP_of_encryptOAEP D (hw ▸ hwr)) key.2]
  exact decryptGCM_edit A hks ha hivl hiv ht hc he

/-! ## Sealing three bytes -/

/-- RSA decryption as the identity, which undoes the encryption of
`RSAEngine.smallKeyOpenSsl`. -/
def identityOaepDecrypt : OaepDecrypt RSAEngine.smallKeyOpenSsl where
  EVP_PKEY_decrypt _ _ c := some c
  decrypt_encrypt _ _ _ _ h := by cases h; rfl

theorem decrypt_of_encrypt_checksum :
    let r : HybridEncryptResult := ⟨List.replicate 32 0, [1, 2, 3], List.replicate 12 0,
      checksumTag (List.replicate 12 0 ++ [1, 2, 3])⟩
    encrypt RSAEngine.smallKeyOpenSsl checksumAead [1, 2, 3] ⟨some RSAEngine.smallKey⟩ []
        (some ⟨List.replicate 32 0, rfl⟩) (some ⟨List.replicate 12 0, rfl⟩) = .ok r ∧
      decrypt identityOaepDecrypt checksumAead r ⟨some RSAEngine.smallKey⟩ [] = .ok [1, 2, 3] :=
  have h : encrypt RSAEngine.smallKeyOpenSsl checksumAead [1, 2, 3] ⟨some RSAEngine.smallKey⟩ []
      (some ⟨List.replicate 32 0, rfl⟩) (some ⟨List.replicate 12 0, rfl⟩) =
      .ok ⟨List.replicate 32 0, [1, 2, 3], List.replicate 12 0,
        checksumTag (List.replicate 12 0 ++ [1, 2, 3])⟩ := rfl
  ⟨h, decrypt_of_encrypt identityOaepDecrypt checksumAead h⟩

theorem decrypt_of_edit_checksum :
    let r : HybridEncryptResult := ⟨List.replicate 32 0, [1, 2, 3], List.replicate 12 0,
      checksumTag (List.replicate 12 0 ++ [1, 2, 3])⟩
    let r' : HybridEncryptResult := { r with ciphertext := [1, 2, 4] }
    encrypt RSAEngine.smallKeyOpenSsl checksumAead [1, 2, 3] ⟨some RSAEngine.smallKey⟩ []
        (some ⟨List.replicate 32 0, rfl⟩) (some ⟨List.replicate 12 0, rfl⟩) = .ok r ∧
      r'.wrapped_key = r.wrapped_key ∧ r'.iv.length = 12 ∧ r'.tag.length = 16 ∧
      r'.ciphertext.length ≤ limits.MAX_CIPHERTEXT_SIZE ∧
      OneByteEdit (r.iv ++ r.ciphertext ++ r.tag) (r'.iv ++ r'.ciphertext ++ r'.tag) ∧
      decrypt identityOaepDecrypt checksumAead r' ⟨some RSAEngine.smallKey⟩ [] =
        .error (makeSafeError .INTEGRITY_ERROR) :=
  have h : encrypt RSAEngine.smallKeyOpenSsl checksumAead [1, 2, 3] ⟨some RSAEngine.smallKey⟩ []
      (some ⟨List.replicate 32 0, rfl⟩) (some ⟨List.replicate 12 0, rfl⟩) =
      .ok ⟨List.replicate 32 0, [1, 2, 3], List.replicate 12 0,
        checksumTag (List.replicate 12 0 ++ [1, 2, 3])⟩ := rfl
  have he : OneByteEdit
      (List.replicate 12 0 ++ [1, 2, 3] ++ checksumTag (List.replicate 12 0 ++ [1, 2, 3]))
      (List.replicate 12 0 ++ [1, 2, 4] ++ checksumTag (List.replicate 12 0 ++ [1, 2, 3])) :=
    ⟨14, 4, by decide, by decide, rfl⟩
  ⟨h, rfl, rfl, rfl, by decide, he,
    decrypt_of_edit identityOaepDecrypt checksumAead h rfl rfl rfl (by decide) he⟩

end HybridEncryption

end CryptoService
