import CryptoService.Common.Result

/-!
# AES-GCM and the input validators

`AESEngine::encryptGCM` / `decryptGCM` of `crypto/engine/aes_engine.cpp` over the size
validators of `crypto/common/input_validation.h`. The OpenSSL cipher is an ideal AEAD
(`Aead`): decryption accepts exactly the outputs of encryption, and rejects every one-byte
change of the IV, the ciphertext or the tag of an output (GCM does: the tag is linear in the
ciphertext blocks and the IV selects the tag mask). The OpenSSL context calls do not fail.

* `decryptGCM_of_encryptGCMWithIV`: what `encryptGCMWithIV` produces, `decryptGCM` opens;
* `decryptGCM_edit`: a one-byte change of IV, ciphertext or tag fails with `INTEGRITY_ERROR`.

`checksumAead` is a concrete instance of the laws (identity cipher, additive checksum tag).
-/

namespace CryptoService

/-- `y` is `x` with the byte at one position replaced by a different byte. -/
def OneByteEdit (x y : Bytes) : Prop :=
  ∃ i b, ∃ h : i < x.length, x[i] ≠ b ∧ y = x.set i b

theorem OneByteEdit.length_eq {x y : Bytes} (h : OneByteEdit x y) : y.length = x.length := by
  obtain ⟨i, b, hi, -, rfl⟩ := h; simp

/-- AES-GCM as an ideal AEAD: `encrypt key iv aad p` is the ciphertext and the tag. -/
structure Aead where
  encrypt : Bytes → Bytes → Bytes → Bytes → Bytes × Bytes
  decrypt : Bytes → Bytes → Bytes → Bytes → Bytes → Option Bytes
  decrypt_encrypt : ∀ k iv a p, decrypt k iv a (encrypt k iv a p).1 (encrypt k iv a p).2 = some p
  encrypt_of_decrypt : ∀ k iv a c t p, decrypt k iv a c t = some p → encrypt k iv a p = (c, t)
  length_ciphertext : ∀ k iv a p, (encrypt k iv a p).1.length = p.length
  length_tag : ∀ k iv a p, (encrypt k iv a p).2.length = 16
  decrypt_edit : ∀ k iv a p iv' c' t', iv'.length = iv.length → t'.length = 16 →
    OneByteEdit (iv ++ (encrypt k iv a p).1 ++ (encrypt k iv a p).2) (iv' ++ c' ++ t') →
    decrypt k iv' a c' t' = none

/-! ## Validators -/

namespace limits

/-- `limits::MAX_PLAINTEXT_SIZE`. -/
def MAX_PLAINTEXT_SIZE : ℕ := 64 * 1024 * 1024
/-- `limits::MAX_CIPHERTEXT_SIZE`. -/
def MAX_CIPHERTEXT_SIZE : ℕ := 64 * 1024 * 1024 + 1024
/-- `limits::MAX_AAD_SIZE`. -/
def MAX_AAD_SIZE : ℕ := 64 * 1024

end limits

/-- The size-limit validators: a size past `limit` fails with `SIZE_LIMIT_EXCEEDED`. -/
def validateAtMost (limit : ℕ) (message : List Char) (size : ℕ) : Result Unit :=
  if size > limit then err .SIZE_LIMIT_EXCEEDED message else .ok ()

/-- The exact-size validators: a size other than `expected` fails with `code`. -/
def validateExactly (expected : ℕ) (code : ErrorCode) (message : List Char) (size : ℕ) :
    Result Unit :=
  if size ≠ expected then err code message else .ok ()

/-- `validatePlaintextSize`. -/
def validatePlaintextSize : ℕ → Result Unit :=
  validateAtMost limits.MAX_PLAINTEXT_SIZE "Input exceeds maximum allowed size".toList
/-- `validateCiphertextSize`. -/
def validateCiphertextSize : ℕ → Result Unit :=
  validateAtMost limits.MAX_CIPHERTEXT_SIZE "Ciphertext exceeds maximum allowed size".toList
/-- `validateAADSize`. -/
def validateAADSize : ℕ → Result Unit :=
  validateAtMost limits.MAX_AAD_SIZE "AAD exceeds maximum allowed size".toList
/-- `validateGCMIVSize`. -/
def validateGCMIVSize : ℕ → Result Unit :=
  validateExactly 12 .INVALID_IV_SIZE "GCM IV must be 96 bits".toList
/-- `validateGCMTagSize`. -/
def validateGCMTagSize : ℕ → Result Unit :=
  validateExactly 16 .INVALID_TAG_SIZE "GCM tag must be 128 bits".toList

/-- `validateAESKeySize`: 16 or 32 bytes. -/
def validateAESKeySize (size : ℕ) : Result Unit :=
  if size ≠ 16 ∧ size ≠ 32 then err .INVALID_KEY_SIZE "AES key must be 128 or 256 bits".toList
  else .ok ()

theorem validateAtMost_of_le {l : ℕ} {m : List Char} {n : ℕ} (h : n ≤ l) :
    validateAtMost l m n = .ok () := if_neg (by omega)

@[simp] theorem validateExactly_self {e : ℕ} {c : ErrorCode} {m : List Char} :
    validateExactly e c m e = .ok () := if_neg (by simp)

theorem validateAESKeySize_of {n : ℕ} (h : n = 16 ∨ n = 32) : validateAESKeySize n = .ok () :=
  if_neg (by omega)

@[simp] theorem validateAtMost_eq_ok {l : ℕ} {m : List Char} {n : ℕ} :
    validateAtMost l m n = .ok () ↔ n ≤ l := by
  unfold validateAtMost; split <;> simp_all [err]

@[simp] theorem validateExactly_eq_ok {e : ℕ} {c : ErrorCode} {m : List Char} {n : ℕ} :
    validateExactly e c m n = .ok () ↔ n = e := by
  unfold validateExactly; split <;> simp_all [err]

@[simp] theorem validateAESKeySize_eq_ok {n : ℕ} :
    validateAESKeySize n = .ok () ↔ n = 16 ∨ n = 32 := by
  unfold validateAESKeySize; split <;> simp_all [err]; omega

/-- `makeSafeError`: the generic message of a code. -/
def makeSafeError (code : ErrorCode) : Error :=
  match code with
  | .ENCRYPTION_FAILED => ⟨code, "Encryption operation failed".toList⟩
  | .DECRYPTION_FAILED => ⟨code, "Decryption operation failed".toList⟩
  | .SIGNATURE_INVALID => ⟨code, "Signature verification failed".toList⟩
  | .INTEGRITY_ERROR => ⟨code, "Data integrity verification failed".toList⟩
  | _ => ⟨code, "Operation failed".toList⟩

/-! ## The engine -/

/-- `crypto::EncryptResult`. -/
structure EncryptResult where
  ciphertext : Bytes
  iv : Bytes
  tag : Bytes
  deriving DecidableEq, Repr

variable (A : Aead)

/-- `AESEngine::generateIV`: the draw of `RAND_bytes` for the IV. -/
def generateIV {n : ℕ} : Option (Fixed n) → Result Bytes
  | some iv => .ok iv.1
  | none => err .CRYPTO_ERROR "Failed to generate random IV".toList

/-- `AESEngine::encryptGCMWithIV`. -/
def encryptGCMWithIV (plaintext key iv aad : Bytes) : Result EncryptResult := do
  validatePlaintextSize plaintext.length
  validateAADSize aad.length
  validateAESKeySize key.length
  validateGCMIVSize iv.length
  let r := A.encrypt key iv aad plaintext
  return ⟨r.1, iv, r.2⟩

/-- `AESEngine::encryptGCM`, with the IV drawn by `generateIV`. -/
def encryptGCM (plaintext key aad : Bytes) (ivDraw : Option (Fixed 12)) :
    Result EncryptResult := do
  let iv ← generateIV ivDraw
  encryptGCMWithIV A plaintext key iv aad

/-- `AESEngine::decryptGCM`. -/
def decryptGCM (ciphertext key iv tag aad : Bytes) : Result Bytes := do
  validateCiphertextSize ciphertext.length
  validateAADSize aad.length
  validateAESKeySize key.length
  validateGCMIVSize iv.length
  validateGCMTagSize tag.length
  match A.decrypt key iv aad ciphertext tag with
  | some p => .ok p
  | none => .error (makeSafeError .INTEGRITY_ERROR)

/-- The conditions under which `encryptGCMWithIV` succeeds, and its output. -/
theorem encryptGCMWithIV_eq_ok {p k iv a : Bytes} {r : EncryptResult} :
    encryptGCMWithIV A p k iv a = .ok r ↔
      (p.length ≤ limits.MAX_PLAINTEXT_SIZE ∧ a.length ≤ limits.MAX_AAD_SIZE ∧
        (k.length = 16 ∨ k.length = 32) ∧ iv.length = 12) ∧
      ⟨(A.encrypt k iv a p).1, iv, (A.encrypt k iv a p).2⟩ = r := by
  simp [encryptGCMWithIV, validatePlaintextSize, validateAADSize, validateGCMIVSize, and_assoc]

/-- Past its validators, `decryptGCM` is the AEAD's decryption. -/
theorem decryptGCM_of_valid {c k iv t a : Bytes} (hc : c.length ≤ limits.MAX_CIPHERTEXT_SIZE)
    (ha : a.length ≤ limits.MAX_AAD_SIZE) (hk : k.length = 16 ∨ k.length = 32)
    (hiv : iv.length = 12) (ht : t.length = 16) :
    decryptGCM A c k iv t a = match A.decrypt k iv a c t with
      | some p => .ok p
      | none => .error (makeSafeError .INTEGRITY_ERROR) := by
  simp only [decryptGCM, validateCiphertextSize, validateAADSize, validateGCMIVSize,
    validateGCMTagSize, validateAtMost_of_le hc, validateAtMost_of_le ha, validateAESKeySize_of hk,
    hiv, ht, validateExactly_self, ok_bind]

/-- **What `encryptGCMWithIV` produces, `decryptGCM` opens.** -/
theorem decryptGCM_of_encryptGCMWithIV {p k iv a : Bytes} {r : EncryptResult}
    (h : encryptGCMWithIV A p k iv a = .ok r) : decryptGCM A r.ciphertext k r.iv r.tag a = .ok p := by
  obtain ⟨⟨h₁, h₂, h₃, h₄⟩, rfl⟩ := (encryptGCMWithIV_eq_ok A).1 h
  have hc : (A.encrypt k iv a p).1.length ≤ limits.MAX_CIPHERTEXT_SIZE := by
    rw [A.length_ciphertext]; simp only [limits.MAX_PLAINTEXT_SIZE] at h₁
    simp only [limits.MAX_CIPHERTEXT_SIZE]; omega
  rw [decryptGCM_of_valid A hc h₂ h₃ h₄ (A.length_tag ..), A.decrypt_encrypt]

/-- What the AEAD encrypts within the engine's limits, `decryptGCM` opens. -/
theorem decryptGCM_encrypt {p k iv a : Bytes} (hp : p.length ≤ limits.MAX_PLAINTEXT_SIZE)
    (ha : a.length ≤ limits.MAX_AAD_SIZE) (hk : k.length = 16 ∨ k.length = 32)
    (hiv : iv.length = 12) :
    decryptGCM A (A.encrypt k iv a p).1 k iv (A.encrypt k iv a p).2 a = .ok p :=
  decryptGCM_of_encryptGCMWithIV A (r := ⟨_, iv, _⟩) ((encryptGCMWithIV_eq_ok A).2 ⟨⟨hp, ha, hk, hiv⟩, rfl⟩)

/-- Past its validators, `encryptGCM` with a drawn IV is the AEAD's encryption. -/
theorem encryptGCM_of_valid {p k a : Bytes} (iv : Fixed 12)
    (hp : p.length ≤ limits.MAX_PLAINTEXT_SIZE) (ha : a.length ≤ limits.MAX_AAD_SIZE)
    (hk : k.length = 16 ∨ k.length = 32) :
    encryptGCM A p k a (some iv) = .ok ⟨(A.encrypt k iv.1 a p).1, iv.1, (A.encrypt k iv.1 a p).2⟩ :=
  (encryptGCMWithIV_eq_ok A).2 ⟨⟨hp, ha, hk, iv.2⟩, rfl⟩

theorem encryptGCM_eq_ok {p k a : Bytes} {d : Option (Fixed 12)} {r : EncryptResult}
    (h : encryptGCM A p k a d = .ok r) : ∃ iv, d = some iv ∧ encryptGCMWithIV A p k iv.1 a = .ok r := by
  cases d with
  | none => simp [encryptGCM, generateIV, err] at h
  | some iv => exact ⟨iv, rfl, h⟩

/-- **A one-byte change of the IV, the ciphertext or the tag of an output fails** with the
opaque integrity error. -/
theorem decryptGCM_edit {p k iv a iv' c' t' : Bytes} (hk : k.length = 16 ∨ k.length = 32)
    (ha : a.length ≤ limits.MAX_AAD_SIZE) (hiv : iv.length = 12) (hiv' : iv'.length = 12)
    (ht' : t'.length = 16) (hc' : c'.length ≤ limits.MAX_CIPHERTEXT_SIZE)
    (h : OneByteEdit (iv ++ (A.encrypt k iv a p).1 ++ (A.encrypt k iv a p).2) (iv' ++ c' ++ t')) :
    decryptGCM A c' k iv' t' a = .error (makeSafeError .INTEGRITY_ERROR) := by
  rw [decryptGCM_of_valid A hc' ha hk hiv' ht', A.decrypt_edit k iv a p iv' c' t' (by omega) ht' h]

/-! ## A concrete instance of the laws -/

/-- The byte sum modulo 256, then fifteen zero bytes. -/
def checksumTag (x : Bytes) : Bytes :=
  UInt8.ofNat ((x.map UInt8.toNat).sum % 256) :: List.replicate 15 0

theorem sum_map_set (u : Bytes) (i : ℕ) (b : UInt8) (hi : i < u.length) :
    ((u.set i b).map UInt8.toNat).sum + u[i].toNat = (u.map UInt8.toNat).sum + b.toNat := by
  induction u generalizing i with
  | nil => simp at hi
  | cons x u ih =>
    cases i with
    | zero => simp; omega
    | succ i =>
      have := ih i (by simpa using hi)
      simp only [List.set_cons_succ, List.map_cons, List.sum_cons, List.getElem_cons_succ]
      omega

/-- Changing one byte changes the checksum. -/
theorem checksumTag_set {u : Bytes} {i : ℕ} {b : UInt8} (hi : i < u.length) (hb : u[i] ≠ b) :
    checksumTag (u.set i b) ≠ checksumTag u := by
  intro h
  have hs := sum_map_set u i b hi
  have h8 : ∀ n, (UInt8.ofNat (n % 256)).toNat = n % 256 := fun n =>
    UInt8.toNat_ofNat_of_lt (by simp only [UInt8.size]; omega)
  have := congrArg (fun l => (l.headD 0).toNat) h
  simp only [checksumTag, List.headD_cons, h8] at this
  have h1 := u[i].toNat_lt_size
  have h2 := b.toNat_lt_size
  simp only [UInt8.size] at h1 h2
  exact hb (UInt8.toNat.inj (by omega))

/-- The identity cipher with the checksum tag: a concrete `Aead`. -/
def checksumAead : Aead where
  encrypt _ iv _ p := (p, checksumTag (iv ++ p))
  decrypt _ iv _ c t := if t = checksumTag (iv ++ c) then some c else none
  decrypt_encrypt := by intros; simp
  encrypt_of_decrypt := by
    intro k iv a c t p h
    dsimp only at h ⊢
    split at h
    · cases h; simp_all
    · cases h
  length_ciphertext := by intros; rfl
  length_tag := by intros; simp [checksumTag]
  decrypt_edit := by
    rintro k iv a p iv' c' t' hiv ht' ⟨i, b, hi, hb, h⟩
    dsimp only at hi hb h ⊢
    simp only [ite_eq_right_iff, reduceCtorEq, imp_false]
    intro ht
    have hlen := congrArg List.length h
    simp only [List.length_append, List.length_set, ht', checksumTag, List.length_cons,
      List.length_replicate] at hlen
    rcases Nat.lt_or_ge i (iv ++ p).length with hu | hu
    · -- the edit is in the IV or the ciphertext: the checksum no longer matches
      rw [List.set_append_left _ _ hu] at h
      obtain ⟨hc, rfl⟩ := List.append_inj h (by simp; omega)
      rw [hc] at ht
      rw [List.getElem_append_left hu] at hb
      exact checksumTag_set hu hb ht.symm
    · -- the edit is in the tag: it no longer equals the checksum
      rw [List.set_append_right _ _ hu] at h
      obtain ⟨hc, rfl⟩ := List.append_inj h (by simp; omega)
      rw [hc] at ht
      have hj : i - (iv ++ p).length < (checksumTag (iv ++ p)).length := by
        simp only [List.length_append, checksumTag, List.length_cons, List.length_replicate] at hi ⊢
        omega
      have := congrArg (fun l => l[i - (iv ++ p).length]?) ht
      simp only [List.getElem?_set_self hj, List.getElem?_eq_getElem hj, Option.some.injEq] at this
      rw [List.getElem_append_right hu] at hb
      exact hb this.symm

end CryptoService
