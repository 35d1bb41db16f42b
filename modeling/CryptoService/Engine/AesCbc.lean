import CryptoService.Engine.AesGcm

/-!
# AES-CBC with PKCS#7 padding

`AESEngine::encryptCBC` / `decryptCBC` of `crypto/engine/aes_engine.cpp`. The engine pads the
plaintext itself (`addPKCS7Padding`), turns OpenSSL's padding off, and strips the padding after
decryption (`removePKCS7Padding`), so OpenSSL only chains whole blocks (`cbcEncrypt`,
`cbcDecrypt`). AES is an ideal block cipher (`BlockCipher`): under each key, decryption undoes
encryption on every 16-byte block. The OpenSSL context calls do not fail.

* `aes_round_trip`: every plaintext within the engine's limit comes back from GCM and from
  CBC, under every key of AES size and every IV drawn; the padded CBC ciphertext stays within
  the decryption limit;
* `decryption_failure_errors`: past the validators every GCM failure is the one opaque
  integrity error, but CBC, under every cipher, key and IV and at every length the validators
  accept, has ciphertexts failing with `Invalid padding length` and others with
  `Invalid padding bytes`: the message tells whether the last decrypted byte is a padding
  length.
-/

namespace CryptoService

namespace aes_cbc

/-- `aes_cbc::IV_SIZE`. -/
def IV_SIZE : ℕ := 16

/-- `aes_cbc::BLOCK_SIZE`. -/
def BLOCK_SIZE : ℕ := 16

end aes_cbc

/-- `validateCBCIVSize`. -/
def validateCBCIVSize : ℕ → Result Unit :=
  validateExactly 16 .INVALID_IV_SIZE "CBC IV must be 128 bits".toList

/-- AES as an ideal block cipher: under each key, encryption takes 16-byte blocks to 16-byte
blocks and decryption undoes it. -/
structure BlockCipher where
  encrypt : Bytes → Bytes → Bytes
  decrypt : Bytes → Bytes → Bytes
  length_encrypt : ∀ k b, b.length = 16 → (encrypt k b).length = 16
  decrypt_encrypt : ∀ k b, b.length = 16 → decrypt k (encrypt k b) = b

/-! ## Chaining -/

/-- Bytewise exclusive or. -/
def xorBytes (x y : Bytes) : Bytes := List.zipWith (· ^^^ ·) x y

@[simp] theorem length_xorBytes (x y : Bytes) :
    (xorBytes x y).length = min x.length y.length :=
  List.length_zipWith ..

theorem uint8_xor_xor_cancel (a b : UInt8) : a ^^^ b ^^^ b = a := by
  cases a; cases b
  simp only [HXor.hXor, Xor.xor, UInt8.xor]
  congr 1
  simp [BitVec.xor_assoc]

/-- Exclusive or with the same bytes twice gives back what was there. -/
theorem xorBytes_xorBytes {x y : Bytes} (h : x.length ≤ y.length) :
    xorBytes (xorBytes x y) y = x := by
  induction x generalizing y with
  | nil => rfl
  | cons a x ih =>
    cases y with
    | nil => simp at h
    | cons b y =>
      simp only [List.length_cons, Nat.add_le_add_iff_right] at h
      simp only [xorBytes, List.zipWith_cons_cons, uint8_xor_xor_cancel] at ih ⊢
      rw [ih h]

variable (C : BlockCipher)

/-- CBC encryption of the first `n` blocks of `data`, chained from `prev`: what
`EVP_EncryptUpdate` does with padding off. -/
def cbcEncrypt (key : Bytes) : ℕ → Bytes → Bytes → Bytes
  | 0, _, _ => []
  | n + 1, prev, data =>
    let c := C.encrypt key (xorBytes (data.take 16) prev)
    c ++ cbcEncrypt key n c (data.drop 16)

/-- CBC decryption of the first `n` blocks of `data`, chained from `prev`. -/
def cbcDecrypt (key : Bytes) : ℕ → Bytes → Bytes → Bytes
  | 0, _, _ => []
  | n + 1, prev, data =>
    xorBytes (C.decrypt key (data.take 16)) prev ++ cbcDecrypt key n (data.take 16) (data.drop 16)

section Chaining

variable {C}

/-- The block a CBC step enciphers has sixteen bytes. -/
theorem length_xorBytes_take {data prev : Bytes} {n : ℕ} (hp : prev.length = 16)
    (hd : data.length = 16 * (n + 1)) : (xorBytes (data.take 16) prev).length = 16 := by
  rw [length_xorBytes, List.length_take, hp, hd]; omega

theorem length_cbcEncrypt (key : Bytes) (n : ℕ) {prev data : Bytes} (hp : prev.length = 16)
    (hd : data.length = 16 * n) : (cbcEncrypt C key n prev data).length = 16 * n := by
  induction n generalizing prev data with
  | zero => rfl
  | succ n ih =>
    have hc := C.length_encrypt key _ (length_xorBytes_take hp hd)
    have hd' : (data.drop 16).length = 16 * n := by rw [List.length_drop, hd]; omega
    simp only [cbcEncrypt, List.length_append, hc, ih hc hd']
    omega

/-- **CBC decryption undoes CBC encryption**, block by block, from the same IV. -/
theorem cbcDecrypt_cbcEncrypt (key : Bytes) (n : ℕ) {prev data : Bytes} (hp : prev.length = 16)
    (hd : data.length = 16 * n) : cbcDecrypt C key n prev (cbcEncrypt C key n prev data) = data := by
  induction n generalizing prev data with
  | zero => rw [List.eq_nil_of_length_eq_zero (by omega : data.length = 0)]; rfl
  | succ n ih =>
    have hx := length_xorBytes_take hp hd
    have hc := C.length_encrypt key _ hx
    have hd' : (data.drop 16).length = 16 * n := by rw [List.length_drop, hd]; omega
    simp only [cbcEncrypt, cbcDecrypt, List.take_left' hc, List.drop_left' hc,
      C.decrypt_encrypt key _ hx, ih hc hd']
    rw [xorBytes_xorBytes (by simp [hp]), List.take_append_drop]

end Chaining

/-! ## Padding -/

/-- `AESEngine::addPKCS7Padding`. -/
def addPKCS7Padding (data : Bytes) : Bytes :=
  let padding_len := aes_cbc.BLOCK_SIZE - data.length % aes_cbc.BLOCK_SIZE
  data ++ List.replicate padding_len (UInt8.ofNat padding_len)

/-- `AESEngine::removePKCS7Padding`. -/
def removePKCS7Padding (data : Bytes) : Result Bytes :=
  match data.getLast? with
  | none => err .PADDING_ERROR "Empty data".toList
  | some padding_len =>
    if padding_len = 0 ∨ padding_len.toNat > aes_cbc.BLOCK_SIZE ∨
        padding_len.toNat > data.length then
      err .PADDING_ERROR "Invalid padding length".toList
    else if ∀ b ∈ data.drop (data.length - padding_len.toNat), b = padding_len then
      .ok (data.take (data.length - padding_len.toNat))
    else err .PADDING_ERROR "Invalid padding bytes".toList

theorem length_addPKCS7Padding (data : Bytes) :
    (addPKCS7Padding data).length = 16 * (data.length / 16 + 1) := by
  simp only [addPKCS7Padding, aes_cbc.BLOCK_SIZE, List.length_append, List.length_replicate]
  omega

/-- Between one and sixteen bytes of their own length are stripped off again. -/
theorem removePKCS7Padding_append_replicate (data : Bytes) {p : ℕ} (h₁ : 0 < p) (h₂ : p ≤ 16) :
    removePKCS7Padding (data ++ List.replicate p (UInt8.ofNat p)) = .ok data := by
  obtain ⟨m, rfl⟩ : ∃ m, p = m + 1 := ⟨p - 1, by omega⟩
  have hp : (UInt8.ofNat (m + 1)).toNat = m + 1 :=
    UInt8.toNat_ofNat_of_lt (by simp only [UInt8.size]; omega)
  have hne : UInt8.ofNat (m + 1) ≠ 0 := fun h => by simp [h] at hp
  have hlast : (data ++ List.replicate (m + 1) (UInt8.ofNat (m + 1))).getLast? =
      some (UInt8.ofNat (m + 1)) := by
    rw [List.replicate_succ', ← List.append_assoc, List.getLast?_concat]
  have hlen : (data ++ List.replicate (m + 1) (UInt8.ofNat (m + 1))).length - (m + 1) =
      data.length := by simp
  rw [removePKCS7Padding, hlast]
  dsimp only
  rw [hp, hlen, List.drop_left, List.take_left, if_pos (fun b hb => List.eq_of_mem_replicate hb),
    if_neg]
  simp only [aes_cbc.BLOCK_SIZE, List.length_append, List.length_replicate, not_or, not_lt]
  exact ⟨hne, by omega, by omega⟩

/-- **The padding comes off again.** -/
theorem removePKCS7Padding_addPKCS7Padding (data : Bytes) :
    removePKCS7Padding (addPKCS7Padding data) = .ok data := by
  have h : data.length % 16 < 16 := Nat.mod_lt _ (by omega)
  exact removePKCS7Padding_append_replicate data (p := 16 - data.length % 16) (by omega) (by omega)

/-- A last byte zero is no padding length. -/
theorem removePKCS7Padding_append_zero (data : Bytes) :
    removePKCS7Padding (data ++ [0]) = err .PADDING_ERROR "Invalid padding length".toList := by
  rw [removePKCS7Padding, List.getLast?_concat]
  exact if_pos (.inl rfl)

/-- A last byte 2 after a byte other than 2 is a padding length whose padding is wrong. -/
theorem removePKCS7Padding_append_pair (data : Bytes) {b : UInt8} (hb : b ≠ 2) :
    removePKCS7Padding (data ++ [b, 2]) = err .PADDING_ERROR "Invalid padding bytes".toList := by
  have h2 : (2 : UInt8).toNat = 2 := rfl
  have hlen : (data ++ [b] ++ [2]).length - 2 = data.length := by
    rw [List.length_append, List.length_append]; rfl
  rw [show data ++ [b, 2] = (data ++ [b]) ++ [2] by simp, removePKCS7Padding,
    List.getLast?_concat]
  dsimp only
  rw [h2, hlen, List.append_assoc, List.drop_left,
    if_neg (not_or.2 ⟨by decide, not_or.2 ⟨by decide, by simp⟩⟩),
    if_neg (fun h => hb (h b (by simp)))]

/-- What a successful strip took off: between one and sixteen bytes, each the count itself. -/
theorem removePKCS7Padding_eq_ok {data y : Bytes} (h : removePKCS7Padding data = .ok y) :
    ∃ p, 0 < p ∧ p ≤ 16 ∧ data = y ++ List.replicate p (UInt8.ofNat p) := by
  unfold removePKCS7Padding at h
  split at h
  · cases h
  · rename_i b _
    split_ifs at h with h₁ h₂
    · cases h
    · cases h
      simp only [aes_cbc.BLOCK_SIZE, not_or, not_lt] at h₁
      have hb : 0 < b.toNat := Nat.pos_of_ne_zero fun h0 => h₁.1 (UInt8.toNat.inj h0)
      have hd : data.drop (data.length - b.toNat) = List.replicate b.toNat (UInt8.ofNat b.toNat) :=
        List.eq_replicate_iff.2 ⟨by simp only [List.length_drop]; omega, fun x hx =>
          (h₂ x hx).trans (UInt8.toNat.inj (UInt8.toNat_ofNat_of_lt b.toNat_lt_size)).symm⟩
      refine ⟨b.toNat, hb, h₁.2.1, ?_⟩
      rw [← hd, List.take_append_drop]
    · cases h

/-- Stripping fails only with `PADDING_ERROR`. -/
theorem removePKCS7Padding_code {data : Bytes} {e : Error}
    (h : removePKCS7Padding data = .error e) : e.code = .PADDING_ERROR := by
  unfold removePKCS7Padding at h
  split at h
  · cases h; rfl
  · split_ifs at h <;> cases h <;> rfl

/-- A whole-block text that strips is the padding of what comes back. -/
theorem addPKCS7Padding_eq_of_removePKCS7Padding {x y : Bytes} (hx : x.length % 16 = 0)
    (h : removePKCS7Padding x = .ok y) : addPKCS7Padding y = x := by
  obtain ⟨p, hp, hp16, rfl⟩ := removePKCS7Padding_eq_ok h
  have hlen : 16 - y.length % 16 = p := by
    simp only [List.length_append, List.length_replicate] at hx
    omega
  simp only [addPKCS7Padding, aes_cbc.BLOCK_SIZE, hlen]

/-- **PKCS#7 padding is a bijection onto the well-padded texts.** Padding makes a positive
multiple of sixteen bytes, longer than the text; a text of whole blocks strips to `y` exactly
when it is the padding of `y`, and every other one fails with `PADDING_ERROR`. -/
theorem pkcs7_padding_bijective :
    (∀ y : Bytes, 0 < (addPKCS7Padding y).length ∧ (addPKCS7Padding y).length % 16 = 0 ∧
      y.length < (addPKCS7Padding y).length) ∧
    ∀ x : Bytes, x.length % 16 = 0 →
      (∀ y, removePKCS7Padding x = .ok y ↔ addPKCS7Padding y = x) ∧
      ((∀ y, addPKCS7Padding y ≠ x) → (removePKCS7Padding x).code? = some .PADDING_ERROR) := by
  refine ⟨fun y => ?_, fun x hx =>
    ⟨fun y => ⟨addPKCS7Padding_eq_of_removePKCS7Padding hx, ?_⟩, fun hn => ?_⟩⟩
  · rw [length_addPKCS7Padding]
    omega
  · rintro rfl
    exact removePKCS7Padding_addPKCS7Padding y
  · cases h : removePKCS7Padding x with
    | error e => exact congrArg some (removePKCS7Padding_code h)
    | ok y => exact absurd (addPKCS7Padding_eq_of_removePKCS7Padding hx h) (hn y)

/-- A block of sixteen sixteens is the padding of the empty text. -/
theorem pkcs7_padding_bijective_full_block :
    (List.replicate 16 (16 : UInt8)).length % 16 = 0 ∧
      removePKCS7Padding (List.replicate 16 16) = .ok [] :=
  ⟨rfl, ((pkcs7_padding_bijective.2 (List.replicate 16 16) rfl).1 []).2 rfl⟩

/-! ## The engine -/

/-- `AESEngine::encryptCBCWithIV`. -/
def encryptCBCWithIV (plaintext key iv : Bytes) : Result EncryptResult := do
  validatePlaintextSize plaintext.length
  validateAESKeySize key.length
  validateCBCIVSize iv.length
  let padded := addPKCS7Padding plaintext
  return ⟨cbcEncrypt C key (padded.length / aes_cbc.BLOCK_SIZE) iv padded, iv, []⟩

/-- `AESEngine::encryptCBC`, with the IV drawn by `generateIV`. -/
def encryptCBC (plaintext key : Bytes) (ivDraw : Option (Fixed aes_cbc.IV_SIZE)) :
    Result EncryptResult := do
  let iv ← generateIV ivDraw
  encryptCBCWithIV C plaintext key iv

/-- `AESEngine::decryptCBC`. -/
def decryptCBC (ciphertext key iv : Bytes) : Result Bytes := do
  validateCiphertextSize ciphertext.length
  validateAESKeySize key.length
  validateCBCIVSize iv.length
  if ciphertext.length % aes_cbc.BLOCK_SIZE ≠ 0 then
    err .INVALID_INPUT "Ciphertext must be multiple of block size".toList
  else
    removePKCS7Padding (cbcDecrypt C key (ciphertext.length / aes_cbc.BLOCK_SIZE) iv ciphertext)

section Engine

variable {C}

/-- Past its validators, `decryptCBC` strips the padding off the CBC decryption. -/
theorem decryptCBC_of_valid {c k iv : Bytes} {n : ℕ} (hc : c.length ≤ limits.MAX_CIPHERTEXT_SIZE)
    (hk : k.length = 16 ∨ k.length = 32) (hiv : iv.length = 16) (hn : c.length = 16 * n) :
    decryptCBC C c k iv = removePKCS7Padding (cbcDecrypt C k n iv c) := by
  simp only [decryptCBC, validateCiphertextSize, validateCBCIVSize, validateAtMost_of_le hc,
    validateAESKeySize_of hk, hiv, validateExactly_self, ok_bind, aes_cbc.BLOCK_SIZE]
  rw [hn, if_neg (by omega), Nat.mul_div_cancel_left _ (by omega)]

/-- What CBC enciphers from the IV within the decryption limit, `decryptCBC` deciphers and
strips of its padding. -/
theorem decryptCBC_cbcEncrypt {k iv P : Bytes} {n : ℕ} (hk : k.length = 16 ∨ k.length = 32)
    (hiv : iv.length = 16) (hP : P.length = 16 * n) (hn : 16 * n ≤ limits.MAX_CIPHERTEXT_SIZE) :
    decryptCBC C (cbcEncrypt C k n iv P) k iv = removePKCS7Padding P := by
  have hl := length_cbcEncrypt (C := C) k n hiv hP
  rw [decryptCBC_of_valid (hl.trans_le hn) hk hiv hl, cbcDecrypt_cbcEncrypt k n hiv hP]

/-- Past its validators, `encryptCBC` with a drawn IV pads and enciphers. -/
theorem encryptCBC_of_valid {p k : Bytes} (iv : Fixed aes_cbc.IV_SIZE)
    (hp : p.length ≤ limits.MAX_PLAINTEXT_SIZE) (hk : k.length = 16 ∨ k.length = 32) :
    encryptCBC C p k (some iv) =
      .ok ⟨cbcEncrypt C k (p.length / 16 + 1) iv.1 (addPKCS7Padding p), iv.1, []⟩ := by
  have hiv : iv.1.length = 16 := iv.2
  simp only [encryptCBC, generateIV, encryptCBCWithIV, validatePlaintextSize,
    validateCBCIVSize, validateAtMost_of_le hp, validateAESKeySize_of hk, hiv,
    validateExactly_self, ok_bind, length_addPKCS7Padding, aes_cbc.BLOCK_SIZE]
  rw [Nat.mul_div_cancel_left _ (by omega)]
  rfl

/-- **What `encryptCBC` produces, `decryptCBC` opens**, for every plaintext within the
engine's limit: its padded ciphertext, at most sixteen bytes longer, is within the decryption
limit. -/
theorem decryptCBC_encryptCBC {p k : Bytes} (iv : Fixed aes_cbc.IV_SIZE)
    (hp : p.length ≤ limits.MAX_PLAINTEXT_SIZE) (hk : k.length = 16 ∨ k.length = 32) :
    ∃ r, encryptCBC C p k (some iv) = .ok r ∧ decryptCBC C r.ciphertext k r.iv = .ok p := by
  refine ⟨_, encryptCBC_of_valid iv hp hk, ?_⟩
  have hn : 16 * (p.length / 16 + 1) ≤ limits.MAX_CIPHERTEXT_SIZE := by
    simp only [limits.MAX_PLAINTEXT_SIZE, limits.MAX_CIPHERTEXT_SIZE] at hp ⊢; omega
  rw [decryptCBC_cbcEncrypt hk iv.2 (length_addPKCS7Padding p) hn,
    removePKCS7Padding_addPKCS7Padding]

/-- **Two ciphertexts of one length, two messages.** Whatever the cipher, key and IV, at every
length the validators accept there is a ciphertext whose last deciphered byte is zero, refused
with `Invalid padding length`, and one whose last two deciphered bytes are `0, 2`, refused
with `Invalid padding bytes`. -/
theorem decryptCBC_padding_errors {k iv : Bytes} (hk : k.length = 16 ∨ k.length = 32)
    (hiv : iv.length = 16) {n : ℕ} (hn₀ : 0 < n) (hn : 16 * n ≤ limits.MAX_CIPHERTEXT_SIZE) :
    ∃ c₁ c₂, c₁.length = 16 * n ∧ c₂.length = 16 * n ∧
      decryptCBC C c₁ k iv = err .PADDING_ERROR "Invalid padding length".toList ∧
      decryptCBC C c₂ k iv = err .PADDING_ERROR "Invalid padding bytes".toList := by
  have h₁ : (List.replicate (16 * n - 1) 0 ++ [0] : Bytes).length = 16 * n := by simp; omega
  have h₂ : (List.replicate (16 * n - 2) 0 ++ [0, 2] : Bytes).length = 16 * n := by simp; omega
  refine ⟨_, _, length_cbcEncrypt (C := C) k n hiv h₁, length_cbcEncrypt (C := C) k n hiv h₂, ?_, ?_⟩
  · rw [decryptCBC_cbcEncrypt hk hiv h₁ hn, removePKCS7Padding_append_zero]
  · rw [decryptCBC_cbcEncrypt hk hiv h₂ hn, removePKCS7Padding_append_pair _ (by decide)]

/-- Past its validators, every failure of `decryptGCM` is the opaque integrity error. -/
theorem decryptGCM_error {A : Aead} {c k iv t a : Bytes} {e : Error}
    (hc : c.length ≤ limits.MAX_CIPHERTEXT_SIZE) (ha : a.length ≤ limits.MAX_AAD_SIZE)
    (hk : k.length = 16 ∨ k.length = 32) (hiv : iv.length = 12) (ht : t.length = 16)
    (h : decryptGCM A c k iv t a = .error e) : e = makeSafeError .INTEGRITY_ERROR := by
  rw [decryptGCM_of_valid A hc ha hk hiv ht] at h
  split at h <;> cases h
  rfl

end Engine

/-! ## Both modes -/

variable (A : Aead)

/-- **AES round trips up to the size limits.** For every plaintext within the engine's limit,
every key of AES size, every additional data within its limit and every IV drawn, GCM and CBC
both encrypt, and decryption gives the plaintext back. -/
theorem aes_round_trip {p k aad : Bytes} (hp : p.length ≤ limits.MAX_PLAINTEXT_SIZE)
    (hk : k.length = 16 ∨ k.length = 32) (ha : aad.length ≤ limits.MAX_AAD_SIZE) (ivg : Fixed 12)
    (ivc : Fixed aes_cbc.IV_SIZE) :
    (∃ r, encryptGCM A p k aad (some ivg) = .ok r ∧
      decryptGCM A r.ciphertext k r.iv r.tag aad = .ok p) ∧
    ∃ r, encryptCBC C p k (some ivc) = .ok r ∧ decryptCBC C r.ciphertext k r.iv = .ok p :=
  ⟨⟨_, encryptGCM_of_valid A ivg hp ha hk, decryptGCM_encrypt A hp ha hk ivg.2⟩,
    decryptCBC_encryptCBC ivc hp hk⟩

/-- **Which decryption failures tell what.** Past the validators, every failure of GCM is the
one opaque integrity error; CBC, under every cipher, key and IV, has at every length the
validators accept two ciphertexts that fail with different messages. -/
theorem decryption_failure_errors :
    (∀ c k iv t a e, c.length ≤ limits.MAX_CIPHERTEXT_SIZE → a.length ≤ limits.MAX_AAD_SIZE →
      (k.length = 16 ∨ k.length = 32) → iv.length = 12 → t.length = 16 →
        decryptGCM A c k iv t a = .error e → e = makeSafeError .INTEGRITY_ERROR) ∧
    ∀ k iv n, (k.length = 16 ∨ k.length = 32) → iv.length = 16 → 0 < n →
      16 * n ≤ limits.MAX_CIPHERTEXT_SIZE → ∃ c₁ c₂, c₁.length = 16 * n ∧ c₂.length = 16 * n ∧
        decryptCBC C c₁ k iv = err .PADDING_ERROR "Invalid padding length".toList ∧
        decryptCBC C c₂ k iv = err .PADDING_ERROR "Invalid padding bytes".toList :=
  ⟨fun _ _ _ _ _ _ hc ha hk hiv ht h => decryptGCM_error hc ha hk hiv ht h,
    fun _ _ _ hk hiv hn₀ hn => decryptCBC_padding_errors hk hiv hn₀ hn⟩

/-! ## Samples -/

/-- The identity permutation of blocks: a concrete `BlockCipher`. -/
def identityCipher : BlockCipher where
  encrypt _ b := b
  decrypt _ b := b
  length_encrypt _ _ h := h
  decrypt_encrypt _ _ _ := rfl

/-- Sixteen zero bytes: the AES-128 key and the CBC IV of the samples. -/
def zeroBlock : Fixed 16 := ⟨List.replicate 16 0, List.length_replicate _ _⟩

/-- Twelve zero bytes: the GCM IV of the samples. -/
def zeroGcmIv : Fixed 12 := ⟨List.replicate 12 0, List.length_replicate _ _⟩

theorem aes_round_trip_sample :
    ([1, 2, 3] : Bytes).length ≤ limits.MAX_PLAINTEXT_SIZE ∧
    (zeroBlock.1.length = 16 ∨ zeroBlock.1.length = 32) ∧
    ([] : Bytes).length ≤ limits.MAX_AAD_SIZE ∧
    (∃ r, encryptGCM checksumAead [1, 2, 3] zeroBlock.1 [] (some zeroGcmIv) = .ok r ∧
      decryptGCM checksumAead r.ciphertext zeroBlock.1 r.iv r.tag [] = .ok [1, 2, 3]) ∧
    ∃ r, encryptCBC identityCipher [1, 2, 3] zeroBlock.1 (some zeroBlock) = .ok r ∧
      decryptCBC identityCipher r.ciphertext zeroBlock.1 r.iv = .ok [1, 2, 3] :=
  ⟨by decide, .inl zeroBlock.2, by decide,
    aes_round_trip identityCipher checksumAead (by decide) (.inl zeroBlock.2) (by decide)
      zeroGcmIv zeroBlock⟩

/-- **A padding oracle under the identity cipher**: with the zero key and IV, the block of
sixteen zeros and the block of fifteen zeros and a 2 fail with different messages. -/
theorem decryption_failure_errors_identity :
    ∃ c₁ c₂, c₁.length = 16 ∧ c₂.length = 16 ∧
      decryptCBC identityCipher c₁ zeroBlock.1 zeroBlock.1 =
        err .PADDING_ERROR "Invalid padding length".toList ∧
      decryptCBC identityCipher c₂ zeroBlock.1 zeroBlock.1 =
        err .PADDING_ERROR "Invalid padding bytes".toList :=
  (decryption_failure_errors identityCipher checksumAead).2 _ _ 1 (.inl zeroBlock.2) zeroBlock.2
    (by decide) (by decide)

end CryptoService
