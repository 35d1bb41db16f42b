import CryptoService.Common.Result

/-!
# RSA-OAEP and its size bound

`RSAEngine::encryptOAEP` of `crypto/engine/rsa_engine.cpp` checks the plaintext against
`RSAKeyPair::maxPlaintextSize`, which is `get_rsa_oaep_max_plaintext` of
`crypto/common/hash_utils.h`: `key_bytes - 2 * hash_size - 2`, computed in `size_t`. OpenSSL
is abstract (`OpenSsl`): the public-key decoders, which read a key of any size, and OAEP
encryption. The context calls around them do not fail.

* `getRsaOaepMaxPlaintext_of_nonneg` / `_of_neg`: the `size_t` bound is the integer bound
  `oaepBound` where that is not negative, and at least `2 ^ 64 - 130` where it is;
* `encryptOAEP_size_limit`: where the bound is not negative, a plaintext is refused with
  `SIZE_LIMIT_EXCEEDED` exactly when it is longer; where it is negative (a key below 1040 bits
  with SHA-512, below 784 with SHA-384, below 528 with SHA-256), every plaintext a span can
  hold goes to OpenSSL;
* `generateKeyPair_oaepBound`: the keys `generateKeyPair` makes leave at least 126 bytes.
-/

namespace CryptoService

/-- `crypto::HashAlgorithm`. -/
inductive HashAlgorithm
  | SHA256 | SHA384 | SHA512
  deriving DecidableEq, Repr

/-- `get_hash_size`. -/
def getHashSize : HashAlgorithm → ℕ
  | .SHA256 => 32
  | .SHA384 => 48
  | .SHA512 => 64

/-- `get_rsa_oaep_max_plaintext`: `key_bytes - 2 * hash_size - 2` in `size_t`, which wraps
modulo `2 ^ 64`. -/
def getRsaOaepMaxPlaintext (key_bits : ℕ) (hash_algo : HashAlgorithm) : ℕ :=
  let key_bytes := key_bits / 8
  let hash_size := getHashSize hash_algo
  ((key_bytes - 2 * hash_size - 2 : ℤ) % 2 ^ 64).toNat

/-- The largest OAEP plaintext as the spec gives it, over the integers:
`key_bytes − 2·hash_bytes − 2`. -/
def oaepBound (key_bits : ℕ) (hash_algo : HashAlgorithm) : ℤ :=
  (key_bits / 8 : ℕ) - 2 * getHashSize hash_algo - 2

theorem getHashSize_le (hash_algo : HashAlgorithm) : getHashSize hash_algo ≤ 64 := by
  cases hash_algo <;> decide

/-- The `size_t` bound is the integer bound modulo `2 ^ 64`. -/
theorem getRsaOaepMaxPlaintext_eq (key_bits : ℕ) (hash_algo : HashAlgorithm) :
    getRsaOaepMaxPlaintext key_bits hash_algo = (oaepBound key_bits hash_algo % 2 ^ 64).toNat :=
  rfl

/-- The `size_t` bound is the integer bound where that is not negative. -/
theorem getRsaOaepMaxPlaintext_of_nonneg {key_bits : ℕ} {hash_algo : HashAlgorithm}
    (hk : key_bits < 2 ^ 64) (h : 0 ≤ oaepBound key_bits hash_algo) :
    (getRsaOaepMaxPlaintext key_bits hash_algo : ℤ) = oaepBound key_bits hash_algo := by
  have hlt : oaepBound key_bits hash_algo < 2 ^ 64 := by
    unfold oaepBound; omega
  rw [getRsaOaepMaxPlaintext_eq, Int.toNat_of_nonneg (by omega), Int.emod_eq_of_lt h hlt]

/-- Where the integer bound is negative, the `size_t` bound wraps to nearly `2 ^ 64`. -/
theorem getRsaOaepMaxPlaintext_of_neg {key_bits : ℕ} {hash_algo : HashAlgorithm}
    (h : oaepBound key_bits hash_algo < 0) :
    2 ^ 64 - 130 ≤ getRsaOaepMaxPlaintext key_bits hash_algo := by
  have hs := getHashSize_le hash_algo
  have hge : -130 ≤ oaepBound key_bits hash_algo := by
    unfold oaepBound; omega
  rw [getRsaOaepMaxPlaintext_eq]
  omega

/-- What the engine reads of an OpenSSL key: its modulus size in bits, the `int` that
`EVP_PKEY_bits` returns. -/
structure EvpPkey where
  bits : ℕ
  bits_lt : bits < 2 ^ 31
  deriving DecidableEq

/-- OpenSSL as the RSA engine calls it: the public-key decoders of DER and PEM, and OAEP
encryption under a key with a hash (`none` where `EVP_PKEY_encrypt` fails). -/
structure OpenSsl where
  d2i_PUBKEY : Bytes → Option EvpPkey
  PEM_read_bio_PUBKEY : List Char → Option EvpPkey
  EVP_PKEY_encrypt : EvpPkey → HashAlgorithm → Bytes → Option Bytes

/-- `crypto::RSAKeyPair`: the OpenSSL key it owns, if any. -/
structure RSAKeyPair where
  key_ : Option EvpPkey

namespace RSAKeyPair

/-- `RSAKeyPair::keySize`. -/
def keySize (kp : RSAKeyPair) : ℕ :=
  match kp.key_ with
  | none => 0
  | some key => key.bits

/-- `RSAKeyPair::maxPlaintextSize`. -/
def maxPlaintextSize (kp : RSAKeyPair) (hash_algo : HashAlgorithm) : ℕ :=
  match kp.key_ with
  | none => 0
  | some _ => getRsaOaepMaxPlaintext kp.keySize hash_algo

variable (O : OpenSsl)

/-- `RSAKeyPair::importPublicKeyDER`. -/
def importPublicKeyDER (der : Bytes) : Result RSAKeyPair :=
  match O.d2i_PUBKEY der with
  | none => err .CRYPTO_ERROR "Failed to import public key".toList
  | some key => .ok ⟨some key⟩

/-- `RSAKeyPair::importPublicKeyPEM`; the memory BIO is always made. -/
def importPublicKeyPEM (pem : List Char) : Result RSAKeyPair :=
  match O.PEM_read_bio_PUBKEY pem with
  | none => err .CRYPTO_ERROR "Failed to import public key".toList
  | some key => .ok ⟨some key⟩

theorem maxPlaintextSize_of_key {kp : RSAKeyPair} {k : EvpPkey} (hk : kp.key_ = some k)
    (hash_algo : HashAlgorithm) :
    kp.maxPlaintextSize hash_algo = getRsaOaepMaxPlaintext k.bits hash_algo := by
  simp [maxPlaintextSize, keySize, hk]

end RSAKeyPair

/-- `crypto::RSAKeySize`. -/
inductive RSAKeySize
  | RSA_2048 | RSA_3072 | RSA_4096
  deriving DecidableEq, Repr

/-- The value of an `RSAKeySize`: its size in bits. -/
def RSAKeySize.bits : RSAKeySize → ℕ
  | .RSA_2048 => 2048
  | .RSA_3072 => 3072
  | .RSA_4096 => 4096

namespace RSAEngine

/-- `RSAEngine::generateKeyPair`: OpenSSL's key generation with the size set, which makes a key
of that size, or fails when `keygen` is `false`. -/
def generateKeyPair (key_size : RSAKeySize) (keygen : Bool) : Result RSAKeyPair :=
  if keygen then .ok ⟨some ⟨key_size.bits, by cases key_size <;> decide⟩⟩
  else err .KEY_GENERATION_FAILED "Failed to generate key".toList

variable (O : OpenSsl)

/-- What the OpenSSL calls of `encryptOAEP` return once the size check has passed. -/
def pkeyEncrypt (key : EvpPkey) (hash_algo : HashAlgorithm) (plaintext : Bytes) : Result Bytes :=
  match O.EVP_PKEY_encrypt key hash_algo plaintext with
  | none => err .ENCRYPTION_FAILED "Encryption failed".toList
  | some ciphertext => .ok ciphertext

/-- `RSAEngine::encryptOAEP`; `isValid` is that the pair holds a key. -/
def encryptOAEP (plaintext : Bytes) (public_key : RSAKeyPair) (hash_algo : HashAlgorithm) :
    Result Bytes :=
  match public_key.key_ with
  | none => err .INVALID_INPUT "Invalid public key".toList
  | some key =>
    if plaintext.length > public_key.maxPlaintextSize hash_algo then
      err .SIZE_LIMIT_EXCEEDED "Plaintext exceeds maximum size for key".toList
    else pkeyEncrypt O key hash_algo plaintext

theorem pkeyEncrypt_ne_sizeLimit (key : EvpPkey) (hash_algo : HashAlgorithm) (p : Bytes) :
    pkeyEncrypt O key hash_algo p ≠
      err .SIZE_LIMIT_EXCEEDED "Plaintext exceeds maximum size for key".toList := by
  unfold pkeyEncrypt
  split <;> simp [err]

/-- Under a key, `encryptOAEP` is the size check against the `size_t` bound, then OpenSSL. -/
theorem encryptOAEP_of_key {kp : RSAKeyPair} {k : EvpPkey} (hk : kp.key_ = some k)
    (hash_algo : HashAlgorithm) (p : Bytes) :
    encryptOAEP O p kp hash_algo =
      if p.length > getRsaOaepMaxPlaintext k.bits hash_algo then
        err .SIZE_LIMIT_EXCEEDED "Plaintext exceeds maximum size for key".toList
      else pkeyEncrypt O k hash_algo p := by
  rw [encryptOAEP, RSAKeyPair.maxPlaintextSize_of_key hk]
  simp only [hk]

/-- **The OAEP size check wraps below zero.** Under a key pair holding a key, with any hash:
where the bound `key_bytes − 2·hash_bytes − 2` is not negative, `encryptOAEP` refuses a
plaintext with `SIZE_LIMIT_EXCEEDED` exactly when it is longer, and OpenSSL is not called;
where the bound is negative, the `size_t` subtraction wraps and every plaintext a span can
hold goes to OpenSSL. -/
theorem encryptOAEP_size_limit {kp : RSAKeyPair} {k : EvpPkey} (hk : kp.key_ = some k)
    (hash_algo : HashAlgorithm) (p : Bytes) :
    (0 ≤ oaepBound k.bits hash_algo →
      (encryptOAEP O p kp hash_algo =
          err .SIZE_LIMIT_EXCEEDED "Plaintext exceeds maximum size for key".toList ↔
        oaepBound k.bits hash_algo < p.length)) ∧
    (oaepBound k.bits hash_algo < 0 → p.length < 2 ^ 63 →
      encryptOAEP O p kp hash_algo = pkeyEncrypt O k hash_algo p) := by
  have hk₃₁ := k.bits_lt
  rw [encryptOAEP_of_key O hk]
  refine ⟨fun h0 => ?_, fun h0 hp => if_neg ?_⟩
  · have hb := getRsaOaepMaxPlaintext_of_nonneg (by omega) h0
    split
    · simp only [true_iff]; omega
    · simp only [pkeyEncrypt_ne_sizeLimit, false_iff]; omega
  · have := getRsaOaepMaxPlaintext_of_neg h0
    omega

/-- Every key `generateKeyPair` makes leaves at least 126 bytes, whatever the hash. -/
theorem generateKeyPair_oaepBound {key_size : RSAKeySize} {keygen : Bool} {kp : RSAKeyPair}
    (h : generateKeyPair key_size keygen = .ok kp) (hash_algo : HashAlgorithm) :
    ∃ k, kp.key_ = some k ∧ 126 ≤ oaepBound k.bits hash_algo := by
  unfold generateKeyPair at h
  split at h
  · cases h
    refine ⟨_, rfl, ?_⟩
    have := getHashSize_le hash_algo
    cases key_size <;> simp only [oaepBound, RSAKeySize.bits] <;> omega
  · cases h

/-- A 1024-bit key. -/
def smallKey : EvpPkey := ⟨1024, by decide⟩

/-- OpenSSL reading every public key as a 1024-bit key, and encrypting as the identity. -/
def smallKeyOpenSsl : OpenSsl where
  d2i_PUBKEY _ := some smallKey
  PEM_read_bio_PUBKEY _ := some smallKey
  EVP_PKEY_encrypt _ _ p := some p

/-- **A 1024-bit key with SHA-512 passes every plaintext to OpenSSL**: its bound is `-2`, yet
the one-byte plaintext `[7]` is not refused. -/
theorem encryptOAEP_size_limit_small_key :
    RSAKeyPair.importPublicKeyDER smallKeyOpenSsl [] = .ok ⟨some smallKey⟩ ∧
    oaepBound 1024 .SHA512 = -2 ∧ oaepBound 1024 .SHA512 < ([7] : Bytes).length ∧
    encryptOAEP smallKeyOpenSsl [7] ⟨some smallKey⟩ .SHA512 =
      pkeyEncrypt smallKeyOpenSsl smallKey .SHA512 [7] ∧
    pkeyEncrypt smallKeyOpenSsl smallKey .SHA512 [7] = .ok [7] :=
  ⟨rfl, by decide, by decide,
    (encryptOAEP_size_limit smallKeyOpenSsl rfl .SHA512 [7]).2 (by decide) (by decide), rfl⟩

end RSAEngine

end CryptoService
