import CryptoService.Keys.KeyStore
import CryptoService.Clients.CacheClient

/-!
# The key service

`KeyService` of `crypto/keys/key_service.cpp`, over any store (`KeyStoreOps σ`) and an
optional cache client. Its state is the store's state and the client's; the cipher, the store's
operations and the master key are fixed at construction and are parameters here. What a call
draws from its environment (the UUID bytes, `RAND_bytes`, the key-pair generators, the IVs and
the clock) is a `Draw`; one clock reading serves a whole call.

A call returns `none` where it never returns, or where what it does is undefined: `rotateKey`
and `deprecateKey` go through the store's `updateMetadata`, which over the local store locks its
mutex twice, and `generateKey` and `rotateKey` add durations to the clock in `long` nanoseconds,
where an overflow is undefined (`checkedTicks`).

* `step` / `run`: the service as a state machine over `Op`;
* `dropCache`: the same service without a cache client, against which the cache is checked.
-/

namespace CryptoService

/-- What one call of the key service draws from its environment. -/
structure Draw where
  /-- The sixteen bytes of `UUID::generate`. -/
  uuid : Fixed 16
  /-- `RAND_bytes` for symmetric key material, by length; `none` when it fails. -/
  random : (n : ℕ) → Option (Fixed n)
  /-- The DER private key of a generated key pair, or the engine's error. -/
  keyPair : KeyAlgorithm → Result Bytes
  /-- The IV that wraps key material under the master key. -/
  iv : Option (Fixed 12)
  /-- The IV with which the cache client seals a value. -/
  cacheIv : Option (Fixed 12)
  /-- `system_clock::now()`. -/
  now : ℤ

/-- The text of the UUID a call generates. -/
def Draw.uuidText (d : Draw) : List Char := UUID.toString (UUID.generate d.uuid.1)

/-- `crypto::KeyService`: the state of its store and of its cache client. -/
structure KeyService (σ : Type) where
  key_store_ : σ
  cache_client_ : Option CacheClient

namespace KeyService

/-- `CACHE_KEY_PREFIX`. -/
def CACHE_KEY_PREFIX : List Char := "keymaterial:".toList

/-- The cache key of a key's material. -/
def cacheKey (key_id : KeyId) : List Char := CACHE_KEY_PREFIX ++ key_id.toString

variable (A : Aead) {σ : Type} (S : KeyStoreOps σ) (master_key_ : Bytes)

/-! ## The cache helpers -/

/-- `KeyService::cacheKeyMaterial`: cache errors are ignored. -/
def cacheKeyMaterial (key_id : KeyId) (material : Bytes) (ivDraw : Option (Fixed 12))
    (s : KeyService σ) : KeyService σ :=
  match s.cache_client_ with
  | none => s
  | some c => { s with cache_client_ := some (c.set A (cacheKey key_id) material ivDraw).2 }

/-- `KeyService::getCachedKeyMaterial`: a failed `get` is a miss. -/
def getCachedKeyMaterial (key_id : KeyId) (s : KeyService σ) : Option Bytes × KeyService σ :=
  match s.cache_client_ with
  | none => (none, s)
  | some c =>
    let r := c.get A (cacheKey key_id)
    (r.1.toOption, { s with cache_client_ := some r.2 })

/-- `KeyService::invalidateCachedKey`. -/
def invalidateCachedKey (key_id : KeyId) (s : KeyService σ) : KeyService σ :=
  match s.cache_client_ with
  | none => s
  | some c => { s with cache_client_ := some (c.del (cacheKey key_id)).2 }

/-! ## Key material -/

/-- `KeyService::generateRawKeyMaterial`. -/
def generateRawKeyMaterial (algorithm : KeyAlgorithm) (d : Draw) : Result Bytes :=
  if getKeySize algorithm = 0 then err .INVALID_INPUT "Invalid algorithm".toList
  else if isSymmetricAlgorithm algorithm then
    match d.random (getKeySize algorithm) with
    | some key => .ok key.1
    | none => err .KEY_GENERATION_FAILED "Failed to generate random key".toList
  else d.keyPair algorithm

/-- `KeyService::encryptKeyMaterial`: AES-GCM under the master key, no AAD. -/
def encryptKeyMaterial (key_material : Bytes) (metadata : KeyMetadata) (ivDraw : Option (Fixed 12)) :
    Result EncryptedKey := do
  let r ← encryptGCM A key_material master_key_ [] ivDraw
  return ⟨r.ciphertext, r.iv, r.tag, Inhabited.default, metadata⟩

/-- `KeyService::decryptKeyMaterial`. -/
def decryptKeyMaterial (encrypted_key : EncryptedKey) : Result Bytes :=
  decryptGCM A encrypted_key.encrypted_material master_key_ encrypted_key.iv encrypted_key.tag []

/-! ## Clock arithmetic -/

/-- One step of `system_clock` arithmetic, whose durations count nanoseconds in a `long`: the
exact result, or `none` where it leaves `[-2^63, 2^63)`, signed overflow being undefined. -/
def checkedTicks (x : ℤ) : Option ℤ := if -2 ^ 63 ≤ x ∧ x < 2 ^ 63 then some x else none

/-- A defined step is the exact result. -/
theorem checkedTicks_eq_some {x y : ℤ} (h : checkedTicks x = some y) : y = x := by
  unfold checkedTicks at h
  split_ifs at h
  exact (Option.some.inj h).symm

/-! ## The operations -/

/-- The metadata `generateKey` gives a new key. `KeyMetadata metadata;` first adds a year to the
clock; `created_at + params.validity_period` then makes the seconds nanoseconds and adds them.
Each step is in `long`, and `none` where one overflows. -/
def generatedMetadata (key_id : KeyId) (params : KeyGenerationParams) (now : ℤ) :
    Option KeyMetadata := do
  let _ ← checkedTicks (now + oneYear)
  let validity ← checkedTicks (params.validity_period * ticksPerSecond)
  let expires_at ← checkedTicks (now + validity)
  return {
    id := key_id, algorithm := params.algorithm,
    type := if isSymmetricAlgorithm params.algorithm then .SYMMETRIC else .ASYMMETRIC_PRIVATE,
    state := .ACTIVE, created_at := now, expires_at := expires_at,
    rotated_at := none, previous_version := none, owner_service := params.owner_service,
    allowed_operations := params.allowed_operations, usage_count := 0 }

/-- The metadata `generateKey` builds, where its clock arithmetic is defined: an `ACTIVE`
key created now, expiring `validity_period` seconds later, with no rotation history. -/
theorem generatedMetadata_eq_some {key_id : KeyId} {params : KeyGenerationParams} {now : ℤ}
    {md : KeyMetadata} (h : generatedMetadata key_id params now = some md) :
    md.id = key_id ∧ md.state = .ACTIVE ∧ md.created_at = now ∧
      md.expires_at = now + params.validity_period * ticksPerSecond ∧
      md.rotated_at = none ∧ md.previous_version = none := by
  simp only [generatedMetadata, Option.bind_eq_bind, Option.bind_eq_some, Option.pure_def,
    Option.some.injEq] at h
  obtain ⟨-, -, v, hv, e, he, rfl⟩ := h
  rw [checkedTicks_eq_some hv] at he
  exact ⟨rfl, rfl, rfl, checkedTicks_eq_some he, rfl, rfl⟩

/-- A validity of `10 ^ 10` seconds, some 317 years, overflows the nanosecond count. -/
example : generatedMetadata ⟨[], [], 1⟩ { validity_period := 10 ^ 10 } 0 = none := by decide

/-- `KeyService::generateKey`; `none` where its clock arithmetic overflows. -/
def generateKey (params : KeyGenerationParams) (d : Draw) (s : KeyService σ) :
    Option (Result KeyId × KeyService σ) :=
  let key_id := KeyId.generate params.namespace_prefix d.uuid.1
  match generateRawKeyMaterial params.algorithm d with
  | .error e => some (.error e, s)
  | .ok material =>
    match generatedMetadata key_id params d.now with
    | none => none
    | some metadata =>
      match encryptKeyMaterial A master_key_ material metadata d.iv with
      | .error e => some (.error e, s)
      | .ok encrypted =>
        match S.store key_id encrypted s.key_store_ with
        | (.error e, st) => some (.error e, { s with key_store_ := st })
        | (.ok (), st) =>
          some (.ok key_id, cacheKeyMaterial A key_id material d.cacheIv { s with key_store_ := st })

/-- `KeyService::deprecateKey`: the record's state becomes `DEPRECATED`, whatever it was. -/
def deprecateKey (key_id : KeyId) (d : Draw) (s : KeyService σ) : Option (Result Unit × KeyService σ) :=
  match S.retrieve key_id d.now s.key_store_ with
  | .error e => some (.error e, s)
  | .ok key =>
    (S.updateMetadata key_id { key.metadata with state := .DEPRECATED } s.key_store_).map
      fun r => (r.1, { s with key_store_ := r.2 })

/-- The metadata `rotateKey` gives the successor of `old_key_id`. `KeyMetadata new_metadata;`
first adds a year to the clock; the old validity `expires_at - created_at` is then truncated to
whole seconds (`duration_cast<seconds>`, which cannot overflow) and added to the clock. Each step
is in `long`, and `none` where one overflows. -/
def rotatedMetadata (new_key_id old_key_id : KeyId) (old_metadata : KeyMetadata) (now : ℤ) :
    Option KeyMetadata := do
  let _ ← checkedTicks (now + oneYear)
  let validity ← checkedTicks (old_metadata.expires_at - old_metadata.created_at)
  let expires_at ← checkedTicks (now + validity.tdiv ticksPerSecond * ticksPerSecond)
  return {
    id := new_key_id, algorithm := old_metadata.algorithm, type := old_metadata.type,
    state := .ACTIVE, created_at := now, expires_at := expires_at,
    rotated_at := some now, previous_version := some old_key_id,
    owner_service := old_metadata.owner_service,
    allowed_operations := old_metadata.allowed_operations, usage_count := 0 }

/-- The metadata `rotateKey` builds, where its clock arithmetic is defined: an `ACTIVE` key
created now, rotated now from `old_key_id`, valid for the old validity in whole seconds. -/
theorem rotatedMetadata_eq_some {new_key_id old_key_id : KeyId} {old : KeyMetadata} {now : ℤ}
    {md : KeyMetadata} (h : rotatedMetadata new_key_id old_key_id old now = some md) :
    md.id = new_key_id ∧ md.state = .ACTIVE ∧ md.created_at = now ∧
      md.expires_at = now + (old.expires_at - old.created_at).tdiv ticksPerSecond * ticksPerSecond ∧
      md.rotated_at = some now ∧ md.previous_version = some old_key_id := by
  simp only [rotatedMetadata, Option.bind_eq_bind, Option.bind_eq_some, Option.pure_def,
    Option.some.injEq] at h
  obtain ⟨-, -, v, hv, e, he, rfl⟩ := h
  rw [checkedTicks_eq_some hv] at he
  exact ⟨rfl, rfl, rfl, checkedTicks_eq_some he, rfl, rfl⟩

/-- The identifier `rotateKey` gives the successor of `old_key_id`. -/
def rotatedId (old_key_id : KeyId) (d : Draw) : KeyId :=
  { namespace_prefix := old_key_id.namespace_prefix, id := d.uuidText,
    version := old_key_id.version + 1 }

/-- `KeyService::rotateKey`. -/
def rotateKey (old_key_id : KeyId) (d : Draw) (s : KeyService σ) :
    Option (Result KeyId × KeyService σ) :=
  match S.retrieve old_key_id d.now s.key_store_ with
  | .error e => some (.error e, s)
  | .ok old_key =>
    if old_key.metadata.state ≠ .ACTIVE then
      some (err .KEY_ROTATION_FAILED "Only active keys can be rotated".toList, s)
    else
      match generateRawKeyMaterial old_key.metadata.algorithm d with
      | .error e => some (.error e, s)
      | .ok material =>
        let new_key_id := rotatedId old_key_id d
        match rotatedMetadata new_key_id old_key_id old_key.metadata d.now with
        | none => none
        | some new_metadata =>
          match encryptKeyMaterial A master_key_ material new_metadata d.iv with
          | .error e => some (.error e, s)
          | .ok encrypted =>
            match S.store new_key_id encrypted s.key_store_ with
            | (.error e, st) => some (.error e, { s with key_store_ := st })
            | (.ok (), st) =>
              match deprecateKey S old_key_id d { s with key_store_ := st } with
              | none => none
              | some (.error e, s₂) =>
                some (.error e, { s₂ with key_store_ := (S.remove new_key_id s₂.key_store_).2 })
              | some (.ok (), s₂) =>
                some (.ok new_key_id,
                  cacheKeyMaterial A new_key_id material d.cacheIv (invalidateCachedKey old_key_id s₂))

/-- `KeyService::getKeyMetadata`: always from the store. -/
def getKeyMetadata (key_id : KeyId) (now : ℤ) (s : KeyService σ) : Result KeyMetadata := do
  let key ← S.retrieve key_id now s.key_store_
  return key.metadata

/-- `KeyService::deleteKey`: the cache entry goes first. -/
def deleteKey (key_id : KeyId) (s : KeyService σ) : Result Unit × KeyService σ :=
  let s₁ := invalidateCachedKey key_id s
  let r := S.remove key_id s₁.key_store_
  (r.1, { s₁ with key_store_ := r.2 })

/-- `KeyService::getKeyMaterial`: the cache first, then the store and the unwrap, which is
cached. No lifecycle state is read. -/
def getKeyMaterial (key_id : KeyId) (d : Draw) (s : KeyService σ) : Result Bytes × KeyService σ :=
  match getCachedKeyMaterial A key_id s with
  | (some cached, s₁) => (.ok cached, s₁)
  | (none, s₁) =>
    match S.retrieve key_id d.now s₁.key_store_ with
    | .error e => (.error e, s₁)
    | .ok key =>
      match decryptKeyMaterial A master_key_ key with
      | .error e => (.error e, s₁)
      | .ok material => (.ok material, cacheKeyMaterial A key_id material d.cacheIv s₁)

/-- `KeyService::listKeys`. -/
def listKeys (ns : List Char) (s : KeyService σ) : Result (List KeyId) :=
  S.list ns s.key_store_

/-- What `KeyService::getKey` returns: the material and the metadata of a key. -/
structure KeyData where
  key_material : Bytes
  metadata : KeyMetadata
  deriving DecidableEq, Repr

/-- What a caller of `getKey` wants a key for: wrapping, or unwrapping. -/
inductive KeyUse
  | encrypt
  | decrypt
  deriving DecidableEq, Repr

/-- Modelled from the spec (§4.6): encryption requires an `ACTIVE` key; decryption permits an
`ACTIVE` key, and a `DEPRECATED` one within its remaining validity; no other state yields
material. -/
def KeyUse.permits : KeyUse → KeyMetadata → ℤ → Bool
  | .encrypt, m, _ => m.state = .ACTIVE
  | .decrypt, m, now => m.state = .ACTIVE || (m.state = .DEPRECATED && !m.isExpired now)

/-- A `DESTROYED` key permits no use. -/
theorem KeyUse.permits_destroyed {m : KeyMetadata} (h : m.state = .DESTROYED) (use : KeyUse)
    (now : ℤ) : use.permits m now = false := by
  cases use <;> simp [KeyUse.permits, h]

/-- An `ACTIVE` key permits every use. -/
theorem KeyUse.permits_active {m : KeyMetadata} (h : m.state = .ACTIVE) (use : KeyUse)
    (now : ℤ) : use.permits m now = true := by
  cases use <;> simp [KeyUse.permits, h]

/-- Modelled from the spec: `KeyService::getKey`, which the services call and the key service
under src/ does not declare. It reads the metadata (`get_metadata`), refuses a use the key's
state does not permit (§4.6), and then returns the material (`get_material`). -/
def getKey (use : KeyUse) (key_id : KeyId) (d : Draw) (s : KeyService σ) :
    Result KeyData × KeyService σ :=
  match getKeyMetadata S key_id d.now s with
  | .error e => (.error e, s)
  | .ok metadata =>
    if use.permits metadata d.now then
      match getKeyMaterial A S master_key_ key_id d s with
      | (.error e, s₁) => (.error e, s₁)
      | (.ok material, s₁) => (.ok ⟨material, metadata⟩, s₁)
    else (err .KEY_INVALID_STATE "Key state does not permit this operation".toList, s)

/-! ## The service as a state machine -/

/-- A draw whose random bytes are all `b` and whose generators all succeed. -/
def Draw.constant (b : UInt8) (now : ℤ) : Draw where
  uuid := ⟨List.replicate 16 b, by simp⟩
  random n := some ⟨List.replicate n b, by simp⟩
  keyPair _ := .ok (List.replicate 64 b)
  iv := some ⟨List.replicate 12 b, by simp⟩
  cacheIv := some ⟨List.replicate 12 b, by simp⟩
  now := now

/-- A call of the key service. -/
inductive Op
  | generateKey (params : KeyGenerationParams)
  | rotateKey (old_key_id : KeyId)
  | deprecateKey (key_id : KeyId)
  | getKeyMetadata (key_id : KeyId)
  | deleteKey (key_id : KeyId)
  | getKeyMaterial (key_id : KeyId)
  | listKeys (ns : List Char)

/-- What a call returns. -/
inductive Response
  | keyId (r : Result KeyId)
  | unit (r : Result Unit)
  | metadata (r : Result KeyMetadata)
  | material (r : Result Bytes)
  | keyIds (r : Result (List KeyId))
  deriving DecidableEq

/-- One call; `none` where it never returns. -/
def step : Op → Draw → KeyService σ → Option (Response × KeyService σ)
  | .generateKey params, d, s =>
    (generateKey A S master_key_ params d s).map fun r => (.keyId r.1, r.2)
  | .rotateKey k, d, s => (rotateKey A S master_key_ k d s).map fun r => (.keyId r.1, r.2)
  | .deprecateKey k, d, s => (deprecateKey S k d s).map fun r => (.unit r.1, r.2)
  | .getKeyMetadata k, d, s => some (.metadata (getKeyMetadata S k d.now s), s)
  | .deleteKey k, _, s =>
    let r := deleteKey S k s
    some (.unit r.1, r.2)
  | .getKeyMaterial k, d, s =>
    let r := getKeyMaterial A S master_key_ k d s
    some (.material r.1, r.2)
  | .listKeys ns, _, s => some (.keyIds (listKeys S ns s), s)

/-- A run of calls, each with its draw: the responses and the final state. -/
def run : List (Op × Draw) → KeyService σ → Option (List Response × KeyService σ)
  | [], s => some ([], s)
  | (op, d) :: ops, s =>
    match step A S master_key_ op d s with
    | none => none
    | some (r, s₁) => (run ops s₁).map fun p => (r :: p.1, p.2)

/-- The same service without a cache client. -/
def dropCache (s : KeyService σ) : KeyService σ := { s with cache_client_ := none }

/-! ## Small lemmas of the helpers -/

section Helpers

variable {A S master_key_}
variable {k : KeyId} {m : Bytes} {iv : Option (Fixed 12)} {s : KeyService σ}

@[simp] theorem key_store_cacheKeyMaterial : (cacheKeyMaterial A k m iv s).key_store_ = s.key_store_ := by
  unfold cacheKeyMaterial; split <;> rfl

@[simp] theorem key_store_invalidateCachedKey : (invalidateCachedKey k s).key_store_ = s.key_store_ := by
  unfold invalidateCachedKey; split <;> rfl

@[simp] theorem key_store_getCachedKeyMaterial :
    (getCachedKeyMaterial A k s).2.key_store_ = s.key_store_ := by
  unfold getCachedKeyMaterial; split <;> rfl

@[simp] theorem dropCache_cacheKeyMaterial : dropCache (cacheKeyMaterial A k m iv s) = dropCache s := by
  unfold cacheKeyMaterial; split <;> rfl

@[simp] theorem dropCache_invalidateCachedKey : dropCache (invalidateCachedKey k s) = dropCache s := by
  unfold invalidateCachedKey; split <;> rfl

@[simp] theorem dropCache_getCachedKeyMaterial :
    dropCache (getCachedKeyMaterial A k s).2 = dropCache s := by
  unfold getCachedKeyMaterial; split <;> rfl

@[simp] theorem getCachedKeyMaterial_dropCache :
    getCachedKeyMaterial A k (dropCache s) = (none, dropCache s) := rfl

@[simp] theorem cacheKeyMaterial_dropCache : cacheKeyMaterial A k m iv (dropCache s) = dropCache s := rfl

@[simp] theorem invalidateCachedKey_dropCache : invalidateCachedKey k (dropCache s) = dropCache s := rfl

@[simp] theorem key_store_dropCache : (dropCache s).key_store_ = s.key_store_ := rfl

@[simp] theorem cache_client_dropCache : (dropCache s).cache_client_ = none := rfl

@[simp] theorem cacheKeyMaterial_of_none (h : s.cache_client_ = none) : cacheKeyMaterial A k m iv s = s := by
  simp [cacheKeyMaterial, h]

@[simp] theorem dropCache_key_store {st : σ} :
    dropCache { s with key_store_ := st } = { dropCache s with key_store_ := st } := rfl

/-- What `encryptKeyMaterial` wraps, `decryptKeyMaterial` unwraps. -/
theorem decryptKeyMaterial_of_encryptKeyMaterial {md : KeyMetadata} {r : EncryptedKey}
    (h : encryptKeyMaterial A master_key_ m md iv = .ok r) : decryptKeyMaterial A master_key_ r = .ok m := by
  obtain ⟨er, h₁, h₂⟩ := bind_eq_ok.1 h
  cases h₂
  obtain ⟨iv', -, h₃⟩ := encryptGCM_eq_ok A h₁
  exact decryptGCM_of_encryptGCMWithIV A h₃

/-- The wrapped record carries the metadata it was given. -/
theorem encryptKeyMaterial_metadata {md : KeyMetadata} {r : EncryptedKey}
    (h : encryptKeyMaterial A master_key_ m md iv = .ok r) : r.metadata = md := by
  obtain ⟨er, -, h₂⟩ := bind_eq_ok.1 h
  cases h₂
  rfl

/-- The unwrap reads the wrapped material only, never the metadata. -/
@[simp] theorem decryptKeyMaterial_metadata (r : EncryptedKey) (md : KeyMetadata) :
    decryptKeyMaterial A master_key_ { r with metadata := md } = decryptKeyMaterial A master_key_ r := rfl

/-- **What a successful `generateKey` did**, over any store: drew the material, built the
metadata, wrapped it, stored the record under the identifier it drew, and offered the material
to the cache. -/
theorem generateKey_eq_ok {params : KeyGenerationParams} {d : Draw} {s' : KeyService σ}
    (h : generateKey A S master_key_ params d s = some (.ok k, s')) :
    k = KeyId.generate params.namespace_prefix d.uuid.1 ∧
    ∃ material md encrypted st, generateRawKeyMaterial params.algorithm d = .ok material ∧
      generatedMetadata k params d.now = some md ∧
      encryptKeyMaterial A master_key_ material md d.iv = .ok encrypted ∧
      S.store k encrypted s.key_store_ = (.ok (), st) ∧
      s' = cacheKeyMaterial A k material d.cacheIv { s with key_store_ := st } := by
  unfold generateKey at h
  dsimp only at h
  split at h
  · cases h
  rename_i material hm
  split at h
  · cases h
  rename_i md hmd
  split at h
  · cases h
  rename_i encrypted he
  split at h
  · cases h
  rename_i st hs
  cases h
  exact ⟨rfl, material, md, encrypted, st, hm, hmd, he, hs, rfl⟩

/-- What `generateKey` returns on success, over any store, is the identifier it drew. -/
theorem generateKey_ok {params : KeyGenerationParams} {d : Draw} {s' : KeyService σ}
    (h : generateKey A S master_key_ params d s = some (.ok k, s')) :
    k = KeyId.generate params.namespace_prefix d.uuid.1 :=
  (generateKey_eq_ok h).1

/-- A successful `generateKey` has stored a record under the identifier it returns, and the
store is left as that write left it. -/
theorem generateKey_stored {params : KeyGenerationParams} {d : Draw} {s' : KeyService σ}
    (h : generateKey A S master_key_ params d s = some (.ok k, s')) :
    ∃ encrypted, S.store k encrypted s.key_store_ = (.ok (), s'.key_store_) := by
  obtain ⟨-, -, -, encrypted, st, -, -, -, hs, rfl⟩ := generateKey_eq_ok h
  exact ⟨encrypted, by rw [hs, key_store_cacheKeyMaterial]⟩

/-- What `rotateKey` returns on success, over any store, is the successor identifier. -/
theorem rotateKey_ok {n : KeyId} {d : Draw} {s' : KeyService σ}
    (h : rotateKey A S master_key_ k d s = some (.ok n, s')) : n = rotatedId k d := by
  unfold rotateKey at h
  dsimp only at h
  repeat' split at h
  all_goals cases h
  rfl

end Helpers

/-! ## The lifecycle rules of `getKey` -/

section GetKey

variable {A S master_key_}
variable {s : KeyService σ} {d : Draw} {k : KeyId}

/-- `getKeyMaterial` never writes the store. -/
@[simp] theorem key_store_getKeyMaterial :
    (getKeyMaterial A S master_key_ k d s).2.key_store_ = s.key_store_ := by
  have h := key_store_getCachedKeyMaterial (A := A) (k := k) (s := s)
  unfold getKeyMaterial
  rcases hc : getCachedKeyMaterial A k s with ⟨_ | m, s₁⟩ <;> rw [hc] at h
  · dsimp only at h ⊢
    split
    · exact h
    · split <;> simp [h]
  · exact h

/-- `getKey` never writes the store. -/
@[simp] theorem key_store_getKey (use : KeyUse) :
    (getKey A S master_key_ use k d s).2.key_store_ = s.key_store_ := by
  unfold getKey
  split
  · rfl
  · split
    · split <;> rename_i h <;> simpa using congrArg (·.2.key_store_) h.symm
    · rfl

/-- A use the key's state does not permit is refused with `KEY_INVALID_STATE`, and nothing
changes. -/
theorem getKey_of_not_permits {use : KeyUse} {key : EncryptedKey}
    (hr : S.retrieve k d.now s.key_store_ = .ok key) (hp : use.permits key.metadata d.now = false) :
    getKey A S master_key_ use k d s =
      (err .KEY_INVALID_STATE "Key state does not permit this operation".toList, s) := by
  simp [getKey, getKeyMetadata, hr, hp]

/-- A permitted use returns the material `getKeyMaterial` returns, with the metadata. -/
theorem getKey_of_permits {use : KeyUse} {key : EncryptedKey} {m : Bytes} {s₁ : KeyService σ}
    (hr : S.retrieve k d.now s.key_store_ = .ok key) (hp : use.permits key.metadata d.now = true)
    (hm : getKeyMaterial A S master_key_ k d s = (.ok m, s₁)) :
    getKey A S master_key_ use k d s = (.ok ⟨m, key.metadata⟩, s₁) := by
  simp [getKey, getKeyMetadata, hr, hp, hm]

/-- **A destroyed key never yields material**, whatever it is asked for. -/
theorem getKey_destroyed {key : EncryptedKey} (hr : S.retrieve k d.now s.key_store_ = .ok key)
    (hd : key.metadata.state = .DESTROYED) (use : KeyUse) :
    (getKey A S master_key_ use k d s).1 =
      err .KEY_INVALID_STATE "Key state does not permit this operation".toList := by
  rw [getKey_of_not_permits hr (KeyUse.permits_destroyed hd use d.now)]

end GetKey

/-! ## Without a cache client

Every operation other than `getKeyMaterial` answers and changes the store as it would without
a cache client: the cache is written and invalidated, never read. -/

section DropCache

variable {A S master_key_}
variable {s : KeyService σ} {d : Draw}

theorem generateKey_dropCache (params : KeyGenerationParams) :
    generateKey A S master_key_ params d (dropCache s) =
      (generateKey A S master_key_ params d s).map fun r => (r.1, dropCache r.2) := by
  unfold generateKey
  dsimp only
  cases generateRawKeyMaterial params.algorithm d with
  | error => rfl
  | ok material =>
    dsimp only
    cases generatedMetadata _ params d.now with
    | none => rfl
    | some metadata =>
      dsimp only
      cases encryptKeyMaterial A master_key_ material metadata d.iv with
      | error => rfl
      | ok encrypted =>
        simp only [key_store_dropCache]
        rcases S.store _ encrypted s.key_store_ with ⟨_ | ⟨⟩, st⟩ <;> simp

theorem deprecateKey_dropCache (k : KeyId) :
    deprecateKey S k d (dropCache s) = (deprecateKey S k d s).map fun r => (r.1, dropCache r.2) := by
  unfold deprecateKey
  simp only [key_store_dropCache]
  split
  · rfl
  · simp [Option.map_map, Function.comp_def]

theorem rotateKey_dropCache (k : KeyId) :
    rotateKey A S master_key_ k d (dropCache s) =
      (rotateKey A S master_key_ k d s).map fun r => (r.1, dropCache r.2) := by
  unfold rotateKey
  simp only [key_store_dropCache]
  split
  · rfl
  · split
    · rfl
    · split
      · rfl
      · split
        · rfl
        · split
          · rfl
          · split
            · simp
            · rename_i st _
              have h := deprecateKey_dropCache (S := S) (d := d) (s := { s with key_store_ := st }) k
              simp only [dropCache_key_store] at h
              rw [h]
              rcases deprecateKey S k d { s with key_store_ := st } with _ | ⟨_ | _, s₂⟩ <;> simp

theorem deleteKey_dropCache (k : KeyId) :
    deleteKey S k (dropCache s) = ((deleteKey S k s).1, dropCache (deleteKey S k s).2) := by
  simp [deleteKey]

@[simp] theorem getKeyMetadata_dropCache (k : KeyId) (now : ℤ) :
    getKeyMetadata S k now (dropCache s) = getKeyMetadata S k now s := rfl

@[simp] theorem listKeys_dropCache (ns : List Char) : listKeys S ns (dropCache s) = listKeys S ns s := rfl

end DropCache

/-! ## Holding a key

What the services need of a key they use: over any store, every read finds it `ACTIVE` and
unwrapping to the same material, and the cache holds nothing else for it. -/

/-- The service holds the key `k` with material `m`: whenever the store is read, it finds an
`ACTIVE` record under `k` that unwraps to `m`, and whatever the cache holds for `k` opens to
`m`. -/
structure Holds (s : KeyService σ) (k : KeyId) (m : Bytes) : Prop where
  record : ∀ now, ∃ key, S.retrieve k now s.key_store_ = .ok key ∧
    key.metadata.state = .ACTIVE ∧ decryptKeyMaterial A master_key_ key = .ok m
  cached : ∀ c, s.cache_client_ = some c → ∀ e x, c.entry (cacheKey k) = some e →
    CacheClient.decrypt_value A c.config e = .ok x → x = m

section Holds

variable {A S master_key_}
variable {s : KeyService σ} {k : KeyId} {m : Bytes} {d : Draw}

/-- A cache lookup keeps the key held, and a hit is its material. -/
theorem Holds.getCachedKeyMaterial (h : Holds A S master_key_ s k m) :
    Holds A S master_key_ (getCachedKeyMaterial A k s).2 k m ∧
      ∀ x, (getCachedKeyMaterial A k s).1 = some x → x = m := by
  unfold KeyService.getCachedKeyMaterial
  rcases hc : s.cache_client_ with _ | c
  · exact ⟨h, by simp⟩
  · refine ⟨⟨h.record, ?_⟩, fun x hx => ?_⟩
    · rintro _ ⟨⟩ e x he hx
      rw [CacheClient.entry_get] at he
      rw [CacheClient.config_get] at hx
      exact h.cached c hc e x he hx
    · simp only [CacheClient.get_fst] at hx
      split at hx
      · rename_i e he
        cases hd : CacheClient.decrypt_value A c.config e <;> rw [hd] at hx <;> cases hx
        exact h.cached c hc e x he hd
      · cases hx

/-- Caching the material of a held key keeps it held. -/
theorem Holds.cacheKeyMaterial (h : Holds A S master_key_ s k m) (iv : Option (Fixed 12)) :
    Holds A S master_key_ (cacheKeyMaterial A k m iv s) k m := by
  unfold KeyService.cacheKeyMaterial
  rcases hc : s.cache_client_ with _ | c
  · exact h
  · refine ⟨h.record, ?_⟩
    rintro _ ⟨⟩ e x he hx
    rw [CacheClient.config_set] at hx
    rcases CacheClient.entry_set A he with ⟨-, he'⟩ | he'
    · rw [CacheClient.decrypt_value_encrypt_value A he'] at hx
      cases hx
      rfl
    · exact h.cached c hc e x he' hx

/-- `getKeyMaterial` of a held key returns its material, and the key stays held. -/
theorem Holds.getKeyMaterial (h : Holds A S master_key_ s k m) :
    ∃ s₁, getKeyMaterial A S master_key_ k d s = (.ok m, s₁) ∧ Holds A S master_key_ s₁ k m := by
  obtain ⟨h₁, hhit⟩ := h.getCachedKeyMaterial
  unfold KeyService.getKeyMaterial
  rcases hc : KeyService.getCachedKeyMaterial A k s with ⟨_ | x, s₁⟩ <;> rw [hc] at h₁ hhit
  · obtain ⟨key, hr, -, hm⟩ := h₁.record d.now
    exact ⟨_, by simp only [hr, hm], h₁.cacheKeyMaterial d.cacheIv⟩
  · exact ⟨s₁, by rw [hhit x rfl], h₁⟩

/-- **`getKey` of a held key returns its material**, for either use, with the metadata of the
record, and the key stays held. -/
theorem Holds.getKey (h : Holds A S master_key_ s k m) (use : KeyUse) :
    ∃ md s₁, getKey A S master_key_ use k d s = (.ok ⟨m, md⟩, s₁) ∧
      Holds A S master_key_ s₁ k m := by
  obtain ⟨key, hr, hst, -⟩ := h.record d.now
  obtain ⟨s₁, hm, h₁⟩ := h.getKeyMaterial (d := d)
  exact ⟨key.metadata, s₁, getKey_of_permits hr (KeyUse.permits_active hst use d.now) hm, h₁⟩

end Holds

end KeyService

end CryptoService
