import CryptoService.Keys.KeyService

/-!
# The key service over the in-memory store

One inversion lemma per operation of `KeyService` over `InMemoryKeyStore.ops`: everything a
call can do, guards included, with the store's writes spelled out on its map. The invariants of
the later modules are derived from these lemmas and never unfold an operation.

Over this store `store` and `updateMetadata` always succeed, so the failure paths of
`generateKey` and `rotateKey` all end before the store is written, and `rotateKey` never takes
its rollback branch: the new identifier's version differs from the old one's, so their text
forms differ and the old record is still found.
-/

namespace CryptoService

namespace KeyService

open InMemoryKeyStore

variable {A : Aead} {K : Bytes} {d : Draw} {s : KeyService InMemoryKeyStore}

/-- The records of the service's store. -/
abbrev keys (s : KeyService InMemoryKeyStore) : KeyMap := s.key_store_.keys_

/-- The service with the records `m` and the same cache. -/
abbrev withKeys (s : KeyService InMemoryKeyStore) (m : KeyMap) : KeyService InMemoryKeyStore :=
  { s with key_store_ := ⟨m⟩ }

@[simp] theorem keys_withKeys (m : KeyMap) : (s.withKeys m).keys = m := rfl

@[simp] theorem cache_client_withKeys (m : KeyMap) :
    (s.withKeys m).cache_client_ = s.cache_client_ := rfl

@[simp] theorem keys_cacheKeyMaterial {k : KeyId} {m : Bytes} {iv : Option (Fixed 12)} :
    (cacheKeyMaterial A k m iv s).keys = s.keys := by simp [keys]

@[simp] theorem keys_invalidateCachedKey {k : KeyId} : (invalidateCachedKey k s).keys = s.keys := by
  simp [keys]

@[simp] theorem keys_getCachedKeyMaterial {k : KeyId} :
    (getCachedKeyMaterial A k s).2.keys = s.keys := by simp [keys]

/-- The record `deprecateKey` writes back. -/
def deprecated (key : EncryptedKey) : EncryptedKey :=
  { key with metadata := { key.metadata with state := .DEPRECATED } }

/-- The identifier `generateKey` draws. -/
def generatedId (params : KeyGenerationParams) (d : Draw) : KeyId :=
  KeyId.generate params.namespace_prefix d.uuid.1

/-! ## One lemma per operation -/

/-- `generateKey` fails before writing anything, or stores the wrapped material under the new
identifier and offers the material to the cache. -/
theorem generateKey_cases {params : KeyGenerationParams} {r : Result KeyId}
    {s' : KeyService InMemoryKeyStore} (h : generateKey A ops K params d s = some (r, s')) :
    (∃ e, r = .error e ∧ s' = s) ∨
    ∃ material md encrypted, generateRawKeyMaterial params.algorithm d = .ok material ∧
      generatedMetadata (generatedId params d) params d.now = some md ∧
      encryptKeyMaterial A K material md d.iv = .ok encrypted ∧
      r = .ok (generatedId params d) ∧
      s' = cacheKeyMaterial A (generatedId params d) material d.cacheIv
        (s.withKeys (s.keys.insert (generatedId params d).toString encrypted)) := by
  unfold generateKey at h
  dsimp only at h
  split at h
  · simp only [Option.some.injEq, Prod.mk.injEq] at h; exact .inl ⟨_, h.1.symm, h.2.symm⟩
  rename_i material hm
  split at h
  · cases h
  rename_i md hmd
  split at h
  · simp only [Option.some.injEq, Prod.mk.injEq] at h; exact .inl ⟨_, h.1.symm, h.2.symm⟩
  rename_i encrypted he
  simp only [ops_store, Option.some.injEq, Prod.mk.injEq] at h
  exact .inr ⟨material, md, encrypted, hm, hmd, he, h.1.symm, h.2.symm⟩

/-- `deprecateKey` over the in-memory store: it returns, and marks any record it finds. -/
theorem deprecateKey_eq (k : KeyId) :
    deprecateKey ops k d s = some (match s.keys.lookup k.toString with
      | some key => (.ok (), s.withKeys (s.keys.insert k.toString (deprecated key)))
      | none => (.error (notFound k), s)) := by
  unfold deprecateKey
  simp only [ops_retrieve, ops_updateMetadata, Option.map_some']
  cases h : s.keys.lookup k.toString with
  | none => simp [retrieve, h]
  | some key => simp [retrieve, h, updateMetadata, deprecated]

/-- The successor's text form is never the old one's: the versions differ. -/
theorem rotatedId_toString_ne (k : KeyId) (d : Draw) : (rotatedId k d).toString ≠ k.toString :=
  fun h => KeyId.succ_ne_self k.version (KeyId.version_eq_of_toString_eq h)

/-- `rotateKey` fails before writing anything, or stores the successor, deprecates the old
record and moves the cache from the old key to the new one. -/
theorem rotateKey_cases {k : KeyId} {r : Result KeyId} {s' : KeyService InMemoryKeyStore}
    (h : rotateKey A ops K k d s = some (r, s')) :
    (∃ e, r = .error e ∧ s' = s) ∨
    ∃ old material md encrypted, s.keys.lookup k.toString = some old ∧
      old.metadata.state = .ACTIVE ∧
      generateRawKeyMaterial old.metadata.algorithm d = .ok material ∧
      rotatedMetadata (rotatedId k d) k old.metadata d.now = some md ∧
      encryptKeyMaterial A K material md d.iv = .ok encrypted ∧
      r = .ok (rotatedId k d) ∧
      s' = cacheKeyMaterial A (rotatedId k d) material d.cacheIv (invalidateCachedKey k
        (s.withKeys ((s.keys.insert (rotatedId k d).toString encrypted).insert k.toString
          (deprecated old)))) := by
  unfold rotateKey at h
  simp only [ops_retrieve] at h
  cases hl : s.keys.lookup k.toString with
  | none =>
    simp only [keys] at hl
    simp only [retrieve, hl, Option.some.injEq, Prod.mk.injEq] at h
    exact .inl ⟨_, h.1.symm, h.2.symm⟩
  | some old =>
    simp only [keys] at hl
    simp only [retrieve, hl] at h
    split at h
    · simp only [Option.some.injEq, Prod.mk.injEq] at h; exact .inl ⟨_, h.1.symm, h.2.symm⟩
    · rename_i hs
      split at h
      · simp only [Option.some.injEq, Prod.mk.injEq] at h; exact .inl ⟨_, h.1.symm, h.2.symm⟩
      · rename_i material hm
        split at h
        · cases h
        rename_i md hmd
        split at h
        · simp only [Option.some.injEq, Prod.mk.injEq] at h; exact .inl ⟨_, h.1.symm, h.2.symm⟩
        · rename_i encrypted he
          have hd := deprecateKey_eq (d := d)
            (s := s.withKeys (s.keys.insert (rotatedId k d).toString encrypted)) k
          simp only [keys_withKeys, AList.lookup_insert_ne (rotatedId_toString_ne k d).symm,
            keys, hl] at hd
          simp only [ops_store] at h
          rw [show ({ s with key_store_ := ⟨s.key_store_.keys_.insert (rotatedId k d).toString
            encrypted⟩ } : KeyService InMemoryKeyStore) = s.withKeys
            (s.keys.insert (rotatedId k d).toString encrypted) from rfl, hd] at h
          simp only [Option.some.injEq, Prod.mk.injEq] at h
          exact .inr ⟨old, material, md, encrypted, rfl, not_not.1 hs, hm, hmd, he, h.1.symm,
            by rw [← h.2]⟩

/-- `deleteKey` invalidates the cache entry, then removes the record if there is one. -/
theorem deleteKey_eq (k : KeyId) :
    deleteKey ops k s =
      if k.toString ∈ s.keys then
        (.ok (), (invalidateCachedKey k s).withKeys (s.keys.erase k.toString))
      else (.error (notFound k), invalidateCachedKey k s) := by
  have hk : (invalidateCachedKey k s).key_store_ = s.key_store_ := key_store_invalidateCachedKey
  unfold deleteKey
  by_cases h : k.toString ∈ s.keys
  · simp [remove_eq, h]
  · simp only [ops_remove, remove_eq, hk, if_neg h]
    rw [← hk]

/-- `getKeyMaterial` answers a hit from the cache; on a miss it reads and unwraps the record
and offers the material to the cache. -/
theorem getKeyMaterial_cases (k : KeyId) :
    (∃ m, (getCachedKeyMaterial A k s).1 = some m ∧
      getKeyMaterial A ops K k d s = (.ok m, (getCachedKeyMaterial A k s).2)) ∨
    ((getCachedKeyMaterial A k s).1 = none ∧
      ((s.keys.lookup k.toString = none ∧
        getKeyMaterial A ops K k d s = (.error (notFound k), (getCachedKeyMaterial A k s).2)) ∨
      ∃ key, s.keys.lookup k.toString = some key ∧
        ((∃ e, decryptKeyMaterial A K key = .error e ∧
          getKeyMaterial A ops K k d s = (.error e, (getCachedKeyMaterial A k s).2)) ∨
        ∃ m, decryptKeyMaterial A K key = .ok m ∧
          getKeyMaterial A ops K k d s =
            (.ok m, cacheKeyMaterial A k m d.cacheIv (getCachedKeyMaterial A k s).2)))) := by
  unfold getKeyMaterial
  rcases hc : getCachedKeyMaterial A k s with ⟨_ | m, s₁⟩
  · have hk : s₁.keys = s.keys := by
      have := keys_getCachedKeyMaterial (A := A) (k := k) (s := s)
      rwa [hc] at this
    refine .inr ⟨rfl, ?_⟩
    simp only [ops_retrieve]
    cases hl : s.keys.lookup k.toString with
    | none => exact .inl ⟨rfl, by rw [retrieve_of_lookup_none (by rw [← hl, ← hk])]⟩
    | some key =>
      refine .inr ⟨key, rfl, ?_⟩
      rw [retrieve_eq_ok.2 (by rw [← hl, ← hk] : s₁.key_store_.keys_.lookup k.toString = some key)]
      dsimp only
      cases decryptKeyMaterial A K key with
      | error e => exact .inl ⟨e, rfl, rfl⟩
      | ok m => exact .inr ⟨m, rfl, rfl⟩
  · exact .inl ⟨m, rfl, rfl⟩

/-- On a cache miss `getKeyMaterial` returns the unwrap of the stored record. -/
theorem getKeyMaterial_of_miss {k : KeyId} {key : EncryptedKey}
    (hc : (getCachedKeyMaterial A k s).1 = none) (hl : s.keys.lookup k.toString = some key) :
    (getKeyMaterial A ops K k d s).1 = decryptKeyMaterial A K key := by
  rcases getKeyMaterial_cases (A := A) (K := K) (d := d) (s := s) k with
    ⟨m, hm, -⟩ | ⟨-, ⟨hl', -⟩ | ⟨key', hl', ⟨e, hdec, he⟩ | ⟨m, hdec, he⟩⟩⟩
  · rw [hc] at hm; cases hm
  all_goals rw [hl] at hl'; cases hl'
  all_goals rw [he, hdec]

/-- `getKeyMaterial` never writes the store. -/
@[simp] theorem keys_getKeyMaterial (k : KeyId) : (getKeyMaterial A ops K k d s).2.keys = s.keys := by
  rcases getKeyMaterial_cases (A := A) (K := K) (d := d) (s := s) k with
    ⟨m, -, he⟩ | ⟨-, ⟨-, he⟩ | ⟨key, -, ⟨e, -, he⟩ | ⟨m, -, he⟩⟩⟩ <;> simp [he]

end KeyService

end CryptoService
