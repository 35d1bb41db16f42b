import CryptoService.Keys.MemoryService

/-!
# Cache coherence of the key service

The key service caches unwrapped key material under `"keymaterial:" ++ id.toString()` and
answers `getKeyMaterial` from the cache first. `Coherent` says that whatever the cache holds
for a text opens (`decrypt_value`) to the unwrap of the record the store holds under that
text. It holds initially, and every call keeps it when the UUID the call draws names no record
of the store (`Draw.FreshIn`); under it the cache is invisible: a run answers exactly as the
same run without a cache client, whose `getKeyMaterial` is the store-and-unwrap path.

* `step_coherent` / `step_dropCache`: one call keeps `Coherent`, and answers as without the
  cache;
* `run_coherent`: the same for a whole run, which returns exactly when the same run without the
  cache returns;
* `Coherent.holds_generateKey`: a key `generateKey` returns is held (`Holds`);
* `getKeyMaterial_after_deleteKey`: after a successful `deleteKey k`, `getKeyMaterial k` fails
  with the store's `KEY_NOT_FOUND`.
-/

namespace CryptoService

/-- The UUID a call draws names no record of the store: no identifier with that id has its
text form among the store's keys. -/
def Draw.FreshIn (d : Draw) (m : KeyMap) : Prop :=
  ∀ k : KeyId, k.id = d.uuidText → k.toString ∉ m

/-- A fresh identifier's text form is not a key of the store. -/
theorem Draw.FreshIn.not_mem {d : Draw} {m : KeyMap} {k : KeyId} (h : d.FreshIn m)
    (hk : k.id = d.uuidText) : k.toString ∉ m := h k hk

namespace KeyService

open InMemoryKeyStore

variable (A : Aead) (K : Bytes)

/-- The unwrap of the record the store holds under a text. -/
def unwrapped (s : KeyService InMemoryKeyStore) (text : List Char) : Option (Result Bytes) :=
  (s.keys.lookup text).map (decryptKeyMaterial A K)

/-- **The cache invariant**: what the cache holds for a text opens to the unwrap of the store's
record under that text. -/
def Coherent (s : KeyService InMemoryKeyStore) : Prop :=
  ∀ c, s.cache_client_ = some c → ∀ text e, c.entry (CACHE_KEY_PREFIX ++ text) = some e →
    ∃ m, unwrapped A K s text = some (.ok m) ∧ CacheClient.decrypt_value A c.config e = .ok m

/-- Every call of the run draws a UUID that names no record of the store it meets. -/
def FreshRun : List (Op × Draw) → KeyService InMemoryKeyStore → Prop
  | [], _ => True
  | (op, d) :: ops, s => d.FreshIn s.keys ∧
      ∀ r s', step A InMemoryKeyStore.ops K op d s = some (r, s') → FreshRun ops s'

/-- A key service over an empty in-memory store with a new cache client. -/
def init (config : CacheClientConfig) : KeyService InMemoryKeyStore :=
  ⟨⟨∅⟩, some (CacheClient.create config)⟩

variable {A K}
variable {s : KeyService InMemoryKeyStore} {d : Draw}

/-! ## The store's side -/

theorem unwrapped_withKeys_insert_ne {m : KeyMap} {t text : List Char} {r : EncryptedKey}
    (h : text ≠ t) : unwrapped A K (s.withKeys (m.insert t r)) text =
      unwrapped A K (s.withKeys m) text := by
  simp [unwrapped, AList.lookup_insert_ne h]

theorem unwrapped_withKeys_insert_self {m : KeyMap} {t : List Char} {r : EncryptedKey} :
    unwrapped A K (s.withKeys (m.insert t r)) t = some (decryptKeyMaterial A K r) := by
  simp [unwrapped]

theorem mem_of_unwrapped {text : List Char} {x : Result Bytes}
    (h : unwrapped A K s text = some x) : text ∈ s.keys := by
  simp only [unwrapped, Option.map_eq_some'] at h
  obtain ⟨r, hr, -⟩ := h
  exact AList.lookup_isSome.1 (by simp [hr])

/-! ## Keeping the invariant -/

/-- A new store that keeps the unwrap of every record the cache relies on keeps `Coherent`. -/
theorem Coherent.withKeys {m : KeyMap} (h : Coherent A K s)
    (hm : ∀ text x, unwrapped A K s text = some (.ok x) →
      unwrapped A K (s.withKeys m) text = some (.ok x)) :
    Coherent A K (s.withKeys m) := by
  intro c hc text e he
  obtain ⟨x, hx, hd⟩ := h c hc text e he
  exact ⟨x, hm text x hx, hd⟩

/-- Writing a record under a text the store does not hold keeps `Coherent`. -/
theorem Coherent.insert_fresh {t : List Char} {r : EncryptedKey} (h : Coherent A K s)
    (ht : t ∉ s.keys) : Coherent A K (s.withKeys (s.keys.insert t r)) :=
  h.withKeys fun text x hx => by
    rw [unwrapped_withKeys_insert_ne fun e => ht (by rw [← e]; exact mem_of_unwrapped hx)]
    exact hx

/-- Marking a record deprecated keeps its unwrap. -/
theorem Coherent.deprecate {t : List Char} {r : EncryptedKey} (h : Coherent A K s)
    (hr : s.keys.lookup t = some r) : Coherent A K (s.withKeys (s.keys.insert t (deprecated r))) :=
  h.withKeys fun text x hx => by
    by_cases e : text = t
    · subst e
      rw [unwrapped_withKeys_insert_self]
      simpa [unwrapped, hr, deprecated] using hx
    · rw [unwrapped_withKeys_insert_ne e]; exact hx

/-- Caching the unwrap of a stored record keeps `Coherent`. -/
theorem Coherent.cacheKeyMaterial {k : KeyId} {m : Bytes} {iv : Option (Fixed 12)}
    (h : Coherent A K s) (hu : unwrapped A K s k.toString = some (.ok m)) :
    Coherent A K (cacheKeyMaterial A k m iv s) := by
  unfold KeyService.cacheKeyMaterial
  rcases hc : s.cache_client_ with _ | c
  · exact h
  · rintro _ ⟨⟩ text e he
    rcases CacheClient.entry_set A he with ⟨hk, he'⟩ | he'
    · have : text = k.toString := List.append_cancel_left hk
      subst this
      exact ⟨m, hu, by rw [CacheClient.config_set]; exact CacheClient.decrypt_value_encrypt_value A he'⟩
    · obtain ⟨x, hx, hd⟩ := h c hc text e he'
      exact ⟨x, hx, by rw [CacheClient.config_set]; exact hd⟩

/-- After `invalidateCachedKey k` the cache holds nothing for `k`. -/
theorem entry_invalidateCachedKey {k : KeyId} :
    ∀ c, (invalidateCachedKey k s).cache_client_ = some c → c.entry (cacheKey k) = none := by
  unfold KeyService.invalidateCachedKey
  rcases hc : s.cache_client_ with _ | c
  · simp [hc]
  · rintro _ ⟨⟩; exact CacheClient.entry_del_self _ c

/-- Caching the material of another key adds nothing for `k`. -/
theorem entry_cacheKeyMaterial_ne {k n : KeyId} {m : Bytes} {iv : Option (Fixed 12)}
    (hne : n.toString ≠ k.toString)
    (h : ∀ c, s.cache_client_ = some c → c.entry (cacheKey k) = none) :
    ∀ c, (cacheKeyMaterial A n m iv s).cache_client_ = some c → c.entry (cacheKey k) = none := by
  unfold KeyService.cacheKeyMaterial
  rcases hc : s.cache_client_ with _ | c
  · simp [hc]
  · rintro _ ⟨⟩
    cases he : (c.set A (cacheKey n) m iv).2.entry (cacheKey k) with
    | none => rfl
    | some e =>
      rcases CacheClient.entry_set A he with ⟨hk, -⟩ | he'
      · exact absurd (List.append_cancel_left hk).symm hne
      · rw [h c hc] at he'; cases he'

/-- With nothing cached for `k`, the cache lookup misses. -/
theorem getCachedKeyMaterial_of_entry {k : KeyId}
    (h : ∀ c, s.cache_client_ = some c → c.entry (cacheKey k) = none) :
    (getCachedKeyMaterial A k s).1 = none := by
  unfold KeyService.getCachedKeyMaterial
  rcases hc : s.cache_client_ with _ | c
  · rfl
  · simp [CacheClient.get_fst, h c hc, Except.toOption]

/-- Dropping a cache entry keeps `Coherent`. -/
theorem Coherent.invalidateCachedKey {k : KeyId} (h : Coherent A K s) :
    Coherent A K (invalidateCachedKey k s) := by
  unfold KeyService.invalidateCachedKey
  rcases hc : s.cache_client_ with _ | c
  · exact h
  · rintro _ ⟨⟩ text e he
    exact h c hc text e (CacheClient.entry_of_del he).2

/-- A cache lookup keeps `Coherent`, and a hit is the unwrap of the stored record. -/
theorem Coherent.getCachedKeyMaterial {k : KeyId} (h : Coherent A K s) :
    Coherent A K (getCachedKeyMaterial A k s).2 ∧
      ∀ m, (getCachedKeyMaterial A k s).1 = some m →
        unwrapped A K s k.toString = some (.ok m) := by
  unfold KeyService.getCachedKeyMaterial
  rcases hc : s.cache_client_ with _ | c
  · exact ⟨h, by simp⟩
  · refine ⟨?_, fun m hm => ?_⟩
    · rintro _ ⟨⟩ text e he
      rw [CacheClient.entry_get] at he
      obtain ⟨x, hx, hd⟩ := h c hc text e he
      exact ⟨x, hx, by rw [CacheClient.config_get]; exact hd⟩
    · simp only [CacheClient.get_fst] at hm
      split at hm
      · rename_i e he
        obtain ⟨x, hx, hd⟩ := h c hc k.toString e he
        rw [hd] at hm
        cases hm
        exact hx
      · cases hm

/-! ## One call -/

theorem Coherent.generateKey {params : KeyGenerationParams} {r : Result KeyId}
    {s' : KeyService InMemoryKeyStore} (h : Coherent A K s) (hf : d.FreshIn s.keys)
    (hs : generateKey A ops K params d s = some (r, s')) : Coherent A K s' := by
  rcases generateKey_cases hs with ⟨e, -, rfl⟩ | ⟨material, md, encrypted, -, -, henc, -, rfl⟩
  · exact h
  · exact (h.insert_fresh (hf.not_mem rfl)).cacheKeyMaterial (by
      rw [unwrapped_withKeys_insert_self, decryptKeyMaterial_of_encryptKeyMaterial henc])

theorem Coherent.deprecateKey {k : KeyId} {r : Result Unit} {s' : KeyService InMemoryKeyStore}
    (h : Coherent A K s) (hs : deprecateKey ops k d s = some (r, s')) :
    Coherent A K s' := by
  rw [deprecateKey_eq] at hs
  cases hl : s.keys.lookup k.toString <;> simp only [hl, Option.some.injEq, Prod.mk.injEq] at hs <;>
    rw [← hs.2]
  · exact h
  · exact h.deprecate hl

theorem Coherent.rotateKey {k : KeyId} {r : Result KeyId} {s' : KeyService InMemoryKeyStore}
    (h : Coherent A K s) (hf : d.FreshIn s.keys)
    (hs : rotateKey A ops K k d s = some (r, s')) : Coherent A K s' := by
  rcases rotateKey_cases hs with ⟨e, -, rfl⟩ | ⟨old, material, md, encrypted, hl, -, -, -, henc, -, rfl⟩
  · exact h
  · have hne := rotatedId_toString_ne k d
    have hnew : (rotatedId k d).toString ∉ s.keys := hf.not_mem rfl
    have h₁ := h.insert_fresh (r := encrypted) hnew
    have h₂ := h₁.deprecate (t := k.toString) (r := old)
      (by rw [keys_withKeys, AList.lookup_insert_ne hne.symm, hl])
    refine h₂.invalidateCachedKey.cacheKeyMaterial ?_
    simp only [unwrapped, keys_invalidateCachedKey, keys_withKeys, AList.lookup_insert_ne hne,
      AList.lookup_insert, Option.map_some', decryptKeyMaterial_of_encryptKeyMaterial henc]

theorem Coherent.deleteKey {k : KeyId} (h : Coherent A K s) :
    Coherent A K (deleteKey ops k s).2 := by
  have hi := h.invalidateCachedKey (k := k)
  have hnone := entry_invalidateCachedKey (s := s) (k := k)
  rw [deleteKey_eq]
  split
  · intro c hc text e he
    have hk : text ≠ k.toString := by
      rintro rfl
      have h₀ : c.entry (CACHE_KEY_PREFIX ++ k.toString) = none := hnone c hc
      rw [h₀] at he; cases he
    obtain ⟨x, hx, hd⟩ := hi c hc text e he
    refine ⟨x, ?_, hd⟩
    simpa [unwrapped, AList.lookup_erase_ne hk] using hx
  · exact hi

/-- Without a cache client `getKeyMaterial` is the store-and-unwrap path. -/
theorem getKeyMaterial_dropCache (k : KeyId) :
    getKeyMaterial A ops K k d (dropCache s) =
      ((unwrapped A K s k.toString).getD (.error (notFound k)), dropCache s) := by
  rcases getKeyMaterial_cases (A := A) (K := K) (d := d) (s := dropCache s) k with
    ⟨m, hm, -⟩ | ⟨-, ⟨hl, he⟩ | ⟨key, hl, ⟨e, hdec, he⟩ | ⟨m, hdec, he⟩⟩⟩
  · cases hm
  · simp only [keys, key_store_dropCache] at hl
    simp [he, unwrapped, hl]
  all_goals
    simp only [keys, key_store_dropCache] at hl
    simp [he, unwrapped, hl, hdec]

/-- On a coherent state `getKeyMaterial` keeps `Coherent` and answers as it would without the
cache: a hit is the unwrap of the stored record. -/
theorem Coherent.getKeyMaterial {k : KeyId} (h : Coherent A K s) :
    Coherent A K (getKeyMaterial A ops K k d s).2 ∧
      getKeyMaterial A ops K k d (dropCache s) =
        ((getKeyMaterial A ops K k d s).1, dropCache (getKeyMaterial A ops K k d s).2) := by
  obtain ⟨hc, hhit⟩ := h.getCachedKeyMaterial (k := k)
  rw [getKeyMaterial_dropCache]
  rcases getKeyMaterial_cases (A := A) (K := K) (d := d) (s := s) k with
    ⟨m, hm, he⟩ | ⟨-, ⟨hl, he⟩ | ⟨key, hl, ⟨e, hdec, he⟩ | ⟨m, hdec, he⟩⟩⟩ <;> rw [he]
  · exact ⟨hc, by simp [hhit m hm]⟩
  · exact ⟨hc, by simp [unwrapped, hl]⟩
  · exact ⟨hc, by simp [unwrapped, hl, hdec]⟩
  · exact ⟨hc.cacheKeyMaterial (by simp [unwrapped, hl, hdec]), by simp [unwrapped, hl, hdec]⟩

/-- On a coherent state `getKeyMaterial` returns the unwrap of the stored record. -/
theorem Coherent.getKeyMaterial_fst {k : KeyId} (h : Coherent A K s) :
    (KeyService.getKeyMaterial A ops K k d s).1 = (unwrapped A K s k.toString).getD (.error (notFound k)) := by
  have := (h.getKeyMaterial (k := k) (d := d)).2
  rw [getKeyMaterial_dropCache] at this
  exact (congrArg Prod.fst this).symm

/-- On a coherent state a stored `ACTIVE` record that unwraps is a held key: the cache holds
nothing else for it. -/
theorem Coherent.holds {k : KeyId} {key : EncryptedKey} {m : Bytes} (h : Coherent A K s)
    (hl : s.keys.lookup k.toString = some key) (hst : key.metadata.state = .ACTIVE)
    (hm : decryptKeyMaterial A K key = .ok m) : Holds A ops K s k m where
  record _ := ⟨key, by simpa only [ops_retrieve, retrieve_eq_ok] using hl, hst, hm⟩
  cached c hc e x he hx := by
    obtain ⟨y, hy, hd⟩ := h c hc k.toString e he
    simp only [unwrapped, hl, Option.map_some', hm, Option.some.injEq, Except.ok.injEq] at hy
    rw [hd, Except.ok.injEq] at hx
    rw [← hx, ← hy]

/-- Symmetric material is drawn at the algorithm's size, 16 or 32 bytes. -/
theorem length_generateRawKeyMaterial {alg : KeyAlgorithm} {material : Bytes}
    (hsym : isSymmetricAlgorithm alg = true) (hm : generateRawKeyMaterial alg d = .ok material) :
    material.length = 16 ∨ material.length = 32 := by
  have hs := getKeySize_of_symmetric hsym
  unfold generateRawKeyMaterial at hm
  rw [if_neg (by omega), if_pos hsym] at hm
  split at hm
  · rename_i key _
    cases hm
    rwa [key.2]
  · cases hm

/-- A key `generateKey` returns is stored `ACTIVE` in the service it leaves, and its record
unwraps to the material drawn for it. -/
theorem generateKey_held {params : KeyGenerationParams} {k : KeyId}
    {s' : KeyService InMemoryKeyStore} (hk : KeyService.generateKey A ops K params d s = some (.ok k, s')) :
    ∃ material key, generateRawKeyMaterial params.algorithm d = .ok material ∧
      s'.keys.lookup k.toString = some key ∧ key.metadata.state = .ACTIVE ∧
      decryptKeyMaterial A K key = .ok material := by
  rcases generateKey_cases hk with ⟨e, he, -⟩ | ⟨material, md, encrypted, hm, hmd, henc, hr, rfl⟩
  · cases he
  · cases hr
    refine ⟨material, encrypted, hm, by simp, ?_, decryptKeyMaterial_of_encryptKeyMaterial henc⟩
    rw [encryptKeyMaterial_metadata henc]
    exact (generatedMetadata_eq_some hmd).2.1

/-- **A key `generateKey` returns is held** in the service it leaves, from a coherent state and
a fresh draw, with the material drawn for it. -/
theorem Coherent.holds_generateKey {params : KeyGenerationParams} {k : KeyId}
    {s' : KeyService InMemoryKeyStore} (h : Coherent A K s) (hf : d.FreshIn s.keys)
    (hk : KeyService.generateKey A ops K params d s = some (.ok k, s')) :
    ∃ material, generateRawKeyMaterial params.algorithm d = .ok material ∧
      Holds A ops K s' k material := by
  obtain ⟨material, key, hm, hl, hst, hd⟩ := generateKey_held hk
  exact ⟨material, hm, (h.generateKey hf hk).holds hl hst hd⟩

/-! ## Whole runs -/

/-- **From a coherent state a call answers as without the cache**: both never return, or both
return the same answer and the same store. -/
theorem step_dropCache (h : Coherent A K s) (op : Op) :
    step A ops K op d (dropCache s) = (step A ops K op d s).map fun p => (p.1, dropCache p.2) := by
  cases op with
  | generateKey params => simp [step, generateKey_dropCache, Option.map_map, Function.comp_def]
  | rotateKey k => simp [step, rotateKey_dropCache, Option.map_map, Function.comp_def]
  | deprecateKey k => simp [step, deprecateKey_dropCache, Option.map_map, Function.comp_def]
  | deleteKey k => simp [step, deleteKey_dropCache]
  | getKeyMaterial k => simp [step, h.getKeyMaterial.2]
  | getKeyMetadata k | listKeys k => rfl

/-- **One call keeps the cache coherent**, when the UUID it draws names no record. -/
theorem step_coherent {op : Op} {r : Response} {s' : KeyService InMemoryKeyStore}
    (h : Coherent A K s) (hf : d.FreshIn s.keys)
    (hs : step A ops K op d s = some (r, s')) : Coherent A K s' := by
  cases op with
  | generateKey params =>
    obtain ⟨⟨r', s''⟩, hr, he⟩ := Option.map_eq_some'.1 hs
    cases he
    exact h.generateKey hf hr
  | rotateKey k =>
    obtain ⟨⟨r', s''⟩, hr, he⟩ := Option.map_eq_some'.1 hs
    cases he
    exact h.rotateKey hf hr
  | deprecateKey k =>
    obtain ⟨⟨r', s''⟩, hr, he⟩ := Option.map_eq_some'.1 hs
    cases he
    exact h.deprecateKey hr
  | deleteKey k =>
    simp only [step, Option.some.injEq, Prod.mk.injEq] at hs
    obtain ⟨-, rfl⟩ := hs
    exact h.deleteKey
  | getKeyMaterial k =>
    simp only [step, Option.some.injEq, Prod.mk.injEq] at hs
    obtain ⟨-, rfl⟩ := hs
    exact h.getKeyMaterial.1
  | getKeyMetadata k | listKeys k =>
    simp only [step, Option.some.injEq, Prod.mk.injEq] at hs
    obtain ⟨-, rfl⟩ := hs
    exact h

/-- **A whole run keeps the cache coherent and answers as without the cache**: the run without
a cache client returns exactly when the run does, with the same answers and the same store,
and every state a run reaches is coherent. -/
theorem run_coherent : ∀ (l : List (Op × Draw)) (s : KeyService InMemoryKeyStore),
    Coherent A K s → FreshRun A K l s →
    run A ops K l (dropCache s) = (run A ops K l s).map (fun p => (p.1, dropCache p.2)) ∧
      ∀ rs s', run A ops K l s = some (rs, s') → Coherent A K s'
  | [], s, h, _ => ⟨rfl, by rintro _ _ ⟨⟩; exact h⟩
  | (op, d) :: l, s, h, ⟨hf, hl⟩ => by
    simp only [run, step_dropCache h]
    rcases hs : step A ops K op d s with _ | ⟨r, s₁⟩
    · simp
    · obtain ⟨hd, hc⟩ := run_coherent l s₁ (step_coherent h hf hs) (hl r s₁ hs)
      refine ⟨by simp [hd, Option.map_map, Function.comp_def], fun rs s' hrun => ?_⟩
      obtain ⟨p, hp, he⟩ := Option.map_eq_some'.1 hrun
      cases he
      exact hc p.1 p.2 hp

theorem coherent_init (config : CacheClientConfig) : Coherent A K (init config) := by
  rintro c ⟨⟩ text e he
  unfold CacheClient.entry CacheClient.create at he
  split at he <;> simp [LocalLRUCache.empty] at he

/-- After a successful `deleteKey k`, `getKeyMaterial k` misses the cache and fails with the
store's `KEY_NOT_FOUND`. -/
theorem getKeyMaterial_after_deleteKey {k : KeyId} (h : (deleteKey ops k s).1 = .ok ()) :
    (getKeyMaterial A ops K k d (deleteKey ops k s).2).1 = .error (notFound k) := by
  rw [deleteKey_eq] at h ⊢
  split at h
  · rw [if_pos ‹_›]
    have hmiss := getCachedKeyMaterial_of_entry (A := A) (k := k)
      (s := (invalidateCachedKey k s).withKeys (s.keys.erase k.toString))
      (entry_invalidateCachedKey (s := s))
    rcases getKeyMaterial_cases (A := A) (K := K) (d := d)
      (s := (invalidateCachedKey k s).withKeys (s.keys.erase k.toString)) k with
      ⟨m, hm, -⟩ | ⟨-, ⟨-, he⟩ | ⟨key, hl, -⟩⟩
    · rw [hmiss] at hm; cases hm
    · rw [he]
    · simp at hl
  · cases h

variable (A K) in
/-- **Key-material cache coherence.** From an empty in-memory store and a new cache client,
every run whose calls draw fresh UUIDs answers exactly as the same run without a cache client,
and ends coherent where it returns; there `getKeyMaterial` returns the store-and-unwrap
result, and after a successful `deleteKey k` it fails with `KEY_NOT_FOUND`. -/
theorem keyMaterial_cache_coherent (config : CacheClientConfig) (l : List (Op × Draw))
    (hfresh : FreshRun A K l (init config)) :
    run A ops K l (dropCache (init config)) =
        (run A ops K l (init config)).map (fun p => (p.1, dropCache p.2)) ∧
      ∀ rs s, run A ops K l (init config) = some (rs, s) → Coherent A K s ∧
        (∀ k d, (getKeyMaterial A ops K k d s).1 =
          (unwrapped A K s k.toString).getD (.error (notFound k))) ∧
        ∀ k d, (deleteKey ops k s).1 = .ok () →
          (getKeyMaterial A ops K k d (deleteKey ops k s).2).1 = .error (notFound k) := by
  obtain ⟨hd, hc⟩ := run_coherent l (init config) (coherent_init config) hfresh
  exact ⟨hd, fun rs s hrun => ⟨hc rs s hrun, fun k d => (hc rs s hrun).getKeyMaterial_fst,
    fun k d h => getKeyMaterial_after_deleteKey h⟩⟩

theorem keyMaterial_cache_coherent_generateKey :
    FreshRun checksumAead (List.replicate 32 7) [(.generateKey {}, Draw.constant 1 0)] (init {}) ∧
    run checksumAead ops (List.replicate 32 7) [(.generateKey {}, Draw.constant 1 0)]
        (dropCache (init {})) =
      (run checksumAead ops (List.replicate 32 7) [(.generateKey {}, Draw.constant 1 0)]
        (init {})).map (fun p => (p.1, dropCache p.2)) ∧
    ∃ rs s, run checksumAead ops (List.replicate 32 7) [(.generateKey {}, Draw.constant 1 0)]
        (init {}) = some (rs, s) ∧ Coherent checksumAead (List.replicate 32 7) s ∧
      (∀ k d, (getKeyMaterial checksumAead ops (List.replicate 32 7) k d s).1 =
        (unwrapped checksumAead (List.replicate 32 7) s k.toString).getD (.error (notFound k))) ∧
      ∀ k d, (deleteKey ops k s).1 = .ok () →
        (getKeyMaterial checksumAead ops (List.replicate 32 7) k d (deleteKey ops k s).2).1 =
          .error (notFound k) := by
  have h : FreshRun checksumAead (List.replicate 32 7) [(.generateKey {}, Draw.constant 1 0)]
      (init {}) := ⟨fun _ _ => AList.not_mem_empty _, fun _ _ _ => trivial⟩
  obtain ⟨hd, hc⟩ := keyMaterial_cache_coherent checksumAead (List.replicate 32 7) {} _ h
  obtain ⟨rs, s, hrun⟩ : ∃ rs s, run checksumAead ops (List.replicate 32 7)
      [(.generateKey {}, Draw.constant 1 0)] (init {}) = some (rs, s) := ⟨_, _, rfl⟩
  exact ⟨h, hd, rs, s, hrun, hc rs s hrun⟩

end KeyService

end CryptoService
