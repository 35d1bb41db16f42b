import CryptoService.Keys.LocalKeyStore
import CryptoService.Keys.MemoryService

/-!
# The key service over the local store

`KeyService` is written against `IKeyStore`, and the two stores do not answer alike. Over
`LocalKeyStore`:

* `deprecateKey_local`: `deprecateKey` of a readable record never returns (the store's
  `updateMetadata` locks its mutex twice), and so neither does the rotation of an active key
  (`rotateKey_local`), whose last step deprecates the old key;
* `getKeyMetadata_local`: `getKeyMetadata` returns `KeyMetadata()` at the time of the call,
  with only the id, the algorithm and the state of the record;
* `localKeyStore_diverges`: both, against the in-memory store, over which `deprecateKey`
  always returns;
* `generateKey_escapes`: a namespace that starts with `../` makes `generateKey` write its
  record outside the storage directory, the file path being built from the identifier's text.
-/

namespace CryptoService

namespace KeyService

open LocalKeyStore

variable {A : Aead} {K : Bytes} {k : KeyId} {d : Draw} {s : KeyService LocalKeyStore}

/-- A record read from a file carries `KeyMetadata()` but for its id, algorithm and state. -/
theorem LocalKeyStore.retrieve_metadata {now : ℤ} {st : LocalKeyStore} {key : EncryptedKey}
    (h : LocalKeyStore.retrieve k now st = .ok key) :
    key.metadata = { KeyMetadata.default now with
      id := k, algorithm := key.metadata.algorithm, state := key.metadata.state } := by
  unfold LocalKeyStore.retrieve at h
  split at h
  · cases h
  rename_i data _
  have hs := Option.some_get (isSome_deserialize k now data)
  rw [h] at hs
  rcases deserialize_spec k now data with hd | ⟨_, _, _, _, _, _, -, -, hd⟩ <;>
    rw [hd] at hs <;> cases hs
  rfl

/-- **`getKeyMetadata` over the local store returns `KeyMetadata()`** at the time of the call,
with the id asked for and the record's algorithm and state: owner, validity, rotation history,
allowed operations and usage count are not read back. -/
theorem getKeyMetadata_local {now : ℤ} {m : KeyMetadata}
    (h : getKeyMetadata LocalKeyStore.ops k now s = .ok m) :
    m = { KeyMetadata.default now with id := k, algorithm := m.algorithm, state := m.state } := by
  obtain ⟨key, hk, hm⟩ := bind_eq_ok.1 h
  obtain rfl := pure_eq_ok.1 hm
  exact LocalKeyStore.retrieve_metadata hk

/-- **`deprecateKey` over the local store never returns** once the record can be read. -/
theorem deprecateKey_local (h : ∃ key, LocalKeyStore.retrieve k d.now s.key_store_ = .ok key) :
    deprecateKey LocalKeyStore.ops k d s = none := by
  obtain ⟨key, hk⟩ := h
  simp [deprecateKey, hk]

/-- Over the in-memory store `deprecateKey` always returns. -/
theorem deprecateKey_memory_isSome (k : KeyId) (d : Draw) (s : KeyService InMemoryKeyStore) :
    (deprecateKey InMemoryKeyStore.ops k d s).isSome := by
  rw [deprecateKey_eq]
  rfl

/-- **The rotation of an active key over the local store never returns**: the successor is
written, and then the old key's deprecation locks the store's mutex twice. -/
theorem rotateKey_local {old : EncryptedKey} {material : Bytes} {md : KeyMetadata}
    {encrypted : EncryptedKey} {st : LocalKeyStore}
    (hr : LocalKeyStore.retrieve k d.now s.key_store_ = .ok old)
    (hs : old.metadata.state = .ACTIVE)
    (hm : generateRawKeyMaterial old.metadata.algorithm d = .ok material)
    (hmd : rotatedMetadata (rotatedId k d) k old.metadata d.now = some md)
    (he : encryptKeyMaterial A K material md d.iv = .ok encrypted)
    (hw : LocalKeyStore.store (rotatedId k d) encrypted s.key_store_ = (.ok (), st))
    (hr' : ∃ key, LocalKeyStore.retrieve k d.now st = .ok key) :
    rotateKey A LocalKeyStore.ops K k d s = none := by
  simp only [rotateKey, ops_retrieve, hr, hs, ne_eq, not_true_eq_false, if_false, hm, hmd, he,
    ops_store, hw]
  rw [deprecateKey_local (s := { s with key_store_ := st }) hr']

/-- **The two stores diverge under the key service.** Over the in-memory store `deprecateKey`
always returns; over the local store it never returns once the record can be read, and
`getKeyMetadata` returns `KeyMetadata()` with only the id, algorithm and state set. -/
theorem localKeyStore_diverges :
    (∀ (k : KeyId) (d : Draw) (s : KeyService InMemoryKeyStore),
      (deprecateKey InMemoryKeyStore.ops k d s).isSome) ∧
    (∀ (k : KeyId) (d : Draw) (s : KeyService LocalKeyStore),
      (∃ key, LocalKeyStore.retrieve k d.now s.key_store_ = .ok key) →
        deprecateKey LocalKeyStore.ops k d s = none) ∧
    (∀ (k : KeyId) (now : ℤ) (s : KeyService LocalKeyStore) (m : KeyMetadata),
      getKeyMetadata LocalKeyStore.ops k now s = .ok m →
        m = { KeyMetadata.default now with
          id := k, algorithm := m.algorithm, state := m.state }) :=
  ⟨deprecateKey_memory_isSome, fun _ _ _ h => deprecateKey_local h,
    fun _ _ _ _ h => getKeyMetadata_local h⟩

/-- **A key generated in the namespace `../ns` is filed outside the key directory.** Over a
local store whose directory is not the root, a successful `generateKey` whose namespace is `../`
followed by a name without `/` returns a key in that namespace and writes its file into the
parent of the key directory. -/
theorem generateKey_escapes {params : KeyGenerationParams} {ns : List Char} {dir : Location}
    {k : KeyId} {s' : KeyService LocalKeyStore} (hp : s.key_store_.storage_path_ ≠ [])
    (hd : s.key_store_.storageDir = some dir) (hns : params.namespace_prefix = "../".toList ++ ns)
    (hslash : '/' ∉ ns) (hk : generateKey A LocalKeyStore.ops K params d s = some (.ok k, s')) :
    k.namespace_prefix = params.namespace_prefix ∧
    ∃ data, s'.key_store_.fs.files.lookup
      (dir.dropLast ++ [fileName { k with namespace_prefix := ns }.toString]) = some data := by
  obtain ⟨encrypted, hs⟩ := generateKey_stored hk
  have hg := generateKey_ok hk
  obtain ⟨loc, hl, -, he⟩ := LocalKeyStore.store_eq_ok.1 hs
  rw [locate_getKeyPath_parent hp hd (by rw [hg]; exact hns) hslash
    (by rw [hg]; exact UUID.not_mem_toString (by decide) (by decide) _)] at hl
  cases hl
  exact ⟨by rw [hg]; rfl, _, by rw [he]; exact AList.lookup_insert _⟩

/-- A local store in `/srv/keys` with no key yet, and no cache client. -/
def emptyLocalService : KeyService LocalKeyStore :=
  ⟨⟨"/srv/keys".toList, ⟨[], [[], ["srv".toList], ["srv".toList, "keys".toList]], ∅⟩⟩, none⟩

theorem generateKey_escapes_srv :
    emptyLocalService.key_store_.storage_path_ ≠ [] ∧
    emptyLocalService.key_store_.storageDir = some ["srv".toList, "keys".toList] ∧
    KeyGenerationParams.namespace_prefix { namespace_prefix := "../x".toList } =
      "../".toList ++ "x".toList ∧ '/' ∉ "x".toList ∧
    ∃ s', generateKey checksumAead LocalKeyStore.ops (List.replicate 32 7)
        { namespace_prefix := "../x".toList } (Draw.constant 1 0) emptyLocalService =
        some (.ok (generatedId { namespace_prefix := "../x".toList } (Draw.constant 1 0)), s') ∧
      KeyId.namespace_prefix (generatedId { namespace_prefix := "../x".toList } (Draw.constant 1 0)) =
        "../x".toList ∧
      ∃ data, s'.key_store_.fs.files.lookup
        (["srv".toList, "keys".toList].dropLast ++ [fileName
          { generatedId { namespace_prefix := "../x".toList } (Draw.constant 1 0) with
            namespace_prefix := "x".toList }.toString]) = some data := by
  have hp : emptyLocalService.key_store_.storage_path_ ≠ [] := by decide
  have hd : emptyLocalService.key_store_.storageDir = some ["srv".toList, "keys".toList] := rfl
  obtain ⟨s', hk⟩ : ∃ s', generateKey checksumAead LocalKeyStore.ops (List.replicate 32 7)
      { namespace_prefix := "../x".toList } (Draw.constant 1 0) emptyLocalService =
        some (.ok (generatedId { namespace_prefix := "../x".toList } (Draw.constant 1 0)), s') :=
    ⟨_, rfl⟩
  exact ⟨hp, hd, rfl, by decide, s', hk, generateKey_escapes hp hd rfl (by decide) hk⟩

/-- A record with no material. -/
def blankKey : EncryptedKey := ⟨[], [], [], Inhabited.default, KeyMetadata.default 0⟩

/-- A file system with the directory `/keys`, holding the file of one record. -/
def sampleFileSystem : FileSystem :=
  ⟨[], [[], ["keys".toList]],
    (∅ : AList (fun _ : Location => Bytes)).insert
      ["keys".toList, fileName (KeyId.toString ⟨"auth".toList, "k1".toList, 1⟩)] (serialize blankKey)⟩

/-- A local store in `/keys` holding the file of one record, with no cache client. -/
def sampleLocalService : KeyService LocalKeyStore := ⟨⟨"/keys".toList, sampleFileSystem⟩, none⟩

theorem localKeyStore_diverges_deprecate :
    (∃ key, LocalKeyStore.retrieve ⟨"auth".toList, "k1".toList, 1⟩ 0
      sampleLocalService.key_store_ = .ok key) ∧
    deprecateKey LocalKeyStore.ops ⟨"auth".toList, "k1".toList, 1⟩ (Draw.constant 1 0)
      sampleLocalService = none :=
  have h : ∃ key, LocalKeyStore.retrieve ⟨"auth".toList, "k1".toList, 1⟩ 0
      sampleLocalService.key_store_ = .ok key :=
    ⟨_, @LocalKeyStore.retrieve_eq _ _ _ blankKey rfl (by simp [Fits, blankKey])⟩
  ⟨h, localKeyStore_diverges.2.1 _ (Draw.constant 1 0) _ h⟩

/-- A key generated over the local store cannot be deprecated: the run never returns. -/
example : (run checksumAead LocalKeyStore.ops (List.replicate 32 7)
    [(.generateKey {}, Draw.constant 1 0),
     (.deprecateKey (generatedId {} (Draw.constant 1 0)), Draw.constant 1 0)]
    ⟨⟨"/keys".toList, ⟨[], [[], ["keys".toList]], ∅⟩⟩, none⟩).isNone := by
  decide

end KeyService

end CryptoService
