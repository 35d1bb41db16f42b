import CryptoService.Keys.Coherence

/-!
# The lifecycle state in the key service

`KeyState` orders a key's life: `PENDING_ACTIVATION < ACTIVE < DEPRECATED <
PENDING_DESTRUCTION < DESTROYED` (`KeyState.rank`). Of the key service's operations only
`rotateKey` reads the state (it rotates `ACTIVE` keys only). `getKeyMaterial` never reads it,
so a destroyed or expired key still yields its material, and `deprecateKey` writes
`DEPRECATED` over whatever state it finds, so it moves a destroyed key back.

* `deprecateKey_rank`: `deprecateKey` succeeds on every stored record and leaves it
  `DEPRECATED`;
* `getKeyMaterial_any_state`, `deprecateKey_destroyed`: both behaviours on a store holding one
  record.
-/

namespace CryptoService

namespace KeyService

open InMemoryKeyStore

/-- `deprecateKey` succeeds on every stored record, whatever its state, and leaves it
`DEPRECATED`; every other record is unchanged. -/
theorem deprecateKey_rank {d : Draw} {s : KeyService InMemoryKeyStore}
    {k : KeyId} {key : EncryptedKey} (h : s.keys.lookup k.toString = some key) :
    ∃ s', deprecateKey ops k d s = some (.ok (), s') ∧
      (s'.keys.lookup k.toString).map (fun r => r.metadata.state.rank) = some 2 ∧
      ∀ t, t ≠ k.toString → s'.keys.lookup t = s.keys.lookup t := by
  refine ⟨_, by rw [deprecateKey_eq, h], by simp [deprecated, KeyState.rank], fun t ht => ?_⟩
  simp [AList.lookup_insert_ne ht]

/-! ## A store holding one record -/

/-- The master key of the examples. -/
def sampleMasterKey : Bytes := List.replicate 32 7

/-- A key of the namespace `auth`. -/
def sampleKeyId : KeyId := ⟨"auth".toList, "k1".toList, 1⟩

/-- The material of the sample record. -/
def sampleMaterial : Bytes := List.replicate 32 5

/-- The record of `sampleKeyId` in state `st`: `sampleMaterial` wrapped under the master key
with the checksum cipher. -/
def sampleRecord (st : KeyState) : EncryptedKey :=
  ⟨(checksumAead.encrypt sampleMasterKey (List.replicate 12 1) [] sampleMaterial).1,
    List.replicate 12 1,
    (checksumAead.encrypt sampleMasterKey (List.replicate 12 1) [] sampleMaterial).2,
    Inhabited.default, { KeyMetadata.default 0 with id := sampleKeyId, state := st }⟩

/-- A key service without a cache client whose store holds only the sample record. -/
def sampleService (st : KeyState) : KeyService InMemoryKeyStore :=
  ⟨⟨(∅ : KeyMap).insert sampleKeyId.toString (sampleRecord st)⟩, none⟩

/-- **A key in any state, at any time, yields its material**: destroyed, pending and expired
keys included. -/
theorem getKeyMaterial_any_state (st : KeyState) (now : ℤ) :
    (getKeyMaterial checksumAead ops sampleMasterKey sampleKeyId (Draw.constant 1 now)
      (sampleService st)).1 = .ok sampleMaterial := by
  cases st <;> rfl

/-- **`deprecateKey` moves a destroyed key back to `DEPRECATED`.** -/
theorem deprecateKey_destroyed :
    (deprecateKey ops sampleKeyId (Draw.constant 1 0) (sampleService .DESTROYED)).map
      (fun r => (r.1, (r.2.keys.lookup sampleKeyId.toString).map fun key => key.metadata.state)) =
    some (.ok (), some .DEPRECATED) := by
  decide

end KeyService

end CryptoService
