import CryptoService.Keys.Rotation

/-!
# Which identifiers the key service hands out

An identifier is addressable when the text API, the key listing and the envelope header can
name it: it is valid (`KeyId::isValid`: a non-empty namespace and id, a positive version) and
its text form parses back to it. `generateKey` takes the namespace of its parameters as it is
and `rotateKey` keeps it, adding one to the version in `uint32_t`; neither checks the result.

* `KeyId.parse_toString_eq_ok_iff`: with a colon-free id, the text form reads back exactly when
  the namespace has no colon;
* `generateKey_addressable_iff` / `rotateKey_addressable_iff`: what a successful call returns
  is addressable exactly when the namespace is non-empty and colon-free and, for a rotation,
  the old version is not the last `uint32_t`;
* `handed_out_addressable`: both, over any store.
-/

namespace CryptoService

namespace KeyId

/-- An identifier that can be named through its text: valid, and its text form parses back. -/
def Addressable (k : KeyId) : Prop := k.isValid = true ∧ parse k.toString = .ok k

instance : DecidablePred Addressable := fun _ => inferInstanceAs (Decidable (_ ∧ _))

theorem isValid_iff {k : KeyId} :
    k.isValid = true ↔ k.namespace_prefix ≠ [] ∧ k.id ≠ [] ∧ 0 < k.version := by
  simp [isValid, List.isEmpty_iff, and_assoc]

/-- With a colon-free id, the text form reads back exactly when the namespace is colon-free. -/
theorem parse_toString_eq_ok_iff {k : KeyId} (hid : ':' ∉ k.id) :
    parse k.toString = .ok k ↔ ':' ∉ k.namespace_prefix :=
  ⟨fun h hns => err_ne_ok ((parse_toString_of_colon (.inl hns)).symm.trans h),
    fun hns => parse_toString hns hid⟩

/-- An identifier with a non-empty, colon-free id is addressable exactly when its namespace is
non-empty and colon-free and its version positive. -/
theorem addressable_iff {k : KeyId} (hid : ':' ∉ k.id) (hne : k.id ≠ []) :
    k.Addressable ↔ k.namespace_prefix ≠ [] ∧ ':' ∉ k.namespace_prefix ∧ 0 < k.version := by
  rw [Addressable, isValid_iff, parse_toString_eq_ok_iff hid]
  tauto

end KeyId

namespace KeyService

variable {A : Aead} {K : Bytes} {σ : Type} {S : KeyStoreOps σ} {d : Draw} {s : KeyService σ}

theorem generateKey_addressable_iff {params : KeyGenerationParams} {k : KeyId}
    {s' : KeyService σ} (h : generateKey A S K params d s = some (.ok k, s')) :
    k.Addressable ↔ params.namespace_prefix ≠ [] ∧ ':' ∉ params.namespace_prefix := by
  rw [generateKey_ok h, KeyId.addressable_iff (KeyId.colon_not_mem_generate_id _ _)
    (UUID.toString_ne_nil _)]
  simp [KeyId.generate]

theorem rotateKey_addressable_iff {k n : KeyId} {s' : KeyService σ}
    (h : rotateKey A S K k d s = some (.ok n, s')) :
    n.Addressable ↔
      k.namespace_prefix ≠ [] ∧ ':' ∉ k.namespace_prefix ∧ k.version.toNat + 1 < 2 ^ 32 := by
  rw [rotateKey_ok h, KeyId.addressable_iff (UUID.colon_not_mem_toString _)
    (UUID.toString_ne_nil _)]
  have hv := k.version.toNat_lt_size
  have hpos : 0 < (rotatedId k d).version ↔ k.version.toNat + 1 < 2 ^ 32 := by
    show 0 < (k.version + 1).toNat ↔ _
    rw [KeyId.toNat_succ]
    simp only [UInt32.size] at hv
    omega
  rw [hpos]
  rfl

variable (A K) in
/-- **Which identifiers the service hands out are addressable.** Over any store, what a
successful `generateKey` returns is addressable exactly when the namespace asked for is
non-empty and colon-free, and what a successful `rotateKey` returns exactly when the old
namespace is such and the old version is below `4294967295`: the empty namespace, a namespace
with a colon and the last version all give identifiers that cannot be named. -/
theorem handed_out_addressable :
    (∀ {σ : Type} (S : KeyStoreOps σ) (params : KeyGenerationParams) (d : Draw)
      (s : KeyService σ) (k : KeyId) (s' : KeyService σ), generateKey A S K params d s = some (.ok k, s') →
        (k.Addressable ↔ params.namespace_prefix ≠ [] ∧ ':' ∉ params.namespace_prefix)) ∧
    ∀ {σ : Type} (S : KeyStoreOps σ) (k : KeyId) (d : Draw) (s : KeyService σ) (n : KeyId)
      (s' : KeyService σ), rotateKey A S K k d s = some (.ok n, s') →
        (n.Addressable ↔
          k.namespace_prefix ≠ [] ∧ ':' ∉ k.namespace_prefix ∧ k.version.toNat + 1 < 2 ^ 32) :=
  ⟨fun _ _ _ _ _ _ h => generateKey_addressable_iff h,
    fun _ _ _ _ _ _ h => rotateKey_addressable_iff h⟩

theorem handed_out_addressable_empty_namespace :
    ∃ s₁, generateKey checksumAead InMemoryKeyStore.ops sampleMasterKey { namespace_prefix := [] }
        (Draw.constant 1 0) (init {}) =
        some (.ok (generatedId { namespace_prefix := [] } (Draw.constant 1 0)), s₁) ∧
      ¬ (generatedId { namespace_prefix := [] } (Draw.constant 1 0)).Addressable ∧
    ∃ s', rotateKey checksumAead InMemoryKeyStore.ops sampleMasterKey lastVersionKeyId
        (Draw.constant 1 0) lastVersionService =
        some (.ok (rotatedId lastVersionKeyId (Draw.constant 1 0)), s') ∧
      ¬ (rotatedId lastVersionKeyId (Draw.constant 1 0)).Addressable := by
  obtain ⟨s₁, hg, s', hr⟩ : ∃ s₁, generateKey checksumAead InMemoryKeyStore.ops sampleMasterKey
      { namespace_prefix := [] } (Draw.constant 1 0) (init {}) =
        some (.ok (generatedId { namespace_prefix := [] } (Draw.constant 1 0)), s₁) ∧
      ∃ s', rotateKey checksumAead InMemoryKeyStore.ops sampleMasterKey lastVersionKeyId
        (Draw.constant 1 0) lastVersionService =
        some (.ok (rotatedId lastVersionKeyId (Draw.constant 1 0)), s') := ⟨_, rfl, _, rfl⟩
  refine ⟨s₁, hg, ?_, s', hr, ?_⟩
  · rw [(handed_out_addressable checksumAead sampleMasterKey).1 _ _ _ _ _ _ hg]
    simp
  · rw [(handed_out_addressable checksumAead sampleMasterKey).2 _ _ _ _ _ _ hr]
    decide

end KeyService

end CryptoService
