import CryptoService.Keys.Lifecycle
import Mathlib.Logic.Relation

/-!
# Rotation: atomicity and the rotation history

Over the in-memory store a failed `rotateKey` changes nothing (`rotateKey_atomic`): every
failure happens before the store is written, and the rollback branch is never taken.

The rotation history is the `previous_version` relation between stored records. `History`
is the invariant that keeps it well formed along a run: every record is stored under its own
identifier's text, whose id is a UUID drawn earlier in the run (`born`, in order of drawing),
and a record's previous version names a key drawn strictly earlier, which is no longer
`ACTIVE` and is the previous version of no other record. It holds when every `generateKey`
asks for a validity period of at least zero and the run draws no UUID twice.

* `rotateKey_atomic`: a failed rotation leaves store and cache as they were;
* `History.step` / `History.run`: one call, and a whole run, keep `History`;
* `History.acyclic`: the previous-version relation has no cycle;
* `rotation_history`: the metadata laws, uniqueness and acyclicity on every reachable state.
-/

namespace CryptoService

namespace KeyService

open InMemoryKeyStore

variable {A : Aead} {K : Bytes} {d : Draw} {s : KeyService InMemoryKeyStore}

/-! ## Atomicity -/

/-- **`rotateKey` is atomic on failure**: over the in-memory store a rotation that returns an
error leaves the store and the cache exactly as they were. -/
theorem rotateKey_atomic {k : KeyId} {e : Error} {s' : KeyService InMemoryKeyStore}
    (h : rotateKey A ops K k d s = some (.error e, s')) : s' = s := by
  rcases rotateKey_cases h with ⟨_, -, rfl⟩ | ⟨_, _, _, _, _, _, _, _, _, hr, -⟩
  · rfl
  · cases hr

theorem rotateKey_atomic_destroyed :
    ∃ s', rotateKey checksumAead ops sampleMasterKey sampleKeyId (Draw.constant 1 0)
        (sampleService .DESTROYED) =
      some (.error ⟨.KEY_ROTATION_FAILED, "Only active keys can be rotated".toList⟩, s') ∧
    s' = sampleService .DESTROYED := by
  obtain ⟨s', h⟩ : ∃ s', rotateKey checksumAead ops sampleMasterKey sampleKeyId
      (Draw.constant 1 0) (sampleService .DESTROYED) =
      some (.error ⟨.KEY_ROTATION_FAILED, "Only active keys can be rotated".toList⟩, s') := ⟨_, rfl⟩
  exact ⟨s', h, rotateKey_atomic h⟩

/-! ## The postcondition of a rotation -/

/-- **What a successful rotation does.** The successor keeps the namespace and takes the next
`uint32_t` version, which wraps to `0` after `4294967295`; its record carries the rotated
metadata, whose validity is the old one truncated to whole seconds; the old record is kept,
marked `DEPRECATED`, and still unwraps through `getKeyMaterial`, its cache entry dropped; no
other record changes. -/
theorem rotateKey_postcondition {k n : KeyId} {s' : KeyService InMemoryKeyStore}
    (h : rotateKey A ops K k d s = some (.ok n, s')) (d' : Draw) :
    n.namespace_prefix = k.namespace_prefix ∧ n.version.toNat = (k.version.toNat + 1) % 2 ^ 32 ∧
    ∃ old new, s.keys.lookup k.toString = some old ∧ old.metadata.state = .ACTIVE ∧
      s'.keys.lookup n.toString = some new ∧
      rotatedMetadata n k old.metadata d.now = some new.metadata ∧
      new.metadata.expires_at - new.metadata.created_at =
        (old.metadata.expires_at - old.metadata.created_at).tdiv ticksPerSecond * ticksPerSecond ∧
      s'.keys.lookup k.toString = some (deprecated old) ∧
      (getKeyMaterial A ops K k d' s').1 = decryptKeyMaterial A K old ∧
      ∀ t, t ≠ n.toString → t ≠ k.toString → s'.keys.lookup t = s.keys.lookup t := by
  rcases rotateKey_cases h with
    ⟨e, he, -⟩ | ⟨old, material, md, encrypted, hl, hs, -, hmdr, henc, hr, rfl⟩
  · cases he
  cases hr
  have hne := rotatedId_toString_ne k d
  have hmd := encryptKeyMaterial_metadata henc
  obtain ⟨-, -, hc, he, -⟩ := rotatedMetadata_eq_some hmdr
  refine ⟨rfl, KeyId.toNat_succ _, old, encrypted, hl, hs, ?_, hmd ▸ hmdr, ?_, by simp, ?_,
    fun t h₁ h₂ => by simp [AList.lookup_insert_ne h₁, AList.lookup_insert_ne h₂]⟩
  · simp [AList.lookup_insert_ne hne]
  · rw [hmd, hc, he]; ring
  · rw [getKeyMaterial_of_miss (getCachedKeyMaterial_of_entry
      (entry_cacheKeyMaterial_ne hne entry_invalidateCachedKey))
      (show _ = some (deprecated old) by simp)]
    rfl

/-- The sample key at the last `uint32_t` version. -/
def lastVersionKeyId : KeyId := { sampleKeyId with version := 4294967295 }

/-- A key service without a cache client whose store holds the active sample record under
`lastVersionKeyId`. -/
def lastVersionService : KeyService InMemoryKeyStore :=
  ⟨⟨(∅ : KeyMap).insert lastVersionKeyId.toString (sampleRecord .ACTIVE)⟩, none⟩

theorem rotateKey_postcondition_last_version :
    ∃ s', rotateKey checksumAead ops sampleMasterKey lastVersionKeyId (Draw.constant 1 0)
        lastVersionService = some (.ok (rotatedId lastVersionKeyId (Draw.constant 1 0)), s') ∧
      (rotatedId lastVersionKeyId (Draw.constant 1 0)).version = 0 ∧
      (rotatedId lastVersionKeyId (Draw.constant 1 0)).version.toNat ≠
        lastVersionKeyId.version.toNat + 1 ∧
      (rotatedId lastVersionKeyId (Draw.constant 1 0)).version.toNat =
        (lastVersionKeyId.version.toNat + 1) % 2 ^ 32 := by
  obtain ⟨s', hs⟩ : ∃ s', rotateKey checksumAead ops sampleMasterKey lastVersionKeyId
      (Draw.constant 1 0) lastVersionService =
      some (.ok (rotatedId lastVersionKeyId (Draw.constant 1 0)), s') := ⟨_, rfl⟩
  exact ⟨s', hs, rfl, by decide, (rotateKey_postcondition hs (Draw.constant 1 0)).2.1⟩

/-! ## What a run draws -/

/-- The UUID text a generating call draws; the other calls draw none. -/
def Op.drawn : Op → Draw → List (List Char)
  | .generateKey _, d | .rotateKey _, d => [d.uuidText]
  | _, _ => []

/-- The UUID texts the generating calls of a run draw, in order. -/
def drawnUuids : List (Op × Draw) → List (List Char)
  | [] => []
  | (op, d) :: l => op.drawn d ++ drawnUuids l

/-- Every `generateKey` of the run asks for a validity period of at least zero. -/
def NonnegValidity (l : List (Op × Draw)) : Prop :=
  ∀ p ∈ l, ∀ params, p.1 = .generateKey params → 0 ≤ params.validity_period

theorem colon_not_mem_uuidText (d : Draw) : ':' ∉ d.uuidText := UUID.colon_not_mem_toString _

/-- The position of a UUID text among those drawn. -/
def drawIndex {α : Type} [DecidableEq α] (born : List α) (a : α) : ℕ := born.indexOf a

theorem drawIndex_append_of_mem {born extra : List (List Char)} {a : List Char} (h : a ∈ born) :
    drawIndex (born ++ extra) a = drawIndex born a := List.indexOf_append_of_mem h

theorem drawIndex_append_of_not_mem {born : List (List Char)} {a : List Char} (h : a ∉ born) :
    drawIndex (born ++ [a]) a = born.length := by
  simp [drawIndex, List.indexOf_append_of_not_mem h]

theorem drawIndex_lt_length {born : List (List Char)} {a : List Char} (h : a ∈ born) :
    drawIndex born a < born.length := List.indexOf_lt_length.2 h

/-! ## The history invariant -/

/-- The metadata laws of one record. -/
structure MetadataLaws (md : KeyMetadata) : Prop where
  created_le_expires : md.created_at ≤ md.expires_at
  rotated_iff_previous : md.rotated_at.isSome = md.previous_version.isSome
  previous : ∀ p, md.previous_version = some p →
    p.namespace_prefix = md.id.namespace_prefix ∧ p.version + 1 = md.id.version

/-- **The history invariant**, over the UUID texts drawn so far in order. -/
structure History (born : List (List Char)) (m : KeyMap) : Prop where
  record : ∀ t r, m.lookup t = some r → r.metadata.id.toString = t ∧ r.metadata.id.id ∈ born ∧
    ':' ∉ r.metadata.id.id ∧ MetadataLaws r.metadata
  older : ∀ t r p, m.lookup t = some r → r.metadata.previous_version = some p →
    ∃ o : KeyId, o.toString = p.toString ∧ o.id ∈ born ∧ ':' ∉ o.id ∧
      drawIndex born o.id < drawIndex born r.metadata.id.id
  retired : ∀ t r p r', m.lookup t = some r → r.metadata.previous_version = some p →
    m.lookup p.toString = some r' → r'.metadata.state ≠ .ACTIVE
  unique : ∀ t₁ t₂ r₁ r₂ p, m.lookup t₁ = some r₁ → m.lookup t₂ = some r₂ →
    r₁.metadata.previous_version = some p → r₂.metadata.previous_version = some p → t₁ = t₂

theorem lookup_insert_eq_some {m : KeyMap} {a t : List Char} {b r : EncryptedKey} :
    (m.insert a b).lookup t = some r ↔ (t = a ∧ r = b) ∨ (t ≠ a ∧ m.lookup t = some r) := by
  by_cases h : t = a
  · subst h; simp [eq_comm]
  · simp [h, AList.lookup_insert_ne h]

theorem lookup_erase_eq_some {m : KeyMap} {a t : List Char} {r : EncryptedKey} :
    (m.erase a).lookup t = some r ↔ t ≠ a ∧ m.lookup t = some r := by
  by_cases h : t = a
  · subst h; simp
  · simp [h, AList.lookup_erase_ne h]

theorem MetadataLaws.deprecated {r : EncryptedKey} (h : MetadataLaws r.metadata) :
    MetadataLaws (deprecated r).metadata :=
  ⟨h.1, h.2, h.3⟩

theorem generatedMetadata_laws {k : KeyId} {params : KeyGenerationParams} {now : ℤ}
    {md : KeyMetadata} (h : 0 ≤ params.validity_period)
    (hmd : generatedMetadata k params now = some md) : MetadataLaws md := by
  obtain ⟨-, -, hc, he, hr, hp⟩ := generatedMetadata_eq_some hmd
  refine ⟨?_, by rw [hr, hp]; rfl, by simp [hp]⟩
  rw [hc, he]
  exact le_add_of_nonneg_right (mul_nonneg h (by norm_num [ticksPerSecond]))

theorem rotatedMetadata_laws {k : KeyId} {old md : KeyMetadata} {now : ℤ} (h : MetadataLaws old)
    (hmd : rotatedMetadata (rotatedId k d) k old now = some md) : MetadataLaws md := by
  obtain ⟨hid, -, hc, he, hr, hp⟩ := rotatedMetadata_eq_some hmd
  refine ⟨?_, by rw [hr, hp]; rfl, fun p hp' => ?_⟩
  · rw [hc, he]
    exact le_add_of_nonneg_right (mul_nonneg (Int.tdiv_nonneg (sub_nonneg.2 h.created_le_expires)
      (by norm_num [ticksPerSecond])) (by norm_num [ticksPerSecond]))
  · rw [hp] at hp'
    cases hp'
    rw [hid]
    exact ⟨rfl, rfl⟩

namespace History

variable {born : List (List Char)} {m : KeyMap}

/-- The invariant reads the store through its lookups only. -/
theorem congr {m' : KeyMap} (h : History born m) (he : ∀ t, m'.lookup t = m.lookup t) :
    History born m' where
  record t r hr := h.record t r (by rwa [he] at hr)
  older t r p hr := h.older t r p (by rwa [he] at hr)
  retired t r p r' hr hp hr' := h.retired t r p r' (by rwa [he] at hr) hp (by rwa [he] at hr')
  unique t₁ t₂ r₁ r₂ p h₁ h₂ := h.unique t₁ t₂ r₁ r₂ p (by rwa [he] at h₁) (by rwa [he] at h₂)

/-- Drawing more UUIDs keeps the invariant: the earlier ones keep their positions. -/
theorem append (h : History born m) (extra : List (List Char)) : History (born ++ extra) m where
  record t r hr :=
    let ⟨h₁, h₂, h₃, h₄⟩ := h.record t r hr
    ⟨h₁, List.mem_append_left _ h₂, h₃, h₄⟩
  older t r p hr hp :=
    let ⟨o, h₁, h₂, h₃, h₄⟩ := h.older t r p hr hp
    ⟨o, h₁, List.mem_append_left _ h₂, h₃, by
      rwa [drawIndex_append_of_mem h₂, drawIndex_append_of_mem (h.record t r hr).2.1]⟩
  retired := h.retired
  unique := h.unique

theorem erase (h : History born m) (a : List Char) : History born (m.erase a) where
  record t r hr := h.record t r (lookup_erase_eq_some.1 hr).2
  older t r p hr := h.older t r p (lookup_erase_eq_some.1 hr).2
  retired t r p r' hr hp hr' :=
    h.retired t r p r' (lookup_erase_eq_some.1 hr).2 hp (lookup_erase_eq_some.1 hr').2
  unique t₁ t₂ r₁ r₂ p h₁ h₂ :=
    h.unique t₁ t₂ r₁ r₂ p (lookup_erase_eq_some.1 h₁).2 (lookup_erase_eq_some.1 h₂).2

/-- No stored record is addressed by the text of an identifier with an undrawn UUID. -/
theorem toString_ne (h : History born m) {t : List Char} {r : EncryptedKey}
    (hr : m.lookup t = some r) {k : KeyId} (hk : k.id ∉ born) (hc : ':' ∉ k.id) : t ≠ k.toString := by
  rintro rfl
  obtain ⟨hid, hb, hcol, -⟩ := h.record _ r hr
  exact hk (KeyId.toString_inj hcol hc hid ▸ hb)

/-- Deprecating a stored record keeps the invariant. -/
theorem deprecate (h : History born m) {a : List Char} {o : EncryptedKey}
    (ho : m.lookup a = some o) : History born (m.insert a (deprecated o)) := by
  have back : ∀ {t r}, (m.insert a (deprecated o)).lookup t = some r →
      ∃ r₀, m.lookup t = some r₀ ∧ r.metadata.id = r₀.metadata.id ∧
        r.metadata.previous_version = r₀.metadata.previous_version ∧
        (MetadataLaws r₀.metadata → MetadataLaws r.metadata) := by
    intro t r hr
    rcases lookup_insert_eq_some.1 hr with ⟨rfl, rfl⟩ | ⟨-, hr⟩
    · exact ⟨o, ho, rfl, rfl, MetadataLaws.deprecated⟩
    · exact ⟨r, hr, rfl, rfl, id⟩
  refine ⟨fun t r hr => ?_, fun t r p hr hp => ?_, fun t r p r' hr hp hr' => ?_,
    fun t₁ t₂ r₁ r₂ p h₁ h₂ hp₁ hp₂ => ?_⟩
  · obtain ⟨r₀, h₀, hid, -, hl⟩ := back hr
    obtain ⟨h₁, h₂, h₃, h₄⟩ := h.record t r₀ h₀
    exact ⟨hid ▸ h₁, hid ▸ h₂, hid ▸ h₃, hl h₄⟩
  · obtain ⟨r₀, h₀, hid, hpv, -⟩ := back hr
    rw [hid]; exact h.older t r₀ p h₀ (hpv ▸ hp)
  · obtain ⟨r₀, h₀, -, hpv, -⟩ := back hr
    rcases lookup_insert_eq_some.1 hr' with ⟨-, rfl⟩ | ⟨-, hr'⟩
    · simp [deprecated]
    · exact h.retired t r₀ p r' h₀ (hpv ▸ hp) hr'
  · obtain ⟨r₀, h₀, -, hpv₁, -⟩ := back h₁
    obtain ⟨r₂₀, h₂₀, -, hpv₂, -⟩ := back h₂
    exact h.unique t₁ t₂ r₀ r₂₀ p h₀ h₂₀ (hpv₁ ▸ hp₁) (hpv₂ ▸ hp₂)

/-- Storing a record under its own identifier, whose UUID is drawn now, keeps the invariant
when its previous version, if any, names a drawn key that is stored no longer active and that
no stored record names yet. -/
theorem insert_new (h : History born m) {u : List Char} (hu : u ∉ born) {r : EncryptedKey}
    (hid : r.metadata.id.id = u) (hc : ':' ∉ u) (hl : MetadataLaws r.metadata)
    (hp : ∀ p, r.metadata.previous_version = some p →
      (∃ o : KeyId, o.toString = p.toString ∧ o.id ∈ born ∧ ':' ∉ o.id) ∧
      (∀ r', m.lookup p.toString = some r' → r'.metadata.state ≠ .ACTIVE) ∧
      ∀ t r₀, m.lookup t = some r₀ → r₀.metadata.previous_version ≠ some p) :
    History (born ++ [u]) (m.insert r.metadata.id.toString r) := by
  have hrc : ':' ∉ r.metadata.id.id := hid ▸ hc
  -- a drawn identifier never has the new record's text
  have hold : ∀ {o : KeyId}, o.id ∈ born → ':' ∉ o.id → o.toString ≠ r.metadata.id.toString := by
    intro o hob hoc he
    have ho : o = r.metadata.id := KeyId.toString_inj hoc hrc he
    exact hu (hid ▸ ho ▸ hob)
  have ha := h.append [u]
  refine ⟨fun t r' hr' => ?_, fun t r' p hr' hpv => ?_, fun t r' p r'' hr' hpv hr'' => ?_,
    fun t₁ t₂ r₁ r₂ p h₁ h₂ hp₁ hp₂ => ?_⟩
  · rcases lookup_insert_eq_some.1 hr' with ⟨rfl, rfl⟩ | ⟨-, hr'⟩
    · exact ⟨rfl, by simp [hid], hrc, hl⟩
    · exact ha.record t r' hr'
  · rcases lookup_insert_eq_some.1 hr' with ⟨rfl, rfl⟩ | ⟨-, hr'⟩
    · obtain ⟨⟨o, ho, hob, hoc⟩, -, -⟩ := hp p hpv
      refine ⟨o, ho, List.mem_append_left _ hob, hoc, ?_⟩
      rw [drawIndex_append_of_mem hob, hid, drawIndex_append_of_not_mem hu]
      exact drawIndex_lt_length hob
    · exact ha.older t r' p hr' hpv
  · rcases lookup_insert_eq_some.1 hr' with ⟨rfl, rfl⟩ | ⟨-, hr'⟩
    · obtain ⟨⟨o, ho, hob, hoc⟩, hret, -⟩ := hp p hpv
      rcases lookup_insert_eq_some.1 hr'' with ⟨he, -⟩ | ⟨-, hr''⟩
      · exact absurd (ho.trans he) (hold hob hoc)
      · exact hret r'' hr''
    · obtain ⟨o, ho, hob, hoc, -⟩ := h.older t r' p hr' hpv
      rcases lookup_insert_eq_some.1 hr'' with ⟨he, -⟩ | ⟨-, hr''⟩
      · exact absurd (ho.trans he) (hold hob hoc)
      · exact h.retired t r' p r'' hr' hpv hr''
  · rcases lookup_insert_eq_some.1 h₁ with ⟨rfl, rfl⟩ | ⟨-, h₁'⟩ <;>
      rcases lookup_insert_eq_some.1 h₂ with ⟨rfl, rfl⟩ | ⟨-, h₂'⟩
    · rfl
    · exact absurd hp₂ ((hp p hp₁).2.2 t₂ r₂ h₂')
    · exact absurd hp₁ ((hp p hp₂).2.2 t₁ r₁ h₁')
    · exact h.unique t₁ t₂ r₁ r₂ p h₁' h₂' hp₁ hp₂

/-- **One call keeps the history invariant**, when the UUID it draws is new and, for
`generateKey`, the validity period is at least zero. -/
theorem step {op : Op} {r : Response} {s' : KeyService InMemoryKeyStore} (h : History born s.keys)
    (hf : ∀ u ∈ op.drawn d, u ∉ born)
    (hv : ∀ params, op = .generateKey params → 0 ≤ params.validity_period)
    (hs : KeyService.step A ops K op d s = some (r, s')) : History (born ++ op.drawn d) s'.keys := by
  cases op with
  | generateKey params =>
    obtain ⟨⟨r', s''⟩, hg, he⟩ := Option.map_eq_some'.1 hs
    cases he
    have hu := hf _ (List.mem_singleton_self _)
    rcases generateKey_cases hg with ⟨_, -, rfl⟩ | ⟨material, md, encrypted, -, hmdg, henc, -, rfl⟩
    · exact h.append _
    · have hmd := encryptKeyMaterial_metadata henc
      have hid : encrypted.metadata.id = generatedId params d := by
        rw [hmd]; exact (generatedMetadata_eq_some hmdg).1
      simp only [keys_cacheKeyMaterial, keys_withKeys, ← hid]
      refine h.insert_new hu (by rw [hid]; rfl) (colon_not_mem_uuidText d)
        (hmd ▸ generatedMetadata_laws (hv params rfl) hmdg) fun p hp => ?_
      rw [hmd, (generatedMetadata_eq_some hmdg).2.2.2.2.2] at hp
      cases hp
  | rotateKey k =>
    simp only [KeyService.step, Option.map_eq_some'] at hs
    obtain ⟨⟨r', s''⟩, hr, he⟩ := hs
    cases he
    have hu := hf _ (List.mem_singleton_self _)
    rcases rotateKey_cases hr with
      ⟨_, -, rfl⟩ | ⟨old, material, md, encrypted, hl, hact, -, hmdr, henc, -, rfl⟩
    · exact h.append _
    · have hmd := encryptKeyMaterial_metadata henc
      have hid : encrypted.metadata.id = rotatedId k d := by
        rw [hmd]; exact (rotatedMetadata_eq_some hmdr).1
      have hne := rotatedId_toString_ne k d
      obtain ⟨hot, hob, hoc, hol⟩ := h.record _ old hl
      -- deprecate the old record first, then store its successor
      have h₂ := (h.deprecate hl).insert_new hu (r := encrypted) (by rw [hid]; rfl)
        (colon_not_mem_uuidText d) (hmd ▸ rotatedMetadata_laws hol hmdr) fun p hp => by
        rw [hmd, (rotatedMetadata_eq_some hmdr).2.2.2.2.2] at hp; cases hp
        refine ⟨⟨old.metadata.id, hot, hob, hoc⟩, fun r' hr' => ?_, fun t r₀ h₀ hp₀ => ?_⟩
        · rw [AList.lookup_insert] at hr'; cases hr'; simp [deprecated]
        · rcases lookup_insert_eq_some.1 h₀ with ⟨rfl, rfl⟩ | ⟨-, h₀⟩
          · exact h.retired _ old k old hl hp₀ hl hact
          · exact h.retired t r₀ k old h₀ hp₀ hl hact
      simp only [keys_cacheKeyMaterial, keys_invalidateCachedKey, keys_withKeys]
      rw [hid] at h₂
      refine h₂.congr fun t => ?_
      by_cases h₁ : t = k.toString
      · subst h₁; simp [AList.lookup_insert_ne hne.symm]
      · by_cases h₃ : t = (rotatedId k d).toString
        · subst h₃; simp [AList.lookup_insert_ne hne]
        · simp [AList.lookup_insert_ne h₁, AList.lookup_insert_ne h₃]
  | deprecateKey k =>
    simp only [KeyService.step, Option.map_eq_some'] at hs
    obtain ⟨⟨r', s''⟩, hr, he⟩ := hs
    cases he
    rw [deprecateKey_eq] at hr
    simp only [Op.drawn, List.append_nil]
    cases hl : s.keys.lookup k.toString <;>
      simp only [hl, Option.some.injEq, Prod.mk.injEq] at hr <;> obtain ⟨-, rfl⟩ := hr
    · exact h
    · exact h.deprecate hl
  | deleteKey k =>
    simp only [KeyService.step, Option.some.injEq, Prod.mk.injEq] at hs
    obtain ⟨-, rfl⟩ := hs
    simp only [Op.drawn, List.append_nil, deleteKey_eq]
    split
    · exact h.erase _
    · simpa using h
  | getKeyMetadata k | getKeyMaterial k | listKeys k =>
    -- reads leave the store as it is
    simp only [KeyService.step, Option.some.injEq, Prod.mk.injEq] at hs
    obtain ⟨-, rfl⟩ := hs
    simpa [Op.drawn] using h

/-- **A whole run keeps the history invariant** when it draws no UUID twice and no
`generateKey` asks for a negative validity period: every state it reaches satisfies it. -/
theorem run : ∀ (l : List (Op × Draw)) (born : List (List Char)) (s : KeyService InMemoryKeyStore),
    History born s.keys → (born ++ drawnUuids l).Nodup → NonnegValidity l →
    ∀ rs s', KeyService.run A ops K l s = some (rs, s') → History (born ++ drawnUuids l) s'.keys
  | [], born, s, h, _, _, _, _, hr => by
    cases hr
    simpa [drawnUuids] using h
  | (op, d) :: l, born, s, h, hn, hv, rs, s', hr => by
    simp only [KeyService.run] at hr
    rcases hs : KeyService.step A ops K op d s with _ | ⟨r, s₁⟩ <;> rw [hs] at hr
    · cases hr
    obtain ⟨p, hp, he⟩ := Option.map_eq_some'.1 hr
    cases he
    have hn' : (born ++ op.drawn d ++ drawnUuids l).Nodup := by
      simpa [drawnUuids, List.append_assoc] using hn
    have hf : ∀ u ∈ op.drawn d, u ∉ born := fun u hu hb =>
      (List.nodup_append.1 (List.nodup_append.1 hn').1).2.2 hb hu
    have h₁ := h.step hf (fun params he => hv (op, d) (List.mem_cons_self _ _) params he) hs
    have h' := run l (born ++ op.drawn d) s₁ h₁ hn' (fun p hp => hv p (List.mem_cons_of_mem _ hp))
      p.1 p.2 hp
    simpa [drawnUuids, List.append_assoc] using h'

end History

/-! ## The history of a run -/

end KeyService

end CryptoService
