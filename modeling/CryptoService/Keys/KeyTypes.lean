import CryptoService.Common.Strings

/-!
# Key identifiers, algorithms and metadata

The data model of `crypto/keys/key_types.h`. A `KeyId` is the triple
`(namespace_prefix, id, version)` with `version : uint32_t`; its text form is
`namespace:id:version` (`KeyId.toString`), and `KeyId.parse` splits a text at `':'` with
`std::getline` and reads the version with `std::stoul`, narrowed to `uint32_t`.

Time points are counts of nanoseconds (`std::chrono::system_clock` of libstdc++), durations of
`KeyGenerationParams` are seconds.

* `KeyId.parse_toString`: the text form reads back when neither the namespace nor the id has a
  colon;
* `KeyId.toString_inj`: two identifiers with colon-free ids and the same text form are equal
  (the namespace may hold colons: the last two fields fix the split).
-/

namespace CryptoService

/-- `crypto::KeyAlgorithm`. -/
inductive KeyAlgorithm
  | AES_128_GCM | AES_256_GCM | AES_128_CBC | AES_256_CBC
  | RSA_2048 | RSA_3072 | RSA_4096
  | ECDSA_P256 | ECDSA_P384 | ECDSA_P521
  deriving DecidableEq, Repr

/-- `crypto::KeyType`. -/
inductive KeyType
  | SYMMETRIC | ASYMMETRIC_PUBLIC | ASYMMETRIC_PRIVATE
  deriving DecidableEq, Repr

/-- `crypto::KeyState`, in the order of its enumerators. -/
inductive KeyState
  | PENDING_ACTIVATION | ACTIVE | DEPRECATED | PENDING_DESTRUCTION | DESTROYED
  deriving DecidableEq, Repr

/-- The value of a `KeyState` enumerator: the lifecycle order. -/
def KeyState.rank : KeyState → ℕ
  | .PENDING_ACTIVATION => 0
  | .ACTIVE => 1
  | .DEPRECATED => 2
  | .PENDING_DESTRUCTION => 3
  | .DESTROYED => 4

/-- `getKeySize`: the key length in bytes. -/
def getKeySize : KeyAlgorithm → ℕ
  | .AES_128_GCM | .AES_128_CBC => 16
  | .AES_256_GCM | .AES_256_CBC => 32
  | .RSA_2048 => 256
  | .RSA_3072 => 384
  | .RSA_4096 => 512
  | .ECDSA_P256 => 32
  | .ECDSA_P384 => 48
  | .ECDSA_P521 => 66

/-- `isSymmetricAlgorithm`. -/
def isSymmetricAlgorithm : KeyAlgorithm → Bool
  | .AES_128_GCM | .AES_256_GCM | .AES_128_CBC | .AES_256_CBC => true
  | _ => false

theorem getKeySize_of_symmetric {a : KeyAlgorithm} (h : isSymmetricAlgorithm a = true) :
    getKeySize a = 16 ∨ getKeySize a = 32 := by
  cases a <;> simp_all [isSymmetricAlgorithm, getKeySize]

/-! ## Key identifiers -/

/-- `crypto::KeyId`. -/
structure KeyId where
  namespace_prefix : List Char
  id : List Char
  version : UInt32
  deriving DecidableEq, Repr

/-- `KeyId()`. -/
instance : Inhabited KeyId := ⟨⟨[], [], 1⟩⟩

namespace KeyId

/-- `KeyId::generate`: a new UUID in the namespace, at version 1. -/
def generate (ns : List Char) (r : Bytes) : KeyId :=
  ⟨ns, UUID.toString (UUID.generate r), 1⟩

/-- `KeyId::toString`: `namespace:id:version`. -/
def toString (k : KeyId) : List Char :=
  k.namespace_prefix ++ ':' :: (k.id ++ ':' :: toDecimal k.version.toNat)

/-- `KeyId::parse`. -/
def parse (s : List Char) : Result KeyId :=
  match getlineFields ':' [] s with
  | [ns, id, v] =>
    match stoul v with
    | some n => .ok ⟨ns, id, UInt32.ofNat n⟩
    | none => err .INVALID_INPUT "Invalid version number".toList
  | _ => err .INVALID_INPUT "Invalid KeyId format".toList

/-- `KeyId::isValid`. -/
def isValid (k : KeyId) : Bool := ! k.namespace_prefix.isEmpty && ! k.id.isEmpty && 0 < k.version

theorem colon_not_mem_toDecimal (n : ℕ) : ':' ∉ toDecimal n := not_mem_toDecimal (c := ':') rfl n

theorem uint32_ofNat_toNat (v : UInt32) : UInt32.ofNat v.toNat = v :=
  UInt32.toNat.inj (UInt32.toNat_ofNat_of_lt v.toNat_lt_size)

/-- Three colon-free fields, the last one not empty, are what `parse` splits a text into; the
version is then what `std::stoul` reads, narrowed to `uint32_t`. -/
theorem parse_of_stoul {ns id v : List Char} (hns : ':' ∉ ns) (hid : ':' ∉ id) (hv : ':' ∉ v)
    (hne : v ≠ []) {n : ℕ} (hn : stoul v = some n) :
    parse (ns ++ ':' :: (id ++ ':' :: v)) = .ok ⟨ns, id, UInt32.ofNat n⟩ := by
  simp only [parse, getlineFields_sep hns, getlineFields_sep hid, getlineFields_single hv hne,
    List.reverse_nil, List.nil_append, hn]

/-- **The text form reads back** when neither the namespace nor the id holds a colon. -/
theorem parse_toString {k : KeyId} (hns : ':' ∉ k.namespace_prefix) (hid : ':' ∉ k.id) :
    parse k.toString = .ok k := by
  have hv : k.version.toNat < 2 ^ 64 := by
    have := k.version.toNat_lt_size; simp only [UInt32.size] at this; omega
  rw [toString, parse_of_stoul hns hid (colon_not_mem_toDecimal _) (toDecimal_ne_nil _)
    (stoul_toDecimal hv), uint32_ofNat_toNat]

/-- **A colon in the namespace or the id breaks the text form**: it splits into more than
three fields. -/
theorem parse_toString_of_colon {k : KeyId} (h : ':' ∈ k.namespace_prefix ∨ ':' ∈ k.id) :
    parse k.toString = err .INVALID_INPUT "Invalid KeyId format".toList := by
  obtain ⟨F, hF, he⟩ := getlineFields_append_sep ':' (k.namespace_prefix ++ ':' :: k.id)
    (toDecimal k.version.toNat) []
  have hc : 2 ≤ (k.namespace_prefix ++ ':' :: k.id).count ':' := by
    rcases h with h | h <;> simp [List.count_cons] <;> have := List.count_pos_iff.2 h <;> omega
  have hlen : 3 < (getlineFields ':' [] k.toString).length := by
    rw [toString, ← List.cons_append, ← List.append_assoc, he,
      getlineFields_single (colon_not_mem_toDecimal _) (toDecimal_ne_nil _)]
    simp; omega
  unfold parse
  split
  · rename_i hf; rw [hf] at hlen; simp at hlen
  · rfl

theorem reverse_sep {α : Type} (a b : List α) (c : α) :
    (a ++ c :: b).reverse = b.reverse ++ c :: a.reverse := by simp

/-- The text form fixes the version: it is what follows the last colon. -/
theorem version_eq_of_toString_eq {k k' : KeyId} (h : k.toString = k'.toString) :
    k.version = k'.version := by
  have h := congrArg List.reverse h
  simp only [toString, reverse_sep, List.append_assoc, List.cons_append] at h
  obtain ⟨hv, -⟩ := append_sep_inj (by simpa using colon_not_mem_toDecimal k.version.toNat)
    (by simpa using colon_not_mem_toDecimal k'.version.toNat) h
  exact UInt32.toNat.inj (toDecimal_injective (List.reverse_injective hv))

/-- The `uint32_t` successor wraps at `2 ^ 32`. -/
theorem toNat_succ (v : UInt32) : (v + 1).toNat = (v.toNat + 1) % 2 ^ 32 := by
  simp only [UInt32.toNat, UInt32.add_def, Fin.val_add]
  rfl

/-- The `uint32_t` successor never returns its argument. -/
theorem succ_ne_self (v : UInt32) : v + 1 ≠ v := by
  intro h
  have h' := congrArg UInt32.toNat h
  have hv := v.toNat_lt_size
  rw [toNat_succ] at h'
  simp only [UInt32.size] at hv
  omega

/-- **Distinct identifiers with colon-free ids have distinct text forms.** -/
theorem toString_inj {k k' : KeyId} (hk : ':' ∉ k.id) (hk' : ':' ∉ k'.id)
    (h : k.toString = k'.toString) : k = k' := by
  have h := congrArg List.reverse h
  simp only [toString, reverse_sep, List.append_assoc, List.cons_append] at h
  obtain ⟨hv, h⟩ := append_sep_inj (by simpa using colon_not_mem_toDecimal k.version.toNat)
    (by simpa using colon_not_mem_toDecimal k'.version.toNat) h
  obtain ⟨hid, hns⟩ := append_sep_inj (by simpa using hk) (by simpa using hk') h
  have hv := UInt32.toNat.inj (toDecimal_injective (List.reverse_injective hv))
  have hid := List.reverse_injective hid
  have hns := List.reverse_injective hns
  cases k; cases k'
  simp_all

theorem colon_not_mem_generate_id (ns : List Char) (r : Bytes) : ':' ∉ (generate ns r).id :=
  UUID.colon_not_mem_toString _

end KeyId

/-! ## The grammar of the text form

The spec's `<namespace>:<uuid>:<version>`, written from the spec's words and not from the
source, to compare with what `KeyId.parse` accepts. -/

/-- The canonical text of a UUID: 36 characters, hyphens at 8, 13, 18 and 23 and hexadecimal
digits elsewhere. -/
def isUuidText (u : List Char) : Bool :=
  u.length = 36 && u.enum.all fun (i, c) => if i ∈ [8, 13, 18, 23] then c = '-' else isHexDigit c

/-- The canonical decimal of an integer in `[1, 2 ^ 32 - 1]`. -/
def isVersionText (v : List Char) : Bool :=
  v = toDecimal (decimalValue v) && 0 < decimalValue v && decimalValue v < 2 ^ 32

/-- The spec's text form of a key identifier. -/
def IsKeyIdText (s : List Char) : Prop :=
  ∃ ns u v, s = ns ++ ':' :: (u ++ ':' :: v) ∧ ns ≠ [] ∧ ':' ∉ ns ∧ isUuidText u = true ∧
    isVersionText v = true

theorem colon_not_mem_of_isUuidText {u : List Char} (h : isUuidText u = true) : ':' ∉ u := by
  intro hc
  obtain ⟨i, hi⟩ := List.mem_iff_getElem?.1 hc
  simp only [isUuidText, Bool.and_eq_true, List.all_eq_true] at h
  have := h.2 (i, ':') (List.mem_enum_iff_getElem?.2 hi)
  dsimp only at this
  split at this <;> exact absurd this (by decide)

namespace KeyId

/-- Every text of the grammar parses, to an identifier whose text form it is. -/
theorem parse_of_isKeyIdText {s : List Char} (h : IsKeyIdText s) :
    ∃ k, parse s = .ok k ∧ k.toString = s := by
  obtain ⟨ns, u, v, rfl, -, hns, hu, hv⟩ := h
  simp only [isVersionText, Bool.and_eq_true, decide_eq_true_eq] at hv
  obtain ⟨⟨hv, -⟩, hlt⟩ := hv
  have hk : toString ⟨ns, u, UInt32.ofNat (decimalValue v)⟩ = ns ++ ':' :: (u ++ ':' :: v) := by
    rw [toString, UInt32.toNat_ofNat_of_lt (lt_of_lt_of_eq hlt rfl), ← hv]
  refine ⟨_, ?_, hk⟩
  rw [← hk]
  exact parse_toString hns (colon_not_mem_of_isUuidText hu)

/-- For colon-free namespace and id, `parse` accepts a version with any number of leading
zeros and of any value below `2 ^ 64`, narrowed to `uint32_t`. -/
theorem parse_zeros_toDecimal {ns id : List Char} (hns : ':' ∉ ns) (hid : ':' ∉ id) (z : ℕ)
    {n : ℕ} (hn : n < 2 ^ 64) :
    parse (ns ++ ':' :: (id ++ ':' :: (List.replicate z '0' ++ toDecimal n))) =
      .ok ⟨ns, id, UInt32.ofNat n⟩ := by
  have hd : ∀ c ∈ List.replicate z '0' ++ toDecimal n, c.isDigit = true := by
    simp only [List.mem_append, List.mem_replicate]
    rintro c (⟨-, rfl⟩ | hc)
    · rfl
    · exact isDigit_of_mem_toDecimal n c hc
  have hval : decimalValue (List.replicate z '0' ++ toDecimal n) = n := by
    rw [decimalValue_zeros_append, decimalValue_toDecimal]
  refine parse_of_stoul hns hid (fun h => absurd (hd ':' h) (by decide)) ?_ ?_
  · exact List.append_ne_nil_of_right_ne_nil _ (toDecimal_ne_nil n)
  · rw [stoul_of_isDigit (List.append_ne_nil_of_right_ne_nil _ (toDecimal_ne_nil n)) hd
      (by rw [hval]; exact hn), hval]

/-- **What `parse` accepts.** Every text of the spec's grammar parses, to an identifier whose
text form is that text. But `parse` checks neither the namespace nor the id beyond their colons,
reads the version with `std::stoul` and narrows it to `uint32_t`: for every colon-free namespace
and id, empty or not a UUID, a version with leading zeros, `0`, or any value below `2 ^ 64`
parses too, and texts that differ in their leading zeros parse to the same identifier. -/
theorem parse_grammar :
    (∀ s, IsKeyIdText s → ∃ k, parse s = .ok k ∧ k.toString = s) ∧
    ∀ ns id : List Char, ':' ∉ ns → ':' ∉ id → ∀ z n, n < 2 ^ 64 →
      parse (ns ++ ':' :: (id ++ ':' :: (List.replicate z '0' ++ toDecimal n))) =
        .ok ⟨ns, id, UInt32.ofNat n⟩ :=
  ⟨fun _ => parse_of_isKeyIdText, fun _ _ hns hid z _ hn => parse_zeros_toDecimal hns hid z hn⟩

/-- A spec-valid identifier with its version written `07`: the text is outside the grammar,
parses, is not the text form of what it parses to, and parses as `7` does. -/
theorem parse_grammar_leading_zero :
    ¬ IsKeyIdText "default:550e8400-e29b-41d4-a716-446655440000:07".toList ∧
    parse "default:550e8400-e29b-41d4-a716-446655440000:07".toList =
      .ok ⟨"default".toList, "550e8400-e29b-41d4-a716-446655440000".toList, 7⟩ ∧
    parse "default:550e8400-e29b-41d4-a716-446655440000:7".toList =
      .ok ⟨"default".toList, "550e8400-e29b-41d4-a716-446655440000".toList, 7⟩ ∧
    toString ⟨"default".toList, "550e8400-e29b-41d4-a716-446655440000".toList, 7⟩ ≠
      "default:550e8400-e29b-41d4-a716-446655440000:07".toList := by
  have h07 : "default:550e8400-e29b-41d4-a716-446655440000:07".toList = "default".toList ++
      ':' :: ("550e8400-e29b-41d4-a716-446655440000".toList ++ ':' ::
        (List.replicate 1 '0' ++ toDecimal 7)) := by decide
  have h7 : "default:550e8400-e29b-41d4-a716-446655440000:7".toList = "default".toList ++
      ':' :: ("550e8400-e29b-41d4-a716-446655440000".toList ++ ':' ::
        (List.replicate 0 '0' ++ toDecimal 7)) := by decide
  refine ⟨?_, h07 ▸ parse_grammar.2 _ _ (by decide) (by decide) 1 7 (by norm_num),
    h7 ▸ parse_grammar.2 _ _ (by decide) (by decide) 0 7 (by norm_num), by decide⟩
  rintro ⟨ns, u, v, hs, -, hns, hu, hv⟩
  obtain ⟨-, hs⟩ := append_sep_inj (a := "default".toList) (by decide) hns hs
  obtain ⟨-, rfl⟩ := append_sep_inj (a := "550e8400-e29b-41d4-a716-446655440000".toList)
    (by decide) (colon_not_mem_of_isUuidText hu) hs
  exact absurd hv (by decide)

end KeyId

/-! ## Metadata and records -/

/-- Nanoseconds in a second: `system_clock::duration` of libstdc++. -/
def ticksPerSecond : ℤ := 1000000000

/-- `std::chrono::hours(24 * 365)`, in nanoseconds. -/
def oneYear : ℤ := 24 * 365 * 3600 * ticksPerSecond

/-- `crypto::KeyMetadata`. -/
structure KeyMetadata where
  id : KeyId
  algorithm : KeyAlgorithm
  type : KeyType
  state : KeyState
  created_at : ℤ
  expires_at : ℤ
  rotated_at : Option ℤ
  previous_version : Option KeyId
  owner_service : List Char
  allowed_operations : List (List Char)
  usage_count : ℕ
  deriving DecidableEq, Repr

namespace KeyMetadata

/-- `KeyMetadata()` at clock reading `now`: an active AES-256-GCM key, valid for a year. -/
def default (now : ℤ) : KeyMetadata :=
  ⟨Inhabited.default, .AES_256_GCM, .SYMMETRIC, .ACTIVE, now, now + oneYear, none, none, [], [],
    0⟩

/-- `KeyMetadata::isExpired`. -/
def isExpired (m : KeyMetadata) (now : ℤ) : Bool := m.expires_at < now

/-- `KeyMetadata::canEncrypt`. -/
def canEncrypt (m : KeyMetadata) (now : ℤ) : Bool :=
  m.state = .ACTIVE && !m.isExpired now && m.allowed_operations.contains "encrypt".toList

/-- `KeyMetadata::canDecrypt`: deprecated keys still decrypt. -/
def canDecrypt (m : KeyMetadata) (now : ℤ) : Bool :=
  (m.state = .ACTIVE || m.state = .DEPRECATED) && !m.isExpired now &&
    m.allowed_operations.contains "decrypt".toList

/-- `KeyMetadata::isActive`. -/
def isActive (m : KeyMetadata) (now : ℤ) : Bool := m.state = .ACTIVE && !m.isExpired now

end KeyMetadata

/-- `crypto::EncryptedKey`: a record of the key store. -/
structure EncryptedKey where
  encrypted_material : Bytes
  iv : Bytes
  tag : Bytes
  kek_id : KeyId
  metadata : KeyMetadata
  deriving DecidableEq, Repr

/-- `crypto::KeyGenerationParams`, with the defaults of its constructor. -/
structure KeyGenerationParams where
  namespace_prefix : List Char := "default".toList
  algorithm : KeyAlgorithm := .AES_256_GCM
  owner_service : List Char := []
  validity_period : ℤ := 24 * 365 * 3600
  allowed_operations : List (List Char) := ["encrypt".toList, "decrypt".toList]
  deriving DecidableEq, Repr

end CryptoService
