import CryptoService.Keys.KeyTypes
import CryptoService.Common.Bytes

/-!
# The file envelope header

`FileEncryptionHeader::serialize` writes the header of an encrypted file:
`magic version algorithm [key_len key_str] [len wrapped_dek] [len iv] [len tag] original_size
chunk_size`, every integer little-endian. `deserialize` checks the size (20 bytes at least),
the magic number and that the key text parses; nothing else is checked. Its reads past the
first twelve bytes are not bounds-checked: reading beyond the buffer is undefined, `none` here.

* `deserialize_serialize`: a header written with the magic number and an identifier whose text
  reads back is read back whole;
* `header_round_trip`: so is every such header whose fields fit their `u32` lengths, the key
  text included: one of `2 ^ 32` characters wraps to the length 0 (`header_round_trip_long_key`);
* `deserialize_take` / `deserialize_truncated`: every cut of such a header after twenty bytes
  or more, short of its end, is read past its end instead of being refused.
-/

namespace CryptoService

/-- The bytes of a `std::string`, whose `char`s are the model's characters below 256. -/
def stringBytes (s : List Char) : Bytes := s.map fun c => UInt8.ofNat c.toNat

/-- The `std::string` made of some bytes. -/
def bytesString (b : Bytes) : List Char := b.map fun x => Char.ofNat x.toNat

theorem bytesString_stringBytes {s : List Char} (h : ∀ c ∈ s, c.toNat < 256) :
    bytesString (stringBytes s) = s := by
  induction s with
  | nil => rfl
  | cons c s ih =>
    have hc : (UInt8.ofNat c.toNat).toNat = c.toNat :=
      UInt8.toNat_ofNat_of_lt (h c (List.mem_cons_self _ _))
    simp only [bytesString, stringBytes, List.map_cons, hc, Char.ofNat_toNat] at ih ⊢
    rw [ih fun c hc => h c (List.mem_cons_of_mem _ hc)]

@[simp] theorem length_stringBytes (s : List Char) : (stringBytes s).length = s.length := by
  simp [stringBytes]

theorem uint16_ofNat_toNat (v : UInt16) : UInt16.ofNat v.toNat = v :=
  UInt16.toNat.inj (UInt16.toNat_ofNat_of_lt v.toNat_lt_size)

theorem uint64_ofNat_toNat (v : UInt64) : UInt64.ofNat v.toNat = v :=
  UInt64.toNat.inj (UInt64.toNat_ofNat_of_lt v.toNat_lt_size)

/-- `crypto::FileEncryptionHeader`. -/
structure FileEncryptionHeader where
  magic : UInt32
  version : UInt16
  algorithm : UInt16
  key_id : KeyId
  wrapped_dek : Bytes
  iv : Bytes
  tag : Bytes
  original_size : UInt64
  chunk_size : UInt32
  deriving DecidableEq, Repr

namespace FileEncryptionHeader

/-- `FileEncryptionHeader::MAGIC`, "CRYP". -/
def MAGIC : UInt32 := 0x43525950

/-- `FileEncryptionHeader::VERSION`. -/
def VERSION : UInt16 := 1

/-! ## Writing -/

/-- `write_u16`. -/
def writeU16 (v : UInt16) : Bytes := encodeLE 2 v.toNat

/-- `write_u32`. -/
def writeU32 (v : UInt32) : Bytes := encodeLE 4 v.toNat

/-- `write_u64`. -/
def writeU64 (v : UInt64) : Bytes := encodeLE 8 v.toNat

/-- `write_bytes`: the length cast to `uint32_t`, then the bytes. -/
def writeBytes (data : Bytes) : Bytes := writeU32 (UInt32.ofNat data.length) ++ data

/-- `FileEncryptionHeader::serialize`. -/
def serialize (h : FileEncryptionHeader) : Bytes :=
  let key_str := h.key_id.toString
  writeU32 h.magic ++ writeU16 h.version ++ writeU16 h.algorithm ++
    writeU32 (UInt32.ofNat key_str.length) ++ stringBytes key_str ++
    writeBytes h.wrapped_dek ++ writeBytes h.iv ++ writeBytes h.tag ++
    writeU64 h.original_size ++ writeU32 h.chunk_size

/-- The bytes `serialize` writes, with the key text and the four length words given: a reader
meets other values there once bytes of a written header are changed. -/
def headerBytes (h : FileEncryptionHeader) (key_len : UInt32) (key_bytes : Bytes)
    (wrap_len iv_len tag_len : UInt32) : Bytes :=
  writeU32 h.magic ++ writeU16 h.version ++ writeU16 h.algorithm ++ writeU32 key_len ++
    key_bytes ++ (writeU32 wrap_len ++ h.wrapped_dek) ++ (writeU32 iv_len ++ h.iv) ++
    (writeU32 tag_len ++ h.tag) ++ writeU64 h.original_size ++ writeU32 h.chunk_size

/-- `serialize` writes the identifier's text and the fields' lengths. -/
theorem serialize_eq_headerBytes (h : FileEncryptionHeader) :
    serialize h = headerBytes h (UInt32.ofNat h.key_id.toString.length)
      (stringBytes h.key_id.toString) (UInt32.ofNat h.wrapped_dek.length)
      (UInt32.ofNat h.iv.length) (UInt32.ofNat h.tag.length) := rfl

/-! ## Reading -/

/-- The next `n` bytes of the buffer and the rest; reading past its end is undefined. -/
def take? (n : ℕ) (rest : Bytes) : Option (Bytes × Bytes) :=
  if n ≤ rest.length then some (rest.take n, rest.drop n) else none

/-- `read_u16`. -/
def readU16 (rest : Bytes) : Option (UInt16 × Bytes) :=
  (take? 2 rest).map fun p => (UInt16.ofNat (decodeLE p.1), p.2)

/-- `read_u32`. -/
def readU32 (rest : Bytes) : Option (UInt32 × Bytes) :=
  (take? 4 rest).map fun p => (UInt32.ofNat (decodeLE p.1), p.2)

/-- `read_u64`. -/
def readU64 (rest : Bytes) : Option (UInt64 × Bytes) :=
  (take? 8 rest).map fun p => (UInt64.ofNat (decodeLE p.1), p.2)

/-- `read_bytes`. -/
def readBytes (rest : Bytes) : Option (Bytes × Bytes) := do
  let (len, rest) ← readU32 rest
  take? len.toNat rest

/-- `FileEncryptionHeader::deserialize`: `none` where it reads past the buffer. -/
def deserialize (data : Bytes) : Option (Result FileEncryptionHeader) :=
  if data.length < 20 then some (err .INVALID_INPUT "Header too small".toList)
  else do
    let (magic, rest) ← readU32 data
    if magic ≠ MAGIC then some (err .INVALID_INPUT "Invalid magic number".toList)
    else do
      let (version, rest) ← readU16 rest
      let (algorithm, rest) ← readU16 rest
      let (key_len, rest) ← readU32 rest
      let (key_str, rest) ← take? key_len.toNat rest
      match KeyId.parse (bytesString key_str) with
      | .error _ => some (err .INVALID_INPUT "Invalid key ID".toList)
      | .ok key_id => do
        let (wrapped_dek, rest) ← readBytes rest
        let (iv, rest) ← readBytes rest
        let (tag, rest) ← readBytes rest
        let (original_size, rest) ← readU64 rest
        let (chunk_size, _) ← readU32 rest
        some (.ok ⟨magic, version, algorithm, key_id, wrapped_dek, iv, tag, original_size,
          chunk_size⟩)

/-! ## Reading what was written -/

@[simp] theorem take?_append {n : ℕ} {x : Bytes} (y : Bytes) (h : x.length = n) :
    take? n (x ++ y) = some (x, y) := by
  subst h; simp [take?]

@[simp] theorem length_writeU16 (v : UInt16) : (writeU16 v).length = 2 := length_encodeLE _ _
@[simp] theorem length_writeU32 (v : UInt32) : (writeU32 v).length = 4 := length_encodeLE _ _
@[simp] theorem length_writeU64 (v : UInt64) : (writeU64 v).length = 8 := length_encodeLE _ _
@[simp] theorem length_writeBytes (data : Bytes) : (writeBytes data).length = 4 + data.length := by
  simp [writeBytes]

@[simp] theorem readU16_append (v : UInt16) (rest : Bytes) :
    readU16 (writeU16 v ++ rest) = some (v, rest) := by
  have hv : v.toNat < 256 ^ 2 := by simpa [UInt16.size] using v.toNat_lt_size
  simp [readU16, writeU16, decodeLE_encodeLE hv, uint16_ofNat_toNat]

@[simp] theorem decodeLE_writeU32 (v : UInt32) : decodeLE (writeU32 v) = v.toNat :=
  decodeLE_encodeLE (by simpa [UInt32.size] using v.toNat_lt_size)

@[simp] theorem readU32_append (v : UInt32) (rest : Bytes) :
    readU32 (writeU32 v ++ rest) = some (v, rest) := by
  simp [readU32, KeyId.uint32_ofNat_toNat]

@[simp] theorem readU64_append (v : UInt64) (rest : Bytes) :
    readU64 (writeU64 v ++ rest) = some (v, rest) := by
  have hv : v.toNat < 256 ^ 8 := by simpa [UInt64.size] using v.toNat_lt_size
  simp [readU64, writeU64, decodeLE_encodeLE hv, uint64_ofNat_toNat]

@[simp] theorem readBytes_append {data : Bytes} (rest : Bytes) (h : data.length < 2 ^ 32) :
    readBytes (writeBytes data ++ rest) = some (data, rest) := by
  have hl : (UInt32.ofNat data.length).toNat = data.length := UInt32.toNat_ofNat_of_lt h
  simp [readBytes, writeBytes, hl]

@[simp] theorem readBytes_writeU32 (n : UInt32) (rest : Bytes) :
    readBytes (writeU32 n ++ rest) = take? n.toNat rest := by
  simp [readBytes]

@[simp] theorem length_headerBytes (h : FileEncryptionHeader) (key_len : UInt32) (t : Bytes)
    (wrap_len iv_len tag_len : UInt32) :
    (headerBytes h key_len t wrap_len iv_len tag_len).length =
      36 + t.length + h.wrapped_dek.length + h.iv.length + h.tag.length := by
  simp [headerBytes]; omega

/-- The header's identifier is written so that it reads back: its text parses to it, is made
of one-byte characters, and is short enough for its `uint32_t` length. -/
structure KeyTextSafe (k : KeyId) : Prop where
  ns : ':' ∉ k.namespace_prefix
  id : ':' ∉ k.id
  bytes : ∀ c ∈ k.toString, c.toNat < 256
  short : k.toString.length < 2 ^ 32

/-- The byte strings of the header fit their `uint32_t` lengths. -/
def FieldsFit (h : FileEncryptionHeader) : Prop :=
  h.wrapped_dek.length < 2 ^ 32 ∧ h.iv.length < 2 ^ 32 ∧ h.tag.length < 2 ^ 32

instance : DecidablePred FieldsFit := fun _ => inferInstanceAs (Decidable (_ ∧ _ ∧ _))

theorem length_serialize (h : FileEncryptionHeader) :
    (serialize h).length = 36 + h.key_id.toString.length + h.wrapped_dek.length + h.iv.length +
      h.tag.length := by
  simp [serialize]; omega

/-- A header's bytes with any key text are read up to that text, which is parsed. -/
theorem deserialize_headerBytes {h : FileEncryptionHeader} (hm : h.magic = MAGIC) {t : Bytes}
    (ht : t.length < 2 ^ 32) (hf : FieldsFit h) (rest : Bytes) :
    deserialize (headerBytes h (UInt32.ofNat t.length) t (UInt32.ofNat h.wrapped_dek.length)
        (UInt32.ofNat h.iv.length) (UInt32.ofNat h.tag.length) ++ rest) =
      some (match KeyId.parse (bytesString t) with
        | .error _ => err .INVALID_INPUT "Invalid key ID".toList
        | .ok key_id => .ok { h with key_id := key_id }) := by
  obtain ⟨hw, hiv, htag⟩ := hf
  have hlen : ¬ (headerBytes h (UInt32.ofNat t.length) t (UInt32.ofNat h.wrapped_dek.length)
      (UInt32.ofNat h.iv.length) (UInt32.ofNat h.tag.length) ++ rest).length < 20 := by
    rw [List.length_append, length_headerBytes]; omega
  rw [deserialize, if_neg hlen]
  simp only [headerBytes, List.append_assoc]
  rw [readU32_append, some_bind_eq, if_neg (not_not.2 hm), readU16_append, some_bind_eq,
    readU16_append, some_bind_eq, readU32_append, some_bind_eq, UInt32.toNat_ofNat_of_lt ht,
    take?_append _ rfl, some_bind_eq]
  cases KeyId.parse (bytesString t) with
  | error e => rfl
  | ok key_id =>
    dsimp only
    rw [readBytes_writeU32, UInt32.toNat_ofNat_of_lt hw, take?_append _ rfl, some_bind_eq,
      readBytes_writeU32, UInt32.toNat_ofNat_of_lt hiv, take?_append _ rfl, some_bind_eq,
      readBytes_writeU32, UInt32.toNat_ofNat_of_lt htag, take?_append _ rfl, some_bind_eq,
      readU64_append, some_bind_eq, readU32_append, some_bind_eq]

/-- A written header is read back up to its identifier, whose text is parsed again. -/
theorem deserialize_serialize_of_lt {h : FileEncryptionHeader} (hm : h.magic = MAGIC)
    (hb : ∀ c ∈ h.key_id.toString, c.toNat < 256) (hs : h.key_id.toString.length < 2 ^ 32)
    (hf : FieldsFit h) (rest : Bytes) :
    deserialize (serialize h ++ rest) = some (match KeyId.parse h.key_id.toString with
      | .error _ => err .INVALID_INPUT "Invalid key ID".toList
      | .ok key_id => .ok { h with key_id := key_id }) := by
  have := deserialize_headerBytes hm (t := stringBytes h.key_id.toString) (by simpa using hs) hf rest
  rwa [length_stringBytes, bytesString_stringBytes hb, ← serialize_eq_headerBytes] at this

/-- **A written header reads back**, whatever follows it. -/
theorem deserialize_serialize {h : FileEncryptionHeader} (hm : h.magic = MAGIC)
    (hk : KeyTextSafe h.key_id) (hf : FieldsFit h) (rest : Bytes) :
    deserialize (serialize h ++ rest) = some (.ok h) := by
  rw [deserialize_serialize_of_lt hm hk.bytes hk.short hf, KeyId.parse_toString hk.ns hk.id]

/-! ## A length word changed

Each length word of a written header that is raised past the bytes left in the header makes
`deserialize` read beyond its buffer. -/

theorem uint32_toNat_ofNat (n : ℕ) : (UInt32.ofNat n).toNat = n % 2 ^ 32 := by
  simp [UInt32.ofNat, UInt32.toNat, Fin.ofNat]

/-- The text of an identifier whose namespace and id are made of bytes is made of bytes. -/
theorem toString_bytes {k : KeyId} (h : ∀ c ∈ k.namespace_prefix ++ k.id, c.toNat < 256) :
    ∀ c ∈ k.toString, c.toNat < 256 := by
  intro c hc
  simp only [KeyId.toString, List.mem_append, List.mem_cons] at hc
  rcases hc with hc | rfl | hc | rfl | hc
  · exact h c (List.mem_append_left _ hc)
  · decide
  · exact h c (List.mem_append_right _ hc)
  · decide
  · have := isDigit_toNat (isDigit_of_mem_toDecimal _ c hc); omega

/-- **The header codec round trip.** A header with the magic number, byte strings shorter than
`2 ^ 32`, and an identifier whose namespace and id hold no colon and whose text is shorter than
`2 ^ 32` reads back whole, every field equal. The namespace and the id are `std::string`s: their
characters are bytes. -/
theorem header_round_trip {h : FileEncryptionHeader} (hm : h.magic = MAGIC) (hf : FieldsFit h)
    (hns : ':' ∉ h.key_id.namespace_prefix) (hid : ':' ∉ h.key_id.id)
    (hb : ∀ c ∈ h.key_id.namespace_prefix ++ h.key_id.id, c.toNat < 256)
    (hs : h.key_id.toString.length < 2 ^ 32) :
    deserialize (serialize h) = some (.ok h) := by
  have := deserialize_serialize_of_lt hm (toString_bytes hb) hs hf []
  rwa [List.append_nil, KeyId.parse_toString hns hid] at this

/-- A header under the key `auth:k1:7`. -/
def sampleHeader : FileEncryptionHeader :=
  ⟨MAGIC, VERSION, 1, ⟨"auth".toList, "k1".toList, 7⟩, [1, 2], [3], [4], 3, 65536⟩

theorem header_round_trip_sample :
    sampleHeader.magic = MAGIC ∧ FieldsFit sampleHeader ∧
    ':' ∉ sampleHeader.key_id.namespace_prefix ∧ ':' ∉ sampleHeader.key_id.id ∧
    (∀ c ∈ sampleHeader.key_id.namespace_prefix ++ sampleHeader.key_id.id, c.toNat < 256) ∧
    sampleHeader.key_id.toString.length < 2 ^ 32 ∧
    deserialize (serialize sampleHeader) = some (.ok sampleHeader) :=
  have hf : FieldsFit sampleHeader := by decide
  have hns : ':' ∉ sampleHeader.key_id.namespace_prefix := by decide
  have hid : ':' ∉ sampleHeader.key_id.id := by decide
  have hb : ∀ c ∈ sampleHeader.key_id.namespace_prefix ++ sampleHeader.key_id.id,
      c.toNat < 256 := by decide
  have hs : sampleHeader.key_id.toString.length < 2 ^ 32 := by decide
  ⟨rfl, hf, hns, hid, hb, hs, header_round_trip rfl hf hns hid hb hs⟩

@[simp] theorem take?_zero (x : Bytes) : take? 0 x = some ([], x) := by simp [take?]

/-- A header whose key text is `2 ^ 32` characters long is refused: its length is written as
`0`, and the empty text does not parse. -/
theorem deserialize_serialize_wrap {h : FileEncryptionHeader} (hm : h.magic = MAGIC)
    (hs : h.key_id.toString.length = 2 ^ 32) (rest : Bytes) :
    deserialize (serialize h ++ rest) = some (err .INVALID_INPUT "Invalid key ID".toList) := by
  have hlen : ¬ (serialize h ++ rest).length < 20 := by
    rw [List.length_append, length_serialize]; omega
  have hkl : UInt32.ofNat h.key_id.toString.length = 0 := by rw [hs]; rfl
  rw [deserialize, if_neg hlen]
  simp only [serialize, List.append_assoc]
  rw [readU32_append, some_bind_eq, if_neg (not_not.2 hm), readU16_append, some_bind_eq,
    readU16_append, some_bind_eq, hkl, readU32_append, some_bind_eq]
  dsimp only
  rw [UInt32.toNat_zero, take?_zero, some_bind_eq]
  rfl

/-- A header whose namespace is `2 ^ 32 - 4` letters `a`: its key text `a…a:b:1` is `2 ^ 32`
characters long. -/
def longKeyHeader : FileEncryptionHeader :=
  { sampleHeader with key_id := ⟨List.replicate (2 ^ 32 - 4) 'a', ['b'], 1⟩ }

theorem length_toString_replicate (n : ℕ) :
    (KeyId.toString ⟨List.replicate n 'a', ['b'], 1⟩).length = n + 4 := by
  have hd : (toDecimal (UInt32.toNat 1)).length = 1 := rfl
  simp only [KeyId.toString, List.length_append, List.length_replicate, List.length_cons,
    List.length_singleton, hd, List.length_nil]

theorem longKeyHeader_key_id :
    longKeyHeader.key_id = ⟨List.replicate (2 ^ 32 - 4) 'a', ['b'], 1⟩ := by
  rw [longKeyHeader]

/-- **A key text of `2 ^ 32` characters breaks the round trip**: the header below satisfies
every other condition of `header_round_trip`, and is refused with `Invalid key ID`. Its
namespace is built by `List.replicate` and never evaluated. -/
theorem header_round_trip_long_key :
    longKeyHeader.magic = MAGIC ∧ FieldsFit longKeyHeader ∧
    ':' ∉ longKeyHeader.key_id.namespace_prefix ∧ ':' ∉ longKeyHeader.key_id.id ∧
    (∀ c ∈ longKeyHeader.key_id.namespace_prefix ++ longKeyHeader.key_id.id, c.toNat < 256) ∧
    longKeyHeader.key_id.toString.length = 2 ^ 32 ∧
    deserialize (serialize longKeyHeader) = some (err .INVALID_INPUT "Invalid key ID".toList) := by
  have hs : longKeyHeader.key_id.toString.length = 2 ^ 32 := by
    rw [longKeyHeader_key_id, length_toString_replicate]
    norm_num
  refine ⟨rfl, by decide, ?_, by decide, fun c hc => ?_, hs, ?_⟩
  · rw [longKeyHeader_key_id]
    exact fun h => absurd (List.eq_of_mem_replicate h) (by decide)
  · rw [longKeyHeader_key_id, List.mem_append] at hc
    rcases hc with hc | hc
    · rw [List.eq_of_mem_replicate hc]; decide
    · rw [List.mem_singleton.1 hc]; decide
  · rw [← List.append_nil (serialize longKeyHeader)]
    exact deserialize_serialize_wrap rfl hs []

/-! ## Reading a header cut short -/

/-- A read from a buffer cut at `m`: the bytes are there, or the read goes past the end. -/
theorem take?_take_append {x y : Bytes} {n : ℕ} (hx : x.length = n) (m : ℕ) :
    take? n ((x ++ y).take m) = if m < n then none else some (x, y.take (m - n)) := by
  subst hx
  rw [List.take_append_eq_append_take]
  by_cases hm : m < x.length
  · rw [if_pos hm, take?, if_neg (by simp; omega)]
  · rw [if_neg hm, List.take_of_length_le (by omega), take?_append _ rfl]

theorem ite_none_bind {α β : Type} (c : Prop) [Decidable c] (a : α) (f : α → Option β) :
    ((if c then none else some a) >>= f) = if c then none else f a := by
  split <;> rfl

theorem readU16_take_append (v : UInt16) (y : Bytes) (m : ℕ) :
    readU16 ((writeU16 v ++ y).take m) = if m < 2 then none else some (v, y.take (m - 2)) := by
  have hv : v.toNat < 256 ^ 2 := by simpa [UInt16.size] using v.toNat_lt_size
  rw [readU16, take?_take_append (length_writeU16 v)]
  split <;> simp [writeU16, decodeLE_encodeLE hv, uint16_ofNat_toNat]

theorem readU32_take_append (v : UInt32) (y : Bytes) (m : ℕ) :
    readU32 ((writeU32 v ++ y).take m) = if m < 4 then none else some (v, y.take (m - 4)) := by
  rw [readU32, take?_take_append (length_writeU32 v)]
  split <;> simp [KeyId.uint32_ofNat_toNat]

theorem readU64_take_append (v : UInt64) (y : Bytes) (m : ℕ) :
    readU64 ((writeU64 v ++ y).take m) = if m < 8 then none else some (v, y.take (m - 8)) := by
  have hv : v.toNat < 256 ^ 8 := by simpa [UInt64.size] using v.toNat_lt_size
  rw [readU64, take?_take_append (length_writeU64 v)]
  split <;> simp [writeU64, decodeLE_encodeLE hv, uint64_ofNat_toNat]

theorem readBytes_take_append {data : Bytes} (y : Bytes) (h : data.length < 2 ^ 32) (m : ℕ) :
    readBytes ((writeBytes data ++ y).take m) =
      if m < 4 + data.length then none else some (data, y.take (m - 4 - data.length)) := by
  have hl : (UInt32.ofNat data.length).toNat = data.length := UInt32.toNat_ofNat_of_lt h
  rw [readBytes, writeBytes, List.append_assoc, readU32_take_append]
  split
  · rw [if_pos (by omega)]; rfl
  · rw [some_bind_eq]
    dsimp only
    rw [hl, take?_take_append rfl, Nat.sub_sub]
    split_ifs <;> first | rfl | omega

/-- **A header cut short is read past its end.** Cut after twenty bytes or more but before its
end, a written header whose identifier reads back makes `deserialize` read beyond the buffer,
whichever field the cut falls in; cut before twenty bytes it is refused as too small. -/
theorem deserialize_take {h : FileEncryptionHeader} (hm : h.magic = MAGIC)
    (hp : KeyId.parse h.key_id.toString = .ok h.key_id)
    (hb : ∀ c ∈ h.key_id.toString, c.toNat < 256) (hs : h.key_id.toString.length < 2 ^ 32)
    (hf : FieldsFit h) (k : ℕ) :
    deserialize ((serialize h).take k) =
      if k < 20 then some (err .INVALID_INPUT "Header too small".toList)
      else if k < (serialize h).length then none else some (.ok h) := by
  obtain ⟨hw, hiv, htag⟩ := hf
  have hL := length_serialize h
  have hkl : (UInt32.ofNat h.key_id.toString.length).toNat = h.key_id.toString.length :=
    UInt32.toNat_ofNat_of_lt hs
  by_cases h20 : k < 20
  · rw [if_pos h20, deserialize, if_pos (by simp; omega)]
  rw [if_neg h20, deserialize, if_neg (by simp; omega)]
  simp only [serialize, List.append_assoc]
  rw [← List.append_nil (writeU32 h.chunk_size), readU32_take_append, if_neg (by omega),
    some_bind_eq]
  dsimp only
  rw [if_neg (not_not.2 hm), readU16_take_append, if_neg (by omega), some_bind_eq,
    readU16_take_append, if_neg (by omega), some_bind_eq, readU32_take_append,
    if_neg (by omega), some_bind_eq]
  dsimp only
  rw [hkl, take?_take_append (length_stringBytes _), ite_none_bind]
  dsimp only
  rw [bytesString_stringBytes hb, hp]
  dsimp only
  simp only [readBytes_take_append _ hw, readBytes_take_append _ hiv, readBytes_take_append _ htag,
    readU64_take_append, readU32_take_append, ite_none_bind, List.length_append,
    length_stringBytes, length_writeU32, length_writeU16, length_writeU64, length_writeBytes,
    List.length_nil]
  simp only [← ite_or]
  exact if_congr (by omega) rfl rfl

/-- **Header parsing is not memory-safe.** Every cut of a readable header after twenty bytes
or more, short of its end, is read past its end instead of being refused. -/
theorem deserialize_truncated {h : FileEncryptionHeader} (hm : h.magic = MAGIC)
    (hp : KeyId.parse h.key_id.toString = .ok h.key_id)
    (hb : ∀ c ∈ h.key_id.toString, c.toNat < 256) (hs : h.key_id.toString.length < 2 ^ 32)
    (hf : FieldsFit h) {k : ℕ} (hk₁ : 20 ≤ k) (hk₂ : k < (serialize h).length) :
    deserialize ((serialize h).take k) = none := by
  rw [deserialize_take hm hp hb hs hf, if_neg (by omega), if_pos hk₂]

theorem deserialize_truncated_sample :
    sampleHeader.magic = MAGIC ∧
    KeyId.parse sampleHeader.key_id.toString = .ok sampleHeader.key_id ∧
    (∀ c ∈ sampleHeader.key_id.toString, c.toNat < 256) ∧
    sampleHeader.key_id.toString.length < 2 ^ 32 ∧ FieldsFit sampleHeader ∧
    20 ≤ 20 ∧ 20 < (serialize sampleHeader).length ∧
    deserialize ((serialize sampleHeader).take 20) = none :=
  have hp : KeyId.parse sampleHeader.key_id.toString = .ok sampleHeader.key_id := by decide
  have hb : ∀ c ∈ sampleHeader.key_id.toString, c.toNat < 256 := by decide
  have hs : sampleHeader.key_id.toString.length < 2 ^ 32 := by decide
  have hf : FieldsFit sampleHeader := by decide
  have hl : 20 < (serialize sampleHeader).length := by decide
  ⟨rfl, hp, hb, hs, hf, le_rfl, hl, deserialize_truncated rfl hp hb hs hf le_rfl hl⟩

end FileEncryptionHeader

end CryptoService
