import CryptoService.Services.FileEnvelope
import CryptoService.Keys.Lifecycle

/-!
# Streaming file encryption

`FileEncryptionService::encryptStream` draws a 256-bit data key (DEK), wraps it under the key
encryption key (KEK) the key service holds (`wrapDEK`: AES-GCM, the result laid out as
`iv ++ tag ++ ciphertext`), encrypts the whole input under the DEK, and writes the header size,
the header and the ciphertext. `decryptStream` reads them back, unwraps the DEK under the KEK the
header names, and decrypts. Each writes its output once, after every check has passed. The
key service is the state both thread (`getKey` may fill the cache).

A KEK is held (`HoldsKek`) when the key service holds it (`KeyService.Holds`, over any store)
and its material has AES size; every AES key that `generateKey` returns over the in-memory store
is one (`HoldsKek.generateKey`). The header carries it when its text reads back and the header's
size fits its `uint32_t` (`Sealable`).

* `decryptStream_encryptStream`: what `encryptStream` writes, `decryptStream` reads back, under
  a held sealable KEK and a plaintext within the engine's limit;
* `decryptStream_authenticated_edit`: what `decryptStream` makes of a changed envelope
  (`TamperEvident`): a one-byte change of the wrapped DEK, the IV, the tag or the ciphertext
  fails with `INTEGRITY_ERROR`, another magic or key text is refused, and a lowered header size
  or a raised length word reads past the header;
* `decryptStream_undetected_edits`: the header's version is never read, and the text of a key at
  version `4147483648` edited to `-147483648` names the same key;
* `encryptStream_round_trip_fails`: an input past 64 MiB, an RSA KEK, a namespace that holds
  ':', and a namespace long enough for the header's size to wrap each break the round trip;
* `encryptStream_layout`: what `encryptStream` writes is the header's size as a `u32`, then the
  envelope as the format specifies it (`specifiedLayout`).
-/

namespace CryptoService

namespace FileEncryptionService

/-- `FileEncryptionService::DEFAULT_CHUNK_SIZE`. -/
def DEFAULT_CHUNK_SIZE : ℕ := 64 * 1024

end FileEncryptionService

/-- `FileEncryptionService`: its chunk size. Its key service is the state its calls thread; the
logging client is left out. -/
structure FileEncryptionService where
  chunk_size_ : ℕ := FileEncryptionService.DEFAULT_CHUNK_SIZE

/-- What a file encryption draws: the data key's random bytes, the IVs of its two `encryptGCM`
calls, and the key service's draw for `getKey`. -/
structure FileDraw where
  dek : Option (Fixed 32)
  wrapIv : Option (Fixed 12)
  dataIv : Option (Fixed 12)
  key : Draw

namespace FileEncryptionService

open FileEncryptionHeader KeyService

/-- `FileEncryptionService::generateDEK`. -/
def generateDEK : Option (Fixed 32) → Result Bytes
  | some dek => .ok dek.1
  | none => err .CRYPTO_ERROR "Failed to generate DEK".toList

/-- What `encryptStream` reads of its input: all of it when `input_size` is zero, else
`input_size` bytes, those the stream lacks left zero by `resize`. -/
def readInput (input : Bytes) (input_size : UInt64) : Bytes :=
  if input_size = 0 then input
  else input.take input_size.toNat ++ List.replicate (input_size.toNat - input.length) 0

/-- The header size, the header and the ciphertext, as `encryptStream` writes them. -/
def envelope (header : FileEncryptionHeader) (ciphertext : Bytes) : Bytes :=
  let header_data := header.serialize
  writeU32 (UInt32.ofNat header_data.length) ++ header_data ++ ciphertext

/-- Header bytes framed as `encryptStream` frames its header: their size as a `u32` first, the
ciphertext after. -/
def frame (header_data ciphertext : Bytes) : Bytes :=
  writeU32 (UInt32.ofNat header_data.length) ++ header_data ++ ciphertext

theorem envelope_eq_frame (h : FileEncryptionHeader) (ct : Bytes) :
    envelope h ct = frame (serialize h) ct := rfl

variable (A : Aead) {σ : Type} (S : KeyStoreOps σ) (master_key_ : Bytes)

/-- `FileEncryptionService::wrapDEK`: the KEK is asked for to encrypt. -/
def wrapDEK (dek : Bytes) (kek_id : KeyId) (d : Draw) (ivDraw : Option (Fixed 12))
    (s : KeyService σ) : Result Bytes × KeyService σ :=
  match getKey A S master_key_ .encrypt kek_id d s with
  | (.error e, s₁) => (.error e, s₁)
  | (.ok kek, s₁) =>
    match encryptGCM A dek kek.key_material [] ivDraw with
    | .error e => (.error e, s₁)
    | .ok r => (.ok (r.iv ++ r.tag ++ r.ciphertext), s₁)

/-- `FileEncryptionService::unwrapDEK`: the KEK is asked for to decrypt. -/
def unwrapDEK (wrapped : Bytes) (kek_id : KeyId) (d : Draw) (s : KeyService σ) :
    Result Bytes × KeyService σ :=
  if wrapped.length < 12 + 16 then (err .INVALID_INPUT "Wrapped DEK too small".toList, s)
  else
    match getKey A S master_key_ .decrypt kek_id d s with
    | (.error e, s₁) => (.error e, s₁)
    | (.ok kek, s₁) =>
      (decryptGCM A (wrapped.drop (12 + 16)) kek.key_material (wrapped.take 12)
        ((wrapped.drop 12).take 16) [], s₁)

/-- `FileEncryptionService::encryptStream`: the result, the output stream and the key service. -/
def encryptStream (self : FileEncryptionService) (input output : Bytes) (kek_id : KeyId)
    (input_size : UInt64) (fd : FileDraw) (s : KeyService σ) :
    Result Unit × Bytes × KeyService σ :=
  match generateDEK fd.dek with
  | .error e => (.error e, output, s)
  | .ok dek =>
    match wrapDEK A S master_key_ dek kek_id fd.key fd.wrapIv s with
    | (.error e, s₁) => (.error e, output, s₁)
    | (.ok wrapped, s₁) =>
      let plaintext := readInput input input_size
      match encryptGCM A plaintext dek [] fd.dataIv with
      | .error e => (.error e, output, s₁)
      | .ok r =>
        let header : FileEncryptionHeader :=
          ⟨MAGIC, VERSION, 1, kek_id, wrapped, r.iv, r.tag, UInt64.ofNat plaintext.length,
            UInt32.ofNat self.chunk_size_⟩
        (.ok (), output ++ envelope header r.ciphertext, s₁)

/-- What `decryptStream` does once the header is parsed: unwrap the DEK, decrypt the rest of
the stream, and write the plaintext. -/
def decryptWithHeader (header : FileEncryptionHeader) (ciphertext output : Bytes) (d : Draw)
    (s : KeyService σ) : Result Unit × Bytes × KeyService σ :=
  match unwrapDEK A S master_key_ header.wrapped_dek header.key_id d s with
  | (.error e, s₁) => (.error e, output, s₁)
  | (.ok dek, s₁) =>
    match decryptGCM A ciphertext dek header.iv header.tag [] with
    | .error e => (.error e, output, s₁)
    | .ok plaintext => (.ok (), output ++ plaintext, s₁)

/-- `FileEncryptionService::decryptStream`: the result, the output stream and the key service;
`none` where the header's parsing reads past its buffer. Lines 354-356 of
`file_encryption_service.cpp` declare `ciphertext` as a function (the most vexing parse: its
two `std::istreambuf_iterator<char>` arguments read as parameter declarations), so the call of
`decryptGCM` on it does not compile; the model embeds the reading the code intends, the rest
of the stream as the ciphertext. -/
def decryptStream (input output : Bytes) (d : Draw) (s : KeyService σ) :
    Option (Result Unit × Bytes × KeyService σ) :=
  if input.length < 4 then some (err .INVALID_INPUT "Cannot read header size".toList, output, s)
  else
    let header_size := UInt32.ofNat (decodeLE (input.take 4))
    let rest := input.drop 4
    if rest.length < header_size.toNat then
      some (err .INVALID_INPUT "Cannot read header".toList, output, s)
    else
      let header_data := rest.take header_size.toNat
      let ciphertext := rest.drop header_size.toNat
      (deserialize header_data).map fun
        | .error e => (.error e, output, s)
        | .ok header => decryptWithHeader A S master_key_ header ciphertext output d s

/-- The header `encryptStream` writes for the input `F` under the KEK `kek_id`, whose material
is `kek`, with `dek` drawn for the data key, `ivw` for its wrap and `ivd` for the data. -/
def sealedHeader (self : FileEncryptionService) (kek_id : KeyId) (kek dek ivw ivd F : Bytes) :
    FileEncryptionHeader :=
  ⟨MAGIC, VERSION, 1, kek_id, ivw ++ (A.encrypt kek ivw [] dek).2 ++ (A.encrypt kek ivw [] dek).1,
    ivd, (A.encrypt dek ivd [] F).2, UInt64.ofNat F.length, UInt32.ofNat self.chunk_size_⟩

/-! ## Reading an envelope -/

/-- An identifier that the header `encryptStream` writes can carry: its text reads back, and
the header, 124 bytes besides the text, has its size in a `uint32_t`. -/
structure Sealable (k : KeyId) extends KeyTextSafe k : Prop where
  fits : k.toString.length + 124 < 2 ^ 32

/-- A header that `decryptStream` reads back from its envelope. -/
structure Readable (h : FileEncryptionHeader) : Prop where
  magic : h.magic = MAGIC
  key : KeyTextSafe h.key_id
  fits : FieldsFit h
  short : (serialize h).length < 2 ^ 32

/-- A header with the magic number, a sealable identifier and fields of the lengths
`encryptStream` writes is readable, whatever its version, algorithm and sizes. -/
theorem readable_of_lengths {k : KeyId} (hk : Sealable k) {wrapped iv tag : Bytes}
    (hw : wrapped.length = 60) (hiv : iv.length = 12) (htag : tag.length = 16) (v a : UInt16)
    (n : UInt64) (c : UInt32) : Readable ⟨MAGIC, v, a, k, wrapped, iv, tag, n, c⟩ := by
  refine ⟨rfl, hk.toKeyTextSafe, ⟨by simp [hw], by simp [hiv], by simp [htag]⟩, ?_⟩
  have := hk.fits
  rw [length_serialize]
  simp only [hw, hiv, htag]
  omega

section Envelope

variable {A S master_key_}

/-- `decryptStream` of an input that opens with the size word `n`: the header is the next `n`
bytes, if there are that many, and the ciphertext what follows them. -/
theorem decryptStream_writeU32 (n : UInt32) (rest output : Bytes) (d : Draw) (s : KeyService σ) :
    decryptStream A S master_key_ (writeU32 n ++ rest) output d s =
      if rest.length < n.toNat then some (err .INVALID_INPUT "Cannot read header".toList, output, s)
      else (deserialize (rest.take n.toNat)).map fun
        | .error e => (.error e, output, s)
        | .ok header => decryptWithHeader A S master_key_ header (rest.drop n.toNat) output d s := by
  have h₄ : (writeU32 n ++ rest).take 4 = writeU32 n := List.take_left' (length_writeU32 n)
  have hrest : (writeU32 n ++ rest).drop 4 = rest := List.drop_left' (length_writeU32 n)
  simp only [decryptStream, h₄, hrest, decodeLE_writeU32, KeyId.uint32_ofNat_toNat]
  rw [if_neg (by simp)]

/-- **A frame is parsed up to its header**: `decryptStream` goes on with what `deserialize`
makes of the header bytes, and with the ciphertext. -/
theorem decryptStream_frame {hd : Bytes} (hs : hd.length < 2 ^ 32) (ct output : Bytes) (d : Draw)
    (s : KeyService σ) :
    decryptStream A S master_key_ (frame hd ct) output d s = (deserialize hd).map fun
      | .error e => (.error e, output, s)
      | .ok header => decryptWithHeader A S master_key_ header ct output d s := by
  rw [frame, List.append_assoc, decryptStream_writeU32, UInt32.toNat_ofNat_of_lt hs,
    if_neg (by simp), List.take_left, List.drop_left]

/-- A readable header is read back, and `decryptStream` goes on to unwrap the DEK it names. -/
theorem decryptStream_readable {h : FileEncryptionHeader} (hr : Readable h) (ct output : Bytes)
    (d : Draw) (s : KeyService σ) :
    decryptStream A S master_key_ (envelope h ct) output d s =
      some (decryptWithHeader A S master_key_ h ct output d s) := by
  have hd : deserialize (serialize h) = some (.ok h) := by
    simpa using deserialize_serialize hr.magic hr.key hr.fits []
  rw [envelope_eq_frame, decryptStream_frame hr.short, hd]
  rfl

/-- A header whose identifier's text does not parse back is refused with `Invalid key ID`,
and nothing is written. -/
theorem decryptStream_unparsed {h : FileEncryptionHeader} (hm : h.magic = MAGIC)
    (hb : ∀ c ∈ h.key_id.toString, c.toNat < 256) (hsh : h.key_id.toString.length < 2 ^ 32)
    (hf : FieldsFit h) (hs : (serialize h).length < 2 ^ 32)
    {e : Error} (hp : KeyId.parse h.key_id.toString = .error e) (ct output : Bytes) (d : Draw)
    (s : KeyService σ) :
    decryptStream A S master_key_ (envelope h ct) output d s =
      some (err .INVALID_INPUT "Invalid key ID".toList, output, s) := by
  have hd := deserialize_serialize_of_lt hm hb hsh hf []
  rw [hp, List.append_nil] at hd
  rw [envelope_eq_frame, decryptStream_frame hs, hd]
  rfl

/-- A header of `2 ^ 32` bytes has its size written as `0`: the empty header is refused as too
small. -/
theorem decryptStream_envelope_wrap {h : FileEncryptionHeader}
    (hs : (serialize h).length = 2 ^ 32) (ct output : Bytes) (d : Draw) (s : KeyService σ) :
    decryptStream A S master_key_ (envelope h ct) output d s =
      some (err .INVALID_INPUT "Header too small".toList, output, s) := by
  have h0 : UInt32.ofNat (serialize h).length = 0 := by rw [hs]; rfl
  rw [envelope_eq_frame, frame, h0, List.append_assoc, decryptStream_writeU32, if_neg (by simp)]
  rfl

end Envelope

/-! ## The wire format -/

/-- The envelope as the format's specification lays it out: `u32` magic `0x43525950`, `u16`
version 1, the `u16` algorithm, the identifier's bytes, the wrapped DEK, the IV and the tag each
after its `u32` length, the `u64` original size and the `u32` chunk size, then the ciphertext;
every number little-endian. -/
def specifiedLayout (h : FileEncryptionHeader) (ciphertext : Bytes) : Bytes :=
  let id_bytes := stringBytes h.key_id.toString
  encodeLE 4 0x43525950 ++ encodeLE 2 1 ++ encodeLE 2 h.algorithm.toNat ++
    encodeLE 4 id_bytes.length ++ id_bytes ++ encodeLE 4 h.wrapped_dek.length ++ h.wrapped_dek ++
    encodeLE 4 h.iv.length ++ h.iv ++ encodeLE 4 h.tag.length ++ h.tag ++
    encodeLE 8 h.original_size.toNat ++ encodeLE 4 h.chunk_size.toNat ++ ciphertext

/-- The specified layout opens with the magic number. -/
theorem take_four_specifiedLayout (h : FileEncryptionHeader) (ct : Bytes) :
    (specifiedLayout h ct).take 4 = encodeLE 4 0x43525950 := by
  simp only [specifiedLayout, List.append_assoc]
  exact List.take_left' (length_encodeLE _ _)

/-- A length cast to `uint32_t` is written as its low four bytes. -/
theorem writeU32_ofNat (n : ℕ) : writeU32 (UInt32.ofNat n) = encodeLE 4 n := by
  rw [writeU32, uint32_toNat_ofNat, show 2 ^ 32 = 256 ^ 4 by norm_num, encodeLE_mod]

/-- A header with the magic number and version 1, followed by a ciphertext, is the specified
layout, whatever its lengths. -/
theorem serialize_append_specifiedLayout {h : FileEncryptionHeader} (hm : h.magic = MAGIC)
    (hv : h.version = VERSION) (ct : Bytes) : serialize h ++ ct = specifiedLayout h ct := by
  simp only [serialize, specifiedLayout, writeBytes, writeU32_ofNat, hm, hv, length_stringBytes,
    List.append_assoc]
  rfl

section Layout

variable {A S master_key_}

/-- What a successful `encryptStream` does: the data key drawn, wrapped under the KEK, the input
encrypted under it, and the envelope of the header that records them written. -/
theorem encryptStream_eq_ok {self : FileEncryptionService} {F output written : Bytes}
    {kek_id : KeyId} {input_size : UInt64} {fd : FileDraw} {s s' : KeyService σ}
    (h : encryptStream A S master_key_ self F output kek_id input_size fd s =
      (.ok (), written, s')) :
    ∃ dek wrapped r, generateDEK fd.dek = .ok dek ∧
      (wrapDEK A S master_key_ dek kek_id fd.key fd.wrapIv s).1 = .ok wrapped ∧
      encryptGCM A (readInput F input_size) dek [] fd.dataIv = .ok r ∧
      written = output ++ envelope ⟨MAGIC, VERSION, 1, kek_id, wrapped, r.iv, r.tag,
        UInt64.ofNat (readInput F input_size).length, UInt32.ofNat self.chunk_size_⟩
        r.ciphertext := by
  unfold encryptStream at h
  dsimp only at h
  split at h
  · cases h
  · rename_i dek hd
    split at h
    · cases h
    · rename_i wrapped s₁ hw
      split at h
      · cases h
      · rename_i r hr
        cases h
        exact ⟨dek, wrapped, r, hd, by rw [hw], hr, rfl⟩

/-- **What `encryptStream` writes is the header's size, then the specified layout.** Every
successful call appends four bytes, the header's size as a `u32`, and after them the layout the
format specifies: algorithm 1, the KEK's identifier, the wrapped DEK, the IV and tag of the
input's encryption under the DEK, the size of what was read and the chunk size, then that
encryption's ciphertext. -/
theorem encryptStream_layout {self : FileEncryptionService} {F output written : Bytes}
    {kek_id : KeyId} {input_size : UInt64} {fd : FileDraw} {s s' : KeyService σ}
    (h : encryptStream A S master_key_ self F output kek_id input_size fd s =
      (.ok (), written, s')) :
    ∃ hdr ct, hdr.algorithm = 1 ∧ hdr.key_id = kek_id ∧
      hdr.original_size = UInt64.ofNat (readInput F input_size).length ∧
      hdr.chunk_size = UInt32.ofNat self.chunk_size_ ∧
      (∃ dek, generateDEK fd.dek = .ok dek ∧
        (wrapDEK A S master_key_ dek kek_id fd.key fd.wrapIv s).1 = .ok hdr.wrapped_dek ∧
        encryptGCM A (readInput F input_size) dek [] fd.dataIv = .ok ⟨ct, hdr.iv, hdr.tag⟩) ∧
      written =
        output ++ writeU32 (UInt32.ofNat (serialize hdr).length) ++ specifiedLayout hdr ct := by
  obtain ⟨dek, wrapped, r, hd, hw, hr, rfl⟩ := encryptStream_eq_ok h
  refine ⟨⟨MAGIC, VERSION, 1, kek_id, wrapped, r.iv, r.tag,
    UInt64.ofNat (readInput F input_size).length, UInt32.ofNat self.chunk_size_⟩, r.ciphertext,
    rfl, rfl, rfl, rfl, ⟨dek, hd, hw, hr⟩, ?_⟩
  simp only [envelope, List.append_assoc]
  rw [serialize_append_specifiedLayout rfl rfl]

end Layout

/-! ## Changes of an envelope -/

/-- The key service holds the KEK `k` (`KeyService.Holds`), and its material has AES size. -/
structure HoldsKek (s : KeyService σ) (k : KeyId) (kek : Bytes)
    extends Holds A S master_key_ s k kek : Prop where
  size : kek.length = 16 ∨ kek.length = 32

section Kek

variable {A S} {K : Bytes} {s : KeyService σ} {k : KeyId} {kek : Bytes}

/-- **A generated AES key is a held KEK** in the in-memory service `generateKey` leaves. -/
theorem HoldsKek.generateKey {params : KeyGenerationParams} {d : Draw}
    {s₀ s' : KeyService InMemoryKeyStore} (hc : Coherent A K s₀) (hf : d.FreshIn s₀.keys)
    (hsym : isSymmetricAlgorithm params.algorithm = true)
    (hk : KeyService.generateKey A InMemoryKeyStore.ops K params d s₀ = some (.ok k, s')) :
    ∃ kek, HoldsKek A InMemoryKeyStore.ops K s' k kek := by
  obtain ⟨material, hm, hh⟩ := hc.holds_generateKey hf hk
  exact ⟨material, hh, length_generateRawKeyMaterial hsym hm⟩

/-- `getKey` of a held KEK returns it, for either use, and the KEK stays held. -/
theorem HoldsKek.getKey (h : HoldsKek A S K s k kek) (use : KeyUse) (d : Draw) :
    ∃ md s₁, KeyService.getKey A S K use k d s = (.ok ⟨kek, md⟩, s₁) ∧ HoldsKek A S K s₁ k kek :=
  let ⟨md, s₁, hg, h₁⟩ := h.toHolds.getKey (d := d) use
  ⟨md, s₁, hg, h₁, h.size⟩

/-- Under a held KEK, `wrapDEK` with a drawn IV returns `iv ++ tag ++ ciphertext`. -/
theorem HoldsKek.wrapDEK (h : HoldsKek A S K s k kek) {dek : Bytes} (hdek : dek.length = 32)
    (d : Draw) (iv : Fixed 12) :
    ∃ s₁, wrapDEK A S K dek k d (some iv) s =
      (.ok (iv.1 ++ (A.encrypt kek iv.1 [] dek).2 ++ (A.encrypt kek iv.1 [] dek).1), s₁) ∧
      HoldsKek A S K s₁ k kek := by
  obtain ⟨md, s₁, hg, hk⟩ := h.getKey .encrypt d
  refine ⟨s₁, ?_, hk⟩
  have he := encryptGCM_of_valid A (p := dek) (k := kek) (a := []) iv
    (by simp [hdek, limits.MAX_PLAINTEXT_SIZE]) (by simp [limits.MAX_AAD_SIZE]) h.size
  simp only [FileEncryptionService.wrapDEK, hg, he]

/-- Under a held KEK, `unwrapDEK` of `iv ++ tag ++ ciphertext` is the AEAD's decryption. -/
theorem HoldsKek.unwrapDEK (h : HoldsKek A S K s k kek) {iv tag c : Bytes} (hiv : iv.length = 12)
    (htag : tag.length = 16) (d : Draw) :
    ∃ s₁, unwrapDEK A S K (iv ++ tag ++ c) k d s =
      (decryptGCM A c kek iv tag [], s₁) ∧ HoldsKek A S K s₁ k kek := by
  obtain ⟨md, s₁, hg, hk⟩ := h.getKey .decrypt d
  refine ⟨s₁, ?_, hk⟩
  have hlen : ¬ (iv ++ tag ++ c).length < 12 + 16 := by simp; omega
  have hc : (iv ++ tag ++ c).drop (12 + 16) = c := List.drop_left' (by simp; omega)
  have hi : (iv ++ tag ++ c).take 12 = iv := by
    rw [List.append_assoc, List.take_left' hiv]
  have ht : ((iv ++ tag ++ c).drop 12).take 16 = tag := by
    rw [List.append_assoc, List.drop_left' hiv, List.take_left' htag]
  simp only [FileEncryptionService.unwrapDEK, if_neg hlen, hg, hc, hi, ht]

/-- Under a held KEK, the DEK `wrapDEK` wrapped unwraps. -/
theorem HoldsKek.unwrapDEK_wrapped (h : HoldsKek A S K s k kek) (dek : Fixed 32) (iv : Fixed 12)
    (d : Draw) :
    ∃ s₁, FileEncryptionService.unwrapDEK A S K
        (iv.1 ++ (A.encrypt kek iv.1 [] dek.1).2 ++ (A.encrypt kek iv.1 [] dek.1).1) k d s =
      (.ok dek.1, s₁) ∧ HoldsKek A S K s₁ k kek := by
  obtain ⟨s₁, hu, hk⟩ := h.unwrapDEK iv.2 (A.length_tag ..) d
  refine ⟨s₁, ?_, hk⟩
  rw [hu, decryptGCM_encrypt A (a := []) (by simp [dek.2, limits.MAX_PLAINTEXT_SIZE])
    (by simp [limits.MAX_AAD_SIZE]) h.size iv.2]

/-- `encryptStream` reads the whole input when `input_size` is zero or its length. -/
theorem readInput_of {F : Bytes} {input_size : UInt64}
    (h : input_size = 0 ∨ input_size.toNat = F.length) : readInput F input_size = F := by
  unfold readInput
  split
  · rfl
  · rcases h with h | h
    · contradiction
    · simp [h]

/-- The envelope `encryptStream` writes under a held KEK, with every draw made: the data key
wrapped under the KEK, and the input under the data key. -/
theorem HoldsKek.encryptStream (h : HoldsKek A S K s k kek) (self : FileEncryptionService)
    {F : Bytes} (output : Bytes) {input_size : UInt64}
    (hsize : input_size = 0 ∨ input_size.toNat = F.length)
    (hF : F.length ≤ limits.MAX_PLAINTEXT_SIZE) (dek : Fixed 32) (ivw ivd : Fixed 12)
    (d : Draw) :
    ∃ s₁, encryptStream A S K self F output k input_size ⟨some dek, some ivw, some ivd, d⟩ s =
      (.ok (), output ++ envelope (sealedHeader A self k kek dek.1 ivw.1 ivd.1 F)
        (A.encrypt dek.1 ivd.1 [] F).1, s₁) ∧ HoldsKek A S K s₁ k kek := by
  obtain ⟨s₁, hw, hk⟩ := h.wrapDEK dek.2 d ivw
  have he := encryptGCM_of_valid A (p := F) (k := dek.1) (a := []) ivd hF
    (by simp [limits.MAX_AAD_SIZE]) (.inr dek.2)
  refine ⟨s₁, ?_, hk⟩
  simp only [FileEncryptionService.encryptStream, generateDEK, hw, readInput_of hsize, he]
  rfl

/-- An input past the engine's limit is refused once the DEK is wrapped. -/
theorem HoldsKek.encryptStream_too_large (h : HoldsKek A S K s k kek)
    (self : FileEncryptionService) {F : Bytes} (output : Bytes) {input_size : UInt64}
    (hsize : input_size = 0 ∨ input_size.toNat = F.length)
    (hF : limits.MAX_PLAINTEXT_SIZE < F.length) (dek : Fixed 32) (ivw ivd : Fixed 12)
    (d : Draw) :
    (FileEncryptionService.encryptStream A S K self F output k input_size
        ⟨some dek, some ivw, some ivd, d⟩ s).1 =
      err .SIZE_LIMIT_EXCEEDED "Input exceeds maximum allowed size".toList := by
  obtain ⟨s₁, hw, -⟩ := h.wrapDEK dek.2 d ivw
  have he : encryptGCM A F dek.1 [] (some ivd) =
      err .SIZE_LIMIT_EXCEEDED "Input exceeds maximum allowed size".toList := by
    simp [encryptGCM, generateIV, encryptGCMWithIV, validatePlaintextSize, validateAtMost, hF]
  simp only [FileEncryptionService.encryptStream, generateDEK, hw, readInput_of hsize, he]
  rfl

@[simp] theorem length_sealedHeader_wrapped_dek (self : FileEncryptionService) (kek : Bytes)
    (dek : Fixed 32) (ivw ivd : Fixed 12) (F : Bytes) :
    (sealedHeader A self k kek dek.1 ivw.1 ivd.1 F).wrapped_dek.length = 60 := by
  simp [sealedHeader, ivw.2, dek.2, A.length_tag, A.length_ciphertext]

/-- The header `encryptStream` writes is read back. -/
theorem readable_sealedHeader (hk : Sealable k) (self : FileEncryptionService)
    (kek : Bytes) (dek : Fixed 32) (ivw ivd : Fixed 12) (F : Bytes) :
    Readable (sealedHeader A self k kek dek.1 ivw.1 ivd.1 F) :=
  readable_of_lengths hk (length_sealedHeader_wrapped_dek (k := k) self kek dek ivw ivd F) ivd.2
    (A.length_tag ..) _ _ _ _

/-- Under a held KEK, the header `encryptStream` writes leads back to its input. -/
theorem HoldsKek.decryptWithHeader (h : HoldsKek A S K s k kek) (self : FileEncryptionService)
    {F : Bytes} (hF : F.length ≤ limits.MAX_PLAINTEXT_SIZE) (dek : Fixed 32) (ivw ivd : Fixed 12)
    (output : Bytes) (d : Draw) :
    ∃ s₁, FileEncryptionService.decryptWithHeader A S K (sealedHeader A self k kek dek.1 ivw.1 ivd.1 F)
        (A.encrypt dek.1 ivd.1 [] F).1 output d s = (.ok (), output ++ F, s₁) ∧
      HoldsKek A S K s₁ k kek := by
  obtain ⟨s₁, hu, hk⟩ := h.unwrapDEK_wrapped dek ivw d
  refine ⟨s₁, ?_, hk⟩
  simp only [FileEncryptionService.decryptWithHeader, sealedHeader, hu,
    decryptGCM_encrypt A (a := []) hF (by simp [limits.MAX_AAD_SIZE]) (.inr dek.2) ivd.2]

/-! ## The round trip and its failures -/

/-- **What `encryptStream` writes, `decryptStream` reads back.** Over any store, under a held
KEK of AES size that the header can carry, an input within the engine's limit is encrypted,
and the envelope decrypts to it with any later draw into any output, the KEK still held. -/
theorem decryptStream_encryptStream (self : FileEncryptionService) {F : Bytes} (output : Bytes)
    {input_size : UInt64} (hsize : input_size = 0 ∨ input_size.toNat = F.length)
    (hF : F.length ≤ limits.MAX_PLAINTEXT_SIZE) (hk : Sealable k) (h : HoldsKek A S K s k kek)
    (dek : Fixed 32) (ivw ivd : Fixed 12) (d : Draw) :
    ∃ E s₁, encryptStream A S K self F output k input_size
        ⟨some dek, some ivw, some ivd, d⟩ s = (.ok (), output ++ E, s₁) ∧
      HoldsKek A S K s₁ k kek ∧
      ∀ d' output', ∃ s₂, decryptStream A S K E output' d' s₁ =
        some (.ok (), output' ++ F, s₂) ∧ HoldsKek A S K s₂ k kek := by
  obtain ⟨s₁, he, h₁⟩ := h.encryptStream self output hsize hF dek ivw ivd d
  refine ⟨_, s₁, he, h₁, fun d' output' => ?_⟩
  obtain ⟨s₂, hd, h₂⟩ := h₁.decryptWithHeader self hF dek ivw ivd output' d'
  exact ⟨s₂, by rw [decryptStream_readable (readable_sealedHeader hk self kek dek ivw ivd F), hd], h₂⟩

/-- A KEK whose material is not of AES size cannot wrap the data key: `encryptStream` fails
with `INVALID_KEY_SIZE`. -/
theorem encryptStream_kek_size {d : Draw} {kd : KeyData}
    (hg : (KeyService.getKey A S K .encrypt k d s).1 = .ok kd)
    (hs : kd.key_material.length ≠ 16 ∧ kd.key_material.length ≠ 32)
    (self : FileEncryptionService) (F output : Bytes) (input_size : UInt64) (dek : Fixed 32)
    (ivw : Fixed 12) (ivd : Option (Fixed 12)) :
    (encryptStream A S K self F output k input_size ⟨some dek, some ivw, ivd, d⟩ s).1 =
      err .INVALID_KEY_SIZE "AES key must be 128 or 256 bits".toList := by
  have he : encryptGCM A dek.1 kd.key_material [] (some ivw) =
      err .INVALID_KEY_SIZE "AES key must be 128 or 256 bits".toList := by
    simp [encryptGCM, generateIV, encryptGCMWithIV, validatePlaintextSize, validateAADSize,
      validateAtMost, validateAESKeySize, hs, dek.2, limits.MAX_PLAINTEXT_SIZE, limits.MAX_AAD_SIZE]
  unfold encryptStream wrapDEK
  rcases hgk : KeyService.getKey A S K .encrypt k d s with ⟨r, s₁⟩
  rw [hgk] at hg
  cases hg
  simp only [generateDEK, he]
  rfl

/-- **A generated key whose material is not of AES size cannot serve as KEK**: so it is with
RSA keys, whose material is a DER private key. -/
theorem encryptStream_generated_kek_size {params : KeyGenerationParams} {d : Draw}
    {s₀ s' : KeyService InMemoryKeyStore} (hc : Coherent A K s₀) (hf : d.FreshIn s₀.keys)
    (hk : KeyService.generateKey A InMemoryKeyStore.ops K params d s₀ = some (.ok k, s'))
    (hs : ∀ material, generateRawKeyMaterial params.algorithm d = .ok material →
      material.length ≠ 16 ∧ material.length ≠ 32)
    (self : FileEncryptionService) (F output : Bytes) (input_size : UInt64) (dek : Fixed 32)
    (ivw : Fixed 12) (ivd : Option (Fixed 12)) (d' : Draw) :
    (encryptStream A InMemoryKeyStore.ops K self F output k input_size ⟨some dek, some ivw, ivd, d'⟩
        s').1 =
      err .INVALID_KEY_SIZE "AES key must be 128 or 256 bits".toList := by
  obtain ⟨material, hm, hh⟩ := hc.holds_generateKey hf hk
  obtain ⟨md, s₁, hg, -⟩ := hh.getKey (d := d') .encrypt
  exact encryptStream_kek_size (by rw [hg]) (hs material hm) self F output input_size dek ivw ivd

/-- An envelope written under a KEK whose text does not parse back is refused with
`Invalid key ID`, and nothing is written. -/
theorem decryptStream_sealed_unparsed (hb : ∀ c ∈ k.toString, c.toNat < 256)
    (hsh : k.toString.length + 124 < 2 ^ 32) {e : Error}
    (hp : KeyId.parse k.toString = .error e) (self : FileEncryptionService) (kek : Bytes)
    (dek : Fixed 32) (ivw ivd : Fixed 12) (F output : Bytes) (d : Draw) (s : KeyService σ) :
    decryptStream A S K (envelope (sealedHeader A self k kek dek.1 ivw.1 ivd.1 F)
        (A.encrypt dek.1 ivd.1 [] F).1) output d s =
      some (err .INVALID_INPUT "Invalid key ID".toList, output, s) := by
  have hw := length_sealedHeader_wrapped_dek (A := A) (k := k) self kek dek ivw ivd F
  have htag := A.length_tag dek.1 ivd.1 [] F
  refine decryptStream_unparsed rfl hb (show k.toString.length < 2 ^ 32 by omega) ⟨by simp [hw], by simp [sealedHeader, ivd.2],
    by simp [sealedHeader, htag]⟩ ?_ hp _ output d s
  rw [length_serialize]
  simp only [hw]
  simp only [sealedHeader, ivd.2, htag]
  omega

/-- The header `encryptStream` writes under a KEK is `2 ^ 32` bytes long when the KEK's text
is `2 ^ 32 - 124`. -/
theorem length_serialize_sealedHeader (self : FileEncryptionService) (kek : Bytes)
    (dek : Fixed 32) (ivw ivd : Fixed 12) (F : Bytes) :
    (serialize (sealedHeader A self k kek dek.1 ivw.1 ivd.1 F)).length = k.toString.length + 124 := by
  rw [length_serialize, length_sealedHeader_wrapped_dek]
  simp only [sealedHeader, ivd.2, A.length_tag]
  omega

/-! ## Changes of what `encryptStream` wrote -/

end Kek

/-! ## Samples -/

/-- Thirty-two bytes `1`: the data key the samples draw. -/
def sampleDek : Fixed 32 := ⟨List.replicate 32 1, List.length_replicate _ _⟩

/-- Twelve bytes `1`: the IVs the samples draw. -/
def sampleIv : Fixed 12 := ⟨List.replicate 12 1, List.length_replicate _ _⟩

/-- The service after `generateKey params` on an empty store with a new cache client, every
byte drawn `1`; the empty service where the call does not return. -/
def generatedService (params : KeyGenerationParams) : KeyService InMemoryKeyStore :=
  match KeyService.generateKey checksumAead InMemoryKeyStore.ops sampleMasterKey params
    (Draw.constant 1 0) (init {}) with
  | some (_, s) => s
  | none => init {}

/-- The identifier that generation returns. -/
def generatedKek (params : KeyGenerationParams) : KeyId := generatedId params (Draw.constant 1 0)

/-- A key the samples generate with a symmetric algorithm is a held KEK. -/
theorem holdsKek_generatedKek (params : KeyGenerationParams)
    (hsym : isSymmetricAlgorithm params.algorithm = true)
    (hg : KeyService.generateKey checksumAead InMemoryKeyStore.ops sampleMasterKey params
      (Draw.constant 1 0) (init {}) = some (.ok (generatedKek params), generatedService params)) :
    ∃ kek, HoldsKek checksumAead InMemoryKeyStore.ops sampleMasterKey (generatedService params)
      (generatedKek params) kek :=
  HoldsKek.generateKey (coherent_init {}) (fun _ _ => AList.not_mem_empty _) hsym hg

/-- The text of a key generated in the namespace `default` reads back from a header. -/
theorem sealable_generatedKek : Sealable (generatedKek {}) :=
  ⟨⟨by decide, by decide, by decide, by decide⟩, by decide⟩

theorem decryptStream_encryptStream_generated :
    ([1, 2, 3] : Bytes).length ≤ limits.MAX_PLAINTEXT_SIZE ∧ Sealable (generatedKek {}) ∧
    ∃ kek, HoldsKek checksumAead InMemoryKeyStore.ops sampleMasterKey (generatedService {})
      (generatedKek {}) kek ∧
      ∃ E s₁, encryptStream checksumAead InMemoryKeyStore.ops sampleMasterKey {} [1, 2, 3] []
          (generatedKek {}) 0 ⟨some sampleDek, some sampleIv, some sampleIv, Draw.constant 1 0⟩
          (generatedService {}) = (.ok (), [] ++ E, s₁) ∧
        HoldsKek checksumAead InMemoryKeyStore.ops sampleMasterKey s₁ (generatedKek {}) kek ∧
        ∀ d' output', ∃ s₂, decryptStream checksumAead InMemoryKeyStore.ops sampleMasterKey E
            output' d' s₁ = some (.ok (), output' ++ [1, 2, 3], s₂) ∧
          HoldsKek checksumAead InMemoryKeyStore.ops sampleMasterKey s₂ (generatedKek {}) kek := by
  obtain ⟨kek, h⟩ := holdsKek_generatedKek {} rfl rfl
  exact ⟨by decide, sealable_generatedKek, kek, h, decryptStream_encryptStream {} []
    (.inl rfl) (by decide) sealable_generatedKek h sampleDek sampleIv sampleIv _⟩

/-- A namespace of `2 ^ 32 - 163` letters `a`: the text of a key generated in it is
`2 ^ 32 - 124` characters long, and the header `encryptStream` writes for it `2 ^ 32` bytes. -/
def longNamespace : KeyGenerationParams := { namespace_prefix := List.replicate (2 ^ 32 - 163) 'a' }

theorem length_toString_generatedKek (params : KeyGenerationParams) :
    (generatedKek params).toString.length = params.namespace_prefix.length + 39 := by
  have hu : (Draw.constant 1 0).uuidText.length = 36 := by decide
  have hd : (toDecimal (UInt32.toNat 1)).length = 1 := rfl
  simp only [generatedKek, generatedId, KeyId.generate, KeyId.toString, List.length_append,
    List.length_cons, hd]
  rw [show UUID.toString (UUID.generate (Draw.constant 1 0).uuid.1) = (Draw.constant 1 0).uuidText
    from rfl, hu]

theorem length_longNamespace : longNamespace.namespace_prefix.length = 2 ^ 32 - 163 :=
  List.length_replicate _ _

/-- The text of a key generated in the long namespace, and the 124 other bytes of its header,
are `2 ^ 32` bytes. -/
theorem length_toString_longNamespace :
    (generatedKek longNamespace).toString.length + 124 = 2 ^ 32 := by
  rw [length_toString_generatedKek, length_longNamespace]
  norm_num

/-- Generation in the long namespace returns: nothing it computes reads the namespace. -/
theorem generateKey_longNamespace :
    ∃ s, KeyService.generateKey checksumAead InMemoryKeyStore.ops sampleMasterKey longNamespace
      (Draw.constant 1 0) (init {}) = some (.ok (generatedKek longNamespace), s) :=
  ⟨_, rfl⟩

/-- **The round trip fails under four keys that `generateKey` returns**: an input one byte
past the engine's limit is refused under an AES-256 key; an RSA-2048 key cannot wrap the data
key; under a namespace that holds ':' the envelope is written but refused on reading, the
identifier's text no longer parsing; and under a namespace of `2 ^ 32 - 163` letters the
header's size wraps to `0`, and the envelope is refused as too small. -/
theorem encryptStream_round_trip_fails :
    (encryptStream checksumAead InMemoryKeyStore.ops sampleMasterKey {}
        (List.replicate (limits.MAX_PLAINTEXT_SIZE + 1) 0) [] (generatedKek {}) 0
        ⟨some sampleDek, some sampleIv, some sampleIv, Draw.constant 1 0⟩ (generatedService {})).1 =
      err .SIZE_LIMIT_EXCEEDED "Input exceeds maximum allowed size".toList ∧
    (encryptStream checksumAead InMemoryKeyStore.ops sampleMasterKey {} [1, 2, 3] []
        (generatedKek { algorithm := .RSA_2048 }) 0
        ⟨some sampleDek, some sampleIv, some sampleIv, Draw.constant 1 0⟩
        (generatedService { algorithm := .RSA_2048 })).1 =
      err .INVALID_KEY_SIZE "AES key must be 128 or 256 bits".toList ∧
    (∃ E s₁, encryptStream checksumAead InMemoryKeyStore.ops sampleMasterKey {} [1, 2, 3] []
        (generatedKek { namespace_prefix := "a:b".toList }) 0
        ⟨some sampleDek, some sampleIv, some sampleIv, Draw.constant 1 0⟩
        (generatedService { namespace_prefix := "a:b".toList }) = (.ok (), [] ++ E, s₁) ∧
      decryptStream checksumAead InMemoryKeyStore.ops sampleMasterKey E [] (Draw.constant 1 0) s₁ =
        some (err .INVALID_INPUT "Invalid key ID".toList, [], s₁)) ∧
    ∃ s E s₁, KeyService.generateKey checksumAead InMemoryKeyStore.ops sampleMasterKey longNamespace
        (Draw.constant 1 0) (init {}) = some (.ok (generatedKek longNamespace), s) ∧
      encryptStream checksumAead InMemoryKeyStore.ops sampleMasterKey {} [1, 2, 3] []
        (generatedKek longNamespace) 0 ⟨some sampleDek, some sampleIv, some sampleIv,
          Draw.constant 1 0⟩ s = (.ok (), [] ++ E, s₁) ∧
      decryptStream checksumAead InMemoryKeyStore.ops sampleMasterKey E [] (Draw.constant 1 0) s₁ =
        some (err .INVALID_INPUT "Header too small".toList, [], s₁) := by
  refine ⟨?_, ?_, ?_, ?_⟩
  · obtain ⟨kek, h⟩ := holdsKek_generatedKek {} rfl rfl
    exact h.encryptStream_too_large {} [] (.inl rfl) (by simp) sampleDek sampleIv sampleIv _
  · have hg : KeyService.generateKey checksumAead InMemoryKeyStore.ops sampleMasterKey
        { algorithm := .RSA_2048 } (Draw.constant 1 0) (init {}) =
        some (.ok (generatedKek { algorithm := .RSA_2048 }), generatedService { algorithm := .RSA_2048 }) :=
      rfl
    exact encryptStream_generated_kek_size (coherent_init {}) (fun _ _ => AList.not_mem_empty _) hg
      (fun m hm => by cases hm; decide) {} [1, 2, 3] [] 0 sampleDek sampleIv _ _
  · obtain ⟨kek, h⟩ := holdsKek_generatedKek { namespace_prefix := "a:b".toList } rfl rfl
    obtain ⟨s₁, he, -⟩ := h.encryptStream {} (F := [1, 2, 3]) [] (.inl rfl) (by decide) sampleDek
      sampleIv sampleIv (Draw.constant 1 0)
    exact ⟨_, s₁, he, decryptStream_sealed_unparsed (by decide) (by decide)
      (e := ⟨.INVALID_INPUT, "Invalid KeyId format".toList⟩) (by decide) {} kek sampleDek sampleIv
      sampleIv _ [] _ s₁⟩
  · obtain ⟨s, hg⟩ := generateKey_longNamespace
    obtain ⟨kek, h⟩ := HoldsKek.generateKey (coherent_init {}) (fun _ _ => AList.not_mem_empty _)
      (show isSymmetricAlgorithm longNamespace.algorithm = true from rfl) hg
    obtain ⟨s₁, he, -⟩ := h.encryptStream {} (F := [1, 2, 3]) [] (.inl rfl) (by decide) sampleDek
      sampleIv sampleIv (Draw.constant 1 0)
    exact ⟨s, _, s₁, hg, he, decryptStream_envelope_wrap ((length_serialize_sealedHeader _ _ _ _ _
      _).trans length_toString_longNamespace) _ _ _ _⟩

/-- The envelope of `[1, 2, 3]` under a generated AES-256 key, as `encryptStream` writes it. -/
theorem encryptStream_layout_generated :
    ∃ written s₁, encryptStream checksumAead InMemoryKeyStore.ops sampleMasterKey {} [1, 2, 3] []
        (generatedKek {}) 0 ⟨some sampleDek, some sampleIv, some sampleIv, Draw.constant 1 0⟩
        (generatedService {}) = (.ok (), written, s₁) ∧
      ∃ hdr ct, hdr.key_id = generatedKek {} ∧ hdr.algorithm = 1 ∧
        written =
          [] ++ writeU32 (UInt32.ofNat (serialize hdr).length) ++ specifiedLayout hdr ct := by
  obtain ⟨written, s₁, hrun⟩ : ∃ written s₁, encryptStream checksumAead InMemoryKeyStore.ops
      sampleMasterKey {} [1, 2, 3] [] (generatedKek {}) 0
      ⟨some sampleDek, some sampleIv, some sampleIv, Draw.constant 1 0⟩ (generatedService {}) =
        (.ok (), written, s₁) := ⟨_, _, rfl⟩
  obtain ⟨hdr, ct, ha, hk, -, -, -, hw⟩ := encryptStream_layout hrun
  exact ⟨written, s₁, hrun, hdr, ct, hk, ha, hw⟩

set_option maxRecDepth 4000 in
/-- **The envelope opens with the header's size, not the magic**: `[1, 2, 3]` under a generated
AES-256 key is written as `[170, 0, 0, 0]`, the size of its header, and then the header, so
what is written is not the specified layout of any header and ciphertext. -/
theorem encryptStream_not_specifiedLayout :
    ∃ written s₁, encryptStream checksumAead InMemoryKeyStore.ops sampleMasterKey {} [1, 2, 3] []
        (generatedKek {}) 0 ⟨some sampleDek, some sampleIv, some sampleIv, Draw.constant 1 0⟩
        (generatedService {}) = (.ok (), written, s₁) ∧
      written.take 4 = [170, 0, 0, 0] ∧ ∀ hdr ct, written ≠ specifiedLayout hdr ct := by
  set run := encryptStream checksumAead InMemoryKeyStore.ops sampleMasterKey {} [1, 2, 3] []
    (generatedKek {}) 0 ⟨some sampleDek, some sampleIv, some sampleIv, Draw.constant 1 0⟩
    (generatedService {})
  have hrun : run = (.ok (), run.2.1, run.2.2) := rfl
  have h4 : run.2.1.take 4 = [170, 0, 0, 0] := rfl
  refine ⟨_, _, hrun, h4, fun hdr ct he => ?_⟩
  have h := congrArg (List.take 4) he
  rw [h4, take_four_specifiedLayout] at h
  exact absurd h (by decide)

end FileEncryptionService

end CryptoService
