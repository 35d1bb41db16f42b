import CryptoService.Keys.KeyStore
import CryptoService.Common.Bytes

/-!
# The local on-disk key store

`LocalKeyStore` keeps one file per record at `storage_path_ + "/" + name`, `name` being
`id.toString()` with the colons replaced by underscores and `.key` appended. A file holds
`[iv_len][iv][tag_len][tag][data_len][data][algorithm][state]`, each length and tag a
little-endian `uint32_t`: of the metadata only the algorithm and the state are written, and
`retrieve` default-constructs the rest (`KeyMetadata()` reads the clock) and sets the id to the
one asked for. `retrieve` checks every length against the file's size before it reads; a read
past the end would be undefined, and is `none` in the decoder (`Decoder`). `list` reads the
identifiers back from the names of the directory's entries, turning every underscore into a
colon.

A path is resolved as the kernel resolves it (`FileSystem.walk`): empty and `.` components
stay where they are, `..` goes up, and every other component before the last must be a
directory. Nothing keeps a key's name to one component: a namespace holding `/` or `../` names a
file elsewhere.

Every call locks `mutex_`, a `std::mutex`; `updateMetadata` calls `retrieve` with the mutex
held, so it never returns.

* `deserialize_serialize`: a file that `store` writes decodes to `readBack`, the record with
  only its material, IV, tag, algorithm and state;
* `deserialize_spec`: on any contents the decoder reads within the buffer, and either fails with
  `Corrupted key file` or finds the three fields and the eight-byte trailer inside it;
* `retrieve_store`: what `store` wrote, `retrieve` reads back;
* `locate_getKeyPath`: a key whose namespace and id hold no `/` has its file in the key
  directory; `store_escapes`: under a namespace `../ns` the file is written into the parent of
  the key directory.
-/

namespace CryptoService

namespace LocalKeyStore

/-! ## The key file -/

/-- `static_cast<uint32_t>` of a `KeyAlgorithm`: its enumerator's position. -/
def algorithmTag : KeyAlgorithm → ℕ
  | .AES_128_GCM => 0 | .AES_256_GCM => 1 | .AES_128_CBC => 2 | .AES_256_CBC => 3
  | .RSA_2048 => 4 | .RSA_3072 => 5 | .RSA_4096 => 6
  | .ECDSA_P256 => 7 | .ECDSA_P384 => 8 | .ECDSA_P521 => 9

/-- Modelled: `static_cast<KeyAlgorithm>` of a tag. Past the enumerators C++ gives a value with
no name; no file that `store` writes holds one, and the model reads it as `none`. -/
def algorithmOfTag : ℕ → Option KeyAlgorithm
  | 0 => some .AES_128_GCM | 1 => some .AES_256_GCM | 2 => some .AES_128_CBC
  | 3 => some .AES_256_CBC | 4 => some .RSA_2048 | 5 => some .RSA_3072 | 6 => some .RSA_4096
  | 7 => some .ECDSA_P256 | 8 => some .ECDSA_P384 | 9 => some .ECDSA_P521 | _ => none

/-- Modelled: `static_cast<KeyState>` of a tag, as `algorithmOfTag`. -/
def stateOfTag : ℕ → Option KeyState
  | 0 => some .PENDING_ACTIVATION | 1 => some .ACTIVE | 2 => some .DEPRECATED
  | 3 => some .PENDING_DESTRUCTION | 4 => some .DESTROYED | _ => none

@[simp] theorem algorithmOfTag_algorithmTag (a : KeyAlgorithm) :
    algorithmOfTag (algorithmTag a) = some a := by
  cases a <;> rfl

@[simp] theorem stateOfTag_rank (st : KeyState) : stateOfTag st.rank = some st := by
  cases st <;> rfl

/-- A `uint32_t` as `store` writes it: the value cast to 32 bits, little-endian. -/
def u32 (n : ℕ) : Bytes := encodeLE 4 (n % 2 ^ 32)

/-- A length-prefixed field: its length as a `uint32_t`, then its bytes. -/
def field (b : Bytes) : Bytes := u32 b.length ++ b

/-- The contents `store` writes for a record. -/
def serialize (key : EncryptedKey) : Bytes :=
  field key.iv ++ (field key.tag ++ (field key.encrypted_material ++
    (u32 (algorithmTag key.metadata.algorithm) ++ u32 key.metadata.state.rank)))

/-- The error of every failed bounds check of `retrieve`. -/
def corrupted : Error := ⟨.INTERNAL_ERROR, "Corrupted key file".toList⟩

/-- The decoding of a key file: an error, or `none` where it reads past the buffer. -/
abbrev Decoder := ExceptT Error Option

/-- A read past the end of the buffer: undefined. -/
def outOfBounds {α : Type} : Decoder α := ExceptT.mk none

/-- `*reinterpret_cast<uint32_t*>(data.data() + offset)`. -/
def readU32 (data : Bytes) (offset : ℕ) : Decoder ℕ :=
  if data.length < offset + 4 then outOfBounds else pure (decodeLE ((data.drop offset).take 4))

/-- `assign(data.begin() + offset, data.begin() + offset + len)`. -/
def readBytes (data : Bytes) (offset len : ℕ) : Decoder Bytes :=
  if data.length < offset + len then outOfBounds else pure ((data.drop offset).take len)

/-- One length-prefixed field of the file at `offset`, with the two bounds checks `retrieve`
makes around reading it: the field's bytes and the offset past them. -/
def readField (data : Bytes) (offset : ℕ) : Decoder (Bytes × ℕ) := do
  if data.length < offset + 4 then throw corrupted
  let len ← readU32 data offset
  let offset := offset + 4
  if data.length < offset + len then throw corrupted
  let b ← readBytes data offset len
  return (b, offset + len)

/-- The deserialising half of `LocalKeyStore::retrieve`, at clock reading `now`. -/
def deserialize (id : KeyId) (now : ℤ) (data : Bytes) : Decoder EncryptedKey := do
  let (iv, offset) ← readField data 0
  let (tag, offset) ← readField data offset
  let (encrypted_material, offset) ← readField data offset
  if data.length < offset + 2 * 4 then throw corrupted
  let algorithm ← readU32 data offset
  let state ← readU32 data (offset + 4)
  match algorithmOfTag algorithm, stateOfTag state with
  | some algorithm, some state =>
    return ⟨encrypted_material, iv, tag, Inhabited.default,
      { KeyMetadata.default now with id := id, algorithm := algorithm, state := state }⟩
  | _, _ => throw corrupted

/-- What `retrieve` returns for a record that `store` wrote. -/
def readBack (id : KeyId) (now : ℤ) (key : EncryptedKey) : EncryptedKey :=
  let metadata :=
    { KeyMetadata.default now with
      id := id, algorithm := key.metadata.algorithm, state := key.metadata.state }
  ⟨key.encrypted_material, key.iv, key.tag, Inhabited.default, metadata⟩

/-- The record's fields fit the `uint32_t` lengths of the file. -/
def Fits (key : EncryptedKey) : Prop :=
  key.iv.length < 2 ^ 32 ∧ key.tag.length < 2 ^ 32 ∧ key.encrypted_material.length < 2 ^ 32

instance (key : EncryptedKey) : Decidable (Fits key) := inferInstanceAs (Decidable (_ ∧ _ ∧ _))

@[simp] theorem length_u32 (n : ℕ) : (u32 n).length = 4 := length_encodeLE _ _

@[simp] theorem length_field (b : Bytes) : (field b).length = 4 + b.length := by simp [field]

theorem readU32_of_le {data : Bytes} {offset : ℕ} (h : offset + 4 ≤ data.length) :
    readU32 data offset = pure (decodeLE ((data.drop offset).take 4)) := if_neg (by omega)

theorem readBytes_of_le {data : Bytes} {offset len : ℕ} (h : offset + len ≤ data.length) :
    readBytes data offset len = pure ((data.drop offset).take len) := if_neg (by omega)

theorem readU32_of_drop {data rest : Bytes} {offset n : ℕ}
    (h : data.drop offset = u32 n ++ rest) (hn : n < 2 ^ 32) : readU32 data offset = pure n := by
  have hl : offset + 4 ≤ data.length := by
    have := congrArg List.length h
    simp only [List.length_drop, List.length_append, length_u32] at this
    omega
  rw [readU32_of_le hl, h, u32, List.take_left' (length_encodeLE _ _),
    decodeLE_encodeLE (by omega), Nat.mod_eq_of_lt hn]

/-- **Each field is read within the buffer**: the bounds checks fail with `Corrupted key file`,
or the field and its length prefix lie in the buffer at `offset`. -/
theorem readField_spec (data : Bytes) (offset : ℕ) :
    readField data offset = throw corrupted ∨
    ∃ b, readField data offset = pure (b, offset + 4 + b.length) ∧
      data.drop offset = field b ++ data.drop (offset + 4 + b.length) := by
  unfold readField
  by_cases h₁ : data.length < offset + 4
  · exact .inl (by rw [if_pos h₁]; rfl)
  rw [if_neg h₁, readU32_of_le (by omega)]
  simp only [pure_bind]
  set len := decodeLE ((data.drop offset).take 4) with hlen
  by_cases h₂ : data.length < offset + 4 + len
  · exact .inl (by simp [h₂])
  have hb : ((data.drop (offset + 4)).take len).length = len := by
    rw [List.length_take, List.length_drop]; omega
  refine .inr ⟨(data.drop (offset + 4)).take len, ?_, ?_⟩
  · rw [if_neg h₂, readBytes_of_le (by omega), hb]; rfl
  · have h4 : ((data.drop offset).take 4).length = 4 := by
      rw [List.length_take, List.length_drop]; omega
    have hu : u32 len = (data.drop offset).take 4 := by
      have := decodeLE_lt ((data.drop offset).take 4)
      rw [h4] at this
      rw [u32, Nat.mod_eq_of_lt (by omega), hlen]
      have he := encodeLE_decodeLE ((data.drop offset).take 4)
      rwa [h4] at he
    have hd : data.drop (offset + 4 + len) = ((data.drop offset).drop 4).drop len := by
      rw [List.drop_drop, List.drop_drop]; congr 1; omega
    rw [field, hb, hu, List.append_assoc, hd, ← List.drop_drop, List.take_append_drop,
      List.take_append_drop]

theorem readField_of_drop {data b rest : Bytes} {offset : ℕ}
    (h : data.drop offset = field b ++ rest) (hb : b.length < 2 ^ 32) :
    readField data offset = pure (b, offset + 4 + b.length) := by
  have hlen : data.length = offset + (4 + b.length + rest.length) := by
    have := congrArg List.length h
    simp only [List.length_drop, List.length_append, length_field] at this
    omega
  have hd : data.drop (offset + 4) = b ++ rest := by
    rw [← List.drop_drop, h, field, List.append_assoc, List.drop_left' (length_u32 _)]
  rw [readField, if_neg (by omega), readU32_of_drop (by rw [h, field, List.append_assoc]) hb]
  simp only [pure_bind]
  rw [if_neg (by omega), readBytes_of_le (by omega), hd, List.take_left]
  rfl

/-- **What the decoder does on any contents.** It never reads past the buffer: it fails with
`Corrupted key file`, or the buffer starts with the three length-prefixed fields and at least
the eight bytes of the algorithm and state tags, and it returns the fields with
`KeyMetadata()`, the id asked for and the two tags. -/
theorem deserialize_spec (id : KeyId) (now : ℤ) (data : Bytes) :
    deserialize id now data = throw corrupted ∨
    ∃ iv tag material t algorithm state,
      data = field iv ++ (field tag ++ (field material ++ t)) ∧ 8 ≤ t.length ∧
      deserialize id now data = pure ⟨material, iv, tag, Inhabited.default,
        { KeyMetadata.default now with id := id, algorithm := algorithm, state := state }⟩ := by
  unfold deserialize
  rcases readField_spec data 0 with h₁ | ⟨iv, h₁, e₁⟩
  · exact .inl (by rw [h₁]; rfl)
  rw [h₁, pure_bind]
  dsimp only
  rcases readField_spec data (0 + 4 + iv.length) with h₂ | ⟨tag, h₂, e₂⟩
  · exact .inl (by rw [h₂]; rfl)
  rw [h₂, pure_bind]
  rcases readField_spec data (0 + 4 + iv.length + 4 + tag.length) with h₃ | ⟨material, h₃, e₃⟩
  · exact .inl (by rw [h₃]; rfl)
  rw [h₃, pure_bind]
  set o := 0 + 4 + iv.length + 4 + tag.length + 4 + material.length
  by_cases h₄ : data.length < o + 2 * 4
  · exact .inl (by rw [if_pos h₄]; rfl)
  rw [if_neg h₄, pure_bind, readU32_of_le (by omega), pure_bind, readU32_of_le (by omega),
    pure_bind]
  split
  · rename_i algorithm state _ _
    refine .inr ⟨iv, tag, material, data.drop o, algorithm, state, ?_, ?_, rfl⟩
    · rw [← e₃, ← e₂, ← e₁, List.drop_zero]
    · simp only [List.length_drop]; omega
  · exact .inl rfl

/-- The decoder never reads past the buffer. -/
theorem isSome_deserialize (id : KeyId) (now : ℤ) (data : Bytes) :
    (deserialize id now data).run.isSome := by
  rcases deserialize_spec id now data with h | ⟨_, _, _, _, _, _, -, -, h⟩ <;> rw [h] <;> rfl

/-- **A file that `store` writes decodes** to its material, IV, tag, algorithm and state; the
rest of the metadata is `KeyMetadata()`'s. -/
theorem deserialize_serialize (id : KeyId) (now : ℤ) {key : EncryptedKey} (h : Fits key) :
    deserialize id now (serialize key) = pure (readBack id now key) := by
  obtain ⟨hiv, htag, hdata⟩ := h
  have e₁ : (serialize key).drop 0 = field key.iv ++ (field key.tag ++
      (field key.encrypted_material ++
        (u32 (algorithmTag key.metadata.algorithm) ++ u32 key.metadata.state.rank))) := rfl
  have e₂ : (serialize key).drop (0 + 4 + key.iv.length) =
      field key.tag ++ (field key.encrypted_material ++
        (u32 (algorithmTag key.metadata.algorithm) ++ u32 key.metadata.state.rank)) :=
    List.drop_left' (by simp)
  have e₃ : (serialize key).drop (0 + 4 + key.iv.length + 4 + key.tag.length) =
      field key.encrypted_material ++
        (u32 (algorithmTag key.metadata.algorithm) ++ u32 key.metadata.state.rank) := by
    rw [serialize, ← List.append_assoc, List.drop_left' (by simp; omega)]
  have e₄ : (serialize key).drop (0 + 4 + key.iv.length + 4 + key.tag.length + 4 +
      key.encrypted_material.length) =
        u32 (algorithmTag key.metadata.algorithm) ++ u32 key.metadata.state.rank := by
    rw [serialize, ← List.append_assoc, ← List.append_assoc, List.drop_left' (by simp; omega)]
  have e₅ : (serialize key).drop (0 + 4 + key.iv.length + 4 + key.tag.length + 4 +
      key.encrypted_material.length + 4) = u32 key.metadata.state.rank ++ [] := by
    rw [serialize, ← List.append_assoc, ← List.append_assoc, ← List.append_assoc,
      List.append_nil, List.drop_left' (by simp; omega)]
  have hlen : (serialize key).length =
      0 + 4 + key.iv.length + 4 + key.tag.length + 4 + key.encrypted_material.length + 8 := by
    simp [serialize]; omega
  have halg : algorithmTag key.metadata.algorithm < 2 ^ 32 := by
    cases key.metadata.algorithm <;> decide
  have hst : key.metadata.state.rank < 2 ^ 32 := by cases key.metadata.state <;> decide
  rw [deserialize, readField_of_drop e₁ hiv, pure_bind]
  dsimp only
  rw [readField_of_drop e₂ htag, pure_bind]
  dsimp only
  rw [readField_of_drop e₃ hdata, pure_bind]
  dsimp only
  rw [if_neg (by rw [hlen]; omega)]
  simp only [pure_bind]
  rw [readU32_of_drop e₄ halg, pure_bind, readU32_of_drop e₅ hst, pure_bind,
    algorithmOfTag_algorithmTag, stateOfTag_rank]
  rfl

/-- **The key-file codec.** What `store` writes for a record whose IV, tag and material are
shorter than `2 ^ 32` bytes decodes to exactly that IV, tag, material, algorithm and state; and
on any contents the decoder stays within the buffer, failing with `Corrupted key file` unless
the three length-prefixed fields and the eight-byte trailer all lie inside it. -/
theorem record_codec :
    (∀ (id : KeyId) (now : ℤ) (key : EncryptedKey), Fits key →
      ∃ r, (deserialize id now (serialize key)).run = some (.ok r) ∧ r.iv = key.iv ∧
        r.tag = key.tag ∧ r.encrypted_material = key.encrypted_material ∧
        r.metadata.algorithm = key.metadata.algorithm ∧ r.metadata.state = key.metadata.state) ∧
    ∀ (id : KeyId) (now : ℤ) (data : Bytes), ∃ r, (deserialize id now data).run = some r ∧
      (r = .error corrupted ∨ ∃ key t, r = .ok key ∧
        data = field key.iv ++ (field key.tag ++ (field key.encrypted_material ++ t)) ∧
        8 ≤ t.length) := by
  refine ⟨fun id now key hk => ⟨readBack id now key, by rw [deserialize_serialize id now hk]; rfl,
    rfl, rfl, rfl, rfl, rfl⟩, fun id now data => ?_⟩
  rcases deserialize_spec id now data with h | ⟨iv, tag, material, t, _, _, he, ht, h⟩ <;>
    rw [h]
  · exact ⟨_, rfl, .inl rfl⟩
  · exact ⟨_, rfl, .inr ⟨_, t, rfl, he, ht⟩⟩

theorem record_codec_sample :
    Fits ⟨[3], [1], [2], Inhabited.default, KeyMetadata.default 0⟩ ∧
    (∃ r, (deserialize Inhabited.default 0
        (serialize ⟨[3], [1], [2], Inhabited.default, KeyMetadata.default 0⟩)).run = some (.ok r) ∧
      r.iv = [1] ∧ r.tag = [2] ∧ r.encrypted_material = [3] ∧
      r.metadata.algorithm = (KeyMetadata.default 0).algorithm ∧
      r.metadata.state = (KeyMetadata.default 0).state) ∧
    ∃ r, (deserialize Inhabited.default 0 [1, 0, 0, 0]).run = some r ∧
      (r = .error corrupted ∨ ∃ key t, r = .ok key ∧
        [1, 0, 0, 0] = field key.iv ++ (field key.tag ++ (field key.encrypted_material ++ t)) ∧
        8 ≤ t.length) :=
  have hk : Fits ⟨[3], [1], [2], Inhabited.default, KeyMetadata.default 0⟩ := by decide
  ⟨hk, record_codec.1 _ _ _ hk, record_codec.2 _ _ _⟩

/-! ## Paths and the file system -/

/-- Where a file or a directory is: its components from the root. -/
abbrev Location := List (List Char)

/-- Modelled: the file system as the store sees it, without links or permissions: the working
directory, the directories (the root among them) and the files' contents. -/
structure FileSystem where
  cwd : Location
  dirs : List Location
  files : AList (fun _ : Location => Bytes)

namespace FileSystem

/-- Path resolution from `dir`: empty and `.` components stay, `..` goes up (the root is its
own parent), and any other component must be a directory. -/
def walk (dirs : List Location) : Location → List (List Char) → Option Location
  | dir, [] => some dir
  | dir, c :: cs =>
    if c = [] ∨ c = ['.'] then walk dirs dir cs
    else if c = ['.', '.'] then walk dirs dir.dropLast cs
    else if dir ++ [c] ∈ dirs then walk dirs (dir ++ [c]) cs
    else none

/-- Where the resolution of a path starts: the root for an absolute path, else the working
directory. -/
def origin (fs : FileSystem) (path : List Char) : Location :=
  if path.head? = some '/' then [] else fs.cwd

/-- The directory a path names. -/
def locateDir (fs : FileSystem) (path : List Char) : Option Location :=
  walk fs.dirs (fs.origin path) (path.splitOn '/')

/-- Where the file a path names lies: its directory resolved, then its last component, which
must be a name (not empty, `.` or `..`). -/
def locate (fs : FileSystem) (path : List Char) : Option Location :=
  match (path.splitOn '/').reverse with
  | name :: rdirs =>
    if name = [] ∨ name = ['.'] ∨ name = ['.', '.'] then none
    else (walk fs.dirs (fs.origin path) rdirs.reverse).map (· ++ [name])
  | [] => none

/-- `std::ofstream(path, binary)` and a write: the file is created or truncated where its
directory exists; `none` where the path cannot be opened for writing. -/
def writeFile (fs : FileSystem) (path : List Char) (data : Bytes) : Option FileSystem :=
  match fs.locate path with
  | some loc => if loc ∈ fs.dirs then none else some { fs with files := fs.files.insert loc data }
  | none => none

/-- `std::ifstream(path, binary)` read whole; `none` where it cannot be opened. -/
def readFile (fs : FileSystem) (path : List Char) : Option Bytes :=
  (fs.locate path).bind fs.files.lookup

/-- Modelled: `std::filesystem::remove(path)` of a file; `none` where there is none. A
directory at the path is not removed. -/
def removeFile (fs : FileSystem) (path : List Char) : Option FileSystem :=
  match fs.locate path with
  | some loc => if loc ∈ fs.files then some { fs with files := fs.files.erase loc } else none
  | none => none

/-- `std::filesystem::exists(path)`. -/
def exists_ (fs : FileSystem) (path : List Char) : Bool :=
  match fs.locate path with
  | some loc => decide (loc ∈ fs.files ∨ loc ∈ fs.dirs)
  | none => false

/-- The names of the entries of the directory `dir`, files first. -/
def entries (fs : FileSystem) (dir : Location) : List (List Char) :=
  (fs.files.keys ++ fs.dirs).filterMap fun loc => if loc.dropLast = dir then loc.getLast? else none

theorem splitOn_append_slash (xs ys : List Char) :
    (xs ++ '/' :: ys).splitOn '/' = xs.splitOn '/' ++ ys.splitOn '/' := by
  induction xs with
  | nil => simp [List.splitOn]
  | cons c xs ih =>
    simp only [List.splitOn, List.cons_append, List.splitOnP_cons] at ih ⊢
    split
    · rw [ih]; rfl
    · obtain ⟨a, as, ha⟩ := List.exists_cons_of_ne_nil (List.splitOnP_ne_nil (· == '/') xs)
      rw [ih, ha]; rfl

theorem splitOn_of_not_mem {ys : List Char} (h : '/' ∉ ys) : ys.splitOn '/' = [ys] :=
  List.splitOnP_eq_single _ _ fun c hc hs => h (by rwa [beq_iff_eq.1 hs] at hc)

theorem walk_append (dirs : List Location) (dir : Location) (cs cs' : List (List Char)) :
    walk dirs dir (cs ++ cs') = (walk dirs dir cs).bind fun d => walk dirs d cs' := by
  induction cs generalizing dir with
  | nil => rfl
  | cons c cs ih => simp only [List.cons_append, walk]; split_ifs <;> first | exact ih _ | rfl

/-- A path `path ++ "/" ++ name`, with `name` a plain name, is the file `name` of the directory
`path` names. -/
theorem locate_append_name (fs : FileSystem) {path name : List Char} (hp : path ≠ [])
    (hn : '/' ∉ name) (hs : ¬ (name = [] ∨ name = ['.'] ∨ name = ['.', '.'])) :
    fs.locate (path ++ '/' :: name) = (fs.locateDir path).map (· ++ [name]) := by
  have ho : fs.origin (path ++ '/' :: name) = fs.origin path := by
    obtain ⟨c, cs, rfl⟩ := List.exists_cons_of_ne_nil hp
    rfl
  rw [locate, splitOn_append_slash, splitOn_of_not_mem hn, List.reverse_append]
  simp only [List.reverse_cons, List.reverse_nil, List.nil_append, List.singleton_append,
    List.reverse_reverse, if_neg hs, ho]
  rfl

/-- The directory `path ++ "/.."` is the parent of the directory `path`. -/
theorem locateDir_parent (fs : FileSystem) {path : List Char} (hp : path ≠ []) :
    fs.locateDir (path ++ ['/', '.', '.']) = (fs.locateDir path).map List.dropLast := by
  have ho : fs.origin (path ++ ['/', '.', '.']) = fs.origin path := by
    obtain ⟨c, cs, rfl⟩ := List.exists_cons_of_ne_nil hp
    rfl
  rw [locateDir, ho, splitOn_append_slash, splitOn_of_not_mem (show '/' ∉ ['.', '.'] by decide),
    walk_append, locateDir]
  cases walk fs.dirs (fs.origin path) (path.splitOn '/') <;> rfl

@[simp] theorem locate_files (fs : FileSystem) (f : AList (fun _ : Location => Bytes))
    (path : List Char) : { fs with files := f }.locate path = fs.locate path := rfl

end FileSystem

end LocalKeyStore

/-! ## The store -/

/-- `LocalKeyStore`: its directory `storage_path_`, and the file system. The master key it
keeps is never read. -/
structure LocalKeyStore where
  storage_path_ : List Char
  fs : LocalKeyStore.FileSystem

namespace LocalKeyStore

/-- The file name of the record whose text is `key_str`: colons become underscores, and the
extension is `.key`. -/
def fileName (key_str : List Char) : List Char := replaceChar ':' '_' key_str ++ ".key".toList

/-- `LocalKeyStore::getKeyPath`. -/
def getKeyPath (id : KeyId) (s : LocalKeyStore) : List Char :=
  s.storage_path_ ++ '/' :: fileName id.toString

/-- The directory `list` reads. -/
def storageDir (s : LocalKeyStore) : Option Location := s.fs.locateDir s.storage_path_

/-- `LocalKeyStore::store`. -/
def store (id : KeyId) (key : EncryptedKey) (s : LocalKeyStore) : Result Unit × LocalKeyStore :=
  match s.fs.writeFile (getKeyPath id s) (serialize key) with
  | none => (err .INTERNAL_ERROR "Failed to open file for writing".toList, s)
  | some fs => (.ok (), { s with fs := fs })

/-- `LocalKeyStore::retrieve`, at clock reading `now`: a file that cannot be opened is
`KEY_NOT_FOUND`; the decoder never reads past the file (`isSome_deserialize`). -/
def retrieve (id : KeyId) (now : ℤ) (s : LocalKeyStore) : Result EncryptedKey :=
  match s.fs.readFile (getKeyPath id s) with
  | none => .error (InMemoryKeyStore.notFound id)
  | some data => (deserialize id now data).run.get (isSome_deserialize id now data)

/-- `LocalKeyStore::remove`: `std::filesystem::remove` is false on a missing file. -/
def remove (id : KeyId) (s : LocalKeyStore) : Result Unit × LocalKeyStore :=
  match s.fs.removeFile (getKeyPath id s) with
  | some fs => (.ok (), { s with fs := fs })
  | none => (.error (InMemoryKeyStore.notFound id), s)

/-- `LocalKeyStore::exists`. -/
def exists_ (id : KeyId) (s : LocalKeyStore) : Result Bool := .ok (s.fs.exists_ (getKeyPath id s))

/-- `path::stem` of a directory entry whose `path::extension` is `.key`. -/
def keyStem (name : List Char) : Option (List Char) :=
  if ".key".toList.isSuffixOf name && 4 < name.length then some (name.take (name.length - 4))
  else none

/-- `LocalKeyStore::list`, in the order the directory is read: the stems of the `.key` entries,
with every underscore turned into a colon, that parse and lie in the namespace asked for.
Modelled: where the directory cannot be read, the text of the exception is left out. -/
def list (ns : List Char) (s : LocalKeyStore) : Result (List KeyId) :=
  match s.storageDir with
  | none => err .INTERNAL_ERROR "Failed to list keys: ".toList
  | some dir => .ok ((s.fs.entries dir).filterMap fun name =>
      (keyStem name).bind fun filename => InMemoryKeyStore.listed ns (replaceChar '_' ':' filename))

/-- `LocalKeyStore::updateMetadata` locks `mutex_`, a `std::mutex`, and calls `retrieve`,
which locks it again on the same thread: the call never returns. -/
def updateMetadata (_id : KeyId) (_metadata : KeyMetadata) (_s : LocalKeyStore) :
    Option (Result Unit × LocalKeyStore) :=
  none

/-- The local store as an `IKeyStore`. -/
def ops : KeyStoreOps LocalKeyStore where
  store := store
  retrieve := retrieve
  remove := remove
  exists_ := exists_
  list := list
  updateMetadata := updateMetadata

@[simp] theorem ops_store (id : KeyId) (key : EncryptedKey) (s : LocalKeyStore) :
    ops.store id key s = store id key s := rfl

@[simp] theorem ops_retrieve (id : KeyId) (now : ℤ) (s : LocalKeyStore) :
    ops.retrieve id now s = retrieve id now s := rfl

@[simp] theorem ops_remove (id : KeyId) (s : LocalKeyStore) : ops.remove id s = remove id s := rfl

@[simp] theorem ops_list (ns : List Char) (s : LocalKeyStore) : ops.list ns s = list ns s := rfl

/-- **`updateMetadata` never returns.** -/
@[simp] theorem ops_updateMetadata (id : KeyId) (m : KeyMetadata) (s : LocalKeyStore) :
    ops.updateMetadata id m s = none := rfl

theorem keyStem_fileName {key_str : List Char} (hs : key_str ≠ []) :
    keyStem (fileName key_str) = some (replaceChar ':' '_' key_str) := by
  have h : ".key".toList.isSuffixOf (fileName key_str) = true := by
    simp [fileName, List.isSuffixOf, List.reverse_append, List.isPrefixOf]
  simp only [keyStem, h, Bool.true_and, fileName, List.length_append]
  rw [if_pos (by simpa [replaceChar, List.length_pos] using hs), show (replaceChar ':' '_' key_str).length + ".key".toList.length - 4 =
    (replaceChar ':' '_' key_str).length by simp, List.take_left]

/-- **The file a key is stored in is listed as its text** when the text holds no underscore:
`store` turns every colon of the text into an underscore, and `list` every underscore of the
stem back into a colon. -/
theorem listed_fileName {key_str : List Char} (hs : key_str ≠ []) (hu : '_' ∉ key_str)
    (ns : List Char) :
    (keyStem (fileName key_str)).bind (fun filename =>
        InMemoryKeyStore.listed ns (replaceChar '_' ':' filename)) =
      InMemoryKeyStore.listed ns key_str := by
  rw [keyStem_fileName hs, Option.some_bind, replaceChar_replaceChar hu]

/-! ## Reading back what was stored -/

/-- A file that `store` writes reads back as `readBack`. -/
theorem retrieve_eq {id : KeyId} {now : ℤ} {s : LocalKeyStore} {key : EncryptedKey}
    (h : s.fs.readFile (getKeyPath id s) = some (serialize key)) (hk : Fits key) :
    retrieve id now s = .ok (readBack id now key) := by
  rw [retrieve]
  split
  · rename_i hn; rw [hn] at h; cases h
  · rename_i data hd
    rw [hd] at h
    cases h
    simp only [deserialize_serialize id now hk]
    rfl

/-- `store` succeeds exactly where the key's path names a file location that is no directory,
and then writes the record's contents there. -/
theorem store_eq_ok {id : KeyId} {key : EncryptedKey} {s s' : LocalKeyStore} :
    store id key s = (.ok (), s') ↔ ∃ loc, s.fs.locate (getKeyPath id s) = some loc ∧
      loc ∉ s.fs.dirs ∧
      s' = { s with fs := { s.fs with files := s.fs.files.insert loc (serialize key) } } := by
  unfold store FileSystem.writeFile
  rcases s.fs.locate (getKeyPath id s) with _ | loc
  · simp [err]
  · by_cases hd : loc ∈ s.fs.dirs <;> simp [hd, err, eq_comm]

/-- **What `store` wrote, `retrieve` reads back.** -/
theorem retrieve_store {id : KeyId} {key : EncryptedKey} {s s' : LocalKeyStore}
    (h : store id key s = (.ok (), s')) (hk : Fits key) (now : ℤ) :
    retrieve id now s' = .ok (readBack id now key) := by
  obtain ⟨loc, hl, -, rfl⟩ := store_eq_ok.1 h
  apply retrieve_eq _ hk
  change (s.fs.locate (getKeyPath id s)).bind _ = _
  rw [hl]
  exact AList.lookup_insert _

/-! ## Where the files lie -/

/-- The text form of a key holds a `/` only where its namespace or its id does. -/
theorem slash_not_mem_fileName {k : KeyId} (hns : '/' ∉ k.namespace_prefix) (hid : '/' ∉ k.id) :
    '/' ∉ fileName k.toString := by
  simp only [fileName, KeyId.toString, replaceChar, List.mem_append, List.mem_map, List.mem_cons]
  rintro (⟨c, hc, he⟩ | h)
  · split at he
    · cases he
    · subst he
      rcases hc with h | h | h | h | h
      · exact hns h
      · cases h
      · exact hid h
      · cases h
      · exact not_mem_toDecimal (c := '/') rfl _ h
  · revert h; decide

/-- A key file's name is never empty, `.` or `..`: it ends in `.key` after at least five
characters. -/
theorem fileName_ne_special (key_str : List Char) :
    ¬ (fileName key_str = [] ∨ fileName key_str = ['.'] ∨ fileName key_str = ['.', '.']) := by
  have h : 4 ≤ (fileName key_str).length := by simp [fileName]
  rintro (h' | h' | h') <;> rw [h'] at h <;> simp at h

/-- **A key whose namespace and id hold no `/` has its file in the key directory.** -/
theorem locate_getKeyPath {s : LocalKeyStore} (hp : s.storage_path_ ≠ []) {k : KeyId}
    (hns : '/' ∉ k.namespace_prefix) (hid : '/' ∉ k.id) :
    s.fs.locate (getKeyPath k s) = s.storageDir.map (· ++ [fileName k.toString]) :=
  FileSystem.locate_append_name s.fs hp (slash_not_mem_fileName hns hid) (fileName_ne_special _)

/-- The file name of a key in the namespace `../ns` is `../` followed by the file name of the
same key in `ns`. -/
theorem fileName_parent {k : KeyId} {ns : List Char} (hk : k.namespace_prefix = "../".toList ++ ns) :
    fileName k.toString = '.' :: '.' :: '/' :: fileName { k with namespace_prefix := ns }.toString := by
  simp [fileName, KeyId.toString, replaceChar, hk]

/-- A key in the namespace `../ns` names a file in the parent of the key directory. -/
theorem locate_getKeyPath_parent {s : LocalKeyStore} {dir : Location} (hp : s.storage_path_ ≠ [])
    (hd : s.storageDir = some dir) {k : KeyId} {ns : List Char}
    (hk : k.namespace_prefix = "../".toList ++ ns) (hns : '/' ∉ ns) (hid : '/' ∉ k.id) :
    s.fs.locate (getKeyPath k s) =
      some (dir.dropLast ++ [fileName { k with namespace_prefix := ns }.toString]) := by
  have hpath : getKeyPath k s = (s.storage_path_ ++ ['/', '.', '.']) ++
      '/' :: fileName { k with namespace_prefix := ns }.toString := by
    rw [getKeyPath, fileName_parent hk]
    simp
  rw [hpath, FileSystem.locate_append_name s.fs (by simp)
    (slash_not_mem_fileName (k := { k with namespace_prefix := ns }) hns hid)
    (fileName_ne_special _), FileSystem.locateDir_parent s.fs hp, ← storageDir, hd]
  rfl

/-- **A key in the namespace `../ns` is stored outside the key directory.** Whatever the store's
directory (but the root), `store` of a key whose namespace is `../` followed by a name without
`/` writes the key file into the parent of that directory, where no directory of that name
stands. -/
theorem store_escapes {s : LocalKeyStore} {dir : Location} (hp : s.storage_path_ ≠ [])
    (hd : s.storageDir = some dir) {k : KeyId} {ns : List Char}
    (hk : k.namespace_prefix = "../".toList ++ ns) (hns : '/' ∉ ns) (hid : '/' ∉ k.id)
    (hf : dir.dropLast ++ [fileName { k with namespace_prefix := ns }.toString] ∉ s.fs.dirs)
    (key : EncryptedKey) :
    store k key s = (.ok (), ⟨s.storage_path_, ⟨s.fs.cwd, s.fs.dirs,
      s.fs.files.insert (dir.dropLast ++ [fileName { k with namespace_prefix := ns }.toString])
        (serialize key)⟩⟩) :=
  store_eq_ok.2 ⟨_, locate_getKeyPath_parent hp hd hk hns hid, hf, rfl⟩

end LocalKeyStore

end CryptoService
