import CryptoService.Engine.AesGcm
import Mathlib.Data.List.AList

/-!
# The cache client and its local LRU tier

`CacheClient` of `crypto/clients/cache_client.cpp`. The remote tier is a `TODO` in the source
(`check_connection` is called and nothing is sent), so a client is its configuration, its
optional local tier (`LocalLRUCache`) and its hit and miss counters. With an encryption key
configured, values are sealed with AES-256-GCM before they reach the local tier
(`encrypt_value`, framed `IV ‖ ciphertext ‖ tag`) and opened on the way out (`decrypt_value`).

* `decrypt_value_encrypt_value`: the framing splits back exactly and the value reads back;
* `lookup_set` / `lookup_of_set` / `lookup_of_del`: what `set` and `del` do to the local map,
  eviction included: an entry other than the key set is kept or dropped, never changed.
-/

namespace CryptoService

/-- A map from texts to byte strings. -/
abbrev ByteMap := AList (fun _ : List Char => Bytes)

/-- `LocalLRUCache`. `lru_list_` runs from the most to the least recently used key, and the
iterator that an entry of `cache_map_` keeps to its node of the list is the key itself. -/
structure LocalLRUCache where
  max_size_ : ℕ
  lru_list_ : List (List Char)
  cache_map_ : ByteMap

namespace LocalLRUCache

/-- `LocalLRUCache(max_size)`. -/
def empty (max_size : ℕ) : LocalLRUCache := ⟨max_size, [], ∅⟩

/-- `LocalLRUCache::get`: a hit moves the key to the front. -/
def get (key : List Char) (c : LocalLRUCache) : Option Bytes × LocalLRUCache :=
  match c.cache_map_.lookup key with
  | some v => (some v, { c with lru_list_ := key :: c.lru_list_.erase key })
  | none => (none, c)

/-- One turn of the eviction loop: the least recently used key leaves the map and the list. -/
def evictOne (c : LocalLRUCache) : LocalLRUCache :=
  match c.lru_list_.getLast? with
  | some k => { c with cache_map_ := c.cache_map_.erase k, lru_list_ := c.lru_list_.dropLast }
  | none => c

/-- The eviction loop of `set`, `while (cache_map_.size() >= max_size_ && !lru_list_.empty())`;
each turn pops a node, so the length of the list bounds the turns. -/
def evict : ℕ → LocalLRUCache → LocalLRUCache
  | 0, c => c
  | n + 1, c =>
    if c.max_size_ ≤ c.cache_map_.entries.length ∧ c.lru_list_ ≠ [] then evict n (evictOne c)
    else c

/-- `LocalLRUCache::set`. -/
def set (key : List Char) (value : Bytes) (c : LocalLRUCache) : LocalLRUCache :=
  if key ∈ c.cache_map_ then
    { c with cache_map_ := c.cache_map_.insert key value, lru_list_ := key :: c.lru_list_.erase key }
  else
    let c' := evict c.lru_list_.length c
    { c' with lru_list_ := key :: c'.lru_list_, cache_map_ := c'.cache_map_.insert key value }

/-- `LocalLRUCache::del`. -/
def del (key : List Char) (c : LocalLRUCache) : LocalLRUCache :=
  if key ∈ c.cache_map_ then
    { c with lru_list_ := c.lru_list_.erase key, cache_map_ := c.cache_map_.erase key }
  else c

/-- `LocalLRUCache::exists`. -/
def exists_ (key : List Char) (c : LocalLRUCache) : Bool := decide (key ∈ c.cache_map_)

/-- `LocalLRUCache::clear`. -/
def clear (c : LocalLRUCache) : LocalLRUCache := { c with lru_list_ := [], cache_map_ := ∅ }

@[simp] theorem get_map (key : List Char) (c : LocalLRUCache) :
    (c.get key).2.cache_map_ = c.cache_map_ := by
  unfold get; split <;> rfl

@[simp] theorem get_fst (key : List Char) (c : LocalLRUCache) :
    (c.get key).1 = c.cache_map_.lookup key := by
  unfold get; split <;> simp_all

theorem lookup_of_evictOne {c : LocalLRUCache} {k : List Char} {v : Bytes}
    (h : c.evictOne.cache_map_.lookup k = some v) : c.cache_map_.lookup k = some v := by
  unfold evictOne at h
  split at h
  · rename_i k' _
    by_cases hk : k = k'
    · subst hk; simp at h
    · rwa [AList.lookup_erase_ne hk] at h
  · exact h

theorem lookup_of_evict {c : LocalLRUCache} {k : List Char} {v : Bytes} :
    ∀ n, (evict n c).cache_map_.lookup k = some v → c.cache_map_.lookup k = some v := by
  intro n
  induction n generalizing c with
  | zero => exact id
  | succ n ih =>
    intro h
    unfold evict at h
    split at h
    · exact lookup_of_evictOne (ih h)
    · exact h

@[simp] theorem lookup_set (key : List Char) (value : Bytes) (c : LocalLRUCache) :
    (c.set key value).cache_map_.lookup key = some value := by
  unfold set; split <;> simp

/-- An entry of the map after `set` is the one just set or one the map held before. -/
theorem lookup_of_set {key k : List Char} {value v : Bytes} {c : LocalLRUCache}
    (h : (c.set key value).cache_map_.lookup k = some v) :
    (k = key ∧ v = value) ∨ c.cache_map_.lookup k = some v := by
  by_cases hk : k = key
  · subst hk; simp at h; exact .inl ⟨rfl, h.symm⟩
  · right
    unfold set at h
    split at h
    · simpa [AList.lookup_insert_ne hk] using h
    · exact lookup_of_evict _ (by simpa [AList.lookup_insert_ne hk] using h)

@[simp] theorem lookup_del (key : List Char) (c : LocalLRUCache) :
    (c.del key).cache_map_.lookup key = none := by
  unfold del; split
  · simp
  · simpa [AList.lookup_eq_none] using ‹_›

/-- `del` keeps every other entry. -/
theorem lookup_of_del {key k : List Char} {v : Bytes} {c : LocalLRUCache}
    (h : (c.del key).cache_map_.lookup k = some v) : k ≠ key ∧ c.cache_map_.lookup k = some v := by
  by_cases hk : k = key
  · subst hk; simp at h
  · refine ⟨hk, ?_⟩
    unfold del at h
    split at h
    · simpa [AList.lookup_erase_ne hk] using h
    · exact h

end LocalLRUCache

/-- `CacheErrorCode`. -/
inductive CacheErrorCode
  | OK | NOT_FOUND | CONNECTION_ERROR | TIMEOUT | SERIALIZATION_ERROR | ENCRYPTION_ERROR
  | INVALID_KEY | QUOTA_EXCEEDED
  deriving DecidableEq, Repr

/-- `CacheError`. -/
structure CacheError where
  code : CacheErrorCode
  message : List Char
  deriving DecidableEq, Repr

/-- `CacheClientConfig`: the fields the client reads, with their defaults. -/
structure CacheClientConfig where
  namespace_prefix : List Char := "crypto".toList
  encryption_key : Option (Fixed 32) := none
  local_fallback_enabled : Bool := true
  local_cache_size : ℕ := 1000

/-- `CacheClient`: its configuration, its local tier and its counters. -/
structure CacheClient where
  config : CacheClientConfig
  local_cache : Option LocalLRUCache
  local_hits : ℕ
  local_misses : ℕ

namespace CacheClient

variable (A : Aead)

/-- `CacheClient(config)`. -/
def create (config : CacheClientConfig) : CacheClient :=
  ⟨config, if config.local_fallback_enabled then some (.empty config.local_cache_size) else none,
    0, 0⟩

/-- `CacheClient::build_key`: `namespace:key`. -/
def build_key (c : CacheClient) (key : List Char) : List Char := c.config.namespace_prefix ++ ':' :: key

/-- `Impl::encrypt_value`, with the IV drawn by `random_bytes`. -/
def encrypt_value (config : CacheClientConfig) (ivDraw : Option (Fixed 12)) (plaintext : Bytes) :
    Except CacheError Bytes :=
  match config.encryption_key with
  | none => .ok plaintext
  | some key =>
    match ivDraw with
    | none => .error ⟨.ENCRYPTION_ERROR, "Failed to generate IV".toList⟩
    | some iv =>
      let r := A.encrypt key.1 iv.1 [] plaintext
      .ok (iv.1 ++ r.1 ++ r.2)

/-- `Impl::decrypt_value`: the first 12 bytes are the IV, the last 16 the tag. -/
def decrypt_value (config : CacheClientConfig) (encrypted : Bytes) : Except CacheError Bytes :=
  match config.encryption_key with
  | none => .ok encrypted
  | some key =>
    if encrypted.length < 12 + 16 then .error ⟨.ENCRYPTION_ERROR, "Invalid encrypted data".toList⟩
    else
      let iv := encrypted.take 12
      let ciphertext := (encrypted.drop 12).take (encrypted.length - 12 - 16)
      let tag := encrypted.drop (encrypted.length - 16)
      match A.decrypt key.1 iv [] ciphertext tag with
      | some p => .ok p
      | none => .error ⟨.ENCRYPTION_ERROR, "Authentication failed".toList⟩

/-- The framing `iv ‖ ciphertext ‖ tag` splits back by the lengths of `iv` and `tag`. -/
theorem frame_split {iv c t : Bytes} (hiv : iv.length = 12) (ht : t.length = 16) :
    (iv ++ c ++ t).take 12 = iv ∧
      ((iv ++ c ++ t).drop 12).take ((iv ++ c ++ t).length - 12 - 16) = c ∧
      (iv ++ c ++ t).drop ((iv ++ c ++ t).length - 16) = t := by
  have hlen : (iv ++ c ++ t).length = 12 + c.length + 16 := by
    simp only [List.length_append, hiv, ht]
  rw [hlen, List.append_assoc]
  refine ⟨List.take_left' hiv, ?_, ?_⟩
  · rw [List.drop_left' hiv]; exact List.take_left' (by omega)
  · rw [← List.append_assoc]; exact List.drop_left' (by simp only [List.length_append, hiv]; omega)

/-- **Sealed values read back**: the framing splits back exactly, for every length. -/
theorem decrypt_value_encrypt_value {config : CacheClientConfig} {ivDraw : Option (Fixed 12)}
    {v e : Bytes} (h : encrypt_value A config ivDraw v = .ok e) : decrypt_value A config e = .ok v := by
  unfold encrypt_value at h
  unfold decrypt_value
  split at h
  · cases h; simp_all
  · rename_i key hkey
    split at h
    · cases h
    · rename_i iv
      cases h
      have ht := A.length_tag key.1 iv.1 [] v
      obtain ⟨h₁, h₂, h₃⟩ := frame_split (c := (A.encrypt key.1 iv.1 [] v).1) iv.2 ht
      rw [if_neg (by simp only [List.length_append, iv.2, ht]; omega), h₁, h₂, h₃]
      simp [A.decrypt_encrypt]

/-! ## The client's operations -/

/-- The error of a lookup that misses. -/
def notFound : CacheError := ⟨.NOT_FOUND, "Key not found".toList⟩

/-- `CacheClient::get`: the remote tier is not implemented, so only the local tier answers. -/
def get (key : List Char) (c : CacheClient) : Except CacheError Bytes × CacheClient :=
  match c.local_cache with
  | none => (.error notFound, c)
  | some lc =>
    let r := lc.get (c.build_key key)
    match r.1 with
    | some v =>
      (decrypt_value A c.config v, { c with local_cache := some r.2, local_hits := c.local_hits + 1 })
    | none =>
      (.error notFound, { c with local_cache := some r.2, local_misses := c.local_misses + 1 })

/-- `CacheClient::set`; the TTL goes only to the remote tier, so it is not an argument here. -/
def set (key : List Char) (value : Bytes) (ivDraw : Option (Fixed 12)) (c : CacheClient) :
    Except CacheError Unit × CacheClient :=
  match encrypt_value A c.config ivDraw value with
  | .error e => (.error e, c)
  | .ok encrypted =>
    (.ok (), { c with local_cache := c.local_cache.map (LocalLRUCache.set (c.build_key key) encrypted) })

/-- `CacheClient::del`. -/
def del (key : List Char) (c : CacheClient) : Except CacheError Unit × CacheClient :=
  (.ok (), { c with local_cache := c.local_cache.map (LocalLRUCache.del (c.build_key key)) })

/-- `CacheClient::exists`. -/
def exists_ (key : List Char) (c : CacheClient) : Bool :=
  match c.local_cache with
  | some lc => lc.exists_ (c.build_key key)
  | none => false

/-- `CacheClient::clear_local_cache`. -/
def clear_local_cache (c : CacheClient) : CacheClient :=
  { c with local_cache := c.local_cache.map LocalLRUCache.clear }

/-! ## What the local tier holds

`entry c key` is the (sealed) value the local tier holds under `key`. Every operation keeps
the configuration, and changes `entry` only at its own key, except that `set` may evict. -/

/-- The sealed value held under `key`. -/
def entry (c : CacheClient) (key : List Char) : Option Bytes :=
  c.local_cache.bind fun lc => lc.cache_map_.lookup (c.build_key key)

theorem build_key_inj {c : CacheClient} {k k' : List Char} (h : c.build_key k = c.build_key k') :
    k = k' := by
  simpa [build_key] using h

/-- `get` answers from `entry`. -/
theorem get_fst (key : List Char) (c : CacheClient) :
    (get A key c).1 = match entry c key with
      | some v => decrypt_value A c.config v
      | none => .error notFound := by
  unfold get entry
  rcases c.local_cache with _ | lc
  · rfl
  · simp only [LocalLRUCache.get_fst, Option.some_bind]
    cases AList.lookup (c.build_key key) lc.cache_map_ <;> rfl

@[simp] theorem config_get (key : List Char) (c : CacheClient) : (get A key c).2.config = c.config := by
  unfold get; split
  · rfl
  · dsimp only; split <;> rfl

@[simp] theorem entry_get (key k : List Char) (c : CacheClient) : entry (get A key c).2 k = entry c k := by
  unfold get entry
  rcases hlc : c.local_cache with _ | lc
  · simp [hlc]
  · dsimp only; split <;> simp [build_key]

@[simp] theorem config_set (key : List Char) (v : Bytes) (d : Option (Fixed 12)) (c : CacheClient) :
    (set A key v d c).2.config = c.config := by
  unfold set; split <;> rfl

/-- A failed `set` changes nothing. -/
theorem set_of_error {key : List Char} {v : Bytes} {d : Option (Fixed 12)} {c : CacheClient} {e : CacheError}
    (h : (set A key v d c).1 = .error e) : (set A key v d c).2 = c := by
  unfold set at h ⊢; split <;> simp_all

/-- After `set`, the entry at the key is the sealed value, when there is a local tier. -/
theorem entry_set {key : List Char} {v : Bytes} {d : Option (Fixed 12)} {c : CacheClient}
    {k : List Char} {e : Bytes} (h : entry (set A key v d c).2 k = some e) :
    (k = key ∧ encrypt_value A c.config d v = .ok e) ∨ entry c k = some e := by
  unfold set at h
  split at h
  · exact .inr h
  · rename_i enc henc
    rcases hlc : c.local_cache with _ | lc
    · simp [entry, hlc] at h
    · simp only [entry, hlc, Option.map_some', Option.some_bind] at h
      rcases LocalLRUCache.lookup_of_set h with ⟨hk, rfl⟩ | h'
      · exact .inl ⟨build_key_inj hk, henc⟩
      · exact .inr (by simpa [entry, hlc] using h')

@[simp] theorem config_del (key : List Char) (c : CacheClient) : (del key c).2.config = c.config := rfl

@[simp] theorem entry_del_self (key : List Char) (c : CacheClient) : entry (del key c).2 key = none := by
  rcases hlc : c.local_cache with _ | lc <;> simp [del, entry, hlc, build_key]

/-- `del` keeps every other entry. -/
theorem entry_of_del {key k : List Char} {c : CacheClient} {e : Bytes}
    (h : entry (del key c).2 k = some e) : k ≠ key ∧ entry c k = some e := by
  rcases hlc : c.local_cache with _ | lc
  · simp [del, entry, hlc] at h
  · simp only [del, entry, hlc, Option.map_some', Option.some_bind] at h
    obtain ⟨hk, h'⟩ := LocalLRUCache.lookup_of_del h
    exact ⟨fun h => hk (by rw [h]; rfl), by simpa [entry, hlc] using h'⟩

@[simp] theorem config_clear_local_cache (c : CacheClient) : (clear_local_cache c).config = c.config :=
  rfl

@[simp] theorem entry_clear_local_cache (c : CacheClient) (k : List Char) :
    entry (clear_local_cache c) k = none := by
  rcases hlc : c.local_cache with _ | lc <;> simp [clear_local_cache, entry, hlc, LocalLRUCache.clear]

/-- A successful `set` on a client with a local tier leaves the sealed value under the key. -/
theorem entry_set_self {key : List Char} {v : Bytes} {d : Option (Fixed 12)} {c : CacheClient}
    (hl : c.local_cache.isSome) (h : (set A key v d c).1 = .ok ()) :
    ∃ e, encrypt_value A c.config d v = .ok e ∧ entry (set A key v d c).2 key = some e := by
  unfold set at h ⊢
  split at h
  · cases h
  · rename_i e he
    obtain ⟨lc, hlc⟩ := Option.isSome_iff_exists.1 hl
    refine ⟨e, he, ?_⟩
    simp only [he, entry, hlc, Option.map_some', Option.some_bind]
    exact LocalLRUCache.lookup_set _ _ _

/-- A client whose entry is held after a `set` has a local tier. -/
theorem isSome_of_entry_set {key k : List Char} {v : Bytes} {d : Option (Fixed 12)} {c : CacheClient}
    (h : entry (set A key v d c).2 k ≠ none) : c.local_cache.isSome := by
  rcases hlc : c.local_cache with _ | lc
  · unfold set entry at h; split at h <;> simp_all
  · rfl

/-- A key whose entry is the sealing of `v` reads back `v`. -/
theorem get_of_entry {c : CacheClient} {key : List Char} {e v : Bytes} {d : Option (Fixed 12)}
    (h : entry c key = some e) (he : encrypt_value A c.config d v = .ok e) :
    (get A key c).1 = .ok v := by
  rw [get_fst, h]
  exact decrypt_value_encrypt_value A he

/-! ## Batches -/

/-- `CacheClient::batch_set`: the entries in the order of the map, each written by `set` with
the IV its encryption draws. The first failure is returned at once, after the writes of the
entries before it. -/
def batch_set : List ((List Char × Bytes) × Option (Fixed 12)) → CacheClient →
    Except CacheError Unit × CacheClient
  | [], c => (.ok (), c)
  | ((key, value), ivDraw) :: entries, c =>
    match set A key value ivDraw c with
    | (.error e, c') => (.error e, c')
    | (.ok (), c') => batch_set entries c'

/-- A failed batch stops at its first failing entry, with the entries before it written. -/
theorem batch_set_of_error {es : List ((List Char × Bytes) × Option (Fixed 12))}
    {c c' : CacheClient} {e : CacheError} (h : batch_set A es c = (.error e, c')) :
    ∃ pre x post, es = pre ++ x :: post ∧ batch_set A pre c = (.ok (), c') ∧
      (set A x.1.1 x.1.2 x.2 c').1 = .error e := by
  induction es generalizing c with
  | nil => simp [batch_set] at h
  | cons x es ih =>
    obtain ⟨⟨k, v⟩, d⟩ := x
    rcases hs : set A k v d c with ⟨_ | ⟨⟩, c₁⟩
    · rw [batch_set, hs] at h
      simp only [Prod.mk.injEq, Except.error.injEq] at h
      obtain ⟨rfl, rfl⟩ := h
      have hc : c₁ = c := by
        have := set_of_error A (show (set A k v d c).1 = .error _ by rw [hs])
        rwa [hs] at this
      subst hc
      exact ⟨[], _, es, rfl, rfl, by rw [hs]⟩
    · rw [batch_set, hs] at h
      obtain ⟨pre, x, post, rfl, h₁, h₂⟩ := ih h
      exact ⟨((k, v), d) :: pre, x, post, rfl, by rw [batch_set, hs]; exact h₁, h₂⟩

/-- A successful batch wrote every entry, in order, each sealed without error. -/
theorem batch_set_of_ok {es : List ((List Char × Bytes) × Option (Fixed 12))} {c c' : CacheClient}
    (h : batch_set A es c = (.ok (), c')) :
    c' = es.foldl (fun d x => (set A x.1.1 x.1.2 x.2 d).2) c ∧
      ∀ x ∈ es, ∃ enc, encrypt_value A c.config x.2 x.1.2 = .ok enc := by
  induction es generalizing c with
  | nil => exact ⟨(Prod.mk.inj h).2.symm, by simp⟩
  | cons x es ih =>
    obtain ⟨⟨k, v⟩, d⟩ := x
    rcases hs : set A k v d c with ⟨_ | ⟨⟩, c₁⟩
    · rw [batch_set, hs] at h; cases h
    · rw [batch_set, hs] at h
      obtain ⟨ih₁, ih₂⟩ := ih h
      have hcfg : c₁.config = c.config := by rw [← config_set A k v d c, hs]
      have henc : ∃ enc, encrypt_value A c.config d v = .ok enc := by
        unfold set at hs; split at hs
        · cases hs
        · exact ⟨_, ‹_›⟩
      refine ⟨by rw [List.foldl_cons, hs]; exact ih₁, ?_⟩
      rintro x (_ | ⟨_, hx⟩)
      · exact henc
      · exact hcfg ▸ ih₂ x hx

/-- **What a batch write leaves.** A failing `batch_set` returns the error of its first failing
entry with the entries before it already written to the local tier; a successful one wrote
every entry, in order. -/
theorem batch_set_first_failure (es : List ((List Char × Bytes) × Option (Fixed 12))) (c : CacheClient) :
    (∀ e c', batch_set A es c = (.error e, c') → ∃ pre x post, es = pre ++ x :: post ∧
      batch_set A pre c = (.ok (), c') ∧ (set A x.1.1 x.1.2 x.2 c').1 = .error e) ∧
    (∀ c', batch_set A es c = (.ok (), c') →
      c' = es.foldl (fun d x => (set A x.1.1 x.1.2 x.2 d).2) c ∧
        ∀ x ∈ es, ∃ enc, encrypt_value A c.config x.2 x.1.2 = .ok enc) :=
  ⟨fun _ _ => batch_set_of_error A, fun _ => batch_set_of_ok A⟩

/-- A cache client with an encryption key. -/
def keyedClient : CacheClient := create { encryption_key := some ⟨List.replicate 32 0, rfl⟩ }

/-- Two entries, of which the second cannot draw its IV. -/
def failingBatch : List ((List Char × Bytes) × Option (Fixed 12)) :=
  [(("a".toList, [1]), some ⟨List.replicate 12 0, rfl⟩), (("b".toList, [2]), none)]

/-- The failing batch splits at its second entry: the first one alone is written, and the second
fails to draw its IV. -/
theorem batch_set_first_failure_second_entry :
    (batch_set checksumAead failingBatch keyedClient).1 =
        .error ⟨.ENCRYPTION_ERROR, "Failed to generate IV".toList⟩ ∧
      ∃ pre x post, failingBatch = pre ++ x :: post ∧
        batch_set checksumAead pre keyedClient =
          (.ok (), (batch_set checksumAead failingBatch keyedClient).2) ∧
        (set checksumAead x.1.1 x.1.2 x.2 (batch_set checksumAead failingBatch keyedClient).2).1 =
          .error ⟨.ENCRYPTION_ERROR, "Failed to generate IV".toList⟩ :=
  ⟨rfl, (batch_set_first_failure checksumAead _ _).1 _ _ rfl⟩

/-- **A failing batch is not undone**: the batch fails at its second entry, and the first entry,
absent before the call, is in the local tier after it. -/
theorem batch_set_leaves_earlier_entries :
    (batch_set checksumAead failingBatch keyedClient).1 =
        .error ⟨.ENCRYPTION_ERROR, "Failed to generate IV".toList⟩ ∧
      entry keyedClient "a".toList = none ∧
      entry (batch_set checksumAead failingBatch keyedClient).2 "a".toList ≠ none :=
  ⟨rfl, rfl, by decide⟩

end CacheClient

end CryptoService
