import CryptoService.Clients.CacheClient

/-!
# The local LRU tier against a reference LRU

`LocalLRUCache` of `crypto/clients/cache_client.cpp` keeps a map and a recency list side by
side. What it is for is a bounded list of entries from the most to the least recently used
(`LruList`): a hit or a write moves a key to the front, and a new key pushes the least recently
used entry out of a full list.

* `Valid`: the map and the list hold the same keys, the list without duplicates, and no more
  keys than the capacity, or one key under capacity `0`;
* `apply_refines`: one call on a valid cache answers as the reference does and moves the cache
  as it moves the reference of capacity `max max_size_ 1`;
* `run_refines`: so does every sequence of calls from an empty cache. The eviction loop stops on
  an empty list and the new key is inserted after it, so a cache of capacity `0` keeps the last
  key written, as a reference of capacity `1` does.
-/

namespace CryptoService

/-- The reference LRU: its entries from the most to the least recently used. -/
abbrev LruList := List (List Char × Bytes)

/-- A call on the local tier. -/
inductive LruOp
  | get (key : List Char)
  | set (key : List Char) (value : Bytes)
  | del (key : List Char)
  | clear

namespace LruList

/-- The value held under `k`. -/
def find (k : List Char) (L : LruList) : Option Bytes := (L.find? (·.1 = k)).map Prod.snd

/-- The entries without `k`. -/
def remove (k : List Char) (L : LruList) : LruList := L.filter (·.1 ≠ k)

/-- A lookup: a hit moves the entry to the front. -/
def get (k : List Char) (L : LruList) : Option Bytes × LruList :=
  match find k L with
  | some v => (some v, (k, v) :: remove k L)
  | none => (none, L)

/-- A write puts the entry in front. A new key then keeps only the `cap` most recent entries:
in a full list, the least recently used one goes. -/
def set (cap : ℕ) (k : List Char) (v : Bytes) (L : LruList) : LruList :=
  if (find k L).isSome then (k, v) :: remove k L else ((k, v) :: L).take cap

/-- One call on a reference of capacity `cap`. -/
def apply (cap : ℕ) : LruOp → LruList → Option Bytes × LruList
  | .get k, L => get k L
  | .set k v, L => (none, set cap k v L)
  | .del k, L => (none, remove k L)
  | .clear, _ => (none, [])

/-- A sequence of calls: the answers of the lookups, and the final list. -/
def run (cap : ℕ) : List LruOp → LruList → List (Option Bytes) × LruList
  | [], L => ([], L)
  | op :: ops, L => ((apply cap op L).1 :: (run cap ops (apply cap op L).2).1,
      (run cap ops (apply cap op L).2).2)

@[simp] theorem find_cons (k x : List Char) (v : Bytes) (L : LruList) :
    find k ((x, v) :: L) = if x = k then some v else find k L := by
  by_cases h : x = k <;> simp [find, h]

/-- A list of keys with their values, looked up. -/
theorem find_map_pair (k : List Char) (f : List Char → Bytes) (l : List (List Char)) :
    find k (l.map fun x => (x, f x)) = if k ∈ l then some (f k) else none := by
  induction l with
  | nil => rfl
  | cons x l ih =>
    by_cases h : x = k
    · subst h; simp
    · simp [h, ih, Ne.symm h]

theorem remove_map_pair (k : List Char) (f : List Char → Bytes) (l : List (List Char)) :
    remove k (l.map fun x => (x, f x)) = (l.filter (· ≠ k)).map fun x => (x, f x) := by
  simp only [remove, List.filter_map]
  rfl

end LruList

/-- `List.erase` on texts compares them with the `==` of lists, which is their equality. -/
theorem erase_eq_erase (l : List (List Char)) (k : List Char) :
    @List.erase _ List.instBEq l k = @List.erase _ instBEqOfDecidableEq l k := by
  rw [lawful_beq_subsingleton List.instBEq instBEqOfDecidableEq]

namespace LocalLRUCache

/-- One call on the cache. -/
def apply : LruOp → LocalLRUCache → Option Bytes × LocalLRUCache
  | .get k, c => c.get k
  | .set k v, c => (none, c.set k v)
  | .del k, c => (none, c.del k)
  | .clear, c => (none, c.clear)

/-- A sequence of calls: the answers of the lookups, and the final cache. -/
def run : List LruOp → LocalLRUCache → List (Option Bytes) × LocalLRUCache
  | [], c => ([], c)
  | op :: ops, c => ((apply op c).1 :: (run ops (apply op c).2).1, (run ops (apply op c).2).2)

/-- The invariant of the cache: the map and the recency list hold the same keys, the list
without duplicates, and no more than the capacity, or one key under capacity `0`. -/
structure Valid (c : LocalLRUCache) : Prop where
  keys_perm : c.cache_map_.keys.Perm c.lru_list_
  length_le : c.lru_list_.length ≤ max c.max_size_ 1

/-- The entries of the cache, in the order of its recency list. -/
def toLru (c : LocalLRUCache) : LruList :=
  c.lru_list_.map fun k => (k, (c.cache_map_.lookup k).getD [])

namespace Valid

variable {c : LocalLRUCache} (hv : Valid c)
include hv

theorem nodup : c.lru_list_.Nodup := hv.keys_perm.nodup_iff.1 c.cache_map_.keys_nodup

theorem mem_iff {k : List Char} : k ∈ c.lru_list_ ↔ k ∈ c.cache_map_ := by
  rw [AList.mem_keys, hv.keys_perm.mem_iff]

theorem length_map : c.cache_map_.entries.length = c.lru_list_.length := by
  rw [← hv.keys_perm.length_eq, AList.keys, List.keys, List.length_map]

/-- A lookup in a valid cache is a lookup in its entries. -/
theorem find_toLru (k : List Char) : LruList.find k (toLru c) = c.cache_map_.lookup k := by
  rw [toLru, LruList.find_map_pair]
  split
  · rename_i h
    obtain ⟨v, hv'⟩ := Option.isSome_iff_exists.1 (AList.lookup_isSome.2 (hv.mem_iff.1 h))
    rw [hv', Option.getD_some]
  · exact (AList.lookup_eq_none.2 (mt hv.mem_iff.2 ‹_›)).symm

theorem erase_eq_filter (k : List Char) : c.lru_list_.erase k = c.lru_list_.filter (· ≠ k) := by
  rw [hv.nodup.erase_eq_filter]
  exact List.filter_congr fun x _ => by by_cases h : x = k <;> simp [h]

/-- A valid cache with a key moved to the front of its list, and a map with the same keys. -/
theorem moveToFront {k : List Char} (hk : k ∈ c.cache_map_) {m : ByteMap}
    (hm : m.keys.Perm c.cache_map_.keys) :
    Valid { c with lru_list_ := k :: c.lru_list_.erase k, cache_map_ := m } := by
  have hl := List.perm_cons_erase (hv.mem_iff.2 hk)
  rw [← erase_eq_erase] at hl
  constructor <;> dsimp only
  · exact hm.trans (hv.keys_perm.trans hl)
  · rw [← hl.length_eq]; exact hv.length_le

theorem toLru_moveToFront {k : List Char} {v : Bytes} {m : ByteMap} (hk : m.lookup k = some v)
    (hm : ∀ x, x ≠ k → m.lookup x = c.cache_map_.lookup x) :
    toLru { c with lru_list_ := k :: c.lru_list_.erase k, cache_map_ := m } =
      (k, v) :: LruList.remove k (toLru c) := by
  simp only [toLru, List.map_cons, hk, Option.getD_some, hv.erase_eq_filter, LruList.remove_map_pair]
  congr 1
  exact List.map_congr_left fun x hx => by rw [hm x (of_decide_eq_true (List.mem_filter.1 hx).2)]

end Valid

theorem erase_getLast {α : Type} [BEq α] [LawfulBEq α] {l : List α} (hn : l.Nodup) (h : l ≠ []) :
    l.erase (l.getLast h) = l.dropLast := by
  obtain ⟨L, b, rfl⟩ := (List.eq_nil_or_concat l).resolve_left h
  rw [List.concat_eq_append] at hn
  have hb : b ∉ L := fun hbL => (List.nodup_append.1 hn).2.2 hbL (List.mem_singleton_self b)
  simp [List.erase_append_right _ hb]

theorem evictOne_eq {c : LocalLRUCache} (h : c.lru_list_ ≠ []) :
    c.evictOne = ⟨c.max_size_, c.lru_list_.dropLast, c.cache_map_.erase (c.lru_list_.getLast h)⟩ := by
  rw [evictOne, List.getLast?_eq_getLast _ h]

theorem evict_of_not {c : LocalLRUCache}
    (h : ¬ (c.max_size_ ≤ c.cache_map_.entries.length ∧ c.lru_list_ ≠ [])) : ∀ n, evict n c = c
  | 0 => rfl
  | _ + 1 => by rw [evict, if_neg h]

theorem evictOne_refines {c : LocalLRUCache} (hv : Valid c) (h : c.lru_list_ ≠ []) :
    Valid c.evictOne ∧ toLru c.evictOne = (toLru c).dropLast := by
  rw [evictOne_eq h]
  refine ⟨⟨?_, ?_⟩, ?_⟩ <;> dsimp only
  · have := hv.keys_perm.erase (c.lru_list_.getLast h)
    rwa [← AList.keys_erase, ← erase_eq_erase, erase_getLast hv.nodup h] at this
  · rw [List.length_dropLast]; have := hv.length_le; omega
  · rw [toLru, toLru, ← List.map_dropLast]
    refine List.map_congr_left fun x hx => ?_
    have hne : x ≠ c.lru_list_.getLast h := fun hx' => by
      rw [← erase_getLast hv.nodup h, hx'] at hx
      exact (hv.nodup.mem_erase_iff.1 hx).1 rfl
    rw [AList.lookup_erase_ne hne]

/-- **On a valid cache the eviction loop turns at most once**: it removes the least recently
used key exactly when the list is at capacity `max max_size_ 1`. -/
theorem evict_of_valid {c : LocalLRUCache} (hv : Valid c) :
    evict c.lru_list_.length c = if max c.max_size_ 1 ≤ c.lru_list_.length then c.evictOne else c := by
  have hlen := hv.length_map
  have hle := hv.length_le
  rcases hl : c.lru_list_ with _ | ⟨x, xs⟩
  · rw [List.length_nil, if_neg (by omega)]; rfl
  · have hne : c.lru_list_ ≠ [] := by simp [hl]
    rw [hl] at hle hlen
    simp only [List.length_cons] at hle hlen ⊢
    rw [evict]
    by_cases h₂ : max c.max_size_ 1 ≤ xs.length + 1
    · rw [if_pos ⟨by omega, hne⟩, if_pos h₂]
      have hv' := (evictOne_refines hv hne).1
      refine evict_of_not ?_ _
      rintro ⟨h₃, h₄⟩
      rw [hv'.length_map, evictOne_eq hne] at h₃
      rw [evictOne_eq hne] at h₄
      simp only [List.length_dropLast, hl, List.length_cons] at h₃ h₄
      have : 0 < xs.length := List.length_pos.2 fun h => h₄ (by simp [h])
      omega
    · rw [if_neg fun h₁ => h₂ (by have := h₁.1; omega), if_neg h₂]

namespace Valid

variable {c : LocalLRUCache} (hv : Valid c)
include hv

/-- A valid cache with a key removed from its list, and a map with the same other keys. -/
theorem eraseKey {k : List Char} {m : ByteMap} (hm : m.keys.Perm (c.lru_list_.erase k)) :
    Valid { c with lru_list_ := c.lru_list_.erase k, cache_map_ := m } :=
  ⟨hm, (List.length_erase_le _ _).trans hv.length_le⟩

theorem toLru_eraseKey {k : List Char} {m : ByteMap}
    (hm : ∀ x, x ≠ k → m.lookup x = c.cache_map_.lookup x) :
    toLru { c with lru_list_ := c.lru_list_.erase k, cache_map_ := m } =
      LruList.remove k (toLru c) := by
  simp only [toLru, hv.erase_eq_filter, LruList.remove_map_pair]
  exact List.map_congr_left fun x hx => by rw [hm x (of_decide_eq_true (List.mem_filter.1 hx).2)]

/-- A new key in front of a valid cache below capacity. -/
theorem insertNew {k : List Char} (v : Bytes) (hk : k ∉ c.cache_map_)
    (hlen : c.lru_list_.length < max c.max_size_ 1) :
    Valid { c with lru_list_ := k :: c.lru_list_, cache_map_ := c.cache_map_.insert k v } ∧
      toLru { c with lru_list_ := k :: c.lru_list_, cache_map_ := c.cache_map_.insert k v } =
        (k, v) :: toLru c := by
  have hkl : k ∉ c.lru_list_ := mt hv.mem_iff.1 hk
  refine ⟨⟨?_, ?_⟩, ?_⟩ <;> dsimp only
  · rw [AList.keys_insert, ← erase_eq_erase, List.erase_of_not_mem (mt AList.mem_keys.2 hk)]
    exact hv.keys_perm.cons k
  · rw [List.length_cons]; omega
  · simp only [toLru, List.map_cons, AList.lookup_insert, Option.getD_some]
    exact congrArg _ (List.map_congr_left fun x hx => by
      rw [AList.lookup_insert_ne fun (h : x = k) => hkl (h ▸ hx)])

end Valid

theorem get_refines {c : LocalLRUCache} (hv : Valid c) (k : List Char) :
    (c.get k).1 = (LruList.get k (toLru c)).1 ∧ toLru (c.get k).2 = (LruList.get k (toLru c)).2 ∧
      Valid (c.get k).2 ∧ (c.get k).2.max_size_ = c.max_size_ := by
  unfold get LruList.get
  rw [hv.find_toLru]
  rcases h : c.cache_map_.lookup k with _ | v
  · exact ⟨rfl, rfl, hv, rfl⟩
  · have hk : k ∈ c.cache_map_ := AList.lookup_isSome.1 (by rw [h]; rfl)
    exact ⟨rfl, hv.toLru_moveToFront h fun _ _ => rfl, hv.moveToFront hk (List.Perm.refl _), rfl⟩

theorem set_refines {c : LocalLRUCache} (hv : Valid c) (k : List Char) (v : Bytes) :
    toLru (c.set k v) = LruList.set (max c.max_size_ 1) k v (toLru c) ∧ Valid (c.set k v) ∧
      (c.set k v).max_size_ = c.max_size_ := by
  unfold set LruList.set
  rw [hv.find_toLru]
  by_cases hk : k ∈ c.cache_map_
  · rw [if_pos hk, if_pos (AList.lookup_isSome.2 hk)]
    refine ⟨hv.toLru_moveToFront (AList.lookup_insert _) fun x hx => AList.lookup_insert_ne hx,
      hv.moveToFront hk ?_, rfl⟩
    rw [AList.keys_insert]
    exact (List.perm_cons_erase (AList.mem_keys.1 hk)).symm
  · rw [if_neg hk, if_neg (mt AList.lookup_isSome.1 hk)]
    dsimp only
    rw [evict_of_valid hv]
    have hlen : (toLru c).length = c.lru_list_.length := List.length_map _ _
    have hle := hv.length_le
    split_ifs with h
    · have hne : c.lru_list_ ≠ [] := List.ne_nil_of_length_pos (by omega)
      obtain ⟨hv', hlru⟩ := evictOne_refines hv hne
      have hk' : k ∉ c.evictOne.cache_map_ := by
        rw [evictOne_eq hne]; exact fun h' => hk (AList.mem_erase.1 h').2
      have hlen' : c.evictOne.lru_list_.length < max c.evictOne.max_size_ 1 := by
        rw [evictOne_eq hne]; dsimp only; rw [List.length_dropLast]; omega
      obtain ⟨hv'', hlru'⟩ := hv'.insertNew v hk' hlen'
      refine ⟨?_, hv'', by rw [evictOne_eq hne]⟩
      rw [hlru', hlru, List.take_cons (by omega), List.dropLast_eq_take, hlen]
      congr 2
      omega
    · obtain ⟨hv'', hlru'⟩ := hv.insertNew v hk (by omega)
      exact ⟨by rw [hlru', List.take_of_length_le (by simp only [List.length_cons]; omega)], hv'', rfl⟩

theorem del_refines {c : LocalLRUCache} (hv : Valid c) (k : List Char) :
    toLru (c.del k) = LruList.remove k (toLru c) ∧ Valid (c.del k) ∧
      (c.del k).max_size_ = c.max_size_ := by
  unfold del
  split_ifs with hk
  · exact ⟨hv.toLru_eraseKey fun x hx => AList.lookup_erase_ne hx,
      hv.eraseKey (by
        have := hv.keys_perm.erase k
        rwa [← erase_eq_erase c.lru_list_ k, ← AList.keys_erase] at this), rfl⟩
  · refine ⟨?_, hv, rfl⟩
    have hkl : k ∉ c.lru_list_ := mt hv.mem_iff.1 hk
    rw [toLru, LruList.remove_map_pair, List.filter_eq_self.2]
    intro x hx
    exact decide_eq_true fun (h : x = k) => hkl (h ▸ hx)

theorem clear_refines (c : LocalLRUCache) : toLru c.clear = [] ∧ Valid c.clear := by
  refine ⟨rfl, ⟨?_, ?_⟩⟩ <;> simp [clear]

/-- **One call refines the reference**: on a valid cache, it answers as the reference of
capacity `max max_size_ 1` does, moves the entries as the reference moves, and leaves the cache
valid. -/
theorem apply_refines {c : LocalLRUCache} (hv : Valid c) (op : LruOp) :
    (apply op c).1 = (LruList.apply (max c.max_size_ 1) op (toLru c)).1 ∧
      toLru (apply op c).2 = (LruList.apply (max c.max_size_ 1) op (toLru c)).2 ∧
      Valid (apply op c).2 ∧ (apply op c).2.max_size_ = c.max_size_ := by
  cases op with
  | get k => exact get_refines hv k
  | set k v => exact ⟨rfl, set_refines hv k v⟩
  | del k => exact ⟨rfl, del_refines hv k⟩
  | clear => exact ⟨rfl, (clear_refines c).1, (clear_refines c).2, rfl⟩

/-- Every sequence of calls on a valid cache refines the reference. -/
theorem run_refines {c : LocalLRUCache} (hv : Valid c) (ops : List LruOp) :
    (run ops c).1 = (LruList.run (max c.max_size_ 1) ops (toLru c)).1 ∧
      toLru (run ops c).2 = (LruList.run (max c.max_size_ 1) ops (toLru c)).2 ∧
      Valid (run ops c).2 ∧ (run ops c).2.max_size_ = c.max_size_ := by
  induction ops generalizing c with
  | nil => exact ⟨rfl, rfl, hv, rfl⟩
  | cons op ops ih =>
    obtain ⟨h₁, h₂, hv', hm⟩ := apply_refines hv op
    obtain ⟨ih₁, ih₂, ih₃, ih₄⟩ := ih hv'
    rw [hm, h₂] at ih₁ ih₂
    exact ⟨by rw [run, LruList.run, h₁, ih₁], ih₂, ih₃, ih₄.trans hm⟩

theorem valid_empty (n : ℕ) : Valid (empty n) := ⟨List.Perm.refl _, Nat.zero_le _⟩

/-- **The local tier is a reference LRU of capacity `max max_size 1`.** From an empty cache of
any capacity, every sequence of `get`, `set`, `del` and `clear` answers as the reference does
and leaves the entries the reference holds, in its recency order; the map and the list hold
the same keys without duplicates, and at most `max cap 1` of them: a cache of capacity `0`
holds the last key written. -/
theorem run_refines_reference (cap : ℕ) (ops : List LruOp) :
    ((empty cap).run ops).1 = (LruList.run (max cap 1) ops []).1 ∧
      toLru ((empty cap).run ops).2 = (LruList.run (max cap 1) ops []).2 ∧
      ((empty cap).run ops).2.cache_map_.keys.Perm ((empty cap).run ops).2.lru_list_ ∧
      ((empty cap).run ops).2.lru_list_.length ≤ max cap 1 := by
  obtain ⟨h₁, h₂, hv, hm⟩ := run_refines (valid_empty cap) ops
  exact ⟨h₁, h₂, hv.keys_perm, hv.length_le.trans_eq (by rw [hm]; rfl)⟩

/-- A cache of capacity `0` keeps what is written to it and answers a lookup of it. -/
theorem run_refines_reference_zero :
    ((empty 0).run [.set "k".toList [1], .get "k".toList]).1 = [none, some [1]] ∧
      ((empty 0).run [.set "k".toList [1], .get "k".toList]).2.lru_list_ = ["k".toList] :=
  ⟨(run_refines_reference 0 _).1.trans rfl, rfl⟩

end LocalLRUCache

end CryptoService
