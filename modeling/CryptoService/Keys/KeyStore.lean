import CryptoService.Keys.KeyTypes
import Mathlib.Data.List.AList

/-!
# The key-store interface and the in-memory store

`IKeyStore` of `crypto/keys/key_store.h` is `KeyStoreOps σ`, a record of operations over the
store's state `σ`. Two of them differ from a plain state transformer:

* `retrieve` reads the clock, because a store that keeps only part of a record (the local
  store) default-constructs the rest of its metadata, and `KeyMetadata()` reads the clock;
* `updateMetadata` returns `none` where the call never returns (the local store's
  `updateMetadata` locks its mutex and then calls `retrieve`, which locks it again).

`InMemoryKeyStore` keeps its records in a map keyed by `id.toString()`; here the map is an
association list with distinct keys. Its operations always return.
-/

namespace CryptoService

/-- `IKeyStore`, over the store state `σ`. -/
structure KeyStoreOps (σ : Type) where
  store : KeyId → EncryptedKey → σ → Result Unit × σ
  retrieve : KeyId → ℤ → σ → Result EncryptedKey
  remove : KeyId → σ → Result Unit × σ
  exists_ : KeyId → σ → Result Bool
  list : List Char → σ → Result (List KeyId)
  updateMetadata : KeyId → KeyMetadata → σ → Option (Result Unit × σ)

/-- The string-keyed map of `InMemoryKeyStore`. -/
abbrev KeyMap := AList (fun _ : List Char => EncryptedKey)

/-- `InMemoryKeyStore`: `std::unordered_map<std::string, EncryptedKey> keys_`. -/
structure InMemoryKeyStore where
  keys_ : KeyMap

namespace InMemoryKeyStore

/-- The error of a lookup that misses. -/
def notFound (id : KeyId) : Error := ⟨.KEY_NOT_FOUND, "Key not found: ".toList ++ id.toString⟩

/-- `InMemoryKeyStore::store`: `keys_[id.toString()] = key`. -/
def store (id : KeyId) (key : EncryptedKey) (s : InMemoryKeyStore) :
    Result Unit × InMemoryKeyStore :=
  (.ok (), ⟨s.keys_.insert id.toString key⟩)

/-- `InMemoryKeyStore::retrieve`. -/
def retrieve (id : KeyId) (s : InMemoryKeyStore) : Result EncryptedKey :=
  match s.keys_.lookup id.toString with
  | some key => .ok key
  | none => .error (notFound id)

/-- `InMemoryKeyStore::remove`. -/
def remove (id : KeyId) (s : InMemoryKeyStore) : Result Unit × InMemoryKeyStore :=
  if id.toString ∈ s.keys_ then (.ok (), ⟨s.keys_.erase id.toString⟩) else (.error (notFound id), s)

/-- `InMemoryKeyStore::exists`. -/
def exists_ (id : KeyId) (s : InMemoryKeyStore) : Result Bool := .ok (decide (id.toString ∈ s.keys_))

/-- The identifiers `list` keeps of one stored text: those that parse, in the namespace asked
for (every one when it is empty). -/
def listed (ns : List Char) (key_str : List Char) : Option KeyId :=
  match KeyId.parse key_str with
  | .ok k => if ns = [] ∨ k.namespace_prefix = ns then some k else none
  | .error _ => none

/-- `InMemoryKeyStore::list`, in the order of the map. -/
def list (ns : List Char) (s : InMemoryKeyStore) : Result (List KeyId) :=
  .ok (s.keys_.keys.filterMap (listed ns))

/-- `InMemoryKeyStore::updateMetadata`. -/
def updateMetadata (id : KeyId) (metadata : KeyMetadata) (s : InMemoryKeyStore) :
    Result Unit × InMemoryKeyStore :=
  match s.keys_.lookup id.toString with
  | some key => (.ok (), ⟨s.keys_.insert id.toString { key with metadata := metadata }⟩)
  | none => (.error (notFound id), s)

/-- The in-memory store as an `IKeyStore`: it ignores the clock and always returns. -/
def ops : KeyStoreOps InMemoryKeyStore where
  store := store
  retrieve id _ s := retrieve id s
  remove := remove
  exists_ := exists_
  list := list
  updateMetadata id m s := some (updateMetadata id m s)

/-! ## Spec lemmas -/

@[simp] theorem ops_store (id : KeyId) (key : EncryptedKey) (s : InMemoryKeyStore) :
    ops.store id key s = (.ok (), ⟨s.keys_.insert id.toString key⟩) := rfl

@[simp] theorem ops_retrieve (id : KeyId) (now : ℤ) (s : InMemoryKeyStore) :
    ops.retrieve id now s = retrieve id s := rfl

@[simp] theorem ops_remove (id : KeyId) (s : InMemoryKeyStore) : ops.remove id s = remove id s := rfl

@[simp] theorem ops_updateMetadata (id : KeyId) (m : KeyMetadata) (s : InMemoryKeyStore) :
    ops.updateMetadata id m s = some (updateMetadata id m s) := rfl

@[simp] theorem ops_list (ns : List Char) (s : InMemoryKeyStore) : ops.list ns s = list ns s := rfl

@[simp] theorem ops_exists (id : KeyId) (s : InMemoryKeyStore) : ops.exists_ id s = exists_ id s := rfl

@[simp] theorem retrieve_eq_ok {id : KeyId} {s : InMemoryKeyStore} {r : EncryptedKey} :
    retrieve id s = .ok r ↔ s.keys_.lookup id.toString = some r := by
  unfold retrieve; split <;> simp_all

theorem retrieve_of_lookup_none {id : KeyId} {s : InMemoryKeyStore}
    (h : s.keys_.lookup id.toString = none) : retrieve id s = .error (notFound id) := by
  simp [retrieve, h]

@[simp] theorem store_fst (id : KeyId) (key : EncryptedKey) (s : InMemoryKeyStore) :
    (store id key s).1 = .ok () := rfl

@[simp] theorem store_keys (id : KeyId) (key : EncryptedKey) (s : InMemoryKeyStore) :
    (store id key s).2.keys_ = s.keys_.insert id.toString key := rfl

theorem remove_eq {id : KeyId} {s : InMemoryKeyStore} :
    remove id s = if id.toString ∈ s.keys_ then (.ok (), ⟨s.keys_.erase id.toString⟩)
      else (.error (notFound id), s) := rfl

theorem updateMetadata_eq {id : KeyId} {m : KeyMetadata} {s : InMemoryKeyStore} :
    updateMetadata id m s = match s.keys_.lookup id.toString with
      | some key => (.ok (), ⟨s.keys_.insert id.toString { key with metadata := m }⟩)
      | none => (.error (notFound id), s) := rfl

/-- `updateMetadata` fails only on a missing record, and then changes nothing. -/
theorem updateMetadata_of_lookup {id : KeyId} {m : KeyMetadata} {s : InMemoryKeyStore}
    {key : EncryptedKey} (h : s.keys_.lookup id.toString = some key) :
    updateMetadata id m s = (.ok (), ⟨s.keys_.insert id.toString { key with metadata := m }⟩) := by
  simp [updateMetadata, h]

end InMemoryKeyStore

/-! ## Maps whose keys are renamed

Both string-keyed stores are compared with a map whose keys are renamed: `KeyId`s by their
text, texts by their file names. Where the renaming is injective on the keys present, lookups
and erasures commute with it. -/

section Rename

variable {α β γ δ : Type} [DecidableEq α] [DecidableEq β] (f : α → β) (g : γ → δ)

/-- The entries of a map with every key renamed by `f` and every value sent through `g`. -/
def renameEntries (l : List (Σ _ : α, γ)) : List (Σ _ : β, δ) := l.map fun e => ⟨f e.1, g e.2⟩

omit [DecidableEq α] [DecidableEq β] in
@[simp] theorem keys_renameEntries (l : List (Σ _ : α, γ)) :
    (renameEntries f g l).keys = l.keys.map f := by
  simp [renameEntries, List.keys, Function.comp_def]

theorem dlookup_renameEntries {a : α} :
    ∀ l : List (Σ _ : α, γ), (∀ e ∈ l, f e.1 = f a → e.1 = a) →
      (renameEntries f g l).dlookup (f a) = (l.dlookup a).map g
  | [], _ => rfl
  | ⟨a', v⟩ :: l, hl => by
    have ih := dlookup_renameEntries l fun e he => hl e (List.mem_cons_of_mem _ he)
    by_cases h : a' = a
    · subst h; simp [renameEntries]
    · have hs : f a ≠ f a' := fun e => h (hl _ (List.mem_cons_self _ _) e.symm)
      simp only [renameEntries, List.map_cons] at ih ⊢
      rw [List.dlookup_cons_ne _ _ hs, List.dlookup_cons_ne _ _ (Ne.symm h), ih]

theorem kerase_renameEntries {a : α} :
    ∀ l : List (Σ _ : α, γ), (∀ e ∈ l, f e.1 = f a → e.1 = a) →
      (renameEntries f g l).kerase (f a) = renameEntries f g (l.kerase a)
  | [], _ => rfl
  | ⟨a', v⟩ :: l, hl => by
    have ih := kerase_renameEntries l fun e he => hl e (List.mem_cons_of_mem _ he)
    by_cases h : a' = a
    · subst h; simp [renameEntries, List.kerase_cons_eq]
    · have hs : f a ≠ f a' := fun e => h (hl _ (List.mem_cons_self _ _) e.symm)
      simp only [renameEntries, List.map_cons] at ih ⊢
      rw [List.kerase_cons_ne hs, List.kerase_cons_ne (Ne.symm h), ih]
      rfl

end Rename

end CryptoService
