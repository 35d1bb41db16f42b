import CryptoService.Keys.KeyStore

/-!
# The in-memory store against a map keyed by `KeyId`

What `IKeyStore` is for is a finite map from key identifiers to records: `KeyIdMap`, the
abstract store, answers every call by its `KeyId`. `InMemoryKeyStore` keys its map by
`id.toString()` instead, and `list` reads the identifiers back with `KeyId::parse`. Two
identifiers whose fields hold a colon can share a text (`("a:b", "c", 1)` and
`("a", "b:c", 1)` are both `a:b:c:1`), and such a text does not parse back, so the concrete
store refines the map only on identifiers without colons in the namespace and the id.

* `Abstracts`: the concrete map is the abstract one with every key written as text;
* `call_refines` / `runCalls_refines`: under it, every call, and every sequence of calls,
  answers exactly as the map does;
* `retrieve_store`, `retrieve_remove`, `list_nodup`, ...: what the map answers: the last record
  stored, no interference between identifiers, each stored identifier listed once;
* `inMemoryKeyStore_refines`: from the empty store, calls on colon-free identifiers answer as
  the map does; `inMemoryKeyStore_text_collision` shows both ways it fails with colons.
-/

namespace CryptoService

/-- The abstract store: a finite map keyed by `KeyId`. -/
abbrev KeyIdMap := AList (fun _ : KeyId => EncryptedKey)

/-- A call of `IKeyStore`. -/
inductive StoreCall
  | store (id : KeyId) (key : EncryptedKey)
  | retrieve (id : KeyId)
  | remove (id : KeyId)
  | exists_ (id : KeyId)
  | list (ns : List Char)
  | updateMetadata (id : KeyId) (metadata : KeyMetadata)

/-- What a call of `IKeyStore` returns. -/
inductive StoreAnswer
  | unit (r : Result Unit)
  | key (r : Result EncryptedKey)
  | bool (r : Result Bool)
  | ids (r : Result (List KeyId))
  deriving DecidableEq

/-- The identifier of a call, if it names one. -/
def StoreCall.id? : StoreCall → Option KeyId
  | .store id _ | .retrieve id | .remove id | .exists_ id | .updateMetadata id _ => some id
  | .list _ => none

/-- The namespace of a `list` call, if it is one. -/
def StoreCall.ns? : StoreCall → Option (List Char)
  | .list ns => some ns
  | _ => none

/-- Runs calls one after another. -/
def runCalls {σ : Type} (f : StoreCall → σ → StoreAnswer × σ) : List StoreCall → σ → List StoreAnswer × σ
  | [], s => ([], s)
  | c :: cs, s =>
    let r := f c s
    let rs := runCalls f cs r.2
    (r.1 :: rs.1, rs.2)

namespace InMemoryKeyStore

/-- One call of the in-memory store. -/
def call : StoreCall → InMemoryKeyStore → StoreAnswer × InMemoryKeyStore
  | .store id key, s => let r := store id key s; (.unit r.1, r.2)
  | .retrieve id, s => (.key (retrieve id s), s)
  | .remove id, s => let r := remove id s; (.unit r.1, r.2)
  | .exists_ id, s => (.bool (exists_ id s), s)
  | .list ns, s => (.ids (list ns s), s)
  | .updateMetadata id md, s => let r := updateMetadata id md s; (.unit r.1, r.2)

end InMemoryKeyStore

namespace KeyIdMap

/-- The abstract `store`. -/
def store (id : KeyId) (key : EncryptedKey) (m : KeyIdMap) : KeyIdMap := m.insert id key

/-- The abstract `retrieve`. -/
def retrieve (id : KeyId) (m : KeyIdMap) : Result EncryptedKey :=
  match m.lookup id with
  | some key => .ok key
  | none => .error (InMemoryKeyStore.notFound id)

/-- The abstract `remove`. -/
def remove (id : KeyId) (m : KeyIdMap) : Result Unit × KeyIdMap :=
  if id ∈ m then (.ok (), m.erase id) else (.error (InMemoryKeyStore.notFound id), m)

/-- The abstract `list`: the stored identifiers in the namespace, every one when it is empty. -/
def list (ns : List Char) (m : KeyIdMap) : List KeyId :=
  m.keys.filter fun k => ns = [] ∨ k.namespace_prefix = ns

/-- The abstract `updateMetadata`. -/
def updateMetadata (id : KeyId) (md : KeyMetadata) (m : KeyIdMap) : Result Unit × KeyIdMap :=
  match m.lookup id with
  | some key => (.ok (), m.insert id { key with metadata := md })
  | none => (.error (InMemoryKeyStore.notFound id), m)

/-- One call of the abstract store. -/
def call : StoreCall → KeyIdMap → StoreAnswer × KeyIdMap
  | .store id key, m => (.unit (.ok ()), store id key m)
  | .retrieve id, m => (.key (retrieve id m), m)
  | .remove id, m => let r := remove id m; (.unit r.1, r.2)
  | .exists_ id, m => (.bool (.ok (decide (id ∈ m))), m)
  | .list ns, m => (.ids (.ok (list ns m)), m)
  | .updateMetadata id md, m => let r := updateMetadata id md m; (.unit r.1, r.2)

/-! ## What the map answers -/

theorem retrieve_store (id : KeyId) (key : EncryptedKey) (m : KeyIdMap) :
    retrieve id (store id key m) = .ok key := by
  simp [retrieve, store]

theorem retrieve_store_ne {id id' : KeyId} (h : id' ≠ id) (key : EncryptedKey) (m : KeyIdMap) :
    retrieve id' (store id key m) = retrieve id' m := by
  simp [retrieve, store, AList.lookup_insert_ne h]

theorem retrieve_remove (id : KeyId) (m : KeyIdMap) :
    retrieve id (remove id m).2 = .error (InMemoryKeyStore.notFound id) := by
  unfold remove; split
  · simp [retrieve]
  · simp [retrieve, AList.lookup_eq_none.2 ‹_›]

theorem retrieve_remove_ne {id id' : KeyId} (h : id' ≠ id) (m : KeyIdMap) :
    retrieve id' (remove id m).2 = retrieve id' m := by
  unfold remove; split
  · simp [retrieve, AList.lookup_erase_ne h]
  · rfl

theorem retrieve_updateMetadata (id : KeyId) (md : KeyMetadata) (m : KeyIdMap) :
    retrieve id (updateMetadata id md m).2 = (retrieve id m).map fun key => { key with metadata := md } := by
  unfold updateMetadata retrieve
  cases h : m.lookup id <;> simp [h] <;> rfl

theorem list_nodup (ns : List Char) (m : KeyIdMap) : (list ns m).Nodup :=
  m.keys_nodup.filter _

theorem mem_list {ns : List Char} {m : KeyIdMap} {k : KeyId} :
    k ∈ list ns m ↔ k ∈ m ∧ (ns = [] ∨ k.namespace_prefix = ns) := by
  simp [list, AList.mem_keys]

/-- A stored identifier is listed under its namespace. -/
theorem mem_list_store (id : KeyId) (key : EncryptedKey) (m : KeyIdMap) :
    id ∈ list id.namespace_prefix (store id key m) :=
  mem_list.2 ⟨by simp [store], .inr rfl⟩

end KeyIdMap

/-! ## The refinement -/

/-- A `KeyId` with no colon in its namespace or its id. -/
def KeyId.ColonFree (k : KeyId) : Prop := ':' ∉ k.namespace_prefix ∧ ':' ∉ k.id

instance (k : KeyId) : Decidable k.ColonFree := inferInstanceAs (Decidable (_ ∧ _))

/-- The abstract entries written as the concrete ones: each key as its text. -/
def textEntries (l : List (Σ _ : KeyId, EncryptedKey)) : List (Σ _ : List Char, EncryptedKey) :=
  renameEntries KeyId.toString id l

/-- **The refinement relation**: the concrete map holds the abstract entries, in order, under
their texts, and every abstract key is colon-free. -/
structure Abstracts (c : InMemoryKeyStore) (a : KeyIdMap) : Prop where
  entries : c.keys_.entries = textEntries a.entries
  colonFree : ∀ k ∈ a, k.ColonFree

namespace Abstracts

variable {c : InMemoryKeyStore} {a : KeyIdMap} {k : KeyId}

/-- On colon-free keys the text is injective. -/
theorem toString_injOn (h : Abstracts c a) (hk : ':' ∉ k.id) :
    ∀ e ∈ a.entries, e.1.toString = k.toString → e.1 = k :=
  fun e he => KeyId.toString_inj (h.colonFree e.1 (AList.mem_keys.2 (List.mem_map_of_mem _ he))).2 hk

theorem lookup (h : Abstracts c a) (hk : ':' ∉ k.id) : c.keys_.lookup k.toString = a.lookup k := by
  show c.keys_.entries.dlookup _ = a.entries.dlookup _
  rw [h.entries, textEntries, dlookup_renameEntries _ _ _ (h.toString_injOn hk), Option.map_id]
  rfl

theorem mem (h : Abstracts c a) (hk : ':' ∉ k.id) : k.toString ∈ c.keys_ ↔ k ∈ a := by
  rw [← AList.lookup_isSome, ← AList.lookup_isSome, h.lookup hk]

theorem insert (h : Abstracts c a) (hk : k.ColonFree) (r : EncryptedKey) :
    Abstracts ⟨c.keys_.insert k.toString r⟩ (a.insert k r) := by
  refine ⟨?_, fun k' hk' => ?_⟩
  · simp only [AList.insert_entries, h.entries, textEntries]
    rw [kerase_renameEntries _ _ _ (h.toString_injOn hk.2)]
    rfl
  · rcases (AList.mem_insert _).1 hk' with rfl | hk'
    · exact hk
    · exact h.colonFree k' hk'

theorem erase (h : Abstracts c a) (hk : k.ColonFree) :
    Abstracts ⟨c.keys_.erase k.toString⟩ (a.erase k) := by
  refine ⟨?_, fun k' hk' => h.colonFree k' (AList.mem_erase.1 hk').2⟩
  show c.keys_.entries.kerase _ = textEntries (a.entries.kerase k)
  rw [h.entries, textEntries, kerase_renameEntries _ _ _ (h.toString_injOn hk.2)]
  rfl

theorem keys (h : Abstracts c a) : c.keys_.keys = a.keys.map KeyId.toString := by
  show c.keys_.entries.keys = a.entries.keys.map KeyId.toString
  rw [h.entries, textEntries, keys_renameEntries]

theorem list (h : Abstracts c a) (ns : List Char) :
    InMemoryKeyStore.list ns c = .ok (KeyIdMap.list ns a) := by
  simp only [InMemoryKeyStore.list, h.keys, KeyIdMap.list, List.filterMap_map]
  congr 1
  rw [← List.filterMap_eq_filter]
  refine List.filterMap_congr fun k hk => ?_
  have hc := h.colonFree k (AList.mem_keys.2 hk)
  simp [InMemoryKeyStore.listed, KeyId.parse_toString hc.1 hc.2, Option.guard]

end Abstracts

/-- **One call refines the map**: on a call whose identifier is colon-free, the in-memory store
answers as the map does and the two stay related. -/
theorem call_refines {c : InMemoryKeyStore} {a : KeyIdMap} (h : Abstracts c a) (call : StoreCall)
    (hc : ∀ k, call.id? = some k → k.ColonFree) :
    (InMemoryKeyStore.call call c).1 = (KeyIdMap.call call a).1 ∧
      Abstracts (InMemoryKeyStore.call call c).2 (KeyIdMap.call call a).2 := by
  cases call with
  | store k r => exact ⟨rfl, h.insert (hc k rfl) r⟩
  | retrieve k =>
    refine ⟨?_, h⟩
    cases hl : AList.lookup k a <;>
      simp only [InMemoryKeyStore.call, KeyIdMap.call, InMemoryKeyStore.retrieve,
        KeyIdMap.retrieve, h.lookup (hc k rfl).2, hl]
  | remove k =>
    have hm := h.mem (hc k rfl).2
    by_cases hk : k ∈ a
    · have hk' := hm.2 hk
      constructor
      · simp [InMemoryKeyStore.call, KeyIdMap.call, InMemoryKeyStore.remove, KeyIdMap.remove, hk, hk']
      · simpa [InMemoryKeyStore.call, KeyIdMap.call, InMemoryKeyStore.remove, KeyIdMap.remove, hk, hk']
          using h.erase (hc k rfl)
    · have hk' : k.toString ∉ c.keys_ := fun e => hk (hm.1 e)
      constructor
      · simp [InMemoryKeyStore.call, KeyIdMap.call, InMemoryKeyStore.remove, KeyIdMap.remove, hk, hk']
      · simpa [InMemoryKeyStore.call, KeyIdMap.call, InMemoryKeyStore.remove, KeyIdMap.remove, hk, hk']
          using h
  | exists_ k =>
    refine ⟨?_, h⟩
    simp only [InMemoryKeyStore.call, KeyIdMap.call, InMemoryKeyStore.exists_, h.mem (hc k rfl).2]
  | list ns => exact ⟨by simp [InMemoryKeyStore.call, KeyIdMap.call, h.list ns], h⟩
  | updateMetadata k md =>
    have hl := h.lookup (hc k rfl).2
    cases hk : AList.lookup k a with
    | none =>
      constructor
      · simp [InMemoryKeyStore.call, KeyIdMap.call, InMemoryKeyStore.updateMetadata,
          KeyIdMap.updateMetadata, hl, hk]
      · simpa [InMemoryKeyStore.call, KeyIdMap.call, InMemoryKeyStore.updateMetadata,
          KeyIdMap.updateMetadata, hl, hk] using h
    | some key =>
      constructor
      · simp [InMemoryKeyStore.call, KeyIdMap.call, InMemoryKeyStore.updateMetadata,
          KeyIdMap.updateMetadata, hl, hk]
      · simpa [InMemoryKeyStore.call, KeyIdMap.call, InMemoryKeyStore.updateMetadata,
          KeyIdMap.updateMetadata, hl, hk] using h.insert (hc k rfl) { key with metadata := md }

/-- **Every sequence of calls refines the map.** -/
theorem runCalls_refines : ∀ (calls : List StoreCall) (c : InMemoryKeyStore) (a : KeyIdMap),
    Abstracts c a → (∀ call ∈ calls, ∀ k, call.id? = some k → k.ColonFree) →
    (runCalls InMemoryKeyStore.call calls c).1 = (runCalls KeyIdMap.call calls a).1 ∧
      Abstracts (runCalls InMemoryKeyStore.call calls c).2 (runCalls KeyIdMap.call calls a).2
  | [], _, _, h, _ => ⟨rfl, h⟩
  | call :: calls, c, a, h, hc => by
    obtain ⟨h₁, h₂⟩ := call_refines h call (hc call (List.mem_cons_self _ _))
    obtain ⟨h₃, h₄⟩ := runCalls_refines calls _ _ h₂ fun x hx => hc x (List.mem_cons_of_mem _ hx)
    exact ⟨by simp only [runCalls, h₁, h₃], h₄⟩

theorem abstracts_empty : Abstracts ⟨∅⟩ ∅ := ⟨rfl, by simp⟩

/-- A record with no material, for the examples. -/
def blankRecord : EncryptedKey := ⟨[], [], [], Inhabited.default, KeyMetadata.default 0⟩

/-- Two identifiers with one text form share one entry, and an identifier with a colon in its
namespace is not listed: the in-memory store answers `ok` where the map keyed by `KeyId`
answers `KEY_NOT_FOUND`, and lists nothing where the map lists the stored identifier. -/
theorem inMemoryKeyStore_text_collision :
    (runCalls InMemoryKeyStore.call [.store ⟨"a:b".toList, "c".toList, 1⟩ blankRecord,
      .retrieve ⟨"a".toList, "b:c".toList, 1⟩, .list []] ⟨∅⟩).1 =
      [.unit (.ok ()), .key (.ok blankRecord), .ids (.ok [])] ∧
    (runCalls KeyIdMap.call [.store ⟨"a:b".toList, "c".toList, 1⟩ blankRecord,
      .retrieve ⟨"a".toList, "b:c".toList, 1⟩, .list []] ∅).1 =
      [.unit (.ok ()), .key (.error (InMemoryKeyStore.notFound ⟨"a".toList, "b:c".toList, 1⟩)),
        .ids (.ok [⟨"a:b".toList, "c".toList, 1⟩])] := by
  decide

/-- **The in-memory store is a map keyed by `KeyId`** on identifiers without colons: from the
empty store, every sequence of calls whose identifiers have colon-free namespaces and ids
answers exactly as the finite map keyed by `KeyId` does. -/
theorem inMemoryKeyStore_refines (calls : List StoreCall)
    (hc : ∀ call ∈ calls, ∀ k, call.id? = some k → k.ColonFree) :
    (runCalls InMemoryKeyStore.call calls ⟨∅⟩).1 = (runCalls KeyIdMap.call calls ∅).1 :=
  (runCalls_refines calls _ _ abstracts_empty hc).1

theorem inMemoryKeyStore_refines_store_retrieve :
    (∀ call ∈ [StoreCall.store ⟨"auth".toList, "k1".toList, 1⟩ blankRecord,
        .retrieve ⟨"auth".toList, "k1".toList, 1⟩, .list "auth".toList],
      ∀ k, call.id? = some k → k.ColonFree) ∧
    (runCalls InMemoryKeyStore.call [.store ⟨"auth".toList, "k1".toList, 1⟩ blankRecord,
        .retrieve ⟨"auth".toList, "k1".toList, 1⟩, .list "auth".toList] ⟨∅⟩).1 =
      (runCalls KeyIdMap.call [.store ⟨"auth".toList, "k1".toList, 1⟩ blankRecord,
        .retrieve ⟨"auth".toList, "k1".toList, 1⟩, .list "auth".toList] ∅).1 :=
  have hc : ∀ call ∈ [StoreCall.store ⟨"auth".toList, "k1".toList, 1⟩ blankRecord,
      .retrieve ⟨"auth".toList, "k1".toList, 1⟩, .list "auth".toList],
      ∀ k, call.id? = some k → k.ColonFree := by
    intro call hcall k hk
    simp only [List.mem_cons, List.mem_singleton, List.not_mem_nil, or_false] at hcall
    rcases hcall with rfl | rfl | rfl <;> cases hk <;> decide
  ⟨hc, inMemoryKeyStore_refines _ hc⟩

end CryptoService
