import Mathlib.Data.List.Lex
import Mathlib.Data.List.Sort
import Mathlib.Data.Char

/-!
# `std::map` with text keys

A `std::map<std::string, V>` is its list of entries, strictly sorted by key (`Sorted`), keys
compared as `std::string::operator<` does: lexicographically, character by character. `m[k]`
inserts a default entry where `k` is missing, so an assignment or an increment through it is
one sorted insertion that replaces an entry with the same key (`update`).

* `lookup_update_self` / `lookup_update_ne`: what an update does to a lookup;
* `sorted_update`: updates keep the entries sorted;
* `lookup_foldl_assign`: assigning entries with distinct keys leaves each key with its value;
* `eq_of_perm`: a sorted map is fixed by its entries, in whatever order they are listed;
* `lookup_erase_self` / `lookup_erase_ne`: what an erase does to a lookup.
-/

namespace CryptoService

/-- `std::string`'s `operator<`. -/
def KeyLt (s t : List Char) : Prop := List.Lex (· < ·) s t

instance : DecidableRel KeyLt := fun s t => inferInstanceAs (Decidable (List.Lex _ s t))

theorem keyLt_irrefl (s : List Char) : ¬ KeyLt s s := irrefl_of (List.Lex (· < ·)) s

theorem keyLt_trans {s t u : List Char} (h₁ : KeyLt s t) (h₂ : KeyLt t u) : KeyLt s u :=
  trans_of (List.Lex (· < ·)) h₁ h₂

theorem keyLt_asymm {s t : List Char} (h : KeyLt s t) : ¬ KeyLt t s :=
  fun h' => keyLt_irrefl s (keyLt_trans h h')

theorem keyLt_total {s t : List Char} (h : s ≠ t) : KeyLt s t ∨ KeyLt t s :=
  (trichotomous_of (List.Lex (· < · : Char → Char → Prop)) s t).imp_right fun h' => h'.resolve_left h

/-- `std::map<std::string, V>`: its entries in the order of their keys. -/
abbrev StdMap (V : Type) := List (List Char × V)

namespace StdMap

variable {V : Type}

/-- The entries strictly sorted by key. -/
def Sorted (m : StdMap V) : Prop := m.Pairwise fun a b => KeyLt a.1 b.1

instance : DecidablePred (Sorted : StdMap V → Prop) :=
  fun m => inferInstanceAs (Decidable (m.Pairwise _))

/-- `m.find(k)`. -/
def lookup (k : List Char) : StdMap V → Option V
  | [] => none
  | (k', v) :: m => if k' = k then some v else lookup k m

/-- `m[k] = f(m[k])`: `operator[]` inserts a default entry where `k` is missing, and `f` gets
the entry's value if there was one. -/
def update (k : List Char) (f : Option V → V) : StdMap V → StdMap V
  | [] => [(k, f none)]
  | (k', v') :: m =>
    if KeyLt k k' then (k, f none) :: (k', v') :: m
    else if k = k' then (k, f (some v')) :: m
    else (k', v') :: update k f m

/-- `m[k] = v`. -/
def assign (k : List Char) (v : V) (m : StdMap V) : StdMap V := update k (fun _ => v) m

theorem mem_update {k : List Char} {f : Option V → V} {m : StdMap V} {a : List Char × V}
    (h : a ∈ update k f m) : a.1 = k ∨ a ∈ m := by
  induction m with
  | nil => simp only [update, List.mem_singleton] at h; exact .inl (h ▸ rfl)
  | cons e m ih =>
    rw [update] at h
    split_ifs at h
    · rcases List.mem_cons.1 h with rfl | h
      · exact .inl rfl
      · exact .inr h
    · rcases List.mem_cons.1 h with rfl | h
      · exact .inl rfl
      · exact .inr (List.mem_cons_of_mem _ h)
    · rcases List.mem_cons.1 h with rfl | h
      · exact .inr (List.mem_cons_self _ _)
      · exact (ih h).imp_right (List.mem_cons_of_mem _)

theorem sorted_update (k : List Char) (f : Option V → V) {m : StdMap V} (hs : Sorted m) :
    Sorted (update k f m) := by
  induction m with
  | nil => exact List.pairwise_singleton _ _
  | cons e m ih =>
    obtain ⟨k', v'⟩ := e
    have hs' := List.pairwise_cons.1 hs
    rw [update]
    split_ifs with h₁ h₂
    · exact List.Pairwise.cons (fun a ha => (List.mem_cons.1 ha).elim (fun e => e ▸ h₁)
        fun ha => keyLt_trans h₁ (hs'.1 a ha)) hs
    · subst h₂; exact hs'.2.cons fun a ha => hs'.1 a ha
    · refine (ih hs'.2).cons fun a ha => ?_
      rcases mem_update ha with ha | ha
      · rw [ha]; exact (keyLt_total (Ne.symm h₂)).resolve_right h₁
      · exact hs'.1 a ha

/-- In a sorted map, a key smaller than the first one is not there. -/
theorem lookup_of_lt {k k' : List Char} {v' : V} {m : StdMap V} (hs : Sorted ((k', v') :: m))
    (h : KeyLt k k') : lookup k ((k', v') :: m) = none := by
  induction m generalizing k' v' with
  | nil => rw [lookup, if_neg fun (h' : k' = k) => keyLt_irrefl k (h' ▸ h)]; rfl
  | cons e m ih =>
    have hs' := List.pairwise_cons.1 hs
    rw [lookup, if_neg fun (h' : k' = k) => keyLt_irrefl k (h' ▸ h)]
    exact ih (show Sorted ((e.1, e.2) :: m) from hs'.2)
      (keyLt_trans h (hs'.1 e (List.mem_cons_self _ _)))

theorem lookup_update_self (k : List Char) (f : Option V → V) {m : StdMap V} (hs : Sorted m) :
    lookup k (update k f m) = some (f (lookup k m)) := by
  induction m with
  | nil => simp [update, lookup]
  | cons e m ih =>
    obtain ⟨k', v'⟩ := e
    rw [update]
    split_ifs with h₁ h₂
    · rw [lookup_of_lt hs h₁]; simp [lookup]
    · subst h₂; simp [lookup]
    · simp [lookup, Ne.symm h₂, ih (List.pairwise_cons.1 hs).2]

theorem lookup_update_ne {k k' : List Char} (h : k' ≠ k) (f : Option V → V) (m : StdMap V) :
    lookup k' (update k f m) = lookup k' m := by
  induction m with
  | nil => simp [update, lookup, Ne.symm h]
  | cons e m ih =>
    obtain ⟨k'', v''⟩ := e
    rw [update]
    split_ifs with h₁ h₂
    · simp [lookup, Ne.symm h]
    · subst h₂; simp [lookup, Ne.symm h]
    · by_cases hk : k'' = k' <;> simp [lookup, hk, ih]

theorem mem_of_lookup {m : StdMap V} {k : List Char} {v : V} (h : lookup k m = some v) :
    (k, v) ∈ m := by
  induction m with
  | nil => cases h
  | cons e m ih =>
    rw [lookup] at h
    split_ifs at h with hk
    · cases h; subst hk; exact List.mem_cons_self _ _
    · exact List.mem_cons_of_mem _ (ih h)

/-- The keys of a sorted map are distinct. -/
theorem keys_nodup {m : StdMap V} (hs : Sorted m) : (m.map Prod.fst).Nodup :=
  List.pairwise_map.2 (hs.imp fun {a b} h (e : a.1 = b.1) => keyLt_irrefl b.1 (by rwa [e] at h))

/-- With distinct keys, a map holds an entry exactly when its lookup finds it. -/
theorem mem_iff_lookup {m : StdMap V} (hd : (m.map Prod.fst).Nodup) {k : List Char} {v : V} :
    (k, v) ∈ m ↔ lookup k m = some v := by
  induction m with
  | nil => simp [lookup]
  | cons e m ih =>
    obtain ⟨k', v'⟩ := e
    simp only [List.map_cons, List.nodup_cons] at hd
    by_cases hk : k' = k
    · subst hk
      have hnot : (k', v) ∉ m := fun hm => hd.1 (List.mem_map.2 ⟨_, hm, rfl⟩)
      simp [lookup, hnot, eq_comm]
    · simp [lookup, hk, ih hd.2, Ne.symm hk]

/-- **A sorted map is fixed by its entries**: two sorted maps that list the same entries are
equal. -/
theorem eq_of_perm {m m' : StdMap V} (hp : m.Perm m') (hs : Sorted m) (hs' : Sorted m') :
    m = m' := by
  haveI : IsAntisymm (List Char × V) fun a b => KeyLt a.1 b.1 :=
    ⟨fun _ _ h h' => absurd h' (keyLt_asymm h)⟩
  exact List.eq_of_perm_of_sorted hp hs hs'

theorem sorted_foldl_assign (es : StdMap V) {m : StdMap V} (hs : Sorted m) :
    Sorted (es.foldl (fun m e => assign e.1 e.2 m) m) := by
  induction es generalizing m with
  | nil => exact hs
  | cons e es ih => exact ih (sorted_update _ _ hs)

/-- Assigning entries with distinct keys, one after the other, leaves each key with its value
and every other key as it was. -/
theorem lookup_foldl_assign {es : StdMap V} (hd : (es.map Prod.fst).Nodup) {m : StdMap V}
    (hs : Sorted m) (k : List Char) :
    lookup k (es.foldl (fun m e => assign e.1 e.2 m) m) =
      match lookup k es with
      | some v => some v
      | none => lookup k m := by
  induction es generalizing m with
  | nil => simp [lookup]
  | cons e es ih =>
    obtain ⟨k', v'⟩ := e
    simp only [List.map_cons, List.nodup_cons] at hd
    rw [List.foldl_cons, ih hd.2 (m := assign k' v' m) (sorted_update _ _ hs)]
    by_cases hk : k' = k
    · subst hk
      have hnone : lookup k' es = none := by
        rcases h : lookup k' es with _ | v
        · rfl
        · exact absurd (List.mem_map.2 ⟨(k', v), mem_of_lookup h, rfl⟩) hd.1
      simp [hnone, lookup, assign, lookup_update_self _ _ hs]
    · simp only [lookup, if_neg hk, assign, lookup_update_ne (Ne.symm hk)]

/-- `m.erase(k)`: the entry with key `k`, if there is one, is removed. -/
def erase (k : List Char) : StdMap V → StdMap V
  | [] => []
  | (k', v) :: m => if k' = k then m else (k', v) :: erase k m

theorem erase_sublist (k : List Char) (m : StdMap V) : (erase k m).Sublist m := by
  induction m with
  | nil => exact List.Sublist.slnil
  | cons e m ih =>
    obtain ⟨k', v⟩ := e
    rw [erase]
    split
    · exact List.sublist_cons_self _ _
    · exact ih.cons₂ _

theorem sorted_erase (k : List Char) {m : StdMap V} (hs : Sorted m) : Sorted (erase k m) :=
  hs.sublist (erase_sublist k m)

/-- In a sorted map, the key of the first entry occurs nowhere after it. -/
theorem lookup_tail_of_sorted {k : List Char} {v : V} {m : StdMap V}
    (hs : Sorted ((k, v) :: m)) : lookup k m = none := by
  rcases h : lookup k m with _ | v'
  · rfl
  · exact absurd (mem_of_lookup h) fun hm => keyLt_irrefl k (List.rel_of_pairwise_cons hs hm)

theorem lookup_erase_self (k : List Char) {m : StdMap V} (hs : Sorted m) :
    lookup k (erase k m) = none := by
  induction m with
  | nil => rfl
  | cons e m ih =>
    obtain ⟨k', v⟩ := e
    rw [erase]
    split
    · subst k'; exact lookup_tail_of_sorted hs
    · rw [lookup, if_neg ‹_›]; exact ih (List.pairwise_cons.1 hs).2

theorem lookup_erase_ne {k k' : List Char} (h : k' ≠ k) (m : StdMap V) :
    lookup k' (erase k m) = lookup k' m := by
  induction m with
  | nil => rfl
  | cons e m ih =>
    obtain ⟨k'', v⟩ := e
    rw [erase]
    split
    · subst k''; rw [lookup, if_neg (Ne.symm h)]
    · simp only [lookup, ih]

end StdMap

end CryptoService
