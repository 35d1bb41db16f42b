import CryptoService.Clients.CacheClient

/-!
# Runs of the cache client, with a clock

A run of `CacheClient` is a sequence of calls, with what the environment supplies: the IV each
write's encryption draws, the TTL the caller passes to `set`, and the time that passes between
calls (`wait`). The client keeps no clock and passes the TTL nowhere (the remote tier is a
`TODO`), so time changes nothing it answers.

* `get_returns_last_set`: after a successful `set(key, v)`, through any calls that do not write
  `key` again, a `get(key)` that finds the key resident returns `v`, with or without an
  encryption key;
* `get_after_ttl`: in particular, through any lookups and any waiting, however long past the
  TTL, the key stays resident and `get` keeps returning `v`.
-/

namespace CryptoService

/-- A call on the cache client, or time passing. -/
inductive CacheOp
  | get (key : List Char)
  | set (key : List Char) (value : Bytes) (ttl : Option ℕ) (ivDraw : Option (Fixed 12))
  | del (key : List Char)
  | clear
  | wait (seconds : ℕ)

/-- A call that writes `key`. -/
def CacheOp.writes (key : List Char) : CacheOp → Prop
  | .set k _ _ _ => k = key
  | _ => False

/-- A call that leaves every entry in place: a lookup or time passing. -/
def CacheOp.readsOrWaits : CacheOp → Prop
  | .get _ | .wait _ => True
  | _ => False

/-- The client and the clock, in seconds. -/
structure TimedClient where
  client : CacheClient
  now : ℕ

namespace TimedClient

variable (A : Aead)

/-- One call: a lookup answers, the other calls answer nothing. -/
def step : CacheOp → TimedClient → Option (Except CacheError Bytes) × TimedClient
  | .get k, s => (some (CacheClient.get A k s.client).1,
      { s with client := (CacheClient.get A k s.client).2 })
  | .set k v _ d, s => (none, { s with client := (CacheClient.set A k v d s.client).2 })
  | .del k, s => (none, { s with client := (CacheClient.del k s.client).2 })
  | .clear, s => (none, { s with client := CacheClient.clear_local_cache s.client })
  | .wait dt, s => (none, { s with now := s.now + dt })

/-- A sequence of calls: the answers, and the final client and clock. -/
def run : List CacheOp → TimedClient → List (Option (Except CacheError Bytes)) × TimedClient
  | [], s => ([], s)
  | op :: ops, s => ((step A op s).1 :: (run ops (step A op s).2).1, (run ops (step A op s).2).2)

@[simp] theorem config_step (op : CacheOp) (s : TimedClient) :
    (step A op s).2.client.config = s.client.config := by
  cases op <;> simp [step]

/-- A call that does not write `key` keeps its entry or drops it. -/
theorem entry_step {op : CacheOp} {key : List Char} (hop : ¬ op.writes key) (s : TimedClient) :
    CacheClient.entry (step A op s).2.client key = none ∨
      CacheClient.entry (step A op s).2.client key = CacheClient.entry s.client key := by
  cases op with
  | get k => exact .inr (CacheClient.entry_get A k key s.client)
  | set k v _ d =>
    rcases h : CacheClient.entry (step A (.set k v _ d) s).2.client key with _ | e
    · exact .inl rfl
    · rcases CacheClient.entry_set A h with ⟨rfl, -⟩ | h'
      · exact absurd rfl hop
      · exact .inr h'.symm
  | del k =>
    rcases h : CacheClient.entry (step A (.del k) s).2.client key with _ | e
    · exact .inl rfl
    · exact .inr (CacheClient.entry_of_del h).2.symm
  | clear => exact .inl (CacheClient.entry_clear_local_cache _ _)
  | wait _ => exact .inr rfl

/-- A lookup or time passing keeps every entry. -/
theorem entry_step_of_readsOrWaits {op : CacheOp} (hop : op.readsOrWaits) (s : TimedClient)
    (key : List Char) :
    CacheClient.entry (step A op s).2.client key = CacheClient.entry s.client key := by
  cases op with
  | get k => exact CacheClient.entry_get A k key s.client
  | wait _ => rfl
  | _ => exact hop.elim

@[simp] theorem config_run (ops : List CacheOp) (s : TimedClient) :
    (run A ops s).2.client.config = s.client.config := by
  induction ops generalizing s with
  | nil => rfl
  | cons op ops ih => rw [run, ih, config_step]

/-- Through calls that do not write `key`, its entry is kept or dropped. -/
theorem entry_run {key : List Char} {ops : List CacheOp} (hops : ∀ op ∈ ops, ¬ op.writes key)
    (s : TimedClient) :
    CacheClient.entry (run A ops s).2.client key = none ∨
      CacheClient.entry (run A ops s).2.client key = CacheClient.entry s.client key := by
  induction ops generalizing s with
  | nil => exact .inr rfl
  | cons op ops ih =>
    rcases ih (fun o ho => hops o (List.mem_cons_of_mem _ ho)) (step A op s).2 with h | h
    · exact .inl h
    · rcases entry_step A (hops op (List.mem_cons_self _ _)) s with h' | h'
      · exact .inl (h.trans h')
      · exact .inr (h.trans h')

/-- Through lookups and waiting, every entry is kept. -/
theorem entry_run_of_readsOrWaits {ops : List CacheOp} (hops : ∀ op ∈ ops, op.readsOrWaits)
    (s : TimedClient) (key : List Char) :
    CacheClient.entry (run A ops s).2.client key = CacheClient.entry s.client key := by
  induction ops generalizing s with
  | nil => rfl
  | cons op ops ih =>
    rw [run, ih (fun o ho => hops o (List.mem_cons_of_mem _ ho)),
      entry_step_of_readsOrWaits A (hops op (List.mem_cons_self _ _))]

/-- **A resident key reads back its last write.** After a successful `set(key, v)`, through any
calls that do not write `key` again, a `get(key)` that finds the key in the local tier returns
exactly `v`: the `IV ‖ ciphertext ‖ tag` framing splits back for every length of `v`, and
without an encryption key the value is stored as it is. -/
theorem get_returns_last_set {s : TimedClient} {key : List Char} {v : Bytes} {ttl : Option ℕ}
    {d : Option (Fixed 12)} (hs : (CacheClient.set A key v d s.client).1 = .ok ())
    {ops : List CacheOp} (hops : ∀ op ∈ ops, ¬ op.writes key)
    (hres : CacheClient.entry (run A ops (step A (.set key v ttl d) s).2).2.client key ≠ none) :
    (CacheClient.get A key (run A ops (step A (.set key v ttl d) s).2).2.client).1 = .ok v := by
  have hend := (entry_run A hops (step A (.set key v ttl d) s).2).resolve_left hres
  obtain ⟨e, he, hentry⟩ := CacheClient.entry_set_self A
    (CacheClient.isSome_of_entry_set A (hend ▸ hres)) hs
  exact CacheClient.get_of_entry A (hend.trans hentry) (by rw [config_run, config_step]; exact he)

/-- Under an encryption key: a value written, then another key written and read, and the value
reads back. -/
theorem get_returns_last_set_sealed :
    (CacheClient.get checksumAead "k".toList (run checksumAead
      [.set "j".toList [9] none (some ⟨List.replicate 12 1, rfl⟩), .get "j".toList]
      (step checksumAead (.set "k".toList [1, 2, 3] none (some ⟨List.replicate 12 0, rfl⟩))
        ⟨CacheClient.create { encryption_key := some ⟨List.replicate 32 0, rfl⟩ }, 0⟩).2).2.client).1 =
      .ok [1, 2, 3] :=
  get_returns_last_set checksumAead (by rfl) (by simp [CacheOp.writes]) (by decide)

/-- **Entries never expire.** After a successful `set(key, v, ttl)` on a client with a local
tier, through any lookups and any time passing, however far past the TTL, `get(key)` still
returns `v`. -/
theorem get_after_ttl {s : TimedClient} {key : List Char} {v : Bytes} {ttl : Option ℕ}
    {d : Option (Fixed 12)} (hl : s.client.local_cache.isSome)
    (hs : (CacheClient.set A key v d s.client).1 = .ok ()) {ops : List CacheOp}
    (hops : ∀ op ∈ ops, op.readsOrWaits) :
    (CacheClient.get A key (run A ops (step A (.set key v ttl d) s).2).2.client).1 = .ok v := by
  obtain ⟨e, he, hentry⟩ := CacheClient.entry_set_self A hl hs
  refine CacheClient.get_of_entry A ?_ (by rw [config_run, config_step]; exact he)
  exact (entry_run_of_readsOrWaits A hops _ key).trans hentry

/-- A value written at time `0` with a TTL of 300 seconds is still returned at time 301. -/
theorem get_after_ttl_sample :
    (run checksumAead [.set "k".toList [7] (some 300) none, .wait 301, .get "k".toList]
      ⟨CacheClient.create {}, 0⟩).2.now = 301 ∧
    (CacheClient.get checksumAead "k".toList (run checksumAead [.wait 301]
      (step checksumAead (.set "k".toList [7] (some 300) none) ⟨CacheClient.create {}, 0⟩).2).2.client).1 =
      .ok [7] :=
  ⟨rfl, get_after_ttl checksumAead (s := ⟨CacheClient.create {}, 0⟩) rfl rfl
    (by simp [CacheOp.readsOrWaits])⟩

end TimedClient

end CryptoService
