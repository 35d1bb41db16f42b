import CryptoService.Keys.KeyTypes
import CryptoService.Common.StdMap

/-!
# The in-memory audit log and its queries

`InMemoryAuditLogger` of `crypto/audit/audit_logger.cpp` keeps the entries it is given, in
order (`logOperation`); `query` keeps those that pass the query's filters and then cuts a page
out of them with `offset` and `limit`, two `size_t`s (64 bits). The end of the page is
`offset + limit` computed in `size_t`, so modulo 2^64; where it wraps, `start + query.limit`
points past the end of the vector and the behaviour of the code is undefined (`none`).

* `query_pagination`: for every log and every query, the page is exactly the filtered entries
  with indices in `[offset, min(offset + limit, n))`, the sum taken over the integers, whenever
  `offset + limit` stays below 2^64 or the offset is past the filtered entries; when the sum
  reaches 2^64 and the offset is inside, the query's behaviour is undefined.
-/

namespace CryptoService

/-- `crypto::AuditOperation`. -/
inductive AuditOperation
  | ENCRYPT | DECRYPT | RSA_ENCRYPT | RSA_DECRYPT | SIGN | VERIFY
  | KEY_GENERATE | KEY_ROTATE | KEY_DELETE | KEY_ACCESS | FILE_ENCRYPT | FILE_DECRYPT
  deriving DecidableEq, Repr

/-- `crypto::AuditEntry`. The metadata is the `std::map`'s entries in the order of their keys. -/
structure AuditEntry where
  correlation_id : List Char
  timestamp : ℤ
  operation : AuditOperation
  key_id : KeyId
  caller_identity : List Char
  caller_service : List Char
  success : Bool
  error_code : Option (List Char)
  source_ip : List Char
  metadata : StdMap (List Char)
  deriving DecidableEq, Repr

/-- `crypto::AuditQuery`, with its defaults. -/
structure AuditQuery where
  start_time : Option ℤ := none
  end_time : Option ℤ := none
  operation : Option AuditOperation := none
  key_id : Option KeyId := none
  caller_identity : Option (List Char) := none
  success : Option Bool := none
  limit : UInt64 := 100
  offset : UInt64 := 0
  deriving DecidableEq, Repr

/-- The filters of `InMemoryAuditLogger::query`: a set field of the query that rules the entry
out makes the loop `continue`. -/
def AuditQuery.skips (query : AuditQuery) (entry : AuditEntry) : Bool :=
  query.start_time.any (entry.timestamp < ·) || query.end_time.any (entry.timestamp > ·) ||
    query.operation.any (entry.operation != ·) || query.key_id.any (entry.key_id != ·) ||
    query.caller_identity.any (entry.caller_identity != ·) ||
    query.success.any (entry.success != ·)

/-- The pagination of `InMemoryAuditLogger::query` on the filtered `results`: `start` is
`results.begin() + offset`, and the end is `start + limit` when `offset + limit`, in `size_t`,
is below the size, else `results.end()`. `start + limit` past the end of the vector is
undefined (`none`). -/
def paginate {α : Type} (offset limit : UInt64) (results : List α) : Option (List α) :=
  if offset.toNat < results.length then
    if (offset + limit).toNat < results.length then
      if offset.toNat + limit.toNat ≤ results.length then
        some ((results.drop offset.toNat).take limit.toNat)
      else none
    else some (results.drop offset.toNat)
  else some []

/-- `crypto::InMemoryAuditLogger`: its entries, in the order they were logged. -/
structure InMemoryAuditLogger where
  entries_ : List AuditEntry
  deriving DecidableEq, Repr

namespace InMemoryAuditLogger

/-- `logOperation(entry)`. -/
def logOperation (l : InMemoryAuditLogger) (entry : AuditEntry) : InMemoryAuditLogger :=
  ⟨l.entries_ ++ [entry]⟩

/-- `query(query)`: the entries that pass the filters, in log order, then the page. -/
def query (l : InMemoryAuditLogger) (query : AuditQuery) : Option (Result (List AuditEntry)) :=
  (paginate query.offset query.limit (l.entries_.filter fun entry => !query.skips entry)).map .ok

theorem entries_foldl_logOperation (es : List AuditEntry) (l : InMemoryAuditLogger) :
    (es.foldl logOperation l).entries_ = l.entries_ ++ es := by
  induction es generalizing l with
  | nil => simp
  | cons e es ih => simp [ih, logOperation]

end InMemoryAuditLogger

/-! ## Pagination -/

section Paginate

variable {α : Type} (offset limit : UInt64) (results : List α)

theorem uint64_toNat_add (a b : UInt64) : (a + b).toNat = (a.toNat + b.toNat) % 2 ^ 64 :=
  BitVec.toNat_add _ _

/-- Without a wrap, or from an offset past the end, the page is the entries from `offset` on,
at most `limit` of them. -/
theorem paginate_of_no_wrap
    (h : offset.toNat + limit.toNat < 2 ^ 64 ∨ results.length ≤ offset.toNat) :
    paginate offset limit results = some ((results.drop offset.toNat).take limit.toNat) := by
  unfold paginate
  split_ifs with h₁ h₂ h₃
  · rfl
  · rw [uint64_toNat_add] at h₂
    omega
  · rw [List.take_of_length_le
      (by simp only [List.length_drop]; rw [uint64_toNat_add] at h₂; omega)]
  · rw [List.drop_eq_nil_of_le (by omega), List.take_nil]

/-- When `offset + limit` wraps from an offset inside a vector, the end points past it. -/
theorem paginate_of_wrap (h : 2 ^ 64 ≤ offset.toNat + limit.toNat)
    (hn : results.length < 2 ^ 64) (ho : offset.toNat < results.length) :
    paginate offset limit results = none := by
  have hw : (offset + limit).toNat < results.length := by
    have : offset.toNat < 2 ^ 64 := offset.toNat_lt_size
    have : limit.toNat < 2 ^ 64 := limit.toNat_lt_size
    rw [uint64_toNat_add]
    omega
  rw [paginate, if_pos ho, if_pos hw, if_neg (by omega)]

end Paginate

/-- **Pagination is exact until the end index wraps.** For every sequence of logged entries and
every query, with `results` the entries that pass the filters: when `offset + limit` is below
2^64, or the offset is past the results, the query returns exactly the results from `offset` on,
at most `limit` of them, i.e. those with indices in `[offset, min(offset + limit, n))`; when
`offset + limit` reaches 2^64 and the offset is inside the results (of a log that fits in memory,
fewer than 2^64 entries), the query's behaviour is undefined. -/
theorem query_pagination (entries : List AuditEntry) (query : AuditQuery) :
    let results := entries.filter fun entry => !query.skips entry
    let l := entries.foldl InMemoryAuditLogger.logOperation ⟨[]⟩
    ((query.offset.toNat + query.limit.toNat < 2 ^ 64 ∨ results.length ≤ query.offset.toNat) →
      l.query query = some (.ok ((results.drop query.offset.toNat).take query.limit.toNat))) ∧
    (2 ^ 64 ≤ query.offset.toNat + query.limit.toNat → entries.length < 2 ^ 64 →
      query.offset.toNat < results.length → l.query query = none) := by
  simp only [InMemoryAuditLogger.query, InMemoryAuditLogger.entries_foldl_logOperation,
    List.nil_append]
  refine ⟨fun h => by rw [paginate_of_no_wrap _ _ _ h]; rfl, fun h hn ho => ?_⟩
  rw [paginate_of_wrap _ _ _ h ((List.length_filter_le _ _).trans_lt hn) ho]
  rfl

/-- Two logged entries and a query from offset 1 with limit 2^64 − 1: the end index wraps to 0,
below the size, and `start + limit` runs past the vector. -/
theorem query_pagination_wrap :
    (2 ^ 64 ≤ (1 : UInt64).toNat + (0xFFFFFFFFFFFFFFFF : UInt64).toNat ∧
      (List.replicate 2 (⟨[], 0, .ENCRYPT, default, [], [], true, none, [], []⟩ : AuditEntry)).length <
        2 ^ 64 ∧
      (1 : UInt64).toNat < ((List.replicate 2 (⟨[], 0, .ENCRYPT, default, [], [], true, none, [], []⟩ :
        AuditEntry)).filter fun entry =>
          !({ offset := 1, limit := 0xFFFFFFFFFFFFFFFF } : AuditQuery).skips entry).length) ∧
    ((List.replicate 2 (⟨[], 0, .ENCRYPT, default, [], [], true, none, [], []⟩ : AuditEntry)).foldl
      InMemoryAuditLogger.logOperation ⟨[]⟩).query { offset := 1, limit := 0xFFFFFFFFFFFFFFFF } =
      none :=
  ⟨by decide, (query_pagination _ _).2 (by decide) (by decide) (by decide)⟩

end CryptoService
