import CryptoService.Common.Strings
import Mathlib.Data.List.Dedup

/-!
# Error counters of the Prometheus exporter

`PrometheusExporter` of `crypto/metrics/prometheus_exporter.cpp` counts errors in two
`std::unordered_map`s of `Counter`s, one keyed by `ErrorCode` and a legacy one keyed by an error
type text, and `serialize()` writes one `crypto_errors_total` sample line per entry. A map is a
list of entries; `std::unordered_map` does not say in which order it iterates, so the model keeps
the order in which keys first came, and nothing proved about the text depends on that order.

* `Tally` is the invariant of a counter map: each key recorded once, and its counter the number
  of increments of that key (a `std::atomic<uint64_t>`, so modulo 2^64). `Tally.increment` is one
  `counters[key].increment()`, `Tally.foldl` a whole run.
* `readSamples` reads a text as a reader of the Prometheus text format does: one sample per line,
  comment lines skipped, a label value running to its first unescaped quote.
  `readSamples_serializeErrors` reads the error block back entry by entry when no type text holds
  a character that the format requires escaped.
* `error_samples_of_run`: after any sequence of `recordError` calls the maps hold exactly one
  counter per distinct code and per distinct type, with the number of calls; the text reads back
  as exactly those samples when no type text needs escaping. The exporter escapes nothing: a type
  text with a quote and a line feed writes sample lines of its own choosing.

The exporter's other metrics (operation counters, latency histograms and connection gauges) are
written before and after the error block and do not read the error maps; of them only the
histograms are modelled, in their own module.
-/

namespace CryptoService

/-- `error_code_to_string` of `crypto/common/result.h`. Every code of the enumeration has its own
case, so the `default` branch (`"UNKNOWN"`) cannot be taken. -/
def error_code_to_string : ErrorCode → List Char
  | .OK => "OK".toList
  | .UNKNOWN_ERROR => "UNKNOWN_ERROR".toList
  | .INVALID_INPUT => "INVALID_INPUT".toList
  | .INTERNAL_ERROR => "INTERNAL_ERROR".toList
  | .CRYPTO_ERROR => "CRYPTO_ERROR".toList
  | .INVALID_KEY_SIZE => "INVALID_KEY_SIZE".toList
  | .INVALID_IV_SIZE => "INVALID_IV_SIZE".toList
  | .INVALID_TAG_SIZE => "INVALID_TAG_SIZE".toList
  | .INTEGRITY_ERROR => "INTEGRITY_ERROR".toList
  | .PADDING_ERROR => "PADDING_ERROR".toList
  | .KEY_GENERATION_FAILED => "KEY_GENERATION_FAILED".toList
  | .INVALID_KEY_TYPE => "INVALID_KEY_TYPE".toList
  | .SIZE_LIMIT_EXCEEDED => "SIZE_LIMIT_EXCEEDED".toList
  | .SIGNATURE_INVALID => "SIGNATURE_INVALID".toList
  | .ENCRYPTION_FAILED => "ENCRYPTION_FAILED".toList
  | .DECRYPTION_FAILED => "DECRYPTION_FAILED".toList
  | .KEY_NOT_FOUND => "KEY_NOT_FOUND".toList
  | .KEY_DEPRECATED => "KEY_DEPRECATED".toList
  | .KEY_ROTATION_FAILED => "KEY_ROTATION_FAILED".toList
  | .KEY_EXPIRED => "KEY_EXPIRED".toList
  | .KEY_INVALID_STATE => "KEY_INVALID_STATE".toList
  | .AUTHENTICATION_FAILED => "AUTHENTICATION_FAILED".toList
  | .AUTHORIZATION_FAILED => "AUTHORIZATION_FAILED".toList
  | .PERMISSION_DENIED => "PERMISSION_DENIED".toList
  | .SERVICE_UNAVAILABLE => "SERVICE_UNAVAILABLE".toList
  | .TIMEOUT => "TIMEOUT".toList
  | .NOT_FOUND => "NOT_FOUND".toList
  | .KMS_UNAVAILABLE => "KMS_UNAVAILABLE".toList
  | .CACHE_MISS => "CACHE_MISS".toList
  | .CACHE_ERROR => "CACHE_ERROR".toList
  | .CACHE_UNAVAILABLE => "CACHE_UNAVAILABLE".toList
  | .LOGGING_ERROR => "LOGGING_ERROR".toList
  | .LOGGING_UNAVAILABLE => "LOGGING_UNAVAILABLE".toList
  | .CONFIG_ERROR => "CONFIG_ERROR".toList
  | .CONFIG_MISSING => "CONFIG_MISSING".toList
  | .CONFIG_INVALID => "CONFIG_INVALID".toList
  | .AUDIT_LOG_FAILED => "AUDIT_LOG_FAILED".toList

/-- `Counter`: a `std::atomic<uint64_t>`. -/
@[ext]
structure Counter where
  value_ : UInt64
  deriving DecidableEq, Repr

namespace Counter

/-- `Counter::increment(value)`: `fetch_add`, modulo 2^64. -/
def increment (c : Counter) (value : UInt64) : Counter := ⟨c.value_ + value⟩

/-- `Counter::serialize(name, labels)`. -/
def serialize (c : Counter) (name labels : List Char) : List Char :=
  name ++ (if labels.isEmpty then [] else '\x7b' :: labels ++ ['\x7d']) ++
    ' ' :: (toDecimal c.value_.toNat ++ ['\n'])

end Counter

/-- `counters[key].increment()` on a `std::unordered_map<K, Counter>`: `operator[]` adds a zero
counter for a key it does not hold (here after the others), and the counter goes up by one. -/
def incrementAt {K : Type} [DecidableEq K] (key : K) : List (K × Counter) → List (K × Counter)
  | [] => [(key, Counter.increment ⟨0⟩ 1)]
  | (k, c) :: m => if k = key then (k, c.increment 1) :: m else (k, c) :: incrementAt key m

/-- The error counters of `PrometheusExporter`. -/
structure PrometheusExporter where
  error_code_counters_ : List (ErrorCode × Counter)
  error_counters_ : List (List Char × Counter)
  deriving DecidableEq, Repr

/-- One call of `PrometheusExporter::recordError`, by each of its three overloads. -/
inductive ErrorCall
  | code (code : ErrorCode)
  | error (error : Error)
  | type (error_type : List Char)
  deriving DecidableEq, Repr

namespace ErrorCall

/-- The code a call is counted under. -/
def code? : ErrorCall → Option ErrorCode
  | .code c => some c
  | .error e => some e.code
  | .type _ => none

/-- The legacy type a call is counted under. -/
def type? : ErrorCall → Option (List Char)
  | .type t => some t
  | _ => none

end ErrorCall

namespace PrometheusExporter

/-- A new exporter: both error maps empty. -/
def create : PrometheusExporter := ⟨[], []⟩

/-- `recordError(ErrorCode code)`. -/
def recordError (e : PrometheusExporter) (code : ErrorCode) : PrometheusExporter :=
  { e with error_code_counters_ := incrementAt code e.error_code_counters_ }

/-- `recordError(const std::string& error_type)`, the legacy counters. -/
def recordErrorType (e : PrometheusExporter) (error_type : List Char) : PrometheusExporter :=
  { e with error_counters_ := incrementAt error_type e.error_counters_ }

/-- `recordError(const Error& error)`: counted under its code. -/
def recordErrorOf (e : PrometheusExporter) (error : Error) : PrometheusExporter :=
  e.recordError error.code

/-- The name of every error sample. -/
def errorsName : List Char := "crypto_errors_total".toList

/-- `counter.serialize("crypto_errors_total", label + "=\"" + value + "\"")`, the line of one
entry of either map. -/
def sampleLine (label value : List Char) (c : Counter) : List Char :=
  c.serialize errorsName (label ++ "=\"".toList ++ value ++ ['"'])

/-- The line of a code's counter, its value `error_code_to_string(code)`. -/
def codeLine (p : ErrorCode × Counter) : List Char :=
  sampleLine "error_code".toList (error_code_to_string p.1) p.2

/-- The line of a legacy type's counter, its value the type text as recorded. -/
def typeLine (p : List Char × Counter) : List Char :=
  sampleLine "error_type".toList p.1 p.2

/-- The error block of `PrometheusExporter::serialize()`. -/
def serializeErrors (e : PrometheusExporter) : List Char :=
  (if e.error_code_counters_.isEmpty then [] else
    "# HELP crypto_errors_total Total errors by error_code\n".toList ++
      "# TYPE crypto_errors_total counter\n".toList ++ (e.error_code_counters_.map codeLine).flatten) ++
  (if e.error_counters_.isEmpty then [] else (e.error_counters_.map typeLine).flatten)

/-- One call. -/
def record (e : PrometheusExporter) : ErrorCall → PrometheusExporter
  | .code c => e.recordError c
  | .error err => e.recordErrorOf err
  | .type t => e.recordErrorType t

/-- A sequence of calls. -/
def run (calls : List ErrorCall) (e : PrometheusExporter) : PrometheusExporter :=
  calls.foldl record e

end PrometheusExporter

/-! ## Counter maps -/

section Tally

variable {K : Type} [DecidableEq K]

/-- The keys of a counter map. -/
abbrev keysOf (m : List (K × Counter)) : List K := m.map Prod.fst

theorem keysOf_incrementAt (key : K) (m : List (K × Counter)) :
    keysOf (incrementAt key m) = if key ∈ keysOf m then keysOf m else keysOf m ++ [key] := by
  induction m with
  | nil => rfl
  | cons p m ih =>
    obtain ⟨k, c⟩ := p
    by_cases hk : k = key
    · subst hk
      simp only [incrementAt, if_true, keysOf, List.map_cons, List.mem_cons_self]
    · rw [incrementAt, if_neg hk]
      simp only [keysOf, List.map_cons, List.mem_cons, Ne.symm hk, false_or] at ih ⊢
      rw [ih]
      split_ifs <;> rfl

/-- An entry after an increment is one that was there under another key, or the key's counter,
one more than it was (or than zero, for a new key). -/
theorem mem_incrementAt {key : K} {m : List (K × Counter)} (hm : (keysOf m).Nodup)
    {p : K × Counter} (hp : p ∈ incrementAt key m) :
    (p.1 ≠ key ∧ p ∈ m) ∨
      ∃ c : Counter, p = (key, c.increment 1) ∧ ((key, c) ∈ m ∨ key ∉ keysOf m ∧ c = ⟨0⟩) := by
  induction m with
  | nil => exact .inr ⟨⟨0⟩, List.mem_singleton.1 hp, .inr ⟨List.not_mem_nil _, rfl⟩⟩
  | cons q m ih =>
    obtain ⟨k, c⟩ := q
    simp only [keysOf, List.map_cons, List.nodup_cons] at hm
    by_cases hk : k = key
    · subst hk
      simp only [incrementAt, if_true, List.mem_cons] at hp
      rcases hp with rfl | hp
      · exact .inr ⟨c, rfl, .inl (List.mem_cons_self _ _)⟩
      · exact .inl ⟨fun h => hm.1 (h ▸ List.mem_map_of_mem Prod.fst hp), List.mem_cons_of_mem _ hp⟩
    · simp only [incrementAt, hk, if_false, List.mem_cons] at hp
      rcases hp with rfl | hp
      · exact .inl ⟨hk, List.mem_cons_self _ _⟩
      · rcases ih hm.2 hp with ⟨hne, hpm⟩ | ⟨c', rfl, hc'⟩
        · exact .inl ⟨hne, List.mem_cons_of_mem _ hpm⟩
        · refine .inr ⟨c', rfl, ?_⟩
          rcases hc' with hc' | ⟨hk', rfl⟩
          · exact .inl (List.mem_cons_of_mem _ hc')
          · exact .inr ⟨List.not_mem_cons_of_ne_of_not_mem (Ne.symm hk) hk', rfl⟩

/-- A counter map holds the tally of the keys `ks`: each key of `ks` once and nothing else, its
counter the number of times it occurs in `ks`, modulo 2^64. -/
structure Tally (m : List (K × Counter)) (ks : List K) : Prop where
  nodup : (keysOf m).Nodup
  mem_iff : ∀ k, k ∈ keysOf m ↔ k ∈ ks
  value_eq : ∀ p ∈ m, p.2.value_ = UInt64.ofNat (ks.count p.1)

theorem uint64_ofNat_succ (n : ℕ) : UInt64.ofNat n + 1 = UInt64.ofNat (n + 1) := by
  apply UInt64.eq_of_toBitVec_eq
  apply BitVec.eq_of_toNat_eq
  show (BitVec.ofNat 64 n + BitVec.ofNat 64 1).toNat = (BitVec.ofNat 64 (n + 1)).toNat
  simp only [BitVec.toNat_add, BitVec.toNat_ofNat]
  omega

theorem tally_nil : Tally ([] : List (K × Counter)) [] :=
  ⟨List.nodup_nil, by simp, by simp⟩

/-- One increment keeps the tally. -/
theorem Tally.increment {m : List (K × Counter)} {ks : List K} (h : Tally m ks) (key : K) :
    Tally (incrementAt key m) (ks ++ [key]) where
  nodup := by
    rw [keysOf_incrementAt]
    split_ifs with hk
    · exact h.nodup
    · exact h.nodup.append (List.nodup_singleton _) (List.disjoint_singleton.2 hk)
  mem_iff k := by
    rw [keysOf_incrementAt]
    split_ifs with hk
    · rw [h.mem_iff, List.mem_append, List.mem_singleton]
      exact (or_iff_left_of_imp fun hk' => hk' ▸ (h.mem_iff _).1 hk).symm
    · simp [h.mem_iff]
  value_eq p hp := by
    rcases mem_incrementAt h.nodup hp with ⟨hne, hpm⟩ | ⟨c, rfl, hc | ⟨hk, rfl⟩⟩
    · rw [h.value_eq p hpm, List.count_append, List.count_singleton', if_neg (Ne.symm hne), add_zero]
    · show c.value_ + 1 = _
      rw [h.value_eq _ hc, List.count_append, List.count_singleton', if_pos rfl,
        uint64_ofNat_succ]
    · have : ks.count key = 0 := List.count_eq_zero.2 fun hm => hk ((h.mem_iff _).2 hm)
      show (0 : UInt64) + 1 = _
      rw [List.count_append, this, List.count_singleton', if_pos rfl]
      rfl

/-- A run of increments keeps the tally. -/
theorem Tally.foldl {m : List (K × Counter)} {ks : List K} (h : Tally m ks) (ks' : List K) :
    Tally (ks'.foldl (fun m k => incrementAt k m) m) (ks ++ ks') := by
  induction ks' generalizing m ks with
  | nil => simpa using h
  | cons k ks' ih => simpa using ih (h.increment k)

/-- One counter per distinct key, its value the number of times the key occurs. -/
def tallyOf (ks : List K) : List (K × Counter) :=
  ks.dedup.map fun k => (k, ⟨UInt64.ofNat (ks.count k)⟩)

/-- A tally is, in some order, the map of one counter per distinct key. -/
theorem Tally.perm {m : List (K × Counter)} {ks : List K} (h : Tally m ks) : m.Perm (tallyOf ks) := by
  have hm : m = (keysOf m).map fun k => (k, (⟨UInt64.ofNat (ks.count k)⟩ : Counter)) := by
    conv_lhs => rw [← List.map_id m]
    rw [List.map_map]
    exact List.map_congr_left fun p hp => Prod.ext rfl (Counter.ext (h.value_eq p hp))
  rw [hm]
  exact ((List.perm_ext_iff_of_nodup h.nodup (List.nodup_dedup ks)).2
    fun k => by rw [h.mem_iff, List.mem_dedup]).map _

theorem uint64_toNat_ofNat (n : ℕ) : (UInt64.ofNat n).toNat = n % 2 ^ 64 := BitVec.toNat_ofNat _ _

/-- Read through their counters' values, the entries of a tally of fewer than 2^64 keys are the
distinct keys with their numbers of occurrences. -/
theorem Tally.map_perm {β : Type} {m : List (K × Counter)} {ks : List K} (h : Tally m ks)
    (hlen : ks.length < 2 ^ 64) (f : K → ℕ → β) :
    (m.map fun p => f p.1 p.2.value_.toNat).Perm (ks.dedup.map fun k => f k (ks.count k)) := by
  refine (h.perm.map _).trans (List.Perm.of_eq ?_)
  rw [tallyOf, List.map_map]
  refine List.map_congr_left fun k _ => ?_
  have hk : ks.count k < 2 ^ 64 := (List.count_le_length _ _).trans_lt hlen
  simp only [Function.comp_apply, uint64_toNat_ofNat, Nat.mod_eq_of_lt hk]

end Tally

/-! ## Reading the text format -/

/-- The characters the text format requires escaped in a label value. -/
def needsEscape (c : Char) : Bool := c = '\\' || c = '"' || c = '\n'

/-- The text before the first `d`, and the text after it. -/
def cutAt (d : Char) : List Char → Option (List Char × List Char)
  | [] => none
  | c :: s => if c = d then some ([], s) else (cutAt d s).map fun p => (c :: p.1, p.2)

/-- The character a backslash and `d` stand for in a label value. -/
def unescapeChar (d : Char) : Char := if d = 'n' then '\n' else d

/-- A label value as a reader takes it, up to its closing quote, with the rest of the line;
`escaped` after a backslash. `\\`, `\"` and `\n` stand for a backslash, a quote and a line feed. -/
def readLabelValue (escaped : Bool) : List Char → Option (List Char × List Char)
  | [] => none
  | c :: r =>
    if escaped then (readLabelValue false r).map fun p => (unescapeChar c :: p.1, p.2)
    else if c = '"' then some ([], r)
    else if c = '\\' then readLabelValue true r
    else (readLabelValue false r).map fun p => (c :: p.1, p.2)

/-- A sample with one label, as a reader of the text format sees it. -/
structure Sample where
  name : List Char
  label : List Char
  value : List Char
  count : ℕ
  deriving DecidableEq, Repr

/-- A sample line `name{label="value"} count`, or `none` for a line that is not one. -/
def readSample (line : List Char) : Option Sample := do
  let (name, rest) ← cutAt '\x7b' line
  let (label, rest) ← cutAt '=' rest
  let (value, rest) ← match rest with
    | '"' :: r => readLabelValue false r
    | _ => none
  match rest with
  | '\x7d' :: ' ' :: digits =>
    if !digits.isEmpty && digits.all Char.isDigit then some ⟨name, label, value, decimalValue digits⟩
    else none
  | _ => none

/-- A line a reader takes as a sample: neither blank nor a comment. -/
def isSampleLine (l : List Char) : Bool := !(l.isEmpty || l.head? == some '#')

/-- The samples a reader takes from a text, line by line. -/
def readSamples (text : List Char) : List (Option Sample) :=
  ((getlineFields '\n' [] text).filter isSampleLine).map readSample

theorem cutAt_append {d : Char} {a : List Char} (ha : d ∉ a) (r : List Char) :
    cutAt d (a ++ d :: r) = some (a, r) := by
  induction a with
  | nil => simp [cutAt]
  | cons c a ih =>
    simp only [List.mem_cons, not_or] at ha
    simp [cutAt, Ne.symm ha.1, ih ha.2]

theorem readLabelValue_append {v : List Char} (hv : v.all (fun c => !needsEscape c) = true)
    (r : List Char) : readLabelValue false (v ++ '"' :: r) = some (v, r) := by
  induction v with
  | nil => simp [readLabelValue]
  | cons c v ih =>
    rw [List.all_cons, Bool.and_eq_true] at hv
    have hq : c ≠ '"' := by rintro rfl; exact absurd hv.1 (by decide)
    have hb : c ≠ '\\' := by rintro rfl; exact absurd hv.1 (by decide)
    simp [readLabelValue, hq, hb, ih hv.2]

@[simp] theorem readSamples_nil : readSamples [] = [] := rfl

theorem readSamples_line_append {l : List Char} (hl : '\n' ∉ l) (t : List Char) :
    readSamples (l ++ '\n' :: t) =
      (if isSampleLine l then [readSample l] else []) ++ readSamples t := by
  unfold readSamples
  rw [getlineFields_sep hl]
  split_ifs with h <;> simp [List.filter_cons, h]

/-- Lines that are all samples read back one by one. -/
theorem readSamples_lines (ls : List (List Char))
    (h : ∀ l ∈ ls, '\n' ∉ l ∧ isSampleLine l = true) (t : List Char) :
    readSamples ((ls.map (· ++ ['\n'])).flatten ++ t) = ls.map readSample ++ readSamples t := by
  induction ls with
  | nil => rfl
  | cons l ls ih =>
    obtain ⟨hl, hs⟩ := h l (List.mem_cons_self _ _)
    have hsplit : ((l :: ls).map (· ++ ['\n'])).flatten ++ t =
        l ++ '\n' :: ((ls.map (· ++ ['\n'])).flatten ++ t) := by simp
    rw [hsplit, readSamples_line_append hl, if_pos hs,
      ih fun l hl => h l (List.mem_cons_of_mem _ hl)]
    rfl

namespace PrometheusExporter

/-- The text of one sample line, up to its line feed. -/
theorem sampleLine_eq (label value : List Char) (c : Counter) :
    sampleLine label value c = (errorsName ++ '\x7b' :: (label ++ '=' :: '"' :: (value ++
      '"' :: '\x7d' :: ' ' :: toDecimal c.value_.toNat))) ++ ['\n'] := by
  simp [sampleLine, Counter.serialize]

theorem readSample_sampleLine {label value : List Char} (hl : '=' ∉ label)
    (hv : value.all (fun c => !needsEscape c) = true) (c : Counter) :
    readSample (errorsName ++ '\x7b' :: (label ++ '=' :: '"' :: (value ++
      '"' :: '\x7d' :: ' ' :: toDecimal c.value_.toNat))) =
      some ⟨errorsName, label, value, c.value_.toNat⟩ := by
  have hd : (!(toDecimal c.value_.toNat).isEmpty && (toDecimal c.value_.toNat).all Char.isDigit) =
      true := by
    rw [List.all_eq_true.2 (isDigit_of_mem_toDecimal _), Bool.and_true, Bool.not_eq_true',
      List.isEmpty_eq_false]
    exact toDecimal_ne_nil _
  unfold readSample
  rw [cutAt_append (show '\x7b' ∉ errorsName by decide), some_bind_eq]
  dsimp only
  rw [cutAt_append hl, some_bind_eq]
  simp only [readLabelValue_append hv, some_bind_eq, if_pos hd, decimalValue_toDecimal]

theorem sampleLine_isSampleLine (label value : List Char) (c : Counter) :
    isSampleLine (errorsName ++ '\x7b' :: (label ++ '=' :: '"' :: (value ++
      '"' :: '\x7d' :: ' ' :: toDecimal c.value_.toNat))) = true := rfl

theorem newline_not_mem_sampleLine {label value : List Char} (hl : '\n' ∉ label)
    (hv : '\n' ∉ value) (c : Counter) :
    '\n' ∉ errorsName ++ '\x7b' :: (label ++ '=' :: '"' :: (value ++
      '"' :: '\x7d' :: ' ' :: toDecimal c.value_.toNat)) := by
  have : '\n' ∉ toDecimal c.value_.toNat := not_mem_toDecimal (c := '\n') rfl _
  simp [errorsName, hl, hv, this]

theorem error_code_to_string_noEscape (code : ErrorCode) :
    (error_code_to_string code).all (fun c => !needsEscape c) = true := by
  cases code <;> rfl

theorem newline_not_mem_of_noEscape {v : List Char} (hv : v.all (fun c => !needsEscape c) = true) :
    '\n' ∉ v := fun h => by
  simpa [needsEscape] using List.all_eq_true.1 hv _ h

/-- The lines of a map, read back one sample per entry. -/
theorem readSamples_entries {α : Type} (label : List Char) (value : α → List Char)
    (hl : '=' ∉ label ∧ '\n' ∉ label) (m : List (α × Counter))
    (hm : ∀ p ∈ m, (value p.1).all (fun c => !needsEscape c) = true) (t : List Char) :
    readSamples ((m.map fun p => sampleLine label (value p.1) p.2).flatten ++ t) =
      m.map (fun p => some ⟨errorsName, label, value p.1, p.2.value_.toNat⟩) ++ readSamples t := by
  have := readSamples_lines (m.map fun p => errorsName ++ '\x7b' :: (label ++ '=' :: '"' ::
    (value p.1 ++ '"' :: '\x7d' :: ' ' :: toDecimal p.2.value_.toNat))) (by
      simp only [List.mem_map]
      rintro _ ⟨p, hp, rfl⟩
      exact ⟨newline_not_mem_sampleLine hl.2 (newline_not_mem_of_noEscape (hm p hp)) _,
        sampleLine_isSampleLine _ _ _⟩) t
  simp only [List.map_map] at this
  simp only [Function.comp_def, ← sampleLine_eq] at this
  rw [this]
  congr 1
  exact List.map_congr_left fun p hp => readSample_sampleLine hl.1 (hm p hp) p.2

/-- An empty map writes no lines, with or without the guard. -/
theorem ite_isEmpty_flatten {α : Type} (l : List α) (f : α → List Char) :
    (if l.isEmpty then [] else (l.map f).flatten) = (l.map f).flatten := by
  cases l <;> rfl

/-- The error block reads back as one sample per entry of each map, with the entry's counter,
when no type text holds a character the format requires escaped. -/
theorem readSamples_serializeErrors (e : PrometheusExporter)
    (h : ∀ p ∈ e.error_counters_, p.1.all (fun c => !needsEscape c) = true) :
    readSamples e.serializeErrors =
      e.error_code_counters_.map (fun p =>
        some ⟨errorsName, "error_code".toList, error_code_to_string p.1, p.2.value_.toNat⟩) ++
      e.error_counters_.map (fun p => some ⟨errorsName, "error_type".toList, p.1, p.2.value_.toNat⟩) := by
  have hcode : ∀ t, readSamples ((e.error_code_counters_.map codeLine).flatten ++ t) = _ :=
    readSamples_entries "error_code".toList error_code_to_string (by decide)
      e.error_code_counters_ (fun p _ => error_code_to_string_noEscape p.1)
  have htype : readSamples ((e.error_counters_.map typeLine).flatten ++ []) = _ :=
    readSamples_entries "error_type".toList id (by decide) e.error_counters_ h []
  rw [List.append_nil, readSamples_nil, List.append_nil] at htype
  have hhelp : "# HELP crypto_errors_total Total errors by error_code\n".toList =
      "# HELP crypto_errors_total Total errors by error_code".toList ++ ['\n'] := rfl
  have htype' : "# TYPE crypto_errors_total counter\n".toList =
      "# TYPE crypto_errors_total counter".toList ++ ['\n'] := rfl
  unfold serializeErrors
  rw [ite_isEmpty_flatten]
  split_ifs with h₁
  · rw [List.isEmpty_iff.1 h₁, List.nil_append, htype]
    rfl
  · simp only [hhelp, htype', List.append_assoc, List.cons_append, List.nil_append]
    rw [readSamples_line_append (by decide), readSamples_line_append (by decide), hcode, htype]
    rfl

theorem error_code_counters_run (calls : List ErrorCall) (e : PrometheusExporter) :
    (run calls e).error_code_counters_ =
      (calls.filterMap ErrorCall.code?).foldl (fun m k => incrementAt k m) e.error_code_counters_ := by
  induction calls generalizing e with
  | nil => rfl
  | cons call calls ih =>
    show (run calls (e.record call)).error_code_counters_ = _
    rw [ih]
    cases call <;> rfl

theorem error_counters_run (calls : List ErrorCall) (e : PrometheusExporter) :
    (run calls e).error_counters_ =
      (calls.filterMap ErrorCall.type?).foldl (fun m k => incrementAt k m) e.error_counters_ := by
  induction calls generalizing e with
  | nil => rfl
  | cons call calls ih =>
    show (run calls (e.record call)).error_counters_ = _
    rw [ih]
    cases call <;> rfl

theorem tally_codes_run (calls : List ErrorCall) :
    Tally (run calls create).error_code_counters_ (calls.filterMap ErrorCall.code?) := by
  rw [error_code_counters_run]
  simpa using tally_nil.foldl (calls.filterMap ErrorCall.code?)

theorem tally_types_run (calls : List ErrorCall) :
    Tally (run calls create).error_counters_ (calls.filterMap ErrorCall.type?) := by
  rw [error_counters_run]
  simpa using tally_nil.foldl (calls.filterMap ErrorCall.type?)

/-- The samples the error block should read as: one per distinct code and one per distinct type
recorded, its count the number of calls with it. -/
def expectedSamples (calls : List ErrorCall) : List Sample :=
  let codes := calls.filterMap ErrorCall.code?
  let types := calls.filterMap ErrorCall.type?
  codes.dedup.map (fun c => ⟨errorsName, "error_code".toList, error_code_to_string c, codes.count c⟩) ++
    types.dedup.map (fun t => ⟨errorsName, "error_type".toList, t, types.count t⟩)

/-- After any sequence of `recordError` calls, the code map holds one counter per distinct code
and the legacy map one per distinct type, each with its number of calls; with fewer than 2^64
calls and no type text holding a character to escape, the error block reads as exactly one
sample per distinct code and per distinct type, with its number of calls. -/
theorem error_samples_of_run (calls : List ErrorCall) :
    (run calls create).error_code_counters_.Perm (tallyOf (calls.filterMap ErrorCall.code?)) ∧
    (run calls create).error_counters_.Perm (tallyOf (calls.filterMap ErrorCall.type?)) ∧
    (calls.length < 2 ^ 64 →
      (∀ t ∈ calls.filterMap ErrorCall.type?, t.all (fun c => !needsEscape c) = true) →
      (readSamples (run calls create).serializeErrors).Perm ((expectedSamples calls).map some)) := by
  have hc := tally_codes_run calls
  have ht := tally_types_run calls
  refine ⟨hc.perm, ht.perm, fun hlen hsafe => ?_⟩
  have hsafe' : ∀ p ∈ (run calls create).error_counters_, p.1.all (fun c => !needsEscape c) = true :=
    fun p hp => hsafe _ ((ht.mem_iff _).1 (List.mem_map_of_mem _ hp))
  simp only [readSamples_serializeErrors _ hsafe', expectedSamples, List.map_append, List.map_map,
    Function.comp_def]
  -- texts are counted with the `==` of lists, which is their equality
  rw [lawful_beq_subsingleton List.instBEq instBEqOfDecidableEq]
  exact (hc.map_perm ((List.length_filterMap_le _ _).trans_lt hlen)
      fun c n => some (⟨errorsName, "error_code".toList, error_code_to_string c, n⟩ : Sample)).append
    (ht.map_perm ((List.length_filterMap_le _ _).trans_lt hlen)
      fun t n => some (⟨errorsName, "error_type".toList, t, n⟩ : Sample))

/-- One call with the type text `x"} 7⏎crypto_errors_total{error_type="y` is counted once under
that text, and the error block reads as two samples, type `x` with 7 and type `y` with 1, neither
of which was recorded. -/
theorem error_samples_of_run_forged :
    (run [.type "x\"\x7d 7\ncrypto_errors_total\x7berror_type=\"y".toList] create).error_counters_.Perm
      (tallyOf ["x\"\x7d 7\ncrypto_errors_total\x7berror_type=\"y".toList]) ∧
    expectedSamples [.type "x\"\x7d 7\ncrypto_errors_total\x7berror_type=\"y".toList] =
      [⟨errorsName, "error_type".toList, "x\"\x7d 7\ncrypto_errors_total\x7berror_type=\"y".toList, 1⟩] ∧
    readSamples (run [.type "x\"\x7d 7\ncrypto_errors_total\x7berror_type=\"y".toList]
      create).serializeErrors =
      [some ⟨errorsName, "error_type".toList, "x".toList, 7⟩,
        some ⟨errorsName, "error_type".toList, "y".toList, 1⟩] :=
  ⟨(error_samples_of_run _).2.1, by decide, by decide⟩

end PrometheusExporter

end CryptoService
