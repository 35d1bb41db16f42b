import CryptoService.Metrics.Prometheus
import Mathlib.Algebra.Order.Ring.Rat
import Mathlib.Data.List.Sort
import Mathlib.Order.WithBot

/-!
# Latency histograms

`Histogram` of `crypto/metrics/prometheus_exporter.cpp`: a bucket for each bound given to the
constructor and a last `+Inf` bucket; `observe(v)` adds one to the count of every bucket whose
bound is at least `v`, one to `count_`, and `v` to `sum_`. The counts are
`std::atomic<uint64_t>`, so they wrap at 2^64. Values and bounds are rationals (a `double` that
is not NaN) and `+Inf` is `⊤ : WithTop ℚ`; `sum_` is the exact sum, the rounding of the `double`
additions is not modelled. Each call is sequential: what a concurrent `serialize` sees half-way
through an `observe` is not.

* `histogramOf bounds obs` is what a histogram is for: each bound with the number of
  observations up to it, `count_` the number of all of them, `sum_` their sum.
  `foldl_observe_create` says that `observe`, from the constructor, computes exactly that, by
  the step lemma `observe_histogramOf`.
* `histogram_buckets_cumulative`: after any sequence of `observe` calls each bucket counts the
  observations up to its bound and the `+Inf` bucket all of them, as `count_` does, so that
  `serialize` writes the same number on the `+Inf` line and on the `_count` line; with fewer
  than 2^64 observations and ascending bounds the counts are exact and do not decrease along
  the buckets.
* `histogram_counts_wrap`: 2^64 observations of `0` leave every count at `0`.
-/

namespace CryptoService

/-- `HistogramBucket`: an upper bound (`⊤` for `+Inf`) and a `std::atomic<uint64_t>` count. -/
structure HistogramBucket where
  upper_bound : WithTop ℚ
  count : UInt64
  deriving DecidableEq

/-- `Histogram`: its buckets, `count_` and `sum_`. -/
structure Histogram where
  buckets_ : List HistogramBucket
  count_ : UInt64
  sum_ : ℚ
  deriving DecidableEq

namespace Histogram

/-- `Histogram::Histogram(buckets)`: a zero bucket for each bound, then the `+Inf` bucket. -/
def create (buckets : List ℚ) : Histogram :=
  ⟨buckets.map (fun bound => ⟨bound, 0⟩) ++ [⟨⊤, 0⟩], 0, 0⟩

/-- The body of the bucket loop of `Histogram::observe(value)`. -/
def observeBucket (value : ℚ) (bucket : HistogramBucket) : HistogramBucket :=
  if (value : WithTop ℚ) ≤ bucket.upper_bound then { bucket with count := bucket.count + 1 }
  else bucket

/-- `Histogram::observe(value)`. -/
def observe (h : Histogram) (value : ℚ) : Histogram :=
  ⟨h.buckets_.map (observeBucket value), h.count_ + 1, h.sum_ + value⟩

/-- A bound as the `le` label writes it: `+Inf`, or `ss << upper_bound` (`fmt`). -/
def boundText (fmt : ℚ → List Char) (bound : WithTop ℚ) : List Char :=
  if bound = ⊤ then "+Inf".toList else fmt (bound.untop' 0)

/-- `name_bucket{labels,le="bound"} count`, the line of one bucket. -/
def bucketLine (fmt : ℚ → List Char) (name labels : List Char) (bucket : HistogramBucket) :
    List Char :=
  name ++ "_bucket\x7b".toList ++ (if labels.isEmpty then [] else labels ++ [',']) ++
    "le=\"".toList ++ boundText fmt bucket.upper_bound ++ "\"\x7d ".toList ++
    toDecimal bucket.count.toNat ++ ['\n']

/-- `Histogram::serialize(name, labels)`, with `fmt` the text `ss << x` writes for a `double`. -/
def serialize (fmt : ℚ → List Char) (h : Histogram) (name labels : List Char) : List Char :=
  (h.buckets_.map (bucketLine fmt name labels)).flatten ++
    name ++ "_sum".toList ++ (if labels.isEmpty then [] else '\x7b' :: labels ++ ['\x7d']) ++
    ' ' :: fmt h.sum_ ++ ['\n'] ++
    name ++ "_count".toList ++ (if labels.isEmpty then [] else '\x7b' :: labels ++ ['\x7d']) ++
    ' ' :: toDecimal h.count_.toNat ++ ['\n']

/-! ## What a histogram counts -/

/-- The number of observations up to `bound`. -/
def countUpTo (obs : List ℚ) (bound : WithTop ℚ) : ℕ :=
  obs.countP fun v : ℚ => decide ((v : WithTop ℚ) ≤ bound)

/-- The histogram that has observed `obs`, made with `bounds`: each bound, then `+Inf`, with the
number of observations up to it, `count_` the number of them, `sum_` their sum. -/
def histogramOf (bounds obs : List ℚ) : Histogram :=
  ⟨(bounds.map WithTop.some ++ [⊤]).map (fun b => ⟨b, UInt64.ofNat (countUpTo obs b)⟩),
    UInt64.ofNat obs.length, obs.sum⟩

theorem countUpTo_append_singleton (obs : List ℚ) (v : ℚ) (b : WithTop ℚ) :
    countUpTo (obs ++ [v]) b = countUpTo obs b + if (v : WithTop ℚ) ≤ b then 1 else 0 := by
  simp [countUpTo, List.countP_singleton]

theorem countUpTo_top (obs : List ℚ) : countUpTo obs ⊤ = obs.length := by
  unfold countUpTo
  exact List.countP_eq_length.2 fun v _ => decide_eq_true (le_top : (v : WithTop ℚ) ≤ ⊤)

theorem countUpTo_mono (obs : List ℚ) {a b : WithTop ℚ} (hab : a ≤ b) :
    countUpTo obs a ≤ countUpTo obs b :=
  List.countP_mono_left fun _ _ h => decide_eq_true ((of_decide_eq_true h).trans hab)

theorem countUpTo_replicate (n : ℕ) {v : ℚ} {b : WithTop ℚ} (h : (v : WithTop ℚ) ≤ b) :
    countUpTo (List.replicate n v) b = n := by
  rw [countUpTo, List.countP_replicate, if_pos (decide_eq_true h)]

theorem create_eq_histogramOf (bounds : List ℚ) : create bounds = histogramOf bounds [] := by
  simp [create, histogramOf, countUpTo]

/-- One observation is counted in the buckets up to which it lies, in `count_` and in `sum_`. -/
theorem observe_histogramOf (bounds obs : List ℚ) (v : ℚ) :
    (histogramOf bounds obs).observe v = histogramOf bounds (obs ++ [v]) := by
  simp only [observe, histogramOf, List.map_map, List.length_append, List.length_singleton,
    List.sum_append, List.sum_singleton, uint64_ofNat_succ, Histogram.mk.injEq, and_true]
  refine List.map_congr_left fun b _ => ?_
  simp only [Function.comp_apply, observeBucket, countUpTo_append_singleton]
  split_ifs <;> simp [uint64_ofNat_succ]

/-- **`observe` computes the histogram of what it has observed**, from the constructor on. -/
theorem foldl_observe_create (bounds obs : List ℚ) :
    obs.foldl observe (create bounds) = histogramOf bounds obs := by
  induction obs using List.reverseRecOn with
  | nil => exact create_eq_histogramOf bounds
  | append_singleton obs v ih => rw [List.foldl_append, ih]; exact observe_histogramOf bounds obs v

/-- Ascending bounds stay ascending with `+Inf` after them. -/
theorem sorted_bounds {bounds : List ℚ} (h : bounds.Sorted (· ≤ ·)) :
    (bounds.map WithTop.some ++ [⊤]).Sorted (· ≤ ·) :=
  List.pairwise_append.2 ⟨h.map _ fun _ _ => WithTop.coe_le_coe.2, List.pairwise_singleton _ _,
    fun _ _ _ hb => (List.mem_singleton.1 hb) ▸ le_top⟩

/-- **Histogram buckets are cumulative.** After any sequence of observations from the
constructor, the buckets have the given bounds and then `+Inf`; each counts the observations up
to its bound, modulo 2^64; the last is the `+Inf` bucket and holds `count_`. With fewer than 2^64
observations and ascending bounds, the counts are exact and do not decrease along the buckets. -/
theorem histogram_buckets_cumulative (bounds obs : List ℚ) :
    (obs.foldl observe (create bounds)).buckets_.map (·.upper_bound) =
      bounds.map WithTop.some ++ [⊤] ∧
    (∀ b ∈ (obs.foldl observe (create bounds)).buckets_,
      b.count.toNat = countUpTo obs b.upper_bound % 2 ^ 64) ∧
    (obs.foldl observe (create bounds)).buckets_.getLast? =
      some ⟨⊤, (obs.foldl observe (create bounds)).count_⟩ ∧
    (obs.length < 2 ^ 64 → bounds.Sorted (· ≤ ·) →
      (∀ b ∈ (obs.foldl observe (create bounds)).buckets_,
        b.count.toNat = countUpTo obs b.upper_bound) ∧
      ((obs.foldl observe (create bounds)).buckets_.map (·.count.toNat)).Sorted (· ≤ ·)) := by
  have hexact : ∀ b, obs.length < 2 ^ 64 → countUpTo obs b % 2 ^ 64 = countUpTo obs b :=
    fun b hlen => Nat.mod_eq_of_lt ((List.countP_le_length _).trans_lt hlen)
  simp only [foldl_observe_create, histogramOf, List.map_map, List.mem_map, forall_exists_index,
    and_imp, forall_apply_eq_imp_iff₂, Function.comp_def, uint64_toNat_ofNat]
  refine ⟨List.map_id' _, fun _ _ => trivial, ?_,
    fun hlen hs => ⟨fun b _ => hexact b hlen, ?_⟩⟩
  · rw [List.map_append, List.map_singleton, List.getLast?_concat, countUpTo_top]
  · simp only [hexact _ hlen]
    exact (sorted_bounds hs).map _ fun _ _ => countUpTo_mono obs

/-- Three observations into the buckets `1` and `2`: fewer than 2^64 of them, ascending bounds,
and counts that do not decrease. -/
theorem histogram_buckets_cumulative_sample :
    ([0, 2, 5] : List ℚ).length < 2 ^ 64 ∧ ([1, 2] : List ℚ).Sorted (· ≤ ·) ∧
      ((([0, 2, 5] : List ℚ).foldl observe (create [1, 2])).buckets_.map
        (·.count.toNat)).Sorted (· ≤ ·) :=
  have hs : ([1, 2] : List ℚ).Sorted (· ≤ ·) := by simp [List.Sorted]
  ⟨by decide, hs, ((histogram_buckets_cumulative [1, 2] [0, 2, 5]).2.2.2 (by decide) hs).2⟩

/-- **The counts wrap.** After 2^64 observations of `0`, with the one bound `0`, both the bucket
`0` and the `+Inf` bucket read `0`, while all 2^64 observations are up to `0`. -/
theorem histogram_counts_wrap :
    countUpTo (List.replicate (2 ^ 64) 0) (0 : ℚ) = 2 ^ 64 ∧
      ((List.replicate (2 ^ 64) (0 : ℚ)).foldl observe (create [0])).buckets_.map (·.count) =
        [0, 0] := by
  have hc := countUpTo_replicate (2 ^ 64) (le_refl ((0 : ℚ) : WithTop ℚ))
  refine ⟨hc, ?_⟩
  rw [foldl_observe_create]
  show [UInt64.ofNat (countUpTo (List.replicate (2 ^ 64) 0) ((0 : ℚ) : WithTop ℚ)),
    UInt64.ofNat (countUpTo (List.replicate (2 ^ 64) 0) ⊤)] = [0, 0]
  rw [hc, countUpTo_top, List.length_replicate]
  rfl

end Histogram

end CryptoService
