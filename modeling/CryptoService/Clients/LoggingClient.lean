import CryptoService.Common.StdMap
import Mathlib.Data.List.Perm.Basic

/-!
# The logging client's buffer

`LoggingClient` of `crypto/clients/logging_client.cpp` queues log entries in a buffer that a
background thread drains in batches (`flush_loop`, `do_flush`); `flush()` drains one batch at
once. Each step holds `buffer_mutex`, so a run is a sequence of steps: `log` calls, iterations
of the flush loop and `flush` calls, each with the channel state that `send_batch` reads.

A `Ledger` follows a run and records where every accepted entry went: still pending, sent to
the service, written to the console, dropped from a full buffer, or lost, taken for a batch
that failed to send with the console fallback off.

* `run_conserved`: along every run that does not pop an empty buffer, the accepted entries are
  exactly the pending, sent, written, dropped and lost ones, `dropped_count` counts the dropped
  ones, the buffer never holds more than `buffer_size` entries, and nothing is lost when the
  fallback is on;
* `enqueue_eq_none_iff`: `enqueue` pops an empty buffer exactly when `buffer_size` is `0`;
* `flush_pending_count`: one `flush()` leaves `pending_count() - batch_size` entries.
-/

namespace CryptoService

/-- `LogLevel`. -/
inductive LogLevel
  | DEBUG | INFO | WARN | ERROR | FATAL
  deriving DecidableEq, Repr

/-- The value of a `LogLevel` enumerator. -/
def LogLevel.toInt : LogLevel → ℕ
  | .DEBUG => 1
  | .INFO => 2
  | .WARN => 3
  | .ERROR => 4
  | .FATAL => 5

/-- `LogEntry`; its timestamp is the clock reading of the `log` call. -/
structure LogEntry where
  level : LogLevel
  message : List Char
  correlation_id : List Char
  fields : StdMap (List Char)
  timestamp : ℤ
  deriving DecidableEq, Repr

/-- `LoggingClientConfig`: the fields the buffer logic reads, with their defaults. -/
structure LoggingClientConfig where
  batch_size : ℕ := 100
  buffer_size : ℕ := 10000
  fallback_enabled : Bool := true
  min_level : LogLevel := .INFO

/-- The filter of `LoggingClient::log`: an entry at `min_level` or above is queued. -/
def LoggingClientConfig.accepts (config : LoggingClientConfig) (level : LogLevel) : Prop :=
  config.min_level.toInt ≤ level.toInt

instance (config : LoggingClientConfig) : DecidablePred config.accepts :=
  fun _ => inferInstanceAs (Decidable (_ ≤ _))

/-- `LoggingClient::Impl`: its configuration, its buffer (oldest entry first), its dropped
counter and its connection flag. -/
structure LoggingClient where
  config : LoggingClientConfig
  buffer : List LogEntry
  dropped_count : ℕ
  connected : Bool

/-- Where `do_flush` sends a batch. -/
inductive Destination
  | service | console | nowhere
  deriving DecidableEq, Repr

namespace LoggingClient

/-- `LoggingClient(config)`. -/
def create (config : LoggingClientConfig) : LoggingClient := ⟨config, [], 0, false⟩

/-- `Impl::enqueue`: the new state, and the entry popped to make room, if one was. Popping an
empty `std::queue` is undefined: `none`. -/
def enqueue (entry : LogEntry) (c : LoggingClient) : Option (LoggingClient × Option LogEntry) :=
  if c.config.buffer_size ≤ c.buffer.length then
    match c.buffer with
    | [] => none
    | oldest :: rest =>
      some ({ c with buffer := rest ++ [entry], dropped_count := c.dropped_count + 1 }, some oldest)
  else some ({ c with buffer := c.buffer ++ [entry] }, none)

/-- `LoggingClient::log`: an entry below `min_level` is not queued. -/
def log (level : LogLevel) (message correlation_id : List Char) (fields : StdMap (List Char))
    (timestamp : ℤ) (c : LoggingClient) : Option (LoggingClient × Option LogEntry) :=
  if c.config.accepts level then enqueue ⟨level, message, correlation_id, fields, timestamp⟩ c
  else some (c, none)

/-- `Impl::do_flush`, with `ready` the channel state that `send_batch` reads: up to
`batch_size` entries leave the front of the buffer and go to the service; when the send fails
they go to the console if the fallback is on, and nowhere otherwise. -/
def do_flush (ready : Bool) (c : LoggingClient) : LoggingClient × List LogEntry × Destination :=
  let batch := c.buffer.take c.config.batch_size
  let c' := { c with buffer := c.buffer.drop c.config.batch_size }
  if batch = [] then (c', [], .nowhere)
  else if ready then ({ c' with connected := true }, batch, .service)
  else ({ c' with connected := false }, batch,
    if c.config.fallback_enabled then .console else .nowhere)

/-- `LoggingClient::flush`. -/
def flush (ready : Bool) (c : LoggingClient) : LoggingClient × List LogEntry × Destination :=
  c.do_flush ready

/-- `LoggingClient::pending_count`. -/
def pending_count (c : LoggingClient) : ℕ := c.buffer.length

@[simp] theorem config_do_flush (ready : Bool) (c : LoggingClient) :
    (c.do_flush ready).1.config = c.config := by
  unfold do_flush; dsimp only; split_ifs <;> rfl

theorem buffer_do_flush (ready : Bool) (c : LoggingClient) :
    (c.do_flush ready).1.buffer = c.buffer.drop c.config.batch_size ∧
      (c.do_flush ready).2.1 = c.buffer.take c.config.batch_size := by
  unfold do_flush; dsimp only; split_ifs with h <;> simp [h]

@[simp] theorem dropped_count_do_flush (ready : Bool) (c : LoggingClient) :
    (c.do_flush ready).1.dropped_count = c.dropped_count := by
  unfold do_flush; dsimp only; split_ifs <;> rfl

/-- A batch goes nowhere only when the send failed with the fallback off. -/
theorem do_flush_nowhere {ready : Bool} {c : LoggingClient}
    (h : (c.do_flush ready).2.2 = .nowhere) (hb : (c.do_flush ready).2.1 ≠ []) :
    c.config.fallback_enabled = false := by
  unfold do_flush at h hb; dsimp only at h hb; split_ifs at h hb <;> simp_all

/-- **One `flush()` drains one batch**: it leaves `pending_count() - batch_size` entries. -/
theorem flush_pending_count (ready : Bool) (c : LoggingClient) :
    (c.flush ready).1.pending_count = c.pending_count - c.config.batch_size := by
  rw [flush, pending_count, (buffer_do_flush ready c).1, List.length_drop, pending_count]

/-- Two entries and a batch size of 1: after `flush()`, one entry is still pending. -/
theorem flush_pending_count_two :
    ((⟨{ batch_size := 1 }, [⟨.INFO, [], [], [], 0⟩, ⟨.INFO, [], [], [], 1⟩], 0, false⟩ :
      LoggingClient).flush true).1.pending_count = 1 :=
  (flush_pending_count true _).trans rfl

/-- **`enqueue` pops an empty buffer exactly when `buffer_size` is `0` and nothing is pending.** -/
theorem enqueue_eq_none_iff (entry : LogEntry) (c : LoggingClient) :
    c.enqueue entry = none ↔ c.config.buffer_size = 0 ∧ c.buffer = [] := by
  unfold enqueue
  split_ifs with h
  · split <;> simp_all
  · simp only [reduceCtorEq, false_iff, not_and]
    intro h0 hb
    simp [h0, hb] at h

/-- What `enqueue` can do: append below capacity, or, at capacity, drop the oldest entry and
append. -/
theorem enqueue_cases {entry : LogEntry} {c : LoggingClient} {r : LoggingClient × Option LogEntry}
    (h : c.enqueue entry = some r) :
    (c.buffer.length < c.config.buffer_size ∧ r = ({ c with buffer := c.buffer ++ [entry] }, none)) ∨
    (∃ d rest, c.config.buffer_size ≤ c.buffer.length ∧ c.buffer = d :: rest ∧
      r = ({ c with buffer := rest ++ [entry], dropped_count := c.dropped_count + 1 }, some d)) := by
  unfold enqueue at h
  split_ifs at h with hle
  · split at h
    · cases h
    · rename_i d rest hb
      exact .inr ⟨d, rest, hle, hb, (Option.some.inj h).symm⟩
  · exact .inl ⟨by omega, (Option.some.inj h).symm⟩

/-- The entry `enqueue` drops is the oldest pending one. -/
theorem enqueue_dropped {entry : LogEntry} {c c' : LoggingClient} {d : LogEntry}
    (h : c.enqueue entry = some (c', some d)) :
    c.buffer = d :: c'.buffer.dropLast ∧ c'.buffer = c.buffer.tail ++ [entry] := by
  rcases enqueue_cases h with ⟨-, h'⟩ | ⟨d', rest, -, hb, h'⟩
  · cases h'
  · obtain ⟨rfl, h''⟩ := Prod.mk.inj h'
    obtain rfl := Option.some.inj h''
    simp [hb]

end LoggingClient

/-! ## Runs, and where every entry goes -/

/-- A step of a run: a `log` call, an iteration of `flush_loop`, or a `flush()` call; the last two
with the channel state `send_batch` reads. -/
inductive LogOp
  | log (level : LogLevel) (message correlation_id : List Char) (fields : StdMap (List Char))
      (timestamp : ℤ)
  | flushLoop (ready : Bool)
  | flush (ready : Bool)

/-- A client along a run, with every accepted entry and where the entries went. -/
structure Ledger where
  client : LoggingClient
  accepted : List LogEntry
  sent : List LogEntry
  console : List LogEntry
  dropped : List LogEntry
  lost : List LogEntry

namespace Ledger

/-- The start of a run. -/
def init (config : LoggingClientConfig) : Ledger := ⟨LoggingClient.create config, [], [], [], [], []⟩

/-- A batch, recorded where `do_flush` sent it. -/
def deliver (L : Ledger) (r : LoggingClient × List LogEntry × Destination) : Ledger :=
  match r.2.2 with
  | .service => { L with client := r.1, sent := L.sent ++ r.2.1 }
  | .console => { L with client := r.1, console := L.console ++ r.2.1 }
  | .nowhere => { L with client := r.1, lost := L.lost ++ r.2.1 }

/-- One step; `none` where the client pops an empty buffer. -/
def step : LogOp → Ledger → Option Ledger
  | .log level message correlation_id fields timestamp, L =>
    (L.client.log level message correlation_id fields timestamp).map fun r =>
      { L with client := r.1, dropped := L.dropped ++ r.2.toList,
               accepted := if L.client.config.accepts level then
                 L.accepted ++ [⟨level, message, correlation_id, fields, timestamp⟩]
               else L.accepted }
  | .flushLoop ready, L => if L.client.buffer = [] then some L else some (L.deliver (L.client.do_flush ready))
  | .flush ready, L => some (L.deliver (L.client.flush ready))

/-- A run. -/
def run : List LogOp → Ledger → Option Ledger
  | [], L => some L
  | op :: ops, L => (L.step op).bind (run ops)

/-- The accounting of a run: the accepted entries are exactly the pending, sent, written,
dropped and lost ones; `dropped_count` counts the dropped ones; the buffer holds at most
`buffer_size` entries; nothing is lost with the fallback on. -/
structure Conserved (L : Ledger) (config : LoggingClientConfig) : Prop where
  config_eq : L.client.config = config
  perm : L.accepted.Perm (L.client.buffer ++ L.sent ++ L.console ++ L.dropped ++ L.lost)
  dropped_count : L.client.dropped_count = L.dropped.length
  buffer_le : L.client.buffer.length ≤ config.buffer_size
  lost_nil : config.fallback_enabled = true → L.lost = []

theorem conserved_init (config : LoggingClientConfig) : (init config).Conserved config :=
  ⟨rfl, List.Perm.refl _, rfl, Nat.zero_le _, fun _ => rfl⟩

/-- What `deliver` does: the client is the flushed one, and the batch joins the sent, the
written or the lost entries, the lost ones exactly when it went nowhere. -/
theorem deliver_spec (L : Ledger) (r : LoggingClient × List LogEntry × Destination) :
    (L.deliver r).client = r.1 ∧ (L.deliver r).accepted = L.accepted ∧
      (L.deliver r).dropped = L.dropped ∧
      (L.deliver r).lost = (if r.2.2 = .nowhere then L.lost ++ r.2.1 else L.lost) ∧
      ∀ a, ((L.deliver r).sent ++ (L.deliver r).console ++ (L.deliver r).lost).count a =
        (L.sent ++ L.console ++ L.lost).count a + r.2.1.count a := by
  unfold deliver
  split <;> rename_i hd <;> refine ⟨rfl, rfl, rfl, by simp [hd], fun a => ?_⟩ <;>
    simp only [List.count_append] <;> omega

theorem conserved_deliver {L : Ledger} {config : LoggingClientConfig} (h : L.Conserved config)
    (ready : Bool) : (L.deliver (L.client.do_flush ready)).Conserved config := by
  obtain ⟨hcfg, hperm, hdc, hle, hlost⟩ := h
  obtain ⟨hbuf, hbatch⟩ := LoggingClient.buffer_do_flush ready L.client
  obtain ⟨hcl, hacc, hdr, hlo, hcount⟩ := L.deliver_spec (L.client.do_flush ready)
  refine ⟨by rw [hcl, LoggingClient.config_do_flush, hcfg], List.perm_iff_count.2 fun a => ?_,
    by rw [hcl, LoggingClient.dropped_count_do_flush, hdc, hdr],
    by rw [hcl, hbuf, List.length_drop]; omega, fun hf => ?_⟩
  · -- the pending entries split into the batch and the entries that stay
    have h₁ := List.perm_iff_count.1 hperm a
    have h₂ : L.client.buffer.count a = (L.client.do_flush ready).2.1.count a +
        (L.client.do_flush ready).1.buffer.count a := by
      rw [hbatch, hbuf, ← List.count_append, List.take_append_drop]
    have h₃ := hcount a
    rw [hacc, hdr, hcl]
    simp only [List.count_append] at h₁ h₃ ⊢
    omega
  · rw [hlo, hlost hf]
    split_ifs with hd
    · rcases eq_or_ne (L.client.do_flush ready).2.1 [] with hb | hb
      · rw [hb, List.append_nil]
      · exact absurd (hcfg ▸ LoggingClient.do_flush_nowhere hd hb) (by simp [hf])
    · rfl

theorem conserved_log {L L' : Ledger} {config : LoggingClientConfig} (h : L.Conserved config)
    {level : LogLevel} {message correlation_id : List Char} {fields : StdMap (List Char)}
    {timestamp : ℤ} (hs : L.step (.log level message correlation_id fields timestamp) = some L') :
    L'.Conserved config := by
  obtain ⟨hcfg, hperm, hdc, hle, hlost⟩ := h
  obtain ⟨r, hr, rfl⟩ := Option.map_eq_some'.1 hs
  unfold LoggingClient.log at hr
  split_ifs at hr with hacc
  · rcases LoggingClient.enqueue_cases hr with ⟨hlt, rfl⟩ | ⟨d, rest, hge, hb, rfl⟩
    · refine ⟨hcfg, List.perm_iff_count.2 fun a => ?_, by simpa using hdc, ?_, hlost⟩
      · have := List.perm_iff_count.1 hperm a
        simp only [if_pos hacc, List.count_append, Option.toList_none, List.append_nil] at this ⊢
        omega
      · simp only [List.length_append, List.length_singleton]; rw [← hcfg]; omega
    · refine ⟨hcfg, List.perm_iff_count.2 fun a => ?_, by simp [hdc], ?_, hlost⟩
      · have := List.perm_iff_count.1 hperm a
        simp only [if_pos hacc, hb, List.count_append, List.count_cons, Option.toList_some,
          List.count_nil] at this ⊢
        omega
      · simp only [hb, List.length_cons, List.length_append, List.length_singleton] at hle ⊢
        exact hle
  · cases hr
    exact ⟨hcfg, by simpa [if_neg hacc] using hperm, by simpa using hdc, hle, hlost⟩

/-- **Every step keeps the accounting.** -/
theorem conserved_step {L L' : Ledger} {config : LoggingClientConfig} (h : L.Conserved config)
    {op : LogOp} (hs : L.step op = some L') : L'.Conserved config := by
  cases op with
  | log => exact conserved_log h hs
  | flushLoop ready =>
    simp only [step] at hs
    split_ifs at hs
    · cases hs; exact h
    · cases hs; exact conserved_deliver h ready
  | flush ready => cases hs; exact conserved_deliver h ready

/-- Every run that does not pop an empty buffer keeps the accounting. -/
theorem run_conserved {L L' : Ledger} {config : LoggingClientConfig} (h : L.Conserved config) :
    ∀ {ops : List LogOp}, L.run ops = some L' → L'.Conserved config
  | [], hr => by cases hr; exact h
  | op :: ops, hr => by
    obtain ⟨L₁, h₁, h₂⟩ := Option.bind_eq_some.1 hr
    exact run_conserved (conserved_step h h₁) h₂

end Ledger

/-- **Where the log entries go.** Along every run of `log` calls, flush-loop iterations and
`flush()` calls that does not pop an empty buffer, every accepted entry is pending, sent,
written to the console, dropped or lost, and each exactly as often as it was accepted;
`dropped_count()` counts the dropped ones and the buffer never holds more than `buffer_size`
entries; with the fallback on, nothing is lost. `enqueue` pops an empty buffer exactly when
`buffer_size` is `0` and nothing is pending, and the entry it drops is always the oldest. -/
theorem log_buffer_accounting (config : LoggingClientConfig) (ops : List LogOp) :
    (∀ L, (Ledger.init config).run ops = some L →
      L.accepted.Perm (L.client.buffer ++ L.sent ++ L.console ++ L.dropped ++ L.lost) ∧
      L.client.dropped_count = L.dropped.length ∧ L.client.buffer.length ≤ config.buffer_size ∧
      (config.fallback_enabled = true → L.lost = [])) ∧
    (∀ (entry : LogEntry) (c : LoggingClient),
      c.enqueue entry = none ↔ c.config.buffer_size = 0 ∧ c.buffer = []) ∧
    (∀ (entry : LogEntry) (c c' : LoggingClient) (d : LogEntry), c.enqueue entry = some (c', some d) →
      c.buffer = d :: c'.buffer.dropLast ∧ c'.buffer = c.buffer.tail ++ [entry]) := by
  refine ⟨fun L hL => ?_, LoggingClient.enqueue_eq_none_iff, fun _ _ _ _ => LoggingClient.enqueue_dropped⟩
  obtain ⟨-, hperm, hdc, hle, hlost⟩ := Ledger.run_conserved (Ledger.conserved_init config) hL
  exact ⟨hperm, hdc, hle, hlost⟩

/-- With `buffer_size` 0 the first accepted entry pops an empty buffer; with the fallback off,
an entry taken for a batch that fails to send is neither pending, delivered nor dropped. -/
theorem log_buffer_accounting_failures :
    LoggingClient.enqueue ⟨.INFO, [], [], [], 0⟩ (LoggingClient.create { buffer_size := 0 }) = none ∧
    (Ledger.init { fallback_enabled := false }).run [.log .INFO [] [] [] 0, .flush false] =
      some ⟨⟨{ fallback_enabled := false }, [], 0, false⟩, [⟨.INFO, [], [], [], 0⟩], [], [], [],
        [⟨.INFO, [], [], [], 0⟩]⟩ :=
  ⟨((log_buffer_accounting { buffer_size := 0 } []).2.1 _ _).2 ⟨rfl, rfl⟩, rfl⟩

end CryptoService
