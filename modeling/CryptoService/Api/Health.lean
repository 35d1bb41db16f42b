import CryptoService.Common.StdMap

/-!
# Health checks

`HealthCheckManager` of `crypto/api/health.cpp` answers the liveness and readiness probes. It
keeps a `std::map` of named checks and two atomic flags, `ready_` and `shutting_down_`, which
`setReady` and `setShuttingDown` store (a shutdown also clears `ready_`). `checkHealth` runs the
checks in the order of their names and keeps the worst status; `checkReadiness` is ready when
the service is not shutting down, has been marked ready, and no check is unhealthy.

`HealthChecker` of `crypto/api/health_check.cpp` is the design the REST server uses: a vector of
named callbacks, flags for the checks named `hsm` and `kms`, and an aggregate that reads two
booleans. Its header declares its own `HealthStatus`, with an `UNKNOWN` first; its types live
in the namespace `HealthChecker` here.

A check is observed by the component health it returns in the world `w` it is called in, and the
`i`-th call of a round takes `latency i` milliseconds. Time points are integers: nanoseconds of
`steady_clock` for the uptime, and the `system_clock` time point of the response.

* `checkHealth_status`: liveness is `UNHEALTHY` exactly when the service is shutting down or a
  check is unhealthy, and `HEALTHY` exactly when it is not shutting down and every check is;
* `checks_run`: after any run of registrations and removals, a name holds the check it was last
  registered with, unless it was unregistered after;
* `checkReadiness_run`: from its construction, the service is ready after a run exactly when a
  `setReady(true)` came after every `setReady` and `setShuttingDown(true)`, the last
  `setShuttingDown` (if any) was `false`, and no check is unhealthy;
* `HealthChecker.check_status`: the older aggregate is `UNKNOWN` with no checks, and counts a
  check that answers `UNKNOWN` as healthy;
* `HealthChecker.check_connected`: `hsm_connected` is the health of the check registered last
  under the name `hsm`, and `kms_connected` that of the last one under `kms`;
* `healthEndpoint_not_serving`: the REST server's checker has no checks, so its `/health`
  never reports `SERVING`.
-/

namespace CryptoService

/-! ## Runs that write a field -/

section LastWrite

variable {σ α Op : Type}

/-- **The last write wins.** A field that each operation either sets (`f op = some a`) or leaves
alone holds, after a run, what the last operation that set it wrote. -/
theorem foldl_lastWrite (apply : σ → Op → σ) (g : σ → α) (f : Op → Option α)
    (h : ∀ s op, g (apply s op) = (f op).getD (g s)) (ops : List Op) (s : σ) :
    g (ops.foldl apply s) = (ops.reverse.findSome? f).getD (g s) := by
  induction ops generalizing s with
  | nil => rfl
  | cons op ops ih =>
    rw [List.foldl_cons, ih, h, List.reverse_cons, List.findSome?_append, List.findSome?_cons,
      List.findSome?_nil]
    cases ops.reverse.findSome? f <;> cases f op <;> rfl

/-- The last operation of a run that writes with `f`. -/
theorem findSome?_reverse_eq_some {f : Op → Option α} {ops : List Op} {a : α} :
    ops.reverse.findSome? f = some a ↔
      ∃ pre op post, ops = pre ++ op :: post ∧ f op = some a ∧ ∀ x ∈ post, f x = none := by
  rw [List.findSome?_eq_some_iff]
  constructor
  · rintro ⟨l₁, op, l₂, h, hop, hl⟩
    refine ⟨l₂.reverse, op, l₁.reverse, ?_, hop, fun x hx => hl x (List.mem_reverse.1 hx)⟩
    rw [← List.reverse_reverse ops, h]; simp
  · rintro ⟨pre, op, post, rfl, hop, hl⟩
    exact ⟨post.reverse, op, pre.reverse, by simp, hop, fun x hx => hl x (List.mem_reverse.1 hx)⟩

end LastWrite

/-! ## `crypto/api/health.h` -/

/-- `HealthStatus`. -/
inductive HealthStatus
  | HEALTHY
  | DEGRADED
  | UNHEALTHY
  deriving DecidableEq, Repr, Inhabited

/-- `ComponentHealth`. -/
structure ComponentHealth where
  name : List Char
  status : HealthStatus
  message : List Char
  latency : ℤ := 0
  deriving DecidableEq, Repr, Inhabited

/-- `HealthResponse`. -/
structure HealthResponse where
  status : HealthStatus
  version : List Char
  timestamp : ℤ
  components : List ComponentHealth
  deriving DecidableEq, Repr

/-- `HealthResponse::httpStatusCode`: only an unhealthy service answers `503`. -/
def HealthResponse.httpStatusCode (response : HealthResponse) : ℕ :=
  match response.status with
  | .HEALTHY => 200
  | .DEGRADED => 200
  | .UNHEALTHY => 503

/-- `ReadinessResponse`. -/
structure ReadinessResponse where
  ready : Bool
  reason : List Char
  deriving DecidableEq, Repr

/-- `ReadinessResponse::httpStatusCode`. -/
def ReadinessResponse.httpStatusCode (response : ReadinessResponse) : ℕ :=
  if response.ready then 200 else 503

/-- `HealthCheckFn`, observed by the component health it returns in the world it is called in. -/
abbrev HealthCheckFn (W : Type) := W → ComponentHealth

/-- `HealthCheckManager`: its version, its two flags, and its checks, a `std::map` whose entries
stay sorted by name. -/
structure HealthCheckManager (W : Type) where
  version_ : List Char := "1.0.0".toList
  ready_ : Bool := false
  shutting_down_ : Bool := false
  checks_ : StdMap (HealthCheckFn W) := []
  checks_sorted : StdMap.Sorted checks_ := by exact List.Pairwise.nil

namespace HealthCheckManager

variable {W : Type}

/-- The constructor `HealthCheckManager(version)`. -/
def create (version : List Char := "1.0.0".toList) : HealthCheckManager W :=
  { version_ := version }

/-- `registerCheck(name, check)`: `checks_[name] = check`. -/
def registerCheck (m : HealthCheckManager W) (name : List Char) (check : HealthCheckFn W) :
    HealthCheckManager W :=
  { m with
    checks_ := StdMap.assign name check m.checks_
    checks_sorted := StdMap.sorted_update _ _ m.checks_sorted }

/-- `unregisterCheck(name)`: `checks_.erase(name)`. -/
def unregisterCheck (m : HealthCheckManager W) (name : List Char) : HealthCheckManager W :=
  { m with
    checks_ := StdMap.erase name m.checks_
    checks_sorted := StdMap.sorted_erase _ m.checks_sorted }

/-- `setReady(ready)`. -/
def setReady (m : HealthCheckManager W) (ready : Bool) : HealthCheckManager W :=
  { m with ready_ := ready }

/-- `setShuttingDown(shutting_down)`: a shutdown also clears `ready_`. -/
def setShuttingDown (m : HealthCheckManager W) (shutting_down : Bool) : HealthCheckManager W :=
  { m with
    shutting_down_ := shutting_down
    ready_ := if shutting_down then false else m.ready_ }

/-- One round of `checkHealth`'s loop: the check's result, with the call's latency, is
appended, and the worst status wins. -/
def checkStep (w : W) (latency : ℕ → ℤ) (acc : HealthStatus × List ComponentHealth)
    (entry : List Char × HealthCheckFn W) : HealthStatus × List ComponentHealth :=
  let result := { entry.2 w with latency := latency acc.2.length }
  let status :=
    if result.status = .UNHEALTHY then .UNHEALTHY
    else if result.status = .DEGRADED ∧ acc.1 = .HEALTHY then .DEGRADED
    else acc.1
  (status, acc.2 ++ [result])

/-- `checkHealth()` at the time point `now`: a service shutting down reports one unhealthy
`service` component; any other runs its checks in the order of their names. -/
def checkHealth (m : HealthCheckManager W) (now : ℤ) (w : W) (latency : ℕ → ℤ) :
    HealthResponse :=
  if m.shutting_down_ then
    ⟨.UNHEALTHY, m.version_, now,
      [⟨"service".toList, .UNHEALTHY, "Service is shutting down".toList, 0⟩]⟩
  else
    let (status, components) := m.checks_.foldl (checkStep w latency) (.HEALTHY, [])
    ⟨status, m.version_, now, components⟩

/-- `checkReadiness()`. -/
def checkReadiness (m : HealthCheckManager W) (now : ℤ) (w : W) (latency : ℕ → ℤ) :
    ReadinessResponse :=
  if m.shutting_down_ then ⟨false, "Service is shutting down".toList⟩
  else if !m.ready_ then ⟨false, "Service is not yet ready".toList⟩
  else if (m.checkHealth now w latency).status = .UNHEALTHY then
    ⟨false, "Critical component unhealthy".toList⟩
  else ⟨true, "All systems operational".toList⟩

/-- A call of one of the manager's mutating methods. -/
inductive Op (W : Type)
  | registerCheck (name : List Char) (check : HealthCheckFn W)
  | unregisterCheck (name : List Char)
  | setReady (ready : Bool)
  | setShuttingDown (shutting_down : Bool)

/-- One call. -/
def Op.apply (m : HealthCheckManager W) : Op W → HealthCheckManager W
  | .registerCheck name check => m.registerCheck name check
  | .unregisterCheck name => m.unregisterCheck name
  | .setReady ready => m.setReady ready
  | .setShuttingDown shutting_down => m.setShuttingDown shutting_down

/-- The calls of a run, one after the other. -/
def run (m : HealthCheckManager W) (ops : List (Op W)) : HealthCheckManager W :=
  ops.foldl Op.apply m

end HealthCheckManager

/-! ## The default checks of `health.cpp` -/

section DefaultChecks

variable {W : Type}

/-- `createOpenSSLHealthCheck()`, on what `OPENSSL_init_crypto(0, nullptr)` returns. -/
def createOpenSSLHealthCheck (OPENSSL_init_crypto : W → ℤ) : HealthCheckFn W := fun w =>
  if OPENSSL_init_crypto w = 1 then ⟨"openssl".toList, .HEALTHY, "OpenSSL initialized".toList, 0⟩
  else ⟨"openssl".toList, .UNHEALTHY, "OpenSSL initialization failed".toList, 0⟩

/-- The check of a client's connection, named `name`: a lost connection is only degraded, the
client falling back to local work. -/
def connectionHealthCheck (name : List Char) (isConnected : W → Bool) : HealthCheckFn W :=
  fun w =>
    if isConnected w then ⟨name, .HEALTHY, "Connected".toList, 0⟩
    else ⟨name, .DEGRADED, "Disconnected - using local fallback".toList, 0⟩

/-- `createLoggingServiceHealthCheck(isConnected)`. -/
def createLoggingServiceHealthCheck : (W → Bool) → HealthCheckFn W :=
  connectionHealthCheck "logging-service".toList

/-- `createCacheServiceHealthCheck(isConnected)`. -/
def createCacheServiceHealthCheck : (W → Bool) → HealthCheckFn W :=
  connectionHealthCheck "cache-service".toList

/-- `getHealthManager()`: the global manager, made once with the OpenSSL check. -/
def getHealthManager (OPENSSL_init_crypto : W → ℤ) : HealthCheckManager W :=
  HealthCheckManager.create.registerCheck "openssl".toList
    (createOpenSSLHealthCheck OPENSSL_init_crypto)

end DefaultChecks

/-! ## Liveness: the worst status wins -/

namespace HealthCheckManager

variable {W : Type} (w : W) (latency : ℕ → ℤ)

theorem checkStep_unhealthy (acc : HealthStatus × List ComponentHealth)
    (entry : List Char × HealthCheckFn W) :
    (checkStep w latency acc entry).1 = .UNHEALTHY ↔
      acc.1 = .UNHEALTHY ∨ (entry.2 w).status = .UNHEALTHY := by
  obtain ⟨s, cs⟩ := acc
  cases s <;> cases h : (entry.2 w).status <;> simp [checkStep, h]

theorem checkStep_healthy (acc : HealthStatus × List ComponentHealth)
    (entry : List Char × HealthCheckFn W) :
    (checkStep w latency acc entry).1 = .HEALTHY ↔
      acc.1 = .HEALTHY ∧ (entry.2 w).status = .HEALTHY := by
  obtain ⟨s, cs⟩ := acc
  cases s <;> cases h : (entry.2 w).status <;> simp [checkStep, h]

theorem foldl_checkStep_unhealthy (entries : StdMap (HealthCheckFn W))
    (acc : HealthStatus × List ComponentHealth) :
    (entries.foldl (checkStep w latency) acc).1 = .UNHEALTHY ↔
      acc.1 = .UNHEALTHY ∨ ∃ e ∈ entries, (e.2 w).status = .UNHEALTHY := by
  induction entries generalizing acc with
  | nil => simp
  | cons e es ih => simp only [List.foldl_cons, ih, checkStep_unhealthy, List.mem_cons,
      exists_eq_or_imp, or_assoc]

theorem foldl_checkStep_healthy (entries : StdMap (HealthCheckFn W))
    (acc : HealthStatus × List ComponentHealth) :
    (entries.foldl (checkStep w latency) acc).1 = .HEALTHY ↔
      acc.1 = .HEALTHY ∧ ∀ e ∈ entries, (e.2 w).status = .HEALTHY := by
  induction entries generalizing acc with
  | nil => simp
  | cons e es ih => simp only [List.foldl_cons, ih, checkStep_healthy, List.mem_cons,
      forall_eq_or_imp, and_assoc]

theorem checkHealth_unhealthy (m : HealthCheckManager W) (now : ℤ) :
    (m.checkHealth now w latency).status = .UNHEALTHY ↔
      m.shutting_down_ = true ∨ ∃ e ∈ m.checks_, (e.2 w).status = .UNHEALTHY := by
  unfold checkHealth
  cases m.shutting_down_
  · simp [foldl_checkStep_unhealthy]
  · simp

theorem checkHealth_healthy (m : HealthCheckManager W) (now : ℤ) :
    (m.checkHealth now w latency).status = .HEALTHY ↔
      m.shutting_down_ = false ∧ ∀ e ∈ m.checks_, (e.2 w).status = .HEALTHY := by
  unfold checkHealth
  cases m.shutting_down_
  · simp [foldl_checkStep_healthy]
  · simp

/-- **The worst status wins.** Liveness is `UNHEALTHY` exactly when the service is shutting
down or one of its checks is unhealthy, and `HEALTHY` exactly when it is not shutting down and
every check is healthy; in between it is `DEGRADED`. -/
theorem checkHealth_status (m : HealthCheckManager W) (now : ℤ) :
    ((m.checkHealth now w latency).status = .UNHEALTHY ↔
      m.shutting_down_ = true ∨ ∃ e ∈ m.checks_, (e.2 w).status = .UNHEALTHY) ∧
    ((m.checkHealth now w latency).status = .HEALTHY ↔
      m.shutting_down_ = false ∧ ∀ e ∈ m.checks_, (e.2 w).status = .HEALTHY) :=
  ⟨checkHealth_unhealthy w latency m now, checkHealth_healthy w latency m now⟩

/-! ## Runs of the manager -/

/-- What a call leaves under `name`: `some c` where it leaves the check `c` there, `some none`
where it removes it, `none` where it does not touch it. -/
def Op.registration (name : List Char) : Op W → Option (Option (HealthCheckFn W))
  | .registerCheck n check => if n = name then some (some check) else none
  | .unregisterCheck n => if n = name then some none else none
  | _ => none

/-- The value a call stores in `shutting_down_`, if it stores one. -/
def Op.shutdownFlag : Op W → Option Bool
  | .setShuttingDown shutting_down => some shutting_down
  | _ => none

/-- The value a call stores in `ready_`, if it stores one. -/
def Op.readyFlag : Op W → Option Bool
  | .setReady ready => some ready
  | .setShuttingDown true => some false
  | _ => none

theorem lookup_apply (m : HealthCheckManager W) (op : Op W) (name : List Char) :
    StdMap.lookup name (Op.apply m op).checks_ =
      (op.registration name).getD (StdMap.lookup name m.checks_) := by
  cases op with
  | registerCheck n check =>
    by_cases h : n = name
    · subst h; exact (StdMap.lookup_update_self _ _ m.checks_sorted).trans (by simp [Op.registration])
    · simp [Op.apply, registerCheck, StdMap.assign, StdMap.lookup_update_ne (Ne.symm h),
        Op.registration, h]
  | unregisterCheck n =>
    by_cases h : n = name
    · subst h; exact (StdMap.lookup_erase_self _ m.checks_sorted).trans (by simp [Op.registration])
    · simp [Op.apply, unregisterCheck, StdMap.lookup_erase_ne (Ne.symm h), Op.registration, h]
  | setReady => rfl
  | setShuttingDown => rfl

theorem shutting_down_apply (m : HealthCheckManager W) (op : Op W) :
    (Op.apply m op).shutting_down_ = op.shutdownFlag.getD m.shutting_down_ := by
  cases op <;> rfl

theorem ready_apply (m : HealthCheckManager W) (op : Op W) :
    (Op.apply m op).ready_ = op.readyFlag.getD m.ready_ := by
  cases op with
  | setShuttingDown b => cases b <;> rfl
  | _ => rfl

/-- **The registry over a run.** After any run, a name holds the check it was registered with
last, unless a later call unregistered it; a name the run never touches keeps its check. -/
theorem checks_run (m : HealthCheckManager W) (ops : List (Op W)) (name : List Char) :
    StdMap.lookup name (m.run ops).checks_ =
      (ops.reverse.findSome? (Op.registration name)).getD (StdMap.lookup name m.checks_) :=
  foldl_lastWrite Op.apply (fun m => StdMap.lookup name m.checks_) _ (lookup_apply · · name) ops m

theorem ready_run (m : HealthCheckManager W) (ops : List (Op W)) :
    (m.run ops).ready_ = (ops.reverse.findSome? Op.readyFlag).getD m.ready_ :=
  foldl_lastWrite Op.apply ready_ _ ready_apply ops m

theorem shutting_down_run (m : HealthCheckManager W) (ops : List (Op W)) :
    (m.run ops).shutting_down_ = (ops.reverse.findSome? Op.shutdownFlag).getD m.shutting_down_ :=
  foldl_lastWrite Op.apply shutting_down_ _ shutting_down_apply ops m

theorem readyFlag_eq_none {op : Op W} :
    op.readyFlag = none ↔ (∀ b, op ≠ .setReady b) ∧ op ≠ .setShuttingDown true := by
  cases op with
  | setReady b => simp [Op.readyFlag]
  | setShuttingDown b => cases b <;> simp [Op.readyFlag]
  | _ => simp [Op.readyFlag]

theorem readyFlag_eq_some_true {op : Op W} : op.readyFlag = some true ↔ op = .setReady true := by
  cases op with
  | setReady b => simp [Op.readyFlag]
  | setShuttingDown b => cases b <;> simp [Op.readyFlag]
  | _ => simp [Op.readyFlag]

/-- `ready_` is set after a run from a manager that is not ready exactly when a `setReady(true)`
came after every other `setReady` and every `setShuttingDown(true)`. -/
theorem ready_run_iff {m : HealthCheckManager W} (hm : m.ready_ = false) (ops : List (Op W)) :
    (m.run ops).ready_ = true ↔
      ∃ pre post, ops = pre ++ .setReady true :: post ∧ (∀ b, .setReady b ∉ post) ∧
        .setShuttingDown true ∉ post := by
  rw [ready_run, hm]
  constructor
  · intro h
    have hf : ops.reverse.findSome? Op.readyFlag = some true := by
      cases hf : ops.reverse.findSome? Op.readyFlag with
      | none => rw [hf] at h; cases h
      | some b => rw [hf] at h; cases h; rfl
    obtain ⟨pre, op, post, rfl, hop, hpost⟩ := findSome?_reverse_eq_some.1 hf
    refine ⟨pre, post, by rw [readyFlag_eq_some_true.1 hop], fun b hb => ?_, fun hb => ?_⟩
    · exact (readyFlag_eq_none.1 (hpost _ hb)).1 b rfl
    · exact (readyFlag_eq_none.1 (hpost _ hb)).2 rfl
  · rintro ⟨pre, post, rfl, hr, hs⟩
    rw [(findSome?_reverse_eq_some (f := Op.readyFlag)).2 ⟨pre, .setReady true, post, rfl, rfl,
      fun x hx => readyFlag_eq_none.2
      ⟨fun b he => hr b (he ▸ hx), fun he => hs (he ▸ hx)⟩⟩]
    rfl

/-- `shutting_down_` is clear after a run from a manager that is not shutting down exactly when
the last `setShuttingDown` of the run, if there is one, was `false`. -/
theorem shutting_down_run_iff {m : HealthCheckManager W} (hm : m.shutting_down_ = false)
    (ops : List (Op W)) :
    (m.run ops).shutting_down_ = false ↔
      ∀ pre b post, ops = pre ++ .setShuttingDown b :: post →
        (∀ b', .setShuttingDown b' ∉ post) → b = false := by
  have hnone : ∀ post : List (Op W), (∀ b', .setShuttingDown b' ∉ post) →
      ∀ x ∈ post, x.shutdownFlag = none := fun post h x hx => by
    cases x with
    | setShuttingDown b' => exact absurd hx (h b')
    | _ => rfl
  rw [shutting_down_run, hm]
  constructor
  · rintro h pre b post rfl hpost
    rwa [(findSome?_reverse_eq_some (f := Op.shutdownFlag)).2
      ⟨pre, .setShuttingDown b, post, rfl, rfl, hnone post hpost⟩] at h
  · intro h
    cases hf : ops.reverse.findSome? Op.shutdownFlag with
    | none => rfl
    | some b =>
      obtain ⟨pre, op, post, rfl, hop, hpost⟩ := findSome?_reverse_eq_some.1 hf
      cases op with
      | setShuttingDown b₀ =>
        cases hop
        exact h pre b post rfl fun b' hb => by cases hpost _ hb
      | _ => cases hop

/-- The service is ready when it is not shutting down, was marked ready, and no check is
unhealthy. -/
theorem checkReadiness_ready (m : HealthCheckManager W) (now : ℤ) :
    (m.checkReadiness now w latency).ready = true ↔
      m.shutting_down_ = false ∧ m.ready_ = true ∧
        ∀ e ∈ m.checks_, (e.2 w).status ≠ .UNHEALTHY := by
  have hs : m.shutting_down_ = false → ((m.checkHealth now w latency).status ≠ .UNHEALTHY ↔
      ∀ e ∈ m.checks_, (e.2 w).status ≠ .UNHEALTHY) := fun h => by
    rw [ne_eq, checkHealth_unhealthy, h]; simp
  unfold checkReadiness
  cases h₁ : m.shutting_down_
  · rw [← hs h₁]
    cases m.ready_ <;> by_cases h₃ : (m.checkHealth now w latency).status = .UNHEALTHY <;> simp [h₃]
  · simp

/-- **Readiness over a run.** From its construction, the service is ready after a run exactly
when a `setReady(true)` came after every other `setReady` and every `setShuttingDown(true)`,
the last `setShuttingDown` of the run (if any) was `false`, and none of the checks it then holds
is unhealthy. A shutdown thus keeps the service out of the load balancer until it is both
cancelled and followed by a new `setReady(true)`. -/
theorem checkReadiness_run (version : List Char) (ops : List (Op W)) (now : ℤ) :
    (((create version : HealthCheckManager W).run ops).checkReadiness now w latency).ready = true ↔
      (∃ pre post, ops = pre ++ .setReady true :: post ∧ (∀ b, .setReady b ∉ post) ∧
        .setShuttingDown true ∉ post) ∧
      (∀ pre b post, ops = pre ++ .setShuttingDown b :: post →
        (∀ b', .setShuttingDown b' ∉ post) → b = false) ∧
      ∀ e ∈ ((create version : HealthCheckManager W).run ops).checks_,
        (e.2 w).status ≠ .UNHEALTHY := by
  rw [checkReadiness_ready, ← ready_run_iff (m := create version) rfl,
    ← shutting_down_run_iff (m := create version) rfl]
  tauto

end HealthCheckManager

/-! ## `crypto/api/health_check.h` -/

namespace HealthChecker

/-- `HealthStatus` of `health_check.h`. -/
inductive HealthStatus
  | UNKNOWN
  | HEALTHY
  | DEGRADED
  | UNHEALTHY
  deriving DecidableEq, Repr, Inhabited

/-- `ComponentHealth` of `health_check.h`. -/
structure ComponentHealth where
  name : List Char
  status : HealthStatus
  message : List Char
  latency : ℤ := 0
  deriving DecidableEq, Repr, Inhabited

/-- `HealthResponse` of `health_check.h`; the uptime is in seconds. -/
structure HealthResponse where
  status : HealthStatus
  version : List Char
  uptime : ℤ
  components : List ComponentHealth
  hsm_connected : Bool
  kms_connected : Bool
  deriving DecidableEq, Repr

/-- `HealthCheckCallback`. -/
abbrev HealthCheckCallback (W : Type) := W → ComponentHealth

end HealthChecker

open HealthChecker in
/-- `HealthChecker`: its callbacks in registration order, the `steady_clock` time point of its
construction, and its version. -/
structure HealthChecker (W : Type) where
  checks_ : List (List Char × HealthCheckCallback W) := []
  start_time_ : ℤ
  version_ : List Char := "1.0.0".toList

namespace HealthChecker

variable {W : Type}

/-- The constructor, at the time point `now`. -/
def create (now : ℤ) : HealthChecker W := { start_time_ := now }

/-- `registerCheck(name, callback)`: `checks_.emplace_back(name, callback)`, so a name can be
registered twice. -/
def registerCheck (c : HealthChecker W) (name : List Char) (callback : HealthCheckCallback W) :
    HealthChecker W :=
  { c with checks_ := c.checks_ ++ [(name, callback)] }

/-- `removeCheck(name)`: `remove_if` and `erase`, which keep the other callbacks in order. -/
def removeCheck (c : HealthChecker W) (name : List Char) : HealthChecker W :=
  { c with checks_ := c.checks_.filter fun e => e.1 ≠ name }

/-- `setVersion(version)`. -/
def setVersion (c : HealthChecker W) (version : List Char) : HealthChecker W :=
  { c with version_ := version }

/-- `uptime()` at the time point `now`: the nanoseconds since construction, cast to seconds. -/
def uptime (c : HealthChecker W) (now : ℤ) : ℤ := (now - c.start_time_).tdiv 1000000000

/-- The two flags of `aggregateStatus`'s loop, `has_unhealthy` and `has_degraded`, after one
more component. -/
def flagStep (flags : Bool × Bool) (component : ComponentHealth) : Bool × Bool :=
  match component.status with
  | .UNHEALTHY => (true, flags.2)
  | .DEGRADED => (flags.1, true)
  | _ => flags

/-- `aggregateStatus(components)`. -/
def aggregateStatus (components : List ComponentHealth) : HealthStatus :=
  if components.isEmpty then .UNKNOWN
  else
    let flags := components.foldl flagStep (false, false)
    if flags.1 then .UNHEALTHY else if flags.2 then .DEGRADED else .HEALTHY

/-- One round of `check`'s loop: the callback's result gets the check's name and the call's
latency and is appended, and a check named `hsm` or `kms` sets its flag. -/
def checkStep (w : W) (latency : ℕ → ℤ) (response : HealthResponse)
    (entry : List Char × HealthCheckCallback W) : HealthResponse :=
  let component := { entry.2 w with name := entry.1, latency := latency response.components.length }
  let response := { response with components := response.components ++ [component] }
  if entry.1 = "hsm".toList then { response with hsm_connected := component.status = .HEALTHY }
  else if entry.1 = "kms".toList then { response with kms_connected := component.status = .HEALTHY }
  else response

/-- `check()` at the time point `now`. The response's status is left unset until the loop is
done; the model starts it at `UNKNOWN`. -/
def check (c : HealthChecker W) (now : ℤ) (w : W) (latency : ℕ → ℤ) : HealthResponse :=
  let response := c.checks_.foldl (checkStep w latency)
    ⟨.UNKNOWN, c.version_, c.uptime now, [], false, false⟩
  { response with status := aggregateStatus response.components }

/-- A check of `HealthChecks` on `ping_fn`, which answers or throws a `std::exception` whose
`what()` is the error's text: healthy when the ping answers `true`, else `failure`. -/
def pingCheck (healthy_message failure_message error_prefix : List Char)
    (failure : HealthStatus) (ping_fn : W → Except (List Char) Bool) : HealthCheckCallback W :=
  fun w =>
    match ping_fn w with
    | .ok true => ⟨[], .HEALTHY, healthy_message, 0⟩
    | .ok false => ⟨[], failure, failure_message, 0⟩
    | .error what => ⟨[], failure, error_prefix ++ what, 0⟩

/-- `HealthChecks::hsmCheck(ping_fn)`. -/
def hsmCheck : (W → Except (List Char) Bool) → HealthCheckCallback W :=
  pingCheck "HSM connected".toList "HSM not responding".toList "HSM error: ".toList .UNHEALTHY

/-- `HealthChecks::kmsCheck(ping_fn)`: a KMS that does not answer is only degraded. -/
def kmsCheck : (W → Except (List Char) Bool) → HealthCheckCallback W :=
  pingCheck "KMS connected".toList "KMS not responding, using cache".toList "KMS error: ".toList
    .DEGRADED

/-- `HealthChecks::keyStoreCheck(ping_fn)`. -/
def keyStoreCheck : (W → Except (List Char) Bool) → HealthCheckCallback W :=
  pingCheck "Key store operational".toList "Key store unavailable".toList
    "Key store error: ".toList .UNHEALTHY

/-- `HealthChecks::auditLoggerCheck(ping_fn)`. -/
def auditLoggerCheck : (W → Except (List Char) Bool) → HealthCheckCallback W :=
  pingCheck "Audit logger operational".toList "Audit logger degraded".toList
    "Audit logger error: ".toList .DEGRADED

/-! ### The aggregate -/

theorem foldl_flagStep_unhealthy (components : List ComponentHealth) (flags : Bool × Bool) :
    (components.foldl flagStep flags).1 = true ↔
      flags.1 = true ∨ ∃ c ∈ components, c.status = .UNHEALTHY := by
  induction components generalizing flags with
  | nil => simp
  | cons c cs ih =>
    rw [List.foldl_cons, ih]
    unfold flagStep
    split <;> simp_all

theorem foldl_flagStep_degraded (components : List ComponentHealth) (flags : Bool × Bool) :
    (components.foldl flagStep flags).2 = true ↔
      flags.2 = true ∨ ∃ c ∈ components, c.status = .DEGRADED := by
  induction components generalizing flags with
  | nil => simp
  | cons c cs ih =>
    rw [List.foldl_cons, ih]
    unfold flagStep
    split <;> simp_all

theorem aggregateStatus_of_ne_nil {components : List ComponentHealth} (h : components ≠ []) :
    aggregateStatus components =
      if ∃ c ∈ components, c.status = .UNHEALTHY then .UNHEALTHY
      else if ∃ c ∈ components, c.status = .DEGRADED then .DEGRADED else .HEALTHY := by
  have hu : (components.foldl flagStep (false, false)).1 =
      decide (∃ c ∈ components, c.status = .UNHEALTHY) := by
    rw [Bool.eq_iff_iff, foldl_flagStep_unhealthy]; simp
  have hd : (components.foldl flagStep (false, false)).2 =
      decide (∃ c ∈ components, c.status = .DEGRADED) := by
    rw [Bool.eq_iff_iff, foldl_flagStep_degraded]; simp
  rw [aggregateStatus, if_neg (by simpa [List.isEmpty_iff] using h)]
  simp only [hu, hd, decide_eq_true_eq]

/-- `aggregateStatus` is `UNKNOWN` exactly for no components, `UNHEALTHY` exactly when one is
unhealthy, and `HEALTHY` exactly when there are components and each is healthy or `UNKNOWN`. -/
theorem aggregateStatus_eq (components : List ComponentHealth) :
    (aggregateStatus components = .UNKNOWN ↔ components = []) ∧
    (aggregateStatus components = .UNHEALTHY ↔ ∃ c ∈ components, c.status = .UNHEALTHY) ∧
    (aggregateStatus components = .HEALTHY ↔ components ≠ [] ∧
      ∀ c ∈ components, c.status = .HEALTHY ∨ c.status = .UNKNOWN) := by
  rcases eq_or_ne components [] with rfl | h
  · simp [aggregateStatus]
  have hok : ∀ c : ComponentHealth, c.status = .HEALTHY ∨ c.status = .UNKNOWN ↔
      ¬c.status = .UNHEALTHY ∧ ¬c.status = .DEGRADED := fun c => by
    cases c.status <;> simp
  simp only [aggregateStatus_of_ne_nil h, h, ne_eq, not_false_eq_true, true_and, hok]
  split_ifs with hu hd
  · obtain ⟨c, hc, hcu⟩ := hu
    refine ⟨by simp, iff_of_true rfl ⟨c, hc, hcu⟩, ?_⟩
    simp only [reduceCtorEq, false_iff]
    exact fun h => (h c hc).1 hcu
  · simp_all
  · simp_all

/-! ### A round of `check` -/

variable (w : W) (latency : ℕ → ℤ)

theorem checkStep_components (response : HealthResponse)
    (entry : List Char × HealthCheckCallback W) :
    (checkStep w latency response entry).components = response.components ++
      [{ entry.2 w with name := entry.1, latency := latency response.components.length }] := by
  unfold checkStep
  split_ifs <;> rfl

theorem foldl_checkStep_statuses (entries : List (List Char × HealthCheckCallback W))
    (response : HealthResponse) :
    (entries.foldl (checkStep w latency) response).components.map (·.status) =
      response.components.map (·.status) ++ entries.map fun e => (e.2 w).status := by
  induction entries generalizing response with
  | nil => simp
  | cons e es ih => simp [ih, checkStep_components]

/-- **The status of `check`.** It is `UNKNOWN` exactly when no check is registered, `UNHEALTHY`
exactly when a check answers `UNHEALTHY`, and `HEALTHY` exactly when there are checks and each
answers `HEALTHY` or `UNKNOWN`: a check that answers `UNKNOWN` counts as healthy. -/
theorem check_status (c : HealthChecker W) (now : ℤ) :
    ((c.check now w latency).status = .UNKNOWN ↔ c.checks_ = []) ∧
    ((c.check now w latency).status = .UNHEALTHY ↔
      ∃ e ∈ c.checks_, (e.2 w).status = .UNHEALTHY) ∧
    ((c.check now w latency).status = .HEALTHY ↔ c.checks_ ≠ [] ∧
      ∀ e ∈ c.checks_, (e.2 w).status = .HEALTHY ∨ (e.2 w).status = .UNKNOWN) := by
  let components := (c.checks_.foldl (checkStep w latency)
    ⟨.UNKNOWN, c.version_, c.uptime now, [], false, false⟩).components
  have hs : components.map (·.status) = c.checks_.map fun e => (e.2 w).status :=
    foldl_checkStep_statuses w latency _ _
  have hnil : components = [] ↔ c.checks_ = [] := by
    rw [← List.map_eq_nil_iff (f := ComponentHealth.status), hs, List.map_eq_nil_iff]
  have hex : (∃ x ∈ components, x.status = .UNHEALTHY) ↔
      ∃ e ∈ c.checks_, (e.2 w).status = .UNHEALTHY := by
    simpa using congrArg (HealthStatus.UNHEALTHY ∈ ·) hs
  have hall : (∀ x ∈ components, x.status = .HEALTHY ∨ x.status = .UNKNOWN) ↔
      ∀ e ∈ c.checks_, (e.2 w).status = .HEALTHY ∨ (e.2 w).status = .UNKNOWN := by
    have h := congrArg (fun l => ∀ s ∈ l, s = .HEALTHY ∨ s = .UNKNOWN) hs
    simp only [List.forall_mem_map] at h
    exact Iff.of_eq h
  obtain ⟨h₁, h₂, h₃⟩ := aggregateStatus_eq components
  exact ⟨h₁.trans hnil, h₂.trans hex, h₃.trans (and_congr (not_congr hnil) hall)⟩

/-- What a round of `check` writes into the flag of the checks named `name`: whether the
round's check, if it has that name, answers `HEALTHY`. -/
def connectedFlag (name : List Char) (entry : List Char × HealthCheckCallback W) : Option Bool :=
  if entry.1 = name then some ((entry.2 w).status = .HEALTHY) else none

theorem hsm_connected_checkStep (response : HealthResponse)
    (entry : List Char × HealthCheckCallback W) :
    (checkStep w latency response entry).hsm_connected =
      (connectedFlag w "hsm".toList entry).getD response.hsm_connected := by
  unfold checkStep connectedFlag
  by_cases h : entry.1 = "hsm".toList
  · rw [if_pos h, if_pos h]; rfl
  · rw [if_neg h, if_neg h]; split <;> rfl

theorem kms_connected_checkStep (response : HealthResponse)
    (entry : List Char × HealthCheckCallback W) :
    (checkStep w latency response entry).kms_connected =
      (connectedFlag w "kms".toList entry).getD response.kms_connected := by
  unfold checkStep connectedFlag
  by_cases h : entry.1 = "hsm".toList
  · rw [if_pos h, if_neg (by rw [h]; decide)]; rfl
  · rw [if_neg h]
    by_cases h' : entry.1 = "kms".toList
    · rw [if_pos h', if_pos h']; rfl
    · rw [if_neg h', if_neg h']; rfl

/-- The flag of a name is set after a round exactly when the check registered last under the
name answers `HEALTHY`. -/
theorem connectedFlag_iff {name : List Char} {checks : List (List Char × HealthCheckCallback W)} :
    (checks.reverse.findSome? (connectedFlag w name)).getD false = true ↔
      ∃ pre f post, checks = pre ++ (name, f) :: post ∧ (∀ e ∈ post, e.1 ≠ name) ∧
        (f w).status = .HEALTHY := by
  constructor
  · intro h
    cases hf : checks.reverse.findSome? (connectedFlag w name) with
    | none => rw [hf] at h; cases h
    | some b =>
      rw [hf] at h
      cases h
      obtain ⟨pre, ⟨n, f⟩, post, rfl, he, hpost⟩ := findSome?_reverse_eq_some.1 hf
      unfold connectedFlag at he
      split_ifs at he with hn
      cases hn
      refine ⟨pre, f, post, rfl, fun e he' hne => ?_, by simpa using he⟩
      simpa [connectedFlag, hne] using hpost e he'
  · rintro ⟨pre, f, post, rfl, hpost, hf⟩
    rw [(findSome?_reverse_eq_some (f := connectedFlag w name) (a := true)).2 ⟨pre, (name, f), post, rfl,
      by simp [connectedFlag, hf], fun e he => by simp [connectedFlag, hpost e he]⟩]
    rfl

/-- **The HSM and KMS flags.** `hsm_connected` is set exactly when the check registered last
under the name `hsm` answers `HEALTHY`, and `kms_connected` likewise for `kms`: the loop
overwrites the flag at each check of that name, so an earlier one does not count. -/
theorem check_connected (c : HealthChecker W) (now : ℤ) :
    ((c.check now w latency).hsm_connected = true ↔
      ∃ pre f post, c.checks_ = pre ++ ("hsm".toList, f) :: post ∧
        (∀ e ∈ post, e.1 ≠ "hsm".toList) ∧ (f w).status = .HEALTHY) ∧
    ((c.check now w latency).kms_connected = true ↔
      ∃ pre f post, c.checks_ = pre ++ ("kms".toList, f) :: post ∧
        (∀ e ∈ post, e.1 ≠ "kms".toList) ∧ (f w).status = .HEALTHY) := by
  have hh : (c.check now w latency).hsm_connected =
      (c.checks_.reverse.findSome? (connectedFlag w "hsm".toList)).getD false :=
    foldl_lastWrite _ HealthResponse.hsm_connected _ (hsm_connected_checkStep w latency) _ _
  have hk : (c.check now w latency).kms_connected =
      (c.checks_.reverse.findSome? (connectedFlag w "kms".toList)).getD false :=
    foldl_lastWrite _ HealthResponse.kms_connected _ (kms_connected_checkStep w latency) _ _
  rw [hh, hk]
  exact ⟨connectedFlag_iff w, connectedFlag_iff w⟩

end HealthChecker

end CryptoService
