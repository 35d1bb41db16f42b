import Mathlib.Data.List.Basic

/-!
# The shutdown coordinator

`ShutdownHandler` is the process-wide handler of termination requests: `onShutdown` registers a
callback, and the first `requestShutdown` (a signal, or a direct call) sets
`shutdown_requested_` by compare-and-swap and runs a copy of the callbacks. `GracefulShutdown`
coordinates components: its constructor registers `[this] { shutdown(); }` with the handler, and
its first `shutdown` (also by compare-and-swap, also from the destructor) stops the in-flight
guard accepting requests, waits for the drain, and calls the components' shutdown functions.

A registered `std::function<void()>` is observed by what it emits (`Action`); the handler, the
guard's statics, the coordinators and the output form one `World`, and `step` runs one call.
A coordinator's destructor is taken as its last call: the object is not followed past it,
although the handler keeps the `[this]` lambda.

* `executeCallbacks_eq`: the handler runs its callbacks in **registration** order;
  `GracefulShutdown.shutdown_eq`: a coordinator runs its components in **reverse** order;
* `requestShutdown_of_requested`, `shutdown_of_shutting_down`: both run at most once;
* `requested_run`, `not_accepting_run`: `isShutdownRequested` stays true from the first request
  on, and once a coordinator has started no request is accepted again;
* `run_registrations_requests`, `run_components_triggers`, `shutdown_order`: registrations
  followed by requests, for the handler and for a coordinator.
-/

namespace CryptoService

namespace Resilience

/-- A registered `std::function<void()>` as its caller observes it: it runs under its `id`, and
may throw a `std::exception` whose `what()` is `throws`. -/
structure Action where
  id : ℕ
  throws : Option (List Char) := none
  deriving DecidableEq, Repr

/-- What the process shows: an action ran, or a line went to standard output or error. -/
inductive Event
  | ran (id : ℕ)
  | out (line : List Char)
  | err (line : List Char)
  deriving DecidableEq, Repr

/-- A call of `a` inside `try { ... } catch (const std::exception& e)`, whose handler writes
`context` and `e.what()` to standard error. -/
def Action.call (context : List Char) (a : Action) : List Event :=
  .ran a.id :: match a.throws with
    | none => []
    | some e => [.err (context ++ e)]

/-- A `ShutdownCallback`: an action registered with `onShutdown`, or the lambda
`[this] { shutdown(); }` that the constructor of the `i`-th `GracefulShutdown` registers. -/
inductive ShutdownCallback
  | action (a : Action)
  | gracefulShutdown (i : ℕ)
  deriving DecidableEq, Repr

/-- The singleton `ShutdownHandler::instance()`. -/
structure ShutdownHandler where
  shutdown_requested_ : Bool := false
  callbacks_ : List ShutdownCallback := []
  deriving DecidableEq, Repr

/-- The static members of `InFlightGuard`. -/
structure InFlightGuard where
  in_flight_count_ : UInt32 := 0
  accepting_ : Bool := true
  deriving DecidableEq, Repr

/-- A `GracefulShutdown`; `timeout_` is in seconds (30 by default). -/
structure GracefulShutdown where
  timeout_ : ℕ := 30
  shutting_down_ : Bool := false
  components_ : List (List Char × Action) := []
  deriving DecidableEq, Repr

/-- The handler, the guard, the coordinators constructed so far (by construction order) and
the events shown so far. -/
structure World where
  handler : ShutdownHandler := {}
  guard : InFlightGuard := {}
  coordinators : List GracefulShutdown := []
  trace : List Event := []
  deriving DecidableEq, Repr

/-- The world after `es` are shown. -/
def World.emit (w : World) (es : List Event) : World := { w with trace := w.trace ++ es }

@[simp] theorem World.emit_emit (w : World) (a b : List Event) :
    (w.emit a).emit b = w.emit (a ++ b) := by
  simp [World.emit]

@[simp] theorem World.emit_nil (w : World) : w.emit [] = w := by simp [World.emit]

/-- A loop that only shows events shows them all, in the loop's order. -/
theorem World.foldl_emit {α : Type} (f : α → List Event) (l : List α) (w : World) :
    l.foldl (fun w c => w.emit (f c)) w = w.emit (l.flatMap f) := by
  induction l generalizing w with
  | nil => simp
  | cons c l ih => simp [ih]

/-! ## `InFlightGuard` -/

namespace InFlightGuard

/-- `InFlightGuard::InFlightGuard`: `in_flight_count_.fetch_add(1)`. -/
def enter (g : InFlightGuard) : InFlightGuard :=
  { g with in_flight_count_ := g.in_flight_count_ + 1 }

/-- `InFlightGuard::~InFlightGuard`: `in_flight_count_.fetch_sub(1)`; the notification of
`drain_cv_` has no effect on a sequential run. -/
def leave (g : InFlightGuard) : InFlightGuard :=
  { g with in_flight_count_ := g.in_flight_count_ - 1 }

/-- `InFlightGuard::acceptingRequests`. -/
def acceptingRequests (g : InFlightGuard) : Bool := g.accepting_

/-- `InFlightGuard::waitForDrain`: stop accepting, then wait for the count to reach zero. On a
sequential run no request ends during the wait, so it returns whether the count is zero. -/
def waitForDrain (_timeout : ℕ) (g : InFlightGuard) : Bool × InFlightGuard :=
  let g := { g with accepting_ := false }
  (g.in_flight_count_ == 0, g)

end InFlightGuard

/-! ## `GracefulShutdown` -/

namespace GracefulShutdown

/-- One iteration of the loop over the components: the name on standard output, then the call. -/
def componentEvents (c : List Char × Action) : List Event :=
  .out ("Shutting down: ".toList ++ c.1) :: c.2.call ("Error shutting down ".toList ++ c.1 ++ ": ".toList)

/-- `GracefulShutdown::shutdown` of the `i`-th coordinator. -/
def shutdown (i : ℕ) (w : World) : World :=
  match w.coordinators[i]? with
  | none => w
  | some g =>
    if g.shutting_down_ then w
    else
      let w := { w with coordinators := w.coordinators.set i { g with shutting_down_ := true } }
      let w := w.emit [.out "Starting graceful shutdown...".toList]
      let w := { w with guard := (w.guard.waitForDrain (g.timeout_ * 1000)).2 }
      let components_copy := g.components_
      let w := components_copy.reverse.foldl (fun w c => w.emit (componentEvents c)) w
      w.emit [.out "Graceful shutdown complete".toList]

/-- `GracefulShutdown::~GracefulShutdown` of the `i`-th coordinator. -/
def destroy (i : ℕ) (w : World) : World :=
  match w.coordinators[i]? with
  | none => w
  | some g => if !g.shutting_down_ then shutdown i w else w

/-- `GracefulShutdown::addComponent` on the `i`-th coordinator. -/
def addComponent (i : ℕ) (name : List Char) (shutdown_fn : Action) (w : World) : World :=
  match w.coordinators[i]? with
  | none => w
  | some g =>
    let g := { g with components_ := g.components_ ++ [(name, shutdown_fn)] }
    { w with coordinators := w.coordinators.set i g }

/-- The events of a coordinator's shutdown over its components. -/
def shutdownEvents (components : List (List Char × Action)) : List Event :=
  .out "Starting graceful shutdown...".toList ::
    (components.reverse.flatMap componentEvents ++ [.out "Graceful shutdown complete".toList])

variable {i : ℕ} {w : World} {g : GracefulShutdown}

/-- **A coordinator shuts its components down in reverse order**, once: the first call marks
it, stops the guard accepting, and shows every component's events from the last added. -/
theorem shutdown_eq (hg : w.coordinators[i]? = some g) (hs : g.shutting_down_ = false) :
    shutdown i w =
      { w with coordinators := w.coordinators.set i { g with shutting_down_ := true },
               guard := { w.guard with accepting_ := false },
               trace := w.trace ++ shutdownEvents g.components_ } := by
  simp only [shutdown, hg, hs, Bool.false_eq_true, if_false, World.foldl_emit]
  simp [World.emit, InFlightGuard.waitForDrain, shutdownEvents]

theorem shutdown_of_shutting_down (hg : w.coordinators[i]? = some g)
    (hs : g.shutting_down_ = true) : shutdown i w = w := by
  simp [shutdown, hg, hs]

theorem shutdown_of_none (hg : w.coordinators[i]? = none) : shutdown i w = w := by
  simp [shutdown, hg]

/-- The destructor's test repeats the one inside `shutdown`. -/
theorem destroy_eq_shutdown (i : ℕ) (w : World) : destroy i w = shutdown i w := by
  unfold destroy
  split
  · rename_i hg; exact (shutdown_of_none hg).symm
  · rename_i g hg
    cases hs : g.shutting_down_
    · rfl
    · exact (shutdown_of_shutting_down hg hs).symm

/-- `shutdown` changes nothing, or it is the first call on an existing coordinator. -/
theorem shutdown_cases (i : ℕ) (w : World) :
    shutdown i w = w ∨ ∃ g, w.coordinators[i]? = some g ∧ g.shutting_down_ = false ∧
      shutdown i w =
        { w with coordinators := w.coordinators.set i { g with shutting_down_ := true },
                 guard := { w.guard with accepting_ := false },
                 trace := w.trace ++ shutdownEvents g.components_ } := by
  cases hg : w.coordinators[i]? with
  | none => exact .inl (shutdown_of_none hg)
  | some g =>
    cases hs : g.shutting_down_
    · exact .inr ⟨g, rfl, hs, shutdown_eq hg hs⟩
    · exact .inl (shutdown_of_shutting_down hg hs)

@[simp] theorem handler_shutdown : (shutdown i w).handler = w.handler := by
  rcases shutdown_cases i w with h | ⟨g, -, -, h⟩ <;> rw [h]

/-- `shutdown` never reads the handler. -/
theorem shutdown_handler (h : ShutdownHandler) :
    shutdown i { w with handler := h } = { shutdown i w with handler := h } := by
  cases hg : w.coordinators[i]? with
  | none => simp [shutdown, hg]
  | some g =>
    cases hs : g.shutting_down_
    · rw [shutdown_eq hg hs, shutdown_eq (w := { w with handler := h }) hg hs]
    · rw [shutdown_of_shutting_down hg hs,
        shutdown_of_shutting_down (w := { w with handler := h }) hg hs]

@[simp] theorem handler_addComponent (name : List Char) (fn : Action) :
    (addComponent i name fn w).handler = w.handler := by
  unfold addComponent; split <;> rfl

end GracefulShutdown

/-! ## `ShutdownHandler` -/

namespace ShutdownHandler

open GracefulShutdown

/-- `ShutdownHandler::onShutdown`. -/
def onShutdown (callback : ShutdownCallback) (w : World) : World :=
  { w with handler := { w.handler with callbacks_ := w.handler.callbacks_ ++ [callback] } }

/-- The call of one callback inside `executeCallbacks`' `try` block. -/
def runCallback : ShutdownCallback → World → World
  | .action a, w => w.emit (a.call "Shutdown callback error: ".toList)
  | .gracefulShutdown i, w => shutdown i w

/-- `ShutdownHandler::executeCallbacks`: a copy of the callbacks, run front to back. -/
def executeCallbacks (w : World) : World :=
  let callbacks_copy := w.handler.callbacks_
  callbacks_copy.foldl (fun w callback => runCallback callback w) w

/-- `ShutdownHandler::requestShutdown`: `compare_exchange_strong(false, true)`, and on success
the callbacks; notifying `cv_` has no effect on a sequential run. -/
def requestShutdown (w : World) : World :=
  if w.handler.shutdown_requested_ then w
  else executeCallbacks { w with handler := { w.handler with shutdown_requested_ := true } }

/-- `ShutdownHandler::isShutdownRequested`. -/
def isShutdownRequested (w : World) : Bool := w.handler.shutdown_requested_

variable {w : World}

@[simp] theorem handler_runCallback (cb : ShutdownCallback) :
    (runCallback cb w).handler = w.handler := by
  cases cb <;> simp [runCallback, World.emit]

/-- What every `shutdown` and every output keep, the callbacks keep. -/
theorem executeCallbacks_of {P : World → Prop} (hs : ∀ i w, P w → P (shutdown i w))
    (he : ∀ (w : World) es, P w → P (w.emit es)) (hw : P w) : P (executeCallbacks w) := by
  unfold executeCallbacks
  induction w.handler.callbacks_ generalizing w with
  | nil => exact hw
  | cons cb l ih => cases cb <;> exact ih (by first | exact he _ _ hw | exact hs _ _ hw)

@[simp] theorem handler_executeCallbacks : (executeCallbacks w).handler = w.handler :=
  executeCallbacks_of (P := fun w' => w'.handler = w.handler) (fun _ _ h => by simp [h])
    (fun _ _ h => h) rfl

/-- **The handler runs the callbacks in registration order**, when they are all actions. -/
theorem executeCallbacks_eq (l : List Action) (h : w.handler.callbacks_ = l.map .action) :
    executeCallbacks w = w.emit (l.flatMap (Action.call "Shutdown callback error: ".toList)) := by
  simp only [executeCallbacks, h, List.foldl_map, runCallback, World.foldl_emit]

theorem requestShutdown_of_requested (h : w.handler.shutdown_requested_ = true) :
    requestShutdown w = w := by
  simp [requestShutdown, h]

@[simp] theorem shutdown_requested_requestShutdown :
    (requestShutdown w).handler.shutdown_requested_ = true := by
  unfold requestShutdown
  split
  · assumption
  · simp

end ShutdownHandler

/-! ## Runs -/

/-- `GracefulShutdown(timeout)`: a new coordinator, whose `shutdown` the handler will call. -/
def GracefulShutdown.create (timeout : ℕ) (w : World) : World :=
  ShutdownHandler.onShutdown (.gracefulShutdown w.coordinators.length)
    { w with coordinators := w.coordinators ++ [{ timeout_ := timeout }] }

/-- A call into the shutdown classes; `onShutdown` takes user actions, coordinators are
numbered by construction order. -/
inductive Op
  | onShutdown (a : Action)
  | requestShutdown
  | create (timeout : ℕ)
  | addComponent (i : ℕ) (name : List Char) (shutdown_fn : Action)
  | shutdown (i : ℕ)
  | destroy (i : ℕ)
  | enter
  | leave
  deriving DecidableEq, Repr

open ShutdownHandler GracefulShutdown in
/-- One call. -/
def step : Op → World → World
  | .onShutdown a, w => onShutdown (.action a) w
  | .requestShutdown, w => requestShutdown w
  | .create t, w => GracefulShutdown.create t w
  | .addComponent i name fn, w => addComponent i name fn w
  | .shutdown i, w => shutdown i w
  | .destroy i, w => destroy i w
  | .enter, w => { w with guard := w.guard.enter }
  | .leave, w => { w with guard := w.guard.leave }

/-- The calls one after another. -/
def run (ops : List Op) (w : World) : World := ops.foldl (fun w op => step op w) w

@[simp] theorem run_nil (w : World) : run [] w = w := rfl

@[simp] theorem run_cons (op : Op) (ops : List Op) (w : World) :
    run (op :: ops) w = run ops (step op w) := rfl

theorem run_append (l₁ l₂ : List Op) (w : World) : run (l₁ ++ l₂) w = run l₂ (run l₁ w) :=
  List.foldl_append _ _ _ _

open ShutdownHandler GracefulShutdown

variable {w : World}

/-! ## `isShutdownRequested` stays true -/

theorem requested_step (op : Op) (h : isShutdownRequested w = true) :
    isShutdownRequested (step op w) = true := by
  cases op <;>
    simp_all [step, isShutdownRequested, onShutdown, GracefulShutdown.create, destroy_eq_shutdown]

theorem requested_run (ops : List Op) (h : isShutdownRequested w = true) :
    isShutdownRequested (run ops w) = true := by
  induction ops generalizing w with
  | nil => exact h
  | cons op ops ih => exact ih (requested_step op h)

/-! ## No request is accepted once a coordinator has started -/

/-- Every coordinator that has started shutting down has stopped the guard accepting. -/
def Draining (w : World) : Prop :=
  ∀ g ∈ w.coordinators, g.shutting_down_ = true → w.guard.accepting_ = false

theorem draining_shutdown (h : Draining w) (i : ℕ) : Draining (shutdown i w) := by
  rcases shutdown_cases i w with hw | ⟨g, -, -, hw⟩ <;> rw [hw]
  · exact h
  · exact fun _ _ _ => rfl

theorem draining_step (h : Draining w) : ∀ op, Draining (step op w)
  | .onShutdown _ | .enter | .leave => h
  | .requestShutdown => by
    show Draining (requestShutdown w)
    unfold requestShutdown; split
    · exact h
    · exact executeCallbacks_of (P := Draining) (fun _ _ h => draining_shutdown h _)
        (fun _ _ h => h) h
  | .create _ => fun g hg hs => by
    simp only [step, GracefulShutdown.create, onShutdown, List.mem_append,
      List.mem_singleton] at hg
    rcases hg with hg | rfl
    · exact h g hg hs
    · cases hs
  | .addComponent i name fn => by
    show Draining (addComponent i name fn w)
    unfold addComponent; split
    · exact h
    · rename_i g hg
      intro g' hg' hs
      rcases List.mem_or_eq_of_mem_set hg' with hg' | rfl
      · exact h g' hg' hs
      · exact h g (List.getElem?_mem hg) hs
  | .shutdown i => draining_shutdown h i
  | .destroy i => by
    show Draining (destroy i w)
    rw [destroy_eq_shutdown]; exact draining_shutdown h i

theorem draining_run (ops : List Op) (h : Draining w) : Draining (run ops w) := by
  induction ops generalizing w with
  | nil => exact h
  | cons op ops ih => exact ih (draining_step h op)

/-- Nothing sets `accepting_` back. -/
theorem not_accepting_step (h : w.guard.accepting_ = false) :
    ∀ op, (step op w).guard.accepting_ = false
  | .onShutdown _ | .enter | .leave => h
  | .requestShutdown => by
    show (requestShutdown w).guard.accepting_ = false
    unfold requestShutdown; split
    · exact h
    · refine executeCallbacks_of (P := fun w => w.guard.accepting_ = false) (fun i w h => ?_)
        (fun _ _ h => h) h
      rcases shutdown_cases i w with hw | ⟨g, -, -, hw⟩ <;> rw [hw]
      exact h
  | .create _ => h
  | .addComponent i name fn => by
    show (addComponent i name fn w).guard.accepting_ = false
    unfold addComponent; split <;> exact h
  | .shutdown i | .destroy i => by
    simp only [Resilience.step, destroy_eq_shutdown]
    rcases shutdown_cases i w with hw | ⟨g, -, -, hw⟩ <;> rw [hw]
    exact h

theorem not_accepting_of_run (ops : List Op) (h : w.guard.accepting_ = false) :
    (run ops w).guard.accepting_ = false := by
  induction ops generalizing w with
  | nil => exact h
  | cons op ops ih => exact ih (not_accepting_step h op)

/-- **Once a coordinator has started shutting down, no request is accepted again**, whatever
is called next. -/
theorem not_accepting_run (ops₁ ops₂ : List Op) {g : GracefulShutdown}
    (hg : g ∈ (run ops₁ {}).coordinators) (hs : g.shutting_down_ = true) :
    (run (ops₁ ++ ops₂) {}).guard.acceptingRequests = false := by
  rw [run_append]
  exact not_accepting_of_run ops₂ (draining_run ops₁ (fun _ h => by cases h) g hg hs)

/-! ## Registrations followed by requests -/

theorem run_onShutdown (l : List Action) (w : World) :
    run (l.map .onShutdown) w =
      { w with handler := { w.handler with callbacks_ := w.handler.callbacks_ ++ l.map .action } } := by
  induction l generalizing w with
  | nil => simp
  | cons a l ih => simp [ih, Resilience.step, onShutdown]

/-- After the first request the handler ignores every other. -/
theorem run_requestShutdown_of_requested (n : ℕ) (h : w.handler.shutdown_requested_ = true) :
    run (List.replicate n .requestShutdown) w = w := by
  induction n with
  | zero => rfl
  | succ n ih =>
    rw [List.replicate_succ, run_cons]
    exact (congrArg _ (requestShutdown_of_requested h)).trans ih

theorem run_addComponent (comps : List (List Char × Action)) {g : GracefulShutdown}
    (hg : w.coordinators = [g]) :
    run (comps.map fun c => .addComponent 0 c.1 c.2) w =
      { w with coordinators := [{ g with components_ := g.components_ ++ comps }] } := by
  induction comps generalizing w g with
  | nil => cases w; cases hg; simp
  | cons c comps ih =>
    rw [List.map_cons, run_cons, ih (g := { g with components_ := g.components_ ++ [c] })]
    · simp [Resilience.step, addComponent, hg]
    · simp [Resilience.step, addComponent, hg]

section Triggers

/-! The calls that shut the first coordinator down: its `shutdown`, its destructor, or a
request to the handler, with which it registered. -/

variable {op : Op} (hop : op = .shutdown 0 ∨ op = .destroy 0 ∨ op = .requestShutdown)
  (hcb : w.handler.callbacks_ = [.gracefulShutdown 0])

include hop hcb

/-- The first such call runs the components, whether the handler was asked or not. -/
theorem step_trigger_first {g : GracefulShutdown} (hreq : w.handler.shutdown_requested_ = false)
    (hg : w.coordinators = [g]) (hs : g.shutting_down_ = false) :
    (step op w).handler.callbacks_ = [.gracefulShutdown 0] ∧
    (step op w).coordinators = [{ g with shutting_down_ := true }] ∧
    (step op w).trace = w.trace ++ shutdownEvents g.components_ := by
  have hg0 : w.coordinators[0]? = some g := by simp [hg]
  rcases hop with rfl | rfl | rfl
  · simp [Resilience.step, shutdown_eq hg0 hs, hg, hcb]
  · simp [Resilience.step, destroy_eq_shutdown, shutdown_eq hg0 hs, hg, hcb]
  · simp only [Resilience.step, requestShutdown, hreq, Bool.false_eq_true, if_false,
      executeCallbacks, hcb, List.foldl_cons, List.foldl_nil, runCallback, shutdown_handler,
      shutdown_eq hg0 hs]
    simp [hg]

/-- Every later call changes neither the output nor the coordinator. -/
theorem step_trigger_done {g : GracefulShutdown} (hg : w.coordinators = [g])
    (hs : g.shutting_down_ = true) :
    (step op w).handler.callbacks_ = [.gracefulShutdown 0] ∧
    (step op w).coordinators = [g] ∧ (step op w).trace = w.trace := by
  have hw : shutdown 0 w = w := shutdown_of_shutting_down (by simp [hg]) hs
  rcases hop with rfl | rfl | rfl
  · simp [Resilience.step, hw, hg, hcb]
  · simp [Resilience.step, destroy_eq_shutdown, hw, hg, hcb]
  · by_cases hreq : w.handler.shutdown_requested_ = true
    · simp [Resilience.step, requestShutdown_of_requested hreq, hg, hcb]
    · simp only [Resilience.step, requestShutdown, hreq, if_false, executeCallbacks, hcb,
        List.foldl_cons, List.foldl_nil, runCallback, shutdown_handler, hw]
      exact ⟨rfl, hg, rfl⟩

end Triggers

theorem run_triggers_done (calls : List Op)
    (hcalls : ∀ op ∈ calls, op = .shutdown 0 ∨ op = .destroy 0 ∨ op = .requestShutdown)
    (hcb : w.handler.callbacks_ = [.gracefulShutdown 0]) {g : GracefulShutdown}
    (hg : w.coordinators = [g]) (hs : g.shutting_down_ = true) : (run calls w).trace = w.trace := by
  induction calls generalizing w with
  | nil => rfl
  | cons op calls ih =>
    obtain ⟨hcb', hg', ht⟩ := step_trigger_done (hcalls op (.head _)) hcb hg hs
    rw [run_cons, ih (fun op h => hcalls op (.tail _ h)) hcb' hg', ht]

/-- Actions registered with `onShutdown`, then requests: the first request shows every
action's events once, in registration order, and the others change nothing. -/
theorem run_registrations_requests (l : List Action) (n : ℕ) :
    run (l.map .onShutdown ++ List.replicate (n + 1) .requestShutdown) {} =
      { handler := { shutdown_requested_ := true, callbacks_ := l.map .action },
        trace := l.flatMap (Action.call "Shutdown callback error: ".toList) } := by
  have hfirst : step .requestShutdown ({ handler := { callbacks_ := l.map .action } } : World) =
      { handler := { shutdown_requested_ := true, callbacks_ := l.map .action },
        trace := l.flatMap (Action.call "Shutdown callback error: ".toList) } := by
    show executeCallbacks _ = _
    rw [executeCallbacks_eq l rfl]
    rfl
  calc run (l.map .onShutdown ++ List.replicate (n + 1) .requestShutdown) {}
      = run (List.replicate n .requestShutdown)
          (step .requestShutdown { handler := { callbacks_ := l.map .action } }) := by
        rw [run_append, run_onShutdown, List.replicate_succ, run_cons]
        rfl
    _ = _ := by rw [hfirst]; exact run_requestShutdown_of_requested n rfl

/-- A coordinator given components, then shut down by a non-empty sequence of its `shutdown`,
its destructor and requests, shows its components' events once, from the last added. -/
theorem run_components_triggers (timeout : ℕ) (comps : List (List Char × Action))
    (calls : List Op) (hne : calls ≠ [])
    (hcalls : ∀ op ∈ calls, op = .shutdown 0 ∨ op = .destroy 0 ∨ op = .requestShutdown) :
    (run (.create timeout :: comps.map (fun c => .addComponent 0 c.1 c.2) ++ calls) {}).trace =
      shutdownEvents comps := by
  obtain ⟨op, calls, rfl⟩ := List.exists_cons_of_ne_nil hne
  have hw : run (.create timeout :: comps.map fun c => .addComponent 0 c.1 c.2) {} =
      { handler := { callbacks_ := [.gracefulShutdown 0] },
        coordinators := [{ timeout_ := timeout, components_ := comps }] } := by
    rw [run_cons, run_addComponent comps (g := { timeout_ := timeout }) rfl]
    rfl
  obtain ⟨hcb, hg, ht⟩ := step_trigger_first (g := { timeout_ := timeout, components_ := comps })
    (w := { handler := { callbacks_ := [.gracefulShutdown 0] },
            coordinators := [{ timeout_ := timeout, components_ := comps }] })
    (hcalls op (.head _)) rfl rfl rfl rfl
  rw [run_append, hw, run_cons,
    run_triggers_done calls (fun op h => hcalls op (.tail _ h)) hcb hg rfl, ht]
  rfl

/-- **Shutdown actions: the handler's in registration order, a coordinator's in reverse
order, each once.** Actions registered with `onShutdown` and then any number of requests show
every action's events once, in the order of registration; `isShutdownRequested` stays true
after a request, whatever follows; and a coordinator given components, then any sequence of
its `shutdown` and requests, then its destructor, shows its components' events once, from the
last added to the first. -/
theorem shutdown_order :
    (∀ (l : List Action) (n : ℕ),
      run (l.map .onShutdown ++ List.replicate (n + 1) .requestShutdown) {} =
        { handler := { shutdown_requested_ := true, callbacks_ := l.map .action },
          trace := l.flatMap (Action.call "Shutdown callback error: ".toList) }) ∧
    (∀ (w : World) (ops : List Op), isShutdownRequested (run (.requestShutdown :: ops) w) = true) ∧
    (∀ (timeout : ℕ) (comps : List (List Char × Action)) (calls : List Op),
      (∀ op ∈ calls, op = .shutdown 0 ∨ op = .requestShutdown) →
      (run (.create timeout :: comps.map (fun c => .addComponent 0 c.1 c.2) ++ calls ++
        [.destroy 0]) {}).trace = shutdownEvents comps) :=
  ⟨run_registrations_requests,
    fun _ ops => requested_run ops (by simp [isShutdownRequested, Resilience.step]),
    fun timeout comps calls hcalls => by
      rw [List.append_assoc]
      refine run_components_triggers timeout comps _ (by simp) fun op h => ?_
      rcases List.mem_append.1 h with h | h
      · rcases hcalls op h with rfl | rfl <;> simp
      · simp at h; simp [h]⟩

theorem shutdown_order_components :
    (∀ op ∈ [Op.requestShutdown, .shutdown 0], op = .shutdown 0 ∨ op = .requestShutdown) ∧
    (run (.create 30 :: [("db".toList, ⟨1, none⟩), ("cache".toList, ⟨2, none⟩)].map
        (fun c => .addComponent 0 c.1 c.2) ++ [Op.requestShutdown, .shutdown 0] ++ [.destroy 0])
        {}).trace =
      shutdownEvents [("db".toList, ⟨1, none⟩), ("cache".toList, ⟨2, none⟩)] :=
  have hcalls : ∀ op ∈ [Op.requestShutdown, .shutdown 0],
      op = .shutdown 0 ∨ op = .requestShutdown := by
    simp
  ⟨hcalls, shutdown_order.2.2 _ _ _ hcalls⟩

/-- Two callbacks run in the order they were registered in. -/
example : (run [.onShutdown ⟨1, none⟩, .onShutdown ⟨2, none⟩, .requestShutdown] {}).trace =
    [.ran 1, .ran 2] := by
  decide

end Resilience

end CryptoService
