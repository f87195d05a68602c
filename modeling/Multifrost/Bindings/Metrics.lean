import Multifrost.Lib.Double
import Multifrost.Lib.Machine
import Multifrost.Lib.TransitionSystem

/-!
# The metrics collectors

`Metrics` of the Rust binding (`rust/src/metrics.rs`) and of the JavaScript binding
(`javascript/src/metrics.ts`), which count the same things in different numbers: a Rust counter is
a `usize`, whose increment wraps or panics, and a JavaScript counter is a double.  Every method of
the Rust collector runs under the write lock and no method of the JavaScript one awaits, so that a
call is one step.

Instants and samples are types of their own, with a function for the time from one instant to
another.  A snapshot holds what is counted; its statistics of the latencies are in
`Multifrost.Bindings.Percentiles`, and those of the heartbeats are not modelled.

A `Collector` is either of the two under the callers that drive it (`Collector.system`): a request
is in flight from the call that starts it to the one that ends it, and only a request in flight is
ended.
-/

namespace Multifrost

/-- What a snapshot counts, in the numbers `N` of the binding. -/
@[ext]
structure MetricsSnapshot (N : Type) where
  requestsTotal : N
  requestsSuccess : N
  requestsFailed : N
  queueDepth : N
  queueMaxDepth : N
  circuitBreakerTrips : N
  circuitBreakerState : String
  heartbeatMisses : N
deriving DecidableEq

/-- The snapshot in other numbers. -/
def MetricsSnapshot.map {N M : Type} (f : N → M) (c : MetricsSnapshot N) : MetricsSnapshot M where
  requestsTotal := f c.requestsTotal
  requestsSuccess := f c.requestsSuccess
  requestsFailed := f c.requestsFailed
  queueDepth := f c.queueDepth
  queueMaxDepth := f c.queueMaxDepth
  circuitBreakerTrips := f c.circuitBreakerTrips
  circuitBreakerState := c.circuitBreakerState
  heartbeatMisses := f c.heartbeatMisses

/-- A collector of metrics: its methods on states `σ`, with instants `I` and samples `L`.  A method
without a result has panicked. -/
structure Collector (σ I L N : Type) where
  new : σ
  /-- The call returns the instant that `endRequest` takes. -/
  startRequest : I → σ → Option (I × σ)
  endRequest : (startTime now : I) → (success : Bool) → σ → Option (L × σ)
  reset : σ → σ
  snapshot : σ → MetricsSnapshot N

/-! ### Rust -/

namespace Rust

variable {I L : Type}

structure MetricsInner (L : Type) where
  maxLatencySamples : Nat
  requestsTotal : Nat
  requestsSuccess : Nat
  requestsFailed : Nat
  circuitBreakerTrips : Nat
  circuitBreakerState : String
  queueDepth : Nat
  queueMaxDepth : Nat
  latencies : List L
  heartbeatRtts : List L
  heartbeatMisses : Nat

namespace MetricsInner

def withOptions (maxLatencySamples : Nat) : MetricsInner L where
  maxLatencySamples := maxLatencySamples
  requestsTotal := 0
  requestsSuccess := 0
  requestsFailed := 0
  circuitBreakerTrips := 0
  circuitBreakerState := "closed"
  queueDepth := 0
  queueMaxDepth := 0
  latencies := []
  heartbeatRtts := []
  heartbeatMisses := 0

/-- The id, the function and the namespace of the request are not used. -/
def startRequest (t : Machine) (now : I) (inner : MetricsInner L) :
    Option (I × MetricsInner L) := do
  let requestsTotal ← t.addUsize inner.requestsTotal 1
  let queueDepth ← t.addUsize inner.queueDepth 1
  let queueMaxDepth := max inner.queueMaxDepth queueDepth
  some (now, { inner with requestsTotal, queueDepth, queueMaxDepth })

/-- `push_back`, and `pop_front` from a buffer that is too long. -/
def pushLatency (inner : MetricsInner L) (latencyMs : L) : MetricsInner L :=
  let latencies := inner.latencies ++ [latencyMs]
  if inner.maxLatencySamples < latencies.length then { inner with latencies := latencies.tail }
  else { inner with latencies }

/-- The subtraction saturates, as that of `Nat` does. -/
def endRequest (t : Machine) (elapsedMs : I → I → L) (startTime now : I) (success : Bool)
    (inner : MetricsInner L) : Option (L × MetricsInner L) := do
  let latencyMs := elapsedMs startTime now
  let inner := { inner with queueDepth := inner.queueDepth - 1 }
  let inner ←
    if success then do
      let requestsSuccess ← t.addUsize inner.requestsSuccess 1
      some { inner with requestsSuccess }
    else do
      let requestsFailed ← t.addUsize inner.requestsFailed 1
      some { inner with requestsFailed }
  some (latencyMs, inner.pushLatency latencyMs)

def reset (inner : MetricsInner L) : MetricsInner L :=
  { inner with
    requestsTotal := 0
    requestsSuccess := 0
    requestsFailed := 0
    circuitBreakerTrips := 0
    circuitBreakerState := "closed"
    queueDepth := 0
    queueMaxDepth := 0
    latencies := []
    heartbeatRtts := []
    heartbeatMisses := 0 }

def snapshot (inner : MetricsInner L) : MetricsSnapshot Nat where
  requestsTotal := inner.requestsTotal
  requestsSuccess := inner.requestsSuccess
  requestsFailed := inner.requestsFailed
  queueDepth := inner.queueDepth
  queueMaxDepth := inner.queueMaxDepth
  circuitBreakerTrips := inner.circuitBreakerTrips
  circuitBreakerState := inner.circuitBreakerState
  heartbeatMisses := inner.heartbeatMisses

end MetricsInner

/-- The collector of a build for the machine `t`. -/
def metrics (t : Machine) (maxLatencySamples : Nat) (elapsedMs : I → I → L) :
    Collector (MetricsInner L) I L Nat where
  new := .withOptions maxLatencySamples
  startRequest := MetricsInner.startRequest t
  endRequest := MetricsInner.endRequest t elapsedMs
  reset := MetricsInner.reset
  snapshot := MetricsInner.snapshot

end Rust

/-! ### JavaScript -/

namespace JavaScript

variable {I L : Type}

/-- The sum of two finite numbers, rounded to a double. -/
def add (a b : ℚ) : ℚ :=
  if a + b < 0 then -Double.nearest (-(a + b)) else Double.nearest (a + b)

/-- `n > x` at a length and a number. -/
def exceeds (n : Nat) : Double.Value → Bool
  | .nan => false
  | .infinite negative => negative
  | .finite q => q < n

structure Metrics (L : Type) where
  maxLatencySamples : Double.Value
  requestsTotal : ℚ
  requestsSuccess : ℚ
  requestsFailed : ℚ
  circuitBreakerTrips : ℚ
  circuitBreakerState : String
  queueDepth : ℚ
  queueMaxDepth : ℚ
  latencies : List L
  heartbeatRtts : List L
  heartbeatMisses : ℚ

namespace Metrics

def new (maxLatencySamples : Double.Value) : Metrics L where
  maxLatencySamples := maxLatencySamples
  requestsTotal := 0
  requestsSuccess := 0
  requestsFailed := 0
  circuitBreakerTrips := 0
  circuitBreakerState := "closed"
  queueDepth := 0
  queueMaxDepth := 0
  latencies := []
  heartbeatRtts := []
  heartbeatMisses := 0

def startRequest (now : I) (m : Metrics L) : I × Metrics L :=
  let requestsTotal := add m.requestsTotal 1
  let queueDepth := add m.queueDepth 1
  let queueMaxDepth := max m.queueMaxDepth queueDepth
  (now, { m with requestsTotal, queueDepth, queueMaxDepth })

/-- `push`, and `shift` of an array that is too long. -/
def pushLatency (m : Metrics L) (latencyMs : L) : Metrics L :=
  let latencies := m.latencies ++ [latencyMs]
  if exceeds latencies.length m.maxLatencySamples then { m with latencies := latencies.tail }
  else { m with latencies }

/-- The subtraction does not saturate. -/
def endRequest (elapsedMs : I → I → L) (startTime now : I) (success : Bool) (m : Metrics L) :
    L × Metrics L :=
  let latencyMs := elapsedMs startTime now
  let m := { m with queueDepth := add m.queueDepth (-1) }
  let m :=
    if success then { m with requestsSuccess := add m.requestsSuccess 1 }
    else { m with requestsFailed := add m.requestsFailed 1 }
  (latencyMs, m.pushLatency latencyMs)

def reset (m : Metrics L) : Metrics L :=
  { m with
    requestsTotal := 0
    requestsSuccess := 0
    requestsFailed := 0
    circuitBreakerTrips := 0
    circuitBreakerState := "closed"
    queueDepth := 0
    queueMaxDepth := 0
    latencies := []
    heartbeatRtts := []
    heartbeatMisses := 0 }

def snapshot (m : Metrics L) : MetricsSnapshot ℚ where
  requestsTotal := m.requestsTotal
  requestsSuccess := m.requestsSuccess
  requestsFailed := m.requestsFailed
  queueDepth := m.queueDepth
  queueMaxDepth := m.queueMaxDepth
  circuitBreakerTrips := m.circuitBreakerTrips
  circuitBreakerState := m.circuitBreakerState
  heartbeatMisses := m.heartbeatMisses

end Metrics

def metrics (maxLatencySamples : Double.Value) (elapsedMs : I → I → L) :
    Collector (Metrics L) I L ℚ where
  new := .new maxLatencySamples
  startRequest now m := some (m.startRequest now)
  endRequest startTime now success m := some (m.endRequest elapsedMs startTime now success)
  reset := Metrics.reset
  snapshot := Metrics.snapshot

end JavaScript

/-! ### The callers -/

/-- A call of a method, with the instant that the method reads. -/
inductive MetricsCall (I : Type)
  | start (requestId : String) (now : I)
  | finish (requestId : String) (startTime now : I) (success : Bool)
  | reset

/-- A collector and the requests that were started and not yet ended, each with what `startRequest`
returned for it. -/
structure Tracked (σ I : Type) where
  metrics : σ
  inFlight : List (String × I)

namespace Collector

variable {σ I L N : Type} [DecidableEq I] (c : Collector σ I L N)

def step : MetricsCall I → Tracked σ I → Option (Tracked σ I × List L)
  | .start requestId now, s => do
    let (startTime, metrics) ← c.startRequest now s.metrics
    some (⟨metrics, (requestId, startTime) :: s.inFlight⟩, [])
  | .finish requestId startTime now success, s =>
    if (requestId, startTime) ∈ s.inFlight then do
      let (latencyMs, metrics) ← c.endRequest startTime now success s.metrics
      some (⟨metrics, s.inFlight.erase (requestId, startTime)⟩, [latencyMs])
    else none
  | .reset, s => some (⟨c.reset s.metrics, s.inFlight⟩, [])

/-- The calls of any number of callers in any order, with the latencies that they return.  A call
that panics is no step. -/
def system : TransitionSystem (Tracked σ I) (MetricsCall I) L where
  init := ⟨c.new, []⟩
  step := c.step

/-- The calls lead from a new collector to `s`, each under the condition `C`. -/
def Run (C : Tracked σ I → MetricsCall I → Prop) (is : List (MetricsCall I)) (s : Tracked σ I) :
    Prop :=
  ∃ tr, c.system.Path C c.system.init is tr s

/-- A sequence of calls that executes to a state with `p` is a run that ends with `p`. -/
theorem exists_run_of_exec (C : Tracked σ I → MetricsCall I → Prop) [∀ s i, Decidable (C s i)]
    (is : List (MetricsCall I)) (p : Tracked σ I → Bool)
    (h : (c.system.exec (fun s _ i => C s i) c.system.init [] is).any (fun r => p r.1) = true) :
    ∃ s, c.Run C is s ∧ p s = true := by
  obtain ⟨⟨s, tr⟩, he, hp⟩ := (Option.any_eq_true _ _).mp h
  exact ⟨s, ⟨tr, TransitionSystem.Path.exec .nil he⟩, hp⟩

variable {c} {s s' : Tracked σ I} {evs : List L} {requestId : String} {startTime now : I}
  {success : Bool}

theorem step_start (h : c.step (.start requestId now) s = some (s', evs)) :
    ∃ startTime metrics, c.startRequest now s.metrics = some (startTime, metrics) ∧
      s' = ⟨metrics, (requestId, startTime) :: s.inFlight⟩ ∧ evs = [] := by
  obtain ⟨⟨startTime, metrics⟩, hstart, h⟩ := Option.bind_eq_some_iff.mp h
  obtain ⟨rfl, rfl⟩ := Prod.mk.inj (Option.some.inj h)
  exact ⟨startTime, metrics, hstart, rfl, rfl⟩

theorem step_finish (h : c.step (.finish requestId startTime now success) s = some (s', evs)) :
    ∃ latencyMs metrics, (requestId, startTime) ∈ s.inFlight ∧
      c.endRequest startTime now success s.metrics = some (latencyMs, metrics) ∧
      s' = ⟨metrics, s.inFlight.erase (requestId, startTime)⟩ ∧ evs = [latencyMs] := by
  unfold step at h
  dsimp only at h
  split_ifs at h with hmem
  obtain ⟨⟨latencyMs, metrics⟩, hend, h⟩ := Option.bind_eq_some_iff.mp h
  obtain ⟨rfl, rfl⟩ := Prod.mk.inj (Option.some.inj h)
  exact ⟨latencyMs, metrics, hmem, hend, rfl, rfl⟩

theorem step_reset (h : c.step .reset s = some (s', evs)) :
    s' = ⟨c.reset s.metrics, s.inFlight⟩ ∧ evs = [] := by
  obtain ⟨rfl, rfl⟩ := Prod.mk.inj (Option.some.inj h)
  exact ⟨rfl, rfl⟩

end Collector

end Multifrost
