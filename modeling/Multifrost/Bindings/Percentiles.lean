import Multifrost.Bindings.Metrics
import Multifrost.Lib.Samples

/-!
# The percentiles of the metrics collectors

The statistics of the latencies in a snapshot of `Metrics`, from the same two files as the methods.
Both bindings sort the latencies and read three percentiles at the index that they compute in
doubles, `n * 0.95` for one, neither factor of which need be exact.  The latencies are of a type
with a linear order, as a time from one instant to a later one is never `NaN`; their average is not
modelled.

A collector keeps the latencies that ended since the last reset, as many of the last ones as it has
room for (`Collector.Holds.buffer_eq`).  For as many as fit into memory, the index is the whole
part of `p * n / 100` (`floor_mul_eq`), so that the rounding does not show.  Together,
`latencyStats_of_run` says that what a snapshot reports as a percentile is one.
-/

namespace Multifrost

open Samples

/-! ### The statistics -/

/-- What a snapshot says about the latencies. -/
structure LatencyStats (L : Type) where
  latencyP50Ms : L
  latencyP95Ms : L
  latencyP99Ms : L
  latencyMinMs : L
  latencyMaxMs : L

/-- The statistics, with the index that the binding computes for `n` samples and a factor.  There is
no result when a sample is read past the last one. -/
def latencyStats {L : Type} [LinearOrder L] [Zero L] (index : ℕ → ℚ → ℕ) (latencies : List L) :
    Option (LatencyStats L) :=
  if latencies = [] then some ⟨0, 0, 0, 0, 0⟩
  else do
    let sorted := latencies.mergeSort (· ≤ ·)
    let n := sorted.length
    let p50Idx := index n 0.50
    let p95Idx := index n 0.95
    let p99Idx := index n 0.99
    let latencyP50Ms ← sorted[min p50Idx (n - 1)]?
    let latencyP95Ms ← sorted[min p95Idx (n - 1)]?
    let latencyP99Ms ← sorted[min p99Idx (n - 1)]?
    let latencyMinMs ← sorted[0]?
    let latencyMaxMs ← sorted[n - 1]?
    some { latencyP50Ms, latencyP95Ms, latencyP99Ms, latencyMinMs, latencyMaxMs }

namespace Rust

variable {L : Type} [LinearOrder L] [Zero L]

/-- `(n as f64 * factor) as usize`.  The second cast takes the whole part, and saturates. -/
def percentileIdx (t : Machine) (n : ℕ) (factor : ℚ) : ℕ :=
  min ⌊Double.nearest (Double.nearest n * Double.nearest factor)⌋.toNat (2 ^ t.bits - 1)

def MetricsInner.latencyStats (t : Machine) (inner : MetricsInner L) : Option (LatencyStats L) :=
  Multifrost.latencyStats (percentileIdx t) inner.latencies

end Rust

namespace JavaScript

variable {L : Type} [LinearOrder L] [Zero L]

/-- `Math.floor(n * factor)`. -/
def percentileIdx (n : ℕ) (factor : ℚ) : ℕ :=
  ⌊Double.nearest (n * Double.nearest factor)⌋.toNat

def Metrics.latencyStats (m : Metrics L) : Option (LatencyStats L) :=
  Multifrost.latencyStats percentileIdx m.latencies

end JavaScript

/-! ### The percentiles -/

/-- The factor is that of the `p`-th percentile, up to a quarter of a unit. -/
structure IsFactor (p : ℕ) (factor : ℚ) : Prop where
  lt : p < 100
  le : factor ≤ p / 100
  ge : (p : ℚ) / 100 - p / 100 / 2 ^ 54 ≤ factor

theorem isFactor_50 : IsFactor 50 (Double.nearest 0.50) := by
  constructor <;> decide +kernel

theorem isFactor_95 : IsFactor 95 (Double.nearest 0.95) := by
  constructor <;> decide +kernel

theorem isFactor_99 : IsFactor 99 (Double.nearest 0.99) := by
  constructor <;> decide +kernel

/-- The product in doubles has the whole part of the exact one. -/
theorem floor_mul_eq {p n : ℕ} {factor : ℚ} (h : IsFactor p factor) (hn : n ≤ 2 ^ 46) :
    ⌊Double.nearest (n * factor)⌋.toNat = p * n / 100 := by
  obtain ⟨hp, hle, hge⟩ := h
  have hdiv := Nat.div_add_mod (p * n) 100
  have hmod := Nat.mod_lt (p * n) (by decide : 0 < 100)
  have hfewer : p * n ≤ 99 * n := Nat.mul_le_mul_right n (by omega)
  generalize p * n / 100 = m at *
  generalize p * n % 100 = r at *
  have hexact : (n : ℚ) * (p / 100) = m + r / 100 := by
    have hcast : (p : ℚ) * n = 100 * m + r := by exact_mod_cast hdiv.symm
    linarith
  have hr : (r : ℚ) ≤ 99 := by exact_mod_cast Nat.le_of_lt_succ hmod
  have hr' : (0 : ℚ) ≤ r := Nat.cast_nonneg r
  have hm' : (m : ℚ) + 1 ≤ 2 ^ 46 := by
    have : m + 1 ≤ 2 ^ 46 := by omega
    exact_mod_cast this
  have hpos : (0 : ℚ) ≤ n := Nat.cast_nonneg n
  have hhigh : (n : ℚ) * factor ≤ m + 1 - (m + 1) / 2 ^ 53 := by
    calc (n : ℚ) * factor ≤ n * (p / 100) := mul_le_mul_of_nonneg_left hle hpos
      _ = m + r / 100 := hexact
      _ ≤ m + 1 - (m + 1) / 2 ^ 53 := by linarith
  have hlow : (m : ℚ) - m / 2 ^ 54 ≤ n * factor := by
    calc (m : ℚ) - m / 2 ^ 54 ≤ (m + r / 100) - (m + r / 100) / 2 ^ 54 := by linarith
      _ = (n : ℚ) * (p / 100 - p / 100 / 2 ^ 54) := by
        rw [← hexact]
        ring
      _ ≤ n * factor := mul_le_mul_of_nonneg_left hge hpos
  rw [Double.floor_nearest_eq (by omega) hlow hhigh, Int.toNat_natCast]

/-- The index of the `p`-th percentile of `n` samples. -/
def IndexOf (index : ℕ → ℚ → ℕ) (n : ℕ) : Prop :=
  ∀ p factor, IsFactor p (Double.nearest factor) → index n factor = p * n / 100

theorem JavaScript.indexOf_percentileIdx {n : ℕ} (hn : n ≤ 2 ^ 46) : IndexOf percentileIdx n :=
  fun _ _ h => floor_mul_eq h hn

theorem Rust.indexOf_percentileIdx {t : Machine} {n : ℕ} (hn : n ≤ 2 ^ 46) (hword : n < 2 ^ t.bits) :
    IndexOf (percentileIdx t) n := by
  intro p factor h
  have hfewer : p * n ≤ 100 * n := Nat.mul_le_mul_right n (le_of_lt h.lt)
  unfold percentileIdx
  rw [Double.nearest_natCast (lt_of_le_of_lt hn (by decide)), floor_mul_eq h hn]
  omega

/-- The statistics of the samples `xs`.  Those of no samples are 0. -/
structure LatencyStats.Of {L : Type} [LinearOrder L] [Zero L] (xs : List L)
    (stats : LatencyStats L) : Prop where
  zero : xs = [] → stats = ⟨0, 0, 0, 0, 0⟩
  p50 : xs ≠ [] → IsPercentile 50 xs stats.latencyP50Ms
  p95 : xs ≠ [] → IsPercentile 95 xs stats.latencyP95Ms
  p99 : xs ≠ [] → IsPercentile 99 xs stats.latencyP99Ms
  min : xs ≠ [] → IsLeast {x | x ∈ xs} stats.latencyMinMs
  max : xs ≠ [] → IsGreatest {x | x ∈ xs} stats.latencyMaxMs

section Stats

variable {L : Type} [LinearOrder L] [Zero L] {xs : List L}

theorem LatencyStats.Of.unique {stats stats' : LatencyStats L} (h : stats.Of xs)
    (h' : stats'.Of xs) : stats = stats' := by
  by_cases hnil : xs = []
  · rw [h.zero hnil, h'.zero hnil]
  · cases stats with
    | mk p50 p95 p99 min max =>
      cases stats' with
      | mk p50' p95' p99' min' max' =>
        obtain rfl : p50 = p50' := (h.p50 hnil).unique (h'.p50 hnil)
        obtain rfl : p95 = p95' := (h.p95 hnil).unique (h'.p95 hnil)
        obtain rfl : p99 = p99' := (h.p99 hnil).unique (h'.p99 hnil)
        obtain rfl : min = min' := (h.min hnil).unique (h'.min hnil)
        obtain rfl : max = max' := (h.max hnil).unique (h'.max hnil)
        rfl

/-- With the right index every sample that is read is there, and is the one that is meant. -/
theorem exists_latencyStats {index : ℕ → ℚ → ℕ} (hindex : IndexOf index xs.length) :
    ∃ stats, latencyStats index xs = some stats ∧ stats.Of xs := by
  by_cases hnil : xs = []
  · refine ⟨⟨0, 0, 0, 0, 0⟩, if_pos hnil, ?_⟩
    constructor <;> intro hxs
    · rfl
    all_goals exact absurd hnil hxs
  · have hperm : (xs.mergeSort (· ≤ ·)).Perm xs := List.mergeSort_perm xs _
    have hsorted : (xs.mergeSort (· ≤ ·)).SortedLE := (List.pairwise_mergeSort' (· ≤ ·) xs).sortedLE
    have hlength : (xs.mergeSort (· ≤ ·)).length = xs.length := hperm.length_eq
    have hpos : 0 < xs.length := List.length_pos_iff.mpr hnil
    unfold latencyStats
    rw [if_neg hnil]
    generalize xs.mergeSort (· ≤ ·) = sorted at hperm hsorted hlength
    rw [← hlength] at hindex hpos
    have hread : ∀ p factor, IsFactor p (Double.nearest factor) → ∃ v,
        sorted[min (index sorted.length factor) (sorted.length - 1)]? = some v ∧
          IsPercentile p xs v := by
      intro p factor h
      have hfewer : p * sorted.length ≤ 99 * sorted.length :=
        Nat.mul_le_mul_right _ (Nat.le_of_lt_succ h.lt)
      have hidx := hindex p factor h
      have hin : min (index sorted.length factor) (sorted.length - 1) < sorted.length := by omega
      exact ⟨_, List.getElem?_eq_getElem hin,
        (isPercentile_getElem hsorted hin (by omega)).perm hperm⟩
    obtain ⟨p50, hp50, h50⟩ := hread 50 0.50 isFactor_50
    obtain ⟨p95, hp95, h95⟩ := hread 95 0.95 isFactor_95
    obtain ⟨p99, hp99, h99⟩ := hread 99 0.99 isFactor_99
    have hset : {x | x ∈ sorted} = {x | x ∈ xs} := Set.ext fun x => hperm.mem_iff
    have hlast : sorted.length - 1 < sorted.length := by omega
    have hmin := isLeast_head hsorted hpos
    have hmax := isGreatest_last hsorted hlast
    rw [hset] at hmin hmax
    refine ⟨⟨p50, p95, p99, sorted[0], sorted[sorted.length - 1]⟩, ?_, ?_⟩
    · simp only [hp50, hp95, hp99, List.getElem?_eq_getElem hpos, List.getElem?_eq_getElem hlast,
        Option.bind_eq_bind, Option.bind_some]
    · exact ⟨fun h => absurd h hnil, fun _ => h50, fun _ => h95, fun _ => h99, fun _ => hmin,
        fun _ => hmax⟩

end Stats

/-! ### The latencies that are kept -/

section Calls

variable {I L : Type} (elapsedMs : I → I → L)

/-- The latencies since the last reset, after one more call. -/
def nextLatencies (xs : List L) : MetricsCall I → List L
  | .start .. => xs
  | .finish _ startTime now _ => xs ++ [elapsedMs startTime now]
  | .reset => []

/-- The latencies of the requests that ended since the last reset. -/
def latenciesSinceReset (is : List (MetricsCall I)) : List L := is.foldl (nextLatencies elapsedMs) []

theorem latenciesSinceReset_concat (is : List (MetricsCall I)) (i : MetricsCall I) :
    latenciesSinceReset elapsedMs (is ++ [i]) =
      nextLatencies elapsedMs (latenciesSinceReset elapsedMs is) i := by
  unfold latenciesSinceReset
  rw [List.foldl_append]
  rfl

end Calls

namespace Collector

variable {σ I L N : Type} {c : Collector σ I L N} {buffer : σ → Buffer L} {cap : Option ℕ}
  {elapsedMs : I → I → L}

/-- The methods use a part of the state as a buffer of latencies. -/
structure Holds (c : Collector σ I L N) (buffer : σ → Buffer L) (cap : Option ℕ)
    (elapsedMs : I → I → L) : Prop where
  new : buffer c.new = ⟨cap, []⟩
  start : ∀ {m m' : σ} {now startTime : I}, c.startRequest now m = some (startTime, m') →
    buffer m' = buffer m
  finish : ∀ {m m' : σ} {startTime now : I} {success : Bool} {latencyMs : L},
    c.endRequest startTime now success m = some (latencyMs, m') →
    buffer m' = (buffer m).push (elapsedMs startTime now)
  reset : ∀ m, buffer (c.reset m) = (buffer m).clear

variable [DecidableEq I] {s s' : Tracked σ I} {i : MetricsCall I} {evs : List L} {xs : List L}

/-- One call. -/
theorem Holds.buffer_step (hc : c.Holds buffer cap elapsedMs)
    (h : buffer s.metrics = .lastOf cap xs) (hs : c.step i s = some (s', evs)) :
    buffer s'.metrics = .lastOf cap (nextLatencies elapsedMs xs i) := by
  cases i with
  | start requestId now =>
    obtain ⟨startTime, metrics, hstart, rfl, -⟩ := step_start hs
    exact (hc.start hstart).trans h
  | finish requestId startTime now success =>
    obtain ⟨latencyMs, metrics, -, hend, rfl, -⟩ := step_finish hs
    have hfinish := hc.finish hend
    rw [h, Buffer.push_lastOf] at hfinish
    exact hfinish
  | reset =>
    obtain ⟨rfl, -⟩ := step_reset hs
    have hreset := hc.reset s.metrics
    rw [h, Buffer.clear_lastOf] at hreset
    exact hreset

/-- After any calls the collector holds the last latencies since the reset. -/
theorem Holds.buffer_eq (hc : c.Holds buffer cap elapsedMs)
    {C : Tracked σ I → MetricsCall I → Prop} {is : List (MetricsCall I)} (h : c.Run C is s) :
    buffer s.metrics = .lastOf cap (latenciesSinceReset elapsedMs is) := by
  obtain ⟨tr, h⟩ := h
  refine TransitionSystem.Path.invariant
    (P := fun is _ s => buffer s.metrics = .lastOf cap (latenciesSinceReset elapsedMs is)) ?_ ?_ h
  · rw [latenciesSinceReset, List.foldl_nil, Buffer.lastOf, last_nil]
    exact hc.new
  · intro is tr evs s₁ s₂ i _ _ hs ih
    rw [latenciesSinceReset_concat]
    exact hc.buffer_step ih hs

end Collector

/-! ### The two bindings -/

section Bindings

variable {I L : Type}

namespace Rust

def MetricsInner.buffer (inner : MetricsInner L) : Buffer L :=
  ⟨some inner.maxLatencySamples, inner.latencies⟩

theorem MetricsInner.buffer_pushLatency (inner : MetricsInner L) (latencyMs : L) :
    (inner.pushLatency latencyMs).buffer = inner.buffer.push latencyMs := by
  unfold pushLatency Buffer.push buffer
  simp only [Option.any_some, decide_eq_true_eq]
  split_ifs <;> rfl

theorem MetricsInner.buffer_of_endRequest {t : Machine} {elapsedMs : I → I → L}
    {inner inner' : MetricsInner L} {startTime now : I} {success : Bool} {latencyMs : L}
    (h : inner.endRequest t elapsedMs startTime now success = some (latencyMs, inner')) :
    inner'.buffer = inner.buffer.push (elapsedMs startTime now) := by
  unfold endRequest at h
  dsimp only at h
  cases success with
  | true =>
    obtain ⟨requestsSuccess, -, h⟩ := Option.bind_eq_some_iff.mp h
    obtain ⟨-, rfl⟩ := Prod.mk.inj (Option.some.inj h)
    exact buffer_pushLatency _ _
  | false =>
    obtain ⟨requestsFailed, -, h⟩ := Option.bind_eq_some_iff.mp h
    obtain ⟨-, rfl⟩ := Prod.mk.inj (Option.some.inj h)
    exact buffer_pushLatency _ _

theorem metrics_holds (t : Machine) (maxLatencySamples : ℕ) (elapsedMs : I → I → L) :
    (metrics t maxLatencySamples elapsedMs).Holds MetricsInner.buffer (some maxLatencySamples)
      elapsedMs where
  new := rfl
  start := by
    intro m m' now startTime h
    obtain ⟨requestsTotal, -, h⟩ := Option.bind_eq_some_iff.mp h
    obtain ⟨queueDepth, -, h⟩ := Option.bind_eq_some_iff.mp h
    obtain ⟨-, rfl⟩ := Prod.mk.inj (Option.some.inj h)
    rfl
  finish := MetricsInner.buffer_of_endRequest
  reset := fun _ => rfl

end Rust

namespace JavaScript

/-- The whole number of samples that are not too many. -/
def sampleCap : Double.Value → Option ℕ
  | .nan => none
  | .infinite negative => if negative then some 0 else none
  | .finite q => some ⌊q⌋.toNat

theorem exceeds_eq {n : ℕ} (hpos : 0 < n) (v : Double.Value) :
    exceeds n v = (sampleCap v).any (· < n) := by
  cases v with
  | nan => rfl
  | infinite negative =>
    cases negative with
    | true => exact (decide_eq_true hpos).symm
    | false => rfl
  | finite q =>
    have hfloor : ⌊q⌋.toNat < n ↔ q < n := by
      rw [Int.toNat_lt_of_ne_zero hpos.ne', Int.floor_lt, Int.cast_natCast]
    exact decide_eq_decide.mpr hfloor.symm

def Metrics.buffer (m : Metrics L) : Buffer L :=
  ⟨sampleCap m.maxLatencySamples, m.latencies⟩

theorem Metrics.buffer_pushLatency (m : Metrics L) (latencyMs : L) :
    (m.pushLatency latencyMs).buffer = m.buffer.push latencyMs := by
  have hpos : 0 < (m.latencies ++ [latencyMs]).length := by
    rw [List.length_append]
    exact Nat.succ_pos _
  unfold pushLatency Buffer.push buffer
  simp only [exceeds_eq hpos]
  split_ifs <;> rfl

theorem metrics_holds (maxLatencySamples : Double.Value) (elapsedMs : I → I → L) :
    (metrics maxLatencySamples elapsedMs).Holds Metrics.buffer (sampleCap maxLatencySamples)
      elapsedMs where
  new := rfl
  start := by
    intro m m' now startTime h
    obtain ⟨-, rfl⟩ := Prod.mk.inj (Option.some.inj h)
    rfl
  finish := by
    intro m m' startTime now success latencyMs h
    obtain ⟨-, rfl⟩ := Prod.mk.inj (Option.some.inj h)
    rw [Metrics.buffer_pushLatency]
    cases success <;> rfl
  reset := fun _ => rfl

end JavaScript

variable [DecidableEq I]

theorem Rust.latencies_of_run {t : Machine} {maxLatencySamples : ℕ} {elapsedMs : I → I → L}
    {C : Tracked (MetricsInner L) I → MetricsCall I → Prop} {is : List (MetricsCall I)}
    {s : Tracked (MetricsInner L) I} (h : (metrics t maxLatencySamples elapsedMs).Run C is s) :
    s.metrics.latencies = last (some maxLatencySamples) (latenciesSinceReset elapsedMs is) :=
  congrArg Buffer.held ((metrics_holds t maxLatencySamples elapsedMs).buffer_eq h)

theorem JavaScript.latencies_of_run {maxLatencySamples : Double.Value} {elapsedMs : I → I → L}
    {C : Tracked (Metrics L) I → MetricsCall I → Prop} {is : List (MetricsCall I)}
    {s : Tracked (Metrics L) I} (h : (metrics maxLatencySamples elapsedMs).Run C is s) :
    s.metrics.latencies =
      last (sampleCap maxLatencySamples) (latenciesSinceReset elapsedMs is) :=
  congrArg Buffer.held ((metrics_holds maxLatencySamples elapsedMs).buffer_eq h)

variable [LinearOrder L] [Zero L]

theorem Rust.latencyStats_of_run {t : Machine} {maxLatencySamples : ℕ} {elapsedMs : I → I → L}
    {C : Tracked (MetricsInner L) I → MetricsCall I → Prop} {is : List (MetricsCall I)}
    {s : Tracked (MetricsInner L) I} (h : (metrics t maxLatencySamples elapsedMs).Run C is s)
    (hlen : s.metrics.latencies.length ≤ 2 ^ 46) (hword : s.metrics.latencies.length < 2 ^ t.bits) :
    ∃ stats, s.metrics.latencyStats t = some stats ∧
      stats.Of (last (some maxLatencySamples) (latenciesSinceReset elapsedMs is)) := by
  rw [← latencies_of_run h]
  exact exists_latencyStats (indexOf_percentileIdx hlen hword)

theorem JavaScript.latencyStats_of_run {maxLatencySamples : Double.Value} {elapsedMs : I → I → L}
    {C : Tracked (Metrics L) I → MetricsCall I → Prop} {is : List (MetricsCall I)}
    {s : Tracked (Metrics L) I} (h : (metrics maxLatencySamples elapsedMs).Run C is s)
    (hlen : s.metrics.latencies.length ≤ 2 ^ 46) :
    ∃ stats, s.metrics.latencyStats = some stats ∧
      stats.Of (last (sampleCap maxLatencySamples) (latenciesSinceReset elapsedMs is)) := by
  rw [← latencies_of_run h]
  exact exists_latencyStats (indexOf_percentileIdx hlen)

/-- After any calls, a snapshot of either collector reports the percentiles, the least and the
greatest of the latencies that it has kept, which are the last ones since the reset.  Two collectors
that keep as many report the same. -/
theorem snapshot_percentiles (t : Machine) (maxLatencySamples : ℕ)
    (maxLatencySamples' : Double.Value) (elapsedMs : I → I → L) (is : List (MetricsCall I)) :
    (∀ C s, (Rust.metrics t maxLatencySamples elapsedMs).Run C is s →
      s.metrics.latencies.length ≤ 2 ^ 46 → s.metrics.latencies.length < 2 ^ t.bits →
      ∃ stats, s.metrics.latencyStats t = some stats ∧
        stats.Of (last (some maxLatencySamples) (latenciesSinceReset elapsedMs is))) ∧
    (∀ C s, (JavaScript.metrics maxLatencySamples' elapsedMs).Run C is s →
      s.metrics.latencies.length ≤ 2 ^ 46 →
      ∃ stats, s.metrics.latencyStats = some stats ∧
        stats.Of (last (JavaScript.sampleCap maxLatencySamples')
          (latenciesSinceReset elapsedMs is))) ∧
    (JavaScript.sampleCap maxLatencySamples' = some maxLatencySamples → ∀ C C' s s',
      (Rust.metrics t maxLatencySamples elapsedMs).Run C is s →
      (JavaScript.metrics maxLatencySamples' elapsedMs).Run C' is s' →
      s.metrics.latencies.length ≤ 2 ^ 46 → s.metrics.latencies.length < 2 ^ t.bits →
      s'.metrics.latencyStats = s.metrics.latencyStats t) := by
  refine ⟨fun C s => Rust.latencyStats_of_run, fun C s => JavaScript.latencyStats_of_run, ?_⟩
  intro hcap C C' s s' h h' hlen hword
  have hheld : s'.metrics.latencies = s.metrics.latencies := by
    rw [Rust.latencies_of_run h, JavaScript.latencies_of_run h', hcap]
  obtain ⟨stats, hstats, hof⟩ := Rust.latencyStats_of_run h hlen hword
  obtain ⟨stats', hstats', hof'⟩ := JavaScript.latencyStats_of_run h' (hheld ▸ hlen)
  rw [hcap] at hof'
  rw [hstats, hstats', hof'.unique hof]

end Bindings

/-- A reset after one request, and four more requests. -/
def sampleCalls : List (MetricsCall ℕ) :=
  [.start "a" 0, .finish "a" 0 90 true, .reset, .start "b" 0, .start "c" 0, .start "d" 0,
    .start "e" 0, .finish "b" 0 1 true, .finish "c" 0 30 false, .finish "d" 0 10 true,
    .finish "e" 0 20 true]

/-- Three samples are kept of the four that ended since the reset, and the middle one of them is
reported as the 50th percentile by both collectors. -/
theorem snapshot_percentiles_three :
    ∃ (s : Tracked (Rust.MetricsInner ℕ) ℕ) (s' : Tracked (JavaScript.Metrics ℕ) ℕ)
      (stats : LatencyStats ℕ),
      s.metrics.latencies = [30, 10, 20] ∧ s'.metrics.latencies = [30, 10, 20] ∧
      s.metrics.latencyStats ⟨.bits64, .wrapping⟩ = some stats ∧
      s'.metrics.latencyStats = some stats ∧
      stats.latencyP50Ms = 20 ∧ stats.latencyP99Ms = 30 ∧ stats.latencyMinMs = 10 := by
  obtain ⟨hrust, -, hsame⟩ := snapshot_percentiles ⟨.bits64, .wrapping⟩ 3 (.finite 3)
    (fun startTime now : ℕ => now - startTime) sampleCalls
  obtain ⟨s, hrun, hs⟩ := (Rust.metrics ⟨.bits64, .wrapping⟩ 3
    fun startTime now : ℕ => now - startTime).exists_run_of_exec (fun _ _ => True) sampleCalls
    (fun s => s.metrics.latencies = [30, 10, 20]) (by decide)
  obtain ⟨s', hrun', hs'⟩ := (JavaScript.metrics (.finite 3)
    fun startTime now : ℕ => now - startTime).exists_run_of_exec (fun _ _ => True) sampleCalls
    (fun s => s.metrics.latencies = [30, 10, 20]) (by decide +kernel)
  have hkept := of_decide_eq_true hs
  have hkept' := of_decide_eq_true hs'
  have hlen : s.metrics.latencies.length = 3 := by rw [hkept]; rfl
  have hfits : s.metrics.latencies.length ≤ 2 ^ 46 := by omega
  have hword : s.metrics.latencies.length < 2 ^ 64 := by omega
  have hcap : JavaScript.sampleCap (.finite 3) = some 3 := by decide +kernel
  obtain ⟨stats, hstats, hof⟩ := hrust _ s hrun hfits hword
  have heq := hsame hcap _ _ s s' hrun hrun' hfits hword
  have hlast : last (some 3) (latenciesSinceReset (fun startTime now : ℕ => now - startTime)
      sampleCalls) = [30, 10, 20] := by decide
  rw [hlast] at hof
  have hsome : [30, 10, 20] ≠ ([] : List ℕ) := List.cons_ne_nil _ _
  have hp50 : IsPercentile 50 [30, 10, 20] 20 := by constructor <;> decide
  have hp99 : IsPercentile 99 [30, 10, 20] 30 := by constructor <;> decide
  have hmin : IsLeast {x | x ∈ [30, 10, 20]} 10 := by
    constructor
    · decide
    · intro x hx
      have hmem : x ∈ [30, 10, 20] := hx
      simp only [List.mem_cons, List.not_mem_nil, or_false] at hmem
      omega
  exact ⟨s, s', stats, hkept, hkept', hstats, heq.trans hstats, (hof.p50 hsome).unique hp50,
    (hof.p99 hsome).unique hp99, (hof.min hsome).unique hmin⟩

end Multifrost
