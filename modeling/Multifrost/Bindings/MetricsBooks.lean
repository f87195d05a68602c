import Mathlib.Algebra.Order.Ring.Rat
import Mathlib.Data.Nat.Cast.Order.Ring
import Multifrost.Bindings.Metrics

/-!
# The books of the metrics collectors

The books of a collector are right in a state (`Books`) when the queue is as deep as there are
requests in flight, no deeper than the recorded maximum, and the requests are those that succeeded,
those that failed and those in the queue.

The ledger is the abstract model of a collector: natural numbers without a bound, which depend on
the calls alone, not on their times (`ledger`).  A collector refines it (`Collector.Refines`) when
its methods do to its snapshot what the calls do to the ledger, as long as fewer requests than a
limit were started since the last reset.  The books of the ledger are right after every sequence of
calls that resets the collector only while nothing is in flight, and with them those of every
collector that refines it (`Collector.Refines.tracks`).  `Rust.metrics_refines` and
`JavaScript.metrics_refines` instantiate this, and `metrics_books` puts the two together: a reset
with a request in flight is what breaks the books, and breaks them differently in the two bindings.
-/

namespace Multifrost

/-! ### The books -/

/-- The books are right with `n` requests in flight. -/
structure Books {N : Type} [Add N] [NatCast N] [LE N] [Zero N] (c : MetricsSnapshot N) (n : ℕ) :
    Prop where
  depth : c.queueDepth = n
  nonneg : 0 ≤ c.queueDepth
  le_max : c.queueDepth ≤ c.queueMaxDepth
  total : c.requestsTotal = c.requestsSuccess + c.requestsFailed + c.queueDepth

/-- A call without its request and its times. -/
inductive CallKind
  | start
  | finish (success : Bool)
  | reset

def MetricsCall.kind {I : Type} : MetricsCall I → CallKind
  | .start .. => .start
  | .finish _ _ _ success => .finish success
  | .reset => .reset

namespace MetricsSnapshot

/-- Nothing is counted. -/
def zero : MetricsSnapshot ℕ := ⟨0, 0, 0, 0, 0, 0, "closed", 0⟩

/-- What a call counts. -/
def next (c : MetricsSnapshot ℕ) : CallKind → MetricsSnapshot ℕ
  | .start =>
    { c with
      requestsTotal := c.requestsTotal + 1
      queueDepth := c.queueDepth + 1
      queueMaxDepth := max c.queueMaxDepth (c.queueDepth + 1) }
  | .finish true =>
    { c with queueDepth := c.queueDepth - 1, requestsSuccess := c.requestsSuccess + 1 }
  | .finish false =>
    { c with queueDepth := c.queueDepth - 1, requestsFailed := c.requestsFailed + 1 }
  | .reset => zero

end MetricsSnapshot

open MetricsSnapshot

/-- What a sequence of calls counts. -/
def ledger (ks : List CallKind) : MetricsSnapshot ℕ := ks.foldl next zero

theorem ledger_append_singleton (ks : List CallKind) (k : CallKind) :
    ledger (ks ++ [k]) = (ledger ks).next k := by
  unfold ledger
  rw [List.foldl_append]
  rfl

theorem books_zero : Books zero 0 := ⟨rfl, le_rfl, le_rfl, rfl⟩

variable {c : MetricsSnapshot ℕ} {n : ℕ}

theorem Books.start (h : Books c n) : Books (c.next .start) (n + 1) := by
  obtain ⟨hdepth, -, -, htotal⟩ := h
  constructor <;> simp only [next, Nat.cast_id] at * <;> omega

theorem Books.finish (h : Books c (n + 1)) (success : Bool) :
    Books (c.next (.finish success)) n := by
  obtain ⟨hdepth, -, hmax, htotal⟩ := h
  cases success <;> constructor <;> simp only [next, Nat.cast_id] at * <;> omega

/-- The queue is no deeper than the number of requests. -/
theorem Books.depth_le (h : Books c n) : c.queueDepth ≤ c.requestsTotal := by
  have htotal := h.total
  omega

section Cast

variable {N : Type} [Semiring N] [PartialOrder N] [IsStrictOrderedRing N]

/-- The books are right in all numbers or in none. -/
theorem books_map_cast : Books (c.map (Nat.cast : ℕ → N)) n ↔ Books c n := by
  constructor
  · rintro ⟨hdepth, -, hmax, htotal⟩
    refine ⟨?_, Nat.zero_le _, ?_, ?_⟩
    · exact Nat.cast_injective hdepth
    · exact Nat.cast_le.mp hmax
    · apply Nat.cast_injective (R := N)
      rw [Nat.cast_add, Nat.cast_add]
      exact htotal
  · rintro ⟨hdepth, -, hmax, htotal⟩
    refine ⟨?_, Nat.cast_nonneg _, ?_, ?_⟩
    · exact congrArg Nat.cast hdepth
    · exact Nat.cast_le.mpr hmax
    · have hcast := congrArg (Nat.cast : ℕ → N) htotal
      rw [Nat.cast_add, Nat.cast_add] at hcast
      exact hcast

end Cast

/-! ### Collectors that refine the ledger -/

namespace Collector

variable {σ I L N : Type} [DecidableEq I] [Semiring N] [PartialOrder N] [IsStrictOrderedRing N]
  (c : Collector σ I L N) (limit : ℕ)

/-- The methods of a collector do to its snapshot what the calls do to the ledger, as long as the
books are right and fewer requests than the limit were started.  At the limit, a request that is
started makes the books wrong. -/
structure Refines : Prop where
  new : c.snapshot c.new = zero.map Nat.cast
  start : ∀ {l : MetricsSnapshot ℕ} {n : ℕ} {m m' : σ} {now startTime : I},
    Books l n → l.requestsTotal < limit → c.snapshot m = l.map Nat.cast →
    c.startRequest now m = some (startTime, m') → c.snapshot m' = (l.next .start).map Nat.cast
  full : ∀ {l : MetricsSnapshot ℕ} {n : ℕ} {m m' : σ} {now startTime : I},
    Books l n → l.requestsTotal = limit → c.snapshot m = l.map Nat.cast →
    c.startRequest now m = some (startTime, m') → ¬ Books (c.snapshot m') (n + 1)
  finish : ∀ {l : MetricsSnapshot ℕ} {n : ℕ} {m m' : σ} {startTime now : I} {success : Bool}
    {latencyMs : L}, Books l (n + 1) → l.requestsTotal ≤ limit → c.snapshot m = l.map Nat.cast →
    c.endRequest startTime now success m = some (latencyMs, m') →
    c.snapshot m' = (l.next (.finish success)).map Nat.cast
  reset : ∀ m, c.snapshot (c.reset m) = zero.map Nat.cast

/-- The condition on a call: there is room for the request that it starts, and nothing is in flight
when it resets the collector. -/
def Meets (s : Tracked σ I) : MetricsCall I → Prop
  | .start .. => (c.snapshot s.metrics).requestsTotal < limit
  | .finish .. => True
  | .reset => s.inFlight = []

instance [DecidableLT N] (s : Tracked σ I) (i : MetricsCall I) : Decidable (c.Meets limit s i) :=
  match i with
  | .start .. => inferInstanceAs (Decidable ((c.snapshot s.metrics).requestsTotal < limit))
  | .finish .. => inferInstanceAs (Decidable True)
  | .reset => inferInstanceAs (Decidable (s.inFlight = []))

/-- The call leaves right books. -/
def Keeps (s : Tracked σ I) (i : MetricsCall I) : Prop :=
  ∀ s' evs, c.step i s = some (s', evs) → Books (c.snapshot s'.metrics) s'.inFlight.length

/-- The collector counts what the ledger `l` does, and the books are right. -/
structure Tracks (l : MetricsSnapshot ℕ) (s : Tracked σ I) : Prop where
  snapshot_eq : c.snapshot s.metrics = l.map Nat.cast
  books : Books l s.inFlight.length
  total_le : l.requestsTotal ≤ limit

variable {c limit} {l : MetricsSnapshot ℕ} {s s' : Tracked σ I} {i : MetricsCall I} {evs : List L}

omit [DecidableEq I] in
theorem Tracks.books_snapshot (h : c.Tracks limit l s) :
    Books (c.snapshot s.metrics) s.inFlight.length := by
  rw [h.snapshot_eq]
  exact books_map_cast.mpr h.books

omit [IsStrictOrderedRing N] in
theorem Refines.tracks_init (hc : c.Refines limit) : c.Tracks limit zero c.system.init :=
  ⟨hc.new, books_zero, Nat.zero_le _⟩

/-- A call that meets the condition is counted like in the ledger. -/
theorem Refines.tracks_step (hc : c.Refines limit) (h : c.Tracks limit l s)
    (hmeets : c.Meets limit s i) (hs : c.step i s = some (s', evs)) :
    c.Tracks limit (l.next i.kind) s' := by
  obtain ⟨hsnap, hbooks, hle⟩ := h
  cases i with
  | start requestId now =>
    obtain ⟨startTime, metrics, hstart, rfl, -⟩ := step_start hs
    have hroom : l.requestsTotal < limit := by
      unfold Meets at hmeets
      rw [hsnap] at hmeets
      exact Nat.cast_lt.mp hmeets
    exact ⟨hc.start hbooks hroom hsnap hstart, hbooks.start, hroom⟩
  | finish requestId startTime now success =>
    obtain ⟨latencyMs, metrics, hmem, hend, rfl, -⟩ := step_finish hs
    have hlength := List.length_erase_add_one hmem
    rw [← hlength] at hbooks
    refine ⟨hc.finish hbooks hle hsnap hend, hbooks.finish success, ?_⟩
    cases success <;> exact hle
  | reset =>
    obtain ⟨rfl, -⟩ := step_reset hs
    have hnone : s.inFlight = [] := hmeets
    refine ⟨hc.reset s.metrics, ?_, Nat.zero_le _⟩
    show Books zero s.inFlight.length
    rw [hnone]
    exact books_zero

/-- A call that leaves right books meets the condition. -/
theorem Refines.meets_of_keeps (hc : c.Refines limit) (h : c.Tracks limit l s)
    (hkeeps : c.Keeps s i) (hs : c.step i s = some (s', evs)) : c.Meets limit s i := by
  obtain ⟨hsnap, hbooks, hle⟩ := h
  have hright := hkeeps s' evs hs
  cases i with
  | start requestId now =>
    obtain ⟨startTime, metrics, hstart, rfl, -⟩ := step_start hs
    unfold Meets
    rw [hsnap]
    apply Nat.cast_lt.mpr
    by_contra hfull
    exact hc.full hbooks (by omega) hsnap hstart hright
  | finish requestId startTime now success => trivial
  | reset =>
    obtain ⟨rfl, -⟩ := step_reset hs
    have hdepth := hright.depth
    dsimp only at hdepth
    rw [hc.reset] at hdepth
    have hnone : s.inFlight.length = 0 := Nat.cast_injective (R := N) hdepth.symm
    exact List.length_eq_zero_iff.mp hnone

/-- The run rule: after calls that all meet the condition, the collector counts what the ledger
does. -/
theorem Refines.tracks (hc : c.Refines limit) {is : List (MetricsCall I)}
    (h : c.Run (c.Meets limit) is s) : c.Tracks limit (ledger (is.map MetricsCall.kind)) s := by
  obtain ⟨tr, h⟩ := h
  refine TransitionSystem.Path.invariant
    (P := fun is _ s => c.Tracks limit (ledger (is.map MetricsCall.kind)) s) hc.tracks_init ?_ h
  intro is tr evs s₁ s₂ i _ hmeets hs ih
  rw [List.map_append, List.map_singleton, ledger_append_singleton]
  exact hc.tracks_step ih hmeets hs

/-- The runs with right books are those whose calls all meet the condition. -/
theorem Refines.run_keeps_iff (hc : c.Refines limit) {is : List (MetricsCall I)} :
    c.Run c.Keeps is s ↔ c.Run (c.Meets limit) is s := by
  constructor
  · rintro ⟨tr, h⟩
    refine ⟨tr, ?_⟩
    induction h with
    | nil => exact .nil
    | snoc h hkeeps hs ih => exact ih.snoc (hc.meets_of_keeps (hc.tracks ⟨_, ih⟩) hkeeps hs) hs
  · rintro ⟨tr, h⟩
    refine ⟨tr, ?_⟩
    induction h with
    | nil => exact .nil
    | snoc h hmeets hs ih =>
      refine ih.snoc ?_ hs
      intro s' evs hs'
      have hafter := hc.tracks_step (hc.tracks ⟨_, h⟩) hmeets hs'
      exact hafter.books_snapshot

/-- Two collectors that refine the ledger count the same after the same calls. -/
theorem Refines.snapshot_eq {σ' I' L' : Type} [DecidableEq I'] {c' : Collector σ' I' L' ℕ}
    {limit' : ℕ} {is : List (MetricsCall I)} {is' : List (MetricsCall I')} {s' : Tracked σ' I'}
    (hc : c.Refines limit) (hc' : c'.Refines limit') (h : c.Run (c.Meets limit) is s)
    (h' : c'.Run (c'.Meets limit') is' s')
    (hkinds : is.map MetricsCall.kind = is'.map MetricsCall.kind) :
    c.snapshot s.metrics = (c'.snapshot s'.metrics).map Nat.cast := by
  have hledger : c'.snapshot s'.metrics = ledger (is'.map MetricsCall.kind) :=
    (hc'.tracks h').snapshot_eq
  rw [(hc.tracks h).snapshot_eq, hledger, hkinds]

end Collector

/-! ### Rust -/

namespace Rust

variable {I L : Type}

namespace MetricsInner

variable {t : Machine} {inner inner' : MetricsInner L} {startTime now : I}

@[simp]
theorem snapshot_pushLatency (latencyMs : L) :
    (inner.pushLatency latencyMs).snapshot = inner.snapshot := by
  unfold pushLatency
  dsimp only
  split_ifs <;> rfl

/-- A request that is started is counted where the number of requests fits. -/
theorem startRequest_of_lt (hdepth : inner.queueDepth ≤ inner.requestsTotal)
    (hlt : inner.requestsTotal + 1 < 2 ^ t.bits)
    (h : inner.startRequest t now = some (startTime, inner')) :
    inner'.snapshot = inner.snapshot.next .start := by
  unfold startRequest at h
  rw [Machine.addUsize_of_lt hlt, Machine.addUsize_of_lt (by omega)] at h
  obtain ⟨-, rfl⟩ := Prod.mk.inj (Option.some.inj h)
  rfl

/-- Where it does not fit, the number of requests is 0 afterwards. -/
theorem requestsTotal_of_full (hfull : inner.requestsTotal + 1 = 2 ^ t.bits)
    (h : inner.startRequest t now = some (startTime, inner')) : inner'.requestsTotal = 0 := by
  have hbits : 2 ^ 32 ≤ 2 ^ t.bits := Nat.pow_le_pow_right (by decide) t.le_bits
  obtain ⟨requestsTotal, hadd, h⟩ := Option.bind_eq_some_iff.mp h
  obtain ⟨queueDepth, -, h⟩ := Option.bind_eq_some_iff.mp h
  obtain ⟨-, rfl⟩ := Prod.mk.inj (Option.some.inj h)
  have hlt := (Machine.lt_of_addUsize (by omega) (by omega) (by omega) hadd).2
  show requestsTotal = 0
  omega

/-- A request that is ended is counted where both numbers of outcomes fit. -/
theorem endRequest_of_lt {elapsedMs : I → I → L} {success : Bool} {latencyMs : L}
    (hsuccess : inner.requestsSuccess + 1 < 2 ^ t.bits)
    (hfailed : inner.requestsFailed + 1 < 2 ^ t.bits)
    (h : inner.endRequest t elapsedMs startTime now success = some (latencyMs, inner')) :
    inner'.snapshot = inner.snapshot.next (.finish success) := by
  unfold endRequest at h
  dsimp only at h
  rw [Machine.addUsize_of_lt hsuccess, Machine.addUsize_of_lt hfailed] at h
  cases success with
  | true =>
    obtain ⟨-, rfl⟩ := Prod.mk.inj (Option.some.inj h)
    rw [snapshot_pushLatency]
    rfl
  | false =>
    obtain ⟨-, rfl⟩ := Prod.mk.inj (Option.some.inj h)
    rw [snapshot_pushLatency]
    rfl

end MetricsInner

/-- The Rust collector counts like the ledger up to the largest word. -/
theorem metrics_refines [DecidableEq I] (t : Machine) (maxLatencySamples : ℕ)
    (elapsedMs : I → I → L) :
    (metrics t maxLatencySamples elapsedMs).Refines (2 ^ t.bits - 1) where
  new := rfl
  start := by
    intro l n m m' now startTime hbooks hlt hsnap hstart
    obtain rfl : m.snapshot = l := hsnap
    have hroom : m.requestsTotal < 2 ^ t.bits - 1 := hlt
    exact MetricsInner.startRequest_of_lt hbooks.depth_le (by omega) hstart
  full := by
    intro l n m m' now startTime hbooks hfull hsnap hstart hafter
    obtain rfl : m.snapshot = l := hsnap
    have hlargest : m.requestsTotal = 2 ^ t.bits - 1 := hfull
    have hwords : 0 < 2 ^ t.bits := Nat.two_pow_pos _
    have hzero := MetricsInner.requestsTotal_of_full (by omega) hstart
    -- a request is in the queue, and none is counted
    have hdepth : m'.queueDepth = n + 1 := hafter.depth
    have htotal : m'.requestsTotal = m'.requestsSuccess + m'.requestsFailed + m'.queueDepth :=
      hafter.total
    omega
  finish := by
    intro l n m m' startTime now success latencyMs hbooks hle hsnap hend
    obtain rfl : m.snapshot = l := hsnap
    have hdepth : m.queueDepth = n + 1 := hbooks.depth
    have htotal : m.requestsTotal = m.requestsSuccess + m.requestsFailed + m.queueDepth :=
      hbooks.total
    have hfits : m.requestsTotal ≤ 2 ^ t.bits - 1 := hle
    have hwords : 0 < 2 ^ t.bits := Nat.two_pow_pos _
    exact MetricsInner.endRequest_of_lt (by omega) (by omega) hend
  reset := fun _ => rfl

end Rust

/-! ### JavaScript -/

namespace JavaScript

variable {I L : Type}

theorem add_one {n : ℕ} (h : n < 2 ^ 53) : add n 1 = ((n + 1 : ℕ) : ℚ) := by
  have hnonneg : ¬ ((n : ℚ) + 1 < 0) := by
    have hcast : (0 : ℚ) ≤ n := Nat.cast_nonneg n
    linarith
  unfold add
  rw [if_neg hnonneg, ← Nat.cast_succ]
  exact Double.nearest_natCast_of_le h

/-- The first number that is not a double is rounded down. -/
theorem add_one_of_full : add ((2 ^ 53 : ℕ) : ℚ) 1 = ((2 ^ 53 : ℕ) : ℚ) := by
  decide +kernel

theorem add_neg_one {n : ℕ} (h : n ≤ 2 ^ 53) : add ((n + 1 : ℕ) : ℚ) (-1) = n := by
  have hsum : ((n + 1 : ℕ) : ℚ) + -1 = n := by
    push_cast
    ring
  unfold add
  rw [hsum, if_neg (not_lt.mpr (Nat.cast_nonneg n))]
  exact Double.nearest_natCast_of_le h

namespace Metrics

variable {m : Metrics L} {l : MetricsSnapshot ℕ} {startTime now : I}

theorem snapshot_pushLatency (latencyMs : L) :
    (m.pushLatency latencyMs).snapshot = m.snapshot := by
  unfold pushLatency
  dsimp only
  split_ifs <;> rfl

/-- A request that is started is counted where the number of requests is a double. -/
theorem startRequest_of_lt (hdepth : l.queueDepth ≤ l.requestsTotal)
    (hlt : l.requestsTotal < 2 ^ 53) (hsnap : m.snapshot = l.map Nat.cast) :
    (m.startRequest now).2.snapshot = (l.next .start).map Nat.cast := by
  obtain ⟨htotal, hsuccess, hfailed, hqueue, hmax, htrips, hstate, hmisses⟩ :=
    MetricsSnapshot.ext_iff.mp hsnap
  dsimp only [snapshot, MetricsSnapshot.map] at htotal hqueue hmax
  have htotal' : add m.requestsTotal 1 = ((l.requestsTotal + 1 : ℕ) : ℚ) := by
    rw [htotal, add_one hlt]
  have hqueue' : add m.queueDepth 1 = ((l.queueDepth + 1 : ℕ) : ℚ) := by
    rw [hqueue, add_one (by omega)]
  refine MetricsSnapshot.ext htotal' hsuccess hfailed hqueue' ?_ htrips hstate hmisses
  show max m.queueMaxDepth (add m.queueDepth 1) = ((max l.queueMaxDepth (l.queueDepth + 1) : ℕ) : ℚ)
  rw [hqueue', hmax, Nat.cast_max]

/-- Where it is not, the number of requests stays what it was. -/
theorem requestsTotal_of_full (hfull : m.requestsTotal = ((2 ^ 53 : ℕ) : ℚ)) :
    (m.startRequest now).2.requestsTotal = m.requestsTotal := by
  show add m.requestsTotal 1 = m.requestsTotal
  rw [hfull, add_one_of_full]

/-- A request that is ended is counted where the queue is not empty and all numbers are doubles. -/
theorem endRequest_of_lt {elapsedMs : I → I → L} {success : Bool} (hpos : 0 < l.queueDepth)
    (hdepth : l.queueDepth ≤ 2 ^ 53) (hsuccess : l.requestsSuccess < 2 ^ 53)
    (hfailed : l.requestsFailed < 2 ^ 53) (hsnap : m.snapshot = l.map Nat.cast) :
    (m.endRequest elapsedMs startTime now success).2.snapshot =
      (l.next (.finish success)).map Nat.cast := by
  obtain ⟨htotal, hsucceeded, hfails, hqueue, hmax, htrips, hstate, hmisses⟩ :=
    MetricsSnapshot.ext_iff.mp hsnap
  dsimp only [snapshot, MetricsSnapshot.map] at hsucceeded hfails hqueue
  have hqueue' : add m.queueDepth (-1) = ((l.queueDepth - 1 : ℕ) : ℚ) := by
    obtain ⟨depth, hdepth'⟩ := Nat.exists_eq_add_of_lt hpos
    rw [hqueue, hdepth', Nat.zero_add, add_neg_one (by omega), Nat.add_sub_cancel]
  cases success with
  | true =>
    have hsucceeded' : add m.requestsSuccess 1 = ((l.requestsSuccess + 1 : ℕ) : ℚ) := by
      rw [hsucceeded, add_one hsuccess]
    refine (snapshot_pushLatency _).trans ?_
    exact MetricsSnapshot.ext htotal hsucceeded' hfails hqueue' hmax htrips hstate hmisses
  | false =>
    have hfails' : add m.requestsFailed 1 = ((l.requestsFailed + 1 : ℕ) : ℚ) := by
      rw [hfails, add_one hfailed]
    refine (snapshot_pushLatency _).trans ?_
    exact MetricsSnapshot.ext htotal hsucceeded hfails' hqueue' hmax htrips hstate hmisses

end Metrics

/-- The JavaScript collector counts like the ledger up to `2 ^ 53`. -/
theorem metrics_refines [DecidableEq I] (maxLatencySamples : Double.Value)
    (elapsedMs : I → I → L) :
    (metrics maxLatencySamples elapsedMs).Refines (2 ^ 53) where
  new := rfl
  start := by
    intro l n m m' now startTime hbooks hlt hsnap hstart
    obtain rfl : (m.startRequest now).2 = m' := congrArg Prod.snd (Option.some.inj hstart)
    exact Metrics.startRequest_of_lt hbooks.depth_le hlt hsnap
  full := by
    intro l n m m' now startTime hbooks hfull hsnap hstart hafter
    obtain rfl : (m.startRequest now).2 = m' := congrArg Prod.snd (Option.some.inj hstart)
    have htotal : m.requestsTotal = l.requestsTotal :=
      congrArg MetricsSnapshot.requestsTotal hsnap
    have hsame : (m.startRequest now).2.requestsTotal = m.requestsTotal :=
      Metrics.requestsTotal_of_full (by rw [htotal, hfull])
    -- the queue is one deeper than before, and the number of requests is the same
    have hbefore : Books m.snapshot n := by
      rw [show m.snapshot = l.map Nat.cast from hsnap]
      exact books_map_cast.mpr hbooks
    have hdepth : m.queueDepth = n := hbefore.depth
    have hsum : m.requestsTotal = m.requestsSuccess + m.requestsFailed + m.queueDepth :=
      hbefore.total
    have hdepth' : (m.startRequest now).2.queueDepth = (n + 1 : ℕ) := hafter.depth
    have hsum' : (m.startRequest now).2.requestsTotal =
        m.requestsSuccess + m.requestsFailed + (m.startRequest now).2.queueDepth := hafter.total
    push_cast at hdepth'
    linarith
  finish := by
    intro l n m m' startTime now success latencyMs hbooks hle hsnap hend
    obtain rfl : (m.endRequest elapsedMs startTime now success).2 = m' :=
      congrArg Prod.snd (Option.some.inj hend)
    have hdepth := hbooks.depth
    have htotal := hbooks.total
    rw [Nat.cast_id] at hdepth
    exact Metrics.endRequest_of_lt (by omega) (by omega) (by omega) (by omega) hsnap
  reset := fun _ => rfl

end JavaScript

/-! ### Both collectors -/

section Both

variable {I I' L L' : Type} [DecidableEq I] [DecidableEq I'] (t : Machine)
  (maxLatencySamples : ℕ) (elapsedMs : I → I → L) (maxLatencySamples' : Double.Value)
  (elapsedMs' : I' → I' → L')

/-- **When the books are right.**  They are right in every state of a run exactly when nothing is in
flight at a reset and no request is started where the number of requests is the largest that is
counted, `2 ^ w - 1` in words of `w` bits and `2 ^ 53` in doubles.  In such runs the two collectors
count the same for the same calls, at whatever times these are made. -/
theorem metrics_books :
    (∀ is s,
      ((Rust.metrics t maxLatencySamples elapsedMs).Run
          ((Rust.metrics t maxLatencySamples elapsedMs).Keeps) is s ↔
        (Rust.metrics t maxLatencySamples elapsedMs).Run
          ((Rust.metrics t maxLatencySamples elapsedMs).Meets (2 ^ t.bits - 1)) is s) ∧
      ((Rust.metrics t maxLatencySamples elapsedMs).Run
          ((Rust.metrics t maxLatencySamples elapsedMs).Meets (2 ^ t.bits - 1)) is s →
        Books s.metrics.snapshot s.inFlight.length)) ∧
    (∀ is s,
      ((JavaScript.metrics maxLatencySamples' elapsedMs').Run
          ((JavaScript.metrics maxLatencySamples' elapsedMs').Keeps) is s ↔
        (JavaScript.metrics maxLatencySamples' elapsedMs').Run
          ((JavaScript.metrics maxLatencySamples' elapsedMs').Meets (2 ^ 53)) is s) ∧
      ((JavaScript.metrics maxLatencySamples' elapsedMs').Run
          ((JavaScript.metrics maxLatencySamples' elapsedMs').Meets (2 ^ 53)) is s →
        Books s.metrics.snapshot s.inFlight.length)) ∧
    ∀ is s is' s',
      (Rust.metrics t maxLatencySamples elapsedMs).Run
          ((Rust.metrics t maxLatencySamples elapsedMs).Meets (2 ^ t.bits - 1)) is s →
      (JavaScript.metrics maxLatencySamples' elapsedMs').Run
          ((JavaScript.metrics maxLatencySamples' elapsedMs').Meets (2 ^ 53)) is' s' →
      is.map MetricsCall.kind = is'.map MetricsCall.kind →
      s'.metrics.snapshot = s.metrics.snapshot.map Nat.cast := by
  have hrust := Rust.metrics_refines t maxLatencySamples elapsedMs
  have hjs := JavaScript.metrics_refines maxLatencySamples' elapsedMs'
  refine ⟨fun is s => ⟨hrust.run_keeps_iff, fun h => ?_⟩, fun is s => ⟨hjs.run_keeps_iff, fun h => ?_⟩,
    fun is s is' s' h h' hkinds => ?_⟩
  · exact (hrust.tracks h).books_snapshot
  · exact (hjs.tracks h).books_snapshot
  · exact hjs.snapshot_eq hrust h' h hkinds.symm

end Both

/-- A Rust collector on a 64-bit machine, with the times of a counter. -/
def Rust.sampleMetrics : Collector (Rust.MetricsInner ℕ) ℕ ℕ ℕ :=
  Rust.metrics ⟨.bits64, .wrapping⟩ 1000 fun startTime now => now - startTime

def JavaScript.sampleMetrics : Collector (JavaScript.Metrics ℕ) ℕ ℕ ℚ :=
  JavaScript.metrics (.finite 1000) fun startTime now => now - startTime

/-- A request that is in flight at a reset and ends after it: the Rust collector counts it among
the successes and not among the requests, and the queue of the JavaScript collector is `-1` deep. -/
theorem metrics_books_reset_in_flight :
    ∃ s s',
      Rust.sampleMetrics.Run (fun _ _ => True)
        [.start "r" 0, .reset, .finish "r" 0 1 true] s ∧
      JavaScript.sampleMetrics.Run (fun _ _ => True)
        [.start "r" 0, .reset, .finish "r" 0 1 true] s' ∧
      s.inFlight = [] ∧ s'.inFlight = [] ∧
      s.metrics.requestsTotal = 0 ∧ s.metrics.requestsSuccess = 1 ∧ s.metrics.queueDepth = 0 ∧
      s'.metrics.queueDepth = -1 ∧
      ¬ Books s.metrics.snapshot s.inFlight.length ∧
      ¬ Books s'.metrics.snapshot s'.inFlight.length ∧
      s'.metrics.snapshot ≠ s.metrics.snapshot.map Nat.cast := by
  obtain ⟨s, hrun, hs⟩ := Rust.sampleMetrics.exists_run_of_exec (fun _ _ => True)
    [.start "r" 0, .reset, .finish "r" 0 1 true]
    (fun s => s.inFlight = [] ∧ s.metrics.requestsTotal = 0 ∧ s.metrics.requestsSuccess = 1 ∧
      s.metrics.queueDepth = 0) (by decide)
  obtain ⟨s', hrun', hs'⟩ := JavaScript.sampleMetrics.exists_run_of_exec (fun _ _ => True)
    [.start "r" 0, .reset, .finish "r" 0 1 true]
    (fun s => s.inFlight = [] ∧ s.metrics.queueDepth = -1) (by decide +kernel)
  obtain ⟨hnone, htotal, hsuccess, hdepth⟩ := of_decide_eq_true hs
  obtain ⟨hnone', hdepth'⟩ := of_decide_eq_true hs'
  refine ⟨s, s', hrun, hrun', hnone, hnone', htotal, hsuccess, hdepth, hdepth', ?_, ?_, ?_⟩
  · intro hbooks
    have hsum : s.metrics.requestsTotal =
        s.metrics.requestsSuccess + s.metrics.requestsFailed + s.metrics.queueDepth := hbooks.total
    omega
  · intro hbooks
    have hnonneg : 0 ≤ s'.metrics.queueDepth := hbooks.nonneg
    linarith
  · intro heq
    have hsame : s'.metrics.queueDepth = s.metrics.queueDepth :=
      congrArg MetricsSnapshot.queueDepth heq
    rw [hdepth', hdepth] at hsame
    norm_num at hsame

/-- Two of three requests have ended, one of them before a reset. -/
theorem metrics_books_overlapping :
    ∃ (s : Tracked (Rust.MetricsInner ℕ) ℕ) (s' : Tracked (JavaScript.Metrics ℕ) ℕ),
      s.inFlight = [("c", 3)] ∧ Books s.metrics.snapshot 1 ∧
      s'.inFlight = [("c", 30)] ∧ Books s'.metrics.snapshot 1 ∧
      s'.metrics.snapshot = s.metrics.snapshot.map Nat.cast := by
  obtain ⟨hrust, hjs, hsame⟩ := metrics_books ⟨.bits64, .wrapping⟩ 1000
    (fun startTime now : ℕ => now - startTime) (.finite 1000)
    (fun startTime now : ℕ => now - startTime)
  obtain ⟨s, hrun, hs⟩ := Rust.sampleMetrics.exists_run_of_exec
    (Rust.sampleMetrics.Meets (2 ^ 64 - 1))
    [.start "a" 0, .finish "a" 0 1 false, .reset, .start "b" 2, .start "c" 3,
      .finish "b" 2 4 true] (fun s => s.inFlight = [("c", 3)]) (by decide)
  obtain ⟨s', hrun', hs'⟩ := JavaScript.sampleMetrics.exists_run_of_exec
    (JavaScript.sampleMetrics.Meets (2 ^ 53))
    [.start "a" 0, .finish "a" 0 10 false, .reset, .start "b" 20, .start "c" 30,
      .finish "b" 20 40 true] (fun s => s.inFlight = [("c", 30)]) (by decide +kernel)
  have hflight := of_decide_eq_true hs
  have hflight' := of_decide_eq_true hs'
  have hbooks := (hrust _ s).2 hrun
  have hbooks' := (hjs _ s').2 hrun'
  rw [hflight] at hbooks
  rw [hflight'] at hbooks'
  exact ⟨s, s', hflight, hbooks, hflight', hbooks', hsame _ s _ s' hrun hrun' rfl⟩

end Multifrost
