import Multifrost.Bindings.LockLoops

/-!
# Acquisition by the deadline

A `Schedule` is any behaviour of the file system under which the create fails only because the file is
there (or, in JavaScript, is denied), and of a clock that goes on.  The loops of Python and PHP look at
the deadline in every turn.  Those of Rust, JavaScript and Go look at it only when the lock is valid:
a file that they take for stale and cannot get rid of keeps them busy for ever (`stuck_lock`).

`acquire_endsByDeadline_iff` says when a loop ends by its deadline with a lock, with a skip or with a
timeout.
-/

namespace Multifrost

open Json (Fields)
open Rust (LockEvalResult LockFileData)

namespace Bindings

variable {γ : Type} {denied : Bool}

/-- The file system does not fail in other ways, nothing is cancelled, and the clock does not go back;
`denied` is whether the create may be denied. -/
structure TurnOk (denied : Bool) (t : Turn γ) : Prop where
  create : t.create = .created ∨ t.create = .alreadyExists ∨ denied = true ∧ t.create = .denied
  removed : t.removed = true
  not_cancelled : t.cancelled = false
  clock : t.start ≤ t.check

theorem TurnOk.create_of_not_denied {t : Turn γ} (ht : TurnOk false t) :
    t.create = .created ∨ t.create = .alreadyExists := by
  rcases ht.create with hcreate | hcreate | ⟨hdenied, -⟩
  · exact Or.inl hcreate
  · exact Or.inr hcreate
  · cases hdenied

theorem TurnOk.lt_check {t : Turn γ} (ht : TurnOk denied t) {deadline : Nat}
    (hlate : deadline < t.start) : deadline < t.check := by
  have hclock := ht.clock
  omega

/-- What all the turns of a loop find. -/
structure Schedule (γ : Type) (denied : Bool) where
  turn : Nat → Turn γ
  ok : ∀ k, TurnOk denied (turn k)
  /-- the clock goes on from turn to turn -/
  clock : ∀ k, (turn k).start < (turn (k + 1)).start

/-- The turn starts when the deadline has passed. -/
def Schedule.late (s : Schedule γ denied) (deadline k : Nat) : Prop := deadline < (s.turn k).start

/-- The loop returns a lock, a skip or a timeout, and it starts one turn at most after the deadline. -/
def EndsByDeadline (deadline : Nat) (body : Turn γ → Option Acquired) (s : Schedule γ denied) :
    Prop :=
  RetryLoop.EndsBy (s.late deadline) (fun r => r.isExpected = true) body s.turn

theorem endsByDeadline_iff {deadline : Nat} {body : Turn γ → Option Acquired}
    {s : Schedule γ denied} :
    EndsByDeadline deadline body s ↔ ∀ k, RetryLoop.Starts body s.turn k →
      (s.late deadline k → body (s.turn k) ≠ none) ∧
        ∀ r, body (s.turn k) = some r → r.isExpected = true :=
  RetryLoop.endsBy_iff (RetryLoop.exists_late s.clock deadline) fun k h => h.trans (s.clock k)

/-- For a loop that returns nothing unexpected it comes down to the late turns. -/
theorem endsByDeadline_iff_of_isExpected {deadline : Nat} {body : Turn γ → Option Acquired}
    {s : Schedule γ denied}
    (hexpected : ∀ t, TurnOk denied t → ∀ r, body t = some r → r.isExpected = true) :
    EndsByDeadline deadline body s ↔ ∀ k, RetryLoop.Starts body s.turn k →
      s.late deadline k → body (s.turn k) ≠ none := by
  refine endsByDeadline_iff.trans (forall₂_congr fun k _ => ?_)
  exact and_iff_left (hexpected (s.turn k) (s.ok k))

end Bindings

open Bindings

/-! ### Turns -/

namespace Rust

variable {deadline : Nat} {t : Turn (Option (Option LockFileData))}

theorem acquireLock_isExpected (ht : TurnOk false t) {r : Acquired}
    (h : acquireLock deadline t = some r) : r.isExpected = true := by
  unfold acquireLock at h
  rcases ht.create_of_not_denied with hcreate | hcreate
  · rw [hcreate] at h
    obtain rfl := Option.some.inj h
    rfl
  · rw [hcreate] at h
    cases hverdict : evaluateTurn t <;> rw [hverdict] at h
    · cases h
    · obtain rfl := Option.some.inj h
      rfl
    · dsimp only at h
      split_ifs at h
      obtain rfl := Option.some.inj h
      rfl

/-- A late turn goes on only after a reclaim. -/
theorem acquireLock_late (ht : TurnOk false t) (hlate : deadline < t.start) :
    acquireLock deadline t ≠ none ↔ (t.create = .alreadyExists → evaluateTurn t ≠ .reclaim) := by
  have hcheck := ht.lt_check hlate
  unfold acquireLock
  rcases ht.create_of_not_denied with hcreate | hcreate
  · rw [hcreate]
    simp
  · rw [hcreate]
    cases evaluateTurn t with
    | reclaim => simp
    | skipSpawn => simp
    | wait =>
      dsimp only
      rw [if_pos hcheck.le]
      simp

end Rust

namespace JavaScript

section Acquire

variable {stringToNumber : String → Number} {lockPath : String} {deadline : Nat}
  {t : Turn (Option (Option Json))}

/-- The create is denied, or the file is there. -/
theorem acquireStartupLock_eq (ht : TurnOk true t) :
    acquireStartupLock stringToNumber lockPath deadline t =
      if t.create = .created then some .lock
      else retryStartupLock stringToNumber lockPath deadline t := by
  unfold acquireStartupLock
  rcases ht.create with hcreate | hcreate | ⟨-, hcreate⟩ <;> rw [hcreate] <;> rfl

/-- Nothing unexpected is thrown unless the evaluation throws. -/
theorem acquireStartupLock_isExpected (ht : TurnOk true t) :
    (∀ r, acquireStartupLock stringToNumber lockPath deadline t = some r → r.isExpected = true) ↔
      (t.create ≠ .created → evaluateTurn stringToNumber t ≠ none) := by
  rw [acquireStartupLock_eq ht]
  by_cases hcreate : t.create = .created
  · rw [if_pos hcreate]
    refine iff_of_true (fun r hr => ?_) fun h => absurd hcreate h
    obtain rfl := Option.some.inj hr
    rfl
  · rw [if_neg hcreate]
    unfold retryStartupLock
    cases hverdict : evaluateTurn stringToNumber t with
    | none =>
      refine iff_of_false (fun h => ?_) fun h => h hcreate rfl
      cases h .error rfl
    | some verdict =>
      refine iff_of_true (fun r hr => ?_) fun _ => nofun
      cases verdict with
      | reclaim => cases hr
      | skipSpawn =>
        obtain rfl := Option.some.inj hr
        rfl
      | wait =>
        dsimp only at hr
        split_ifs at hr
        obtain rfl := Option.some.inj hr
        rfl

theorem acquireStartupLock_late (ht : TurnOk true t) (hlate : deadline < t.start) :
    acquireStartupLock stringToNumber lockPath deadline t ≠ none ↔
      (t.create ≠ .created → evaluateTurn stringToNumber t ≠ some .reclaim) := by
  have hcheck := ht.lt_check hlate
  rw [acquireStartupLock_eq ht]
  by_cases hcreate : t.create = .created
  · rw [if_pos hcreate]
    exact iff_of_true nofun fun h => absurd hcreate h
  · rw [if_neg hcreate]
    unfold retryStartupLock
    cases evaluateTurn stringToNumber t with
    | none => exact iff_of_true nofun fun _ => nofun
    | some verdict =>
      cases verdict with
      | reclaim => exact iff_of_false (fun h => h rfl) fun h => h hcreate rfl
      | skipSpawn => exact iff_of_true nofun fun _ => nofun
      | wait =>
        dsimp only
        rw [if_pos hcheck.le]
        exact iff_of_true nofun fun _ => nofun

end Acquire

end JavaScript

namespace Go

variable {deadline : Nat} {t : Turn (Option Fields)}

theorem acquireRouterLock_isExpected (ht : TurnOk false t) {r : Acquired}
    (h : acquireRouterLock deadline t = some r) : r.isExpected = true := by
  unfold acquireRouterLock at h
  rcases ht.create_of_not_denied with hcreate | hcreate
  · rw [hcreate] at h
    obtain rfl := Option.some.inj h
    rfl
  · rw [hcreate] at h
    cases hverdict : evaluateTurn t <;> rw [hverdict] at h
    · cases h
    · obtain rfl := Option.some.inj h
      rfl
    · dsimp only at h
      simp only [ht.not_cancelled, Bool.false_eq_true, if_false] at h
      split_ifs at h
      obtain rfl := Option.some.inj h
      rfl

theorem acquireRouterLock_late (ht : TurnOk false t) (hlate : deadline < t.start) :
    acquireRouterLock deadline t ≠ none ↔
      (t.create = .alreadyExists → evaluateTurn t ≠ .reclaim) := by
  have hcheck := ht.lt_check hlate
  unfold acquireRouterLock
  rcases ht.create_of_not_denied with hcreate | hcreate
  · rw [hcreate]
    simp
  · rw [hcreate]
    cases evaluateTurn t with
    | reclaim => simp
    | skipSpawn => simp
    | wait =>
      dsimp only
      rw [if_pos hcheck]
      simp

end Go

namespace Python

variable {deadline : Nat} {t : Turn Loaded}

/-- Nothing unexpected is raised unless the evaluation raises. -/
theorem aenter_isExpected (ht : TurnOk false t) :
    (∀ r, aenter deadline t = some r → r.isExpected = true) ↔
      (t.create = .alreadyExists → t.check < deadline → evaluateTurn t ≠ none) := by
  unfold aenter
  rcases ht.create_of_not_denied with hcreate | hcreate
  · rw [hcreate]
    refine iff_of_true (fun r hr => ?_) fun h => by cases h
    obtain rfl := Option.some.inj hr
    rfl
  · rw [hcreate]
    dsimp only
    by_cases hcheck : deadline ≤ t.check
    · rw [if_pos hcheck]
      refine iff_of_true (fun r hr => ?_) fun _ hlt => by omega
      obtain rfl := Option.some.inj hr
      rfl
    · rw [if_neg hcheck, ht.removed]
      have hlt : t.check < deadline := Nat.lt_of_not_le hcheck
      cases evaluateTurn t with
      | none =>
        refine iff_of_false (fun h => ?_) fun h => h rfl hlt rfl
        cases h .error rfl
      | some verdict =>
        refine iff_of_true (fun r hr => ?_) fun _ _ => nofun
        cases verdict with
        | reclaim | wait => cases hr
        | skipSpawn =>
          obtain rfl := Option.some.inj hr
          rfl

/-- A late turn returns. -/
theorem aenter_late (ht : TurnOk false t) (hlate : deadline < t.start) : aenter deadline t ≠ none := by
  have hcheck := ht.lt_check hlate
  unfold aenter
  rcases ht.create_of_not_denied with hcreate | hcreate
  · rw [hcreate]
    exact nofun
  · rw [hcreate]
    dsimp only
    rw [if_pos hcheck.le]
    exact nofun

end Python

namespace Php

variable {stringLess : String → ℚ → Bool} {deadline : Nat} {t : Turn (Option Fields)}

theorem acquireLock_isExpected (ht : TurnOk false t) {r : Acquired}
    (h : acquireLock stringLess deadline t = some r) : r.isExpected = true := by
  unfold acquireLock at h
  split_ifs at h
  · obtain rfl := Option.some.inj h
    rfl
  · rcases ht.create_of_not_denied with hcreate | hcreate
    · rw [hcreate] at h
      obtain rfl := Option.some.inj h
      rfl
    · rw [hcreate] at h
      cases hverdict : evaluateTurn stringLess t <;> rw [hverdict] at h
      · cases h
      · obtain rfl := Option.some.inj h
        rfl
      · cases h

theorem acquireLock_late (hlate : deadline < t.start) : acquireLock stringLess deadline t ≠ none := by
  unfold acquireLock
  rw [if_pos hlate.le]
  exact nofun

end Php

/-! ### All bindings -/

namespace Bindings

open RetryLoop (Starts)

/-- **When the acquisition of the lock ends by its deadline.**  The loops of Rust and Go do so if and
only if no turn that starts after the deadline finds a lock file and takes it for stale; that of
JavaScript, if moreover no evaluation throws; that of Python, if no evaluation before the deadline
raises; that of PHP always does. -/
theorem acquire_endsByDeadline_iff (deadline : Nat) (stringToNumber : String → JavaScript.Number)
    (lockPath : String) (stringLess : String → ℚ → Bool)
    (rust : Schedule (Option (Option LockFileData)) false)
    (javascript : Schedule (Option (Option Json)) true) (go : Schedule (Option Fields) false)
    (python : Schedule Python.Loaded false) (php : Schedule (Option Fields) false) :
    (EndsByDeadline deadline (Rust.acquireLock deadline) rust ↔
      ∀ k, Starts (Rust.acquireLock deadline) rust.turn k → rust.late deadline k →
        (rust.turn k).create = .alreadyExists → Rust.evaluateTurn (rust.turn k) ≠ .reclaim) ∧
    (EndsByDeadline deadline (JavaScript.acquireStartupLock stringToNumber lockPath deadline)
        javascript ↔
      ∀ k, Starts (JavaScript.acquireStartupLock stringToNumber lockPath deadline)
          javascript.turn k → (javascript.turn k).create ≠ .created →
        JavaScript.evaluateTurn stringToNumber (javascript.turn k) ≠ none ∧
        (javascript.late deadline k →
          JavaScript.evaluateTurn stringToNumber (javascript.turn k) ≠ some .reclaim)) ∧
    (EndsByDeadline deadline (Go.acquireRouterLock deadline) go ↔
      ∀ k, Starts (Go.acquireRouterLock deadline) go.turn k → go.late deadline k →
        (go.turn k).create = .alreadyExists → Go.evaluateTurn (go.turn k) ≠ .reclaim) ∧
    (EndsByDeadline deadline (Python.aenter deadline) python ↔
      ∀ k, Starts (Python.aenter deadline) python.turn k →
        (python.turn k).create = .alreadyExists → (python.turn k).check < deadline →
        Python.evaluateTurn (python.turn k) ≠ none) ∧
    EndsByDeadline deadline (Php.acquireLock stringLess deadline) php := by
  refine ⟨?_, ?_, ?_, ?_, ?_⟩
  · rw [endsByDeadline_iff_of_isExpected fun _ ht _ => Rust.acquireLock_isExpected ht]
    exact forall₃_congr fun k _ hlate => Rust.acquireLock_late (rust.ok k) hlate
  · refine endsByDeadline_iff.trans (forall₂_congr fun k hk => ?_)
    have ht := javascript.ok k
    rw [JavaScript.acquireStartupLock_isExpected ht]
    constructor
    · intro h hcreate
      exact ⟨h.2 hcreate, fun hlate =>
        (JavaScript.acquireStartupLock_late ht hlate).mp (h.1 hlate) hcreate⟩
    · intro h
      exact ⟨fun hlate => (JavaScript.acquireStartupLock_late ht hlate).mpr fun hcreate =>
        (h hcreate).2 hlate, fun hcreate => (h hcreate).1⟩
  · rw [endsByDeadline_iff_of_isExpected fun _ ht _ => Go.acquireRouterLock_isExpected ht]
    exact forall₃_congr fun k _ hlate => Go.acquireRouterLock_late (go.ok k) hlate
  · refine endsByDeadline_iff.trans (forall₂_congr fun k hk => ?_)
    have ht := python.ok k
    rw [Python.aenter_isExpected ht]
    exact and_iff_right fun hlate => Python.aenter_late ht hlate
  · rw [endsByDeadline_iff_of_isExpected fun _ ht _ => Php.acquireLock_isExpected ht]
    exact fun k _ hlate => Php.acquireLock_late hlate

/-! ### A stuck lock -/

/-- The lock file is there in every turn, with one content, and the clock ticks. -/
def always {γ : Type} (content : γ) : Schedule γ false where
  turn k := ⟨k, k, .alreadyExists, content, 0, fun _ => true, true, false⟩
  ok _ := ⟨Or.inr (Or.inl rfl), rfl, rfl, le_rfl⟩
  clock k := Nat.lt_succ_self k

/-- An empty lock file that nobody can remove keeps a Rust process busy for ever: every turn goes on, and
any number of them starts after the deadline. -/
theorem stuck_lock : (∀ k, Rust.acquireLock 10 ((always (some none)).turn k) = none) ∧
    ¬ EndsByDeadline 10 (Rust.acquireLock 10) (always (some none)) := by
  have hnone : ∀ k, Rust.acquireLock 10 ((always (some none)).turn k) = none := fun _ => rfl
  refine ⟨hnone, fun h => ?_⟩
  obtain ⟨k, r, -, hr, -⟩ := h.returns
  cases (hnone k).symm.trans hr

end Bindings

end Multifrost
