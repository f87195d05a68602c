import Mathlib.Tactic.Linarith
import Mathlib.Tactic.NormNum
import Mathlib.Tactic.Ring
import Multifrost.Rust.Safety.LockExclusion

/-!
# The expiry of the bootstrap lock and the readiness loop

A lock expires ten seconds after its acquisition, and any process may then remove it.  The holder
stays in its readiness loop for `readiness_timeout`, counted from the moment it enters the loop, so
the lock of a live holder can expire under it: callers bootstrap with thirty seconds
(`live_lock_reclaimed`).

`live_lock_kept` gives the condition under which it does not (`EntersInTime`): the time since the
acquisition and the timeout are ten seconds at most when the loop is entered.  A process has two
clocks, the monotonic one for its deadline and the system clock for the lock file;
`ClocksAgree start` says that both have run alike in all processes since the time `start`.
-/

namespace Multifrost.Rust

open TransitionSystem

variable {config : ProcId → RouterBootstrapConfig} {pid : ProcId → UInt32} {start : ℚ}

/-! ### Clocks and guards -/

/-- The system clock shows the time that the monotonic clock has run since `start`. -/
def ClocksAgree (start : ℚ) (i : Input) : Prop := i.now = start + Duration.asSecs i.instant

instance (start : ℚ) (i : Input) : Decidable (ClocksAgree start i) :=
  inferInstanceAs (Decidable (_ = _))

/-- The data of the guard of a process that is about to enter its readiness loop: the update with
the pid of the router ends with this operation. -/
def Pc.enteringLoop (i : Input) : Pc → Option LockFileData
  | .truncate lock (.poll _) => if i.ok then none else some lock
  | .write lock _ (.poll _) => some lock
  | _ => none

/-- When a process enters its readiness loop, the time since it acquired the lock and its timeout
are ten seconds at most. -/
def EntersInTime (config : ProcId → RouterBootstrapConfig) (s : State) (i : Input) : Prop :=
  ∀ lock ∈ (s.procs i.proc).enteringLoop i,
    (i.now - lock.createdAtUnix) + (config i.proc).readinessTimeout.asSecs ≤ 10

instance (s : State) (i : Input) : Decidable (EntersInTime config s i) :=
  inferInstanceAs (Decidable (∀ lock ∈ (s.procs i.proc).enteringLoop i, _))

/-! ### The data of the guard -/

/-- The data of the guard from the acquisition to the end of the readiness loop. -/
def Pc.starting : Pc → Option LockFileData
  | .recheck lock | .spawn lock | .truncate lock (.poll _) | .write lock _ (.poll _)
  | .poll lock _ _ => some lock
  | _ => none

/-- What `acquire_lock` wrote, up to the pid of the router. -/
structure Fresh (pid : UInt32) (lock : LockFileData) : Prop where
  format_eq : lock.format = "v1"
  pid_eq : lock.pid = pid
  status_eq : lock.status = "starting"
  expires_eq : lock.expiresAtUnix = lock.createdAtUnix + 10

theorem fresh_newLockFileData (pid : UInt32) (port : UInt16) (now : ℚ) :
    Fresh pid (newLockFileData pid port (Duration.fromSecs 10) now) := by
  refine ⟨rfl, rfl, rfl, ?_⟩
  show now + Duration.asSecs (Duration.fromSecs 10) = now + 10
  have hten : Duration.asSecs (Duration.fromSecs 10) = 10 := by
    unfold Duration.asSecs Duration.fromSecs
    norm_num
  rw [hten]

theorem asSecs_add (a b : Duration) : Duration.asSecs (a + b) = a.asSecs + b.asSecs := by
  show ((a + b : ℕ) : ℚ) / 10 ^ 9 = (a : ℚ) / 10 ^ 9 + (b : ℚ) / 10 ^ 9
  push_cast
  ring

/-- An update of the lock file leads back to the data it wrote, or to the end. -/
theorem starting_onUpdated {c : RouterBootstrapConfig} {i : Input} {lock lock' : LockFileData}
    {after : AfterUpdate} (h : (onUpdated c i lock after).starting = some lock') :
    ∃ child, after = .poll child ∧ lock' = lock := by
  cases after with
  | drop result => cases h
  | poll child => exact ⟨child, rfl, (Option.some.inj h).symm⟩

/-- The readiness loop is entered after the update with the pid of the router. -/
theorem poll_of_onUpdated {c : RouterBootstrapConfig} {i : Input} {lock lock' : LockFileData}
    {after : AfterUpdate} {child : UInt32} {deadline : Instant}
    (h : onUpdated c i lock after = .poll lock' child deadline) :
    after = .poll child ∧ lock = lock' ∧ deadline = i.instant + c.readinessTimeout := by
  cases after with
  | drop result => cases h
  | poll child =>
    obtain ⟨rfl, rfl, rfl⟩ := Pc.poll.inj h
    exact ⟨rfl, rfl, rfl⟩

theorem starting_onEvaluated (c : RouterBootstrapConfig) (i : Input) (deadline : Instant)
    (result : LockEvalResult) : (onEvaluated c i deadline result).starting = none := by
  cases result with
  | reclaim => rfl
  | skipSpawn => rfl
  | wait =>
    unfold onEvaluated
    dsimp only
    split_ifs <;> rfl

/-- The guard comes from the acquisition, and its data changes by the pid of the router only. -/
theorem starting_of_procStep {c : RouterBootstrapConfig} {pid : UInt32} {i : Input}
    {fs fs' : SharedFile LockFileData} {pc pc' : Pc} {evs : List Event} {lock : LockFileData}
    (h : procStep c pid i fs pc = some (fs', pc', evs)) (hlock : pc'.starting = some lock) :
    (∃ lock₀, pc.starting = some lock₀ ∧
        (lock = lock₀ ∨ lock = { lock₀ with routerPid := some i.child })) ∨
      (∃ fd, pc = .writeNew fd) ∧
        lock = newLockFileData pid c.endpoint.port (Duration.fromSecs 10) i.now := by
  cases pc with
  | start | createDir | skipWait =>
    simp only [procStep, Option.some.injEq, Prod.mk.injEq] at h
    obtain ⟨-, rfl, -⟩ := h
    split at hlock <;> first | cases hlock | (split at hlock <;> cases hlock)
  | createNew deadline =>
    simp only [procStep] at h
    split_ifs at h
    · split at h <;> simp only [Option.some.injEq, Prod.mk.injEq] at h <;>
        obtain ⟨-, rfl, -⟩ := h <;> cases hlock
    · simp only [Option.some.injEq, Prod.mk.injEq] at h
      obtain ⟨-, rfl, -⟩ := h
      cases hlock
  | writeNew fd =>
    simp only [procStep] at h
    split_ifs at h <;> simp only [Option.some.injEq, Prod.mk.injEq] at h <;>
      obtain ⟨-, rfl, -⟩ := h
    · exact Or.inr ⟨⟨fd, rfl⟩, (Option.some.inj hlock).symm⟩
    · cases hlock
  | evaluate deadline =>
    simp only [procStep, Option.some.injEq, Prod.mk.injEq] at h
    obtain ⟨-, rfl, -⟩ := h
    rw [starting_onEvaluated] at hlock
    cases hlock
  | reclaim | drop =>
    simp only [procStep, Option.some.injEq, Prod.mk.injEq] at h
    obtain ⟨-, rfl, -⟩ := h
    cases hlock
  | recheck lock₀ =>
    simp only [procStep, Option.some.injEq, Prod.mk.injEq] at h
    obtain ⟨-, rfl, -⟩ := h
    split at hlock
    · cases hlock
    · exact Or.inl ⟨lock, hlock, Or.inl rfl⟩
  | spawn lock₀ =>
    simp only [procStep] at h
    split_ifs at h <;> simp only [Option.some.injEq, Prod.mk.injEq] at h <;>
      obtain ⟨-, rfl, -⟩ := h
    · exact Or.inl ⟨lock₀, rfl, Or.inr (Option.some.inj hlock).symm⟩
    · cases hlock
  -- an update keeps the data in hand whether it succeeds or not
  | truncate lock₀ after =>
    simp only [procStep] at h
    split_ifs at h <;> simp only [Option.some.injEq, Prod.mk.injEq] at h <;>
      obtain ⟨-, rfl, -⟩ := h
    · cases after with
      | drop result => cases hlock
      | poll child => exact Or.inl ⟨lock, hlock, Or.inl rfl⟩
    · obtain ⟨child, rfl, rfl⟩ := starting_onUpdated hlock
      exact Or.inl ⟨lock, rfl, Or.inl rfl⟩
  | write lock₀ fd after =>
    simp only [procStep, Option.some.injEq, Prod.mk.injEq] at h
    obtain ⟨-, rfl, -⟩ := h
    obtain ⟨child, rfl, rfl⟩ := starting_onUpdated hlock
    exact Or.inl ⟨lock, rfl, Or.inl rfl⟩
  | poll lock₀ child deadline =>
    simp only [procStep, Option.some.injEq, Prod.mk.injEq] at h
    obtain ⟨-, rfl, -⟩ := h
    split_ifs at hlock
    · cases hlock
    · cases hlock
    · exact Or.inl ⟨lock, hlock, Or.inl rfl⟩
  | returned result => cases h
  | dead => cases h

theorem fresh_of_procStep {c : RouterBootstrapConfig} {pid : UInt32} {i : Input}
    {fs fs' : SharedFile LockFileData} {pc pc' : Pc} {evs : List Event}
    (h : procStep c pid i fs pc = some (fs', pc', evs))
    (hpc : ∀ lock, pc.starting = some lock → Fresh pid lock) :
    ∀ lock, pc'.starting = some lock → Fresh pid lock := by
  intro lock hlock
  rcases starting_of_procStep h hlock with ⟨lock₀, hlock₀, rfl | rfl⟩ | ⟨-, rfl⟩
  · exact hpc lock hlock₀
  · have hfresh := hpc lock₀ hlock₀
    exact ⟨hfresh.format_eq, hfresh.pid_eq, hfresh.status_eq, hfresh.expires_eq⟩
  · exact fresh_newLockFileData ..

/-- The deadline of the readiness loop is set when the loop is entered. -/
theorem deadline_of_procStep {c : RouterBootstrapConfig} {pid : UInt32} {i : Input}
    {fs fs' : SharedFile LockFileData} {pc : Pc} {evs : List Event} {lock : LockFileData}
    {child : UInt32} {deadline : Instant}
    (h : procStep c pid i fs pc = some (fs', .poll lock child deadline, evs)) :
    pc = .poll lock child deadline ∨
      pc.enteringLoop i = some lock ∧ deadline = i.instant + c.readinessTimeout := by
  rcases starting_of_procStep h rfl with ⟨lock₀, hlock₀, -⟩ | ⟨⟨fd, rfl⟩, -⟩
  · cases pc with
    | recheck lock₁ =>
      simp only [procStep, Option.some.injEq, Prod.mk.injEq] at h
      obtain ⟨-, h, -⟩ := h
      split at h <;> cases h
    | spawn lock₁ =>
      simp only [procStep] at h
      split_ifs at h <;> simp only [Option.some.injEq, Prod.mk.injEq] at h <;>
        obtain ⟨-, h, -⟩ := h <;> cases h
    | truncate lock₁ after =>
      simp only [procStep] at h
      split_ifs at h with hok <;> simp only [Option.some.injEq, Prod.mk.injEq] at h <;>
        obtain ⟨-, h, -⟩ := h
      · cases h
      · obtain ⟨rfl, rfl, hdeadline⟩ := poll_of_onUpdated h
        exact Or.inr ⟨if_neg hok, hdeadline⟩
    | write lock₁ fd after =>
      simp only [procStep, Option.some.injEq, Prod.mk.injEq] at h
      obtain ⟨-, h, -⟩ := h
      obtain ⟨rfl, rfl, hdeadline⟩ := poll_of_onUpdated h
      exact Or.inr ⟨rfl, hdeadline⟩
    | poll lock₁ child₁ deadline₁ =>
      simp only [procStep, Option.some.injEq, Prod.mk.injEq] at h
      obtain ⟨-, h, -⟩ := h
      split_ifs at h
      exact Or.inl h
    | _ => cases hlock₀
  · simp only [procStep] at h
    split_ifs at h <;> simp only [Option.some.injEq, Prod.mk.injEq] at h <;>
      obtain ⟨-, h, -⟩ := h <;> cases h

/-! ### The invariant -/

/-- The data of every guard is fresh, and every readiness loop ends before it expires. -/
def InTime (start : ℚ) (pid : ProcId → UInt32) (s : State) : Prop :=
  ∀ p, (∀ lock, (s.procs p).starting = some lock → Fresh (pid p) lock) ∧
    ∀ lock child deadline, s.procs p = .poll lock child deadline →
      start + Duration.asSecs deadline ≤ lock.expiresAtUnix

/-- The holder is in its readiness loop and its deadline has not come: whoever evaluates what it
wrote and finds it alive does not reclaim it.  Its data is on the disk with the pid of the router,
or without when that update failed. -/
def LiveLockKept (start : ℚ) (pid : ProcId → UInt32) (s : State) : Prop :=
  ∀ p lock child deadline, s.procs p = .poll lock child deadline → ∀ now platform,
    now < start + Duration.asSecs deadline → isProcessAlive platform (pid p) = true →
      evaluateExistingLock (some (some lock)) now platform ≠ .reclaim ∧
      evaluateExistingLock (some (some { lock with routerPid := none })) now platform ≠ .reclaim

theorem inTime {s : State} {tr : List Event}
    (h : (bootstrapRouter config pid).Run
      (fun s _ i => ClocksAgree start i ∧ EntersInTime config s i) s tr) : InTime start pid s := by
  refine h.invariant (P := fun s _ => InTime start pid s) ?_ ?_
  · intro p
    refine ⟨fun lock hlock => ?_, fun lock child deadline hpoll => ?_⟩
    · cases hlock
    · cases hpoll
  · rintro s s' tr evs i - ⟨hclock, henters⟩ hs ih p
    obtain ⟨pc, hprocs, hpc⟩ := proc_of_step hs
    rw [hprocs]
    by_cases hp : p = i.proc
    · subst hp
      rw [Function.update_self]
      obtain ⟨hfresh, htime⟩ := ih i.proc
      rcases hpc with ⟨rfl, -, -⟩ | ⟨-, hstep⟩
      · refine ⟨fun lock hlock => ?_, fun lock child deadline hpoll => ?_⟩
        · cases hlock
        · cases hpoll
      -- the deadline is kept while the loop runs, and set when it is entered
      · have hfresh' := fresh_of_procStep hstep hfresh
        refine ⟨hfresh', ?_⟩
        rintro lock child deadline rfl
        rcases deadline_of_procStep hstep with hpoll | ⟨hentering, rfl⟩
        · exact htime lock child deadline hpoll
        · -- the loop is entered now, by both clocks
          have hten := henters lock hentering
          rw [(hfresh' lock rfl).expires_eq, asSecs_add, ← add_assoc, ← hclock]
          linarith
    · rw [Function.update_of_ne hp]
      exact ih p

/-- A fresh lock that has not expired is not reclaimed while its holder is alive. -/
theorem Fresh.ne_reclaim {lock : LockFileData} {pid : UInt32} (h : Fresh pid lock) {now : ℚ}
    {platform : UInt32 → Bool} (hnow : now ≤ lock.expiresAtUnix)
    (halive : isProcessAlive platform pid = true) :
    evaluateExistingLock (some (some lock)) now platform ≠ .reclaim := by
  apply evaluateExistingLock_ne_reclaim h.format_eq (not_lt.mpr hnow)
  · rw [h.pid_eq, halive]
  · rw [h.status_eq]
    decide

/-- **A live holder keeps its lock** in every run in which the readiness loops are entered in time:
the time spent between the acquisition and the loop, and the timeout of the loop, are ten seconds
at most. -/
theorem live_lock_kept {s : State} {tr : List Event}
    (h : (bootstrapRouter config pid).Run
      (fun s _ i => ClocksAgree start i ∧ EntersInTime config s i) s tr) :
    LiveLockKept start pid s := by
  intro p lock child deadline hpoll now platform hnow halive
  obtain ⟨hfresh, htime⟩ := inTime h p
  have hlock : Fresh (pid p) lock := by
    apply hfresh
    rw [hpoll]
    rfl
  have hexpires : now ≤ lock.expiresAtUnix :=
    le_of_lt (lt_of_lt_of_le hnow (htime lock child deadline hpoll))
  have hfirst : Fresh (pid p) { lock with routerPid := none } :=
    ⟨hlock.format_eq, hlock.pid_eq, hlock.status_eq, hlock.expires_eq⟩
  exact ⟨hlock.ne_reclaim hexpires halive,
    hfirst.ne_reclaim hexpires halive⟩

/-! ### Two timeouts -/

/-- The configuration of `connect_caller_transport`, whose readiness timeout is thirty seconds. -/
def callerConfig : ProcId → RouterBootstrapConfig :=
  fun _ => ⟨⟨"127.0.0.1", 9981⟩, Duration.fromSecs 30⟩

/-- The process has polled up to the deadline `t`, and at the time `now` its lock is or is not to be
reclaimed. -/
def pollsUntil (t : Instant) (now : ℚ) (result : LockEvalResult) : Pc → Bool
  | .poll lock _ deadline =>
    deadline == t && evaluateExistingLock (some (some lock)) now (fun _ => true) == result
  | _ => false

theorem poll_of_pollsUntil {t : Instant} {now : ℚ} {result : LockEvalResult} {pc : Pc}
    (h : pollsUntil t now result pc = true) : ∃ lock child, pc = .poll lock child t ∧
      evaluateExistingLock (some (some lock)) now (fun _ => true) = result := by
  cases pc with
  | poll lock child deadline =>
    simp only [pollsUntil, Bool.and_eq_true, beq_iff_eq] at h
    obtain ⟨rfl, hresult⟩ := h
    exact ⟨lock, child, rfl, hresult⟩
  | _ => cases h

/-- With the ten seconds of `RouterBootstrapConfig::from_env` and no time lost before the loop, the
lock is kept. -/
theorem live_lock_kept_of_ten_seconds : ∃ s tr,
    (bootstrapRouter localConfig localPid).Run
      (fun s _ i => ClocksAgree 0 i ∧ EntersInTime localConfig s i) s tr ∧
    (∃ lock child, s.procs 0 = .poll lock child (Duration.fromSecs 10)) ∧
    LiveLockKept 0 localPid s := by
  obtain ⟨s, tr, hrun, hp⟩ := (bootstrapRouter localConfig localPid).exists_run_of_exec
    (fun s _ i => ClocksAgree 0 i ∧ EntersInTime localConfig s i)
    [act 0, act 0, act 0, act 0, act 0, act 0, act 0, act 0]
    (fun s _ => pollsUntil (Duration.fromSecs 10) 9 .skipSpawn (s.procs 0)) (by decide +kernel)
  obtain ⟨lock, child, hpoll, -⟩ := poll_of_pollsUntil hp
  exact ⟨s, tr, hrun, ⟨lock, child, hpoll⟩, live_lock_kept hrun⟩

/-- A caller's lock is reclaimed after eleven of its thirty seconds. -/
theorem live_lock_reclaimed :
    ¬ ∀ s tr, (bootstrapRouter callerConfig localPid).Run (fun _ _ i => ClocksAgree 0 i) s tr →
      LiveLockKept 0 localPid s := by
  obtain ⟨s, tr, hrun, hp⟩ := (bootstrapRouter callerConfig localPid).exists_run_of_exec
    (fun _ _ i => ClocksAgree 0 i) [act 0, act 0, act 0, act 0, act 0, act 0, act 0, act 0]
    (fun s _ => pollsUntil (Duration.fromSecs 30) 11 .reclaim (s.procs 0)) (by decide +kernel)
  obtain ⟨lock, child, hpoll, hreclaim⟩ := poll_of_pollsUntil hp
  intro h
  have hbefore : (11 : ℚ) < 0 + Duration.asSecs (Duration.fromSecs 30) := by
    unfold Duration.asSecs Duration.fromSecs
    norm_num
  exact (h s tr hrun 0 lock child _ hpoll 11 (fun _ => true) hbefore rfl).1 hreclaim

end Multifrost.Rust
