import Multifrost.Rust.RouterBootstrap

/-!
# Mutual exclusion of the bootstrap lock

A lock file that is missing, empty or truncated at the moment of its evaluation counts as stale,
and a stale file is removed by path.  Between the exclusive create and the write, and between the
truncation and the write of an update, the lock of a live process looks exactly like that, so that
another process removes it and creates its own: two processes hold the lock (`lock_shared`).

`lock_exclusive` says what is left.  The lock excludes in every run in which a reclaiming process
does not remove the file of a process that has created it and not yet dropped its guard
(`KeepsLive`).  That is so when no holder dies, expires or fails and moreover every evaluation
reads a completely written file (`ReadsComplete`): the verdict is then never `Reclaim`.

The invariant is `Owned`: a process between its create and its drop is the only one, and the path
names a file.
-/

namespace Multifrost.Rust

open TransitionSystem

variable {config : ProcId → RouterBootstrapConfig} {pid : ProcId → UInt32}

/-! ### What a step can do -/

/-- The process has created the lock file and has not yet released it. -/
def Pc.owning : Pc → Bool
  | .writeNew _ => true
  | pc => pc.holding

/-- The process is about to remove a file it takes for stale. -/
def Pc.reclaiming : Pc → Bool
  | .reclaim _ => true
  | _ => false

/-- The data of the guard. -/
def Pc.lock : Pc → Option LockFileData
  | .recheck lock | .spawn lock | .truncate lock _ | .write lock _ _ | .poll lock _ _ => some lock
  | _ => none

theorem Pc.owning_of_holding {pc : Pc} (h : pc.holding = true) : pc.owning = true := by
  cases pc <;> first | rfl | cases h

theorem Pc.lock_of_not_owning {pc : Pc} (h : pc.owning = false) : pc.lock = none := by
  cases pc <;> first | rfl | cases h

theorem Pc.reclaiming_of_holding {pc : Pc} (h : pc.holding = true) : pc.reclaiming = false := by
  cases pc <;> first | rfl | cases h

/-- One operation of a process: the file, the next operation and the events. -/
inductive ProcStep (c : RouterBootstrapConfig) (pid : UInt32) (i : Input)
    (fs : SharedFile LockFileData) :
    Pc → SharedFile LockFileData → Pc → List Event → Prop
  | idle {pc pc' : Pc} {evs : List Event} (hpc' : pc'.owning = false)
      (hreclaim : pc'.reclaiming = false) (hevs : ∀ p child, .spawned p child ∉ evs) :
      ProcStep c pid i fs pc fs pc' evs
  | judged {deadline : Instant}
      (h : evaluateExistingLock fs.read i.now i.platform = .reclaim) :
      ProcStep c pid i fs (.evaluate deadline) fs (.reclaim deadline)
        [.evaluated i.proc .reclaim]
  | reclaimed {deadline : Instant} (h : i.ok = true) :
      ProcStep c pid i fs (.reclaim deadline) fs.remove (.createNew deadline) [.reclaimed i.proc]
  | created {deadline : Instant} (h : fs.entry = none) :
      ProcStep c pid i fs (.createNew deadline) fs.link (.writeNew fs.next) [.created i.proc]
  | acquired {fd : Nat} {data : LockFileData} (h : data.format = "v1") :
      ProcStep c pid i fs (.writeNew fd) (fs.write fd data) (.recheck data) [.acquired i.proc]
  | held {pc pc' : Pc} {evs : List Event} (hpc : pc.holding = true) (hpc' : pc'.holding = true)
      (hlock : ∀ lock', pc'.lock = some lock' →
        ∃ lock, pc.lock = some lock ∧ lock'.format = lock.format)
      (hevs : ∀ p child, .spawned p child ∈ evs → p = i.proc) :
      ProcStep c pid i fs pc fs pc' evs
  | truncated {lock : LockFileData} {after : AfterUpdate} :
      ProcStep c pid i fs (.truncate lock after) fs.openTruncate.2
        (.write lock fs.openTruncate.1 after) []
  | written {lock : LockFileData} {fd : Nat} {after : AfterUpdate} {pc' : Pc}
      (hpc' : pc'.holding = true) (hlock : ∀ lock', pc'.lock = some lock' → lock' = lock) :
      ProcStep c pid i fs (.write lock fd after) (fs.write fd lock) pc' []
  | dropped {result : Except MultifrostError Unit} :
      ProcStep c pid i fs (.drop result) fs.remove (.returned result) [.released i.proc]

theorem onEvaluated_cases (c : RouterBootstrapConfig) (i : Input) (deadline : Instant)
    {result : LockEvalResult} (h : result ≠ .reclaim) :
    (onEvaluated c i deadline result).owning = false ∧
      (onEvaluated c i deadline result).reclaiming = false := by
  cases result with
  | reclaim => exact absurd rfl h
  | skipSpawn => exact ⟨rfl, rfl⟩
  | wait =>
    unfold onEvaluated
    dsimp only
    split_ifs <;> exact ⟨rfl, rfl⟩

/-- After an update the process still holds the lock, with the same data. -/
theorem onUpdated_holding (c : RouterBootstrapConfig) (i : Input) (lock : LockFileData)
    (after : AfterUpdate) : (onUpdated c i lock after).holding = true ∧
      ∀ lock', (onUpdated c i lock after).lock = some lock' → lock' = lock := by
  cases after with
  | drop result => exact ⟨rfl, fun lock' h => by cases h⟩
  | poll child => exact ⟨rfl, fun lock' h => (Option.some.inj h).symm⟩

/-- A step of the holder that leaves the file alone. -/
theorem ProcStep.held_of_lock {c : RouterBootstrapConfig} {pid : UInt32} {i : Input}
    {fs : SharedFile LockFileData} {pc pc' : Pc} {lock lock' : LockFileData}
    (hpc : pc.lock = some lock) (hpc' : pc'.lock = some lock')
    (hformat : lock'.format = lock.format) : ProcStep c pid i fs pc fs pc' [] := by
  refine .held ?_ ?_ ?_ fun p child hmem => by cases hmem
  · cases pc <;> first | rfl | cases hpc
  · cases pc' <;> first | rfl | cases hpc'
  · intro l hl
    rw [hpc'] at hl
    obtain rfl := Option.some.inj hl
    exact ⟨lock, hpc, hformat⟩

/-- **Inversion**: every operation is one of the transitions. -/
theorem procStep_cases {c : RouterBootstrapConfig} {pid : UInt32} {i : Input}
    {fs fs' : SharedFile LockFileData} {pc pc' : Pc} {evs : List Event}
    (h : procStep c pid i fs pc = some (fs', pc', evs)) : ProcStep c pid i fs pc fs' pc' evs := by
  cases pc with
  | start | createDir =>
    simp only [procStep, Option.some.injEq, Prod.mk.injEq] at h
    obtain ⟨rfl, rfl, rfl⟩ := h
    split_ifs <;> exact .idle rfl rfl (by simp)
  | createNew deadline =>
    simp only [procStep] at h
    split_ifs at h
    · cases hc : fs.createNew with
      | none =>
        rw [hc] at h
        simp only [Option.some.injEq, Prod.mk.injEq] at h
        obtain ⟨rfl, rfl, rfl⟩ := h
        exact .idle rfl rfl (by simp)
      | some r =>
        obtain ⟨fd, fs₁⟩ := r
        obtain ⟨hnone, rfl, rfl⟩ := SharedFile.createNew_eq_some.mp hc
        rw [hc] at h
        simp only [Option.some.injEq, Prod.mk.injEq] at h
        obtain ⟨rfl, rfl, rfl⟩ := h
        exact .created hnone
    · simp only [Option.some.injEq, Prod.mk.injEq] at h
      obtain ⟨rfl, rfl, rfl⟩ := h
      exact .idle rfl rfl (by simp)
  | writeNew fd =>
    simp only [procStep] at h
    split_ifs at h <;> simp only [Option.some.injEq, Prod.mk.injEq] at h <;>
      obtain ⟨rfl, rfl, rfl⟩ := h
    · exact .acquired rfl
    · exact .idle rfl rfl (by simp)
  | evaluate deadline =>
    simp only [procStep, Option.some.injEq, Prod.mk.injEq] at h
    obtain ⟨rfl, rfl, rfl⟩ := h
    by_cases hresult : evaluateExistingLock fs.read i.now i.platform = .reclaim
    · rw [hresult]
      exact .judged hresult
    · obtain ⟨howning, hreclaiming⟩ := onEvaluated_cases c i deadline hresult
      exact .idle howning hreclaiming (by simp)
  | reclaim deadline =>
    simp only [procStep, Option.some.injEq, Prod.mk.injEq] at h
    obtain ⟨rfl, rfl, rfl⟩ := h
    split_ifs with hok
    · exact .reclaimed hok
    · exact .idle rfl rfl (by simp)
  | skipWait deadline =>
    simp only [procStep, Option.some.injEq, Prod.mk.injEq] at h
    obtain ⟨rfl, rfl, rfl⟩ := h
    split_ifs <;> exact .idle rfl rfl (by simp)
  | recheck lock =>
    simp only [procStep, Option.some.injEq, Prod.mk.injEq] at h
    obtain ⟨rfl, rfl, rfl⟩ := h
    split_ifs <;> exact .held_of_lock rfl rfl rfl
  | spawn lock =>
    simp only [procStep] at h
    split_ifs at h <;> simp only [Option.some.injEq, Prod.mk.injEq] at h <;>
      obtain ⟨rfl, rfl, rfl⟩ := h
    · refine .held rfl rfl (fun lock' hl => ⟨lock, rfl, ?_⟩) (by simp)
      obtain rfl := Option.some.inj hl
      rfl
    · exact .held rfl rfl (fun lock' hl => by cases hl) (by simp)
  | truncate lock after =>
    simp only [procStep] at h
    split_ifs at h <;> simp only [Option.some.injEq, Prod.mk.injEq] at h <;>
      obtain ⟨rfl, rfl, rfl⟩ := h
    · exact .truncated
    · obtain ⟨hpc', hlock⟩ := onUpdated_holding c i lock after
      exact .held rfl hpc' (fun lock' hl => ⟨lock, rfl, by rw [hlock lock' hl]⟩) (by simp)
  | write lock fd after =>
    simp only [procStep, Option.some.injEq, Prod.mk.injEq] at h
    obtain ⟨rfl, rfl, rfl⟩ := h
    obtain ⟨hpc', hlock⟩ := onUpdated_holding c i lock after
    split_ifs
    · exact .written hpc' hlock
    · exact .held rfl hpc' (fun lock' hl => ⟨lock, rfl, by rw [hlock lock' hl]⟩) (by simp)
  | poll lock child deadline =>
    simp only [procStep, Option.some.injEq, Prod.mk.injEq] at h
    obtain ⟨rfl, rfl, rfl⟩ := h
    split_ifs <;> exact .held_of_lock rfl rfl rfl
  | drop result =>
    simp only [procStep, Option.some.injEq, Prod.mk.injEq] at h
    obtain ⟨rfl, rfl, rfl⟩ := h
    split_ifs
    · exact .dropped
    · exact .idle rfl rfl (by simp)
  | returned result => simp [procStep] at h
  | dead => simp [procStep] at h

/-- A step of the system is the death of a process or one of its operations. -/
theorem proc_of_step {i : Input} {s s' : State} {evs : List Event}
    (h : (bootstrapRouter config pid).step i s = some (s', evs)) :
    ∃ pc, s'.procs = Function.update s.procs i.proc pc ∧
      (pc = .dead ∧ s'.fs = s.fs ∧ evs = [] ∨ i.dies = false ∧
        procStep (config i.proc) (pid i.proc) i s.fs (s.procs i.proc) = some (s'.fs, pc, evs)) := by
  simp only [bootstrapRouter] at h
  split_ifs at h with hdies
  · simp only [Option.some.injEq, Prod.mk.injEq] at h
    obtain ⟨rfl, rfl⟩ := h
    exact ⟨.dead, rfl, Or.inl ⟨rfl, rfl, rfl⟩⟩
  · obtain ⟨⟨fs, pc, evs'⟩, hp, hs⟩ := Option.map_eq_some_iff.mp h
    simp only [Prod.mk.injEq] at hs
    obtain ⟨rfl, rfl⟩ := hs
    exact ⟨pc, rfl, Or.inr ⟨Bool.eq_false_iff.mpr hdies, hp⟩⟩

/-- A step of the system moves one process; a death leaves the file alone. -/
theorem procStep_of_step {i : Input} {s s' : State} {evs : List Event}
    (h : (bootstrapRouter config pid).step i s = some (s', evs)) :
    ∃ pc, s'.procs = Function.update s.procs i.proc pc ∧
      ProcStep (config i.proc) (pid i.proc) i s.fs (s.procs i.proc) s'.fs pc evs ∧
      (i.dies = true → s'.fs = s.fs) := by
  obtain ⟨pc, hprocs, ⟨rfl, hfs, rfl⟩ | ⟨hdies, hstep⟩⟩ := proc_of_step h
  · rw [hfs]
    exact ⟨.dead, hprocs, .idle rfl rfl (by simp), fun _ => rfl⟩
  · exact ⟨pc, hprocs, procStep_cases hstep, fun hd => absurd hd (Bool.eq_false_iff.mp hdies)⟩

/-! ### Owners -/

/-- What a step does to the path: it creates the file and the process becomes an owner, or removes
it, as a drop or as a reclaim, and the process is none, or it leaves a file where there is one and
makes no new owner. -/
inductive Effect (i : Input) (pc pc' : Pc) (entry entry' : Option Nat) (evs : List Event) : Prop
  | created (hentry : entry = none) (hentry' : entry' ≠ none) (hevs : .created i.proc ∈ evs)
  | removed (hpc' : pc'.owning = false)
      (hwho : pc.owning = true ∨ pc.reclaiming = true ∧ i.ok = true ∧ i.dies = false)
  | kept (hentry : entry ≠ none → entry' ≠ none) (hpc' : pc'.owning = true → pc.owning = true)

theorem effect_of_step {i : Input} {s s' : State} {evs : List Event}
    (h : (bootstrapRouter config pid).step i s = some (s', evs)) :
    ∃ pc, s'.procs = Function.update s.procs i.proc pc ∧
      Effect i (s.procs i.proc) pc s.fs.entry s'.fs.entry evs := by
  obtain ⟨pc, hprocs, hstep, hdead⟩ := procStep_of_step h
  refine ⟨pc, hprocs, ?_⟩
  generalize s.procs i.proc = old at hstep
  generalize s'.fs = fs' at hstep hdead
  cases hstep with
  | idle hpc' =>
    refine .kept id fun howning => ?_
    rw [hpc'] at howning
    cases howning
  | judged => exact .kept id fun howning => by cases howning
  | reclaimed hok =>
    by_cases hdies : i.dies = true
    · rw [hdead hdies]
      exact .kept id fun howning => by cases howning
    · exact .removed rfl (Or.inr ⟨rfl, hok, Bool.not_eq_true _ ▸ hdies⟩)
  | created hnone =>
    exact .created hnone (Option.some_ne_none _) (List.mem_singleton.mpr rfl)
  | acquired => exact .kept id fun _ => rfl
  | held hpc => exact .kept id fun _ => Pc.owning_of_holding hpc
  | truncated =>
    refine .kept (fun _ => ?_) fun _ => rfl
    rw [SharedFile.entry_openTruncate]
    exact Option.some_ne_none _
  | written => exact .kept id fun _ => rfl
  | dropped => exact .removed rfl (Or.inl rfl)

/-! ### Exclusion -/

/-- The step does not remove, as a reclaim, the lock file of a process that has created it and not
yet released it. -/
def KeepsLive (s : State) (tr : List Event) (i : Input) : Prop :=
  (s.procs i.proc).reclaiming = true → i.ok = true → i.dies = false →
    ∀ e ∈ tr, (s.procs e.proc).owning = false

instance (s : State) (tr : List Event) (i : Input) : Decidable (KeepsLive s tr i) :=
  inferInstanceAs (Decidable (_ → _ → _ → ∀ e ∈ tr, _))

/-- There is one owner at most, and while there is one the path names a file. -/
structure Owned (s : State) (tr : List Event) : Prop where
  unique : ∀ p q, (s.procs p).owning = true → (s.procs q).owning = true → p = q
  named : ∀ p, (s.procs p).owning = true → s.fs.entry ≠ none
  logged : ∀ p, (s.procs p).owning = true → .created p ∈ tr

theorem Owned.step {i : Input} {s s' : State} {tr evs : List Event} (h : Owned s tr)
    (hguard : KeepsLive s tr i) (hs : (bootstrapRouter config pid).step i s = some (s', evs)) :
    Owned s' (tr ++ evs) := by
  obtain ⟨pc, hprocs, heffect⟩ := effect_of_step hs
  -- a process other than the mover owns the lock after the step only if it did before
  have hother : ∀ p, p ≠ i.proc → (s'.procs p).owning = true → (s.procs p).owning = true := by
    intro p hp howns
    rw [hprocs, Function.update_of_ne hp] at howns
    exact howns
  have hself : (s'.procs i.proc).owning = pc.owning := by rw [hprocs, Function.update_self]
  cases heffect with
  | created hentry hentry' hevs =>
    -- the path named no file, so that there was no owner before
    have hnone : ∀ p, (s.procs p).owning = true → False := fun p hp => h.named p hp hentry
    have honly : ∀ p, (s'.procs p).owning = true → p = i.proc := by
      intro p hp
      by_contra hne
      exact hnone p (hother p hne hp)
    refine ⟨fun p q hp hq => (honly p hp).trans (honly q hq).symm, fun _ _ => hentry', ?_⟩
    intro p hp
    rw [honly p hp]
    exact List.mem_append_right _ hevs
  | removed hpc' hwho =>
    -- nobody is left: the mover was the only owner, or by the guard there was none
    have hnone : ∀ p, (s'.procs p).owning = true → False := by
      intro p hp
      have hne : p ≠ i.proc := by
        rintro rfl
        rw [hself, hpc'] at hp
        cases hp
      have hbefore := hother p hne hp
      rcases hwho with howner | ⟨hreclaim, hok, hlive⟩
      · exact hne (h.unique p i.proc hbefore howner)
      · have hno := hguard hreclaim hok hlive _ (h.logged p hbefore)
        rw [Event.proc, hbefore] at hno
        cases hno
    exact ⟨fun p _ hp => (hnone p hp).elim, fun p hp => (hnone p hp).elim,
      fun p hp => (hnone p hp).elim⟩
  | kept hentry hpc' =>
    have hbefore : ∀ p, (s'.procs p).owning = true → (s.procs p).owning = true := by
      intro p hp
      by_cases hc : p = i.proc
      · subst hc
        rw [hself] at hp
        exact hpc' hp
      · exact hother p hc hp
    exact ⟨fun p q hp hq => h.unique p q (hbefore p hp) (hbefore q hq),
      fun p hp => hentry (h.named p (hbefore p hp)),
      fun p hp => List.mem_append_left _ (h.logged p (hbefore p hp))⟩

theorem owned {s : State} {tr : List Event}
    (h : (bootstrapRouter config pid).Run KeepsLive s tr) : Owned s tr := by
  refine h.invariant (P := Owned) ?_ fun _ hguard hs ih => ih.step hguard hs
  exact ⟨fun p _ hp => (by cases hp), fun p hp => (by cases hp), fun p hp => (by cases hp)⟩

/-- At most one process is between the return of `acquire_lock` with the guard and its drop, and a
process that spawns a router is the one. -/
def Exclusive (config : ProcId → RouterBootstrapConfig) (pid : ProcId → UInt32) (s : State) :
    Prop :=
  (∀ p q, (s.procs p).holding = true → (s.procs q).holding = true → p = q) ∧
  ∀ i s' evs p child, (bootstrapRouter config pid).step i s = some (s', evs) →
    .spawned p child ∈ evs → ∀ q, (s.procs q).holding = true → q = p

/-- A router is spawned by a process that holds the lock. -/
theorem holding_of_spawned {i : Input} {s s' : State} {evs : List Event} {p : ProcId}
    {child : UInt32} (hs : (bootstrapRouter config pid).step i s = some (s', evs))
    (hmem : .spawned p child ∈ evs) : (s.procs p).holding = true := by
  obtain ⟨pc, -, hstep, -⟩ := procStep_of_step hs
  have hspawn : p = i.proc ∧ (s.procs i.proc).holding = true := by
    generalize s.procs i.proc = old at hstep
    generalize s'.fs = fs' at hstep
    cases hstep with
    | idle _ _ hevs => exact absurd hmem (hevs p child)
    | held hpc _ _ hevs => exact ⟨hevs p child hmem, hpc⟩
    | _ => simp at hmem
  rw [hspawn.1]
  exact hspawn.2

theorem exclusive {s : State} {tr : List Event}
    (h : (bootstrapRouter config pid).Run KeepsLive s tr) : Exclusive config pid s := by
  have hunique : ∀ p q, (s.procs p).holding = true → (s.procs q).holding = true → p = q := by
    intro p q hp hq
    exact (owned h).unique p q (Pc.owning_of_holding hp) (Pc.owning_of_holding hq)
  refine ⟨hunique, fun i s' evs p child hs hmem q hq => ?_⟩
  exact hunique q p hq (holding_of_spawned hs hmem)

/-! ### Undisturbed locks -/

/-- No process dies, and the lock at the path, where it is written, is not past its expiry, names a
live process and is not marked as failed. -/
def HoldersLive (s : State) (_ : List Event) (i : Input) : Prop :=
  i.dies = false ∧ ∀ content ∈ s.fs.read, ∀ lock ∈ content, ¬ lock.expiresAtUnix < i.now ∧
    isProcessAlive i.platform lock.pid = true ∧ lock.status ≠ "failed"

instance (s : State) (tr : List Event) (i : Input) : Decidable (HoldersLive s tr i) :=
  inferInstanceAs (Decidable (_ ∧ ∀ content ∈ s.fs.read, _))

/-- The process is about to evaluate the lock file. -/
def Pc.evaluating : Pc → Bool
  | .evaluate _ => true
  | _ => false

/-- An evaluation finds a lock file that is completely written. -/
def ReadsComplete (s : State) (_ : List Event) (i : Input) : Prop :=
  (s.procs i.proc).evaluating = true → s.fs.read.join ≠ none

instance (s : State) (tr : List Event) (i : Input) : Decidable (ReadsComplete s tr i) :=
  inferInstanceAs (Decidable (_ → _ ≠ _))

/-- A lock that is written, unexpired, of a live holder and not failed is not reclaimed. -/
theorem evaluateExistingLock_ne_reclaim {lock : LockFileData} {now : ℚ}
    {platform : UInt32 → Bool} (hformat : lock.format = "v1")
    (hfresh : ¬ lock.expiresAtUnix < now) (halive : isProcessAlive platform lock.pid = true)
    (hstatus : lock.status ≠ "failed") :
    evaluateExistingLock (some (some lock)) now platform ≠ .reclaim := by
  unfold evaluateExistingLock
  dsimp only
  rw [if_neg (not_not.mpr hformat), if_neg hfresh, halive, if_neg (by decide), if_neg hstatus]
  split_ifs <;> decide

/-- Every lock that is written or held has the format of the protocol, and nobody reclaims. -/
structure Undisturbed (s : State) : Prop where
  written : ∀ f lock, s.fs.files f = some lock → lock.format = "v1"
  held : ∀ p lock, (s.procs p).lock = some lock → lock.format = "v1"
  none_reclaims : ∀ p, (s.procs p).reclaiming = false

theorem Undisturbed.step {i : Input} {s s' : State} {tr evs : List Event} (h : Undisturbed s)
    (hlive : HoldersLive s tr i) (hreads : ReadsComplete s tr i)
    (hs : (bootstrapRouter config pid).step i s = some (s', evs)) : Undisturbed s' := by
  obtain ⟨pc, hprocs, hstep, -⟩ := procStep_of_step hs
  -- the other processes are where they were, so that only the mover's next operation counts
  have hmove : (∀ f lock, s'.fs.files f = some lock → lock.format = "v1") →
      (∀ lock, pc.lock = some lock → lock.format = "v1") → pc.reclaiming = false →
      Undisturbed s' := by
    intro hwritten hlock hreclaim
    refine ⟨hwritten, fun p lock hp => ?_, fun p => ?_⟩
    · rw [hprocs, Function.update_apply] at hp
      split_ifs at hp
      · exact hlock lock hp
      · exact h.held p lock hp
    · rw [hprocs, Function.update_apply]
      split_ifs
      · exact hreclaim
      · exact h.none_reclaims p
  have hheld := h.held i.proc
  have hno := h.none_reclaims i.proc
  unfold ReadsComplete at hreads
  generalize s.procs i.proc = old at hstep hheld hno hreads
  generalize hfs : s'.fs = fs' at hstep hmove
  cases hstep with
  | idle howning hreclaim =>
    refine hmove (hfs ▸ h.written) (fun lock hl => ?_) hreclaim
    rw [Pc.lock_of_not_owning howning] at hl
    cases hl
  | judged hresult =>
    -- the file is there and written, and none of the first four rules applies
    exfalso
    obtain ⟨content, hcontent⟩ := Option.ne_none_iff_exists'.mp (hreads rfl)
    have hread : s.fs.read = some (some content) := Option.join_eq_some_iff.mp hcontent
    obtain ⟨f, -, hfile⟩ := Option.map_eq_some_iff.mp hread
    obtain ⟨hfresh, halive, hstatus⟩ := hlive.2 _ hread content rfl
    rw [hread] at hresult
    exact evaluateExistingLock_ne_reclaim (h.written f content hfile) hfresh halive hstatus hresult
  | reclaimed => cases hno
  | created =>
    exact hmove (fun f lock hf => h.written f lock (SharedFile.files_link_eq_some hf))
      (fun lock hl => by cases hl) rfl
  | acquired hformat =>
    refine hmove (fun f lock hf => ?_) (fun lock hl => ?_) rfl
    · rw [SharedFile.files_write] at hf
      split_ifs at hf
      · obtain rfl := Option.some.inj hf
        exact hformat
      · exact h.written f lock hf
    · obtain rfl := Option.some.inj hl
      exact hformat
  | held _ hpc' hlock =>
    refine hmove (hfs ▸ h.written) (fun lock' hl => ?_) (Pc.reclaiming_of_holding hpc')
    obtain ⟨lock, hold, hformat⟩ := hlock lock' hl
    rw [hformat]
    exact hheld lock hold
  | truncated =>
    refine hmove (fun f lock hf => h.written f lock (SharedFile.files_openTruncate_eq_some hf))
      (fun lock hl => ?_) rfl
    exact hheld lock hl
  | written hpc' hlock =>
    rename_i lock fd after
    have hformat : lock.format = "v1" := hheld lock rfl
    refine hmove (fun f lock' hf => ?_) (fun lock' hl => ?_) (Pc.reclaiming_of_holding hpc')
    · rw [SharedFile.files_write] at hf
      split_ifs at hf
      · obtain rfl := Option.some.inj hf
        exact hformat
      · exact h.written f lock' hf
    · rw [hlock lock' hl]
      exact hformat
  | dropped => exact hmove h.written (fun lock hl => by cases hl) rfl

theorem undisturbed {s : State} {tr : List Event}
    (h : (bootstrapRouter config pid).Run
      (fun s tr i => HoldersLive s tr i ∧ ReadsComplete s tr i) s tr) : Undisturbed s := by
  refine h.invariant (P := fun s _ => Undisturbed s) ?_ fun _ hguard hs ih =>
    ih.step hguard.1 hguard.2 hs
  exact ⟨fun f lock hf => (by cases hf), fun p lock hp => (by cases hp), fun p => rfl⟩

/-- **Mutual exclusion of the bootstrap lock.**  In every run in which no reclaim removes the lock
file of a process that has created it and not yet released it, at most one process at a time holds
the lock, and only that one spawns a router.  Such are, in particular, the runs without dead,
expired or failed holders in which every evaluation finds a completely written lock file. -/
theorem lock_exclusive (config : ProcId → RouterBootstrapConfig) (pid : ProcId → UInt32) :
    (∀ s tr, (bootstrapRouter config pid).Run KeepsLive s tr → Exclusive config pid s) ∧
    ∀ s tr, (bootstrapRouter config pid).Run
      (fun s tr i => HoldersLive s tr i ∧ ReadsComplete s tr i) s tr →
      (bootstrapRouter config pid).Run KeepsLive s tr := by
  refine ⟨fun s tr h => exclusive h, fun s tr h => ?_⟩
  refine h.imp fun s tr i hrun _ hreclaim => ?_
  rw [(undisturbed hrun).none_reclaims i.proc] at hreclaim
  cases hreclaim

/-! ### Two processes -/

/-- The configuration of the runs below. -/
def localConfig : ProcId → RouterBootstrapConfig :=
  fun _ => ⟨⟨"127.0.0.1", 9981⟩, Duration.fromSecs 10⟩

/-- The pids of the runs below. -/
def localPid (p : ProcId) : UInt32 := UInt32.ofNat (p + 100)

/-- Process `p` performs its next operation. -/
def act (p : ProcId) : Input := { proc := p }

/-- Process `1` waits until process `0`, which finds the router up, has released the lock. -/
theorem lock_exclusive_of_wait : ∃ s tr,
    (bootstrapRouter localConfig localPid).Run
      (fun s tr i => HoldersLive s tr i ∧ ReadsComplete s tr i) s tr ∧
    .evaluated 1 .wait ∈ tr ∧ .released 0 ∈ tr ∧ (s.procs 1).holding = true ∧
    Exclusive localConfig localPid s := by
  obtain ⟨s, tr, hrun, hp⟩ := (bootstrapRouter localConfig localPid).exists_run_of_exec
    (fun s tr i => HoldersLive s tr i ∧ ReadsComplete s tr i)
    [act 0, act 0, act 0, act 1, act 1, act 1, act 0, act 1,
      { proc := 0, reachable := true }, act 0, act 0, act 0, act 1, act 1]
    (fun s tr => tr.contains (.evaluated 1 .wait) && tr.contains (.released 0) &&
      (s.procs 1).holding) (by decide +kernel)
  simp only [Bool.and_eq_true, List.contains_iff_mem] at hp
  obtain ⟨hlocks, hruns⟩ := lock_exclusive localConfig localPid
  exact ⟨s, tr, hrun, hp.1.1, hp.1.2, hp.2, hlocks s tr (hruns s tr hrun)⟩

/-- Process `1` evaluates the file of process `0` before it is written, removes it and creates its
own: both hold the lock, although no holder dies, expires or fails. -/
theorem lock_shared : ∃ s tr, (bootstrapRouter localConfig localPid).Run HoldersLive s tr ∧
    (s.procs 0).holding = true ∧ (s.procs 1).holding = true ∧
    ¬ Exclusive localConfig localPid s := by
  obtain ⟨s, tr, hrun, hp⟩ := (bootstrapRouter localConfig localPid).exists_run_of_exec HoldersLive
    [act 0, act 0, act 1, act 1, act 0, act 1, act 1, act 1, act 1, act 0, act 1]
    (fun s _ => (s.procs 0).holding && (s.procs 1).holding) (by decide +kernel)
  simp only [Bool.and_eq_true] at hp
  refine ⟨s, tr, hrun, hp.1, hp.2, fun h => ?_⟩
  exact absurd (h.1 0 1 hp.1 hp.2) (by decide)

end Multifrost.Rust
