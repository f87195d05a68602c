import Multifrost.Rust.Safety.LockExclusion

/-!
# One router

What the lock is for: processes that bootstrap at the same time start one router.  They do as long as
the lock excludes (`KeepsLive`) and a router that was found reachable by the process that has spawned it
is found by whoever holds the lock after it (`StaysUp`).  Of all the processes that have spawned a router
then, all but one have given it up or died, and none has spawned two (`one_router`).

The second look at the router, with the lock held, is what this rests on: the process that is about to
spawn has found none, so that nobody has one (`OneRouter.down`).
-/

namespace Multifrost.Rust

open TransitionSystem

variable {config : ProcId → RouterBootstrapConfig} {pid : ProcId → UInt32}

/-! ### The launch of a router -/

/-- How far a process has come with a router of its own. -/
inductive Launch
  /-- it has not looked for the router with the lock held -/
  | before
  /-- it has looked, and found none -/
  | about
  /-- it has spawned one -/
  | launched
  /-- it has found one reachable -/
  | ready
  /-- it has given up or died -/
  | failed
deriving DecidableEq

def launchOf : Except MultifrostError Unit → Launch
  | .ok _ => .ready
  | .error _ => .failed

def AfterUpdate.launch : AfterUpdate → Launch
  | .drop result => launchOf result
  | .poll _ => .launched

def Pc.launch : Pc → Launch
  | .start | .createDir | .createNew _ | .writeNew _ | .evaluate _ | .reclaim _ | .skipWait _
  | .recheck _ => .before
  | .spawn _ => .about
  | .truncate _ after | .write _ _ after => after.launch
  | .poll .. => .launched
  | .drop result | .returned result => launchOf result
  | .dead => .failed

/-- The process looks for the router with the lock held. -/
def Pc.rechecking : Pc → Bool
  | .recheck _ => true
  | _ => false

/-- The processes that have spawned a router, in order. -/
def spawners (tr : List Event) : List ProcId :=
  tr.filterMap fun
    | .spawned p _ => some p
    | _ => none

theorem spawners_append (tr evs : List Event) : spawners (tr ++ evs) = spawners tr ++ spawners evs :=
  List.filterMap_append

theorem owning_of_launch {pc : Pc} (h : pc.launch = .about ∨ pc.launch = .launched) :
    pc.owning = true := by
  cases pc with
  | start | createDir | createNew | writeNew | evaluate | reclaim | skipWait | recheck | dead =>
    rcases h with h | h <;> cases h
  | spawn | truncate | write | poll | drop => rfl
  | returned result =>
    cases result with
    | ok u => rcases h with h | h <;> cases h
    | error err => rcases h with h | h <;> cases h

/-- What a step does to the launch of its process. -/
inductive LaunchStep (i : Input) : Pc → Pc → List ProcId → Prop
  | same {pc pc' : Pc} (h : pc'.launch = pc.launch) (hpc : pc.launch ≠ .about) :
      LaunchStep i pc pc' []
  | found {pc pc' : Pc} (hpc : pc.launch = .before)
      (h : pc'.launch = .ready ∨ pc'.launch = .failed) : LaunchStep i pc pc' []
  | missed {pc pc' : Pc} (hpc : pc.rechecking = true) (hdies : i.dies = false)
      (hreachable : i.reachable = false) (h : pc'.launch = .about) : LaunchStep i pc pc' []
  | spawned {pc pc' : Pc} (hpc : pc.launch = .about) (h : pc'.launch = .launched) :
      LaunchStep i pc pc' [i.proc]
  | ended {pc pc' : Pc} (hpc : pc.launch = .launched)
      (h : pc'.launch = .ready ∨ pc'.launch = .failed) : LaunchStep i pc pc' []
  | gaveUp {pc pc' : Pc} (h : pc'.launch = .failed) : LaunchStep i pc pc' []

theorem launch_onEvaluated (c : RouterBootstrapConfig) (i : Input) (deadline : Instant)
    (result : LockEvalResult) : (onEvaluated c i deadline result).launch = .before ∨
      (onEvaluated c i deadline result).launch = .failed := by
  cases result with
  | reclaim => exact .inl rfl
  | skipSpawn => exact .inl rfl
  | wait =>
    unfold onEvaluated
    dsimp only
    split_ifs
    · exact .inr rfl
    · exact .inl rfl

theorem launch_onUpdated (c : RouterBootstrapConfig) (i : Input) (lock : LockFileData)
    (after : AfterUpdate) : (onUpdated c i lock after).launch = after.launch := by
  cases after <;> rfl

theorem AfterUpdate.launch_ne_about (after : AfterUpdate) : after.launch ≠ .about := by
  rcases after with (err | u) | child <;> exact fun h => by cases h

theorem launchOf_ne_about (result : Except MultifrostError Unit) : launchOf result ≠ .about := by
  rcases result with err | u <;> exact fun h => by cases h

/-- The process has not looked for the router with the lock held, and does not do so now. -/
theorem LaunchStep.idle {i : Input} {pc pc' : Pc} (h : pc.launch = .before)
    (h' : pc'.launch = .before) : LaunchStep i pc pc' [] := by
  refine .same (h'.trans h.symm) fun habout => ?_
  rw [h] at habout
  cases habout

/-- **One operation of a process.** -/
theorem launch_of_procStep {c : RouterBootstrapConfig} {pid : UInt32} {i : Input}
    {fs fs' : SharedFile LockFileData} {pc pc' : Pc} {evs : List Event} (hdies : i.dies = false)
    (h : procStep c pid i fs pc = some (fs', pc', evs)) : LaunchStep i pc pc' (spawners evs) := by
  cases pc with
  | start =>
    simp only [procStep, Option.some.injEq, Prod.mk.injEq] at h
    obtain ⟨-, rfl, rfl⟩ := h
    split_ifs
    · exact .found rfl (.inl rfl)
    · exact .idle rfl rfl
  | createDir =>
    simp only [procStep, Option.some.injEq, Prod.mk.injEq] at h
    obtain ⟨-, rfl, rfl⟩ := h
    split_ifs
    · exact .idle rfl rfl
    · exact .gaveUp rfl
  | createNew deadline =>
    simp only [procStep] at h
    split_ifs at h
    · split at h
      · cases h
        exact .idle rfl rfl
      · cases h
        exact .idle rfl rfl
    · cases h
      exact .gaveUp rfl
  | writeNew fd =>
    simp only [procStep] at h
    split_ifs at h
    · cases h
      exact .idle rfl rfl
    · cases h
      exact .gaveUp rfl
  | evaluate deadline =>
    cases h
    rcases launch_onEvaluated c i deadline (evaluateExistingLock fs.read i.now i.platform) with
      hlaunch | hlaunch
    · exact .idle rfl hlaunch
    · exact .gaveUp hlaunch
  | reclaim deadline =>
    cases h
    exact .idle rfl rfl
  | skipWait deadline =>
    simp only [procStep, Option.some.injEq, Prod.mk.injEq] at h
    obtain ⟨-, rfl, rfl⟩ := h
    split_ifs
    · exact .found rfl (.inl rfl)
    · exact .idle rfl rfl
    · exact .gaveUp rfl
  | recheck lock =>
    simp only [procStep, Option.some.injEq, Prod.mk.injEq] at h
    obtain ⟨-, rfl, rfl⟩ := h
    split_ifs with hreachable
    · exact .found rfl (.inl rfl)
    · exact .missed rfl hdies (Bool.eq_false_iff.mpr hreachable) rfl
  | spawn lock =>
    simp only [procStep] at h
    split_ifs at h
    · cases h
      exact .spawned rfl rfl
    · cases h
      exact .gaveUp rfl
  | truncate lock after =>
    simp only [procStep] at h
    split_ifs at h
    · cases h
      exact .same rfl after.launch_ne_about
    · cases h
      exact .same (launch_onUpdated ..) after.launch_ne_about
  | write lock fd after =>
    cases h
    exact .same (launch_onUpdated ..) after.launch_ne_about
  | poll lock child deadline =>
    simp only [procStep, Option.some.injEq, Prod.mk.injEq] at h
    obtain ⟨-, rfl, rfl⟩ := h
    split_ifs
    · exact .ended rfl (.inl rfl)
    · exact .ended rfl (.inr rfl)
    · exact .same rfl fun h => by cases h
  | drop result =>
    cases h
    exact .same rfl (launchOf_ne_about result)
  | returned result => cases h
  | dead => cases h

/-- A step of the system. -/
theorem launch_of_step {i : Input} {s s' : State} {evs : List Event}
    (h : (bootstrapRouter config pid).step i s = some (s', evs)) :
    (∀ p, p ≠ i.proc → s'.procs p = s.procs p) ∧
      LaunchStep i (s.procs i.proc) (s'.procs i.proc) (spawners evs) := by
  obtain ⟨pc, hprocs, ⟨rfl, -, rfl⟩ | ⟨hdies, hstep⟩⟩ := proc_of_step h
  · refine ⟨fun p hp => by rw [hprocs, Function.update_of_ne hp], ?_⟩
    rw [hprocs, Function.update_self]
    exact .gaveUp rfl
  · refine ⟨fun p hp => by rw [hprocs, Function.update_of_ne hp], ?_⟩
    rw [hprocs, Function.update_self]
    exact launch_of_procStep hdies hstep

/-! ### The invariant -/

/-- Once a process has found the router that it has spawned, whoever looks for it with the lock held
finds it. -/
def StaysUp (s : State) (tr : List Event) (i : Input) : Prop :=
  (∃ p ∈ spawners tr, (s.procs p).launch = .ready) → (s.procs i.proc).rechecking = true →
    i.dies = false → i.reachable = true

instance (s : State) (tr : List Event) (i : Input) : Decidable (StaysUp s tr i) :=
  inferInstanceAs (Decidable ((∃ p ∈ spawners tr, _) → _ → _ → _))

/-- The processes that have spawned a router. -/
structure OneRouter (s : State) (tr : List Event) : Prop where
  nodup : (spawners tr).Nodup
  spawned : ∀ p ∈ spawners tr, (s.procs p).launch = .launched ∨ (s.procs p).launch = .ready ∨
    (s.procs p).launch = .failed
  alone : ∀ p ∈ spawners tr, ∀ q ∈ spawners tr, (s.procs p).launch ≠ .failed →
    (s.procs q).launch ≠ .failed → p = q
  down : ∀ q, (s.procs q).launch = .about → ∀ p ∈ spawners tr, (s.procs p).launch ≠ .ready

section Step

variable {i : Input} {s s' : State} {tr evs : List Event}

/-- A process that has spawned a router has looked for one before. -/
theorem OneRouter.notMem (h : OneRouter s tr) {p : ProcId}
    (hp : (s.procs p).launch = .before ∨ (s.procs p).launch = .about) : p ∉ spawners tr := by
  intro hmem
  rcases h.spawned p hmem with hlaunch | hlaunch | hlaunch
  · rw [hlaunch] at hp
    rcases hp with hp | hp <;> cases hp
  · rw [hlaunch] at hp
    rcases hp with hp | hp <;> cases hp
  · rw [hlaunch] at hp
    rcases hp with hp | hp <;> cases hp

/-- A step that spawns nothing. -/
theorem OneRouter.of_quiet (h : OneRouter s tr)
    (hother : ∀ p, p ≠ i.proc → s'.procs p = s.procs p) (hquiet : spawners evs = [])
    (hspawned : i.proc ∈ spawners tr → (s'.procs i.proc).launch = .launched ∨
      (s'.procs i.proc).launch = .ready ∨ (s'.procs i.proc).launch = .failed)
    (hfailed : i.proc ∈ spawners tr → (s.procs i.proc).launch = .failed →
      (s'.procs i.proc).launch = .failed)
    (habout : (s'.procs i.proc).launch = .about →
      ∀ p ∈ spawners tr, p ≠ i.proc → (s.procs p).launch ≠ .ready)
    (hready : i.proc ∈ spawners tr → (s'.procs i.proc).launch = .ready →
      ∀ q, q ≠ i.proc → (s.procs q).launch ≠ .about) :
    OneRouter s' (tr ++ evs) := by
  have hsame : spawners (tr ++ evs) = spawners tr := by
    rw [spawners_append, hquiet, List.append_nil]
  have hbefore : ∀ p ∈ spawners tr, (s'.procs p).launch ≠ .failed → (s.procs p).launch ≠ .failed := by
    intro p hp hlive hdead
    by_cases hi : p = i.proc
    · subst hi
      exact hlive (hfailed hp hdead)
    · rw [hother p hi] at hlive
      exact hlive hdead
  refine ⟨?_, ?_, ?_, ?_⟩
  · rw [hsame]
    exact h.nodup
  · rw [hsame]
    intro p hp
    by_cases hi : p = i.proc
    · subst hi
      exact hspawned hp
    · rw [hother p hi]
      exact h.spawned p hp
  · rw [hsame]
    intro p hp q hq hp' hq'
    exact h.alone p hp q hq (hbefore p hp hp') (hbefore q hq hq')
  · rw [hsame]
    intro q hq p hp hlaunch
    by_cases hi : p = i.proc
    · subst hi
      by_cases hqi : q = i.proc
      · rw [hqi, hlaunch] at hq
        cases hq
      · rw [hother q hqi] at hq
        exact hready hp hlaunch q hqi hq
    · rw [hother p hi] at hlaunch
      by_cases hqi : q = i.proc
      · subst hqi
        exact habout hq p hp hi hlaunch
      · rw [hother q hqi] at hq
        exact h.down q hq p hp hlaunch

/-- A step that spawns a router. -/
theorem OneRouter.of_spawned (h : OneRouter s tr) (howned : Owned s tr)
    (hother : ∀ p, p ≠ i.proc → s'.procs p = s.procs p) (hspawned : spawners evs = [i.proc])
    (hbefore : (s.procs i.proc).launch = .about) (hafter : (s'.procs i.proc).launch = .launched) :
    OneRouter s' (tr ++ evs) := by
  have hsame : spawners (tr ++ evs) = spawners tr ++ [i.proc] := by rw [spawners_append, hspawned]
  have hnew : i.proc ∉ spawners tr := h.notMem (.inr hbefore)
  have hne : ∀ p ∈ spawners tr, p ≠ i.proc := by
    rintro p hp rfl
    exact hnew hp
  have howner : (s.procs i.proc).owning = true := owning_of_launch (.inl hbefore)
  -- the others have given up: none holds the lock, and none has found its router
  have hold : ∀ p ∈ spawners tr, (s'.procs p).launch = .failed := by
    intro p hp
    rw [hother p (hne p hp)]
    rcases h.spawned p hp with hlaunch | hlaunch | hlaunch
    · exact absurd (howned.unique p i.proc (owning_of_launch (.inr hlaunch)) howner) (hne p hp)
    · exact absurd hlaunch (h.down i.proc hbefore p hp)
    · exact hlaunch
  have hlast : ∀ p ∈ spawners tr ++ [i.proc], (s'.procs p).launch ≠ .failed → p = i.proc := by
    intro p hp hlive
    rcases List.mem_append.mp hp with hp | hp
    · exact absurd (hold p hp) hlive
    · exact List.mem_singleton.mp hp
  refine ⟨?_, ?_, ?_, ?_⟩
  · rw [hsame, List.nodup_append]
    refine ⟨h.nodup, List.pairwise_singleton _ _, fun p hp q hq => ?_⟩
    rw [List.mem_singleton.mp hq]
    exact hne p hp
  · rw [hsame]
    intro p hp
    rcases List.mem_append.mp hp with hp | hp
    · exact .inr (.inr (hold p hp))
    · rw [List.mem_singleton.mp hp]
      exact .inl hafter
  · rw [hsame]
    intro p hp q hq hp' hq'
    rw [hlast p hp hp', hlast q hq hq']
  · rw [hsame]
    intro q hq p hp hlaunch
    have hlive : (s'.procs p).launch ≠ .failed := by
      rw [hlaunch]
      decide
    rw [hlast p hp hlive, hafter] at hlaunch
    cases hlaunch

theorem OneRouter.step (h : OneRouter s tr) (howned : Owned s tr) (hguard : StaysUp s tr i)
    (hs : (bootstrapRouter config pid).step i s = some (s', evs)) : OneRouter s' (tr ++ evs) := by
  obtain ⟨hother, hlaunch⟩ := launch_of_step hs
  unfold StaysUp at hguard
  generalize hold : s.procs i.proc = old at hlaunch hguard
  generalize hnew : s'.procs i.proc = new at hlaunch
  generalize hspawners : spawners evs = ps at hlaunch
  cases hlaunch with
  | same heq hne =>
    refine h.of_quiet hother hspawners (fun hp => ?_) (fun _ hfailed => ?_) (fun habout => ?_)
      fun hp hready q _ hq => ?_
    · rw [hnew, heq, ← hold]
      exact h.spawned i.proc hp
    · rw [hnew, heq, ← hold]
      exact hfailed
    · rw [hnew, heq] at habout
      exact absurd habout hne
    · rw [hnew, heq, ← hold] at hready
      exact h.down q hq i.proc hp hready
  | found hbefore hafter =>
    have hnone : i.proc ∉ spawners tr := h.notMem (.inl (by rw [hold]; exact hbefore))
    refine h.of_quiet hother hspawners (fun hp => absurd hp hnone) (fun hp => absurd hp hnone)
      (fun habout => ?_) fun hp => absurd hp hnone
    rw [hnew] at habout
    rw [habout] at hafter
    rcases hafter with hafter | hafter <;> cases hafter
  | missed hrecheck hdies hreachable hafter =>
    have hbefore : old.launch = .before := by
      cases old <;> first | rfl | cases hrecheck
    have hnone : i.proc ∉ spawners tr := h.notMem (.inl (by rw [hold]; exact hbefore))
    refine h.of_quiet hother hspawners (fun hp => absurd hp hnone) (fun hp => absurd hp hnone)
      (fun _ p hp _ hready => ?_) fun hp => absurd hp hnone
    -- a router that is up would have been found
    rw [hguard ⟨p, hp, hready⟩ hrecheck hdies] at hreachable
    cases hreachable
  | spawned hbefore hafter =>
    refine h.of_spawned howned hother hspawners ?_ ?_
    · rw [hold]
      exact hbefore
    · rw [hnew]
      exact hafter
  | ended hbefore hafter =>
    have howner : (s.procs i.proc).owning = true := by
      rw [hold]
      exact owning_of_launch (.inr hbefore)
    refine h.of_quiet hother hspawners (fun _ => ?_) (fun _ hfailed => ?_) (fun habout => ?_)
      fun _ _ q hq hlaunch => ?_
    · rw [hnew]
      exact .inr hafter
    · rw [hold, hbefore] at hfailed
      cases hfailed
    · rw [hnew] at habout
      rw [habout] at hafter
      rcases hafter with hafter | hafter <;> cases hafter
    · exact hq (howned.unique q i.proc (owning_of_launch (.inl hlaunch)) howner)
  | gaveUp hafter =>
    refine h.of_quiet hother hspawners (fun _ => ?_) (fun _ _ => ?_) (fun habout => ?_)
      fun _ hready => ?_
    · rw [hnew]
      exact .inr (.inr hafter)
    · rw [hnew]
      exact hafter
    · rw [hnew, hafter] at habout
      cases habout
    · rw [hnew, hafter] at hready
      cases hready

end Step

theorem oneRouter {s : State} {tr : List Event} (h : (bootstrapRouter config pid).Run
    (fun s tr i => KeepsLive s tr i ∧ StaysUp s tr i) s tr) : OneRouter s tr := by
  refine h.invariant (P := OneRouter) ?_ fun hrun hguard hs ih =>
    ih.step (owned (hrun.mono fun _ _ _ hboth => hboth.1)) hguard.2 hs
  exact ⟨List.nodup_nil, fun p hp => (by cases hp), fun p hp => (by cases hp),
    fun q _ p hp => (by cases hp)⟩

/-- **One router.**  No process spawns two routers, and of any two processes that have spawned one, one
has given up or died. -/
theorem one_router {s : State} {tr : List Event} (h : (bootstrapRouter config pid).Run
    (fun s tr i => KeepsLive s tr i ∧ StaysUp s tr i) s tr) :
    (spawners tr).Nodup ∧ ∀ p ∈ spawners tr, ∀ q ∈ spawners tr, p ≠ q →
      (s.procs p).launch = .failed ∨ (s.procs q).launch = .failed := by
  have hone := oneRouter h
  refine ⟨hone.nodup, fun p hp q hq hne => ?_⟩
  by_contra hboth
  rw [not_or] at hboth
  exact hne (hone.alone p hp q hq hboth.1 hboth.2)

/-- The router of process `0` does not come up; that of process `1` does, and process `2` finds it. -/
theorem one_router_of_three : ∃ s tr, (bootstrapRouter localConfig localPid).Run
    (fun s tr i => KeepsLive s tr i ∧ StaysUp s tr i) s tr ∧
    spawners tr = [0, 1] ∧ (s.procs 1).launch = .ready ∧ (s.procs 2).launch = .ready ∧
    (s.procs 0).launch = .failed := by
  obtain ⟨s, tr, hrun, hp⟩ := (bootstrapRouter localConfig localPid).exists_run_of_exec
    (fun s tr i => KeepsLive s tr i ∧ StaysUp s tr i)
    ([act 0, act 0, act 0, act 0, act 0, act 0, act 0, act 0,
        { proc := 0, instant := Duration.fromSecs 10 }, act 0, act 0, act 0] ++
      [act 1, act 1, act 1, act 1, act 1, act 1, act 1, act 1,
        { proc := 1, reachable := true }, act 1, act 1, act 1] ++
      [act 2, act 2, act 2, act 2, { proc := 2, reachable := true }])
    (fun s tr => spawners tr == [0, 1] && (s.procs 1).launch == .ready &&
      (s.procs 2).launch == .ready) (by decide +kernel)
  simp only [Bool.and_eq_true, beq_iff_eq] at hp
  obtain ⟨⟨hspawners, hready⟩, hfound⟩ := hp
  obtain ⟨-, hone⟩ := one_router hrun
  rw [hspawners] at hone
  refine ⟨s, tr, hrun, hspawners, hready, hfound, ?_⟩
  rcases hone 0 (by decide) 1 (by decide) (by decide) with hfailed | hfailed
  · exact hfailed
  · rw [hready] at hfailed
    cases hfailed

end Multifrost.Rust
