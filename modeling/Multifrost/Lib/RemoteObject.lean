import Mathlib.Data.List.Nodup
import Mathlib.Logic.Function.Basic
import Multifrost.Lib.TransitionSystem

/-!
# Objects that are called from afar

What a caller of a remote object may rely on.  There are objects `κ`, each with a state, and calls
that are told apart by their ids `η`.  A call is made, is executed by an object at one moment between
the call and the return, and returns what the execution has left for it; a call that is made need
not be executed, and one that is executed need not return.

In every run a call is executed once at most (`executed_once`), after it was made and with the
argument it was made with, and returns the outcome of its execution (`returns`).  What an object goes
through is a sequence of executions (`history`), each in the state that the one before has left
(`executes_in_state`).
-/

/-- The objects: the state each starts in, what it makes of a call, if it takes it, and what the
caller learns of the outcome. -/
structure RemoteObject (κ α β ω ρ : Type*) where
  start : κ → ω
  handle : κ → α → ω → Option (β × ω)
  reply : β → Option ρ

namespace RemoteObject

open TransitionSystem

variable {η κ α β ω ρ : Type*}

/-- How far a call is. -/
inductive Phase (α β : Type*)
  | idle
  | called (a : α)
  | executed (b : β)

structure State (η κ α β ω : Type*) where
  phase : η → Phase α β
  object : κ → ω

inductive Input (η κ α : Type*)
  | call (i : η) (a : α)
  | exec (i : η) (k : κ)
  | ret (i : η)

inductive Event (η κ α β ρ : Type*)
  | call (i : η) (a : α)
  | exec (i : η) (k : κ) (a : α) (b : β)
  | ret (i : η) (r : ρ)

section System

variable [DecidableEq η] [DecidableEq κ] (R : RemoteObject κ α β ω ρ)

def makeCall (i : η) (a : α) (s : State η κ α β ω) :
    Option (State η κ α β ω × List (Event η κ α β ρ)) :=
  match s.phase i with
  | .idle => some ({ s with phase := Function.update s.phase i (.called a) }, [.call i a])
  | _ => none

def executeCall (i : η) (k : κ) (s : State η κ α β ω) :
    Option (State η κ α β ω × List (Event η κ α β ρ)) :=
  match s.phase i with
  | .called a => (R.handle k a (s.object k)).map fun o =>
    (⟨Function.update s.phase i (.executed o.1), Function.update s.object k o.2⟩,
      [.exec i k a o.1])
  | _ => none

def returnCall (i : η) (s : State η κ α β ω) :
    Option (State η κ α β ω × List (Event η κ α β ρ)) :=
  match s.phase i with
  | .executed b => (R.reply b).map fun r => (s, [.ret i r])
  | _ => none

def system : TransitionSystem (State η κ α β ω) (Input η κ α) (Event η κ α β ρ) where
  init := ⟨fun _ => .idle, R.start⟩
  step
    | .call i a => makeCall i a
    | .exec i k => executeCall R i k
    | .ret i => returnCall R i

/-- One step, with what it needs and what it changes. -/
inductive Step (s : State η κ α β ω) :
    Input η κ α → State η κ α β ω → List (Event η κ α β ρ) → Prop
  | call {i : η} {a : α} (h : s.phase i = .idle) :
      Step s (.call i a) { s with phase := Function.update s.phase i (.called a) } [.call i a]
  | exec {i : η} {k : κ} {a : α} {b : β} {w : ω} (h : s.phase i = .called a)
      (hb : R.handle k a (s.object k) = some (b, w)) :
      Step s (.exec i k) ⟨Function.update s.phase i (.executed b), Function.update s.object k w⟩
        [.exec i k a b]
  | ret {i : η} {b : β} {r : ρ} (h : s.phase i = .executed b) (hr : R.reply b = some r) :
      Step s (.ret i) s [.ret i r]

variable {R} {s s' : State η κ α β ω} {tr evs : List (Event η κ α β ρ)}

theorem step_of_system {i : Input η κ α} (h : R.system.step i s = some (s', evs)) :
    R.Step s i s' evs := by
  cases i with
  | call i a =>
    change makeCall i a s = _ at h
    unfold makeCall at h
    cases hphase : s.phase i with
    | idle =>
      rw [hphase] at h
      obtain ⟨rfl, rfl⟩ := Prod.mk.inj (Option.some.inj h)
      exact .call hphase
    | called a =>
      rw [hphase] at h
      cases h
    | executed b =>
      rw [hphase] at h
      cases h
  | exec i k =>
    change executeCall R i k s = _ at h
    unfold executeCall at h
    cases hphase : s.phase i with
    | idle =>
      rw [hphase] at h
      cases h
    | called a =>
      rw [hphase] at h
      obtain ⟨⟨b, w⟩, hb, heq⟩ := Option.map_eq_some_iff.mp h
      obtain ⟨rfl, rfl⟩ := Prod.mk.inj heq
      exact .exec hphase hb
    | executed b =>
      rw [hphase] at h
      cases h
  | ret i =>
    change returnCall R i s = _ at h
    unfold returnCall at h
    cases hphase : s.phase i with
    | idle =>
      rw [hphase] at h
      cases h
    | called a =>
      rw [hphase] at h
      cases h
    | executed b =>
      rw [hphase] at h
      obtain ⟨r, hr, heq⟩ := Option.map_eq_some_iff.mp h
      obtain ⟨rfl, rfl⟩ := Prod.mk.inj heq
      exact .ret hphase hr

/-! ### The steps that can be taken -/

theorem reachable_call {i : η} {a : α} (h : R.system.Reachable s tr) (hphase : s.phase i = .idle) :
    R.system.Reachable { s with phase := Function.update s.phase i (.called a) }
      (tr ++ [.call i a]) := by
  refine Run.step (i := .call i a) h trivial ?_
  show makeCall i a s = _
  rw [makeCall, hphase]

theorem reachable_exec {i : η} {k : κ} {a : α} {b : β} {w : ω} (h : R.system.Reachable s tr)
    (hphase : s.phase i = .called a) (hb : R.handle k a (s.object k) = some (b, w)) :
    R.system.Reachable
      ⟨Function.update s.phase i (.executed b), Function.update s.object k w⟩
      (tr ++ [.exec i k a b]) := by
  refine Run.step (i := .exec i k) h trivial ?_
  show executeCall R i k s = _
  rw [executeCall, hphase]
  dsimp only
  rw [hb]
  rfl

theorem reachable_ret {i : η} {b : β} {r : ρ} (h : R.system.Reachable s tr)
    (hphase : s.phase i = .executed b) (hr : R.reply b = some r) :
    R.system.Reachable s (tr ++ [.ret i r]) := by
  refine Run.step (i := .ret i) h trivial ?_
  show returnCall R i s = _
  rw [returnCall, hphase]
  dsimp only
  rw [hr]
  rfl

/-! ### What the phase of a call says about the past -/

/-- The id of a call that an event executes. -/
def Event.executes : Event η κ α β ρ → Option η
  | .exec i _ _ _ => some i
  | _ => none

/-- The phase of a call agrees with its events. -/
structure Recorded (s : State η κ α β ω) (tr : List (Event η κ α β ρ)) (i : η) : Prop where
  made : ∀ a, s.phase i = .called a → .call i a ∈ tr
  waits : ∀ a, .call i a ∈ tr → s.phase i = .called a ∨
    ∃ k b, .exec i k a b ∈ tr ∧ s.phase i = .executed b
  done : ∀ k a b, .exec i k a b ∈ tr → s.phase i = .executed b ∧ .call i a ∈ tr
  outcome : ∀ b, s.phase i = .executed b → ∃ k a, .exec i k a b ∈ tr

omit [DecidableEq η] [DecidableEq κ] in
theorem Recorded.of_phase_eq {i : η} {e : Event η κ α β ρ} (h : Recorded s tr i)
    (hphase : s'.phase i = s.phase i) (hcall : ∀ a, e ≠ .call i a)
    (hexec : ∀ k a b, e ≠ .exec i k a b) : Recorded s' (tr ++ [e]) i := by
  have hmem : ∀ x : Event η κ α β ρ, x ≠ e → (x ∈ tr ++ [e] ↔ x ∈ tr) := by
    intro x hx
    simp [hx]
  constructor
  · intro a ha
    rw [hphase] at ha
    exact List.mem_append_left _ (h.made a ha)
  · intro a ha
    rw [hmem _ (hcall a).symm] at ha
    rw [hphase]
    rcases h.waits a ha with hwaits | ⟨k, b, hb, hdone⟩
    · exact Or.inl hwaits
    · exact Or.inr ⟨k, b, List.mem_append_left _ hb, hdone⟩
  · intro k a b hb
    rw [hmem _ (hexec k a b).symm] at hb
    rw [hphase]
    exact ⟨(h.done k a b hb).1, List.mem_append_left _ (h.done k a b hb).2⟩
  · intro b hb
    rw [hphase] at hb
    obtain ⟨k, a, ha⟩ := h.outcome b hb
    exact ⟨k, a, List.mem_append_left _ ha⟩

omit [DecidableEq κ] in
theorem Recorded.call {i : η} {a : α} (h : Recorded s tr i) (hidle : s.phase i = .idle) :
    Recorded { s with phase := Function.update s.phase i (.called a) } (tr ++ [.call i a]) i := by
  have hno : ∀ k a b, .exec i k a b ∉ tr := by
    intro k a b hb
    rw [(h.done k a b hb).1] at hidle
    cases hidle
  have hnone : ∀ a, .call i a ∉ tr := by
    intro a ha
    rcases h.waits a ha with hwaits | ⟨k, b, hb, -⟩
    · rw [hwaits] at hidle
      cases hidle
    · exact hno k a b hb
  have hself : Function.update s.phase i (.called a) i = .called a := Function.update_self ..
  constructor
  · intro a' ha'
    dsimp only at ha'
    rw [hself] at ha'
    cases ha'
    simp
  · intro a' ha'
    rcases List.mem_append.mp ha' with hold | hnew
    · exact absurd hold (hnone a')
    · simp only [List.mem_singleton, Event.call.injEq, true_and] at hnew
      subst hnew
      exact Or.inl hself
  · intro k a' b hb
    rcases List.mem_append.mp hb with hold | hnew
    · exact absurd hold (hno k a' b)
    · simp at hnew
  · intro b hb
    dsimp only at hb
    rw [hself] at hb
    cases hb

theorem Recorded.exec {i : η} {k : κ} {a : α} {b : β} {w : ω} (h : Recorded s tr i)
    (hcalled : s.phase i = .called a) :
    Recorded ⟨Function.update s.phase i (.executed b), Function.update s.object k w⟩
      (tr ++ [.exec i k a b]) i := by
  have hno : ∀ k a b, .exec i k a b ∉ tr := by
    intro k a b hb
    rw [(h.done k a b hb).1] at hcalled
    cases hcalled
  have hself : Function.update s.phase i (.executed b) i = .executed b := Function.update_self ..
  have hcall : .call i a ∈ tr := h.made a hcalled
  constructor
  · intro a' ha'
    dsimp only at ha'
    rw [hself] at ha'
    cases ha'
  · intro a' ha'
    have hold : .call i a' ∈ tr := by simpa using ha'
    -- the call was made with one argument
    have heq : a' = a := by
      rcases h.waits a' hold with hwaits | ⟨k', b', hb', -⟩
      · rw [hcalled] at hwaits
        cases hwaits
        rfl
      · exact absurd hb' (hno k' a' b')
    subst heq
    exact Or.inr ⟨k, b, by simp, hself⟩
  · intro k' a' b' hb'
    rcases List.mem_append.mp hb' with hold | hnew
    · exact absurd hold (hno k' a' b')
    · simp only [List.mem_singleton, Event.exec.injEq, true_and] at hnew
      obtain ⟨rfl, rfl, rfl⟩ := hnew
      exact ⟨hself, List.mem_append_left _ hcall⟩
  · intro b' hb'
    dsimp only at hb'
    rw [hself] at hb'
    cases hb'
    exact ⟨k, a, by simp⟩

theorem recorded (h : R.system.Reachable s tr) (i : η) : Recorded s tr i := by
  refine h.invariant (P := fun s tr => Recorded s tr i) ?_ ?_
  · exact ⟨nofun, nofun, nofun, nofun⟩
  intro s s' tr evs j _ hs ih
  cases step_of_system hs with
  | @call j a hidle =>
    by_cases hj : i = j
    · subst hj
      exact ih.call hidle
    · refine ih.of_phase_eq (Function.update_of_ne hj ..) ?_ nofun
      rintro a' heq
      exact hj (Event.call.inj heq).1.symm
  | @exec j k a b w hcalled hb =>
    by_cases hj : i = j
    · subst hj
      exact ih.exec hcalled
    · refine ih.of_phase_eq (Function.update_of_ne hj ..) nofun ?_
      rintro k' a' b' heq
      exact hj (Event.exec.inj heq).1.symm
  | ret hphase hr => exact ih.of_phase_eq rfl nofun nofun

/-! ### What holds of every run -/

/-- A call is executed once at most. -/
theorem executed_nodup (h : R.system.Reachable s tr) : (tr.filterMap Event.executes).Nodup := by
  refine h.invariant (P := fun _ tr => (tr.filterMap Event.executes).Nodup) List.nodup_nil ?_
  intro s s' tr evs j hreach hs ih
  rw [List.filterMap_append]
  cases step_of_system hs with
  | call hidle => exact (List.append_nil _).symm ▸ ih
  | ret hphase hr => exact (List.append_nil _).symm ▸ ih
  | @exec i k a b w hcalled hb =>
    have hnew : i ∉ tr.filterMap Event.executes := by
      intro hi
      obtain ⟨e, he, hexec⟩ := List.mem_filterMap.mp hi
      cases e with
      | exec j k' a' b' =>
        obtain rfl := Option.some.inj hexec
        rw [((recorded hreach j).done k' a' b' he).1] at hcalled
        cases hcalled
      | call => cases hexec
      | ret => cases hexec
    have hone : [Event.exec i k a b].filterMap (Event.executes (ρ := ρ)) = [i] := rfl
    rw [hone, List.nodup_append]
    refine ⟨ih, List.nodup_singleton i, ?_⟩
    rintro x hx y hy rfl
    rw [List.mem_singleton] at hy
    exact hnew (hy ▸ hx)

/-- There is no second execution of a call. -/
theorem executed_once {before after : List (Event η κ α β ρ)} {i : η} {k : κ} {a : α} {b : β}
    (h : R.system.Reachable s (before ++ .exec i k a b :: after)) {k' : κ} {a' : α} {b' : β} :
    .exec i k' a' b' ∉ before ++ after := by
  intro hmem
  have hnodup := executed_nodup h
  have hperm : (before ++ .exec i k a b :: after).Perm (.exec i k a b :: (before ++ after)) :=
    List.perm_middle
  have hnodup' := (hperm.filterMap Event.executes).nodup hnodup
  have hi : i ∈ (before ++ after).filterMap Event.executes := List.mem_filterMap.mpr ⟨_, hmem, rfl⟩
  exact (List.nodup_cons.mp hnodup').1 hi

/-- A call that returns was executed, with the argument it was made with, and returns the outcome. -/
theorem returns (h : R.system.Reachable s tr) : Historic (fun before e => ∀ i r, e = .ret i r →
    ∃ k a b, .call i a ∈ before ∧ .exec i k a b ∈ before ∧ R.reply b = some r) tr := by
  refine h.invariant (P := fun _ tr => Historic _ tr) historic_nil ?_
  intro s s' tr evs j hreach hs ih
  refine historic_append ih ?_
  rintro before e after hevs i r rfl
  have hmem : .ret i r ∈ evs := by
    rw [hevs]
    exact List.mem_append_right _ List.mem_cons_self
  cases step_of_system hs with
  | call hidle => simp at hmem
  | exec hcalled hb => simp at hmem
  | @ret i' b r' hphase hr =>
    obtain ⟨rfl, rfl⟩ := Event.ret.inj (List.mem_singleton.mp hmem)
    obtain ⟨k, a, hexec⟩ := (recorded hreach i).outcome b hphase
    exact ⟨k, a, b, List.mem_append_left _ ((recorded hreach i).done k a b hexec).2,
      List.mem_append_left _ hexec, hr⟩

/-- The executions at one object, in order. -/
def executionsAt (k : κ) (tr : List (Event η κ α β ρ)) : List (α × β) :=
  tr.filterMap fun
    | .exec _ k' a b => if k' = k then some (a, b) else none
    | _ => none

/-- An object goes through executions one after the other. -/
inductive Goes (R : RemoteObject κ α β ω ρ) (k : κ) : ω → List (α × β) → ω → Prop
  | nil (w : ω) : Goes R k w [] w
  | snoc {w w' w'' : ω} {done : List (α × β)} {a : α} {b : β} (h : Goes R k w done w')
      (hb : R.handle k a w' = some (b, w'')) : Goes R k w (done ++ [(a, b)]) w''

/-- Every object has gone from its first state to its present one by its executions. -/
theorem history (h : R.system.Reachable s tr) (k : κ) :
    R.Goes k (R.start k) (executionsAt k tr) (s.object k) := by
  refine h.invariant (P := fun s tr => R.Goes k (R.start k) (executionsAt k tr) (s.object k))
    (.nil _) ?_
  intro s s' tr evs j _ hs ih
  have happend : executionsAt k (tr ++ evs) = executionsAt k tr ++ executionsAt k evs :=
    List.filterMap_append
  rw [happend]
  cases step_of_system hs with
  | call hidle => exact (List.append_nil (executionsAt k tr)).symm ▸ ih
  | ret hphase hr => exact (List.append_nil (executionsAt k tr)).symm ▸ ih
  | @exec i k' a b w hcalled hb =>
    by_cases hk : k' = k
    · subst hk
      have hone : executionsAt k' [Event.exec (ρ := ρ) i k' a b] = [(a, b)] := by
        simp [executionsAt]
      rw [hone]
      dsimp only
      rw [Function.update_self]
      exact .snoc ih hb
    · have hnone : executionsAt k [Event.exec (ρ := ρ) i k' a b] = [] := by
        simp [executionsAt, hk]
      rw [hnone, List.append_nil]
      dsimp only
      rw [Function.update_of_ne (Ne.symm hk)]
      exact ih

/-- A call is executed in the state that the executions before have left its object in. -/
theorem executes_in_state (h : R.system.Reachable s tr) : Historic (fun before e => ∀ i k a b,
    e = .exec i k a b → ∃ w w', R.Goes k (R.start k) (executionsAt k before) w ∧
      R.handle k a w = some (b, w')) tr := by
  refine h.invariant (P := fun _ tr => Historic _ tr) historic_nil ?_
  intro s s' tr evs j hreach hs ih
  refine historic_append ih ?_
  rintro before e after hevs i k a b rfl
  have hmem : .exec i k a b ∈ evs := by
    rw [hevs]
    exact List.mem_append_right _ List.mem_cons_self
  cases step_of_system hs with
  | call hidle => simp at hmem
  | ret hphase hr => simp at hmem
  | @exec i' k' a' b' w hcalled hb =>
    obtain ⟨rfl, rfl, rfl, rfl⟩ := Event.exec.inj (List.mem_singleton.mp hmem)
    obtain rfl : before = [] := by
      have hlength := congrArg List.length hevs
      simp only [List.length_append, List.length_cons, List.length_nil] at hlength
      exact List.eq_nil_of_length_eq_zero (by omega)
    rw [List.append_nil]
    exact ⟨s.object k, w, history hreach k, hb⟩

end System

end RemoteObject
