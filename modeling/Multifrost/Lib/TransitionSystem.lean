import Mathlib.Data.List.Basic
import Mathlib.Data.List.Induction
import Mathlib.Tactic.Common

/-!
# Transition systems and their guarded runs

A `TransitionSystem` takes one atomic step at a time.  A step is chosen by an input `i : ι`, which
names whoever moves and fixes what the environment answers, and it emits a list of events; the
trace of a run is the concatenation of the events of its steps.

`T.Run C s tr` says that `s` is reached with trace `tr` by steps that all meet the guard `C`, a
condition on the state and the history before the step and on the input; `T.Reachable` is the case
without a guard.  `T.Path C s is tr s'` are the runs from a state `s` that need not be reachable,
with their schedule, and `T.Passes` says what holds somewhere on the way.  Properties of runs are
proved by `Run.invariant`, and those of the events of a run by `Run.forall_mem`; a property of every
event and the history before it is a `Historic` one, which is kept event by event
(`historic_append_singleton`, `historic_append`).  `T.observed obs` is `T` with more to see in its
traces.

`T.exec C` executes a schedule and checks the guard before each step, so that a concrete run is
obtained by evaluation (`exists_run_of_exec`).
-/

/-- A system of states `σ` that moves by inputs `ι` and emits events `ε`; `step i s = none` when
the input is not enabled. -/
structure TransitionSystem (σ ι ε : Type*) where
  /-- The initial state. -/
  init : σ
  /-- One atomic step. -/
  step : ι → σ → Option (σ × List ε)

namespace TransitionSystem

variable {σ ι ε : Type*}

/-! ### Runs -/

section Run

variable (T : TransitionSystem σ ι ε)

/-- The runs of `T` all of whose steps meet the guard `C`, with their traces. -/
inductive Run (C : σ → List ε → ι → Prop) : σ → List ε → Prop
  | init : Run C T.init []
  | step {s s' : σ} {tr evs : List ε} {i : ι} (h : Run C s tr) (hc : C s tr i)
      (hs : T.step i s = some (s', evs)) : Run C s' (tr ++ evs)

/-- The states reached by any run, with their traces. -/
def Reachable (s : σ) (tr : List ε) : Prop := T.Run (fun _ _ _ => True) s tr

variable {T} {C D : σ → List ε → ι → Prop} {s s' : σ} {tr evs : List ε} {i : ι}

/-- A guard that holds along the runs of another, by what is known of the states they reach,
allows these runs. -/
theorem Run.imp (h : T.Run C s tr) (hCD : ∀ s tr i, T.Run C s tr → C s tr i → D s tr i) :
    T.Run D s tr := by
  induction h with
  | init => exact Run.init
  | step h hc hs ih => exact ih.step (hCD _ _ _ h hc) hs

/-- A weaker guard allows more runs. -/
theorem Run.mono (h : T.Run C s tr) (hCD : ∀ s tr i, C s tr i → D s tr i) : T.Run D s tr :=
  h.imp fun s tr i _ => hCD s tr i

theorem Run.reachable (h : T.Run C s tr) : T.Reachable s tr :=
  h.mono fun _ _ _ _ => trivial

/-- **The invariant rule**: what holds initially and is kept by every guarded step holds at the
end of every guarded run. -/
theorem Run.invariant {P : σ → List ε → Prop} (hinit : P T.init [])
    (hstep : ∀ {s s' : σ} {tr evs : List ε} {i : ι}, T.Run C s tr → C s tr i →
      T.step i s = some (s', evs) → P s tr → P s' (tr ++ evs))
    (h : T.Run C s tr) : P s tr := by
  induction h with
  | init => exact hinit
  | step h hc hs ih => exact hstep h hc hs ih

/-- The invariant rule for runs without a guard. -/
theorem Reachable.invariant {P : σ → List ε → Prop} (hinit : P T.init [])
    (hstep : ∀ {s s' : σ} {tr evs : List ε} {i : ι}, T.Reachable s tr →
      T.step i s = some (s', evs) → P s tr → P s' (tr ++ evs))
    (h : T.Reachable s tr) : P s tr :=
  Run.invariant hinit (fun h _ hs => hstep h hs) h

/-- What every guarded step ensures of its own events holds of every event of a guarded run. -/
theorem Run.forall_mem {Q : ε → Prop}
    (hstep : ∀ {s s' : σ} {tr evs : List ε} {i : ι}, T.Run C s tr → C s tr i →
      T.step i s = some (s', evs) → ∀ e ∈ evs, Q e)
    (h : T.Run C s tr) : ∀ e ∈ tr, Q e := by
  induction h with
  | init =>
    intro e he
    cases he
  | step h hc hs ih =>
    intro e he
    rcases List.mem_append.mp he with he | he
    · exact ih e he
    · exact hstep h hc hs e he

end Run

/-! ### Runs from a given state -/

section Path

variable (T : TransitionSystem σ ι ε)

/-- The runs from `s` that take the inputs of a schedule in order, all under the guard `C`. -/
inductive Path (C : σ → ι → Prop) (s : σ) : List ι → List ε → σ → Prop
  | nil : Path C s [] [] s
  | snoc {is : List ι} {tr evs : List ε} {s₁ s₂ : σ} {i : ι} (h : Path C s is tr s₁)
      (hc : C s₁ i) (hs : T.step i s₁ = some (s₂, evs)) : Path C s (is ++ [i]) (tr ++ evs) s₂

variable {T} {C : σ → ι → Prop} {s s' : σ} {is : List ι} {tr : List ε}

/-- The invariant rule for runs from a given state. -/
theorem Path.invariant {P : List ι → List ε → σ → Prop} (hinit : P [] [] s)
    (hstep : ∀ {is : List ι} {tr evs : List ε} {s₁ s₂ : σ} {i : ι}, T.Path C s is tr s₁ → C s₁ i →
      T.step i s₁ = some (s₂, evs) → P is tr s₁ → P (is ++ [i]) (tr ++ evs) s₂)
    (h : T.Path C s is tr s') : P is tr s' := by
  induction h with
  | nil => exact hinit
  | snoc h hc hs ih => exact hstep h hc hs ih

/-- A step, and a run from the state it reaches. -/
theorem Path.cons {s₁ : σ} {i : ι} {evs : List ε} (hc : C s i) (hs : T.step i s = some (s₁, evs))
    (h : T.Path C s₁ is tr s') : T.Path C s (i :: is) (evs ++ tr) s' := by
  induction h with
  | nil =>
    rw [List.append_nil]
    exact Path.nil.snoc hc hs
  | snoc h hc' hs' ih =>
    rw [← List.append_assoc, ← List.cons_append]
    exact ih.snoc hc' hs'

/-- A weaker guard allows more runs. -/
theorem Path.mono {D : σ → ι → Prop} (h : T.Path C s is tr s') (hCD : ∀ s i, C s i → D s i) :
    T.Path D s is tr s' := by
  induction h with
  | nil => exact Path.nil
  | snoc h hc hs ih => exact ih.snoc (hCD _ _ hc) hs

/-- Some state on the way from `s` to `s'` has the property `P`. -/
def Passes (T : TransitionSystem σ ι ε) (C : σ → ι → Prop) (P : σ → Prop) (s : σ) (is : List ι)
    (tr : List ε) (s' : σ) : Prop :=
  ∃ is₀ is₁ tr₀ tr₁ s₀, is = is₀ ++ is₁ ∧ tr = tr₀ ++ tr₁ ∧ T.Path C s is₀ tr₀ s₀ ∧ P s₀ ∧
    T.Path C s₀ is₁ tr₁ s'

theorem Path.passes {P : σ → Prop} (h : T.Path C s is tr s') (hp : P s') :
    T.Passes C P s is tr s' :=
  ⟨is, [], tr, [], s', (List.append_nil is).symm, (List.append_nil tr).symm, h, hp, Path.nil⟩

theorem Passes.snoc {P : σ → Prop} {evs : List ε} {s₁ s₂ : σ} {i : ι}
    (h : T.Passes C P s is tr s₁) (hc : C s₁ i) (hs : T.step i s₁ = some (s₂, evs)) :
    T.Passes C P s (is ++ [i]) (tr ++ evs) s₂ := by
  obtain ⟨is₀, is₁, tr₀, tr₁, s₀, rfl, rfl, h₀, hp, h₁⟩ := h
  exact ⟨is₀, is₁ ++ [i], tr₀, tr₁ ++ evs, s₀, List.append_assoc .., List.append_assoc .., h₀, hp,
    h₁.snoc hc hs⟩

end Path

/-! ### Properties of the events of a trace -/

/-- `Q` holds of every event of the trace and the history before it. -/
def Historic (Q : List ε → ε → Prop) (tr : List ε) : Prop :=
  ∀ before e after, tr = before ++ e :: after → Q before e

theorem historic_nil {Q : List ε → ε → Prop} : Historic Q [] := by
  intro before e after h
  simp at h

theorem historic_append_singleton {Q : List ε → ε → Prop} {tr : List ε} {e : ε} :
    Historic Q (tr ++ [e]) ↔ Historic Q tr ∧ Q tr e := by
  constructor
  · intro h
    refine ⟨fun before e' after heq => h before e' (after ++ [e]) ?_, h tr e [] rfl⟩
    rw [heq, List.append_assoc, List.cons_append]
  · rintro ⟨htr, he⟩ before e' after heq
    rcases List.eq_nil_or_concat after with rfl | ⟨init, last, rfl⟩
    · obtain ⟨rfl, h⟩ := List.append_inj' heq rfl
      obtain rfl := List.singleton_injective h
      exact he
    · refine htr before e' init ?_
      rw [List.concat_eq_append, ← List.cons_append, ← List.append_assoc] at heq
      exact (List.append_inj' heq rfl).1

/-- A step extends a historic property when its own events, one after the other, have it. -/
theorem historic_append {Q : List ε → ε → Prop} {tr evs : List ε} (htr : Historic Q tr)
    (hevs : ∀ before e after, evs = before ++ e :: after → Q (tr ++ before) e) :
    Historic Q (tr ++ evs) := by
  induction evs using List.reverseRecOn with
  | nil => rwa [List.append_nil]
  | append_singleton evs e ih =>
    rw [← List.append_assoc, historic_append_singleton]
    refine ⟨ih fun before e' after h => hevs before e' (after ++ [e]) ?_, hevs evs e [] rfl⟩
    rw [h, List.append_assoc, List.cons_append]

/-- A subsequence of a trace that has grown by `b` was there before, or ends in `b`. -/
theorem sublist_concat_cases {l tr : List ε} {a b : ε} (h : (l ++ [a]).Sublist (tr ++ [b])) :
    (l ++ [a]).Sublist tr ∨ a = b ∧ l.Sublist tr := by
  rw [← List.reverse_sublist, List.reverse_append, List.reverse_append] at h
  rcases List.sublist_cons_iff.mp h with h | ⟨r, heq, h⟩
  · left
    rw [← List.reverse_sublist, List.reverse_append]
    exact h
  · right
    obtain ⟨rfl, rfl⟩ := List.cons.inj heq
    exact ⟨rfl, List.reverse_sublist.mp h⟩

/-! ### Observations -/

section Observed

variable {β : Type*} (T : TransitionSystem σ ι ε) (obs : σ → ι → List β)

/-- The system that also records what `obs` sees of a step, before the events of the step. -/
def observed : TransitionSystem σ ι (β ⊕ ε) where
  init := T.init
  step i s := (T.step i s).map fun r => (r.1, (obs s i).map Sum.inl ++ r.2.map Sum.inr)

variable {T obs}

theorem step_observed {s s' : σ} {i : ι} {evs : List (β ⊕ ε)} :
    (T.observed obs).step i s = some (s', evs) ↔
      ∃ evs₀, T.step i s = some (s', evs₀) ∧
        evs = (obs s i).map Sum.inl ++ evs₀.map Sum.inr := by
  simp only [observed, Option.map_eq_some_iff, Prod.exists, Prod.mk.injEq]
  constructor
  · rintro ⟨s₁, evs₀, hs, rfl, rfl⟩
    exact ⟨evs₀, hs, rfl⟩
  · rintro ⟨evs₀, hs, rfl⟩
    exact ⟨s', evs₀, hs, rfl, rfl⟩

/-- What a step adds to the events of the system. -/
theorem filterMap_getRight_observed (tr : List (β ⊕ ε)) (seen : List β) (evs : List ε) :
    (tr ++ (seen.map Sum.inl ++ evs.map Sum.inr)).filterMap Sum.getRight? =
      tr.filterMap Sum.getRight? ++ evs := by
  have hseen : (seen.map Sum.inl).filterMap (Sum.getRight? : β ⊕ ε → Option ε) = [] := by
    rw [List.filterMap_map]
    exact List.filterMap_eq_nil_iff.mpr fun _ _ => rfl
  have hevs : (evs.map Sum.inr).filterMap (Sum.getRight? : β ⊕ ε → Option ε) = evs := by
    rw [List.filterMap_map]
    exact List.filterMap_some
  rw [List.filterMap_append, List.filterMap_append, hseen, hevs, List.nil_append]

/-- What a step adds to the observations. -/
theorem filterMap_getLeft_observed (tr : List (β ⊕ ε)) (seen : List β) (evs : List ε) :
    (tr ++ (seen.map Sum.inl ++ evs.map Sum.inr)).filterMap Sum.getLeft? =
      tr.filterMap Sum.getLeft? ++ seen := by
  have hseen : (seen.map Sum.inl).filterMap (Sum.getLeft? : β ⊕ ε → Option β) = seen := by
    rw [List.filterMap_map]
    exact List.filterMap_some
  have hevs : (evs.map Sum.inr).filterMap (Sum.getLeft? : β ⊕ ε → Option β) = [] := by
    rw [List.filterMap_map]
    exact List.filterMap_eq_nil_iff.mpr fun _ _ => rfl
  rw [List.filterMap_append, List.filterMap_append, hseen, hevs, List.append_nil]

/-- Observations change nothing. -/
theorem Reachable.of_observed {s : σ} {tr : List (β ⊕ ε)} (h : (T.observed obs).Reachable s tr) :
    T.Reachable s (tr.filterMap Sum.getRight?) := by
  refine Reachable.invariant (T := T.observed obs)
    (P := fun s tr => T.Reachable s (tr.filterMap Sum.getRight?)) (Run.init (T := T)) ?_ h
  intro s s' tr evs i _ hs ih
  obtain ⟨evs₀, hs₀, rfl⟩ := step_observed.mp hs
  rw [filterMap_getRight_observed]
  exact Run.step ih trivial hs₀

end Observed

/-! ### Executing a schedule -/

section Exec

variable (T : TransitionSystem σ ι ε) (C : σ → List ε → ι → Prop)
  [∀ s tr i, Decidable (C s tr i)]

/-- Take the steps of a schedule in order, as long as they are enabled and meet the guard. -/
def exec : σ → List ε → List ι → Option (σ × List ε)
  | s, tr, [] => some (s, tr)
  | s, tr, i :: is =>
    if C s tr i then (T.step i s).bind fun r => exec r.1 (tr ++ r.2) is else none

variable {T C}

theorem Run.exec : ∀ {is : List ι} {s s' : σ} {tr tr' : List ε}, T.Run C s tr →
    T.exec C s tr is = some (s', tr') → T.Run C s' tr'
  | [], s, s', tr, tr', h, he => by
    simp only [TransitionSystem.exec, Option.some.injEq, Prod.mk.injEq] at he
    rw [← he.1, ← he.2]
    exact h
  | i :: is, s, s', tr, tr', h, he => by
    unfold TransitionSystem.exec at he
    split_ifs at he with hc
    obtain ⟨⟨s₁, evs⟩, hs, he⟩ := Option.bind_eq_some_iff.mp he
    exact Run.exec (h.step hc hs) he

variable (T C) in
/-- A schedule that executes to a state and trace with `p` gives a run that ends with `p`. -/
theorem exists_run_of_exec (is : List ι) (p : σ → List ε → Bool)
    (h : (T.exec C T.init [] is).any (fun r => p r.1 r.2) = true) :
    ∃ s tr, T.Run C s tr ∧ p s tr = true := by
  cases he : T.exec C T.init [] is with
  | none => simp [he] at h
  | some r =>
    rw [he] at h
    exact ⟨r.1, r.2, Run.exec Run.init he, by simpa using h⟩

variable (T) in
/-- The same for runs without a guard. -/
theorem exists_reachable_of_exec (is : List ι) (p : σ → List ε → Bool)
    (h : (T.exec (fun _ _ _ => True) T.init [] is).any (fun r => p r.1 r.2) = true) :
    ∃ s tr, T.Reachable s tr ∧ p s tr = true :=
  exists_run_of_exec T (fun _ _ _ => True) is p h

end Exec

section ExecPath

variable {T : TransitionSystem σ ι ε} {C : σ → ι → Prop} [∀ s i, Decidable (C s i)]

theorem Path.exec : ∀ {is is₀ : List ι} {s s₁ s₂ : σ} {tr₀ tr : List ε}, T.Path C s is₀ tr₀ s₁ →
    T.exec (fun s _ i => C s i) s₁ tr₀ is = some (s₂, tr) → T.Path C s (is₀ ++ is) tr s₂
  | [], is₀, s, s₁, s₂, tr₀, tr, h, he => by
    simp only [TransitionSystem.exec, Option.some.injEq, Prod.mk.injEq] at he
    rw [← he.1, ← he.2, List.append_nil]
    exact h
  | i :: is, is₀, s, s₁, s₂, tr₀, tr, h, he => by
    unfold TransitionSystem.exec at he
    split_ifs at he with hc
    obtain ⟨⟨s', evs⟩, hs, he⟩ := Option.bind_eq_some_iff.mp he
    rw [List.append_cons]
    exact Path.exec (h.snoc hc hs) he

/-- A step and a schedule after it that execute to a state and trace with `p`. -/
theorem exists_path_of_exec (i : ι) (is : List ι) {s : σ} (p : σ → List ε → Bool)
    (h : ((T.step i s).any fun r => (T.exec (fun s _ i => C s i) r.1 [] is).any fun q =>
      p q.1 (r.2 ++ q.2)) = true) :
    ∃ s₁ evs s₂ tr, T.step i s = some (s₁, evs) ∧ T.Path C s₁ is tr s₂ ∧
      p s₂ (evs ++ tr) = true := by
  rw [Option.any_eq_true] at h
  obtain ⟨⟨s₁, evs⟩, hs, h⟩ := h
  rw [Option.any_eq_true] at h
  obtain ⟨⟨s₂, tr⟩, he, hp⟩ := h
  exact ⟨s₁, evs, s₂, tr, hs, Path.exec Path.nil he, hp⟩

end ExecPath

end TransitionSystem
