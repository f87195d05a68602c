import Mathlib.Data.List.Infix
import Mathlib.Logic.Function.Basic
import Multifrost.Lib.TransitionSystem

/-!
# Systems that read streams

`T.fed R S` is `T` with its messages taken from the streams `S`: `R.stream` says from which stream
an input reads in a state, and such an input is enabled only when there is a message, which
`R.put` hands to the step.  The streams that are left are part of the state, and a stream may be as
long as one likes, so that its runs are those of `T` on every longer stream as well.

`Inserted p l' l` says that `l'` is `l` with messages that have `p` put in anywhere, and
`T.SameRuns R p S' S` that nothing of this is seen: the runs on `S'` and those on `S` reach the same
states with the same traces, and what is left of the streams differs by such messages only.
`sameRuns_of_skips` derives it from what one step does, and `SameRuns.left_eq_filter` tells what
is left of streams that have no such message; `unread_or_read` tells from where a system is whether
it has read from a stream.
-/

namespace TransitionSystem

variable {σ ι ε κ μ : Type*}

/-- How the inputs of a system read. -/
structure Reads (σ ι κ μ : Type*) where
  /-- The stream from which the input reads, if it does. -/
  stream : σ → ι → Option κ
  /-- The input, with the message that was read. -/
  put : μ → ι → ι

/-! ### Fed systems -/

section Fed

variable [DecidableEq κ] (T : TransitionSystem σ ι ε) (R : Reads σ ι κ μ)

/-- The system with the streams from which it reads; a reader of an empty stream waits. -/
def fed (S : κ → List μ) : TransitionSystem (σ × (κ → List μ)) ι ε where
  init := (T.init, S)
  step i q :=
    match R.stream q.1 i with
    | none => (T.step i q.1).map fun r => ((r.1, q.2), r.2)
    | some k =>
      match q.2 k with
      | [] => none
      | x :: xs => (T.step (R.put x i) q.1).map fun r => ((r.1, Function.update q.2 k xs), r.2)

variable {T R} {S : κ → List μ} {s s' : σ} {F F' : κ → List μ} {i : ι} {k : κ} {x : μ} {xs : List μ}
  {tr evs : List ε}

/-- A step that reads nothing. -/
theorem step_fed_of_none (hr : R.stream s i = none) (hs : T.step i s = some (s', evs)) :
    (T.fed R S).step i (s, F) = some ((s', F), evs) := by
  simp only [fed, hr, hs, Option.map_some]

/-- A step that reads a message. -/
theorem step_fed_of_some (hr : R.stream s i = some k) (hF : F k = x :: xs)
    (hs : T.step (R.put x i) s = some (s', evs)) :
    (T.fed R S).step i (s, F) = some ((s', Function.update F k xs), evs) := by
  simp only [fed, hr, hF, hs, Option.map_some]

/-- There are no other steps. -/
theorem cases_of_step_fed (h : (T.fed R S).step i (s, F) = some ((s', F'), evs)) :
    (R.stream s i = none ∧ T.step i s = some (s', evs) ∧ F' = F) ∨
      ∃ k x xs, R.stream s i = some k ∧ F k = x :: xs ∧
        T.step (R.put x i) s = some (s', evs) ∧ F' = Function.update F k xs := by
  cases hr : R.stream s i with
  | none =>
    simp only [fed, hr] at h
    obtain ⟨⟨s₁, evs₁⟩, hs, heq⟩ := Option.map_eq_some_iff.mp h
    simp only [Prod.mk.injEq] at heq
    obtain ⟨⟨rfl, rfl⟩, rfl⟩ := heq
    exact .inl ⟨rfl, hs, rfl⟩
  | some k =>
    cases hF : F k with
    | nil =>
      simp only [fed, hr, hF] at h
      cases h
    | cons x xs =>
      simp only [fed, hr, hF] at h
      obtain ⟨⟨s₁, evs₁⟩, hs, heq⟩ := Option.map_eq_some_iff.mp h
      simp only [Prod.mk.injEq] at heq
      obtain ⟨⟨rfl, rfl⟩, rfl⟩ := heq
      exact .inr ⟨k, x, xs, rfl, hF, hs, rfl⟩

/-- **The invariant rule of a fed system**: one case for the steps that read and one for those that
do not. -/
theorem fed_invariant {P : σ → (κ → List μ) → Prop} (hinit : P T.init S)
    (hstep : ∀ {s s' F i evs}, R.stream s i = none → T.step i s = some (s', evs) → P s F → P s' F)
    (hread : ∀ {s s' F i k x xs evs}, R.stream s i = some k → F k = x :: xs →
      T.step (R.put x i) s = some (s', evs) → P s F → P s' (Function.update F k xs))
    (h : (T.fed R S).Reachable (s, F) tr) : P s F := by
  refine Reachable.invariant (T := T.fed R S) (P := fun q _ => P q.1 q.2) hinit ?_ h
  rintro ⟨s₁, F₁⟩ ⟨s₂, F₂⟩ tr evs i - hfed ih
  rcases cases_of_step_fed hfed with ⟨hr, hs, rfl⟩ | ⟨k, x, xs, hr, hF, hs, rfl⟩
  · exact hstep hr hs ih
  · exact hread hr hF hs ih

/-- What is left of a stream is its end. -/
theorem left_suffix (h : (T.fed R S).Reachable (s, F) tr) (k : κ) : F k <:+ S k := by
  refine fed_invariant (P := fun _ F => F k <:+ S k) List.suffix_rfl (fun _ _ hk => hk) ?_ h
  intro s s' F i k' x xs evs hr hF hs hk
  by_cases heq : k = k'
  · subst heq
    rw [Function.update_self]
    rw [hF] at hk
    exact (List.suffix_cons x xs).trans hk
  · rwa [Function.update_of_ne heq]

/-- A stream is as it was while the system is where it has read nothing of it, and a system that
no longer waits for its first message has read one. -/
theorem unread_or_read (unread waiting : σ → κ → Bool) (hinit : ∀ k, unread T.init k = true)
    (hkeep : ∀ {s s' i evs k}, R.stream s i = none → T.step i s = some (s', evs) →
      unread s k = true → unread s' k = true)
    (hother : ∀ {s s' i x evs k k'}, R.stream s i = some k' → k ≠ k' →
      T.step (R.put x i) s = some (s', evs) → unread s' k = unread s k ∧ waiting s' k = waiting s k)
    (hwait : ∀ {s s' i evs k}, T.step i s = some (s', evs) → waiting s k = false →
      waiting s' k = false)
    (hread : ∀ {s s' i x evs k}, R.stream s i = some k → T.step (R.put x i) s = some (s', evs) →
      waiting s' k = false)
    (h : (T.fed R S).Reachable (s, F) tr) (k : κ) :
    unread s k = true ∧ F k = S k ∨ waiting s k = false ∧ (F k).length < (S k).length := by
  refine fed_invariant (P := fun s F => unread s k = true ∧ F k = S k ∨
    waiting s k = false ∧ (F k).length < (S k).length) (.inl ⟨hinit k, rfl⟩) ?_ ?_ h
  · intro s s' F i evs hr hs ih
    rcases ih with ⟨hunread, hF⟩ | ⟨hwaiting, hF⟩
    · exact .inl ⟨hkeep hr hs hunread, hF⟩
    · exact .inr ⟨hwait hs hwaiting, hF⟩
  · intro s s' F i k' x xs evs hr hF hs ih
    by_cases hk : k = k'
    · subst hk
      have hlength : (F k).length ≤ (S k).length := by
        rcases ih with ⟨-, hF⟩ | ⟨-, hF⟩
        · rw [hF]
        · exact hF.le
      rw [hF, List.length_cons] at hlength
      rw [Function.update_self]
      exact .inr ⟨hread hr hs, by omega⟩
    · obtain ⟨hunread, hwaiting⟩ := hother hr hk hs
      rwa [hunread, hwaiting, Function.update_of_ne hk]

end Fed

/-! ### Insertions -/

/-- `l'` is `l` with messages that have `p` put in anywhere. -/
inductive Inserted (p : μ → Prop) : List μ → List μ → Prop
  | nil : Inserted p [] []
  | keep (x : μ) {l' l : List μ} (h : Inserted p l' l) : Inserted p (x :: l') (x :: l)
  | insert {x : μ} {l' l : List μ} (hx : p x) (h : Inserted p l' l) : Inserted p (x :: l') l

section Filter

variable {p : μ → Prop} [DecidablePred p]

/-- A list without the messages that have `p`. -/
theorem inserted_filter (l : List μ) : Inserted p l (l.filter fun x => ¬ p x) := by
  induction l with
  | nil => exact .nil
  | cons x l ih =>
    by_cases hx : p x
    · rw [List.filter_cons_of_neg (by simpa using hx)]
      exact .insert hx ih
    · rw [List.filter_cons_of_pos (by simpa using hx)]
      exact .keep x ih

theorem Inserted.filter_eq {l' l : List μ} (h : Inserted p l' l) :
    (l'.filter fun x => ¬ p x) = l.filter fun x => ¬ p x := by
  induction h with
  | nil => rfl
  | keep x h ih => rw [List.filter_cons, List.filter_cons, ih]
  | insert hx h ih => rw [List.filter_cons_of_neg (by simpa using hx), ih]

end Filter

/-! ### The same runs -/

section SameRuns

variable [DecidableEq κ] (T : TransitionSystem σ ι ε) (R : Reads σ ι κ μ) (p : μ → Prop)

/-- The runs on `S'` and those on `S` reach the same states with the same traces, and what they
leave of the streams differs only by messages that have `p`. -/
structure SameRuns (S' S : κ → List μ) : Prop where
  erase : ∀ {s F' tr}, (T.fed R S').Reachable (s, F') tr →
    ∃ F, (T.fed R S).Reachable (s, F) tr ∧ ∀ k, Inserted p (F' k) (F k)
  insert : ∀ {s F tr}, (T.fed R S).Reachable (s, F) tr →
    ∃ F', (T.fed R S').Reachable (s, F') tr ∧ ∀ k, Inserted p (F' k) (F k)

variable {T R p} {S' S : κ → List μ} {s s' : σ} {F F' : κ → List μ} {i : ι} {k : κ} {x : μ}
  {xs ys : List μ} {tr evs : List ε}

theorem inserted_update (hF : ∀ k, Inserted p (F' k) (F k)) (hxs : Inserted p xs ys) (k' : κ) :
    Inserted p (Function.update F' k xs k') (Function.update F k ys k') := by
  by_cases heq : k' = k
  · subst heq
    rwa [Function.update_self, Function.update_self]
  · rw [Function.update_of_ne heq, Function.update_of_ne heq]
    exact hF k'

/-- The messages with `p` at the front of a stream are read away. -/
theorem exists_read_away
    (hskip : ∀ {s F' tr i k x xs}, (T.fed R S').Reachable (s, F') tr → R.stream s i = some k →
      F' k = x :: xs → p x → T.step (R.put x i) s = some (s, []))
    (hr : R.stream s i = some k) (hk : Inserted p (F' k) (x :: xs))
    (h : (T.fed R S').Reachable (s, F') tr) :
    ∃ ys, Inserted p ys xs ∧
      (T.fed R S').Reachable (s, Function.update F' k (x :: ys)) tr := by
  generalize hl : F' k = l at hk
  -- by induction on what stands before `x` in the stream
  generalize hm : x :: xs = m at hk
  induction hk generalizing F' with
  | nil => cases hm
  | keep y hl' ih =>
    obtain ⟨rfl, rfl⟩ := List.cons.inj hm
    refine ⟨_, hl', ?_⟩
    rwa [← hl, Function.update_eq_self]
  | @insert y l' l hy hl' ih =>
    have hread := step_fed_of_some (S := S') hr hl (hskip h hr hl hy)
    have hnext : (T.fed R S').Reachable (s, Function.update F' k l') (tr ++ []) :=
      Run.step h trivial hread
    rw [List.append_nil] at hnext
    obtain ⟨ys, hys, hreach⟩ := ih hnext (Function.update_self k l' F') hm
    refine ⟨ys, hys, ?_⟩
    rwa [Function.update_idem] at hreach

/-- A system that passes over a message with `p` wherever it reads one has the same runs with and
without them. -/
theorem sameRuns_of_skips (hS : ∀ k, Inserted p (S' k) (S k))
    (hskip : ∀ {s F' tr i k x xs}, (T.fed R S').Reachable (s, F') tr → R.stream s i = some k →
      F' k = x :: xs → p x → T.step (R.put x i) s = some (s, [])) :
    T.SameRuns R p S' S := by
  constructor
  · intro s F' tr h
    refine Reachable.invariant (T := T.fed R S') (P := fun q tr => ∃ F,
      (T.fed R S).Reachable (q.1, F) tr ∧ ∀ k, Inserted p (q.2 k) (F k))
      ⟨S, Run.init, hS⟩ ?_ h
    rintro ⟨s, F'⟩ ⟨s', F''⟩ tr evs i hreach hfed ⟨F, hF, hins⟩
    rcases cases_of_step_fed hfed with ⟨hr, hs, rfl⟩ | ⟨k, x, xs, hr, hx, hs, rfl⟩
    · exact ⟨F, hF.step trivial (step_fed_of_none hr hs), hins⟩
    · have hk := hins k
      dsimp only at hk hx
      rw [hx] at hk
      generalize hl : F k = l at hk
      cases hk with
      | keep x hxs =>
        exact ⟨_, hF.step trivial (step_fed_of_some hr hl hs), inserted_update hins hxs⟩
      | insert hp hxs =>
        -- the other system stays where it is
        have hstay := hs.symm.trans (hskip hreach hr hx hp)
        obtain ⟨rfl, rfl⟩ := Prod.mk.inj (Option.some.inj hstay)
        refine ⟨F, ?_, ?_⟩
        · rwa [List.append_nil]
        · rw [← hl] at hxs
          have hupdate := inserted_update (k := k) hins hxs
          rwa [Function.update_eq_self] at hupdate
  · intro s F tr h
    refine Reachable.invariant (T := T.fed R S) (P := fun q tr => ∃ F',
      (T.fed R S').Reachable (q.1, F') tr ∧ ∀ k, Inserted p (F' k) (q.2 k))
      ⟨S', Run.init, hS⟩ ?_ h
    rintro ⟨s, F⟩ ⟨s', F₁⟩ tr evs i - hfed ⟨F', hF', hins⟩
    rcases cases_of_step_fed hfed with ⟨hr, hs, rfl⟩ | ⟨k, x, xs, hr, hx, hs, rfl⟩
    · exact ⟨F', hF'.step trivial (step_fed_of_none hr hs), hins⟩
    · have hk := hins k
      dsimp only at hk hx
      rw [hx] at hk
      obtain ⟨ys, hys, hreach⟩ := exists_read_away hskip hr hk hF'
      have hfront : Function.update F' k (x :: ys) k = x :: ys := Function.update_self ..
      have hread := step_fed_of_some (S := S') hr hfront hs
      rw [Function.update_idem] at hread
      exact ⟨_, hreach.step trivial hread, inserted_update hins hys⟩

/-- Where the streams `S` have no message with `p`, a state is reached on them by the reads that
reached it on `S'`, those of messages with `p` left out. -/
theorem SameRuns.left_eq_filter [DecidablePred p]
    (h : T.SameRuns R p S' fun k => (S' k).filter fun x => ¬ p x)
    (hF' : (T.fed R S').Reachable (s, F') tr) :
    (T.fed R fun k => (S' k).filter fun x => ¬ p x).Reachable
      (s, fun k => (F' k).filter fun x => ¬ p x) tr := by
  obtain ⟨F, hF, hins⟩ := h.erase hF'
  have heq : F = fun k => (F' k).filter fun x => ¬ p x := by
    funext k
    have hsuffix := left_suffix hF k
    have hself : (F k).filter (fun x => ¬ p x) = F k := by
      rw [List.filter_eq_self]
      intro x hx
      exact (List.mem_filter.mp (hsuffix.subset hx)).2
    rw [(hins k).filter_eq, hself]
  rwa [heq] at hF

end SameRuns

end TransitionSystem
