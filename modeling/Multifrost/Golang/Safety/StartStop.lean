import Multifrost.Golang.Handle
import Multifrost.Lib.Custody

/-!
# The transports of a Go handle under concurrent `Start` and `Stop`

`Start` looks at `h.started`, releases the mutex to dial, and then stores its transport whatever the
handle has by then.  Of two calls that overlap, the second overwrites the transport of the first,
and nobody closes it.  In a run in which no `Start` finds an open transport where it stores its own,
every transport is closed, in the handle, or in the hands of a call.
-/

namespace Multifrost.Go.Handle

variable {validate : Bool}

/-! ### Calls and their transports -/

def StartPc.done : StartPc → Bool
  | .unstarted | .returned => true
  | _ => false

/-- The call has a transport that it has not stored. -/
def StartPc.holds : StartPc → Bool
  | .validate | .close | .store => true
  | _ => false

def StopPc.done : StopPc → Bool
  | .unstarted | .returned => true
  | _ => false

/-- The transport that the call has taken. -/
def StopPc.taken : StopPc → Option StartId
  | .disconnect t | .close t => some t
  | _ => none

theorem StartPc.holds_of_done {pc : StartPc} (h : pc.done = true) : pc.holds = false := by
  cases pc <;> first
    | rfl
    | cases h

theorem StopPc.taken_of_done {pc : StopPc} (h : pc.done = true) : pc.taken = none := by
  cases pc <;> first
    | rfl
    | cases h

def custody (s : State) : Custody StartId (StartId ⊕ StopId) where
  acquired t := s.dialed t = true
  closed t := s.closed t = true
  slot := s.transport
  holds
    | .inl k, t => k = t ∧ (s.starts k).holds = true
    | .inr j, t => (s.stops j).taken = some t

/-- No call of `Start` is in progress. -/
def NoStart (s : State) : Prop := ∀ k, (s.starts k).done = true

/-- No call is in progress. -/
def Idle (s : State) : Prop := NoStart s ∧ ∀ j, (s.stops j).done = true

def Input.isStart : Input → Bool
  | .start _ => true
  | _ => false

/-- No call of `Stop` has a transport in hand. -/
def NoneTaken (s : State) : Prop := ∀ j, (s.stops j).taken = none

def AllClosed (s : State) : Prop := ∀ t, s.dialed t = true → s.closed t = true

/-- When no call is in progress, a transport is closed or that of the handle.  After a `Stop` that
begins here with no `Start` in progress, and before another one begins, none is open when no call is
in progress; if no earlier `Stop` had one in hand, none is open as soon as this one has returned. -/
def NoLeak (validate : Bool) (s : State) : Prop :=
  (Idle s → ∀ t, s.dialed t = true → s.closed t = true ∨ s.transport = some t ∧ s.started = true) ∧
  (NoStart s → ∀ j s₁ evs, (handle validate).step (.stop j) s = some (s₁, evs) →
    ∀ is tr s', (handle validate).Path (fun _ i => i.isStart = false) s₁ is tr s' →
      Idle s' ∨ (s'.stops j).done = true ∧ NoneTaken s → AllClosed s')

/-- A `Start` stores its transport where there is none, or one that is closed. -/
def StoresOnce (s : State) : Input → Prop
  | .store _ => ∀ t ∈ s.transport, s.closed t = true
  | _ => True

instance (s : State) : ∀ i, Decidable (StoresOnce s i)
  | .store _ => inferInstanceAs (Decidable (∀ t ∈ s.transport, _ = _))
  | .start _ | .ensured .. | .dialed .. | .validated .. | .closes _ | .stop _ | .stopping _
  | .fails _ => inferInstanceAs (Decidable True)

/-! ### Steps -/

/-- What an input can do, one constructor for a branch of the source. -/
inductive Step (validate : Bool) (s : State) : Input → State × List Empty → Prop
  | startReturns {k : StartId} (h : s.starts k = .unstarted) (hstarted : s.started = true) :
      Step validate s (.start k) (s.setStart k .returned, [])
  | start {k : StartId} (h : s.starts k = .unstarted) (hstarted : s.started = false) :
      Step validate s (.start k) (s.setStart k .ensure, [])
  | ensured {k : StartId} (h : s.starts k = .ensure) :
      Step validate s (.ensured k true) (s.setStart k .dial, [])
  | ensureFails {k : StartId} (h : s.starts k = .ensure) :
      Step validate s (.ensured k false) (s.setStart k .returned, [])
  | dialed {k : StartId} (h : s.starts k = .dial) :
      Step validate s (.dialed k true)
        ({ s with dialed := Function.update s.dialed k true }.setStart k
          (if validate then .validate else .store), [])
  | dialFails {k : StartId} (h : s.starts k = .dial) :
      Step validate s (.dialed k false) (s.setStart k .returned, [])
  | validated {k : StartId} (h : s.starts k = .validate) :
      Step validate s (.validated k true) (s.setStart k .store, [])
  | validateFails {k : StartId} (h : s.starts k = .validate) :
      Step validate s (.validated k false) (s.setStart k .close, [])
  | closes {k : StartId} (h : s.starts k = .close) :
      Step validate s (.closes k) ((s.setClosed k).setStart k .returned, [])
  | store {k : StartId} (h : s.starts k = .store) :
      Step validate s (.store k)
        ({ s with transport := some k, started := true }.setStart k .returned, [])
  | stop {j : StopId} {t : StartId} (h : s.stops j = .unstarted) (ht : s.transport = some t)
      (hstarted : s.started = true) :
      Step validate s (.stop j)
        ({ s with started := false, transport := none }.setStop j (.disconnect t), [])
  | stopReturns {j : StopId} (h : s.stops j = .unstarted)
      (hnone : s.transport = none ∨ s.started = false) :
      Step validate s (.stop j) (s.setStop j .returned, [])
  | disconnected {j : StopId} {t : StartId} (h : s.stops j = .disconnect t) :
      Step validate s (.stopping j) (s.setStop j (.close t), [])
  | stopped {j : StopId} {t : StartId} (h : s.stops j = .close t) :
      Step validate s (.stopping j) ((s.setClosed t).setStop j .returned, [])
  | fails {t : StartId} (h : s.dialed t = true) : Step validate s (.fails t) (s.setClosed t, [])

theorem step_of_handle {s : State} {i : Input} {o : State × List Empty}
    (hs : (handle validate).step i s = some o) : Step validate s i o := by
  cases i with
  | start k =>
    simp only [handle] at hs
    split_ifs at hs with hpc hstarted <;> cases hs
    · exact .startReturns hpc hstarted
    · exact .start hpc (eq_false_of_ne_true hstarted)
  | ensured k ok =>
    simp only [handle] at hs
    split_ifs at hs with hpc hok <;> cases hs
    · subst hok
      exact .ensured hpc
    · rw [eq_false_of_ne_true hok]
      exact .ensureFails hpc
  | dialed k ok =>
    simp only [handle] at hs
    by_cases hpc : s.starts k = .dial
    · rw [if_pos hpc] at hs
      cases ok <;> cases hs
      · exact .dialFails hpc
      · exact .dialed hpc
    · rw [if_neg hpc] at hs
      cases hs
  | validated k ok =>
    simp only [handle] at hs
    split_ifs at hs with hpc hok <;> cases hs
    · subst hok
      exact .validated hpc
    · rw [eq_false_of_ne_true hok]
      exact .validateFails hpc
  | closes k =>
    simp only [handle] at hs
    split_ifs at hs with hpc
    cases hs
    exact .closes hpc
  | store k =>
    simp only [handle] at hs
    split_ifs at hs with hpc
    cases hs
    exact .store hpc
  | stop j =>
    simp only [handle] at hs
    by_cases hpc : s.stops j = .unstarted
    · rw [if_pos hpc] at hs
      split at hs
      · rename_i t ht
        split_ifs at hs with hstarted <;> cases hs
        · exact .stop hpc ht hstarted
        · exact .stopReturns hpc (Or.inr (eq_false_of_ne_true hstarted))
      · rename_i ht
        cases hs
        exact .stopReturns hpc (Or.inl ht)
    · rw [if_neg hpc] at hs
      cases hs
  | stopping j =>
    simp only [handle] at hs
    split at hs <;> cases hs
    · exact .disconnected ‹_›
    · exact .stopped ‹_›
  | fails t =>
    simp only [handle] at hs
    split_ifs at hs with hdialed
    cases hs
    exact .fails hdialed

/-! ### What a step keeps -/

structure Inv (s : State) : Prop where
  owned : (custody s).Owned
  started : s.transport ≠ none → s.started = true

/-- A call of `Start` goes on; a transport that it no longer has is closed or in the handle. -/
theorem Inv.setStart {s : State} (h : Inv s) (k : StartId) (pc : StartPc)
    (hholds : (s.starts k).holds = true →
      pc.holds = true ∨ s.closed k = true ∨ s.transport = some k) : Inv (s.setStart k pc) := by
  refine ⟨h.owned.step (fun t ht => Or.inl ht) (fun t ht => ht) (fun t ht => Or.inr (Or.inl ht)) ?_,
    h.started⟩
  intro p t hp
  cases p with
  | inr j => exact Or.inr (Or.inr ⟨.inr j, hp⟩)
  | inl k' =>
    obtain ⟨rfl, hpc⟩ := hp
    by_cases hk : k' = k
    · subst hk
      rcases hholds hpc with hpc' | hclosed | hslot
      · refine Or.inr (Or.inr ⟨.inl k', rfl, ?_⟩)
        dsimp only [State.setStart]
        rw [Function.update_self]
        exact hpc'
      · exact Or.inl hclosed
      · exact Or.inr (Or.inl hslot)
    · refine Or.inr (Or.inr ⟨.inl k', rfl, ?_⟩)
      dsimp only [State.setStart]
      rw [Function.update_of_ne hk]
      exact hpc

/-- A call of `Start` that has no transport in hand goes on. -/
theorem Inv.proceed {s : State} (h : Inv s) {k : StartId} {pc : StartPc} (pc' : StartPc)
    (hpc : s.starts k = pc) (hholds : pc.holds = false) : Inv (s.setStart k pc') := by
  refine h.setStart k pc' fun hholds' => ?_
  rw [hpc, hholds] at hholds'
  cases hholds'

/-- A call of `Stop` goes on; a transport that it no longer has is closed. -/
theorem Inv.setStop {s : State} (h : Inv s) (j : StopId) (pc : StopPc)
    (htaken : ∀ t, (s.stops j).taken = some t → pc.taken = some t ∨ s.closed t = true) :
    Inv (s.setStop j pc) := by
  refine ⟨h.owned.step (fun t ht => Or.inl ht) (fun t ht => ht) (fun t ht => Or.inr (Or.inl ht)) ?_,
    h.started⟩
  intro p t hp
  cases p with
  | inl k => exact Or.inr (Or.inr ⟨.inl k, hp⟩)
  | inr j' =>
    by_cases hj : j' = j
    · subst hj
      rcases htaken t hp with hpc | hclosed
      · refine Or.inr (Or.inr ⟨.inr j', ?_⟩)
        dsimp only [custody, State.setStop]
        rw [Function.update_self]
        exact hpc
      · exact Or.inl hclosed
    · refine Or.inr (Or.inr ⟨.inr j', ?_⟩)
      dsimp only [custody, State.setStop]
      rw [Function.update_of_ne hj]
      exact hp

theorem closed_setClosed {s : State} {t q : StartId} (h : s.closed q = true) :
    (s.setClosed t).closed q = true := by
  dsimp only [State.setClosed]
  by_cases hq : q = t
  · subst hq
    exact Function.update_self ..
  · rw [Function.update_of_ne hq]
    exact h

theorem closed_setClosed_self (s : State) (t : StartId) : (s.setClosed t).closed t = true :=
  Function.update_self ..

theorem Inv.setClosed {s : State} (h : Inv s) (t : StartId) : Inv (s.setClosed t) :=
  ⟨h.owned.step (fun _ hq => Or.inl hq) (fun _ hq => closed_setClosed hq)
    (fun _ hq => Or.inr (Or.inl hq)) fun p _ hp => Or.inr (Or.inr ⟨p, hp⟩), h.started⟩

/-- A transport that is dialed is in the hands of its call. -/
theorem Inv.dialed {s : State} (h : Inv s) (k : StartId) {pc : StartPc} (hpc : pc.holds = true)
    (hbefore : (s.starts k).holds = false) :
    Inv ({ s with dialed := Function.update s.dialed k true }.setStart k pc) := by
  have hset := h.setStart k pc (fun hholds => absurd (hholds.symm.trans hbefore) (by nofun))
  refine ⟨hset.owned.step (fun t ht => ?_) (fun t ht => ht) (fun t ht => Or.inr (Or.inl ht))
    fun p t hp => Or.inr (Or.inr ⟨p, hp⟩), hset.started⟩
  by_cases hk : t = k
  · subst hk
    refine Or.inr (Or.inr (Or.inr ⟨.inl t, rfl, ?_⟩))
    dsimp only [State.setStart]
    rw [Function.update_self]
    exact hpc
  · left
    dsimp only [custody, State.setStart] at ht ⊢
    rwa [Function.update_of_ne hk] at ht

/-- A transport is stored, where there was none that is open. -/
theorem Inv.store {s : State} (h : Inv s) (k : StartId)
    (hc : ∀ t ∈ s.transport, s.closed t = true) :
    Inv ({ s with transport := some k, started := true }.setStart k .returned) := by
  have hstored : Inv { s with transport := some k, started := true } :=
    ⟨h.owned.step (fun t ht => Or.inl ht) (fun t ht => ht) (fun t ht => Or.inl (hc t ht))
      fun p t hp => Or.inr (Or.inr ⟨p, hp⟩), fun _ => rfl⟩
  exact hstored.setStart k .returned fun _ => Or.inr (Or.inr rfl)

/-- A `Stop` takes the transport of the handle. -/
theorem Inv.take {s : State} (h : Inv s) (j : StopId) {t : StartId} (ht : s.transport = some t)
    (hj : (s.stops j).taken = none) :
    Inv ({ s with started := false, transport := none }.setStop j (.disconnect t)) := by
  have hset := h.setStop j (.disconnect t) fun q hq => by
    rw [hj] at hq
    cases hq
  refine ⟨hset.owned.step (fun q hq => Or.inl hq) (fun q hq => hq) (fun q hq => ?_)
    fun p q hp => Or.inr (Or.inr ⟨p, hp⟩), fun hne => absurd rfl hne⟩
  -- what was in the handle is in the hands of the call
  obtain rfl : t = q := Option.some.inj (ht.symm.trans hq)
  refine Or.inr (Or.inr ⟨.inr j, ?_⟩)
  dsimp only [custody, State.setStop]
  rw [Function.update_self]
  rfl

theorem Inv.step {s : State} {i : Input} {o : State × List Empty} (h : Inv s) (hc : StoresOnce s i)
    (hs : Step validate s i o) : Inv o.1 := by
  cases hs with
  | startReturns hpc => exact h.proceed .returned hpc rfl
  | start hpc => exact h.proceed .ensure hpc rfl
  | ensured hpc => exact h.proceed .dial hpc rfl
  | ensureFails hpc => exact h.proceed .returned hpc rfl
  | @dialed k hpc =>
    have hholds : (if validate then StartPc.validate else .store).holds = true := by
      cases validate <;> rfl
    exact h.dialed k hholds (by rw [hpc]; rfl)
  | dialFails hpc => exact h.proceed .returned hpc rfl
  | validated => exact h.setStart _ _ fun _ => Or.inl rfl
  | validateFails => exact h.setStart _ _ fun _ => Or.inl rfl
  | @closes k =>
    exact (h.setClosed k).setStart k _ fun _ => Or.inr (Or.inl (closed_setClosed_self s k))
  | store => exact h.store _ hc
  | @stop j t hpc ht =>
    have htaken : (s.stops j).taken = none := by
      rw [hpc]
      rfl
    exact h.take j ht htaken
  | @stopReturns j hpc =>
    refine h.setStop j _ fun t ht => ?_
    rw [hpc] at ht
    cases ht
  | @disconnected j t hpc =>
    refine h.setStop j _ fun q hq => ?_
    rw [hpc] at hq
    exact Or.inl hq
  | @stopped j t hpc =>
    refine (h.setClosed t).setStop j _ fun q hq => Or.inr ?_
    have hq' : (s.stops j).taken = some q := hq
    rw [hpc] at hq'
    rw [← Option.some.inj hq']
    exact closed_setClosed_self s t
  | fails => exact h.setClosed _

theorem inv {s : State} {tr : List Empty}
    (h : (handle validate).Run (fun s _ i => StoresOnce s i) s tr) : Inv s := by
  refine TransitionSystem.Run.invariant (P := fun s _ => Inv s) ?_ ?_ h
  · exact ⟨fun _ => nofun, fun hne => absurd rfl hne⟩
  · intro s s' tr evs i _ hc hs ih
    exact ih.step hc (step_of_handle hs)

/-! ### After a `Stop` -/

/-- The handle has no transport, and nobody is about to give it one. -/
structure Quiet (s : State) : Prop where
  inv : Inv s
  noStart : NoStart s
  transport : s.transport = none

theorem taken_of_update {stops : StopId → StopPc} {j j₀ : StopId} {pc : StopPc} {t : StartId}
    (hpc : pc.taken = some t → (stops j₀).taken = some t)
    (ht : (Function.update stops j₀ pc j).taken = some t) : (stops j).taken = some t := by
  by_cases hj : j = j₀
  · subst hj
    rw [Function.update_self] at ht
    exact hpc ht
  · rwa [Function.update_of_ne hj] at ht

/-- What a step does when no `Start` is in progress and none begins: a `Stop` that begins has
nothing to take. -/
theorem Quiet.calls {s : State} {i : Input} {o : State × List Empty} (h : Quiet s)
    (hi : i.isStart = false) (hs : Step validate s i o) :
    o.1.starts = s.starts ∧ o.1.transport = none ∧
      ∀ j t, (o.1.stops j).taken = some t → (s.stops j).taken = some t := by
  -- a call of `Start` cannot go on
  have hidle : ∀ {k pc} {P : Prop}, s.starts k = pc → pc.done = false → P := by
    intro k pc P heq hpc
    have hdone := h.noStart k
    rw [heq, hpc] at hdone
    cases hdone
  cases hs with
  | startReturns => cases hi
  | start => cases hi
  | stop _ ht =>
    rw [h.transport] at ht
    cases ht
  | stopReturns => exact ⟨rfl, h.transport, fun j t => taken_of_update fun ht => nomatch ht⟩
  | disconnected hpc =>
    refine ⟨rfl, h.transport, fun j t => taken_of_update fun ht => ?_⟩
    rw [hpc]
    exact ht
  | stopped => exact ⟨rfl, h.transport, fun j t => taken_of_update fun ht => nomatch ht⟩
  | fails => exact ⟨rfl, h.transport, fun j t ht => ht⟩
  | _ hpc => exact hidle hpc rfl

theorem Quiet.step {s : State} {i : Input} {o : State × List Empty} (h : Quiet s)
    (hi : i.isStart = false) (hs : Step validate s i o) : Quiet o.1 := by
  have hc : StoresOnce s i := by
    cases i with
    | store k =>
      intro t ht
      rw [h.transport] at ht
      cases ht
    | _ => trivial
  obtain ⟨hstarts, htransport, -⟩ := h.calls hi hs
  refine ⟨h.inv.step hc hs, ?_, htransport⟩
  unfold NoStart
  rw [hstarts]
  exact h.noStart

/-- A `Stop` leaves no transport in the handle. -/
theorem quiet_of_stop {s : State} {j : StopId} {o : State × List Empty} (h : Inv s)
    (hstart : NoStart s) (hs : Step validate s (.stop j) o) : Quiet o.1 := by
  have hc : StoresOnce s (.stop j) := trivial
  have hinv := h.step hc hs
  cases hs with
  | stop => exact ⟨hinv, hstart, rfl⟩
  | stopReturns _ hnone =>
    refine ⟨hinv, hstart, ?_⟩
    rcases hnone with hnone | hstarted
    · exact hnone
    · by_contra hne
      rw [h.started hne] at hstarted
      cases hstarted

/-- A `Stop` takes a transport for itself only. -/
theorem stops_of_stop {s : State} {j j' : StopId} {o : State × List Empty}
    (hs : Step validate s (.stop j) o) (hj : j' ≠ j) : o.1.stops j' = s.stops j' := by
  cases hs with
  | stop => exact Function.update_of_ne hj ..
  | stopReturns => exact Function.update_of_ne hj ..

/-- No `Start` has anything in hand. -/
theorem NoStart.not_holds {s : State} (h : NoStart s) (k q : StartId) :
    ¬ (custody s).holds (.inl k) q := by
  intro hp
  have hholds : (s.starts k).holds = true := hp.2
  rw [StartPc.holds_of_done (h k)] at hholds
  cases hholds

theorem Idle.noneTaken {s : State} (h : Idle s) : NoneTaken s :=
  fun j => StopPc.taken_of_done (h.2 j)

/-- When the handle has no transport and no `Stop` has one, none is open. -/
theorem Quiet.allClosed {s : State} (h : Quiet s) (hnone : NoneTaken s) : AllClosed s := by
  intro t ht
  rcases h.inv.owned.of_slot_eq_none h.transport ht with hclosed | ⟨p, hp⟩
  · exact hclosed
  · cases p with
    | inl k => exact absurd hp (h.noStart.not_holds k t)
    | inr j =>
      have htaken : (s.stops j).taken = some t := hp
      rw [hnone j] at htaken
      cases htaken

theorem noLeak {s : State} (h : Inv s) : NoLeak validate s := by
  refine ⟨fun hidle t ht => ?_, fun hstart j s₁ evs hs is tr s' hpath hdone => ?_⟩
  · have hhands : ∀ p q, ¬ (custody s).holds p q := by
      intro p q hp
      cases p with
      | inl k => exact hidle.1.not_holds k q hp
      | inr j =>
        have htaken : (s.stops j).taken = some q := hp
        rw [hidle.noneTaken j] at htaken
        cases htaken
    rcases h.owned.of_idle hhands ht with hclosed | hslot
    · exact Or.inl hclosed
    · have hsome : s.transport = some t := hslot
      exact Or.inr ⟨hsome, h.started (by rw [hsome]; nofun)⟩
  · -- what another `Stop` has in hand, it had in hand before
    have hpassed : Quiet s' ∧
        ∀ j', j' ≠ j → ∀ t, (s'.stops j').taken = some t → (s.stops j').taken = some t := by
      refine TransitionSystem.Path.invariant
        (P := fun _ _ s' => Quiet s' ∧
          ∀ j', j' ≠ j → ∀ t, (s'.stops j').taken = some t → (s.stops j').taken = some t)
        ⟨quiet_of_stop h hstart (step_of_handle hs), fun j' hj t ht => ?_⟩
        (fun _ hc hs ih => ?_) hpath
      · rwa [← stops_of_stop (step_of_handle hs) hj]
      · obtain ⟨hquiet, hhands⟩ := ih
        have hcalls := hquiet.calls hc (step_of_handle hs)
        exact ⟨hquiet.step hc (step_of_handle hs),
          fun j' hj t ht => hhands j' hj t (hcalls.2.2 j' t ht)⟩
    obtain ⟨hquiet, hhands⟩ := hpassed
    rcases hdone with hidle | ⟨hdone, hnone⟩
    · exact hquiet.allClosed hidle.noneTaken
    · refine hquiet.allClosed fun j' => ?_
      by_cases hj : j' = j
      · rw [hj]
        exact StopPc.taken_of_done hdone
      · by_contra htaken
        obtain ⟨t, ht⟩ := Option.ne_none_iff_exists'.mp htaken
        have hbefore := hhands j' hj t ht
        rw [hnone j'] at hbefore
        cases hbefore

end Multifrost.Go.Handle
