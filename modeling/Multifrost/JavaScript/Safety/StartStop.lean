import Multifrost.JavaScript.Safety.HandleStep
import Multifrost.Lib.Custody

/-!
# The transports of a JavaScript handle under concurrent `start` and `stop`

As in Go, `start` looks for a transport before its awaits and assigns its own after them, whatever
the handle has by then.  In a run in which no `start` finds an open transport where it assigns its
own, every transport is closed, in the handle, or in the hands of a call.
-/

namespace Multifrost.JavaScript.Handle

variable {cfg : Config}

/-! ### Calls and their transports -/

def StartPc.done : StartPc → Bool
  | .unstarted | .returned | .thrown => true
  | _ => false

/-- The call has a transport that it has not assigned. -/
def StartPc.holds : StartPc → Bool
  | .attached | .connected => true
  | _ => false

def StopPc.done : StopPc → Bool
  | .unstarted | .returned => true
  | _ => false

/-- The transport that the call has taken and not closed. -/
def StopPc.taken : StopPc → Option StartId
  | .send t => some t
  | _ => none

theorem StartPc.holds_of_done {pc : StartPc} (h : pc.done = true) : pc.holds = false := by
  cases pc <;> first
    | rfl
    | cases h

theorem StopPc.taken_of_done {pc : StopPc} (h : pc.done = true) : pc.taken = none := by
  cases pc <;> first
    | rfl
    | cases h

def custody (s : State) : Custody StartId (StartId ⊕ Stopper) where
  acquired t := (s.transports t).listening = true
  closed t := (s.transports t).closed = true
  slot := s.transport
  holds
    | .inl k, t => k = t ∧ (s.starts k).holds = true
    | .inr w, t => (s.stops w).taken = some t

/-- No call of `start` is in progress. -/
def NoStart (s : State) : Prop := ∀ k, (s.starts k).done = true

/-- No call is in progress. -/
def Idle (s : State) : Prop := NoStart s ∧ ∀ n, (s.stops (.user n)).done = true

def Input.isStart : Input → Bool
  | .start _ => true
  | _ => false

/-- No call of `stop` has a transport in hand. -/
def NoneTaken (s : State) : Prop := ∀ w, (s.stops w).taken = none

def AllClosed (s : State) : Prop :=
  ∀ t, (s.transports t).listening = true → (s.transports t).closed = true

/-- When no call is in progress, a transport is closed or that of the handle.  After a `stop` that
begins here with no `start` in progress, and before another one begins, none is open when no call is
in progress; if no earlier `stop` had one in hand, none is open as soon as this one has returned. -/
def NoLeak (cfg : Config) (s : State) : Prop :=
  (Idle s → ∀ t, (s.transports t).listening = true →
    (s.transports t).closed = true ∨ s.transport = some t ∧ s.started = true) ∧
  (NoStart s → ∀ n s₁ evs, (handle cfg).step (.stop n) s = some (s₁, evs) →
    ∀ is tr s', (handle cfg).Path (fun _ i => i.isStart = false) s₁ is tr s' →
      Idle s' ∨ (s'.stops (.user n)).done = true ∧ NoneTaken s → AllClosed s')

/-- A `start` assigns its transport where there is none, or one that is closed. -/
def AssignsOnce (s : State) : Input → Prop
  | .assigned _ => ∀ t ∈ s.transport, (s.transports t).closed = true
  | _ => True

instance (s : State) : ∀ i, Decidable (AssignsOnce s i)
  | .assigned _ => inferInstanceAs (Decidable (∀ t ∈ s.transport, _ = _))
  | .start _ | .bootstrapped .. | .registered .. | .activated _ | .validated .. | .startThrows _
  | .stop _ | .stopSent _ | .stopClosed _ | .message .. | .socketClosed _ | .socketError _
  | .request .. | .requestSent .. | .timeout _ => inferInstanceAs (Decidable True)

/-! ### Requests do not matter -/

/-- The two states differ in their requests at most. -/
def Same (s s' : State) : Prop :=
  s'.transport = s.transport ∧ s'.started = s.started ∧ s'.starts = s.starts ∧ s'.stops = s.stops ∧
    s'.transports = s.transports

theorem Same.trans {s₁ s₂ s₃ : State} (h : Same s₁ s₂) (h' : Same s₂ s₃) : Same s₁ s₃ :=
  ⟨h'.1.trans h.1, h'.2.1.trans h.2.1, h'.2.2.1.trans h.2.2.1, h'.2.2.2.1.trans h.2.2.2.1,
    h'.2.2.2.2.trans h.2.2.2.2⟩

theorem same_requests (s : State) (pendingRequests : AList fun _ : String => ReqId)
    (requests : ReqId → Request) :
    Same s { s with pendingRequests := pendingRequests, requests := requests } :=
  ⟨rfl, rfl, rfl, rfl, rfl⟩

theorem same_reject (r : ReqId) (cause : Cause) (s : State) : Same s (reject r cause s).1 := by
  unfold reject
  split_ifs <;> exact same_requests s _ _

theorem same_resolve (r : ReqId) (s : State) : Same s (resolve r s) := by
  unfold resolve
  split_ifs <;> exact same_requests s _ _

theorem same_rejectEach (cause : Cause) (rs : List ReqId) :
    ∀ s, Same s (rejectEach cause rs s).1 := by
  induction rs with
  | nil => exact fun s => same_requests s _ _
  | cons r rs ih =>
    intro s
    have hcleared : Same s (clearTimeout r s) := same_requests s _ _
    exact (hcleared.trans (same_reject r cause _)).trans (ih _)

theorem same_rejectAllPending (cause : Cause) (s : State) : Same s (rejectAllPending cause s).1 :=
  (same_rejectEach cause _ s).trans (same_requests _ _ _)

/-- A pending request has been taken out. -/
theorem same_cleared (r : ReqId) (msgId : String) (s : State) :
    Same s (clearTimeout r { s with pendingRequests := s.pendingRequests.erase msgId }) :=
  same_requests s _ _

theorem same_resolvePending (msgId : String) (bodyBytes : Bytes) (s : State) :
    Same s (resolvePending cfg msgId bodyBytes s).1 := by
  unfold resolvePending
  split
  · exact same_requests s _ _
  · rename_i r _
    have hcleared := same_cleared r msgId s
    dsimp only
    split_ifs
    · exact hcleared.trans (same_resolve r _)
    · exact hcleared.trans (same_reject r _ _)

theorem same_rejectPending (msgId : String) (bodyBytes : Bytes) (s : State) :
    Same s (rejectPending cfg msgId bodyBytes s).1 := by
  unfold rejectPending
  split
  · exact same_requests s _ _
  · rename_i r _
    have hcleared := same_cleared r msgId s
    dsimp only
    split_ifs
    · exact hcleared.trans (same_reject r _ _)
    · exact hcleared

theorem same_sendRequest (r : ReqId) (encoded : Bool) (s : State) :
    Same s (sendRequest cfg r encoded s).1 := by
  unfold sendRequest
  split
  · split_ifs
    · exact same_requests s _ _
    · exact (same_requests s _ _).trans (same_reject r _ _)
    · exact same_requests s _ _
  · exact same_requests s _ _

/-! ### Events of sockets -/

/-- The calls are where they were, and the handle has the transport that it had. -/
def SameCalls (s s' : State) : Prop :=
  s'.transport = s.transport ∧ s'.starts = s.starts ∧ s'.stops = s.stops

theorem Same.calls {s s' : State} (h : Same s s') : SameCalls s s' := ⟨h.1, h.2.2.1, h.2.2.2.1⟩

theorem sameCalls_closeTransport (t : StartId) (s : State) : SameCalls s (closeTransport t s) := by
  unfold closeTransport
  split_ifs <;> exact ⟨rfl, rfl, rfl⟩

theorem sameCalls_failTransport (t : StartId) (s : State) : SameCalls s (failTransport t s).1 := by
  unfold failTransport
  split_ifs
  · exact ⟨rfl, rfl, rfl⟩
  · exact (same_rejectAllPending (.closed t) (s.setTransport t _)).calls

theorem sameCalls_message (t : StartId) (incoming : Incoming) (s : State) :
    SameCalls s (message cfg t incoming s).1 := by
  unfold message
  split
  · exact sameCalls_failTransport t s
  · split
    · exact sameCalls_failTransport t s
    · split_ifs
      · exact (same_resolvePending _ _ s).calls
      · exact (same_rejectPending _ _ s).calls
      · exact ⟨rfl, rfl, rfl⟩

/-! ### Steps -/

structure Inv (s : State) : Prop where
  owned : (custody s).Owned
  started : s.transport ≠ none → s.started = true
  /-- the `stop` of a failed `start` is awaited in it -/
  inner : ∀ k, s.starts k ≠ .stop → (s.stops (.start k)).done = true

theorem Inv.of_same {s s' : State} (h : Inv s) (hsame : Same s s') : Inv s' := by
  obtain ⟨htransport, hstarted, hstarts, hstops, htransports⟩ := hsame
  have hcustody : custody s' = custody s := by
    unfold custody
    rw [htransport, hstarts, hstops, htransports]
  refine ⟨hcustody ▸ h.owned, ?_, ?_⟩
  · rw [htransport, hstarted]
    exact h.started
  · rw [hstarts, hstops]
    exact h.inner

/-- A call of `start` goes on; a transport that it no longer has is closed or in the handle. -/
theorem Inv.setStart {s : State} (h : Inv s) (k : StartId) (pc : StartPc)
    (hholds : (s.starts k).holds = true →
      pc.holds = true ∨ (s.transports k).closed = true ∨ s.transport = some k)
    (hinner : pc ≠ .stop → (s.stops (.start k)).done = true) : Inv (s.setStart k pc) := by
  refine ⟨h.owned.step (fun t ht => Or.inl ht) (fun t ht => ht) (fun t ht => Or.inr (Or.inl ht)) ?_,
    h.started, ?_⟩
  · intro p t hp
    cases p with
    | inr w => exact Or.inr (Or.inr ⟨.inr w, hp⟩)
    | inl k' =>
      obtain ⟨rfl, hpc⟩ := hp
      by_cases hk : k' = k
      · subst hk
        rcases hholds hpc with hpc' | hclosed | hslot
        · refine Or.inr (Or.inr ⟨.inl k', rfl, ?_⟩)
          dsimp only [State.setStart]
          rw [Function.update_self]
          exact hpc'
        · exact Or.inl hclosed
        · exact Or.inr (Or.inl hslot)
      · refine Or.inr (Or.inr ⟨.inl k', rfl, ?_⟩)
        dsimp only [State.setStart]
        rw [Function.update_of_ne hk]
        exact hpc
  · intro k' hne
    dsimp only [State.setStart] at hne ⊢
    by_cases hk : k' = k
    · subst hk
      rw [Function.update_self] at hne
      exact hinner hne
    · rw [Function.update_of_ne hk] at hne
      exact h.inner k' hne

/-- A call of `start` that has no transport in hand goes on. -/
theorem Inv.proceed {s : State} (h : Inv s) {k : StartId} {pc : StartPc} (pc' : StartPc)
    (hpc : s.starts k = pc) (hholds : pc.holds = false) (hne : pc ≠ .stop) :
    Inv (s.setStart k pc') := by
  subst hpc
  refine h.setStart k pc' (fun hholds' => ?_) fun _ => h.inner k hne
  rw [hholds] at hholds'
  cases hholds'

/-- A call of `stop` goes on; a transport that it no longer has is closed. -/
theorem Inv.setStop {s : State} (h : Inv s) (w : Stopper) (pc : StopPc)
    (htaken : ∀ t, (s.stops w).taken = some t → pc.taken = some t ∨ (s.transports t).closed = true)
    (hinner : ∀ k, w = .start k → s.starts k ≠ .stop → pc.done = true) : Inv (s.setStop w pc) := by
  refine ⟨h.owned.step (fun t ht => Or.inl ht) (fun t ht => ht) (fun t ht => Or.inr (Or.inl ht)) ?_,
    h.started, ?_⟩
  · intro p t hp
    cases p with
    | inl k => exact Or.inr (Or.inr ⟨.inl k, hp⟩)
    | inr w' =>
      by_cases hw : w' = w
      · subst hw
        rcases htaken t hp with hpc | hclosed
        · refine Or.inr (Or.inr ⟨.inr w', ?_⟩)
          dsimp only [custody, State.setStop]
          rw [Function.update_self]
          exact hpc
        · exact Or.inl hclosed
      · refine Or.inr (Or.inr ⟨.inr w', ?_⟩)
        dsimp only [custody, State.setStop]
        rw [Function.update_of_ne hw]
        exact hp
  · intro k hne
    dsimp only [State.setStop]
    by_cases hw : Stopper.start k = w
    · rw [← hw, Function.update_self]
      exact hinner k hw.symm hne
    · rw [Function.update_of_ne hw]
      exact h.inner k hne

/-- What becomes of a transport does not open it. -/
theorem Inv.setTransport {s : State} (h : Inv s) (t : StartId) (f : Transport → Transport)
    (hlistening : (f (s.transports t)).listening = (s.transports t).listening)
    (hclosed : (s.transports t).closed = true → (f (s.transports t)).closed = true) :
    Inv (s.setTransport t f) := by
  refine ⟨h.owned.step (fun q hq => Or.inl ?_) (fun q hq => ?_) (fun q hq => Or.inr (Or.inl hq))
    fun p q hp => Or.inr (Or.inr ⟨p, hp⟩), h.started, h.inner⟩
  · dsimp only [custody, State.setTransport] at hq ⊢
    by_cases hqt : q = t
    · subst hqt
      rw [Function.update_self, hlistening] at hq
      exact hq
    · rwa [Function.update_of_ne hqt] at hq
  · dsimp only [custody, State.setTransport] at hq ⊢
    by_cases hqt : q = t
    · subst hqt
      rw [Function.update_self]
      exact hclosed hq
    · rwa [Function.update_of_ne hqt]

/-- A transport that is registered is in the hands of its call. -/
theorem Inv.registered {s : State} (h : Inv s) {k : StartId} (hpc : s.starts k = .connect) :
    Inv ((s.setTransport k fun transport => { transport with listening := true }).setStart k
      .attached) := by
  have hset : Inv (s.setStart k .attached) := h.proceed .attached hpc rfl nofun
  refine ⟨hset.owned.step (fun t ht => ?_) (fun t ht => ?_) (fun t ht => Or.inr (Or.inl ht))
    fun p t hp => Or.inr (Or.inr ⟨p, hp⟩), hset.started, hset.inner⟩
  · by_cases hk : t = k
    · subst hk
      refine Or.inr (Or.inr (Or.inr ⟨.inl t, rfl, ?_⟩))
      dsimp only [State.setStart]
      rw [Function.update_self]
      rfl
    · left
      dsimp only [custody, State.setStart, State.setTransport] at ht ⊢
      rwa [Function.update_of_ne hk] at ht
  · dsimp only [custody, State.setStart, State.setTransport] at ht ⊢
    by_cases hk : t = k
    · subst hk
      rw [Function.update_self]
      exact ht
    · rwa [Function.update_of_ne hk]

/-- A transport is assigned, where there was none that is open. -/
theorem Inv.assigned {s : State} (h : Inv s) {k : StartId} (pc : StartPc)
    (hc : ∀ t ∈ s.transport, (s.transports t).closed = true) (hpc : s.starts k = .connected) :
    Inv ({ s with transport := some k, started := true }.setStart k pc) := by
  have hassigned : Inv { s with transport := some k, started := true } :=
    ⟨h.owned.step (fun t ht => Or.inl ht) (fun t ht => ht) (fun t ht => Or.inl (hc t ht))
      fun p t hp => Or.inr (Or.inr ⟨p, hp⟩), fun _ => rfl, h.inner⟩
  refine hassigned.setStart k pc (fun _ => Or.inr (Or.inr rfl)) fun _ => h.inner k ?_
  rw [hpc]
  nofun

/-- A `stop` takes the transport of the handle. -/
theorem Inv.beginStop {s : State} (h : Inv s) {w : Stopper} (hw : (s.stops w).taken = none)
    (hinner : ∀ k, w = .start k → s.starts k = .stop) : Inv (beginStop w s).1 := by
  have htaken : ∀ {pc : StopPc} t, (s.stops w).taken = some t →
      pc.taken = some t ∨ (s.transports t).closed = true := by
    intro pc t ht
    rw [hw] at ht
    cases ht
  have hstart : ∀ {pc : StopPc} k, w = .start k → s.starts k ≠ .stop → pc.done = true :=
    fun k hk hne => absurd (hinner k hk) hne
  -- what was in the handle is closed or in the hands of the call
  have hpass : ∀ pc : StopPc,
      (∀ t ∈ s.transport, pc.taken = some t ∨ (s.transports t).closed = true) →
      Inv ({ s with transport := none, started := false }.setStop w pc) := by
    intro pc hpc
    have hset : Inv (s.setStop w pc) := h.setStop w pc htaken hstart
    refine ⟨hset.owned.step (fun q hq => Or.inl hq) (fun q hq => hq) (fun q hq => ?_)
      fun p q hp => Or.inr (Or.inr ⟨p, hp⟩), fun hne => absurd rfl hne, hset.inner⟩
    rcases hpc q hq with htaken' | hclosed
    · refine Or.inr (Or.inr ⟨.inr w, ?_⟩)
      dsimp only [custody, State.setStop]
      rw [Function.update_self]
      exact htaken'
    · exact Or.inl hclosed
  unfold Handle.beginStop
  cases ht : s.transport with
  | none =>
    have hreturned := hpass .returned (fun t hmem => by rw [ht] at hmem; cases hmem)
    have hsame := same_rejectAllPending (.stop w) { s with transport := none, started := false }
    obtain ⟨htransport, hstarted, hstarts, hstops, htransports⟩ := hsame
    refine hreturned.of_same ⟨htransport, hstarted, hstarts, ?_, htransports⟩
    dsimp only [State.setStop]
    rw [hstops]
  | some t =>
    dsimp only
    split_ifs with hclosed
    · refine hpass (.close t) fun q hq => Or.inr ?_
      rw [ht] at hq
      cases hq
      exact hclosed
    · refine hpass (.send t) fun q hq => Or.inl ?_
      rw [ht] at hq
      cases hq
      rfl

theorem Inv.failStart {s : State} (h : Inv s) {k : StartId} {pc : StartPc} (hpc : s.starts k = pc)
    (hholds : pc.holds = false) (hne : pc ≠ .stop) : Inv (failStart k s).1 := by
  have hset : Inv (s.setStart k .stop) := h.proceed .stop hpc hholds hne
  have hstops : (s.stops (.start k)).done = true := h.inner k (by rw [hpc]; exact hne)
  refine hset.beginStop (StopPc.taken_of_done hstops) fun k' hk => ?_
  cases hk
  exact Function.update_self ..

theorem Inv.closeTransport {s : State} (h : Inv s) (t : StartId) : Inv (closeTransport t s) := by
  unfold Handle.closeTransport
  split_ifs
  · exact h
  · exact h.setTransport t _ rfl fun _ => rfl

theorem closed_closeTransport (t : StartId) (s : State) :
    ((closeTransport t s).transports t).closed = true := by
  unfold closeTransport
  split_ifs with hclosed
  · exact hclosed
  · dsimp only [State.setTransport]
    rw [Function.update_self]

theorem Inv.failTransport {s : State} (h : Inv s) (t : StartId) : Inv (failTransport t s).1 := by
  unfold Handle.failTransport
  split_ifs
  · exact h
  · exact (h.setTransport t _ rfl fun _ => rfl).of_same (same_rejectAllPending (.closed t) _)

theorem Inv.message {s : State} (h : Inv s) (t : StartId) (incoming : Incoming) :
    Inv (message cfg t incoming s).1 := by
  unfold Handle.message
  split
  · exact h.failTransport t
  · split
    · exact h.failTransport t
    · split_ifs
      · exact h.of_same (same_resolvePending _ _ s)
      · exact h.of_same (same_rejectPending _ _ s)
      · exact h

theorem Inv.step {s : State} {i : Input} {o : State × List Event} (h : Inv s) (hc : AssignsOnce s i)
    (hs : Step cfg s i o) : Inv o.1 := by
  cases hs with
  | startReturns hpc => exact h.proceed .returned hpc rfl nofun
  | start hpc => exact h.proceed .bootstrap hpc rfl nofun
  | bootstrapped hpc =>
    have hset : Inv { s with callerPeerId := true } := ⟨h.owned, h.started, h.inner⟩
    exact hset.proceed .connect hpc rfl nofun
  | bootstrapThrows hpc => exact h.proceed .thrown hpc rfl nofun
  | registered hpc => exact h.registered hpc
  | connectThrows hpc => exact h.failStart hpc rfl nofun
  | @activated k hpc =>
    have hset := h.setTransport k (fun transport => { transport with active := true }) rfl id
    have hinner : (s.stops (.start k)).done = true := h.inner k (by rw [hpc]; nofun)
    exact hset.setStart k .connected (fun _ => Or.inl rfl) fun _ => hinner
  | assigned hpc => exact h.assigned _ hc hpc
  | validated hpc => exact h.proceed .returned hpc rfl nofun
  | validateThrows hpc => exact h.failStart hpc rfl nofun
  | @startThrows k hpc hstop =>
    refine h.setStart k .thrown (fun hholds => ?_) fun _ => ?_
    · rw [hpc] at hholds
      cases hholds
    · rw [hstop]
      rfl
  | stop hpc => exact h.beginStop (by rw [hpc]; rfl) nofun
  | @stopSent w t hpc =>
    have hcalls := sameCalls_closeTransport t s
    refine (h.closeTransport t).setStop w (.close t) (fun q hq => Or.inr ?_) ?_
    · rw [hcalls.2.2, hpc] at hq
      rw [← Option.some.inj hq]
      exact closed_closeTransport t s
    · intro k hw hne
      subst hw
      rw [hcalls.2.1] at hne
      have hdone := h.inner k hne
      rw [hpc] at hdone
      cases hdone
  | @stopClosed w t hpc =>
    have hsame := same_rejectAllPending (.stop w) s
    refine (h.of_same hsame).setStop w .returned (fun q hq => ?_) fun _ _ _ => rfl
    rw [hsame.2.2.2.1, hpc] at hq
    cases hq
  | message => exact h.message _ _
  | @socketClosed t =>
    have hset := h.setTransport t
      (fun transport => { transport with closed := true, active := false, closeEmitted := true })
      rfl fun _ => rfl
    exact hset.of_same (same_rejectAllPending (.closed t) _)
  | socketError => exact h.failTransport _
  | request => exact h.of_same (same_sendRequest _ _ s)
  | requestSent => exact h.of_same (same_requests s _ _)
  | sendFails => exact h.of_same ((same_requests s _ _).trans (same_reject _ _ _))
  | timeout => exact h.of_same ((same_requests s _ _).trans (same_reject _ _ _))

theorem inv {s : State} {tr : List Event}
    (h : (handle cfg).Run (fun s _ i => AssignsOnce s i) s tr) : Inv s := by
  refine TransitionSystem.Run.invariant (P := fun s _ => Inv s) ?_ ?_ h
  · exact ⟨fun _ => nofun, fun hne => absurd rfl hne, fun _ _ => rfl⟩
  · intro s s' tr evs i _ hc hs ih
    exact ih.step hc (step_of_handle hs)

/-! ### After a `stop` -/

/-- The handle has no transport, and nobody is about to give it one. -/
structure Quiet (s : State) : Prop where
  inv : Inv s
  noStart : NoStart s
  transport : s.transport = none

theorem beginStop_calls (w : Stopper) (s : State) :
    (beginStop w s).1.starts = s.starts ∧ (beginStop w s).1.transport = none := by
  unfold beginStop
  split
  · have hsame := same_rejectAllPending (.stop w) { s with transport := none, started := false }
    exact ⟨hsame.2.2.1, hsame.1⟩
  · split_ifs <;> exact ⟨rfl, rfl⟩

/-- A `stop` takes a transport for itself only, and only what is in the handle. -/
theorem beginStop_stops (w : Stopper) (s : State) :
    ∃ pc : StopPc, (beginStop w s).1.stops = Function.update s.stops w pc ∧
      (s.transport = none → pc.taken = none) := by
  unfold beginStop
  cases ht : s.transport with
  | none =>
    have hsame := same_rejectAllPending (.stop w) { s with transport := none, started := false }
    refine ⟨.returned, ?_, fun _ => rfl⟩
    dsimp only [State.setStop]
    rw [hsame.2.2.2.1]
  | some t =>
    dsimp only
    split_ifs
    · exact ⟨.close t, rfl, nofun⟩
    · exact ⟨.send t, rfl, nofun⟩

theorem taken_of_update {stops : Stopper → StopPc} {w w₀ : Stopper} {pc : StopPc} {t : StartId}
    (hpc : pc.taken = none) (ht : (Function.update stops w₀ pc w).taken = some t) :
    (stops w).taken = some t := by
  by_cases hw : w = w₀
  · subst hw
    rw [Function.update_self, hpc] at ht
    cases ht
  · rwa [Function.update_of_ne hw] at ht

/-- What a step does when no `start` is in progress and none begins: a `stop` that begins has
nothing to take. -/
theorem Quiet.calls {s : State} {i : Input} {o : State × List Event} (h : Quiet s)
    (hi : i.isStart = false) (hs : Step cfg s i o) :
    o.1.starts = s.starts ∧ o.1.transport = none ∧
      ∀ w t, (o.1.stops w).taken = some t → (s.stops w).taken = some t := by
  -- a call of `start` cannot go on
  have hidle : ∀ {k pc} {P : Prop}, s.starts k = pc → pc.done = false → P := by
    intro k pc P heq hpc
    have hdone := h.noStart k
    rw [heq, hpc] at hdone
    cases hdone
  have hsame : ∀ {s' : State}, SameCalls s s' → s'.starts = s.starts ∧ s'.transport = none ∧
      ∀ w t, (s'.stops w).taken = some t → (s.stops w).taken = some t := by
    intro s' hcalls
    refine ⟨hcalls.2.1, hcalls.1.trans h.transport, fun w t ht => ?_⟩
    rwa [hcalls.2.2] at ht
  cases hs with
  | startReturns => cases hi
  | start => cases hi
  | @stop n hpc =>
    obtain ⟨hstarts, htransport⟩ := beginStop_calls (.user n) s
    obtain ⟨pc, hstops, htaken⟩ := beginStop_stops (.user n) s
    refine ⟨hstarts, htransport, fun w t ht => ?_⟩
    rw [hstops] at ht
    exact taken_of_update (htaken h.transport) ht
  | @stopSent w₀ q =>
    obtain ⟨hstarts, htransport, hstops⟩ := hsame (sameCalls_closeTransport q s)
    exact ⟨hstarts, htransport, fun w t ht => hstops w t (taken_of_update rfl ht)⟩
  | @stopClosed w₀ =>
    obtain ⟨hstarts, htransport, hstops⟩ := hsame (same_rejectAllPending (.stop w₀) s).calls
    exact ⟨hstarts, htransport, fun w t ht => hstops w t (taken_of_update rfl ht)⟩
  | message => exact hsame (sameCalls_message _ _ s)
  | @socketClosed t => exact hsame (same_rejectAllPending (.closed t) (s.setTransport t _)).calls
  | socketError => exact hsame (sameCalls_failTransport _ s)
  | request => exact hsame (same_sendRequest _ _ s).calls
  | requestSent => exact hsame (same_requests s _ _).calls
  | sendFails => exact hsame ((same_requests s _ _).trans (same_reject _ _ _)).calls
  | timeout => exact hsame ((same_requests s _ _).trans (same_reject _ _ _)).calls
  | _ hpc => exact hidle hpc rfl

theorem Quiet.step {s : State} {i : Input} {o : State × List Event} (h : Quiet s)
    (hi : i.isStart = false) (hs : Step cfg s i o) : Quiet o.1 := by
  have hc : AssignsOnce s i := by
    cases i with
    | assigned k =>
      intro t ht
      rw [h.transport] at ht
      cases ht
    | _ => trivial
  obtain ⟨hstarts, htransport, -⟩ := h.calls hi hs
  refine ⟨h.inv.step hc hs, ?_, htransport⟩
  unfold NoStart
  rw [hstarts]
  exact h.noStart

/-- A `stop` leaves no transport in the handle. -/
theorem quiet_of_stop {s : State} {n : Nat} {o : State × List Event} (h : Inv s)
    (hstart : NoStart s) (hs : Step cfg s (.stop n) o) : Quiet o.1 := by
  have hc : AssignsOnce s (.stop n) := trivial
  have hinv := h.step hc hs
  cases hs
  obtain ⟨hstarts, htransport⟩ := beginStop_calls (.user n) s
  refine ⟨hinv, ?_, htransport⟩
  unfold NoStart
  rw [hstarts]
  exact hstart

/-- A `stop` takes a transport for itself only. -/
theorem stops_of_stop {s : State} {n : Nat} {w : Stopper} {o : State × List Event}
    (hs : Step cfg s (.stop n) o) (hw : w ≠ .user n) : o.1.stops w = s.stops w := by
  cases hs
  obtain ⟨pc, hstops, -⟩ := beginStop_stops (.user n) s
  rw [hstops, Function.update_of_ne hw]

/-- No `start` has anything in hand. -/
theorem NoStart.not_holds {s : State} (h : NoStart s) (k q : StartId) :
    ¬ (custody s).holds (.inl k) q := by
  intro hp
  have hholds : (s.starts k).holds = true := hp.2
  rw [StartPc.holds_of_done (h k)] at hholds
  cases hholds

theorem Inv.noneTaken {s : State} (h : Inv s) (hidle : Idle s) : NoneTaken s := by
  intro w
  cases w with
  | user n => exact StopPc.taken_of_done (hidle.2 n)
  | start k =>
    refine StopPc.taken_of_done (h.inner k fun hstop => ?_)
    have hdone := hidle.1 k
    rw [hstop] at hdone
    cases hdone

/-- When the handle has no transport and no `stop` has one, none is open. -/
theorem Quiet.allClosed {s : State} (h : Quiet s) (hnone : NoneTaken s) : AllClosed s := by
  intro t ht
  rcases h.inv.owned.of_slot_eq_none h.transport ht with hclosed | ⟨p, hp⟩
  · exact hclosed
  · cases p with
    | inl k => exact absurd hp (h.noStart.not_holds k t)
    | inr w =>
      have htaken : (s.stops w).taken = some t := hp
      rw [hnone w] at htaken
      cases htaken

theorem noLeak {s : State} (h : Inv s) : NoLeak cfg s := by
  refine ⟨fun hidle t ht => ?_, fun hstart n s₁ evs hs is tr s' hpath hdone => ?_⟩
  · have hhands : ∀ p q, ¬ (custody s).holds p q := by
      intro p q hp
      cases p with
      | inl k => exact hidle.1.not_holds k q hp
      | inr w =>
        have htaken : (s.stops w).taken = some q := hp
        rw [h.noneTaken hidle w] at htaken
        cases htaken
    rcases h.owned.of_idle hhands ht with hclosed | hslot
    · exact Or.inl hclosed
    · have hsome : s.transport = some t := hslot
      exact Or.inr ⟨hsome, h.started (by rw [hsome]; nofun)⟩
  · -- what another `stop` has in hand, it had in hand before
    have hpassed : Quiet s' ∧
        ∀ w, w ≠ .user n → ∀ t, (s'.stops w).taken = some t → (s.stops w).taken = some t := by
      refine TransitionSystem.Path.invariant
        (P := fun _ _ s' => Quiet s' ∧
          ∀ w, w ≠ .user n → ∀ t, (s'.stops w).taken = some t → (s.stops w).taken = some t)
        ⟨quiet_of_stop h hstart (step_of_handle hs), fun w hw t ht => ?_⟩
        (fun _ hc hs ih => ?_) hpath
      · rwa [← stops_of_stop (step_of_handle hs) hw]
      · obtain ⟨hquiet, hhands⟩ := ih
        have hcalls := hquiet.calls hc (step_of_handle hs)
        exact ⟨hquiet.step hc (step_of_handle hs),
          fun w hw t ht => hhands w hw t (hcalls.2.2 w t ht)⟩
    obtain ⟨hquiet, hhands⟩ := hpassed
    rcases hdone with hidle | ⟨hdone, hnone⟩
    · exact hquiet.allClosed (hquiet.inv.noneTaken hidle)
    · refine hquiet.allClosed fun w => ?_
      by_cases hw : w = .user n
      · rw [hw]
        exact StopPc.taken_of_done hdone
      · by_contra htaken
        obtain ⟨t, ht⟩ := Option.ne_none_iff_exists'.mp htaken
        have hbefore := hhands w hw t ht
        rw [hnone w] at hbefore
        cases hbefore

end Multifrost.JavaScript.Handle
