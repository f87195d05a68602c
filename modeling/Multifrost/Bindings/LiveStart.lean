import Multifrost.Golang.Safety.StartStop
import Multifrost.JavaScript.Safety.Restart
import Multifrost.JavaScript.Safety.StartStop
import Multifrost.Php.Safety.Start

/-!
# The transport of a handle that has started

A second `start` of a handle does nothing.  It finds that out by the flag `started`, in Go and PHP,
and by the flag and the presence of a transport, in JavaScript; nobody asks whether that transport
is still open.  A handle whose connection was lost therefore reports a successful start and stays
without a connection.  When no `start` is called in that situation, a start that succeeds leaves the
handle with a transport that was open when it was called or that it has dialed itself.
-/

namespace Multifrost

/-! ### Go -/

namespace Go.Handle

variable {validate : Bool}

/-- `Start` is not called on a started handle whose transport is closed. -/
def StartsOpen (s : State) : Input → Prop
  | .start _ => s.started = true → ∀ t ∈ s.transport, s.closed t = false
  | .ensured .. | .dialed .. | .validated .. | .closes _ | .store _ | .stop _ | .stopping _
  | .fails _ => True

instance (s : State) : ∀ i, Decidable (StartsOpen s i)
  | .start _ => inferInstanceAs (Decidable (_ = _ → ∀ t ∈ s.transport, _ = _))
  | .ensured .. | .dialed .. | .validated .. | .closes _ | .store _ | .stop _ | .stopping _
  | .fails _ => inferInstanceAs (Decidable True)

/-- The handle has a transport that was not closed in `s₀`, or that the call `k` has dialed. -/
def Live (s₀ : State) (k : StartId) (s : State) : Prop :=
  ∃ t, s.transport = some t ∧ (s₀.closed t = false ∨ t = k ∧ s.dialed t = true)

/-- A call of `Start` that begins here under the condition `C`, and returns without an error while
all steps meet it, leaves the handle with a live transport. -/
def StartsLive (validate : Bool) (C : State → Input → Prop) (s : State) : Prop :=
  ∀ k s₁ evs, C s (.start k) → (handle validate).step (.start k) s = some (s₁, evs) →
    (s₁.starts k = .returned → Live s k s₁) ∧
    ∀ is tr s₂ s₃ evs, (handle validate).Path C s₁ is tr s₂ →
      (handle validate).step (.store k) s₂ = some (s₃, evs) → Live s k s₃

/-- The two fields of the handle, and the transports that are about to be stored. -/
structure Assigned (s : State) : Prop where
  transport : s.started = true → s.transport ≠ none
  dialed : ∀ k, s.starts k = .validate ∨ s.starts k = .store → s.dialed k = true

theorem Assigned.setStart {s : State} (h : Assigned s) {k : StartId} {pc : StartPc}
    (hpc : pc = .validate ∨ pc = .store → s.dialed k = true) : Assigned (s.setStart k pc) := by
  refine ⟨h.transport, fun q hq => ?_⟩
  dsimp only [State.setStart] at hq ⊢
  by_cases hqk : q = k
  · subst hqk
    rw [Function.update_self] at hq
    exact hpc hq
  · rw [Function.update_of_ne hqk] at hq
    exact h.dialed q hq

/-- A call goes on to something else than the query or the store. -/
theorem Assigned.proceed {s : State} (h : Assigned s) (k : StartId) {pc : StartPc}
    (hvalidate : pc ≠ .validate) (hstore : pc ≠ .store) : Assigned (s.setStart k pc) :=
  h.setStart fun hpc => hpc.elim (fun heq => absurd heq hvalidate) fun heq => absurd heq hstore

theorem Assigned.step {i : Input} {s : State} {o : State × List Empty} (h : Assigned s)
    (hs : Step validate s i o) : Assigned o.1 := by
  cases hs with
  | @startReturns k => exact h.proceed k (by rintro ⟨⟩) (by rintro ⟨⟩)
  | @start k => exact h.proceed k (by rintro ⟨⟩) (by rintro ⟨⟩)
  | @ensured k => exact h.proceed k (by rintro ⟨⟩) (by rintro ⟨⟩)
  | @ensureFails k => exact h.proceed k (by rintro ⟨⟩) (by rintro ⟨⟩)
  | @dialed k =>
    have hdialed : Assigned { s with dialed := Function.update s.dialed k true } := by
      refine ⟨h.transport, fun q hq => ?_⟩
      by_cases hqk : q = k
      · subst hqk
        exact Function.update_self ..
      · exact (Function.update_of_ne hqk ..).trans (h.dialed q hq)
    exact hdialed.setStart fun _ => Function.update_self ..
  | @dialFails k => exact h.proceed k (by rintro ⟨⟩) (by rintro ⟨⟩)
  | @validated k hpc => exact h.setStart fun _ => h.dialed k (Or.inl hpc)
  | @validateFails k => exact h.proceed k (by rintro ⟨⟩) (by rintro ⟨⟩)
  | @closes k =>
    have hclosed : Assigned (s.setClosed k) := ⟨h.transport, h.dialed⟩
    exact hclosed.proceed k (by rintro ⟨⟩) (by rintro ⟨⟩)
  | @store k =>
    have hstored : Assigned { s with transport := some k, started := true } :=
      ⟨fun _ => by rintro ⟨⟩, h.dialed⟩
    exact hstored.proceed k (by rintro ⟨⟩) (by rintro ⟨⟩)
  | stop => exact ⟨by rintro ⟨⟩, h.dialed⟩
  | stopReturns => exact ⟨h.transport, h.dialed⟩
  | disconnected => exact ⟨h.transport, h.dialed⟩
  | stopped => exact ⟨h.transport, h.dialed⟩
  | fails => exact ⟨h.transport, h.dialed⟩

theorem assigned {C : State → List Empty → Input → Prop} {s : State} {tr : List Empty}
    (h : (handle validate).Run C s tr) : Assigned s := by
  refine TransitionSystem.Run.invariant (P := fun s _ => Assigned s) ?_ ?_ h
  · refine ⟨by rintro ⟨⟩, fun k hk => ?_⟩
    rcases hk with hk | hk <;> cases hk
  · intro s s' tr evs i _ _ hs ih
    exact ih.step (step_of_handle hs)

theorem Assigned.path {C : State → Input → Prop} {s s' : State} {is : List Input} {tr : List Empty}
    (h : Assigned s) (hpath : (handle validate).Path C s is tr s') : Assigned s' := by
  refine TransitionSystem.Path.invariant (P := fun _ _ s => Assigned s) h ?_ hpath
  intro is tr evs s₁ s₂ i _ _ hs ih
  exact ih.step (step_of_handle hs)

theorem Assigned.startsLive {s : State} (h : Assigned s) : StartsLive validate StartsOpen s := by
  intro k s₁ evs hc hs
  have hafter := h.step (step_of_handle hs)
  refine ⟨fun hreturned => ?_, fun is tr s₂ s₃ evs hpath hstore => ?_⟩
  · cases step_of_handle hs with
    | startReturns _ hstarted =>
      obtain ⟨t, ht⟩ := Option.ne_none_iff_exists'.mp (h.transport hstarted)
      exact ⟨t, ht, Or.inl (hc hstarted t ht)⟩
    | start =>
      dsimp only [State.setStart] at hreturned
      rw [Function.update_self] at hreturned
      cases hreturned
  · cases step_of_handle hstore with
    | store hpc => exact ⟨k, rfl, Or.inr ⟨rfl, (hafter.path hpath).dialed k (Or.inr hpc)⟩⟩

end Go.Handle

/-! ### JavaScript -/

namespace JavaScript.Handle

variable {cfg : Config}

/-- No `start` awaits the query for its target on the transport of the handle. -/
def NoneValidates (s : State) : Prop := ∀ t ∈ s.transport, s.starts t ≠ .validate

instance (s : State) : Decidable (NoneValidates s) :=
  inferInstanceAs (Decidable (∀ t ∈ s.transport, _))

/-- `start` is not called on a started handle whose transport is closed; and while a `start` awaits
the query for its target, no other call takes its transport or replaces it. -/
def StartsOpen (s : State) : Input → Prop
  | .start _ => s.started = true → ∀ t ∈ s.transport, (s.transports t).closed = false
  | .registered _ false | .assigned _ | .stop _ => NoneValidates s
  | .validated k false => s.transport ≠ some k → NoneValidates s
  | .registered _ true | .validated _ true | .bootstrapped .. | .activated _ | .startThrows _
  | .stopSent _ | .stopClosed _ | .message .. | .socketClosed _ | .socketError _ | .request ..
  | .requestSent .. | .timeout _ => True

instance (s : State) : ∀ i, Decidable (StartsOpen s i)
  | .start _ => inferInstanceAs (Decidable (_ = _ → ∀ t ∈ s.transport, _ = _))
  | .registered _ false | .assigned _ | .stop _ => inferInstanceAs (Decidable (NoneValidates s))
  | .validated _ false => inferInstanceAs (Decidable (_ ≠ _ → NoneValidates s))
  | .registered _ true | .validated _ true | .bootstrapped .. | .activated _ | .startThrows _
  | .stopSent _ | .stopClosed _ | .message .. | .socketClosed _ | .socketError _ | .request ..
  | .requestSent .. | .timeout _ => inferInstanceAs (Decidable True)

/-- The handle has a transport that was not closed in `s₀`, or that the call `k` has dialed. -/
def Live (s₀ : State) (k : StartId) (s : State) : Prop :=
  ∃ t, s.transport = some t ∧ ((s₀.transports t).closed = false ∨ t = k)

/-- A call of `start` that begins here under the condition `C`, and returns without an error while
all steps meet it, leaves the handle with a live transport. -/
def StartsLive (cfg : Config) (C : State → Input → Prop) (s : State) : Prop :=
  ∀ k s₁ evs, C s (.start k) → (handle cfg).step (.start k) s = some (s₁, evs) →
    (s₁.starts k = .returned → Live s k s₁) ∧
    ∀ is tr s₂ i s₃ evs, (handle cfg).Path C s₁ is tr s₂ → C s₂ i → s₂.starts k ≠ .returned →
      (handle cfg).step i s₂ = some (s₃, evs) → s₃.starts k = .returned → Live s k s₃

/-- A `start` that awaits the query for its target has its transport in the handle. -/
def Validating (s : State) : Prop := ∀ k, s.starts k = .validate → s.transport = some k

theorem Validating.none {s : State} (h : Validating s) (hnone : NoneValidates s) (k : StartId) :
    s.starts k ≠ .validate :=
  fun hk => hnone k (h k hk) hk

theorem Validating.of_eq {s s' : State} (h : Validating s) (htransport : s'.transport = s.transport)
    (hstarts : s'.starts = s.starts) : Validating s' := by
  intro k hk
  rw [hstarts] at hk
  rw [htransport]
  exact h k hk

theorem Validating.of_sameCalls {s s' : State} (h : Validating s) (hsame : SameCalls s s') :
    Validating s' :=
  h.of_eq hsame.1 hsame.2.1

/-- A call that is not about to await the query goes on. -/
theorem Validating.setStart {s : State} (h : Validating s) (k : StartId) {pc : StartPc}
    (hpc : pc ≠ .validate) : Validating (s.setStart k pc) := by
  intro q hq
  dsimp only [State.setStart] at hq ⊢
  by_cases hqk : q = k
  · subst hqk
    rw [Function.update_self] at hq
    exact absurd hq hpc
  · rw [Function.update_of_ne hqk] at hq
    exact h q hq

/-- A `stop` begins while nobody awaits the query. -/
theorem validating_beginStop {s : State} {w : Stopper} (h : ∀ k, s.starts k ≠ .validate) :
    Validating (beginStop w s).1 := by
  intro k hk
  rw [(beginStop_calls w s).1] at hk
  exact absurd hk (h k)

theorem Validating.failStart {s : State} (h : Validating s) {k : StartId}
    (hnone : s.transport ≠ some k → NoneValidates s) : Validating (failStart k s).1 := by
  refine validating_beginStop fun q hq => ?_
  dsimp only [State.setStart] at hq
  by_cases hqk : q = k
  · subst hqk
    rw [Function.update_self] at hq
    cases hq
  · rw [Function.update_of_ne hqk] at hq
    have hslot := h q hq
    have hother : s.transport ≠ some k := by
      rw [hslot]
      exact fun heq => hqk (Option.some.inj heq)
    exact hnone hother q hslot hq

theorem Validating.step {i : Input} {s : State} {o : State × List Event} (h : Validating s)
    (hc : StartsOpen s i) (hs : Step cfg s i o) : Validating o.1 := by
  cases hs with
  | @startReturns k => exact h.setStart k (by rintro ⟨⟩)
  | @start k => exact h.setStart k (by rintro ⟨⟩)
  | @bootstrapped k =>
    have hset : Validating { s with callerPeerId := true } := h
    exact hset.setStart k (by rintro ⟨⟩)
  | @bootstrapThrows k => exact h.setStart k (by rintro ⟨⟩)
  | @registered k =>
    have hset : Validating (s.setTransport k fun transport =>
      { transport with listening := true }) := h
    exact hset.setStart k (by rintro ⟨⟩)
  | connectThrows => exact h.failStart fun _ => hc
  | @activated k =>
    have hset : Validating (s.setTransport k fun transport =>
      { transport with active := true }) := h
    exact hset.setStart k (by rintro ⟨⟩)
  | @assigned k =>
    intro q hq
    dsimp only [State.setStart] at hq ⊢
    by_cases hqk : q = k
    · rw [hqk]
    · rw [Function.update_of_ne hqk] at hq
      exact absurd hq (h.none hc q)
  | @validated k => exact h.setStart k (by rintro ⟨⟩)
  | validateThrows => exact h.failStart hc
  | @startThrows k => exact h.setStart k (by rintro ⟨⟩)
  | stop => exact validating_beginStop (h.none hc)
  | @stopSent w t =>
    obtain ⟨htransport, hstarts, -⟩ := sameCalls_closeTransport t s
    exact h.of_eq htransport hstarts
  | @stopClosed w =>
    obtain ⟨htransport, hstarts, -⟩ := (same_rejectAllPending (.stop w) s).calls
    exact h.of_eq htransport hstarts
  | message => exact h.of_sameCalls (sameCalls_message _ _ s)
  | @socketClosed t =>
    exact h.of_sameCalls (same_rejectAllPending (.closed t) (s.setTransport t _)).calls
  | socketError => exact h.of_sameCalls (sameCalls_failTransport _ s)
  | request => exact h.of_sameCalls (same_sendRequest _ _ s).calls
  | requestSent => exact h.of_sameCalls (same_requests s _ _).calls
  | sendFails => exact h.of_sameCalls ((same_requests s _ _).trans (same_reject _ _ _)).calls
  | timeout => exact h.of_sameCalls ((same_requests s _ _).trans (same_reject _ _ _)).calls

theorem starts_setStart (s : State) (k q : StartId) (pc : StartPc) :
    q = k ∧ (s.setStart k pc).starts q = pc ∨ (s.setStart k pc).starts q = s.starts q := by
  by_cases hqk : q = k
  · subst hqk
    exact Or.inl ⟨rfl, Function.update_self ..⟩
  · exact Or.inr (Function.update_of_ne hqk ..)

/-- What a step from `s` to `s'` may do to a call of `start`: it returns where it begins, or where its
transport is in the handle. -/
def Moves (q : StartId) (s s' : State) : Prop :=
  s'.starts q = s.starts q ∨ s'.starts q ≠ .unstarted ∧
    (s'.starts q = .returned → s.starts q = .unstarted ∨ s'.transport = some q)

/-- A call goes on and does not return. -/
theorem moves_setStart {s s₀ : State} {k q : StartId} {pc : StartPc} (hstarts : s₀.starts = s.starts)
    (hunstarted : pc ≠ .unstarted) (hreturned : pc ≠ .returned) : Moves q s (s₀.setStart k pc) := by
  rcases starts_setStart s₀ k q pc with ⟨-, heq⟩ | heq
  · right
    rw [heq]
    exact ⟨hunstarted, fun hret => absurd hret hreturned⟩
  · left
    rw [heq, hstarts]

/-- A call fails and awaits its `stop`. -/
theorem moves_failStart (k q : StartId) (s : State) : Moves q s (failStart k s).1 := by
  have hstarts : (failStart k s).1.starts = (s.setStart k .stop).starts :=
    (beginStop_calls (.start k) (s.setStart k .stop)).1
  unfold Moves
  rw [hstarts]
  rcases starts_setStart s k q .stop with ⟨-, heq⟩ | heq
  · right
    rw [heq]
    exact ⟨by rintro ⟨⟩, by rintro ⟨⟩⟩
  · exact Or.inl heq

theorem moves_step {i : Input} {s : State} {o : State × List Event} (h : Validating s)
    (hs : Step cfg s i o) (q : StartId) : Moves q s o.1 := by
  cases hs with
  | @startReturns k hpc =>
    rcases starts_setStart s k q .returned with ⟨rfl, heq⟩ | heq
    · refine Or.inr ⟨?_, fun _ => Or.inl hpc⟩
      dsimp only
      rw [heq]
      rintro ⟨⟩
    · exact Or.inl heq
  | start => exact moves_setStart rfl (by rintro ⟨⟩) (by rintro ⟨⟩)
  | bootstrapped => exact moves_setStart rfl (by rintro ⟨⟩) (by rintro ⟨⟩)
  | bootstrapThrows => exact moves_setStart rfl (by rintro ⟨⟩) (by rintro ⟨⟩)
  | registered => exact moves_setStart rfl (by rintro ⟨⟩) (by rintro ⟨⟩)
  | activated => exact moves_setStart rfl (by rintro ⟨⟩) (by rintro ⟨⟩)
  | startThrows => exact moves_setStart rfl (by rintro ⟨⟩) (by rintro ⟨⟩)
  | @assigned k =>
    rcases starts_setStart { s with transport := some k, started := true } k q
      (if cfg.eager then .validate else .returned) with ⟨rfl, heq⟩ | heq
    · refine Or.inr ⟨?_, fun _ => Or.inr rfl⟩
      dsimp only
      rw [heq]
      split_ifs <;> rintro ⟨⟩
    · exact Or.inl heq
  | @validated k hpc =>
    rcases starts_setStart s k q .returned with ⟨rfl, heq⟩ | heq
    · refine Or.inr ⟨?_, fun _ => Or.inr (h q hpc)⟩
      dsimp only
      rw [heq]
      rintro ⟨⟩
    · exact Or.inl heq
  | connectThrows => exact moves_failStart _ _ _
  | validateThrows => exact moves_failStart _ _ _
  | stop => exact Or.inl (congrFun (beginStop_calls _ s).1 q)
  | @stopSent w t => exact Or.inl (congrFun (sameCalls_closeTransport t s).2.1 q)
  | @stopClosed w => exact Or.inl (congrFun (same_rejectAllPending (.stop w) s).2.2.1 q)
  | message => exact Or.inl (congrFun (sameCalls_message _ _ s).2.1 q)
  | @socketClosed t =>
    exact Or.inl (congrFun (same_rejectAllPending (.closed t) (s.setTransport t _)).2.2.1 q)
  | socketError => exact Or.inl (congrFun (sameCalls_failTransport _ s).2.1 q)
  | request => exact Or.inl (congrFun (same_sendRequest _ _ s).2.2.1 q)
  | requestSent => exact Or.inl rfl
  | sendFails => exact Or.inl (congrFun ((same_requests s _ _).trans (same_reject _ _ _)).2.2.1 q)
  | timeout => exact Or.inl (congrFun ((same_requests s _ _).trans (same_reject _ _ _)).2.2.1 q)

theorem validating {s : State} {tr : List Event}
    (h : (handle cfg).Run (fun s _ i => StartsOpen s i) s tr) : Validating s := by
  refine TransitionSystem.Run.invariant (P := fun s _ => Validating s) ?_ ?_ h
  · intro k hk
    cases hk
  · intro s s' tr evs i _ hc hs ih
    exact ih.step hc (step_of_handle hs)

theorem Validating.startsLive {s : State} (h : Validating s) : StartsLive cfg StartsOpen s := by
  intro k s₁ evs hc hs
  have hafter := h.step hc (step_of_handle hs)
  -- a call that has begun has left its first state for good
  have hbegun : s₁.starts k ≠ .unstarted := by
    cases step_of_handle hs with
    | startReturns =>
      dsimp only [State.setStart]
      rw [Function.update_self]
      rintro ⟨⟩
    | start =>
      dsimp only [State.setStart]
      rw [Function.update_self]
      rintro ⟨⟩
  refine ⟨fun hreturned => ?_, fun is tr s₂ i s₃ evs hpath hc' hnot hs' hreturned => ?_⟩
  · cases step_of_handle hs with
    | startReturns _ hstarted =>
      obtain ⟨t, ht⟩ := Option.isSome_iff_exists.mp hstarted.2
      exact ⟨t, ht, Or.inl (hc hstarted.1 t ht)⟩
    | start =>
      dsimp only [State.setStart] at hreturned
      rw [Function.update_self] at hreturned
      cases hreturned
  · have hpassed : Validating s₂ ∧ s₂.starts k ≠ .unstarted := by
      refine TransitionSystem.Path.invariant
        (P := fun _ _ s => Validating s ∧ s.starts k ≠ .unstarted) ⟨hafter, hbegun⟩ ?_ hpath
      intro is tr evs s₁ s₂ i _ hc hs ih
      refine ⟨ih.1.step hc (step_of_handle hs), ?_⟩
      rcases moves_step ih.1 (step_of_handle hs) k with hsame | hmoved
      · rw [hsame]
        exact ih.2
      · exact hmoved.1
    rcases moves_step hpassed.1 (step_of_handle hs') k with hsame | hmoved
    · rw [hsame] at hreturned
      exact absurd hreturned hnot
    · rcases hmoved.2 hreturned with hunstarted | htransport
      · exact absurd hunstarted hpassed.2
      · exact ⟨k, htransport, Or.inr rfl⟩

end JavaScript.Handle

/-! ### PHP -/

namespace Php.Handle

variable {l : PeerTransport.Libraries} {o : Options}

/-- `start` is not called on a started handle whose transport is closed. -/
def StartsOpen (s : State) : Input → Prop
  | .start _ => s.started = true → ∀ t ∈ s.transport, t.state.closed = false
  | .stop _ | .call .. | .queryPeerExists .. | .queryPeerGet .. => True

instance (s : State) : ∀ i, Decidable (StartsOpen s i)
  | .start _ => inferInstanceAs (Decidable (_ = _ → ∀ t ∈ s.transport, _ = _))
  | .stop _ | .call .. | .queryPeerExists .. | .queryPeerGet .. => inferInstanceAs (Decidable True)

/-- A call of `start` that is made under the condition `C` and returns leaves the handle with a
transport that was open, or with the one that it has dialed. -/
def StartsLive (l : PeerTransport.Libraries) (o : Options) (C : State → Input → Prop) (s : State) :
    Prop :=
  ∀ starting s', C s (.start starting) →
    (handle l o).step (.start starting) s = some (s', [.start (.ok ())]) →
      ∃ t, s'.transport = some t ∧
        ((∃ t₀, s.transport = some t₀ ∧ t₀.id = t.id ∧ t₀.state.closed = false) ∨ t.id = s.dials)

/-- A started handle has a transport. -/
def HasTransport (s : State) : Prop := s.started = true → s.transport ≠ none

theorem HasTransport.step {i : Input} {s : State} {r : State × List Event} (h : HasTransport s)
    (hs : Step l o s i r) : HasTransport r.1 := by
  cases hs with
  | start hstarts =>
    cases hstarts with
    | returns => exact h
    | fails => exact h
    | unvalidated => exact fun _ => by rintro ⟨⟩
    | queryThrows => exact fun _ => by rintro ⟨⟩
    | rejected hdialed =>
      intro hstarted
      have hidle : s.started = true := hstarted
      rw [not_started_of_dialed hdialed] at hidle
      cases hidle
    | validated => exact fun _ => by rintro ⟨⟩
  | stop => rintro ⟨⟩
  | uses => exact fun _ => by rintro ⟨⟩
  | idle => exact h

theorem hasTransport {C : State → List Event → Input → Prop} {s : State} {tr : List Event}
    (h : (handle l o).Run C s tr) : HasTransport s := by
  refine TransitionSystem.Run.invariant (P := fun s _ => HasTransport s) (by rintro ⟨⟩) ?_ h
  intro s s' tr evs i _ _ hs ih
  exact ih.step (step_of_handle hs)

theorem HasTransport.startsLive {s : State} (h : HasTransport s) : StartsLive l o StartsOpen s := by
  intro starting s' hc hs
  obtain ⟨r, hr, heq⟩ := Option.map_eq_some_iff.mp hs
  obtain ⟨outcome, state⟩ := r
  cases heq
  cases starts_of_start hr with
  | returns hstarted =>
    obtain ⟨t, ht⟩ := Option.ne_none_iff_exists'.mp (h hstarted)
    exact ⟨t, ht, Or.inl ⟨t, ht, rfl, hc hstarted t ht⟩⟩
  | unvalidated => exact ⟨_, rfl, Or.inr rfl⟩
  | validated => exact ⟨_, rfl, Or.inr rfl⟩

end Php.Handle

/-! ### All of them -/

namespace Bindings

/-- **A start that succeeds leaves the handle with a live transport**, in the runs of the handles of
Go, JavaScript and PHP in which no start is called on a started handle whose transport is closed. -/
theorem started_handle_live (validate : Bool) (cfg : JavaScript.Handle.Config)
    (l : Php.PeerTransport.Libraries) (o : Php.Handle.Options) :
    (∀ s tr, (Go.Handle.handle validate).Run (fun s _ i => Go.Handle.StartsOpen s i) s tr →
      Go.Handle.StartsLive validate Go.Handle.StartsOpen s) ∧
    (∀ s tr,
      (JavaScript.Handle.handle cfg).Run (fun s _ i => JavaScript.Handle.StartsOpen s i) s tr →
        JavaScript.Handle.StartsLive cfg JavaScript.Handle.StartsOpen s) ∧
    (∀ s tr, (Php.Handle.handle l o).Run (fun s _ i => Php.Handle.StartsOpen s i) s tr →
      Php.Handle.StartsLive l o Php.Handle.StartsOpen s) := by
  refine ⟨fun s tr h => ?_, fun s tr h => ?_, fun s tr h => ?_⟩
  · exact (Go.Handle.assigned h).startsLive
  · exact (JavaScript.Handle.validating h).startsLive
  · exact (Php.Handle.hasTransport h).startsLive

section Sample

open Php.Handle (starts validating)
open Php.PeerTransport (Received found localLibraries)

/-- The socket yields the acknowledgement, the answer for the target, and then fails. -/
def losesConnection : Php.Handle.Input := starts [found "q", .exception "connection closed" false]

/-- A handle that has lost its connection is stopped and started again. -/
theorem started_handle_live_again :
    (∃ s tr, (Go.Handle.handle false).Run (fun s _ i => Go.Handle.StartsOpen s i) s tr ∧
      s.closed 0 = true ∧ s.transport = some 1 ∧
      Go.Handle.StartsLive false Go.Handle.StartsOpen s) ∧
    (∃ s tr, (JavaScript.Handle.handle JavaScript.Handle.localConfig).Run
        (fun s _ i => JavaScript.Handle.StartsOpen s i) s tr ∧
      (s.transports 0).closed = true ∧ s.transport = some 1 ∧
      JavaScript.Handle.StartsLive JavaScript.Handle.localConfig JavaScript.Handle.StartsOpen s) ∧
    (∃ s tr, (Php.Handle.handle localLibraries validating).Run
        (fun s _ i => Php.Handle.StartsOpen s i) s tr ∧
      s.dials = 2 ∧ s.started = true ∧
      Php.Handle.StartsLive localLibraries validating Php.Handle.StartsOpen s) := by
  obtain ⟨hgo, hjavaScript, hphp⟩ := started_handle_live false JavaScript.Handle.localConfig
    localLibraries validating
  refine ⟨?_, ?_, ?_⟩
  · obtain ⟨s, tr, hrun, hp⟩ := (Go.Handle.handle false).exists_run_of_exec
      (fun s _ i => Go.Handle.StartsOpen s i)
      [.start 0, .ensured 0 true, .dialed 0 true, .store 0, .fails 0, .stop 0, .stopping 0,
        .stopping 0, .start 1, .ensured 1 true, .dialed 1 true, .store 1]
      (fun s _ => s.closed 0 = true ∧ s.transport = some 1) (by decide +kernel)
    obtain ⟨hclosed, htransport⟩ := of_decide_eq_true hp
    exact ⟨s, tr, hrun, hclosed, htransport, hgo s tr hrun⟩
  · obtain ⟨s, tr, hrun, hp⟩ :=
      (JavaScript.Handle.handle JavaScript.Handle.localConfig).exists_run_of_exec
      (fun s _ i => JavaScript.Handle.StartsOpen s i)
      (JavaScript.Handle.connects 0 ++ [.socketClosed 0, .stop 0, .stopClosed (.user 0)] ++
        JavaScript.Handle.connects 1)
      (fun s _ => (s.transports 0).closed = true ∧ s.transport = some 1) (by decide +kernel)
    obtain ⟨hclosed, htransport⟩ := of_decide_eq_true hp
    exact ⟨s, tr, hrun, hclosed, htransport, hjavaScript s tr hrun⟩
  · obtain ⟨s, tr, hrun, hp⟩ :=
      (Php.Handle.handle localLibraries validating).exists_run_of_exec
      (fun s _ i => Php.Handle.StartsOpen s i)
      [losesConnection, .call "add" [] "c" .ok, .stop (.ok ()), starts [found "q"]]
      (fun s _ => s.dials = 2 ∧ s.started = true) (by decide +kernel)
    obtain ⟨hdials, hstarted⟩ := of_decide_eq_true hp
    exact ⟨s, tr, hrun, hdials, hstarted, hphp s tr hrun⟩

/-- The transport of the handle is closed, and `Start` does not look at it. -/
theorem not_startsLive_go : ¬ ∀ s tr, (Go.Handle.handle false).Reachable s tr →
    Go.Handle.StartsLive false (fun _ _ => True) s := by
  intro hall
  obtain ⟨s, tr, hrun, hp⟩ := (Go.Handle.handle false).exists_reachable_of_exec
    [.start 0, .ensured 0 true, .dialed 0 true, .store 0, .fails 0]
    (fun s _ => s.closed 0 = true ∧ s.transport = some 0 ∧ s.started = true ∧
      s.starts 1 = .unstarted) (by decide +kernel)
  obtain ⟨hclosed, htransport, hstarted, hpc⟩ := of_decide_eq_true hp
  have hs : (Go.Handle.handle false).step (.start 1) s = some (s.setStart 1 .returned, []) := by
    simp only [Go.Handle.handle, hpc, hstarted, if_true]
  have hreturned : (s.setStart 1 .returned).starts 1 = .returned :=
    Function.update_self (1 : Nat) _ s.starts
  obtain ⟨t, ht, hlive⟩ := (hall s tr hrun 1 _ _ trivial hs).1 hreturned
  have ht' : s.transport = some t := ht
  rw [htransport] at ht'
  cases ht'
  rw [hclosed] at hlive
  rcases hlive with hlive | ⟨hlive, -⟩ <;> cases hlive

theorem not_startsLive_javaScript :
    ¬ ∀ s tr, (JavaScript.Handle.handle JavaScript.Handle.localConfig).Reachable s tr →
      JavaScript.Handle.StartsLive JavaScript.Handle.localConfig (fun _ _ => True) s := by
  intro hall
  obtain ⟨s, tr, hrun, hp⟩ :=
    (JavaScript.Handle.handle JavaScript.Handle.localConfig).exists_reachable_of_exec
    (JavaScript.Handle.connects 0 ++ [.socketClosed 0])
    (fun s _ => (s.transports 0).closed = true ∧ s.transport = some 0 ∧ s.started = true ∧
      s.starts 1 = .unstarted) (by decide +kernel)
  obtain ⟨hclosed, htransport, hstarted, hpc⟩ := of_decide_eq_true hp
  have hs : (JavaScript.Handle.handle JavaScript.Handle.localConfig).step (.start 1) s =
      some (s.setStart 1 .returned, []) := by
    simp only [JavaScript.Handle.handle, hpc, hstarted, htransport, Option.isSome_some, and_self,
      if_true]
  have hreturned : (s.setStart 1 .returned).starts 1 = .returned :=
    Function.update_self (1 : Nat) _ s.starts
  obtain ⟨t, ht, hlive⟩ := (hall s tr hrun 1 _ _ trivial hs).1 hreturned
  have ht' : s.transport = some t := ht
  rw [htransport] at ht'
  cases ht'
  rw [hclosed] at hlive
  rcases hlive with hlive | hlive <;> cases hlive

theorem not_startsLive_php :
    ¬ ∀ s tr, (Php.Handle.handle localLibraries validating).Reachable s tr →
      Php.Handle.StartsLive localLibraries validating (fun _ _ => True) s := by
  intro hall
  obtain ⟨s, tr, hrun, hp⟩ :=
    (Php.Handle.handle localLibraries validating).exists_reachable_of_exec
    [losesConnection, .call "add" [] "c" .ok]
    (fun s _ => s.started = true ∧ s.dials = 1 ∧
      (s.transport.any fun t => t.state.closed && t.id == 0) = true) (by decide +kernel)
  obtain ⟨hstarted, hdials, hany⟩ := of_decide_eq_true hp
  obtain ⟨t, ht, hclosed⟩ := (Option.any_eq_true _ _).mp hany
  obtain ⟨hclosed, hid⟩ := Bool.and_eq_true_iff.mp hclosed
  have hs : (Php.Handle.handle localLibraries validating).step (starts []) s =
      some (s, [.start (.ok ())]) := by
    simp only [Php.Handle.handle, starts, Php.Handle.start, hstarted, if_true, Option.map_some]
  obtain ⟨t', ht', hlive⟩ := hall s tr hrun _ s trivial hs
  rw [ht] at ht'
  cases ht'
  rcases hlive with ⟨t₀, ht₀, -, hopen⟩ | hlive
  · rw [ht] at ht₀
    cases ht₀
    rw [hclosed] at hopen
    cases hopen
  · rw [hdials, beq_iff_eq.mp hid] at hlive
    cases hlive

/-- A handle that has lost its connection is started again without a stop: the start returns, and
the transport is the one that is closed. -/
theorem started_handle_dead :
    (¬ ∀ s tr, (Go.Handle.handle false).Reachable s tr →
      Go.Handle.StartsLive false (fun _ _ => True) s) ∧
    (¬ ∀ s tr, (JavaScript.Handle.handle JavaScript.Handle.localConfig).Reachable s tr →
      JavaScript.Handle.StartsLive JavaScript.Handle.localConfig (fun _ _ => True) s) ∧
    (¬ ∀ s tr, (Php.Handle.handle localLibraries validating).Reachable s tr →
      Php.Handle.StartsLive localLibraries validating (fun _ _ => True) s) :=
  ⟨not_startsLive_go, not_startsLive_javaScript, not_startsLive_php⟩

end Sample

end Bindings

end Multifrost
