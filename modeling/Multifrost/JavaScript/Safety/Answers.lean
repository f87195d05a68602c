import Multifrost.JavaScript.Safety.Settled

/-!
# The answers of a JavaScript handle

A promise is resolved by a response, and rejected for what is in a frame by a response or by an error
frame.  The listener finds the request of a frame under the message id of the frame, where the
request has put itself when it was sent; so the frame has the message id of the request, and was
read after the request was sent (`Answered`).  Everything else that settles promises does so by a
rejection with another cause (`NoAnswer`).
-/

namespace Multifrost.JavaScript.Handle

open Router (kindError kindResponse)

variable {cfg : Config}

/-- A frame with the message id of the request and the property `P` was read after the request was
sent. -/
def Answered (cfg : Config) (is : List Input) (r : ReqId) (P : Router.FrameParts → Prop) : Prop :=
  ∃ before t bytes frame after, is = before ++ .message t (.binary bytes) :: after ∧
    (∃ encoded, .request r encoded ∈ before) ∧ toFrame cfg.msgpack bytes = .ok frame ∧
    frame.envelope.msgId = cfg.msgId r ∧ P frame

theorem Answered.snoc {is : List Input} {r : ReqId} {P : Router.FrameParts → Prop}
    (h : Answered cfg is r P) (i : Input) : Answered cfg (is ++ [i]) r P := by
  obtain ⟨before, t, bytes, frame, after, rfl, h⟩ := h
  refine ⟨before, t, bytes, frame, after ++ [i], ?_, h⟩
  rw [List.append_assoc, List.cons_append]

/-- A response that can be decoded. -/
def Resolves (cfg : Config) (frame : Router.FrameParts) : Prop :=
  frame.envelope.kind = kindResponse ∧ cfg.decodes frame.bodyBytes = true

/-- The frame that a rejection is for. -/
def Rejects (cfg : Config) (frame : Router.FrameParts) : Cause → Prop
  | .errorFrame => frame.envelope.kind = kindError ∧ cfg.readsError frame.bodyBytes = true
  | .undecodable => frame.envelope.kind = kindResponse ∧ cfg.decodes frame.bodyBytes = false
  | _ => False

/-- The rejection is for what is in a frame. -/
def Cause.ofFrame : Cause → Bool
  | .errorFrame | .undecodable => true
  | _ => false

/-! ### Steps without an answer -/

/-- No entry is new, no promise is resolved, and none is rejected for what is in a frame. -/
structure NoAnswer (s s' : State) (evs : List Event) : Prop where
  lookup : ∀ k r, s'.pendingRequests.lookup k = some r → s.pendingRequests.lookup k = some r
  resolved : ∀ r, (s'.requests r).outcome = .resolved → (s.requests r).outcome = .resolved
  rejected : ∀ r cause, .rejected r cause ∈ evs → cause.ofFrame = false

theorem NoAnswer.of_eq {s s' : State} (hpending : s'.pendingRequests = s.pendingRequests)
    (hrequests : s'.requests = s.requests) : NoAnswer s s' [] := by
  refine ⟨fun k r hk => ?_, fun r hr => ?_, nofun⟩
  · rwa [hpending] at hk
  · rwa [hrequests] at hr

theorem NoAnswer.trans {s₁ s₂ s₃ : State} {evs evs' : List Event} (h : NoAnswer s₁ s₂ evs)
    (h' : NoAnswer s₂ s₃ evs') : NoAnswer s₁ s₃ (evs ++ evs') :=
  ⟨fun k r hk => h.lookup k r (h'.lookup k r hk), fun r hr => h.resolved r (h'.resolved r hr),
    fun r cause hmem => (List.mem_append.mp hmem).elim (h.rejected r cause) (h'.rejected r cause)⟩

theorem noAnswer_setRequest {s : State} {r : ReqId} {f : Request → Request}
    (h : (f (s.requests r)).outcome = .resolved → (s.requests r).outcome = .resolved) :
    NoAnswer s (s.setRequest r f) [] := by
  refine ⟨fun _ _ => id, fun q hq => ?_, nofun⟩
  dsimp only [State.setRequest] at hq
  by_cases hqr : q = r
  · subst hqr
    rw [Function.update_self] at hq
    exact h hq
  · rwa [Function.update_of_ne hqr] at hq

theorem noAnswer_clearTimeout (r : ReqId) (s : State) : NoAnswer s (clearTimeout r s) [] :=
  noAnswer_setRequest id

/-- A request is taken out. -/
theorem noAnswer_cleared (r : ReqId) (msgId : String) (s : State) :
    NoAnswer s (clearTimeout r { s with pendingRequests := s.pendingRequests.erase msgId }) [] := by
  have herased : NoAnswer s { s with pendingRequests := s.pendingRequests.erase msgId } [] := by
    refine ⟨fun k q hk => ?_, fun _ => id, nofun⟩
    by_cases hkey : k = msgId
    · subst hkey
      rw [AList.lookup_erase] at hk
      cases hk
    · rwa [AList.lookup_erase_ne hkey] at hk
  exact herased.trans (noAnswer_clearTimeout r _)

theorem reject_of_pending {r : ReqId} {cause : Cause} {s : State}
    (h : (s.requests r).outcome = .pending) :
    reject r cause s =
      (s.setRequest r fun q => { q with outcome := .rejected }, [.rejected r cause]) := if_pos h

/-- A rejection resolves nothing, and is seen with its cause. -/
theorem reject_spec (r : ReqId) (cause : Cause) (s : State) :
    NoAnswer s (reject r cause s).1 [] ∧
      ∀ q cause', .rejected q cause' ∈ (reject r cause s).2 → q = r ∧ cause' = cause := by
  by_cases hpending : (s.requests r).outcome = .pending
  · have hset : NoAnswer s (s.setRequest r fun q => { q with outcome := .rejected }) [] :=
      noAnswer_setRequest nofun
    rw [reject_of_pending hpending]
    refine ⟨hset, fun q cause' hmem => ?_⟩
    cases List.mem_singleton.mp hmem
    exact ⟨rfl, rfl⟩
  · unfold reject
    rw [if_neg hpending]
    exact ⟨.of_eq rfl rfl, nofun⟩

theorem noAnswer_reject {cause : Cause} (h : cause.ofFrame = false) (r : ReqId) (s : State) :
    NoAnswer s (reject r cause s).1 (reject r cause s).2 := by
  obtain ⟨hnone, hcause⟩ := reject_spec r cause s
  refine ⟨hnone.lookup, hnone.resolved, fun q cause' hmem => ?_⟩
  rw [(hcause q cause' hmem).2]
  exact h

/-- What is resolved is the promise of the request, or was before. -/
theorem resolved_resolve {r q : ReqId} {s : State}
    (h : ((resolve r s).requests q).outcome = .resolved) :
    (s.requests q).outcome = .resolved ∨ q = r := by
  unfold resolve at h
  split_ifs at h
  · by_cases hqr : q = r
    · exact Or.inr hqr
    · dsimp only [State.setRequest] at h
      rw [Function.update_of_ne hqr] at h
      exact Or.inl h
  · exact Or.inl h

theorem noAnswer_rejectEach {cause : Cause} (h : cause.ofFrame = false) (rs : List ReqId) :
    ∀ s, NoAnswer s (rejectEach cause rs s).1 (rejectEach cause rs s).2 := by
  induction rs with
  | nil => exact fun s => .of_eq rfl rfl
  | cons r rs ih =>
    intro s
    have hfirst := (noAnswer_clearTimeout r s).trans (noAnswer_reject h r (clearTimeout r s))
    exact hfirst.trans (ih _)

theorem noAnswer_rejectAllPending {cause : Cause} (h : cause.ofFrame = false) (s : State) :
    NoAnswer s (rejectAllPending cause s).1 (rejectAllPending cause s).2 := by
  have heach := noAnswer_rejectEach h (s.pendingRequests.entries.map Sigma.snd) s
  refine ⟨fun k r hk => ?_, heach.resolved, heach.rejected⟩
  rw [rejectAllPending, AList.lookup_empty] at hk
  cases hk

/-- The same where what else has changed does not matter. -/
theorem noAnswer_rejectAllPending_of_eq {cause : Cause} (h : cause.ofFrame = false) {s s' : State}
    (hpending : s'.pendingRequests = s.pendingRequests) (hrequests : s'.requests = s.requests) :
    NoAnswer s (rejectAllPending cause s').1 (rejectAllPending cause s').2 :=
  (NoAnswer.of_eq hpending hrequests).trans (noAnswer_rejectAllPending h s')

theorem noAnswer_failTransport (t : StartId) (s : State) :
    NoAnswer s (failTransport t s).1 (failTransport t s).2 := by
  unfold failTransport
  split_ifs
  · exact .of_eq rfl rfl
  · exact noAnswer_rejectAllPending_of_eq rfl rfl rfl

theorem noAnswer_closeTransport (t : StartId) (s : State) : NoAnswer s (closeTransport t s) [] := by
  unfold closeTransport
  split_ifs <;> exact .of_eq rfl rfl

/-- A stop begins. -/
theorem noAnswer_stopBegan {s s' : State} {evs : List Event} (w : Stopper) (h : NoAnswer s s' evs) :
    NoAnswer s s' ([.stopBegan w] ++ evs) := by
  refine ⟨h.lookup, h.resolved, fun r cause hmem => ?_⟩
  rcases List.mem_append.mp hmem with hmem | hmem
  · cases List.mem_singleton.mp hmem
  · exact h.rejected r cause hmem

/-- What is set beside the requests does not matter. -/
theorem NoAnswer.set {s s' s'' : State} {evs : List Event} (h : NoAnswer s s' evs)
    (hpending : s''.pendingRequests = s'.pendingRequests) (hrequests : s''.requests = s'.requests) :
    NoAnswer s s'' evs := by
  have hset := h.trans (NoAnswer.of_eq hpending hrequests)
  rwa [List.append_nil] at hset

theorem noAnswer_beginStop (w : Stopper) (s : State) :
    NoAnswer s (beginStop w s).1 (beginStop w s).2 := by
  unfold beginStop
  dsimp only
  cases s.transport with
  | none =>
    have htaken : NoAnswer s { s with transport := none, started := false } [] := .of_eq rfl rfl
    have hcause : Cause.ofFrame (.stop w) = false := rfl
    have hall := htaken.trans (noAnswer_rejectAllPending hcause _)
    exact noAnswer_stopBegan w (hall.set rfl rfl)
  | some t =>
    dsimp only
    split_ifs <;> exact noAnswer_stopBegan w (.of_eq rfl rfl)

theorem noAnswer_failStart (k : StartId) (s : State) :
    NoAnswer s (failStart k s).1 (failStart k s).2 := by
  have hset : NoAnswer s (s.setStart k .stop) [] := .of_eq rfl rfl
  exact hset.trans (noAnswer_beginStop (.start k) (s.setStart k .stop))

/-! ### Steps -/

/-- What a step does to the map, with the promises that it resolves or rejects. -/
inductive Changes (cfg : Config) (s : State) (i : Input) (s' : State) (evs : List Event) : Prop
  | noAnswer (h : NoAnswer s s' evs)
  | inserts {r : ReqId} {encoded : Bool} (hi : i = .request r encoded)
      (hlookup : ∀ k q, s'.pendingRequests.lookup k = some q →
        k = cfg.msgId r ∧ q = r ∨ s.pendingRequests.lookup k = some q)
      (hresolved : ∀ q, (s'.requests q).outcome = .resolved → (s.requests q).outcome = .resolved)
      (hrejected : ∀ q cause, .rejected q cause ∈ evs → cause.ofFrame = false)
  | answers {t : StartId} {bytes : Bytes} {frame : Router.FrameParts} {r : ReqId}
      (hi : i = .message t (.binary bytes)) (hframe : toFrame cfg.msgpack bytes = .ok frame)
      (hlookup : s.pendingRequests.lookup frame.envelope.msgId = some r)
      (hlookup' : ∀ k q, s'.pendingRequests.lookup k = some q →
        s.pendingRequests.lookup k = some q)
      (hresolved : ∀ q, (s'.requests q).outcome = .resolved →
        (s.requests q).outcome = .resolved ∨ q = r ∧ Resolves cfg frame)
      (hrejected : ∀ q cause, .rejected q cause ∈ evs → q = r ∧ Rejects cfg frame cause)

/-- A request makes its entry. -/
theorem changes_insert {s s' : State} {r : ReqId} {encoded : Bool} {t : StartId} {evs : List Event}
    (hrejected : ∀ q cause, .rejected q cause ∈ evs → cause.ofFrame = false)
    (hpending : s'.pendingRequests = s.pendingRequests.insert (cfg.msgId r) r)
    (hself : (s'.requests r).outcome ≠ .resolved)
    (hother : ∀ q, q ≠ r → s'.requests q = s.requests q) :
    Changes cfg s (.request r encoded) s' ([.sent r t] ++ evs) := by
  refine .inserts rfl (fun k q hk => ?_) (fun q hq => ?_) (fun q cause hmem => ?_)
  · rw [hpending] at hk
    by_cases hkey : k = cfg.msgId r
    · subst hkey
      rw [AList.lookup_insert] at hk
      exact Or.inl ⟨rfl, (Option.some.inj hk).symm⟩
    · rw [AList.lookup_insert_ne hkey] at hk
      exact Or.inr hk
  · have hqr : q ≠ r := by
      rintro rfl
      exact hself hq
    rwa [hother q hqr] at hq
  · rcases List.mem_append.mp hmem with hmem | hmem
    · cases List.mem_singleton.mp hmem
    · exact hrejected q cause hmem

theorem changes_sendRequest (r : ReqId) (encoded : Bool) (s : State) :
    Changes cfg s (.request r encoded) (sendRequest cfg r encoded s).1
      (sendRequest cfg r encoded s).2 := by
  have hreject : Changes cfg s (.request r encoded)
      (s.setRequest r fun q => { q with outcome := .rejected }) [] :=
    .noAnswer (noAnswer_setRequest nofun)
  unfold sendRequest
  cases s.transport with
  | none => exact hreject
  | some t =>
    dsimp only
    split_ifs with hready hencoded
    · have hnone : ∀ q cause, Event.rejected q cause ∈ [] → cause.ofFrame = false := nofun
      refine changes_insert hnone rfl ?_ fun q hq => Function.update_of_ne hq ..
      dsimp only
      rw [Function.update_self]
      nofun
    · -- what `encodeBody` throws rejects the promise
      rw [reject_of_pending (by dsimp only; rw [Function.update_self])]
      refine changes_insert (fun q cause hmem => ?_) rfl ?_ fun q hq => ?_
      · cases List.mem_singleton.mp hmem
        rfl
      · dsimp only [State.setRequest]
        rw [Function.update_self]
        nofun
      · exact (Function.update_of_ne hq ..).trans (Function.update_of_ne hq ..)
    · exact hreject

/-- A request is rejected for what is in the frame with its message id. -/
theorem changes_reject {t : StartId} {bytes : Bytes} {frame : Router.FrameParts} {r : ReqId}
    {cause : Cause} {s : State} (hframe : toFrame cfg.msgpack bytes = .ok frame)
    (hlookup : s.pendingRequests.lookup frame.envelope.msgId = some r)
    (hcause : Rejects cfg frame cause) :
    Changes cfg s (.message t (.binary bytes))
      (reject r cause (clearTimeout r
        { s with pendingRequests := s.pendingRequests.erase frame.envelope.msgId })).1
      (reject r cause (clearTimeout r
        { s with pendingRequests := s.pendingRequests.erase frame.envelope.msgId })).2 := by
  obtain ⟨hnone, hevs⟩ := reject_spec r cause (clearTimeout r
    { s with pendingRequests := s.pendingRequests.erase frame.envelope.msgId })
  have hafter := (noAnswer_cleared r frame.envelope.msgId s).trans hnone
  refine .answers rfl hframe hlookup hafter.lookup (fun q hq => Or.inl (hafter.resolved q hq))
    (fun q cause' hmem => ?_)
  obtain ⟨rfl, rfl⟩ := hevs q cause' hmem
  exact ⟨rfl, hcause⟩

theorem changes_message (t : StartId) (incoming : Incoming) (s : State) :
    Changes cfg s (.message t incoming) (message cfg t incoming s).1
      (message cfg t incoming s).2 := by
  cases incoming with
  | text => exact .noAnswer (noAnswer_failTransport t s)
  | binary bytes =>
    unfold message
    dsimp only
    cases hframe : toFrame cfg.msgpack bytes with
    | error err => exact .noAnswer (noAnswer_failTransport t s)
    | ok frame =>
      dsimp only
      split_ifs with hresponse herror
      · unfold resolvePending
        cases hlookup : s.pendingRequests.lookup frame.envelope.msgId with
        | none => exact .noAnswer (.of_eq rfl rfl)
        | some r =>
          dsimp only
          split_ifs with hdecodes
          · have hcleared := noAnswer_cleared r frame.envelope.msgId s
            refine .answers rfl hframe hlookup (fun k q hk => ?_) (fun q hq => ?_) nofun
            · rw [pendingRequests_resolve] at hk
              exact hcleared.lookup k q hk
            · rcases resolved_resolve hq with hq | rfl
              · exact Or.inl (hcleared.resolved q hq)
              · exact Or.inr ⟨rfl, hresponse, hdecodes⟩
          · exact changes_reject hframe hlookup ⟨hresponse, eq_false_of_ne_true hdecodes⟩
      · unfold rejectPending
        cases hlookup : s.pendingRequests.lookup frame.envelope.msgId with
        | none => exact .noAnswer (.of_eq rfl rfl)
        | some r =>
          dsimp only
          split_ifs with hreads
          · exact changes_reject hframe hlookup ⟨herror, hreads⟩
          · exact .noAnswer (noAnswer_cleared r frame.envelope.msgId s)
      · exact .noAnswer (.of_eq rfl rfl)

theorem changes_of_step {s : State} {i : Input} {o : State × List Event} (hs : Step cfg s i o) :
    Changes cfg s i o.1 o.2 := by
  cases hs with
  | connectThrows => exact .noAnswer (noAnswer_failStart _ s)
  | validateThrows => exact .noAnswer (noAnswer_failStart _ s)
  | stop => exact .noAnswer (noAnswer_beginStop _ s)
  | stopSent => exact .noAnswer ((noAnswer_closeTransport _ s).set rfl rfl)
  | stopClosed => exact .noAnswer ((noAnswer_rejectAllPending rfl s).set rfl rfl)
  | message => exact changes_message _ _ s
  | socketClosed => exact .noAnswer (noAnswer_rejectAllPending_of_eq rfl rfl rfl)
  | socketError => exact .noAnswer (noAnswer_failTransport _ s)
  | request => exact changes_sendRequest _ _ s
  | @requestSent r _ =>
    have hset : NoAnswer s (s.setRequest r fun q => { q with sending := false }) [] :=
      noAnswer_setRequest id
    exact .noAnswer hset
  | @sendFails r hsending =>
    have hset : NoAnswer s (s.setRequest r fun q => { q with sending := false }) [] :=
      noAnswer_setRequest id
    exact .noAnswer ((hset.trans (noAnswer_cleared r (cfg.msgId r) _)).trans
      (noAnswer_reject rfl r _))
  | @timeout r htimer =>
    exact .noAnswer ((noAnswer_cleared r (cfg.msgId r) s).trans (noAnswer_reject rfl r _))
  | _ => exact .noAnswer (.of_eq rfl rfl)

/-! ### Runs -/

variable (cfg) in
/-- The entries are those of requests that were sent, and what is settled by a frame is answered. -/
structure AllAnswered (is : List Input) (tr : List Event) (s : State) : Prop where
  keyed : ∀ k r, s.pendingRequests.lookup k = some r →
    k = cfg.msgId r ∧ ∃ encoded, .request r encoded ∈ is
  resolved : ∀ r, (s.requests r).outcome = .resolved → Answered cfg is r (Resolves cfg)
  rejected : ∀ r cause, .rejected r cause ∈ tr → cause.ofFrame = true →
    Answered cfg is r fun frame => Rejects cfg frame cause

theorem AllAnswered.step {is : List Input} {tr evs : List Event} {s s' : State} {i : Input}
    (h : AllAnswered cfg is tr s) (hs : Changes cfg s i s' evs) :
    AllAnswered cfg (is ++ [i]) (tr ++ evs) s' := by
  have hkeyed : ∀ k r, s.pendingRequests.lookup k = some r →
      k = cfg.msgId r ∧ ∃ encoded, .request r encoded ∈ is ++ [i] := by
    intro k r hk
    obtain ⟨hkey, encoded, hmem⟩ := h.keyed k r hk
    exact ⟨hkey, encoded, List.mem_append_left _ hmem⟩
  have hbefore : ∀ r cause, .rejected r cause ∈ tr → cause.ofFrame = true →
      Answered cfg (is ++ [i]) r fun frame => Rejects cfg frame cause :=
    fun r cause hmem hcause => (h.rejected r cause hmem hcause).snoc i
  cases hs with
  | noAnswer hnone =>
    refine ⟨fun k r hk => hkeyed k r (hnone.lookup k r hk),
      fun r hr => (h.resolved r (hnone.resolved r hr)).snoc i, fun r cause hmem hcause => ?_⟩
    rcases List.mem_append.mp hmem with hmem | hmem
    · exact hbefore r cause hmem hcause
    · rw [hnone.rejected r cause hmem] at hcause
      cases hcause
  | @inserts r encoded hi hlookup hresolved hrejected =>
    refine ⟨fun k q hk => ?_, fun q hq => (h.resolved q (hresolved q hq)).snoc i,
      fun q cause hmem hcause => ?_⟩
    · rcases hlookup k q hk with ⟨rfl, rfl⟩ | hk
      · refine ⟨rfl, encoded, List.mem_append_right _ ?_⟩
        rw [hi]
        exact List.mem_singleton_self _
      · exact hkeyed k q hk
    · rcases List.mem_append.mp hmem with hmem | hmem
      · exact hbefore q cause hmem hcause
      · rw [hrejected q cause hmem] at hcause
        cases hcause
  | @answers t bytes frame r hi hframe hlookup hlookup' hresolved hrejected =>
    obtain ⟨hkey, hsent⟩ := h.keyed _ r hlookup
    -- the frame of this step answers the request that it was looked up for
    have hanswered : ∀ P : Router.FrameParts → Prop, P frame → Answered cfg (is ++ [i]) r P := by
      intro P hP
      subst hi
      exact ⟨is, t, bytes, frame, [], rfl, hsent, hframe, hkey, hP⟩
    refine ⟨fun k q hk => hkeyed k q (hlookup' k q hk), fun q hq => ?_,
      fun q cause hmem hcause => ?_⟩
    · rcases hresolved q hq with hq | ⟨rfl, hresolves⟩
      · exact (h.resolved q hq).snoc i
      · exact hanswered _ hresolves
    · rcases List.mem_append.mp hmem with hmem | hmem
      · exact hbefore q cause hmem hcause
      · obtain ⟨rfl, hrejects⟩ := hrejected q cause hmem
        exact hanswered _ hrejects

/-- **The answers of concurrent requests.**  A promise that is resolved was resolved by a response, and
one that is rejected for what is in a frame by an error frame, or by a response that cannot be
decoded; the frame has the message id of the request and was read after the request was sent. -/
theorem promises_answered {is : List Input} {s : State} {tr : List Event}
    (h : (handle cfg).Path (fun _ _ => True) (handle cfg).init is tr s) :
    (∀ r, (s.requests r).outcome = .resolved → Answered cfg is r (Resolves cfg)) ∧
    ∀ r cause, .rejected r cause ∈ tr → cause.ofFrame = true →
      Answered cfg is r fun frame => Rejects cfg frame cause := by
  have hall : AllAnswered cfg is tr s := by
    refine TransitionSystem.Path.invariant (P := fun is tr s => AllAnswered cfg is tr s) ?_ ?_ h
    · refine ⟨fun k r hk => ?_, nofun, nofun⟩
      exact absurd (AList.lookup_empty k ▸ hk) nofun
    · intro is tr evs s₁ s₂ i _ _ hs ih
      exact ih.step (changes_of_step (step_of_handle hs))
  exact ⟨hall.resolved, hall.rejected⟩

section Sample

/-- Of two requests, the second is resolved and the first is rejected, each for the frame with its
message id. -/
theorem promises_answered_two : ∃ is s tr, localHandle.Path (fun _ _ => True) localHandle.init is tr s ∧
    (s.requests 1).outcome = .resolved ∧ .rejected 0 .errorFrame ∈ tr ∧
    Answered localConfig is 1 (Resolves localConfig) ∧
    Answered localConfig is 0 fun frame => Rejects localConfig frame .errorFrame := by
  obtain ⟨s₁, evs, s, tr, hstart, hpath, hp⟩ := TransitionSystem.exists_path_of_exec
    (T := localHandle) (C := fun _ _ => True) (s := localHandle.init) (.start 0)
    ((connects 0).tail ++ [.request 0 true, .request 1 true,
      answers kindResponse 1 (MsgPack.encode (.map [])),
      answers kindError 0 (MsgPack.encode (.map []))])
    (fun s tr => (s.requests 1).outcome = .resolved ∧ .rejected 0 .errorFrame ∈ tr)
    (by decide +kernel)
  obtain ⟨hresolved, hrejected⟩ := of_decide_eq_true hp
  have hrun := TransitionSystem.Path.cons trivial hstart hpath
  obtain ⟨hanswer, hcause⟩ := promises_answered hrun
  exact ⟨_, s, _, hrun, hresolved, hrejected, hanswer 1 hresolved, hcause 0 .errorFrame hrejected rfl⟩

end Sample

end Multifrost.JavaScript.Handle
