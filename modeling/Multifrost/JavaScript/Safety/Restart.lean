import Multifrost.Bindings.Split
import Multifrost.JavaScript.Safety.HandleStep

/-!
# Why the requests of a JavaScript handle are rejected

The close callback of a transport and the end of `stop` reject whatever is pending, and with it the
requests of a later transport: the close event of a socket may come long after `close`, and `stop`
rejects after it has awaited the disconnect.  In a run in which neither finds a request that is not
its own, a request is rejected for a reason of its own.
-/

namespace Multifrost.JavaScript.Handle

open Router (kindError kindResponse)
open TransitionSystem (Historic historic_append historic_append_singleton historic_nil)

variable {cfg : Config}

/-! ### Reasons -/

/-- A request is rejected for a reason of its own: its timeout, the failure of its send, an error frame
with its message id, a stop that began after it was sent, or the end of its transport. -/
def Justified (before : List Event) : Event → Prop
  | .rejected r (.stop w) => ∃ t, [.sent r t, .stopBegan w].Sublist before
  | .rejected r (.closed t) => .sent r t ∈ before
  | .rejected _ .undecodable => False
  | .rejected _ .timeout | .rejected _ .sendFailure | .rejected _ .errorFrame => True
  | .sent .. | .stopBegan _ => True

/-- The requests that are in the map and not settled. -/
def State.waiting (s : State) : List ReqId :=
  (s.pendingRequests.entries.map Sigma.snd).filter fun r => (s.requests r).outcome = .pending

/-- All requests that wait were sent on one transport. -/
def State.WaitsFor (s : State) (t : StartId) : Prop :=
  ∀ r ∈ s.waiting, (s.requests r).sentOn = some t

instance (s : State) (t : StartId) : Decidable (s.WaitsFor t) :=
  inferInstanceAs (Decidable (∀ r ∈ _, _ = _))

/-- What a failure of a transport finds, unless it has come before. -/
def Alone (t : StartId) (s : State) : Prop := (s.transports t).closed = false → s.WaitsFor t

instance (t : StartId) (s : State) : Decidable (Alone t s) :=
  inferInstanceAs (Decidable (_ = _ → State.WaitsFor s t))

/-- A response can be decoded, if somebody waits for it. -/
def Decodes (cfg : Config) (msgId : String) (bodyBytes : Bytes) (s : State) : Prop :=
  ∀ r ∈ s.waiting, s.pendingRequests.lookup msgId = some r → cfg.decodes bodyBytes = true

instance (msgId : String) (bodyBytes : Bytes) (s : State) :
    Decidable (Decodes cfg msgId bodyBytes s) :=
  inferInstanceAs (Decidable (∀ r ∈ _, _ = _ → _ = _))

/-- Every request that waits was sent before the stop began. -/
def SentBefore (w : Stopper) (tr : List Event) (s : State) : Prop :=
  ∀ r ∈ s.waiting, ∃ t ∈ (s.requests r).sentOn, [.sent r t, .stopBegan w].Sublist tr

instance (w : Stopper) (tr : List Event) (s : State) : Decidable (SentBefore w tr s) :=
  inferInstanceAs (Decidable (∀ r ∈ _, ∃ t ∈ _, _))

/-- A transport ends while no request of another one waits, a stop ends while no request waits that was
sent after it began, and no response to a request that waits is malformed. -/
def Isolated (cfg : Config) (s : State) (tr : List Event) : Input → Prop
  | .socketClosed t => s.WaitsFor t
  | .socketError t => Alone t s
  | .message t .text => Alone t s
  | .message t (.binary bytes) =>
    match toFrame cfg.msgpack bytes with
    | .error _ => Alone t s
    | .ok frame =>
      frame.envelope.kind = kindResponse → Decodes cfg frame.envelope.msgId frame.bodyBytes s
  | .stopClosed w => SentBefore w tr s
  | _ => True

instance (s : State) (tr : List Event) : ∀ i, Decidable (Isolated cfg s tr i)
  | .socketClosed t => inferInstanceAs (Decidable (State.WaitsFor s t))
  | .socketError t | .message t .text => inferInstanceAs (Decidable (Alone t s))
  | .message t (.binary bytes) =>
    match h : toFrame cfg.msgpack bytes with
    | .error _ => decidable_of_iff (Alone t s) (by simp only [Isolated, h])
    | .ok frame =>
      decidable_of_iff
        (frame.envelope.kind = kindResponse → Decodes cfg frame.envelope.msgId frame.bodyBytes s)
        (by simp only [Isolated, h])
  | .stopClosed w => inferInstanceAs (Decidable (SentBefore w tr s))
  | .start _ | .bootstrapped .. | .registered .. | .activated _ | .assigned _ | .validated ..
  | .startThrows _ | .stop _ | .stopSent _ | .request .. | .requestSent .. | .timeout _ =>
    inferInstanceAs (Decidable True)

/-! ### What happens to the requests -/

/-- No request is sent; one that waits may be settled. -/
def Settles (s s' : State) : Prop :=
  ∀ r, (s'.requests r).sentOn = (s.requests r).sentOn ∧
    ((s'.requests r).outcome = .pending → (s.requests r).outcome = .pending)

theorem Settles.of_eq {s s' : State} (h : s'.requests = s.requests) : Settles s s' := by
  intro r
  rw [h]
  exact ⟨rfl, id⟩

theorem Settles.trans {s₁ s₂ s₃ : State} (h : Settles s₁ s₂) (h' : Settles s₂ s₃) :
    Settles s₁ s₃ :=
  fun r => ⟨(h' r).1.trans (h r).1, fun hpending => (h r).2 ((h' r).2 hpending)⟩

theorem settles_setRequest (s : State) (r : ReqId) {f : Request → Request}
    (hsent : ∀ q, (f q).sentOn = q.sentOn)
    (houtcome : ∀ q, (f q).outcome = .pending → q.outcome = .pending) :
    Settles s (s.setRequest r f) := by
  intro q
  by_cases hq : q = r
  · subst hq
    dsimp only [State.setRequest]
    rw [Function.update_self]
    exact ⟨hsent _, houtcome _⟩
  · dsimp only [State.setRequest]
    rw [Function.update_of_ne hq]
    exact ⟨rfl, id⟩

theorem settles_clearTimeout (r : ReqId) (s : State) : Settles s (clearTimeout r s) :=
  settles_setRequest s r (fun _ => rfl) fun _ => id

/-- A pending request has been taken out. -/
theorem settles_cleared (r : ReqId) (msgId : String) (s : State) :
    Settles s (clearTimeout r { s with pendingRequests := s.pendingRequests.erase msgId }) :=
  (Settles.of_eq rfl).trans (settles_clearTimeout r _)

theorem settles_reject (r : ReqId) (cause : Cause) (s : State) : Settles s (reject r cause s).1 := by
  unfold reject
  split_ifs
  · show Settles s (s.setRequest r fun q => { q with outcome := .rejected })
    refine settles_setRequest s r (fun _ => rfl) fun q hq => ?_
    cases hq
  · exact Settles.of_eq rfl

theorem settles_resolve (r : ReqId) (s : State) : Settles s (resolve r s) := by
  unfold resolve
  split_ifs
  · refine settles_setRequest s r (fun _ => rfl) fun q hq => ?_
    cases hq
  · exact Settles.of_eq rfl

theorem settles_rejectEach (cause : Cause) (rs : List ReqId) :
    ∀ s, Settles s (rejectEach cause rs s).1 := by
  induction rs with
  | nil => exact fun s => Settles.of_eq rfl
  | cons r rs ih =>
    intro s
    exact ((settles_clearTimeout r s).trans (settles_reject r cause _)).trans (ih _)

theorem settles_rejectAllPending (cause : Cause) (s : State) :
    Settles s (rejectAllPending cause s).1 :=
  (settles_rejectEach cause _ s).trans (Settles.of_eq rfl)

/-- A rejection is that of a request that was not settled. -/
theorem mem_reject {r : ReqId} {cause : Cause} {s : State} {e : Event}
    (h : e ∈ (reject r cause s).2) :
    e = .rejected r cause ∧ (s.requests r).outcome = .pending := by
  unfold reject at h
  split_ifs at h with hpending
  · exact ⟨List.mem_singleton.mp h, hpending⟩
  · cases h

theorem mem_rejectEach {cause : Cause} {e : Event} (rs : List ReqId) :
    ∀ {s : State}, e ∈ (rejectEach cause rs s).2 →
      ∃ r ∈ rs, e = .rejected r cause ∧ (s.requests r).outcome = .pending := by
  induction rs with
  | nil =>
    intro s h
    cases h
  | cons r rs ih =>
    intro s h
    rcases List.mem_append.mp h with h | h
    · obtain ⟨he, hpending⟩ := mem_reject h
      exact ⟨r, List.mem_cons_self, he, (settles_clearTimeout r s r).2 hpending⟩
    · obtain ⟨q, hq, he, hpending⟩ := ih h
      have hsettles := (settles_clearTimeout r s).trans (settles_reject r cause _)
      exact ⟨q, List.mem_cons_of_mem r hq, he, (hsettles q).2 hpending⟩

theorem mem_rejectAllPending {cause : Cause} {s : State} {e : Event}
    (h : e ∈ (rejectAllPending cause s).2) : ∃ r ∈ s.waiting, e = .rejected r cause := by
  obtain ⟨r, hr, he, hpending⟩ := mem_rejectEach _ h
  exact ⟨r, List.mem_filter.mpr ⟨hr, decide_eq_true hpending⟩, he⟩

/-! ### The history of the requests -/

/-- What is known of the requests is in the history. -/
structure Recorded (s : State) (tr : List Event) : Prop where
  sent : ∀ r t, (s.requests r).sentOn = some t → .sent r t ∈ tr
  pending : ∀ r, (s.requests r).outcome = .pending → (s.requests r).sentOn ≠ none
  justified : Historic Justified tr

theorem Justified.mono {before : List Event} {e : Event} (h : Justified before e)
    (more : List Event) : Justified (before ++ more) e := by
  cases e with
  | sent r t => trivial
  | stopBegan w => trivial
  | rejected r cause =>
    cases cause with
    | timeout => trivial
    | sendFailure => trivial
    | errorFrame => trivial
    | undecodable => exact h
    | stop w =>
      obtain ⟨t, hsub⟩ := h
      exact ⟨t, hsub.trans (List.sublist_append_left before more)⟩
    | closed t => exact List.mem_append_left more h

/-- A step that settles requests, each for a reason that is in the history. -/
theorem Recorded.settle {s s' : State} {tr evs : List Event} (h : Recorded s tr)
    (hsettles : Settles s s') (hevs : ∀ e ∈ evs, Justified tr e) : Recorded s' (tr ++ evs) := by
  refine ⟨fun r t hsent => ?_, fun r hpending => ?_, ?_⟩
  · rw [(hsettles r).1] at hsent
    exact List.mem_append_left evs (h.sent r t hsent)
  · rw [(hsettles r).1]
    exact h.pending r ((hsettles r).2 hpending)
  · refine historic_append h.justified fun before e after heq => ?_
    have hmem : e ∈ evs := by
      rw [heq]
      exact List.mem_append_right before List.mem_cons_self
    exact (hevs e hmem).mono before

/-- A step that settles nothing. -/
theorem Recorded.same {s s' : State} {tr : List Event} (h : Recorded s tr)
    (hrequests : s'.requests = s.requests) : Recorded s' (tr ++ []) :=
  h.settle (Settles.of_eq hrequests) fun _ he => absurd he List.not_mem_nil

/-- Whoever waits was sent on some transport. -/
theorem Recorded.exists_sent {s : State} {tr : List Event} (h : Recorded s tr) {r : ReqId}
    (hr : r ∈ s.waiting) : ∃ t, (s.requests r).sentOn = some t ∧ .sent r t ∈ tr := by
  have hpending : (s.requests r).outcome = .pending := of_decide_eq_true (List.mem_filter.mp hr).2
  obtain ⟨t, ht⟩ := Option.ne_none_iff_exists'.mp (h.pending r hpending)
  exact ⟨t, ht, h.sent r t ht⟩

/-! ### Steps -/

/-- A request is rejected for a reason of its own. -/
theorem Recorded.reject {s s₀ : State} {tr : List Event} (h : Recorded s tr)
    (hsettles : Settles s s₀) (r : ReqId) (cause : Cause)
    (hcause : Justified tr (.rejected r cause)) :
    Recorded (reject r cause s₀).1 (tr ++ (reject r cause s₀).2) := by
  refine h.settle (hsettles.trans (settles_reject r cause s₀)) fun e he => ?_
  rw [(mem_reject he).1]
  exact hcause

/-- The end of a transport that all pending requests were sent on. -/
theorem Recorded.closed {s : State} {tr : List Event} (h : Recorded s tr) (t : StartId) (s₀ : State)
    (hrequests : s₀.requests = s.requests) (hpending : s₀.pendingRequests = s.pendingRequests)
    (hwaits : s.WaitsFor t) :
    Recorded (rejectAllPending (.closed t) s₀).1 (tr ++ (rejectAllPending (.closed t) s₀).2) := by
  refine h.settle ((Settles.of_eq hrequests).trans (settles_rejectAllPending _ s₀)) fun e he => ?_
  obtain ⟨r, hr, rfl⟩ := mem_rejectAllPending he
  rw [State.waiting, hrequests, hpending] at hr
  exact h.sent r t (hwaits r hr)

theorem Recorded.failTransport {s : State} {tr : List Event} (h : Recorded s tr) (t : StartId)
    (halone : Alone t s) :
    Recorded (failTransport t s).1 (tr ++ (failTransport t s).2) := by
  unfold Handle.failTransport
  split_ifs with hclosed
  · exact h.same rfl
  · exact h.closed t _ rfl rfl (halone (Bool.not_eq_true _ ▸ hclosed))

theorem Recorded.resolvePending {s : State} {tr : List Event} (h : Recorded s tr) (msgId : String)
    (bodyBytes : Bytes) (hdecodes : Decodes cfg msgId bodyBytes s) :
    Recorded (resolvePending cfg msgId bodyBytes s).1
      (tr ++ (resolvePending cfg msgId bodyBytes s).2) := by
  unfold Handle.resolvePending
  split
  · exact h.same rfl
  · rename_i r hlookup
    have hcleared := settles_cleared r msgId s
    dsimp only
    split_ifs with hok
    · refine h.settle (hcleared.trans (settles_resolve r _)) fun e he => ?_
      cases he
    · refine h.settle (hcleared.trans (settles_reject r _ _)) fun e he => ?_
      -- the request is settled already
      obtain ⟨-, hpending⟩ := mem_reject he
      have hmem : r ∈ s.waiting := List.mem_filter.mpr
        ⟨List.mem_map_of_mem (AList.mem_lookup_iff.mp hlookup),
          decide_eq_true ((hcleared r).2 hpending)⟩
      exact absurd (hdecodes r hmem hlookup) hok

theorem Recorded.rejectPending {s : State} {tr : List Event} (h : Recorded s tr) (msgId : String)
    (bodyBytes : Bytes) :
    Recorded (rejectPending cfg msgId bodyBytes s).1
      (tr ++ (rejectPending cfg msgId bodyBytes s).2) := by
  unfold Handle.rejectPending
  split
  · exact h.same rfl
  · rename_i r hlookup
    have hcleared := settles_cleared r msgId s
    dsimp only
    split_ifs
    · exact h.reject hcleared r .errorFrame trivial
    · exact h.settle hcleared fun e he => absurd he List.not_mem_nil

theorem Recorded.message {s : State} {tr : List Event} (h : Recorded s tr) (t : StartId)
    (incoming : Incoming) (hc : Isolated cfg s tr (.message t incoming)) :
    Recorded (message cfg t incoming s).1 (tr ++ (message cfg t incoming s).2) := by
  cases incoming with
  | text => exact h.failTransport t hc
  | binary bytes =>
    unfold Isolated at hc
    unfold Handle.message
    dsimp only at hc ⊢
    cases hframe : toFrame cfg.msgpack bytes with
    | error err =>
      rw [hframe] at hc
      exact h.failTransport t hc
    | ok frame =>
      rw [hframe] at hc
      dsimp only at hc ⊢
      split_ifs with hresponse
      · exact h.resolvePending _ _ (hc hresponse)
      · exact h.rejectPending _ _
      · exact h.same rfl

/-- A stop rejects what was sent before it began. -/
theorem Recorded.beginStop {s : State} {tr : List Event} (h : Recorded s tr) (w : Stopper) :
    Recorded (beginStop w s).1 (tr ++ (beginStop w s).2) := by
  have hbegan : Recorded s (tr ++ [.stopBegan w]) := by
    refine h.settle (Settles.of_eq rfl) fun e he => ?_
    rw [List.mem_singleton.mp he]
    trivial
  unfold Handle.beginStop
  dsimp only
  split
  · rw [← List.append_assoc]
    refine hbegan.settle ?_ fun e he => ?_
    · have hrejected := settles_rejectAllPending (.stop w) { s with transport := none, started := false }
      exact ((Settles.of_eq rfl).trans hrejected).trans (Settles.of_eq rfl)
    · obtain ⟨r, hr, rfl⟩ := mem_rejectAllPending he
      obtain ⟨t, -, hsent⟩ := h.exists_sent hr
      exact ⟨t, List.Sublist.append (List.singleton_sublist.mpr hsent) (List.Sublist.refl _)⟩
  · split_ifs
    · exact ⟨hbegan.sent, hbegan.pending, hbegan.justified⟩
    · exact ⟨hbegan.sent, hbegan.pending, hbegan.justified⟩

theorem Recorded.sendRequest {s : State} {tr : List Event} (h : Recorded s tr) (r : ReqId)
    (encoded : Bool) :
    Recorded (sendRequest cfg r encoded s).1 (tr ++ (sendRequest cfg r encoded s).2) := by
  have hunsent : Recorded (s.setRequest r fun q => { q with outcome := .rejected }) (tr ++ []) := by
    refine h.settle (settles_setRequest s r (fun _ => rfl) fun q hq => ?_)
      fun e he => absurd he List.not_mem_nil
    cases hq
  -- the request is sent on the transport of the handle
  have hsent : ∀ t, Recorded
      { s with
        pendingRequests := s.pendingRequests.insert (cfg.msgId r) r
        requests := Function.update s.requests r ⟨.pending, true, encoded, some t⟩ }
      (tr ++ [.sent r t]) := by
    intro t
    refine ⟨fun q t' hq => ?_, fun q hq => ?_,
      historic_append_singleton.mpr ⟨h.justified, trivial⟩⟩
    · dsimp only at hq
      by_cases hqr : q = r
      · subst hqr
        rw [Function.update_self] at hq
        rw [← Option.some.inj hq]
        exact List.mem_append_right tr (List.mem_singleton.mpr rfl)
      · rw [Function.update_of_ne hqr] at hq
        exact List.mem_append_left _ (h.sent q t' hq)
    · dsimp only at hq ⊢
      by_cases hqr : q = r
      · subst hqr
        rw [Function.update_self]
        nofun
      · rw [Function.update_of_ne hqr] at hq ⊢
        exact h.pending q hq
  unfold Handle.sendRequest
  split
  · rename_i t ht
    split_ifs
    · exact hsent t
    · dsimp only
      rw [← List.append_assoc]
      exact (hsent t).reject (Settles.of_eq rfl) r .sendFailure trivial
    · exact hunsent
  · exact hunsent

theorem Recorded.failStart {s : State} {tr : List Event} (h : Recorded s tr) (k : StartId) :
    Recorded (failStart k s).1 (tr ++ (failStart k s).2) := by
  have hstarts : Recorded (s.setStart k .stop) tr := ⟨h.sent, h.pending, h.justified⟩
  exact hstarts.beginStop (.start k)

theorem Recorded.step {s : State} {i : Input} {tr : List Event} {o : State × List Event}
    (h : Recorded s tr) (hc : Isolated cfg s tr i) (hs : Step cfg s i o) :
    Recorded o.1 (tr ++ o.2) := by
  cases hs with
  | connectThrows => exact h.failStart _
  | validateThrows => exact h.failStart _
  | stop => exact h.beginStop _
  | @stopSent w t =>
    refine h.same ?_
    unfold closeTransport
    split_ifs <;> rfl
  | stopClosed =>
    refine h.settle ((settles_rejectAllPending _ s).trans (Settles.of_eq rfl)) fun e he => ?_
    obtain ⟨r, hr, rfl⟩ := mem_rejectAllPending he
    obtain ⟨t, -, hsub⟩ := hc r hr
    exact ⟨t, hsub⟩
  | message => exact h.message _ _ hc
  | @socketClosed t =>
    exact h.closed t (s.setTransport t fun transport =>
      { transport with closed := true, active := false, closeEmitted := true }) rfl rfl hc
  | socketError => exact h.failTransport _ hc
  | request => exact h.sendRequest _ _
  | @requestSent r =>
    have hdone : Settles s (s.setRequest r fun q => { q with sending := false }) :=
      settles_setRequest s r (fun _ => rfl) fun _ => id
    exact h.settle hdone fun e he => absurd he List.not_mem_nil
  | @sendFails r =>
    have hdone : Settles s (s.setRequest r fun q => { q with sending := false }) :=
      settles_setRequest s r (fun _ => rfl) fun _ => id
    have hcleared := (hdone.trans (Settles.of_eq rfl)).trans (settles_clearTimeout r
      { s.setRequest r fun q => { q with sending := false } with
        pendingRequests := s.pendingRequests.erase (cfg.msgId r) })
    exact h.reject hcleared r .sendFailure trivial
  | @timeout r =>
    have hcleared : Settles s
        (clearTimeout r { s with pendingRequests := s.pendingRequests.erase (cfg.msgId r) }) :=
      (Settles.of_eq rfl).trans (settles_clearTimeout r _)
    exact h.reject hcleared r .timeout trivial
  | _ => exact h.same rfl

/-- **A request is rejected for a reason of its own** in a run in which neither the end of a transport
nor the end of a stop finds a request that is not its own. -/
theorem rejections_justified {s : State} {tr : List Event}
    (h : (handle cfg).Run (Isolated cfg) s tr) : Historic Justified tr := by
  have hrecorded : Recorded s tr := by
    refine TransitionSystem.Run.invariant (P := Recorded) ?_ ?_ h
    · exact ⟨fun _ _ => nofun, fun _ => nofun, historic_nil⟩
    · intro s s' tr evs i _ hc hs ih
      exact ih.step hc (step_of_handle hs)
  exact hrecorded.justified

section Sample

open Router (msgPackSerde)

/-- A handle with the library of the samples; the id of a request is a text of its own length. -/
def localConfig : Config where
  msgpack := Bindings.rmpMsgpack msgPackSerde
  decodes _ := true
  errorThrows bodyBytes := bodyBytes == [0xc0]
  msgId r := String.ofList (List.replicate (r + 1) 'x')
  eager := false

def localHandle : TransitionSystem State Input Event := handle localConfig

/-- The call `k` of `start` succeeds. -/
def connects (k : StartId) : List Input :=
  [.start k, .bootstrapped k true, .registered k true, .activated k, .assigned k]

/-- The user stops the handle. -/
def stops (n : Nat) : List Input := [.stop n, .stopSent (.user n), .stopClosed (.user n)]

/-- One request times out, one is rejected by a stop, and after a restart one by the end of its own
transport. -/
theorem rejections_justified_restart : ∃ s tr, localHandle.Run (Isolated localConfig) s tr ∧
    [.rejected 0 .timeout, .rejected 1 (.stop (.user 0)), .rejected 2 (.closed 1)].Sublist tr ∧
    Historic Justified tr := by
  obtain ⟨s, tr, hrun, hp⟩ := localHandle.exists_run_of_exec (Isolated localConfig)
    (connects 0 ++ [.request 0 true, .requestSent 0 true, .timeout 0, .request 1 true] ++ stops 0 ++
      connects 1 ++ [.socketClosed 0, .request 2 true, .socketClosed 1])
    (fun _ tr => [.rejected 0 .timeout, .rejected 1 (.stop (.user 0)),
      .rejected 2 (.closed 1)].Sublist tr) (by decide +kernel)
  exact ⟨s, tr, hrun, of_decide_eq_true hp, rejections_justified hrun⟩

/-- The close event of the first transport comes late, and rejects a request of the second. -/
theorem rejected_by_late_close :
    ¬ ∀ s tr, localHandle.Reachable s tr → Historic Justified tr := by
  obtain ⟨s, tr, hrun, hp⟩ := localHandle.exists_reachable_of_exec
    (connects 0 ++ stops 0 ++ connects 1 ++ [.request 0 true, .requestSent 0 true, .socketClosed 0])
    (fun _ tr => tr = [.stopBegan (.user 0), .sent 0 1] ++ [.rejected 0 (.closed 0)])
    (by decide +kernel)
  intro h
  have hsent : Event.sent 0 0 ∈ [.stopBegan (.user 0), .sent 0 1] :=
    h s tr hrun _ _ [] (of_decide_eq_true hp)
  revert hsent
  decide

end Sample

end Multifrost.JavaScript.Handle
