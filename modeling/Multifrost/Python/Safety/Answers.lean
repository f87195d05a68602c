import Multifrost.Python.Safety.Futures

/-!
# The answers of a Python transport

A future gets its result from the receive loop alone, which looks it up under the message id of the
frame that it has just read.  An entry is in `_pending` under the message id of its request, from
the step of the request on.  So a result is a frame that was read after the request was made, with
the message id of the request (`Answer`).  Whatever else happens to the map in between, whether it is
a timeout, a cancellation, a failed send or a close, adds neither an entry nor a result
(`FutureMap.Quiet`).
-/

namespace Multifrost.Python.Transport

open FutureMap (Quiet)
open Router (FrameParts kindError kindResponse)

variable {m : Msgpack} {args : ReqId → Request}

/-! ### Frames -/

/-- The kinds of frames that `_resolve_pending` sees. -/
def IsReply (frame : FrameParts) : Prop :=
  frame.envelope.kind = kindResponse ∨ frame.envelope.kind = kindError

/-- The frame was read after the request was made, and has its message id. -/
def Answer (m : Msgpack) (args : ReqId → Request) (is : List Input) (r : ReqId)
    (frame : FrameParts) : Prop :=
  ∃ before bytes handled after, is = before ++ .receive (.binary bytes) handled :: after ∧
    .request r ∈ before ∧ decodeFrame m bytes = .ok frame ∧ IsReply frame ∧
    frame.envelope.msgId = msgId args r

theorem Answer.snoc {is : List Input} {r : ReqId} {frame : FrameParts} (h : Answer m args is r frame)
    (i : Input) : Answer m args (is ++ [i]) r frame := by
  obtain ⟨before, bytes, handled, after, rfl, h⟩ := h
  refine ⟨before, bytes, handled, after ++ [i], ?_, h⟩
  rw [List.append_assoc, List.cons_append]

/-- A message goes to the handlers of answers when it is a frame of such a kind. -/
theorem isReply_of_route {message : Message} {handler : HandlerName} {frame : FrameParts}
    (h : route m message = .ok (handler, frame))
    (hhandler : handler = .onResponse ∨ handler = .onError) :
    ∃ bytes, message = .binary bytes ∧ decodeFrame m bytes = .ok frame ∧ IsReply frame := by
  cases message with
  | text => cases h
  | binary bytes =>
    refine ⟨bytes, rfl, ?_⟩
    simp only [route] at h
    cases hframe : decodeFrame m bytes with
    | error err =>
      rw [hframe] at h
      cases h
    | ok frame' =>
      rw [hframe] at h
      dsimp only [bind, Except.bind] at h
      split_ifs at h with hresponse herror <;> cases h
      · exact ⟨rfl, Or.inl hresponse⟩
      · exact ⟨rfl, Or.inr herror⟩
      all_goals exact absurd hhandler (by decide)

theorem route_of_isReply {bytes : Bytes} {frame : FrameParts} (h : decodeFrame m bytes = .ok frame)
    (hreply : IsReply frame) :
    ∃ handler, route m (.binary bytes) = .ok (handler, frame) ∧
      (handler = .onResponse ∨ handler = .onError) := by
  simp only [route, h, bind, Except.bind]
  rcases hreply with hkind | hkind
  · exact ⟨.onResponse, if_pos hkind, Or.inl rfl⟩
  · refine ⟨.onError, ?_, Or.inr rfl⟩
    rw [hkind, if_neg (by decide), if_pos rfl]

/-! ### The map -/

theorem quiet_runFinally (s : State) : Quiet s.pending (runFinally s).1.pending :=
  FutureMap.quiet_failAll

/-- The loop ends with a reason. -/
theorem quiet_runFinally_reason (reason : String) (s : State) :
    Quiet s.pending (runFinally { s with closeReason := some reason }).1.pending :=
  quiet_runFinally { s with closeReason := some reason }

theorem quiet_finishClose (c : Closer) (s : State) :
    Quiet s.pending (finishClose c s).1.pending := FutureMap.quiet_failAll

theorem quiet_joinReceiver (c : Closer) (s : State) :
    Quiet s.pending (joinReceiver c s).1.pending := by
  unfold joinReceiver
  split_ifs
  · exact quiet_finishClose c s
  · exact .rfl

theorem quiet_closeSocket (c : Closer) (s : State) :
    Quiet s.pending (closeSocket c s).1.pending := by
  unfold closeSocket
  split_ifs
  · exact .rfl
  · exact quiet_joinReceiver c s

theorem quiet_close (c : Closer) (graceful : Bool) (s : State) :
    Quiet s.pending (close c graceful s).1.pending := by
  unfold close
  dsimp only
  split_ifs
  · exact .rfl
  · exact .rfl
  · exact quiet_closeSocket c { s with closed := true, active := false }

theorem quiet_continueLoop (s : State) : Quiet s.pending (continueLoop s).1.pending := by
  unfold continueLoop
  split_ifs
  · exact .rfl
  · exact quiet_runFinally_reason _ s

theorem quiet_dispatch (handler : HandlerName) (handled : Handled) (s : State) :
    Quiet s.pending (dispatch handler handled s).1.pending := by
  cases handled with
  | returned =>
    unfold dispatch
    dsimp only
    split_ifs
    · exact quiet_runFinally s
    · exact quiet_continueLoop s
  | awaits => exact .rfl
  | raised err => exact quiet_runFinally_reason err s

/-- What a step does to the map. -/
inductive MapStep (m : Msgpack) (args : ReqId → Request) (s : State) (i : Input) (s' : State) : Prop
  | quiet (h : Quiet s.pending s'.pending)
  | inserts {r : ReqId} (hi : i = .request r)
      (h : s'.pending = s.pending.insert (msgId args r) r)
  | resolves {bytes : Bytes} {handled : Handled} {frame : FrameParts}
      {pending : FutureMap String ReqId FrameParts String} {evs : List Event}
      (hi : i = .receive (.binary bytes) handled) (hframe : decodeFrame m bytes = .ok frame)
      (hreply : IsReply frame)
      (h : s.pending.resolve frame.envelope.msgId frame = some (pending, evs))
      (hquiet : Quiet pending s'.pending)

theorem mapStep_receive (message : Message) (handled : Handled) (s : State) :
    MapStep m args s (.receive message handled) (receive m message handled s).1 := by
  unfold receive
  split
  · exact .quiet (quiet_runFinally_reason _ s)
  · rename_i handler frame hroute
    split_ifs with hhandler
    · obtain ⟨bytes, rfl, hframe, hreply⟩ := isReply_of_route hroute hhandler
      split
      · rename_i pending evs hresolve
        exact .resolves rfl hframe hreply hresolve (quiet_continueLoop { s with pending := pending })
      · exact .quiet (quiet_dispatch handler handled s)
    · exact .quiet (quiet_dispatch handler handled s)

theorem mapStep_request (r : ReqId) (s : State) :
    MapStep m args s (.request r) (request m args r s) := by
  unfold request
  split_ifs
  · refine .inserts rfl ?_
    dsimp only
    split <;> rfl
  · exact .quiet .rfl

theorem mapStep_of_step {s : State} {i : Input} {o : State × List Event} (hs : Step m args s i o) :
    MapStep m args s i o.1 := by
  cases hs with
  | registerRaises => exact .quiet (quiet_close .start false { s with start := .raised })
  | request => exact mapStep_request _ s
  | sendRaises => exact .quiet FutureMap.quiet_discard
  | timeout => exact .quiet FutureMap.quiet_cancel
  | wakeTimedOut => exact .quiet FutureMap.quiet_discard
  | cancelWait => exact .quiet FutureMap.quiet_cancel
  | startLoop => exact .quiet (quiet_continueLoop s)
  | receive => exact mapStep_receive _ _ s
  | connectionClosed => exact .quiet (quiet_runFinally s)
  | handlerRaises => exact .quiet (quiet_runFinally_reason _ s)
  | disconnected => exact .quiet (quiet_runFinally s)
  | handled => exact .quiet (quiet_continueLoop s)
  | cancelLoop => exact .quiet (quiet_runFinally s)
  | close => exact .quiet (quiet_close _ _ s)
  | disconnectSent => exact .quiet (quiet_closeSocket _ s)
  | socketClosed => exact .quiet (quiet_joinReceiver _ { s with socket := .closed })
  | joined => exact .quiet (quiet_finishClose _ s)
  | _ => exact .quiet .rfl

/-! ### Runs -/

variable (m args) in
/-- The entries are those of requests that were made, and the results are answers. -/
structure Answered (is : List Input) (s : State) : Prop where
  keyed : ∀ k r, s.pending.entries.lookup k = some r → k = msgId args r ∧ .request r ∈ is
  result : ∀ r frame, s.pending.future r = .result frame → Answer m args is r frame

theorem Answered.step {is : List Input} {s s' : State} {i : Input} (h : Answered m args is s)
    (hs : MapStep m args s i s') : Answered m args (is ++ [i]) s' := by
  cases hs with
  | quiet hquiet =>
    refine ⟨fun k r hk => ?_, fun r frame hr => ?_⟩
    · obtain ⟨hkey, hmade⟩ := h.keyed k r (hquiet.entries k r hk)
      exact ⟨hkey, List.mem_append_left _ hmade⟩
    · exact (h.result r frame (hquiet.results r frame hr)).snoc i
  | @inserts r hi hpending =>
    subst hi
    refine ⟨fun k q hk => ?_, fun q frame hq => ?_⟩
    · rw [hpending] at hk
      rcases FutureMap.lookup_insert_cases hk with ⟨rfl, rfl⟩ | hk
      · exact ⟨rfl, List.mem_append_right _ (List.mem_singleton_self _)⟩
      · obtain ⟨hkey, hmade⟩ := h.keyed k q hk
        exact ⟨hkey, List.mem_append_left _ hmade⟩
    · rw [hpending] at hq
      exact (h.result q frame hq).snoc _
  | @resolves bytes handled frame pending evs hi hframe hreply hresolve hquiet =>
    obtain ⟨r, hlookup, hentries, hresults, -⟩ := FutureMap.resolve_cases hresolve
    obtain ⟨hkey, hmade⟩ := h.keyed _ r hlookup
    refine ⟨fun k q hk => ?_, fun q frame' hq => ?_⟩
    · obtain ⟨hkey', hmade'⟩ := h.keyed k q (hentries k q (hquiet.entries k q hk))
      exact ⟨hkey', List.mem_append_left _ hmade'⟩
    · rcases hresults q frame' (hquiet.results q frame' hq) with hbefore | ⟨rfl, rfl⟩
      · exact (h.result q frame' hbefore).snoc i
      · subst hi
        exact ⟨is, bytes, handled, [], rfl, hmade, hframe, hreply, hkey⟩

theorem answered {is : List Input} {s : State} {tr : List Event}
    (h : (transport m args).Path (fun _ _ => True) (transport m args).init is tr s) :
    Answered m args is s := by
  refine TransitionSystem.Path.invariant (P := fun is _ s => Answered m args is s) ?_ ?_ h
  · refine ⟨fun k r hk => ?_, nofun⟩
    exact absurd (AList.lookup_empty k ▸ hk) nofun
  · intro is tr evs s₁ s₂ i _ _ hs ih
    exact ih.step (mapStep_of_step (step_of_transport hs))

/-! ### Answers are final -/

/-- A future that is done stays as it is. -/
theorem MapStep.future_eq {s s' : State} {i : Input} {r : ReqId} (hs : MapStep m args s i s')
    (hdone : (s.pending.future r).done = true) : s'.pending.future r = s.pending.future r := by
  cases hs with
  | quiet hquiet => exact hquiet.done r hdone
  | inserts hi hpending => rw [hpending]; rfl
  | @resolves bytes handled frame pending evs hi hframe hreply hresolve hquiet =>
    obtain ⟨-, -, -, -, hkeeps⟩ := FutureMap.resolve_cases hresolve
    have hresolved := hkeeps r hdone
    have hdone' : (pending.future r).done = true := by
      rw [hresolved]
      exact hdone
    exact (hquiet.done r hdone').trans hresolved

theorem result_of_path {is : List Input} {s s' : State} {tr : List Event} {r : ReqId}
    {frame : FrameParts} (h : (transport m args).Path (fun _ _ => True) s is tr s')
    (hresult : s.pending.future r = .result frame) : s'.pending.future r = .result frame := by
  refine TransitionSystem.Path.invariant
    (P := fun _ _ s' => s'.pending.future r = .result frame) hresult ?_ h
  intro is tr evs s₁ s₂ i _ _ hs ih
  rw [(mapStep_of_step (step_of_transport hs)).future_eq (by rw [ih]; rfl)]
  exact ih

/-- A frame that is read settles the future that waits for it. -/
theorem future_receive {s : State} {r : ReqId} {bytes : Bytes} {handled : Handled}
    {frame : FrameParts} (hframe : decodeFrame m bytes = .ok frame) (hreply : IsReply frame)
    (hlookup : s.pending.entries.lookup frame.envelope.msgId = some r)
    (hpending : (s.pending.future r).done = false) :
    (receive m (.binary bytes) handled s).1.pending.future r = .result frame := by
  obtain ⟨handler, hroute, hhandler⟩ := route_of_isReply hframe hreply
  obtain ⟨pending, evs, hresolve, hresult⟩ :=
    FutureMap.future_resolve (a := frame) hpending hlookup
  simp only [receive, hroute, if_pos hhandler, hresolve]
  have hquiet := quiet_continueLoop { s with pending := pending }
  exact (hquiet.done r (by rw [hresult]; rfl)).trans hresult

/-- **The answers of concurrent requests**, if the message ids are distinct.  A request is answered
by a frame that was read after the request was made and has its message id, and by the first such
frame that is read while the request waits; no frame answers two requests, and no answer is
replaced. -/
theorem futures_answered (hmsg : Function.Injective (msgId args)) {is : List Input} {s : State}
    {tr : List Event}
    (h : (transport m args).Path (fun _ _ => True) (transport m args).init is tr s) :
    (∀ r frame, s.pending.future r = .result frame → Answer m args is r frame) ∧
    (∀ r q frame, s.pending.future r = .result frame → s.pending.future q = .result frame → r = q) ∧
    (∀ r frame is' tr' s', s.pending.future r = .result frame →
      (transport m args).Path (fun _ _ => True) s is' tr' s' →
      s'.pending.future r = .result frame) ∧
    ∀ r bytes handled frame o, (transport m args).step (.receive (.binary bytes) handled) s = some o →
      decodeFrame m bytes = .ok frame → IsReply frame → frame.envelope.msgId = msgId args r →
      (s.requests r).Awaits → (s.pending.future r).done = false →
      o.1.pending.future r = .result frame := by
  have hanswered := answered h
  refine ⟨hanswered.result, fun r q frame hr hq => ?_, fun r frame is' tr' s' hr hpath => ?_,
    fun r bytes handled frame o hs hframe hreply hid hawaits hpending => ?_⟩
  · obtain ⟨-, -, -, -, -, -, -, -, hid⟩ := hanswered.result r frame hr
    obtain ⟨-, -, -, -, -, -, -, -, hid'⟩ := hanswered.result q frame hq
    exact hmsg (hid.symm.trans hid')
  · exact result_of_path hpath hr
  · have hreach : (transport m args).Reachable s tr :=
      TransitionSystem.Path.invariant (P := fun _ tr s => (transport m args).Reachable s tr)
        TransitionSystem.Run.init (fun _ _ hs ih => ih.step trivial hs) h
    have hlookup : s.pending.entries.lookup (msgId args r) = some r :=
      ((inv hmsg hreach).watched r hawaits).resolve_left (by rw [hpending]; nofun)
    rw [← hid] at hlookup
    generalize hi : Input.receive (.binary bytes) handled = i at hs
    cases step_of_transport hs with
    | receive hreceiver =>
      cases hi
      exact future_receive hframe hreply hlookup hpending
    | _ => cases hi

section Sample

open Router (msgPackSerde)

/-- The response to the request 1, as it is read. -/
theorem response_one : ∃ bytes frame, response 1 = .binary bytes ∧
    decodeFrame (Bindings.rmpMsgpack msgPackSerde) bytes = .ok frame ∧ IsReply frame ∧
    frame.envelope.msgId = localId 1 := by
  have hread : ((decodeFrame (Bindings.rmpMsgpack msgPackSerde)
      ((encodeFrame (Bindings.rmpMsgpack msgPackSerde) ⟨Router.protocolVersion, kindResponse,
        localId 1, "service", "caller", .one⟩ []).toOption.getD [])).toOption.any fun frame =>
      frame.envelope.kind = kindResponse ∧ frame.envelope.msgId = localId 1) = true := by
    decide +kernel
  obtain ⟨frame, hframe, hp⟩ := (Option.any_eq_true _ _).mp hread
  obtain ⟨hkind, hid⟩ := of_decide_eq_true hp
  exact ⟨_, frame, rfl, Bindings.toOption_eq_some.mp hframe, Or.inl hkind, hid⟩

/-- The second of two requests that wait is answered first. -/
theorem futures_answered_two : ∃ is s tr bytes frame o,
    localTransport.Path (fun _ _ => True) localTransport.init is tr s ∧
    s.requests 0 = .wait ∧ s.requests 1 = .wait ∧
    localTransport.step (.receive (.binary bytes) .returned) s = some o ∧
    o.1.pending.future 1 = .result frame ∧
    Answer (Bindings.rmpMsgpack msgPackSerde) localRequest
      (is ++ [.receive (.binary bytes) .returned]) 1 frame := by
  obtain ⟨bytes, frame, hbytes, hframe, hreply, hid⟩ := response_one
  obtain ⟨s₁, evs, s, tr, hstart, hpath, hp⟩ := TransitionSystem.exists_path_of_exec
    (T := localTransport) (C := fun _ _ => True) (s := localTransport.init) .start
    [.connected true, .registered true, .startLoop, .request 0, .request 1, .acquired 0,
      .sent 0 true, .acquired 1, .sent 1 true]
    (fun s _ => s.requests 0 = .wait ∧ s.requests 1 = .wait ∧
      (s.pending.future 1).done = false ∧ s.receiver = .recv) (by decide +kernel)
  obtain ⟨hwait, hwait', hpending, hreceiver⟩ := of_decide_eq_true hp
  have hbefore := TransitionSystem.Path.cons trivial hstart hpath
  have hstep : localTransport.step (.receive (.binary bytes) .returned) s = some _ :=
    if_pos hreceiver
  have hafter := hbefore.snoc trivial hstep
  obtain ⟨-, -, -, hsettles⟩ := futures_answered msgId_localRequest_injective hbefore
  have hawaits : (s.requests 1).Awaits := by
    rw [hwait']
    trivial
  have hresult := hsettles 1 bytes .returned frame _ hstep hframe hreply hid hawaits hpending
  obtain ⟨hanswers, -⟩ := futures_answered msgId_localRequest_injective hafter
  exact ⟨_, s, _, bytes, frame, _, hbefore, hwait, hwait', hstep, hresult,
    hanswers 1 frame hresult⟩

end Sample

end Multifrost.Python.Transport
