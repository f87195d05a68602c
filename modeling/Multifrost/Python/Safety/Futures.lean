import Multifrost.Bindings.Split
import Multifrost.Python.Safety.Step

/-!
# No future of a Python transport is stranded

A request puts its future into `_pending` in the step in which it finds the transport active.  From
then on the future is done or in `_pending`, until the request returns.  The `finally` block of the
receive loop and the end of `close` settle what is there, and after either of them the transport is
closed for good.
-/

namespace Multifrost.Python.Transport

open FutureMap (Once Watched)
open Router (FrameParts)

variable {m : Msgpack} {args : ReqId → Request}

/-- The `finally` block has run, or the call of `close` that set `_closed` has come to its end. -/
def Ended (s : State) : Prop := s.receiver = .ended ∨ ∃ c, s.closing = some (c, .finished)

/-- The request awaits its future, or will. -/
def RequestPc.Awaits : RequestPc → Prop
  | .unstarted | .returned => False
  | _ => True

variable (args) in
/-- The key of a request in `_pending`. -/
def msgId (r : ReqId) : String := (args r).envelope.msgId

variable (args) in
structure Inv (s : State) (tr : List Event) : Prop where
  watched : ∀ r, (s.requests r).Awaits → Watched (msgId args) s.pending r
  once : Once s.pending.future tr
  closing : s.closing ≠ none → s.closed = true
  ended : Ended s → s.closed = true ∧ s.pending.entries = ∅

/-! ### Closing -/

/-- Nothing changes for the requests. -/
theorem Inv.of_state {s s' : State} {tr : List Event} (h : Inv args s tr)
    (hpending : s'.pending = s.pending) (hrequests : s'.requests = s.requests)
    (hclosing : s'.closing ≠ none → s'.closed = true)
    (hended : Ended s' → s'.closed = true ∧ s'.pending.entries = ∅) : Inv args s' tr := by
  refine ⟨?_, ?_, hclosing, hended⟩
  · rw [hpending, hrequests]
    exact h.watched
  · rw [hpending]
    exact h.once

theorem Inv.failPending {s : State} {tr : List Event} (h : Inv args s tr) (reason : String)
    (hclosed : s.closed = true) :
    Inv args (failPending reason s).1 (tr ++ (failPending reason s).2) :=
  ⟨fun r hr => Or.inl (FutureMap.done_failAll (h.watched r hr)), h.once.failAll, h.closing,
    fun _ => ⟨hclosed, rfl⟩⟩

theorem Inv.runFinally {s : State} {tr : List Event} (h : Inv args s tr) :
    Inv args (runFinally s).1 (tr ++ (runFinally s).2) := by
  have hclosed : Inv args { s with active := false, closed := true } tr :=
    ⟨h.watched, h.once, fun _ => rfl, fun hended => ⟨rfl, (h.ended hended).2⟩⟩
  have hfailed := hclosed.failPending ((s.closeReason.filter (· ≠ "")).getD "transport closed") rfl
  exact ⟨hfailed.watched, hfailed.once, fun _ => rfl, fun _ => ⟨rfl, rfl⟩⟩

theorem Inv.finishClose {s : State} {tr : List Event} {c : Closer} (h : Inv args s tr)
    (hclosed : s.closed = true) :
    Inv args (finishClose c s).1 (tr ++ (finishClose c s).2) := by
  have hfailed := h.failPending "transport closed" hclosed
  exact ⟨hfailed.watched, hfailed.once, fun _ => hclosed, fun _ => ⟨hclosed, rfl⟩⟩

/-- `close` goes on, or stays where it is. -/
theorem Inv.closing_at {s : State} {tr : List Event} {c : Closer} {pc : ClosePc}
    (h : Inv args s tr) (hclosed : s.closed = true) (hpc : pc ≠ .finished) :
    Inv args { s with closing := some (c, pc) } (tr ++ []) := by
  rw [List.append_nil]
  refine h.of_state rfl rfl (fun _ => hclosed) fun hended => ?_
  rcases hended with hreceiver | ⟨c', heq⟩
  · exact h.ended (Or.inl hreceiver)
  · exact absurd (congrArg Prod.snd (Option.some.inj heq)) hpc

theorem Inv.joinReceiver {s : State} {tr : List Event} {c : Closer} (h : Inv args s tr)
    (hclosed : s.closed = true) :
    Inv args (joinReceiver c s).1 (tr ++ (joinReceiver c s).2) := by
  unfold Transport.joinReceiver
  split_ifs
  · exact h.finishClose hclosed
  · exact h.closing_at hclosed nofun

theorem Inv.closeSocket {s : State} {tr : List Event} {c : Closer} (h : Inv args s tr)
    (hclosed : s.closed = true) :
    Inv args (closeSocket c s).1 (tr ++ (closeSocket c s).2) := by
  unfold Transport.closeSocket
  split_ifs
  · exact h.closing_at hclosed nofun
  · exact h.joinReceiver hclosed

theorem Inv.close {s : State} {tr : List Event} {c : Closer} {graceful : Bool}
    (h : Inv args s tr) : Inv args (close c graceful s).1 (tr ++ (close c graceful s).2) := by
  unfold Transport.close
  dsimp only
  have hset : Inv args { s with closed := true, active := false } tr :=
    ⟨h.watched, h.once, fun _ => rfl, fun hended => ⟨rfl, (h.ended hended).2⟩⟩
  split_ifs
  · rw [List.append_nil]
    exact ⟨h.watched, h.once, h.closing, h.ended⟩
  · exact hset.closing_at rfl nofun
  · exact hset.closeSocket rfl

/-- Whoever is closing the transport has set `_closed`. -/
theorem Inv.closed_of_closing {s : State} {tr : List Event} {c : Closer} {pc : ClosePc}
    (h : Inv args s tr) (heq : s.closing = some (c, pc)) : s.closed = true := by
  refine h.closing ?_
  rw [heq]
  nofun

/-! ### The receive loop -/

/-- The loop goes to an await. -/
theorem Inv.receiver_at {s : State} {tr : List Event} {pc : ReceiverPc} (h : Inv args s tr)
    (hpc : pc ≠ .ended) : Inv args { s with receiver := pc } (tr ++ []) := by
  rw [List.append_nil]
  refine h.of_state rfl rfl h.closing fun hended => ?_
  exact h.ended (Or.inr (hended.resolve_left hpc))

theorem Inv.with_reason {s : State} {tr : List Event} (h : Inv args s tr) (reason : Option String) :
    Inv args { s with closeReason := reason } tr := ⟨h.watched, h.once, h.closing, h.ended⟩

theorem Inv.continueLoop {s : State} {tr : List Event} (h : Inv args s tr) :
    Inv args (continueLoop s).1 (tr ++ (continueLoop s).2) := by
  unfold Transport.continueLoop
  split_ifs
  · exact h.receiver_at nofun
  · exact (h.with_reason _).runFinally

theorem Inv.dispatch {s : State} {tr : List Event} (h : Inv args s tr) (handler : HandlerName)
    (handled : Handled) : Inv args (dispatch handler handled s).1
      (tr ++ (dispatch handler handled s).2) := by
  cases handled with
  | returned =>
    unfold Transport.dispatch
    dsimp only
    split_ifs
    · exact h.runFinally
    · exact h.continueLoop
  | awaits => exact h.receiver_at nofun
  | raised err => exact (h.with_reason _).runFinally

theorem Inv.resolve {s : State} {tr evs : List Event} {frame : FrameParts}
    {pending : FutureMap String ReqId FrameParts String} (h : Inv args s tr)
    (hs : s.pending.resolve frame.envelope.msgId frame = some (pending, evs)) :
    Inv args { s with pending := pending } (tr ++ evs) := by
  refine ⟨fun r hr => (h.watched r hr).resolve hs, h.once.resolve hs, h.closing, fun hended => ?_⟩
  -- nothing is found in a map that is empty
  obtain ⟨r, hlookup, -⟩ := Option.map_eq_some_iff.mp hs
  rw [(h.ended hended).2, AList.lookup_empty] at hlookup
  cases hlookup

theorem Inv.receive {s : State} {tr : List Event} (h : Inv args s tr) (message : Message)
    (handled : Handled) : Inv args (receive m message handled s).1
      (tr ++ (receive m message handled s).2) := by
  unfold Transport.receive
  split
  · exact (h.with_reason _).runFinally
  · rename_i handler frame hroute
    split_ifs
    · split
      · rename_i pending evs hresolve
        have hcontinued := (h.resolve hresolve).continueLoop
        rw [List.append_assoc] at hcontinued
        exact hcontinued
      · exact h.dispatch handler handled
    · exact h.dispatch handler handled

/-! ### Requests -/

/-- A request goes on; its future stays done or in the map. -/
theorem Inv.request_at {s : State} {tr : List Event} {r : ReqId} {pc : RequestPc}
    {pending : FutureMap String ReqId FrameParts String} (h : Inv args s tr)
    (hwatched : ∀ q, q ≠ r → Watched (msgId args) s.pending q → Watched (msgId args) pending q)
    (hself : pc.Awaits → Watched (msgId args) pending r) (honce : Once pending.future tr)
    (hended : Ended s → pending.entries = ∅) :
    Inv args ({ s with pending := pending }.setRequest r pc) (tr ++ []) := by
  rw [List.append_nil]
  refine ⟨fun q hq => ?_, honce, h.closing, fun he => ⟨(h.ended he).1, hended he⟩⟩
  by_cases hqr : q = r
  · subst hqr
    rw [State.setRequest_self] at hq
    exact hself hq
  · rw [State.setRequest_of_ne hqr] at hq
    exact hwatched q hqr (h.watched q hq)

/-- A request goes on and leaves the map alone. -/
theorem Inv.setRequest {s : State} {tr : List Event} {r : ReqId} {pc : RequestPc}
    (h : Inv args s tr) (hself : pc.Awaits → (s.requests r).Awaits) :
    Inv args (s.setRequest r pc) (tr ++ []) :=
  h.request_at (fun _ _ hq => hq) (fun hpc => h.watched r (hself hpc)) h.once fun he => (h.ended he).2

/-- A request takes its entry away and returns. -/
theorem Inv.discard {s : State} {tr : List Event} {r : ReqId} (h : Inv args s tr)
    (hmsg : Function.Injective (msgId args)) :
    Inv args ({ s with pending := s.pending.discard (msgId args r) }.setRequest r .returned)
      (tr ++ []) := by
  refine h.request_at (fun q hq hwatched => hwatched.discard fun heq => hq (hmsg heq)) nofun h.once ?_
  intro he
  have hempty : s.pending.entries = ∅ := (h.ended he).2
  dsimp only [FutureMap.discard]
  rw [hempty]
  exact AList.ext rfl

/-- A request stops waiting. -/
theorem Inv.cancel {s : State} {tr : List Event} {r : ReqId} {pc : RequestPc} (h : Inv args s tr) :
    Inv args ({ s with pending := s.pending.cancel r }.setRequest r pc) (tr ++ []) := by
  refine h.request_at (fun q _ hwatched => hwatched.cancel)
    (fun _ => Or.inl FutureMap.done_cancel_self) (h.once.mono fun _ => FutureMap.done_cancel) ?_
  exact fun he => (h.ended he).2

theorem Inv.request {s : State} {tr : List Event} {r : ReqId} (h : Inv args s tr)
    (hmsg : Function.Injective (msgId args)) :
    Inv args (request m args r s) (tr ++ []) := by
  unfold Transport.request
  split_ifs with hactive
  · -- an active transport has not ended
    have hnot : ¬ Ended s := by
      intro he
      rw [State.isActive, (h.ended he).1, Bool.not_true, Bool.and_false] at hactive
      cases hactive
    have hinserted : ∀ pc, Inv args ({ s with pending := s.pending.insert (msgId args r) r }.setRequest
        r pc) (tr ++ []) := by
      intro pc
      refine h.request_at (fun q hq hwatched => ?_) (fun _ => ?_) h.once fun he => absurd he hnot
      · exact Watched.insert (Or.inl hwatched) hmsg
      · exact Watched.insert (Or.inr rfl) hmsg
    dsimp only
    split
    · exact hinserted _
    · exact hinserted _
  · exact h.setRequest nofun

/-! ### Runs -/

theorem Inv.step {s : State} {i : Input} {tr : List Event} {o : State × List Event}
    (h : Inv args s tr) (hmsg : Function.Injective (msgId args)) (hs : Step m args s i o) :
    Inv args o.1 (tr ++ o.2) := by
  have hsame : Inv args s (tr ++ []) := by
    rw [List.append_nil]
    exact h
  cases hs with
  | registered =>
    have hactive : Inv args { s with start := .returned, closedEvent := false, active := true } tr :=
      ⟨h.watched, h.once, h.closing, h.ended⟩
    exact hactive.receiver_at nofun
  | registerRaises =>
    have hraised : Inv args { s with start := .raised } tr :=
      ⟨h.watched, h.once, h.closing, h.ended⟩
    exact hraised.close
  | request => exact h.request hmsg
  | acquired hpc => exact h.setRequest fun _ => by rw [hpc]; trivial
  | sent hpc => exact h.setRequest fun _ => by rw [hpc]; trivial
  | sendRaises => exact h.discard hmsg
  | timeout => exact h.cancel
  | wake => exact h.setRequest nofun
  | wakeTimedOut => exact h.discard hmsg
  | wakeCancelled => exact h.setRequest nofun
  | cancelSend => exact h.setRequest nofun
  | cancelWait => exact h.cancel
  | startLoop => exact h.continueLoop
  | receive => exact h.receive _ _
  | connectionClosed => exact h.runFinally
  | handlerRaises => exact (h.with_reason _).runFinally
  | disconnected => exact h.runFinally
  | handled => exact h.continueLoop
  | dropLoop => exact h.receiver_at nofun
  | cancelLoop => exact h.runFinally
  | close => exact h.close
  | disconnectSent heq => exact h.closeSocket (h.closed_of_closing heq)
  | socketClosed heq =>
    have hsocket : Inv args { s with socket := .closed } tr :=
      ⟨h.watched, h.once, h.closing, h.ended⟩
    exact hsocket.joinReceiver (h.closed_of_closing heq)
  | joined heq => exact h.finishClose (h.closed_of_closing heq)
  | cancelClose heq => exact h.closing_at (heq.elim h.closed_of_closing h.closed_of_closing) nofun
  | _ => exact ⟨hsame.watched, hsame.once, h.closing, h.ended⟩

theorem inv {s : State} {tr : List Event} (hmsg : Function.Injective (msgId args))
    (h : (transport m args).Reachable s tr) : Inv args s tr := by
  refine TransitionSystem.Reachable.invariant (P := Inv args) ?_ ?_ h
  · refine ⟨fun r hr => hr.elim, FutureMap.once_nil, fun hne => absurd rfl hne, ?_⟩
    rintro (hreceiver | ⟨c, hclosing⟩)
    · cases hreceiver
    · cases hclosing
  · intro s s' tr evs i _ hs ih
    exact ih.step hmsg (step_of_transport hs)

/-! ### A transport that is closed and drained -/

def Drained (s : State) : Prop := s.closed = true ∧ s.pending.entries = ∅

theorem drained_runFinally (s : State) : Drained (runFinally s).1 := ⟨rfl, rfl⟩

theorem Drained.continueLoop {s : State} (h : Drained s) : Drained (continueLoop s).1 := by
  unfold Transport.continueLoop
  split_ifs
  · exact h
  · exact drained_runFinally _

theorem Drained.dispatch {s : State} (h : Drained s) (handler : HandlerName) (handled : Handled) :
    Drained (dispatch handler handled s).1 := by
  cases handled with
  | returned =>
    unfold Transport.dispatch
    dsimp only
    split_ifs
    · exact drained_runFinally _
    · exact h.continueLoop
  | awaits => exact h
  | raised err => exact drained_runFinally _

theorem Drained.receive {s : State} (h : Drained s) (message : Message) (handled : Handled) :
    Drained (receive m message handled s).1 := by
  unfold Transport.receive
  split
  · exact drained_runFinally _
  · rename_i handler frame hroute
    split_ifs
    · split
      · rename_i pending evs hresolve
        -- nothing is found in a map that is empty
        obtain ⟨r, hlookup, -⟩ := Option.map_eq_some_iff.mp hresolve
        rw [h.2, AList.lookup_empty] at hlookup
        cases hlookup
      · exact h.dispatch handler handled
    · exact h.dispatch handler handled

theorem Drained.joinReceiver {s : State} (h : Drained s) (c : Closer) :
    Drained (joinReceiver c s).1 := by
  unfold Transport.joinReceiver
  split_ifs
  · exact ⟨h.1, rfl⟩
  · exact h

theorem Drained.closeSocket {s : State} (h : Drained s) (c : Closer) :
    Drained (closeSocket c s).1 := by
  unfold Transport.closeSocket
  split_ifs
  · exact h
  · exact h.joinReceiver c

/-- A call of `close` that comes later returns at once. -/
theorem Drained.close {s : State} (h : Drained s) (c : Closer) (graceful : Bool) :
    Drained (close c graceful s).1 := by
  unfold Transport.close
  rw [if_pos h.1]
  exact h

theorem Drained.discard {s : State} (h : Drained s) (r : ReqId) (k : String) :
    Drained ({ s with pending := s.pending.discard k }.setRequest r .returned) := by
  refine ⟨h.1, ?_⟩
  dsimp only [State.setRequest, FutureMap.discard]
  rw [h.2]
  exact AList.ext rfl

theorem Drained.request {s : State} (h : Drained s) (r : ReqId) :
    Drained (request m args r s) := by
  have hinactive : s.isActive = false := by
    rw [State.isActive, h.1, Bool.not_true, Bool.and_false]
  unfold Transport.request
  rw [hinactive]
  exact h

theorem Drained.step {s : State} {i : Input} {o : State × List Event} (h : Drained s)
    (hs : Step m args s i o) : Drained o.1 := by
  cases hs with
  | registerRaises =>
    have hraised : Drained { s with start := .raised } := h
    exact hraised.close .start false
  | request => exact h.request _
  | sendRaises => exact h.discard _ _
  | wakeTimedOut => exact h.discard _ _
  | startLoop => exact h.continueLoop
  | receive => exact h.receive _ _
  | connectionClosed => exact drained_runFinally s
  | handlerRaises => exact drained_runFinally _
  | disconnected => exact drained_runFinally s
  | handled => exact h.continueLoop
  | cancelLoop => exact drained_runFinally s
  | close => exact h.close _ _
  | disconnectSent => exact h.closeSocket _
  | socketClosed =>
    have hsocket : Drained { s with socket := .closed } := h
    exact hsocket.joinReceiver _
  | joined => exact ⟨h.1, rfl⟩
  | _ => exact h

/-! ### No future is stranded -/

variable (m args) in
/-- Once the transport has ended, nobody waits in vain and nothing is added any more. -/
def NothingPending (s : State) : Prop :=
  s.pending.entries = ∅ ∧ (∀ r, (s.requests r).Awaits → (s.pending.future r).done = true) ∧
    ∀ is tr s', (transport m args).Path (fun _ _ => True) s is tr s' → s'.pending.entries = ∅

/-- **No future is stranded, and none is settled twice**, if the message ids are distinct. -/
theorem futures_settled (hmsg : Function.Injective (msgId args)) {s : State} {tr : List Event}
    (h : (transport m args).Reachable s tr) :
    (Ended s → NothingPending m args s) ∧ (settled tr).Nodup ∧
      ∀ r, FutureEvent.invalidState r ∉ tr := by
  have hinv := inv hmsg h
  refine ⟨fun hended => ?_, hinv.once.2.1, hinv.once.1⟩
  have hdrained : Drained s := hinv.ended hended
  refine ⟨hdrained.2, fun r hr => ?_, fun is tr' s' hpath => ?_⟩
  · -- it is not in the map
    refine (hinv.watched r hr).resolve_right fun hlookup => ?_
    rw [hdrained.2, AList.lookup_empty] at hlookup
    cases hlookup
  · have hlater : Drained s' :=
      TransitionSystem.Path.invariant (P := fun _ _ s' => Drained s') hdrained
        (fun _ _ hs ih => ih.step (step_of_transport hs)) hpath
    exact hlater.2

section Sample

open Router (kindCall kindResponse msgPackSerde protocolVersion)

/-- The id of a request: as many letters as there were requests before it, and one. -/
def localId (r : ReqId) : String := String.ofList (List.replicate (r + 1) 'x')

def localRequest (r : ReqId) : Request :=
  ⟨⟨protocolVersion, kindCall, localId r, "caller", "service", .one⟩, [], true⟩

theorem msgId_localRequest_injective : Function.Injective (msgId localRequest) := by
  intro r q h
  have hlist : List.replicate (r + 1) 'x' = List.replicate (q + 1) 'x' := String.ofList_injective h
  have hlength := congrArg List.length hlist
  rw [List.length_replicate, List.length_replicate] at hlength
  exact Nat.succ.inj hlength

/-- The transport with the library of the samples. -/
def localTransport : TransitionSystem State Input Event :=
  transport (Bindings.rmpMsgpack msgPackSerde) localRequest

/-- The response to the request `r`. -/
def response (r : ReqId) : Message :=
  .binary ((encodeFrame (Bindings.rmpMsgpack msgPackSerde)
    ⟨protocolVersion, kindResponse, localId r, "service", "caller", .one⟩ []).toOption.getD [])

/-- The transport is started, and its loop runs. -/
def starts : List Input := [.start, .connected true, .registered true, .startLoop]

/-- The first of two requests is answered; the second waits when the transport is closed, and the
third comes too late. -/
theorem futures_settled_three : ∃ s tr, localTransport.Reachable s tr ∧
    s.closing = some (.stop 0, .finished) ∧ s.requests 1 = .wait ∧ settled tr = [0, 1] ∧
    NothingPending (Bindings.rmpMsgpack msgPackSerde) localRequest s := by
  obtain ⟨s, tr, hrun, hp⟩ := localTransport.exists_reachable_of_exec
    (starts ++ [.request 0, .acquired 0, .request 1, .sent 0 true, .acquired 1, .sent 1 true,
      .receive (response 0) .returned, .wake 0, .close (.stop 0) true, .closing, .request 2, .closing,
      .cancelLoop, .closing])
    (fun s tr => s.closing = some (.stop 0, .finished) ∧ s.requests 1 = .wait ∧ settled tr = [0, 1])
    (by decide +kernel)
  obtain ⟨hclosing, hwait, hsettled⟩ := of_decide_eq_true hp
  obtain ⟨hended, -⟩ := futures_settled msgId_localRequest_injective hrun
  exact ⟨s, tr, hrun, hclosing, hwait, hsettled, hended (Or.inr ⟨_, hclosing⟩)⟩

end Sample

end Multifrost.Python.Transport
