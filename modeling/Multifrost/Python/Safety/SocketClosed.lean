import Multifrost.Python.Safety.Futures

/-!
# A Python transport that is stopped has closed its socket

`close` closes the socket, unless `_closed` is set: then it returns at once.  `_closed` is also set by
the `finally` block of the receive loop, which leaves the socket open.  So a message that ends the loop
makes a transport that can no longer be closed, and its peer stays registered at the router.  The same
happens to a call of `close` that finds another one under way, or a `start` that connects after it.

A stop closes the socket in every run in which the loop goes on as long as the socket is open and
nobody has called `close`, and in which the calls of `close` do not meet.
-/

namespace Multifrost.Python.Transport

variable {m : Msgpack} {args : ReqId → Request}

/-- Whoever has stopped the transport finds the socket closed, or that there never was one. -/
def StopCloses (s : State) : Prop := ∀ n, s.returned (.stop n) = true → s.socket ≠ .opened

/-! ### Orderly runs -/

/-- What a handler does that ends the loop. -/
def Handled.endsLoop (handler : HandlerName) : Handled → Bool
  | .returned => handler = .onDisconnect
  | .awaits => false
  | .raised _ => true

/-- A message that ends the loop: one that goes to no handler, a disconnect frame, or one whose handler
raises. -/
def endsLoop (m : Msgpack) (s : State) (message : Message) (handled : Handled) : Bool :=
  match route m message with
  | .error _ => true
  | .ok (handler, frame) =>
    handled.endsLoop handler &&
      !((handler = .onResponse ∨ handler = .onError) &&
        (s.pending.entries.lookup frame.envelope.msgId).isSome)

/-- While the socket is open and nobody has called `close`, nothing ends the loop.  On an open socket
`close` is called once, and `ws_connect` does not succeed after it. -/
def Orderly (m : Msgpack) (s : State) : Input → Prop
  | .connected ok => ok = true → s.closed = false
  | .receive message handled =>
    s.socket = .opened → s.closed = false → endsLoop m s message handled = false
  | .handled err =>
    s.socket = .opened → s.closed = false → err.isNone = true ∧ s.receiver ≠ .dispatch true
  | .cancelLoop => s.socket = .opened → s.receiver ≠ .scheduled → s.closed = true
  | .close _ _ => s.socket = .opened → s.closing.isNone = true
  | _ => True

instance (s : State) : ∀ i, Decidable (Orderly m s i)
  | .connected ok => inferInstanceAs (Decidable (ok = true → s.closed = false))
  | .receive .. => inferInstanceAs (Decidable (_ = _ → _ = _ → _ = _))
  | .handled _ => inferInstanceAs (Decidable (_ = _ → _ = _ → _ = _ ∧ _ ≠ _))
  | .cancelLoop => inferInstanceAs (Decidable (_ = _ → _ ≠ _ → _ = _))
  | .close .. => inferInstanceAs (Decidable (_ = _ → _ = _))
  | .start | .registered _ | .cancelStart | .request _ | .acquired _ | .sent .. | .timeout _ | .wake _
  | .cancelRequest _ | .startLoop | .connectionClosed | .closing | .cancelClose | .connectionLost =>
    inferInstanceAs (Decidable True)

/-- The call of `close` is still to close the socket, or was cancelled before it could. -/
def ClosePc.Holds : ClosePc → Prop
  | .disconnect | .closeSocket | .raised => True
  | .join | .finished => False

structure Closes (s : State) : Prop where
  websocket : s.socket = .opened → s.websocket = true
  closing : s.closing ≠ none → s.closed = true
  returned : ∀ c, s.returned c = true → s.closed = true
  held : s.closed = true → s.socket = .opened → ∃ c pc, s.closing = some (c, pc) ∧ pc.Holds
  stopped : StopCloses s

/-! ### Closing -/

theorem Closes.runFinally {s : State} (h : Closes s)
    (hclosed : s.socket = .opened → s.closed = true) : Closes (runFinally s).1 :=
  ⟨h.websocket, fun _ => rfl, fun _ _ => rfl, fun _ hopen => h.held (hclosed hopen) hopen, h.stopped⟩

theorem closes_finishClose {s : State} (c : Closer) (hclosed : s.closed = true)
    (hsocket : s.socket ≠ .opened) : Closes (finishClose c s).1 :=
  ⟨fun hopen => absurd hopen hsocket, fun _ => hclosed, fun _ _ => hclosed,
    fun _ hopen => absurd hopen hsocket, fun _ _ => hsocket⟩

/-- A call of `close` goes to an await. -/
theorem Closes.closing_at {s : State} (h : Closes s) (c : Closer) (pc : ClosePc)
    (hclosed : s.closed = true) (hpc : s.socket = .opened → pc.Holds) :
    Closes { s with closing := some (c, pc) } :=
  ⟨h.websocket, fun _ => hclosed, fun _ _ => hclosed, fun _ hopen => ⟨c, pc, rfl, hpc hopen⟩,
    h.stopped⟩

theorem Closes.joinReceiver {s : State} (h : Closes s) (c : Closer) (hclosed : s.closed = true)
    (hsocket : s.socket ≠ .opened) : Closes (joinReceiver c s).1 := by
  unfold Transport.joinReceiver
  split_ifs
  · exact closes_finishClose c hclosed hsocket
  · exact h.closing_at c .join hclosed fun hopen => absurd hopen hsocket

theorem Closes.closeSocket {s : State} (h : Closes s) (c : Closer) (hclosed : s.closed = true) :
    Closes (closeSocket c s).1 := by
  unfold Transport.closeSocket
  split_ifs with hwebsocket
  · exact h.closing_at c .closeSocket hclosed fun _ => trivial
  · exact h.joinReceiver c hclosed fun hopen => hwebsocket (h.websocket hopen)

/-- `close` sets `_closed` and goes on from there. -/
theorem Closes.close_unclosed {s : State} (h : Closes s) (c : Closer) (graceful : Bool)
    (hclosed : s.closed = false) : Closes (close c graceful s).1 := by
  unfold Transport.close
  rw [if_neg (by rw [hclosed]; nofun)]
  dsimp only
  split_ifs with hgraceful
  · exact ⟨h.websocket, fun _ => rfl, fun _ _ => rfl, fun _ _ => ⟨c, .disconnect, rfl, trivial⟩,
      h.stopped⟩
  · unfold Transport.closeSocket
    split_ifs with hwebsocket
    · exact ⟨h.websocket, fun _ => rfl, fun _ _ => rfl, fun _ _ => ⟨c, .closeSocket, rfl, trivial⟩,
        h.stopped⟩
    · have hsocket : s.socket ≠ .opened := fun hopen => hwebsocket (h.websocket hopen)
      have hset : Closes { s with closed := true, active := false } :=
        ⟨h.websocket, fun _ => rfl, fun _ _ => rfl, fun _ hopen => absurd hopen hsocket, h.stopped⟩
      exact hset.joinReceiver c rfl hsocket

/-- `close` returns at once; who asks for it finds no open socket. -/
theorem Closes.close_closed {s : State} (h : Closes s) (c : Closer) (graceful : Bool)
    (hclosed : s.closed = true) (hsocket : c ≠ .start → s.socket ≠ .opened) :
    Closes (close c graceful s).1 := by
  unfold Transport.close
  rw [if_pos hclosed]
  refine ⟨h.websocket, h.closing, fun _ _ => hclosed, h.held, fun n hn => ?_⟩
  dsimp only at hn
  by_cases hc : .stop n = c
  · exact hsocket (hc ▸ nofun)
  · rw [Function.update_of_ne hc] at hn
    exact h.stopped n hn

theorem Closes.close {s : State} (h : Closes s) (c : Closer) (graceful : Bool)
    (hc : c ≠ .start → s.socket = .opened → s.closing.isNone = true) :
    Closes (close c graceful s).1 := by
  cases hclosed : s.closed with
  | false => exact h.close_unclosed c graceful hclosed
  | true =>
    refine h.close_closed c graceful hclosed fun hstop hopen => ?_
    obtain ⟨c', pc, hclosing, -⟩ := h.held hclosed hopen
    have hnone := hc hstop hopen
    rw [hclosing] at hnone
    cases hnone

/-- Whoever is closing the transport has set `_closed`. -/
theorem Closes.closed_of_closing {s : State} {c : Closer} {pc : ClosePc} (h : Closes s)
    (heq : s.closing = some (c, pc)) : s.closed = true := by
  refine h.closing ?_
  rw [heq]
  nofun

/-- A call of `close` that awaits the receiver has closed the socket. -/
theorem Closes.not_opened_of_join {s : State} {c : Closer} (h : Closes s)
    (heq : s.closing = some (c, .join)) : s.socket ≠ .opened := by
  intro hopen
  obtain ⟨c', pc, hclosing, hpc⟩ := h.held (h.closed_of_closing heq) hopen
  rw [heq] at hclosing
  cases hclosing
  exact hpc

/-! ### The receive loop -/

/-- The loop goes on, as long as the socket is open. -/
theorem Closes.continueLoop {s : State} (h : Closes s) : Closes (continueLoop s).1 := by
  unfold Transport.continueLoop
  split_ifs with hwebsocket
  · exact ⟨h.websocket, h.closing, h.returned, h.held, h.stopped⟩
  · have hreason : Closes { s with closeReason := some "'NoneType' object has no attribute 'recv'" } :=
      ⟨h.websocket, h.closing, h.returned, h.held, h.stopped⟩
    exact hreason.runFinally fun hopen => absurd (h.websocket hopen) hwebsocket

theorem Closes.dispatch {s : State} (h : Closes s) (handler : HandlerName) (handled : Handled)
    (hends : s.socket = .opened → s.closed = false → handled.endsLoop handler = false) :
    Closes (dispatch handler handled s).1 := by
  have hclosed : handled.endsLoop handler = true → s.socket = .opened → s.closed = true := by
    intro hend hopen
    by_contra hclosed
    rw [hends hopen (Bool.not_eq_true _ ▸ hclosed)] at hend
    cases hend
  cases handled with
  | returned =>
    unfold Transport.dispatch
    dsimp only
    split_ifs with hhandler
    · exact h.runFinally (hclosed (decide_eq_true hhandler))
    · exact h.continueLoop
  | awaits => exact ⟨h.websocket, h.closing, h.returned, h.held, h.stopped⟩
  | raised err =>
    have hreason : Closes { s with closeReason := some err } :=
      ⟨h.websocket, h.closing, h.returned, h.held, h.stopped⟩
    exact hreason.runFinally (hclosed rfl)

theorem Closes.receive {s : State} (h : Closes s) (message : Message) (handled : Handled)
    (hends : s.socket = .opened → s.closed = false → endsLoop m s message handled = false) :
    Closes (receive m message handled s).1 := by
  unfold Transport.receive
  unfold endsLoop at hends
  split
  · rename_i err hroute
    rw [hroute] at hends
    have hreason : Closes { s with closeReason := some err } :=
      ⟨h.websocket, h.closing, h.returned, h.held, h.stopped⟩
    refine hreason.runFinally fun hopen => ?_
    by_contra hclosed
    cases hends hopen (Bool.not_eq_true _ ▸ hclosed)
  · rename_i handler frame hroute
    rw [hroute] at hends
    dsimp only at hends
    split_ifs with hreply
    · split
      · rename_i pending evs hresolve
        have hpending : Closes { s with pending := pending } :=
          ⟨h.websocket, h.closing, h.returned, h.held, h.stopped⟩
        exact hpending.continueLoop
      · rename_i hresolve
        refine h.dispatch handler handled fun hopen hclosed => ?_
        have hend := hends hopen hclosed
        rwa [Option.map_eq_none_iff.mp hresolve, Option.isSome_none, Bool.and_false, Bool.not_false,
          Bool.and_true] at hend
    · refine h.dispatch handler handled fun hopen hclosed => ?_
      have hend := hends hopen hclosed
      rwa [decide_eq_false hreply, Bool.false_and, Bool.not_false, Bool.and_true] at hend

/-! ### Runs -/

/-- Nothing changes but the requests and what is between them and the router. -/
theorem Closes.of_eq {s s' : State} (h : Closes s) (hsocket : s'.socket = s.socket)
    (hwebsocket : s'.websocket = s.websocket)
    (hclosing : s'.closing = s.closing) (hreturned : s'.returned = s.returned)
    (hclosed : s'.closed = s.closed) : Closes s' := by
  refine ⟨?_, ?_, ?_, ?_, ?_⟩
  · rw [hsocket, hwebsocket]
    exact h.websocket
  · rw [hclosing, hclosed]
    exact h.closing
  · rw [hreturned, hclosed]
    exact h.returned
  · rw [hclosed, hsocket, hclosing]
    exact h.held
  · unfold StopCloses
    rw [hreturned, hsocket]
    exact h.stopped

variable (m args) in
theorem request_unchanged (r : ReqId) (s : State) :
    ∃ pending requests, request m args r s = { s with pending := pending, requests := requests } := by
  unfold request
  split_ifs
  · dsimp only
    split <;> exact ⟨_, _, rfl⟩
  · exact ⟨_, _, rfl⟩

/-- Unless the transport is closed already, a handler returns, and not that of a disconnect
frame. -/
theorem Orderly.closed_of_handled {s : State} {err : Option String}
    (hc : Orderly m s (.handled err)) (hends : err.isNone = false ∨ s.receiver = .dispatch true)
    (hopen : s.socket = .opened) : s.closed = true := by
  by_contra hclosed
  obtain ⟨hnone, hpc⟩ := hc hopen (Bool.not_eq_true _ ▸ hclosed)
  rcases hends with hends | hends
  · rw [hnone] at hends
    cases hends
  · exact hpc hends

theorem Closes.step {s : State} {i : Input} {o : State × List Event} (h : Closes s)
    (hc : Orderly m s i) (hs : Step m args s i o) : Closes o.1 := by
  cases hs with
  | connected =>
    -- nobody has called `close` yet
    have hnot : s.closed ≠ true := by
      rw [hc rfl]
      nofun
    exact ⟨fun _ => rfl, h.closing, h.returned, fun hset => absurd hset hnot,
      fun n hn => absurd (h.returned (.stop n) hn) hnot⟩
  | registerRaises =>
    have hraised : Closes { s with start := .raised } := h.of_eq rfl rfl rfl rfl rfl
    exact hraised.close .start false fun hne => absurd rfl hne
  | @request r =>
    obtain ⟨pending, requests, heq⟩ := request_unchanged m args r s
    rw [heq]
    exact h.of_eq rfl rfl rfl rfl rfl
  | startLoop => exact h.continueLoop
  | receive => exact h.receive _ _ hc
  | connectionClosed _ hsocket =>
    refine h.runFinally fun hopen => ?_
    rw [hsocket] at hopen
    cases hopen
  | @handlerRaises _ reason =>
    have hreason : Closes { s with closeReason := some reason } := h.of_eq rfl rfl rfl rfl rfl
    exact hreason.runFinally (hc.closed_of_handled (Or.inl rfl))
  | disconnected hpc => exact h.runFinally (hc.closed_of_handled (Or.inr hpc))
  | handled => exact h.continueLoop
  | cancelLoop hpc =>
    refine h.runFinally fun hopen => hc hopen ?_
    rcases hpc with hpc | ⟨disconnect, hpc⟩
    · rw [hpc]
      nofun
    · rw [hpc]
      nofun
  | close => exact h.close _ _ fun _ => hc
  | disconnectSent heq => exact h.closeSocket _ (h.closed_of_closing heq)
  | socketClosed heq =>
    have hsocket : Closes { s with socket := .closed } :=
      ⟨nofun, h.closing, h.returned, fun _ => nofun, fun _ _ => nofun⟩
    exact hsocket.joinReceiver _ (h.closed_of_closing heq) nofun
  | joined heq => exact closes_finishClose _ (h.closed_of_closing heq) (h.not_opened_of_join heq)
  | cancelClose heq =>
    exact h.closing_at _ .raised (heq.elim h.closed_of_closing h.closed_of_closing) fun _ => trivial
  | connectionLost => exact ⟨nofun, h.closing, h.returned, fun _ => nofun, fun _ _ => nofun⟩
  | _ => exact h.of_eq rfl rfl rfl rfl rfl

theorem closes {s : State} {tr : List Event}
    (h : (transport m args).Run (fun s _ i => Orderly m s i) s tr) : Closes s := by
  refine TransitionSystem.Run.invariant (P := fun s _ => Closes s) ?_ ?_ h
  · exact ⟨nofun, fun hne => absurd rfl hne, fun _ => nofun, nofun, fun _ => nofun⟩
  · intro s s' tr evs i _ hc hs ih
    exact ih.step hc (step_of_transport hs)

/-- **A stop closes the socket** in every orderly run. -/
theorem stop_closes_socket {s : State} {tr : List Event}
    (h : (transport m args).Run (fun s _ i => Orderly m s i) s tr) : StopCloses s :=
  (closes h).stopped

section Sample

open Router (msgPackSerde)

/-- A transport is stopped while a request waits, and its socket is closed. -/
theorem stop_closes_socket_once : ∃ s tr,
    localTransport.Run (fun s _ i => Orderly (Bindings.rmpMsgpack msgPackSerde) s i) s tr ∧
    s.returned (.stop 0) = true ∧ s.socket = .closed ∧ StopCloses s := by
  obtain ⟨s, tr, hrun, hp⟩ := localTransport.exists_run_of_exec
    (fun s _ i => Orderly (Bindings.rmpMsgpack msgPackSerde) s i)
    (starts ++ [.request 0, .acquired 0, .sent 0 true, .receive (response 1) .returned,
      .close (.stop 0) true, .closing, .closing, .cancelLoop, .closing])
    (fun s _ => s.returned (.stop 0) = true ∧ s.socket = .closed) (by decide +kernel)
  obtain ⟨hreturned, hsocket⟩ := of_decide_eq_true hp
  exact ⟨s, tr, hrun, hreturned, hsocket, stop_closes_socket hrun⟩

/-- A text message ends the loop, and a stop returns at once: the socket stays open. -/
theorem socket_open_of_text : ¬ ∀ s tr, localTransport.Reachable s tr → StopCloses s := by
  obtain ⟨s, tr, hrun, hp⟩ := localTransport.exists_reachable_of_exec
    (starts ++ [.receive .text .returned, .close (.stop 0) true])
    (fun s _ => s.returned (.stop 0) = true ∧ s.socket = .opened) (by decide +kernel)
  obtain ⟨hreturned, hsocket⟩ := of_decide_eq_true hp
  intro h
  exact h s tr hrun 0 hreturned hsocket

end Sample

end Multifrost.Python.Transport
