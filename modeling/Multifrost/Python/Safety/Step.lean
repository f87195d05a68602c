import Multifrost.Python.Transport

/-!
# The steps of a Python transport

`Step m args s i o` lists what an input can do in the state `s`, one constructor for a branch of the
source; `step_of_transport` says that there are no others.
-/

namespace Multifrost.Python.Transport

variable {m : Msgpack} {args : ReqId → Request}

inductive Step (m : Msgpack) (args : ReqId → Request) (s : State) :
    Input → State × List Event → Prop
  | start (h : s.start = .idle) : Step m args s .start ({ s with start := .connecting }, [])
  | connected (h : s.start = .connecting) :
      Step m args s (.connected true)
        ({ s with start := .registering, websocket := true, socket := .opened }, [])
  | connectRaises (h : s.start = .connecting) :
      Step m args s (.connected false) ({ s with start := .raised }, [])
  | registered (h : s.start = .registering) :
      Step m args s (.registered true)
        ({ s with
          start := .returned, closedEvent := false, active := true, receiver := .scheduled }, [])
  | registerRaises (h : s.start = .registering) :
      Step m args s (.registered false) (close .start false { s with start := .raised })
  | cancelStart (h : s.start = .connecting ∨ s.start = .registering) :
      Step m args s .cancelStart ({ s with start := .raised }, [])
  | request {r : ReqId} (h : s.requests r = .unstarted) :
      Step m args s (.request r) (request m args r s, [])
  | acquired {r : ReqId} (h : s.requests r = .acquire) :
      Step m args s (.acquired r) (s.setRequest r .send, [])
  | sent {r : ReqId} (h : s.requests r = .send) :
      Step m args s (.sent r true) (s.setRequest r .wait, [])
  | sendRaises {r : ReqId} (h : s.requests r = .send) :
      Step m args s (.sent r false)
        ({ s with pending := s.pending.discard (args r).envelope.msgId }.setRequest r .returned, [])
  | timeout {r : ReqId} (h : s.requests r = .wait) (htimeout : (args r).timeout = true) :
      Step m args s (.timeout r)
        ({ s with pending := s.pending.cancel r }.setRequest r .timedOut, [])
  | wake {r : ReqId} (h : s.requests r = .wait) (hdone : (s.pending.future r).done = true) :
      Step m args s (.wake r) (s.setRequest r .returned, [])
  | wakeTimedOut {r : ReqId} (h : s.requests r = .timedOut) :
      Step m args s (.wake r)
        ({ s with pending := s.pending.discard (args r).envelope.msgId }.setRequest r .returned, [])
  | wakeCancelled {r : ReqId} (h : s.requests r = .cancelled) :
      Step m args s (.wake r) (s.setRequest r .returned, [])
  /-- before it awaits its future -/
  | cancelSend {r : ReqId} (h : s.requests r = .acquire ∨ s.requests r = .send) :
      Step m args s (.cancelRequest r) (s.setRequest r .returned, [])
  | cancelWait {r : ReqId} (h : s.requests r = .wait) :
      Step m args s (.cancelRequest r)
        ({ s with pending := s.pending.cancel r }.setRequest r .cancelled, [])
  | startLoop (h : s.receiver = .scheduled) : Step m args s .startLoop (continueLoop s)
  | receive {message : Message} {handled : Handled} (h : s.receiver = .recv) :
      Step m args s (.receive message handled) (receive m message handled s)
  | connectionClosed (h : s.receiver = .recv) (hsocket : s.socket = .closed) :
      Step m args s .connectionClosed (runFinally s)
  | handlerRaises {disconnect : Bool} {err : String} (h : s.receiver = .dispatch disconnect) :
      Step m args s (.handled (some err)) (runFinally { s with closeReason := some err })
  /-- the handler of a disconnect frame ends the loop -/
  | disconnected (h : s.receiver = .dispatch true) : Step m args s (.handled none) (runFinally s)
  | handled (h : s.receiver = .dispatch false) : Step m args s (.handled none) (continueLoop s)
  /-- a task that is cancelled before it runs never does -/
  | dropLoop (h : s.receiver = .scheduled) :
      Step m args s .cancelLoop ({ s with receiver := .dropped }, [])
  | cancelLoop (h : s.receiver = .recv ∨ ∃ disconnect, s.receiver = .dispatch disconnect) :
      Step m args s .cancelLoop (runFinally s)
  | close {c : Closer} {graceful : Bool} (hc : c ≠ .start) (h : s.returned c = false)
      (hclosing : s.closing.map Prod.fst ≠ some c) :
      Step m args s (.close c graceful) (close c graceful s)
  | disconnectSent {c : Closer} (h : s.closing = some (c, .disconnect)) :
      Step m args s .closing (closeSocket c s)
  | socketClosed {c : Closer} (h : s.closing = some (c, .closeSocket)) :
      Step m args s .closing (joinReceiver c { s with socket := .closed })
  | joined {c : Closer} (h : s.closing = some (c, .join))
      (hreceiver : s.receiver = .ended ∨ s.receiver = .dropped) :
      Step m args s .closing (finishClose c s)
  | cancelClose {c : Closer}
      (h : s.closing = some (c, .disconnect) ∨ s.closing = some (c, .closeSocket)) :
      Step m args s .cancelClose ({ s with closing := some (c, .raised) }, [])
  | cancelJoin {c : Closer} (h : s.closing = some (c, .join)) : Step m args s .cancelClose (s, [])
  | connectionLost (h : s.socket = .opened) :
      Step m args s .connectionLost ({ s with socket := .closed }, [])

theorem step_of_closing {s : State} {o : State × List Event} (hs : closing s = some o) :
    Step m args s .closing o := by
  unfold closing at hs
  split at hs
  · cases hs
    exact .disconnectSent ‹_›
  · cases hs
    exact .socketClosed ‹_›
  · split_ifs at hs with hreceiver
    cases hs
    exact .joined ‹_› hreceiver
  · cases hs

theorem step_of_cancelClose {s : State} {o : State × List Event} (hs : cancelClose s = some o) :
    Step m args s .cancelClose o := by
  unfold cancelClose at hs
  split at hs
  · rename_i c hclosing
    cases hs
    exact .cancelClose (Or.inl hclosing)
  · rename_i c hclosing
    cases hs
    exact .cancelClose (Or.inr hclosing)
  · cases hs
    exact .cancelJoin ‹_›
  · cases hs

theorem step_of_transport {s : State} {i : Input} {o : State × List Event}
    (hs : (transport m args).step i s = some o) : Step m args s i o := by
  cases i with
  | start =>
    simp only [transport] at hs
    split_ifs at hs with hpc
    cases hs
    exact .start hpc
  | connected ok =>
    simp only [transport] at hs
    split_ifs at hs with hpc hok <;> cases hs
    · subst hok
      exact .connected hpc
    · rw [eq_false_of_ne_true hok]
      exact .connectRaises hpc
  | registered ok =>
    simp only [transport] at hs
    split_ifs at hs with hpc hok <;> cases hs
    · subst hok
      exact .registered hpc
    · rw [eq_false_of_ne_true hok]
      exact .registerRaises hpc
  | cancelStart =>
    simp only [transport] at hs
    split_ifs at hs with hpc
    cases hs
    exact .cancelStart hpc
  | request r =>
    simp only [transport] at hs
    split_ifs at hs with hpc
    cases hs
    exact .request hpc
  | acquired r =>
    simp only [transport] at hs
    split_ifs at hs with hpc
    cases hs
    exact .acquired hpc
  | sent r ok =>
    simp only [transport] at hs
    split_ifs at hs with hpc hok <;> cases hs
    · subst hok
      exact .sent hpc
    · rw [eq_false_of_ne_true hok]
      exact .sendRaises hpc
  | timeout r =>
    simp only [transport] at hs
    split_ifs at hs with hpc
    cases hs
    exact .timeout hpc.1 hpc.2
  | wake r =>
    simp only [transport] at hs
    split at hs
    · split_ifs at hs with hdone
      cases hs
      exact .wake ‹_› hdone
    · cases hs
      exact .wakeTimedOut ‹_›
    · cases hs
      exact .wakeCancelled ‹_›
    · cases hs
  | cancelRequest r =>
    simp only [transport] at hs
    split at hs
    · rename_i hpc
      cases hs
      exact .cancelSend (Or.inl hpc)
    · rename_i hpc
      cases hs
      exact .cancelSend (Or.inr hpc)
    · cases hs
      exact .cancelWait ‹_›
    · cases hs
  | startLoop =>
    simp only [transport] at hs
    split_ifs at hs with hpc
    cases hs
    exact .startLoop hpc
  | receive message handled =>
    simp only [transport] at hs
    split_ifs at hs with hpc
    cases hs
    exact .receive hpc
  | connectionClosed =>
    simp only [transport] at hs
    split_ifs at hs with hpc
    cases hs
    exact .connectionClosed hpc.1 hpc.2
  | handled err =>
    simp only [transport] at hs
    split at hs
    · rename_i disconnect hpc
      split at hs
      · cases hs
        exact .handlerRaises hpc
      · cases disconnect <;> cases hs
        · exact .handled hpc
        · exact .disconnected hpc
    · cases hs
  | cancelLoop =>
    simp only [transport] at hs
    split at hs
    · cases hs
      exact .dropLoop ‹_›
    · rename_i hpc
      cases hs
      exact .cancelLoop (Or.inl hpc)
    · rename_i disconnect hpc
      cases hs
      exact .cancelLoop (Or.inr ⟨disconnect, hpc⟩)
    · cases hs
  | close c graceful =>
    simp only [transport] at hs
    split_ifs at hs with hpc
    cases hs
    exact .close hpc.1 hpc.2.1 hpc.2.2
  | closing => exact step_of_closing hs
  | cancelClose => exact step_of_cancelClose hs
  | connectionLost =>
    simp only [transport] at hs
    split_ifs at hs with hopen
    cases hs
    exact .connectionLost hopen

end Multifrost.Python.Transport
