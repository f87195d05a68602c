import Multifrost.Bindings.Split
import Multifrost.JavaScript.Service

/-!
# Frames that come early to a JavaScript transport

A message that the socket delivers behind the accepted acknowledgement, before the continuations of
that event have run, finds no listener and is lost.  If only the listener is there, and `runService`
has not assigned its variable yet, a call is dispatched to a handler that takes the transport for
missing.  A frame that comes later is dispatched, and a call is answered.
-/

namespace Multifrost.JavaScript.Service

open Router (Envelope kindCall kindError kindResponse protocolVersion)

variable {m : Msgpack} {c : BodyCodec} {peerId registerMsgId : String}

/-! ### What is seen of a run -/

def Event.receivedFrame? : Event → Option RoutedFrame
  | .received frame => some frame
  | _ => none

def Event.dispatchedFrame? : Event → Option RoutedFrame
  | .dispatched frame => some frame
  | _ => none

def Event.reply? (n : Nat) : Event → Option Envelope
  | .wrote n' envelope => if n' = n then some envelope else none
  | _ => none

/-- The frames that come after the accepted acknowledgement, in order. -/
def received (tr : List Event) : List RoutedFrame := tr.filterMap Event.receivedFrame?

/-- The frames that are given to the callbacks, in order. -/
def dispatched (tr : List Event) : List RoutedFrame := tr.filterMap Event.dispatchedFrame?

/-- What is written for the `n`-th call. -/
def replies (n : Nat) (tr : List Event) : List Envelope := tr.filterMap (Event.reply? n)

/-- The calls among frames. -/
def callsOf (frames : List RoutedFrame) : List RoutedFrame :=
  frames.filter fun frame => frame.envelope.kind = kindCall

/-- How far a call is from its end. -/
def CallPc.rank : CallPc → Nat
  | .unstarted => 5
  | .start _ => 4
  | .dispatch _ => 3
  | .sendResponse .. => 2
  | .sendError .. => 1
  | .returned => 0

/-- A call can go on whatever the worker and the socket yield, and comes nearer to its end. -/
def InProgress (m : Msgpack) (c : BodyCodec) (peerId registerMsgId : String) (s : State) (n : Nat) :
    Prop :=
  ∀ called now written, ∃ s' evs,
    (service m c peerId registerMsgId).step (.call n called now written) s = some (s', evs) ∧
    (s'.calls n).rank < (s.calls n).rank

/-- A reply to a frame, under its message id. -/
def IsReply (frame : RoutedFrame) (envelope : Envelope) : Prop :=
  envelope.msgId = frame.envelope.msgId ∧
    (envelope.kind = kindResponse ∨ envelope.kind = kindError)

/-- Every frame is given to the callback of its kind, once and in order. -/
def AllDispatched (tr : List Event) : Prop := dispatched tr = received tr

/-- As long as the transport is open, every call is in progress, or answered by one reply. -/
def CallsAnswered (m : Msgpack) (c : BodyCodec) (peerId registerMsgId : String) (s : State)
    (tr : List Event) : Prop :=
  s.closed = false → ∀ n frame, (callsOf (received tr))[n]? = some frame →
    (InProgress m c peerId registerMsgId s n ∧ replies n tr = []) ∨
    ∃ envelope, replies n tr = [envelope] ∧ IsReply frame envelope

/-! ### When nothing is lost -/

/-- No message comes between the accepted acknowledgement and the listener of the transport. -/
def AttachedBeforeMessage (s : State) : Input → Prop
  | .message _ => s.registerAck = .fulfilled → s.listener = .runtime
  | _ => True

/-- A body that has properties, with a namespace that the service takes or can name. -/
def readable (c : BodyCodec) : Except String (Option CallBody) → Bool
  | .error _ => true
  | .ok none => false
  | .ok (some call) => !call.refused || (c.text call.callNamespace).isSome

/-- A worker that returns, or throws what has a text. -/
def described : Except Thrown MsgPack.Value → Bool
  | .ok _ => true
  | .error err => err.text.isSome

/-- A step of a call on an open transport throws nothing out of `handleCallFrame`. -/
def caught (m : Msgpack) (c : BodyCodec) (peerId : String) (called : Except Thrown MsgPack.Value)
    (now : Float64) (written : Except String Unit) (active : Bool) : CallPc → Bool
  | .start frame => !active || readable c (c.decodeCall frame.bodyBytes)
  | .dispatch _ => !active || described called
  | .sendError frame failure =>
    !active || (send m active ⟨protocolVersion, kindError, frame.envelope.msgId, peerId,
      frame.envelope.fromPeer, now⟩ (c.encodeError failure.toErrorBody) written).isOk
  | _ => true

/-- No message comes between the accepted acknowledgement and the assignment of the variable, and a
call throws nothing out of its handlers: its body and what its worker throws can be looked at, and the
error body of a call that fails can be encoded and sent. -/
def AssignedBeforeMessage (m : Msgpack) (c : BodyCodec) (peerId : String) (s : State) : Input → Prop
  | .message _ => s.registerAck = .fulfilled → s.main = .running
  | .call n called now written => caught m c peerId called now written s.isActive (s.calls n) = true
  | _ => True

instance (s : State) : ∀ i, Decidable (AssignedBeforeMessage m c peerId s i)
  | .message _ => inferInstanceAs (Decidable (_ = _ → _ = _))
  | .call .. => inferInstanceAs (Decidable (_ = _))
  | .socketClosed | .socketError | .opened _ | .timeout | .microtask => inferInstanceAs (Decidable True)

/-! ### Frames -/

theorem received_append (tr evs : List Event) : received (tr ++ evs) = received tr ++ received evs :=
  List.filterMap_append

theorem dispatched_append (tr evs : List Event) :
    dispatched (tr ++ evs) = dispatched tr ++ dispatched evs := List.filterMap_append

theorem replies_append (n : Nat) (tr evs : List Event) :
    replies n (tr ++ evs) = replies n tr ++ replies n evs := List.filterMap_append

/-- A call of `handleCallFrame` writes at most, and as itself. -/
theorem events_of_call {n : Nat} {called : Except Thrown MsgPack.Value}
    {now : Float64} {written : Except String Unit} {active : Bool} {pc pc' : CallPc}
    {evs : List Event}
    (h : handleCallFrame m c peerId n called now written active pc = some (pc', evs)) :
    evs = [] ∨ ∃ envelope, evs = [.wrote n envelope] := by
  cases pc with
  | unstarted => cases h
  | returned => cases h
  | start frame =>
    simp only [handleCallFrame] at h
    split at h
    · cases h
      exact Or.inl rfl
    · cases h
      exact Or.inl rfl
    · split at h
      · split at h <;> cases h <;> exact Or.inl rfl
      · cases h
        exact Or.inl rfl
  | dispatch frame =>
    simp only [handleCallFrame] at h
    split at h
    · cases h
      exact Or.inl rfl
    · split at h <;> cases h <;> exact Or.inl rfl
  | sendResponse frame result =>
    simp only [handleCallFrame] at h
    split at h <;> cases h
    · exact Or.inr ⟨_, rfl⟩
    · exact Or.inl rfl
  | sendError frame failure =>
    simp only [handleCallFrame] at h
    split at h <;> cases h
    · exact Or.inr ⟨_, rfl⟩
    · exact Or.inl rfl

/-- Nothing counts as received before the accepted acknowledgement. -/
theorem receivedFrame_of_unregistered {s : State} (incoming : Incoming)
    (h : s.registerAck ≠ .fulfilled) : receivedFrame m s incoming = [] := by
  unfold receivedFrame
  split
  · rfl
  · split
    · rfl
    · rw [if_neg h]

/-- A frame behind the acknowledgement is received. -/
theorem receivedFrame_of_registered {s : State} {bytes : Bytes} {frame : RoutedFrame}
    (h : s.registerAck = .fulfilled) (hframe : toFrame m bytes = .ok frame) :
    receivedFrame m s (.binary bytes) = [.received frame] := by
  simp only [receivedFrame, hframe, h, if_true]

theorem receivedFrame_of_error {s : State} {bytes : Bytes} {err : String}
    (hframe : toFrame m bytes = .error err) : receivedFrame m s (.binary bytes) = [] := by
  simp only [receivedFrame, hframe]

variable (m c registerMsgId) in
/-- What a message can do, if none comes while the listener of the transport is missing. -/
theorem message_cases {s : State} (incoming : Incoming)
    (hc : s.registerAck = .fulfilled → s.listener = .runtime)
    (hruntime : s.listener = .runtime → s.registerAck = .fulfilled) :
    (s.listener ≠ .runtime ∧ (message m c registerMsgId incoming s).2 = [] ∧
      ∃ ack listener, listener ≠ .runtime ∧
        (message m c registerMsgId incoming s).1 =
          { s with registerAck := ack, listener := listener }) ∨
    (s.listener = .runtime ∧ message m c registerMsgId incoming s = (failTransport s, [])) ∨
    (s.listener = .runtime ∧ s.registerAck = .fulfilled ∧ ∃ frame,
      message m c registerMsgId incoming s =
        (dispatchFrame s frame, [.received frame, .dispatched frame])) := by
  cases hlistener : s.listener with
  | handshake =>
    have hack : s.registerAck ≠ .fulfilled := by
      intro hack
      rw [hc hack] at hlistener
      cases hlistener
    left
    simp only [message, hlistener, receivedFrame_of_unregistered incoming hack]
    split
    · exact ⟨nofun, rfl, _, .none, nofun, rfl⟩
    · exact ⟨nofun, rfl, _, .handshake, nofun, rfl⟩
  | none =>
    have hack : s.registerAck ≠ .fulfilled := by
      intro hack
      rw [hc hack] at hlistener
      cases hlistener
    left
    simp only [message, hlistener, receivedFrame_of_unregistered incoming hack]
    exact ⟨nofun, trivial, s.registerAck, .none, nofun, by rw [← hlistener]⟩
  | runtime =>
    have hack := hruntime hlistener
    right
    cases incoming with
    | text =>
      left
      simp only [message, hlistener]
      exact ⟨trivial, rfl⟩
    | binary bytes =>
      simp only [message, hlistener]
      cases hframe : toFrame m bytes with
      | error err =>
        left
        dsimp only
        rw [receivedFrame_of_error hframe]
        exact ⟨trivial, rfl⟩
      | ok frame =>
        right
        dsimp only
        rw [receivedFrame_of_registered hack hframe]
        exact ⟨trivial, hack, frame, rfl⟩

/-! ### How far the start has come -/

/-- What the continuations of `runService` have done. -/
structure Started (s : State) : Prop where
  registered : s.listener = .runtime → s.registerAck = .fulfilled
  attached : s.main = .registered ∨ s.main = .connected ∨ s.main = .running → s.listener = .runtime
  active : s.main = .connected ∨ s.main = .running → s.closed = true ∨ s.active = true

theorem settle_fulfilled {before after : PromiseState} (h : before = .fulfilled) :
    before.settle after = .fulfilled := by
  rw [h]
  rfl

/-- The transport fails or is closed. -/
theorem Started.close {s : State} (h : Started s) :
    Started { s with closed := true, active := false } :=
  ⟨h.registered, h.attached, fun _ => Or.inl rfl⟩

theorem Started.fail {s : State} (h : Started s) : Started (failTransport s) := by
  unfold failTransport
  split_ifs
  · exact h
  · exact h.close

/-- The handshake ends one way or another. -/
theorem Started.settle {s : State} (h : Started s) (opened ack : PromiseState) :
    Started { s with opened := opened, registerAck := s.registerAck.settle ack } :=
  ⟨fun hruntime => settle_fulfilled (h.registered hruntime), h.attached, h.active⟩

theorem started_microtask {s s' : State} (h : Started s) (hs : microtask s = some s') :
    Started s' := by
  obtain ⟨hregistered, hattached, hactive⟩ := h
  unfold microtask at hs
  split at hs
  · rename_i hmain
    split at hs
    · cases hs
    all_goals
      cases hs
      exact ⟨hregistered, by simp, by simp⟩
  · split at hs
    · cases hs
    · cases hs
      exact ⟨hregistered, by simp, by simp⟩
    · rename_i hack
      cases hs
      exact ⟨fun _ => hack, fun _ => rfl, by simp⟩
  · rename_i hmain
    cases hs
    exact ⟨hregistered, fun _ => hattached (Or.inl hmain), fun _ => Or.inr rfl⟩
  · rename_i hmain
    cases hs
    exact ⟨hregistered, fun _ => hattached (Or.inr (Or.inl hmain)),
      fun _ => hactive (Or.inl hmain)⟩
  · cases hs
  · cases hs

variable (m c registerMsgId) in
theorem started_message {s : State} (incoming : Incoming) (h : Started s)
    (hc : s.registerAck = .fulfilled → s.listener = .runtime) :
    Started (message m c registerMsgId incoming s).1 := by
  rcases message_cases m c registerMsgId incoming hc h.registered with
    ⟨hlistener, -, ack, listener, hlistener', heq⟩ | ⟨-, heq⟩ | ⟨-, -, frame, heq⟩
  · rw [heq]
    exact ⟨fun hruntime => absurd hruntime hlistener',
      fun hmain => absurd (h.attached hmain) hlistener, h.active⟩
  · rw [heq]
    exact h.fail
  · rw [heq]
    unfold dispatchFrame
    split_ifs <;> exact ⟨h.registered, h.attached, h.active⟩

/-- A step dispatches what it receives, if the listener is there. -/
theorem started_step {s s' : State} {i : Input} {evs : List Event} (h : Started s)
    (hc : AttachedBeforeMessage s i)
    (hs : (service m c peerId registerMsgId).step i s = some (s', evs)) :
    Started s' ∧ dispatched evs = received evs := by
  cases i with
  | message incoming =>
    have heq : message m c registerMsgId incoming s = (s', evs) := Option.some.inj hs
    have hstarted := started_message m c registerMsgId incoming h hc
    rw [heq] at hstarted
    refine ⟨hstarted, ?_⟩
    rcases message_cases m c registerMsgId incoming hc h.registered with
      ⟨-, hevs, -⟩ | ⟨-, hmessage⟩ | ⟨-, -, frame, hmessage⟩
    · rw [heq] at hevs
      rw [show evs = [] from hevs]
      rfl
    all_goals
      rw [heq] at hmessage
      cases hmessage
      rfl
  | socketClosed =>
    cases hs
    unfold socketClosed
    split
    · exact ⟨h.settle .., rfl⟩
    · exact ⟨h, rfl⟩
    · exact ⟨h.close, rfl⟩
  | socketError =>
    cases hs
    have hopened : Started { s with opened := s.opened.settle .rejected } :=
      ⟨h.registered, h.attached, h.active⟩
    unfold socketError
    dsimp only
    split
    · exact ⟨hopened.settle .., rfl⟩
    · exact ⟨hopened, rfl⟩
    · exact ⟨hopened.fail, rfl⟩
  | opened sent =>
    cases hs
    exact ⟨⟨h.registered, h.attached, h.active⟩, rfl⟩
  | timeout =>
    cases hs
    exact ⟨h.settle .., rfl⟩
  | microtask =>
    obtain ⟨s₁, hmicrotask, heq⟩ := Option.map_eq_some_iff.mp hs
    cases heq
    exact ⟨started_microtask h hmicrotask, rfl⟩
  | call n called now written =>
    obtain ⟨⟨pc, evs'⟩, hcall, heq⟩ := Option.map_eq_some_iff.mp hs
    cases heq
    refine ⟨⟨h.registered, h.attached, h.active⟩, ?_⟩
    rcases events_of_call hcall with rfl | ⟨envelope, rfl⟩ <;> rfl

/-- **Every frame is dispatched** in a run in which none comes before the listener. -/
theorem frames_dispatched {C : State → List Event → Input → Prop}
    (hC : ∀ s tr i, Started s → C s tr i → AttachedBeforeMessage s i) {s : State} {tr : List Event}
    (h : (service m c peerId registerMsgId).Run C s tr) : Started s ∧ AllDispatched tr := by
  refine TransitionSystem.Run.invariant (P := fun s tr => Started s ∧ AllDispatched tr) ?_ ?_ h
  · exact ⟨⟨nofun, by simp [service], by simp [service]⟩, rfl⟩
  · intro s s' tr evs i _ hc hs ih
    obtain ⟨hstarted, hevs⟩ := started_step ih.1 (hC s tr i ih.1 hc) hs
    refine ⟨hstarted, ?_⟩
    unfold AllDispatched
    rw [dispatched_append, received_append, hevs, show dispatched tr = received tr from ih.2]

theorem attached_of_assigned {s : State} {i : Input} (h : Started s)
    (hc : AssignedBeforeMessage m c peerId s i) : AttachedBeforeMessage s i := by
  cases i with
  | message incoming => exact fun hack => h.attached (Or.inr (Or.inr (hc hack)))
  | _ => trivial

/-! ### Calls -/

/-- Where a call of the call handler can be, and what it has written. -/
def Handled (frame : RoutedFrame) (closed : Bool) (written : List Envelope) : CallPc → Prop
  | .unstarted => False
  | .start frame' | .dispatch frame' | .sendResponse frame' _ | .sendError frame' _ =>
    frame' = frame ∧ written = []
  | .returned => closed = true ∨ ∃ envelope, written = [envelope] ∧ IsReply frame envelope

theorem Handled.mono {frame : RoutedFrame} {closed closed' : Bool} {written : List Envelope}
    {pc : CallPc} (h : Handled frame closed written pc) (hclosed : closed = true → closed' = true) :
    Handled frame closed' written pc := by
  cases pc with
  | returned => exact h.imp_left hclosed
  | _ => exact h

/-- One step of a call on a transport that is active unless it is closed. -/
theorem handled_step {frame : RoutedFrame} {n : Nat}
    {called : Except Thrown MsgPack.Value} {now : Float64}
    {written : Except String Unit} {active closed : Bool} {before : List Envelope} {pc pc' : CallPc}
    {evs : List Event} (h : Handled frame closed before pc) (hactive : closed = true ∨ active = true)
    (hcaught : caught m c peerId called now written active pc = true)
    (hs : handleCallFrame m c peerId n called now written active pc = some (pc', evs)) :
    Handled frame closed (before ++ replies n evs) pc' := by
  have hwrote : ∀ envelope, replies n [.wrote n envelope] = [envelope] := by
    intro envelope
    simp [replies, Event.reply?]
  -- what is thrown out of the handlers is thrown on a transport that is closed
  have hthrown : (!active) = true → closed = true := by
    intro hinactive
    refine hactive.resolve_right fun hactive => ?_
    rw [hactive] at hinactive
    cases hinactive
  cases pc with
  | unstarted => cases hs
  | returned => cases hs
  | start frame' =>
    obtain ⟨rfl, rfl⟩ := h
    simp only [handleCallFrame] at hs
    rw [caught, Bool.or_eq_true] at hcaught
    split at hs
    · cases hs
      exact ⟨rfl, rfl⟩
    · rename_i hbody
      cases hs
      rw [hbody] at hcaught
      exact Or.inl (hthrown (hcaught.resolve_right fun h => by cases h))
    · rename_i call hbody
      split at hs
      · rename_i hrefused
        split at hs
        · cases hs
          exact ⟨rfl, rfl⟩
        · rename_i htext
          cases hs
          rw [hbody, readable, hrefused, htext] at hcaught
          exact Or.inl (hthrown (hcaught.resolve_right fun h => by cases h))
      · cases hs
        exact ⟨rfl, rfl⟩
  | dispatch frame' =>
    obtain ⟨rfl, rfl⟩ := h
    simp only [handleCallFrame] at hs
    rw [caught, Bool.or_eq_true] at hcaught
    split at hs
    · cases hs
      exact ⟨rfl, rfl⟩
    · split at hs
      · cases hs
        exact ⟨rfl, rfl⟩
      · rename_i htext
        cases hs
        rw [described, htext] at hcaught
        exact Or.inl (hthrown (hcaught.resolve_right fun h => by cases h))
  | sendResponse frame' result =>
    obtain ⟨rfl, rfl⟩ := h
    simp only [handleCallFrame] at hs
    split at hs <;> cases hs
    · exact Or.inr ⟨_, hwrote _, rfl, Or.inl rfl⟩
    · exact ⟨rfl, rfl⟩
  | sendError frame' failure =>
    obtain ⟨rfl, rfl⟩ := h
    simp only [handleCallFrame] at hs
    split at hs
    · cases hs
      exact Or.inr ⟨_, hwrote _, rfl, Or.inr rfl⟩
    · rename_i message hsend
      cases hs
      rw [caught, hsend, Bool.or_eq_true] at hcaught
      exact Or.inl (hthrown (hcaught.resolve_right fun h => by cases h))

/-- Every call among the frames is in the hands of its call of the handler. -/
structure Placed (s : State) (tr : List Event) : Prop where
  count : (callsOf (received tr)).length = s.started
  running : s.started ≠ 0 → s.main = .running
  unstarted : ∀ n, s.started ≤ n → s.calls n = .unstarted ∧ replies n tr = []
  handled : ∀ n frame, (callsOf (received tr))[n]? = some frame →
    Handled frame s.closed (replies n tr) (s.calls n)

/-- A step in which nothing is received, and no call moves. -/
theorem Placed.of_state {s s' : State} {tr : List Event} (h : Placed s tr)
    (hmain : s.main = .running → s'.main = .running) (hstarted : s'.started = s.started)
    (hcalls : s'.calls = s.calls) (hclosed : s.closed = true → s'.closed = true) :
    Placed s' (tr ++ []) := by
  rw [List.append_nil]
  refine ⟨h.count.trans hstarted.symm, ?_, ?_, ?_⟩
  · rw [hstarted]
    exact fun hne => hmain (h.running hne)
  · rw [hstarted, hcalls]
    exact h.unstarted
  · rw [hcalls]
    exact fun n frame hframe => (h.handled n frame hframe).mono hclosed

theorem callsOf_append (frames frames' : List RoutedFrame) :
    callsOf (frames ++ frames') = callsOf frames ++ callsOf frames' := List.filter_append ..

/-- A frame reaches the call handler with the transport set. -/
theorem Placed.dispatch {s : State} {tr : List Event} (h : Placed s tr) (hmain : s.main = .running)
    (frame : RoutedFrame) :
    Placed (dispatchFrame s frame) (tr ++ [.received frame, .dispatched frame]) := by
  have hreplies : ∀ n, replies n (tr ++ [.received frame, .dispatched frame]) = replies n tr := by
    intro n
    rw [replies_append]
    exact List.append_nil _
  have hreceived : callsOf (received (tr ++ [.received frame, .dispatched frame])) =
      callsOf (received tr) ++ callsOf [frame] := by
    rw [received_append, callsOf_append]
    rfl
  by_cases hcall : frame.envelope.kind = kindCall
  · have hsingle : callsOf [frame] = [frame] := by simp [callsOf, hcall]
    rw [hsingle] at hreceived
    simp only [dispatchFrame, if_pos hcall]
    refine ⟨?_, fun _ => hmain, fun n hn => ?_, fun n frame' hframe => ?_⟩
    · rw [hreceived, List.length_append, h.count]
      rfl
    · have hlt : s.started < n := hn
      rw [hreplies]
      exact ⟨(Function.update_of_ne (Nat.ne_of_gt hlt) ..).trans (h.unstarted n hlt.le).1,
        (h.unstarted n hlt.le).2⟩
    · rw [hreplies]
      rw [hreceived] at hframe
      dsimp only
      by_cases hn : n = s.started
      · subst hn
        rw [← h.count, List.getElem?_concat_length] at hframe
        obtain rfl := Option.some.inj hframe
        rw [Function.update_self, (h.unstarted _ le_rfl).2]
        split_ifs with hreturn
        · exact Or.inl (hreturn.resolve_left (not_not_intro hmain))
        · exact ⟨rfl, rfl⟩
      · rw [Function.update_of_ne hn]
        have hlt : n < (callsOf (received tr)).length := by
          have hle := (List.getElem?_eq_some_iff.mp hframe).1
          rw [List.length_append, List.length_singleton, h.count] at hle
          rw [h.count]
          omega
        rw [List.getElem?_append_left hlt] at hframe
        exact h.handled n frame' hframe
  · have hnone : callsOf [frame] = [] := by simp [callsOf, hcall]
    rw [hnone, List.append_nil] at hreceived
    simp only [dispatchFrame, if_neg hcall]
    refine ⟨hreceived ▸ h.count, h.running, fun n hn => ?_, fun n frame' hframe => ?_⟩
    · rw [hreplies]
      exact h.unstarted n hn
    · rw [hreplies]
      rw [hreceived] at hframe
      exact h.handled n frame' hframe

theorem Placed.call {s : State} {tr evs : List Event} {n : Nat}
    {called : Except Thrown MsgPack.Value} {now : Float64}
    {written : Except String Unit} {pc : CallPc} (h : Placed s tr) (hstarted : Started s)
    (hcaught : caught m c peerId called now written s.isActive (s.calls n) = true)
    (hs : handleCallFrame m c peerId n called now written s.isActive (s.calls n) = some (pc, evs)) :
    Placed { s with calls := Function.update s.calls n pc } (tr ++ evs) := by
  have hlt : n < s.started := by
    by_contra hle
    rw [(h.unstarted n (not_lt.mp hle)).1] at hs
    cases hs
  have hactive : s.closed = true ∨ s.isActive = true := by
    have hne : s.started ≠ 0 := by omega
    rcases hstarted.active (Or.inr (h.running hne)) with hclosed | hactive
    · exact Or.inl hclosed
    · cases hclosed : s.closed with
      | true => exact Or.inl rfl
      | false =>
        right
        rw [State.isActive, hactive, hclosed]
        rfl
  have hreceived : received (tr ++ evs) = received tr := by
    rw [received_append]
    rcases events_of_call hs with rfl | ⟨envelope, rfl⟩ <;> exact List.append_nil _
  have hother : ∀ n', n' ≠ n → replies n' (tr ++ evs) = replies n' tr := by
    intro n' hn'
    rw [replies_append]
    rcases events_of_call hs with rfl | ⟨envelope, rfl⟩
    · exact List.append_nil _
    · simp [replies, Event.reply?, Ne.symm hn']
  refine ⟨hreceived ▸ h.count, h.running, fun n' hn' => ?_, fun n' frame hframe => ?_⟩
  · have hne : n' ≠ n := by
      dsimp only at hn'
      omega
    rw [hother n' hne]
    exact ⟨(Function.update_of_ne hne ..).trans (h.unstarted n' hn').1, (h.unstarted n' hn').2⟩
  · rw [hreceived] at hframe
    dsimp only
    by_cases hne : n' = n
    · subst hne
      rw [Function.update_self, replies_append]
      exact handled_step (h.handled n' frame hframe) hactive hcaught hs
    · rw [Function.update_of_ne hne, hother n' hne]
      exact h.handled n' frame hframe

theorem failTransport_closed (s : State) : (failTransport s).closed = true := by
  unfold failTransport
  split_ifs with hclosed
  · exact hclosed
  · rfl

theorem Placed.fail {s : State} {tr : List Event} (h : Placed s tr) :
    Placed (failTransport s) (tr ++ []) := by
  refine h.of_state ?_ ?_ ?_ fun _ => failTransport_closed s
  all_goals
    unfold failTransport
    split_ifs
  · exact id
  · exact id
  all_goals rfl

/-- A continuation of the start does nothing to the calls. -/
theorem microtask_calls {s s' : State} (hs : microtask s = some s') :
    s.main ≠ .running ∧ s'.started = s.started ∧ s'.calls = s.calls ∧ s'.closed = s.closed := by
  unfold microtask at hs
  split at hs
  · rename_i hmain
    rw [hmain]
    split at hs <;> cases hs <;> exact ⟨nofun, rfl, rfl, rfl⟩
  · rename_i hmain
    rw [hmain]
    split at hs <;> cases hs <;> exact ⟨nofun, rfl, rfl, rfl⟩
  · rename_i hmain
    rw [hmain]
    cases hs
    exact ⟨nofun, rfl, rfl, rfl⟩
  · rename_i hmain
    rw [hmain]
    cases hs
    exact ⟨nofun, rfl, rfl, rfl⟩
  · cases hs
  · cases hs

theorem placed_step {s s' : State} {i : Input} {tr evs : List Event} (h : Placed s tr)
    (hstarted : Started s) (hc : AssignedBeforeMessage m c peerId s i)
    (hs : (service m c peerId registerMsgId).step i s = some (s', evs)) : Placed s' (tr ++ evs) := by
  cases i with
  | message incoming =>
    have hattached := attached_of_assigned hstarted hc
    have heq : message m c registerMsgId incoming s = (s', evs) := Option.some.inj hs
    rcases message_cases m c registerMsgId incoming hattached hstarted.registered with
      ⟨-, hevs, ack, listener, -, hstate⟩ | ⟨-, hmessage⟩ | ⟨-, hack, frame, hmessage⟩
    · rw [heq] at hevs hstate
      rw [show evs = [] from hevs, show s' = _ from hstate]
      exact h.of_state id rfl rfl id
    · rw [heq] at hmessage
      cases hmessage
      exact h.fail
    · rw [heq] at hmessage
      cases hmessage
      exact h.dispatch (hc hack) frame
  | socketClosed =>
    cases hs
    unfold socketClosed
    split
    · exact h.of_state id rfl rfl id
    · exact h.of_state id rfl rfl id
    · exact h.of_state id rfl rfl fun _ => rfl
  | socketError =>
    cases hs
    have hopened : Placed { s with opened := s.opened.settle .rejected } tr := by
      rw [← List.append_nil tr]
      exact h.of_state id rfl rfl id
    unfold socketError
    dsimp only
    split
    · exact hopened.of_state id rfl rfl id
    · exact hopened.of_state id rfl rfl id
    · exact hopened.fail
  | opened sent =>
    cases hs
    exact h.of_state id rfl rfl id
  | timeout =>
    cases hs
    exact h.of_state id rfl rfl id
  | microtask =>
    obtain ⟨s₁, hmicrotask, heq⟩ := Option.map_eq_some_iff.mp hs
    cases heq
    obtain ⟨hmain, hstarted', hcalls, hclosed⟩ := microtask_calls hmicrotask
    exact h.of_state (fun hrunning => absurd hrunning hmain) hstarted' hcalls fun hset =>
      hclosed.trans hset
  | call n called now written =>
    obtain ⟨⟨pc, evs'⟩, hcall, heq⟩ := Option.map_eq_some_iff.mp hs
    cases heq
    exact h.call hstarted hc hcall

theorem placed {s : State} {tr : List Event}
    (h : (service m c peerId registerMsgId).Run (fun s _ i => AssignedBeforeMessage m c peerId s i)
      s tr) : Placed s tr := by
  refine TransitionSystem.Run.invariant (P := Placed) ?_ ?_ h
  · exact ⟨rfl, fun hne => absurd rfl hne, fun _ _ => ⟨rfl, rfl⟩, nofun⟩
  · intro s s' tr evs i hrun hc hs ih
    have hstarted := (frames_dispatched (fun s _ i => attached_of_assigned) hrun).1
    exact placed_step ih hstarted hc hs

/-! ### Every call is answered -/

variable (m c peerId) in
/-- A call that has been started and has not returned can go on. -/
theorem call_enabled {pc : CallPc} (hstarted : pc ≠ .unstarted) (hrunning : pc ≠ .returned) (n : Nat)
    (called : Except Thrown MsgPack.Value) (now : Float64)
    (written : Except String Unit) (active : Bool) :
    ∃ pc' evs, handleCallFrame m c peerId n called now written active pc = some (pc', evs) ∧
      pc'.rank < pc.rank := by
  cases pc with
  | unstarted => exact absurd rfl hstarted
  | returned => exact absurd rfl hrunning
  | start frame =>
    simp only [handleCallFrame]
    split
    · exact ⟨_, _, rfl, by simp [CallPc.rank]⟩
    · exact ⟨_, _, rfl, by simp [CallPc.rank]⟩
    · split
      · split <;> exact ⟨_, _, rfl, by simp [CallPc.rank]⟩
      · exact ⟨_, _, rfl, by simp [CallPc.rank]⟩
  | dispatch frame =>
    simp only [handleCallFrame]
    split
    · exact ⟨_, _, rfl, by simp [CallPc.rank]⟩
    · split <;> exact ⟨_, _, rfl, by simp [CallPc.rank]⟩
  | sendResponse frame result =>
    simp only [handleCallFrame]
    split <;> exact ⟨_, _, rfl, by simp [CallPc.rank]⟩
  | sendError frame failure =>
    simp only [handleCallFrame]
    split <;> exact ⟨_, _, rfl, by simp [CallPc.rank]⟩

theorem inProgress_of_started {s : State} {n : Nat} (hstarted : s.calls n ≠ .unstarted)
    (hrunning : s.calls n ≠ .returned) : InProgress m c peerId registerMsgId s n := by
  intro called now written
  obtain ⟨pc', evs, hstep, hrank⟩ := call_enabled m c peerId hstarted hrunning n called now
    written s.isActive
  refine ⟨{ s with calls := Function.update s.calls n pc' }, evs, ?_, ?_⟩
  · simp only [service, hstep, Option.map_some]
  · dsimp only
    rw [Function.update_self]
    exact hrank

theorem Placed.answered {s : State} {tr : List Event} (h : Placed s tr) :
    CallsAnswered m c peerId registerMsgId s tr := by
  intro hopen n frame hframe
  have hhandled := h.handled n frame hframe
  cases hpc : s.calls n with
  | unstarted =>
    rw [hpc] at hhandled
    exact hhandled.elim
  | returned =>
    rw [hpc] at hhandled
    rcases hhandled with hclosed | hanswered
    · rw [hopen] at hclosed
      cases hclosed
    · exact Or.inr hanswered
  | _ =>
    rw [hpc] at hhandled
    exact Or.inl ⟨inProgress_of_started (by rw [hpc]; nofun) (by rw [hpc]; nofun), hhandled.2⟩

/-- **No frame is lost and every call is answered** in a run in which no message comes between the
accepted acknowledgement and the assignment of the variable `transport`. -/
theorem frames_handled {s : State} {tr : List Event}
    (h : (service m c peerId registerMsgId).Run (fun s _ i => AssignedBeforeMessage m c peerId s i)
      s tr) : AllDispatched tr ∧ CallsAnswered m c peerId registerMsgId s tr :=
  ⟨(frames_dispatched (fun _ _ _ => attached_of_assigned) h).2, (placed h).answered⟩

/-! ### A call right behind the acknowledgement -/

section Sample

open MsgPack (Value)
open Router (msgPackSerde)

/-- A property of a body that is a text. -/
def textProperty (body : Value) (name : String) : JsValue :=
  match (body.field name).bind Router.strValue with
  | some s => .string s
  | none => .undefined

/-- Bodies as msgpack maps; the arguments of a call are not looked at. -/
def valueCodec : BodyCodec where
  decodeAck bytes :=
    match (MsgPack.fromSlice bytes).bind fun v => v.field "accepted" with
    | some (.bool accepted) => .ok accepted
    | _ => .error "invalid register ack"
  decodeCall bytes :=
    match MsgPack.fromSlice bytes with
    | none => .error "invalid call body"
    | some .nil => .ok none
    | some body =>
      .ok (some ⟨textProperty body "function", .undefined, textProperty body "namespace"⟩)
  text
    | .string s => some s
    | _ => none
  encodeResponse result := .ok (MsgPack.encode (.map [(.str "result", result)]))
  encodeError body :=
    .ok (MsgPack.encode (.ofEntries (body.filterMap fun p => p.2.map fun v => (p.1, v))))
  thrown _ := .map []

/-- The service with the library of the samples. -/
def localService : TransitionSystem State Input Event :=
  service (Bindings.rmpMsgpack msgPackSerde) valueCodec "service" "r"

/-- The accepted acknowledgement. -/
def ack : Input :=
  .message (.binary (Router.frameBytes (Router.buildEnvelope kindResponse "r" "router" "service" .one)
    (MsgPack.encode (Router.RegisterAckBody.toValue ⟨true, none⟩))))

/-- A call comes in. -/
def call : Input := .message (.binary (Router.callBytes "caller" "service"))

/-- The first call goes on; the worker returns nil and the send succeeds. -/
def calls : Input := .call 0 (.ok .nil) .one (.ok ())

/-- The call comes after the continuations: it is dispatched and answered. -/
theorem frames_handled_of_late_call : ∃ s tr,
    localService.Run (fun s _ i =>
      AssignedBeforeMessage (Bindings.rmpMsgpack msgPackSerde) valueCodec "service" s i) s tr ∧
    s.closed = false ∧ (received tr).length = 1 ∧ (replies 0 tr).length = 1 ∧ AllDispatched tr ∧
    CallsAnswered (Bindings.rmpMsgpack msgPackSerde) valueCodec "service" "r" s tr := by
  obtain ⟨s, tr, hrun, hp⟩ :=
    localService.exists_run_of_exec (fun s _ i =>
        AssignedBeforeMessage (Bindings.rmpMsgpack msgPackSerde) valueCodec "service" s i)
      [.opened true, .microtask, ack, .microtask, .microtask, .microtask, call, calls, calls, calls]
      (fun s tr => s.closed = false ∧ (received tr).length = 1 ∧ (replies 0 tr).length = 1)
      (by decide +kernel)
  obtain ⟨hopen, hreceived, hreplied⟩ := of_decide_eq_true hp
  exact ⟨s, tr, hrun, hopen, hreceived, hreplied, frames_handled hrun⟩

/-- The call comes in the tick of the acknowledgement: it finds no listener. -/
theorem call_lost_behind_ack :
    ¬ ∀ s tr, localService.Reachable s tr → AllDispatched tr ∧
      CallsAnswered (Bindings.rmpMsgpack msgPackSerde) valueCodec "service" "r" s tr := by
  obtain ⟨s, tr, hrun, hp⟩ :=
    localService.exists_reachable_of_exec
      [.opened true, .microtask, ack, call, .microtask, .microtask, .microtask]
      (fun s tr => s.closed = false ∧ (received tr).length = 1 ∧ (dispatched tr).length = 0)
      (by decide +kernel)
  obtain ⟨-, hreceived, hdispatched⟩ := of_decide_eq_true hp
  intro h
  have hall : dispatched tr = received tr := (h s tr hrun).1
  rw [hall, hreceived] at hdispatched
  cases hdispatched

end Sample

end Multifrost.JavaScript.Service
