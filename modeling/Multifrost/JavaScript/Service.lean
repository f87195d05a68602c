import Multifrost.Bindings.Errors
import Multifrost.Bindings.Frame
import Multifrost.JavaScript.Frame
import Multifrost.Lib.TransitionSystem

/-!
# The service of the JavaScript binding

`runService` of `javascript/src/service.ts` from the call of `WebSocketTransport.connect` on, with the
transport of `javascript/src/transport.ts`.  What runs between two awaits is one step.  A message
event is a step of the socket and may come before a promise continuation that is already due: the
library may deliver several messages in one tick.

The listener of the handshake is taken off the socket in the event of the accepted acknowledgement.
The listener of the transport is put on by a continuation of that event, the transport is returned by
the next one, and `runService` assigns its variable in the one after it.
-/

namespace Multifrost.JavaScript.Service

open MsgPack (Value)
open Router (Envelope kindCall kindError kindResponse protocolVersion)

/-! ### Bodies -/

/-- A frame with its envelope decoded. -/
abbrev RoutedFrame := Router.FrameParts

/-- The properties of a call's body that the service reads, whatever they are. -/
structure CallBody where
  function : JsValue
  args : JsValue
  callNamespace : JsValue

/-- Whether a value counts as true. -/
def truthy : JsValue → Bool
  | .undefined | .null => false
  | .bool b => b
  | .number x => !x.isZero && !x.isNaN
  | .bigint i => decide (i ≠ 0)
  | .string s => decide (s ≠ "")
  | _ => true

/-- `value !== "default"`. -/
def notDefault : JsValue → Bool
  | .string s => decide (s ≠ "default")
  | _ => true

/-- The condition under which the service does not take a call. -/
def CallBody.refused (call : CallBody) : Bool :=
  truthy call.callNamespace && notDefault call.callNamespace

/-- What a worker throws: its `message` or what `String` makes of it, where that throws nothing
itself, and the value, which may be `undefined`. -/
structure Thrown where
  text : Option String
  value : Option Value

/-- The msgpack library at the bodies that the transport and the service read and write; an error is
its text. -/
structure BodyCodec where
  /-- whether the acknowledgement accepts -/
  decodeAck : Bytes → Except String Bool
  /-- `none` is a body that has no properties, `null` or `undefined` -/
  decodeCall : Bytes → Except String (Option CallBody)
  /-- the text of a value in a template, unless the conversion throws -/
  text : JsValue → Option String
  encodeResponse : Value → Except String Bytes
  encodeError : ErrorProperties → Except String Bytes
  /-- what becomes of an error of the transport as the details of an error body -/
  thrown : String → Value

/-! ### The state -/

/-- `runService`, and `connect` and `waitForRegister` inside of it. -/
inductive MainPc
  /-- `await open` -/
  | awaitOpen
  /-- `await registerAck` -/
  | awaitAck
  /-- `waitForRegister` has returned to `connect` -/
  | registered
  /-- `connect` has returned to `runService` -/
  | connected
  /-- `transport` is assigned -/
  | running
  /-- `connect` has thrown -/
  | failed
deriving DecidableEq

/-- The promises `open` and `registerAck`. -/
inductive PromiseState
  | pending
  | fulfilled
  | rejected
deriving DecidableEq

/-- A promise is settled once. -/
def PromiseState.settle (before after : PromiseState) : PromiseState :=
  match before with
  | .pending => after
  | before => before

/-- The listener for messages on the socket. -/
inductive Listener
  | handshake
  | none
  | runtime
deriving DecidableEq

/-- A call of `handleCallFrame`. -/
inductive CallPc
  | unstarted
  /-- the body is decoded -/
  | start (frame : RoutedFrame)
  /-- `worker.dispatch` is awaited -/
  | dispatch (frame : RoutedFrame)
  | sendResponse (frame : RoutedFrame) (result : Value)
  | sendError (frame : RoutedFrame) (failure : CallFailure)
  | returned

structure State where
  main : MainPc
  opened : PromiseState
  registerAck : PromiseState
  listener : Listener
  active : Bool
  closed : Bool
  /-- how many calls the call handler was given -/
  started : Nat
  calls : Nat → CallPc

/-- `isActive`. -/
def State.isActive (s : State) : Bool := s.active && !s.closed

/-- A message as the socket delivers it. -/
inductive Incoming
  | binary (bytes : Bytes)
  | text

/-- What is seen: a frame that comes after the accepted acknowledgement, a frame that is given to the
callback of its kind, and a reply that goes out. -/
inductive Event
  | received (frame : RoutedFrame)
  | dispatched (frame : RoutedFrame)
  | wrote (n : Nat) (envelope : Envelope)

/-- What comes next: an event of the socket, the callback of the register frame's send, the timer of
the handshake, the next continuation of `runService`, or the next step of a call; `called` is what
`worker.dispatch` returns or throws, and `written` is what the socket makes of a frame. -/
inductive Input
  | message (incoming : Incoming)
  | socketClosed
  | socketError
  | opened (sent : Bool)
  | timeout
  | microtask
  | call (n : Nat) (called : Except Thrown Value) (now : Float64) (written : Except String Unit)

variable (m : Msgpack) (c : BodyCodec) (peerId registerMsgId : String)

/-! ### Messages -/

/-- What `onMessage` of the handshake makes of a message. -/
def onMessage (incoming : Incoming) : PromiseState :=
  match incoming with
  | .text => .rejected
  | .binary bytes =>
    match toFrame m bytes with
    | .error _ => .rejected
    | .ok frame =>
      if frame.envelope.msgId ≠ registerMsgId then .rejected
      else if frame.envelope.kind ≠ kindResponse then .rejected
      else
        match c.decodeAck frame.bodyBytes with
        | .ok true => .fulfilled
        | _ => .rejected

/-- The frame of a message that comes after the acknowledgement. -/
def receivedFrame (s : State) (incoming : Incoming) : List Event :=
  match incoming with
  | .text => []
  | .binary bytes =>
    match toFrame m bytes with
    | .error _ => []
    | .ok frame => if s.registerAck = .fulfilled then [.received frame] else []

def failTransport (s : State) : State :=
  if s.closed then s else { s with closed := true, active := false }

/-- `dispatchFrame` gives the frame to the callback of its kind; that of a call is the call handler of
`runService`, which looks for the transport first. -/
def dispatchFrame (s : State) (frame : RoutedFrame) : State :=
  if frame.envelope.kind = kindCall then
    let pc : CallPc := if s.main ≠ .running ∨ s.closed then .returned else .start frame
    { s with started := s.started + 1, calls := Function.update s.calls s.started pc }
  else s

def message (incoming : Incoming) (s : State) : State × List Event :=
  match s.listener with
  | .handshake =>
    match onMessage m c registerMsgId incoming with
    -- only an accepted acknowledgement takes the listener off
    | .fulfilled =>
      ({ s with registerAck := s.registerAck.settle .fulfilled, listener := .none },
        receivedFrame m s incoming)
    | ack => ({ s with registerAck := s.registerAck.settle ack }, receivedFrame m s incoming)
  | .none => (s, receivedFrame m s incoming)
  | .runtime =>
    match incoming with
    | .text => (failTransport s, receivedFrame m s incoming)
    | .binary bytes =>
      match toFrame m bytes with
      | .error _ => (failTransport s, receivedFrame m s incoming)
      | .ok frame => (dispatchFrame s frame, receivedFrame m s incoming ++ [.dispatched frame])

/-! ### Continuations -/

def microtask (s : State) : Option State :=
  match s.main with
  | .awaitOpen =>
    match s.opened with
    | .pending => none
    | .rejected => some { s with main := .failed }
    | .fulfilled => some { s with main := .awaitAck }
  | .awaitAck =>
    match s.registerAck with
    | .pending => none
    | .rejected => some { s with main := .failed }
    -- `attachRuntimeListeners`
    | .fulfilled => some { s with main := .registered, listener := .runtime }
  | .registered => some { s with main := .connected, active := true }
  | .connected => some { s with main := .running }
  | .running | .failed => none

/-- `transport.send` of a reply: the frame goes out, or something is thrown. -/
def send (active : Bool) (envelope : Envelope) (bodyBytes : Except String Bytes)
    (written : Except String Unit) : Except String Unit := do
  let bodyBytes ← bodyBytes
  if active then
    let _ ← encodeFrame m envelope bodyBytes
    written
  else .error "transport is not active"

/-- One step of `handleCallFrame`.  What is thrown outside of its handlers rejects the promise of the
callback, and nobody looks. -/
def handleCallFrame (n : Nat) (called : Except Thrown Value) (now : Float64)
    (written : Except String Unit) (active : Bool) : CallPc → Option (CallPc × List Event)
  | .unstarted => none
  | .start frame =>
    match c.decodeCall frame.bodyBytes with
    | .error message => some (.sendError frame (.malformedCall message), [])
    -- the namespace is read outside of the handler for the decoding
    | .ok none => some (.returned, [])
    | .ok (some call) =>
      if call.refused then
        match c.text call.callNamespace with
        | some ns => some (.sendError frame (.invalidNamespace ns), [])
        | none => some (.returned, [])
      else some (.dispatch frame, [])
  | .dispatch frame =>
    match called with
    | .ok result => some (.sendResponse frame result, [])
    | .error err =>
      match err.text with
      | some message => some (.sendError frame (.application message err.value), [])
      | none => some (.returned, [])
  | .sendResponse frame result =>
    let envelope : Envelope :=
      ⟨protocolVersion, kindResponse, frame.envelope.msgId, peerId, frame.envelope.fromPeer, now⟩
    match send m active envelope (c.encodeResponse result) written with
    | .ok () => some (.returned, [.wrote n envelope])
    -- an error here is caught with those of the worker
    | .error message => some (.sendError frame (.application message (some (c.thrown message))), [])
  | .sendError frame failure =>
    let envelope : Envelope :=
      ⟨protocolVersion, kindError, frame.envelope.msgId, peerId, frame.envelope.fromPeer, now⟩
    match send m active envelope (c.encodeError failure.toErrorBody) written with
    | .ok () => some (.returned, [.wrote n envelope])
    | .error _ => some (.returned, [])
  | .returned => none

/-- The close event of the socket. -/
def socketClosed (s : State) : State :=
  match s.listener with
  | .handshake => { s with registerAck := s.registerAck.settle .rejected }
  | .none => s
  | .runtime => { s with closed := true, active := false }

/-- An error event of the socket; the listener of `open` stays on to its first event. -/
def socketError (s : State) : State :=
  let s := { s with opened := s.opened.settle .rejected }
  match s.listener with
  | .handshake => { s with registerAck := s.registerAck.settle .rejected }
  | .none => s
  | .runtime => failTransport s

/-- A service from the call of `WebSocketTransport.connect` on. -/
def service : TransitionSystem State Input Event where
  init := ⟨.awaitOpen, .pending, .pending, .handshake, false, false, 0, fun _ => .unstarted⟩
  step
    | .message incoming, s => some (message m c registerMsgId incoming s)
    | .socketClosed, s => some (socketClosed s, [])
    | .socketError, s => some (socketError s, [])
    | .opened sent, s =>
      some ({ s with opened := s.opened.settle (if sent then .fulfilled else .rejected) }, [])
    | .timeout, s => some ({ s with registerAck := s.registerAck.settle .rejected }, [])
    | .microtask, s => (microtask s).map fun s' => (s', [])
    | .call n called now written, s =>
      (handleCallFrame m c peerId n called now written s.isActive (s.calls n)).map fun o =>
        ({ s with calls := Function.update s.calls n o.1 }, o.2)

end Multifrost.JavaScript.Service
