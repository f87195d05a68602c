import Multifrost.Bindings.Errors
import Multifrost.Bindings.Frame
import Multifrost.Lib.TransitionSystem

/-!
# The service of the Go binding

`RunService` of `golang/service.go` from the accepted registration on, with the read loop of
`golang/transport.go` and the goroutines it starts.  The loop is started inside
`dialPeerTransport`; the variable `transport`, which the dispatch function tests, is assigned when
`dialPeerTransport` has returned.  Each party takes one step at a time, and the section under
`writeMu` is one step.
-/

namespace Multifrost.Go.Service

open Bindings (ErrorBody)
open Router (Envelope FrameParts kindCall kindDisconnect kindError kindHeartbeat kindQuery
  kindResponse protocolVersion)

/-! ### Handling a frame -/

/-- `V` are the values that the msgpack library of the binding reads and writes. -/
structure CallBody (V : Type) where
  function : String
  args : List V

/-- The msgpack library at the bodies a service reads and writes; an error is its text. -/
structure BodyCodec (V : Type) where
  decodeCall : Bytes → Except String (CallBody V)
  encodeResponse : V → Except String Bytes
  encodeError : ErrorBody → Except String Bytes

/-- What is left to do for a frame after `handleServiceFrame` has built its reply. -/
inductive Action
  /-- `transport.send`, up to the write -/
  | reply (envelope : Envelope) (bytes : Bytes)
  /-- `transport.closeWithError` -/
  | close
  | nothing

variable {V : Type} (m : Msgpack) (c : BodyCodec V) (peerId : String)

/-- `NewEnvelope` with the message id and the timestamp of the request. -/
def replyEnvelope (kind : String) (request : Envelope) : Envelope :=
  ⟨protocolVersion, kind, request.msgId, peerId, request.fromPeer, request.ts⟩

/-- `transport.send` up to the write; an error comes back to the dispatch function, which closes the
transport. -/
def send (envelope : Envelope) (bodyBytes : Bytes) : Action :=
  match encodeFrame m envelope bodyBytes with
  | .ok bytes => .reply envelope bytes
  | .error _ => .close

def sendServiceError (request : Envelope) (failure : CallFailure) : Action :=
  match c.encodeError failure.toErrorBody with
  | .ok bodyBytes => send m (replyEnvelope peerId kindError request) bodyBytes
  | .error _ => .close

/-- `called` is what `HandleCall` returns, if it is called. -/
def handleServiceCall (called : Except String V) (frame : FrameParts) : Action :=
  match c.decodeCall frame.bodyBytes with
  | .error err => sendServiceError m c peerId frame.envelope (.malformedCallBody err)
  | .ok _ =>
    match called with
    | .error err => sendServiceError m c peerId frame.envelope (.remoteCallError err)
    | .ok result =>
      match c.encodeResponse result with
      | .error err => sendServiceError m c peerId frame.envelope (.malformedResponseBody err)
      | .ok bodyBytes => send m (replyEnvelope peerId kindResponse frame.envelope) bodyBytes

def handleServiceFrame (called : Except String V) (frame : FrameParts) : Action :=
  if frame.envelope.kind = kindCall then handleServiceCall m c peerId called frame
  else if frame.envelope.kind = kindDisconnect then .close
  else if frame.envelope.kind = kindHeartbeat then .nothing
  else if frame.envelope.kind = kindQuery ∨ frame.envelope.kind = kindResponse ∨
      frame.envelope.kind = kindError then .nothing
  -- an unsupported kind is an error
  else .close

/-! ### The parties -/

/-- `RunService`, and `dialPeerTransport` at its end. -/
inductive MainPc
  /-- `go transport.readLoop()` -/
  | start
  /-- the assignment of `transport` -/
  | assign
  /-- the `select` on the context and on `transport.closed` -/
  | select
  | returned
deriving DecidableEq

inductive ReadPc
  /-- the goroutine has not been started -/
  | unstarted
  /-- `conn.Read` -/
  | read
  /-- `deliverPending` -/
  | deliver (frame : FrameParts)
  /-- `go t.dispatch(frameCopy)` -/
  | dispatch (frame : FrameParts)
  /-- the test for a disconnect frame -/
  | dispatched (frame : FrameParts)
  /-- `closeWithError` -/
  | close
  | returned
deriving DecidableEq

/-- A goroutine of the dispatch function. -/
inductive DispatchPc
  | unstarted
  /-- the test of `transport` -/
  | check (frame : FrameParts)
  /-- `handleServiceFrame` up to its write -/
  | handle (frame : FrameParts)
  /-- the first `isClosed` of `writeBinary` -/
  | writeBinary (envelope : Envelope) (bytes : Bytes)
  /-- the section under `writeMu` -/
  | write (envelope : Envelope) (bytes : Bytes)
  /-- `closeWithError` -/
  | close
  | returned
deriving DecidableEq

structure State where
  /-- the variable `transport` is no longer `nil` -/
  transport : Bool
  /-- `t.closed` is closed -/
  closed : Bool
  main : MainPc
  readLoop : ReadPc
  /-- how many goroutines the loop has started -/
  started : Nat
  dispatches : Nat → DispatchPc

/-- A frame that is read, or a reply that goes out. -/
inductive Event
  | read (frame : FrameParts)
  | wrote (d : Nat) (envelope : Envelope) (bytes : Bytes)

/-- What `conn.Read` yields; the library answers control messages itself. -/
inductive Incoming
  | binary (bytes : Bytes)
  | text
  | failed (err : String)

/-- Who moves, and the environment's part of the step: whether the context of `RunService` is done,
what the connection yields, what the worker returns and what a write yields. -/
inductive Input (V : Type)
  | main (done : Bool)
  | readLoop (incoming : Incoming)
  | dispatch (d : Nat) (called : Except String V) (written : Except String Unit)

/-! ### Steps -/

def runService (done : Bool) (s : State) : Option State :=
  match s.main with
  | .start => some { s with main := .assign, readLoop := .read }
  | .assign => some { s with main := .select, transport := true }
  | .select =>
    if done then some { s with main := .returned, closed := true }
    else if s.closed then some { s with main := .returned }
    else none
  | .returned => none

def readLoop (incoming : Incoming) (s : State) : Option (State × List Event) :=
  match s.readLoop with
  | .unstarted => none
  | .read =>
    match incoming with
    | .binary bytes =>
      match decodeFrame m bytes with
      | .ok frame => some ({ s with readLoop := .deliver frame }, [.read frame])
      | .error _ => some ({ s with readLoop := .close }, [])
    | .text | .failed _ => some ({ s with readLoop := .close }, [])
  -- nobody makes requests on the transport of a service, so that nothing is pending
  | .deliver frame => some ({ s with readLoop := .dispatch frame }, [])
  | .dispatch frame =>
    some ({ s with
      readLoop := .dispatched frame
      started := s.started + 1
      dispatches := Function.update s.dispatches s.started (.check frame) }, [])
  | .dispatched frame =>
    if frame.envelope.kind = kindDisconnect then some ({ s with readLoop := .close }, [])
    else some ({ s with readLoop := .read }, [])
  | .close => some ({ s with readLoop := .returned, closed := true }, [])
  | .returned => none

/-- One step of the `d`-th goroutine: whether the transport is closed after it, where the goroutine
is, and what went out. -/
def dispatch (d : Nat) (called : Except String V) (written : Except String Unit)
    (transport closed : Bool) : DispatchPc → Option (Bool × DispatchPc × List Event)
  | .unstarted => none
  | .check frame =>
    if transport then some (closed, .handle frame, [])
    else some (closed, .returned, [])
  | .handle frame =>
    match handleServiceFrame m c peerId called frame with
    | .reply envelope bytes => some (closed, .writeBinary envelope bytes, [])
    | .close => some (closed, .close, [])
    | .nothing => some (closed, .returned, [])
  | .writeBinary envelope bytes =>
    if closed then some (closed, .close, [])
    else some (closed, .write envelope bytes, [])
  | .write envelope bytes =>
    if closed then some (closed, .close, [])
    else
      match written with
      | .ok () => some (closed, .returned, [.wrote d envelope bytes])
      -- `writeBinary` closes the transport itself, and the error is returned as well
      | .error _ => some (true, .close, [])
  | .close => some (true, .returned, [])
  | .returned => none

/-- A service whose registration has been accepted. -/
def service : TransitionSystem State (Input V) Event where
  init := ⟨false, false, .start, .unstarted, 0, fun _ => .unstarted⟩
  step
    | .main done, s => (runService done s).map fun s' => (s', [])
    | .readLoop incoming, s => readLoop m incoming s
    | .dispatch d called written, s =>
      (dispatch m c peerId d called written s.transport s.closed (s.dispatches d)).map fun o =>
        ({ s with closed := o.1, dispatches := Function.update s.dispatches d o.2.1 }, o.2.2)

end Multifrost.Go.Service
