import Multifrost.Lib.PendingMap
import Multifrost.Lib.TransitionSystem
import Multifrost.Rust.Message

/-!
# The caller transport of the Rust binding

`rust/src/caller_transport.rs`: the errors a caller makes of error frames, and the transport after
its handshake.  Any number of `send_and_wait`, any number of `disconnect` and the one
`inbound_loop` run side by side; the closed flag, the pending map and the handle of the loop's task
are each behind a lock of their own, and each acquisition of a lock is one step.
-/

namespace Multifrost.Rust

open MsgPack (Value)
open Router (Envelope ErrorBody FrameParts Message RmpSerde kindDisconnect protocolVersion routerPeerId)

/-! ### Errors of the remote side -/

/-- The `match` of `decode_router_or_peer_error`. -/
def errorOfKind (body : ErrorBody) : MultifrostError :=
  match body.kind with
  | "router" => .routerUnavailable body.message
  | "protocol" => .malformedFrame body.message
  | "application" => .remoteCallError body.message
  | "library" => .invalidMessage body.message
  | _ => .remoteCallError body.message

/-- The error a caller gets for the body of an error frame; a body that cannot be read is an error
of its own, which the caller gets instead. -/
def decodeRouterOrPeerError (read : Bytes → Except String Value) (bytes : Bytes) :
    Except MultifrostError MultifrostError := do
  let body ← decodeErrorBody read bytes
  .ok (errorOfKind body)

namespace CallerTransport

/-! ### The state -/

/-- The calls of `send_and_wait`. -/
abbrev ReqId := Nat

/-- The arguments of a call of `send_and_wait`. -/
structure Request where
  frame : Bytes
  msgId : String

structure Config where
  peerId : String
  routerEndpoint : String
  requestTimeout : Option Duration

abbrev Pending := PendingMap String ReqId (Except MultifrostError FrameParts)

/-- What a `send_and_wait` does next. -/
inductive RequestPc
  /-- the check of `closed` -/
  | start
  /-- `pending.insert` -/
  | insert
  /-- `send_raw_frame` -/
  | send
  /-- `pending.remove` after a failed send -/
  | remove (err : MultifrostError)
  /-- the receiver is awaited -/
  | wait
  | returned (result : Except MultifrostError FrameParts)
deriving DecidableEq

/-- What `inbound_loop` does next. -/
inductive InboundPc
  /-- `source.next()` -/
  | next
  /-- `pending.remove` for a frame, whose sender is used while the lock is held -/
  | deliver (frame : FrameParts)
  /-- `closed` is set -/
  | close
  /-- `pending.drain` -/
  | drain
  /-- the senders that were drained and are still to be used -/
  | fail (senders : List ReqId)
  | returned
  /-- the task has been cancelled -/
  | aborted
deriving DecidableEq

/-- What a `disconnect` does next. -/
inductive DisconnectPc
  /-- the frame is encoded -/
  | start
  /-- `send_raw_frame`, whose result is ignored -/
  | send (frame : Bytes)
  /-- `inbound_task.take` -/
  | take
  | returned (result : Except MultifrostError Unit)

/-- The fields of `CallerTransportInner` that change, and where everyone is. -/
structure State where
  closed : Bool
  pending : Pending
  /-- `inbound_task` still has its handle -/
  inboundTask : Bool
  /-- `task.abort()` has been called -/
  abortRequested : Bool
  requests : ReqId → RequestPc
  inbound : InboundPc
  disconnects : Nat → DisconnectPc

/-- A frame that went out, or an answer that reached a request. -/
inductive Event
  | sent (frame : Bytes)
  | completed (r : ReqId) (result : Except MultifrostError FrameParts)

/-- Who moves, and the environment's part of the step: what the websocket answers, with the texts of
its errors, whether the request's timer has elapsed, and the order in which a hash map is drained. -/
inductive Input
  | request (r : ReqId) (sent : Except String Unit) (elapsed : Bool)
  | inbound (message : Option (Except String Message)) (pick : Nat)
  /-- the runtime cancels the task -/
  | abort
  | disconnect (d : Nat) (msgId : String) (ts : Float64) (sent : Except String Unit)

/-! ### Steps -/

/-- What the receiver of a request yields, when it yields anything. -/
def received (config : Config) :
    Oneshot (Except MultifrostError FrameParts) → Option (Except MultifrostError FrameParts)
  | .pending => none
  | .sent result => some result
  | .closed => some (.error (.routerUnavailable config.routerEndpoint))

def sendAndWait (config : Config) (request : Request) (r : ReqId) (sent : Except String Unit)
    (elapsed closed : Bool) (pending : Pending) :
    RequestPc → Option (Pending × RequestPc × List Event)
  | .start =>
    if closed then
      some (pending, .returned (.error (.routerUnavailable config.routerEndpoint)), [])
    -- the lock on the flag is released before the map is locked
    else some (pending, .insert, [])
  -- an entry under the same id is replaced, and its sender dropped
  | .insert => some (pending.insert request.msgId r, .send, [])
  | .send =>
    match sent with
    | .ok () => some (pending, .wait, [.sent request.frame])
    | .error text => some (pending, .remove (.webSocketError text), [])
  | .remove err => some ((pending.remove request.msgId).drop r, .returned (.error err), [])
  | .wait =>
    match received config (pending.chan r) with
    | some result => some (pending, .returned result, [])
    | none =>
      -- the entry stays in the map
      if config.requestTimeout.isSome && elapsed then
        some (pending.drop r, .returned (.error .timeoutError), [])
      else none
  | .returned _ => none

/-- Use a sender; the answer is lost when the receiver is gone. -/
def complete (pending : Pending) (r : ReqId) (result : Except MultifrostError FrameParts) :
    Pending × List Event :=
  (pending.send r result, if pending.chan r = .pending then [.completed r result] else [])

def inboundLoop (m : RmpSerde) (config : Config) (message : Option (Except String Message))
    (pick : Nat) (closed : Bool) (pending : Pending) :
    InboundPc → Option (Bool × Pending × InboundPc × List Event)
  | .next =>
    match message with
    | some (.ok (.binary bytes)) =>
      match decodeFrame m bytes with
      | .ok frame => some (closed, pending, .deliver frame, [])
      -- a frame that does not decode is skipped
      | .error _ => some (closed, pending, .next, [])
    -- the end of the stream, an error, or any message that is not binary
    | _ => some (closed, pending, .close, [])
  | .deliver frame =>
    match pending.take frame.envelope.msgId with
    | some (r, pending') =>
      let done := complete pending' r (.ok frame)
      some (closed, done.1, .next, done.2)
    -- a frame that nobody waits for is dropped
    | none => some (closed, pending, .next, [])
  | .close => some (true, pending, .drain, [])
  | .drain => some (closed, pending.drain, .fail pending.senders, [])
  | .fail [] => some (closed, pending, .returned, [])
  | .fail (sender :: senders) =>
    ((sender :: senders)[pick]?).map fun r =>
      let done := complete pending r (.error (.routerUnavailable config.routerEndpoint))
      (closed, done.1, .fail ((sender :: senders).erase r), done.2)
  | .returned => none
  | .aborted => none

/-- The task can be cancelled where it awaits. -/
def InboundPc.awaits : InboundPc → Bool
  | .next | .deliver _ | .close | .drain => true
  | _ => false

def buildDisconnectEnvelope (fromPeer toPeer msgId : String) (ts : Float64) : Envelope :=
  ⟨protocolVersion, kindDisconnect, msgId, fromPeer, toPeer, ts⟩

/-- The result says whether the handle of the task is still there, and whether it was used to abort
the task. -/
def disconnect (m : RmpSerde) (config : Config) (msgId : String) (ts : Float64)
    (sent : Except String Unit) (inboundTask abortRequested : Bool) :
    DisconnectPc → Option (Bool × Bool × DisconnectPc × List Event)
  | .start =>
    match encodeFrame m (buildDisconnectEnvelope config.peerId routerPeerId msgId ts) [] with
    | .ok frame => some (inboundTask, abortRequested, .send frame, [])
    | .error err => some (inboundTask, abortRequested, .returned (.error err), [])
  | .send frame =>
    some (inboundTask, abortRequested, .take, match sent with
      | .ok () => [.sent frame]
      | .error _ => [])
  -- `abort` asks the runtime to cancel the task and does not wait for it
  | .take => some (false, abortRequested || inboundTask, .returned (.ok ()), [])
  | .returned _ => none

/-- The transport of one caller, with all requests and disconnects that are ever made on it. -/
def callerTransport (m : RmpSerde) (config : Config) (request : ReqId → Request) :
    TransitionSystem State Input Event where
  init := ⟨false, PendingMap.empty, true, false, fun _ => .start, .next, fun _ => .start⟩
  step
    | .request r sent elapsed, s =>
      (sendAndWait config (request r) r sent elapsed s.closed s.pending (s.requests r)).map fun o =>
        ({ s with pending := o.1, requests := Function.update s.requests r o.2.1 }, o.2.2)
    | .inbound message pick, s =>
      (inboundLoop m config message pick s.closed s.pending s.inbound).map fun o =>
        ({ s with closed := o.1, pending := o.2.1, inbound := o.2.2.1 }, o.2.2.2)
    | .abort, s =>
      if s.abortRequested && s.inbound.awaits then some ({ s with inbound := .aborted }, [])
      else none
    | .disconnect d msgId ts sent, s =>
      (disconnect m config msgId ts sent s.inboundTask s.abortRequested (s.disconnects d)).map
        fun o =>
          ({ s with
              inboundTask := o.1, abortRequested := o.2.1
              disconnects := Function.update s.disconnects d o.2.2.1 }, o.2.2.2)

end CallerTransport

end Multifrost.Rust
