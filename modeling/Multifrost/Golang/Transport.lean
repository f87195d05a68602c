import Mathlib.Data.List.AList
import Multifrost.Bindings.Errors
import Multifrost.Bindings.Frame
import Multifrost.Lib.Channel
import Multifrost.Lib.TransitionSystem

/-!
# The transport of the Go binding

`peerTransport` of `golang/transport.go` after its registration.  Any number of `request` and `send`,
any number of calls of `closeWithError` and the one `readLoop` run side by side.  One step is a
section under `pendingMu`, a send to or a close of a channel, the close of `t.closed`, a `select`,
taking or releasing `writeMu`, or entering or leaving `closedOnce`.
-/

namespace Multifrost.Go.Transport

open Bindings (ErrorBody)
open Router (Envelope FrameParts kindDisconnect kindError)

/-! ### The state -/

/-- The calls of `request`. -/
abbrev ReqId := Nat

/-- The arguments of a call of `request`. -/
structure Request where
  envelope : Envelope
  bodyBytes : Bytes

/-- The errors of the transport. -/
inductive Failure
  /-- the `TransportError` of a transport that was closed without an error -/
  | transportClosed
  /-- a `TransportError` around an error of the connection -/
  | transport (err : String)
  /-- an error of `EncodeFrame` -/
  | encode (err : String)
  /-- the error of the context -/
  | context (err : String)
  | routerError (code message : String)
  /-- what `ErrorFromWire` makes of an error frame -/
  | wire (err : Error)

/-- `transportReply`; `none` is the zero frame. -/
structure Reply where
  frame : Option FrameParts
  err : Option Failure

/-- Who moves. -/
inductive Party
  | request (r : ReqId)
  | send (d : Nat)
  | close (k : Nat)
  | readLoop
deriving DecidableEq

/-- `closedOnce`. -/
inductive Once
  | idle
  | running (p : Party)
  | done
deriving DecidableEq

/-- The fields of `peerTransport` that change, and the channels of all requests. -/
structure Shared where
  /-- `t.closed` is closed -/
  closed : Bool
  closeErr : Option Failure
  closedOnce : Once
  /-- who holds the mutex -/
  writeMu : Option Party
  pending : AList fun _ : String => ReqId
  chan : ReqId → Channel Reply

/-- What happens to the channels and to the entries of the map. -/
inductive Event
  | sent (p : Party) (r : ReqId) (reply : Reply)
  | closed (p : Party) (r : ReqId)
  | removed (p : Party) (r : ReqId)
  /-- a send to a closed channel, or a second close -/
  | panicked
  /-- `cancelPending` has run -/
  | drained

def Shared.transportClosedError (t : Shared) : Failure := t.closeErr.getD .transportClosed

/-! ### Closing -/

/-- Where a call of `closeWithError` is. -/
inductive ClosePc
  /-- `closedOnce.Do` -/
  | enter
  /-- `closeErr.Store` -/
  | store
  /-- `close(t.closed)` -/
  | closeClosed
  /-- `cancelPending` -/
  | cancel
  /-- `conn.Close` -/
  | closeConn
  /-- the end of `closedOnce.Do` -/
  | leave
deriving DecidableEq

/-- One round of the loop in `cancelPending`: a reply is sent if the buffer is empty, and the channel
is closed. -/
def cancelEntry (p : Party) (reply : Reply) (chan : ReqId → Channel Reply) (r : ReqId) :
    (ReqId → Channel Reply) × List Event :=
  let sent : (ReqId → Channel Reply) × List Event :=
    match (chan r).send reply with
    | .done c => (Function.update chan r c, [.sent p r reply])
    | .blocks => (chan, [])
    | .panics => (chan, [.panicked])
  match (sent.1 r).close with
  | .done c => (Function.update sent.1 r c, sent.2 ++ [.closed p r, .removed p r])
  | _ => (sent.1, sent.2 ++ [.panicked])

def cancelEntries (p : Party) (reply : Reply) :
    List ReqId → (ReqId → Channel Reply) → (ReqId → Channel Reply) × List Event
  | [], chan => (chan, [])
  | r :: rs, chan =>
    let first := cancelEntry p reply chan r
    let rest := cancelEntries p reply rs first.1
    (rest.1, first.2 ++ rest.2)

/-- The whole loop is under `pendingMu`, so that the order in which the map is ranged over is not
seen. -/
def cancelPending (p : Party) (err : Option Failure) (t : Shared) : Shared × List Event :=
  let reply : Reply := ⟨none, some (err.getD t.transportClosedError)⟩
  let cancelled := cancelEntries p reply (t.pending.entries.map Sigma.snd) t.chan
  ({ t with pending := ∅, chan := cancelled.1 }, cancelled.2 ++ [.drained])

/-- The second component is `none` when the call has returned. -/
def closeWithError (p : Party) (err : Option Failure) (t : Shared) :
    ClosePc → Option (Shared × Option ClosePc × List Event)
  | .enter =>
    match t.closedOnce with
    | .idle => some ({ t with closedOnce := .running p }, some .store, [])
    -- `Do` waits for the call that runs
    | .running _ => none
    | .done => some (t, none, [])
  | .store => some ({ t with closeErr := err <|> t.closeErr }, some .closeClosed, [])
  | .closeClosed => some ({ t with closed := true }, some .cancel, [])
  | .cancel =>
    let cancelled := cancelPending p err t
    some (cancelled.1, some .closeConn, cancelled.2)
  | .closeConn => some (t, some .leave, [])
  | .leave => some ({ t with closedOnce := .done }, none, [])

/-! ### Writing -/

/-- Where a call of `writeBinary` is. -/
inductive WritePc
  /-- the first `isClosed` -/
  | start
  /-- `writeMu.Lock` -/
  | lock
  /-- the second `isClosed` -/
  | locked
  /-- `conn.Write` -/
  | write
  /-- `closeWithError` after a failed write -/
  | close (err : Failure) (pc : ClosePc)
  /-- `writeMu.Unlock` -/
  | unlock (result : Except Failure Unit)

/-- How a call goes on, or what it has returned. -/
inductive Writing
  | goes (pc : WritePc)
  | returned (result : Except Failure Unit)

def writeBinary (p : Party) (written : Except String Unit) (t : Shared) :
    WritePc → Option (Shared × Writing × List Event)
  | .start =>
    if t.closed then some (t, .returned (.error t.transportClosedError), [])
    else some (t, .goes .lock, [])
  | .lock =>
    match t.writeMu with
    | none => some ({ t with writeMu := some p }, .goes .locked, [])
    | some _ => none
  | .locked =>
    if t.closed then some (t, .goes (.unlock (.error t.transportClosedError)), [])
    else some (t, .goes .write, [])
  | .write =>
    match written with
    | .ok () => some (t, .goes (.unlock (.ok ())), [])
    | .error err => some (t, .goes (.close (.transport err) .enter), [])
  | .close err pc =>
    (closeWithError p (some err) t pc).map fun o =>
      match o.2.1 with
      | some pc' => (o.1, .goes (.close err pc'), o.2.2)
      | none => (o.1, .goes (.unlock (.error err)), o.2.2)
  | .unlock result => some ({ t with writeMu := none }, .returned result, [])

/-! ### Requests -/

inductive RequestPc
  /-- the check of `isClosed` -/
  | start
  /-- the entry is made -/
  | insert
  /-- `EncodeFrame` -/
  | encode
  | write (pc : WritePc)
  /-- the `select` on the reply, the context and `t.closed` -/
  | select
  /-- `removePending` -/
  | remove (err : Failure)
  | returned (frame : Option FrameParts) (err : Option Failure)

/-- The case that a `select` takes. -/
inductive Case
  | reply
  | done (err : String)
  | closed
deriving DecidableEq

variable (m : Msgpack) (decodeErrorBody : Bytes → Except Failure ErrorBody)

/-- `removePending`. -/
def removePending (p : Party) (msgId : String) (t : Shared) : Shared × List Event :=
  ({ t with pending := t.pending.erase msgId },
    match t.pending.lookup msgId with
    | some r => [.removed p r]
    | none => [])

def request (req : Request) (r : ReqId) (written : Except String Unit) (taken : Case)
    (t : Shared) : RequestPc → Option (Shared × RequestPc × List Event)
  | .start =>
    if t.closed then some (t, .returned none (some t.transportClosedError), [])
    else some (t, .insert, [])
  | .insert =>
    some ({ t with
      pending := t.pending.insert req.envelope.msgId r
      chan := Function.update t.chan r .fresh }, .encode, [])
  | .encode =>
    match encodeFrame m req.envelope req.bodyBytes with
    | .ok _ => some (t, .write .start, [])
    | .error err => some (t, .remove (.encode err), [])
  | .write pc =>
    (writeBinary (.request r) written t pc).map fun o =>
      match o.2.1 with
      | .goes pc' => (o.1, .write pc', o.2.2)
      | .returned (.ok ()) => (o.1, .select, o.2.2)
      | .returned (.error err) => (o.1, .remove err, o.2.2)
  | .select =>
    match taken with
    | .reply =>
      (t.chan r).receive.map fun o =>
        let reply : Reply := o.1.getD ⟨none, none⟩
        ({ t with chan := Function.update t.chan r o.2 }, .returned reply.frame reply.err, [])
    | .done err => some (t, .remove (.context err), [])
    | .closed => if t.closed then some (t, .remove t.transportClosedError, []) else none
  | .remove err =>
    let removed := removePending (.request r) req.envelope.msgId t
    some (removed.1, .returned none (some err), removed.2)
  | .returned .. => none

/-! ### The other parties -/

/-- `send` once its frame is encoded. -/
inductive SendPc
  | write (pc : WritePc)
  | returned (result : Except Failure Unit)

def send (d : Nat) (written : Except String Unit) (t : Shared) :
    SendPc → Option (Shared × SendPc × List Event)
  | .write pc =>
    (writeBinary (.send d) written t pc).map fun o =>
      match o.2.1 with
      | .goes pc' => (o.1, .write pc', o.2.2)
      | .returned result => (o.1, .returned result, o.2.2)
  | .returned _ => none

inductive ReadPc
  /-- `conn.Read` -/
  | read
  /-- the section of `deliverPending` under `pendingMu` -/
  | deliver (frame : FrameParts)
  /-- the reply is sent to the channel that was taken out of the map -/
  | send (r : ReqId) (reply : Reply)
  /-- the channel is closed -/
  | closeChan (r : ReqId)
  /-- a frame that nobody waits for -/
  | dispatch (frame : FrameParts)
  | close (err : Failure) (pc : ClosePc)
  /-- the deferred `closeWithError(nil)` -/
  | deferred (pc : ClosePc)
  | returned

/-- What `conn.Read` yields; the library answers control messages itself. -/
inductive Incoming
  | binary (bytes : Bytes)
  | text
  | failed (err : String)

/-- The reply that `deliverPending` makes of a frame. -/
def replyOf (frame : FrameParts) : Reply :=
  ⟨some frame,
    if frame.envelope.kind = kindError then
      match decodeErrorBody frame.bodyBytes with
      | .ok body => some (.wire (errorFromWire body))
      | .error err => some err
    else none⟩

def readLoop (incoming : Incoming) (t : Shared) : ReadPc → Option (Shared × ReadPc × List Event)
  | .read =>
    match incoming with
    | .binary bytes =>
      match decodeFrame m bytes with
      | .ok frame => some (t, .deliver frame, [])
      | .error err => some (t, .close (.routerError "malformed_frame" err) .enter, [])
    | .text =>
      some (t, .close (.routerError "non_binary_message"
        "router must send binary websocket frames") .enter, [])
    | .failed err => some (t, .close (.transport err) .enter, [])
  | .deliver frame =>
    match t.pending.lookup frame.envelope.msgId with
    | some r =>
      some ({ t with pending := t.pending.erase frame.envelope.msgId },
        .send r (replyOf decodeErrorBody frame), [.removed .readLoop r])
    | none => some (t, .dispatch frame, [])
  | .send r reply =>
    match (t.chan r).send reply with
    | .done c =>
      some ({ t with chan := Function.update t.chan r c }, .closeChan r, [.sent .readLoop r reply])
    | .blocks => none
    | .panics => some (t, .returned, [.panicked])
  | .closeChan r =>
    match (t.chan r).close with
    | .done c => some ({ t with chan := Function.update t.chan r c }, .read, [.closed .readLoop r])
    | _ => some (t, .returned, [.panicked])
  -- the dispatch function runs in a goroutine of its own, if there is one
  | .dispatch frame =>
    if frame.envelope.kind = kindDisconnect then
      some (t, .close (.transport "peer disconnected") .enter, [])
    else some (t, .read, [])
  | .close err pc =>
    (closeWithError .readLoop (some err) t pc).map fun o =>
      match o.2.1 with
      | some pc' => (o.1, .close err pc', o.2.2)
      | none => (o.1, .deferred .enter, o.2.2)
  | .deferred pc =>
    (closeWithError .readLoop none t pc).map fun o =>
      match o.2.1 with
      | some pc' => (o.1, .deferred pc', o.2.2)
      | none => (o.1, .returned, o.2.2)
  | .returned => none

structure State where
  shared : Shared
  requests : ReqId → RequestPc
  sends : Nat → SendPc
  /-- calls of `closeWithError` by others; `none` when they have returned -/
  closers : Nat → Option ClosePc
  readLoop : ReadPc

/-- Who moves, and the environment's part of the step: what a write and a read yield, and which of
the cases that are ready a `select` takes. -/
inductive Input
  | request (r : ReqId) (written : Except String Unit) (taken : Case)
  | send (d : Nat) (written : Except String Unit)
  | close (k : Nat)
  | readLoop (incoming : Incoming)

/-- The transport of one peer, with all requests, sends and closes that are ever made on it; `closing`
are the errors that the others close it with. -/
def transport (req : ReqId → Request) (closing : Nat → Option Failure) :
    TransitionSystem State Input Event where
  init :=
    { shared := ⟨false, none, .idle, none, ∅, fun _ => .fresh⟩
      requests := fun _ => .start
      sends := fun _ => .write .start
      closers := fun _ => some .enter
      readLoop := .read }
  step
    | .request r written taken, s =>
      (request m (req r) r written taken s.shared (s.requests r)).map fun o =>
        ({ s with shared := o.1, requests := Function.update s.requests r o.2.1 }, o.2.2)
    | .send d written, s =>
      (send d written s.shared (s.sends d)).map fun o =>
        ({ s with shared := o.1, sends := Function.update s.sends d o.2.1 }, o.2.2)
    | .close k, s =>
      (s.closers k).bind fun pc =>
        (closeWithError (.close k) (closing k) s.shared pc).map fun o =>
          ({ s with shared := o.1, closers := Function.update s.closers k o.2.1 }, o.2.2)
    | .readLoop incoming, s =>
      (readLoop m decodeErrorBody incoming s.shared s.readLoop).map fun o =>
        ({ s with shared := o.1, readLoop := o.2.1 }, o.2.2)

end Multifrost.Go.Transport
