import Multifrost.Bindings.Frame
import Multifrost.Lib.FutureMap
import Multifrost.Lib.TransitionSystem

/-!
# The transport of the Python binding

`WebSocketTransport` of `python/src/multifrost/transport.py`: one `start`, any number of `request`,
any number of `close`, and the task of `_receive_loop`.  What runs between two awaits is one step.
Every await may be the one at which its task is cancelled.

`_send_lock` is granted in any order: whoever waits for it may be the next, and `send` may have it in
between.  The handlers are not part of the transport; what they do is an input.
-/

namespace Multifrost.Python.Transport

open Router (Envelope FrameParts kindCall kindDisconnect kindError kindHeartbeat kindQuery kindResponse)

variable (m : Msgpack)

/-! ### Messages -/

/-- What `recv` yields. -/
inductive Message
  | text
  | binary (bytes : Bytes)

/-- The fields of `TransportHandlers`. -/
inductive HandlerName
  | onResponse
  | onError
  | onCall
  | onQuery
  | onHeartbeat
  | onDisconnect
deriving DecidableEq

/-- The handler that a message goes to, or the text of what `_receive_loop` raises. -/
def route : Message → Except String (HandlerName × FrameParts)
  | .text => .error "expected binary websocket frame, got <class 'str'>"
  | .binary bytes => do
    let frame ← decodeFrame m bytes
    let kind := frame.envelope.kind
    if kind = kindResponse then .ok (.onResponse, frame)
    else if kind = kindError then .ok (.onError, frame)
    else if kind = kindCall then .ok (.onCall, frame)
    else if kind = kindQuery then .ok (.onQuery, frame)
    else if kind = kindHeartbeat then .ok (.onHeartbeat, frame)
    else if kind = kindDisconnect then .ok (.onDisconnect, frame)
    else .error ("unexpected message kind: " ++ kind)

/-- What becomes of a handler: it is missing or returns at once, it awaits something, or it raises. -/
inductive Handled
  | returned
  | awaits
  | raised (err : String)

/-! ### The state -/

/-- The calls of `request`. -/
abbrev ReqId := Nat

/-- The arguments of a call of `request`, and whether there is a timeout. -/
structure Request where
  envelope : Envelope
  bodyBytes : Bytes
  timeout : Bool

inductive RequestPc
  | unstarted
  /-- the future is in `_pending`; `async with self._send_lock` -/
  | acquire
  /-- `await self._websocket.send` -/
  | send
  /-- `await future` -/
  | wait
  /-- `wait_for` has given up -/
  | timedOut
  /-- the task was cancelled while it waited -/
  | cancelled
  | returned
deriving DecidableEq

/-- Where the one call of `start` is; what is left of a failed one is its call of `close`. -/
inductive StartPc
  | idle
  /-- `await ws_connect` -/
  | connecting
  /-- `await self._send_register_and_wait_ack` -/
  | registering
  | returned
  | raised
deriving DecidableEq

/-- The task of `_receive_loop`. -/
inductive ReceiverPc
  | absent
  /-- the task has not run yet -/
  | scheduled
  /-- `await self._websocket.recv` -/
  | recv
  /-- `await result` of a handler; after that of a disconnect the loop ends -/
  | dispatch (disconnect : Bool)
  /-- the `finally` block has run -/
  | ended
  /-- cancelled before its first step, and no `finally` with it -/
  | dropped
deriving DecidableEq

/-- Who calls `close`: a failed `start`, or somebody else (`Handle.stop`, and `run_service` when it is
cancelled and at its end). -/
inductive Closer
  | start
  | stop (n : Nat)
deriving DecidableEq

/-- Where the call of `close` that has set `_closed` is. -/
inductive ClosePc
  /-- `await self._websocket.send` of the disconnect frame -/
  | disconnect
  /-- `await self._websocket.close` -/
  | closeSocket
  /-- `await self._receiver_task` -/
  | join
  | finished
  /-- cancelled -/
  | raised
deriving DecidableEq

/-- The connection of `_websocket`. -/
inductive Socket
  | absent
  | opened
  | closed
deriving DecidableEq

structure State where
  start : StartPc
  socket : Socket
  /-- `_websocket` is not `None` -/
  websocket : Bool
  receiver : ReceiverPc
  pending : FutureMap String ReqId FrameParts String
  requests : ReqId → RequestPc
  /-- the call that has set `_closed`; every other one returns at once -/
  closing : Option (Closer × ClosePc)
  /-- the calls of `close` that have returned -/
  returned : Closer → Bool
  active : Bool
  closed : Bool
  closedEvent : Bool
  closeReason : Option String

/-- The property `active`. -/
def State.isActive (s : State) : Bool := s.active && !s.closed

/-- What comes next.  `ok` is whether an await succeeds, and `err` is what is raised, if anything. -/
inductive Input
  | start
  | connected (ok : Bool)
  | registered (ok : Bool)
  | cancelStart
  | request (r : ReqId)
  | acquired (r : ReqId)
  | sent (r : ReqId) (ok : Bool)
  | timeout (r : ReqId)
  | wake (r : ReqId)
  | cancelRequest (r : ReqId)
  | startLoop
  | receive (message : Message) (handled : Handled)
  /-- `recv` raises `ConnectionClosed` -/
  | connectionClosed
  | handled (err : Option String)
  | cancelLoop
  | close (c : Closer) (graceful : Bool)
  /-- the call that has set `_closed` goes on -/
  | closing
  | cancelClose
  /-- the other side closes the connection, or it breaks -/
  | connectionLost

abbrev Event := FutureEvent ReqId

/-! ### Closing -/

def failPending (reason : String) (s : State) : State × List Event :=
  let o := s.pending.failAll reason
  ({ s with pending := o.1 }, o.2)

/-- The `finally` block of `_receive_loop`; an empty reason counts as none. -/
def runFinally (s : State) : State × List Event :=
  let s := { s with active := false, closed := true }
  let o := failPending ((s.closeReason.filter (· ≠ "")).getD "transport closed") s
  ({ o.1 with closedEvent := true, receiver := .ended }, o.2)

/-- The end of `close`. -/
def finishClose (c : Closer) (s : State) : State × List Event :=
  let o := failPending "transport closed" s
  ({ o.1 with
      websocket := false
      closedEvent := true
      closing := some (c, .finished)
      returned := Function.update s.returned c true }, o.2)

def joinReceiver (c : Closer) (s : State) : State × List Event :=
  if s.receiver = .absent then finishClose c s
  else ({ s with closing := some (c, .join) }, [])

def closeSocket (c : Closer) (s : State) : State × List Event :=
  if s.websocket then ({ s with closing := some (c, .closeSocket) }, []) else joinReceiver c s

/-- `close`, to its first await. -/
def close (c : Closer) (graceful : Bool) (s : State) : State × List Event :=
  if s.closed then ({ s with returned := Function.update s.returned c true }, [])
  else
    let s := { s with closed := true, active := false }
    if graceful && s.websocket then ({ s with closing := some (c, .disconnect) }, [])
    else closeSocket c s

/-- `close`, from one await to the next; what the send and the close of the socket raise is
suppressed. -/
def closing (s : State) : Option (State × List Event) :=
  match s.closing with
  | some (c, .disconnect) => some (closeSocket c s)
  | some (c, .closeSocket) => some (joinReceiver c { s with socket := .closed })
  | some (c, .join) =>
    if s.receiver = .ended ∨ s.receiver = .dropped then some (finishClose c s) else none
  | _ => none

/-- A cancelled call of `close` leaves everything as it is; in its last await the cancellation goes to
the receiver and is suppressed with it. -/
def cancelClose (s : State) : Option (State × List Event) :=
  match s.closing with
  | some (c, .disconnect) | some (c, .closeSocket) =>
    some ({ s with closing := some (c, .raised) }, [])
  | some (_, .join) => some (s, [])
  | _ => none

/-! ### The receive loop -/

/-- The next round of the loop. -/
def continueLoop (s : State) : State × List Event :=
  if s.websocket then ({ s with receiver := .recv }, [])
  else runFinally { s with closeReason := some "'NoneType' object has no attribute 'recv'" }

/-- `_dispatch`. -/
def dispatch (handler : HandlerName) (handled : Handled) (s : State) : State × List Event :=
  match handled with
  | .returned => if handler = .onDisconnect then runFinally s else continueLoop s
  | .awaits => ({ s with receiver := .dispatch (handler = .onDisconnect) }, [])
  | .raised err => runFinally { s with closeReason := some err }

/-- One message of `_receive_loop`. -/
def receive (message : Message) (handled : Handled) (s : State) : State × List Event :=
  match route m message with
  | .error err => runFinally { s with closeReason := some err }
  | .ok (handler, frame) =>
    if handler = .onResponse ∨ handler = .onError then
      -- `_resolve_pending`
      match s.pending.resolve frame.envelope.msgId frame with
      | some (pending, evs) =>
        let o := continueLoop { s with pending := pending }
        (o.1, evs ++ o.2)
      | none => dispatch handler handled s
    else dispatch handler handled s

/-! ### Requests -/

def State.setRequest (s : State) (r : ReqId) (pc : RequestPc) : State :=
  { s with requests := Function.update s.requests r pc }

@[simp] theorem State.setRequest_self (s : State) (r : ReqId) (pc : RequestPc) :
    (s.setRequest r pc).requests r = pc := Function.update_self ..

theorem State.setRequest_of_ne {s : State} {q r : ReqId} {pc : RequestPc} (h : q ≠ r) :
    (s.setRequest r pc).requests q = s.requests q := Function.update_of_ne h ..

variable (args : ReqId → Request)

/-- `request`, to its first await. -/
def request (r : ReqId) (s : State) : State :=
  if s.isActive then
    let s := { s with pending := s.pending.insert (args r).envelope.msgId r }
    match encodeFrame m (args r).envelope (args r).bodyBytes with
    -- this is outside of the `try` block
    | .error _ => s.setRequest r .returned
    | .ok _ => s.setRequest r .acquire
  else s.setRequest r .returned

/-- A transport of which nothing has been called yet. -/
def transport : TransitionSystem State Input Event where
  init := ⟨.idle, .absent, false, .absent, .empty, fun _ => .unstarted, none, fun _ => false,
    false, false, false, none⟩
  step
    | .start, s => if s.start = .idle then some ({ s with start := .connecting }, []) else none
    | .connected ok, s =>
      if s.start = .connecting then
        if ok then some ({ s with start := .registering, websocket := true, socket := .opened }, [])
        else some ({ s with start := .raised }, [])
      else none
    | .registered ok, s =>
      if s.start = .registering then
        if ok then
          some ({ s with
            start := .returned, closedEvent := false, active := true, receiver := .scheduled }, [])
        else some (close .start false { s with start := .raised })
      else none
    | .cancelStart, s =>
      if s.start = .connecting ∨ s.start = .registering then some ({ s with start := .raised }, [])
      else none
    | .request r, s => if s.requests r = .unstarted then some (request m args r s, []) else none
    | .acquired r, s => if s.requests r = .acquire then some (s.setRequest r .send, []) else none
    | .sent r ok, s =>
      if s.requests r = .send then
        if ok then some (s.setRequest r .wait, [])
        else
          some ({ s with pending := s.pending.discard (args r).envelope.msgId }.setRequest r .returned,
            [])
      else none
    | .timeout r, s =>
      if s.requests r = .wait ∧ (args r).timeout = true then
        some ({ s with pending := s.pending.cancel r }.setRequest r .timedOut, [])
      else none
    | .wake r, s =>
      match s.requests r with
      | .wait => if (s.pending.future r).done then some (s.setRequest r .returned, []) else none
      | .timedOut =>
        some ({ s with pending := s.pending.discard (args r).envelope.msgId }.setRequest r .returned,
          [])
      | .cancelled => some (s.setRequest r .returned, [])
      | _ => none
    | .cancelRequest r, s =>
      match s.requests r with
      -- no `except` clause sees a `CancelledError`, so that the entry stays
      | .acquire | .send => some (s.setRequest r .returned, [])
      | .wait => some ({ s with pending := s.pending.cancel r }.setRequest r .cancelled, [])
      | _ => none
    | .startLoop, s => if s.receiver = .scheduled then some (continueLoop s) else none
    | .receive message handled, s =>
      if s.receiver = .recv then some (receive m message handled s) else none
    | .connectionClosed, s =>
      if s.receiver = .recv ∧ s.socket = .closed then some (runFinally s) else none
    | .handled err, s =>
      match s.receiver with
      | .dispatch disconnect =>
        match err with
        | some err => some (runFinally { s with closeReason := some err })
        | none => some (if disconnect then runFinally s else continueLoop s)
      | _ => none
    | .cancelLoop, s =>
      match s.receiver with
      | .scheduled => some ({ s with receiver := .dropped }, [])
      | .recv | .dispatch _ => some (runFinally s)
      | _ => none
    | .close c graceful, s =>
      if c ≠ .start ∧ s.returned c = false ∧ s.closing.map Prod.fst ≠ some c then
        some (close c graceful s)
      else none
    | .closing, s => closing s
    | .cancelClose, s => cancelClose s
    | .connectionLost, s =>
      if s.socket = .opened then some ({ s with socket := .closed }, []) else none

end Multifrost.Python.Transport
