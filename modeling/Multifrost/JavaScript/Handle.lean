import Mathlib.Data.List.AList
import Multifrost.Bindings.Frame
import Multifrost.Lib.TransitionSystem

/-!
# The caller handle of the JavaScript binding

`Handle` of `javascript/src/connection.ts` with the transports it connects, of
`javascript/src/transport.ts`.  Any number of calls of `start` and `stop` and any number of requests
run side by side, on the sockets of any number of transports.  What runs between two awaits is one
step, and so is an event of a socket.

The map of pending requests belongs to the handle.  The close callback of a transport belongs to the
transport; it rejects whatever is in the map when it comes.
-/

namespace Multifrost.JavaScript.Handle

open Router (kindError kindResponse)

/-! ### The state -/

/-- The calls of `start`.  A call connects one transport at most, which goes by the same number. -/
abbrev StartId := Nat

abbrev ReqId := Nat

/-- Who calls `stop`: the user, or a `start` that has failed. -/
inductive Stopper
  | user (n : Nat)
  | start (k : StartId)
deriving DecidableEq

inductive StartPc
  | unstarted
  /-- `await bootstrapRouter` -/
  | bootstrap
  /-- `await WebSocketTransport.connect`, and `waitForRegister` in it -/
  | connect
  /-- the runtime listeners are attached, and `connect` goes on -/
  | attached
  /-- `connect` has returned -/
  | connected
  /-- `await this.validateTargetPeer` -/
  | validate
  /-- `await this.stop` in the `catch` clause -/
  | stop
  | returned
  | thrown
deriving DecidableEq

inductive StopPc
  | unstarted
  /-- `await transport.send` of the disconnect frame -/
  | send (t : StartId)
  /-- `await transport.close` -/
  | close (t : StartId)
  | returned
deriving DecidableEq

structure Transport where
  /-- the runtime listeners are attached -/
  listening : Bool
  active : Bool
  closed : Bool
  /-- the close event has come -/
  closeEmitted : Bool

/-- The promise of a request. -/
inductive Outcome
  | unsent
  | pending
  | resolved
  | rejected
deriving DecidableEq

structure Request where
  outcome : Outcome
  timer : Bool
  /-- `transport.send` has not been settled -/
  sending : Bool
  /-- the transport it was sent on -/
  sentOn : Option StartId

structure State where
  transport : Option StartId
  started : Bool
  /-- `callerPeerId` is set -/
  callerPeerId : Bool
  pendingRequests : AList fun _ : String => ReqId
  requests : ReqId → Request
  starts : StartId → StartPc
  stops : Stopper → StopPc
  transports : StartId → Transport

/-- Why a request is rejected. -/
inductive Cause
  | timeout
  | sendFailure
  /-- an error frame with its message id -/
  | errorFrame
  /-- a response with its message id that cannot be decoded -/
  | undecodable
  | stop (w : Stopper)
  /-- the close callback of a transport -/
  | closed (t : StartId)
deriving DecidableEq

inductive Event
  | sent (r : ReqId) (t : StartId)
  | stopBegan (w : Stopper)
  | rejected (r : ReqId) (cause : Cause)
deriving DecidableEq

/-- A message as the socket delivers it. -/
inductive Incoming
  | binary (bytes : Bytes)
  | text

/-- What comes next; `ok` is whether an await succeeds. -/
inductive Input
  | start (k : StartId)
  | bootstrapped (k : StartId) (ok : Bool)
  | registered (k : StartId) (ok : Bool)
  | activated (k : StartId)
  | assigned (k : StartId)
  | validated (k : StartId) (ok : Bool)
  | startThrows (k : StartId)
  | stop (n : Nat)
  | stopSent (w : Stopper)
  | stopClosed (w : Stopper)
  | message (t : StartId) (incoming : Incoming)
  | socketClosed (t : StartId)
  | socketError (t : StartId)
  /-- `encoded` is whether `encodeBody` of the request succeeds -/
  | request (r : ReqId) (encoded : Bool)
  | requestSent (r : ReqId) (ok : Bool)
  | timeout (r : ReqId)

/-- `decodes` is whether `decodeBody` succeeds, and `errorThrows` whether `errorFromBody` throws at what
it returns, as it does at `null`; `msgId` gives the id of a request, and `eager` is the option
`eagerTargetQuery`. -/
structure Config where
  msgpack : Msgpack
  decodes : Bytes → Bool
  errorThrows : Bytes → Bool
  msgId : ReqId → String
  eager : Bool

/-- `errorFromBody` of what `decodeBody` returns succeeds. -/
def Config.readsError (cfg : Config) (bodyBytes : Bytes) : Bool :=
  cfg.decodes bodyBytes && !cfg.errorThrows bodyBytes

variable (cfg : Config)

/-! ### Requests -/

def State.setRequest (s : State) (r : ReqId) (f : Request → Request) : State :=
  { s with requests := Function.update s.requests r (f (s.requests r)) }

/-- `reject` of a promise; a promise is settled once. -/
def reject (r : ReqId) (cause : Cause) (s : State) : State × List Event :=
  if (s.requests r).outcome = .pending then
    (s.setRequest r fun q => { q with outcome := .rejected }, [.rejected r cause])
  else (s, [])

def resolve (r : ReqId) (s : State) : State :=
  if (s.requests r).outcome = .pending then s.setRequest r fun q => { q with outcome := .resolved }
  else s

def clearTimeout (r : ReqId) (s : State) : State := s.setRequest r fun q => { q with timer := false }

/-- `clearTimeout` and `reject`, for each of a list. -/
def rejectEach (cause : Cause) : List ReqId → State → State × List Event
  | [], s => (s, [])
  | r :: rs, s =>
    let first := reject r cause (clearTimeout r s)
    let rest := rejectEach cause rs first.1
    (rest.1, first.2 ++ rest.2)

def rejectAllPending (cause : Cause) (s : State) : State × List Event :=
  let o := rejectEach cause (s.pendingRequests.entries.map Sigma.snd) s
  ({ o.1 with pendingRequests := ∅ }, o.2)

/-- `sendRequest`, to the end of the executor of its promise. -/
def sendRequest (r : ReqId) (encoded : Bool) (s : State) : State × List Event :=
  match s.transport with
  | some t =>
    if s.started ∧ s.callerPeerId then
      let s :=
        { s with
          pendingRequests := s.pendingRequests.insert (cfg.msgId r) r
          requests := Function.update s.requests r ⟨.pending, true, encoded, some t⟩ }
      -- what `encodeBody` throws rejects the promise, and the entry stays
      if encoded then (s, [.sent r t])
      else
        let o := reject r .sendFailure s
        (o.1, [.sent r t] ++ o.2)
    else (s.setRequest r fun q => { q with outcome := .rejected }, [])
  | none => (s.setRequest r fun q => { q with outcome := .rejected }, [])

/-- The callback of a response. -/
def resolvePending (msgId : String) (bodyBytes : Bytes) (s : State) : State × List Event :=
  match s.pendingRequests.lookup msgId with
  | none => (s, [])
  | some r =>
    let s := clearTimeout r { s with pendingRequests := s.pendingRequests.erase msgId }
    if cfg.decodes bodyBytes then (resolve r s, []) else reject r .undecodable s

/-- The callback of an error frame; what `decodeBody` or `errorFromBody` throws leaves the promise as
it is. -/
def rejectPending (msgId : String) (bodyBytes : Bytes) (s : State) : State × List Event :=
  match s.pendingRequests.lookup msgId with
  | none => (s, [])
  | some r =>
    let s := clearTimeout r { s with pendingRequests := s.pendingRequests.erase msgId }
    if cfg.readsError bodyBytes then reject r .errorFrame s else (s, [])

/-! ### Transports -/

def State.setTransport (s : State) (t : StartId) (f : Transport → Transport) : State :=
  { s with transports := Function.update s.transports t (f (s.transports t)) }

/-- `failTransport`, with the close callback. -/
def failTransport (t : StartId) (s : State) : State × List Event :=
  if (s.transports t).closed then (s, [])
  else
    rejectAllPending (.closed t)
      (s.setTransport t fun transport => { transport with closed := true, active := false })

/-- A message of the socket of a transport. -/
def message (t : StartId) (incoming : Incoming) (s : State) : State × List Event :=
  match incoming with
  | .text => failTransport t s
  | .binary bytes =>
    match toFrame cfg.msgpack bytes with
    | .error _ => failTransport t s
    | .ok frame =>
      if frame.envelope.kind = kindResponse then
        resolvePending cfg frame.envelope.msgId frame.bodyBytes s
      else if frame.envelope.kind = kindError then
        rejectPending cfg frame.envelope.msgId frame.bodyBytes s
      else (s, [])

/-- `close` of a transport. -/
def closeTransport (t : StartId) (s : State) : State :=
  if (s.transports t).closed then s
  else s.setTransport t fun transport => { transport with closed := true }

/-! ### Starting and stopping -/

def State.setStart (s : State) (k : StartId) (pc : StartPc) : State :=
  { s with starts := Function.update s.starts k pc }

def State.setStop (s : State) (w : Stopper) (pc : StopPc) : State :=
  { s with stops := Function.update s.stops w pc }

/-- `stop`, to its first await. -/
def beginStop (w : Stopper) (s : State) : State × List Event :=
  let taken := { s with transport := none, started := false }
  match s.transport with
  | none =>
    let o := rejectAllPending (.stop w) taken
    (o.1.setStop w .returned, [.stopBegan w] ++ o.2)
  | some t =>
    if (s.transports t).closed then (taken.setStop w (.close t), [.stopBegan w])
    else (taken.setStop w (.send t), [.stopBegan w])

/-- The `catch` clause of `start`. -/
def failStart (k : StartId) (s : State) : State × List Event :=
  beginStop (.start k) (s.setStart k .stop)

/-- A handle of which nothing has been called yet. -/
def handle : TransitionSystem State Input Event where
  init := ⟨none, false, false, ∅, fun _ => ⟨.unsent, false, false, none⟩, fun _ => .unstarted,
    fun _ => .unstarted, fun _ => ⟨false, false, false, false⟩⟩
  step
    | .start k, s =>
      if s.starts k = .unstarted then
        if s.started ∧ s.transport.isSome then some (s.setStart k .returned, [])
        else some (s.setStart k .bootstrap, [])
      else none
    | .bootstrapped k ok, s =>
      if s.starts k = .bootstrap then
        if ok then some ({ s with callerPeerId := true }.setStart k .connect, [])
        -- this is outside of the `try` block
        else some (s.setStart k .thrown, [])
      else none
    | .registered k ok, s =>
      if s.starts k = .connect then
        if ok then
          some ((s.setTransport k fun transport => { transport with listening := true }).setStart k
            .attached, [])
        else some (failStart k s)
      else none
    | .activated k, s =>
      if s.starts k = .attached then
        some ((s.setTransport k fun transport => { transport with active := true }).setStart k
          .connected, [])
      else none
    | .assigned k, s =>
      if s.starts k = .connected then
        some ({ s with transport := some k, started := true }.setStart k
          (if cfg.eager then .validate else .returned), [])
      else none
    | .validated k ok, s =>
      if s.starts k = .validate then
        if ok then some (s.setStart k .returned, []) else some (failStart k s)
      else none
    | .startThrows k, s =>
      if s.starts k = .stop ∧ s.stops (.start k) = .returned then some (s.setStart k .thrown, [])
      else none
    | .stop n, s =>
      if s.stops (.user n) = .unstarted then some (beginStop (.user n) s) else none
    | .stopSent w, s =>
      match s.stops w with
      -- the outcome of the send does not matter
      | .send t => some ((closeTransport t s).setStop w (.close t), [])
      | _ => none
    | .stopClosed w, s =>
      match s.stops w with
      | .close _ =>
        let o := rejectAllPending (.stop w) s
        some (o.1.setStop w .returned, o.2)
      | _ => none
    | .message t incoming, s =>
      if (s.transports t).listening ∧ (s.transports t).closeEmitted = false then
        some (message cfg t incoming s)
      else none
    | .socketClosed t, s =>
      if (s.transports t).listening ∧ (s.transports t).closeEmitted = false then
        some (rejectAllPending (.closed t) (s.setTransport t fun transport =>
          { transport with closed := true, active := false, closeEmitted := true }))
      else none
    | .socketError t, s =>
      if (s.transports t).listening ∧ (s.transports t).closeEmitted = false then
        some (failTransport t s)
      else none
    | .request r encoded, s =>
      if (s.requests r).outcome = .unsent then some (sendRequest cfg r encoded s) else none
    | .requestSent r ok, s =>
      if (s.requests r).sending then
        let s := s.setRequest r fun q => { q with sending := false }
        if ok then some (s, [])
        else
          some (reject r .sendFailure
            (clearTimeout r { s with pendingRequests := s.pendingRequests.erase (cfg.msgId r) }))
      else none
    | .timeout r, s =>
      if (s.requests r).timer then
        some (reject r .timeout
          (clearTimeout r { s with pendingRequests := s.pendingRequests.erase (cfg.msgId r) }))
      else none

end Multifrost.JavaScript.Handle
