import Multifrost.JavaScript.Service
import Multifrost.Router.Registry

/-!
# Connecting a transport of the JavaScript binding

`WebSocketTransport.connect` of `javascript/src/transport.ts`, called any number of times for one
peer id, as a handle does that is started again after a failure.  Every call has a socket of its
own.  What runs between two awaits is one step, and so is an event of a socket; `onMessage` is the
listener of the handshake in `Service`.

The promise `registerAck` is awaited only after `open`.  Node ends the process when a promise is
rejected that nobody awaits.

On the other side of each socket is a connection of the router, which reads the register frame,
enters the peer in its registry or refuses it, and takes it out when the connection has ended.
-/

namespace Multifrost.JavaScript.Connect

open Router (PeerClass PeerRegistry)
open Service (BodyCodec Incoming PromiseState onMessage)

/-! ### The state -/

/-- The calls of `connect`, with their sockets. -/
abbrev ConnectId := Nat

inductive ReadyState
  | connecting
  | open
  | closing
  | closed
deriving DecidableEq

inductive Pc
  | unstarted
  /-- `await open` -/
  | awaitOpen
  /-- `await registerAck` -/
  | awaitAck
  /-- the runtime listeners are attached, and `connect` goes on -/
  | attached
  | returned
  | rejected
deriving DecidableEq

/-- The connection of a socket, at the router. -/
inductive RouterEnd
  /-- the register frame has not been read -/
  | waiting
  | registered
  | ended
deriving DecidableEq

structure Connecting where
  pc : Pc
  opened : PromiseState
  registerAck : PromiseState
  /-- the timeout of the registration -/
  timer : Bool
  /-- the listeners of `registerAck` are on the socket -/
  listening : Bool
  readyState : ReadyState
  /-- the register frame is handed to the socket, and its callback has not come -/
  sending : Bool
  /-- the register frame was handed to the socket -/
  written : Bool
  router : RouterEnd

structure State where
  connects : ConnectId → Connecting
  registry : PeerRegistry
  /-- the process of the calls has ended -/
  exited : Bool

/-- What comes next; `ok` is whether the send succeeds, and `now` is the clock of the router. -/
inductive Input
  | connect (k : ConnectId)
  | opened (k : ConnectId)
  | sent (k : ConnectId) (ok : Bool)
  | message (k : ConnectId) (incoming : Incoming)
  | socketError (k : ConnectId)
  | socketClosed (k : ConnectId)
  | timeout (k : ConnectId)
  /-- the next continuation of `connect` -/
  | microtask (k : ConnectId)
  /-- Node finds that nobody awaits the rejected `registerAck` -/
  | unhandledRejection (k : ConnectId)
  /-- a transport is closed, by itself or by whoever has it -/
  | close (k : ConnectId)
  | routerReads (k : ConnectId) (now : Router.Instant)
  /-- the router sees the end of the connection -/
  | routerEnds (k : ConnectId)
  /-- the router ends the connection -/
  | routerFails (k : ConnectId)

/-- The steps of the process of the calls; the others are the router's. -/
def Input.ofProcess : Input → Bool
  | .routerReads .. | .routerEnds _ | .routerFails _ => false
  | _ => true

/-! ### The promise `registerAck` -/

/-- `registerAck` is settled, and its timeout is cleared. -/
def Connecting.settleAck (c : Connecting) (ack : PromiseState) : Connecting :=
  { c with registerAck := c.registerAck.settle ack, timer := false }

variable (m : Msgpack) (codec : BodyCodec)

/-- The listener of the handshake; only an accepted acknowledgement takes the listeners off. -/
def Connecting.message (registerMsgId : String) (incoming : Incoming) (c : Connecting) :
    Connecting :=
  if c.listening then
    match onMessage m codec registerMsgId incoming with
    | .fulfilled => { c.settleAck .fulfilled with listening := false }
    | ack => c.settleAck ack
  else c

/-- An error of the socket, which is being closed; the listener of `open` stays on to the first
one. -/
def Connecting.socketError (c : Connecting) : Connecting :=
  let c := { c with opened := c.opened.settle .rejected, readyState := .closing }
  if c.listening then c.settleAck .rejected else c

def Connecting.socketClosed (c : Connecting) : Connecting :=
  let c := { c with readyState := .closed }
  if c.listening then c.settleAck .rejected else c

/-- The next continuation of `connect`. -/
def Connecting.microtask (c : Connecting) : Option Connecting :=
  match c.pc with
  | .awaitOpen =>
    match c.opened with
    | .pending => none
    | .rejected => some { c with pc := .rejected }
    | .fulfilled => some { c with pc := .awaitAck }
  | .awaitAck =>
    match c.registerAck with
    | .pending => none
    | .rejected => some { c with pc := .rejected }
    | .fulfilled => some { c with pc := .attached }
  | .attached => some { c with pc := .returned }
  | .unstarted | .returned | .rejected => none

/-- `registerAck` is rejected, and no continuation is due that would await it: `connect` is still at
`open`, or has failed there. -/
def Connecting.unhandled (c : Connecting) : Bool :=
  c.registerAck = .rejected ∧ c.opened ≠ .fulfilled ∧ c.microtask.isNone

/-! ### Steps -/

def ReadyState.isOver : ReadyState → Bool
  | .closing | .closed => true
  | .connecting | .open => false

def State.set (s : State) (k : ConnectId) (c : Connecting) : State :=
  { s with connects := Function.update s.connects k c }

/-- The router takes the peer of a connection that has ended out of the registry. -/
def State.leave (s : State) (peerId : String) (k : ConnectId) : State :=
  let c := s.connects k
  let registry :=
    if c.router = .registered then (s.registry.removeByPeerId peerId).1 else s.registry
  { s.set k { c with router := .ended } with registry := registry }

/-- The process ends, and with it its sockets. -/
def State.exit (s : State) : State :=
  { s with
    connects := fun k =>
      let c := s.connects k
      if c.pc = .unstarted then c else { c with readyState := .closed }
    exited := true }

/-- What an input does as long as the process runs. -/
def step (peerId : String) (peerClass : PeerClass) (msgId : ConnectId → String) (i : Input)
    (s : State) : Option (State × List Empty) :=
  match i with
  | .connect k =>
    let c := s.connects k
    if c.pc = .unstarted then
      some (s.set k { c with pc := .awaitOpen, timer := true, listening := true }, [])
    else none
  | .opened k =>
    let c := s.connects k
    if c.pc ≠ .unstarted ∧ c.readyState = .connecting then
      some (s.set k { c with readyState := .open, sending := true, written := true }, [])
    else none
  | .sent k ok =>
    let c := s.connects k
    if c.sending then
      some (s.set k
        { c with
          opened := c.opened.settle (if ok then .fulfilled else .rejected)
          sending := false }, [])
    else none
  | .message k incoming =>
    let c := s.connects k
    if c.readyState = .open ∨ c.readyState = .closing then
      some (s.set k (c.message m codec (msgId k) incoming), [])
    else none
  | .socketError k =>
    let c := s.connects k
    if c.pc ≠ .unstarted ∧ c.readyState ≠ .closed then some (s.set k c.socketError, []) else none
  | .socketClosed k =>
    let c := s.connects k
    if c.pc ≠ .unstarted ∧ c.readyState ≠ .closed then some (s.set k c.socketClosed, []) else none
  | .timeout k =>
    let c := s.connects k
    if c.timer then some (s.set k (c.settleAck .rejected), []) else none
  | .microtask k => (s.connects k).microtask.map fun c => (s.set k c, [])
  | .unhandledRejection k => if (s.connects k).unhandled then some (s.exit, []) else none
  | .close k =>
    let c := s.connects k
    if (c.pc = .attached ∨ c.pc = .returned) ∧ c.readyState = .open then
      some (s.set k { c with readyState := .closing }, [])
    else none
  | .routerReads k now =>
    let c := s.connects k
    if c.written ∧ c.router = .waiting then
      match s.registry.insertLivePeer peerId peerClass k now with
      | .ok registry =>
        some ({ s.set k { c with router := .registered } with registry := registry }, [])
      -- the router answers with an error and closes the connection
      | .error _ => some (s.set k { c with router := .ended }, [])
    else none
  | .routerEnds k =>
    let c := s.connects k
    if c.readyState.isOver ∧ c.router ≠ .ended then some (s.leave peerId k, []) else none
  | .routerFails k =>
    let c := s.connects k
    if c.pc ≠ .unstarted ∧ c.router ≠ .ended then some (s.leave peerId k, []) else none

/-- Any number of calls of `connect` with one peer id; `msgId` gives the ids of the register
frames. -/
def connect (peerId : String) (peerClass : PeerClass) (msgId : ConnectId → String) :
    TransitionSystem State Input Empty where
  init :=
    { connects := fun _ =>
        ⟨.unstarted, .pending, .pending, false, false, .connecting, false, false, .waiting⟩
      registry := .new
      exited := false }
  step i s := if s.exited ∧ i.ofProcess then none else step m codec peerId peerClass msgId i s

end Multifrost.JavaScript.Connect
