import Multifrost.Lib.TransitionSystem
import Multifrost.Router.Registry

/-!
# The router

The connection handler of `router/src/server.rs` as a state machine.  `serve` runs one
`handle_connection` for every accepted stream, and the tasks interleave at their awaits; an await
is a read of the websocket, one operation of the registry, or one send on a sink.  `Pc` says at
which await a connection is suspended and holds the local variables that are still needed;
`connStep` performs that await and runs the code after it up to the next one.  The functions of
the source appear under their names as the piece of code that runs between two awaits:
`handleCall`, say, returns the await at which `handle_call` first suspends.

What the environment decides in a step is its `Input`: which connection moves, what the stream
yields, whether the handshake or the send succeeds, and what the clocks show.  `Event`s record what
an observer of the router sees: frames received and written, sends that failed, registrations and
removals.
-/

namespace Multifrost.Router

/-! ### Frames the router generates -/

def buildEnvelope (kind msgId fromPeer toPeer : String) (ts : Float64) : Envelope :=
  ⟨protocolVersion, kind, msgId, fromPeer, toPeer, ts⟩

def buildAckBody : RegisterAckBody := ⟨true, none⟩

def buildErrorBody (code message : String) : ErrorBody := ⟨code, message, "router", none, none⟩

/-- A frame of the router itself: the bytes are the encoding of an envelope whose origin is the
router. -/
structure RouterFrame (m : RmpSerde) where
  envelope : Envelope
  body : Bytes
  raw : Bytes
  encoded : encodeFrame m envelope body = .ok raw
  fromRouter : envelope.fromPeer = routerPeerId

/-- What is written to a sink: a frame of the router, or the bytes of a received frame. -/
inductive Outbound (m : RmpSerde)
  | generated (f : RouterFrame m)
  | forwarded (raw : Bytes)

variable (m : RmpSerde)

/-- `send_frame` up to its await: a frame that does not encode is not sent. -/
def sendFrame (envelope : Envelope) (body : Bytes) (h : envelope.fromPeer = routerPeerId) :
    Except RouterError (RouterFrame m) :=
  match he : encodeFrame m envelope body with
  | .ok raw => .ok ⟨envelope, body, raw, he, h⟩
  | .error e => .error e

/-- The common body of `send_error_and_close` and `send_peer_error`; both address the error to the
router's own id. -/
def sendError (now : Float64) (msgId code message : String) :
    Except RouterError (RouterFrame m) := do
  let body ← encodeErrorBody m (buildErrorBody code message)
  sendFrame m (buildEnvelope kindError msgId routerPeerId routerPeerId now) body rfl

def sendErrorAndClose (now : Float64) (msgId code message : String) :
    Except RouterError (RouterFrame m) :=
  sendError m now msgId code message

def sendPeerError (now : Float64) (msgId code message : String) :
    Except RouterError (RouterFrame m) :=
  sendError m now msgId code message

def sendRegisterAck (now : Float64) (msgId : String) (register : RegisterBody) :
    Except RouterError (RouterFrame m) := do
  let body ← encodeRegisterAckBody m buildAckBody
  sendFrame m (buildEnvelope kindResponse msgId routerPeerId register.peerId now) body rfl

/-! ### Where a connection is suspended -/

/-- The local variables `peer_id` and `peer_class` of a registered connection. -/
structure Session where
  peerId : String
  peerClass : PeerClass
deriving DecidableEq

/-- The arguments of the routing functions: the frame being routed, and the `kind` under which the
handler routes it. -/
structure Route where
  me : Session
  envelope : Envelope
  raw : Bytes
  kind : String
deriving DecidableEq

/-- What follows a reply: the next iteration of the message loop, or the end of the handler. -/
inductive After
  | loop
  | finish
deriving DecidableEq

/-- The await at which a `handle_connection` is suspended. -/
inductive Pc (m : RmpSerde)
  /-- `accept_async(stream).await` -/
  | accept
  /-- `source.next().await` for the first message -/
  | first
  /-- `registry.insert_live_peer(..).await` -/
  | insert (envelope : Envelope) (register : RegisterBody)
  /-- the send of `send_error_and_close`, for a connection that is not registered -/
  | reject (f : RouterFrame m)
  /-- the send of `send_register_ack` -/
  | ack (me : Session) (f : RouterFrame m)
  /-- `source.next().await` of the message loop -/
  | loop (me : Session)
  /-- a send on the connection's own sink -/
  | reply (me : Session) (f : RouterFrame m) (after : After)
  /-- `registry.lookup_by_peer_id(..).await` of `handle_query` -/
  | lookup (me : Session) (envelope : Envelope) (body : QueryBody)
  /-- `registry.mark_heartbeat(..).await` -/
  | markHeartbeat (r : Route)
  /-- `registry.snapshot_peer_exists(..).await` of `handle_heartbeat` -/
  | heartbeatTarget (r : Route)
  /-- `registry.snapshot_peer_class(..).await` of `route_or_error` -/
  | targetClass (r : Route)
  /-- `registry.snapshot_peer_exists(..).await` of `route_to_target` -/
  | targetExists (r : Route)
  /-- `registry.sender_by_peer_id(..).await` -/
  | targetSender (r : Route)
  /-- `send_raw(target_sink, raw).await` -/
  | forward (r : Route) (target : PeerSender)
  /-- `registry.remove_by_peer_id(..).await` after the send to `target` failed -/
  | evict (r : Route) (target : PeerSender)
  /-- `registry.remove_by_peer_id(..).await` of `handle_disconnect` -/
  | disconnect (me : Session) (envelope : Envelope)
  /-- `registry.remove_by_peer_id(..).await` at the end of `handle_connection` -/
  | cleanup (me : Session) (result : Except RouterError Unit)
  /-- `handle_connection` has returned -/
  | returned (result : Except RouterError Unit)

/-- Leaving the async block with a result: `registered_peer_id` decides whether the removal at the
end of `handle_connection` runs. -/
def leave (me : Option Session) (result : Except RouterError Unit) : Pc m :=
  match me with
  | some me => .cleanup me result
  | none => .returned result

/-- The `?` operator: an error leaves the async block. -/
def orLeave (me : Option Session) : Except RouterError (Pc m) → Pc m
  | .ok pc => pc
  | .error e => leave m me (.error e)

/-- `send_peer_error(..).await?` and the next iteration of the loop. -/
def replyError (now : Float64) (me : Session) (msgId code message : String) :
    Except RouterError (Pc m) := do
  let f ← sendPeerError m now msgId code message
  .ok (.reply me f .loop)

/-! ### Routing -/

inductive RouteTargetDecision
  | deliver
  | reject (code message : String)
deriving DecidableEq

def decideRouteTarget (kind : String) : Option PeerClass → RouteTargetDecision
  | none => .reject "peer_not_found" (kind ++ " target not found")
  | some .caller =>
    if kind = kindCall then .reject "invalid_target_class" "invalid target class"
    else .deliver
  | some .service =>
    if kind = kindResponse then
      .reject "invalid_target_class" "responses must target a caller peer"
    else if kind = kindError then
      .reject "invalid_target_class" "errors must target a caller peer"
    else .deliver

/-- `route_to_target` starts by asking whether the target exists. -/
def routeToTarget (r : Route) : Pc m := .targetExists r

/-- `route_or_error` starts by reading the class of the target. -/
def routeOrError (r : Route) : Pc m := .targetClass r

/-- `route_or_error` once the class of the target is known. -/
def onTargetClass (now : Float64) (r : Route) (targetClass : Option PeerClass) :
    Except RouterError (Pc m) :=
  match decideRouteTarget r.kind targetClass with
  | .deliver => .ok (routeToTarget m r)
  | .reject code message => replyError m now r.me r.envelope.msgId code message

/-- `route_to_target` once it knows whether the target exists. -/
def onTargetExists (now : Float64) (r : Route) (exist : Bool) : Except RouterError (Pc m) :=
  if exist then .ok (.targetSender r)
  else replyError m now r.me r.envelope.msgId "peer_not_found" (r.kind ++ " target not found")

/-- `route_to_target` once it has looked for the target's sink. -/
def onTargetSender (now : Float64) (r : Route) : Option PeerSender → Except RouterError (Pc m)
  | some target => .ok (.forward r target)
  | none =>
    replyError m now r.me r.envelope.msgId "peer_not_found" (r.kind ++ " target not found")

/-- `route_to_target` once the target whose send failed is removed. -/
def onEvicted (now : Float64) (r : Route) : Except RouterError (Pc m) :=
  replyError m now r.me r.envelope.msgId "peer_not_found" (r.kind ++ " target disconnected")

/-! ### Handlers -/

def validateRegisterEnvelope (envelope : Envelope) (register : RegisterBody) :
    Except RouterError Unit :=
  if envelope.toPeer ≠ routerPeerId then
    .error (.malformedRegisterBody "register target must be router")
  else if envelope.fromPeer ≠ register.peerId then
    .error (.malformedRegisterBody "register body peer_id must match envelope.from")
  else .ok ()

def handleQuery (me : Session) (envelope : Envelope) (bodyBytes : Bytes) :
    Except RouterError (Pc m) := do
  let body ← decodeQueryBody m bodyBytes
  .ok (.lookup me envelope body)

/-- `handle_query` once the registry has answered. -/
def onLookup (me : Session) (envelope : Envelope) (body : QueryBody)
    (snapshot : Option PeerSnapshot) : Except RouterError (Pc m) := do
  let exist := snapshot.isSome
  let peerClass := snapshot.map fun value => value.peerClass
  let response ← match body with
    | .peerExists peerId => encodeQueryExistsResponse m peerId exist peerClass exist
    | .peerGet peerId =>
      encodeQueryGetResponse m peerId exist peerClass
        ((snapshot.map fun value => value.connected).getD false)
  let f ← sendFrame m
    ⟨envelope.v, kindResponse, envelope.msgId, routerPeerId, me.peerId, envelope.ts⟩ response rfl
  .ok (.reply me f .loop)

def handleCall (now : Float64) (me : Session) (envelope : Envelope) (raw : Bytes) :
    Except RouterError (Pc m) :=
  if me.peerClass ≠ .caller then
    replyError m now me envelope.msgId "invalid_source_class"
      "call traffic must originate from a caller peer"
  else .ok (routeOrError m ⟨me, envelope, raw, "call"⟩)

/-- Unlike `handle_call` and `handle_error`, this goes to `route_to_target` directly, without the
class decision of `route_or_error`. -/
def handleResponse (now : Float64) (me : Session) (envelope : Envelope) (raw : Bytes) :
    Except RouterError (Pc m) :=
  if me.peerClass ≠ .service then
    replyError m now me envelope.msgId "invalid_source_class"
      "response traffic must originate from a service peer"
  else .ok (routeToTarget m ⟨me, envelope, raw, "response"⟩)

def handleError (now : Float64) (me : Session) (envelope : Envelope) (raw : Bytes) :
    Except RouterError (Pc m) :=
  if me.peerClass ≠ .service then
    replyError m now me envelope.msgId "invalid_source_class"
      "error traffic must originate from a service peer"
  else .ok (routeOrError m ⟨me, envelope, raw, "error"⟩)

def handleHeartbeat (me : Session) (envelope : Envelope) (raw : Bytes) : Pc m :=
  .markHeartbeat ⟨me, envelope, raw, "heartbeat"⟩

/-- `handle_heartbeat` once it knows whether the target exists. -/
def onHeartbeatTarget (r : Route) (exist : Bool) : Except RouterError (Pc m) :=
  if exist then .ok (routeToTarget m r)
  else do
    let body ← encodeRegisterAckBody m buildAckBody
    let f ← sendFrame m
      (buildEnvelope kindHeartbeat r.envelope.msgId routerPeerId r.me.peerId r.envelope.ts) body rfl
    .ok (.reply r.me f .loop)

def handleDisconnect (me : Session) (envelope : Envelope) : Pc m := .disconnect me envelope

/-- `handle_disconnect` once the entry is removed. -/
def onDisconnected (me : Session) (envelope : Envelope) : Except RouterError (Pc m) := do
  let body ← encodeRegisterAckBody m buildAckBody
  let f ← sendFrame m
    (buildEnvelope kindResponse envelope.msgId routerPeerId me.peerId envelope.ts) body rfl
  .ok (.reply me f .finish)

/-! ### Messages -/

/-- What `source.next().await` yields. -/
abbrev Next := Option (Except Unit Message)

/-- A decoded frame in the message loop: the source check, then the handler of its kind. -/
def onFrame (now : Float64) (me : Session) (raw : Bytes) (parts : FrameParts) :
    Except RouterError (Pc m) :=
  let envelope := parts.envelope
  -- the origin is compared with the id kept from the registration, not with the registry
  if envelope.fromPeer ≠ me.peerId then
    replyError m now me envelope.msgId "invalid_source"
      "envelope.from does not match registered peer"
  else if envelope.kind = kindQuery then handleQuery m me envelope parts.bodyBytes
  else if envelope.kind = kindCall then handleCall m now me envelope raw
  else if envelope.kind = kindResponse then handleResponse m now me envelope raw
  else if envelope.kind = kindError then handleError m now me envelope raw
  else if envelope.kind = kindHeartbeat then .ok (handleHeartbeat m me envelope raw)
  else if envelope.kind = kindDisconnect then .ok (handleDisconnect m me envelope)
  else
    replyError m now me envelope.msgId "unsupported_kind"
      ("unsupported message kind: " ++ envelope.kind)

/-- A binary message in the message loop. -/
def onBinary (now : Float64) (me : Session) (raw : Bytes) : Except RouterError (Pc m) := do
  let parts ← decodeFrame m raw
  onFrame m now me raw parts

/-- One iteration of the message loop, up to the first await after `source.next()`. -/
def onNext (now : Float64) (me : Session) : Next → Pc m
  | none => leave m (some me) (.ok ())
  | some (.error _) => leave m (some me) (.error .webSocket)
  | some (.ok (.binary raw)) => orLeave m (some me) (onBinary m now me raw)
  | some (.ok .close) => leave m (some me) (.ok ())
  | some (.ok .ping) | some (.ok .pong) => .loop me
  | some (.ok .text) | some (.ok .frame) => orLeave m (some me) do
    let f ← sendPeerError m now "unknown" "non_binary_message"
      "router only accepts binary websocket messages"
    .ok (.reply me f .finish)

/-- The first message of a connection, up to the registration. -/
def onFirstMessage (now : Float64) (message : Message) : Except RouterError (Pc m) := do
  let firstBytes ← ensureBinaryWsMessage message
  let firstFrame ← decodeFrame m firstBytes
  if firstFrame.envelope.kind ≠ kindRegister then
    let f ← sendErrorAndClose m now firstFrame.envelope.msgId "register.required"
      "first message must be register"
    .ok (.reject f)
  else
    -- an undecodable or inconsistent register body ends the connection without an answer
    let register ← decodeRegisterBody m firstFrame.bodyBytes
    validateRegisterEnvelope firstFrame.envelope register
    .ok (.insert firstFrame.envelope register)

def onFirst (now : Float64) : Next → Pc m
  | some (.ok message) => orLeave m none (onFirstMessage m now message)
  | some (.error _) => leave m none (.error .webSocket)
  | none => leave m none (.error .connectionClosed)

/-- `handle_connection` once its id is in the registry. -/
def onInserted (now : Float64) (envelope : Envelope) (register : RegisterBody) : Pc m :=
  let me : Session := ⟨register.peerId, register.peerClass⟩
  orLeave m (some me) do
    let f ← sendRegisterAck m now envelope.msgId register
    .ok (.ack me f)

/-- `handle_connection` once its id is found to be in use. -/
def onDuplicate (now : Float64) (envelope : Envelope) (peerId : String) : Pc m :=
  orLeave m none do
    let f ← sendErrorAndClose m now envelope.msgId "duplicate_peer_id"
      ("peer_id " ++ peerId ++ " is already live")
    .ok (.reject f)

/-! ### Steps -/

/-- What an observer of the router sees. -/
inductive Event
  /-- a binary message arrived on connection `c` -/
  | received (c : ConnId) (raw : Bytes)
  /-- `insert_live_peer` accepted the register frame of `c` -/
  | registered (c : ConnId) (envelope : Envelope) (register : RegisterBody)
  /-- the task of `c` wrote a frame to `sink` -/
  | wrote (c : ConnId) (sink : PeerSender) (out : Outbound m)
  /-- a send to `sink` by the task of `c` failed -/
  | sendFailed (c : ConnId) (sink : PeerSender)
  /-- the task of `c` executed `remove_by_peer_id peerId` on behalf of `owner`: its own sink, or
  the sink a send to which had failed; `record` is what was removed -/
  | removed (c : ConnId) (peerId : String) (owner : PeerSender) (record : Option PeerRecord)

/-- The environment's part of a step. -/
structure Input where
  /-- the connection that moves -/
  conn : ConnId
  /-- what `source.next()` yields -/
  next : Next := none
  /-- whether the handshake or the send succeeds -/
  ok : Bool := true
  /-- `Instant::now()` -/
  instant : Instant := 0
  /-- `now_ts()` -/
  now : Float64 := .one

/-- The event of a message that was read. -/
def receivedEvent (c : ConnId) : Next → List (Event m)
  | some (.ok (.binary raw)) => [.received c raw]
  | _ => []

/-- One await of connection `c`, and the code after it up to the next await. -/
def connStep (i : Input) (reg : PeerRegistry) :
    Pc m → Option (PeerRegistry × Pc m × List (Event m))
  | .accept =>
    some (reg, if i.ok then .first else .returned (.error .webSocket), [])
  | .first => some (reg, onFirst m i.now i.next, receivedEvent m i.conn i.next)
  | .insert envelope register =>
    match reg.insertLivePeer register.peerId register.peerClass i.conn i.instant with
    | .ok reg' =>
      some (reg', onInserted m i.now envelope register, [.registered i.conn envelope register])
    | .error (.duplicatePeerId peerId) => some (reg, onDuplicate m i.now envelope peerId, [])
    -- `insert_live_peer` has no other error
    | .error e => some (reg, leave m none (.error e), [])
  | .reject f =>
    if i.ok then some (reg, leave m none (.ok ()), [.wrote i.conn i.conn (.generated f)])
    else some (reg, leave m none (.error .webSocket), [.sendFailed i.conn i.conn])
  | .ack me f =>
    -- when the ack fails the entry is there already, and the cleanup takes it away
    if i.ok then some (reg, .loop me, [.wrote i.conn i.conn (.generated f)])
    else some (reg, leave m (some me) (.error .webSocket), [.sendFailed i.conn i.conn])
  | .loop me => some (reg, onNext m i.now me i.next, receivedEvent m i.conn i.next)
  | .reply me f after =>
    if i.ok then
      some (reg, match after with | .loop => .loop me | .finish => leave m (some me) (.ok ()),
        [.wrote i.conn i.conn (.generated f)])
    else some (reg, leave m (some me) (.error .webSocket), [.sendFailed i.conn i.conn])
  | .lookup me envelope body =>
    let peerId := match body with | .peerExists peerId => peerId | .peerGet peerId => peerId
    some (reg, orLeave m (some me) (onLookup m me envelope body (reg.lookupByPeerId peerId)), [])
  | .markHeartbeat r => some (reg.markHeartbeat r.me.peerId i.instant, .heartbeatTarget r, [])
  | .heartbeatTarget r =>
    some (reg, orLeave m (some r.me)
      (onHeartbeatTarget m r (reg.snapshotPeerExists r.envelope.toPeer)), [])
  | .targetClass r =>
    some (reg, orLeave m (some r.me)
      (onTargetClass m i.now r (reg.snapshotPeerClass r.envelope.toPeer)), [])
  | .targetExists r =>
    some (reg, orLeave m (some r.me)
      (onTargetExists m i.now r (reg.snapshotPeerExists r.envelope.toPeer)), [])
  | .targetSender r =>
    some (reg, orLeave m (some r.me)
      (onTargetSender m i.now r (reg.senderByPeerId r.envelope.toPeer)), [])
  | .forward r target =>
    if i.ok then some (reg, .loop r.me, [.wrote i.conn target (.forwarded r.raw)])
    else some (reg, .evict r target, [.sendFailed i.conn target])
  | .evict r target =>
    -- whoever has the id by now is removed
    some ((reg.removeByPeerId r.envelope.toPeer).1, orLeave m (some r.me) (onEvicted m i.now r),
      [.removed i.conn r.envelope.toPeer target (reg.peers r.envelope.toPeer)])
  | .disconnect me envelope =>
    -- the id is removed here, and again in the cleanup that follows
    some ((reg.removeByPeerId me.peerId).1, orLeave m (some me) (onDisconnected m me envelope),
      [.removed i.conn me.peerId i.conn (reg.peers me.peerId)])
  | .cleanup me result =>
    some ((reg.removeByPeerId me.peerId).1, .returned result,
      [.removed i.conn me.peerId i.conn (reg.peers me.peerId)])
  | .returned _ => none

/-- The registry shared by the connections, and where each of them is suspended. -/
structure State where
  registry : PeerRegistry
  conns : ConnId → Pc m

/-- `serve`: any number of connections, each of which moves by one await at a time. -/
def serve : TransitionSystem (State m) Input (Event m) where
  init := ⟨PeerRegistry.new, fun _ => .accept⟩
  step i s := (connStep m i s.registry (s.conns i.conn)).map fun r =>
    (⟨r.1, Function.update s.conns i.conn r.2.1⟩, r.2.2)

end Multifrost.Router
