import Multifrost.Bindings.Errors
import Multifrost.Bindings.Frame
import Multifrost.Lib.TransitionSystem

/-!
# The transport of the PHP binding

`PeerTransport` of `php/src/Transport.php`, on the side of a caller.  Its operations block: they send
a frame and read what the socket yields until they have their answer.  `inbound` is what `receive`
will yield, in order, and an operation that finds nothing there any more does not come back.

`call` reads until a frame has its message id; `queryExists` and `queryGet` take the next frame,
whatever its message id is.

The flag `closed` is not the WebSocket: an exception of `receive` sets the flag only, and with the flag
set nothing closes the WebSocket any more.
-/

namespace Multifrost.Php.PeerTransport

open MsgPack (Value)
open Bindings (ErrorBody)
open Router (FrameParts PeerClass kindCall kindError kindQuery kindRegister kindResponse
  routerPeerId)

/-! ### Values of the language -/

def isArray : Value → Bool
  | .array _ | .map _ => true
  | _ => false

/-- Both kinds of strings of the format are strings of the language. -/
def isKey (key : String) : Value → Bool
  | .str s => s == key
  | .bin bytes => bytes == key.toUTF8.toList
  | _ => false

/-- `$array[$key]`, if the key exists; of two entries with one key the last one stays. -/
def arrayGet (array : Value) (key : String) : Option Value :=
  match array with
  | .map kvs => (kvs.reverse.find? fun kv => isKey key kv.1).map Prod.snd
  | _ => none

/-- `$array[$key]`, if `isset`. -/
def getSet (array : Value) (key : String) : Option Value :=
  match arrayGet array key with
  | some .nil | none => none
  | some value => some value

/-- `(bool) $value` -/
def toBool : Value → Bool
  | .nil => false
  | .bool b => b
  | .int i => i != 0
  | .float x => !x.isZero
  | .str s => s != "" && s != "0"
  | .bin bytes => bytes != [] && bytes != [0x30]
  | .array vs => !vs.isEmpty
  | .map kvs => !kvs.isEmpty
  | .ext .. => true

/-- The msgpack library at envelopes, and at bodies; `castOther` is what the cast to a string makes of
a float, a byte string or an array. -/
structure Libraries where
  msgpack : Msgpack
  decode : Bytes → Except String Value
  castOther : Value → String

variable (l : Libraries)

/-- `PeerClass::tryFrom` -/
def tryFrom : String → Option PeerClass
  | "service" => some .service
  | "caller" => some .caller
  | _ => none

/-! ### The state -/

/-- What `receive` of the client yields: a message, or an exception of the websocket library, which
leaves the WebSocket open, as a timeout does, or closed. -/
inductive Received
  | message (content : Bytes)
  | exception (message : String) (staysOpen : Bool)

/-- What an operation throws.  `undecodable` is what `decodeFrame` throws, as a `TransportError` or as
the msgpack library has it, `library` what that library throws at a body, and `conversion` what the
language throws at the cast of an object to a string. -/
inductive Exception
  | transportError (message : String)
  | registrationError (reason : String)
  | multifrost (exception : MultifrostException)
  | undecodable (message : String)
  | library (message : String)
  | conversion (message : String)

structure State where
  closed : Bool
  /-- whether the WebSocket is open -/
  socketOpen : Bool
  inbound : List Received

/-- What becomes of the frame that an operation sends. -/
inductive Sends
  | ok
  /-- the msgpack library throws -/
  | encodeFails (message : String)
  /-- `binary` of the client throws -/
  | writeFails (message : String)

/-- The frame that an operation sends. -/
structure Outgoing where
  kind : String
  toPeer : String
  msgId : String
  body : Value

/-- How an operation ends. -/
structure Done (α : Type) where
  outcome : Except Exception α
  sent : Option Outgoing
  state : State

/-! ### Sending and reading -/

/-- `close` of the client closes the WebSocket. -/
def close (s : State) : State :=
  if s.closed then s else { s with closed := true, socketOpen := false }

/-- `written` is what `binary` of the client does. -/
def writeBinary (written : Except String Unit) (s : State) : Except Exception Unit × State :=
  if s.closed then (.error (.transportError "transport closed"), s)
  else
    match written with
    | .ok () => (.ok (), s)
    | .error message => (.error (.transportError message), close s)

/-- The encoding of a frame and `writeBinary`. -/
def send (sends : Sends) (s : State) : Except Exception Unit × State :=
  match sends with
  | .encodeFails message => (.error (.library message), s)
  | .ok => writeBinary (.ok ()) s
  | .writeFails message => writeBinary (.error message) s

/-- What `readOneFrame` makes of what it receives. -/
def frameOf : Received → Except Exception FrameParts
  | .exception message _ => .error (.transportError ("websocket connection error: " ++ message))
  | .message content =>
    match decodeFrame l.msgpack content with
    | .error message => .error (.undecodable message)
    | .ok frame => .ok frame

/-- The transport when `receive` has yielded something. -/
def State.receive (received : Received) (s : State) : State :=
  match received with
  | .exception _ staysOpen => { s with closed := true, socketOpen := s.socketOpen && staysOpen }
  | .message _ => s

def readOneFrame (s : State) : Option (Except Exception FrameParts × State) :=
  match s.inbound with
  | [] => none
  | received :: rest => some (frameOf l received, { s.receive received with inbound := rest })

/-- The loop of `call`: `readOneFrame` until a frame has the message id. -/
def awaitReply (msgId : String) (s : State) :
    List Received → Option (Except Exception FrameParts × State)
  | [] => none
  | received :: rest =>
    match frameOf l received with
    | .error exception => some (.error exception, { s.receive received with inbound := rest })
    | .ok frame =>
      if frame.envelope.msgId ≠ msgId then awaitReply msgId s rest
      else some (.ok frame, { s.receive received with inbound := rest })

/-- Send a frame, read one with `read`, and make something of it. -/
def exchange {α : Type} (outgoing : Outgoing)
    (read : State → Option (Except Exception FrameParts × State))
    (answer : FrameParts → Except Exception α) (sends : Sends) (s : State) : Option (Done α) :=
  match send sends s with
  | (.error exception, s) => some ⟨.error exception, none, s⟩
  | (.ok (), s) => (read s).map fun r => ⟨r.1.bind answer, some outgoing, r.2⟩

/-! ### Answers -/

/-- `(string) $value`; the library reads an extension as an object, which has no string. -/
def toText : Value → Except Exception String
  | .str s => .ok s
  | .nil => .ok ""
  | .bool b => .ok (if b then "1" else "")
  | .int i => .ok (toString i)
  | .ext .. => .error (.conversion "Object of class MessagePack\\Ext could not be converted to string")
  | value => .ok (l.castOther value)

/-- The string of a value that is set. -/
def toTextSet : Option Value → Except Exception (Option String)
  | none => .ok none
  | some value => (toText l value).map some

/-- `codec->decode` of a body -/
def decodeBody (bodyBytes : Bytes) : Except Exception Value :=
  (l.decode bodyBytes).mapError .library

def decodeErrorBody (bodyBytes : Bytes) : Except Exception ErrorBody := do
  let decoded ← decodeBody l bodyBytes
  if isArray decoded then do
    let code ← toText l ((getSet decoded "code").getD (.str "unknown"))
    let message ← toText l ((getSet decoded "message").getD (.str ""))
    let kind ← toText l ((getSet decoded "kind").getD (.str "router"))
    let stack ← toTextSet l (getSet decoded "stack")
    .ok ⟨code, message, kind, stack, (getSet decoded "details").getD .nil⟩
  else .error (.multifrost (.routerError "malformed_error_body" "error body must be an object"))

/-- An error frame, as it is thrown. -/
def throwWire {α : Type} (bodyBytes : Bytes) : Except Exception α := do
  let body ← decodeErrorBody l bodyBytes
  .error (.multifrost (errorFromWire body))

/-- What `call` makes of the frame that has its message id. -/
def callAnswer (frame : FrameParts) : Except Exception Value :=
  if frame.envelope.kind = kindResponse then do
    let decoded ← decodeBody l frame.bodyBytes
    .ok ((arrayGet decoded "result").getD decoded)
  else if frame.envelope.kind = kindError then throwWire l frame.bodyBytes
  else
    .error (.multifrost (.routerError "unexpected_response_kind"
      ("unexpected frame kind in call response: " ++ frame.envelope.kind)))

/-- `QueryExistsResponseBody` and `QueryGetResponseBody`, which have the same fields. -/
structure QueryResponseBody where
  peerId : String
  exist : Bool
  peerClass : Option PeerClass
  connected : Bool

/-- What a query makes of the frame that it reads. -/
def queryAnswer (frame : FrameParts) : Except Exception QueryResponseBody :=
  if frame.envelope.kind = kindError then throwWire l frame.bodyBytes
  else do
    let decoded ← decodeBody l frame.bodyBytes
    if isArray decoded then do
      let peerId ← toText l ((getSet decoded "peer_id").getD (.str ""))
      let peerClass ← toTextSet l (getSet decoded "class")
      .ok
        { peerId := peerId
          exist := toBool ((getSet decoded "exists").getD (.bool false))
          peerClass := peerClass.bind tryFrom
          connected := toBool ((getSet decoded "connected").getD (.bool false)) }
    else
      .error (.multifrost (.routerError "malformed_query_response"
        "query response must be an object"))

/-! ### Operations -/

def call (targetPeerId function : String) (args : List Value) (msgId : String) (sends : Sends)
    (s : State) : Option (Done Value) :=
  exchange
    ⟨kindCall, targetPeerId, msgId,
      .map [(.str "function", .str function), (.str "args", .array args)]⟩
    (fun s => awaitReply l msgId s s.inbound) (callAnswer l) sends s

/-- The two queries, which differ in the body that they send. -/
def query (name peerId msgId : String) (sends : Sends) (s : State) :
    Option (Done QueryResponseBody) :=
  exchange
    ⟨kindQuery, routerPeerId, msgId,
      .map [(.str "query", .str name), (.str "peer_id", .str peerId)]⟩
    (readOneFrame l) (queryAnswer l) sends s

def queryExists (peerId msgId : String) (sends : Sends) (s : State) :
    Option (Done QueryResponseBody) :=
  query l "peer.exists" peerId msgId sends s

def queryGet (peerId msgId : String) (sends : Sends) (s : State) :
    Option (Done QueryResponseBody) :=
  query l "peer.get" peerId msgId sends s

/-- Whatever becomes of the frame, the transport is closed. -/
def disconnect (written : Except String Unit) (s : State) : State :=
  if s.closed then s else close (writeBinary written s).2

/-- What `register` makes of the frame that it reads. -/
def registerAnswer (frame : FrameParts) : Except Exception Unit :=
  if frame.envelope.kind = kindResponse then do
    let ack ← decodeBody l frame.bodyBytes
    if isArray ack then
      if toBool ((getSet ack "accepted").getD (.bool false)) then .ok ()
      else do
        let reason ← toText l ((getSet ack "reason").getD (.str "router rejected registration"))
        .error (.registrationError reason)
    else .error (.registrationError "invalid register ack format")
  else if frame.envelope.kind = kindError then do
    let body ← decodeErrorBody l frame.bodyBytes
    .error (.registrationError body.message)
  else
    .error (.registrationError ("unexpected register reply kind: " ++ frame.envelope.kind))

def peerClassValue : PeerClass → String
  | .service => "service"
  | .caller => "caller"

def register (peerId : String) (peerClass : PeerClass) (msgId : String) (sends : Sends)
    (s : State) : Option (Done Unit) :=
  exchange
    ⟨kindRegister, routerPeerId, msgId,
      .map [(.str "peer_id", .str peerId), (.str "class", .str (peerClassValue peerClass))]⟩
    (readOneFrame l) (registerAnswer l) sends s

/-- `dial`; `client` is whether the client is created, and `inbound` is what its socket will yield. -/
def dial (peerId : String) (peerClass : PeerClass) (client : Except String Unit) (msgId : String)
    (sends : Sends) (inbound : List Received) : Option (Except Exception State) :=
  match client with
  | .error message => some (.error (.transportError ("websocket dial failed: " ++ message)))
  | .ok () =>
    (register l peerId peerClass msgId sends ⟨false, true, inbound⟩).map fun done =>
      match done.outcome with
      | .error exception => .error exception
      | .ok () => .ok done.state

/-! ### Any sequence of operations -/

inductive Request
  | call (targetPeerId function : String) (args : List Value)
  | queryExists (peerId : String)
  | queryGet (peerId : String)

def Request.isQuery : Request → Bool
  | .call .. => false
  | .queryExists _ | .queryGet _ => true

/-- What an operation returns. -/
inductive Answer
  | result (value : Value)
  | peer (body : QueryResponseBody)

/-- The next operation, with the id that `newMsgId` gives it. -/
structure Input where
  request : Request
  msgId : String
  sends : Sends

/-- An operation that has come back, with what it has sent and read. -/
structure Ended where
  request : Request
  sent : Option Outgoing
  consumed : List Received
  outcome : Except Exception Answer

def Done.map {α β : Type} (f : α → β) (done : Done α) : Done β :=
  ⟨done.outcome.map f, done.sent, done.state⟩

def operate (i : Input) (s : State) : Option (Done Answer) :=
  match i.request with
  | .call targetPeerId function args =>
    (call l targetPeerId function args i.msgId i.sends s).map (Done.map .result)
  | .queryExists peerId => (queryExists l peerId i.msgId i.sends s).map (Done.map .peer)
  | .queryGet peerId => (queryGet l peerId i.msgId i.sends s).map (Done.map .peer)

/-- A transport that has been dialed, with all that its socket will yield. -/
def transport (inbound : List Received) : TransitionSystem State Input Ended where
  init := ⟨false, true, inbound⟩
  step i s := (operate l i s).map fun done =>
    (done.state,
      [{ request := i.request
         sent := done.sent
         consumed := s.inbound.take (s.inbound.length - done.state.inbound.length)
         outcome := done.outcome }])

end Multifrost.Php.PeerTransport
