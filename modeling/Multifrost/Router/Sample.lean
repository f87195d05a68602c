import Multifrost.Lib.MsgPack
import Multifrost.Router.Server

/-!
# A codec for concrete runs

`msgPackSerde` reads and writes the router's records as `rmp_serde` does with named fields: a
record is a map from its field names, an optional field that is absent is nil, and a class is its
lowercase name.  The concrete runs of the router that appear beside the theorems use this codec;
`registerBytes`, `plainBytes` and `callBytes` give their frames.
-/

namespace Multifrost.Router

open MsgPack (Value)

/-! ### Records as msgpack values -/

def PeerClass.asStr : PeerClass → String
  | .service => "service"
  | .caller => "caller"

def PeerClass.ofStr : String → Option PeerClass
  | "service" => some .service
  | "caller" => some .caller
  | _ => none

/-- A value that is a string. -/
def strValue : Value → Option String
  | .str s => some s
  | _ => none

/-- A value that is a number, as the double it denotes; integers are not used for doubles here. -/
def floatValue : Value → Option Float64
  | .float x => some x
  | _ => none

/-- A value that fits a `u32`. -/
def u32Value : Value → Option UInt32
  | .int i => if 0 ≤ i ∧ i < 2 ^ 32 then some (UInt32.ofNat i.toNat) else none
  | _ => none

def optionValue {α : Type} (f : α → Value) : Option α → Value
  | none => .nil
  | some a => f a

def Envelope.toValue (e : Envelope) : Value :=
  .map [(.str "v", .int e.v.toNat), (.str "kind", .str e.kind), (.str "msg_id", .str e.msgId),
    (.str "from", .str e.fromPeer), (.str "to", .str e.toPeer), (.str "ts", .float e.ts)]

def Envelope.ofValue (v : Value) : Option Envelope := do
  let version ← (v.field "v").bind u32Value
  let kind ← (v.field "kind").bind strValue
  let msgId ← (v.field "msg_id").bind strValue
  let fromPeer ← (v.field "from").bind strValue
  let toPeer ← (v.field "to").bind strValue
  let ts ← (v.field "ts").bind floatValue
  pure ⟨version, kind, msgId, fromPeer, toPeer, ts⟩

def RegisterBody.toValue (b : RegisterBody) : Value :=
  .map [(.str "peer_id", .str b.peerId), (.str "class", .str b.peerClass.asStr)]

def RegisterBody.ofValue (v : Value) : Option RegisterBody := do
  let peerId ← (v.field "peer_id").bind strValue
  let peerClass ← ((v.field "class").bind strValue).bind PeerClass.ofStr
  pure ⟨peerId, peerClass⟩

def QueryBody.ofValue (v : Value) : Option QueryBody := do
  let peerId ← (v.field "peer_id").bind strValue
  match (v.field "query").bind strValue with
  | some "peer.exists" => pure (.peerExists peerId)
  | some "peer.get" => pure (.peerGet peerId)
  | _ => none

def RegisterAckBody.toValue (b : RegisterAckBody) : Value :=
  .map [(.str "accepted", .bool b.accepted), (.str "reason", optionValue .str b.reason)]

/-- The two query responses have the same fields. -/
def queryResponseValue (peerId : String) (exist : Bool) (peerClass : Option PeerClass)
    (connected : Bool) : Value :=
  .map [(.str "peer_id", .str peerId), (.str "exists", .bool exist),
    (.str "class", optionValue (fun c : PeerClass => .str c.asStr) peerClass),
    (.str "connected", .bool connected)]

/-- The errors of the router never carry details. -/
def ErrorBody.toValue (b : ErrorBody) : Value :=
  .map [(.str "code", .str b.code), (.str "message", .str b.message), (.str "kind", .str b.kind),
    (.str "stack", optionValue .str b.stack), (.str "details", .nil)]

/-- Read a record from a document. -/
def fromSliceWith {α : Type} (f : Value → Option α) (bs : Bytes) : Except String α :=
  match (MsgPack.fromSlice bs).bind f with
  | some a => .ok a
  | none => .error "invalid msgpack document"

def msgPackSerde : RmpSerde where
  envelopeFromSlice := fromSliceWith Envelope.ofValue
  registerBodyFromSlice := fromSliceWith RegisterBody.ofValue
  queryBodyFromSlice := fromSliceWith QueryBody.ofValue
  envelopeToVecNamed e := .ok (MsgPack.encode e.toValue)
  registerAckBodyToVecNamed b := .ok (MsgPack.encode b.toValue)
  queryExistsToVecNamed b :=
    .ok (MsgPack.encode (queryResponseValue b.peerId b.exist b.peerClass b.connected))
  queryGetToVecNamed b :=
    .ok (MsgPack.encode (queryResponseValue b.peerId b.exist b.peerClass b.connected))
  errorBodyToVecNamed b := .ok (MsgPack.encode b.toValue)

/-! ### Frames and inputs -/

/-- The bytes of a frame; the envelopes used here all encode. -/
def frameBytes (envelope : Envelope) (body : Bytes) : Bytes :=
  (encodeFrame msgPackSerde envelope body).toOption.getD []

/-- The register frame of a peer. -/
def registerBytes (peerId : String) (peerClass : PeerClass) : Bytes :=
  frameBytes (buildEnvelope kindRegister "r" peerId routerPeerId .one)
    (MsgPack.encode (RegisterBody.toValue ⟨peerId, peerClass⟩))

/-- A frame with an empty map as its body. -/
def plainBytes (kind fromPeer toPeer : String) : Bytes :=
  frameBytes (buildEnvelope kind "m" fromPeer toPeer .one) [0x80]

/-- A call frame whose body names the function `"f"`. -/
def callBytes (fromPeer toPeer : String) : Bytes :=
  frameBytes (buildEnvelope kindCall "n" fromPeer toPeer .one)
    (MsgPack.encode (.map [(.str "function", .str "f"), (.str "args", .array [])]))

/-- Connection `c` reads a binary message. -/
def recv (c : ConnId) (raw : Bytes) : Input := { conn := c, next := some (.ok (.binary raw)) }

/-- Connection `c` performs an await other than a read; a handshake or a send succeeds. -/
def go (c : ConnId) : Input := { conn := c }

/-- Connection `c` fails to send. -/
def fail (c : ConnId) : Input := { conn := c, ok := false }

/-- Connection `c` registers: handshake, first frame, insert and ack. -/
def join (c : ConnId) (peerId : String) (peerClass : PeerClass) : List Input :=
  [go c, recv c (registerBytes peerId peerClass), go c, go c]

end Multifrost.Router
