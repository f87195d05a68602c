import Multifrost.Lib.Binary

/-!
# The router's wire protocol

The records and the frame codec of `router/src/protocol.rs`.  A frame is a four-byte big-endian
envelope length, the envelope and the body; the envelope and the router-owned bodies are msgpack
documents read and written by `rmp_serde`.  That library is not part of the router: its entry
points at the types the router uses are the fields of `RmpSerde`, the parameter of everything
below.
-/

namespace Multifrost.Router

/-! ### Constants -/

def protocolVersion : UInt32 := 5
def routerPeerId : String := "router"

def kindRegister : String := "register"
def kindQuery : String := "query"
def kindCall : String := "call"
def kindResponse : String := "response"
def kindError : String := "error"
def kindHeartbeat : String := "heartbeat"
def kindDisconnect : String := "disconnect"

/-! ### Records -/

/-- The routing metadata of a frame; `fromPeer` and `toPeer` are the fields `from` and `to`. -/
structure Envelope where
  v : UInt32
  kind : String
  msgId : String
  fromPeer : String
  toPeer : String
  ts : Float64
deriving DecidableEq

inductive PeerClass
  | service
  | caller
deriving DecidableEq

structure RegisterBody where
  peerId : String
  peerClass : PeerClass
deriving DecidableEq

structure RegisterAckBody where
  accepted : Bool
  reason : Option String
deriving DecidableEq

inductive QueryBody
  | peerExists (peerId : String)
  | peerGet (peerId : String)
deriving DecidableEq

structure QueryExistsResponseBody where
  peerId : String
  exist : Bool
  peerClass : Option PeerClass
  connected : Bool
deriving DecidableEq

structure QueryGetResponseBody where
  peerId : String
  exist : Bool
  peerClass : Option PeerClass
  connected : Bool
deriving DecidableEq

inductive WireValue
  | nil
  | bool (b : Bool)
  | int (i : Int64)
  | uInt (n : UInt64)
  | float (x : Float64)
  | text (s : String)
  | binary (bs : Bytes)
  | array (vs : List WireValue)
  | map (kvs : List (String × WireValue))

structure ErrorBody where
  code : String
  message : String
  kind : String
  stack : Option String
  details : Option WireValue

structure FrameParts where
  envelope : Envelope
  bodyBytes : Bytes
deriving DecidableEq

/-- The variants of `RouterError` the connection handler returns; a websocket error carries
nothing the router reads. -/
inductive RouterError
  | webSocket
  | invalidProtocolKey (value : String)
  | invalidPort (value : String)
  | nonBinaryMessage
  | malformedFrame (reason : String)
  | malformedRegisterBody (reason : String)
  | malformedQueryBody (reason : String)
  | duplicatePeerId (peerId : String)
  | connectionClosed
  | other (reason : String)
deriving DecidableEq

/-- A websocket message as the stream yields it.  Only the payload of a binary message is read. -/
inductive Message
  | text
  | binary (bytes : Bytes)
  | ping
  | pong
  | close
  | frame
deriving DecidableEq

/-! ### The codec -/

/-- `rmp_serde::from_slice` and `rmp_serde::to_vec_named` at the types the router reads and
writes; an error is the text of the library's error. -/
structure RmpSerde where
  envelopeFromSlice : Bytes → Except String Envelope
  registerBodyFromSlice : Bytes → Except String RegisterBody
  queryBodyFromSlice : Bytes → Except String QueryBody
  envelopeToVecNamed : Envelope → Except String Bytes
  registerAckBodyToVecNamed : RegisterAckBody → Except String Bytes
  queryExistsToVecNamed : QueryExistsResponseBody → Except String Bytes
  queryGetToVecNamed : QueryGetResponseBody → Except String Bytes
  errorBodyToVecNamed : ErrorBody → Except String Bytes

variable (m : RmpSerde)

def ensureBinaryWsMessage : Message → Except RouterError Bytes
  | .binary bytes => .ok bytes
  | _ => .error .nonBinaryMessage

def encodeEnvelope (envelope : Envelope) : Except RouterError Bytes :=
  (m.envelopeToVecNamed envelope).mapError .other

def decodeEnvelope (bytes : Bytes) : Except RouterError Envelope := do
  let envelope ← (m.envelopeFromSlice bytes).mapError .malformedFrame
  if envelope.v ≠ protocolVersion then
    .error (.invalidProtocolKey ("v=" ++ toString envelope.v))
  else
    .ok envelope

/-- The length prefix is `envelope_bytes.len() as u32`, so it wraps at `2^32`. -/
def encodeFrame (envelope : Envelope) (bodyBytes : Bytes) : Except RouterError Bytes := do
  let envelopeBytes ← encodeEnvelope m envelope
  .ok (Bytes.toBE 4 (envelopeBytes.length % 2 ^ 32) ++ envelopeBytes ++ bodyBytes)

def decodeFrame (bytes : Bytes) : Except RouterError FrameParts :=
  if bytes.length < 4 then
    .error (.malformedFrame "frame too short for envelope length")
  else
    let envelopeLen := Bytes.ofBE (bytes.take 4)
    if bytes.length < 4 + envelopeLen then
      .error (.malformedFrame "frame shorter than declared envelope length")
    else do
      let envelope ← decodeEnvelope m ((bytes.drop 4).take envelopeLen)
      .ok ⟨envelope, bytes.drop (4 + envelopeLen)⟩

def decodeRegisterBody (bytes : Bytes) : Except RouterError RegisterBody :=
  (m.registerBodyFromSlice bytes).mapError .malformedRegisterBody

def encodeRegisterAckBody (body : RegisterAckBody) : Except RouterError Bytes :=
  (m.registerAckBodyToVecNamed body).mapError .other

def decodeQueryBody (bytes : Bytes) : Except RouterError QueryBody :=
  (m.queryBodyFromSlice bytes).mapError .malformedQueryBody

def encodeQueryExistsResponse (peerId : String) (exist : Bool) (peerClass : Option PeerClass)
    (connected : Bool) : Except RouterError Bytes :=
  (m.queryExistsToVecNamed ⟨peerId, exist, peerClass, connected⟩).mapError .other

def encodeQueryGetResponse (peerId : String) (exist : Bool) (peerClass : Option PeerClass)
    (connected : Bool) : Except RouterError Bytes :=
  (m.queryGetToVecNamed ⟨peerId, exist, peerClass, connected⟩).mapError .other

def encodeErrorBody (body : ErrorBody) : Except RouterError Bytes :=
  (m.errorBodyToVecNamed body).mapError .other

/-- A fallible computation that goes on after `x` succeeds only when `x` does. -/
theorem bind_eq_ok {α β : Type} {x : Except RouterError α} {f : α → Except RouterError β} {b : β} :
    (x >>= f) = .ok b ↔ ∃ a, x = .ok a ∧ f a = .ok b := by
  cases x with
  | error e => simp [bind, Except.bind]
  | ok a => simp [bind, Except.bind]

variable {m} in
/-- Every envelope the router decodes has its protocol version. -/
theorem v_of_decodeFrame {bytes : Bytes} {parts : FrameParts}
    (h : decodeFrame m bytes = .ok parts) : parts.envelope.v = protocolVersion := by
  unfold decodeFrame at h
  dsimp only at h
  split_ifs at h
  obtain ⟨envelope, he, h⟩ := bind_eq_ok.mp h
  unfold decodeEnvelope at he
  obtain ⟨decoded, -, he⟩ := bind_eq_ok.mp he
  split_ifs at he with hv
  obtain rfl := Except.ok.inj he
  obtain rfl := Except.ok.inj h
  exact not_not.mp hv

end Multifrost.Router
