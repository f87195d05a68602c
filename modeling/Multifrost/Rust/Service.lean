import Multifrost.Rust.CallerTransport

/-!
# The service of the Rust binding

`run_service_async` of `rust/src/child.rs` from the accepted registration on: the loop over the
messages of the websocket, the handling of a call and the disconnect frame at the end.  The loop
handles one message at a time, so that the state is passed along: the worker, the frames that went
out, and the errors of call handling, which are printed and forgotten.
-/

namespace Multifrost.Rust.Service

open Router (Envelope ErrorBody FrameParts Message RmpSerde WireValue kindCall kindDisconnect kindError
  kindResponse protocolVersion routerPeerId)

/-! ### Bodies of calls -/

/-- `V` are the values of `serde_json`; `callNamespace` is the field `namespace`. -/
structure CallBody (V : Type) where
  function : String
  args : List V
  callNamespace : Option String

structure ResponseBody (V : Type) where
  result : V

/-- `rmp_serde` at the bodies of calls, responses and errors. -/
structure CallSerde (V : Type) where
  callBodyFromSlice : Bytes → Except String (CallBody V)
  responseBodyToVecNamed : ResponseBody V → Except String Bytes
  errorBodyToVecNamed : ErrorBody → Except String Bytes

variable {V ω : Type} (m : RmpSerde) (c : CallSerde V)

/-- The error is a `MalformedFrame`, given by the text it displays. -/
def decodeCallBody (bytes : Bytes) : Except String (CallBody V) :=
  (c.callBodyFromSlice bytes).mapError ("Malformed frame: " ++ ·)

def encodeResponseBody (body : ResponseBody V) : Except MultifrostError Bytes :=
  (c.responseBodyToVecNamed body).mapError .serializeError

def encodeErrorBody (body : ErrorBody) : Except MultifrostError Bytes :=
  (c.errorBodyToVecNamed body).mapError .serializeError

def buildResponseEnvelope (fromPeer toPeer msgId : String) (ts : Float64) : Envelope :=
  ⟨protocolVersion, kindResponse, msgId, fromPeer, toPeer, ts⟩

def buildErrorEnvelope (fromPeer toPeer msgId : String) (ts : Float64) : Envelope :=
  ⟨protocolVersion, kindError, msgId, fromPeer, toPeer, ts⟩

/-! ### The world of a service -/

/-- What is not the service's to decide: the worker, whose errors are given by the texts they
display, and what the websocket and the clock answer after the `n`-th message was read. -/
structure Environment (V ω : Type) where
  handleCall : String → List V → ω → Except String V × ω
  send : Nat → Except String Unit
  now : Nat → Float64
  newMsgId : String

structure World (ω : Type) where
  worker : ω
  /-- the number of messages read -/
  read : Nat
  /-- the frames that went out -/
  sent : List Bytes
  /-- the errors printed as `service call handling error` -/
  handlingErrors : List MultifrostError

variable (env : Environment V ω)

def sendWsFrame (frame : Bytes) (w : World ω) : Except MultifrostError Unit × World ω :=
  match env.send w.read with
  | .ok () => (.ok (), { w with sent := w.sent ++ [frame] })
  | .error text => (.error (.webSocketError text), w)

/-- Send a frame, unless it could not be built. -/
def sendBuilt (frame : Except MultifrostError Bytes) (w : World ω) :
    Except MultifrostError Unit × World ω :=
  match frame with
  | .ok frame => sendWsFrame env frame w
  | .error err => (.error err, w)

def sendError (fromPeer toPeer msgId code kind message : String) (details : Option WireValue)
    (w : World ω) : Except MultifrostError Unit × World ω :=
  let envelope := buildErrorEnvelope fromPeer toPeer msgId (env.now w.read)
  sendBuilt env (do
    let body ← encodeErrorBody c ⟨code, message, kind, none, details⟩
    encodeFrame m envelope body) w

/-! ### Calls -/

def handleCallFrame (peerId : String) (frame : FrameParts) (w : World ω) :
    Except MultifrostError Unit × World ω :=
  match decodeCallBody c frame.bodyBytes with
  | .error text =>
    sendError m c env peerId frame.envelope.fromPeer frame.envelope.msgId "malformed_call" "protocol"
      text none w
  | .ok call =>
    match call.callNamespace.filter (· ≠ "default") with
    | some ns =>
      sendError m c env peerId frame.envelope.fromPeer frame.envelope.msgId "invalid_namespace"
        "protocol" ("unsupported namespace: " ++ ns) none w
    | none =>
      match env.handleCall call.function call.args w.worker with
      | (.ok result, worker) =>
        let envelope := buildResponseEnvelope peerId frame.envelope.fromPeer frame.envelope.msgId
          (env.now w.read)
        sendBuilt env (do
          let body ← encodeResponseBody c ⟨result⟩
          encodeFrame m envelope body) { w with worker := worker }
      | (.error text, worker) =>
        let envelope := buildErrorEnvelope peerId frame.envelope.fromPeer frame.envelope.msgId
          (env.now w.read)
        sendBuilt env (do
          let body ← encodeErrorBody c ⟨"application_error", text, "application", none, none⟩
          encodeFrame m envelope body) { w with worker := worker }

/-! ### The loop -/

/-- How the loop goes on after a message. -/
inductive Flow
  | continues
  | breaks
deriving DecidableEq

def handleMessage (peerId : String) (message : Except String Message) (w : World ω) :
    Flow × World ω :=
  match message with
  | .ok (.binary bytes) =>
    match decodeFrame m bytes with
    | .error _ => (.continues, w)
    | .ok frame =>
      if frame.envelope.toPeer ≠ peerId then (.continues, w)
      else if frame.envelope.kind = kindCall then
        match handleCallFrame m c env peerId frame w with
        | (.ok (), w') => (.continues, w')
        -- an error of the handling is not an error of the service
        | (.error err, w') => (.continues, { w' with handlingErrors := w'.handlingErrors ++ [err] })
      else if frame.envelope.kind = kindDisconnect then (.breaks, w)
      else (.continues, w)
  | .ok .close => (.breaks, w)
  | .ok _ => (.continues, w)
  | .error _ => (.breaks, w)

/-- The messages are all that the stream yields until it ends. -/
def serviceLoop (peerId : String) : List (Except String Message) → World ω → World ω
  | [], w => w
  | message :: messages, w =>
    match handleMessage m c env peerId message { w with read := w.read + 1 } with
    | (.continues, w') => serviceLoop peerId messages w'
    | (.breaks, w') => w'

def sendDisconnectFrame (peerId : String) (w : World ω) : Except MultifrostError Unit × World ω :=
  let envelope := CallerTransport.buildDisconnectEnvelope peerId routerPeerId env.newMsgId
    (env.now w.read)
  sendBuilt env (encodeFrame m envelope []) w

/-- `run_service_async` after the registration; it returns `Ok` in any case. -/
def runServiceAsync (peerId : String) (messages : List (Except String Message)) (w : World ω) :
    World ω :=
  (sendDisconnectFrame m env peerId (serviceLoop m c env peerId messages w)).2

end Multifrost.Rust.Service
