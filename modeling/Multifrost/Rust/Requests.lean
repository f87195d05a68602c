import Multifrost.Rust.CallBody
import Multifrost.Rust.Registration

/-!
# The requests of a caller

What `call`, `call_to`, `query_peer_exists` and `query_peer_get` of `rust/src/caller_transport.rs` put
around `send_and_wait`: the frame that goes out, with the message id under which its answer will be
recognised, and what is made of the frame that comes back.
-/

namespace Multifrost.Rust.CallerTransport

open MsgPack (Value)
open Router (Envelope ErrorBody FrameParts QueryBody QueryExistsResponseBody QueryGetResponseBody
  RmpSerde kindCall kindError kindQuery protocolVersion routerPeerId)
open Service (CallBody ResponseBody)

/-- `rmp_serde` at the bodies that a caller writes and reads. -/
structure RequestSerde (V : Type) where
  callBodyToVecNamed : CallBody V → Except String Bytes
  responseBodyFromSlice : Bytes → Except String (ResponseBody V)
  queryBodyToVecNamed : QueryBody → Except String Bytes
  queryExistsFromSlice : Bytes → Except String QueryExistsResponseBody
  queryGetFromSlice : Bytes → Except String QueryGetResponseBody

/-- The errors of a call: those of the transport, a result that is not of the type that was asked
for, and a handle without a target. -/
inductive CallError
  | transport (err : MultifrostError)
  | jsonError (message : String)
  | configError (message : String)

section Requests

variable (m : RmpSerde) {V R : Type} (q : RequestSerde V)

/-! ### What goes out -/

def encodeCallBody (body : CallBody V) : Except MultifrostError Bytes :=
  (q.callBodyToVecNamed body).mapError .serializeError

def encodeQueryBody (body : QueryBody) : Except MultifrostError Bytes :=
  (q.queryBodyToVecNamed body).mapError .serializeError

def buildCallEnvelope (fromPeer toPeer msgId : String) (ts : Float64) : Envelope :=
  ⟨protocolVersion, kindCall, msgId, fromPeer, toPeer, ts⟩

def buildQueryEnvelope (peerId toPeer msgId : String) (ts : Float64) : Envelope :=
  ⟨protocolVersion, kindQuery, msgId, peerId, toPeer, ts⟩

/-- A frame that is handed to `send_and_wait` under the id of its envelope. -/
structure Outgoing (m : RmpSerde) where
  envelope : Envelope
  body : Bytes
  frame : Bytes
  encoded : encodeFrame m envelope body = .ok frame
  request : envelope.kind = kindCall ∨ envelope.kind = kindQuery

def Outgoing.toRequest {m : RmpSerde} (o : Outgoing m) : Request := ⟨o.frame, o.envelope.msgId⟩

/-- A frame that does not encode is no request. -/
def outgoing (envelope : Envelope) (body : Bytes)
    (h : envelope.kind = kindCall ∨ envelope.kind = kindQuery) : Except MultifrostError (Outgoing m) :=
  match he : encodeFrame m envelope body with
  | .ok frame => .ok ⟨envelope, body, frame, he, h⟩
  | .error err => .error err

/-- The request of `call_to`. -/
def callRequest (peerId targetPeerId function : String) (args : List V) (msgId : String)
    (ts : Float64) : Except MultifrostError (Outgoing m) := do
  let bodyBytes ← encodeCallBody q ⟨function, args, none⟩
  outgoing m (buildCallEnvelope peerId targetPeerId msgId ts) bodyBytes (.inl rfl)

/-- The request of `call`. -/
def defaultCallRequest (defaultTarget : Option String) (peerId function : String) (args : List V)
    (msgId : String) (ts : Float64) : Except CallError (Outgoing m) :=
  match defaultTarget with
  | none => .error (.configError "no default target peer_id configured")
  | some target => (callRequest m q peerId target function args msgId ts).mapError .transport

/-- The request of the two queries. -/
def queryRequest (peerId : String) (body : QueryBody) (msgId : String) (ts : Float64) :
    Except MultifrostError (Outgoing m) := do
  let bodyBytes ← encodeQueryBody q body
  outgoing m (buildQueryEnvelope peerId routerPeerId msgId ts) bodyBytes (.inr rfl)

/-! ### What comes back -/

def decodeResponseBody (bytes : Bytes) : Except MultifrostError (ResponseBody V) :=
  (q.responseBodyFromSlice bytes).mapError .malformedFrame

/-- The error that an error frame stands for. -/
def remoteError {α : Type} (read : Bytes → Except String Value) (bytes : Bytes) :
    Except MultifrostError α :=
  match decodeRouterOrPeerError read bytes with
  | .ok err => .error err
  | .error err => .error err

/-- `call_to` after `send_and_wait`: every frame that is not an error is taken for a response. -/
def callReturn (read : Bytes → Except String Value) (fromValue : V → Except String R)
    (frame : FrameParts) : Except CallError R :=
  if frame.envelope.kind = kindError then (remoteError read frame.bodyBytes).mapError .transport
  else do
    let response ← (decodeResponseBody q frame.bodyBytes).mapError .transport
    (fromValue response.result).mapError .jsonError

/-- `query_peer_exists` after `send_and_wait`. -/
def queryExistsReturn (read : Bytes → Except String Value) (frame : FrameParts) :
    Except MultifrostError QueryExistsResponseBody :=
  if frame.envelope.kind = kindError then remoteError read frame.bodyBytes
  else (q.queryExistsFromSlice frame.bodyBytes).mapError .malformedFrame

/-- `query_peer_get` after `send_and_wait`. -/
def queryGetReturn (read : Bytes → Except String Value) (frame : FrameParts) :
    Except MultifrostError QueryGetResponseBody :=
  if frame.envelope.kind = kindError then remoteError read frame.bodyBytes
  else (q.queryGetFromSlice frame.bodyBytes).mapError .malformedFrame

/-! ### What is known of a request and of a result -/

variable {m q}

theorem outgoing_eq_ok {envelope : Envelope} {body : Bytes}
    {h : envelope.kind = kindCall ∨ envelope.kind = kindQuery} {o : Outgoing m}
    (ho : outgoing m envelope body h = .ok o) : o.envelope = envelope ∧ o.body = body := by
  unfold outgoing at ho
  split at ho
  · obtain rfl := Except.ok.inj ho
    exact ⟨rfl, rfl⟩
  · cases ho

theorem callRequest_eq_ok {peerId targetPeerId function msgId : String} {args : List V}
    {ts : Float64} {o : Outgoing m}
    (h : callRequest m q peerId targetPeerId function args msgId ts = .ok o) :
    o.envelope = buildCallEnvelope peerId targetPeerId msgId ts ∧
      q.callBodyToVecNamed ⟨function, args, none⟩ = .ok o.body := by
  unfold callRequest encodeCallBody at h
  cases hbody : q.callBodyToVecNamed ⟨function, args, none⟩ with
  | error text =>
    rw [hbody] at h
    cases h
  | ok bytes =>
    rw [hbody] at h
    obtain ⟨henvelope, hbytes⟩ := outgoing_eq_ok h
    exact ⟨henvelope, congrArg Except.ok hbytes.symm⟩

theorem queryRequest_eq_ok {peerId msgId : String} {body : QueryBody} {ts : Float64} {o : Outgoing m}
    (h : queryRequest m q peerId body msgId ts = .ok o) :
    o.envelope = buildQueryEnvelope peerId routerPeerId msgId ts ∧
      q.queryBodyToVecNamed body = .ok o.body := by
  unfold queryRequest encodeQueryBody at h
  cases hbody : q.queryBodyToVecNamed body with
  | error text =>
    rw [hbody] at h
    cases h
  | ok bytes =>
    rw [hbody] at h
    obtain ⟨henvelope, hbytes⟩ := outgoing_eq_ok h
    exact ⟨henvelope, congrArg Except.ok hbytes.symm⟩

theorem remoteError_ne_ok {α : Type} {read : Bytes → Except String Value} {bytes : Bytes} {a : α} :
    remoteError read bytes ≠ .ok a := by
  unfold remoteError
  cases decodeRouterOrPeerError read bytes <;> nofun

/-- A call that returns a value was answered by a frame that is no error, with a readable result. -/
theorem callReturn_eq_ok {read : Bytes → Except String Value} {fromValue : V → Except String R}
    {frame : FrameParts} {a : R} (h : callReturn q read fromValue frame = .ok a) :
    frame.envelope.kind ≠ kindError ∧ ∃ v, q.responseBodyFromSlice frame.bodyBytes = .ok ⟨v⟩ ∧
      fromValue v = .ok a := by
  unfold callReturn at h
  split_ifs at h with hkind
  · cases herror : remoteError (α := R) read frame.bodyBytes with
    | ok b => exact absurd herror remoteError_ne_ok
    | error err =>
      rw [herror] at h
      cases h
  · refine ⟨hkind, ?_⟩
    unfold decodeResponseBody at h
    cases hbody : q.responseBodyFromSlice frame.bodyBytes with
    | error text =>
      rw [hbody] at h
      cases h
    | ok response =>
      rw [hbody] at h
      cases hvalue : fromValue response.result with
      | error text =>
        simp only [Except.mapError, bind, Except.bind, hvalue] at h
        cases h
      | ok b =>
        simp only [Except.mapError, bind, Except.bind, hvalue] at h
        obtain rfl := Except.ok.inj h
        exact ⟨response.result, rfl, hvalue⟩

/-- The errors of the router, and those of the workers. -/
theorem errorOfKind_eq_unavailable {body : ErrorBody} {text : String}
    (h : errorOfKind body = .routerUnavailable text) :
    body.kind = "router" ∧ body.message = text := by
  unfold errorOfKind at h
  split at h
  · rename_i hrouter
    exact ⟨hrouter, MultifrostError.routerUnavailable.inj h⟩
  all_goals cases h

theorem errorOfKind_eq_remote {body : ErrorBody} {text : String}
    (h : errorOfKind body = .remoteCallError text) :
    body.kind ≠ "router" ∧ body.kind ≠ "protocol" ∧ body.message = text := by
  unfold errorOfKind at h
  split at h
  · cases h
  · cases h
  · rename_i happlication
    refine ⟨?_, ?_, MultifrostError.remoteCallError.inj h⟩
    · rw [happlication]
      decide
    · rw [happlication]
      decide
  · cases h
  · rename_i hrouter hprotocol _ _
    exact ⟨hrouter, hprotocol, MultifrostError.remoteCallError.inj h⟩

/-- A body that cannot be read is a malformed frame. -/
theorem exists_malformedFrame {read : Bytes → Except String Value} {bytes : Bytes}
    {err : MultifrostError} (h : decodeErrorBody read bytes = .error err) :
    ∃ text, err = .malformedFrame text := by
  unfold decodeErrorBody at h
  cases hbody : (read bytes).bind errorBody with
  | error text =>
    rw [hbody] at h
    exact ⟨text, (Except.error.inj h).symm⟩
  | ok body =>
    rw [hbody] at h
    cases h

/-- A call that fails, and not with a malformed frame, was answered by an error frame with a readable
body. -/
theorem callReturn_eq_error {read : Bytes → Except String Value} {fromValue : V → Except String R}
    {frame : FrameParts} {err : MultifrostError}
    (h : callReturn q read fromValue frame = .error (.transport err))
    (hread : ∀ text, err ≠ .malformedFrame text) :
    frame.envelope.kind = kindError ∧ ∃ body, decodeErrorBody read frame.bodyBytes = .ok body ∧
      errorOfKind body = err := by
  unfold callReturn at h
  split_ifs at h with hkind
  · refine ⟨hkind, ?_⟩
    unfold remoteError decodeRouterOrPeerError at h
    cases hbody : decodeErrorBody read frame.bodyBytes with
    | error err' =>
      obtain ⟨text, rfl⟩ := exists_malformedFrame hbody
      rw [hbody] at h
      exact absurd (CallError.transport.inj (Except.error.inj h)).symm (hread text)
    | ok body =>
      rw [hbody] at h
      exact ⟨body, rfl, CallError.transport.inj (Except.error.inj h)⟩
  · unfold decodeResponseBody at h
    cases hresponse : q.responseBodyFromSlice frame.bodyBytes with
    | error text =>
      rw [hresponse] at h
      exact absurd (CallError.transport.inj (Except.error.inj h)).symm (hread text)
    | ok response =>
      rw [hresponse] at h
      cases hvalue : fromValue response.result with
      | error text =>
        simp only [Except.mapError, bind, Except.bind, hvalue] at h
        cases h
      | ok a =>
        simp only [Except.mapError, bind, Except.bind, hvalue] at h
        cases h

end Requests

end Multifrost.Rust.CallerTransport
