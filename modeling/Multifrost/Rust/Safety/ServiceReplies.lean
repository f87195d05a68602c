import Multifrost.Router.Sample
import Multifrost.Rust.Service
import Mathlib.Data.List.Forall2

/-!
# The replies of a service

A call frame that is addressed to the service is answered by one frame: an error frame if its body
cannot be read, if it names a namespace other than the default one, or if the worker fails, and a
response frame otherwise.  The loop goes on after it in any case.  It ends at a disconnect frame
addressed to the service, at a close message, at an error of the websocket and at the end of its
stream, and at nothing else.
-/

namespace Multifrost.Rust.Service

open Router (Envelope ErrorBody FrameParts Message RmpSerde kindCall kindDisconnect kindError
  kindResponse protocolVersion routerPeerId)

variable {V ω : Type}

/-! ### What is received -/

section Received

variable (m : RmpSerde) (peerId : String)

/-- The call addressed to the service that a message carries. -/
def callFrame : Except String Message → Option FrameParts
  | .ok (.binary bytes) =>
    match decodeFrame m bytes with
    | .ok frame =>
      if frame.envelope.toPeer = peerId ∧ frame.envelope.kind = kindCall then some frame else none
    | .error _ => none
  | _ => none

/-- The messages at which the loop ends. -/
def stops : Except String Message → Bool
  | .ok (.binary bytes) =>
    match decodeFrame m bytes with
    | .ok frame => frame.envelope.toPeer = peerId ∧ frame.envelope.kind = kindDisconnect
    | .error _ => false
  | .ok .close => true
  | .ok _ => false
  | .error _ => true

/-- The calls addressed to the service that are received before the loop ends. -/
def callsReceived (messages : List (Except String Message)) : List FrameParts :=
  (messages.takeWhile fun message => !stops m peerId message).filterMap (callFrame m peerId)

end Received

/-! ### What is replied -/

section Replied

variable (c : CallSerde V) (env : Environment V ω)

/-- Whether a call is answered with a result, and the worker after it: the body has to decode, its
namespace is absent or the default one, and the worker has to return a value. -/
def outcome (call : FrameParts) (worker : ω) : Bool × ω :=
  match decodeCallBody c call.bodyBytes with
  | .error _ => (false, worker)
  | .ok body =>
    if body.callNamespace = none ∨ body.callNamespace = some "default" then
      let called := env.handleCall body.function body.args worker
      (called.1.isOk, called.2)
    else (false, worker)

/-- The calls, each with whether it is answered with a result. -/
def outcomes : ω → List FrameParts → List (FrameParts × Bool)
  | _, [] => []
  | worker, call :: calls =>
    (call, (outcome c env call worker).1) :: outcomes (outcome c env call worker).2 calls

/-- A frame that answers a call: it goes back under the id of the call, as a response if the call
has a result and as an error otherwise. -/
def IsReply (m : RmpSerde) (peerId : String) (call : FrameParts × Bool) (reply : Bytes) : Prop :=
  ∃ ts body, encodeFrame m ⟨protocolVersion, if call.2 then kindResponse else kindError,
    call.1.envelope.msgId, peerId, call.1.envelope.fromPeer, ts⟩ body = .ok reply

end Replied

/-! ### One message -/

section Message

variable {m : RmpSerde} {c : CallSerde V} {env : Environment V ω} {peerId : String}

/-- What the handling of a call does to the world: one reply goes out, or there is an error. -/
structure Handled (m : RmpSerde) (c : CallSerde V) (env : Environment V ω) (peerId : String)
    (call : FrameParts) (w : World ω) (done : Except MultifrostError Unit × World ω) : Prop where
  worker : done.2.worker = (outcome c env call w.worker).2
  handlingErrors : done.2.handlingErrors = w.handlingErrors
  sent : done.1 = .ok () → ∃ reply, done.2.sent = w.sent ++ [reply] ∧
    IsReply m peerId (call, (outcome c env call w.worker).1) reply

/-- A frame that is built from an envelope and a body and sent is the last frame that went out. -/
theorem sent_of_sendBuilt {envelope : Envelope} {encoded : Except MultifrostError Bytes}
    {w : World ω}
    (h : (sendBuilt env (encoded.bind fun body => encodeFrame m envelope body) w).1 = .ok ()) :
    ∃ body reply, encodeFrame m envelope body = .ok reply ∧
      (sendBuilt env (encoded.bind fun body => encodeFrame m envelope body) w).2.sent =
        w.sent ++ [reply] := by
  cases encoded with
  | error err => cases h
  | ok body =>
    simp only [Except.bind] at h ⊢
    cases hframe : encodeFrame m envelope body with
    | error err =>
      rw [hframe] at h
      cases h
    | ok frame =>
      refine ⟨body, frame, hframe, ?_⟩
      rw [hframe, sendBuilt, sendWsFrame] at h
      rw [sendBuilt, sendWsFrame]
      cases hsend : env.send w.read with
      | ok u => rfl
      | error text =>
        rw [hsend] at h
        cases h

theorem sendBuilt_worker (frame : Except MultifrostError Bytes) (w : World ω) :
    (sendBuilt env frame w).2.worker = w.worker := by
  cases frame with
  | error err => rfl
  | ok frame =>
    rw [sendBuilt, sendWsFrame]
    cases env.send w.read <;> rfl

theorem sendBuilt_handlingErrors (frame : Except MultifrostError Bytes) (w : World ω) :
    (sendBuilt env frame w).2.handlingErrors = w.handlingErrors := by
  cases frame with
  | error err => rfl
  | ok frame =>
    rw [sendBuilt, sendWsFrame]
    cases env.send w.read <;> rfl

/-- A reply of the right kind, once the worker is where the call leaves it. -/
theorem handled_sendBuilt {call : FrameParts} {w : World ω} {ok : Bool} {worker : ω} {ts : Float64}
    {encoded : Except MultifrostError Bytes} (h : outcome c env call w.worker = (ok, worker)) :
    Handled m c env peerId call w (sendBuilt env (encoded.bind fun body => encodeFrame m
      ⟨protocolVersion, if ok then kindResponse else kindError, call.envelope.msgId, peerId,
        call.envelope.fromPeer, ts⟩ body) { w with worker := worker }) := by
  constructor
  · rw [sendBuilt_worker, h]
  · exact sendBuilt_handlingErrors _ _
  · intro hok
    obtain ⟨body, reply, hframe, hsent⟩ := sent_of_sendBuilt hok
    refine ⟨reply, hsent, ts, body, ?_⟩
    rw [h]
    exact hframe

/-- An error frame for a call that has no result and does not reach the worker. -/
theorem handled_sendError {call : FrameParts} {w : World ω} (code kind message : String)
    (h : outcome c env call w.worker = (false, w.worker)) :
    Handled m c env peerId call w (sendError m c env peerId call.envelope.fromPeer
      call.envelope.msgId code kind message none w) :=
  handled_sendBuilt h

theorem outcome_of_decoded (env : Environment V ω) (worker : ω) {call : FrameParts} {body : CallBody V}
    (hbody : decodeCallBody c call.bodyBytes = .ok body)
    (hns : body.callNamespace.filter (· ≠ "default") = none) :
    outcome c env call worker =
      ((env.handleCall body.function body.args worker).1.isOk,
        (env.handleCall body.function body.args worker).2) := by
  have hdefault : body.callNamespace = none ∨ body.callNamespace = some "default" := by
    cases hname : body.callNamespace with
    | none => exact Or.inl rfl
    | some ns =>
      rw [hname] at hns
      right
      simpa using hns
  rw [outcome, hbody]
  simp only [hdefault, if_true]

variable (m c env peerId) in
theorem handled_handleCallFrame (call : FrameParts) (w : World ω) :
    Handled m c env peerId call w (handleCallFrame m c env peerId call w) := by
  rw [handleCallFrame]
  cases hbody : decodeCallBody c call.bodyBytes with
  | error text =>
    have hout : outcome c env call w.worker = (false, w.worker) := by rw [outcome, hbody]
    exact handled_sendError _ _ _ hout
  | ok body =>
    dsimp only
    cases hns : body.callNamespace.filter (· ≠ "default") with
    | some ns =>
      have hout : outcome c env call w.worker = (false, w.worker) := by
        have hother : ¬ (body.callNamespace = none ∨ body.callNamespace = some "default") := by
          rintro (hname | hname)
          · rw [hname] at hns
            cases hns
          · simp [hname] at hns
            exact hns.2 hns.1.symm
        rw [outcome, hbody]
        simp only [hother, if_false]
      exact handled_sendError _ _ _ hout
    | none =>
      have hout := outcome_of_decoded env w.worker hbody hns
      rcases hcall : env.handleCall body.function body.args w.worker with ⟨text | result, worker⟩
      · rw [hcall] at hout
        exact handled_sendBuilt hout
      · rw [hcall] at hout
        exact handled_sendBuilt hout

/-- The world after a call: an error of its handling is printed. -/
def afterCall : Except MultifrostError Unit × World ω → World ω
  | (.ok (), w) => w
  | (.error err, w) => { w with handlingErrors := w.handlingErrors ++ [err] }

/-- Every message is a call to the service, a message that stops the loop, or nothing. -/
theorem handleMessage_eq (message : Except String Message) (w : World ω) :
    handleMessage m c env peerId message w =
      match callFrame m peerId message with
      | some frame => (.continues, afterCall (handleCallFrame m c env peerId frame w))
      | none => (if stops m peerId message then .breaks else .continues, w) := by
  cases message with
  | error text => rfl
  | ok message =>
    cases message with
    | binary bytes =>
      cases hdecoded : decodeFrame m bytes with
      | error err => simp [handleMessage, callFrame, stops, hdecoded]
      | ok frame =>
        simp only [handleMessage, callFrame, stops, hdecoded]
        by_cases hto : frame.envelope.toPeer = peerId
        · by_cases hkind : frame.envelope.kind = kindCall
          · simp only [hto, hkind, and_self, ne_eq, not_true_eq_false, if_true, if_false]
            rcases handleCallFrame m c env peerId frame w with ⟨err | u, w'⟩ <;> rfl
          · by_cases hdisconnect : frame.envelope.kind = kindDisconnect
            · have hkinds : kindDisconnect ≠ kindCall := by decide
              simp [hto, hdisconnect, hkinds]
            · simp [hto, hkind, hdisconnect]
        · simp [hto]
    | _ => rfl

/-- A call does not stop the loop. -/
theorem not_stops_of_callFrame {message : Except String Message} {frame : FrameParts}
    (h : callFrame m peerId message = some frame) : stops m peerId message = false := by
  have hkinds : kindCall ≠ kindDisconnect := by decide
  unfold callFrame at h
  split at h
  · rename_i bytes
    split at h
    · rename_i parts hdecoded
      split_ifs at h with hcall
      simp [stops, hdecoded, hcall.2, hkinds]
    · cases h
  · cases h

/-! ### The loop -/

/-- The world in which the next message is handled. -/
def World.next (w : World ω) : World ω := { w with read := w.read + 1 }

theorem serviceLoop_of_call {message : Except String Message} {call : FrameParts}
    (h : callFrame m peerId message = some call) (messages : List (Except String Message))
    (w : World ω) :
    serviceLoop m c env peerId (message :: messages) w =
      serviceLoop m c env peerId messages
        (afterCall (handleCallFrame m c env peerId call w.next)) := by
  rw [serviceLoop, handleMessage_eq, h]
  rfl

theorem serviceLoop_of_skip {message : Except String Message} (h : callFrame m peerId message = none)
    (hstop : stops m peerId message = false) (messages : List (Except String Message))
    (w : World ω) :
    serviceLoop m c env peerId (message :: messages) w =
      serviceLoop m c env peerId messages w.next := by
  rw [serviceLoop, handleMessage_eq, h, hstop]
  rfl

theorem serviceLoop_of_stop {message : Except String Message} (h : callFrame m peerId message = none)
    (hstop : stops m peerId message = true) (messages : List (Except String Message))
    (w : World ω) : serviceLoop m c env peerId (message :: messages) w = w.next := by
  rw [serviceLoop, handleMessage_eq, h, hstop]
  rfl

variable (m c env peerId) in
/-- A call is handled without an error, or one more error is printed. -/
theorem handlingErrors_afterCall (call : FrameParts) (w : World ω) :
    (handleCallFrame m c env peerId call w).1 = .ok () ∧
      afterCall (handleCallFrame m c env peerId call w) =
        (handleCallFrame m c env peerId call w).2 ∨
    ∃ err, (afterCall (handleCallFrame m c env peerId call w)).handlingErrors =
      w.handlingErrors ++ [err] := by
  have hhandled := (handled_handleCallFrame m c env peerId call w).handlingErrors
  rcases hdone : handleCallFrame m c env peerId call w with ⟨err | u, w'⟩
  · right
    rw [hdone] at hhandled
    refine ⟨err, ?_⟩
    rw [afterCall, hhandled]
  · exact Or.inl ⟨rfl, rfl⟩

variable (m c env peerId) in
/-- What is printed stays. -/
theorem handlingErrors_serviceLoop (messages : List (Except String Message)) (w : World ω) :
    w.handlingErrors <+: (serviceLoop m c env peerId messages w).handlingErrors := by
  induction messages generalizing w with
  | nil => exact List.prefix_rfl
  | cons message messages ih =>
    cases hcall : callFrame m peerId message with
    | some call =>
      rw [serviceLoop_of_call hcall]
      refine List.IsPrefix.trans ?_ (ih _)
      rcases handlingErrors_afterCall m c env peerId call w.next with ⟨-, heq⟩ | ⟨err, heq⟩
      · rw [heq, (handled_handleCallFrame m c env peerId call w.next).handlingErrors]
        exact List.prefix_rfl
      · rw [heq]
        exact List.prefix_append _ _
    | none =>
      cases hstop : stops m peerId message with
      | true =>
        rw [serviceLoop_of_stop hcall hstop]
        exact List.prefix_rfl
      | false =>
        rw [serviceLoop_of_skip hcall hstop]
        exact ih w.next

/-- In a loop that prints no error, every call is handled without one. -/
theorem ok_of_handlingErrors {messages : List (Except String Message)} {w : World ω}
    {call : FrameParts}
    (h : (serviceLoop m c env peerId messages
      (afterCall (handleCallFrame m c env peerId call w))).handlingErrors = w.handlingErrors) :
    (handleCallFrame m c env peerId call w).1 = .ok () ∧
      afterCall (handleCallFrame m c env peerId call w) =
        (handleCallFrame m c env peerId call w).2 := by
  rcases handlingErrors_afterCall m c env peerId call w with hok | ⟨err, heq⟩
  · exact hok
  · have hlength := (handlingErrors_serviceLoop m c env peerId messages
      (afterCall (handleCallFrame m c env peerId call w))).length_le
    rw [h, heq, List.length_append, List.length_singleton] at hlength
    omega

variable (m c env peerId) in
theorem replies_serviceLoop (messages : List (Except String Message)) (w : World ω)
    (h : (serviceLoop m c env peerId messages w).handlingErrors = w.handlingErrors) :
    ∃ replies, (serviceLoop m c env peerId messages w).sent = w.sent ++ replies ∧
      List.Forall₂ (IsReply m peerId) (outcomes c env w.worker (callsReceived m peerId messages))
        replies := by
  -- the induction is on the stream; a message is a call, stops the loop or does nothing
  induction messages generalizing w with
  | nil => exact ⟨[], (List.append_nil _).symm, List.Forall₂.nil⟩
  | cons message messages ih =>
    cases hcall : callFrame m peerId message with
    | some call =>
      rw [serviceLoop_of_call hcall] at h ⊢
      obtain ⟨hok, hafter⟩ := ok_of_handlingErrors (w := w.next) h
      have hhandled := handled_handleCallFrame m c env peerId call w.next
      obtain ⟨reply, hsent, hreply⟩ := hhandled.sent hok
      rw [hafter] at h ⊢
      obtain ⟨replies, hall, hreplies⟩ := ih _ (h.trans hhandled.handlingErrors.symm)
      refine ⟨reply :: replies, ?_, ?_⟩
      · rw [hall, hsent, List.append_assoc]
        rfl
      · have hcalls : callsReceived m peerId (message :: messages) =
            call :: callsReceived m peerId messages := by
          simp [callsReceived, not_stops_of_callFrame hcall, hcall]
        rw [hhandled.worker] at hreplies
        rw [hcalls, outcomes]
        exact List.Forall₂.cons hreply hreplies
    | none =>
      cases hstop : stops m peerId message with
      | true =>
        have hcalls : callsReceived m peerId (message :: messages) = [] := by
          simp [callsReceived, hstop]
        rw [serviceLoop_of_stop hcall hstop, hcalls]
        exact ⟨[], (List.append_nil _).symm, List.Forall₂.nil⟩
      | false =>
        have hcalls : callsReceived m peerId (message :: messages) =
            callsReceived m peerId messages := by
          simp [callsReceived, hstop, hcall]
        rw [serviceLoop_of_skip hcall hstop] at h ⊢
        rw [hcalls]
        exact ih w.next h

variable (m c env peerId) in
/-- The last frame is the disconnect frame of the service, if it can be built and sent. -/
theorem sent_runServiceAsync (messages : List (Except String Message)) (w : World ω) :
    ∃ last, (runServiceAsync m c env peerId messages w).sent =
        (serviceLoop m c env peerId messages w).sent ++ last ∧
      (last = [] ∨ ∃ ts frame, last = [frame] ∧ encodeFrame m
        (CallerTransport.buildDisconnectEnvelope peerId routerPeerId env.newMsgId ts) [] =
          .ok frame) := by
  rw [runServiceAsync, sendDisconnectFrame]
  generalize serviceLoop m c env peerId messages w = looped
  cases hframe : encodeFrame m (CallerTransport.buildDisconnectEnvelope peerId routerPeerId
      env.newMsgId (env.now looped.read)) [] with
  | error err => exact ⟨[], (List.append_nil _).symm, Or.inl rfl⟩
  | ok frame =>
    rw [sendBuilt, sendWsFrame]
    cases env.send looped.read with
    | error text => exact ⟨[], (List.append_nil _).symm, Or.inl rfl⟩
    | ok u => exact ⟨[frame], rfl, Or.inr ⟨_, frame, rfl, hframe⟩⟩

/-- **A service answers every call once**, if no encoding and no send of a reply fails: the frames it
sends before its disconnect frame are the replies to the calls that are addressed to it and received
before the loop ends, in their order.  A message that carries no such call sends nothing, and only
the messages of `stops` end the loop, whatever is in a call and whatever the worker returns. -/
theorem service_replies (m : RmpSerde) (c : CallSerde V) (env : Environment V ω) (peerId : String)
    (messages : List (Except String Message)) (w : World ω)
    (h : (serviceLoop m c env peerId messages w).handlingErrors = w.handlingErrors) :
    (∃ replies last, (runServiceAsync m c env peerId messages w).sent = w.sent ++ replies ++ last ∧
      List.Forall₂ (IsReply m peerId) (outcomes c env w.worker (callsReceived m peerId messages))
        replies ∧
      (last = [] ∨ ∃ ts frame, last = [frame] ∧ encodeFrame m
        (CallerTransport.buildDisconnectEnvelope peerId routerPeerId env.newMsgId ts) [] =
          .ok frame)) ∧
    (∀ message w, callFrame m peerId message = none →
      (handleMessage m c env peerId message w).2 = w) ∧
    ∀ message w, (handleMessage m c env peerId message w).1 = .breaks ↔
      stops m peerId message = true := by
  refine ⟨?_, ?_, ?_⟩
  · obtain ⟨replies, hsent, hreplies⟩ := replies_serviceLoop m c env peerId messages w h
    obtain ⟨last, hlast, hdisconnect⟩ := sent_runServiceAsync m c env peerId messages w
    exact ⟨replies, last, by rw [hlast, hsent], hreplies, hdisconnect⟩
  · intro message w hcall
    rw [handleMessage_eq, hcall]
  · intro message w
    rw [handleMessage_eq]
    cases hcall : callFrame m peerId message with
    | some call =>
      rw [not_stops_of_callFrame hcall]
      exact ⟨nofun, nofun⟩
    | none =>
      dsimp only
      cases stops m peerId message with
      | true => exact ⟨fun _ => rfl, fun _ => rfl⟩
      | false => exact ⟨nofun, nofun⟩

end Message

/-! ### A service of one function -/

section Sample

open MsgPack (Value)
open Router (msgPackSerde)

def CallBody.ofValue (v : Value) : Option (CallBody Value) := do
  let function ← (v.field "function").bind string
  let args ← match v.field "args" with
    | none => some []
    | some (.array args) => some args
    | some _ => none
  let callNamespace ← match v.field "namespace" with
    | none | some .nil => some none
    | some name => (string name).map some
  some ⟨function, args, callNamespace⟩

def msgPackCallSerde : CallSerde Value where
  callBodyFromSlice := Router.fromSliceWith CallBody.ofValue
  responseBodyToVecNamed b := .ok (MsgPack.encode (.map [(.str "result", b.result)]))
  errorBodyToVecNamed b := .ok (MsgPack.encode (serializeErrorBody b))

/-- A worker that knows the function `f`; everything is sent. -/
def quietEnvironment : Environment Value Unit where
  handleCall function _ worker :=
    if function = "f" then (.ok .nil, worker) else (.error "Function not found: g", worker)
  send _ := .ok ()
  now _ := .one
  newMsgId := "d"

def quietWorld : World Unit := ⟨(), 0, [], []⟩

/-- A binary message with a frame to the service. -/
def toService (kind : String) (body : Bytes) : Except String Message :=
  .ok (.binary
    ((encodeFrame msgPackSerde ⟨protocolVersion, kind, "n", "caller", "service", .one⟩ body).toOption.getD
      []))

/-- A call of a function. -/
def callOf (function : String) : Except String Message :=
  toService kindCall (MsgPack.encode (.map [(.str "function", .str function)]))

/-- Three calls, of which one has no readable body and one asks for an unknown function; a ping and
a text message are skipped, and nothing is read after the disconnect frame. -/
def quietMessages : List (Except String Message) :=
  [callOf "f", .ok .ping, toService kindCall [], .ok .text, callOf "g", toService kindDisconnect [],
    callOf "f"]

theorem service_replies_three :
    ((outcomes msgPackCallSerde quietEnvironment ()
      (callsReceived msgPackSerde "service" quietMessages)).map Prod.snd) = [true, false, false] ∧
    ∃ replies last, (runServiceAsync msgPackSerde msgPackCallSerde quietEnvironment "service"
        quietMessages quietWorld).sent = [] ++ replies ++ last ∧
      List.Forall₂ (IsReply msgPackSerde "service") (outcomes msgPackCallSerde quietEnvironment ()
        (callsReceived msgPackSerde "service" quietMessages)) replies := by
  have herrors : (serviceLoop msgPackSerde msgPackCallSerde quietEnvironment "service" quietMessages
      quietWorld).handlingErrors = quietWorld.handlingErrors := by decide +kernel
  refine ⟨by decide +kernel, ?_⟩
  obtain ⟨⟨replies, last, hsent, hreplies, -⟩, -⟩ := service_replies msgPackSerde msgPackCallSerde
    quietEnvironment "service" quietMessages quietWorld herrors
  exact ⟨replies, last, hsent, hreplies⟩

/-- A disconnect frame is no call, and a close message is a control message: both end the loop. -/
theorem service_stopped : ¬ ∀ message, (∃ read, message = .ok read) →
    callFrame msgPackSerde "service" message = none →
    (handleMessage msgPackSerde msgPackCallSerde quietEnvironment "service" message
      quietWorld).1 = .continues := by
  intro h
  have hdisconnect := h (toService kindDisconnect []) ⟨_, rfl⟩ (by decide +kernel)
  have hbreaks : (handleMessage msgPackSerde msgPackCallSerde quietEnvironment "service"
      (toService kindDisconnect []) quietWorld).1 = .breaks := by decide +kernel
  rw [hbreaks] at hdisconnect
  cases hdisconnect

end Sample

end Multifrost.Rust.Service
