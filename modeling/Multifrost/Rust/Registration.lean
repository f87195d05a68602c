import Multifrost.Rust.Service

/-!
# The registration of the Rust binding

What `CallerTransport::connect` and `run_service_async` do on a websocket that is open: the register
frame goes out, one message is read as the reply to it, and then the transport of the caller or the
loop of the service takes over.  `connection` and `service` are the two ends with all that follows;
a service runs as one task, a step of which handles one message.
-/

namespace Multifrost.Rust

open Router (Envelope FrameParts Message PeerClass RegisterAckBody RegisterBody RmpSerde
  kindRegister kindResponse protocolVersion routerPeerId)

/-! ### The register frame and its reply -/

/-- `rmp_serde` at the bodies of a registration. -/
structure RegisterSerde where
  registerBodyToVecNamed : RegisterBody → Except String Bytes
  registerAckBodyFromSlice : Bytes → Except String RegisterAckBody

section Registration

variable (m : RmpSerde) (r : RegisterSerde)

def encodeRegisterBody (body : RegisterBody) : Except MultifrostError Bytes :=
  (r.registerBodyToVecNamed body).mapError .serializeError

def decodeRegisterAckBody (bytes : Bytes) : Except MultifrostError RegisterAckBody :=
  (r.registerAckBodyFromSlice bytes).mapError .malformedFrame

/-- The class goes into the body only. -/
def buildRegisterEnvelope (peerId msgId : String) (ts : Float64) : Envelope :=
  ⟨protocolVersion, kindRegister, msgId, peerId, routerPeerId, ts⟩

def registerFrame (peerId : String) (peerClass : PeerClass) (msgId : String) (ts : Float64) :
    Except MultifrostError Bytes := do
  let body ← encodeRegisterBody r ⟨peerId, peerClass⟩
  encodeFrame m (buildRegisterEnvelope peerId msgId ts) body

/-- The one message that is read as the reply.  `debug` is the `Debug` text of a message, of which
only the payload of a binary one is modelled, and `rejected` the text for a rejection without a
reason. -/
def registerReply (debug : Message → String) (rejected : String) :
    Option (Except String Message) → Except MultifrostError Unit
  | some (.ok (.binary bytes)) => do
    let frame ← decodeFrame m bytes
    if frame.envelope.kind ≠ kindResponse then
      .error (.registerRejected ("unexpected register reply kind: " ++ frame.envelope.kind))
    else
      let ack ← decodeRegisterAckBody r frame.bodyBytes
      if ack.accepted then .ok ()
      else .error (.registerRejected (ack.reason.getD rejected))
  | some (.ok other) =>
    .error (.registerRejected ("unexpected register reply message: " ++ debug other))
  | some (.error text) => .error (.routerUnavailable text)
  | none => .error (.registerRejected "router closed")

end Registration

/-! ### The caller -/

namespace CallerTransport

/-- Where a `connect` is, and the transport that it returns. -/
inductive Connection
  /-- the register frame is built and sent -/
  | register
  /-- `source.next()` for the reply -/
  | reply
  | failed (err : MultifrostError)
  | connected (s : State)

inductive ConnectionInput
  /-- `connect` moves: the id and the time of the register frame, the result of its send, and what
  the stream yields -/
  | connect (msgId : String) (ts : Float64) (sent : Except String Unit)
      (next : Option (Except String Message))
  | transport (i : Input)

variable (m : RmpSerde) (r : RegisterSerde) (debug : Message → String) (config : Config)
  (request : ReqId → Request)

def connectReply (next : Option (Except String Message)) : Except MultifrostError Unit :=
  registerReply m r debug "router rejected caller registration" next

def connect (msgId : String) (ts : Float64) (sent : Except String Unit)
    (next : Option (Except String Message)) : Connection → Option (Connection × List Event)
  | .register =>
    match registerFrame m r config.peerId .caller msgId ts with
    | .error err => some (.failed err, [])
    | .ok frame =>
      match sent with
      | .ok () => some (.reply, [.sent frame])
      | .error text => some (.failed (.webSocketError text), [])
  | .reply =>
    match connectReply m r debug next with
    | .ok () => some (.connected (callerTransport m config request).init, [])
    | .error err => some (.failed err, [])
  | .failed _ => none
  | .connected _ => none

/-- A caller, from the open websocket on. -/
def connection : TransitionSystem Connection ConnectionInput Event where
  init := .register
  step
    | .connect msgId ts sent next, s => connect m r debug config request msgId ts sent next s
    | .transport i, .connected s =>
      ((callerTransport m config request).step i s).map fun o => (.connected o.1, o.2)
    | .transport _, .register => none
    | .transport _, .reply => none
    | .transport _, .failed _ => none

end CallerTransport

/-! ### The service -/

namespace Service

variable {V ω : Type}

/-- Where a `run_service_async` is. -/
inductive Pc
  /-- the register frame is built and sent -/
  | register
  /-- `source.next()` for the reply -/
  | reply
  /-- `source.next()` of the loop -/
  | loop
  /-- `send_disconnect_frame` -/
  | disconnect
  | returned (result : Except MultifrostError Unit)

/-- What the stream yields, and what the websocket, the clock and the id generator answer until the
next read. -/
structure Input where
  next : Option (Except String Message) := none
  sent : Except String Unit := .ok ()
  now : Float64 := .one
  newMsgId : String := ""

structure State (ω : Type) where
  pc : Pc
  world : World ω

variable (m : RmpSerde) (r : RegisterSerde) (c : CallSerde V) (debug : Message → String)
  (handleCall : String → List V → ω → Except String V × ω) (peerId : String)

/-- The environment until the next read. -/
def Input.environment (i : Input) : Environment V ω :=
  ⟨handleCall, fun _ => i.sent, fun _ => i.now, i.newMsgId⟩

def serviceReply (next : Option (Except String Message)) : Except MultifrostError Unit :=
  registerReply m r debug "router rejected service registration" next

/-- `run_service_async` up to its next read. -/
def serviceStep (i : Input) (w : World ω) : Pc → Option (State ω)
  | .register =>
    match sendBuilt (i.environment handleCall)
      (registerFrame m r peerId .service i.newMsgId i.now) w with
    | (.ok (), w') => some ⟨.reply, w'⟩
    | (.error err, w') => some ⟨.returned (.error err), w'⟩
  | .reply =>
    match serviceReply m r debug i.next with
    | .ok () => some ⟨.loop, w⟩
    | .error err => some ⟨.returned (.error err), w⟩
  | .loop =>
    match i.next with
    | none => some ⟨.disconnect, w⟩
    | some message =>
      match handleMessage m c (i.environment handleCall) peerId message w with
      | (.continues, w') => some ⟨.loop, w'⟩
      | (.breaks, w') => some ⟨.disconnect, w'⟩
  -- the result of the last send is ignored
  | .disconnect =>
    some ⟨.returned (.ok ()), (sendDisconnectFrame m (i.environment handleCall) peerId w).2⟩
  | .returned _ => none

/-- A service with its worker, from the open websocket on; the frames that it sends are part of its
world, so that its steps emit nothing. -/
def service (worker : ω) : TransitionSystem (State ω) Input Empty where
  init := ⟨.register, ⟨worker, 0, [], []⟩⟩
  step i s := (serviceStep m r c debug handleCall peerId i s.world s.pc).map fun s' => (s', [])

/-! ### The loop of a service -/

section Loop

variable (env : Environment V ω)

/-- A world without the number of messages read, which the steps of a service do not count. -/
def World.uncounted (w : World ω) : World ω := { w with read := 0 }

/-- The answers of the environment after the `n`-th message. -/
def inputAt (n : Nat) (next : Option (Except String Message)) : Input :=
  ⟨next, env.send n, env.now n, env.newMsgId⟩

theorem sendBuilt_uncounted (next : Option (Except String Message))
    (frame : Except MultifrostError Bytes) (w : World ω) :
    sendBuilt ((inputAt env w.read next).environment env.handleCall) frame w.uncounted =
      ((sendBuilt env frame w).1, (sendBuilt env frame w).2.uncounted) := by
  cases frame with
  | error err => rfl
  | ok frame =>
    simp only [sendBuilt, sendWsFrame, inputAt, Input.environment]
    cases env.send w.read <;> rfl

theorem handleCallFrame_uncounted (next : Option (Except String Message)) (frame : FrameParts)
    (w : World ω) :
    handleCallFrame m c ((inputAt env w.read next).environment env.handleCall) peerId frame
      w.uncounted =
        ((handleCallFrame m c env peerId frame w).1,
          (handleCallFrame m c env peerId frame w).2.uncounted) := by
  unfold handleCallFrame
  cases decodeCallBody c frame.bodyBytes with
  | error text => exact sendBuilt_uncounted env next _ w
  | ok call =>
    dsimp only
    cases call.callNamespace.filter (· ≠ "default") with
    | some ns => exact sendBuilt_uncounted env next _ w
    | none =>
      dsimp only [Input.environment, World.uncounted]
      cases env.handleCall call.function call.args w.worker with
      | mk result worker =>
        cases result with
        | ok result => exact sendBuilt_uncounted env next _ { w with worker := worker }
        | error text => exact sendBuilt_uncounted env next _ { w with worker := worker }

theorem handleMessage_uncounted (next : Option (Except String Message))
    (message : Except String Message) (w : World ω) :
    handleMessage m c ((inputAt env w.read next).environment env.handleCall) peerId message
      w.uncounted =
        ((handleMessage m c env peerId message w).1,
          (handleMessage m c env peerId message w).2.uncounted) := by
  unfold handleMessage
  cases message with
  | error text => rfl
  | ok message =>
    cases message with
    | binary bytes =>
      dsimp only
      cases decodeFrame m bytes with
      | error err => rfl
      | ok frame =>
        dsimp only
        split_ifs with hto hcall hdisconnect
        · rfl
        · rw [handleCallFrame_uncounted]
          cases handleCallFrame m c env peerId frame w with
          | mk result w' => cases result <;> rfl
        · rfl
        · rfl
    | _ => rfl

/-- Where a service is after a message. -/
def Flow.pc : Flow → Pc
  | .continues => .loop
  | .breaks => .disconnect

variable {handleCall} in
theorem step_loop (worker : ω) {i : Input} {message : Except String Message} {flow : Flow}
    {w w' : World ω} (hnext : i.next = some message)
    (h : handleMessage m c (i.environment handleCall) peerId message w = (flow, w')) :
    (service m r c debug handleCall peerId worker).step i ⟨.loop, w⟩ =
      some (⟨flow.pc, w'⟩, []) := by
  simp only [service, serviceStep, hnext, h]
  cases flow <;> rfl

/-- The steps of a service in its loop are the iterations of `serviceLoop`. -/
theorem exists_path_serviceLoop (worker : ω) (messages : List (Except String Message))
    (w : World ω) :
    ∃ is, (service m r c debug env.handleCall peerId worker).Path (fun _ _ => True)
      ⟨.loop, w.uncounted⟩ is []
      ⟨.disconnect, (serviceLoop m c env peerId messages w).uncounted⟩ := by
  induction messages generalizing w with
  | nil => exact ⟨_, .snoc (i := {}) .nil trivial rfl⟩
  | cons message messages ih =>
    have hmessage := handleMessage_uncounted m c peerId env (some message) message
      { w with read := w.read + 1 }
    have hstep := step_loop m r c debug peerId worker rfl hmessage
    unfold serviceLoop
    cases hflow : handleMessage m c env peerId message { w with read := w.read + 1 } with
    | mk flow w' =>
      rw [hflow] at hstep
      cases flow with
      | continues =>
        obtain ⟨is, hpath⟩ := ih w'
        exact ⟨_, .cons trivial hstep hpath⟩
      | breaks => exact ⟨_, .snoc .nil trivial hstep⟩

/-- From its loop on a service does what `runServiceAsync` does, in an environment that answers
after each message as the inputs say. -/
theorem exists_path_runServiceAsync (worker : ω) (messages : List (Except String Message))
    (w : World ω) :
    ∃ is, (service m r c debug env.handleCall peerId worker).Path (fun _ _ => True)
      ⟨.loop, w.uncounted⟩ is []
      ⟨.returned (.ok ()), (runServiceAsync m c env peerId messages w).uncounted⟩ := by
  obtain ⟨is, hpath⟩ := exists_path_serviceLoop m r c debug peerId env worker messages w
  generalize hend : serviceLoop m c env peerId messages w = w' at hpath
  have hsent := sendBuilt_uncounted env none (encodeFrame m
    (CallerTransport.buildDisconnectEnvelope peerId routerPeerId env.newMsgId (env.now w'.read)) [])
    w'
  have hstep : (service m r c debug env.handleCall peerId worker).step (inputAt env w'.read none)
      ⟨.disconnect, w'.uncounted⟩ = some (⟨.returned (.ok ()),
        (sendDisconnectFrame m env peerId w').2.uncounted⟩, []) := by
    simp only [service, serviceStep, Option.map_some]
    unfold sendDisconnectFrame
    exact congrArg (fun out => some ((⟨.returned (.ok ()), out.2⟩ : State ω), [])) hsent
  unfold runServiceAsync
  rw [hend]
  exact ⟨_, hpath.snoc trivial hstep⟩

end Loop

end Service

end Multifrost.Rust
