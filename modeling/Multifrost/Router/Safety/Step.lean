import Multifrost.Router.Server

/-!
# What a step of the router can do

`Step m i reg pc reg' pc' evs` lists the transitions of one connection: from which await to which,
how the registry changes and which events are emitted.  `step_of_serve` says that there are no
others.  A safety proof is a case analysis of `Step`, and those about what a connection holds go by
`conn_invariant`; which frames the router writes as its own is told more closely by `Reply`.

The cases are as coarse as the safety properties allow.  `Quiet me` collects the awaits of a
registered connection that holds no frame to forward, and `Route.Sound` is what the checks of the
message loop establish about a frame before it is routed: the bytes decode to the envelope, the
envelope names the connection's own peer id as its origin, and the class of the connection may
originate the kind.
-/

namespace Multifrost.Router

variable {m : RmpSerde}

/-! ### What an await says about the connection -/

/-- The peer under which the connection is registered; none before the registration and once
`handle_connection` has returned. -/
def Pc.session : Pc m → Option Session
  | .accept | .first | .insert .. | .reject _ | .returned _ => none
  | .ack me _ | .loop me | .reply me _ _ | .lookup me _ _ | .disconnect me _ | .cleanup me _ =>
    some me
  | .markHeartbeat r | .heartbeatTarget r | .targetClass r | .targetExists r | .targetSender r
  | .forward r _ | .evict r _ => some r.me

/-- The connection has left its message loop. -/
def Pc.finished : Pc m → Bool
  | .reply _ _ .finish | .cleanup .. | .returned _ => true
  | _ => false

/-- `handle_connection` has returned. -/
def Pc.isReturned : Pc m → Bool
  | .returned _ => true
  | _ => false

/-- The registration the connection is about to make. -/
def Pc.registering : Pc m → Option RegisterBody
  | .insert _ register => some register
  | _ => none

/-- The frame the connection is about to forward. -/
def Pc.route : Pc m → Option Route
  | .markHeartbeat r | .heartbeatTarget r | .targetClass r | .targetExists r | .targetSender r
  | .forward r _ => some r
  | _ => none

/-- The sink the connection has looked up for a frame, and the id under which it found it: the
send to it may still fail, and then the id is removed. -/
def Pc.target : Pc m → Option (String × PeerSender)
  | .forward r target | .evict r target => some (r.envelope.toPeer, target)
  | _ => none

/-- The connection holds a frame that it is routing. -/
def Pc.holdsFrame : Pc m → Bool
  | .markHeartbeat _ | .heartbeatTarget _ | .targetClass _ | .targetExists _ | .targetSender _
  | .forward .. | .evict .. => true
  | _ => false

/-- The frame whose target the connection is about to look up. -/
def Pc.resolving : Pc m → Option Route
  | .targetSender r => some r
  | _ => none

/-- The id and the sink the connection is about to send a frame to. -/
def Pc.sending : Pc m → Option (String × PeerSender)
  | .forward r target => some (r.envelope.toPeer, target)
  | _ => none

/-- The id the connection is about to remove, and the sink a send to which has failed. -/
def Pc.evicting : Pc m → Option (String × PeerSender)
  | .evict r target => some (r.envelope.toPeer, target)
  | _ => none

/-- What the message loop checks before a frame is routed. -/
structure Route.Sound (m : RmpSerde) (r : Route) : Prop where
  decoded : ∃ bodyBytes, decodeFrame m r.raw = .ok ⟨r.envelope, bodyBytes⟩
  source : r.envelope.fromPeer = r.me.peerId
  kind_eq : r.envelope.kind = r.kind
  class_rule : r.kind = kindCall ∧ r.me.peerClass = .caller ∨
    (r.kind = kindResponse ∨ r.kind = kindError) ∧ r.me.peerClass = .service ∨
    r.kind = kindHeartbeat

/-- The awaits of a registered connection that holds no frame to forward. -/
inductive Quiet (me : Session) : Pc m → Prop
  | loop : Quiet me (.loop me)
  | reply (f : RouterFrame m) (after : After) : Quiet me (.reply me f after)
  | lookup (envelope : Envelope) (body : QueryBody) : Quiet me (.lookup me envelope body)
  | disconnect (envelope : Envelope) : Quiet me (.disconnect me envelope)
  | cleanup (result : Except RouterError Unit) : Quiet me (.cleanup me result)

theorem Quiet.session {me : Session} {pc : Pc m} (h : Quiet me pc) : pc.session = some me := by
  cases h <;> rfl

theorem Quiet.route {me : Session} {pc : Pc m} (h : Quiet me pc) : pc.route = none := by
  cases h <;> rfl

theorem Quiet.holdsFrame {me : Session} {pc : Pc m} (h : Quiet me pc) :
    pc.holdsFrame = false := by
  cases h <;> rfl

/-- The awaits at which the routing of a frame starts. -/
def StartsRoute (r : Route) (pc : Pc m) : Prop :=
  pc = .markHeartbeat r ∧ r.kind = kindHeartbeat ∨
    pc = .targetClass r ∧ (r.kind = kindCall ∨ r.kind = kindError) ∨
    pc = .targetExists r ∧ r.kind = kindResponse

/-! ### The transitions -/

/-- One step of a connection: the registry, the await and the events. -/
inductive Step (m : RmpSerde) (i : Input) :
    PeerRegistry → Pc m → PeerRegistry → Pc m → List (Event m) → Prop
  | handshake {reg : PeerRegistry} {pc : Pc m} (h : pc = .first ∨ ∃ res, pc = .returned res) :
      Step m i reg .accept reg pc []
  | first {reg : PeerRegistry} {pc : Pc m}
      (h : (∃ e b, pc = .insert e b) ∨ (∃ f, pc = .reject f) ∨ ∃ res, pc = .returned res) :
      Step m i reg .first reg pc (receivedEvent m i.conn i.next)
  | inserted {reg : PeerRegistry} {envelope : Envelope} {register : RegisterBody} {pc : Pc m}
      (hfree : reg.peers register.peerId = none)
      (h : (∃ f, pc = .ack ⟨register.peerId, register.peerClass⟩ f ∧
          f.envelope.kind = kindResponse ∧ f.envelope.msgId = envelope.msgId) ∨
        ∃ e, pc = .cleanup ⟨register.peerId, register.peerClass⟩ (.error e)) :
      Step m i reg (.insert envelope register)
        ⟨Function.update reg.peers register.peerId
          (some ⟨register.peerId, register.peerClass, i.conn, true, some i.instant⟩)⟩
        pc [.registered i.conn envelope register]
  | duplicate {reg : PeerRegistry} {envelope : Envelope} {register : RegisterBody} {pc : Pc m}
      (h : (∃ f, pc = .reject f) ∨ ∃ res, pc = .returned res) :
      Step m i reg (.insert envelope register) reg pc []
  | rejected {reg : PeerRegistry} {f : RouterFrame m} {res : Except RouterError Unit}
      {evs : List (Event m)} (hevs : evs = [.wrote i.conn i.conn (.generated f)] ∨
        evs = [.sendFailed i.conn i.conn]) :
      Step m i reg (.reject f) reg (.returned res) evs
  | acked {reg : PeerRegistry} {me : Session} {f : RouterFrame m} :
      Step m i reg (.ack me f) reg (.loop me) [.wrote i.conn i.conn (.generated f)]
  | ownSendFailed {reg : PeerRegistry} {pc : Pc m} {me : Session}
      (h : ∃ f, pc = .ack me f ∨ ∃ after, pc = .reply me f after) :
      Step m i reg pc reg (.cleanup me (.error .webSocket)) [.sendFailed i.conn i.conn]
  | message {reg : PeerRegistry} {me : Session} {pc : Pc m} (h : Quiet me pc) :
      Step m i reg (.loop me) reg pc (receivedEvent m i.conn i.next)
  | routed {reg : PeerRegistry} {r : Route} {pc : Pc m} (hr : r.Sound m)
      (h : StartsRoute r pc) :
      Step m i reg (.loop r.me) reg pc [.received i.conn r.raw]
  | replied {reg : PeerRegistry} {me : Session} {f : RouterFrame m} {after : After} {pc : Pc m}
      (h : after = .loop ∧ pc = .loop me ∨ after = .finish ∧ pc = .cleanup me (.ok ())) :
      Step m i reg (.reply me f after) reg pc [.wrote i.conn i.conn (.generated f)]
  | answered {reg : PeerRegistry} {me : Session} {pc pc' : Pc m}
      (h : (∃ e b, pc = .lookup me e b) ∨ ∃ r, r.me = me ∧
        (pc = .heartbeatTarget r ∨ pc = .targetClass r ∨ pc = .targetExists r ∨
          pc = .targetSender r)) (h' : Quiet me pc') :
      Step m i reg pc reg pc' []
  | marked {reg : PeerRegistry} {r : Route} :
      Step m i reg (.markHeartbeat r) (reg.markHeartbeat r.me.peerId i.instant)
        (.heartbeatTarget r) []
  | heartbeatRouted {reg : PeerRegistry} {r : Route}
      (h : reg.snapshotPeerExists r.envelope.toPeer = true) :
      Step m i reg (.heartbeatTarget r) reg (.targetExists r) []
  | delivered {reg : PeerRegistry} {r : Route}
      (h : decideRouteTarget r.kind (reg.snapshotPeerClass r.envelope.toPeer) = .deliver) :
      Step m i reg (.targetClass r) reg (.targetExists r) []
  | found {reg : PeerRegistry} {r : Route}
      (h : reg.snapshotPeerExists r.envelope.toPeer = true) :
      Step m i reg (.targetExists r) reg (.targetSender r) []
  | resolved {reg : PeerRegistry} {r : Route} {record : PeerRecord}
      (h : reg.peers r.envelope.toPeer = some record) :
      Step m i reg (.targetSender r) reg (.forward r record.sender) []
  | forwarded {reg : PeerRegistry} {r : Route} {target : PeerSender} :
      Step m i reg (.forward r target) reg (.loop r.me)
        [.wrote i.conn target (.forwarded r.raw)]
  | forwardFailed {reg : PeerRegistry} {r : Route} {target : PeerSender} (h : i.ok = false) :
      Step m i reg (.forward r target) reg (.evict r target) [.sendFailed i.conn target]
  | evicted {reg : PeerRegistry} {r : Route} {target : PeerSender} {pc : Pc m}
      (h : Quiet r.me pc) :
      Step m i reg (.evict r target) (reg.removeByPeerId r.envelope.toPeer).1 pc
        [.removed i.conn r.envelope.toPeer target (reg.peers r.envelope.toPeer)]
  | disconnected {reg : PeerRegistry} {me : Session} {envelope : Envelope} {pc : Pc m}
      (h : (∃ f, pc = .reply me f .finish) ∨ ∃ res, pc = .cleanup me res) :
      Step m i reg (.disconnect me envelope) (reg.removeByPeerId me.peerId).1 pc
        [.removed i.conn me.peerId i.conn (reg.peers me.peerId)]
  | cleaned {reg : PeerRegistry} {me : Session} {res : Except RouterError Unit} :
      Step m i reg (.cleanup me res) (reg.removeByPeerId me.peerId).1 (.returned res)
        [.removed i.conn me.peerId i.conn (reg.peers me.peerId)]

/-- The transitions after which a connection holds a frame. -/
inductive Routing (m : RmpSerde) (i : Input) (reg : PeerRegistry) :
    Pc m → PeerRegistry → Pc m → List (Event m) → Prop
  | routed {r : Route} {pc : Pc m} (hr : r.Sound m)
      (h : StartsRoute r pc) :
      Routing m i reg (.loop r.me) reg pc [.received i.conn r.raw]
  | marked {r : Route} :
      Routing m i reg (.markHeartbeat r) (reg.markHeartbeat r.me.peerId i.instant)
        (.heartbeatTarget r) []
  | heartbeatRouted {r : Route} :
      Routing m i reg (.heartbeatTarget r) reg (.targetExists r) []
  | delivered {r : Route}
      (h : decideRouteTarget r.kind (reg.snapshotPeerClass r.envelope.toPeer) = .deliver) :
      Routing m i reg (.targetClass r) reg (.targetExists r) []
  | found {r : Route} : Routing m i reg (.targetExists r) reg (.targetSender r) []
  | resolved {r : Route} {record : PeerRecord}
      (h : reg.peers r.envelope.toPeer = some record) :
      Routing m i reg (.targetSender r) reg (.forward r record.sender) []
  | forwardFailed {r : Route} {target : PeerSender} (h : i.ok = false) :
      Routing m i reg (.forward r target) reg (.evict r target) [.sendFailed i.conn target]

theorem Step.routing {i : Input} {reg reg' : PeerRegistry} {pc pc' : Pc m}
    {evs : List (Event m)} (h : Step m i reg pc reg' pc' evs) (hpc' : pc'.holdsFrame = true) :
    Routing m i reg pc reg' pc' evs := by
  cases h with
  | routed hr h => exact .routed hr h
  | marked => exact .marked
  | heartbeatRouted => exact .heartbeatRouted
  | delivered h => exact .delivered h
  | found => exact .found
  | resolved h => exact .resolved h
  | forwardFailed h => exact .forwardFailed h
  | first hpc => obtain ⟨e, b, rfl⟩ | ⟨f, rfl⟩ | ⟨res, rfl⟩ := hpc <;> cases hpc'
  | handshake hpc => obtain rfl | ⟨res, rfl⟩ := hpc <;> cases hpc'
  | inserted _ hpc => obtain ⟨f, rfl, -, -⟩ | ⟨e, rfl⟩ := hpc <;> cases hpc'
  | duplicate hpc => obtain ⟨f, rfl⟩ | ⟨res, rfl⟩ := hpc <;> cases hpc'
  | replied hpc => obtain ⟨-, rfl⟩ | ⟨-, rfl⟩ := hpc <;> cases hpc'
  | disconnected hpc => obtain ⟨f, rfl⟩ | ⟨res, rfl⟩ := hpc <;> cases hpc'
  | message hq | evicted hq => rw [hq.holdsFrame] at hpc'; cases hpc'
  | answered _ hq => rw [hq.holdsFrame] at hpc'; cases hpc'
  | _ => cases hpc'

/-! ### The handlers take these transitions -/

/-- A reply, or the error of its encoding. -/
theorem orLeave_reply (me : Session) (x : Except RouterError (RouterFrame m)) (after : After) :
    (∃ f, orLeave m (some me) (do let f ← x; .ok (.reply me f after)) = .reply me f after) ∨
      ∃ e, orLeave m (some me) (do let f ← x; .ok (.reply me f after)) = .cleanup me (.error e) := by
  cases x with
  | ok f => exact Or.inl ⟨f, rfl⟩
  | error e => exact Or.inr ⟨e, rfl⟩

theorem quiet_orLeave_reply (me : Session) (x : Except RouterError (RouterFrame m))
    (after : After) : Quiet me (orLeave m (some me) (do let f ← x; .ok (.reply me f after))) := by
  rcases orLeave_reply me x after with ⟨f, h⟩ | ⟨e, h⟩
  · rw [h]; exact Quiet.reply f after
  · rw [h]; exact Quiet.cleanup _

/-- A reply whose body has to be encoded first. -/
theorem orLeave_body_reply (me : Session) (x : Except RouterError Bytes)
    (k : Bytes → Except RouterError (RouterFrame m)) (after : After) :
    (∃ f, orLeave m (some me) (do let body ← x; let f ← k body; .ok (.reply me f after))
        = .reply me f after) ∨
      ∃ e, orLeave m (some me) (do let body ← x; let f ← k body; .ok (.reply me f after))
        = .cleanup me (.error e) := by
  cases x with
  | error e => exact Or.inr ⟨e, rfl⟩
  | ok body =>
    rcases orLeave_reply me (k body) after with ⟨f, h⟩ | ⟨e, h⟩
    · exact Or.inl ⟨f, h⟩
    · exact Or.inr ⟨e, h⟩

theorem quiet_orLeave_body_reply (me : Session) (x : Except RouterError Bytes)
    (k : Bytes → Except RouterError (RouterFrame m)) (after : After) :
    Quiet me
      (orLeave m (some me) (do let body ← x; let f ← k body; .ok (.reply me f after))) := by
  rcases orLeave_body_reply me x k after with ⟨f, h⟩ | ⟨e, h⟩
  · rw [h]; exact Quiet.reply f after
  · rw [h]; exact Quiet.cleanup _

theorem quiet_replyError (now : Float64) (me : Session) (msgId code message : String) :
    Quiet me (orLeave m (some me) (replyError m now me msgId code message)) :=
  quiet_orLeave_reply me _ _

/-- A decoded frame leads to a quiet await, or its routing starts: the source check, the class
check of the handler and the kind it passes on are what `Route.Sound` asks for. -/
theorem onFrame_cases (now : Float64) (me : Session) {raw : Bytes} {parts : FrameParts}
    (hd : decodeFrame m raw = .ok parts) :
    Quiet me (orLeave m (some me) (onFrame m now me raw parts)) ∨
      ∃ r : Route, r.me = me ∧ r.raw = raw ∧ r.Sound m ∧
        StartsRoute r (orLeave m (some me) (onFrame m now me raw parts)) := by
  -- one case for each branch of the dispatch, in the order of the source
  unfold onFrame
  dsimp only
  split_ifs with hfrom hquery hcall hresponse herror hheartbeat hdisconnect
  · exact Or.inl (quiet_replyError ..)
  · unfold handleQuery
    cases decodeQueryBody m parts.bodyBytes with
    | error e => exact Or.inl (Quiet.cleanup _)
    | ok body => exact Or.inl (Quiet.lookup _ _)
  · unfold handleCall
    split_ifs with hclass
    · exact Or.inl (quiet_replyError ..)
    · exact Or.inr ⟨⟨me, parts.envelope, raw, "call"⟩, rfl, rfl,
        ⟨⟨parts.bodyBytes, hd⟩, not_not.mp hfrom, hcall, Or.inl ⟨rfl, not_not.mp hclass⟩⟩,
        Or.inr (Or.inl ⟨rfl, Or.inl rfl⟩)⟩
  · unfold handleResponse
    split_ifs with hclass
    · exact Or.inl (quiet_replyError ..)
    · exact Or.inr ⟨⟨me, parts.envelope, raw, "response"⟩, rfl, rfl,
        ⟨⟨parts.bodyBytes, hd⟩, not_not.mp hfrom, hresponse,
          Or.inr (Or.inl ⟨Or.inl rfl, not_not.mp hclass⟩)⟩,
        Or.inr (Or.inr ⟨rfl, rfl⟩)⟩
  · unfold handleError
    split_ifs with hclass
    · exact Or.inl (quiet_replyError ..)
    · exact Or.inr ⟨⟨me, parts.envelope, raw, "error"⟩, rfl, rfl,
        ⟨⟨parts.bodyBytes, hd⟩, not_not.mp hfrom, herror,
          Or.inr (Or.inl ⟨Or.inr rfl, not_not.mp hclass⟩)⟩,
        Or.inr (Or.inl ⟨rfl, Or.inr rfl⟩)⟩
  · exact Or.inr ⟨⟨me, parts.envelope, raw, "heartbeat"⟩, rfl, rfl,
      ⟨⟨parts.bodyBytes, hd⟩, not_not.mp hfrom, hheartbeat, Or.inr (Or.inr rfl)⟩,
      Or.inl ⟨rfl, rfl⟩⟩
  · exact Or.inl (Quiet.disconnect _)
  · exact Or.inl (quiet_replyError ..)

/-- One iteration of the message loop is a `message` or a `routed` transition. -/
theorem step_onNext (i : Input) (reg : PeerRegistry) (me : Session) :
    Step m i reg (.loop me) reg (onNext m i.now me i.next) (receivedEvent m i.conn i.next) := by
  unfold onNext
  split
  · exact Step.message (Quiet.cleanup _)
  · exact Step.message (Quiet.cleanup _)
  · rename_i raw hnext
    rw [hnext]
    unfold onBinary
    cases hd : decodeFrame m raw with
    | error e => exact hnext ▸ Step.message (Quiet.cleanup _)
    | ok parts =>
      rcases onFrame_cases i.now me hd with hq | ⟨r, rfl, rfl, hr, hs⟩
      · exact hnext ▸ Step.message hq
      · exact Step.routed hr hs
  · exact Step.message (Quiet.cleanup _)
  · exact Step.message Quiet.loop
  · exact Step.message Quiet.loop
  · exact Step.message (quiet_orLeave_reply ..)
  · exact Step.message (quiet_orLeave_reply ..)

/-- The first message leads to a registration, a rejection or the end of the handler. -/
theorem onFirst_cases (now : Float64) (next : Next) :
    (∃ e b, onFirst m now next = .insert e b) ∨ (∃ f, onFirst m now next = .reject f) ∨
      ∃ res, onFirst m now next = .returned res := by
  unfold onFirst
  split
  · rename_i message
    cases h : onFirstMessage m now message with
    | error e => exact Or.inr (Or.inr ⟨_, rfl⟩)
    | ok pc =>
      -- peel the computation apart: bytes, frame, body and the checks all succeeded
      unfold onFirstMessage at h
      obtain ⟨bytes, -, h⟩ := bind_eq_ok.mp h
      obtain ⟨frame, -, h⟩ := bind_eq_ok.mp h
      split_ifs at h with hkind
      · obtain ⟨f, -, h⟩ := bind_eq_ok.mp h
        obtain rfl := Except.ok.inj h
        exact Or.inr (Or.inl ⟨f, rfl⟩)
      · obtain ⟨register, -, h⟩ := bind_eq_ok.mp h
        obtain ⟨_, -, h⟩ := bind_eq_ok.mp h
        obtain rfl := Except.ok.inj h
        exact Or.inl ⟨_, _, rfl⟩
  · exact Or.inr (Or.inr ⟨_, rfl⟩)
  · exact Or.inr (Or.inr ⟨_, rfl⟩)

/-- The frame `send_frame` builds has the given envelope. -/
theorem envelope_of_sendFrame {envelope : Envelope} {body : Bytes}
    {h : envelope.fromPeer = routerPeerId} {f : RouterFrame m}
    (hf : sendFrame m envelope body h = .ok f) : f.envelope = envelope := by
  unfold sendFrame at hf
  split at hf
  · obtain rfl := Except.ok.inj hf
    rfl
  · cases hf

theorem onInserted_cases (now : Float64) (envelope : Envelope) (register : RegisterBody) :
    (∃ f, onInserted m now envelope register = .ack ⟨register.peerId, register.peerClass⟩ f ∧
        f.envelope.kind = kindResponse ∧ f.envelope.msgId = envelope.msgId) ∨
      ∃ e, onInserted m now envelope register
        = .cleanup ⟨register.peerId, register.peerClass⟩ (.error e) := by
  unfold onInserted
  cases h : sendRegisterAck m now envelope.msgId register with
  | error e => exact Or.inr ⟨e, rfl⟩
  | ok f =>
    unfold sendRegisterAck at h
    obtain ⟨body, -, h⟩ := bind_eq_ok.mp h
    have hf := envelope_of_sendFrame h
    exact Or.inl ⟨f, rfl, by rw [hf]; rfl, by rw [hf]; rfl⟩

theorem onDuplicate_cases (now : Float64) (envelope : Envelope) (peerId : String) :
    (∃ f, onDuplicate m now envelope peerId = .reject f) ∨
      ∃ res, onDuplicate m now envelope peerId = .returned res := by
  unfold onDuplicate
  cases sendErrorAndClose m now envelope.msgId "duplicate_peer_id"
      ("peer_id " ++ peerId ++ " is already live") with
  | error e => exact Or.inr ⟨_, rfl⟩
  | ok f => exact Or.inl ⟨f, rfl⟩

/-- **Inversion**: every step of a connection is one of the transitions. -/
theorem step_of_connStep {i : Input} {reg reg' : PeerRegistry} {pc pc' : Pc m}
    {evs : List (Event m)} (h : connStep m i reg pc = some (reg', pc', evs)) :
    Step m i reg pc reg' pc' evs := by
  cases pc with
  | accept =>
    simp only [connStep, Option.some.injEq, Prod.mk.injEq] at h
    obtain ⟨rfl, rfl, rfl⟩ := h
    refine Step.handshake ?_
    split_ifs
    · exact Or.inl rfl
    · exact Or.inr ⟨_, rfl⟩
  | first =>
    simp only [connStep, Option.some.injEq, Prod.mk.injEq] at h
    obtain ⟨rfl, rfl, rfl⟩ := h
    exact Step.first (onFirst_cases ..)
  | insert envelope register =>
    simp only [connStep] at h
    split at h
    · rename_i hok
      obtain ⟨hfree, rfl⟩ := PeerRegistry.insertLivePeer_eq_ok.mp hok
      simp only [Option.some.injEq, Prod.mk.injEq] at h
      obtain ⟨rfl, rfl, rfl⟩ := h
      exact Step.inserted hfree (onInserted_cases ..)
    · simp only [Option.some.injEq, Prod.mk.injEq] at h
      obtain ⟨rfl, rfl, rfl⟩ := h
      exact Step.duplicate (onDuplicate_cases ..)
    · simp only [Option.some.injEq, Prod.mk.injEq] at h
      obtain ⟨rfl, rfl, rfl⟩ := h
      exact Step.duplicate (Or.inr ⟨_, rfl⟩)
  | reject f =>
    simp only [connStep] at h
    split_ifs at h <;> simp only [Option.some.injEq, Prod.mk.injEq] at h <;>
      obtain ⟨rfl, rfl, rfl⟩ := h
    · exact Step.rejected (Or.inl rfl)
    · exact Step.rejected (Or.inr rfl)
  | ack me f =>
    simp only [connStep] at h
    split_ifs at h <;> simp only [Option.some.injEq, Prod.mk.injEq] at h <;>
      obtain ⟨rfl, rfl, rfl⟩ := h
    · exact Step.acked
    · exact Step.ownSendFailed ⟨f, Or.inl rfl⟩
  | loop me =>
    simp only [connStep, Option.some.injEq, Prod.mk.injEq] at h
    obtain ⟨rfl, rfl, rfl⟩ := h
    exact step_onNext i reg me
  | reply me f after =>
    simp only [connStep] at h
    split_ifs at h <;> simp only [Option.some.injEq, Prod.mk.injEq] at h <;>
      obtain ⟨rfl, rfl, rfl⟩ := h
    · refine Step.replied ?_
      cases after with
      | loop => exact Or.inl ⟨rfl, rfl⟩
      | finish => exact Or.inr ⟨rfl, rfl⟩
    · exact Step.ownSendFailed ⟨f, Or.inr ⟨after, rfl⟩⟩
  | lookup me envelope body =>
    simp only [connStep, Option.some.injEq, Prod.mk.injEq] at h
    obtain ⟨rfl, rfl, rfl⟩ := h
    refine Step.answered (Or.inl ⟨envelope, body, rfl⟩) ?_
    cases body <;> exact quiet_orLeave_body_reply ..
  | markHeartbeat r =>
    simp only [connStep, Option.some.injEq, Prod.mk.injEq] at h
    obtain ⟨rfl, rfl, rfl⟩ := h
    exact Step.marked
  | heartbeatTarget r =>
    simp only [connStep, Option.some.injEq, Prod.mk.injEq] at h
    obtain ⟨rfl, rfl, rfl⟩ := h
    unfold onHeartbeatTarget
    split_ifs with hx
    · exact Step.heartbeatRouted hx
    · exact Step.answered (Or.inr ⟨r, rfl, Or.inl rfl⟩) (quiet_orLeave_body_reply ..)
  | targetClass r =>
    simp only [connStep, Option.some.injEq, Prod.mk.injEq] at h
    obtain ⟨rfl, rfl, rfl⟩ := h
    unfold onTargetClass
    split
    · rename_i hd
      exact Step.delivered hd
    · exact Step.answered (Or.inr ⟨r, rfl, Or.inr (Or.inl rfl)⟩) (quiet_replyError ..)
  | targetExists r =>
    simp only [connStep, Option.some.injEq, Prod.mk.injEq] at h
    obtain ⟨rfl, rfl, rfl⟩ := h
    unfold onTargetExists
    split_ifs with hx
    · exact Step.found hx
    · exact Step.answered (Or.inr ⟨r, rfl, Or.inr (Or.inr (Or.inl rfl))⟩) (quiet_replyError ..)
  | targetSender r =>
    simp only [connStep, Option.some.injEq, Prod.mk.injEq] at h
    obtain ⟨rfl, rfl, rfl⟩ := h
    unfold PeerRegistry.senderByPeerId
    cases hx : reg.peers r.envelope.toPeer with
    | none =>
      exact Step.answered (Or.inr ⟨r, rfl, Or.inr (Or.inr (Or.inr rfl))⟩) (quiet_replyError ..)
    | some record => exact Step.resolved hx
  | forward r target =>
    simp only [connStep] at h
    split_ifs at h with hok <;> simp only [Option.some.injEq, Prod.mk.injEq] at h <;>
      obtain ⟨rfl, rfl, rfl⟩ := h
    · exact Step.forwarded
    · exact Step.forwardFailed (Bool.not_eq_true _ ▸ hok)
  | evict r target =>
    simp only [connStep, Option.some.injEq, Prod.mk.injEq] at h
    obtain ⟨rfl, rfl, rfl⟩ := h
    exact Step.evicted (quiet_replyError ..)
  | disconnect me envelope =>
    simp only [connStep, Option.some.injEq, Prod.mk.injEq] at h
    obtain ⟨rfl, rfl, rfl⟩ := h
    refine Step.disconnected ?_
    rcases orLeave_body_reply me _ _ .finish with h | ⟨e, h⟩
    · exact Or.inl h
    · exact Or.inr ⟨_, h⟩
  | cleanup me res =>
    simp only [connStep, Option.some.injEq, Prod.mk.injEq] at h
    obtain ⟨rfl, rfl, rfl⟩ := h
    exact Step.cleaned
  | returned res => simp [connStep] at h

/-- A step of the router moves one connection. -/
theorem step_of_serve {i : Input} {s s' : State m} {evs : List (Event m)}
    (h : (serve m).step i s = some (s', evs)) :
    ∃ pc, Step m i s.registry (s.conns i.conn) s'.registry pc evs ∧
      s'.conns = Function.update s.conns i.conn pc := by
  obtain ⟨⟨reg, pc, evs'⟩, hc, hs⟩ := Option.map_eq_some_iff.mp h
  simp only [Prod.mk.injEq] at hs
  obtain ⟨rfl, rfl⟩ := hs
  exact ⟨pc, step_of_connStep hc, rfl⟩

/-- **The invariant rule for connections**: what each connection holds, by `f`, has the property
`Q` of the history when it had it before the step or acquires it in the step. -/
theorem conn_invariant {α : Type} {C : State m → List (Event m) → Input → Prop} {s : State m}
    {tr : List (Event m)} (f : Pc m → Option α) (Q : List (Event m) → ConnId → α → Prop)
    (hinit : f .accept = none)
    (hmono : ∀ {tr : List (Event m)} {c : ConnId} {a : α} (evs : List (Event m)), Q tr c a →
      Q (tr ++ evs) c a)
    (hstep : ∀ {i : Input} {s : State m} {reg' : PeerRegistry} {pc : Pc m}
      {tr evs : List (Event m)} {a : α}, (serve m).Run C s tr → C s tr i →
      Step m i s.registry (s.conns i.conn) reg' pc evs → f pc = some a →
      f (s.conns i.conn) = some a ∨ Q (tr ++ evs) i.conn a)
    (h : (serve m).Run C s tr) : ∀ c a, f (s.conns c) = some a → Q tr c a := by
  refine h.invariant (P := fun s tr => ∀ c a, f (s.conns c) = some a → Q tr c a) ?_ ?_
  · intro c a ha
    change f .accept = some a at ha
    rw [hinit] at ha
    cases ha
  · intro s s' tr evs i hrun hguard hs ih c a ha
    obtain ⟨pc, hpc, hconns⟩ := step_of_serve hs
    rw [hconns, Function.update_apply] at ha
    split_ifs at ha with hc
    · subst hc
      rcases hstep hrun hguard hpc ha with hold | hnew
      · exact hmono evs (ih i.conn a hold)
      · exact hnew
    · exact hmono evs (ih c a ha)

end Multifrost.Router
