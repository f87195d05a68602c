import Multifrost.Router.Safety.Disposition
import Multifrost.Router.Safety.Registry

/-!
# Queries and routing

A caller asks for its target before it calls it.  `handle_query` answers from one lookup in the
registry, `handle_call` decides from three others, and a `peer.get` reads the field `connected` where
a `peer.exists` does not.  As long as no other connection moves in between, the answers agree with
each other and with what becomes of a call, because every entry of the registry is connected.

`CallStage` lists where a connection that handles a call alone can be, with what it has done.
-/

namespace Multifrost.Router

open TransitionSystem

variable {m : RmpSerde} {c : ConnId} {me : Session} {raw : Bytes} {parts : FrameParts}

/-! ### Answers and outcomes -/

/-- The fields of the answer to a query. -/
structure Answer where
  exist : Bool
  peerClass : Option PeerClass
  connected : Bool

def QueryBody.peerId : QueryBody → String
  | .peerExists peerId => peerId
  | .peerGet peerId => peerId

/-- The body of the response to a query. -/
def Answer.encode (m : RmpSerde) (a : Answer) : QueryBody → Except RouterError Bytes
  | .peerExists peerId => encodeQueryExistsResponse m peerId a.exist a.peerClass a.connected
  | .peerGet peerId => encodeQueryGetResponse m peerId a.exist a.peerClass a.connected

/-- Only the task of `c` moves; it does not read, and what it sends on its own sink is sent. -/
def Alone (c : ConnId) (s : State m) (i : Input) : Prop := i.conn = c ∧ Undisturbed c s i

instance (c : ConnId) (s : State m) (i : Input) : Decidable (Alone c s i) :=
  inferInstanceAs (Decidable (_ ∧ _))

/-- An error of the router with a code, for the frame with an id. -/
def IsError (msgId code : String) (f : RouterFrame m) : Prop :=
  f.envelope.kind = kindError ∧ f.envelope.msgId = msgId ∧
    ∃ message, m.errorBodyToVecNamed (buildErrorBody code message) = .ok f.body

/-- The frame was sent to the sink of its target, or that send failed, the target was removed and
the sender was told so. -/
def Delivers (reg : PeerRegistry) (c : ConnId) (raw : Bytes) (parts : FrameParts)
    (tr : List (Event m)) (s' : State m) : Prop :=
  ∃ sink, reg.senderByPeerId parts.envelope.toPeer = some sink ∧
    (writesBy c tr = [(sink, .forwarded raw)] ∨
      .sendFailed c sink ∈ tr ∧ s'.registry.peers parts.envelope.toPeer = none ∧
      ∃ f, IsError parts.envelope.msgId "peer_not_found" f ∧
        writesBy c tr = [(c, .generated f)])

/-- The frame was answered with an error, and sent to nobody. -/
def RejectedWith (code : String) (c : ConnId) (parts : FrameParts) (tr : List (Event m)) : Prop :=
  (∀ sink, .sendFailed c sink ∉ tr) ∧
    ∃ f, IsError parts.envelope.msgId code f ∧ writesBy c tr = [(c, .generated f)]

/-- The two codes of a rejection can be told from the bytes. -/
def RmpSerde.TellsCodes (m : RmpSerde) : Prop :=
  ∀ message message', m.errorBodyToVecNamed (buildErrorBody "peer_not_found" message) ≠
    m.errorBodyToVecNamed (buildErrorBody "invalid_target_class" message')

/-! ### Frames of the router -/

theorem body_of_sendFrame {envelope : Envelope} {body : Bytes}
    {h : envelope.fromPeer = routerPeerId} {f : RouterFrame m}
    (hsend : sendFrame m envelope body h = .ok f) : f.body = body := by
  unfold sendFrame at hsend
  split at hsend
  · obtain rfl := Except.ok.inj hsend
    rfl
  · cases hsend

theorem sendFrame_ok (hencodes : m.Encodes) (envelope : Envelope) (body : Bytes)
    (h : envelope.fromPeer = routerPeerId) :
    ∃ f, sendFrame m envelope body h = .ok f ∧ f.envelope = envelope ∧ f.body = body := by
  have hbuilds : Builds envelope (sendFrame m envelope body h) := builds_sendFrame
  rcases hbuilds with ⟨f, hf, henvelope⟩ | ⟨hno, -⟩
  · exact ⟨f, hf, henvelope, body_of_sendFrame hf⟩
  · exact absurd hencodes hno

theorem reply_of_replyError (hencodes : m.Encodes) (now : Float64) (me : Session)
    (msgId code message : String) :
    ∃ f, orLeave m (some me) (replyError m now me msgId code message) = .reply me f .loop ∧
      IsError msgId code f := by
  obtain ⟨bytes, hbytes⟩ := hencodes.errorBody (buildErrorBody code message)
  obtain ⟨f, hf, henvelope, hbody⟩ := sendFrame_ok hencodes
    (buildEnvelope kindError msgId routerPeerId routerPeerId now) bytes rfl
  have hencoded : encodeErrorBody m (buildErrorBody code message) = .ok bytes := by
    rw [encodeErrorBody, hbytes]
    rfl
  refine ⟨f, ?_, ?_⟩
  · unfold replyError sendPeerError sendError
    rw [hencoded]
    dsimp only [bind, Except.bind]
    rw [hf]
    rfl
  · rw [IsError, henvelope, hbody]
    exact ⟨rfl, rfl, message, hbytes⟩

/-! ### A call alone -/

/-- Where a connection is that handles a call alone, in what state the registry is, and what has
happened since the frame was read. -/
inductive CallStage (reg : PeerRegistry) (c : ConnId) (me : Session) (raw : Bytes)
    (parts : FrameParts) : Pc m → PeerRegistry → List (Event m) → Prop
  | asksClass : CallStage reg c me raw parts (.targetClass (routeOf me raw parts "call")) reg []
  | asksExists (h : reg.snapshotPeerClass parts.envelope.toPeer = some .service) :
      CallStage reg c me raw parts (.targetExists (routeOf me raw parts "call")) reg []
  | asksSender (h : reg.snapshotPeerClass parts.envelope.toPeer = some .service) :
      CallStage reg c me raw parts (.targetSender (routeOf me raw parts "call")) reg []
  | sends {sink : PeerSender} (h : reg.snapshotPeerClass parts.envelope.toPeer = some .service)
      (hsink : reg.senderByPeerId parts.envelope.toPeer = some sink) :
      CallStage reg c me raw parts (.forward (routeOf me raw parts "call") sink) reg []
  | delivered {sink : PeerSender} (h : reg.snapshotPeerClass parts.envelope.toPeer = some .service)
      (hsink : reg.senderByPeerId parts.envelope.toPeer = some sink) :
      CallStage reg c me raw parts (.loop me) reg [.wrote c sink (.forwarded raw)]
  | removes {sink : PeerSender} (h : reg.snapshotPeerClass parts.envelope.toPeer = some .service)
      (hsink : reg.senderByPeerId parts.envelope.toPeer = some sink) :
      CallStage reg c me raw parts (.evict (routeOf me raw parts "call") sink) reg
        [.sendFailed c sink]
  | regrets {sink : PeerSender} {f : RouterFrame m} {record : Option PeerRecord}
      (h : reg.snapshotPeerClass parts.envelope.toPeer = some .service)
      (hsink : reg.senderByPeerId parts.envelope.toPeer = some sink)
      (hf : IsError parts.envelope.msgId "peer_not_found" f) :
      CallStage reg c me raw parts (.reply me f .loop)
        (reg.removeByPeerId parts.envelope.toPeer).1
        [.sendFailed c sink, .removed c parts.envelope.toPeer sink record]
  | undelivered {sink : PeerSender} {f : RouterFrame m} {record : Option PeerRecord}
      (h : reg.snapshotPeerClass parts.envelope.toPeer = some .service)
      (hsink : reg.senderByPeerId parts.envelope.toPeer = some sink)
      (hf : IsError parts.envelope.msgId "peer_not_found" f) :
      CallStage reg c me raw parts (.loop me) (reg.removeByPeerId parts.envelope.toPeer).1
        [.sendFailed c sink, .removed c parts.envelope.toPeer sink record,
          .wrote c c (.generated f)]
  | rejects {f : RouterFrame m} {code message : String}
      (h : decideRouteTarget kindCall (reg.snapshotPeerClass parts.envelope.toPeer) =
        .reject code message)
      (hf : IsError parts.envelope.msgId code f) :
      CallStage reg c me raw parts (.reply me f .loop) reg []
  | rejected {f : RouterFrame m} {code message : String}
      (h : decideRouteTarget kindCall (reg.snapshotPeerClass parts.envelope.toPeer) =
        .reject code message)
      (hf : IsError parts.envelope.msgId code f) :
      CallStage reg c me raw parts (.loop me) reg [.wrote c c (.generated f)]

theorem peers_of_snapshotPeerClass {reg : PeerRegistry} {x : String} {peerClass : PeerClass}
    (h : reg.snapshotPeerClass x = some peerClass) :
    ∃ record, reg.peers x = some record ∧ record.peerClass = peerClass :=
  Option.map_eq_some_iff.mp h

/-- A call is delivered to services only. -/
theorem service_of_deliver {found : Option PeerClass}
    (h : decideRouteTarget kindCall found = .deliver) : found = some .service := by
  cases found with
  | none => cases h
  | some peerClass =>
    cases peerClass with
    | caller => cases h
    | service => rfl

/-- **One await** of a connection that handles a call alone. -/
theorem CallStage.step (hencodes : m.Encodes) {reg reg₁ reg₂ : PeerRegistry} {pc pc' : Pc m}
    {tr evs : List (Event m)} {i : Input} (h : CallStage reg c me raw parts pc reg₁ tr)
    (hc : i.conn = c) (hread : pc.reading = false) (hok : pc.answering = true → i.ok = true)
    (hstep : connStep m i reg₁ pc = some (reg₂, pc', evs)) :
    CallStage reg c me raw parts pc' reg₂ (tr ++ evs) := by
  subst hc
  cases h with
  | asksClass =>
    simp only [connStep, Option.some.injEq, Prod.mk.injEq] at hstep
    obtain ⟨rfl, rfl, rfl⟩ := hstep
    unfold onTargetClass
    cases hdecision : decideRouteTarget (routeOf me raw parts "call").kind
        (reg.snapshotPeerClass (routeOf me raw parts "call").envelope.toPeer) with
    | deliver => exact .asksExists (service_of_deliver hdecision)
    | reject code message =>
      obtain ⟨f, hpc, hf⟩ := reply_of_replyError hencodes i.now me parts.envelope.msgId code message
      dsimp only [routeOf]
      rw [hpc]
      exact .rejects hdecision hf
  | asksExists hclass =>
    simp only [connStep, Option.some.injEq, Prod.mk.injEq] at hstep
    obtain ⟨rfl, rfl, rfl⟩ := hstep
    obtain ⟨record, hrecord, -⟩ := peers_of_snapshotPeerClass hclass
    have hexists : reg.snapshotPeerExists (routeOf me raw parts "call").envelope.toPeer = true := by
      rw [PeerRegistry.snapshotPeerExists, routeOf, hrecord]
      rfl
    rw [hexists]
    exact .asksSender hclass
  | asksSender hclass =>
    simp only [connStep, Option.some.injEq, Prod.mk.injEq] at hstep
    obtain ⟨rfl, rfl, rfl⟩ := hstep
    obtain ⟨record, hrecord, -⟩ := peers_of_snapshotPeerClass hclass
    have hsink : reg.senderByPeerId (routeOf me raw parts "call").envelope.toPeer =
        some record.sender := by
      rw [PeerRegistry.senderByPeerId, routeOf, hrecord]
      rfl
    rw [hsink]
    exact .sends hclass hsink
  | @sends sink hclass hsink =>
    simp only [connStep] at hstep
    split_ifs at hstep
    · simp only [Option.some.injEq, Prod.mk.injEq] at hstep
      obtain ⟨rfl, rfl, rfl⟩ := hstep
      exact .delivered hclass hsink
    · simp only [Option.some.injEq, Prod.mk.injEq] at hstep
      obtain ⟨rfl, rfl, rfl⟩ := hstep
      exact .removes hclass hsink
  | @removes sink hclass hsink =>
    simp only [connStep, Option.some.injEq, Prod.mk.injEq] at hstep
    obtain ⟨rfl, rfl, rfl⟩ := hstep
    obtain ⟨f, hpc, hf⟩ := reply_of_replyError hencodes i.now me parts.envelope.msgId
      "peer_not_found" ("call" ++ " target disconnected")
    dsimp only [onEvicted, routeOf]
    rw [hpc]
    exact .regrets hclass hsink hf
  | regrets hclass hsink hf =>
    simp only [connStep, hok rfl, if_true, Option.some.injEq, Prod.mk.injEq] at hstep
    obtain ⟨rfl, rfl, rfl⟩ := hstep
    exact .undelivered hclass hsink hf
  | rejects hdecision hf =>
    simp only [connStep, hok rfl, if_true, Option.some.injEq, Prod.mk.injEq] at hstep
    obtain ⟨rfl, rfl, rfl⟩ := hstep
    exact .rejected hdecision hf
  -- the connection is done and would read
  | delivered hclass hsink => cases hread
  | undelivered hclass hsink hf => cases hread
  | rejected hdecision hf => cases hread

/-! ### A frame that is handled alone -/

/-- A registered connection reads a frame of its own in `s` and handles it alone as far as `s'`. -/
structure ReadAlone (s : State m) (i : Input) (me : Session) (raw : Bytes) (parts : FrameParts)
    (is : List Input) (tr : List (Event m)) (s' : State m) : Prop where
  loop : s.conns i.conn = .loop me
  next : i.next = some (.ok (.binary raw))
  decoded : decodeFrame m raw = .ok parts
  source : parts.envelope.fromPeer = me.peerId
  path : ∃ s₁ evs, (serve m).step i s = some (s₁, evs) ∧
    (serve m).Path (Alone i.conn) s₁ is tr s'

/-- The connection has a bounded number of awaits left, and can take them. -/
def GoesOn (c : ConnId) (is : List Input) (s' : State m) : Prop :=
  is.countP (fun i => i.conn = c) < 7 ∧
    ∀ j : Input, j.conn = c → ((serve m).step j s').isSome = true

theorem registry_of_read {i : Input} {s s₁ : State m} {evs : List (Event m)}
    (hloop : s.conns i.conn = .loop me) (h : (serve m).step i s = some (s₁, evs)) :
    s₁.registry = s.registry := by
  have hstep := connStep_of_serve h
  rw [hloop] at hstep
  simp only [connStep, Option.some.injEq, Prod.mk.injEq] at hstep
  exact hstep.1.symm

variable {s s' : State m} {i : Input} {is : List Input} {tr : List (Event m)}

/-- A frame that is no disconnect is finished in time. -/
theorem ReadAlone.finishes (h : ReadAlone s i me raw parts is tr s') (hencodes : m.Encodes)
    (hkind : parts.envelope.kind ≠ kindDisconnect)
    (hquery : parts.envelope.kind = kindQuery →
      ∃ body, decodeQueryBody m parts.bodyBytes = .ok body) :
    s'.conns i.conn = .loop me ∨ GoesOn i.conn is s' := by
  obtain ⟨s₁, evs, hread, hpath⟩ := h.path
  have hprogress := progress_of_read hencodes h.loop h.next h.decoded hquery hread
    (hpath.mono fun _ _ halone => halone.2)
  rcases hprogress with hbusy | ⟨hloop | ⟨hdisconnect, -⟩, -⟩
  · exact Or.inr (goes_on_of_busy hbusy)
  · exact Or.inl hloop
  · exact absurd hdisconnect hkind

/-- What the awaits of the connection keep, from the one after the read on. -/
theorem ReadAlone.invariant (h : ReadAlone s i me raw parts is tr s')
    {Q : Pc m → PeerRegistry → List (Event m) → Prop}
    (hstart : Q (orLeave m (some me) (onFrame m i.now me raw parts)) s.registry [])
    (hstep : ∀ {j : Input} {pc pc' : Pc m} {reg reg' : PeerRegistry} {tr evs : List (Event m)},
      j.conn = i.conn → pc.reading = false → (pc.answering = true → j.ok = true) →
      connStep m j reg pc = some (reg', pc', evs) → Q pc reg tr → Q pc' reg' (tr ++ evs)) :
    Q (s'.conns i.conn) s'.registry tr := by
  obtain ⟨s₁, evs, hread, hpath⟩ := h.path
  refine hpath.invariant (P := fun _ tr s' => Q (s'.conns i.conn) s'.registry tr) ?_ ?_
  · rw [(conns_of_read h.loop h.next h.decoded hread).1, registry_of_read h.loop hread]
    exact hstart
  · intro is tr evs s₂ s₃ j _ halone hs ih
    obtain ⟨hj, hundisturbed⟩ := halone
    obtain ⟨hnot, hok⟩ := hundisturbed hj
    have hconn := connStep_of_serve hs
    rw [hj] at hconn
    exact hstep hj hnot hok hconn ih

theorem ReadAlone.callStage (h : ReadAlone s i me raw parts is tr s') (hencodes : m.Encodes)
    (hcaller : me.peerClass = .caller) (hkind : parts.envelope.kind = kindCall) :
    CallStage s.registry i.conn me raw parts (s'.conns i.conn) s'.registry tr := by
  refine h.invariant ?_ fun hj hnot hok hstep ih => ih.step hencodes hj hnot hok hstep
  have hstart : onFrame m i.now me raw parts =
      .ok (.targetClass (routeOf me raw parts "call")) := by
    simp [onFrame, h.source, hkind, handleCall, hcaller, kindCall, kindQuery, routeOrError, routeOf]
  rw [hstart]
  exact .asksClass

/-! ### Queries -/

/-- What the registry says of an id. -/
def answerOf (reg : PeerRegistry) (x : String) : Answer :=
  ⟨(reg.peers x).isSome, (reg.peers x).map PeerRecord.peerClass, (reg.peers x).isSome⟩

/-- A connection that answers a query alone. -/
inductive QueryStage (reg : PeerRegistry) (c : ConnId) (me : Session) (parts : FrameParts)
    (body : QueryBody) : Pc m → PeerRegistry → List (Event m) → Prop
  | asks : QueryStage reg c me parts body (.lookup me parts.envelope body) reg []
  | answers {f : RouterFrame m} (hid : f.envelope.msgId = parts.envelope.msgId)
      (hf : (answerOf reg body.peerId).encode m body = .ok f.body) :
      QueryStage reg c me parts body (.reply me f .loop) reg []
  | answered {f : RouterFrame m} (hid : f.envelope.msgId = parts.envelope.msgId)
      (hf : (answerOf reg body.peerId).encode m body = .ok f.body) :
      QueryStage reg c me parts body (.loop me) reg [.wrote c c (.generated f)]

/-- Where all entries are connected, both queries are answered alike. -/
theorem onLookup_eq {reg : PeerRegistry}
    (hconnected : ∀ x record, reg.peers x = some record → record.connected = true)
    (me : Session) (envelope : Envelope) (body : QueryBody) :
    onLookup m me envelope body (reg.lookupByPeerId body.peerId) = (do
      let response ← (answerOf reg body.peerId).encode m body
      let f ← sendFrame m
        ⟨envelope.v, kindResponse, envelope.msgId, routerPeerId, me.peerId, envelope.ts⟩ response rfl
      .ok (.reply me f .loop)) := by
  unfold onLookup PeerRegistry.lookupByPeerId
  cases body with
  | peerExists x =>
    dsimp only [QueryBody.peerId, Answer.encode, answerOf]
    rw [Option.isSome_map, Option.map_map]
    rfl
  | peerGet x =>
    dsimp only [QueryBody.peerId, Answer.encode, answerOf]
    rw [Option.isSome_map, Option.map_map, Option.map_map]
    cases hx : reg.peers x with
    | none => rfl
    | some record =>
      have hlive := hconnected x record hx
      simp only [Option.map_some, Function.comp_apply, hlive]
      rfl

theorem encode_ok (hencodes : m.Encodes) (a : Answer) (body : QueryBody) :
    ∃ bytes, a.encode m body = .ok bytes := by
  cases body with
  | peerExists x =>
    obtain ⟨bytes, hbytes⟩ := hencodes.queryExists ⟨x, a.exist, a.peerClass, a.connected⟩
    refine ⟨bytes, ?_⟩
    rw [Answer.encode, encodeQueryExistsResponse, hbytes]
    rfl
  | peerGet x =>
    obtain ⟨bytes, hbytes⟩ := hencodes.queryGet ⟨x, a.exist, a.peerClass, a.connected⟩
    refine ⟨bytes, ?_⟩
    rw [Answer.encode, encodeQueryGetResponse, hbytes]
    rfl

theorem QueryStage.step (hencodes : m.Encodes) {reg reg₁ reg₂ : PeerRegistry} {pc pc' : Pc m}
    {tr evs : List (Event m)} {i : Input} {body : QueryBody}
    (hconnected : ∀ x record, reg.peers x = some record → record.connected = true)
    (h : QueryStage reg c me parts body pc reg₁ tr) (hc : i.conn = c)
    (hread : pc.reading = false) (hok : pc.answering = true → i.ok = true)
    (hstep : connStep m i reg₁ pc = some (reg₂, pc', evs)) :
    QueryStage reg c me parts body pc' reg₂ (tr ++ evs) := by
  subst hc
  cases h with
  | asks =>
    have hlookup : connStep m i reg (.lookup me parts.envelope body) = some (reg, orLeave m (some me)
        (onLookup m me parts.envelope body (reg.lookupByPeerId body.peerId)), []) := by
      cases body <;> rfl
    rw [hlookup, onLookup_eq hconnected] at hstep
    obtain ⟨bytes, hbytes⟩ := encode_ok hencodes (answerOf reg body.peerId) body
    obtain ⟨f, hf, henvelope, hbody⟩ := sendFrame_ok hencodes
      ⟨parts.envelope.v, kindResponse, parts.envelope.msgId, routerPeerId, me.peerId,
        parts.envelope.ts⟩ bytes rfl
    simp only [hbytes, hf, bind, Except.bind, orLeave, Option.some.injEq, Prod.mk.injEq] at hstep
    obtain ⟨rfl, rfl, rfl⟩ := hstep
    refine .answers ?_ ?_
    · rw [henvelope]
    · rw [hbody]
      exact hbytes
  | answers hid hf =>
    simp only [connStep, hok rfl, if_true, Option.some.injEq, Prod.mk.injEq] at hstep
    obtain ⟨rfl, rfl, rfl⟩ := hstep
    exact .answered hid hf
  | answered hid hf => cases hread

theorem ReadAlone.queryStage (h : ReadAlone s i me raw parts is tr s') (hencodes : m.Encodes)
    (hconnected : ∀ x record, s.registry.peers x = some record → record.connected = true)
    (hkind : parts.envelope.kind = kindQuery) {body : QueryBody}
    (hbody : decodeQueryBody m parts.bodyBytes = .ok body) :
    QueryStage s.registry i.conn me parts body (s'.conns i.conn) s'.registry tr := by
  refine h.invariant ?_ fun hj hnot hok hstep ih => ih.step hencodes hconnected hj hnot hok hstep
  have hstart : onFrame m i.now me raw parts = .ok (.lookup me parts.envelope body) := by
    simp only [onFrame, h.source, hkind, ne_eq, not_true_eq_false, if_false, if_true, handleQuery,
      hbody]
    rfl
  rw [hstart]
  exact .asks

/-! ### Outcomes of a call -/

theorem not_isError_both (hcodes : m.TellsCodes) {msgId : String} {f : RouterFrame m}
    (h : IsError msgId "peer_not_found" f) (h' : IsError msgId "invalid_target_class" f) : False := by
  obtain ⟨-, -, message, hbody⟩ := h
  obtain ⟨-, -, message', hbody'⟩ := h'
  exact hcodes message message' (hbody.trans hbody'.symm)

/-- A call that was sent to its target was not rejected. -/
theorem not_rejectedWith_of_forwarded {sink : PeerSender} {code : String} {tr : List (Event m)}
    (h : writesBy c tr = [(sink, .forwarded raw)]) : ¬ RejectedWith code c parts tr := by
  rintro ⟨-, f, -, hwrites⟩
  rw [h] at hwrites
  cases hwrites

/-- What was written alone tells what the class of the target was. -/
theorem CallStage.outcome (hcodes : m.TellsCodes) {reg : PeerRegistry} {tr : List (Event m)}
    (h : CallStage reg c me raw parts (.loop me) s'.registry tr) :
    (Delivers reg c raw parts tr s' ↔
      reg.snapshotPeerClass parts.envelope.toPeer = some .service) ∧
    (RejectedWith "peer_not_found" c parts tr ↔
      reg.snapshotPeerClass parts.envelope.toPeer = none) ∧
    (RejectedWith "invalid_target_class" c parts tr ↔
      reg.snapshotPeerClass parts.envelope.toPeer = some .caller) := by
  generalize hreg : s'.registry = reg' at h
  cases h with
  | @delivered sink hclass hsink =>
    have hwrites : writesBy c [Event.wrote (m := m) c sink (.forwarded raw)] =
        [(sink, .forwarded raw)] := writesBy_wrote ..
    rw [hclass]
    refine ⟨iff_of_true ⟨sink, hsink, Or.inl hwrites⟩ rfl, ?_, ?_⟩
    · exact iff_of_false (not_rejectedWith_of_forwarded hwrites) (by simp)
    · exact iff_of_false (not_rejectedWith_of_forwarded hwrites) (by simp)
  | @undelivered sink f record hclass hsink hf =>
    have hfailed : ∀ code, ¬ RejectedWith code c parts [.sendFailed c sink,
        .removed c parts.envelope.toPeer sink record, .wrote c c (.generated f)] :=
      fun code hrejected => hrejected.1 sink List.mem_cons_self
    rw [hclass]
    refine ⟨iff_of_true ⟨sink, hsink, Or.inr ⟨List.mem_cons_self, ?_, f, hf, ?_⟩⟩ rfl, ?_, ?_⟩
    · rw [hreg, PeerRegistry.removeByPeerId_peers, if_pos rfl]
    · simp [writesBy]
    · exact iff_of_false (hfailed _) (by simp)
    · exact iff_of_false (hfailed _) (by simp)
  | @rejected f code message hdecision hf =>
    have hwrites : writesBy c [Event.wrote (m := m) c c (.generated f)] = [(c, .generated f)] :=
      writesBy_wrote ..
    have hdelivers : ¬ Delivers reg c raw parts [.wrote c c (.generated f)] s' := by
      rintro ⟨sink, -, hforwarded | ⟨hfailed, -⟩⟩
      · rw [hwrites] at hforwarded
        cases hforwarded
      · simp at hfailed
    have hrejected : ∀ code', IsError parts.envelope.msgId code' f →
        RejectedWith code' c parts [.wrote c c (.generated f)] :=
      fun code' hf' => ⟨by simp, f, hf', hwrites⟩
    have herror : ∀ code', RejectedWith code' c parts [.wrote c c (.generated f)] →
        IsError parts.envelope.msgId code' f := by
      rintro code' ⟨-, f', hf', hwrites'⟩
      rw [hwrites] at hwrites'
      cases hwrites'
      exact hf'
    cases hclass : reg.snapshotPeerClass parts.envelope.toPeer with
    | none =>
      rw [hclass] at hdecision
      cases hdecision
      refine ⟨iff_of_false hdelivers (by simp), iff_of_true (hrejected _ hf) rfl, ?_⟩
      exact iff_of_false (fun h => not_isError_both hcodes hf (herror _ h)) (by simp)
    | some peerClass =>
      rw [hclass] at hdecision
      cases peerClass with
      | caller =>
        cases hdecision
        refine ⟨iff_of_false hdelivers (by simp), ?_, iff_of_true (hrejected _ hf) rfl⟩
        exact iff_of_false (fun h => not_isError_both hcodes (herror _ h) hf) (by simp)
      | service => cases hdecision

/-! ### Queries and routing agree -/

/-- **Queries and routing agree**, in every reachable state, as long as no other connection moves in
between.  Both queries for an id are answered alike, with `connected` where the id exists and a class
where it does.  A call of a registered caller to the id is delivered if and only if the answer says
that it is a service, is rejected with `peer_not_found` if and only if it says that the id does not
exist, and with `invalid_target_class` if and only if it says that it is a caller. -/
theorem queries_agree_with_routing (hencodes : m.Encodes) (hcodes : m.TellsCodes)
    {tr₀ : List (Event m)} (h : (serve m).Reachable s tr₀) (x : String) :
    (answerOf s.registry x).connected = (answerOf s.registry x).exist ∧
    ((answerOf s.registry x).peerClass.isSome = true ↔ (answerOf s.registry x).exist = true) ∧
    (∀ i me raw parts body is tr s', ReadAlone s i me raw parts is tr s' →
      parts.envelope.kind = kindQuery → decodeQueryBody m parts.bodyBytes = .ok body →
      body.peerId = x →
      (s'.conns i.conn = .loop me ∨ GoesOn i.conn is s') ∧
      (s'.conns i.conn = .loop me → ∃ f, f.envelope.msgId = parts.envelope.msgId ∧
        (answerOf s.registry x).encode m body = .ok f.body ∧
        writesBy i.conn tr = [(i.conn, .generated f)])) ∧
    ∀ i me raw parts is tr s', ReadAlone s i me raw parts is tr s' → me.peerClass = .caller →
      parts.envelope.kind = kindCall → parts.envelope.toPeer = x →
      (s'.conns i.conn = .loop me ∨ GoesOn i.conn is s') ∧
      (s'.conns i.conn = .loop me →
        (Delivers s.registry i.conn raw parts tr s' ↔
          (answerOf s.registry x).exist = true ∧
          (answerOf s.registry x).peerClass = some .service) ∧
        (RejectedWith "peer_not_found" i.conn parts tr ↔
          (answerOf s.registry x).exist = false) ∧
        (RejectedWith "invalid_target_class" i.conn parts tr ↔
          (answerOf s.registry x).peerClass = some .caller)) := by
  have hconnected : ∀ x record, s.registry.peers x = some record → record.connected = true :=
    fun x record hx => (entriesOwned h x record hx).1
  refine ⟨rfl, ?_, ?_, ?_⟩
  · rw [answerOf, Option.isSome_map]
  · rintro i me raw parts body is tr s' halone hkind hbody rfl
    refine ⟨halone.finishes hencodes ?_ fun _ => ⟨body, hbody⟩, fun hloop => ?_⟩
    · rw [hkind]
      decide
    · have hstage := halone.queryStage hencodes hconnected hkind hbody
      rw [hloop] at hstage
      generalize s'.registry = reg' at hstage
      cases hstage with
      | @answered f hid hf => exact ⟨f, hid, hf, writesBy_wrote ..⟩
  · rintro i me raw parts is tr s' halone hcaller hkind rfl
    refine ⟨halone.finishes hencodes ?_ fun hquery => ?_, fun hloop => ?_⟩
    · rw [hkind]
      decide
    · rw [hkind] at hquery
      exact absurd hquery (by decide)
    · have hstage := halone.callStage hencodes hcaller hkind
      rw [hloop] at hstage
      obtain ⟨hdelivers, hmissing, hcallers⟩ := hstage.outcome hcodes
      refine ⟨hdelivers.trans ?_, hmissing.trans ?_, hcallers⟩
      · refine ⟨fun hclass => ⟨?_, hclass⟩, And.right⟩
        obtain ⟨record, hrecord, -⟩ := peers_of_snapshotPeerClass hclass
        rw [answerOf, hrecord]
        rfl
      · rw [PeerRegistry.snapshotPeerClass, Option.map_eq_none_iff, answerOf,
          Option.isSome_eq_false_iff, Option.isNone_iff_eq_none]

/-- The connection waits for a message. -/
def Pc.loops (me : Session) : Pc m → Bool
  | .loop me' => me' == me
  | _ => false

theorem loop_of_loops {pc : Pc m} (h : pc.loops me = true) : pc = .loop me := by
  cases pc with
  | loop me' => rw [beq_iff_eq.mp h]
  | _ => cases h

/-- The length of a code is written before the code. -/
theorem tellsCodes_msgPackSerde : msgPackSerde.TellsCodes := by
  intro message message' h
  have hkey : (MsgPack.encodeStr "code").length = 5 := by decide +kernel
  have hmissing : MsgPack.encodeStr "peer_not_found" =
      0xae :: "peer_not_found".toUTF8.toList := by decide +kernel
  have hclass : MsgPack.encodeStr "invalid_target_class" =
      0xb4 :: "invalid_target_class".toUTF8.toList := by decide +kernel
  have hbytes := congrArg (fun bytes : Bytes => bytes[6]?) (Except.ok.inj h)
  simp [buildErrorBody, ErrorBody.toValue, MsgPack.encode, MsgPack.encodeMap,
    MsgPack.encodeMapHeader, hkey, hmissing, hclass] at hbytes

/-- The bytes of a call from `"a"` to `"b"` as a frame. -/
def callParts : FrameParts :=
  ⟨buildEnvelope kindCall "n" "a" "b" .one, MsgPack.encode (.map
    [(.str "function", .str "f"), (.str "args", .array [])])⟩

/-- A service `"b"` is found by queries, and a caller's call is delivered to it. -/
theorem queries_agree_of_service : ∃ s tr₀ is tr s',
    (serve msgPackSerde).Reachable s tr₀ ∧ (answerOf s.registry "b").exist = true ∧
    (answerOf s.registry "b").peerClass = some .service ∧
    ReadAlone s (recv 0 (callBytes "a" "b")) ⟨"a", .caller⟩ (callBytes "a" "b") callParts is tr s' ∧
    Delivers s.registry 0 (callBytes "a" "b") callParts tr s' := by
  have hdecoded : decodeFrame msgPackSerde (callBytes "a" "b") = .ok callParts := by decide +kernel
  obtain ⟨s, tr₀, hrun, hp⟩ := (serve msgPackSerde).exists_reachable_of_exec
    (join 0 "a" .caller ++ join 1 "b" .service)
    (fun s _ => (answerOf s.registry "b").exist &&
      (answerOf s.registry "b").peerClass == some .service && (s.conns 0).loops ⟨"a", .caller⟩ &&
      (((serve msgPackSerde).step (recv 0 (callBytes "a" "b")) s).any fun r =>
        ((serve msgPackSerde).exec (fun s _ i => Alone 0 s i) r.1 [] [go 0, go 0, go 0, go 0]).any
          fun q => (q.1.conns 0).loops ⟨"a", .caller⟩)) (by decide +kernel)
  simp only [Bool.and_eq_true, beq_iff_eq] at hp
  obtain ⟨⟨⟨hexist, hclass⟩, hloop⟩, hexec⟩ := hp
  obtain ⟨s₁, evs, s', tr, hread, hpath, hend⟩ := exists_path_of_exec (T := serve msgPackSerde)
    (C := Alone 0) (recv 0 (callBytes "a" "b")) [go 0, go 0, go 0, go 0]
    (fun s _ => (s.conns 0).loops ⟨"a", .caller⟩) hexec
  have halone : ReadAlone s (recv 0 (callBytes "a" "b")) ⟨"a", .caller⟩ (callBytes "a" "b") callParts
      [go 0, go 0, go 0, go 0] tr s' :=
    ⟨loop_of_loops hloop, rfl, hdecoded, rfl, s₁, evs, hread, hpath⟩
  obtain ⟨-, -, -, hcalls⟩ :=
    queries_agree_with_routing encodes_msgPackSerde tellsCodes_msgPackSerde hrun "b"
  obtain ⟨-, houtcome⟩ := hcalls _ _ _ _ _ _ _ halone rfl rfl rfl
  exact ⟨s, tr₀, _, tr, s', hrun, hexist, hclass, halone,
    (houtcome (loop_of_loops hend)).1.mpr ⟨hexist, hclass⟩⟩

end Multifrost.Router
