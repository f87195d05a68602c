import Multifrost.Router.Safety.Forwarding

/-!
# The class of a frame's target

`decide_route_target` says which classes a frame of a kind may be delivered to: calls to services,
responses and errors to callers.  Two things go wrong on the way from this table to the sink.

`handle_response` does not consult the table: it enters `route_to_target` directly, and a response
that is addressed to a service is delivered to it (`response_delivered_to_service`).  Handled alone
in any registry, a response is treated as the table prescribes exactly when its target is not a
live service (`response_target_class`).

`route_or_error` consults the table in one critical section and fetches the sink in a later one.
When the target leaves in between and its id is registered with the other class, a call is
delivered to a caller (`call_delivered_to_caller`).  This is the only way: in the runs in which no
id changes its class while a frame is between the two, calls reach services and errors reach
callers (`call_error_target_class`).

Both rest on `deliveredTo`: what a lookup finds is where the frame goes.
-/

namespace Multifrost.Router

open TransitionSystem

variable {m : RmpSerde}

/-! ### From the lookup to the sink -/

/-- Every frame of the kind that is forwarded goes to the sink of a connection that registered with
the class, and whatever entry has this sink is of the class. -/
def DeliveredTo (kind : String) (peerClass : PeerClass) (s : State m) (tr : List (Event m)) :
    Prop :=
  ∀ c sink raw parts, .wrote c sink (.forwarded raw) ∈ tr → decodeFrame m raw = .ok parts →
    parts.envelope.kind = kind →
    (∃ e b, .registered sink e b ∈ tr ∧ b.peerClass = peerClass) ∧
    ∀ x record, s.registry.peers x = some record → record.sender = sink →
      record.peerClass = peerClass

/-- What the step looks up for a frame of the kind is of the class. -/
def FindsClass (kind : String) (peerClass : PeerClass) (s : State m) (_ : List (Event m))
    (i : Input) : Prop :=
  ∀ r ∈ (s.conns i.conn).resolving, r.kind = kind →
    ∀ record ∈ s.registry.peers r.envelope.toPeer, record.peerClass = peerClass

instance (kind : String) (peerClass : PeerClass) (s : State m) (tr : List (Event m)) (i : Input) :
    Decidable (FindsClass kind peerClass s tr i) :=
  inferInstanceAs (Decidable (∀ r ∈ (s.conns i.conn).resolving, _ → _))

/-- The class of an entry is the one its sink was registered with. -/
theorem peerClass_of_registered {s : State m} {tr : List (Event m)}
    (h : (serve m).Reachable s tr) {x : String} {record : PeerRecord} {e : Envelope}
    {b : RegisterBody} (hx : s.registry.peers x = some record)
    (hmem : .registered record.sender e b ∈ tr) : record.peerClass = b.peerClass := by
  obtain ⟨-, hsession⟩ := entriesOwned h x record hx
  rcases registrationsKept h _ e b hmem with hkept | hret
  · rw [hkept] at hsession
    exact (congrArg Session.peerClass (Option.some.inj hsession)).symm
  · cases hpc : s.conns record.sender <;> rw [hpc] at hsession hret <;> cases hret
    cases hsession

/-- The frame the connection is about to send, and the sink. -/
def Pc.outgoing : Pc m → Option (Route × PeerSender)
  | .forward r target => some (r, target)
  | _ => none

/-- A frame on its way to a sink goes to what was found for it. -/
theorem registered_of_outgoing {kind : String} {peerClass : PeerClass} {s : State m}
    {tr : List (Event m)} (h : (serve m).Run (FindsClass kind peerClass) s tr) :
    ∀ c p, (s.conns c).outgoing = some p → p.1.kind = kind →
      ∃ e b, .registered p.2 e b ∈ tr ∧ b.peerClass = peerClass := by
  refine conn_invariant Pc.outgoing (fun tr _ p => p.1.kind = kind →
    ∃ e b, .registered p.2 e b ∈ tr ∧ b.peerClass = peerClass) rfl ?_ ?_ h
  · intro tr c p evs hp hkind
    obtain ⟨e, b, hmem, hclass⟩ := hp hkind
    exact ⟨e, b, List.mem_append_left _ hmem, hclass⟩
  · intro i s reg' pc tr evs p hrun hguard hstep hp
    refine Or.inr fun hkind => ?_
    cases pc with
    | forward r target =>
      obtain rfl := Option.some.inj hp
      obtain ⟨r', record, hpc, hpc', -, hrecord, hsender⟩ := hstep.sending_new rfl
      obtain ⟨rfl, -⟩ := Pc.forward.inj hpc'
      -- the record belongs to a connection that registered with its class
      obtain ⟨-, hsession⟩ := entriesOwned hrun.reachable _ record hrecord
      obtain ⟨e, b, hmem, -, hclass⟩ := sessionsRegistered hrun.reachable _ _ hsession
      rw [hsender] at hmem
      refine ⟨e, b, List.mem_append_left _ hmem, hclass.trans ?_⟩
      have hresolving : (s.conns i.conn).resolving = some r := by rw [hpc]; rfl
      exact hguard r hresolving hkind record hrecord
    | _ => cases hp

theorem deliveredTo {kind : String} {peerClass : PeerClass} {s : State m} {tr : List (Event m)}
    (h : (serve m).Run (FindsClass kind peerClass) s tr) : DeliveredTo kind peerClass s tr := by
  have hsinks : ∀ c sink raw parts, .wrote c sink (.forwarded raw) ∈ tr →
      decodeFrame m raw = .ok parts → parts.envelope.kind = kind →
      ∃ e b, .registered sink e b ∈ tr ∧ b.peerClass = peerClass := by
    refine h.invariant (P := fun _ tr => ∀ c sink raw parts,
      .wrote c sink (.forwarded raw) ∈ tr → decodeFrame m raw = .ok parts →
      parts.envelope.kind = kind →
      ∃ e b, .registered sink e b ∈ tr ∧ b.peerClass = peerClass) ?_ ?_
    · intro c sink raw parts hmem
      cases hmem
    · intro s s' tr evs i hrun _ hs ih c sink raw parts hmem hparts hkind
      have hbefore : ∃ e b, .registered sink e b ∈ tr ∧ b.peerClass = peerClass := by
        rcases List.mem_append.mp hmem with hmem | hmem
        · exact ih c sink raw parts hmem hparts hkind
        · obtain ⟨-, r, hpc, hsound, -, henvelope⟩ :=
            forward_of_step hrun.reachable hs hmem hparts
          rw [← henvelope, hsound.kind_eq] at hkind
          have houtgoing : (s.conns c).outgoing = some (r, sink) := by rw [hpc]; rfl
          exact registered_of_outgoing hrun c _ houtgoing hkind
      obtain ⟨e, b, hreg, hclass⟩ := hbefore
      exact ⟨e, b, List.mem_append_left _ hreg, hclass⟩
  -- a sink is registered once, so that its entry, if there is one, has the same class
  intro c sink raw parts hmem hparts hkind
  obtain ⟨e, b, hreg, hclass⟩ := hsinks c sink raw parts hmem hparts hkind
  refine ⟨⟨e, b, hreg, hclass⟩, fun x record hx hsender => ?_⟩
  subst hsender
  rw [peerClass_of_registered h.reachable hx hreg, hclass]

/-! ### Responses -/

/-- The awaits of `route_or_error` and `route_to_target` before the send. -/
def Pc.isRouting : Pc m → Bool
  | .targetClass _ | .targetExists _ | .targetSender _ => true
  | _ => false

/-- One await of a routing. -/
def routingStep (m : RmpSerde) (i : Input) (reg : PeerRegistry) (pc : Pc m) : Pc m :=
  if pc.isRouting then ((connStep m i reg pc).map fun r => r.2.1).getD pc else pc

/-- A routing, which has three awaits at most, in a registry that nobody changes meanwhile. -/
def settle (m : RmpSerde) (i : Input) (reg : PeerRegistry) (pc : Pc m) : Pc m :=
  routingStep m i reg (routingStep m i reg (routingStep m i reg pc))

/-- What `decide_route_target` prescribes for a frame: the send to its target, or the error. -/
def prescribed (m : RmpSerde) (i : Input) (reg : PeerRegistry) (r : Route) : Pc m :=
  match decideRouteTarget r.kind (reg.snapshotPeerClass r.envelope.toPeer) with
  | .deliver =>
    orLeave m (some r.me) (onTargetSender m i.now r (reg.senderByPeerId r.envelope.toPeer))
  | .reject code message =>
    orLeave m (some r.me) (replyError m i.now r.me r.envelope.msgId code message)

theorem Quiet.isRouting {me : Session} {pc : Pc m} (h : Quiet me pc) : pc.isRouting = false := by
  cases h <;> rfl

theorem routingStep_of_not {i : Input} {reg : PeerRegistry} {pc : Pc m}
    (h : pc.isRouting = false) : routingStep m i reg pc = pc := by
  unfold routingStep
  rw [h]
  rfl

/-- The lookup of the sink is the last await before the send. -/
theorem isRouting_onTargetSender (now : Float64) (r : Route) (target : Option PeerSender) :
    (orLeave m (some r.me) (onTargetSender m now r target)).isRouting = false := by
  cases target with
  | none => exact (quiet_replyError ..).isRouting
  | some target => rfl

/-- `route_to_target` alone: the target is found by both of its awaits or by neither. -/
theorem routingStep_routeToTarget (i : Input) (reg : PeerRegistry) (r : Route) :
    routingStep m i reg (routingStep m i reg (routeToTarget m r)) = orLeave m (some r.me)
      (onTargetSender m i.now r (reg.senderByPeerId r.envelope.toPeer)) := by
  have hexists : routingStep m i reg (routeToTarget m r) = orLeave m (some r.me)
      (onTargetExists m i.now r (reg.snapshotPeerExists r.envelope.toPeer)) := rfl
  rw [hexists]
  unfold PeerRegistry.snapshotPeerExists
  cases hx : reg.peers r.envelope.toPeer with
  | none =>
    have hreply : orLeave m (some r.me) (onTargetExists m i.now r false) = orLeave m (some r.me)
        (onTargetSender m i.now r none) := rfl
    have hnone : reg.senderByPeerId r.envelope.toPeer = none := by
      rw [PeerRegistry.senderByPeerId, hx]
      rfl
    rw [Option.isSome_none, hreply, hnone]
    exact routingStep_of_not (isRouting_onTargetSender ..)
  | some record => rfl

theorem settle_routeToTarget (i : Input) (reg : PeerRegistry) (r : Route) :
    settle m i reg (routeToTarget m r) = orLeave m (some r.me)
      (onTargetSender m i.now r (reg.senderByPeerId r.envelope.toPeer)) := by
  unfold settle
  rw [routingStep_routeToTarget]
  exact routingStep_of_not (isRouting_onTargetSender ..)

/-- `route_or_error` alone does what the table prescribes. -/
theorem settle_routeOrError (i : Input) (reg : PeerRegistry) (r : Route) :
    settle m i reg (routeOrError m r) = prescribed m i reg r := by
  have hclass : routingStep m i reg (routeOrError m r) = orLeave m (some r.me)
      (onTargetClass m i.now r (reg.snapshotPeerClass r.envelope.toPeer)) := rfl
  unfold settle prescribed
  rw [hclass]
  unfold onTargetClass
  cases decideRouteTarget r.kind (reg.snapshotPeerClass r.envelope.toPeer) with
  | deliver => exact routingStep_routeToTarget i reg r
  | reject code message =>
    have hquiet := (quiet_replyError (m := m) i.now r.me r.envelope.msgId code message).isRouting
    dsimp only
    rw [routingStep_of_not hquiet, routingStep_of_not hquiet]

/-- A response alone is treated as the table prescribes unless its target is a live service. -/
theorem settle_response_iff (i : Input) (reg : PeerRegistry) {r : Route}
    (hkind : r.kind = kindResponse) :
    settle m i reg (routeToTarget m r) = prescribed m i reg r ↔
      reg.snapshotPeerClass r.envelope.toPeer ≠ some .service := by
  rw [settle_routeToTarget]
  unfold prescribed PeerRegistry.snapshotPeerClass PeerRegistry.senderByPeerId
  rw [hkind]
  -- the three rows of the table for a response
  cases hx : reg.peers r.envelope.toPeer with
  | none =>
    refine iff_of_true ?_ (by simp)
    have hmessage : decideRouteTarget kindResponse none =
        .reject "peer_not_found" (kindResponse ++ " target not found") := rfl
    rw [Option.map_none, Option.map_none, hmessage, ← hkind]
    rfl
  | some record =>
    cases hc : record.peerClass with
    | caller =>
      refine iff_of_true ?_ (by simp [hc])
      simp only [Option.map_some, hc]
      rfl
    | service =>
      refine iff_of_false ?_ (by simp [hc])
      have hreject : decideRouteTarget kindResponse (some .service) =
          .reject "invalid_target_class" "responses must target a caller peer" := rfl
      simp only [Option.map_some, hc, hreject]
      intro heq
      -- the code sends the frame where the table asks for an error
      have hquiet := quiet_replyError (m := m) i.now r.me r.envelope.msgId
        "invalid_target_class" "responses must target a caller peer"
      rw [← heq] at hquiet
      cases hquiet

/-- **The class of a response's target.**  In every run in which no lookup for a response finds a
service, responses are written only to sinks of callers.  And for every registry and every response
of a service, its routing alone ends as `decide_route_target` prescribes if and only if its target
is not a live service; for an error it always does. -/
theorem response_target_class (m : RmpSerde) :
    (∀ (s : State m) tr, (serve m).Run (FindsClass kindResponse .caller) s tr →
      DeliveredTo kindResponse .caller s tr) ∧
    ∀ (i : Input) (reg : PeerRegistry) (me : Session) (raw : Bytes) (parts : FrameParts),
      decodeFrame m raw = .ok parts → parts.envelope.fromPeer = me.peerId →
      me.peerClass = .service →
      (parts.envelope.kind = kindResponse →
        (settle m i reg (onNext m i.now me (some (.ok (.binary raw)))) =
            prescribed m i reg ⟨me, parts.envelope, raw, kindResponse⟩ ↔
          reg.snapshotPeerClass parts.envelope.toPeer ≠ some .service)) ∧
      (parts.envelope.kind = kindError →
        settle m i reg (onNext m i.now me (some (.ok (.binary raw)))) =
          prescribed m i reg ⟨me, parts.envelope, raw, kindError⟩) := by
  refine ⟨fun s tr h => deliveredTo h, ?_⟩
  intro i reg me raw parts hd hfrom hclass
  have hframe : onNext m i.now me (some (.ok (.binary raw))) =
      orLeave m (some me) (onFrame m i.now me raw parts) := by
    change orLeave m (some me) (onBinary m i.now me raw) = _
    unfold onBinary
    rw [hd]
    rfl
  rw [hframe]
  constructor
  · intro hkind
    have hroute : onFrame m i.now me raw parts =
        .ok (routeToTarget m ⟨me, parts.envelope, raw, kindResponse⟩) := by
      simp [onFrame, handleResponse, hfrom, hkind, hclass, kindResponse, kindQuery, kindCall]
    rw [hroute]
    exact settle_response_iff i reg rfl
  · intro hkind
    have hroute : onFrame m i.now me raw parts =
        .ok (routeOrError m ⟨me, parts.envelope, raw, kindError⟩) := by
      simp [onFrame, handleError, hfrom, hkind, hclass, kindError, kindResponse, kindQuery,
        kindCall]
    rw [hroute]
    exact settle_routeOrError i reg _

/-- A service answers a caller; and the same response, handled alone in the registry of that run,
is treated as prescribed. -/
theorem response_target_class_of_answer : ∃ s tr,
    (serve msgPackSerde).Run (FindsClass kindResponse .caller) s tr ∧
    forwardedFrom 1 tr = [(0, plainBytes "response" "b" "a")] ∧
    DeliveredTo kindResponse .caller s tr ∧
    ∃ parts, decodeFrame msgPackSerde (plainBytes "response" "b" "a") = .ok parts ∧
      settle msgPackSerde (go 1) s.registry (onNext msgPackSerde .one ⟨"b", .service⟩
          (some (.ok (.binary (plainBytes "response" "b" "a"))))) =
        prescribed msgPackSerde (go 1) s.registry
          ⟨⟨"b", .service⟩, parts.envelope, plainBytes "response" "b" "a", kindResponse⟩ := by
  obtain ⟨s, tr, hrun, hp⟩ := (serve msgPackSerde).exists_run_of_exec
    (FindsClass kindResponse .caller)
    (join 0 "a" .caller ++ join 1 "b" .service ++
      [recv 1 (plainBytes "response" "b" "a"), go 1, go 1, go 1])
    (fun s tr => forwardedFrom 1 tr == [(0, plainBytes "response" "b" "a")] &&
      s.registry.snapshotPeerClass "a" == some .caller) (by decide +kernel)
  simp only [Bool.and_eq_true, beq_iff_eq] at hp
  obtain ⟨hruns, hframes⟩ := response_target_class msgPackSerde
  have hfields : (decodeFrame msgPackSerde (plainBytes "response" "b" "a")).toOption.map
      (fun parts => (parts.envelope.fromPeer, parts.envelope.kind, parts.envelope.toPeer)) =
      some ("b", kindResponse, "a") := by decide +kernel
  cases hd : decodeFrame msgPackSerde (plainBytes "response" "b" "a") with
  | error e =>
    rw [hd] at hfields
    cases hfields
  | ok parts =>
    rw [hd] at hfields
    obtain ⟨hfrom, hkind, hto⟩ : parts.envelope.fromPeer = "b" ∧
        parts.envelope.kind = kindResponse ∧ parts.envelope.toPeer = "a" := by
      simpa [Except.toOption] using hfields
    refine ⟨s, tr, hrun, hp.1, hruns s tr hrun, parts, rfl, ?_⟩
    refine ((hframes (go 1) s.registry ⟨"b", .service⟩ _ parts hd hfrom rfl).1 hkind).mpr ?_
    rw [hto, hp.2]
    decide

/-- A connection has forwarded a frame of the kind to the sink of the entry of `x`, which is not of
the class. -/
def misdelivered (kind : String) (peerClass : PeerClass) (c : ConnId) (x : String) (s : State m)
    (tr : List (Event m)) : Bool :=
  (forwardedFrom c tr).any fun p =>
    ((decodeFrame m p.2).toOption.map fun parts => parts.envelope.kind) == some kind &&
      (s.registry.peers x).any fun record => record.sender == p.1 && record.peerClass != peerClass

theorem not_deliveredTo_of_misdelivered {kind : String} {peerClass : PeerClass} {c : ConnId}
    {x : String} {s : State m} {tr : List (Event m)}
    (h : misdelivered kind peerClass c x s tr = true) : ¬ DeliveredTo kind peerClass s tr := by
  unfold misdelivered at h
  rw [List.any_eq_true] at h
  obtain ⟨⟨sink, raw⟩, hmem, h⟩ := h
  simp only [Bool.and_eq_true, beq_iff_eq, Option.any_eq_true, bne_iff_ne] at h
  obtain ⟨hkind, record, hx, hsender, hclass⟩ := h
  intro hdelivered
  cases hd : decodeFrame m raw with
  | error e =>
    rw [hd] at hkind
    cases hkind
  | ok parts =>
    rw [hd] at hkind
    have hk : parts.envelope.kind = kind := Option.some.inj hkind
    obtain ⟨-, hentry⟩ := hdelivered c sink raw parts (mem_forwardedFrom.mp hmem) hd hk
    exact hclass (hentry x record hx hsender)

/-- A response from one service to another is delivered. -/
theorem response_delivered_to_service :
    ¬ ∀ s tr, (serve msgPackSerde).Reachable s tr → DeliveredTo kindResponse .caller s tr := by
  obtain ⟨s, tr, hrun, hp⟩ := (serve msgPackSerde).exists_reachable_of_exec
    (join 0 "s" .service ++ join 1 "t" .service ++
      [recv 0 (plainBytes "response" "s" "t"), go 0, go 0, go 0])
    (misdelivered kindResponse .caller 0 "t") (by decide +kernel)
  exact fun h => not_deliveredTo_of_misdelivered hp (h s tr hrun)

/-! ### Calls and errors -/

/-- The class `decide_route_target` asks of the target of a call or an error. -/
def targetClassOf (kind : String) : Option PeerClass :=
  if kind = kindCall then some .service else if kind = kindError then some .caller else none

/-- The id and class for which the routing of the connection has been decided, until the sink is
looked up. -/
def Pc.decided : Pc m → Option (String × PeerClass)
  | .targetExists r | .targetSender r =>
    (targetClassOf r.kind).map fun peerClass => (r.envelope.toPeer, peerClass)
  | _ => none

/-- The step does not register, with another class, an id for which a routing has been decided. -/
def KeepsClass (s : State m) (tr : List (Event m)) (i : Input) : Prop :=
  ∀ b ∈ (s.conns i.conn).registering, s.registry.peers b.peerId = none →
    ∀ e ∈ tr, ∀ p ∈ (s.conns e.conn).decided, p.1 = b.peerId → p.2 = b.peerClass

instance (s : State m) (tr : List (Event m)) (i : Input) : Decidable (KeepsClass s tr i) :=
  inferInstanceAs (Decidable (∀ b ∈ (s.conns i.conn).registering, _ → _))

/-- The table delivers a call or an error to the class it asks for. -/
theorem peerClass_of_deliver {kind : String} {found : Option PeerClass} {peerClass : PeerClass}
    (hd : decideRouteTarget kind found = .deliver) (hk : targetClassOf kind = some peerClass) :
    found = some peerClass := by
  unfold targetClassOf at hk
  cases found with
  | none => cases hd
  | some found =>
    cases found <;> unfold decideRouteTarget at hd <;> split_ifs at hd hk <;>
      exact congrArg some (Option.some.inj hk)

/-- The heartbeat the connection is handling. -/
def Pc.heartbeat : Pc m → Option Route
  | .markHeartbeat r | .heartbeatTarget r => some r
  | _ => none

theorem Step.heartbeat_new {i : Input} {reg reg' : PeerRegistry} {pc pc' : Pc m}
    {evs : List (Event m)} (h : Step m i reg pc reg' pc' evs) {r : Route}
    (hr : pc'.heartbeat = some r) : pc.heartbeat = some r ∨ r.kind = kindHeartbeat := by
  have hframe : pc'.holdsFrame = true := by
    cases pc' <;> first | rfl | cases hr
  cases h.routing hframe with
  | routed _ hpc =>
    obtain ⟨rfl, hkind⟩ | ⟨rfl, -⟩ | ⟨rfl, -⟩ := hpc
    · obtain rfl := Option.some.inj hr
      exact Or.inr hkind
    · cases hr
    · cases hr
  | marked => exact Or.inl hr
  | _ => cases hr

theorem heartbeat_kind {s : State m} {tr : List (Event m)} (h : (serve m).Reachable s tr) :
    ∀ c r, (s.conns c).heartbeat = some r → r.kind = kindHeartbeat :=
  conn_invariant Pc.heartbeat (fun _ _ r => r.kind = kindHeartbeat) rfl (fun _ hr => hr)
    (fun _ _ hstep hr => hstep.heartbeat_new hr) h

/-- A routing is decided by the class of the entry; heartbeats are routed without a decision. -/
theorem Step.decided_new {i : Input} {reg reg' : PeerRegistry} {pc pc' : Pc m}
    {evs : List (Event m)} (h : Step m i reg pc reg' pc' evs) {p : String × PeerClass}
    (hp : pc'.decided = some p) :
    pc.decided = some p ∨ (reg' = reg ∧ reg.snapshotPeerClass p.1 = some p.2) ∨
      ∃ r, pc.heartbeat = some r ∧ targetClassOf r.kind = some p.2 := by
  have hframe : pc'.holdsFrame = true := by
    cases pc' <;> first | rfl | cases hp
  cases h.routing hframe with
  | delivered hd =>
    obtain ⟨peerClass, hk, rfl⟩ := Option.map_eq_some_iff.mp hp
    exact Or.inr (Or.inl ⟨rfl, peerClass_of_deliver hd hk⟩)
  | found => exact Or.inl hp
  | heartbeatRouted =>
    obtain ⟨peerClass, hk, rfl⟩ := Option.map_eq_some_iff.mp hp
    exact Or.inr (Or.inr ⟨_, rfl, hk⟩)
  | routed _ hpc =>
    obtain ⟨rfl, -⟩ | ⟨rfl, -⟩ | ⟨rfl, hkind⟩ := hpc
    · cases hp
    · cases hp
    · -- a response is not decided on
      obtain ⟨peerClass, hk, -⟩ := Option.map_eq_some_iff.mp hp
      rw [hkind] at hk
      cases hk
  | _ => cases hp

/-- A connection whose routing is decided is registered. -/
theorem Pc.session_of_decided {pc : Pc m} {p : String × PeerClass} (h : pc.decided = some p) :
    ∃ me, pc.session = some me := by
  cases pc with
  | targetExists r => exact ⟨r.me, rfl⟩
  | targetSender r => exact ⟨r.me, rfl⟩
  | _ => cases h

/-- What a routing was decided for is still so. -/
def DecisionsHold (s : State m) : Prop :=
  ∀ c p record, (s.conns c).decided = some p → s.registry.peers p.1 = some record →
    record.peerClass = p.2

theorem decisionsHold {s : State m} {tr : List (Event m)} (h : (serve m).Run KeepsClass s tr) :
    DecisionsHold s := by
  refine h.invariant (P := fun s _ => DecisionsHold s) ?_ ?_
  · intro c p record hp
    cases hp
  · intro s s' tr evs i hrun hguard hs ih c p record hp hx
    obtain ⟨pc, hstep, hconns⟩ := step_of_serve hs
    rw [hconns, Function.update_apply] at hp
    rcases hstep.peers_eq_some hx with ⟨old, hold, -, hclass, -⟩ |
      ⟨e, b, rfl, hid, -, hclass, -, -, hpc⟩
    -- the entry is an old one: the decision is old too, or was made on it in this step
    · rw [hclass]
      split_ifs at hp with hc
      · rcases hstep.decided_new hp with hp | ⟨-, hsnapshot⟩ | ⟨r, hr, hk⟩
        · exact ih _ p old hp hold
        · rw [PeerRegistry.snapshotPeerClass, hold] at hsnapshot
          exact Option.some.inj hsnapshot
        · rw [heartbeat_kind hrun.reachable _ r hr] at hk
          cases hk
      · exact ih c p old hp hold
    -- the entry is new: by the guard it has the class every decision for its id asks for
    · obtain ⟨-, -, hfree, -⟩ := hstep.insert_of_registered (List.mem_singleton.mpr rfl)
      rw [hclass]
      split_ifs at hp with hc
      · -- the connection that registers routes nothing yet
        rcases hstep.decided_new hp with hp | ⟨-, hsnapshot⟩ | ⟨r, hr, -⟩
        · rw [hpc] at hp
          cases hp
        · rw [hid, PeerRegistry.snapshotPeerClass, hfree] at hsnapshot
          cases hsnapshot
        · rw [hpc] at hr
          cases hr
      · obtain ⟨me, hme⟩ := Pc.session_of_decided hp
        obtain ⟨e', b', hreg, -⟩ := sessionsRegistered hrun.reachable c me hme
        have hb : b ∈ (s.conns i.conn).registering := by rw [hpc]; rfl
        exact (hguard b hb hfree _ hreg p hp hid).symm

/-- What is looked up for a call or an error is of the class that was decided. -/
theorem findsClass_of_keepsClass {kind : String} {peerClass : PeerClass}
    (hk : targetClassOf kind = some peerClass) {s : State m} {tr : List (Event m)}
    (h : (serve m).Run KeepsClass s tr) : (serve m).Run (FindsClass kind peerClass) s tr := by
  refine h.imp fun s tr i hrun _ r hr hkind record hrecord => ?_
  have hdecided : (s.conns i.conn).decided = some (r.envelope.toPeer, peerClass) := by
    cases hpc : s.conns i.conn with
    | targetSender r' =>
      rw [hpc] at hr
      obtain rfl := Option.some.inj hr
      simp only [Pc.decided, hkind, hk, Option.map_some]
    | _ =>
      rw [hpc] at hr
      cases hr
  exact decisionsHold hrun i.conn _ record hdecided hrecord

/-- **The class of the target of a call or an error**, in every run in which no id is registered
with another class while a routing to it is decided: calls are written only to sinks of services,
and errors only to sinks of callers. -/
theorem call_error_target_class {s : State m} {tr : List (Event m)}
    (h : (serve m).Run KeepsClass s tr) :
    DeliveredTo kindCall .service s tr ∧ DeliveredTo kindError .caller s tr :=
  ⟨deliveredTo (findsClass_of_keepsClass rfl h), deliveredTo (findsClass_of_keepsClass rfl h)⟩

/-- A caller is answered with an error; the service leaves, and its id comes back as a caller's
once the call has been sent. -/
theorem call_error_target_class_of_error : ∃ s tr, (serve msgPackSerde).Run KeepsClass s tr ∧
    forwardedFrom 0 tr = [(1, callBytes "a" "b")] ∧
    forwardedFrom 1 tr = [(0, plainBytes "error" "b" "a")] ∧
    s.registry.snapshotPeerClass "b" = some .caller ∧
    DeliveredTo kindCall .service s tr ∧ DeliveredTo kindError .caller s tr := by
  obtain ⟨s, tr, hrun, hp⟩ := (serve msgPackSerde).exists_run_of_exec KeepsClass
    (join 0 "a" .caller ++ join 1 "b" .service ++
      [recv 0 (callBytes "a" "b"), go 0, go 0, go 0, go 0,
        recv 1 (plainBytes "error" "b" "a"), go 1, go 1, go 1, go 1, go 1, go 1] ++
      join 2 "b" .caller)
    (fun s tr => forwardedFrom 0 tr == [(1, callBytes "a" "b")] &&
      forwardedFrom 1 tr == [(0, plainBytes "error" "b" "a")] &&
      s.registry.snapshotPeerClass "b" == some .caller) (by decide +kernel)
  simp only [Bool.and_eq_true, beq_iff_eq] at hp
  exact ⟨s, tr, hrun, hp.1.1, hp.1.2, hp.2, call_error_target_class hrun⟩

/-- The service leaves between the decision and the lookup, and its id comes back as a caller's:
the call is delivered to the caller. -/
theorem call_delivered_to_caller :
    ¬ ∀ s tr, (serve msgPackSerde).Reachable s tr → DeliveredTo kindCall .service s tr := by
  obtain ⟨s, tr, hrun, hp⟩ := (serve msgPackSerde).exists_reachable_of_exec
    (join 0 "a" .caller ++ join 1 "b" .service ++
      [recv 0 (callBytes "a" "b"), go 0, go 1, go 1] ++ join 2 "b" .caller ++ [go 0, go 0, go 0])
    (misdelivered kindCall .service 0 "b") (by decide +kernel)
  exact fun h => not_deliveredTo_of_misdelivered hp (h s tr hrun)

end Multifrost.Router
