import Multifrost.Router.Safety.Addressing
import Multifrost.Router.Safety.Agreement

/-!
# The grounds for an answer

The router writes frames of its own to a connection, and never without a reason: an error answers a
frame of that connection or a message that is no frame, an acknowledgement answers a register or a
disconnect frame, and so on (`Grounds`).  The answer to a query says what the registry held for the
id at a moment after the query had arrived; what it held is told by the events alone
(`classAfter`).
-/

namespace Multifrost.Router

open TransitionSystem

variable {m : RmpSerde}

/-! ### The registry as the events tell it -/

/-- What an event makes of the class that is registered for an id. -/
def Event.changes (x : String) (live : Option PeerClass) : Event m → Option PeerClass
  | .registered _ _ register => if register.peerId = x then some register.peerClass else live
  | .removed _ y _ _ => if y = x then none else live
  | _ => live

/-- The class that is registered for an id after the events, if any is. -/
def classAfter (x : String) (tr : List (Event m)) : Option PeerClass :=
  tr.foldl (fun live e => e.changes x live) none

/-- The answer to a query for an id that is registered with a class, or not at all. -/
def statusAnswer (live : Option PeerClass) : Answer := ⟨live.isSome, live, live.isSome⟩

theorem answerOf_eq (reg : PeerRegistry) (x : String) :
    answerOf reg x = statusAnswer ((reg.peers x).map PeerRecord.peerClass) := by
  rw [answerOf, statusAnswer, Option.isSome_map]

theorem foldl_changes_receivedEvent (x : String) (live : Option PeerClass) (c : ConnId)
    (next : Next) :
    (receivedEvent m c next).foldl (fun live e => e.changes x live) live = live := by
  unfold receivedEvent
  split <;> rfl

theorem peers_removeByPeerId (reg : PeerRegistry) (x y : String) :
    ((reg.removeByPeerId y).1.peers x).map PeerRecord.peerClass =
      if y = x then none else (reg.peers x).map PeerRecord.peerClass := by
  rw [PeerRegistry.removeByPeerId_peers]
  by_cases hy : y = x
  · rw [if_pos hy, if_pos hy.symm]
    rfl
  · rw [if_neg hy, if_neg (Ne.symm hy)]

/-- A step changes the registry as its events say. -/
theorem Step.peerClass_eq {i : Input} {reg reg' : PeerRegistry} {pc pc' : Pc m}
    {evs : List (Event m)} (h : Step m i reg pc reg' pc' evs) (x : String) :
    (reg'.peers x).map PeerRecord.peerClass =
      evs.foldl (fun live e => e.changes x live) ((reg.peers x).map PeerRecord.peerClass) := by
  cases h with
  | @inserted envelope register hfree hpc hinsert =>
    show (Function.update reg.peers register.peerId _ x).map PeerRecord.peerClass =
      if register.peerId = x then some register.peerClass else _
    by_cases hx : register.peerId = x
    · subst hx
      rw [Function.update_self, if_pos rfl]
      rfl
    · rw [Function.update_of_ne (Ne.symm hx), if_neg hx]
  | first | message => exact (foldl_changes_receivedEvent ..).symm
  | rejected hevs => rcases hevs with rfl | rfl <;> rfl
  | @marked r =>
    show ((reg.markHeartbeat r.me.peerId i.instant).peers x).map PeerRecord.peerClass =
      (reg.peers x).map PeerRecord.peerClass
    rw [PeerRegistry.markHeartbeat_peers]
    split_ifs with hx
    · rw [hx, Option.map_map]
      rfl
    · rfl
  | evicted hq => exact peers_removeByPeerId ..
  | disconnected hpc => exact peers_removeByPeerId ..
  | cleaned => exact peers_removeByPeerId ..
  | _ => rfl

/-- **The registry is what the events have made of it.** -/
theorem peerClass_eq_classAfter {s : State m} {tr : List (Event m)}
    (h : (serve m).Reachable s tr) (x : String) :
    (s.registry.peers x).map PeerRecord.peerClass = classAfter x tr := by
  refine h.invariant (P := fun s tr =>
    (s.registry.peers x).map PeerRecord.peerClass = classAfter x tr) rfl ?_
  intro s s' tr evs i _ hs ih
  obtain ⟨pc, hstep, -⟩ := step_of_serve hs
  rw [hstep.peerClass_eq x, ih, classAfter, classAfter, List.foldl_append]

/-! ### What an answer goes back to -/

/-- The frame was received on the connection. -/
def Got (tr : List (Event m)) (c : ConnId) (parts : FrameParts) : Prop :=
  ∃ raw, .received c raw ∈ tr ∧ decodeFrame m raw = .ok parts

/-- Why the router sends a frame of its own to a connection. -/
inductive Grounds (tr : List (Event m)) (c : ConnId) (f : RouterFrame m) : Prop
  | refusal (hkind : f.envelope.kind = kindError) (hid : f.envelope.msgId = "unknown" ∨
      ∃ parts, Got tr c parts ∧ f.envelope.msgId = parts.envelope.msgId)
  | ack {parts : FrameParts} (hgot : Got tr c parts)
      (hid : f.envelope.msgId = parts.envelope.msgId) (hkind : f.envelope.kind = kindResponse)
      (hcause : parts.envelope.kind = kindRegister ∨ parts.envelope.kind = kindDisconnect)
  | echo {parts : FrameParts} (hgot : Got tr c parts)
      (hid : f.envelope.msgId = parts.envelope.msgId) (hkind : f.envelope.kind = kindHeartbeat)
      (hcause : parts.envelope.kind = kindHeartbeat)
  -- the registry is read after the query has arrived, and before the answer is sent
  | answer {parts : FrameParts} {body : QueryBody} {before : List (Event m)} (hbefore : before <+: tr)
      (hgot : Got before c parts) (hid : f.envelope.msgId = parts.envelope.msgId)
      (hkind : f.envelope.kind = kindResponse) (hcause : parts.envelope.kind = kindQuery)
      (hbody : decodeQueryBody m parts.bodyBytes = .ok body)
      (hf : (statusAnswer (classAfter body.peerId before)).encode m body = .ok f.body)

/-- What a connection is busy with was received on it. -/
def Pc.Grounded (tr : List (Event m)) (c : ConnId) : Pc m → Prop
  | .insert envelope _ => ∃ parts, Got tr c parts ∧ parts.envelope = envelope ∧
    envelope.kind = kindRegister
  | .lookup _ envelope body => ∃ parts, Got tr c parts ∧ parts.envelope = envelope ∧
    envelope.kind = kindQuery ∧ decodeQueryBody m parts.bodyBytes = .ok body
  | .disconnect _ envelope => ∃ parts, Got tr c parts ∧ parts.envelope = envelope ∧
    envelope.kind = kindDisconnect
  | .markHeartbeat r | .heartbeatTarget r => ∃ parts, Got tr c parts ∧ parts.envelope = r.envelope ∧
    r.envelope.kind = kindHeartbeat
  | .targetClass r | .targetExists r | .targetSender r | .forward r _ | .evict r _ =>
    ∃ parts, Got tr c parts ∧ parts.envelope = r.envelope
  | .reject f | .ack _ f | .reply _ f _ => Grounds tr c f
  | _ => True

section Grounded

variable {tr : List (Event m)} {c : ConnId}

theorem Got.mono {parts : FrameParts} (h : Got tr c parts) (evs : List (Event m)) :
    Got (tr ++ evs) c parts := by
  obtain ⟨raw, hraw, hparts⟩ := h
  exact ⟨raw, List.mem_append_left _ hraw, hparts⟩

theorem Grounds.mono {f : RouterFrame m} (h : Grounds tr c f) (evs : List (Event m)) :
    Grounds (tr ++ evs) c f := by
  cases h with
  | refusal hkind hid =>
    refine .refusal hkind (hid.imp_right ?_)
    rintro ⟨parts, hgot, hid⟩
    exact ⟨parts, hgot.mono evs, hid⟩
  | ack hgot hid hkind hcause => exact .ack (hgot.mono evs) hid hkind hcause
  | echo hgot hid hkind hcause => exact .echo (hgot.mono evs) hid hkind hcause
  | answer hbefore hgot hid hkind hcause hbody hf =>
    exact .answer (hbefore.trans (List.prefix_append ..)) hgot hid hkind hcause hbody hf

theorem Pc.Grounded.mono {pc : Pc m} (h : pc.Grounded tr c) (evs : List (Event m)) :
    pc.Grounded (tr ++ evs) c := by
  cases pc with
  | insert envelope register =>
    obtain ⟨parts, hgot, hrest⟩ := h
    exact ⟨parts, hgot.mono evs, hrest⟩
  | lookup me envelope body =>
    obtain ⟨parts, hgot, hrest⟩ := h
    exact ⟨parts, hgot.mono evs, hrest⟩
  | disconnect me envelope =>
    obtain ⟨parts, hgot, hrest⟩ := h
    exact ⟨parts, hgot.mono evs, hrest⟩
  | reject f | ack me f | reply me f after => exact Grounds.mono h evs
  | accept | first | loop me | cleanup me result | returned result => trivial
  | _ =>
    obtain ⟨parts, hgot, hrest⟩ := h
    exact ⟨parts, hgot.mono evs, hrest⟩

/-- A frame of the router goes out, or the connection ends. -/
theorem grounded_of_replies {me : Session} {after : After} {envelope : Envelope} {pc : Pc m}
    (h : Replies me after envelope pc)
    (hgrounds : ∀ f : RouterFrame m, f.envelope = envelope → Grounds tr c f) :
    pc.Grounded tr c := by
  rcases h with ⟨f, rfl, hf⟩ | ⟨-, e, rfl⟩
  · exact hgrounds f hf
  · trivial

/-- An error answers the frame that it names. -/
theorem grounded_replyError {parts : FrameParts} (hgot : Got tr c parts) (now : Float64)
    (me : Session) (code message : String) :
    (orLeave m (some me) (replyError m now me parts.envelope.msgId code message)).Grounded tr c := by
  refine grounded_of_replies (replies_replyError now me parts.envelope.msgId code message) ?_
  intro f hf
  refine .refusal ?_ (Or.inr ⟨parts, hgot, ?_⟩)
  · rw [hf]
    rfl
  · rw [hf]
    rfl

/-- A message that is no frame is answered under the id `"unknown"`. -/
theorem grounded_nonBinary (now : Float64) (me : Session) (code message : String) (after : After) :
    (orLeave m (some me) (do
      let f ← sendPeerError m now "unknown" code message
      .ok (.reply me f after))).Grounded tr c := by
  refine grounded_of_replies (builds_sendError now "unknown" code message).replies ?_
  intro f hf
  refine .refusal ?_ (Or.inl ?_)
  · rw [hf]
    rfl
  · rw [hf]
    rfl

/-- A frame that the message loop reads is answered, routed or looked up. -/
theorem grounded_onFrame {raw : Bytes} {parts : FrameParts} (hgot : Got tr c parts) (now : Float64)
    (me : Session) :
    (orLeave m (some me) (onFrame m now me raw parts)).Grounded tr c := by
  unfold onFrame
  dsimp only
  split_ifs with hfrom hquery hcall hresponse herror hheartbeat hdisconnect
  · exact grounded_replyError hgot ..
  · unfold handleQuery
    cases hbody : decodeQueryBody m parts.bodyBytes with
    | error e => trivial
    | ok body => exact ⟨parts, hgot, rfl, hquery, hbody⟩
  · unfold handleCall
    split_ifs
    · exact grounded_replyError hgot ..
    · exact ⟨parts, hgot, rfl⟩
  · unfold handleResponse
    split_ifs
    · exact grounded_replyError hgot ..
    · exact ⟨parts, hgot, rfl⟩
  · unfold handleError
    split_ifs
    · exact grounded_replyError hgot ..
    · exact ⟨parts, hgot, rfl⟩
  · exact ⟨parts, hgot, rfl, hheartbeat⟩
  · exact ⟨parts, hgot, rfl, hdisconnect⟩
  · exact grounded_replyError hgot ..

theorem grounded_onNext (now : Float64) (me : Session) (next : Next) :
    (onNext m now me next).Grounded (tr ++ receivedEvent m c next) c := by
  unfold onNext
  split
  · trivial
  · trivial
  · rename_i raw
    unfold onBinary
    cases hdecoded : decodeFrame m raw with
    | error e => trivial
    | ok parts =>
      refine grounded_onFrame ⟨raw, ?_, hdecoded⟩ now me
      exact List.mem_append_right _ List.mem_cons_self
  · trivial
  · trivial
  · trivial
  · exact grounded_nonBinary ..
  · exact grounded_nonBinary ..

/-- The rejection of a first frame answers it. -/
theorem grounded_reject {parts : FrameParts} (hgot : Got tr c parts) (now : Float64)
    (code message : String) :
    (orLeave m none (do
      let f ← sendErrorAndClose m now parts.envelope.msgId code message
      .ok (.reject f))).Grounded tr c := by
  rcases builds_sendError (m := m) now parts.envelope.msgId code message with
    ⟨f, hf, henvelope⟩ | ⟨-, e, he⟩
  · rw [sendErrorAndClose, hf]
    refine Grounds.refusal ?_ (Or.inr ⟨parts, hgot, ?_⟩)
    · rw [henvelope]
      rfl
    · rw [henvelope]
      rfl
  · rw [sendErrorAndClose, he]
    trivial

theorem grounded_onFirst (now : Float64) (next : Next) :
    (onFirst m now next).Grounded (tr ++ receivedEvent m c next) c := by
  unfold onFirst
  split
  · rename_i message
    unfold onFirstMessage
    cases message with
    | binary raw =>
      show (orLeave m none (decodeFrame m raw >>= _)).Grounded _ c
      cases hdecoded : decodeFrame m raw with
      | error e => trivial
      | ok parts =>
        have hgot : Got (tr ++ receivedEvent m c (some (.ok (.binary raw)))) c parts :=
          ⟨raw, List.mem_append_right _ List.mem_cons_self, hdecoded⟩
        show (orLeave m none (if parts.envelope.kind ≠ kindRegister then _ else _)).Grounded _ c
        split_ifs with hkind
        · exact grounded_reject hgot ..
        · show (orLeave m none (decodeRegisterBody m parts.bodyBytes >>= _)).Grounded _ c
          cases decodeRegisterBody m parts.bodyBytes with
          | error e => trivial
          | ok register =>
            show (orLeave m none (validateRegisterEnvelope parts.envelope register >>= _)).Grounded
              _ c
            cases validateRegisterEnvelope parts.envelope register with
            | error e => trivial
            | ok u => exact ⟨parts, hgot, rfl, not_not.mp hkind⟩
    | _ => trivial
  · trivial
  · trivial

/-- The answer to a query is what the registry says at the lookup. -/
theorem grounded_onLookup {me : Session} {parts : FrameParts} {body : QueryBody}
    {reg : PeerRegistry}
    (hconnected : ∀ x record, reg.peers x = some record → record.connected = true)
    (hclass : ∀ x, (reg.peers x).map PeerRecord.peerClass = classAfter x tr)
    (hgot : Got tr c parts) (hkind : parts.envelope.kind = kindQuery)
    (hbody : decodeQueryBody m parts.bodyBytes = .ok body) :
    (orLeave m (some me) (onLookup m me parts.envelope body
      (reg.lookupByPeerId body.peerId))).Grounded tr c := by
  rw [onLookup_eq hconnected, answerOf_eq, hclass]
  cases hencoded : (statusAnswer (classAfter body.peerId tr)).encode m body with
  | error e => trivial
  | ok response =>
    cases hsend : sendFrame m ⟨parts.envelope.v, kindResponse, parts.envelope.msgId, routerPeerId,
        me.peerId, parts.envelope.ts⟩ response rfl with
    | error e =>
      show (orLeave m (some me) (sendFrame m ⟨parts.envelope.v, kindResponse, parts.envelope.msgId,
        routerPeerId, me.peerId, parts.envelope.ts⟩ response rfl >>= _)).Grounded tr c
      rw [hsend]
      trivial
    | ok f =>
      show (orLeave m (some me) (sendFrame m ⟨parts.envelope.v, kindResponse, parts.envelope.msgId,
        routerPeerId, me.peerId, parts.envelope.ts⟩ response rfl >>= _)).Grounded tr c
      rw [hsend]
      have henvelope := envelope_of_sendFrame hsend
      refine Grounds.answer (List.prefix_refl tr) hgot ?_ ?_ hkind hbody ?_
      · rw [henvelope]
      · rw [henvelope]
      · rw [body_of_sendFrame hsend]
        exact hencoded

/-- **One await** of a connection: what it is busy with afterwards was received on it. -/
theorem grounded_of_connStep {i : Input} {reg reg' : PeerRegistry} {pc pc' : Pc m}
    {evs : List (Event m)}
    (hconnected : ∀ x record, reg.peers x = some record → record.connected = true)
    (hclass : ∀ x, (reg.peers x).map PeerRecord.peerClass = classAfter x tr)
    (h : pc.Grounded tr i.conn) (hstep : connStep m i reg pc = some (reg', pc', evs)) :
    pc'.Grounded (tr ++ evs) i.conn := by
  cases pc with
  | accept =>
    simp only [connStep, Option.some.injEq, Prod.mk.injEq] at hstep
    obtain ⟨-, rfl, -⟩ := hstep
    split_ifs <;> trivial
  | first =>
    simp only [connStep, Option.some.injEq, Prod.mk.injEq] at hstep
    obtain ⟨-, rfl, rfl⟩ := hstep
    exact grounded_onFirst ..
  | insert envelope register =>
    obtain ⟨parts, hgot, rfl, hkind⟩ := h
    simp only [connStep] at hstep
    split at hstep
    · simp only [Option.some.injEq, Prod.mk.injEq] at hstep
      obtain ⟨-, rfl, rfl⟩ := hstep
      rcases onInserted_cases (m := m) i.now parts.envelope register with ⟨f, hpc, hkind', hid⟩ | ⟨e, hpc⟩
      · rw [hpc]
        exact Grounds.ack (hgot.mono _) hid hkind' (Or.inl hkind)
      · rw [hpc]
        trivial
    · simp only [Option.some.injEq, Prod.mk.injEq] at hstep
      obtain ⟨-, rfl, rfl⟩ := hstep
      exact (grounded_reject hgot ..).mono []
    · simp only [Option.some.injEq, Prod.mk.injEq] at hstep
      obtain ⟨-, rfl, -⟩ := hstep
      trivial
  | reject f =>
    simp only [connStep] at hstep
    split_ifs at hstep <;> (cases hstep; trivial)
  | ack me f =>
    simp only [connStep] at hstep
    split_ifs at hstep <;> (cases hstep; trivial)
  | loop me =>
    simp only [connStep, Option.some.injEq, Prod.mk.injEq] at hstep
    obtain ⟨-, rfl, rfl⟩ := hstep
    exact grounded_onNext ..
  | reply me f after =>
    simp only [connStep] at hstep
    split_ifs at hstep
    · cases hstep
      cases after <;> trivial
    · cases hstep
      trivial
  | lookup me envelope body =>
    obtain ⟨parts, hgot, rfl, hkind, hbody⟩ := h
    have hlookup : connStep m i reg (.lookup me parts.envelope body) = some (reg,
        orLeave m (some me) (onLookup m me parts.envelope body (reg.lookupByPeerId body.peerId)),
        []) := by
      cases body <;> rfl
    rw [hlookup] at hstep
    simp only [Option.some.injEq, Prod.mk.injEq] at hstep
    obtain ⟨-, rfl, rfl⟩ := hstep
    exact (grounded_onLookup hconnected hclass hgot hkind hbody).mono []
  | markHeartbeat r =>
    obtain ⟨parts, hgot, hrest⟩ := h
    simp only [connStep, Option.some.injEq, Prod.mk.injEq] at hstep
    obtain ⟨-, rfl, rfl⟩ := hstep
    exact ⟨parts, hgot.mono [], hrest⟩
  | heartbeatTarget r =>
    obtain ⟨parts, hgot, hparts, hkind⟩ := h
    simp only [connStep, Option.some.injEq, Prod.mk.injEq] at hstep
    obtain ⟨-, rfl, rfl⟩ := hstep
    refine Pc.Grounded.mono ?_ []
    cases reg.snapshotPeerExists r.envelope.toPeer with
    | true => exact ⟨parts, hgot, hparts⟩
    | false =>
      refine grounded_of_replies (replies_onHeartbeatTarget r) ?_
      intro f hf
      refine .echo hgot ?_ ?_ (by rw [hparts, hkind])
      · rw [hf, hparts]
        rfl
      · rw [hf]
        rfl
  | targetClass r =>
    obtain ⟨parts, hgot, hparts⟩ := h
    simp only [connStep, Option.some.injEq, Prod.mk.injEq] at hstep
    obtain ⟨-, rfl, rfl⟩ := hstep
    refine Pc.Grounded.mono ?_ []
    unfold onTargetClass
    split
    · exact ⟨parts, hgot, hparts⟩
    · rw [← hparts]
      exact grounded_replyError hgot ..
  | targetExists r =>
    obtain ⟨parts, hgot, hparts⟩ := h
    simp only [connStep, Option.some.injEq, Prod.mk.injEq] at hstep
    obtain ⟨-, rfl, rfl⟩ := hstep
    refine Pc.Grounded.mono ?_ []
    unfold onTargetExists
    split_ifs
    · exact ⟨parts, hgot, hparts⟩
    · rw [← hparts]
      exact grounded_replyError hgot ..
  | targetSender r =>
    obtain ⟨parts, hgot, hparts⟩ := h
    simp only [connStep, Option.some.injEq, Prod.mk.injEq] at hstep
    obtain ⟨-, rfl, rfl⟩ := hstep
    refine Pc.Grounded.mono ?_ []
    cases reg.senderByPeerId r.envelope.toPeer with
    | some sink => exact ⟨parts, hgot, hparts⟩
    | none =>
      unfold onTargetSender
      rw [← hparts]
      exact grounded_replyError hgot ..
  | forward r target =>
    obtain ⟨parts, hgot, hparts⟩ := h
    simp only [connStep] at hstep
    split_ifs at hstep
    · cases hstep
      trivial
    · cases hstep
      exact ⟨parts, hgot.mono _, hparts⟩
  | evict r target =>
    obtain ⟨parts, hgot, hparts⟩ := h
    simp only [connStep, Option.some.injEq, Prod.mk.injEq] at hstep
    obtain ⟨-, rfl, rfl⟩ := hstep
    refine Pc.Grounded.mono ?_ _
    unfold onEvicted
    rw [← hparts]
    exact grounded_replyError hgot ..
  | disconnect me envelope =>
    obtain ⟨parts, hgot, rfl, hkind⟩ := h
    simp only [connStep, Option.some.injEq, Prod.mk.injEq] at hstep
    obtain ⟨-, rfl, rfl⟩ := hstep
    refine Pc.Grounded.mono (grounded_of_replies (replies_onDisconnected me parts.envelope) ?_) _
    intro f hf
    refine .ack hgot ?_ ?_ (Or.inr hkind)
    · rw [hf]
      rfl
    · rw [hf]
      rfl
  | cleanup me result =>
    cases hstep
    trivial
  | returned result => cases hstep

end Grounded

/-! ### The invariant -/

theorem grounded {s : State m} {tr : List (Event m)} (h : (serve m).Reachable s tr) :
    ∀ c, (s.conns c).Grounded tr c := by
  refine h.invariant (P := fun s tr => ∀ c, (s.conns c).Grounded tr c) (fun c => trivial) ?_
  intro s s' tr evs i hreach hs ih c
  by_cases hc : i.conn = c
  · subst hc
    exact grounded_of_connStep (fun x record hx => (entriesOwned hreach x record hx).1)
      (peerClass_eq_classAfter hreach) (ih i.conn) (connStep_of_serve hs)
  · rw [(step_of_ne hs hc).1]
    exact (ih c).mono evs

/-- **Every frame of the router itself has its grounds**, in the events before it. -/
theorem grounds_of_wrote {s : State m} {tr : List (Event m)} (h : (serve m).Reachable s tr) :
    Historic (fun before e => ∀ c sink f, e = .wrote c sink (.generated f) →
      sink = c ∧ Grounds before c f) tr := by
  refine h.invariant (P := fun _ tr => Historic _ tr) historic_nil ?_
  intro s s' tr evs i hreach hs ih
  refine historic_append ih ?_
  rintro before e after hevs c sink f rfl
  obtain ⟨pc, hstep, -⟩ := step_of_serve hs
  have hmem : .wrote c sink (.generated f) ∈ evs := by
    rw [hevs]
    exact List.mem_append_right _ List.mem_cons_self
  obtain rfl : c = i.conn := hstep.conn_eq _ hmem
  obtain ⟨rfl, -, hpc⟩ := hstep.generated_cases hmem
  refine ⟨rfl, Grounds.mono ?_ before⟩
  have hgrounded := grounded hreach i.conn
  rcases hpc with hreject | ⟨me, -, hanswer⟩
  · rw [hreject] at hgrounded
    exact hgrounded
  · cases hconn : s.conns i.conn with
    | ack me' f' =>
      rw [hconn] at hgrounded hanswer
      obtain ⟨-, rfl⟩ := Prod.mk.inj (Option.some.inj hanswer)
      exact hgrounded
    | reply me' f' after =>
      rw [hconn] at hgrounded hanswer
      obtain ⟨-, rfl⟩ := Prod.mk.inj (Option.some.inj hanswer)
      exact hgrounded
    | _ =>
      rw [hconn] at hanswer
      cases hanswer

/-- **The router answers what it was sent, and says nothing else.**  A frame of its own goes to the
connection whose task writes it; it is an error under the id of a frame of this connection (or under
`"unknown"`), the acknowledgement of a register or a disconnect frame, the echo of a heartbeat, or the
answer to a query, with what was registered for the id at a moment after the query was received. -/
theorem router_frames_grounded {s : State m} {tr : List (Event m)} (h : (serve m).Reachable s tr) :
    ∀ before after c sink f, tr = before ++ .wrote c sink (.generated f) :: after →
      sink = c ∧ Grounds before c f :=
  fun before after c sink f htrace => grounds_of_wrote h before _ after htrace c sink f rfl

/-- The acknowledgement of a registration, an error for a call to nobody and the answer to a query. -/
theorem router_frames_grounded_three : ∃ s tr, (serve msgPackSerde).Reachable s tr ∧
    (writesBy 0 tr).length = 3 ∧
    ∀ before after c sink f, tr = before ++ .wrote c sink (.generated f) :: after →
      sink = c ∧ Grounds before c f := by
  obtain ⟨s, tr, hrun, hp⟩ := (serve msgPackSerde).exists_reachable_of_exec
    (join 0 "a" .caller ++ [recv 0 (plainBytes "call" "a" "b"), go 0, go 0,
      recv 0 (frameBytes (buildEnvelope kindQuery "q" "a" routerPeerId .one) (MsgPack.encode (.map
        [(.str "query", .str "peer.exists"), (.str "peer_id", .str "a")]))), go 0, go 0])
    (fun _ tr => (writesBy 0 tr).length == 3) (by decide +kernel)
  exact ⟨s, tr, hrun, beq_iff_eq.mp hp, router_frames_grounded hrun⟩

end Multifrost.Router
