import Multifrost.Network.Queries
import Multifrost.Router.Safety.Disposal

/-!
# Calls that fail, from end to end

The error frame that answers a `call_to` tells whether the call was executed.  If it becomes a
`RouterUnavailable`, the call was not, and will not be, so that it may be tried again
(`unavailable_not_executed`); if it becomes a `RemoteCallError`, it was, once, and this is the error of
the worker (`remote_error_executed`).  There is no such conclusion from the `RouterUnavailable` that
`send_and_wait` returns by itself when the connection has ended before the answer: whether that call was
executed, its caller does not learn.

An error frame has a body that tells its origin (`callFailure_of_returned`): the router writes its own
kind into it, and a service the kind of the application for an error of its worker and that of the
protocol for all others (`Explains`).  A frame that the router refuses is not forwarded as well, and the
frame of a request is sent once, so that no service ever reads it (`not_executed_of_refused`).
-/

namespace Multifrost.Network

open MsgPack (Value)
open Router (ConnId Envelope FrameParts Message RmpSerde RouterFrame kindCall kindError kindQuery)
open Rust (MultifrostError RegisterSerde)
open Rust.CallerTransport (Config Outgoing ReqId RequestSerde callRequest callReturn)
open Rust.Service (CallSerde callFrame)
open TransitionSystem

variable {m : RmpSerde} {r : RegisterSerde} {V ω R : Type} {c : CallSerde V}
  {debug : Message → String} {limit : Nat} {nodes : ConnId → Node m V ω} {ids : String → Prop}

/-- The error is written by the router or by a service, without a stack and details. -/
def WritesError (m : RmpSerde) (c : CallSerde V) (code message kind : String) (bytes : Bytes) : Prop :=
  m.errorBodyToVecNamed ⟨code, message, kind, none, none⟩ = .ok bytes ∨
    c.errorBodyToVecNamed ⟨code, message, kind, none, none⟩ = .ok bytes

/-- Errors without a stack and details, as the router and the services send them, are read as they
were written. -/
def ErrorsReadBack (m : RmpSerde) (c : CallSerde V) (read : Bytes → Except String Value) : Prop :=
  ∀ code message kind bytes, WritesError m c code message kind bytes → bytes.length < 2 ^ 32 →
    Rust.decodeErrorBody read bytes = .ok ⟨code, message, kind, none, none⟩

/-! ### The errors of a service -/

/-- The frame is no error, or it is one of the protocol, or it is the error that the worker has returned
for the call under its id. -/
def Explains (m : RmpSerde) (c : CallSerde V) (evs : List (NodeEvent V)) (frame : Bytes) : Prop :=
  ∃ envelope body, Rust.encodeFrame m envelope body = .ok frame ∧
    (envelope.kind = kindError → ∃ code message kind,
      c.errorBodyToVecNamed ⟨code, message, kind, none, none⟩ = .ok body ∧
      (kind = "protocol" ∨ kind = "application" ∧ ∃ call, .executed call (.error message) ∈ evs ∧
        envelope.msgId = call.envelope.msgId))

theorem Explains.mono {evs evs' : List (NodeEvent V)} {frame : Bytes} (h : Explains m c evs frame)
    (hevs : ∀ e ∈ evs, e ∈ evs') : Explains m c evs' frame := by
  obtain ⟨envelope, body, hencoded, herror⟩ := h
  refine ⟨envelope, body, hencoded, fun hkind => ?_⟩
  obtain ⟨code, message, kind, hbody, hprotocol | ⟨happlication, call, hexecuted, hid⟩⟩ := herror hkind
  · exact ⟨code, message, kind, hbody, .inl hprotocol⟩
  · exact ⟨code, message, kind, hbody, .inr ⟨happlication, call, hevs _ hexecuted, hid⟩⟩

/-- A frame that is no error. -/
theorem explains_of_carries {P : Envelope → Prop} {evs : List (NodeEvent V)} {frame : Bytes}
    (hp : ∀ envelope, P envelope → envelope.kind ≠ kindError) (h : Carries m P frame) :
    Explains m c evs frame := by
  obtain ⟨envelope, body, hencoded, henvelope⟩ := h
  exact ⟨envelope, body, hencoded, fun herror => absurd herror (hp envelope henvelope)⟩

theorem kind_ne_of_isControl {envelope : Envelope} (h : IsControl ids envelope) :
    envelope.kind ≠ kindError := by
  rcases h.1 with hkind | hkind
  · rw [hkind]
    decide
  · rw [hkind]
    decide

/-- An error that is built from its body. -/
theorem explains_of_error {code message kind : String} {envelope : Envelope}
    {evs : List (NodeEvent V)} {frame : Bytes}
    (hkind : kind = "protocol" ∨ kind = "application" ∧ ∃ call, .executed call (.error message) ∈ evs ∧
      envelope.msgId = call.envelope.msgId)
    (h : (do
      let body ← Rust.Service.encodeErrorBody c ⟨code, message, kind, none, none⟩
      Rust.encodeFrame m envelope body) = .ok frame) : Explains m c evs frame := by
  cases hbody : Rust.Service.encodeErrorBody c ⟨code, message, kind, none, none⟩ with
  | error err =>
    rw [hbody] at h
    cases h
  | ok body =>
    rw [hbody] at h
    exact ⟨envelope, body, h, fun _ => ⟨code, message, kind, eq_ok_of_mapError hbody, hkind⟩⟩

section Service

variable {peerId : String} {handleCall : String → List V → ω → Except String V × ω} {worker : ω}

/-- The frame that answers a call, with the execution of the call if it is one. -/
theorem explains_handleCallFrame (env : Rust.Service.Environment V ω) (call : FrameParts)
    (w : Rust.Service.World ω) :
    ∃ frames, (Rust.Service.handleCallFrame m c env peerId call w).2.sent = w.sent ++ frames ∧
      ∀ frame ∈ frames, Explains m c ((acceptedBody c call).toList.map fun body =>
        .executed call (env.handleCall body.function body.args w.worker).1) frame := by
  unfold Rust.Service.handleCallFrame
  cases hbody : Rust.Service.decodeCallBody c call.bodyBytes with
  | error text =>
    dsimp only [Rust.Service.sendError]
    obtain ⟨frames, hsent, -, hframes⟩ := sent_sendBuilt env _ w
    exact ⟨frames, hsent, fun frame hmem => explains_of_error (.inl rfl) (hframes frame hmem)⟩
  | ok body =>
    dsimp only
    cases hns : body.callNamespace.filter (· ≠ "default") with
    | some ns =>
      dsimp only [Rust.Service.sendError]
      obtain ⟨frames, hsent, -, hframes⟩ := sent_sendBuilt env _ w
      exact ⟨frames, hsent, fun frame hmem => explains_of_error (.inl rfl) (hframes frame hmem)⟩
    | none =>
      have hsome : acceptedBody c call = some body := by
        rw [acceptedBody, hbody]
        simp only [hns, if_true]
      rw [hsome]
      rcases hcall : env.handleCall body.function body.args w.worker with ⟨text | value, worker⟩
      · dsimp only
        obtain ⟨frames, hsent, -, hframes⟩ := sent_sendBuilt env _ { w with worker := worker }
        refine ⟨frames, hsent, fun frame hmem => explains_of_error (.inr ⟨rfl, call, ?_, ?_⟩)
          (hframes frame hmem)⟩
        · rw [Option.toList_some, List.map_singleton, hcall]
          exact List.mem_singleton_self _
        · rfl
      · dsimp only
        obtain ⟨frames, hsent, -, hframes⟩ := sent_sendBuilt env _ { w with worker := worker }
        refine ⟨frames, hsent, fun frame hmem => explains_of_carries
          (P := fun e => e.kind = Router.kindResponse) ?_ (carries_of_bind rfl (hframes frame hmem))⟩
        intro envelope hkind
        rw [hkind]
        decide

/-- The events of a step, from the frames that are new in its world. -/
theorem explains_serviceEvents {i : Rust.Service.Input} {s s' : Rust.Service.State ω}
    {frames : List Bytes} {called : Option (FrameParts × Rust.Service.CallBody V)}
    (hcalled : calledIn m c peerId i s.pc = called)
    (hsent : s'.world.sent = s.world.sent ++ frames)
    (hframes : ∀ frame ∈ frames, Explains m c (called.toList.map fun called =>
      .executed called.1 (handleCall called.2.function called.2.args s.world.worker).1) frame) :
    ∀ frame, .sent frame ∈ serviceEvents m c peerId handleCall i s s'.world.sent →
      Explains m c (serviceEvents m c peerId handleCall i s s'.world.sent) frame := by
  rw [hsent, serviceEvents_eq, hcalled]
  intro frame hmem
  rcases List.mem_append.mp hmem with hexecuted | hnew
  · obtain ⟨call, -, heq⟩ := List.mem_map.mp hexecuted
    cases heq
  · obtain ⟨frame', hframe, heq⟩ := List.mem_map.mp hnew
    obtain rfl := NodeEvent.sent.inj heq
    exact (hframes frame' hframe).mono fun _ he => List.mem_append_left _ he

/-- One step of a service. -/
theorem explains_serviceStep {i : Rust.Service.Input} {w : Rust.Service.World ω}
    {pc : Rust.Service.Pc} {s' : Rust.Service.State ω}
    (h : Rust.Service.serviceStep m r c debug handleCall peerId i w pc = some s') :
    ∀ frame, .sent frame ∈ serviceEvents m c peerId handleCall i ⟨pc, w⟩ s'.world.sent →
      Explains m c (serviceEvents m c peerId handleCall i ⟨pc, w⟩ s'.world.sent) frame := by
  cases pc with
  | register =>
    obtain ⟨frames, hsent, -, hframes⟩ := sent_sendBuilt (i.environment handleCall)
      (Rust.registerFrame m r peerId .service i.newMsgId i.now) w
    refine explains_serviceEvents rfl (?_ : s'.world.sent = w.sent ++ frames) fun frame hmem => ?_
    · rw [world_of_register h]
      exact hsent
    · obtain ⟨body, hencoded⟩ := encodeFrame_of_registerFrame (hframes frame hmem)
      exact ⟨_, body, hencoded, fun herror => absurd herror
        (by decide : Router.kindRegister ≠ kindError)⟩
  | reply =>
    refine explains_serviceEvents rfl (?_ : s'.world.sent = w.sent ++ []) (List.forall_mem_nil _)
    rw [List.append_nil]
    simp only [Rust.Service.serviceStep] at h
    split at h
    · cases h
      rfl
    · cases h
      rfl
  | loop =>
    cases hnext : i.next with
    | none =>
      simp only [Rust.Service.serviceStep, hnext] at h
      cases h
      have hcalled : calledIn m c peerId i .loop = none := by
        simp only [calledIn, hnext, Option.bind_eq_bind, Option.bind_none]
      exact explains_serviceEvents hcalled (List.append_nil _).symm (List.forall_mem_nil _)
    | some message =>
      have hworld := world_of_loop hnext h
      rw [Rust.Service.handleMessage_eq] at hworld
      cases hcall : callFrame m peerId message with
      | none =>
        rw [hcall] at hworld
        have hcalled : calledIn m c peerId i .loop = none := by
          simp only [calledIn, hnext, hcall, Option.bind_eq_bind, Option.bind_some, Option.bind_none]
        refine explains_serviceEvents hcalled (?_ : s'.world.sent = w.sent ++ [])
          (List.forall_mem_nil _)
        rw [hworld, List.append_nil]
      | some call =>
        rw [hcall] at hworld
        have hcalled : calledIn m c peerId i .loop =
            (acceptedBody c call).map fun body => (call, body) := by
          simp only [calledIn, hnext, hcall, Option.bind_eq_bind, Option.bind_some]
          cases acceptedBody c call <;> rfl
        obtain ⟨frames, hsent, hframes⟩ :=
          explains_handleCallFrame (m := m) (c := c) (i.environment handleCall) call w
        refine explains_serviceEvents hcalled (?_ : s'.world.sent = w.sent ++ frames) ?_
        · rw [hworld, (afterCall_world _).1]
          exact hsent
        · intro frame hmem
          have hexplains := hframes frame hmem
          cases hbody : acceptedBody c call with
          | none =>
            rw [hbody] at hexplains
            exact hexplains
          | some body =>
            rw [hbody] at hexplains
            exact hexplains
  | disconnect =>
    obtain ⟨frames, hsent, -, hframes⟩ := sent_sendBuilt (i.environment handleCall)
      (Rust.encodeFrame m (Rust.CallerTransport.buildDisconnectEnvelope peerId Router.routerPeerId
        i.newMsgId i.now) []) w
    cases h
    refine explains_serviceEvents rfl hsent fun frame hmem => ?_
    exact ⟨_, [], hframes frame hmem, fun herror => absurd herror
      (by decide : Router.kindDisconnect ≠ kindError)⟩
  | returned result => cases h

/-- **The errors of a service.** -/
theorem explains_of_service {C : NodeState ω → List (NodeEvent V) → NodeInput → Prop}
    {s : NodeState ω} {tr : List (NodeEvent V)}
    (h : ((Node.service peerId handleCall worker : Node m V ω).system m r c debug).Run C s tr) :
    ∀ frame, .sent frame ∈ tr → Explains m c tr frame := by
  refine h.invariant (P := fun _ tr => ∀ frame, .sent frame ∈ tr → Explains m c tr frame)
    (fun _ hmem => by cases hmem) ?_
  intro s s' tr evs i _ _ hs ih frame hmem
  rcases List.mem_append.mp hmem with hold | hnew
  · exact (ih frame hold).mono fun _ he => List.mem_append_left _ he
  · refine Explains.mono ?_ fun _ he => List.mem_append_right _ he
    cases s with
    | caller conn => cases i <;> cases hs
    | service svc =>
      cases i with
      | caller i => cases hs
      | service i =>
        obtain ⟨⟨svc', evs'⟩, hstep, heq⟩ := Option.map_eq_some_iff.mp hs
        obtain ⟨rfl, rfl⟩ := Prod.mk.inj heq
        obtain ⟨s₁, hservice, heq⟩ := Option.map_eq_some_iff.mp hstep
        obtain ⟨rfl, -⟩ := Prod.mk.inj heq
        exact explains_serviceStep hservice frame hnew

end Service

section Network

variable {s : NetworkState m ω} {tr : List (NetworkEvent m V)} {k : ConnId} {q : ReqId}
  {o : Outgoing m}

/-- **The errors of a process**, whether it is a service or a caller. -/
theorem explains_of_sent (h : (network m r c debug limit nodes).Run (Fresh m ids) s tr)
    {raw : Bytes} (hmem : .leaf k (.sent raw) ∈ tr) : Explains m c (leafTrace k tr) raw := by
  have hnode := run_of_node h k
  have hsent := mem_leafTrace.mpr hmem
  cases hk : nodes k with
  | caller config request =>
    rw [hk] at hnode
    rcases origin_of_caller hnode raw hsent with hcontrol | ⟨q, rfl, -⟩
    · exact explains_of_carries (fun _ => kind_ne_of_isControl) hcontrol
    · refine ⟨_, _, (request q).encoded, fun herror => ?_⟩
      rcases (request q).request with hcall | hquery
      · rw [herror] at hcall
        exact absurd hcall (by decide)
      · rw [herror] at hquery
        exact absurd hquery (by decide)
  | service peerId handleCall worker =>
    rw [hk] at hnode
    exact explains_of_service hnode raw hsent

/-! ### The errors of calls -/

/-- Where the error comes from that answers a call: the router has refused it, a service could not read
it, or its worker has executed it. -/
inductive CallFailure (tr : List (NetworkEvent m V)) (k : ConnId) (o : Outgoing m)
    (body : Router.ErrorBody) : Prop
  | refused {f : RouterFrame m} {code : String} (hwrote : .wrote k k (.generated f) ∈ hubTrace tr)
      (hid : f.envelope.msgId = o.envelope.msgId)
      (hencoded : Router.encodeErrorBody m (Router.buildErrorBody code body.message) = .ok f.body)
      (hkind : body.kind = "router")
  | protocol (hkind : body.kind = "protocol")
  | executed {k' : ConnId} (hkind : body.kind = "application")
      (hexecuted : .leaf k' (.executed ⟨o.envelope, o.body⟩ (.error body.message)) ∈ tr)

/-- **What a call has failed with.** -/
theorem callFailure_of_returned (hm : ReadsBack m) (hlimit : limit < 2 ^ 32)
    (hids : DistinctIds nodes) {read : Bytes → Except String Value} (herrors : ErrorsReadBack m c read)
    (h : (network m r c debug limit nodes).Run (Fresh m (requestIds nodes)) s tr)
    (ho : (nodes k).outgoing q = some o) {frame : FrameParts}
    (hreturned : requestsOf (s.leaf k) q = .returned (.ok frame))
    (hkind : frame.envelope.kind = kindError) {body : Router.ErrorBody}
    (hbody : Rust.decodeErrorBody read frame.bodyBytes = .ok body) : CallFailure tr k o body := by
  obtain ⟨config, request, hnode, rfl⟩ := outgoing_eq_some ho
  have hrun := run_of_node h k
  rw [hnode] at hrun
  have hcompleted := completed_of_returned hrun hreturned
  have hid := msgId_of_completed hrun hcompleted
  have hmem : frame ∈ completedBy k tr := mem_completedBy.mpr ⟨q, mem_leafTrace.mp hcompleted⟩
  obtain ⟨raw, hwritten, hparts⟩ := written_of_answer h (List.mem_append_left _ hmem)
  obtain ⟨hlength, hdecoded⟩ := partsIn_eq_some.mp hparts
  have hshort : frame.bodyBytes.length < 2 ^ 32 :=
    (length_bodyBytes_le hdecoded).trans_lt (hlength.trans_lt hlimit)
  -- the body that the caller reads is the one that was written
  have hread : ∀ code message kind,
      WritesError m c code message kind frame.bodyBytes →
      body = ⟨code, message, kind, none, none⟩ := by
    intro code message kind hbytes
    rw [herrors code message kind _ hbytes hshort] at hbody
    exact (Except.ok.inj hbody).symm
  obtain ⟨k', out, hwrote, rfl⟩ := mem_written.mp hwritten
  rcases wrote_cases h hwrote with ⟨raw, rfl, hsent⟩ | ⟨f, rfl, -⟩
  · obtain ⟨envelope, bytes, hencoded, herror⟩ := explains_of_sent h hsent
    obtain rfl := eq_of_decodeFrame hm hencoded (hlength.trans_lt hlimit) hdecoded
    obtain ⟨code, message, kind, hbytes, hcause⟩ := herror hkind
    obtain rfl := hread code message kind (.inr hbytes)
    rcases hcause with hprotocol | ⟨happlication, call, hexecuted, hcall⟩
    · exact .protocol hprotocol
    · obtain ⟨k₁, q₁, o₁, ho₁, rfl, -⟩ :=
        request_of_executed hm hlimit h (mem_leafTrace.mp hexecuted)
      obtain ⟨rfl, rfl⟩ := hids k₁ q₁ o₁ k q _ ho₁ ho (hcall.symm.trans hid)
      obtain rfl := Option.some.inj (ho₁.symm.trans ho)
      exact .executed happlication (mem_leafTrace.mp hexecuted)
  · obtain ⟨before, after, htrace⟩ := List.append_of_mem hwrote
    obtain ⟨rfl, -⟩ := Router.grounds_of_wrote (Run.hub h) before _ after htrace k' k f rfl
    obtain rfl := eq_of_decodeFrame hm (encodeFrame_of_router f.encoded) (hlength.trans_lt hlimit)
      hdecoded
    obtain ⟨code, message, hencoded⟩ := Router.refuses_of_wrote (Run.hub h) hwrote hkind
    obtain rfl := hread code message "router" (.inl (eq_ok_of_mapError hencoded))
    exact .refused hwrote hid hencoded rfl

/-- The router receives the id of a request once at most. -/
theorem count_receivedIds_le (hm : ReadsBack m) (hlimit : limit < 2 ^ 32) (hids : DistinctIds nodes)
    (h : (network m r c debug limit nodes).Run (Fresh m (requestIds nodes)) s tr)
    (ho : (nodes k).outgoing q = some o) (hlength : o.frame.length < 2 ^ 32) :
    (Router.receivedIds k (hubTrace tr)).count o.envelope.msgId ≤ 1 := by
  obtain ⟨config, request, hnode, rfl⟩ := outgoing_eq_some ho
  have hrun := run_of_node h k
  rw [hnode] at hrun
  -- whatever the caller sends under this id is the request
  have hsame : ∀ raw ∈ Router.receivedOn k (hubTrace tr),
      (Router.idIn m raw == some (request q).envelope.msgId) = true →
      (raw == (request q).frame) = true := by
    intro raw hreceived hid
    obtain ⟨hsent, hraw⟩ := sent_of_received h (Router.mem_receivedOn.mp hreceived)
    obtain ⟨parts, hdecoded, hmsgId⟩ := Router.idIn_eq_some (beq_iff_eq.mp hid)
    have hparts := router_decodeFrame_iff.mp hdecoded
    rw [beq_iff_eq]
    rcases origin_of_caller hrun raw (mem_leafTrace.mpr hsent) with
      ⟨envelope, body, hencoded, hcontrol⟩ | ⟨q', rfl, -⟩
    · obtain rfl := eq_of_decodeFrame hm hencoded (hraw.trans_lt hlimit) hparts
      exact absurd ⟨k, q, _, ho, hmsgId.symm⟩ hcontrol.2
    · obtain rfl := eq_of_decodeFrame hm (request q').encoded (hraw.trans_lt hlimit) hparts
      rw [hids.eq_of_msgId hnode q' hmsgId]
  calc (Router.receivedIds k (hubTrace tr)).count (request q).envelope.msgId
      = (Router.receivedOn k (hubTrace tr)).countP
          (fun raw => Router.idIn m raw == some (request q).envelope.msgId) :=
        List.count_filterMap
    _ ≤ (Router.receivedOn k (hubTrace tr)).count (request q).frame := List.countP_mono_left hsame
    _ ≤ (sentBy k tr).count (request q).frame := (receivedOn_initial h k).sublist.count_le _
    _ ≤ 1 := (count_sent_le hm hrun (hids.eq_of_msgId hnode) hlength).1

/-- **A call that the router refuses is not executed.** -/
theorem not_executed_of_refused (hm : ReadsBack m) (hlimit : limit < 2 ^ 32)
    (hids : DistinctIds nodes)
    (h : (network m r c debug limit nodes).Run (Fresh m (requestIds nodes)) s tr)
    (ho : (nodes k).outgoing q = some o) (hknown : o.envelope.msgId ≠ "unknown")
    {f : RouterFrame m} (hrefused : .wrote k k (.generated f) ∈ hubTrace tr)
    (hid : f.envelope.msgId = o.envelope.msgId) :
    ∀ k' call result, .leaf k' (.executed call result) ∈ tr →
      call.envelope.msgId ≠ o.envelope.msgId := by
  intro k' call result hexecuted hcall
  obtain ⟨raw, -, hwritten, hin⟩ := written_of_executed h hexecuted
  obtain ⟨hlength, hdecoded, hkind⟩ := callIn_eq_some.mp hin
  have hshort := hlength.trans_lt hlimit
  obtain ⟨k₁, q₁, o₁, hforwarded, -, ho₁, rfl, rfl⟩ :=
    call_of_written hm h hwritten hshort hdecoded hkind
  obtain ⟨rfl, rfl⟩ := hids k₁ q₁ o₁ k q o ho₁ ho hcall
  obtain rfl := Option.some.inj (ho₁.symm.trans ho)
  -- it was forwarded and answered, so it would have been received twice
  rcases Router.two_le_count_of_wrote (Run.hub h) hforwarded (router_decodeFrame_iff.mpr hdecoded)
    hrefused hid with hunknown | htwice
  · rw [hid] at hunknown
    exact hknown hunknown
  · have honce := count_receivedIds_le hm hlimit hids h ho hshort
    rw [hid] at htwice
    omega

/-- **A call that is answered by an error frame and fails with `RouterUnavailable` is not executed.**
The text of the error is the one that the router has given for it. -/
theorem unavailable_not_executed (hm : ReadsBack m) (hlimit : limit < 2 ^ 32)
    (hids : DistinctIds nodes) {read : Bytes → Except String Value} (herrors : ErrorsReadBack m c read)
    (h : (network m r c debug limit nodes).Run (Fresh m (requestIds nodes)) s tr)
    {b : RequestSerde V} {peerId target function msgId : String} {args : List V} {ts : Float64}
    (ho : (nodes k).outgoing q = some o)
    (hrequest : callRequest m b peerId target function args msgId ts = .ok o)
    (hknown : msgId ≠ "unknown") {frame : FrameParts}
    (hreturned : requestsOf (s.leaf k) q = .returned (.ok frame))
    {fromValue : V → Except String R} {text : String}
    (hvalue : callReturn b read fromValue frame = .error (.transport (.routerUnavailable text))) :
    (∃ f : RouterFrame m, ∃ code, .wrote k k (.generated f) ∈ hubTrace tr ∧
      f.envelope.msgId = msgId ∧
      Router.encodeErrorBody m (Router.buildErrorBody code text) = .ok f.body) ∧
    ∀ k' call result, .leaf k' (.executed call result) ∈ tr → call.envelope.msgId ≠ msgId := by
  obtain ⟨henvelope, -⟩ := Rust.CallerTransport.callRequest_eq_ok hrequest
  have hid : o.envelope.msgId = msgId := by
    rw [henvelope]
    rfl
  subst hid
  obtain ⟨hkind, body, hbody, herror⟩ :=
    Rust.CallerTransport.callReturn_eq_error hvalue fun _ heq => by cases heq
  obtain ⟨hrouter, rfl⟩ := Rust.CallerTransport.errorOfKind_eq_unavailable herror
  cases callFailure_of_returned hm hlimit hids herrors h ho hreturned hkind hbody with
  | @refused f code hwrote hmsgId hencoded hkind' =>
    exact ⟨⟨f, code, hwrote, hmsgId, hencoded⟩,
      not_executed_of_refused hm hlimit hids h ho hknown hwrote hmsgId⟩
  | protocol hother =>
    rw [hrouter] at hother
    exact absurd hother (by decide)
  | executed hother hexecuted =>
    rw [hrouter] at hother
    exact absurd hother (by decide)

/-- **A call that fails with `RemoteCallError` was executed**, once, with the error whose text it has
got. -/
theorem remote_error_executed (hm : ReadsBack m) (hlimit : limit < 2 ^ 32)
    (hids : DistinctIds nodes) {b : RequestSerde V} (hbodies : BodiesReadBack b c)
    {read : Bytes → Except String Value} (herrors : ErrorsReadBack m c read)
    (h : (network m r c debug limit nodes).Run (Fresh m (requestIds nodes)) s tr)
    {peerId target function msgId : String} {args : List V} {ts : Float64}
    (ho : (nodes k).outgoing q = some o)
    (hrequest : callRequest m b peerId target function args msgId ts = .ok o) {frame : FrameParts}
    (hreturned : requestsOf (s.leaf k) q = .returned (.ok frame))
    {fromValue : V → Except String R} {text : String}
    (hvalue : callReturn b read fromValue frame = .error (.transport (.remoteCallError text))) :
    ∃ before k' after, tr = before ++ .leaf k' (.executed ⟨o.envelope, o.body⟩ (.error text)) :: after ∧
      ExecutesAfter c limit nodes before k' target function args (.error text) ∧
      ∀ k'' call result, .leaf k'' (.executed call result) ∈ before ++ after →
        call.envelope.msgId ≠ msgId := by
  obtain ⟨henvelope, hencoded⟩ := Rust.CallerTransport.callRequest_eq_ok hrequest
  obtain ⟨hkind, body, hbody, herror⟩ :=
    Rust.CallerTransport.callReturn_eq_error hvalue fun _ heq => by cases heq
  obtain ⟨hrouter, hprotocol, rfl⟩ := Rust.CallerTransport.errorOfKind_eq_remote herror
  cases callFailure_of_returned hm hlimit hids herrors h ho hreturned hkind hbody with
  | refused hwrote hmsgId hrefused hkind' => exact absurd hkind' hrouter
  | protocol hkind' => exact absurd hkind' hprotocol
  | @executed k' hkind' hexecuted =>
    obtain ⟨before, after, rfl⟩ := List.append_of_mem hexecuted
    obtain ⟨hexecutes, honce⟩ := executesAfter_of_executed hm hlimit hids h
      (acceptedBody_of_callRequest hbodies hencoded)
    dsimp only at hexecutes honce
    rw [henvelope] at hexecutes honce
    exact ⟨before, k', after, rfl, hexecutes, honce⟩

end Network

section Sample

open Router (buildEnvelope frameBytes go msgPackSerde recv routerPeerId)

/-- The reader of documents that are whole. -/
def readValue (bytes : Bytes) : Except String Value :=
  match MsgPack.fromSlice bytes with
  | some v => .ok v
  | none => .error "invalid msgpack document"

/-- An error of the router, with a stack and details that are nil. -/
theorem decodeErrorBody_msgPackSerde {code message kind : String} {bytes : Bytes}
    (h : msgPackSerde.errorBodyToVecNamed ⟨code, message, kind, none, none⟩ = .ok bytes)
    (hlength : bytes.length < 2 ^ 32) :
    Rust.decodeErrorBody readValue bytes = .ok ⟨code, message, kind, none, none⟩ := by
  have hbytes : MsgPack.encode (Router.ErrorBody.toValue ⟨code, message, kind, none, none⟩) = bytes :=
    Except.ok.inj h
  subst hbytes
  have hstr : ∀ x : String, x.utf8ByteSize ≤ (MsgPack.encodeStr x).length := by
    intro x
    rw [MsgPack.encodeStr, List.length_append, MsgPack.length_toUTF8]
    exact Nat.le_add_left ..
  have hcode := hstr code
  have hmessage := hstr message
  have hkind := hstr kind
  simp only [Router.ErrorBody.toValue, MsgPack.encode, MsgPack.encodeMap, List.length_append]
    at hlength
  have hnode : ∀ x : String, x.utf8ByteSize < 2 ^ 32 →
      (Value.str x).everywhere MsgPack.encodableNode = true := fun _ hx => decide_eq_true hx
  have hencodable :
      (Router.ErrorBody.toValue ⟨code, message, kind, none, none⟩).encodable = true := by
    refine MsgPack.everywhere_map.mpr ⟨rfl, ?_⟩
    simp only [List.forall_mem_cons, List.not_mem_nil, false_implies, implies_true, and_true]
    exact ⟨⟨rfl, hnode code (by omega)⟩, ⟨rfl, hnode message (by omega)⟩,
      ⟨rfl, hnode kind (by omega)⟩, ⟨rfl, rfl⟩, ⟨rfl, rfl⟩⟩
  unfold Rust.decodeErrorBody readValue
  rw [MsgPack.fromSlice_encode hencodable]
  rfl

/-- An error of a service, without a stack and details. -/
theorem decodeErrorBody_strict {code message kind : String} {bytes : Bytes}
    (h : strictCallSerde.errorBodyToVecNamed ⟨code, message, kind, none, none⟩ = .ok bytes) :
    Rust.decodeErrorBody readValue bytes = .ok ⟨code, message, kind, none, none⟩ := by
  unfold Rust.decodeErrorBody readValue
  rw [fromSlice_of_toVec h]
  rfl

theorem errorsReadBack_strict : ErrorsReadBack msgPackSerde strictCallSerde readValue := by
  rintro code message kind bytes (hrouter | hservice) hlength
  · exact decodeErrorBody_msgPackSerde hrouter hlength
  · exact decodeErrorBody_strict hservice

/-- A call goes out, and its target is unknown. -/
def callsNobody (q : ReqId) : List NetworkInput :=
  let request : NetworkInput := .leaf 0 (.caller (.transport (.request q (.ok ()) false)))
  let reply := frameBytes (buildEnvelope kindError (nextId q) routerPeerId routerPeerId .one)
    (MsgPack.encode (Router.ErrorBody.toValue
      (Router.buildErrorBody "peer_not_found" "call target not found")))
  [request, request, request, .hub (recv 0 (nextCall q).frame), .hub (go 0), .hub (go 0),
    .leaf 0 (.caller (.transport (.inbound (ofBinary reply) 0))),
    .leaf 0 (.caller (.transport (.inbound none 0))), request]

/-- The error of the transport that a call has failed with. -/
def transportError {R : Type} : Except Rust.CallerTransport.CallError R → Option MultifrostError
  | .error (.transport err) => some err
  | _ => none

theorem eq_of_transportError {result : Except Rust.CallerTransport.CallError R} {err : MultifrostError}
    (h : transportError result = some err) : result = .error (.transport err) := by
  unfold transportError at h
  split at h
  · rw [Option.some.inj h]
  · cases h

/-- A call before the service has joined is refused; another one afterwards is executed, and the first
is not. -/
theorem unavailable_not_executed_first : ∃ s tr frame,
    (network msgPackSerde Rust.registerSerde strictCallSerde (fun _ => "") 1000
      callerAndCounter).Run (Fresh msgPackSerde (requestIds callerAndCounter)) s tr ∧
    requestsOf (s.leaf 0) 1 = .returned (.ok frame) ∧
    callReturn strictRequestSerde readValue intOf frame =
      .error (.transport (.routerUnavailable "call target not found")) ∧
    workerOf (s.leaf 1) = some 1 ∧
    ∀ k' call result, .leaf k' (.executed call result) ∈ tr → call.envelope.msgId ≠ "q" := by
  obtain ⟨s, tr, hrun, hp⟩ := (network msgPackSerde Rust.registerSerde strictCallSerde
    (fun _ => "") 1000 callerAndCounter).exists_run_of_exec (Fresh msgPackSerde (· ≠ "r"))
    (callerJoins ++ callsNobody 1 ++ counterJoins ++ callsNext 2 0)
    (fun s _ => (returnedFrame (requestsOf (s.leaf 0) 1)).any (fun frame =>
        transportError (callReturn strictRequestSerde readValue intOf frame) ==
          some (.routerUnavailable "call target not found")) &&
      workerOf (s.leaf 1) == some 1)
    (by decide +kernel)
  rw [Bool.and_eq_true, beq_iff_eq] at hp
  obtain ⟨hfailed, hworker⟩ := hp
  obtain ⟨frame, hframe, hvalue⟩ := (Option.any_eq_true _ _).mp hfailed
  have hreturned := returned_of_returnedFrame hframe
  have hreturn := eq_of_transportError (beq_iff_eq.mp hvalue)
  have hfresh := hrun.mono fun _ _ _ hi => fresh_withCounter msgId_nextCall hi
  obtain ⟨-, hexecuted⟩ := unavailable_not_executed readsBack_msgPackSerde (by decide)
    (distinctIds_withCounter msgId_nextCall) errorsReadBack_strict hfresh rfl
    (callRequest_next 1) (by decide) hreturned hreturn
  exact ⟨s, tr, frame, hfresh, hreturned, hreturn, hworker, hexecuted⟩

/-- A worker that fails. -/
def overflowing (_ : String) (_ : List Value) (n : Nat) : Except String Value × Nat :=
  (.error "overflow", n + 1)

def callerAndOverflowing (k : ConnId) : Node msgPackSerde Value Nat :=
  if k = 0 then callerAndCounter 0 else .service "b" overflowing 0

theorem outgoing_callerAndOverflowing (k : ConnId) :
    (callerAndOverflowing k).outgoing = (callerAndCounter k).outgoing := by
  unfold callerAndOverflowing
  split_ifs with hk
  · rw [hk]
  · rw [callerAndCounter, withCounter, if_neg hk]
    rfl

theorem distinctIds_callerAndOverflowing : DistinctIds callerAndOverflowing := by
  intro k q o k' q' o' ho ho'
  rw [outgoing_callerAndOverflowing] at ho ho'
  exact distinctIds_withCounter msgId_nextCall k q o k' q' o' ho ho'

theorem requestIds_callerAndOverflowing :
    requestIds callerAndOverflowing = requestIds callerAndCounter := by
  funext id
  unfold requestIds
  simp only [outgoing_callerAndOverflowing]

/-- A call goes out, is forwarded, and its error comes back. -/
def callsOverflowing (q : ReqId) : List NetworkInput :=
  let request : NetworkInput := .leaf 0 (.caller (.transport (.request q (.ok ()) false)))
  let reply := frameBytes (Rust.Service.buildErrorEnvelope "b" "a" (nextId q) .one)
    (MsgPack.encode (Rust.serializeErrorBody
      ⟨"application_error", "overflow", "application", none, none⟩))
  [request, request, request, .hub (recv 0 (nextCall q).frame), .hub (go 0), .hub (go 0), .hub (go 0),
    .hub (go 0), .leaf 1 (.service { newMsgId := "r", next := ofBinary (nextCall q).frame }),
    .hub (recv 1 reply), .hub (go 1), .hub (go 1), .hub (go 1), .hub (go 1),
    .leaf 0 (.caller (.transport (.inbound (ofBinary reply) 0))),
    .leaf 0 (.caller (.transport (.inbound none 0))), request]

/-- The second call that fails was executed after the first one. -/
theorem remote_error_executed_second : ∃ s tr frame,
    (network msgPackSerde Rust.registerSerde strictCallSerde (fun _ => "") 1000
      callerAndOverflowing).Run (Fresh msgPackSerde (requestIds callerAndOverflowing)) s tr ∧
    requestsOf (s.leaf 0) 1 = .returned (.ok frame) ∧
    callReturn strictRequestSerde readValue intOf frame =
      .error (.transport (.remoteCallError "overflow")) ∧
    workerOf (s.leaf 1) = some 2 ∧
    ∃ before k' after, tr = before ++ .leaf k' (.executed ⟨(nextCall 1).envelope, nextBody⟩
        (.error "overflow")) :: after ∧
      ExecutesAfter strictCallSerde 1000 callerAndOverflowing before k' "b" "next" []
        (.error "overflow") ∧
      ∀ k'' call result, .leaf k'' (.executed call result) ∈ before ++ after →
        call.envelope.msgId ≠ "q" := by
  obtain ⟨s, tr, hrun, hp⟩ := (network msgPackSerde Rust.registerSerde strictCallSerde
    (fun _ => "") 1000 callerAndOverflowing).exists_run_of_exec (Fresh msgPackSerde (· ≠ "r"))
    (callerJoins ++ counterJoins ++ callsOverflowing 2 ++ callsOverflowing 1)
    (fun s _ => (returnedFrame (requestsOf (s.leaf 0) 1)).any (fun frame =>
        transportError (callReturn strictRequestSerde readValue intOf frame) ==
          some (.remoteCallError "overflow")) &&
      workerOf (s.leaf 1) == some 2)
    (by decide +kernel)
  rw [Bool.and_eq_true, beq_iff_eq] at hp
  obtain ⟨hfailed, hworker⟩ := hp
  obtain ⟨frame, hframe, hvalue⟩ := (Option.any_eq_true _ _).mp hfailed
  have hreturned := returned_of_returnedFrame hframe
  have hreturn := eq_of_transportError (beq_iff_eq.mp hvalue)
  have hfresh : (network msgPackSerde Rust.registerSerde strictCallSerde (fun _ => "") 1000
      callerAndOverflowing).Run (Fresh msgPackSerde (requestIds callerAndOverflowing)) s tr := by
    rw [requestIds_callerAndOverflowing]
    exact hrun.mono fun _ _ _ hi => fresh_withCounter msgId_nextCall hi
  exact ⟨s, tr, frame, hfresh, hreturned, hreturn, hworker,
    remote_error_executed readsBack_msgPackSerde (by decide) distinctIds_callerAndOverflowing
      bodiesReadBack_strict errorsReadBack_strict hfresh rfl (callRequest_next 1) hreturned
      hreturn⟩

end Sample

end Multifrost.Network
