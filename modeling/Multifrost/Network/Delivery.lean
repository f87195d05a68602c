import Multifrost.Network.Frames
import Multifrost.Router.Safety.Grounds
import Multifrost.Rust.Safety.Correlation

/-!
# The way of a frame

What a process reads was written by the router to its link, and what the router forwards was sent by
another process.  From the two ends: a call that reaches a service is the frame of a request of a
caller (`call_of_written`), and a response that a service has sent follows the execution of the call it
answers (`origin_of_sent`).  The message ids of requests are distinct (`DistinctIds`), so that the
frame of a request goes out once, is forwarded once and reaches one process once
(`count_written_le`).
-/

namespace Multifrost.Network

open Router (ConnId Envelope FrameParts Message RmpSerde forwardedFrom kindCall kindDisconnect kindError
  kindHeartbeat kindQuery kindRegister kindResponse receivedOn routerPeerId)
open Rust (MultifrostError RegisterSerde)
open Rust.CallerTransport (Config Outgoing ReqId)
open Rust.Service (CallSerde)
open TransitionSystem

variable {m : RmpSerde} {r : RegisterSerde} {V ω : Type} {c : CallSerde V}
  {debug : Message → String} {limit : Nat} {nodes : ConnId → Node m V ω} {ids : String → Prop}

/-! ### What a process sends -/

section Caller

variable {config : Config} {request : ReqId → Outgoing m} {s : NodeState ω}
  {tr : List (NodeEvent V)}

/-- A caller sends control frames, and the frames of its requests. -/
theorem origin_of_caller
    (h : ((Node.caller config request : Node m V ω).system m r c debug).Run
      (fun _ _ i => i.Fresh ids) s tr) :
    ∀ frame, .sent frame ∈ tr → Carries m (IsControl ids) frame ∨
      ∃ q, frame = (request q).frame ∧ late (requestsOf s q) = true := by
  refine h.invariant (P := fun s tr => ∀ frame, .sent frame ∈ tr →
    Carries m (IsControl ids) frame ∨
      ∃ q, frame = (request q).frame ∧ late (requestsOf s q) = true) (fun _ hmem => by cases hmem) ?_
  intro s s' tr evs i hrun hfresh hs ih frame hmem
  have heffect := callerEffect_of_step hrun hfresh hs
  rcases List.mem_append.mp hmem with hold | hnew
  · rcases ih frame hold with hcontrol | ⟨q, hq, hlate⟩
    · exact .inl hcontrol
    · exact .inr ⟨q, hq, heffect.keeps q hlate⟩
  · rcases heffect.sent frame hnew with hcontrol | ⟨q, hq, -, hlate⟩
    · exact .inl hcontrol
    · exact .inr ⟨q, hq, hlate⟩

/-- A request is no control frame. -/
theorem not_carries_request (hm : ReadsBack m) {q : ReqId}
    (hlength : (request q).frame.length < 2 ^ 32) :
    ¬ Carries m (IsControl ids) (request q).frame := by
  rintro ⟨envelope, body, hencoded, hkind, -⟩
  obtain ⟨rfl, -⟩ := encodeFrame_injective hm hencoded (request q).encoded hlength
  rcases (request q).request with hcall | hquery
  · rw [hcall] at hkind
    exact absurd hkind (by decide)
  · rw [hquery] at hkind
    exact absurd hkind (by decide)

/-- **The frame of a request goes out once**, and not before the request is late. -/
theorem count_sent_le (hm : ReadsBack m)
    (h : ((Node.caller config request : Node m V ω).system m r c debug).Run
      (fun _ _ i => i.Fresh ids) s tr) {q : ReqId}
    (hid : ∀ q', (request q').envelope.msgId = (request q).envelope.msgId → q' = q)
    (hlength : (request q).frame.length < 2 ^ 32) :
    (tr.filterMap nodePuts).count (request q).frame ≤ 1 ∧
      (late (requestsOf s q) = false → (request q).frame ∉ tr.filterMap nodePuts) := by
  refine h.invariant (P := fun s tr =>
    (tr.filterMap nodePuts).count (request q).frame ≤ 1 ∧
      (late (requestsOf s q) = false → (request q).frame ∉ tr.filterMap nodePuts))
    ⟨Nat.zero_le 1, fun _ hmem => by cases hmem⟩ ?_
  intro s s' tr evs i hrun hids hs ⟨hcount, hfresh⟩
  have heffect := callerEffect_of_step hrun hids hs
  rw [List.filterMap_append]
  by_cases hsent : (request q).frame ∈ evs.filterMap nodePuts
  · -- it goes out now: the request was not late before
    obtain ⟨e, he, hputs⟩ := List.mem_filterMap.mp hsent
    have hmem : .sent (request q).frame ∈ evs := by
      cases e with
      | sent frame =>
        obtain rfl := Option.some.inj hputs
        exact he
      | completed => cases hputs
      | executed => cases hputs
    rcases heffect.sent _ hmem with hcontrol | ⟨q', hq', hbefore, hafter⟩
    · exact absurd hcontrol (not_carries_request hm hlength)
    have hsame : q' = q := by
      have hencoded := (request q').encoded
      rw [← hq'] at hencoded
      obtain ⟨henvelope, -⟩ := encodeFrame_injective hm hencoded (request q).encoded hlength
      exact hid q' (congrArg Envelope.msgId henvelope)
    subst hsame
    have hzero : (tr.filterMap nodePuts).count (request q').frame = 0 :=
      List.count_eq_zero.mpr (hfresh hbefore)
    have hone : (evs.filterMap nodePuts).count (request q').frame ≤ 1 :=
      List.count_le_length.trans ((List.length_filterMap_le _ _).trans heffect.length)
    refine ⟨?_, ?_⟩
    · rw [List.count_append]
      omega
    · intro hlate
      rw [hafter] at hlate
      cases hlate
  · refine ⟨?_, ?_⟩
    · rw [List.count_append, List.count_eq_zero.mpr hsent]
      exact hcount
    · intro hlate hmem
      have hbefore : late (requestsOf s q) = false := by
        cases hbefore : late (requestsOf s q) with
        | false => rfl
        | true =>
          rw [heffect.keeps q hbefore] at hlate
          cases hlate
      rcases List.mem_append.mp hmem with hold | hnew
      · exact hfresh hbefore hold
      · exact hsent hnew

/-- An answer has the id of the request. -/
theorem msgId_of_completed
    (h : ((Node.caller config request : Node m V ω).system m r c debug).Run
      (fun _ _ i => i.Fresh ids) s tr) {q : ReqId}
    {frame : FrameParts} (hmem : .completed q (.ok frame) ∈ tr) :
    frame.envelope.msgId = (request q).envelope.msgId := by
  obtain ⟨conn, done, -, rfl, hrun⟩ := connection_of_caller h
  obtain ⟨e, he, heq⟩ := List.mem_map.mp hmem
  obtain rfl : e = .completed q (.ok frame) := by
    cases e with
    | sent bytes => cases heq
    | completed q' result =>
      obtain ⟨rfl, rfl⟩ := NodeEvent.completed.inj heq
      rfl
  obtain ⟨before, after, rfl, hbefore, hopen⟩ := transport_of_connection hrun
  rcases List.mem_append.mp he with hold | hnew
  · obtain ⟨bytes, hbytes⟩ := hbefore _ hold
    cases hbytes
  · rcases hopen with ⟨-, rfl⟩ | ⟨conn, -, htransport⟩
    · cases hnew
    · refine (Rust.CallerTransport.answering htransport.reachable).msgId frame ?_
      exact List.mem_filterMap.mpr ⟨_, hnew, by simp [Rust.CallerTransport.Event.completion]⟩

/-- What a request returns has reached it as an answer. -/
theorem completed_of_returned
    (h : ((Node.caller config request : Node m V ω).system m r c debug).Run
      (fun _ _ i => i.Fresh ids) s tr) {q : ReqId}
    {frame : FrameParts} (hreturned : requestsOf s q = .returned (.ok frame)) :
    .completed q (.ok frame) ∈ tr := by
  obtain ⟨conn, done, rfl, rfl, hrun⟩ := connection_of_caller h
  obtain ⟨before, after, rfl, -, hopen⟩ := transport_of_connection hrun
  rcases hopen with ⟨hclosed, -⟩ | ⟨conn, rfl, htransport⟩
  · cases conn with
    | connected s => exact absurd rfl (hclosed s)
    | register | reply | failed => cases hreturned
  · have hanswer := (Rust.CallerTransport.answering htransport.reachable).returned frame hreturned
    obtain ⟨e, he, hcompletion⟩ := List.mem_filterMap.mp hanswer
    obtain rfl := Rust.CallerTransport.completed_of_completion hcompletion
    exact List.mem_map.mpr ⟨_, List.mem_append_right _ he, rfl⟩

end Caller

section Service

variable {peerId : String} {handleCall : String → List V → ω → Except String V × ω} {worker : ω}
  {s s' : NodeState ω} {i : NodeInput} {tr evs : List (NodeEvent V)}

/-- A step of a process that is a service is one of the service. -/
theorem service_of_step
    (h : ((Node.service peerId handleCall worker : Node m V ω).system m r c debug).Run
      (fun _ _ i => i.Fresh ids) s tr)
    (hfresh : i.Fresh ids)
    (hs : ((Node.service peerId handleCall worker : Node m V ω).system m r c debug).step i s =
      some (s', evs)) :
    ∃ svc svc', s = .service svc ∧ s' = .service svc' ∧
      ServiceEffect m c ids peerId handleCall svc svc' (nodeTakes s i) evs := by
  obtain ⟨svc, rfl⟩ := service_of_node h
  cases i with
  | caller i => cases hs
  | service i =>
    obtain ⟨⟨svc', evs'⟩, hstep, heq⟩ := Option.map_eq_some_iff.mp hs
    obtain ⟨rfl, rfl⟩ := Prod.mk.inj heq
    exact ⟨svc, svc', rfl, rfl, serviceEffect_of_step hfresh hstep⟩

/-- A service sends control frames and errors, and answers to the calls that it has executed. -/
theorem origin_of_service
    (h : ((Node.service peerId handleCall worker : Node m V ω).system m r c debug).Run
      (fun _ _ i => i.Fresh ids) s tr) :
    ∀ frame, .sent frame ∈ tr → Carries m (IsNotice ids) frame ∨
      ∃ call result, .executed call result ∈ tr ∧ Answers m c peerId call result frame := by
  refine h.invariant (P := fun _ tr => ∀ frame, .sent frame ∈ tr →
    Carries m (IsNotice ids) frame ∨
      ∃ call result, .executed call result ∈ tr ∧ Answers m c peerId call result frame)
    (fun _ hmem => by cases hmem) ?_
  intro s s' tr evs i hrun hfresh hs ih frame hmem
  rcases List.mem_append.mp hmem with hold | hnew
  · rcases ih frame hold with hcontrol | ⟨call, result, hexecuted, hanswers⟩
    · exact .inl hcontrol
    · exact .inr ⟨call, result, List.mem_append_left _ hexecuted, hanswers⟩
  · obtain ⟨svc, svc', rfl, rfl, heffect⟩ := service_of_step hrun hfresh hs
    cases heffect with
    | plain hlength hframes hworker =>
      obtain ⟨frame', hframe', heq⟩ := List.mem_map.mp hnew
      obtain rfl := NodeEvent.sent.inj heq
      exact .inl (hframes frame' hframe')
    | @executes raw call body result frames hread hdecoded hto hkind hbody hcall hlength hframes =>
      refine .inr ⟨call, result, List.mem_append_right _ List.mem_cons_self, ?_⟩
      rcases List.mem_cons.mp hnew with heq | hsent
      · cases heq
      · obtain ⟨frame', hframe', heq⟩ := List.mem_map.mp hsent
        obtain rfl := NodeEvent.sent.inj heq
        exact hframes frame' hframe'

end Service

/-! ### What the router reads and writes -/

/-- An await of the router receives what it reads. -/
theorem receivedOn_of_connStep {i : Router.Input} {reg reg' : Router.PeerRegistry}
    {pc pc' : Router.Pc m} {evs : List (Router.Event m)}
    (h : Router.connStep m i reg pc = some (reg', pc', evs)) (k : ConnId) :
    receivedOn k evs =
      if pc.reading then receivedOn k (Router.receivedEvent m i.conn i.next) else [] := by
  cases pc with
  | first | loop me =>
    simp only [Router.connStep, Option.some.injEq, Prod.mk.injEq] at h
    rw [← h.2.2]
    rfl
  | insert envelope register =>
    simp only [Router.connStep] at h
    split at h <;> cases h <;> rfl
  | reject f | ack me f | reply me f after | forward r target =>
    simp only [Router.connStep] at h
    split_ifs at h <;> cases h <;> rfl
  | returned result => cases h
  | _ =>
    cases h
    rfl

/-- A step of the router receives what it takes from a link. -/
theorem receivedOn_of_step {i : Router.Input} {s s' : Router.State m} {evs : List (Router.Event m)}
    (h : (Router.serve m).step i s = some (s', evs)) (k : ConnId) :
    receivedOn k evs = onLink k (routerTakes m s i).toList := by
  have hread : receivedOn k (Router.receivedEvent m i.conn i.next) =
      onLink k ((binaryOf i.next).map fun bytes => (i.conn, bytes)).toList := by
    cases i.next with
    | none => rfl
    | some next =>
      rcases next with err | message
      · rfl
      · cases message with
        | binary raw =>
          by_cases hk : i.conn = k <;>
            simp [Router.receivedEvent, receivedOn, binaryOf, onLink, hk]
        | _ => rfl
  rw [receivedOn_of_connStep (Router.connStep_of_serve h) k, hread, routerTakes]
  split_ifs <;> rfl

section Network

variable {C : NetworkState m ω → List (NetworkEvent m V) → NetworkInput → Prop}
  {s : NetworkState m ω} {tr : List (NetworkEvent m V)} {k : ConnId} {raw : Bytes}

/-- The frames that a process has sent. -/
def sentBy (k : ConnId) (tr : List (NetworkEvent m V)) : List Bytes :=
  (leafTrace k tr).filterMap nodePuts

/-- Everything that the router has written, with the links it went to. -/
def written (tr : List (NetworkEvent m V)) : List (ConnId × Bytes) :=
  (hubTrace tr).filterMap (routerPuts m)

theorem mem_leafTrace {e : NodeEvent V} : e ∈ leafTrace k tr ↔ .leaf k e ∈ tr := by
  unfold leafTrace
  rw [List.mem_filterMap]
  constructor
  · rintro ⟨e', he', h⟩
    cases e' with
    | leaf k' f =>
      simp only [Option.ite_none_right_eq_some, Option.some.injEq] at h
      obtain ⟨rfl, rfl⟩ := h
      exact he'
    | hub | taken | given => cases h
  · intro hmem
    exact ⟨_, hmem, if_pos rfl⟩

theorem mem_sentBy : raw ∈ sentBy k tr ↔ .leaf k (.sent raw) ∈ tr := by
  rw [sentBy, List.mem_filterMap, ← mem_leafTrace]
  constructor
  · rintro ⟨e, he, hputs⟩
    cases e with
    | sent frame =>
      obtain rfl := Option.some.inj hputs
      exact he
    | completed => cases hputs
    | executed => cases hputs
  · intro hmem
    exact ⟨_, hmem, rfl⟩

theorem mem_written : (k, raw) ∈ written tr ↔
    ∃ k' out, .wrote k' k out ∈ hubTrace tr ∧ bytesOf m out = raw := by
  rw [written, List.mem_filterMap]
  constructor
  · rintro ⟨e, he, hputs⟩
    cases e with
    | wrote k' sink out =>
      obtain ⟨rfl, rfl⟩ := Prod.mk.inj (Option.some.inj hputs)
      exact ⟨k', out, he, rfl⟩
    | received | registered | sendFailed | removed => cases hputs
  · rintro ⟨k', out, hmem, rfl⟩
    exact ⟨_, hmem, rfl⟩

/-- The router has received what it has taken from the links. -/
theorem takenFrom_eq (h : (network m r c debug limit nodes).Run C s tr) (k : ConnId) :
    takenFrom k tr = receivedOn k (hubTrace tr) := by
  refine h.invariant (P := fun _ tr => takenFrom k tr = receivedOn k (hubTrace tr)) rfl ?_
  intro s s' tr evs i _ _ hs ih
  rw [takenFrom_append, hubTrace_append, Router.receivedOn_append, ih]
  cases step_of_star hs with
  | hub hs' hup =>
    rw [takenFrom_hubEvents, hubTrace_hubEvents, receivedOn_of_step hs' k]
    rfl
  | leaf hs' hdown =>
    rw [takenFrom_leafEvents, hubTrace_leafEvents]
    rfl

/-- What the router receives on a connection is what the process at its other end has sent, in
order. -/
theorem receivedOn_initial (h : (network m r c debug limit nodes).Run C s tr) (k : ConnId) :
    receivedOn k (hubTrace tr) <+: sentBy k tr := by
  rw [← takenFrom_eq h k]
  exact takenFrom_initial h k

/-- What the router has received was sent, and is not too long for the links. -/
theorem sent_of_received (h : (network m r c debug limit nodes).Run C s tr)
    (hmem : .received k raw ∈ hubTrace tr) : .leaf k (.sent raw) ∈ tr ∧ raw.length ≤ limit := by
  have hreceived := Router.mem_receivedOn.mpr hmem
  refine ⟨mem_sentBy.mp ((receivedOn_initial h k).subset hreceived), ?_⟩
  rw [← takenFrom_eq h k] at hreceived
  exact of_decide_eq_true (carries_of_taken h k raw hreceived)

/-- What a process has read is what the router has written to its link, in order. -/
theorem givenTo_written (h : (network m r c debug limit nodes).Run C s tr) (k : ConnId) :
    givenTo k tr <+: onLink k (written tr) := givenTo_initial h k

/-- What a process reads was written to its link, and is not too long for it. -/
theorem written_of_takes (h : (network m r c debug limit nodes).Run C s tr) {j : NodeInput}
    {s' : NetworkState m ω} {evs : List (NetworkEvent m V)}
    (hs : (network m r c debug limit nodes).step (.leaf k j) s = some (s', evs))
    (hraw : nodeTakes (s.leaf k) j = some raw) : (k, raw) ∈ written tr ∧ raw.length ≤ limit := by
  obtain ⟨hmem, hcarries⟩ := mem_putFor_of_takes h hs hraw
  exact ⟨mem_onLink.mp hmem, of_decide_eq_true hcarries⟩

end Network

/-! ### From one end to the other -/

/-- The requests of a process. -/
def Node.outgoing : Node m V ω → ReqId → Option (Outgoing m)
  | .caller _ request, q => some (request q)
  | .service .., _ => none

/-- No two requests have the same message id: it is a fresh UUID for each of them. -/
def DistinctIds (nodes : ConnId → Node m V ω) : Prop :=
  ∀ k q o k' q' o', (nodes k).outgoing q = some o → (nodes k').outgoing q' = some o' →
    o.envelope.msgId = o'.envelope.msgId → k = k' ∧ q = q'

theorem outgoing_eq_some {node : Node m V ω} {q : ReqId} {o : Outgoing m}
    (h : node.outgoing q = some o) :
    ∃ config request, node = .caller config request ∧ request q = o := by
  cases node with
  | caller config request => exact ⟨config, request, rfl, Option.some.inj h⟩
  | service peerId handleCall worker => cases h

/-- The requests of one caller have different ids. -/
theorem DistinctIds.eq_of_msgId (hids : DistinctIds nodes) {k : ConnId} {config : Config}
    {request : ReqId → Outgoing m} (hnode : nodes k = .caller config request) {q : ReqId} :
    ∀ q', (request q').envelope.msgId = (request q).envelope.msgId → q' = q := by
  intro q' hid
  have ho : ∀ q, (nodes k).outgoing q = some (request q) := by
    intro q
    rw [hnode]
    rfl
  exact (hids k q' _ k q _ (ho q') (ho q) hid).2

/-- A frame of the router itself is an error, a response or a heartbeat. -/
theorem kind_of_grounds {trace : List (Router.Event m)} {k : ConnId} {f : Router.RouterFrame m}
    (h : Router.Grounds trace k f) : f.envelope.kind ∈ [kindError, kindResponse, kindHeartbeat] := by
  cases h with
  | refusal hkind => rw [hkind]; decide
  | ack _ _ hkind => rw [hkind]; decide
  | echo _ _ hkind => rw [hkind]; decide
  | answer _ _ _ hkind => rw [hkind]; decide

section Ends

variable {s : NetworkState m ω} {tr : List (NetworkEvent m V)} {k : ConnId} {raw : Bytes}
  {parts : FrameParts}

/-- What the router writes for a connection is a frame that the process at its other end has sent, or
it has its grounds. -/
theorem wrote_cases (h : (network m r c debug limit nodes).Run (Fresh m ids) s tr) {k' : ConnId}
    {out : Router.Outbound m} (hmem : .wrote k' k out ∈ hubTrace tr) :
    (∃ raw, out = .forwarded raw ∧ .leaf k' (.sent raw) ∈ tr) ∨
      ∃ f, out = .generated f ∧ Router.Grounds (hubTrace tr) k f := by
  obtain ⟨before, after, htrace⟩ := List.append_of_mem hmem
  cases out with
  | generated f =>
    obtain ⟨rfl, hgrounds⟩ := Router.grounds_of_wrote (Run.hub h) before _ after htrace k' k f rfl
    refine .inr ⟨f, rfl, ?_⟩
    rw [htrace]
    exact hgrounds.mono _
  | forwarded raw =>
    refine .inl ⟨raw, rfl, ?_⟩
    rcases Router.authentic (Run.hub h) before _ after htrace k' k _ rfl with
      ⟨f, hf⟩ | ⟨raw', parts, envelope, register, hout, hreceived, -⟩
    · cases hf
    · obtain rfl := Router.Outbound.forwarded.inj hout
      refine (sent_of_received h ?_).1
      rw [htrace]
      exact List.mem_append_left _ hreceived

/-- The run of one process. -/
theorem run_of_node (h : (network m r c debug limit nodes).Run (Fresh m ids) s tr) (k : ConnId) :
    ((nodes k).system m r c debug).Run (fun _ _ i => i.Fresh ids) (s.leaf k) (leafTrace k tr) :=
  Run.leaf h (fun _ _ _ _ hfresh => hfresh) k

/-- One step of the network, as far as the processes are concerned. -/
inductive NetworkStep (c : CallSerde V) (nodes : ConnId → Node m V ω) (ids : String → Prop)
    (s s' : NetworkState m ω) : NetworkInput → List (NetworkEvent m V) → Prop
  | router {i : Router.Input} {p : Option (ConnId × Bytes)} {evs : List (Router.Event m)}
      (hleaf : s'.leaf = s.leaf) : NetworkStep c nodes ids s s' (.hub i) (hubEvents p evs)
  | caller {k : ConnId} {j : NodeInput} {config : Config} {request : ReqId → Outgoing m}
      {conn conn' : Rust.CallerTransport.Connection} {evs : List (NodeEvent V)}
      (hnode : nodes k = .caller config request) (hconn : s.leaf k = .caller conn)
      (hleaf : s'.leaf = Function.update s.leaf k (.caller conn'))
      (hmsgId : ∀ q frame, .completed q (.ok frame) ∈ evs →
        frame.envelope.msgId = (request q).envelope.msgId)
      (heffect : CallerEffect m ids request (s.leaf k) (.caller conn') (nodeTakes (s.leaf k) j) evs) :
      NetworkStep c nodes ids s s' (.leaf k j) (leafEvents k (nodeTakes (s.leaf k) j) evs)
  | service {k : ConnId} {j : NodeInput} {peerId : String}
      {handleCall : String → List V → ω → Except String V × ω} {worker : ω}
      {svc svc' : Rust.Service.State ω} {evs : List (NodeEvent V)}
      (hnode : nodes k = .service peerId handleCall worker) (hsvc : s.leaf k = .service svc)
      (hleaf : s'.leaf = Function.update s.leaf k (.service svc'))
      (heffect : ServiceEffect m c ids peerId handleCall svc svc' (nodeTakes (s.leaf k) j) evs) :
      NetworkStep c nodes ids s s' (.leaf k j) (leafEvents k (nodeTakes (s.leaf k) j) evs)

/-- **Inversion**: the router moves, or one of the processes does what its kind allows. -/
theorem networkStep_of_step (h : (network m r c debug limit nodes).Run (Fresh m ids) s tr)
    {i : NetworkInput} {s' : NetworkState m ω} {evs : List (NetworkEvent m V)}
    (hfresh : Fresh m ids s tr i)
    (hs : (network m r c debug limit nodes).step i s = some (s', evs)) :
    NetworkStep c nodes ids s s' i evs := by
  cases step_of_star hs with
  | hub hs' hup => exact .router rfl
  | @leaf k j l down evs' hs' hdown =>
    have hnode := run_of_node h k
    have hnode' := Run.step (i := j) hnode hfresh hs'
    cases hk : nodes k with
    | caller config request =>
      rw [hk] at hnode hnode' hs'
      obtain ⟨conn, -, hconn, -⟩ := connection_of_caller hnode
      obtain ⟨conn', -, rfl, -⟩ := connection_of_caller hnode'
      exact .caller hk hconn rfl
        (fun q frame hmem => msgId_of_completed hnode' (List.mem_append_right _ hmem))
        (callerEffect_of_step hnode hfresh hs')
    | service peerId handleCall worker =>
      rw [hk] at hnode hs'
      obtain ⟨svc, svc', hsvc, rfl, heffect⟩ := service_of_step hnode hfresh hs'
      exact .service hk hsvc rfl heffect

/-- Where a frame that a process has sent comes from, if it can be decoded. -/
inductive Origin (c : CallSerde V) (nodes : ConnId → Node m V ω) (ids : String → Prop)
    (tr : List (NetworkEvent m V)) (k : ConnId) (raw : Bytes) (parts : FrameParts) : Prop
  | error (hkind : parts.envelope.kind = kindError)
  | control (hcontrol : IsControl ids parts.envelope)
  | request {q : ReqId} {o : Outgoing m} (ho : (nodes k).outgoing q = some o) (hraw : raw = o.frame)
      (hparts : parts = ⟨o.envelope, o.body⟩)
  | answer {peerId : String} {handleCall : String → List V → ω → Except String V × ω} {worker : ω}
      {call : FrameParts} {v : V} (hnode : nodes k = .service peerId handleCall worker)
      (hexecuted : .leaf k (.executed call (.ok v)) ∈ tr)
      (hkind : parts.envelope.kind = kindResponse)
      (hid : parts.envelope.msgId = call.envelope.msgId)
      (hbody : c.responseBodyToVecNamed ⟨v⟩ = .ok parts.bodyBytes)

/-- A process sends control frames and errors, its requests, and the results of the calls that it has
executed. -/
theorem origin_of_sent (hm : ReadsBack m)
    (h : (network m r c debug limit nodes).Run (Fresh m ids) s tr) (hmem : .leaf k (.sent raw) ∈ tr)
    (hlength : raw.length < 2 ^ 32) (hparts : Rust.decodeFrame m raw = .ok parts) :
    Origin c nodes ids tr k raw parts := by
  have hnode := run_of_node h k
  have hsent := mem_leafTrace.mpr hmem
  cases hk : nodes k with
  | caller config request =>
    rw [hk] at hnode
    rcases origin_of_caller hnode raw hsent with ⟨envelope, body, hencoded, hcontrol⟩ | ⟨q, rfl, -⟩
    · rw [eq_of_decodeFrame hm hencoded hlength hparts]
      exact .control hcontrol
    · have ho : (nodes k).outgoing q = some (request q) := by
        rw [hk]
        rfl
      exact .request ho rfl (eq_of_decodeFrame hm (request q).encoded hlength hparts)
  | service peerId handleCall worker =>
    rw [hk] at hnode
    rcases origin_of_service hnode raw hsent with ⟨envelope, body, hencoded, herror | hcontrol⟩ |
      ⟨call, result, hexecuted, ts, body, hencoded, hbody⟩
    · rw [eq_of_decodeFrame hm hencoded hlength hparts]
      exact .error herror
    · rw [eq_of_decodeFrame hm hencoded hlength hparts]
      exact .control hcontrol
    · rw [eq_of_decodeFrame hm hencoded hlength hparts]
      cases result with
      | error text => exact .error rfl
      | ok v => exact .answer hk (mem_leafTrace.mp hexecuted) rfl rfl (hbody v rfl)

/-- Only a request of a caller is sent as a call. -/
theorem call_of_sent (hm : ReadsBack m)
    (h : (network m r c debug limit nodes).Run (Fresh m ids) s tr)
    (hmem : .leaf k (.sent raw) ∈ tr) (hlength : raw.length < 2 ^ 32)
    (hparts : Rust.decodeFrame m raw = .ok parts) (hkind : parts.envelope.kind = kindCall) :
    ∃ q o, (nodes k).outgoing q = some o ∧ raw = o.frame ∧ parts = ⟨o.envelope, o.body⟩ := by
  cases origin_of_sent hm h hmem hlength hparts with
  | error herror =>
    rw [hkind] at herror
    exact absurd herror (by decide)
  | control hcontrol =>
    rw [IsControl, hkind] at hcontrol
    exact absurd hcontrol.1 (by decide)
  | request ho hraw hparts' => exact ⟨_, _, ho, hraw, hparts'⟩
  | answer hnode hexecuted hresponse hid hbody =>
    rw [hkind] at hresponse
    exact absurd hresponse (by decide)

/-- A frame of the router itself is decoded to one. -/
theorem kind_of_generated (hm : ReadsBack m) {trace : List (Router.Event m)} {f : Router.RouterFrame m}
    (hgrounds : Router.Grounds trace k f) (hlength : f.raw.length < 2 ^ 32)
    (hparts : Rust.decodeFrame m f.raw = .ok parts) :
    parts.envelope = f.envelope ∧
      parts.envelope.kind ∈ [kindError, kindResponse, kindHeartbeat] := by
  rw [eq_of_decodeFrame hm (encodeFrame_of_router f.encoded) hlength hparts]
  exact ⟨rfl, kind_of_grounds hgrounds⟩

/-- **A call that reaches a process is the request of a caller**, which was forwarded for it. -/
theorem call_of_written (hm : ReadsBack m)
    (h : (network m r c debug limit nodes).Run (Fresh m ids) s tr)
    (hmem : (k, raw) ∈ written tr) (hlength : raw.length < 2 ^ 32)
    (hparts : Rust.decodeFrame m raw = .ok parts) (hkind : parts.envelope.kind = kindCall) :
    ∃ k' q o, .wrote k' k (.forwarded raw) ∈ hubTrace tr ∧ .leaf k' (.sent raw) ∈ tr ∧
      (nodes k').outgoing q = some o ∧ raw = o.frame ∧ parts = ⟨o.envelope, o.body⟩ := by
  obtain ⟨k', out, hwrote, rfl⟩ := mem_written.mp hmem
  rcases wrote_cases h hwrote with ⟨raw, rfl, hsent⟩ | ⟨f, rfl, hgrounds⟩
  · obtain ⟨q, o, ho⟩ := call_of_sent hm h hsent hlength hparts hkind
    exact ⟨k', q, o, hwrote, hsent, ho⟩
  · obtain ⟨-, hgenerated⟩ := kind_of_generated hm hgrounds hlength hparts
    rw [hkind] at hgenerated
    exact absurd hgenerated (by decide)

/-! ### Once -/

/-- If all frames of a sort that are written are forwarded for one connection, they are forwarded
for it in this order. -/
theorem filter_routerPuts_sublist {k₀ : ConnId} {p : Bytes → Bool} {es : List (Router.Event m)}
    (h : ∀ k' k out, .wrote k' k out ∈ es → p (bytesOf m out) = true →
      k' = k₀ ∧ out = .forwarded (bytesOf m out)) :
    (((es.filterMap (routerPuts m)).map Prod.snd).filter p).Sublist
      ((forwardedFrom k₀ es).map Prod.snd) := by
  induction es with
  | nil => exact List.Sublist.refl _
  | cons e es ih =>
    have htail := ih fun k' k out hmem => h k' k out (List.mem_cons_of_mem _ hmem)
    have hcons : e :: es = [e] ++ es := rfl
    rw [hcons, List.filterMap_append, List.map_append, List.filter_append,
      Router.forwardedFrom_append, List.map_append]
    refine List.Sublist.append ?_ htail
    cases e with
    | wrote k' k out =>
      by_cases hp : p (bytesOf m out) = true
      · obtain ⟨rfl, hout⟩ := h k' k out List.mem_cons_self hp
        rw [hout]
        simp [routerPuts, bytesOf, forwardedFrom]
      · have hnone : (([Router.Event.wrote k' k out].filterMap (routerPuts m)).map
            Prod.snd).filter p = [] := by
          simp [routerPuts, hp]
        rw [hnone]
        exact List.nil_sublist _
    | received | registered | sendFailed | removed => exact List.nil_sublist _

/-- **The frame of a request is written once at most**, to whatever link. -/
theorem count_written_le (hm : ReadsBack m) (hids : DistinctIds nodes)
    (h : (network m r c debug limit nodes).Run (Fresh m ids) s tr) {q : ReqId} {o : Outgoing m}
    (ho : (nodes k).outgoing q = some o) (hlength : o.frame.length < 2 ^ 32)
    (hparts : Rust.decodeFrame m o.frame = .ok parts) (hkind : parts.envelope.kind = kindCall) :
    ((written tr).map Prod.snd).count o.frame ≤ 1 := by
  -- whoever forwards the frame has sent it as a request of its own
  have hforwarded : ∀ k₁ k₂ out, .wrote k₁ k₂ out ∈ hubTrace tr →
      (bytesOf m out == o.frame) = true → k₁ = k ∧ out = .forwarded (bytesOf m out) := by
    intro k₁ k₂ out hwrote hframe
    have hbytes : bytesOf m out = o.frame := beq_iff_eq.mp hframe
    rcases wrote_cases h hwrote with ⟨raw', rfl, hsent⟩ | ⟨f, rfl, hgrounds⟩
    · obtain rfl : raw' = o.frame := hbytes
      refine ⟨?_, rfl⟩
      obtain ⟨q', o', ho', hframe, hparts'⟩ := call_of_sent hm h hsent hlength hparts hkind
      have hparts₀ := eq_of_decodeFrame hm o.encoded hlength hparts
      rw [hparts'] at hparts₀
      have hid : o'.envelope.msgId = o.envelope.msgId :=
        congrArg (fun parts : FrameParts => parts.envelope.msgId) hparts₀
      exact (hids k₁ q' o' k q o ho' ho hid).1
    · have hraw : f.raw = o.frame := hbytes
      rw [← hraw] at hlength hparts
      obtain ⟨-, hgenerated⟩ := kind_of_generated hm hgrounds hlength hparts
      rw [hkind] at hgenerated
      exact absurd hgenerated (by decide)
  obtain ⟨config, request, hnode, rfl⟩ := outgoing_eq_some ho
  have hrun := run_of_node h k
  rw [hnode] at hrun
  calc ((written tr).map Prod.snd).count (request q).frame
      = (((written tr).map Prod.snd).filter (· == (request q).frame)).count (request q).frame :=
        (List.count_filter (p := (· == (request q).frame)) (beq_self_eq_true _)).symm
    _ ≤ ((forwardedFrom k (hubTrace tr)).map Prod.snd).count (request q).frame :=
        (filter_routerPuts_sublist hforwarded).count_le _
    _ ≤ (receivedOn k (hubTrace tr)).count (request q).frame :=
        ((List.sublist_append_left _ _).trans (Router.ordered (Run.hub h) k)).count_le _
    _ ≤ (sentBy k tr).count (request q).frame := (receivedOn_initial h k).sublist.count_le _
    _ ≤ 1 := (count_sent_le hm hrun (hids.eq_of_msgId hnode) hlength).1

end Ends

end Multifrost.Network
