import Multifrost.Network.Delivery
import Multifrost.Router.Safety.OwnCalls

/-!
# What answers a request

The frame that a request returns, unless it is an error, has one of two origins (`answer_of_returned`).
A call is answered by a service that has executed it, and by nobody else: the call itself does not come
back, an answer of the router goes to a frame of another kind, and no control frame shares its id.  A
query is answered by the router, from what its registry held at a moment after the query was sent.
-/

namespace Multifrost.Network

open Router (ConnId FrameParts Message QueryBody RmpSerde kindCall kindDisconnect kindError kindHeartbeat
  kindQuery kindRegister kindResponse)
open Rust (RegisterSerde)
open Rust.CallerTransport (Outgoing ReqId)
open Rust.Service (CallSerde)
open TransitionSystem

variable {m : RmpSerde} {r : RegisterSerde} {V ω : Type} {c : CallSerde V}
  {debug : Message → String} {limit : Nat} {nodes : ConnId → Node m V ω} {ids : String → Prop}
  {s : NetworkState m ω} {tr : List (NetworkEvent m V)} {k : ConnId}

/-- The ids of all requests. -/
def requestIds (nodes : ConnId → Node m V ω) (id : String) : Prop :=
  ∃ k q o, (nodes k).outgoing q = some o ∧ o.envelope.msgId = id

/-! ### What is executed and what is answered was read -/

section Read

variable (m limit) in
/-- The frame in a message that is not too long for the links. -/
def partsIn (raw : Bytes) : Option FrameParts :=
  match Rust.decodeFrame m raw with
  | .ok parts => if raw.length ≤ limit then some parts else none
  | .error _ => none

variable (m limit) in
/-- The call in such a message. -/
def callIn (raw : Bytes) : Option FrameParts :=
  (partsIn m limit raw).filter fun parts => parts.envelope.kind = kindCall

/-- The call of an event, if the worker has executed one. -/
def executedCall : NodeEvent V → Option FrameParts
  | .executed call _ => some call
  | _ => none

/-- The frame of an event, if a request was answered with one. -/
def completedFrame : NodeEvent V → Option FrameParts
  | .completed _ (.ok frame) => some frame
  | _ => none

/-- The calls that the worker of a process has executed, in order. -/
def executedBy (k : ConnId) (tr : List (NetworkEvent m V)) : List FrameParts :=
  (leafTrace k tr).filterMap executedCall

/-- The frames that have answered the requests of a process, in order. -/
def completedBy (k : ConnId) (tr : List (NetworkEvent m V)) : List FrameParts :=
  (leafTrace k tr).filterMap completedFrame

theorem partsIn_eq_some {raw : Bytes} {parts : FrameParts} :
    partsIn m limit raw = some parts ↔ raw.length ≤ limit ∧ Rust.decodeFrame m raw = .ok parts := by
  unfold partsIn
  cases hparts : Rust.decodeFrame m raw with
  | error err => simp
  | ok parts' => simp

theorem callIn_eq_some {raw : Bytes} {call : FrameParts} :
    callIn m limit raw = some call ↔ raw.length ≤ limit ∧ Rust.decodeFrame m raw = .ok call ∧
      call.envelope.kind = kindCall := by
  rw [callIn, Option.filter_eq_some_iff, partsIn_eq_some, decide_eq_true_eq, and_assoc]

theorem mem_executedBy {call : FrameParts} :
    call ∈ executedBy k tr ↔ ∃ result, .leaf k (.executed call result) ∈ tr := by
  rw [executedBy, List.mem_filterMap]
  constructor
  · rintro ⟨e, he, hcall⟩
    cases e with
    | executed call' result =>
      obtain rfl := Option.some.inj hcall
      exact ⟨result, mem_leafTrace.mp he⟩
    | sent | completed => cases hcall
  · rintro ⟨result, hmem⟩
    exact ⟨_, mem_leafTrace.mpr hmem, rfl⟩

theorem mem_completedBy {frame : FrameParts} :
    frame ∈ completedBy k tr ↔ ∃ q, .leaf k (.completed q (.ok frame)) ∈ tr := by
  rw [completedBy, List.mem_filterMap]
  constructor
  · rintro ⟨e, he, hframe⟩
    cases e with
    | completed q result =>
      cases result with
      | error err => cases hframe
      | ok frame' =>
        obtain rfl := Option.some.inj hframe
        exact ⟨q, mem_leafTrace.mp he⟩
    | sent | executed => cases hframe
  · rintro ⟨q, hmem⟩
    exact ⟨_, mem_leafTrace.mpr hmem, rfl⟩

theorem filterMap_executed_sent (frames : List Bytes) :
    (frames.map .sent : List (NodeEvent V)).filterMap executedCall = [] := by
  rw [List.filterMap_eq_nil_iff]
  intro e he
  obtain ⟨frame, -, rfl⟩ := List.mem_map.mp he
  rfl

/-- A step of a service executes a call that it reads, or none. -/
theorem executed_of_effect {peerId : String}
    {handleCall : String → List V → ω → Except String V × ω} {svc svc' : Rust.Service.State ω}
    {read : Option Bytes} {evs : List (NodeEvent V)} (hlimit : ∀ raw ∈ read, raw.length ≤ limit)
    (h : ServiceEffect m c ids peerId handleCall svc svc' read evs) :
    (evs.filterMap executedCall).Sublist (read.toList.filterMap (callIn m limit)) := by
  cases h with
  | plain hlength hframes hworker =>
    rw [filterMap_executed_sent]
    exact List.nil_sublist _
  | @executes raw call body result frames hread hdecoded hto hkind hbody hcall hlength hframes =>
    have hin : callIn m limit raw = some call :=
      callIn_eq_some.mpr ⟨hlimit raw hread, hdecoded, hkind⟩
    rw [List.filterMap_cons, filterMap_executed_sent, hread]
    simp [executedCall, hin]

/-- A service completes nothing. -/
theorem not_completed_of_effect {peerId : String}
    {handleCall : String → List V → ω → Except String V × ω} {svc svc' : Rust.Service.State ω}
    {read : Option Bytes} {evs : List (NodeEvent V)}
    (h : ServiceEffect m c ids peerId handleCall svc svc' read evs) :
    evs.filterMap completedFrame = [] := by
  have hsent : ∀ frames : List Bytes,
      (frames.map .sent : List (NodeEvent V)).filterMap completedFrame = [] := by
    intro frames
    rw [List.filterMap_eq_nil_iff]
    intro e he
    obtain ⟨frame, -, rfl⟩ := List.mem_map.mp he
    rfl
  cases h with
  | plain hlength hframes hworker => exact hsent _
  | executes hread hdecoded hto hkind hbody hcall hlength hframes => exact hsent _

/-- A caller executes nothing. -/
theorem not_executed_of_effect {request : ReqId → Outgoing m} {l l' : NodeState ω}
    {read : Option Bytes} {evs : List (NodeEvent V)}
    (h : CallerEffect m ids request l l' read evs) : evs.filterMap executedCall = [] := by
  rw [List.filterMap_eq_nil_iff]
  intro e he
  cases e with
  | executed call result => exact absurd he (h.executed call result)
  | sent | completed => rfl

/-- A frame goes from the link into the hands of `inbound_loop`, and from there to a request. -/
theorem completed_of_effect {request : ReqId → Outgoing m} {l l' : NodeState ω} {read : Option Bytes}
    {evs : List (NodeEvent V)} (hlimit : ∀ raw ∈ read, raw.length ≤ limit)
    (h : CallerEffect m ids request l l' read evs) :
    (evs.filterMap completedFrame ++ (inHand l').toList).Sublist
      ((inHand l).toList ++ read.toList.filterMap (partsIn m limit)) := by
  have hquiet : (inHand l').toList.Sublist
      ((inHand l).toList ++ read.toList.filterMap (partsIn m limit)) := by
    cases hhand : inHand l' with
    | none => exact List.nil_sublist _
    | some frame =>
      rcases h.hand frame hhand with hbefore | ⟨raw, hraw, hdecoded⟩
      · rw [hbefore]
        exact List.sublist_append_left _ _
      · have hin : partsIn m limit raw = some frame :=
          partsIn_eq_some.mpr ⟨hlimit raw hraw, hdecoded⟩
        refine List.Sublist.trans ?_ (List.sublist_append_right _ _)
        rw [hraw]
        simp [hin]
  have hlength := h.length
  rcases evs with _ | ⟨e, _ | ⟨e', rest⟩⟩
  · exact hquiet
  · cases hframe : completedFrame e with
    | none => simpa [hframe] using hquiet
    | some frame =>
      obtain ⟨q, rfl⟩ : ∃ q, e = .completed q (.ok frame) := by
        unfold completedFrame at hframe
        split at hframe
        · rename_i q frame'
          obtain rfl := Option.some.inj hframe
          exact ⟨q, rfl⟩
        · cases hframe
      obtain ⟨hbefore, hafter⟩ := h.completed q frame List.mem_cons_self
      rw [hbefore, hafter]
      simp [completedFrame]
  · simp only [List.length_cons] at hlength
    omega

variable {i : NetworkInput} {s' : NetworkState m ω} {evs : List (NetworkEvent m V)}

/-- What a process reads in a step is short enough. -/
theorem length_of_takes (h : (network m r c debug limit nodes).Run (Fresh m ids) s tr) {j : NodeInput}
    (hs : (network m r c debug limit nodes).step (.leaf k j) s = some (s', evs)) :
    ∀ raw ∈ nodeTakes (s.leaf k) j, raw.length ≤ limit :=
  fun _ hraw => (written_of_takes h hs hraw).2

theorem givenTo_leafEvents_self (k : ConnId) (x : Option Bytes) (evs : List (NodeEvent V)) :
    givenTo k (leafEvents k x evs : List (NetworkEvent m V)) = x.toList := by
  rw [givenTo_leafEvents]
  cases x <;> simp [onLink]

/-- A service executes the calls that it reads, in their order. -/
theorem executedBy_sublist_givenTo (h : (network m r c debug limit nodes).Run (Fresh m ids) s tr)
    (k : ConnId) : (executedBy k tr).Sublist ((givenTo k tr).filterMap (callIn m limit)) := by
  refine h.invariant (P := fun _ tr =>
    (executedBy k tr).Sublist ((givenTo k tr).filterMap (callIn m limit))) (List.Sublist.refl _) ?_
  intro s s' tr evs i hrun hfresh hs ih
  rw [executedBy, leafTrace_append, givenTo_append, List.filterMap_append, List.filterMap_append]
  refine List.Sublist.append ih ?_
  cases networkStep_of_step hrun hfresh hs with
  | router hleaf =>
    rw [leafTrace_hubEvents]
    exact List.nil_sublist _
  | @caller k' j config request conn conn' evs' hnode hconn hleaf hmsgId heffect =>
    rw [leafTrace_leafEvents]
    split_ifs
    · rw [not_executed_of_effect heffect]
      exact List.nil_sublist _
    · exact List.nil_sublist _
  | @service k' j peerId handleCall worker svc svc' evs' hnode hsvc hleaf heffect =>
    rw [leafTrace_leafEvents]
    split_ifs with hk
    · subst hk
      rw [givenTo_leafEvents_self]
      exact executed_of_effect (length_of_takes hrun hs) heffect
    · exact List.nil_sublist _

/-- The requests of a caller are answered with the frames that it reads, in their order. -/
theorem completedBy_sublist_givenTo (h : (network m r c debug limit nodes).Run (Fresh m ids) s tr)
    (k : ConnId) : (completedBy k tr ++ (inHand (s.leaf k)).toList).Sublist
      ((givenTo k tr).filterMap (partsIn m limit)) := by
  refine h.invariant (P := fun s tr => (completedBy k tr ++ (inHand (s.leaf k)).toList).Sublist
    ((givenTo k tr).filterMap (partsIn m limit))) ?_ ?_
  · have hstart : inHand ((nodes k).start m r c debug) = none := by
      cases nodes k <;> rfl
    change ([] ++ (inHand ((nodes k).start m r c debug)).toList).Sublist _
    rw [hstart]
    exact List.nil_sublist _
  intro s s' tr evs i hrun hfresh hs ih
  rw [completedBy, leafTrace_append, givenTo_append, List.filterMap_append, List.filterMap_append]
  -- a step of another process leaves both lists as they are
  have hother : leafTrace k evs = [] → s'.leaf k = s.leaf k →
      ((leafTrace k tr).filterMap completedFrame ++ (leafTrace k evs).filterMap completedFrame ++
        (inHand (s'.leaf k)).toList).Sublist ((givenTo k tr).filterMap (partsIn m limit) ++
          (givenTo k evs).filterMap (partsIn m limit)) := by
    intro hevs hleaf
    rw [hevs, List.filterMap_nil, List.append_nil, hleaf]
    exact ih.trans (List.sublist_append_left _ _)
  cases networkStep_of_step hrun hfresh hs with
  | router hleaf => exact hother (leafTrace_hubEvents ..) (congrFun hleaf k)
  | @caller k' j config request conn conn' evs' hnode hconn hleaf hmsgId heffect =>
    by_cases hk : k' = k
    · subst hk
      have hself : s'.leaf k' = .caller conn' := by rw [hleaf, Function.update_self]
      rw [leafTrace_leafEvents, if_pos rfl, givenTo_leafEvents_self, hself, List.append_assoc]
      refine (List.Sublist.append (List.Sublist.refl _)
        (completed_of_effect (length_of_takes hrun hs) heffect)).trans ?_
      rw [← List.append_assoc]
      exact List.Sublist.append ih (List.Sublist.refl _)
    · refine hother ?_ ?_
      · rw [leafTrace_leafEvents, if_neg hk]
      · rw [hleaf, Function.update_of_ne (Ne.symm hk)]
  | @service k' j peerId handleCall worker svc svc' evs' hnode hsvc hleaf heffect =>
    by_cases hk : k' = k
    · subst hk
      have hself : s'.leaf k' = .service svc' := by rw [hleaf, Function.update_self]
      rw [leafTrace_leafEvents, if_pos rfl, not_completed_of_effect heffect, hself, List.append_nil]
      rw [hsvc] at ih
      exact ih.trans (List.sublist_append_left _ _)
    · refine hother ?_ ?_
      · rw [leafTrace_leafEvents, if_neg hk]
      · rw [hleaf, Function.update_of_ne (Ne.symm hk)]

/-- A call that was executed was written to the link of the service. -/
theorem written_of_executed (h : (network m r c debug limit nodes).Run (Fresh m ids) s tr)
    {call : FrameParts} {result : Except String V} (hmem : .leaf k (.executed call result) ∈ tr) :
    ∃ raw, raw ∈ givenTo k tr ∧ (k, raw) ∈ written tr ∧ callIn m limit raw = some call := by
  have hread := (executedBy_sublist_givenTo h k).subset (mem_executedBy.mpr ⟨result, hmem⟩)
  obtain ⟨raw, hraw, hcall⟩ := List.mem_filterMap.mp hread
  exact ⟨raw, hraw, mem_onLink.mp ((givenTo_written h k).subset hraw), hcall⟩

/-- A frame that has answered a request, or is about to, was written to the link of the caller. -/
theorem written_of_answer (h : (network m r c debug limit nodes).Run (Fresh m ids) s tr)
    {frame : FrameParts} (hframe : frame ∈ completedBy k tr ++ (inHand (s.leaf k)).toList) :
    ∃ raw, (k, raw) ∈ written tr ∧ partsIn m limit raw = some frame := by
  obtain ⟨raw, hraw, hparts⟩ :=
    List.mem_filterMap.mp ((completedBy_sublist_givenTo h k).subset hframe)
  exact ⟨raw, mem_onLink.mp ((givenTo_written h k).subset hraw), hparts⟩

end Read

/-! ### The origin of an answer -/

section Answer

variable {q : ReqId} {o : Outgoing m}

/-- Where a frame that answers a request comes from, unless it is an error. -/
inductive Answer (c : CallSerde V) (tr : List (NetworkEvent m V)) (k : ConnId) (o : Outgoing m)
    (frame : FrameParts) : Prop
  | executed {k' : ConnId} {v : V} (hkind : o.envelope.kind = kindCall)
      (hexecuted : .leaf k' (.executed ⟨o.envelope, o.body⟩ (.ok v)) ∈ tr)
      (hbody : c.responseBodyToVecNamed ⟨v⟩ = .ok frame.bodyBytes)
  | looked {body : QueryBody} {before : List (Router.Event m)}
      (hkind : o.envelope.kind = kindQuery) (hbefore : before <+: hubTrace tr)
      (hgot : Router.Got before k ⟨o.envelope, o.body⟩)
      (hquery : Router.decodeQueryBody m o.body = .ok body)
      (hbody : (Router.statusAnswer (Router.classAfter body.peerId before)).encode m body =
        .ok frame.bodyBytes)

/-- A call that was executed is a request. -/
theorem request_of_executed (hm : ReadsBack m) (hlimit : limit < 2 ^ 32)
    (h : (network m r c debug limit nodes).Run (Fresh m ids) s tr) {k' : ConnId} {call : FrameParts}
    {result : Except String V} (hmem : .leaf k' (.executed call result) ∈ tr) :
    ∃ k q o, (nodes k).outgoing q = some o ∧ call = ⟨o.envelope, o.body⟩ ∧
      o.envelope.kind = kindCall := by
  obtain ⟨raw, -, hwritten, hcall⟩ := written_of_executed h hmem
  obtain ⟨hlength, hdecoded, hkind⟩ := callIn_eq_some.mp hcall
  obtain ⟨k, q, o, -, -, ho, -, rfl⟩ :=
    call_of_written hm h hwritten (hlength.trans_lt hlimit) hdecoded hkind
  exact ⟨k, q, o, ho, rfl, hkind⟩

/-- What a caller has sent under the id of a request is the request. -/
theorem request_of_sent (hm : ReadsBack m) (hids : DistinctIds nodes)
    (h : (network m r c debug limit nodes).Run (Fresh m (requestIds nodes)) s tr)
    (ho : (nodes k).outgoing q = some o) {raw : Bytes} {parts : FrameParts}
    (hmem : .leaf k (.sent raw) ∈ tr) (hlength : raw.length < 2 ^ 32)
    (hparts : Rust.decodeFrame m raw = .ok parts) (hid : parts.envelope.msgId = o.envelope.msgId)
    (hkind : parts.envelope.kind ≠ kindError) : raw = o.frame ∧ parts = ⟨o.envelope, o.body⟩ := by
  cases origin_of_sent hm h hmem hlength hparts with
  | error herror => exact absurd herror hkind
  | control hcontrol =>
    rw [IsControl, hid] at hcontrol
    exact absurd ⟨k, q, o, ho, rfl⟩ hcontrol.2
  | @request q' o' ho' hraw hparts' =>
    subst hparts'
    obtain ⟨-, rfl⟩ := hids k q' o' k q o ho' ho hid
    obtain rfl := Option.some.inj (ho'.symm.trans ho)
    exact ⟨hraw, rfl⟩
  | answer hnode hexecuted hresponse hid' hbody =>
    rw [hnode] at ho
    cases ho

/-- **What answers a request**, if it is written to the caller under its id and is no error. -/
theorem answer_of_written (hm : ReadsBack m) (hlimit : limit < 2 ^ 32) (hids : DistinctIds nodes)
    (h : (network m r c debug limit nodes).Run (Fresh m (requestIds nodes)) s tr)
    (ho : (nodes k).outgoing q = some o) {raw : Bytes} {frame : FrameParts}
    (hwritten : (k, raw) ∈ written tr) (hlength : raw.length ≤ limit)
    (hframe : Rust.decodeFrame m raw = .ok frame) (hid : frame.envelope.msgId = o.envelope.msgId)
    (hkind : frame.envelope.kind ≠ kindError) : Answer c tr k o frame := by
  obtain ⟨k', out, hwrote, rfl⟩ := mem_written.mp hwritten
  rcases wrote_cases h hwrote with ⟨raw, rfl, hsent⟩ | ⟨f, rfl, hgrounds⟩
  · have hdecoded : Router.decodeFrame m raw = .ok frame := router_decodeFrame_iff.mpr hframe
    cases origin_of_sent hm h hsent (hlength.trans_lt hlimit) hframe with
    | error herror => exact absurd herror hkind
    | control hcontrol =>
      rw [IsControl, hid] at hcontrol
      exact absurd ⟨k, q, o, ho, rfl⟩ hcontrol.2
    | @request q' o' ho' hraw hparts =>
      -- the request itself: a call does not come back, and a query is not forwarded
      subst hparts
      obtain ⟨rfl, rfl⟩ := hids k' q' o' k q o ho' ho hid
      rcases o'.request with hcall | hquery
      · exact absurd hwrote (Router.not_wrote_back (Run.hub h) hdecoded (.inl hcall))
      · obtain ⟨route, hsound, henvelope⟩ :=
          Router.sound_of_forwarded (Run.hub h) k' k' raw _ hwrote hdecoded
        have hroute := hsound.class_rule
        rw [← hsound.kind_eq, henvelope, hquery] at hroute
        rcases hroute with ⟨hroute, -⟩ | ⟨hroute, -⟩ | hroute
        · exact absurd hroute (by decide)
        · exact absurd hroute (by decide)
        · exact absurd hroute (by decide)
    | @answer peerId handleCall worker call v hnode hexecuted hresponse hmsgId hbody =>
      obtain ⟨k₁, q₁, o₁, ho₁, rfl, hcall⟩ := request_of_executed hm hlimit h hexecuted
      have hid₁ : o₁.envelope.msgId = o.envelope.msgId := hmsgId.symm.trans hid
      obtain ⟨rfl, rfl⟩ := hids k₁ q₁ o₁ k q o ho₁ ho hid₁
      obtain rfl := Option.some.inj (ho₁.symm.trans ho)
      exact .executed hcall hexecuted hbody
  · have hparts := eq_of_decodeFrame hm (encodeFrame_of_router f.encoded) (hlength.trans_lt hlimit)
      hframe
    subst hparts
    -- the router answers what the caller has sent under the same id, which is the request
    have hcause : ∀ {trace : List (Router.Event m)} {parts : FrameParts}, trace <+: hubTrace tr →
        Router.Got trace k parts → f.envelope.msgId = parts.envelope.msgId →
        parts.envelope.kind ≠ kindError → parts = ⟨o.envelope, o.body⟩ := by
      rintro trace parts hbefore ⟨raw, hreceived, hparts⟩ hmsgId hother
      obtain ⟨hsent, hshort⟩ := sent_of_received h (hbefore.subset hreceived)
      exact (request_of_sent hm hids h ho hsent (hshort.trans_lt hlimit)
        (router_decodeFrame_iff.mp hparts) (hmsgId.symm.trans hid) hother).2
    have hrequest := o.request
    cases hgrounds with
    | refusal herror hid' => exact absurd herror hkind
    | ack hgot hid' hresponse hfor =>
      have hother : ∀ {kind : String}, kind = kindRegister ∨ kind = kindDisconnect →
          kind ≠ kindError := by
        rintro kind (rfl | rfl) <;> decide
      obtain rfl := hcause List.prefix_rfl hgot hid' (hother hfor)
      rcases hrequest with hcall | hquery
      · rw [hcall] at hfor
        exact absurd hfor (by decide)
      · rw [hquery] at hfor
        exact absurd hfor (by decide)
    | echo hgot hid' hheartbeat hfor =>
      obtain rfl := hcause List.prefix_rfl hgot hid' (by rw [hfor]; decide)
      rw [hfor] at hrequest
      exact absurd hrequest (by decide)
    | @answer parts body before hbefore hgot hid' hresponse hfor hbody hf =>
      obtain rfl := hcause hbefore hgot hid' (by rw [hfor]; decide)
      exact .looked hfor hbefore hgot hbody hf

/-- **What a request returns.** -/
theorem answer_of_returned (hm : ReadsBack m) (hlimit : limit < 2 ^ 32) (hids : DistinctIds nodes)
    (h : (network m r c debug limit nodes).Run (Fresh m (requestIds nodes)) s tr)
    (ho : (nodes k).outgoing q = some o) {frame : FrameParts}
    (hreturned : requestsOf (s.leaf k) q = .returned (.ok frame))
    (hkind : frame.envelope.kind ≠ kindError) :
    Answer c tr k o frame ∧ frame.bodyBytes.length < 2 ^ 32 := by
  obtain ⟨config, request, hnode, rfl⟩ := outgoing_eq_some ho
  have hrun := run_of_node h k
  rw [hnode] at hrun
  have hcompleted := completed_of_returned hrun hreturned
  have hmem : frame ∈ completedBy k tr :=
    mem_completedBy.mpr ⟨q, mem_leafTrace.mp hcompleted⟩
  obtain ⟨raw, hwritten, hparts⟩ := written_of_answer h (List.mem_append_left _ hmem)
  obtain ⟨hlength, hdecoded⟩ := partsIn_eq_some.mp hparts
  refine ⟨answer_of_written hm hlimit hids h ho hwritten hlength hdecoded
    (msgId_of_completed hrun hcompleted) hkind, ?_⟩
  exact (length_bodyBytes_le hdecoded).trans_lt (hlength.trans_lt hlimit)

end Answer

end Multifrost.Network
