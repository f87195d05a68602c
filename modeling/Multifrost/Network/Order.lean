import Multifrost.Network.RemoteCalls

/-!
# The order of calls and of answers

The calls of one caller that a service executes, it executes in the order in which they were sent
(`executed_in_order`): a caller sends over one websocket, the task of its connection forwards one frame
at a time, and the service reads its calls from one websocket and handles each before it reads the
next.  The responses go back the same way, so that those of one service reach a caller in the order of
the executions (`answered_in_order`).  A frame that is lost on the way leaves a gap, and nothing else;
between two callers, or two services, there is no order.
-/

namespace Multifrost.Network

open Router (ConnId Envelope FrameParts Message RmpSerde forwardedFrom kindCall kindError kindResponse
  receivedOn)
open Rust (RegisterSerde)
open Rust.Service (CallSerde)
open TransitionSystem

section Definitions

variable (m : RmpSerde) (limit : Nat) {V : Type}

/-- The calls that a process has sent, in order. -/
def calledBy (k : ConnId) (tr : List (NetworkEvent m V)) : List FrameParts :=
  (sentBy k tr).filterMap (callIn m limit)

/-- The response in a message that is not too long for the links. -/
def responseIn (raw : Bytes) : Option FrameParts :=
  (partsIn m limit raw).filter fun parts => parts.envelope.kind = kindResponse

end Definitions

variable {m : RmpSerde} {r : RegisterSerde} {V ω : Type} {c : CallSerde V}
  {debug : Message → String} {limit : Nat} {nodes : ConnId → Node m V ω} {ids : String → Prop}
  {s : NetworkState m ω} {tr : List (NetworkEvent m V)} {k : ConnId}

theorem mem_calledBy {call : FrameParts} : call ∈ calledBy m limit k tr ↔
    ∃ raw, .leaf k (.sent raw) ∈ tr ∧ callIn m limit raw = some call := by
  rw [calledBy, List.mem_filterMap]
  simp only [mem_sentBy]

/-- **What one process reads of another comes in the order in which it was sent.**  The frames are
told apart by what is in them: those that are looked for are forwarded for one process only. -/
theorem sublist_sent {β : Type} {f : Bytes → Option β} {P : β → Prop} {l : List β} {k₀ : ConnId}
    (h : (network m r c debug limit nodes).Reachable s tr)
    (hread : l.Sublist ((givenTo k tr).filterMap f)) (hl : ∀ x ∈ l, P x)
    (hfrom : ∀ k₁ k₂ out x, .wrote k₁ k₂ out ∈ hubTrace tr → f (bytesOf m out) = some x → P x →
      k₁ = k₀ ∧ out = .forwarded (bytesOf m out)) :
    l.Sublist ((sentBy k₀ tr).filterMap f) := by
  classical
  let p : Bytes → Bool := fun raw => (f raw).any fun x => decide (P x)
  have hforwarded : (((written tr).map Prod.snd).filter p).Sublist
      ((forwardedFrom k₀ (hubTrace tr)).map Prod.snd) := by
    refine filter_routerPuts_sublist ?_
    intro k₁ k₂ out hwrote hp
    obtain ⟨x, hx, hmem⟩ := (Option.any_eq_true _ _).mp hp
    exact hfrom k₁ k₂ out x hwrote hx (of_decide_eq_true hmem)
  have hreceived : ((forwardedFrom k₀ (hubTrace tr)).map Prod.snd).Sublist
      (receivedOn k₀ (hubTrace tr)) :=
    (List.sublist_append_left _ _).trans (Router.ordered (Run.hub h) k₀)
  have hgiven : (givenTo k tr).Sublist ((written tr).map Prod.snd) :=
    (givenTo_written h k).sublist.trans (List.filter_sublist.map Prod.snd)
  have hsent : ((givenTo k tr).filter p).Sublist (sentBy k₀ tr) :=
    (((hgiven.filter p).trans hforwarded).trans hreceived).trans (receivedOn_initial h k₀).sublist
  have hown : l.filter (fun x => decide (P x)) = l :=
    List.filter_eq_self.mpr fun x hx => decide_eq_true (hl x hx)
  have hcommute : ((givenTo k tr).filterMap f).filter (fun x => decide (P x)) =
      ((givenTo k tr).filter p).filterMap f := by
    rw [List.filter_filterMap, List.filterMap_filter]
    congr 1
    funext raw
    show (f raw).filter _ = if (f raw).any _ = true then _ else _
    cases f raw with
    | none => rfl
    | some x => simp [Option.filter]
  rw [← hown]
  refine (hread.filter _).trans ?_
  rw [hcommute]
  exact hsent.filterMap _

/-! ### Calls -/

/-- What is written of the calls of one process is forwarded for it. -/
theorem forwarded_of_called (hm : ReadsBack m) (hlimit : limit < 2 ^ 32) (hids : DistinctIds nodes)
    (h : (network m r c debug limit nodes).Run (Fresh m ids) s tr) {k₀ k₁ k₂ : ConnId}
    {out : Router.Outbound m} {call : FrameParts} (hwrote : .wrote k₁ k₂ out ∈ hubTrace tr)
    (hout : callIn m limit (bytesOf m out) = some call) (hcalled : call ∈ calledBy m limit k₀ tr) :
    k₁ = k₀ ∧ out = .forwarded (bytesOf m out) := by
  obtain ⟨hlength, hdecoded, hkind⟩ := callIn_eq_some.mp hout
  obtain ⟨raw₀, hsent₀, hraw₀⟩ := mem_calledBy.mp hcalled
  obtain ⟨hlength₀, hdecoded₀, -⟩ := callIn_eq_some.mp hraw₀
  obtain ⟨q₀, o₀, ho₀, -, hparts₀⟩ :=
    call_of_sent hm h hsent₀ (hlength₀.trans_lt hlimit) hdecoded₀ hkind
  rcases wrote_cases h hwrote with ⟨raw, rfl, hsent⟩ | ⟨f, rfl, hgrounds⟩
  · refine ⟨?_, rfl⟩
    obtain ⟨q, o, ho, -, hparts⟩ := call_of_sent hm h hsent (hlength.trans_lt hlimit) hdecoded hkind
    rw [hparts₀] at hparts
    have hid : o.envelope.msgId = o₀.envelope.msgId :=
      congrArg (fun parts : FrameParts => parts.envelope.msgId) hparts.symm
    exact (hids k₁ q o k₀ q₀ o₀ ho ho₀ hid).1
  · obtain ⟨-, hgenerated⟩ := kind_of_generated hm hgrounds (hlength.trans_lt hlimit) hdecoded
    rw [hkind] at hgenerated
    exact absurd hgenerated (by decide)

/-- **Calls keep their order.**  Calls of one caller that a service has executed were executed in the
order in which the caller has sent them, and each as often as it was sent. -/
theorem executed_in_order (hm : ReadsBack m) (hlimit : limit < 2 ^ 32) (hids : DistinctIds nodes)
    (h : (network m r c debug limit nodes).Reachable s tr) {k₀ : ConnId} {calls : List FrameParts}
    (hexecuted : calls.Sublist (executedBy k tr))
    (hcalled : ∀ call ∈ calls, call ∈ calledBy m limit k₀ tr) :
    calls.Sublist (calledBy m limit k₀ tr) := by
  have hrun : (network m r c debug limit nodes).Run (Fresh m fun _ => False) s tr :=
    h.mono fun s tr i _ => fresh_of_none s tr i
  refine sublist_sent (P := (· ∈ calledBy m limit k₀ tr)) h
    (hexecuted.trans (executedBy_sublist_givenTo hrun k)) hcalled ?_
  intro k₁ k₂ out call hwrote hout hmem
  exact forwarded_of_called hm hlimit hids hrun hwrote hout hmem

/-- Both calls of a caller are executed, the first one first. -/
theorem executed_in_order_two : ∃ s tr,
    (network Router.msgPackSerde Rust.registerSerde Rust.Service.msgPackCallSerde (fun _ => "") 1000
      callerAndCounter).Reachable s tr ∧
    (executedBy 1 tr).map (fun call => call.envelope.msgId) = ["qq", "q"] ∧
    (executedBy 1 tr).Sublist (calledBy Router.msgPackSerde 1000 0 tr) := by
  obtain ⟨s, tr, hrun, hp⟩ := (network Router.msgPackSerde Rust.registerSerde
    Rust.Service.msgPackCallSerde (fun _ => "") 1000 callerAndCounter).exists_reachable_of_exec
    (callerJoins ++ counterJoins ++ callsNext 2 0 ++ callsNext 1 1)
    (fun _ tr => (executedBy 1 tr).map (fun call => call.envelope.msgId) == ["qq", "q"] &&
      (executedBy 1 tr).all (· ∈ calledBy Router.msgPackSerde 1000 0 tr))
    (by decide +kernel)
  simp only [Bool.and_eq_true, beq_iff_eq, List.all_eq_true, decide_eq_true_eq] at hp
  exact ⟨s, tr, hrun, hp.1, executed_in_order readsBack_msgPackSerde (by decide)
    (distinctIds_withCounter msgId_nextCall) hrun (List.Sublist.refl _) hp.2⟩

/-! ### Answers -/

theorem responseIn_eq_some {raw : Bytes} {parts : FrameParts} :
    responseIn m limit raw = some parts ↔ partsIn m limit raw = some parts ∧
      parts.envelope.kind = kindResponse := by
  rw [responseIn, Option.filter_eq_some_iff, decide_eq_true_eq]

/-- What is read of a frame is what was put into it. -/
theorem parts_of_carries (hm : ReadsBack m) (hlimit : limit < 2 ^ 32) {P : Envelope → Prop}
    {raw : Bytes} {parts : FrameParts} (h : Carries m P raw)
    (hparts : partsIn m limit raw = some parts) : P parts.envelope := by
  obtain ⟨hlength, hdecoded⟩ := partsIn_eq_some.mp hparts
  obtain ⟨envelope, body, hencoded, hp⟩ := h
  rw [eq_of_decodeFrame hm hencoded (hlength.trans_lt hlimit) hdecoded]
  exact hp

/-- Frames of which none carries a response. -/
theorem filterMap_responseIn_eq_nil (hm : ReadsBack m) (hlimit : limit < 2 ^ 32)
    {evs : List (NodeEvent V)}
    (h : ∀ raw, .sent raw ∈ evs → Carries m (fun e => e.kind ≠ kindResponse) raw) :
    (evs.filterMap nodePuts).filterMap (responseIn m limit) = [] := by
  rw [List.filterMap_eq_nil_iff]
  intro raw hraw
  obtain ⟨e, he, hputs⟩ := List.mem_filterMap.mp hraw
  have hsent : .sent raw ∈ evs := by
    cases e with
    | sent frame =>
      obtain rfl := Option.some.inj hputs
      exact he
    | completed | executed => cases hputs
  cases hresponse : responseIn m limit raw with
  | none => rfl
  | some parts =>
    obtain ⟨hparts, hkind⟩ := responseIn_eq_some.mp hresponse
    exact absurd hkind (parts_of_carries hm hlimit (h raw hsent) hparts)

theorem carries_mono {P Q : Envelope → Prop} {raw : Bytes} (h : Carries m P raw)
    (hPQ : ∀ e, P e → Q e) : Carries m Q raw := by
  obtain ⟨envelope, body, hencoded, hp⟩ := h
  exact ⟨envelope, body, hencoded, hPQ envelope hp⟩

theorem not_response_of_control : ∀ e, IsControl ids e → e.kind ≠ kindResponse := by
  rintro e ⟨hkind | hkind, -⟩
  · rw [hkind]
    decide
  · rw [hkind]
    decide

theorem not_response_of_notice : ∀ e, IsNotice ids e → e.kind ≠ kindResponse := by
  rintro e (herror | hcontrol)
  · rw [herror]
    decide
  · exact not_response_of_control e hcontrol

/-- A caller sends no response. -/
theorem responses_of_caller (hm : ReadsBack m) (hlimit : limit < 2 ^ 32)
    {request : Rust.CallerTransport.ReqId → Rust.CallerTransport.Outgoing m} {l l' : NodeState ω}
    {read : Option Bytes} {evs : List (NodeEvent V)}
    (h : CallerEffect m ids request l l' read evs) :
    (evs.filterMap nodePuts).filterMap (responseIn m limit) = [] := by
  refine filterMap_responseIn_eq_nil hm hlimit ?_
  intro raw hraw
  rcases h.sent raw hraw with hcontrol | ⟨q, rfl, -, -⟩
  · exact carries_mono hcontrol not_response_of_control
  · refine ⟨_, _, (request q).encoded, ?_⟩
    rcases (request q).request with hkind | hkind
    · rw [hkind]
      decide
    · rw [hkind]
      decide

/-- A service sends the response to a call when it executes the call. -/
theorem responses_of_service (hm : ReadsBack m) (hlimit : limit < 2 ^ 32) {peerId : String}
    {handleCall : String → List V → ω → Except String V × ω} {svc svc' : Rust.Service.State ω}
    {read : Option Bytes} {evs : List (NodeEvent V)}
    (h : ServiceEffect m c ids peerId handleCall svc svc' read evs) :
    (((evs.filterMap nodePuts).filterMap (responseIn m limit)).map
      fun parts => parts.envelope.msgId).Sublist
      ((evs.filterMap executedCall).map fun call => call.envelope.msgId) := by
  cases h with
  | @plain frames hlength hframes hworker =>
    rw [filterMap_responseIn_eq_nil hm hlimit]
    · exact List.nil_sublist _
    · intro raw hraw
      obtain ⟨frame, hframe, heq⟩ := List.mem_map.mp hraw
      obtain rfl := NodeEvent.sent.inj heq
      exact carries_mono (hframes frame hframe) not_response_of_notice
  | @executes raw call body result frames hread hdecoded hto hkind hbody hcall hlength hframes =>
    have hcalls : (NodeEvent.executed call result :: frames.map .sent).filterMap executedCall =
        [call] := by
      rw [List.filterMap_cons, filterMap_executed_sent]
      rfl
    have hputs : (NodeEvent.executed call result :: frames.map .sent).filterMap nodePuts =
        frames := by
      rw [List.filterMap_cons, List.filterMap_map]
      exact List.filterMap_some
    rw [hcalls, hputs]
    rcases frames with _ | ⟨frame, _ | ⟨frame', rest⟩⟩
    · exact List.nil_sublist _
    · cases hresponse : responseIn m limit frame with
      | none =>
        rw [List.filterMap_cons, hresponse]
        exact List.nil_sublist _
      | some parts =>
        obtain ⟨hparts, -⟩ := responseIn_eq_some.mp hresponse
        have hid : parts.envelope.msgId = call.envelope.msgId := by
          obtain ⟨ts, bytes, hencoded, -⟩ := hframes frame List.mem_cons_self
          exact parts_of_carries (P := fun e => e.msgId = call.envelope.msgId) hm hlimit
            ⟨_, bytes, hencoded, rfl⟩ hparts
        simp [hresponse, hid]
    · simp only [List.length_cons] at hlength
      omega

/-- A process sends its responses in the order of the executions. -/
theorem responses_sublist_executedBy (hm : ReadsBack m) (hlimit : limit < 2 ^ 32)
    (h : (network m r c debug limit nodes).Run (Fresh m ids) s tr) (k : ConnId) :
    (((sentBy k tr).filterMap (responseIn m limit)).map fun parts => parts.envelope.msgId).Sublist
      ((executedBy k tr).map fun call => call.envelope.msgId) := by
  refine h.invariant (P := fun _ tr =>
    (((sentBy k tr).filterMap (responseIn m limit)).map fun parts => parts.envelope.msgId).Sublist
      ((executedBy k tr).map fun call => call.envelope.msgId)) (List.Sublist.refl _) ?_
  intro s s' tr evs i hrun hfresh hs ih
  rw [sentBy, executedBy, leafTrace_append, List.filterMap_append, List.filterMap_append,
    List.filterMap_append, List.map_append, List.map_append]
  refine List.Sublist.append ih ?_
  cases networkStep_of_step hrun hfresh hs with
  | router hleaf =>
    rw [leafTrace_hubEvents]
    exact List.nil_sublist _
  | @caller k' j config request conn conn' evs' hnode hconn hleaf hmsgId heffect =>
    rw [leafTrace_leafEvents]
    split_ifs
    · rw [responses_of_caller hm hlimit heffect]
      exact List.nil_sublist _
    · exact List.nil_sublist _
  | @service k' j peerId handleCall worker svc svc' evs' hnode hsvc hleaf heffect =>
    rw [leafTrace_leafEvents]
    split_ifs
    · exact responses_of_service hm hlimit heffect
    · exact List.nil_sublist _

/-- Calls under one id are executed by one worker. -/
theorem eq_of_executed (hm : ReadsBack m) (hlimit : limit < 2 ^ 32) (hids : DistinctIds nodes)
    (h : (network m r c debug limit nodes).Run (Fresh m (requestIds nodes)) s tr) {k' : ConnId}
    {call call' : FrameParts} {result result' : Except String V}
    (hexecuted : .leaf k (.executed call result) ∈ tr)
    (hexecuted' : .leaf k' (.executed call' result') ∈ tr)
    (hid : call'.envelope.msgId = call.envelope.msgId) : k' = k := by
  obtain ⟨t, ht, -⟩ := exists_refinement hm hlimit hids h
  have hexec : .exec call.envelope.msgId k call result ∈ tr.filterMap (observe m limit nodes) :=
    mem_observe_exec.mpr ⟨hexecuted, rfl⟩
  have hexec' : .exec call.envelope.msgId k' call' result' ∈
      tr.filterMap (observe m limit nodes) := mem_observe_exec.mpr ⟨hexecuted', hid⟩
  obtain ⟨before, after, hsplit⟩ := List.append_of_mem hexec
  rw [hsplit] at ht hexec'
  have hperm : (before ++ RemoteObject.Event.exec call.envelope.msgId k call result ::
      after).Perm (.exec call.envelope.msgId k call result :: (before ++ after)) := List.perm_middle
  rcases List.mem_cons.mp (hperm.mem_iff.mp hexec') with heq | hother
  · exact (RemoteObject.Event.exec.inj heq).2.1
  · exact absurd hother (RemoteObject.executed_once ht)

/-- A response under the id of a call that was executed is forwarded for the service. -/
theorem forwarded_of_executed (hm : ReadsBack m) (hlimit : limit < 2 ^ 32) (hids : DistinctIds nodes)
    (h : (network m r c debug limit nodes).Run (Fresh m (requestIds nodes)) s tr) {k₁ k₂ : ConnId}
    {out : Router.Outbound m} {frame call : FrameParts} (hwrote : .wrote k₁ k₂ out ∈ hubTrace tr)
    (hout : responseIn m limit (bytesOf m out) = some frame) (hcall : call ∈ executedBy k tr)
    (hid : call.envelope.msgId = frame.envelope.msgId) :
    k₁ = k ∧ out = .forwarded (bytesOf m out) := by
  obtain ⟨hparts, hkind⟩ := responseIn_eq_some.mp hout
  obtain ⟨hlength, hdecoded⟩ := partsIn_eq_some.mp hparts
  obtain ⟨result, hexecuted⟩ := mem_executedBy.mp hcall
  obtain ⟨k₀, q, o, ho, rfl, hocall⟩ := request_of_executed hm hlimit h hexecuted
  have hgiven : requestIds nodes frame.envelope.msgId := ⟨k₀, q, o, ho, hid⟩
  -- no process sends another frame under this id, and the router answers none
  have hsame : ∀ {k' : ConnId} {raw : Bytes} {parts : FrameParts}, .leaf k' (.sent raw) ∈ tr →
      raw.length ≤ limit → Rust.decodeFrame m raw = .ok parts →
      parts.envelope.msgId = frame.envelope.msgId → parts.envelope.kind ≠ kindError →
      parts.envelope.kind = kindCall ∨ parts.envelope.kind = kindResponse ∧ k' = k := by
    intro k' raw parts hsent hshort hraw hmsgId hother
    cases origin_of_sent hm h hsent (hshort.trans_lt hlimit) hraw with
    | error herror => exact absurd herror hother
    | control hcontrol =>
      rw [← hmsgId] at hgiven
      exact absurd hgiven hcontrol.2
    | @request q' o' ho' hraw' hparts' =>
      subst hparts'
      obtain ⟨rfl, rfl⟩ := hids k' q' o' k₀ q o ho' ho (hmsgId.trans hid.symm)
      obtain rfl := Option.some.inj (ho'.symm.trans ho)
      exact .inl hocall
    | @answer peerId handleCall worker call' v hnode hexecuted' hresponse hmsgId' hbody =>
      exact .inr ⟨hresponse, eq_of_executed hm hlimit hids h hexecuted hexecuted'
        (hmsgId'.symm.trans (hmsgId.trans hid.symm))⟩
  have hnotCall : kindResponse ≠ kindCall := by decide
  rcases wrote_cases h hwrote with ⟨raw, rfl, hsent⟩ | ⟨f, rfl, hgrounds⟩
  · refine ⟨?_, rfl⟩
    have hother : frame.envelope.kind ≠ kindError := by
      rw [hkind]
      decide
    rcases hsame hsent hlength hdecoded rfl hother with hfor | ⟨-, hk⟩
    · exact absurd (hkind.symm.trans hfor) hnotCall
    · exact hk
  · have hframe := eq_of_decodeFrame hm (encodeFrame_of_router f.encoded) (hlength.trans_lt hlimit)
      hdecoded
    subst hframe
    have hcause : ∀ {trace : List (Router.Event m)} {parts : FrameParts}, trace <+: hubTrace tr →
        Router.Got trace k₂ parts → f.envelope.msgId = parts.envelope.msgId →
        parts.envelope.kind ≠ kindError →
        parts.envelope.kind = kindCall ∨ parts.envelope.kind = kindResponse := by
      rintro trace parts hbefore ⟨raw, hreceived, hraw⟩ hmsgId hother
      obtain ⟨hsent, hshort⟩ := sent_of_received h (hbefore.subset hreceived)
      exact (hsame hsent hshort (router_decodeFrame_iff.mp hraw) hmsgId.symm hother).imp_right
        And.left
    have hkind' : f.envelope.kind = kindResponse := hkind
    cases hgrounds with
    | refusal herror hid' =>
      rw [hkind'] at herror
      exact absurd herror (by decide)
    | ack hgot hid' hresponse hfor =>
      have hkinds := hcause List.prefix_rfl hgot hid'
      rcases hfor with hfor | hfor <;> rw [hfor] at hkinds <;> exact absurd hkinds (by decide)
    | echo hgot hid' hheartbeat hfor =>
      rw [hkind'] at hheartbeat
      exact absurd hheartbeat (by decide)
    | answer hbefore hgot hid' hresponse hfor hbody hf =>
      have hkinds := hcause hbefore hgot hid'
      rw [hfor] at hkinds
      exact absurd hkinds (by decide)

/-- **Answers keep their order.**  The responses that reach a caller for calls that one service has
executed arrive in the order of the executions. -/
theorem answered_in_order (hm : ReadsBack m) (hlimit : limit < 2 ^ 32) (hids : DistinctIds nodes)
    (h : (network m r c debug limit nodes).Run (Fresh m (requestIds nodes)) s tr) {k₀ : ConnId}
    {frames : List FrameParts} (hcompleted : frames.Sublist (completedBy k₀ tr))
    (hresponse : ∀ frame ∈ frames, frame.envelope.kind = kindResponse)
    (hexecuted : ∀ frame ∈ frames, ∃ call ∈ executedBy k tr,
      call.envelope.msgId = frame.envelope.msgId) :
    (frames.map fun frame => frame.envelope.msgId).Sublist
      ((executedBy k tr).map fun call => call.envelope.msgId) := by
  have hparts : frames.Sublist ((givenTo k₀ tr).filterMap (partsIn m limit)) :=
    (hcompleted.trans (List.sublist_append_left _ _)).trans (completedBy_sublist_givenTo h k₀)
  have hread : frames.Sublist ((givenTo k₀ tr).filterMap (responseIn m limit)) := by
    have hown : frames.filter (fun frame => frame.envelope.kind = kindResponse) = frames :=
      List.filter_eq_self.mpr fun frame hframe => decide_eq_true (hresponse frame hframe)
    have hcommute : ((givenTo k₀ tr).filterMap (partsIn m limit)).filter
        (fun frame => frame.envelope.kind = kindResponse) =
          (givenTo k₀ tr).filterMap (responseIn m limit) := List.filter_filterMap ..
    rw [← hown, ← hcommute]
    exact hparts.filter _
  have hsent : frames.Sublist ((sentBy k tr).filterMap (responseIn m limit)) := by
    refine sublist_sent h.reachable hread hexecuted ?_
    rintro k₁ k₂ out frame hwrote hout ⟨call, hcall, hid⟩
    exact forwarded_of_executed hm hlimit hids h hwrote hout hcall hid
  exact (hsent.map _).trans (responses_sublist_executedBy hm hlimit h k)

/-- The answers to both calls come back, the first one first. -/
theorem answered_in_order_two : ∃ s tr,
    (network Router.msgPackSerde Rust.registerSerde Rust.Service.msgPackCallSerde (fun _ => "") 1000
      callerAndCounter).Run (Fresh Router.msgPackSerde (requestIds callerAndCounter)) s tr ∧
    (completedBy 0 tr).map (fun frame => frame.envelope.msgId) = ["qq", "q"] ∧
    ((completedBy 0 tr).map fun frame => frame.envelope.msgId).Sublist
      ((executedBy 1 tr).map fun call => call.envelope.msgId) := by
  obtain ⟨s, tr, hrun, hp⟩ := (network Router.msgPackSerde Rust.registerSerde
    Rust.Service.msgPackCallSerde (fun _ => "") 1000 callerAndCounter).exists_run_of_exec
    (Fresh Router.msgPackSerde (· ≠ "r"))
    (callerJoins ++ counterJoins ++ callsNext 2 0 ++ callsNext 1 1)
    (fun _ tr => (completedBy 0 tr).map (fun frame => frame.envelope.msgId) == ["qq", "q"] &&
      (completedBy 0 tr).all fun frame => frame.envelope.kind == kindResponse &&
        (executedBy 1 tr).any fun call => call.envelope.msgId == frame.envelope.msgId)
    (by decide +kernel)
  simp only [Bool.and_eq_true, beq_iff_eq, List.all_eq_true, List.any_eq_true] at hp
  have hfresh := hrun.mono fun _ _ _ hi => fresh_withCounter msgId_nextCall hi
  exact ⟨s, tr, hfresh, hp.1, answered_in_order readsBack_msgPackSerde (by decide)
    (distinctIds_withCounter msgId_nextCall) hfresh (List.Sublist.refl _)
    (fun frame hframe => (hp.2 frame hframe).1) fun frame hframe => (hp.2 frame hframe).2⟩

end Multifrost.Network
