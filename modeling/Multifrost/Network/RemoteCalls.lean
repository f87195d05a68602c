import Multifrost.Lib.RemoteObject
import Multifrost.Network.Answers
import Multifrost.Rust.Safety.ControlFrames

/-!
# Calls over the network

What the whole is for: to the callers, the services are objects that are called from afar, and the
router and the wires between them cannot be seen.  `observe` picks from a run of the network the calls
that go out, the executions and the answers of the services that come back; what is left is a run of
`RemoteObject.system`, whose objects are the workers (`network_refines`).

A call is thus executed once at most, by the worker of the service that it names, after it was sent
and with the body that was sent, and what comes back is the result of that execution.  This holds for
any number of callers and services, in any order of their steps, whatever registrations, disconnects
and failing sends come between, and for services that register under an id one after the other.
-/

namespace Multifrost.Network

open Router (ConnId Envelope FrameParts Message RmpSerde kindCall kindDisconnect kindError kindQuery
  kindRegister kindResponse routerPeerId)
open Rust (MultifrostError RegisterSerde)
open Rust.CallerTransport (Config Outgoing ReqId)
open Rust.Service (CallSerde)
open TransitionSystem

section Definitions

variable (m : RmpSerde) {V ω : Type} (c : CallSerde V) (limit : Nat)

/-- The workers as objects: a service takes the calls that are addressed to it and whose body it
accepts, and a result comes back as the body of a response. -/
def workers (nodes : ConnId → Node m V ω) :
    RemoteObject ConnId FrameParts (Except String V) (Option ω) Bytes where
  start k :=
    match nodes k with
    | .service _ _ worker => some worker
    | .caller .. => none
  handle k call state :=
    match nodes k with
    | .service peerId handleCall _ =>
      if call.envelope.toPeer = peerId ∧ call.envelope.kind = kindCall then do
        let worker ← state
        let body ← acceptedBody c call
        let called := handleCall body.function body.args worker
        some (called.1, some called.2)
      else none
    | .caller .. => none
  reply
    | .ok v => (c.responseBodyToVecNamed ⟨v⟩).toOption
    | .error _ => none

/-- The frame answers a request for a call, and is no error: this is all that `call_to` looks at. -/
def returnsCall {m : RmpSerde} (nodes : ConnId → Node m V ω) (k : ConnId) (q : ReqId)
    (frame : FrameParts) : Bool :=
  ((nodes k).outgoing q).any (fun o => o.envelope.kind == kindCall) &&
    frame.envelope.kind != kindError

/-- What the callers and the workers see of the network. -/
def observe (nodes : ConnId → Node m V ω) : NetworkEvent m V →
    Option (RemoteObject.Event String ConnId FrameParts (Except String V) Bytes)
  | .leaf _ (.sent frame) =>
    match Rust.decodeFrame m frame with
    | .ok call =>
      if frame.length ≤ limit ∧ call.envelope.kind = kindCall then some (.call call.envelope.msgId call)
      else none
    | .error _ => none
  | .leaf k (.executed call result) => some (.exec call.envelope.msgId k call result)
  | .leaf k (.completed q (.ok frame)) =>
    if returnsCall nodes k q frame then some (.ret frame.envelope.msgId frame.bodyBytes) else none
  | _ => none

/-- The worker of a process. -/
def workerOf : NodeState ω → Option ω
  | .service s => some s.world.worker
  | .caller _ => none

end Definitions

variable {m : RmpSerde} {r : RegisterSerde} {V ω : Type} {c : CallSerde V}
  {debug : Message → String} {limit : Nat} {nodes : ConnId → Node m V ω} {ids : String → Prop}
  {s : NetworkState m ω} {tr : List (NetworkEvent m V)} {k : ConnId}

/-! ### What is observed -/

theorem observe_sent {frame : Bytes}
    {e : RemoteObject.Event String ConnId FrameParts (Except String V) Bytes} :
    observe m limit nodes (.leaf k (.sent frame)) = some e ↔ ∃ call, frame.length ≤ limit ∧
      Rust.decodeFrame m frame = .ok call ∧ call.envelope.kind = kindCall ∧
      e = .call call.envelope.msgId call := by
  unfold observe
  dsimp only
  cases hcall : Rust.decodeFrame m frame with
  | error err => simp
  | ok call =>
    dsimp only
    rw [Option.ite_none_right_eq_some]
    constructor
    · rintro ⟨⟨hlength, hkind⟩, heq⟩
      exact ⟨call, hlength, rfl, hkind, (Option.some.inj heq).symm⟩
    · rintro ⟨call', hlength, hok, hkind, rfl⟩
      obtain rfl := Except.ok.inj hok
      exact ⟨⟨hlength, hkind⟩, rfl⟩

theorem observe_completed {q : ReqId} {result : Except MultifrostError FrameParts}
    {e : RemoteObject.Event String ConnId FrameParts (Except String V) Bytes} :
    observe m limit nodes (.leaf k (.completed q result)) = some e ↔ ∃ frame, result = .ok frame ∧
      returnsCall nodes k q frame = true ∧ e = .ret frame.envelope.msgId frame.bodyBytes := by
  cases result with
  | error err => simp [observe]
  | ok frame =>
    unfold observe
    dsimp only
    rw [Option.ite_none_right_eq_some]
    constructor
    · rintro ⟨hreturns, heq⟩
      exact ⟨frame, rfl, hreturns, (Option.some.inj heq).symm⟩
    · rintro ⟨frame', hok, hreturns, rfl⟩
      obtain rfl := Except.ok.inj hok
      exact ⟨hreturns, rfl⟩

theorem returnsCall_iff {q : ReqId} {frame : FrameParts} :
    returnsCall nodes k q frame = true ↔ ∃ o, (nodes k).outgoing q = some o ∧
      o.envelope.kind = kindCall ∧ frame.envelope.kind ≠ kindError := by
  unfold returnsCall
  rw [Bool.and_eq_true, Option.any_eq_true, bne_iff_ne]
  constructor
  · rintro ⟨⟨o, ho, hkind⟩, hframe⟩
    exact ⟨o, ho, beq_iff_eq.mp hkind, hframe⟩
  · rintro ⟨o, ho, hkind, hframe⟩
    exact ⟨⟨o, ho, beq_iff_eq.mpr hkind⟩, hframe⟩

theorem mem_observe_call {id : String} {call : FrameParts} :
    .call id call ∈ tr.filterMap (observe m limit nodes) ↔ ∃ k frame, .leaf k (.sent frame) ∈ tr ∧
      frame.length ≤ limit ∧ Rust.decodeFrame m frame = .ok call ∧
      call.envelope.kind = kindCall ∧ call.envelope.msgId = id := by
  rw [List.mem_filterMap]
  constructor
  · rintro ⟨e, he, hobserved⟩
    cases e with
    | leaf k f =>
      cases f with
      | sent frame =>
        obtain ⟨call', hlength, hcall, hkind, heq⟩ := observe_sent.mp hobserved
        obtain ⟨rfl, rfl⟩ := RemoteObject.Event.call.inj heq
        exact ⟨k, frame, he, hlength, hcall, hkind, rfl⟩
      | executed call' result => cases hobserved
      | completed q result =>
        obtain ⟨frame, -, -, heq⟩ := observe_completed.mp hobserved
        cases heq
    | hub | taken | given => cases hobserved
  · rintro ⟨k, frame, hmem, hlength, hcall, hkind, rfl⟩
    exact ⟨_, hmem, observe_sent.mpr ⟨call, hlength, hcall, hkind, rfl⟩⟩

theorem mem_observe_exec {id : String} {call : FrameParts} {result : Except String V} :
    .exec id k call result ∈ tr.filterMap (observe m limit nodes) ↔
      .leaf k (.executed call result) ∈ tr ∧ call.envelope.msgId = id := by
  rw [List.mem_filterMap]
  constructor
  · rintro ⟨e, he, hobserved⟩
    cases e with
    | leaf k' f =>
      cases f with
      | sent frame =>
        obtain ⟨call', -, -, -, heq⟩ := observe_sent.mp hobserved
        cases heq
      | executed call' result' =>
        obtain ⟨rfl, rfl, rfl, rfl⟩ := RemoteObject.Event.exec.inj (Option.some.inj hobserved)
        exact ⟨he, rfl⟩
      | completed q result' =>
        obtain ⟨frame, -, -, heq⟩ := observe_completed.mp hobserved
        cases heq
    | hub | taken | given => cases hobserved
  · rintro ⟨hmem, rfl⟩
    exact ⟨_, hmem, rfl⟩

/-- A frame that carries no call is not observed. -/
theorem observe_of_carries (hm : ReadsBack m) (hlimit : limit < 2 ^ 32) {P : Envelope → Prop}
    {frame : Bytes} (h : Carries m P frame) (hother : ∀ e, P e → e.kind ≠ kindCall) :
    observe m limit nodes (.leaf k (.sent frame) : NetworkEvent m V) = none := by
  cases hobserved : observe m limit nodes (.leaf k (.sent frame) : NetworkEvent m V) with
  | none => rfl
  | some e =>
    obtain ⟨call, hlength, hcall, hkind, -⟩ := observe_sent.mp hobserved
    obtain ⟨envelope, body, hencoded, hp⟩ := h
    rw [eq_of_decodeFrame hm hencoded (hlength.trans_lt hlimit) hcall] at hkind
    exact absurd hkind (hother envelope hp)

/-- The router and the wires are not observed. -/
theorem observe_hubEvents (p : Option (ConnId × Bytes)) (evs : List (Router.Event m)) :
    (hubEvents p evs : List (NetworkEvent m V)).filterMap (observe m limit nodes) = [] := by
  rw [List.filterMap_eq_nil_iff]
  intro e he
  rcases List.mem_append.mp he with hmem | hmem
  · obtain ⟨p, -, rfl⟩ := List.mem_map.mp hmem
    rfl
  · obtain ⟨e', -, rfl⟩ := List.mem_map.mp hmem
    rfl

theorem observe_leafEvents (k : ConnId) (x : Option Bytes) (evs : List (NodeEvent V)) :
    (leafEvents k x evs : List (NetworkEvent m V)).filterMap (observe m limit nodes) =
      evs.filterMap fun f => observe m limit nodes (.leaf k f) := by
  have hgiven : (x.toList.map (.given k) : List (NetworkEvent m V)).filterMap (observe m limit nodes) =
      [] := by
    cases x <;> rfl
  rw [leafEvents, List.filterMap_append, hgiven, List.nil_append, List.filterMap_map]
  rfl

/-! ### The phases of a call -/

section Phases

variable {t : RemoteObject.State String ConnId FrameParts (Except String V) (Option ω)}
  {q : ReqId} {o : Outgoing m}

/-- A request that has not gone out has made no call. -/
theorem phase_of_fresh (hm : ReadsBack m) (hlimit : limit < 2 ^ 32) (hids : DistinctIds nodes)
    (h : (network m r c debug limit nodes).Run (Fresh m ids) s tr)
    (ht : (workers m c nodes).system.Reachable t (tr.filterMap (observe m limit nodes)))
    (ho : (nodes k).outgoing q = some o) (hlength : o.frame.length ≤ limit)
    (hlate : late (requestsOf (s.leaf k) q) = false) : t.phase o.envelope.msgId = .idle := by
  have hrecorded := RemoteObject.recorded ht o.envelope.msgId
  have hnone : ∀ call, .call o.envelope.msgId call ∉ tr.filterMap (observe m limit nodes) := by
    intro call hmem
    obtain ⟨k', frame, hsent, hshort, hcall, hkind, hid⟩ := mem_observe_call.mp hmem
    obtain ⟨q', o', ho', rfl, rfl⟩ :=
      call_of_sent hm h hsent (hshort.trans_lt hlimit) hcall hkind
    obtain ⟨rfl, rfl⟩ := hids k' q' o' k q o ho' ho hid
    obtain rfl := Option.some.inj (ho.symm.trans ho')
    obtain ⟨config, request, hnode, rfl⟩ := outgoing_eq_some ho
    have hrun := run_of_node h k'
    rw [hnode] at hrun
    exact (count_sent_le hm hrun (hids.eq_of_msgId hnode) (hlength.trans_lt hlimit)).2 hlate
      (mem_sentBy.mpr hsent)
  cases hphase : t.phase o.envelope.msgId with
  | idle => rfl
  | called call => exact absurd (hrecorded.made call hphase) (hnone call)
  | executed result =>
    obtain ⟨k', call, hexec⟩ := hrecorded.outcome result hphase
    exact absurd (hrecorded.done k' call result hexec).2 (hnone call)

/-- A call that a process reads has been made, and has not been executed. -/
theorem phase_of_read (hm : ReadsBack m) (hlimit : limit < 2 ^ 32) (hids : DistinctIds nodes)
    (h : (network m r c debug limit nodes).Run (Fresh m ids) s tr)
    (ht : (workers m c nodes).system.Reachable t (tr.filterMap (observe m limit nodes)))
    {j : NodeInput} {s' : NetworkState m ω} {evs : List (NetworkEvent m V)} {raw : Bytes}
    {call : FrameParts} (hfresh : j.Fresh ids)
    (hs : (network m r c debug limit nodes).step (.leaf k j) s = some (s', evs))
    (hread : nodeTakes (s.leaf k) j = some raw) (hcall : Rust.decodeFrame m raw = .ok call)
    (hkind : call.envelope.kind = kindCall) : t.phase call.envelope.msgId = .called call := by
  obtain ⟨hwritten, hlength⟩ := written_of_takes h hs hread
  obtain ⟨k₀, q, o, -, hsent, ho, rfl, rfl⟩ :=
    call_of_written hm h hwritten (hlength.trans_lt hlimit) hcall hkind
  have hmade : .call o.envelope.msgId ⟨o.envelope, o.body⟩ ∈ tr.filterMap (observe m limit nodes) :=
    mem_observe_call.mpr ⟨k₀, o.frame, hsent, hlength, hcall, hkind, rfl⟩
  rcases (RemoteObject.recorded ht o.envelope.msgId).waits _ hmade with hwaits | ⟨k₁, b, hexec, -⟩
  · exact hwaits
  -- another execution has read the same frame, and the frame is written once
  obtain ⟨raw₁, hgiven, hwritten₁, hin₁⟩ := written_of_executed h (mem_observe_exec.mp hexec).1
  obtain ⟨hlength₁, hcall₁, -⟩ := callIn_eq_some.mp hin₁
  obtain ⟨k₂, q₂, o₂, -, -, ho₂, rfl, hparts⟩ :=
    call_of_written hm h hwritten₁ (hlength₁.trans_lt hlimit) hcall₁ hkind
  have hid : o₂.envelope.msgId = o.envelope.msgId :=
    congrArg (fun parts : FrameParts => parts.envelope.msgId) hparts.symm
  obtain ⟨rfl, rfl⟩ := hids k₂ q₂ o₂ k₀ q o ho₂ ho hid
  obtain rfl := Option.some.inj (ho.symm.trans ho₂)
  have honce := count_written_le hm hids h ho (hlength.trans_lt hlimit) hcall hkind
  obtain rfl := eq_of_count_le honce hwritten hwritten₁
  have hguard : Fresh m ids s tr (.leaf k j) := hfresh
  have hrun' := Run.step h hguard hs
  have hbefore : 0 < (givenTo k tr).count o.frame := List.count_pos_iff.mpr hgiven
  have hnow : 0 < (givenTo k evs).count o.frame := by
    cases step_of_star hs with
    | leaf hs' hdown =>
      rw [givenTo_leafEvents, List.count_pos_iff, mem_onLink]
      show (k, o.frame) ∈ ((nodeTakes (s.leaf k) j).map fun x => (k, x)).toList
      rw [hread]
      exact List.mem_cons_self
  have honce' := count_written_le hm hids hrun' ho (hlength.trans_lt hlimit) hcall hkind
  have hgiven' := ((givenTo_written hrun' k).sublist.count_le o.frame).trans
    (count_onLink_le k _ o.frame)
  rw [givenTo_append, List.count_append] at hgiven'
  omega

end Phases

/-! ### The refinement -/

section Refinement

variable {s' : NetworkState m ω} {j : NodeInput} {l : NodeState ω} {evs : List (NodeEvent V)}
  {t : RemoteObject.State String ConnId FrameParts (Except String V) (Option ω)}

/-- A caller makes a call, learns of a result, or does nothing that is seen. -/
theorem follows_caller (hm : ReadsBack m) (hlimit : limit < 2 ^ 32) (hids : DistinctIds nodes)
    (h : (network m r c debug limit nodes).Run (Fresh m (requestIds nodes)) s tr)
    (ht : (workers m c nodes).system.Reachable t (tr.filterMap (observe m limit nodes)))
    {config : Config} {request : ReqId → Outgoing m} {read : Option Bytes}
    (hnode : nodes k = .caller config request)
    (heffect : CallerEffect m (requestIds nodes) request (s.leaf k) l read evs)
    (hmsgId : ∀ q frame, .completed q (.ok frame) ∈ evs →
      frame.envelope.msgId = (request q).envelope.msgId) :
    ∃ t', t'.object = t.object ∧ (workers m c nodes).system.Reachable t'
      (tr.filterMap (observe m limit nodes) ++
        evs.filterMap fun f => observe m limit nodes (.leaf k f)) := by
  have hlength := heffect.length
  have ho : ∀ q, (nodes k).outgoing q = some (request q) := by
    intro q
    rw [hnode]
    rfl
  rcases evs with _ | ⟨e, _ | ⟨e', rest⟩⟩
  · exact ⟨t, rfl, by rwa [List.filterMap_nil, List.append_nil]⟩
  · cases hobserved : observe m limit nodes (.leaf k e : NetworkEvent m V) with
    | none => exact ⟨t, rfl, by simpa [hobserved] using ht⟩
    | some seen =>
      have hseen : ([e].filterMap fun f => observe m limit nodes (.leaf k f : NetworkEvent m V)) =
          [seen] := by
        simp [hobserved]
      rw [hseen]
      cases e with
      | executed call result => exact absurd List.mem_cons_self (heffect.executed call result)
      | sent frame =>
        obtain ⟨call, hshort, hcall, hkind, rfl⟩ := observe_sent.mp hobserved
        rcases heffect.sent frame List.mem_cons_self with
          ⟨envelope, body, hencoded, hcontrol⟩ | ⟨q, rfl, hlate, -⟩
        · obtain rfl := eq_of_decodeFrame hm hencoded (hshort.trans_lt hlimit) hcall
          rw [IsControl, hkind] at hcontrol
          exact absurd hcontrol.1 (by decide)
        obtain rfl := eq_of_decodeFrame hm (request q).encoded (hshort.trans_lt hlimit) hcall
        have hcalled := RemoteObject.reachable_call (a := ⟨(request q).envelope, (request q).body⟩) ht
          (phase_of_fresh hm hlimit hids h ht (ho q) hshort hlate)
        refine ⟨_, ?_, hcalled⟩
        rfl
      | completed q result =>
        obtain ⟨frame, rfl, hreturns, rfl⟩ := observe_completed.mp hobserved
        obtain ⟨o, ho', hcall, hkind⟩ := returnsCall_iff.mp hreturns
        obtain rfl := Option.some.inj ((ho q).symm.trans ho')
        obtain ⟨hhand, -⟩ := heffect.completed q frame List.mem_cons_self
        have hframe : frame ∈ completedBy k tr ++ (inHand (s.leaf k)).toList := by
          rw [hhand]
          exact List.mem_append_right _ List.mem_cons_self
        obtain ⟨raw, hwritten, hparts⟩ := written_of_answer h hframe
        obtain ⟨hshort, hdecoded⟩ := partsIn_eq_some.mp hparts
        have hid := hmsgId q frame List.mem_cons_self
        cases answer_of_written hm hlimit hids h (ho q) hwritten hshort hdecoded hid hkind with
        | looked hquery hbefore hgot hdecode hbody =>
          rw [hcall] at hquery
          exact absurd hquery (by decide)
        | @executed k' v hcall' hexecuted hbody =>
          have hexec : .exec frame.envelope.msgId k' ⟨(request q).envelope, (request q).body⟩
              (.ok v) ∈ tr.filterMap (observe m limit nodes) :=
            mem_observe_exec.mpr ⟨hexecuted, hid.symm⟩
          refine ⟨t, rfl, RemoteObject.reachable_ret ht
            ((RemoteObject.recorded ht frame.envelope.msgId).done k' _ _ hexec).1 ?_⟩
          show (c.responseBodyToVecNamed ⟨v⟩).toOption = some frame.bodyBytes
          rw [hbody]
          rfl
  · simp only [List.length_cons] at hlength
    omega

/-- Nothing that a service sends is a call. -/
theorem observe_sent_service {frames : List Bytes} {P : Envelope → Prop} (hm : ReadsBack m)
    (hlimit : limit < 2 ^ 32) (hframes : ∀ frame ∈ frames, Carries m P frame)
    (hother : ∀ e, P e → e.kind ≠ kindCall) :
    ((frames.map .sent : List (NodeEvent V)).filterMap fun f =>
      observe m limit nodes (.leaf k f : NetworkEvent m V)) = [] := by
  rw [List.filterMap_eq_nil_iff]
  intro f hf
  obtain ⟨frame, hframe, rfl⟩ := List.mem_map.mp hf
  exact observe_of_carries hm hlimit (hframes frame hframe) hother

theorem kind_of_isNotice : ∀ e, IsNotice ids e → e.kind ≠ kindCall := by
  rintro e (herror | ⟨hregister | hdisconnect, -⟩)
  · rw [herror]
    decide
  · rw [hregister]
    decide
  · rw [hdisconnect]
    decide

theorem carries_of_answers {peerId : String} {call : FrameParts} {result : Except String V}
    {frame : Bytes} (h : Answers m c peerId call result frame) :
    Carries m (fun e => e.kind ≠ kindCall) frame := by
  obtain ⟨ts, body, hencoded, -⟩ := h
  refine ⟨_, body, hencoded, ?_⟩
  show (if result.isOk then kindResponse else kindError) ≠ kindCall
  split_ifs
  · decide
  · decide

/-- A service executes a call that has been made, or does nothing that is seen. -/
theorem follows_service (hm : ReadsBack m) (hlimit : limit < 2 ^ 32) (hids : DistinctIds nodes)
    (h : (network m r c debug limit nodes).Run (Fresh m ids) s tr)
    (ht : (workers m c nodes).system.Reachable t (tr.filterMap (observe m limit nodes)))
    {peerId : String} {handleCall : String → List V → ω → Except String V × ω} {worker : ω}
    {svc svc' : Rust.Service.State ω} {evs' : List (NetworkEvent m V)}
    (hnode : nodes k = .service peerId handleCall worker) (hfresh : j.Fresh ids)
    (hs : (network m r c debug limit nodes).step (.leaf k j) s = some (s', evs'))
    (hobject : t.object k = some svc.world.worker)
    (heffect : ServiceEffect m c ids peerId handleCall svc svc' (nodeTakes (s.leaf k) j) evs) :
    ∃ t', t'.object = Function.update t.object k (some svc'.world.worker) ∧
      (workers m c nodes).system.Reachable t' (tr.filterMap (observe m limit nodes) ++
        evs.filterMap fun f => observe m limit nodes (.leaf k f)) := by
  cases heffect with
  | plain hlength hframes hworker =>
    rw [observe_sent_service hm hlimit hframes kind_of_isNotice, List.append_nil, hworker, ← hobject,
      Function.update_eq_self]
    exact ⟨t, rfl, ht⟩
  | @executes raw call body result frames hread hdecoded hto hkind hbody hcall hlength hframes =>
    have hquiet : ((frames.map .sent : List (NodeEvent V)).filterMap fun f =>
        observe m limit nodes (.leaf k f : NetworkEvent m V)) = [] :=
      observe_sent_service hm hlimit (fun frame hframe => carries_of_answers (hframes frame hframe))
        fun _ he => he
    have hseen : ((.executed call result :: frames.map .sent : List (NodeEvent V)).filterMap fun f =>
        observe m limit nodes (.leaf k f : NetworkEvent m V)) =
          [.exec call.envelope.msgId k call result] := by
      rw [List.filterMap_cons, hquiet]
      rfl
    rw [hseen]
    have hhandle : (workers m c nodes).handle k call (t.object k) =
        some (result, some svc'.world.worker) := by
      simp only [workers, hnode, hobject]
      rw [if_pos ⟨hto, hkind⟩, hbody, Option.bind_eq_bind, Option.bind_some, Option.bind_eq_bind,
        Option.bind_some, hcall]
    have hexecuted := RemoteObject.reachable_exec ht
      (phase_of_read hm hlimit hids h ht hfresh hs hread hdecoded hkind) hhandle
    refine ⟨_, ?_, hexecuted⟩
    rfl

/-- The run of the objects that a run of the network amounts to. -/
theorem exists_refinement (hm : ReadsBack m) (hlimit : limit < 2 ^ 32) (hids : DistinctIds nodes)
    (h : (network m r c debug limit nodes).Run (Fresh m (requestIds nodes)) s tr) :
    ∃ t, (workers m c nodes).system.Reachable t (tr.filterMap (observe m limit nodes)) ∧
      ∀ k, t.object k = workerOf (s.leaf k) := by
  refine h.invariant (P := fun s tr => ∃ t,
    (workers m c nodes).system.Reachable t (tr.filterMap (observe m limit nodes)) ∧
      ∀ k, t.object k = workerOf (s.leaf k)) ?_ ?_
  · refine ⟨(workers m c nodes).system.init, .init, ?_⟩
    intro k
    show (workers m c nodes).start k = workerOf ((nodes k).start m r c debug)
    simp only [workers]
    cases nodes k <;> rfl
  rintro s s' tr evs i hrun hfresh hs ⟨t, ht, hobjects⟩
  rw [List.filterMap_append]
  -- the objects follow the process that moves; the others stay as they are
  have hupdate : ∀ {k : ConnId} {l : NodeState ω}
      {t' : RemoteObject.State String ConnId FrameParts (Except String V) (Option ω)},
      s'.leaf = Function.update s.leaf k l → t'.object = Function.update t.object k (workerOf l) →
      ∀ k', t'.object k' = workerOf (s'.leaf k') := by
    intro k l t' hleaf ht' k'
    rw [hleaf, ht']
    by_cases hk : k' = k
    · subst hk
      rw [Function.update_self, Function.update_self]
    · rw [Function.update_of_ne hk, Function.update_of_ne hk]
      exact hobjects k'
  cases networkStep_of_step hrun hfresh hs with
  | router hleaf =>
    rw [observe_hubEvents, List.append_nil, hleaf]
    exact ⟨t, ht, hobjects⟩
  | @caller k j config request conn conn' evs' hnode hconn hleaf hmsgId heffect =>
    rw [observe_leafEvents]
    obtain ⟨t', hobject, hreach⟩ := follows_caller hm hlimit hids hrun ht hnode heffect hmsgId
    refine ⟨t', hreach, hupdate hleaf ?_⟩
    have hnone : workerOf (.caller conn' : NodeState ω) = t.object k := by
      rw [hobjects k, hconn]
      rfl
    rw [hobject, hnone, Function.update_eq_self]
  | @service k j peerId handleCall worker svc svc' evs' hnode hsvc hleaf heffect =>
    rw [observe_leafEvents]
    have hobject : t.object k = some svc.world.worker := by
      rw [hobjects k, hsvc]
      rfl
    obtain ⟨t', ht', hreach⟩ :=
      follows_service hm hlimit hids hrun ht hnode hfresh hs hobject heffect
    exact ⟨t', hreach, hupdate hleaf ht'⟩

/-- **The network refines remote objects.**  Every run of the router with its callers and services,
of which `observe` leaves the calls, the executions and the results that come back, is a run of
objects that are called from afar: the workers.  Ids of requests and of control frames are drawn
anew, and a websocket message is shorter than `4` GiB. -/
theorem network_refines (hm : ReadsBack m) (hlimit : limit < 2 ^ 32) (hids : DistinctIds nodes)
    (h : (network m r c debug limit nodes).Run (Fresh m (requestIds nodes)) s tr) :
    ∃ t, (workers m c nodes).system.Reachable t (tr.filterMap (observe m limit nodes)) ∧
      ∀ k, t.object k = workerOf (s.leaf k) :=
  exists_refinement hm hlimit hids h

end Refinement

section Sample

open MsgPack (Value)
open Router (buildEnvelope frameBytes go msgPackSerde recv)

/-- The ids of the calls differ in their lengths. -/
def nextId (q : ReqId) : String := String.ofList (List.replicate q 'q')

def nextBody : Bytes := MsgPack.encode (.map [(.str "function", .str "next"), (.str "args", .array [])])

/-- A call of the function `"next"` of the service `"b"`. -/
def nextCall (q : ReqId) : Outgoing msgPackSerde where
  envelope := Rust.CallerTransport.buildCallEnvelope "a" "b" (nextId q) .one
  body := nextBody
  frame := frameBytes (Rust.CallerTransport.buildCallEnvelope "a" "b" (nextId q) .one) nextBody
  encoded := rfl
  request := .inl rfl

theorem msgId_nextCall (q : ReqId) : (nextCall q).envelope.msgId = nextId q := rfl

/-- A worker that counts its calls, and returns their number. -/
def counting (_ : String) (_ : List Value) (n : Nat) : Except String Value × Nat :=
  (.ok (.int n), n + 1)

/-- A caller on the first connection; all others would be services. -/
def withCounter (request : ReqId → Outgoing msgPackSerde) (k : ConnId) :
    Node msgPackSerde Value Nat :=
  if k = 0 then .caller ⟨"a", "ws://127.0.0.1:9981", none⟩ request else .service "b" counting 0

abbrev callerAndCounter : ConnId → Node msgPackSerde Value Nat := withCounter nextCall

section Ids

variable {request : ReqId → Outgoing msgPackSerde}

theorem outgoing_withCounter {k : ConnId} {q : ReqId} {o : Outgoing msgPackSerde}
    (ho : (withCounter request k).outgoing q = some o) : k = 0 ∧ o = request q := by
  unfold withCounter at ho
  split_ifs at ho with hk
  · exact ⟨hk, (Option.some.inj ho).symm⟩
  · cases ho

theorem distinctIds_withCounter (hrequest : ∀ q, (request q).envelope.msgId = nextId q) :
    DistinctIds (withCounter request) := by
  intro k q o k' q' o' ho ho' hid
  obtain ⟨rfl, rfl⟩ := outgoing_withCounter ho
  obtain ⟨rfl, rfl⟩ := outgoing_withCounter ho'
  refine ⟨rfl, ?_⟩
  rw [hrequest, hrequest] at hid
  have hlists : List.replicate q 'q' = List.replicate q' 'q' := String.ofList_injective hid
  simpa using congrArg List.length hlists

/-- The id `"r"` is left for control frames. -/
theorem fresh_withCounter (hrequest : ∀ q, (request q).envelope.msgId = nextId q)
    {s : NetworkState msgPackSerde Nat} {tr : List (NetworkEvent msgPackSerde Value)}
    {i : NetworkInput} (h : Fresh msgPackSerde (· ≠ "r") s tr i) :
    Fresh msgPackSerde (requestIds (withCounter request)) s tr i := by
  cases i with
  | hub i => trivial
  | leaf k j =>
    have hj : j.Fresh (· ≠ "r") := h
    show j.Fresh (requestIds (withCounter request))
    refine hj.mono ?_
    rintro id ⟨k, q, o, ho, rfl⟩ hid
    obtain ⟨rfl, rfl⟩ := outgoing_withCounter ho
    rw [hrequest] at hid
    have hlists : List.replicate q 'q' = ['r'] := String.ofList_injective hid
    have hmem : 'r' ∈ List.replicate q 'q' := by
      rw [hlists]
      exact List.mem_cons_self
    exact absurd (List.eq_of_mem_replicate hmem) (by decide)

end Ids

def ofBinary {ε : Type} (bytes : Bytes) : Option (Except ε Message) := some (.ok (.binary bytes))

/-- A process registers with the router, and reads the acknowledgement. -/
def joins (k : ConnId) (peerId : String) (peerClass : Router.PeerClass) (sends : NodeInput)
    (reads : Bytes → NodeInput) : List NetworkInput :=
  [.hub (go k), .leaf k sends,
    .hub (recv k (frameBytes (Rust.buildRegisterEnvelope peerId "r" .one)
      (MsgPack.encode (Router.RegisterBody.toValue ⟨peerId, peerClass⟩)))),
    .hub (go k), .hub (go k),
    .leaf k (reads (frameBytes (buildEnvelope kindResponse "r" routerPeerId peerId .one)
      (MsgPack.encode (Router.RegisterAckBody.toValue ⟨true, none⟩))))]

def callerJoins : List NetworkInput :=
  joins 0 "a" .caller (.caller (.connect "r" .one (.ok ()) none)) fun ack =>
    .caller (.connect "r" .one (.ok ()) (ofBinary ack))

def counterJoins : List NetworkInput :=
  joins 1 "b" .service (.service { newMsgId := "r" }) fun ack =>
    .service { newMsgId := "r", next := ofBinary ack }

/-- The response to a call. -/
def countBytes (q : ReqId) (n : Nat) : Bytes :=
  frameBytes (buildEnvelope kindResponse (nextId q) "b" "a" .one)
    (MsgPack.encode (.map [(.str "result", .int n)]))

/-- A call goes out, is forwarded, and its response comes back. -/
def callsNext (q : ReqId) (n : Nat) : List NetworkInput :=
  let request : NetworkInput := .leaf 0 (.caller (.transport (.request q (.ok ()) false)))
  [request, request, request, .hub (recv 0 (nextCall q).frame), .hub (go 0), .hub (go 0), .hub (go 0),
    .hub (go 0), .leaf 1 (.service { newMsgId := "r", next := ofBinary (nextCall q).frame }),
    .hub (recv 1 (countBytes q n)), .hub (go 1), .hub (go 1), .hub (go 1),
    .leaf 0 (.caller (.transport (.inbound (ofBinary (countBytes q n)) 0))),
    .leaf 0 (.caller (.transport (.inbound none 0)))]

/-- Two calls, one after the other: both are executed, and the worker has counted them. -/
theorem network_refines_two : ∃ s tr t,
    (network msgPackSerde Rust.registerSerde Rust.Service.msgPackCallSerde (fun _ => "") 1000
      callerAndCounter).Run (Fresh msgPackSerde (requestIds callerAndCounter)) s tr ∧
    ((tr.filterMap (observe msgPackSerde 1000 callerAndCounter)).filterMap
      RemoteObject.Event.executes) = ["qq", "q"] ∧
    (tr.filterMap (observe msgPackSerde 1000 callerAndCounter)).length = 6 ∧
    (workers msgPackSerde Rust.Service.msgPackCallSerde callerAndCounter).system.Reachable t
      (tr.filterMap (observe msgPackSerde 1000 callerAndCounter)) ∧ t.object 1 = some 2 := by
  obtain ⟨s, tr, hrun, hp⟩ := (network msgPackSerde Rust.registerSerde
    Rust.Service.msgPackCallSerde (fun _ => "") 1000 callerAndCounter).exists_run_of_exec
    (Fresh msgPackSerde (· ≠ "r"))
    (callerJoins ++ counterJoins ++ callsNext 2 0 ++ callsNext 1 1)
    (fun s tr => ((tr.filterMap (observe msgPackSerde 1000 callerAndCounter)).filterMap
        RemoteObject.Event.executes) == ["qq", "q"] &&
      (tr.filterMap (observe msgPackSerde 1000 callerAndCounter)).length == 6 &&
      workerOf (s.leaf 1) == some 2)
    (by decide +kernel)
  simp only [Bool.and_eq_true, beq_iff_eq] at hp
  obtain ⟨⟨hexecuted, hlength⟩, hworker⟩ := hp
  have hfresh := hrun.mono fun _ _ _ hi => fresh_withCounter msgId_nextCall hi
  obtain ⟨t, ht, hobjects⟩ := network_refines readsBack_msgPackSerde (by decide)
    (distinctIds_withCounter msgId_nextCall) hfresh
  exact ⟨s, tr, t, hfresh, hexecuted, hlength, ht, (hobjects 1).trans hworker⟩

end Sample

end Multifrost.Network
