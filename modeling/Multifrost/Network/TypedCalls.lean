import Multifrost.Network.RemoteCalls

/-!
# `call_to`, from end to end

What the user of a caller gets.  A `call_to` that returns a value was executed: by the worker of the
service that it names, once, in the state that the calls before it had left this worker in, with the
function and the arguments that were handed to `call_to`; and the value is what the worker has returned,
read at the type that was asked for (`call_returns_result`).

`rmp_serde` has to read back what it has written at the other end (`BodiesReadBack`), on top of what
`network_refines` asks of the ids and the lengths of frames.
-/

namespace Multifrost.Network

open MsgPack (Value)
open Router (ConnId FrameParts Message RmpSerde kindCall kindError)
open Rust (RegisterSerde)
open Rust.CallerTransport (Outgoing ReqId RequestSerde callRequest callReturn)
open Rust.Service (CallBody CallSerde)
open TransitionSystem

/-- The bodies of calls and responses are read as they were written. -/
structure BodiesReadBack {V : Type} (b : RequestSerde V) (c : CallSerde V) : Prop where
  call : ∀ body bytes, b.callBodyToVecNamed body = .ok bytes → c.callBodyFromSlice bytes = .ok body
  response : ∀ body bytes, c.responseBodyToVecNamed body = .ok bytes →
    b.responseBodyFromSlice bytes = .ok body

variable {m : RmpSerde} {r : RegisterSerde} {V ω R : Type} {c : CallSerde V}
  {debug : Message → String} {limit : Nat} {nodes : ConnId → Node m V ω}
  {s : NetworkState m ω} {tr : List (NetworkEvent m V)} {k : ConnId} {q : ReqId} {o : Outgoing m}

/-- The service `target` at this connection executes a call with this result, in the state that the
calls before have left its worker in. -/
def ExecutesAfter (c : CallSerde V) (limit : Nat) (nodes : ConnId → Node m V ω)
    (before : List (NetworkEvent m V)) (k : ConnId) (target function : String) (args : List V)
    (result : Except String V) : Prop :=
  ∃ handleCall worker w w', nodes k = .service target handleCall worker ∧
    (workers m c nodes).Goes k (some worker)
      (RemoteObject.executionsAt k (before.filterMap (observe m limit nodes))) (some w) ∧
    handleCall function args w = (result, w')

/-- What a worker makes of a call that it takes. -/
theorem handle_eq_some {call : FrameParts} {state state' : Option ω} {result : Except String V}
    (h : (workers m c nodes).handle k call state = some (result, state')) :
    ∃ handleCall worker w w' body, nodes k = .service call.envelope.toPeer handleCall worker ∧
      state = some w ∧ acceptedBody c call = some body ∧
      handleCall body.function body.args w = (result, w') := by
  simp only [workers] at h
  cases hnode : nodes k with
  | caller config request =>
    rw [hnode] at h
    cases h
  | service peerId handleCall worker =>
    rw [hnode] at h
    dsimp only at h
    split_ifs at h with hcall
    obtain ⟨w, hstate, htaken⟩ := Option.bind_eq_some_iff.mp h
    obtain ⟨body, hbody, hcalled⟩ := Option.bind_eq_some_iff.mp htaken
    obtain ⟨rfl, -⟩ := Prod.mk.inj (Option.some.inj hcalled)
    rw [hcall.1]
    exact ⟨handleCall, worker, w, _, body, rfl, hstate, hbody, rfl⟩

/-- The body of `call_to` names no namespace, so that a service takes it. -/
theorem acceptedBody_of_callRequest {b : RequestSerde V} (hbodies : BodiesReadBack b c)
    {function : String} {args : List V}
    (hbody : b.callBodyToVecNamed ⟨function, args, none⟩ = .ok o.body) :
    acceptedBody c ⟨o.envelope, o.body⟩ = some ⟨function, args, none⟩ := by
  have hread : Rust.Service.decodeCallBody c o.body = .ok ⟨function, args, none⟩ := by
    rw [Rust.Service.decodeCallBody, hbodies.call _ _ hbody]
    rfl
  rw [acceptedBody, hread]
  rfl

/-- The only call under the id of a request is the request. -/
theorem eq_of_observed_call (hm : ReadsBack m) (hlimit : limit < 2 ^ 32) (hids : DistinctIds nodes)
    (h : (network m r c debug limit nodes).Run (Fresh m (requestIds nodes)) s tr)
    (ho : (nodes k).outgoing q = some o) {call : FrameParts}
    (hcall : .call o.envelope.msgId call ∈ tr.filterMap (observe m limit nodes)) :
    call = ⟨o.envelope, o.body⟩ := by
  obtain ⟨k₀, raw, hsent, hlength, hdecoded, hkind, hid⟩ := mem_observe_call.mp hcall
  obtain ⟨q₀, o₀, ho₀, -, rfl⟩ := call_of_sent hm h hsent (hlength.trans_lt hlimit) hdecoded hkind
  obtain ⟨rfl, rfl⟩ := hids k₀ q₀ o₀ k q o ho₀ ho hid
  rw [Option.some.inj (ho₀.symm.trans ho)]

/-- The reply of a worker is the body of a response. -/
theorem reply_eq_some {result : Except String V} {bytes : Bytes}
    (h : (workers m c nodes).reply result = some bytes) :
    ∃ v, result = .ok v ∧ c.responseBodyToVecNamed ⟨v⟩ = .ok bytes := by
  cases result with
  | error text => cases h
  | ok v => exact ⟨v, rfl, Bindings.toOption_eq_some.mp h⟩

/-- A call that is answered, and not by an error, was executed with the result that comes back. -/
theorem executed_of_returned (hm : ReadsBack m) (hlimit : limit < 2 ^ 32) (hids : DistinctIds nodes)
    (h : (network m r c debug limit nodes).Run (Fresh m (requestIds nodes)) s tr)
    (ho : (nodes k).outgoing q = some o) (hcall : o.envelope.kind = kindCall) {frame : FrameParts}
    (hreturned : requestsOf (s.leaf k) q = .returned (.ok frame))
    (hkind : frame.envelope.kind ≠ kindError) :
    ∃ k' v, .leaf k' (.executed ⟨o.envelope, o.body⟩ (.ok v)) ∈ tr ∧
      c.responseBodyToVecNamed ⟨v⟩ = .ok frame.bodyBytes := by
  -- the answer has come back, under the id of the request
  obtain ⟨config, request, hnode, rfl⟩ := outgoing_eq_some ho
  have hrun := run_of_node h k
  rw [hnode] at hrun
  have hcompleted := completed_of_returned hrun hreturned
  have hid := msgId_of_completed hrun hcompleted
  have hreturns : returnsCall nodes k q frame = true :=
    returnsCall_iff.mpr ⟨_, ho, hcall, hkind⟩
  have hret : .ret frame.envelope.msgId frame.bodyBytes ∈ tr.filterMap (observe m limit nodes) :=
    List.mem_filterMap.mpr ⟨_, mem_leafTrace.mp hcompleted, observe_completed.mpr
      ⟨frame, rfl, hreturns, rfl⟩⟩
  -- so the objects have executed the call that was made under this id
  obtain ⟨t, ht, -⟩ := exists_refinement hm hlimit hids h
  obtain ⟨done, rest, hsplit⟩ := List.append_of_mem hret
  obtain ⟨k', call, result, hmade, hexec, hreply⟩ :=
    RemoteObject.returns ht done _ rest hsplit _ _ rfl
  have hpast : ∀ e ∈ done, e ∈ tr.filterMap (observe m limit nodes) := by
    intro e he
    rw [hsplit]
    exact List.mem_append_left _ he
  rw [hid] at hmade
  obtain rfl := eq_of_observed_call hm hlimit hids h ho (hpast _ hmade)
  obtain ⟨v, rfl, hwritten⟩ := reply_eq_some hreply
  exact ⟨k', v, (mem_observe_exec.mp (hpast _ hexec)).1, hwritten⟩

/-- An execution is the only one of its call, and takes place in the state that those before it have
left. -/
theorem executesAfter_of_executed {before after : List (NetworkEvent m V)} {call : FrameParts}
    {body : CallBody V} {result : Except String V} (hm : ReadsBack m) (hlimit : limit < 2 ^ 32)
    (hids : DistinctIds nodes)
    (h : (network m r c debug limit nodes).Run (Fresh m (requestIds nodes)) s
      (before ++ .leaf k (.executed call result) :: after))
    (hbody : acceptedBody c call = some body) :
    ExecutesAfter c limit nodes before k call.envelope.toPeer body.function body.args result ∧
      ∀ k' call' result', .leaf k' (.executed call' result') ∈ before ++ after →
        call'.envelope.msgId ≠ call.envelope.msgId := by
  obtain ⟨t, ht, -⟩ := exists_refinement hm hlimit hids h
  have hobserved : (before ++ .leaf k (.executed call result) :: after).filterMap
      (observe m limit nodes) = before.filterMap (observe m limit nodes) ++
        .exec call.envelope.msgId k call result :: after.filterMap (observe m limit nodes) := by
    rw [List.filterMap_append, List.filterMap_cons]
    rfl
  rw [hobserved] at ht
  constructor
  · obtain ⟨state, state', hgoes, hhandle⟩ :=
      RemoteObject.executes_in_state ht _ _ _ rfl _ k _ _ rfl
    obtain ⟨handleCall, worker, w, w', body', hservice, rfl, hbody', hcalled⟩ :=
      handle_eq_some hhandle
    obtain rfl := Option.some.inj (hbody.symm.trans hbody')
    have hstart : (workers m c nodes).start k = some worker := by
      simp only [workers, hservice]
    rw [hstart] at hgoes
    exact ⟨handleCall, worker, w, w', hservice, hgoes, hcalled⟩
  · intro k' call' result' hmem hid
    have hagain : .exec call.envelope.msgId k' call' result' ∈
        (before ++ after).filterMap (observe m limit nodes) := mem_observe_exec.mpr ⟨hmem, hid⟩
    rw [List.filterMap_append] at hagain
    exact RemoteObject.executed_once ht hagain

/-- **A call returns the result of its one execution.** -/
theorem call_returns_result (hm : ReadsBack m) (hlimit : limit < 2 ^ 32) (hids : DistinctIds nodes)
    {b : RequestSerde V} (hbodies : BodiesReadBack b c)
    (h : (network m r c debug limit nodes).Run (Fresh m (requestIds nodes)) s tr)
    {peerId target function msgId : String} {args : List V} {ts : Float64}
    (ho : (nodes k).outgoing q = some o)
    (hrequest : callRequest m b peerId target function args msgId ts = .ok o) {frame : FrameParts}
    (hreturned : requestsOf (s.leaf k) q = .returned (.ok frame))
    {read : Bytes → Except String Value} {fromValue : V → Except String R} {a : R}
    (hvalue : callReturn b read fromValue frame = .ok a) :
    ∃ before k' v after, tr = before ++ .leaf k' (.executed ⟨o.envelope, o.body⟩ (.ok v)) :: after ∧
      ExecutesAfter c limit nodes before k' target function args (.ok v) ∧
      (∀ k'' call result, .leaf k'' (.executed call result) ∈ before ++ after →
        call.envelope.msgId ≠ msgId) ∧
      fromValue v = .ok a := by
  obtain ⟨henvelope, hbody⟩ := Rust.CallerTransport.callRequest_eq_ok hrequest
  obtain ⟨hkind, v, hresponse, hfrom⟩ := Rust.CallerTransport.callReturn_eq_ok hvalue
  have hcall : o.envelope.kind = kindCall := by
    rw [henvelope]
    rfl
  obtain ⟨k', v', hexecuted, hwritten⟩ :=
    executed_of_returned hm hlimit hids h ho hcall hreturned hkind
  have hsame := (hbodies.response _ _ hwritten).symm.trans hresponse
  obtain rfl : v' = v := Rust.Service.ResponseBody.mk.inj (Except.ok.inj hsame)
  obtain ⟨before, after, rfl⟩ := List.append_of_mem hexecuted
  obtain ⟨hexecutes, honce⟩ := executesAfter_of_executed hm hlimit hids h
    (acceptedBody_of_callRequest hbodies hbody)
  dsimp only at hexecutes honce
  rw [henvelope] at hexecutes honce
  exact ⟨before, k', v', after, rfl, hexecutes, honce, hfrom⟩

section Sample

open Router (msgPackSerde)

def CallBody.toValue (body : CallBody Value) : Value :=
  .map ([(.str "function", .str body.function), (.str "args", .array body.args)] ++
    body.callNamespace.toList.map fun name => (.str "namespace", .str name))

/-- A writer that refuses what msgpack cannot hold. -/
def toVec (v : Value) : Except String Bytes :=
  if v.encodable then .ok (MsgPack.encode v) else .error "out of range"

def strictCallSerde : CallSerde Value where
  callBodyFromSlice := Rust.Service.msgPackCallSerde.callBodyFromSlice
  responseBodyToVecNamed body := toVec (.map [(.str "result", body.result)])
  errorBodyToVecNamed body := toVec (Rust.serializeErrorBody body)

def strictRequestSerde : RequestSerde Value where
  callBodyToVecNamed body := toVec (CallBody.toValue body)
  responseBodyFromSlice := Router.fromSliceWith fun v => (v.field "result").map .mk
  queryBodyToVecNamed _ := .error "no query"
  queryExistsFromSlice _ := .error "no query"
  queryGetFromSlice _ := .error "no query"

theorem fromSlice_of_toVec {v : Value} {bytes : Bytes} (h : toVec v = .ok bytes) :
    MsgPack.fromSlice bytes = some v := by
  unfold toVec at h
  split_ifs at h with hencodable
  obtain rfl := Except.ok.inj h
  exact MsgPack.fromSlice_encode hencodable

theorem bodiesReadBack_strict : BodiesReadBack strictRequestSerde strictCallSerde := by
  constructor
  · intro body bytes h
    change Router.fromSliceWith Rust.Service.CallBody.ofValue bytes = _
    rw [Router.fromSliceWith, fromSlice_of_toVec h]
    obtain ⟨function, args, callNamespace⟩ := body
    cases callNamespace <;> rfl
  · intro body bytes h
    change Router.fromSliceWith
      (fun v => (v.field "result").map Rust.Service.ResponseBody.mk) bytes = _
    rw [Router.fromSliceWith, fromSlice_of_toVec h]
    rfl

/-- `R` is `i64`. -/
def intOf : Value → Except String Int
  | .int i => .ok i
  | _ => .error "invalid type, expected i64"

def returnedFrame : Rust.CallerTransport.RequestPc → Option FrameParts
  | .returned (.ok frame) => some frame
  | _ => none

theorem returned_of_returnedFrame {pc : Rust.CallerTransport.RequestPc} {frame : FrameParts}
    (h : returnedFrame pc = some frame) : pc = .returned (.ok frame) := by
  unfold returnedFrame at h
  split at h
  · rw [Option.some.inj h]
  · cases h

theorem callRequest_next (q : ReqId) :
    callRequest msgPackSerde strictRequestSerde "a" "b" "next" [] (nextId q) .one =
      .ok (nextCall q) := rfl

/-- The second call to the counter returns `1`: it was executed after the first one. -/
theorem call_returns_result_second : ∃ s tr frame,
    (network msgPackSerde Rust.registerSerde strictCallSerde (fun _ => "") 1000
      callerAndCounter).Run (Fresh msgPackSerde (requestIds callerAndCounter)) s tr ∧
    requestsOf (s.leaf 0) 1 = .returned (.ok frame) ∧
    callReturn strictRequestSerde (fun _ => .ok .nil) intOf frame = .ok 1 ∧
    ∃ before k' v after, tr = before ++ .leaf k' (.executed ⟨(nextCall 1).envelope, nextBody⟩
        (.ok v)) :: after ∧
      ExecutesAfter strictCallSerde 1000 callerAndCounter before k' "b" "next" [] (.ok v) ∧
      (∀ k'' call result, .leaf k'' (.executed call result) ∈ before ++ after →
        call.envelope.msgId ≠ "q") ∧
      intOf v = .ok 1 := by
  obtain ⟨s, tr, hrun, hp⟩ := (network msgPackSerde Rust.registerSerde strictCallSerde
    (fun _ => "") 1000 callerAndCounter).exists_run_of_exec (Fresh msgPackSerde (· ≠ "r"))
    (callerJoins ++ counterJoins ++ callsNext 2 0 ++ callsNext 1 1 ++
      [.leaf 0 (.caller (.transport (.request 1 (.ok ()) false)))])
    (fun s _ => (returnedFrame (requestsOf (s.leaf 0) 1)).any fun frame =>
      (callReturn strictRequestSerde (fun _ => .ok .nil) intOf frame).toOption == some 1)
    (by decide +kernel)
  obtain ⟨frame, hframe, hvalue⟩ := (Option.any_eq_true _ _).mp hp
  have hreturned := returned_of_returnedFrame hframe
  have hreturn : callReturn strictRequestSerde (fun _ => .ok .nil) intOf frame = .ok 1 :=
    Bindings.toOption_eq_some.mp (beq_iff_eq.mp hvalue)
  have hfresh := hrun.mono fun _ _ _ hi => fresh_withCounter msgId_nextCall hi
  exact ⟨s, tr, frame, hfresh, hreturned, hreturn, call_returns_result readsBack_msgPackSerde
    (by decide) (distinctIds_withCounter msgId_nextCall) bodiesReadBack_strict hfresh rfl (callRequest_next 1)
    hreturned hreturn⟩

end Sample

end Multifrost.Network
