import Multifrost.Network.TypedCalls

/-!
# Queries, from end to end

`query_peer_exists` and `query_peer_get` ask the router about an id.  Registrations, removals and other
queries go on while a query is on its way, so that an answer can be out of date when it arrives.  But it
was right at some moment between the sending of the query and its return: what it says is what the
registry held at that moment, by the registrations and the removals up to then (`query_answers`).
-/

namespace Multifrost.Network

open MsgPack (Value)
open Router (ConnId Envelope FrameParts Message PeerClass QueryBody QueryExistsResponseBody
  QueryGetResponseBody RmpSerde classAfter kindError kindQuery)
open Rust (RegisterSerde)
open Rust.CallerTransport (Outgoing ReqId RequestSerde queryExistsReturn queryGetReturn queryRequest)
open Rust.Service (CallSerde)
open TransitionSystem

/-- Queries and their answers are read as they were written. -/
structure QueriesReadBack {V : Type} (b : RequestSerde V) (m : RmpSerde) : Prop where
  query : ∀ body bytes, b.queryBodyToVecNamed body = .ok bytes → bytes.length < 2 ^ 32 →
    m.queryBodyFromSlice bytes = .ok body
  exist : ∀ body bytes, m.queryExistsToVecNamed body = .ok bytes → bytes.length < 2 ^ 32 →
    b.queryExistsFromSlice bytes = .ok body
  get : ∀ body bytes, m.queryGetToVecNamed body = .ok bytes → bytes.length < 2 ^ 32 →
    b.queryGetFromSlice bytes = .ok body

variable {m : RmpSerde} {r : RegisterSerde} {V ω : Type} {c : CallSerde V}
  {debug : Message → String} {limit : Nat} {nodes : ConnId → Node m V ω} {ids : String → Prop}
  {s : NetworkState m ω} {tr : List (NetworkEvent m V)} {k : ConnId} {q : ReqId} {o : Outgoing m}

/-! ### The moment of a query -/

theorem leaf_notMem_hubEvents {p : Option (ConnId × Bytes)} {evs : List (Router.Event m)}
    {e : NodeEvent V} : .leaf k e ∉ (hubEvents p evs : List (NetworkEvent m V)) := by
  simp [hubEvents]

theorem hub_notMem_leafEvents {x : Option Bytes} {evs : List (NodeEvent V)} {e : Router.Event m} :
    .hub e ∉ (leafEvents k x evs : List (NetworkEvent m V)) := by
  simp [leafEvents]

/-- What the router receives was sent before. -/
theorem sent_before_received (h : (network m r c debug limit nodes).Run (Fresh m ids) s tr) :
    Historic (fun before e => ∀ k raw, e = .hub (.received k raw) → .leaf k (.sent raw) ∈ before)
      tr := by
  refine h.invariant (P := fun _ tr => Historic _ tr) historic_nil ?_
  intro s s' tr evs i hrun hfresh hs ih
  refine historic_append ih ?_
  rintro before e after hevs k raw rfl
  have hmem : .hub (.received k raw) ∈ evs := by
    rw [hevs]
    exact List.mem_append_right _ List.mem_cons_self
  have hreceived : .received k raw ∈ hubTrace (tr ++ evs) :=
    List.mem_filterMap.mpr ⟨_, List.mem_append_right _ hmem, rfl⟩
  obtain ⟨hsent, -⟩ := sent_of_received (Run.step hrun hfresh hs) hreceived
  refine List.mem_append_left _ ?_
  rcases List.mem_append.mp hsent with hold | hnew
  · exact hold
  · cases step_of_star hs with
    | hub hs' hup => exact absurd hnew leaf_notMem_hubEvents
    | leaf hs' hdown => exact absurd hmem hub_notMem_leafEvents

/-- The part of a run up to an event of the router comes after what the router has received by then. -/
theorem exists_past (h : (network m r c debug limit nodes).Run (Fresh m ids) s tr)
    {before : List (Router.Event m)} (hbefore : before <+: hubTrace tr) :
    ∃ past, past <+: tr ∧ hubTrace past = before ∧
      ∀ k raw, .received k raw ∈ before → .leaf k (.sent raw) ∈ past := by
  obtain ⟨past, hpast, rfl⟩ := List.prefix_filterMap_iff.mp hbefore
  refine ⟨past, hpast, rfl, ?_⟩
  intro k raw hmem
  obtain ⟨e, he, hhub⟩ := List.mem_filterMap.mp hmem
  obtain rfl : e = .hub (.received k raw) := by
    cases e with
    | hub e => rw [Option.some.inj hhub]
    | leaf | taken | given => cases hhub
  obtain ⟨earlier, later, rfl⟩ := List.append_of_mem he
  obtain ⟨rest, rfl⟩ := hpast
  rw [List.append_assoc, List.cons_append] at h
  exact List.mem_append_left _ (sent_before_received h earlier _ _ rfl k raw rfl)

/-- A query that is answered, and not by an error, was looked up between its sending and its return. -/
theorem looked_up (hm : ReadsBack m) (hlimit : limit < 2 ^ 32) (hids : DistinctIds nodes)
    {b : RequestSerde V} (hqueries : QueriesReadBack b m)
    (h : (network m r c debug limit nodes).Run (Fresh m (requestIds nodes)) s tr)
    {peerId msgId : String} {body : QueryBody} {ts : Float64} (ho : (nodes k).outgoing q = some o)
    (hrequest : queryRequest m b peerId body msgId ts = .ok o) {frame : FrameParts}
    (hreturned : requestsOf (s.leaf k) q = .returned (.ok frame))
    (hkind : frame.envelope.kind ≠ kindError) :
    ∃ past, past <+: tr ∧ .leaf k (.sent o.frame) ∈ past ∧
      (Router.statusAnswer (classAfter body.peerId (hubTrace past))).encode m body =
        .ok frame.bodyBytes := by
  obtain ⟨henvelope, hbody⟩ := Rust.CallerTransport.queryRequest_eq_ok hrequest
  have hquery : o.envelope.kind = kindQuery := by
    rw [henvelope]
    rfl
  obtain ⟨hanswer, -⟩ := answer_of_returned hm hlimit hids h ho hreturned hkind
  cases hanswer with
  | executed hcall hexecuted hresponse =>
    rw [hquery] at hcall
    exact absurd hcall (by decide)
  | @looked body' before hquery' hbefore hgot hdecoded hencoded =>
    obtain ⟨past, hpast, rfl, hsent⟩ := exists_past h hbefore
    obtain ⟨raw, hreceived, hparts⟩ := hgot
    obtain ⟨-, hshort⟩ := sent_of_received h (hbefore.subset hreceived)
    have hdecode := router_decodeFrame_iff.mp hparts
    have hraw : raw = o.frame := by
      refine (request_of_sent hm hids h ho (hpast.subset (hsent k raw hreceived))
        (hshort.trans_lt hlimit) hdecode rfl ?_).1
      rw [hquery]
      decide
    have hread := hqueries.query body o.body hbody
      ((length_bodyBytes_le hdecode).trans_lt (hshort.trans_lt hlimit))
    have hsame : body' = body := by
      rw [Router.decodeQueryBody, hread] at hdecoded
      exact (Except.ok.inj hdecoded).symm
    subst hsame
    refine ⟨past, hpast, ?_, hencoded⟩
    rw [← hraw]
    exact hsent k raw hreceived

/-! ### What a query returns -/

theorem eq_ok_of_mapError {ε ε' α : Type} {x : Except ε α} {f : ε → ε'} {a : α}
    (h : x.mapError f = .ok a) : x = .ok a := by
  cases x with
  | error e => cases h
  | ok b => rw [Except.ok.inj h]

/-- What the binding makes of an answer to `query_peer_exists`. -/
theorem exists_of_encoded {b : RequestSerde V} (hqueries : QueriesReadBack b m) {x : String}
    {live : Option PeerClass} {frame : FrameParts} {read : Bytes → Except String Value}
    {answer : QueryExistsResponseBody}
    (hencoded : (Router.statusAnswer live).encode m (.peerExists x) = .ok frame.bodyBytes)
    (hlength : frame.bodyBytes.length < 2 ^ 32)
    (hvalue : queryExistsReturn b read frame = .ok answer) :
    answer = ⟨x, live.isSome, live, live.isSome⟩ := by
  have hbytes : m.queryExistsToVecNamed ⟨x, live.isSome, live, live.isSome⟩ = .ok frame.bodyBytes := by
    exact eq_ok_of_mapError hencoded
  unfold queryExistsReturn at hvalue
  split_ifs at hvalue
  · exact absurd hvalue Rust.CallerTransport.remoteError_ne_ok
  · rw [hqueries.exist _ _ hbytes hlength] at hvalue
    exact (Except.ok.inj hvalue).symm

/-- What the binding makes of an answer to `query_peer_get`. -/
theorem get_of_encoded {b : RequestSerde V} (hqueries : QueriesReadBack b m) {x : String}
    {live : Option PeerClass} {frame : FrameParts} {read : Bytes → Except String Value}
    {answer : QueryGetResponseBody}
    (hencoded : (Router.statusAnswer live).encode m (.peerGet x) = .ok frame.bodyBytes)
    (hlength : frame.bodyBytes.length < 2 ^ 32)
    (hvalue : queryGetReturn b read frame = .ok answer) :
    answer = ⟨x, live.isSome, live, live.isSome⟩ := by
  have hbytes : m.queryGetToVecNamed ⟨x, live.isSome, live, live.isSome⟩ = .ok frame.bodyBytes := by
    exact eq_ok_of_mapError hencoded
  unfold queryGetReturn at hvalue
  split_ifs at hvalue
  · exact absurd hvalue Rust.CallerTransport.remoteError_ne_ok
  · rw [hqueries.get _ _ hbytes hlength] at hvalue
    exact (Except.ok.inj hvalue).symm

/-- **A query is answered as of a moment between its sending and its return.**  The moment is the end
of `past`; what was registered for the id then is told by the registrations and the removals in it. -/
theorem query_answers (hm : ReadsBack m) (hlimit : limit < 2 ^ 32) (hids : DistinctIds nodes)
    {b : RequestSerde V} (hqueries : QueriesReadBack b m)
    (h : (network m r c debug limit nodes).Run (Fresh m (requestIds nodes)) s tr)
    {peerId msgId : String} {body : QueryBody} {ts : Float64} (ho : (nodes k).outgoing q = some o)
    (hrequest : queryRequest m b peerId body msgId ts = .ok o) {frame : FrameParts}
    (hreturned : requestsOf (s.leaf k) q = .returned (.ok frame))
    (hkind : frame.envelope.kind ≠ kindError) (read : Bytes → Except String Value) :
    ∃ past, past <+: tr ∧ .leaf k (.sent o.frame) ∈ past ∧
      (∀ x answer, body = .peerExists x → queryExistsReturn b read frame = .ok answer →
        answer = ⟨x, (classAfter x (hubTrace past)).isSome, classAfter x (hubTrace past),
          (classAfter x (hubTrace past)).isSome⟩) ∧
      (∀ x answer, body = .peerGet x → queryGetReturn b read frame = .ok answer →
        answer = ⟨x, (classAfter x (hubTrace past)).isSome, classAfter x (hubTrace past),
          (classAfter x (hubTrace past)).isSome⟩) := by
  obtain ⟨past, hpast, hsent, hencoded⟩ :=
    looked_up hm hlimit hids hqueries h ho hrequest hreturned hkind
  obtain ⟨-, hlength⟩ := answer_of_returned hm hlimit hids h ho hreturned hkind
  refine ⟨past, hpast, hsent, ?_, ?_⟩
  · rintro x answer rfl hvalue
    exact exists_of_encoded hqueries hencoded hlength hvalue
  · rintro x answer rfl hvalue
    exact get_of_encoded hqueries hencoded hlength hvalue

section Sample

open Router (msgPackSerde frameBytes go recv queryResponseValue buildEnvelope kindResponse routerPeerId)

def queryValue : QueryBody → Value
  | .peerExists x => .map [(.str "query", .str "peer.exists"), (.str "peer_id", .str x)]
  | .peerGet x => .map [(.str "query", .str "peer.get"), (.str "peer_id", .str x)]

def responseOfValue {α : Type} (mk : String → Bool → Option PeerClass → Bool → α) (v : Value) :
    Option α := do
  let peerId ← (v.field "peer_id").bind Router.strValue
  let exist ← (v.field "exists").bind boolValue
  let peerClass ← (v.field "class").bind classValue
  let connected ← (v.field "connected").bind boolValue
  pure (mk peerId exist peerClass connected)
where
  boolValue : Value → Option Bool
    | .bool b => some b
    | _ => none
  classValue : Value → Option (Option PeerClass)
    | .nil => some none
    | .str s => (Router.PeerClass.ofStr s).map some
    | _ => none

def querySerde : RequestSerde Value where
  callBodyToVecNamed _ := .error "no call"
  responseBodyFromSlice _ := .error "no call"
  queryBodyToVecNamed body := toVec (queryValue body)
  queryExistsFromSlice := Router.fromSliceWith (responseOfValue .mk)
  queryGetFromSlice := Router.fromSliceWith (responseOfValue .mk)

/-- An answer that is short enough can be read. -/
theorem fromSlice_queryResponse {x : String} {exist connected : Bool} {live : Option PeerClass}
    (hlength : (MsgPack.encode (queryResponseValue x exist live connected)).length < 2 ^ 32) :
    MsgPack.fromSlice (MsgPack.encode (queryResponseValue x exist live connected)) =
      some (queryResponseValue x exist live connected) := by
  refine MsgPack.fromSlice_encode ?_
  have hx : x.utf8ByteSize ≤ (MsgPack.encodeStr x).length := by
    rw [MsgPack.encodeStr, List.length_append, MsgPack.length_toUTF8]
    exact Nat.le_add_left ..
  simp only [queryResponseValue, MsgPack.encode, MsgPack.encodeMap, List.length_append] at hlength
  have hstr : (Value.str x).everywhere MsgPack.encodableNode = true := by
    have hshort : x.utf8ByteSize < 2 ^ 32 := by omega
    exact decide_eq_true hshort
  refine MsgPack.everywhere_map.mpr ⟨rfl, ?_⟩
  simp only [List.forall_mem_cons, List.not_mem_nil, false_implies, implies_true, and_true]
  refine ⟨⟨rfl, hstr⟩, ⟨rfl, rfl⟩, ⟨rfl, ?_⟩, ⟨rfl, rfl⟩⟩
  rcases live with _ | _ | _ <;> rfl

theorem queriesReadBack_sample : QueriesReadBack querySerde msgPackSerde := by
  constructor
  · intro body bytes h _
    change Router.fromSliceWith QueryBody.ofValue bytes = _
    rw [Router.fromSliceWith, fromSlice_of_toVec h]
    cases body <;> rfl
  · rintro ⟨x, exist, live, connected⟩ bytes h hlength
    have hbytes : MsgPack.encode (queryResponseValue x exist live connected) = bytes :=
      Except.ok.inj h
    subst hbytes
    have hread : querySerde.queryExistsFromSlice =
        Router.fromSliceWith (responseOfValue QueryExistsResponseBody.mk) := rfl
    rw [hread, Router.fromSliceWith, fromSlice_queryResponse hlength]
    rcases live with _ | _ | _ <;> rfl
  · rintro ⟨x, exist, live, connected⟩ bytes h hlength
    have hbytes : MsgPack.encode (queryResponseValue x exist live connected) = bytes :=
      Except.ok.inj h
    subst hbytes
    have hread : querySerde.queryGetFromSlice =
        Router.fromSliceWith (responseOfValue QueryGetResponseBody.mk) := rfl
    rw [hread, Router.fromSliceWith, fromSlice_queryResponse hlength]
    rcases live with _ | _ | _ <;> rfl

def askValue : Bytes := MsgPack.encode (queryValue (.peerExists "b"))

/-- A query for the service `"b"`. -/
def ask (q : ReqId) : Outgoing msgPackSerde where
  envelope := Rust.CallerTransport.buildQueryEnvelope "a" routerPeerId (nextId q) .one
  body := askValue
  frame := frameBytes (Rust.CallerTransport.buildQueryEnvelope "a" routerPeerId (nextId q) .one)
    askValue
  encoded := rfl
  request := .inr rfl

theorem msgId_ask (q : ReqId) : (ask q).envelope.msgId = nextId q := rfl

theorem queryRequest_ask (q : ReqId) :
    queryRequest msgPackSerde querySerde "a" (.peerExists "b") (nextId q) .one = .ok (ask q) := rfl

/-- The query goes out and is looked up before or after the service has joined. -/
def asks (q : ReqId) (live : Option PeerClass) : List NetworkInput :=
  let request : NetworkInput := .leaf 0 (.caller (.transport (.request q (.ok ()) false)))
  let reply := frameBytes (buildEnvelope kindResponse (nextId q) routerPeerId "a" .one)
    (MsgPack.encode (queryResponseValue "b" live.isSome live live.isSome))
  [request, request, request, .hub (recv 0 (ask q).frame), .hub (go 0), .hub (go 0),
    .leaf 0 (.caller (.transport (.inbound (ofBinary reply) 0))),
    .leaf 0 (.caller (.transport (.inbound none 0))), request]

/-- The second query finds the service that has joined after the first one. -/
theorem query_answers_second : ∃ s tr frame,
    (network msgPackSerde Rust.registerSerde strictCallSerde (fun _ => "") 1000
      (withCounter ask)).Run (Fresh msgPackSerde (requestIds (withCounter ask))) s tr ∧
    requestsOf (s.leaf 0) 1 = .returned (.ok frame) ∧
    queryExistsReturn querySerde (fun _ => .ok .nil) frame = .ok ⟨"b", true, some .service, true⟩ ∧
    ∃ past, past <+: tr ∧ .leaf 0 (.sent (ask 1).frame) ∈ past ∧
      classAfter "b" (hubTrace past) = some .service := by
  obtain ⟨s, tr, hrun, hp⟩ := (network msgPackSerde Rust.registerSerde strictCallSerde
    (fun _ => "") 1000 (withCounter ask)).exists_run_of_exec (Fresh msgPackSerde (· ≠ "r"))
    (callerJoins ++ asks 2 none ++ counterJoins ++ asks 1 (some .service))
    (fun s _ => (returnedFrame (requestsOf (s.leaf 0) 1)).any fun frame =>
      frame.envelope.kind != kindError && (queryExistsReturn querySerde (fun _ => .ok .nil)
        frame).toOption == some ⟨"b", true, some .service, true⟩)
    (by decide +kernel)
  obtain ⟨frame, hframe, hvalue⟩ := (Option.any_eq_true _ _).mp hp
  rw [Bool.and_eq_true, bne_iff_ne] at hvalue
  have hreturned := returned_of_returnedFrame hframe
  have hreturn : queryExistsReturn querySerde (fun _ => .ok .nil) frame =
      .ok ⟨"b", true, some .service, true⟩ :=
    Bindings.toOption_eq_some.mp (beq_iff_eq.mp hvalue.2)
  have hfresh := hrun.mono fun _ _ _ hi => fresh_withCounter msgId_ask hi
  obtain ⟨past, hpast, hsent, hexists, -⟩ := query_answers readsBack_msgPackSerde (by decide)
    (distinctIds_withCounter msgId_ask) queriesReadBack_sample hfresh rfl (queryRequest_ask 1)
    hreturned hvalue.1 fun _ => .ok .nil
  have hanswer := hexists "b" _ rfl hreturn
  exact ⟨s, tr, frame, hfresh, hreturned, hreturn, past, hpast, hsent,
    (QueryExistsResponseBody.mk.inj hanswer).2.2.1.symm⟩

end Sample

end Multifrost.Network
