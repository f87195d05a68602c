import Multifrost.Lib.Star
import Multifrost.Router.Safety.Reply
import Multifrost.Rust.Requests
import Multifrost.Rust.Safety.CallerStep
import Multifrost.Rust.Safety.ServiceReplies

/-!
# The router with its peers

`network` is the router of `router/src/server.rs` with a process at the other end of every
connection: a caller or a service of the Rust binding, from its open websocket on.  A websocket is a
link each way.  Binary messages go over the links, and only those that are no longer than a websocket
message may be; the end of a stream, its errors and the messages of other kinds come when the
environment wants them to.

`CallerEffect` and `ServiceEffect` say what a process can do in a step, as far as the others see it:
which frames it sends, and which calls a service hands to its worker.
-/

namespace Multifrost.Network

open Router (ConnId Envelope FrameParts Message RmpSerde kindCall kindDisconnect kindError kindQuery
  kindRegister kindResponse protocolVersion)
open Rust (MultifrostError RegisterSerde)
open Rust.CallerTransport (Config Connection ConnectionInput Outgoing ReqId)
open Rust.Service (CallBody CallSerde callFrame)

variable (m : RmpSerde) (r : RegisterSerde) {V ω : Type} (c : CallSerde V)
  (debug : Message → String)

/-! ### Processes -/

/-- The process at the other end of a connection: a caller with all requests that it ever makes, or a
service with its worker. -/
inductive Node (V ω : Type)
  | caller (config : Config) (request : ReqId → Outgoing m)
  | service (peerId : String) (handleCall : String → List V → ω → Except String V × ω) (worker : ω)

inductive NodeState (ω : Type)
  | caller (s : Connection)
  | service (s : Rust.Service.State ω)

inductive NodeInput
  | caller (i : ConnectionInput)
  | service (i : Rust.Service.Input)

/-- What a process does to be seen: a frame that goes out, an answer that reaches a request, and a
call that the worker has executed. -/
inductive NodeEvent (V : Type)
  | sent (frame : Bytes)
  | completed (q : ReqId) (result : Except MultifrostError FrameParts)
  | executed (call : FrameParts) (result : Except String V)

def callerEvent : Rust.CallerTransport.Event → NodeEvent V
  | .sent frame => .sent frame
  | .completed q result => .completed q result

/-- The body of a call that reaches the worker: it can be read, and names no other namespace. -/
def acceptedBody (call : FrameParts) : Option (CallBody V) :=
  match Rust.Service.decodeCallBody c call.bodyBytes with
  | .ok body => if body.callNamespace.filter (· ≠ "default") = none then some body else none
  | .error _ => none

/-- The call that a service hands to its worker in a step. -/
def calledIn (peerId : String) (i : Rust.Service.Input) :
    Rust.Service.Pc → Option (FrameParts × CallBody V)
  | .loop => do
    let message ← i.next
    let call ← callFrame m peerId message
    let body ← acceptedBody c call
    some (call, body)
  | _ => none

/-- The events of a step of a service, from its world before and after. -/
def serviceEvents (peerId : String) (handleCall : String → List V → ω → Except String V × ω)
    (i : Rust.Service.Input) (s : Rust.Service.State ω) (sent : List Bytes) : List (NodeEvent V) :=
  (calledIn m c peerId i s.pc).toList.map (fun called =>
    .executed called.1 (handleCall called.2.function called.2.args s.world.worker).1) ++
    (sent.drop s.world.sent.length).map .sent

def Node.start : Node m V ω → NodeState ω
  | .caller config request =>
    .caller (Rust.CallerTransport.connection m r debug config fun q => (request q).toRequest).init
  | .service peerId handleCall worker =>
    .service (Rust.Service.service m r c debug handleCall peerId worker).init

def Node.step : Node m V ω → NodeInput → NodeState ω → Option (NodeState ω × List (NodeEvent V))
  | .caller config request, .caller i, .caller s =>
    ((Rust.CallerTransport.connection m r debug config fun q => (request q).toRequest).step i s).map
      fun o => (.caller o.1, o.2.map callerEvent)
  | .service peerId handleCall worker, .service i, .service s =>
    ((Rust.Service.service m r c debug handleCall peerId worker).step i s).map fun o =>
      (.service o.1, serviceEvents m c peerId handleCall i s o.1.world.sent)
  | _, _, _ => none

def Node.system (node : Node m V ω) : TransitionSystem (NodeState ω) NodeInput (NodeEvent V) where
  init := node.start m r c debug
  step i s := node.step m r c debug i s

/-! ### The links -/

/-- The binary message in what a stream yields. -/
def binaryOf {ε : Type} : Option (Except ε Message) → Option Bytes
  | some (.ok (.binary bytes)) => some bytes
  | _ => none

/-- The binary message that a process reads in a step. -/
def nodeTakes : NodeState ω → NodeInput → Option Bytes
  | .caller .reply, .caller (.connect _ _ _ next) => binaryOf next
  | .caller (.connected s), .caller (.transport (.inbound message _)) =>
    if s.inbound = .next then binaryOf message else none
  | .service s, .service i =>
    match s.pc with
    | .reply | .loop => binaryOf i.next
    | _ => none
  | _, _ => none

def nodePuts : NodeEvent V → Option Bytes
  | .sent frame => some frame
  | _ => none

/-- The binary message that the router reads in a step. -/
def routerTakes (s : Router.State m) (i : Router.Input) : Option (ConnId × Bytes) :=
  if (s.conns i.conn).reading then (binaryOf i.next).map fun bytes => (i.conn, bytes) else none

/-- The bytes of what is written to a sink. -/
def bytesOf : Router.Outbound m → Bytes
  | .generated f => f.raw
  | .forwarded raw => raw

def routerPuts : Router.Event m → Option (ConnId × Bytes)
  | .wrote _ sink out => some (sink, bytesOf m out)
  | _ => none

/-- A websocket message of more than `limit` bytes is refused where it is read. -/
def wiring (limit : Nat) : TransitionSystem.Wiring (Router.State m) Router.Input (Router.Event m)
    (NodeState ω) NodeInput (NodeEvent V) ConnId Bytes where
  hubTakes := routerTakes m
  hubPuts := routerPuts m
  leafTakes := nodeTakes
  leafPuts := nodePuts
  carries bytes := bytes.length ≤ limit

abbrev NetworkState (ω : Type) :=
  TransitionSystem.StarState (Router.State m) (NodeState ω) ConnId Bytes

abbrev NetworkInput := TransitionSystem.StarInput Router.Input NodeInput ConnId

abbrev NetworkEvent (V : Type) :=
  TransitionSystem.StarEvent (Router.Event m) (NodeEvent V) ConnId Bytes

/-- The router with a process at the other end of every connection. -/
def network (limit : Nat) (nodes : ConnId → Node m V ω) :
    TransitionSystem (NetworkState m ω) NetworkInput (NetworkEvent m V) :=
  TransitionSystem.star (wiring m limit) (Router.serve m) fun k => (nodes k).system m r c debug

/-! ### The steps of a caller -/

/-- The frame carries an envelope of this sort. -/
def Carries (m : RmpSerde) (P : Envelope → Prop) (frame : Bytes) : Prop :=
  ∃ envelope body, Rust.encodeFrame m envelope body = .ok frame ∧ P envelope

/-- The envelope of a register or disconnect frame, under none of the ids that are given away. -/
def IsControl (ids : String → Prop) (envelope : Envelope) : Prop :=
  (envelope.kind = kindRegister ∨ envelope.kind = kindDisconnect) ∧ ¬ ids envelope.msgId

/-- A control frame that is built in the step gets an id that has not been given away. -/
def NodeInput.Fresh (ids : String → Prop) : NodeInput → Prop
  | .caller (.connect msgId _ _ _) => ¬ ids msgId
  | .caller (.transport (.disconnect _ msgId _ _)) => ¬ ids msgId
  | .caller (.transport _) => True
  | .service i => ¬ ids i.newMsgId

instance (ids : String → Prop) [DecidablePred ids] : (i : NodeInput) → Decidable (i.Fresh ids)
  | .caller (.connect msgId _ _ _) => inferInstanceAs (Decidable (¬ ids msgId))
  | .caller (.transport (.disconnect _ msgId _ _)) => inferInstanceAs (Decidable (¬ ids msgId))
  | .caller (.transport (.request ..)) | .caller (.transport (.inbound ..))
  | .caller (.transport .abort) => inferInstanceAs (Decidable True)
  | .service i => inferInstanceAs (Decidable (¬ ids i.newMsgId))

theorem NodeInput.Fresh.mono {ids ids' : String → Prop} {i : NodeInput} (h : i.Fresh ids)
    (hids : ∀ id, ids' id → ids id) : i.Fresh ids' := by
  unfold NodeInput.Fresh at h ⊢
  split at h
  · exact fun hid => h (hids _ hid)
  · exact fun hid => h (hids _ hid)
  · trivial
  · exact fun hid => h (hids _ hid)

/-- The request has sent its frame, or will not send it any more. -/
def late : Rust.CallerTransport.RequestPc → Bool
  | .start | .insert | .send => false
  | _ => true

/-- Where the requests of a caller are. -/
def requestsOf : NodeState ω → ReqId → Rust.CallerTransport.RequestPc
  | .caller (.connected s), q => s.requests q
  | _, _ => .start

/-- The frame in the hands of `inbound_loop`. -/
def inHand : NodeState ω → Option FrameParts
  | .caller (.connected s) =>
    match s.inbound with
    | .deliver frame => some frame
    | _ => none
  | _ => none

/-- A step of the network gives away no id again. -/
def Fresh (ids : String → Prop) (_ : NetworkState m ω) (_ : List (NetworkEvent m V)) :
    NetworkInput → Prop
  | .hub _ => True
  | .leaf _ j => j.Fresh ids

instance (ids : String → Prop) [DecidablePred ids] (s : NetworkState m ω)
    (tr : List (NetworkEvent m V)) : (i : NetworkInput) → Decidable (Fresh m ids s tr i)
  | .hub _ => inferInstanceAs (Decidable True)
  | .leaf _ j => inferInstanceAs (Decidable (j.Fresh ids))

variable {m} in
/-- Where no id has been given away, every step is fresh. -/
theorem fresh_of_none (s : NetworkState m ω) (tr : List (NetworkEvent m V)) (i : NetworkInput) :
    Fresh m (fun _ => False) s tr i := by
  cases i with
  | hub i => trivial
  | leaf k j =>
    show j.Fresh fun _ => False
    unfold NodeInput.Fresh
    split
    · exact not_false
    · exact not_false
    · trivial
    · exact not_false

/-- What a step of a caller does: at most one event, with what it says about the state. -/
structure CallerEffect (ids : String → Prop) (request : ReqId → Outgoing m) (s s' : NodeState ω)
    (read : Option Bytes) (evs : List (NodeEvent V)) : Prop where
  length : evs.length ≤ 1
  keeps : ∀ q, late (requestsOf s q) = true → late (requestsOf s' q) = true
  sent : ∀ frame, .sent frame ∈ evs → Carries m (IsControl ids) frame ∨
    ∃ q, frame = (request q).frame ∧ late (requestsOf s q) = false ∧
      late (requestsOf s' q) = true
  completed : ∀ q frame, .completed q (.ok frame) ∈ evs → inHand s = some frame ∧ inHand s' = none
  executed : ∀ call result, .executed call result ∉ evs
  hand : ∀ frame, inHand s' = some frame → inHand s = some frame ∨
    ∃ bytes, read = some bytes ∧ Rust.decodeFrame m bytes = .ok frame

section Caller

variable {m r c debug} {ids : String → Prop} {config : Config} {request : ReqId → Outgoing m}

/-- A step without an event that leaves the requests and the frame in hand alone. -/
theorem CallerEffect.quiet {s s' : NodeState ω} {read : Option Bytes}
    (hlate : ∀ q, late (requestsOf s q) = true → late (requestsOf s' q) = true)
    (hhand : ∀ frame, inHand s' = some frame → inHand s = some frame ∨
      ∃ bytes, read = some bytes ∧ Rust.decodeFrame m bytes = .ok frame) :
    CallerEffect m ids request s s' read ([] : List (NodeEvent V)) :=
  ⟨Nat.zero_le 1, hlate, nofun, nofun, nofun, hhand⟩

theorem encodeFrame_of_registerFrame {peerId msgId : String} {peerClass : Router.PeerClass}
    {ts : Float64} {frame : Bytes}
    (h : Rust.registerFrame m r peerId peerClass msgId ts = .ok frame) :
    ∃ body, Rust.encodeFrame m (Rust.buildRegisterEnvelope peerId msgId ts) body = .ok frame := by
  unfold Rust.registerFrame at h
  cases hbody : Rust.encodeRegisterBody r ⟨peerId, peerClass⟩ with
  | error err =>
    rw [hbody] at h
    cases h
  | ok body =>
    rw [hbody] at h
    exact ⟨body, h⟩

theorem callerEffect_connect {msgId : String} {ts : Float64} {sent : Except String Unit}
    {next : Option (Except String Message)} {s s' : Connection}
    {evs : List Rust.CallerTransport.Event} (hfresh : ¬ ids msgId)
    (h : Rust.CallerTransport.connect m r debug config (fun q => (request q).toRequest) msgId ts sent
      next s = some (s', evs)) :
    CallerEffect (V := V) (ω := ω) m ids request (.caller s) (.caller s')
      (nodeTakes (.caller s : NodeState ω) (.caller (.connect msgId ts sent next)))
      (evs.map callerEvent) := by
  cases s with
  | register =>
    simp only [Rust.CallerTransport.connect] at h
    cases hframe : Rust.registerFrame m r config.peerId .caller msgId ts with
    | error err =>
      rw [hframe] at h
      cases h
      exact .quiet (fun _ hlate => by cases hlate) fun _ hhand => by cases hhand
    | ok frame =>
      rw [hframe] at h
      obtain ⟨body, hencoded⟩ := encodeFrame_of_registerFrame hframe
      cases sent with
      | error text =>
        cases h
        exact .quiet (fun _ hlate => by cases hlate) fun _ hhand => by cases hhand
      | ok u =>
        cases h
        refine ⟨Nat.le_refl 1, (fun _ hlate => by cases hlate), ?_, ?_, ?_, fun _ hhand => by cases hhand⟩
        · intro frame' hmem
          obtain rfl := NodeEvent.sent.inj (List.mem_singleton.mp hmem)
          exact .inl ⟨_, body, hencoded, .inl rfl, hfresh⟩
        · intro q frame' hmem
          cases List.mem_singleton.mp hmem
        · intro call result hmem
          cases List.mem_singleton.mp hmem
  | reply =>
    simp only [Rust.CallerTransport.connect] at h
    cases hreply : Rust.CallerTransport.connectReply m r debug next with
    | error err =>
      rw [hreply] at h
      cases h
      exact .quiet (fun _ hlate => by cases hlate) fun _ hhand => by cases hhand
    | ok u =>
      rw [hreply] at h
      cases h
      exact .quiet (fun _ hlate => by cases hlate) fun _ hhand => by cases hhand
  | failed err => cases h
  | connected s => cases h

theorem callerEffect_request {q : ReqId} {sent : Except String Unit}
    {s : Rust.CallerTransport.State} {pending : Rust.CallerTransport.Pending}
    {pc : Rust.CallerTransport.RequestPc} {evs : List Rust.CallerTransport.Event}
    {read : Option Bytes}
    (h : Rust.CallerTransport.RequestStep config (request q).toRequest q sent s.closed s.pending
      (s.requests q) pending pc evs) :
    CallerEffect (V := V) (ω := ω) m ids request (.caller (.connected s))
      (.caller (.connected { s with pending := pending, requests := Function.update s.requests q pc }))
      read (evs.map callerEvent) := by
  generalize hbefore : s.requests q = before at h
  have hkeeps : (late before = true → late pc = true) →
      ∀ q', late (s.requests q') = true →
        late (Function.update s.requests q pc q') = true := by
    intro hlate q' hq'
    by_cases hq : q' = q
    · subst hq
      rw [Function.update_self]
      rw [hbefore] at hq'
      exact hlate hq'
    · rwa [Function.update_of_ne hq]
  cases h with
  | sent hsent =>
    refine ⟨Nat.le_refl 1, hkeeps fun _ => rfl, ?_, ?_, ?_, fun frame hframe => .inl hframe⟩
    · intro frame hmem
      obtain rfl := NodeEvent.sent.inj (List.mem_singleton.mp hmem)
      refine .inr ⟨q, rfl, ?_, ?_⟩
      · show late (s.requests q) = false
        rw [hbefore]
        rfl
      · show late (Function.update s.requests q _ q) = true
        rw [Function.update_self]
        rfl
    · intro q' frame hmem
      cases List.mem_singleton.mp hmem
    · intro call result hmem
      cases List.mem_singleton.mp hmem
  | refused => exact .quiet (hkeeps fun hlate => by cases hlate) fun frame hframe => .inl hframe
  | passed => exact .quiet (hkeeps fun hlate => by cases hlate) fun frame hframe => .inl hframe
  | inserted => exact .quiet (hkeeps fun hlate => by cases hlate) fun frame hframe => .inl hframe
  | sendFailed => exact .quiet (hkeeps fun hlate => by cases hlate) fun frame hframe => .inl hframe
  | removed => exact .quiet (hkeeps fun _ => rfl) fun frame hframe => .inl hframe
  | answered => exact .quiet (hkeeps fun _ => rfl) fun frame hframe => .inl hframe
  | elapsed => exact .quiet (hkeeps fun _ => rfl) fun frame hframe => .inl hframe

/-- An answer that is sent to a request: the frame in hand, if it is a frame. -/
theorem CallerEffect.complete {s s' : NodeState ω} {read : Option Bytes}
    {pending : Rust.CallerTransport.Pending} {q : ReqId} {result : Except MultifrostError FrameParts}
    (hresult : ∀ frame, result = .ok frame → inHand s = some frame)
    (hrequests : requestsOf s' = requestsOf s) (hhand : inHand s' = none) :
    CallerEffect m ids request s s' read
      ((Rust.CallerTransport.complete pending q result).2.map (callerEvent (V := V))) := by
  have hevents : ∀ e ∈ (Rust.CallerTransport.complete pending q result).2.map
      (callerEvent (V := V)), e = .completed q result := by
    unfold Rust.CallerTransport.complete
    dsimp only
    split_ifs
    · exact fun e he => List.mem_singleton.mp he
    · exact fun e he => by cases he
  refine ⟨?_, ?_, ?_, ?_, ?_, ?_⟩
  · rw [List.length_map]
    unfold Rust.CallerTransport.complete
    dsimp only
    split_ifs
    · exact Nat.le_refl 1
    · exact Nat.zero_le 1
  · intro q' hlate
    rwa [hrequests]
  · intro frame hmem
    cases hevents _ hmem
  · intro q' frame hmem
    obtain ⟨-, hframe⟩ := NodeEvent.completed.inj (hevents _ hmem)
    exact ⟨hresult frame hframe.symm, hhand⟩
  · intro call value hmem
    cases hevents _ hmem
  · intro frame hframe
    rw [hhand] at hframe
    cases hframe

theorem callerEffect_inbound {message : Option (Except String Message)} {pick : Nat}
    {s : Rust.CallerTransport.State} {closed : Bool} {pending : Rust.CallerTransport.Pending}
    {pc : Rust.CallerTransport.InboundPc} {evs : List Rust.CallerTransport.Event}
    (h : Rust.CallerTransport.InboundStep m config message s.closed s.pending s.inbound closed pending
      pc evs) :
    CallerEffect (V := V) (ω := ω) m ids request (.caller (.connected s))
      (.caller (.connected { s with closed := closed, pending := pending, inbound := pc }))
      (nodeTakes (.caller (.connected s) : NodeState ω)
        (.caller (.transport (.inbound message pick)))) (evs.map callerEvent) := by
  generalize hbefore : s.inbound = before at h
  cases h with
  | decoded hmessage hdecoded =>
    refine .quiet (fun _ hlate => hlate) fun frame hframe => .inr ?_
    obtain rfl := Option.some.inj hframe
    refine ⟨_, ?_, hdecoded⟩
    rw [nodeTakes, if_pos hbefore, hmessage]
    rfl
  | @delivered frame q pending' htake =>
    refine .complete ?_ rfl rfl
    rintro frame' heq
    obtain rfl := Except.ok.inj heq
    rw [inHand, hbefore]
  -- the answers of a drain are errors
  | fails hq => exact .complete nofun rfl rfl
  | skipped => exact .quiet (fun _ hlate => hlate) fun _ hframe => by cases hframe
  | ended => exact .quiet (fun _ hlate => hlate) fun _ hframe => by cases hframe
  | unmatched => exact .quiet (fun _ hlate => hlate) fun _ hframe => by cases hframe
  | closes => exact .quiet (fun _ hlate => hlate) fun _ hframe => by cases hframe
  | drains => exact .quiet (fun _ hlate => hlate) fun _ hframe => by cases hframe
  | returns => exact .quiet (fun _ hlate => hlate) fun _ hframe => by cases hframe

theorem callerEffect_disconnect {msgId : String} {ts : Float64} {sent : Except String Unit}
    {s s' : Rust.CallerTransport.State} {task abort task' abort' : Bool} {read : Option Bytes}
    {pc pc' : Rust.CallerTransport.DisconnectPc} {evs : List Rust.CallerTransport.Event}
    (hpc : ∀ frame, pc = .send frame → Carries m (IsControl ids) frame)
    (h : Rust.CallerTransport.disconnect m config msgId ts sent task abort pc =
      some (task', abort', pc', evs))
    (hrequests : s'.requests = s.requests) (hinbound : s'.inbound = s.inbound) :
    CallerEffect (V := V) (ω := ω) m ids request (.caller (.connected s)) (.caller (.connected s')) read
      (evs.map callerEvent) := by
  have hlate : ∀ q, late (requestsOf (.caller (.connected s) : NodeState ω) q) = true →
      late (requestsOf (.caller (.connected s') : NodeState ω) q) = true := by
    intro q hq
    show late (s'.requests q) = true
    rw [hrequests]
    exact hq
  have hhand : ∀ frame, inHand (.caller (.connected s') : NodeState ω) = some frame →
      inHand (.caller (.connected s) : NodeState ω) = some frame := by
    intro frame hframe
    rw [inHand, hinbound] at hframe
    rw [inHand]
    exact hframe
  cases pc with
  | start =>
    simp only [Rust.CallerTransport.disconnect] at h
    split at h <;> cases h <;> exact .quiet hlate fun frame hframe => .inl (hhand frame hframe)
  | send frame =>
    cases sent with
    | error text =>
      cases h
      exact .quiet hlate fun frame hframe => .inl (hhand frame hframe)
    | ok u =>
      cases h
      refine ⟨Nat.le_refl 1, hlate, ?_, ?_, ?_, fun frame hframe => .inl (hhand frame hframe)⟩
      · intro frame' hmem
        obtain rfl := NodeEvent.sent.inj (List.mem_singleton.mp hmem)
        exact .inl (hpc _ rfl)
      · intro q frame' hmem
        cases List.mem_singleton.mp hmem
      · intro call result hmem
        cases List.mem_singleton.mp hmem
  | take =>
    cases h
    exact .quiet hlate fun frame hframe => .inl (hhand frame hframe)
  | returned result => cases h

/-! ### The runs of a caller -/

variable {s s' : NodeState ω} {tr evs : List (NodeEvent V)} {i : NodeInput}

/-- A process that is a caller goes through a run of its connection. -/
theorem connection_of_caller
    (h : ((Node.caller config request : Node m V ω).system m r c debug).Run
      (fun _ _ i => i.Fresh ids) s tr) :
    ∃ conn done, s = .caller conn ∧ tr = done.map callerEvent ∧
      (Rust.CallerTransport.connection m r debug config fun q => (request q).toRequest).Run
        (fun _ _ i => (NodeInput.caller i).Fresh ids) conn done := by
  refine h.invariant (P := fun s tr => ∃ conn done, s = .caller conn ∧
    tr = done.map callerEvent ∧ (Rust.CallerTransport.connection m r debug config fun q =>
      (request q).toRequest).Run (fun _ _ i => (NodeInput.caller i).Fresh ids) conn done)
    ⟨_, [], rfl, rfl, .init⟩ ?_
  rintro s s' tr evs i - hfresh hs ⟨conn, done, rfl, rfl, hrun⟩
  cases i with
  | service i => cases hs
  | caller i =>
    obtain ⟨⟨conn', evs'⟩, hstep, heq⟩ := Option.map_eq_some_iff.mp hs
    obtain ⟨rfl, rfl⟩ := Prod.mk.inj heq
    exact ⟨conn', done ++ evs', rfl, List.map_append.symm, hrun.step hfresh hstep⟩

/-- `connect` sends the register frame, and nothing else. -/
theorem sent_of_connect {request : ReqId → Rust.CallerTransport.Request} {msgId : String}
    {ts : Float64} {sent : Except String Unit} {next : Option (Except String Message)}
    {conn conn' : Connection} {evs : List Rust.CallerTransport.Event}
    (h : Rust.CallerTransport.connect m r debug config request msgId ts sent next conn =
      some (conn', evs)) : ∀ e ∈ evs, ∃ frame, e = .sent frame := by
  unfold Rust.CallerTransport.connect at h
  split at h
  · split at h
    · cases h
      exact nofun
    · split at h
      · cases h
        exact fun e he => ⟨_, List.mem_singleton.mp he⟩
      · cases h
        exact nofun
  · split at h <;> cases h <;> exact nofun
  · cases h
  · cases h

/-- A connection that is open has just started the transport. -/
theorem init_of_connect {request : ReqId → Rust.CallerTransport.Request} {msgId : String}
    {ts : Float64} {sent : Except String Unit} {next : Option (Except String Message)}
    {conn : Connection} {s : Rust.CallerTransport.State} {evs : List Rust.CallerTransport.Event}
    (h : Rust.CallerTransport.connect m r debug config request msgId ts sent next conn =
      some (.connected s, evs)) :
    s = (Rust.CallerTransport.callerTransport m config request).init := by
  unfold Rust.CallerTransport.connect at h
  split at h
  · split at h
    · cases h
    · split at h <;> cases h
  · split at h <;> cases h
    rfl
  · cases h
  · cases h

/-- A connection sends its register frame, and from its acknowledgement on it goes through a run of
the transport. -/
theorem transport_of_connection {request : ReqId → Rust.CallerTransport.Request}
    {conn : Connection} {done : List Rust.CallerTransport.Event}
    (h : (Rust.CallerTransport.connection m r debug config request).Run
      (fun _ _ i => (NodeInput.caller i).Fresh ids) conn done) :
    ∃ before after, done = before ++ after ∧ (∀ e ∈ before, ∃ frame, e = .sent frame) ∧
      ((∀ s, conn ≠ .connected s) ∧ after = [] ∨
        ∃ s, conn = .connected s ∧
          (Rust.CallerTransport.callerTransport m config request).Run
            (fun _ _ i => (NodeInput.caller (.transport i)).Fresh ids) s after) := by
  refine h.invariant (P := fun conn done =>
    ∃ before after, done = before ++ after ∧ (∀ e ∈ before, ∃ frame, e = .sent frame) ∧
      ((∀ s, conn ≠ .connected s) ∧ after = [] ∨
        ∃ s, conn = .connected s ∧
          (Rust.CallerTransport.callerTransport m config request).Run
            (fun _ _ i => (NodeInput.caller (.transport i)).Fresh ids) s after)) ?_ ?_
  · exact ⟨[], [], rfl, nofun, .inl ⟨nofun, rfl⟩⟩
  rintro conn conn' done evs i - hfresh hs ⟨before, after, rfl, hbefore, hopen⟩
  cases i with
  | transport i =>
    rcases hopen with ⟨hclosed, -⟩ | ⟨s, rfl, hrun⟩
    · cases conn with
      | connected s => exact absurd rfl (hclosed s)
      | register => cases hs
      | reply => cases hs
      | failed err => cases hs
    · obtain ⟨⟨s₁, evs'⟩, hstep, heq⟩ := Option.map_eq_some_iff.mp hs
      obtain ⟨rfl, rfl⟩ := Prod.mk.inj heq
      exact ⟨before, after ++ evs', List.append_assoc .., hbefore,
        .inr ⟨s₁, rfl, hrun.step hfresh hstep⟩⟩
  | connect msgId ts sent next =>
    rcases hopen with ⟨-, rfl⟩ | ⟨s, rfl, -⟩
    · refine ⟨before ++ evs, [], by rw [List.append_nil, List.append_nil], ?_, ?_⟩
      · intro e he
        rcases List.mem_append.mp he with hold | hnew
        · exact hbefore e hold
        · exact sent_of_connect hs e hnew
      · cases conn' with
        | connected s' =>
          obtain rfl := init_of_connect hs
          exact .inr ⟨_, rfl, .init⟩
        | register => exact .inl ⟨nofun, rfl⟩
        | reply => exact .inl ⟨nofun, rfl⟩
        | failed err => exact .inl ⟨nofun, rfl⟩
    · cases hs

/-- What a `disconnect` is about to send is a control frame. -/
theorem carries_of_disconnects {request : ReqId → Rust.CallerTransport.Request}
    {s : Rust.CallerTransport.State} {done : List Rust.CallerTransport.Event}
    (h : (Rust.CallerTransport.callerTransport m config request).Run
      (fun _ _ i => (NodeInput.caller (.transport i)).Fresh ids) s done) :
    ∀ d frame, s.disconnects d = .send frame → Carries m (IsControl ids) frame := by
  refine h.invariant (P := fun s _ => ∀ d frame, s.disconnects d = .send frame →
    Carries m (IsControl ids) frame) ?_ ?_
  · intro d frame hframe
    cases hframe
  intro s s' tr evs i _ hfresh hs ih
  cases Rust.CallerTransport.step_of_callerTransport hs with
  | request hstep => exact ih
  | inbound hstep => exact ih
  | abort hrequested hawaits => exact ih
  | @disconnect d msgId ts sent task abort pc evs hstep =>
    intro d' frame hframe
    dsimp only at hframe
    rw [Function.update_apply] at hframe
    split_ifs at hframe with hd
    · subst hframe
      cases hpc : s.disconnects d with
      | start =>
        rw [hpc] at hstep
        simp only [Rust.CallerTransport.disconnect] at hstep
        split at hstep
        · rename_i frame' hencoded
          cases hstep
          exact ⟨_, [], hencoded, .inr rfl, hfresh⟩
        · cases hstep
      | send frame' =>
        rw [hpc] at hstep
        cases hstep
      | take =>
        rw [hpc] at hstep
        cases hstep
      | returned result =>
        rw [hpc] at hstep
        cases hstep
    · exact ih d' frame hframe

/-- **One step of a caller.** -/
theorem callerEffect_of_step
    (h : ((Node.caller config request : Node m V ω).system m r c debug).Run
      (fun _ _ i => i.Fresh ids) s tr) (hfresh : i.Fresh ids)
    (hs : ((Node.caller config request : Node m V ω).system m r c debug).step i s =
      some (s', evs)) : CallerEffect m ids request s s' (nodeTakes s i) evs := by
  obtain ⟨conn, done, rfl, -, hreach⟩ := connection_of_caller h
  cases i with
  | service i => cases hs
  | caller i =>
    obtain ⟨⟨conn', evs'⟩, hstep, heq⟩ := Option.map_eq_some_iff.mp hs
    obtain ⟨rfl, rfl⟩ := Prod.mk.inj heq
    cases i with
    | connect msgId ts sent next => exact callerEffect_connect hfresh hstep
    | transport i =>
      cases conn with
      | register => cases hstep
      | reply => cases hstep
      | failed err => cases hstep
      | connected s =>
        obtain ⟨before, after, -, -, hopen⟩ := transport_of_connection hreach
        rcases hopen with ⟨hclosed, -⟩ | ⟨s₀, hconn, htransport⟩
        · exact absurd rfl (hclosed s)
        obtain rfl := Rust.CallerTransport.Connection.connected.inj hconn
        obtain ⟨⟨s₁, evs₁⟩, hstep', heq'⟩ := Option.map_eq_some_iff.mp hstep
        obtain ⟨rfl, rfl⟩ := Prod.mk.inj heq'
        cases Rust.CallerTransport.step_of_callerTransport hstep' with
        | request hrequest => exact callerEffect_request hrequest
        | inbound hinbound => exact callerEffect_inbound hinbound
        | abort hrequested hawaits =>
          exact .quiet (fun _ hlate => hlate) fun _ hframe => by cases hframe
        | disconnect hdisconnect =>
          exact callerEffect_disconnect (carries_of_disconnects htransport _) hdisconnect rfl rfl

end Caller

/-! ### The steps of a service -/

/-- The frame answers a call under its id, with the result if there is one. -/
def Answers (peerId : String) (call : FrameParts) (result : Except String V) (frame : Bytes) :
    Prop :=
  ∃ ts body, Rust.encodeFrame m ⟨protocolVersion, if result.isOk then kindResponse else kindError,
      call.envelope.msgId, peerId, call.envelope.fromPeer, ts⟩ body = .ok frame ∧
    ∀ v, result = .ok v → c.responseBodyToVecNamed ⟨v⟩ = .ok body

/-- The envelope of a control frame or of an error. -/
def IsNotice (ids : String → Prop) (envelope : Envelope) : Prop :=
  envelope.kind = kindError ∨ IsControl ids envelope

/-- What a step of a service does: it sends a frame at most, and hands a call to the worker only when
it has read it. -/
inductive ServiceEffect (ids : String → Prop) (peerId : String)
    (handleCall : String → List V → ω → Except String V × ω) (s s' : Rust.Service.State ω)
    (read : Option Bytes) : List (NodeEvent V) → Prop
  | plain {frames : List Bytes} (hlength : frames.length ≤ 1)
      (hframes : ∀ frame ∈ frames, Carries m (IsNotice ids) frame)
      (hworker : s'.world.worker = s.world.worker) :
      ServiceEffect ids peerId handleCall s s' read (frames.map .sent)
  | executes {raw : Bytes} {call : FrameParts} {body : CallBody V} {result : Except String V}
      {frames : List Bytes} (hread : read = some raw) (hdecoded : Rust.decodeFrame m raw = .ok call)
      (hto : call.envelope.toPeer = peerId) (hkind : call.envelope.kind = kindCall)
      (hbody : acceptedBody c call = some body)
      (hcall : handleCall body.function body.args s.world.worker = (result, s'.world.worker))
      (hlength : frames.length ≤ 1) (hframes : ∀ frame ∈ frames, Answers m c peerId call result frame) :
      ServiceEffect ids peerId handleCall s s' read (.executed call result :: frames.map .sent)

section Service

variable {m r c debug} {ids : String → Prop} {peerId : String}
  {handleCall : String → List V → ω → Except String V × ω}

/-- What `sendBuilt` adds to the frames that went out. -/
theorem sent_sendBuilt (env : Rust.Service.Environment V ω) (frame : Except MultifrostError Bytes)
    (w : Rust.Service.World ω) :
    ∃ frames, (Rust.Service.sendBuilt env frame w).2.sent = w.sent ++ frames ∧ frames.length ≤ 1 ∧
      ∀ bytes ∈ frames, frame = .ok bytes := by
  cases frame with
  | error err => exact ⟨[], (List.append_nil _).symm, Nat.zero_le 1, List.forall_mem_nil _⟩
  | ok bytes =>
    rw [Rust.Service.sendBuilt, Rust.Service.sendWsFrame]
    cases env.send w.read with
    | error text => exact ⟨[], (List.append_nil _).symm, Nat.zero_le 1, List.forall_mem_nil _⟩
    | ok u =>
      refine ⟨[bytes], rfl, Nat.le_refl 1, ?_⟩
      intro bytes' hmem
      rw [List.mem_singleton.mp hmem]

/-- The call in a binary message that is addressed to the service. -/
theorem callFrame_eq_some {message : Except String Message} {call : FrameParts}
    (h : callFrame m peerId message = some call) :
    ∃ raw, message = .ok (.binary raw) ∧ Rust.decodeFrame m raw = .ok call ∧
      call.envelope.toPeer = peerId ∧ call.envelope.kind = kindCall := by
  unfold callFrame at h
  split at h
  · rename_i raw
    split at h
    · rename_i frame hdecoded
      split_ifs at h with hcall
      obtain rfl := Option.some.inj h
      exact ⟨raw, rfl, hdecoded, hcall⟩
    · cases h
  · cases h

/-- The frames of a step are what its world has more than the one before. -/
theorem serviceEvents_eq {i : Rust.Service.Input} {s : Rust.Service.State ω} {frames : List Bytes} :
    serviceEvents m c peerId handleCall i s (s.world.sent ++ frames) =
      (calledIn m c peerId i s.pc).toList.map (fun called =>
        .executed called.1 (handleCall called.2.function called.2.args s.world.worker).1) ++
        frames.map .sent := by
  rw [serviceEvents, List.drop_left]

/-- A frame built from an error body carries an error. -/
theorem carries_of_bind {envelope : Envelope} {encoded : Except MultifrostError Bytes} {bytes : Bytes}
    {P : Envelope → Prop} (hp : P envelope)
    (h : (encoded.bind fun body => Rust.encodeFrame m envelope body) = .ok bytes) :
    Carries m P bytes := by
  cases encoded with
  | error err => cases h
  | ok body => exact ⟨envelope, body, h, hp⟩

/-- The handling of a call, seen from outside: the frames, the worker and whether it was called. -/
inductive Handling (m : RmpSerde) (c : CallSerde V) (peerId : String)
    (handleCall : String → List V → ω → Except String V × ω) (call : FrameParts) (worker worker' : ω) :
    List Bytes → Prop
  | refused {frames : List Bytes} (hbody : acceptedBody c call = none)
      (hworker : worker' = worker)
      (hframes : ∀ frame ∈ frames, Carries m (fun e => e.kind = kindError) frame) :
      Handling m c peerId handleCall call worker worker' frames
  | executed {body : CallBody V} (result : Except String V) {frames : List Bytes}
      (hbody : acceptedBody c call = some body)
      (hcall : handleCall body.function body.args worker = (result, worker'))
      (hframes : ∀ frame ∈ frames, Answers m c peerId call result frame) :
      Handling m c peerId handleCall call worker worker' frames

variable (m c peerId) in
theorem handling_handleCallFrame (env : Rust.Service.Environment V ω) (call : FrameParts)
    (w : Rust.Service.World ω) :
    ∃ frames, (Rust.Service.handleCallFrame m c env peerId call w).2.sent = w.sent ++ frames ∧
      frames.length ≤ 1 ∧ Handling m c peerId env.handleCall call w.worker
        (Rust.Service.handleCallFrame m c env peerId call w).2.worker frames := by
  unfold Rust.Service.handleCallFrame
  cases hbody : Rust.Service.decodeCallBody c call.bodyBytes with
  | error text =>
    have hnone : acceptedBody c call = none := by rw [acceptedBody, hbody]
    dsimp only [Rust.Service.sendError]
    obtain ⟨frames, hsent, hlength, hframes⟩ := sent_sendBuilt env _ w
    refine ⟨frames, hsent, hlength, .refused hnone (Rust.Service.sendBuilt_worker _ _) ?_⟩
    exact fun frame hmem => carries_of_bind rfl (hframes frame hmem)
  | ok body =>
    dsimp only
    cases hns : body.callNamespace.filter (· ≠ "default") with
    | some ns =>
      have hnone : acceptedBody c call = none := by
        rw [acceptedBody, hbody]
        simp only [hns, reduceCtorEq, if_false]
      dsimp only [Rust.Service.sendError]
      obtain ⟨frames, hsent, hlength, hframes⟩ := sent_sendBuilt env _ w
      refine ⟨frames, hsent, hlength, .refused hnone (Rust.Service.sendBuilt_worker _ _) ?_⟩
      exact fun frame hmem => carries_of_bind rfl (hframes frame hmem)
    | none =>
      have hsome : acceptedBody c call = some body := by
        rw [acceptedBody, hbody]
        simp only [hns, if_true]
      rcases hcall : env.handleCall body.function body.args w.worker with ⟨text | value, worker⟩
      · dsimp only
        obtain ⟨frames, hsent, hlength, hframes⟩ := sent_sendBuilt env _ { w with worker := worker }
        refine ⟨frames, hsent, hlength, .executed (.error text) hsome (hcall.trans ?_) ?_⟩
        · rw [Rust.Service.sendBuilt_worker]
        · intro frame hmem
          have hbuilt := hframes frame hmem
          cases hencoded : Rust.Service.encodeErrorBody c
              ⟨"application_error", text, "application", none, none⟩ with
          | error err =>
            rw [hencoded] at hbuilt
            cases hbuilt
          | ok bytes =>
            rw [hencoded] at hbuilt
            exact ⟨env.now w.read, bytes, hbuilt, nofun⟩
      · dsimp only
        obtain ⟨frames, hsent, hlength, hframes⟩ := sent_sendBuilt env _ { w with worker := worker }
        refine ⟨frames, hsent, hlength, .executed (.ok value) hsome (hcall.trans ?_) ?_⟩
        · rw [Rust.Service.sendBuilt_worker]
        · intro frame hmem
          have hbuilt := hframes frame hmem
          unfold Rust.Service.encodeResponseBody at hbuilt
          cases hencoded : c.responseBodyToVecNamed ⟨value⟩ with
          | error text =>
            rw [hencoded] at hbuilt
            cases hbuilt
          | ok bytes =>
            rw [hencoded] at hbuilt
            refine ⟨env.now w.read, bytes, hbuilt, ?_⟩
            intro v hv
            obtain rfl := Except.ok.inj hv
            exact hencoded

/-- An error of the handling is written down, and nothing else. -/
theorem afterCall_world (done : Except MultifrostError Unit × Rust.Service.World ω) :
    (Rust.Service.afterCall done).sent = done.2.sent ∧
      (Rust.Service.afterCall done).worker = done.2.worker := by
  rcases done with ⟨err | u, w⟩ <;> exact ⟨rfl, rfl⟩

/-- A step outside the loop, where no call is handed to the worker. -/
theorem ServiceEffect.control {i : Rust.Service.Input} {s s' : Rust.Service.State ω}
    {frames : List Bytes} {read : Option Bytes} (hpc : calledIn m c peerId i s.pc = none)
    (hsent : s'.world.sent = s.world.sent ++ frames) (hlength : frames.length ≤ 1)
    (hframes : ∀ frame ∈ frames, Carries m (IsNotice ids) frame)
    (hworker : s'.world.worker = s.world.worker) :
    ServiceEffect m c ids peerId handleCall s s' read
      (serviceEvents m c peerId handleCall i s s'.world.sent) := by
  rw [hsent, serviceEvents_eq, hpc]
  exact .plain hlength hframes hworker

/-- The world after the registration has been sent. -/
theorem world_of_register {i : Rust.Service.Input} {w : Rust.Service.World ω}
    {s' : Rust.Service.State ω}
    (h : Rust.Service.serviceStep m r c debug handleCall peerId i w .register = some s') :
    s'.world = (Rust.Service.sendBuilt (i.environment handleCall)
      (Rust.registerFrame m r peerId .service i.newMsgId i.now) w).2 := by
  simp only [Rust.Service.serviceStep] at h
  split at h
  · rename_i w' hbuilt
    cases h
    rw [hbuilt]
  · rename_i err w' hbuilt
    cases h
    rw [hbuilt]

/-- The world after a message. -/
theorem world_of_loop {i : Rust.Service.Input} {message : Except String Message}
    {w : Rust.Service.World ω} {s' : Rust.Service.State ω} (hnext : i.next = some message)
    (h : Rust.Service.serviceStep m r c debug handleCall peerId i w .loop = some s') :
    s'.world =
      (Rust.Service.handleMessage m c (i.environment handleCall) peerId message w).2 := by
  simp only [Rust.Service.serviceStep, hnext] at h
  split at h
  · rename_i w' hhandled
    cases h
    rw [hhandled]
  · rename_i w' hhandled
    cases h
    rw [hhandled]

theorem serviceEffect_register {i : Rust.Service.Input} {w : Rust.Service.World ω}
    {s' : Rust.Service.State ω} {read : Option Bytes} (hfresh : ¬ ids i.newMsgId)
    (h : Rust.Service.serviceStep m r c debug handleCall peerId i w .register = some s') :
    ServiceEffect m c ids peerId handleCall ⟨.register, w⟩ s' read
      (serviceEvents m c peerId handleCall i ⟨.register, w⟩ s'.world.sent) := by
  obtain ⟨frames, hsent, hlength, hframes⟩ := sent_sendBuilt (i.environment handleCall)
    (Rust.registerFrame m r peerId .service i.newMsgId i.now) w
  have hworker : (Rust.Service.sendBuilt (i.environment handleCall)
      (Rust.registerFrame m r peerId .service i.newMsgId i.now) w).2.worker = w.worker :=
    Rust.Service.sendBuilt_worker _ _
  have hcarries : ∀ frame ∈ frames, Carries m (IsNotice ids) frame := by
    intro frame hmem
    obtain ⟨body, hencoded⟩ := encodeFrame_of_registerFrame (hframes frame hmem)
    exact ⟨_, body, hencoded, .inr ⟨.inl rfl, hfresh⟩⟩
  rw [← world_of_register h] at hsent hworker
  exact .control rfl hsent hlength hcarries hworker

/-- The worker is handed the call of a message that the loop reads, and no other. -/
theorem serviceEffect_loop {i : Rust.Service.Input} {w : Rust.Service.World ω}
    {s' : Rust.Service.State ω}
    (h : Rust.Service.serviceStep m r c debug handleCall peerId i w .loop = some s') :
    ServiceEffect m c ids peerId handleCall ⟨.loop, w⟩ s' (binaryOf i.next)
      (serviceEvents m c peerId handleCall i ⟨.loop, w⟩ s'.world.sent) := by
  cases hnext : i.next with
  | none =>
    simp only [Rust.Service.serviceStep, hnext] at h
    cases h
    have hsent : w.sent = w.sent ++ [] := (List.append_nil _).symm
    refine .control ?_ hsent (Nat.zero_le 1) (List.forall_mem_nil _) rfl
    simp only [calledIn, hnext, Option.bind_eq_bind, Option.bind_none]
  | some message =>
    have hworld := world_of_loop hnext h
    rw [Rust.Service.handleMessage_eq] at hworld
    cases hcall : callFrame m peerId message with
    | none =>
      rw [hcall] at hworld
      have hsent : s'.world.sent = w.sent ++ [] := by rw [hworld, List.append_nil]
      refine .control ?_ hsent (Nat.zero_le 1) (List.forall_mem_nil _) (by rw [hworld])
      simp only [calledIn, hnext, hcall, Option.bind_eq_bind, Option.bind_some, Option.bind_none]
    | some call =>
      rw [hcall] at hworld
      dsimp only at hworld
      obtain ⟨raw, rfl, hdecoded, hto, hkind⟩ := callFrame_eq_some hcall
      obtain ⟨frames, hsent, hlength, hhandling⟩ :=
        handling_handleCallFrame m c peerId (i.environment handleCall) call w
      obtain ⟨hsent', hworker'⟩ := afterCall_world
        (Rust.Service.handleCallFrame m c (i.environment handleCall) peerId call w)
      rw [← hworld] at hsent' hworker'
      rw [← hsent'] at hsent
      rw [← hworker'] at hhandling
      have hcalled : calledIn m c peerId i .loop =
          (acceptedBody c call).bind fun body => some (call, body) := by
        simp only [calledIn, hnext, hcall, Option.bind_eq_bind, Option.bind_some]
      cases hhandling with
      | refused hbody hworker hframes =>
        rw [hbody, Option.bind_none] at hcalled
        refine .control hcalled hsent hlength ?_ hworker
        intro frame hmem
        obtain ⟨envelope, body, hencoded, herror⟩ := hframes frame hmem
        exact ⟨envelope, body, hencoded, .inl herror⟩
      | @executed body result frames hbody hexecuted hframes =>
        rw [hbody, Option.bind_some] at hcalled
        have hexecuted' : handleCall body.function body.args w.worker = (result, s'.world.worker) :=
          hexecuted
        rw [hsent, serviceEvents_eq, hcalled]
        simp only [Option.toList_some, List.map_cons, List.map_nil, List.singleton_append,
          hexecuted']
        exact .executes rfl hdecoded hto hkind hbody hexecuted' hlength hframes

/-- **One step of a service.** -/
theorem serviceEffect_of_step {worker : ω} {i : Rust.Service.Input} {s s' : Rust.Service.State ω}
    {evs : List Empty} (hfresh : ¬ ids i.newMsgId)
    (h : (Rust.Service.service m r c debug handleCall peerId worker).step i s = some (s', evs)) :
    ServiceEffect m c ids peerId handleCall s s' (nodeTakes (.service s) (.service i))
      (serviceEvents m c peerId handleCall i s s'.world.sent) := by
  obtain ⟨s₁, hstep, heq⟩ := Option.map_eq_some_iff.mp h
  obtain ⟨rfl, -⟩ := Prod.mk.inj heq
  obtain ⟨pc, w⟩ := s
  cases pc with
  | register => exact serviceEffect_register hfresh hstep
  | reply =>
    simp only [Rust.Service.serviceStep] at hstep
    split at hstep
    · cases hstep
      exact .control rfl (List.append_nil _).symm (Nat.zero_le 1) (List.forall_mem_nil _) rfl
    · cases hstep
      exact .control rfl (List.append_nil _).symm (Nat.zero_le 1) (List.forall_mem_nil _) rfl
  | loop => exact serviceEffect_loop hstep
  | disconnect =>
    obtain ⟨frames, hsent, hlength, hframes⟩ := sent_sendBuilt (i.environment handleCall)
      (Rust.encodeFrame m (Rust.CallerTransport.buildDisconnectEnvelope peerId Router.routerPeerId
        i.newMsgId i.now) []) w
    cases hstep
    refine .control rfl hsent hlength ?_ (Rust.Service.sendBuilt_worker _ _)
    intro frame hmem
    exact ⟨_, [], hframes frame hmem, .inr ⟨.inr rfl, hfresh⟩⟩
  | returned result => cases hstep

/-- A process that is a service goes through a run of it. -/
theorem service_of_node {worker : ω} {s : NodeState ω} {tr : List (NodeEvent V)}
    (h : ((Node.service peerId handleCall worker : Node m V ω).system m r c debug).Run
      (fun _ _ i => i.Fresh ids) s tr) :
    ∃ svc, s = .service svc := by
  refine h.invariant (P := fun s _ => ∃ svc, s = .service svc) ⟨_, rfl⟩ ?_
  rintro s s' tr evs i - - hs ⟨svc, rfl⟩
  cases i with
  | caller i => cases hs
  | service i =>
    obtain ⟨⟨svc', evs'⟩, hstep, heq⟩ := Option.map_eq_some_iff.mp hs
    obtain ⟨rfl, rfl⟩ := Prod.mk.inj heq
    exact ⟨svc', rfl⟩

end Service

end Multifrost.Network
