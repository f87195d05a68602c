import Multifrost.Router.Safety.Forwarding

/-!
# What the router answers

The envelopes of the frames the router generates.  Each is built by one of six functions and is
written to the connection's own sink; `Replies` says which envelope a handler answers with, unless
the answer does not encode, which `RmpSerde.Encodes` excludes.

`writesBy` collects what the task of a connection writes, and `Undisturbed c` are the steps in
which the task of `c` is left to finish with the message it has read.
-/

namespace Multifrost.Router

open TransitionSystem

variable {m : RmpSerde}

/-- `rmp_serde::to_vec_named` writes every record of the router. -/
structure RmpSerde.Encodes (m : RmpSerde) : Prop where
  envelope : ∀ e, ∃ bytes, m.envelopeToVecNamed e = .ok bytes
  registerAckBody : ∀ b, ∃ bytes, m.registerAckBodyToVecNamed b = .ok bytes
  queryExists : ∀ b, ∃ bytes, m.queryExistsToVecNamed b = .ok bytes
  queryGet : ∀ b, ∃ bytes, m.queryGetToVecNamed b = .ok bytes
  errorBody : ∀ b, ∃ bytes, m.errorBodyToVecNamed b = .ok bytes

/-- The codec of the concrete runs writes everything. -/
theorem encodes_msgPackSerde : msgPackSerde.Encodes where
  envelope _ := ⟨_, rfl⟩
  registerAckBody _ := ⟨_, rfl⟩
  queryExists _ := ⟨_, rfl⟩
  queryGet _ := ⟨_, rfl⟩
  errorBody _ := ⟨_, rfl⟩

/-! ### Building an answer -/

/-- The computation gives a frame with the envelope, unless something does not encode. -/
def Builds (envelope : Envelope) (x : Except RouterError (RouterFrame m)) : Prop :=
  (∃ f, x = .ok f ∧ f.envelope = envelope) ∨ ¬ m.Encodes ∧ ∃ e, x = .error e

theorem builds_sendFrame {envelope : Envelope} {body : Bytes}
    {h : envelope.fromPeer = routerPeerId} : Builds envelope (sendFrame m envelope body h) := by
  cases hsend : sendFrame m envelope body h with
  | ok f => exact Or.inl ⟨f, rfl, envelope_of_sendFrame hsend⟩
  | error e =>
    refine Or.inr ⟨fun hencodes => ?_, e, rfl⟩
    obtain ⟨bytes, hbytes⟩ := hencodes.envelope envelope
    have hencode : ∃ raw, encodeFrame m envelope body = .ok raw := by
      unfold encodeFrame encodeEnvelope
      rw [hbytes]
      exact ⟨_, rfl⟩
    obtain ⟨raw, hraw⟩ := hencode
    unfold sendFrame at hsend
    split at hsend
    · cases hsend
    · rename_i hno
      rw [hraw] at hno
      cases hno

/-- The body of an answer is encoded first. -/
theorem builds_bind {envelope : Envelope} {x : Except RouterError Bytes}
    {k : Bytes → Except RouterError (RouterFrame m)} (hx : m.Encodes → ∃ bytes, x = .ok bytes)
    (hk : ∀ bytes, Builds envelope (k bytes)) : Builds envelope (x >>= k) := by
  cases x with
  | ok bytes => exact hk bytes
  | error e =>
    refine Or.inr ⟨fun hencodes => ?_, e, rfl⟩
    obtain ⟨bytes, h⟩ := hx hencodes
    cases h

theorem encodes_registerAckBody (body : RegisterAckBody) (h : m.Encodes) :
    ∃ bytes, encodeRegisterAckBody m body = .ok bytes := by
  obtain ⟨bytes, hbytes⟩ := h.registerAckBody body
  unfold encodeRegisterAckBody
  rw [hbytes]
  exact ⟨bytes, rfl⟩

theorem builds_sendError (now : Float64) (msgId code message : String) :
    Builds (buildEnvelope kindError msgId routerPeerId routerPeerId now)
      (sendError m now msgId code message) := by
  refine builds_bind ?_ fun _ => builds_sendFrame
  intro hencodes
  obtain ⟨bytes, hbytes⟩ := hencodes.errorBody (buildErrorBody code message)
  unfold encodeErrorBody
  rw [hbytes]
  exact ⟨bytes, rfl⟩

theorem builds_sendRegisterAck (now : Float64) (msgId : String) (register : RegisterBody) :
    Builds (buildEnvelope kindResponse msgId routerPeerId register.peerId now)
      (sendRegisterAck m now msgId register) :=
  builds_bind (encodes_registerAckBody buildAckBody) fun _ => builds_sendFrame

/-! ### The awaits at which an answer is sent -/

/-- The connection is about to answer with the envelope. -/
def Replies (me : Session) (after : After) (envelope : Envelope) (pc : Pc m) : Prop :=
  (∃ f, pc = .reply me f after ∧ f.envelope = envelope) ∨
    ¬ m.Encodes ∧ ∃ e, pc = .cleanup me (.error e)

theorem Builds.replies {me : Session} {after : After} {envelope : Envelope}
    {x : Except RouterError (RouterFrame m)} (h : Builds envelope x) :
    Replies me after envelope (orLeave m (some me) (do let f ← x; .ok (.reply me f after))) := by
  rcases h with ⟨f, rfl, hf⟩ | ⟨hencodes, e, rfl⟩
  · exact Or.inl ⟨f, rfl, hf⟩
  · exact Or.inr ⟨hencodes, e, rfl⟩

theorem Replies.reply {me : Session} {after : After} {envelope : Envelope} {pc : Pc m}
    (h : Replies me after envelope pc) (hencodes : m.Encodes) :
    ∃ f, pc = .reply me f after ∧ f.envelope = envelope := by
  rcases h with hreply | ⟨hno, -⟩
  · exact hreply
  · exact absurd hencodes hno

theorem replies_replyError (now : Float64) (me : Session) (msgId code message : String) :
    Replies me .loop (buildEnvelope kindError msgId routerPeerId routerPeerId now)
      (orLeave m (some me) (replyError m now me msgId code message)) :=
  (builds_sendError now msgId code message).replies

/-- An answer whose body is encoded first. -/
theorem replies_body {me : Session} {after : After} {envelope : Envelope}
    {x : Except RouterError Bytes} {k : Bytes → Except RouterError (RouterFrame m)}
    (h : Builds envelope (x >>= k)) : Replies me after envelope
      (orLeave m (some me) (do let body ← x; let f ← k body; .ok (.reply me f after))) := by
  -- the handler binds body and frame in one block, `Builds` takes the frame alone
  have hassoc : (do let body ← x; let f ← k body; .ok (.reply me f after)) =
      (do let f ← x >>= k; .ok (.reply me f after) : Except RouterError (Pc m)) := by
    cases x <;> rfl
  rw [hassoc]
  exact h.replies

theorem replies_onLookup (me : Session) (envelope : Envelope) (body : QueryBody)
    (snapshot : Option PeerSnapshot) :
    Replies me .loop
      ⟨envelope.v, kindResponse, envelope.msgId, routerPeerId, me.peerId, envelope.ts⟩
      (orLeave m (some me) (onLookup m me envelope body snapshot)) := by
  cases body with
  | peerExists peerId =>
    refine replies_body (builds_bind ?_ fun _ => builds_sendFrame)
    intro hencodes
    obtain ⟨bytes, hbytes⟩ := hencodes.queryExists
      ⟨peerId, snapshot.isSome, snapshot.map fun value => value.peerClass, snapshot.isSome⟩
    refine ⟨bytes, ?_⟩
    show (m.queryExistsToVecNamed _).mapError _ = _
    rw [hbytes]
    rfl
  | peerGet peerId =>
    refine replies_body (builds_bind ?_ fun _ => builds_sendFrame)
    intro hencodes
    obtain ⟨bytes, hbytes⟩ := hencodes.queryGet
      ⟨peerId, snapshot.isSome, snapshot.map fun value => value.peerClass,
        (snapshot.map fun value => value.connected).getD false⟩
    refine ⟨bytes, ?_⟩
    show (m.queryGetToVecNamed _).mapError _ = _
    rw [hbytes]
    rfl

/-- A heartbeat for nobody is answered by the router. -/
theorem replies_onHeartbeatTarget (r : Route) :
    Replies r.me .loop
      (buildEnvelope kindHeartbeat r.envelope.msgId routerPeerId r.me.peerId r.envelope.ts)
      (orLeave m (some r.me) (onHeartbeatTarget m r false)) :=
  replies_body (builds_bind (encodes_registerAckBody buildAckBody) fun _ => builds_sendFrame)

theorem replies_onDisconnected (me : Session) (envelope : Envelope) :
    Replies me .finish
      (buildEnvelope kindResponse envelope.msgId routerPeerId me.peerId envelope.ts)
      (orLeave m (some me) (onDisconnected m me envelope)) :=
  replies_body (builds_bind (encodes_registerAckBody buildAckBody) fun _ => builds_sendFrame)

/-! ### What a task writes -/

/-- The frames the task of a connection writes, in order, with the sinks they go to. -/
def writesBy (c : ConnId) (tr : List (Event m)) : List (PeerSender × Outbound m) :=
  tr.filterMap fun
    | .wrote c' sink out => if c' = c then some (sink, out) else none
    | _ => none

@[simp] theorem writesBy_append (c : ConnId) (tr evs : List (Event m)) :
    writesBy c (tr ++ evs) = writesBy c tr ++ writesBy c evs :=
  List.filterMap_append

theorem writesBy_eq_nil {c : ConnId} {evs : List (Event m)} (h : ∀ e ∈ evs, e.conn ≠ c) :
    writesBy c evs = [] := by
  unfold writesBy
  rw [List.filterMap_eq_nil_iff]
  intro e he
  have hc := h e he
  cases e <;> first | rfl | exact if_neg hc

theorem writesBy_receivedEvent (c c' : ConnId) (next : Next) :
    writesBy c (receivedEvent m c' next) = [] := by
  unfold receivedEvent
  split <;> rfl

@[simp] theorem writesBy_wrote (c : ConnId) (sink : PeerSender) (out : Outbound m) :
    writesBy c [.wrote c sink out] = [(sink, out)] := by
  simp [writesBy]

/-! ### Finishing with a message -/

/-- The connection waits for a message. -/
def Pc.reading : Pc m → Bool
  | .first | .loop _ => true
  | _ => false

/-- The connection sends on its own sink. -/
def Pc.answering : Pc m → Bool
  | .reject _ | .ack _ _ | .reply _ _ _ => true
  | _ => false

/-- The connection is leaving, or has returned. -/
def Pc.leaving : Pc m → Bool
  | .cleanup .. | .returned _ => true
  | _ => false

/-- The task of `c` does not read, and what it sends on its own sink is sent; other tasks do what
they like. -/
def Undisturbed (c : ConnId) (s : State m) (i : Input) : Prop :=
  i.conn = c → (s.conns c).reading = false ∧ ((s.conns c).answering = true → i.ok = true)

instance (c : ConnId) (s : State m) (i : Input) : Decidable (Undisturbed c s i) :=
  inferInstanceAs (Decidable (_ → _))

/-- The step of another task changes nothing of `c`. -/
theorem step_of_ne {i : Input} {s s' : State m} {evs : List (Event m)} {c : ConnId}
    (h : (serve m).step i s = some (s', evs)) (hc : i.conn ≠ c) :
    s'.conns c = s.conns c ∧ writesBy c evs = [] := by
  obtain ⟨pc, hstep, hconns⟩ := step_of_serve h
  refine ⟨?_, writesBy_eq_nil fun e he => ?_⟩
  · rw [hconns, Function.update_of_ne hc.symm]
  · rw [hstep.conn_eq e he]
    exact hc

/-- A step is one await of the connection that moves. -/
theorem connStep_of_serve {i : Input} {s s' : State m} {evs : List (Event m)}
    (h : (serve m).step i s = some (s', evs)) :
    connStep m i s.registry (s.conns i.conn) = some (s'.registry, s'.conns i.conn, evs) := by
  obtain ⟨⟨reg, pc, evs'⟩, hc, hs⟩ := Option.map_eq_some_iff.mp h
  simp only [Prod.mk.injEq] at hs
  obtain ⟨rfl, rfl⟩ := hs
  rw [hc]
  simp only [Function.update_self]

/-- A registered connection reads a frame that decodes. -/
theorem conns_of_read {i : Input} {s s' : State m} {evs : List (Event m)} {me : Session}
    {raw : Bytes} {parts : FrameParts} (hloop : s.conns i.conn = .loop me)
    (hnext : i.next = some (.ok (.binary raw))) (hdecoded : decodeFrame m raw = .ok parts)
    (h : (serve m).step i s = some (s', evs)) :
    s'.conns i.conn = orLeave m (some me) (onFrame m i.now me raw parts) ∧
      writesBy i.conn evs = [] := by
  have hstep := connStep_of_serve h
  rw [hloop] at hstep
  simp only [connStep, hnext, onNext, onBinary, hdecoded, Option.some.injEq, Prod.mk.injEq] at hstep
  obtain ⟨-, hpc, hevs⟩ := hstep
  refine ⟨hpc.symm, ?_⟩
  rw [← hevs]
  exact writesBy_receivedEvent ..

/-- A connection that is leaving keeps leaving, and writes nothing. -/
theorem leaving_of_connStep {i : Input} {reg reg' : PeerRegistry} {pc pc' : Pc m}
    {evs : List (Event m)} (h : pc.leaving = true)
    (hstep : connStep m i reg pc = some (reg', pc', evs)) :
    pc'.leaving = true ∧ writesBy i.conn evs = [] := by
  cases pc with
  | cleanup me res =>
    simp only [connStep, Option.some.injEq, Prod.mk.injEq] at hstep
    obtain ⟨rfl, rfl, rfl⟩ := hstep
    exact ⟨rfl, rfl⟩
  | returned res => cases hstep
  | _ => cases h

/-- **The invariant rule for one task** that is finishing with a message: what it holds and what has
happened keep the relation `Q` when its own awaits and the events of others do. -/
theorem task_invariant {c : ConnId} {Q : List (Event m) → Pc m → Prop}
    (hother : ∀ {tr evs : List (Event m)} {pc : Pc m}, (∀ e ∈ evs, e.conn ≠ c) → Q tr pc →
      Q (tr ++ evs) pc)
    (hown : ∀ {tr evs : List (Event m)} {pc pc' : Pc m} {i : Input} {reg reg' : PeerRegistry},
      i.conn = c → pc.reading = false → (pc.answering = true → i.ok = true) →
      connStep m i reg pc = some (reg', pc', evs) → Q tr pc → Q (tr ++ evs) pc')
    {s s' : State m} {is : List Input} {tr₀ tr : List (Event m)} (hstart : Q tr₀ (s.conns c))
    (hpath : (serve m).Path (Undisturbed c) s is tr s') : Q (tr₀ ++ tr) (s'.conns c) := by
  refine hpath.invariant (P := fun _ tr s' => Q (tr₀ ++ tr) (s'.conns c)) ?_ ?_
  · rw [List.append_nil]
    exact hstart
  · intro is tr evs s₁ s₂ i _ hguard hs ih
    rw [← List.append_assoc]
    by_cases hc : i.conn = c
    · subst hc
      obtain ⟨hread, hok⟩ := hguard rfl
      exact hown rfl hread hok (connStep_of_serve hs) ih
    · obtain ⟨pc, hstep, -⟩ := step_of_serve hs
      rw [(step_of_ne hs hc).1]
      refine hother ?_ ih
      intro e he
      rw [hstep.conn_eq e he]
      exact hc

end Multifrost.Router
