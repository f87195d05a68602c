import Multifrost.Router.Safety.Reply

/-!
# Whom the router's answers are addressed to

A peer that checks `envelope.to` sees an answer of the router only when it carries the peer's own
id.  The acknowledgements, the answers to queries and the echo of a heartbeat do; the errors are
addressed to the router itself, since `send_peer_error` and `send_error_and_close` fill in its id
twice (`error_misaddressed`).

In the runs in which no frame of a registered connection is rejected (`Routable`) every frame the
router generates is addressed to its receiver (`replies_addressed`).
-/

namespace Multifrost.Router

open TransitionSystem

variable {m : RmpSerde}

/-! ### Frames that are not rejected -/

/-- The message loop has nothing to object to the envelope: the origin is the connection's own id,
the kind is known and may come from a peer of its class. -/
def acceptsEnvelope (me : Session) (envelope : Envelope) : Bool :=
  envelope.fromPeer == me.peerId &&
    (envelope.kind == kindQuery || envelope.kind == kindCall && me.peerClass == .caller ||
      (envelope.kind == kindResponse || envelope.kind == kindError) && me.peerClass == .service ||
      envelope.kind == kindHeartbeat || envelope.kind == kindDisconnect)

variable (m) in
/-- The message is no text, and if it is a frame the message loop accepts it. -/
def acceptsMessage (me : Session) : Next → Bool
  | some (.ok (.binary raw)) =>
    match decodeFrame m raw with
    | .ok parts => acceptsEnvelope me parts.envelope
    | .error _ => true
  | some (.ok .text) | some (.ok .frame) => false
  | _ => true

/-- The connection that moves finds nothing to reject: neither in the message it reads nor in the
target of the frame it routes, and the send to the target succeeds. -/
def Pc.routable (i : Input) (reg : PeerRegistry) : Pc m → Bool
  | .loop me => acceptsMessage m me i.next
  | .targetClass r =>
    decideRouteTarget r.kind (reg.snapshotPeerClass r.envelope.toPeer) == .deliver
  | .targetExists r => reg.snapshotPeerExists r.envelope.toPeer
  | .targetSender r => (reg.senderByPeerId r.envelope.toPeer).isSome
  | .forward _ _ => i.ok
  | _ => true

/-- No frame of a registered connection is rejected in the step. -/
def Routable (s : State m) (_ : List (Event m)) (i : Input) : Prop :=
  (s.conns i.conn).routable i s.registry = true

instance (s : State m) (tr : List (Event m)) (i : Input) : Decidable (Routable s tr i) :=
  inferInstanceAs (Decidable (_ = true))

/-! ### The frames a registered connection is about to send to its peer -/

def Pc.answer : Pc m → Option (Session × RouterFrame m)
  | .ack me f | .reply me f _ => some (me, f)
  | _ => none

theorem Replies.answer {me me' : Session} {after : After} {envelope : Envelope} {pc : Pc m}
    {f : RouterFrame m} (h : Replies me after envelope pc) (hout : pc.answer = some (me', f)) :
    me' = me ∧ f.envelope = envelope := by
  rcases h with ⟨g, rfl, hg⟩ | ⟨-, e, rfl⟩
  · obtain ⟨rfl, rfl⟩ := Prod.mk.inj (Option.some.inj hout)
    exact ⟨rfl, hg⟩
  · cases hout

theorem acceptsEnvelope_iff {me : Session} {envelope : Envelope} :
    acceptsEnvelope me envelope = true ↔ envelope.fromPeer = me.peerId ∧
      (envelope.kind = kindQuery ∨ envelope.kind = kindCall ∧ me.peerClass = .caller ∨
        (envelope.kind = kindResponse ∨ envelope.kind = kindError) ∧ me.peerClass = .service ∨
        envelope.kind = kindHeartbeat ∨ envelope.kind = kindDisconnect) := by
  unfold acceptsEnvelope
  simp only [Bool.and_eq_true, Bool.or_eq_true, beq_iff_eq, or_assoc]

/-- A frame that the loop accepts is not answered at once. -/
theorem answer_onFrame {me : Session} {parts : FrameParts}
    (h : acceptsEnvelope me parts.envelope = true) (now : Float64) (raw : Bytes) :
    (orLeave m (some me) (onFrame m now me raw parts)).answer = none := by
  obtain ⟨hsource, hkind⟩ := acceptsEnvelope_iff.mp h
  unfold onFrame
  dsimp only
  split_ifs with hfrom hquery hcall hresponse herror hheartbeat hdisconnect
  -- one case for each branch of the dispatch; an accepted frame gets past the class tests
  · exact absurd hsource hfrom
  · unfold handleQuery
    cases decodeQueryBody m parts.bodyBytes <;> rfl
  · unfold handleCall
    rw [hcall] at hkind
    have hcaller : me.peerClass = .caller := by simpa [kindCall, kindQuery, kindResponse, kindError,
      kindHeartbeat, kindDisconnect] using hkind
    rw [if_neg (not_not.mpr hcaller)]
    rfl
  · unfold handleResponse
    rw [hresponse] at hkind
    have hservice : me.peerClass = .service := by simpa [kindCall, kindQuery, kindResponse,
      kindError, kindHeartbeat, kindDisconnect] using hkind
    rw [if_neg (not_not.mpr hservice)]
    rfl
  · unfold handleError
    rw [herror] at hkind
    have hservice : me.peerClass = .service := by simpa [kindCall, kindQuery, kindResponse,
      kindError, kindHeartbeat, kindDisconnect] using hkind
    rw [if_neg (not_not.mpr hservice)]
    rfl
  · rfl
  · rfl
  · simp [hquery, hcall, hresponse, herror, hheartbeat, hdisconnect] at hkind

/-- Neither is any message the loop accepts. -/
theorem answer_onNext {me : Session} {next : Next} (h : acceptsMessage m me next = true)
    (now : Float64) : (onNext m now me next).answer = none := by
  unfold onNext
  split
  · rfl
  · rfl
  · rename_i raw
    unfold acceptsMessage at h
    unfold onBinary
    cases hdecoded : decodeFrame m raw with
    | error e => rfl
    | ok parts =>
      simp only [hdecoded] at h
      exact answer_onFrame h now raw
  · rfl
  · rfl
  · rfl
  · cases h
  · cases h

/-- The awaits after which a connection may have to send a frame to its peer. -/
def Pc.mayAnswer : Pc m → Bool
  | .insert .. | .loop _ | .lookup .. | .heartbeatTarget _ | .targetClass _ | .targetExists _
  | .targetSender _ | .evict .. | .disconnect .. => true
  | _ => false

theorem Step.mayAnswer {i : Input} {reg reg' : PeerRegistry} {pc pc' : Pc m}
    {evs : List (Event m)} (h : Step m i reg pc reg' pc' evs) {p : Session × RouterFrame m}
    (hout : pc'.answer = some p) : pc.mayAnswer = true := by
  cases h with
  | handshake hpc => obtain rfl | ⟨res, rfl⟩ := hpc <;> cases hout
  | first hpc => obtain ⟨e, b, rfl⟩ | ⟨f, rfl⟩ | ⟨res, rfl⟩ := hpc <;> cases hout
  | replied hpc => obtain ⟨-, rfl⟩ | ⟨-, rfl⟩ := hpc <;> cases hout
  | answered hpc =>
    obtain ⟨e, b, rfl⟩ | ⟨r, -, rfl | rfl | rfl | rfl⟩ := hpc <;> rfl
  | rejected | acked | ownSendFailed | marked | forwarded | forwardFailed | cleaned => cases hout
  | _ => rfl

/-- The acknowledgement of a registration is addressed to the new peer. -/
theorem toPeer_onInserted {now : Float64} {envelope : Envelope} {register : RegisterBody}
    {me : Session} {f : RouterFrame m}
    (hout : (onInserted m now envelope register).answer = some (me, f)) :
    f.envelope.toPeer = me.peerId := by
  unfold onInserted at hout
  rcases builds_sendRegisterAck (m := m) now envelope.msgId register with
    ⟨g, hg, henvelope⟩ | ⟨-, e, he⟩
  · rw [hg] at hout
    obtain ⟨rfl, rfl⟩ := Prod.mk.inj (Option.some.inj hout)
    rw [henvelope]
    rfl
  · rw [he] at hout
    cases hout

/-- What an await of a connection prepares for its own peer is addressed to it.  A send to another
peer that fails is followed by an error, hence the last hypothesis. -/
theorem toPeer_of_connStep {i : Input} {reg reg' : PeerRegistry} {pc pc' : Pc m}
    {evs : List (Event m)} (hguard : pc.routable i reg = true) (hmay : pc.mayAnswer = true)
    (hstep : connStep m i reg pc = some (reg', pc', evs)) (hevict : pc.evicting = none)
    {me : Session} {f : RouterFrame m} (hout : pc'.answer = some (me, f)) :
    f.envelope.toPeer = me.peerId := by
  cases pc with
  | insert envelope register =>
    simp only [connStep] at hstep
    split at hstep
    · simp only [Option.some.injEq, Prod.mk.injEq] at hstep
      obtain ⟨-, rfl, -⟩ := hstep
      exact toPeer_onInserted hout
    · simp only [Option.some.injEq, Prod.mk.injEq] at hstep
      obtain ⟨-, rfl, -⟩ := hstep
      rename_i peerId _
      obtain ⟨g, h⟩ | ⟨res, h⟩ := onDuplicate_cases (m := m) i.now envelope peerId <;>
        rw [h] at hout <;> cases hout
    · simp only [Option.some.injEq, Prod.mk.injEq] at hstep
      obtain ⟨-, rfl, -⟩ := hstep
      cases hout
  | loop me' =>
    simp only [connStep, Option.some.injEq, Prod.mk.injEq] at hstep
    obtain ⟨-, rfl, -⟩ := hstep
    rw [answer_onNext hguard] at hout
    cases hout
  | lookup me' envelope body =>
    simp only [connStep, Option.some.injEq, Prod.mk.injEq] at hstep
    obtain ⟨-, rfl, -⟩ := hstep
    obtain ⟨rfl, henvelope⟩ := (replies_onLookup me' envelope body _).answer hout
    rw [henvelope]
  | heartbeatTarget r =>
    simp only [connStep, Option.some.injEq, Prod.mk.injEq] at hstep
    obtain ⟨-, rfl, -⟩ := hstep
    cases hexist : reg.snapshotPeerExists r.envelope.toPeer with
    | true =>
      rw [hexist] at hout
      cases hout
    | false =>
      rw [hexist] at hout
      obtain ⟨rfl, henvelope⟩ := (replies_onHeartbeatTarget r).answer hout
      rw [henvelope]
      rfl
  -- the three lookups of a target reject the frame unless they find one
  | targetClass r =>
    simp only [connStep, Option.some.injEq, Prod.mk.injEq] at hstep
    obtain ⟨-, rfl, -⟩ := hstep
    unfold onTargetClass at hout
    rw [beq_iff_eq.mp hguard] at hout
    cases hout
  | targetExists r =>
    simp only [connStep, Option.some.injEq, Prod.mk.injEq] at hstep
    obtain ⟨-, rfl, -⟩ := hstep
    change reg.snapshotPeerExists r.envelope.toPeer = true at hguard
    unfold onTargetExists at hout
    rw [if_pos hguard] at hout
    cases hout
  | targetSender r =>
    simp only [connStep, Option.some.injEq, Prod.mk.injEq] at hstep
    obtain ⟨-, rfl, -⟩ := hstep
    obtain ⟨sink, hsink⟩ := Option.isSome_iff_exists.mp hguard
    rw [hsink] at hout
    cases hout
  | evict r target => cases hevict
  | disconnect me' envelope =>
    simp only [connStep, Option.some.injEq, Prod.mk.injEq] at hstep
    obtain ⟨-, rfl, -⟩ := hstep
    obtain ⟨rfl, henvelope⟩ := (replies_onDisconnected me' envelope).answer hout
    rw [henvelope]
    rfl
  | _ => cases hmay

/-- No connection has to report a failed send. -/
theorem evicting_of_step {i : Input} {reg reg' : PeerRegistry} {pc pc' : Pc m}
    {evs : List (Event m)} (hguard : pc.routable i reg = true)
    (hstep : Step m i reg pc reg' pc' evs) : pc'.evicting = none := by
  cases hevict : pc'.evicting with
  | none => rfl
  | some p =>
    have hholds : pc'.holdsFrame = true := by
      cases pc' <;> cases hevict
      rfl
    cases hstep.routing hholds with
    | forwardFailed hok => exact absurd (hok.symm.trans hguard) (by decide)
    | routed _ h => obtain ⟨rfl, -⟩ | ⟨rfl, -⟩ | ⟨rfl, -⟩ := h <;> cases hevict
    | _ => cases hevict

/-! ### The invariant -/

/-- What every connection is about to send to its peer is addressed to it, and no failed send is to
be reported. -/
def AnswersAddressed (s : State m) : Prop :=
  ∀ c, (s.conns c).evicting = none ∧
    ∀ me f, (s.conns c).answer = some (me, f) → f.envelope.toPeer = me.peerId

theorem answersAddressed {s : State m} {tr : List (Event m)} (h : (serve m).Run Routable s tr) :
    AnswersAddressed s := by
  refine h.invariant (P := fun s _ => AnswersAddressed s) ?_ ?_
  · intro c
    refine ⟨rfl, fun me f hout => ?_⟩
    cases hout
  · intro s s' tr evs i _ hguard hs ih c
    by_cases hc : i.conn = c
    · subst hc
      obtain ⟨pc, hstep, hconns⟩ := step_of_serve hs
      refine ⟨?_, fun me f hout => ?_⟩
      · rw [hconns, Function.update_self]
        exact evicting_of_step hguard hstep
      · have hmay : (s.conns i.conn).mayAnswer = true := by
          rw [hconns, Function.update_self] at hout
          exact hstep.mayAnswer hout
        exact toPeer_of_connStep hguard hmay (connStep_of_serve hs) (ih i.conn).1 hout
    · rw [(step_of_ne hs hc).1]
      exact ih c

/-- A frame of the router is written to the connection's own sink. -/
theorem Step.generated_cases {i : Input} {reg reg' : PeerRegistry} {pc pc' : Pc m}
    {evs : List (Event m)} (h : Step m i reg pc reg' pc' evs) {c : ConnId} {sink : PeerSender}
    {f : RouterFrame m} (hmem : .wrote c sink (.generated f) ∈ evs) :
    sink = i.conn ∧ evs = [.wrote c sink (.generated f)] ∧
      (pc = .reject f ∨ ∃ me, pc.session = some me ∧ pc.answer = some (me, f)) := by
  cases h with
  | rejected hevs =>
    rcases hevs with rfl | rfl
    · simp only [List.mem_singleton, Event.wrote.injEq, Outbound.generated.injEq] at hmem
      obtain ⟨rfl, rfl, rfl⟩ := hmem
      exact ⟨rfl, rfl, Or.inl rfl⟩
    · simp at hmem
  | acked | replied =>
    simp only [List.mem_singleton, Event.wrote.injEq, Outbound.generated.injEq] at hmem
    obtain ⟨rfl, rfl, rfl⟩ := hmem
    exact ⟨rfl, rfl, Or.inr ⟨_, rfl, rfl⟩⟩
  | first | message =>
    unfold receivedEvent at hmem
    split at hmem <;> simp at hmem
  | _ => simp at hmem

/-! ### Answers are addressed to their receiver -/

/-- Every frame the router generates and writes to the sink of a connection that is registered comes
from the router and is addressed to the id of the registration. -/
def RepliesAddressed (tr : List (Event m)) : Prop :=
  Historic (fun before ev => ∀ c sink f, ev = .wrote c sink (.generated f) → ∀ e b,
    .registered sink e b ∈ before →
      f.envelope.fromPeer = routerPeerId ∧ f.envelope.toPeer = b.peerId) tr

/-- **Answers are addressed to their receiver**, in every run in which no frame of a registered
connection is rejected. -/
theorem replies_addressed {s : State m} {tr : List (Event m)}
    (h : (serve m).Run Routable s tr) : RepliesAddressed tr := by
  refine h.invariant (P := fun _ tr => RepliesAddressed tr) historic_nil ?_
  intro s s' tr evs i hrun _ hs ih
  obtain ⟨pc, hstep, -⟩ := step_of_serve hs
  refine historic_append ih ?_
  rintro before ev after hevs c sink f rfl e b hregistered
  have hmem : .wrote c sink (.generated f) ∈ evs := by rw [hevs]; simp
  obtain ⟨rfl, hsingle, hcases⟩ := hstep.generated_cases hmem
  have hbefore : before = [] := by
    rw [hsingle] at hevs
    cases before with
    | nil => rfl
    | cons x xs => simp at hevs
  rw [hbefore, List.append_nil] at hregistered
  refine ⟨f.fromRouter, ?_⟩
  -- the connection is still in the session of that registration
  have hsession : (s.conns i.conn).session = some ⟨b.peerId, b.peerClass⟩ := by
    rcases registrationsKept hrun.reachable i.conn e b hregistered with hsession | hreturned
    · exact hsession
    · rw [hstep.running] at hreturned
      cases hreturned
  rcases hcases with hreject | ⟨me, hme, hout⟩
  · rw [hreject] at hsession
    cases hsession
  · rw [hme] at hsession
    obtain rfl := Option.some.inj hsession
    exact (answersAddressed hrun i.conn).2 _ f hout

/-- A caller gets its answers: the acknowledgement, the echo of a heartbeat and the answer to a
disconnect. -/
theorem replies_addressed_of_heartbeat : ∃ s tr, (serve msgPackSerde).Run Routable s tr ∧
    (writesBy 0 tr).length = 3 ∧ RepliesAddressed tr := by
  obtain ⟨s, tr, hrun, hp⟩ := (serve msgPackSerde).exists_run_of_exec Routable
    (join 0 "a" .caller ++ [recv 0 (plainBytes "heartbeat" "a" "router"), go 0, go 0, go 0,
      recv 0 (plainBytes "disconnect" "a" "router"), go 0, go 0, go 0])
    (fun _ tr => (writesBy 0 tr).length == 3) (by decide +kernel)
  exact ⟨s, tr, hrun, beq_iff_eq.mp hp, replies_addressed hrun⟩

/-- The last event writes a frame to a connection whose id it does not carry. -/
def lastMisaddressed (tr : List (Event m)) : Bool :=
  match tr.reverse with
  | .wrote _ sink (.generated f) :: before => before.any fun
    | .registered c _ b => c == sink && f.envelope.toPeer != b.peerId
    | _ => false
  | _ => false

theorem not_repliesAddressed_of_last {tr : List (Event m)} (h : lastMisaddressed tr = true) :
    ¬ RepliesAddressed tr := by
  unfold lastMisaddressed at h
  split at h
  · rename_i c sink f before hreverse
    obtain ⟨ev, hmem, hev⟩ := List.any_eq_true.mp h
    cases ev with
    | registered c' e b =>
      simp only [Bool.and_eq_true, beq_iff_eq, bne_iff_ne] at hev
      obtain ⟨rfl, hto⟩ := hev
      intro haddressed
      have htr : tr = before.reverse ++ [.wrote c c' (.generated f)] := by
        rw [← List.reverse_reverse tr, hreverse, List.reverse_cons]
      exact hto (haddressed before.reverse _ [] htr c c' f rfl e b (List.mem_reverse.mpr hmem)).2
    | _ => cases hev
  · cases h

/-- A caller that calls nobody gets an error addressed to the router. -/
theorem error_misaddressed :
    ¬ ∀ s tr, (serve msgPackSerde).Reachable s tr → RepliesAddressed tr := by
  obtain ⟨s, tr, hrun, hp⟩ := (serve msgPackSerde).exists_reachable_of_exec
    (join 0 "a" .caller ++ [recv 0 (callBytes "a" "b"), go 0, go 0])
    (fun _ tr => lastMisaddressed tr) (by decide +kernel)
  intro h
  exact not_repliesAddressed_of_last hp (h s tr hrun)

end Multifrost.Router
