import Multifrost.Bindings.Split
import Multifrost.Php.Transport

/-!
# Answers and questions on a PHP transport

`call` skips the frames that are not its own.  A query takes the next frame: a late or unsolicited
one becomes its answer, and the answer that it should have had becomes that of the next query.  The
operations of a run have the answers that belong to them exactly when each query finds its own frame
next.
-/

namespace Multifrost.Php.PeerTransport

open MsgPack (Value)
open Router (FrameParts kindError)

variable (l : Libraries)

/-! ### Answers that belong to their questions -/

/-- What an operation makes of the frame that answers it. -/
def answer (request : Request) (frame : FrameParts) : Except Exception Answer :=
  match request with
  | .call .. => (callAnswer l frame).map .result
  | .queryExists _ | .queryGet _ => (queryAnswer l frame).map .peer

/-- The operation returns, or throws a router error or a remote error, or what the language throws at
an answer. -/
def answers {α : Type} : Except Exception α → Bool
  | .ok _ => true
  | .error (.multifrost _) | .error (.conversion _) => true
  | .error (.transportError _) | .error (.registrationError _) | .error (.undecodable _)
  | .error (.library _) => false

/-- The operation has its answer from the first frame with the message id that it sent: it has read
that frame and those before it. -/
def AnswersOwn (e : Ended) : Prop :=
  answers e.outcome = true → ∃ outgoing skipped content frame,
    e.sent = some outgoing ∧ e.consumed = skipped ++ [.message content] ∧
    decodeFrame l.msgpack content = .ok frame ∧ frame.envelope.msgId = outgoing.msgId ∧
    (∀ received ∈ skipped, ∀ frame, frameOf l received = .ok frame →
      frame.envelope.msgId ≠ outgoing.msgId) ∧
    e.outcome = answer l e.request frame

/-- Each operation reads on where the one before it stopped, and its answer belongs to it. -/
def AnswersBelong (inbound : List Received) (s : State) (tr : List Ended) : Prop :=
  inbound = (tr.map Ended.consumed).flatten ++ s.inbound ∧ ∀ e ∈ tr, AnswersOwn l e

def Sends.isOk : Sends → Bool
  | .ok => true
  | .encodeFails _ | .writeFails _ => false

/-- A frame that a query finds next, with a body that can be decoded, has its message id. -/
def InTurn (s : State) (i : Input) : Prop :=
  i.request.isQuery = true → i.sends.isOk = true → s.closed = false →
    ∀ received ∈ s.inbound.head?, ∀ frame ∈ (frameOf l received).toOption,
      (l.decode frame.bodyBytes).isOk = true → frame.envelope.msgId = i.msgId

instance (s : State) (i : Input) : Decidable (InTurn l s i) :=
  inferInstanceAs (Decidable (_ = _ → _ = _ → _ = _ → ∀ received ∈ _, ∀ frame ∈ _, _ = _ → _ = _))

variable {l}

/-! ### How an operation ends -/

inductive Ends (l : Libraries) (i : Input) (s : State) : Done Answer → Prop
  /-- nothing is sent -/
  | unsent {exception : Exception} {s' : State} (hinbound : s'.inbound = s.inbound)
      (hexception : answers (.error exception : Except Exception Answer) = false)
      (hturn : i.sends.isOk = false ∨ s.closed = true) :
      Ends l i s ⟨.error exception, none, s'⟩
  /-- `readOneFrame` throws -/
  | failed {outgoing : Outgoing} {skipped rest : List Received} {received : Received}
      {exception : Exception} {s' : State}
      (hinbound : s.inbound = skipped ++ received :: rest) (hrest : s'.inbound = rest)
      (hframe : frameOf l received = .error exception)
      (hquery : i.request.isQuery = true → skipped = []) :
      Ends l i s ⟨.error exception, some outgoing, s'⟩
  | answered {outgoing : Outgoing} {skipped rest : List Received} {received : Received}
      {frame : FrameParts} {s' : State}
      (hmsgId : outgoing.msgId = i.msgId)
      (hinbound : s.inbound = skipped ++ received :: rest) (hrest : s'.inbound = rest)
      (hframe : frameOf l received = .ok frame)
      (hskipped : ∀ received ∈ skipped, ∀ frame, frameOf l received = .ok frame →
        frame.envelope.msgId ≠ i.msgId)
      (hquery : i.request.isQuery = true →
        skipped = [] ∧ i.sends.isOk = true ∧ s.closed = false)
      (hcall : i.request.isQuery = false → frame.envelope.msgId = i.msgId) :
      Ends l i s ⟨answer l i.request frame, some outgoing, s'⟩

theorem send_cases (sends : Sends) (s : State) :
    ((∃ exception s', send sends s = (.error exception, s') ∧ s'.inbound = s.inbound ∧
      answers (.error exception : Except Exception Answer) = false) ∧
        (sends.isOk = false ∨ s.closed = true)) ∨
    send sends s = (.ok (), s) ∧ sends.isOk = true ∧ s.closed = false := by
  cases sends with
  | encodeFails message => exact Or.inl ⟨⟨_, _, rfl, rfl, rfl⟩, Or.inl rfl⟩
  | ok =>
    unfold send writeBinary
    dsimp only
    split_ifs with hclosed
    · exact Or.inl ⟨⟨_, _, rfl, rfl, rfl⟩, Or.inr hclosed⟩
    · exact Or.inr ⟨rfl, rfl, eq_false_of_ne_true hclosed⟩
  | writeFails message =>
    left
    refine ⟨?_, Or.inl rfl⟩
    unfold send writeBinary
    dsimp only
    split_ifs with hclosed
    · exact ⟨_, _, rfl, rfl, rfl⟩
    · refine ⟨_, _, rfl, ?_, rfl⟩
      unfold close
      rw [if_neg hclosed]

/-- The loop of `call` stops at the first frame with the message id, if none before it fails. -/
theorem awaitReply_cases {msgId : String} {s : State} :
    ∀ {inbound : List Received} {r : Except Exception FrameParts × State},
      awaitReply l msgId s inbound = some r →
      ∃ skipped received rest s', inbound = skipped ++ received :: rest ∧ s'.inbound = rest ∧
        (∀ received ∈ skipped, ∀ frame, frameOf l received = .ok frame →
          frame.envelope.msgId ≠ msgId) ∧
        ((∃ exception, frameOf l received = .error exception ∧ r = (.error exception, s')) ∨
        ∃ frame, frameOf l received = .ok frame ∧ frame.envelope.msgId = msgId ∧
          r = (.ok frame, s')) := by
  intro inbound
  induction inbound with
  | nil =>
    intro r h
    cases h
  | cons received rest ih =>
    intro r h
    unfold awaitReply at h
    cases hframe : frameOf l received with
    | error exception =>
      rw [hframe] at h
      cases h
      exact ⟨[], received, rest, _, rfl, rfl, fun _ hmem => absurd hmem List.not_mem_nil,
        Or.inl ⟨_, hframe, rfl⟩⟩
    | ok frame =>
      rw [hframe] at h
      dsimp only at h
      split_ifs at h with hmsgId
      · -- the frame is skipped
        obtain ⟨skipped, last, rest', s', rfl, hrest, hskipped, hlast⟩ := ih h
        refine ⟨received :: skipped, last, rest', s', rfl, hrest, ?_, hlast⟩
        intro other hmem frame' hframe'
        rcases List.mem_cons.mp hmem with heq | hmem
        · rw [heq, hframe] at hframe'
          cases hframe'
          exact hmsgId
        · exact hskipped other hmem frame' hframe'
      · cases h
        exact ⟨[], received, rest, _, rfl, rfl, fun _ hmem => absurd hmem List.not_mem_nil,
          Or.inr ⟨frame, hframe, not_not.mp hmsgId, rfl⟩⟩

theorem readOneFrame_cases {s : State} {r : Except Exception FrameParts × State}
    (h : readOneFrame l s = some r) :
    ∃ received, s.inbound = received :: r.2.inbound ∧ r.1 = frameOf l received := by
  unfold readOneFrame at h
  cases hinbound : s.inbound with
  | nil =>
    rw [hinbound] at h
    cases h
  | cons received rest =>
    rw [hinbound] at h
    cases h
    exact ⟨received, rfl, rfl⟩

theorem exchange_cases {α : Type} {outgoing : Outgoing}
    {read : State → Option (Except Exception FrameParts × State)}
    {f : FrameParts → Except Exception α} {sends : Sends} {s : State} {done : Done α}
    (h : exchange outgoing read f sends s = some done) :
    (∃ exception s', done = ⟨.error exception, none, s'⟩ ∧ s'.inbound = s.inbound ∧
      answers (.error exception : Except Exception Answer) = false ∧
      (sends.isOk = false ∨ s.closed = true)) ∨
    sends.isOk = true ∧ s.closed = false ∧
      ∃ r, read s = some r ∧ done = ⟨r.1.bind f, some outgoing, r.2⟩ := by
  unfold exchange at h
  rcases send_cases sends s with
    ⟨⟨exception, s', hsend, hinbound, hnot⟩, hturn⟩ | ⟨hsend, hok, hopen⟩
  · rw [hsend] at h
    cases h
    exact Or.inl ⟨exception, s', rfl, hinbound, hnot, hturn⟩
  · rw [hsend] at h
    obtain ⟨r, hread, rfl⟩ := Option.map_eq_some_iff.mp h
    exact Or.inr ⟨hok, hopen, r, hread, rfl⟩

theorem answer_of_isQuery {request : Request} (h : request.isQuery = true) (frame : FrameParts) :
    answer l request frame = (queryAnswer l frame).map .peer := by
  cases request with
  | call => cases h
  | queryExists => rfl
  | queryGet => rfl

/-- A query reads one frame. -/
theorem ends_of_query {name peerId : String} {i : Input} {s : State} {done : Done QueryResponseBody}
    (hquery : i.request.isQuery = true)
    (h : query l name peerId i.msgId i.sends s = some done) : Ends l i s (done.map .peer) := by
  rcases exchange_cases h with
    ⟨exception, s', rfl, hinbound, hnot, hturn⟩ | ⟨hok, hopen, r, hread, rfl⟩
  · exact .unsent hinbound hnot hturn
  · obtain ⟨result, s'⟩ := r
    obtain ⟨received, hinbound, hresult⟩ := readOneFrame_cases hread
    dsimp only at hinbound hresult
    have hinbound : s.inbound = [] ++ received :: s'.inbound := hinbound
    cases hframe : frameOf l received with
    | error exception =>
      rw [hframe] at hresult
      subst hresult
      exact .failed hinbound rfl hframe fun _ => rfl
    | ok frame =>
      rw [hframe] at hresult
      subst hresult
      have hends : ∀ outgoing : Outgoing, outgoing.msgId = i.msgId →
          Ends l i s ⟨(queryAnswer l frame).map .peer, some outgoing, s'⟩ := by
        intro outgoing hmsgId
        rw [← answer_of_isQuery hquery]
        refine .answered hmsgId hinbound rfl hframe
          (fun _ hmem => absurd hmem List.not_mem_nil) (fun _ => ⟨rfl, hok, hopen⟩) fun hcall => ?_
        rw [hquery] at hcall
        cases hcall
      exact hends _ rfl

theorem ends_of_operate {i : Input} {s : State} {done : Done Answer}
    (h : operate l i s = some done) : Ends l i s done := by
  obtain ⟨request, msgId, sends⟩ := i
  cases request with
  | call targetPeerId function args =>
    obtain ⟨done, hcall, rfl⟩ := Option.map_eq_some_iff.mp h
    rcases exchange_cases hcall with
      ⟨exception, s', rfl, hinbound, hnot, hturn⟩ | ⟨-, -, r, hread, rfl⟩
    · exact .unsent hinbound hnot hturn
    · obtain ⟨skipped, received, rest, s', hinbound, hrest, hskipped, hlast⟩ :=
        awaitReply_cases hread
      rcases hlast with ⟨exception, hframe, rfl⟩ | ⟨frame, hframe, hmsgId, rfl⟩
      · exact .failed hinbound hrest hframe fun hquery => by cases hquery
      · exact .answered (i := ⟨.call targetPeerId function args, msgId, sends⟩) rfl hinbound hrest
          hframe hskipped (fun hquery => by cases hquery) fun _ => hmsgId
  | queryExists peerId =>
    obtain ⟨done, hquery, rfl⟩ := Option.map_eq_some_iff.mp h
    exact ends_of_query (i := ⟨.queryExists peerId, msgId, sends⟩) rfl hquery
  | queryGet peerId =>
    obtain ⟨done, hquery, rfl⟩ := Option.map_eq_some_iff.mp h
    exact ends_of_query (i := ⟨.queryGet peerId, msgId, sends⟩) rfl hquery

/-! ### Steps -/

section Answering

variable {α β : Type} {x : Except Exception α}

theorem answers_bind {f : α → Except Exception β} (hx : answers x = true)
    (hf : ∀ a, answers (f a) = true) : answers (x.bind f) = true := by
  cases x with
  | error exception => cases exception <;> exact hx
  | ok a => exact hf a

theorem answers_map (f : α → β) : answers (x.map f) = answers x := by
  cases x with
  | error exception => cases exception <;> rfl
  | ok a => rfl

theorem answers_toText (value : Value) : answers (toText l value) = true := by
  cases value <;> rfl

theorem answers_toTextSet (value : Option Value) : answers (toTextSet l value) = true := by
  cases value with
  | none => rfl
  | some value => exact (answers_map some).trans (answers_toText value)

end Answering

/-- Of a body that is decoded, an error frame makes an answer. -/
theorem answers_throwWire {α : Type} {bodyBytes : Bytes} {decoded : Value}
    (h : l.decode bodyBytes = .ok decoded) :
    answers (throwWire l bodyBytes : Except Exception α) = true := by
  have hdecode : decodeBody l bodyBytes = .ok decoded := by
    rw [decodeBody, h]
    rfl
  refine answers_bind ?_ fun body => rfl
  unfold decodeErrorBody
  rw [hdecode]
  dsimp only [bind, Except.bind]
  split_ifs
  · refine answers_bind (answers_toText _) fun code => ?_
    refine answers_bind (answers_toText _) fun message => ?_
    refine answers_bind (answers_toText _) fun kind => ?_
    exact answers_bind (answers_toTextSet _) fun stack => rfl
  · rfl

/-- What a query makes of a frame is an answer if the body can be decoded. -/
theorem answers_queryAnswer (frame : FrameParts) :
    answers ((queryAnswer l frame).map Answer.peer) = (l.decode frame.bodyBytes).isOk := by
  rw [answers_map]
  unfold queryAnswer
  cases hdecode : l.decode frame.bodyBytes with
  | error message =>
    unfold throwWire decodeErrorBody decodeBody
    rw [hdecode]
    split_ifs <;> rfl
  | ok decoded =>
    split_ifs with hkind
    · exact answers_throwWire hdecode
    · unfold decodeBody
      rw [hdecode]
      dsimp only [Except.mapError, bind, Except.bind]
      split_ifs
      · refine answers_bind (answers_toText _) fun peerId => ?_
        exact answers_bind (answers_toTextSet _) fun peerClass => rfl
      · rfl

theorem frame_of_frameOf {received : Received} {frame : FrameParts}
    (h : frameOf l received = .ok frame) :
    ∃ content, received = .message content ∧ decodeFrame l.msgpack content = .ok frame := by
  cases received with
  | exception message staysOpen => cases h
  | message content =>
    refine ⟨content, rfl, ?_⟩
    unfold frameOf at h
    dsimp only at h
    cases hframe : decodeFrame l.msgpack content with
    | error message =>
      rw [hframe] at h
      cases h
    | ok frame' =>
      rw [hframe] at h
      cases h
      rfl

theorem answers_of_frameOf_error {received : Received} {exception : Exception}
    (h : frameOf l received = .error exception) :
    answers (.error exception : Except Exception Answer) = false := by
  cases received with
  | exception message staysOpen =>
    cases h
    rfl
  | message content =>
    unfold frameOf at h
    dsimp only at h
    cases hframe : decodeFrame l.msgpack content with
    | error message =>
      rw [hframe] at h
      cases h
      rfl
    | ok frame' =>
      rw [hframe] at h
      cases h

/-- The event of an operation that ends so. -/
def ended (i : Input) (s : State) (done : Done Answer) : Ended where
  request := i.request
  sent := done.sent
  consumed := s.inbound.take (s.inbound.length - done.state.inbound.length)
  outcome := done.outcome

theorem consumed_append {α : Type} (skipped rest : List α) (last : α) :
    (skipped ++ last :: rest).take ((skipped ++ last :: rest).length - rest.length) =
      skipped ++ [last] := by
  have hsplit : skipped ++ last :: rest = (skipped ++ [last]) ++ rest := by
    rw [List.append_assoc, List.singleton_append]
  rw [hsplit, List.length_append, Nat.add_sub_cancel]
  exact List.take_left

/-- An operation reads from the front. -/
theorem Ends.consumed {i : Input} {s : State} {done : Done Answer} (h : Ends l i s done) :
    s.inbound = (ended i s done).consumed ++ done.state.inbound := by
  cases h with
  | unsent hinbound =>
    dsimp only [ended]
    rw [hinbound, Nat.sub_self, List.take_zero, List.nil_append]
  | failed hinbound hrest =>
    dsimp only [ended]
    rw [hinbound, hrest, consumed_append, List.append_assoc, List.singleton_append]
  | answered _ hinbound hrest =>
    dsimp only [ended]
    rw [hinbound, hrest, consumed_append, List.append_assoc, List.singleton_append]

/-- What an operation has consumed when it has its answer. -/
theorem consumed_answered {i : Input} {s : State} {outcome : Except Exception Answer}
    {outgoing : Outgoing} {skipped rest : List Received} {received : Received} {s' : State}
    (hinbound : s.inbound = skipped ++ received :: rest) (hrest : s'.inbound = rest) :
    (ended i s ⟨outcome, some outgoing, s'⟩).consumed = skipped ++ [received] := by
  dsimp only [ended]
  rw [hinbound, hrest]
  exact consumed_append skipped rest _

/-- An operation that answers its own question was in turn. -/
theorem Ends.inTurn {i : Input} {s : State} {done : Done Answer} (h : Ends l i s done)
    (hown : AnswersOwn l (ended i s done)) : InTurn l s i := by
  cases h with
  | unsent hinbound hnot hturn =>
    intro _ hok hopen
    rw [hok, hopen] at hturn
    rcases hturn with hturn | hturn <;> cases hturn
  | failed hinbound _ hframe hquery =>
    intro hisQuery _ _ received hmem frame hmem'
    rw [hinbound, hquery hisQuery] at hmem
    cases hmem
    rw [hframe] at hmem'
    cases hmem'
  | @answered outgoing skipped rest received frame _ hmsgId hinbound hrest hframe hskipped hquery
      hcall =>
    obtain ⟨content, rfl, hdecode⟩ := frame_of_frameOf hframe
    intro hisQuery _ _ received hmem frame' hmem' hdecodes
    obtain ⟨rfl, -, -⟩ := hquery hisQuery
    have hfirst := hinbound
    rw [hinbound] at hmem
    cases hmem
    rw [hframe] at hmem'
    cases hmem'
    have hanswers : answers (answer l i.request frame) = true := by
      rw [answer_of_isQuery hisQuery, answers_queryAnswer]
      exact hdecodes
    obtain ⟨outgoing', skipped, content', frame', hsent, hread, hdecode', hasked, -⟩ :=
      hown hanswers
    -- there is only one frame that it has read
    rw [consumed_answered hfirst hrest] at hread
    have hlast : [Received.message content] = [.message content'] :=
      (List.append_inj' hread rfl).2
    cases hlast
    rw [hdecode] at hdecode'
    cases hdecode'
    cases hsent
    rw [hasked, hmsgId]

/-- An operation that is in turn answers its own question. -/
theorem Ends.answersOwn {i : Input} {s : State} {done : Done Answer} (h : Ends l i s done)
    (hturn : InTurn l s i) : AnswersOwn l (ended i s done) := by
  cases h with
  | unsent hinbound hnot hturn =>
    intro hanswers
    have hanswers : answers (.error _ : Except Exception Answer) = true := hanswers
    rw [hnot] at hanswers
    cases hanswers
  | failed hinbound _ hframe hquery =>
    intro hanswers
    have hanswers : answers (.error _ : Except Exception Answer) = true := hanswers
    rw [answers_of_frameOf_error hframe] at hanswers
    cases hanswers
  | @answered outgoing skipped rest received frame _ hmsgId hinbound hrest hframe hskipped hquery
      hcall =>
    obtain ⟨content, rfl, hdecode⟩ := frame_of_frameOf hframe
    intro hanswers
    have hown : frame.envelope.msgId = i.msgId := by
      by_cases hisQuery : i.request.isQuery = true
      · obtain ⟨rfl, hok, hopen⟩ := hquery hisQuery
        refine hturn hisQuery hok hopen (.message content) ?_ frame ?_ ?_
        · rw [hinbound]
          exact rfl
        · rw [hframe]
          exact rfl
        · have hanswers : answers (answer l i.request frame) = true := hanswers
          rw [answer_of_isQuery hisQuery, answers_queryAnswer] at hanswers
          exact hanswers
      · exact hcall (eq_false_of_ne_true hisQuery)
    refine ⟨outgoing, skipped, content, frame, rfl, consumed_answered hinbound hrest, hdecode, ?_, ?_,
      rfl⟩
    · rw [hown, hmsgId]
    · rw [hmsgId]
      exact hskipped

/-- **One operation** has the answer that belongs to it exactly when it is in turn. -/
theorem Ends.answersOwn_iff {i : Input} {s : State} {done : Done Answer} (h : Ends l i s done) :
    AnswersOwn l (ended i s done) ↔ InTurn l s i :=
  ⟨h.inTurn, h.answersOwn⟩

/-! ### Runs -/

theorem ends_of_step {inbound : List Received} {i : Input} {s s' : State} {evs : List Ended}
    (hs : (transport l inbound).step i s = some (s', evs)) :
    ∃ done, Ends l i s done ∧ s' = done.state ∧ evs = [ended i s done] := by
  obtain ⟨done, hdone, heq⟩ := Option.map_eq_some_iff.mp hs
  cases heq
  exact ⟨done, ends_of_operate hdone, rfl, rfl⟩

/-- **Answers belong to their questions** in a run exactly when every query of it finds its own
frame next. -/
theorem answers_belong_iff {inbound : List Received} {s : State} {tr : List Ended}
    (h : (transport l inbound).Reachable s tr) :
    (transport l inbound).Run (fun s _ i => InTurn l s i) s tr ↔ AnswersBelong l inbound s tr := by
  have hread : inbound = (tr.map Ended.consumed).flatten ++ s.inbound := by
    refine TransitionSystem.Reachable.invariant
      (P := fun s tr => inbound = (tr.map Ended.consumed).flatten ++ s.inbound) rfl ?_ h
    intro s s' tr evs i _ hs ih
    obtain ⟨done, hends, rfl, rfl⟩ := ends_of_step hs
    rw [List.map_append, List.map_singleton, List.flatten_append, List.flatten_singleton,
      List.append_assoc, ← hends.consumed]
    exact ih
  constructor
  · intro hrun
    refine ⟨hread, TransitionSystem.Run.forall_mem ?_ hrun⟩
    intro s s' tr evs i _ hc hs e he
    obtain ⟨done, hends, rfl, rfl⟩ := ends_of_step hs
    rw [List.mem_singleton.mp he]
    exact hends.answersOwn_iff.mpr hc
  · rintro ⟨-, hown⟩
    clear hread
    -- what the run has done so far was in turn, and so is its last step
    induction h with
    | init => exact .init
    | step h _ hs ih =>
      obtain ⟨done, hends, rfl, rfl⟩ := ends_of_step hs
      have hturn := hends.answersOwn_iff.mp
        (hown _ (List.mem_append_right _ (List.mem_singleton.mpr rfl)))
      exact (ih fun e he => hown e (List.mem_append_left _ he)).step hturn hs

section Sample

open Router (kindHeartbeat kindResponse msgPackSerde)

/-- The library of the samples; no other value is cast to a string here. -/
def localLibraries : Libraries where
  msgpack := Bindings.rmpMsgpack msgPackSerde
  decode bytes := (MsgPack.fromSlice bytes).elim (.error "invalid msgpack document") .ok
  castOther _ := "Array"

/-- A frame for the caller. -/
def arrives (kind msgId fromPeer : String) (body : Value) : Received :=
  .message (Router.frameBytes (Router.buildEnvelope kind msgId fromPeer "caller" .one)
    (MsgPack.encode body))

/-- The answer to a query. -/
def found (msgId : String) : Received :=
  arrives kindResponse msgId "router"
    (Router.queryResponseValue "service" true (some .service) true)

/-- A heartbeat of another peer. -/
def heartbeat : Received := arrives kindHeartbeat "h" "other" (.map [])

def localTransport (inbound : List Received) : TransitionSystem State Input Ended :=
  transport localLibraries inbound

/-- The answer to a query, a heartbeat and the answer to a call. -/
def threeFrames : List Received :=
  [found "q", heartbeat, arrives kindResponse "c" "service" (.map [])]

/-- A query and a call, which skips the heartbeat. -/
theorem answers_belong_of_call : ∃ s tr,
    (localTransport threeFrames).Run (fun s _ i => InTurn localLibraries s i) s tr ∧
    tr.length = 2 ∧ AnswersBelong localLibraries threeFrames s tr := by
  obtain ⟨s, tr, hrun, hp⟩ := TransitionSystem.exists_run_of_exec (localTransport threeFrames)
    (fun s _ i => InTurn localLibraries s i)
    [⟨.queryExists "service", "q", .ok⟩, ⟨.call "service" "add" [], "c", .ok⟩]
    (fun _ tr => tr.length = 2) (by decide +kernel)
  exact ⟨s, tr, hrun, of_decide_eq_true hp, (answers_belong_iff hrun.reachable).mp hrun⟩

/-- The message id of the last frame that the operation has read. -/
def lastMsgId (e : Ended) : Option String :=
  (e.consumed.getLast?.bind fun received => (frameOf localLibraries received).toOption).map
    fun frame => frame.envelope.msgId

theorem AnswersOwn.lastMsgId {e : Ended} (h : AnswersOwn localLibraries e)
    (hanswers : answers e.outcome = true) : lastMsgId e = e.sent.map Outgoing.msgId := by
  obtain ⟨outgoing, skipped, content, frame, hsent, hconsumed, hdecode, hmsgId, -⟩ := h hanswers
  have hframe : frameOf localLibraries (.message content) = .ok frame := by
    unfold frameOf
    dsimp only
    rw [hdecode]
  unfold PeerTransport.lastMsgId
  rw [hconsumed, hsent, List.getLast?_concat, Option.bind_some, hframe]
  exact congrArg some hmsgId

/-- A heartbeat comes before the answer: the query takes it for its own. -/
theorem answered_by_heartbeat :
    ¬ ∀ s tr, (localTransport [heartbeat, found "q"]).Reachable s tr →
      AnswersBelong localLibraries [heartbeat, found "q"] s tr := by
  obtain ⟨s, tr, hrun, hp⟩ := TransitionSystem.exists_reachable_of_exec
    (localTransport [heartbeat, found "q"]) [⟨.queryExists "service", "q", .ok⟩]
    (fun _ tr => tr.any fun e => answers e.outcome && lastMsgId e != e.sent.map Outgoing.msgId)
    (by decide +kernel)
  obtain ⟨e, hmem, he⟩ := List.any_eq_true.mp hp
  obtain ⟨hanswers, hne⟩ := Bool.and_eq_true_iff.mp he
  intro h
  have hlast := ((h s tr hrun).2 e hmem).lastMsgId hanswers
  rw [hlast, bne_self_eq_false] at hne
  cases hne

end Sample

end Multifrost.Php.PeerTransport
