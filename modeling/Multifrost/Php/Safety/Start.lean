import Multifrost.Php.Handle
import Multifrost.Php.Safety.Answers

/-!
# What a failed `start` of a PHP handle leaves behind

Where `start` does not like the answer for its target it closes the transport and forgets it.  Where
the query throws it does neither: after an error frame, or a frame or a body that cannot be decoded,
the transport is open, `started` is false, and so `stop` does nothing.  The same holds after a timeout,
which sets the flag of the transport and leaves its WebSocket open.
-/

namespace Multifrost.Php.Handle

open PeerTransport (Done Libraries QueryResponseBody Received Sends)
open Router (kindError)

/-- A transport is open as long as its flag is not set, or its WebSocket is open. -/
def Transport.isOpen (t : Transport) : Bool := !t.state.closed || t.state.socketOpen

/-! ### Calls of `start` -/

/-- The handle with the transport that has been dialed. -/
def State.assign (s : State) (state : PeerTransport.State) (peerId : String) : State :=
  { s with
    transport := some ⟨s.dials, state⟩
    peerId := peerId
    dials := s.dials + 1
    past := s.transport.toList ++ s.past }

section Starts

variable (l : Libraries) (o : Options)

/-- The transport that a call of `start` dials, if it comes to that. -/
def dialed (starting : Starting) (s : State) : Option PeerTransport.State :=
  if s.started then none
  else
    match starting.ensureRouter with
    | .error _ => none
    | .ok () =>
      (PeerTransport.dial l (o.resolvePeerId starting.newPeerId) .caller starting.client
        starting.registerMsgId starting.registerSends starting.inbound).bind Except.toOption

def Options.validates : Bool := o.validateTarget && o.defaultTargetPeerId != ""

/-- What a call of `start` can do, one constructor for a way out. -/
inductive Starts (starting : Starting) (s : State) : Except Exception Unit × State → Prop
  | returns (h : s.started = true) : Starts starting s (.ok (), s)
  /-- there is no router, or no transport -/
  | fails {exception : Exception} (h : s.started = false) : Starts starting s (.error exception, s)
  | unvalidated {state : PeerTransport.State} {peerId : String}
      (h : dialed l o starting s = some state) (hvalidates : o.validates = false) :
      Starts starting s (.ok (), { s.assign state peerId with started := true })
  | queryThrows {state : PeerTransport.State} {peerId : String}
      {exception : PeerTransport.Exception} {done : Done QueryResponseBody}
      (h : dialed l o starting s = some state) (hvalidates : o.validates = true)
      (hquery : PeerTransport.queryGet l o.defaultTargetPeerId starting.queryMsgId
        starting.querySends state = some done)
      (houtcome : done.outcome = .error exception) :
      Starts starting s (.error (.peer exception),
        { s.assign state peerId with transport := some ⟨s.dials, done.state⟩ })
  | rejected {state state' : PeerTransport.State} {peerId : String} {exception : Exception}
      (h : dialed l o starting s = some state) :
      Starts starting s (.error exception,
        (s.assign state peerId).giveUp ⟨s.dials, PeerTransport.close state'⟩)
  | validated {state state' : PeerTransport.State} {peerId : String}
      (h : dialed l o starting s = some state) :
      Starts starting s (.ok (),
        { s.assign state peerId with transport := some ⟨s.dials, state'⟩, started := true })

variable {l o}

theorem starts_of_start {starting : Starting} {s : State} {r : Except Exception Unit × State}
    (h : start l o starting s = some r) : Starts l o starting s r := by
  unfold start at h
  by_cases hstarted : s.started = true
  · rw [if_pos hstarted] at h
    cases h
    exact .returns hstarted
  rw [if_neg hstarted] at h
  have hidle : s.started = false := eq_false_of_ne_true hstarted
  cases hrouter : starting.ensureRouter with
  | error message =>
    rw [hrouter] at h
    cases h
    exact .fails hidle
  | ok =>
    rw [hrouter] at h
    dsimp only at h
    cases hdial : PeerTransport.dial l (o.resolvePeerId starting.newPeerId) .caller starting.client
        starting.registerMsgId starting.registerSends starting.inbound with
    | none =>
      rw [hdial] at h
      cases h
    | some result =>
      rw [hdial] at h
      cases result with
      | error exception =>
        cases h
        exact .fails hidle
      | ok state =>
        dsimp only at h
        have hdialed : dialed l o starting s = some state := by
          unfold dialed
          rw [if_neg hstarted, hrouter]
          dsimp only
          rw [hdial]
          rfl
        unfold validate at h
        by_cases hvalidates : o.validates = true
        · have hif : (o.validateTarget && o.defaultTargetPeerId != "") = true := hvalidates
          rw [if_pos hif] at h
          obtain ⟨done, hquery, rfl⟩ := Option.map_eq_some_iff.mp h
          cases houtcome : done.outcome with
          | error exception => exact .queryThrows hdialed hvalidates hquery houtcome
          | ok details =>
            dsimp only
            split_ifs
            · exact .rejected hdialed
            · exact .rejected hdialed
            · exact .validated hdialed
        · have hif : ¬ (o.validateTarget && o.defaultTargetPeerId != "") = true := hvalidates
          rw [if_neg hif] at h
          cases h
          exact .unvalidated hdialed (eq_false_of_ne_true hvalidates)

/-- `readOneFrame` that returns a frame leaves the flag as it is. -/
theorem closed_of_readOneFrame {t t' : PeerTransport.State} {frame : Router.FrameParts}
    (h : PeerTransport.readOneFrame l t = some (.ok frame, t')) : t'.closed = t.closed := by
  unfold PeerTransport.readOneFrame at h
  cases hinbound : t.inbound with
  | nil =>
    rw [hinbound] at h
    cases h
  | cons received rest =>
    rw [hinbound] at h
    cases received with
    | exception message staysOpen => cases h
    | message content =>
      obtain ⟨-, rfl⟩ := Prod.mk.inj (Option.some.inj h)
      rfl

/-- A transport that has been dialed is not marked as closed. -/
theorem closed_of_dial {peerId msgId : String} {peerClass : Router.PeerClass}
    {client : Except String Unit} {sends : Sends} {inbound : List Received}
    {state : PeerTransport.State}
    (h : PeerTransport.dial l peerId peerClass client msgId sends inbound = some (.ok state)) :
    state.closed = false := by
  unfold PeerTransport.dial at h
  cases client with
  | error message => cases h
  | ok =>
    dsimp only at h
    obtain ⟨done, hregister, hdone⟩ := Option.map_eq_some_iff.mp h
    cases houtcome : done.outcome with
    | error exception =>
      rw [houtcome] at hdone
      cases hdone
    | ok =>
      rw [houtcome] at hdone
      cases hdone
      rcases PeerTransport.exchange_cases hregister with
        ⟨exception, s', rfl, -, -, -⟩ | ⟨-, hopen, ⟨result, s'⟩, hread, rfl⟩
      · cases houtcome
      · cases result with
        | error exception => cases houtcome
        | ok frame => exact (closed_of_readOneFrame hread).trans hopen

theorem closed_of_dialed {starting : Starting} {s : State} {state : PeerTransport.State}
    (h : dialed l o starting s = some state) : state.closed = false := by
  unfold dialed at h
  split_ifs at h
  split at h
  · cases h
  · obtain ⟨result, hdial, hresult⟩ := Option.bind_eq_some_iff.mp h
    cases result with
    | error exception => cases hresult
    | ok state' =>
      cases hresult
      exact closed_of_dial hdial

theorem not_started_of_dialed {starting : Starting} {s : State} {state : PeerTransport.State}
    (h : dialed l o starting s = some state) : s.started = false := by
  unfold dialed at h
  split_ifs at h with hstarted
  exact eq_false_of_ne_true hstarted

/-! ### Steps -/

def Input.isStart : Input → Bool
  | .start _ => true
  | .stop _ | .call .. | .queryPeerExists .. | .queryPeerGet .. => false

variable (l o) in
inductive Step (s : State) : Input → State × List Event → Prop
  | start {starting : Starting} {r : Except Exception Unit × State}
      (h : Starts l o starting s r) : Step s (.start starting) (r.2, [.start r.1])
  | stop {written : Except String Unit} {t : Transport} (ht : s.transport = some t)
      (hstarted : s.started = true) :
      Step s (.stop written) ({ s with started := false }.giveUp
        ⟨t.id, PeerTransport.close (PeerTransport.disconnect written t.state)⟩, [.stop])
  /-- a method has used the transport -/
  | uses {i : Input} {evs : List Event} {t : Transport} {state : PeerTransport.State}
      (hi : i.isStart = false) (ht : s.transport = some t) (hstarted : s.started = true) :
      Step s i ({ s with transport := some ⟨t.id, state⟩ }, evs)
  /-- the handle is not started -/
  | idle {i : Input} {evs : List Event} (hi : i.isStart = false) : Step s i (s, evs)

/-- A method that needs the transport leaves the handle as it is, or changes the transport. -/
theorem withTransport_cases {α : Type} {s : State}
    {method : PeerTransport.State → Option (Done α)}
    {r : Except Exception α × State} (h : withTransport s method = some r) :
    r.2 = s ∨ s.started = true ∧ ∃ t state, s.transport = some t ∧
      r.2 = { s with transport := some ⟨t.id, state⟩ } := by
  unfold withTransport at h
  cases ht : s.transport with
  | none =>
    rw [ht] at h
    cases h
    exact Or.inl rfl
  | some t =>
    rw [ht] at h
    dsimp only at h
    split_ifs at h with hstarted
    · obtain ⟨done, -, rfl⟩ := Option.map_eq_some_iff.mp h
      exact Or.inr ⟨hstarted, t, done.state, rfl, rfl⟩
    · cases h
      exact Or.inl rfl

theorem step_of_method {α : Type} {i : Input} {s : State} (evs : List Event)
    {method : PeerTransport.State → Option (Done α)}
    {r : Except Exception α × State} (hi : i.isStart = false)
    (h : withTransport s method = some r) : Step l o s i (r.2, evs) := by
  rcases withTransport_cases h with heq | ⟨hstarted, t, state, ht, heq⟩
  · rw [heq]
    exact .idle hi
  · rw [heq]
    exact .uses hi ht hstarted

theorem step_of_handle {i : Input} {s : State} {r : State × List Event}
    (hs : (handle l o).step i s = some r) : Step l o s i r := by
  cases i with
  | start starting =>
    obtain ⟨r, hr, rfl⟩ := Option.map_eq_some_iff.mp hs
    exact .start (starts_of_start hr)
  | stop written =>
    cases hs
    unfold Handle.stop
    cases ht : s.transport with
    | none => exact .idle rfl
    | some t =>
      dsimp only
      split_ifs with hstarted
      · exact .stop ht hstarted
      · exact .idle rfl
  | call function args msgId sends =>
    obtain ⟨r, hr, rfl⟩ := Option.map_eq_some_iff.mp hs
    exact step_of_method _ rfl hr
  | queryPeerExists peerId msgId sends =>
    obtain ⟨r, hr, rfl⟩ := Option.map_eq_some_iff.mp hs
    obtain ⟨q, hq, rfl⟩ := Option.map_eq_some_iff.mp hr
    have hstep : Step l o s (.queryPeerExists peerId msgId sends)
        (q.2, [.queryPeerExists (q.1.map QueryResponseBody.exist)]) :=
      step_of_method _ rfl hq
    exact hstep
  | queryPeerGet peerId msgId sends =>
    obtain ⟨r, hr, rfl⟩ := Option.map_eq_some_iff.mp hs
    exact step_of_method _ rfl hr

end Starts

/-! ### Queries that throw -/

section Query

variable (l : Libraries)

/-- What can be cast to a string, if it is set. -/
def castable : Option MsgPack.Value → Bool
  | some (.ext ..) => false
  | _ => true

/-- What the query receives lets it return, being no error frame and one that can be decoded, or comes
with the end of the WebSocket. -/
def readable : Received → Bool
  | .exception _ staysOpen => !staysOpen
  | .message content =>
    match decodeFrame l.msgpack content with
    | .error _ => false
    | .ok frame =>
      frame.envelope.kind != kindError &&
        match l.decode frame.bodyBytes with
        | .error _ => false
        | .ok body => PeerTransport.isArray body &&
          (castable (PeerTransport.getSet body "peer_id") &&
            castable (PeerTransport.getSet body "class"))

def encodable : Sends → Bool
  | .encodeFails _ => false
  | .ok | .writeFails _ => true

variable {l}

theorem toText_of_castable {value : Option MsgPack.Value} (h : castable value = true) (s : String) :
    ∃ text, PeerTransport.toText l (value.getD (.str s)) = .ok text := by
  cases value with
  | none => exact ⟨s, rfl⟩
  | some value =>
    cases value with
    | ext => cases h
    | _ => exact ⟨_, rfl⟩

theorem toTextSet_of_castable {value : Option MsgPack.Value} (h : castable value = true) :
    ∃ text, PeerTransport.toTextSet l value = .ok text := by
  cases value with
  | none => exact ⟨none, rfl⟩
  | some value =>
    obtain ⟨text, htext⟩ := toText_of_castable (l := l) h ""
    refine ⟨some text, ?_⟩
    rw [Option.getD_some] at htext
    rw [PeerTransport.toTextSet, htext]
    rfl

/-- A query returns what it makes of a frame that it can read. -/
theorem queryAnswer_of_readable {content : Bytes} (h : readable l (.message content) = true) :
    ∃ frame body, decodeFrame l.msgpack content = .ok frame ∧
      PeerTransport.queryAnswer l frame = .ok body := by
  unfold readable at h
  dsimp only at h
  cases hframe : decodeFrame l.msgpack content with
  | error message =>
    rw [hframe] at h
    cases h
  | ok frame =>
    rw [hframe] at h
    obtain ⟨hkind, hbody⟩ := Bool.and_eq_true_iff.mp h
    cases hdecode : l.decode frame.bodyBytes with
    | error message =>
      rw [hdecode] at hbody
      cases hbody
    | ok body =>
      rw [hdecode] at hbody
      dsimp only at hbody
      have hnot : frame.envelope.kind ≠ kindError := bne_iff_ne.mp hkind
      obtain ⟨harray, htexts⟩ := Bool.and_eq_true_iff.mp hbody
      obtain ⟨hpeerId, hclass⟩ := Bool.and_eq_true_iff.mp htexts
      obtain ⟨peerId, hpeerId⟩ := toText_of_castable (l := l) hpeerId ""
      obtain ⟨peerClass, hclass⟩ := toTextSet_of_castable (l := l) hclass
      have hanswer : ∃ answer, PeerTransport.queryAnswer l frame = .ok answer := by
        unfold PeerTransport.queryAnswer PeerTransport.decodeBody
        rw [if_neg hnot, hdecode]
        dsimp only [Except.mapError, bind, Except.bind]
        rw [if_pos harray, hpeerId, hclass]
        exact ⟨_, rfl⟩
      obtain ⟨answer, hanswer⟩ := hanswer
      exact ⟨frame, answer, rfl, hanswer⟩

/-- `readOneFrame` of what can be read gives a frame that answers a query, or the WebSocket is
closed. -/
theorem readOneFrame_of_readable {t : PeerTransport.State}
    {r : Except PeerTransport.Exception Router.FrameParts × PeerTransport.State}
    (hreadable : ∀ received ∈ t.inbound.head?, readable l received = true)
    (h : PeerTransport.readOneFrame l t = some r) :
    r.2.closed = true ∧ r.2.socketOpen = false ∨ ∃ frame body, r.1 = .ok frame ∧
      PeerTransport.queryAnswer l frame = .ok body := by
  unfold PeerTransport.readOneFrame at h
  cases hinbound : t.inbound with
  | nil =>
    rw [hinbound] at h
    cases h
  | cons received rest =>
    have hhead : readable l received = true := hreadable received (by rw [hinbound]; rfl)
    rw [hinbound] at h
    cases h
    cases received with
    | exception message staysOpen =>
      left
      refine ⟨rfl, ?_⟩
      have hends : staysOpen = false := (Bool.not_eq_true' _).mp hhead
      dsimp only [PeerTransport.State.receive]
      rw [hends, Bool.and_false]
    | message content =>
      right
      obtain ⟨frame, body, hframe, hanswer⟩ := queryAnswer_of_readable hhead
      refine ⟨frame, body, ?_, hanswer⟩
      dsimp only [PeerTransport.frameOf]
      rw [hframe]

/-- A query that throws although it could read what it received has shut the transport. -/
theorem shut_of_query {name peerId msgId : String} {sends : Sends} {t : PeerTransport.State}
    {done : Done QueryResponseBody} {exception : PeerTransport.Exception}
    (hopen : t.closed = false) (hencodable : encodable sends = true)
    (hreadable : sends.isOk = true → ∀ received ∈ t.inbound.head?, readable l received = true)
    (h : PeerTransport.query l name peerId msgId sends t = some done)
    (houtcome : done.outcome = .error exception) :
    done.state.closed = true ∧ done.state.socketOpen = false := by
  have hnot : ¬ t.closed = true := by
    rw [hopen]
    exact Bool.false_ne_true
  unfold PeerTransport.query PeerTransport.exchange PeerTransport.send at h
  unfold PeerTransport.writeBinary at h
  cases sends with
  | encodeFails => cases hencodable
  | ok =>
    dsimp only at h
    rw [if_neg hnot] at h
    obtain ⟨r, hread, rfl⟩ := Option.map_eq_some_iff.mp h
    rcases readOneFrame_of_readable (hreadable rfl) hread with hr | ⟨frame, body, hr, hanswer⟩
    · exact hr
    · -- the query returns
      dsimp only at houtcome
      rw [hr] at houtcome
      have hbind : PeerTransport.queryAnswer l frame = .error exception := houtcome
      rw [hanswer] at hbind
      cases hbind
  | writeFails message =>
    dsimp only at h
    rw [if_neg hnot] at h
    cases h
    unfold PeerTransport.close
    rw [if_neg hnot]
    exact ⟨rfl, rfl⟩

end Query

/-! ### Runs -/

section Runs

variable (l : Libraries) (o : Options)

/-- The query of a `start` can encode its body, and read what it receives, unless the WebSocket
ends. -/
def TargetReadable (s : State) : Input → Prop
  | .start starting => ∀ state ∈ dialed l o starting s, o.validates = true →
      encodable starting.querySends = true ∧
        (starting.querySends.isOk = true → ∀ received ∈ state.inbound.head?,
          readable l received = true)
  | .stop _ | .call .. | .queryPeerExists .. | .queryPeerGet .. => True

instance (s : State) : ∀ i, Decidable (TargetReadable l o s i)
  | .start starting => inferInstanceAs (Decidable (∀ state ∈ dialed l o starting s, _ = _ →
      _ = _ ∧ (_ = _ → ∀ received ∈ state.inbound.head?, _ = _)))
  | .stop _ | .call .. | .queryPeerExists .. | .queryPeerGet .. => inferInstanceAs (Decidable True)

/-- The transport is open only if the handle is started. -/
def OpenIfStarted (s : State) : Prop :=
  ∀ t ∈ s.transport, t.isOpen = true → s.started = true

/-- The handle has no open transport, or a `stop` closes it. -/
def NoneLeft (s : State) : Prop :=
  (∀ t ∈ s.transport, t.isOpen = false) ∨
    ∀ written, ∀ t ∈ s.transport,
      ∃ t' ∈ (stop written s).past, t'.id = t.id ∧ t'.isOpen = false

variable {l o}

/-- A `start` that throws leaves the transport that was there, a shut one, or none. -/
theorem Starts.shut_of_throws {starting : Starting} {s s' : State} {exception : Exception}
    (h : Starts l o starting s (.error exception, s')) (hopen : OpenIfStarted s)
    (hc : TargetReadable l o s (.start starting)) : ∀ t ∈ s'.transport, t.isOpen = false := by
  cases h with
  | fails hidle =>
    intro t ht
    by_contra hisOpen
    have hstarted := hopen t ht (eq_true_of_ne_false hisOpen)
    rw [hidle] at hstarted
    cases hstarted
  | @queryThrows state _ _ done hdialed hvalidates hquery houtcome =>
    intro t ht
    cases ht
    obtain ⟨hencodable, hreadable⟩ := hc state hdialed hvalidates
    obtain ⟨hclosed, hsocket⟩ :=
      shut_of_query (closed_of_dialed hdialed) hencodable hreadable hquery houtcome
    unfold Transport.isOpen
    dsimp only
    rw [hclosed, hsocket]
    rfl
  | rejected =>
    intro t ht
    cases ht

theorem OpenIfStarted.step {i : Input} {s : State} {r : State × List Event}
    (h : OpenIfStarted s) (hc : TargetReadable l o s i) (hs : Step l o s i r) :
    OpenIfStarted r.1 := by
  cases hs with
  | @start starting r hstarts =>
    obtain ⟨outcome, s'⟩ := r
    cases outcome with
    | error exception =>
      intro t ht hisOpen
      rw [hstarts.shut_of_throws h hc t ht] at hisOpen
      cases hisOpen
    | ok =>
      cases hstarts with
      | returns => exact h
      | unvalidated => exact fun _ _ _ => rfl
      | validated => exact fun _ _ _ => rfl
  | stop =>
    intro t ht
    cases ht
  | uses _ _ hstarted => exact fun _ _ _ => hstarted
  | idle => exact h

/-- **A failed `start` leaves no open transport**, and the transport is open only if the handle is
started, in a run in which the queries for the target can read what they receive. -/
theorem failed_start_leaves_none {s : State} {tr : List Event}
    (h : (handle l o).Run (fun s _ i => TargetReadable l o s i) s tr) :
    OpenIfStarted s ∧ ∀ starting exception s', TargetReadable l o s (.start starting) →
      (handle l o).step (.start starting) s = some (s', [.start (.error exception)]) →
        NoneLeft s' := by
  have hopen : OpenIfStarted s := by
    refine TransitionSystem.Run.invariant (P := fun s _ => OpenIfStarted s) ?_ ?_ h
    · intro t ht
      cases ht
    · intro s s' tr evs i _ hc hs ih
      exact ih.step hc (step_of_handle hs)
  refine ⟨hopen, fun starting exception s' hc hs => Or.inl ?_⟩
  obtain ⟨r, hr, heq⟩ := Option.map_eq_some_iff.mp hs
  obtain ⟨outcome, state⟩ := r
  cases heq
  exact (starts_of_start hr).shut_of_throws hopen hc

end Runs

section Sample

open PeerTransport (arrives found localLibraries)
open Router (kindResponse)

/-- A connection that looks for its target. -/
def validating : Options := ⟨none, true, "service"⟩

def localHandle : TransitionSystem State Input Event := handle localLibraries validating

/-- The acknowledgement of the registration. -/
def accepted : Received :=
  arrives kindResponse "r" "router" (Router.RegisterAckBody.toValue ⟨true, none⟩)

/-- There is a router, and its socket yields the given messages after the acknowledgement. -/
def starts (inbound : List Received) : Input :=
  .start ⟨.ok (), "caller", .ok (), "r", .ok, accepted :: inbound, "q", .ok⟩

/-- The target does not exist. -/
def missing : Received :=
  arrives kindResponse "q" "router" (Router.queryResponseValue "service" false none false)

/-- The first call of `start` finds no target and throws, the second one finds it. -/
theorem failed_start_leaves_none_missing : ∃ s tr,
    localHandle.Run (fun s _ i => TargetReadable localLibraries validating s i) s tr ∧
    s.started = true ∧ s.past.length = 1 ∧ OpenIfStarted s ∧
    ∀ starting exception s', TargetReadable localLibraries validating s (.start starting) →
      localHandle.step (.start starting) s = some (s', [.start (.error exception)]) →
        NoneLeft s' := by
  obtain ⟨s, tr, hrun, hp⟩ := localHandle.exists_run_of_exec
    (fun s _ i => TargetReadable localLibraries validating s i)
    [starts [missing], starts [found "q"]]
    (fun s _ => s.started = true ∧ s.past.length = 1) (by decide +kernel)
  obtain ⟨hstarted, hpast⟩ := of_decide_eq_true hp
  exact ⟨s, tr, hrun, hstarted, hpast, failed_start_leaves_none hrun⟩

/-- The answer to the query is an error frame. -/
def refused : Received :=
  arrives kindError "q" "router" (.map [(.str "code", .str "malformed_query")])

/-- The answer to the query does not come in time. -/
def timedOut : Received := .exception "Client read timeout" true

/-- The call has thrown and left its transport open, and no other one is known. -/
def leavesOpen : State × List Event → Bool
  | (s, [.start (.error _)]) =>
    !s.started && s.past.isEmpty && s.transport.any Transport.isOpen
  | (_, _) => false

/-- `stop` does not close a transport that is left open so. -/
theorem not_noneLeft_of_leavesOpen {r : State × List Event} (h : leavesOpen r = true) :
    ∃ exception, r.2 = [.start (.error exception)] ∧ ¬ OpenIfStarted r.1 ∧ ¬ NoneLeft r.1 := by
  unfold leavesOpen at h
  split at h
  · rename_i s exception
    simp only [Bool.and_eq_true, Bool.not_eq_true', List.isEmpty_iff, Option.any_eq_true] at h
    obtain ⟨⟨hstarted, hpast⟩, t, ht, hisOpen⟩ := h
    refine ⟨exception, rfl, ?_, ?_⟩
    · intro hopen
      have hstarted' := hopen t ht hisOpen
      rw [hstarted] at hstarted'
      cases hstarted'
    · rintro (hshut | hstops)
      · rw [hshut t ht] at hisOpen
        cases hisOpen
      · -- `stop` returns at once
        obtain ⟨t', hmem, -⟩ := hstops (.ok ()) t ht
        have hsame : stop (.ok ()) s = s := by
          unfold stop
          rw [ht]
          dsimp only
          rw [hstarted]
          rfl
        rw [hsame, hpast] at hmem
        cases hmem
  · cases h

/-- The router answers the query with an error, or the answer does not come in time: `start` throws and
leaves the transport open, and `stop` does not close it. -/
theorem left_open_by_error_frame :
    (¬ ∀ s tr, localHandle.Reachable s tr → OpenIfStarted s) ∧
    (¬ ∀ s tr, localHandle.Reachable s tr → ∀ starting exception s',
      localHandle.step (.start starting) s = some (s', [.start (.error exception)]) →
        NoneLeft s') ∧
    ∃ s exception, localHandle.step (starts [timedOut]) localHandle.init =
      some (s, [.start (.error exception)]) ∧ ¬ NoneLeft s := by
  have hrefused : (localHandle.step (starts [refused]) localHandle.init).any leavesOpen = true := by
    decide +kernel
  have htimedOut :
      (localHandle.step (starts [timedOut]) localHandle.init).any leavesOpen = true := by
    decide +kernel
  obtain ⟨⟨s, evs⟩, hs, hleaves⟩ := (Option.any_eq_true _ _).mp hrefused
  obtain ⟨exception, rfl, hopen, hleft⟩ := not_noneLeft_of_leavesOpen hleaves
  obtain ⟨⟨s', evs'⟩, hs', hleaves'⟩ := (Option.any_eq_true _ _).mp htimedOut
  obtain ⟨exception', rfl, -, hleft'⟩ := not_noneLeft_of_leavesOpen hleaves'
  refine ⟨?_, ?_, s', exception', hs', hleft'⟩
  · intro h
    exact hopen (h s _ (TransitionSystem.Run.init.step trivial hs))
  · intro h
    exact hleft (h _ _ TransitionSystem.Run.init _ exception s hs)

end Sample

end Multifrost.Php.Handle
