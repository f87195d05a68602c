import Multifrost.Bindings.Split
import Multifrost.Golang.Service

/-!
# Calls that come early to a Go service

The router may forward a call as soon as it has sent the acknowledgement, and the read loop may hand
it to a goroutine before `RunService` has assigned the variable that the goroutine tests.  The
goroutine then takes the transport for missing and returns: the connection is in order, and the call
is never answered.  A goroutine that finds the variable set answers its call once.
-/

namespace Multifrost.Go.Service

open Router (Envelope FrameParts kindCall kindDisconnect kindError kindHeartbeat kindQuery
  kindResponse protocolVersion)

variable {V : Type} {m : Msgpack} {c : BodyCodec V} {peerId : String}

/-! ### Answers -/

def Event.frame? : Event → Option FrameParts
  | .read frame => some frame
  | .wrote .. => none

/-- The frames that are read, in order: the `d`-th of them goes to the `d`-th goroutine. -/
def framesRead (tr : List Event) : List FrameParts := tr.filterMap Event.frame?

def Event.reply? (d : Nat) : Event → Option Envelope
  | .read _ => none
  | .wrote d' envelope _ => if d' = d then some envelope else none

/-- What the `d`-th goroutine has written. -/
def replies (d : Nat) (tr : List Event) : List Envelope := tr.filterMap (Event.reply? d)

/-- How far a goroutine is from its end. -/
def DispatchPc.rank : DispatchPc → Nat
  | .unstarted => 6
  | .check _ => 5
  | .handle _ => 4
  | .writeBinary .. => 3
  | .write .. => 2
  | .close => 1
  | .returned => 0

/-- How far the `d`-th frame is from its end. -/
def rank (s : State) (d : Nat) : Nat :=
  match s.dispatches d, s.readLoop with
  | .unstarted, .deliver _ => 7
  | pc, _ => pc.rank

/-- The `d`-th frame is with the read loop or with its goroutine, which can go on whatever the
connection and the worker yield, and comes nearer to its end. -/
def InProgress (m : Msgpack) (c : BodyCodec V) (peerId : String) (s : State) (d : Nat) : Prop :=
  (∀ incoming, ∃ s' evs, (service m c peerId).step (.readLoop incoming) s = some (s', evs) ∧
    rank s' d < rank s d) ∨
  ∀ called written, ∃ s' evs,
    (service m c peerId).step (.dispatch d called written) s = some (s', evs) ∧
    rank s' d < rank s d

/-- A reply to a frame, under its message id. -/
def IsReply (frame : FrameParts) (envelope : Envelope) : Prop :=
  envelope.msgId = frame.envelope.msgId ∧
    (envelope.kind = kindResponse ∨ envelope.kind = kindError)

/-- As long as the transport is open, every call that was read is in progress, or answered by one
reply. -/
def CallsAnswered (m : Msgpack) (c : BodyCodec V) (peerId : String) (s : State)
    (tr : List Event) : Prop :=
  s.closed = false → ∀ d frame, (framesRead tr)[d]? = some frame →
    frame.envelope.kind = kindCall →
    (InProgress m c peerId s d ∧ replies d tr = []) ∨
    ∃ envelope, replies d tr = [envelope] ∧ IsReply frame envelope

/-- A goroutine is about to test the variable. -/
def DispatchPc.tests : DispatchPc → Bool
  | .check _ => true
  | _ => false

/-- No goroutine tests the variable before it is assigned. -/
def AssignedBeforeTest (s : State) : Input V → Prop
  | .dispatch d _ _ => (s.dispatches d).tests = true → s.transport = true
  | _ => True

instance (s : State) : ∀ i : Input V, Decidable (AssignedBeforeTest s i)
  | .dispatch _ _ _ => inferInstanceAs (Decidable (_ = _ → _ = _))
  | .main _ | .readLoop _ => inferInstanceAs (Decidable True)

/-! ### Where a frame is -/

/-- What the loop has in hand and no goroutine has yet. -/
def ReadPc.inHand : ReadPc → Option FrameParts
  | .deliver frame | .dispatch frame => some frame
  | _ => none

/-- A goroutine has its frame, and has written nothing; or it has written its reply; or there was
nothing to answer, or the transport is closed. -/
def Dispatched (frame : FrameParts) (closed : Bool) (written : List Envelope) : DispatchPc → Prop
  | .unstarted => False
  | .check frame' | .handle frame' => frame' = frame ∧ written = []
  | .writeBinary envelope _ | .write envelope _ => IsReply frame envelope ∧ written = []
  | .close => written = []
  | .returned => closed = true ∨ frame.envelope.kind ≠ kindCall ∨
      ∃ envelope, written = [envelope] ∧ IsReply frame envelope

/-- Where the frames are that were read: with the goroutines that have been started, and the last one
perhaps with the loop. -/
structure Placed (s : State) (tr : List Event) : Prop where
  frames : ∃ given : List FrameParts, given.length = s.started ∧
    framesRead tr = given ++ s.readLoop.inHand.toList
  main : s.main = .start → s.readLoop = .unstarted
  unstarted : ∀ d, s.started ≤ d → s.dispatches d = .unstarted ∧ replies d tr = []
  dispatched : ∀ d frame, d < s.started → (framesRead tr)[d]? = some frame →
    Dispatched frame s.closed (replies d tr) (s.dispatches d)

/-! ### One goroutine -/

theorem send_reply {envelope : Envelope} {bodyBytes : Bytes} {frame : FrameParts}
    (h : IsReply frame envelope) :
    send m envelope bodyBytes = .close ∨
      ∃ envelope' bytes, send m envelope bodyBytes = .reply envelope' bytes ∧
        IsReply frame envelope' := by
  unfold send
  cases encodeFrame m envelope bodyBytes with
  | error err => exact Or.inl rfl
  | ok bytes => exact Or.inr ⟨envelope, bytes, rfl, h⟩

theorem sendServiceError_reply (frame : FrameParts) (failure : CallFailure) :
    sendServiceError m c peerId frame.envelope failure = .close ∨
      ∃ envelope bytes, sendServiceError m c peerId frame.envelope failure = .reply envelope bytes ∧
        IsReply frame envelope := by
  unfold sendServiceError
  cases c.encodeError failure.toErrorBody with
  | error err => exact Or.inl rfl
  | ok bodyBytes => exact send_reply ⟨rfl, Or.inr rfl⟩

variable (m c peerId) in
/-- A call is answered, unless its reply cannot be built. -/
theorem handleServiceCall_reply (called : Except String V) (frame : FrameParts) :
    handleServiceCall m c peerId called frame = .close ∨
      ∃ envelope bytes, handleServiceCall m c peerId called frame = .reply envelope bytes ∧
        IsReply frame envelope := by
  unfold handleServiceCall
  cases c.decodeCall frame.bodyBytes with
  | error err => exact sendServiceError_reply frame _
  | ok call =>
    cases called with
    | error err => exact sendServiceError_reply frame _
    | ok result =>
      dsimp only
      cases c.encodeResponse result with
      | error err => exact sendServiceError_reply frame _
      | ok bodyBytes => exact send_reply ⟨rfl, Or.inl rfl⟩

theorem Dispatched.mono {frame : FrameParts} {closed closed' : Bool} {written : List Envelope}
    {pc : DispatchPc} (h : Dispatched frame closed written pc)
    (hclosed : closed = true → closed' = true) : Dispatched frame closed' written pc := by
  cases pc with
  | returned => exact h.imp_left hclosed
  | _ => exact h

/-- What the `d`-th goroutine writes in a step is in the events of the step. -/
theorem dispatched_step {frame : FrameParts} {d : Nat} {called : Except String V}
    {result : Except String Unit} {transport closed closed' : Bool} {written : List Envelope}
    {pc pc' : DispatchPc} {evs : List Event} (h : Dispatched frame closed written pc)
    (htest : pc.tests = true → transport = true)
    (hs : dispatch m c peerId d called result transport closed pc = some (closed', pc', evs)) :
    Dispatched frame closed' (written ++ replies d evs) pc' ∧ (closed = true → closed' = true) := by
  cases pc with
  | unstarted => exact h.elim
  | check frame' =>
    rw [htest rfl] at hs
    cases hs
    obtain ⟨rfl, rfl⟩ := h
    exact ⟨⟨rfl, rfl⟩, id⟩
  | handle frame' =>
    obtain ⟨rfl, rfl⟩ := h
    simp only [dispatch, handleServiceFrame] at hs
    split_ifs at hs with hcall hdisconnect hheartbeat hother
    · rcases handleServiceCall_reply m c peerId called frame' with
        hclose | ⟨envelope, bytes, hreply, his⟩
      · rw [hclose] at hs
        cases hs
        exact ⟨rfl, id⟩
      · rw [hreply] at hs
        cases hs
        exact ⟨⟨his, rfl⟩, id⟩
    · cases hs
      exact ⟨rfl, id⟩
    · cases hs
      exact ⟨Or.inr (Or.inl hcall), id⟩
    · cases hs
      exact ⟨Or.inr (Or.inl hcall), id⟩
    · cases hs
      exact ⟨rfl, id⟩
  | writeBinary envelope bytes =>
    obtain ⟨his, rfl⟩ := h
    cases closed with
    | true =>
      cases hs
      exact ⟨rfl, id⟩
    | false =>
      cases hs
      exact ⟨⟨his, rfl⟩, id⟩
  | write envelope bytes =>
    obtain ⟨his, rfl⟩ := h
    cases closed with
    | true =>
      cases hs
      exact ⟨rfl, id⟩
    | false =>
      cases result with
      | error err =>
        cases hs
        exact ⟨rfl, fun _ => rfl⟩
      | ok u =>
        cases hs
        refine ⟨Or.inr (Or.inr ⟨envelope, ?_, his⟩), id⟩
        simp [replies, Event.reply?]
  | close =>
    cases hs
    exact ⟨Or.inl rfl, fun _ => rfl⟩
  | returned => cases hs

/-- A goroutine reads no frame, and writes as itself. -/
theorem events_of_dispatch {d : Nat} {called : Except String V} {result : Except String Unit}
    {transport closed closed' : Bool} {pc pc' : DispatchPc} {evs : List Event}
    (hs : dispatch m c peerId d called result transport closed pc = some (closed', pc', evs)) :
    evs = [] ∨ ∃ envelope bytes, evs = [.wrote d envelope bytes] := by
  cases pc with
  | handle frame =>
    simp only [dispatch] at hs
    split at hs <;> cases hs <;> exact Or.inl rfl
  | write envelope bytes =>
    simp only [dispatch] at hs
    split_ifs at hs
    · cases hs
      exact Or.inl rfl
    · cases result with
      | error err =>
        cases hs
        exact Or.inl rfl
      | ok u =>
        cases hs
        exact Or.inr ⟨envelope, bytes, rfl⟩
  | check frame =>
    simp only [dispatch] at hs
    split_ifs at hs <;> cases hs <;> exact Or.inl rfl
  | writeBinary envelope bytes =>
    simp only [dispatch] at hs
    split_ifs at hs <;> cases hs <;> exact Or.inl rfl
  | close =>
    cases hs
    exact Or.inl rfl
  | unstarted => cases hs
  | returned => cases hs

/-! ### The invariant -/

theorem framesRead_append (tr evs : List Event) :
    framesRead (tr ++ evs) = framesRead tr ++ framesRead evs := List.filterMap_append

theorem replies_append (d : Nat) (tr evs : List Event) :
    replies d (tr ++ evs) = replies d tr ++ replies d evs := List.filterMap_append

theorem placed_main {done : Bool} {s s' : State} {tr : List Event} (h : Placed s tr)
    (hs : runService done s = some s') : Placed s' tr := by
  obtain ⟨hframes, hmain, hunstarted, hdispatched⟩ := h
  unfold runService at hs
  split at hs
  · rename_i hstart
    cases hs
    rw [hmain hstart] at hframes
    exact ⟨hframes, nofun, hunstarted, hdispatched⟩
  · cases hs
    exact ⟨hframes, nofun, hunstarted, hdispatched⟩
  · split_ifs at hs
    · cases hs
      exact ⟨hframes, nofun, hunstarted,
        fun d frame hd hframe => (hdispatched d frame hd hframe).mono fun _ => rfl⟩
    · cases hs
      exact ⟨hframes, nofun, hunstarted, hdispatched⟩
  · cases hs

/-- A step of the loop that hands nothing over. -/
theorem Placed.of_readLoop {s s' : State} {tr : List Event} (h : Placed s tr)
    (hnone : s.readLoop.inHand = s'.readLoop.inHand) (hmain : s.readLoop ≠ .unstarted)
    (hs : s' = { s with readLoop := s'.readLoop, closed := s'.closed })
    (hclosed : s.closed = true → s'.closed = true) : Placed s' tr := by
  rw [hs]
  refine ⟨?_, fun hstart => absurd (h.main hstart) hmain, h.unstarted,
    fun d frame hd hframe => (h.dispatched d frame hd hframe).mono hclosed⟩
  rw [← hnone]
  exact h.frames

/-- The frame that is read is the next one. -/
theorem Placed.read {s : State} {tr : List Event} {frame : FrameParts} (h : Placed s tr)
    (hpc : s.readLoop = .read) :
    Placed { s with readLoop := .deliver frame } (tr ++ [.read frame]) := by
  obtain ⟨given, hlength, hgiven⟩ := h.frames
  have htr : framesRead tr = given := by
    rw [hgiven, hpc]
    exact List.append_nil given
  have hframes : framesRead (tr ++ [.read frame]) = given ++ [frame] := by
    rw [framesRead_append, htr]
    rfl
  have hreplies : ∀ d, replies d (tr ++ [.read frame]) = replies d tr := by
    intro d
    rw [replies_append]
    exact List.append_nil _
  refine ⟨⟨given, hlength, hframes⟩, fun hstart => ?_, fun d hd => ?_, fun d frame' hd hframe => ?_⟩
  · have hunstarted := h.main hstart
    rw [hpc] at hunstarted
    cases hunstarted
  · rw [hreplies]
    exact h.unstarted d hd
  · rw [hframes, List.getElem?_append_left (by rw [hlength]; exact hd), ← htr] at hframe
    rw [hreplies]
    exact h.dispatched d frame' hd hframe

/-- The frame in hand goes to the next goroutine. -/
theorem Placed.start {s : State} {tr : List Event} {frame : FrameParts} (h : Placed s tr)
    (hpc : s.readLoop = .dispatch frame) :
    Placed { s with
      readLoop := .dispatched frame
      started := s.started + 1
      dispatches := Function.update s.dispatches s.started (.check frame) } tr := by
  obtain ⟨given, hlength, hgiven⟩ := h.frames
  rw [hpc] at hgiven
  have htr : framesRead tr = given ++ [frame] := hgiven
  refine ⟨⟨given ++ [frame], by rw [List.length_append, hlength]; rfl, ?_⟩, fun hstart => ?_,
    fun d hd => ?_, fun d frame' hd hframe => ?_⟩
  · rw [htr]
    exact (List.append_nil _).symm
  · have hunstarted := h.main hstart
    rw [hpc] at hunstarted
    cases hunstarted
  · have hlt : s.started < d := hd
    exact ⟨(Function.update_of_ne (Nat.ne_of_gt hlt) ..).trans (h.unstarted d hlt.le).1,
      (h.unstarted d hlt.le).2⟩
  · dsimp only
    by_cases hd' : d = s.started
    · subst hd'
      rw [htr, ← hlength, List.getElem?_concat_length] at hframe
      obtain rfl := Option.some.inj hframe
      rw [Function.update_self]
      exact ⟨rfl, (h.unstarted _ le_rfl).2⟩
    · have hlt : d < s.started := by
        have hle : d < s.started + 1 := hd
        omega
      rw [Function.update_of_ne hd']
      exact h.dispatched d frame' hlt hframe

theorem placed_readLoop {incoming : Incoming} {s s' : State} {tr evs : List Event}
    (h : Placed s tr) (hs : readLoop m incoming s = some (s', evs)) : Placed s' (tr ++ evs) := by
  unfold readLoop at hs
  split at hs
  · cases hs
  · rename_i hpc
    -- whatever ends the loop, it has no frame in hand
    have hend : Placed { s with readLoop := .close } (tr ++ []) := by
      rw [List.append_nil]
      exact h.of_readLoop (by rw [hpc]; rfl) (by rw [hpc]; nofun) rfl id
    split at hs
    · split at hs
      · cases hs
        exact h.read hpc
      · cases hs
        exact hend
    all_goals
      cases hs
      exact hend
  · rename_i frame hpc
    cases hs
    rw [List.append_nil]
    exact h.of_readLoop (by rw [hpc]; rfl) (by rw [hpc]; nofun) rfl id
  · rename_i frame hpc
    cases hs
    rw [List.append_nil]
    exact h.start hpc
  · rename_i frame hpc
    split_ifs at hs
    all_goals
      cases hs
      rw [List.append_nil]
      exact h.of_readLoop (by rw [hpc]; rfl) (by rw [hpc]; nofun) rfl id
  · rename_i hpc
    cases hs
    rw [List.append_nil]
    exact h.of_readLoop (by rw [hpc]; rfl) (by rw [hpc]; nofun) rfl fun _ => rfl
  · cases hs

theorem placed_dispatch {d : Nat} {called : Except String V} {result : Except String Unit}
    {closed' : Bool} {pc' : DispatchPc} {s : State} {tr evs : List Event} (h : Placed s tr)
    (htest : (s.dispatches d).tests = true → s.transport = true)
    (hs : dispatch m c peerId d called result s.transport s.closed (s.dispatches d) =
      some (closed', pc', evs)) :
    Placed { s with closed := closed', dispatches := Function.update s.dispatches d pc' }
      (tr ++ evs) := by
  have hlt : d < s.started := by
    by_contra hle
    rw [(h.unstarted d (not_lt.mp hle)).1] at hs
    cases hs
  have hreads : framesRead evs = [] := by
    rcases events_of_dispatch hs with rfl | ⟨envelope, bytes, rfl⟩ <;> rfl
  have hother : ∀ d', d' ≠ d → replies d' evs = [] := by
    intro d' hd'
    rcases events_of_dispatch hs with rfl | ⟨envelope, bytes, rfl⟩
    · rfl
    · simp [replies, Event.reply?, Ne.symm hd']
  have hframes : framesRead (tr ++ evs) = framesRead tr := by
    rw [framesRead_append, hreads, List.append_nil]
  obtain ⟨given, hlength, hgiven⟩ := h.frames
  obtain ⟨frame, hframe⟩ : ∃ frame, (framesRead tr)[d]? = some frame := by
    rw [hgiven, List.getElem?_append_left (by omega)]
    exact ⟨_, List.getElem?_eq_getElem (by omega)⟩
  obtain ⟨hstep, hclosed⟩ := dispatched_step (h.dispatched d frame hlt hframe) htest hs
  refine ⟨⟨given, hlength, hframes.trans hgiven⟩, h.main, fun d' hd' => ?_,
    fun d' frame' hd' hframe' => ?_⟩
  · have hne : d' ≠ d := by
      dsimp only at hd'
      omega
    rw [replies_append, hother d' hne, List.append_nil]
    exact ⟨(Function.update_of_ne hne ..).trans (h.unstarted d' hd').1, (h.unstarted d' hd').2⟩
  · rw [hframes] at hframe'
    rw [replies_append]
    dsimp only
    by_cases hne : d' = d
    · subst hne
      obtain rfl := Option.some.inj (hframe.symm.trans hframe')
      rw [Function.update_self]
      exact hstep
    · rw [Function.update_of_ne hne, hother d' hne, List.append_nil]
      exact (h.dispatched d' frame' hd' hframe').mono hclosed

theorem placed {s : State} {tr : List Event}
    (h : (service m c peerId).Run (fun s _ i => AssignedBeforeTest s i) s tr) : Placed s tr := by
  refine TransitionSystem.Run.invariant (P := Placed) ?_ ?_ h
  · exact ⟨⟨[], rfl, rfl⟩, fun _ => rfl, fun _ _ => ⟨rfl, rfl⟩, nofun⟩
  · intro s s' tr evs i _ hc hs ih
    cases i with
    | main done =>
      obtain ⟨s₁, hmain, heq⟩ := Option.map_eq_some_iff.mp hs
      cases heq
      rw [List.append_nil]
      exact placed_main ih hmain
    | readLoop incoming => exact placed_readLoop ih hs
    | dispatch d called result =>
      obtain ⟨⟨closed, pc, evs'⟩, hdispatch, heq⟩ := Option.map_eq_some_iff.mp hs
      cases heq
      exact placed_dispatch ih hc hdispatch

/-! ### Every call is answered -/

variable (m c peerId) in
/-- A goroutine that has been started and has not returned can go on. -/
theorem dispatch_enabled {pc : DispatchPc} (hstarted : pc ≠ .unstarted) (hrunning : pc ≠ .returned)
    (d : Nat) (called : Except String V) (result : Except String Unit) (transport closed : Bool) :
    ∃ closed' pc' evs, dispatch m c peerId d called result transport closed pc =
      some (closed', pc', evs) ∧ pc' ≠ .unstarted ∧ pc'.rank < pc.rank := by
  cases pc with
  | unstarted => exact absurd rfl hstarted
  | check frame => cases transport <;> exact ⟨_, _, _, rfl, nofun, by simp [DispatchPc.rank]⟩
  | handle frame =>
    unfold dispatch
    dsimp only
    cases handleServiceFrame m c peerId called frame <;>
      exact ⟨_, _, _, rfl, nofun, by simp [DispatchPc.rank]⟩
  | writeBinary envelope bytes =>
    cases closed <;> exact ⟨_, _, _, rfl, nofun, by simp [DispatchPc.rank]⟩
  | write envelope bytes =>
    cases closed <;> cases result <;> exact ⟨_, _, _, rfl, nofun, by simp [DispatchPc.rank]⟩
  | close => exact ⟨_, _, _, rfl, nofun, by decide⟩
  | returned => exact absurd rfl hrunning

theorem rank_of_started {s : State} {d : Nat} (h : s.dispatches d ≠ .unstarted) :
    rank s d = (s.dispatches d).rank := by
  unfold rank
  split
  · rename_i hpc _
    exact absurd hpc h
  · rfl

theorem inProgress_of_started {s : State} {d : Nat} (hstarted : s.dispatches d ≠ .unstarted)
    (hrunning : s.dispatches d ≠ .returned) : InProgress m c peerId s d := by
  right
  intro called written
  obtain ⟨closed', pc', evs, hstep, hpc', hrank⟩ := dispatch_enabled m c peerId
    hstarted hrunning d called written s.transport s.closed
  refine ⟨{ s with closed := closed', dispatches := Function.update s.dispatches d pc' }, evs, ?_, ?_⟩
  · simp only [service, hstep, Option.map_some]
  · have hself : Function.update s.dispatches d pc' d = pc' := Function.update_self ..
    rw [rank_of_started hstarted, rank_of_started (by dsimp only; rw [hself]; exact hpc')]
    dsimp only
    rw [hself]
    exact hrank

/-- A frame in the hands of the loop goes on to its goroutine. -/
theorem inProgress_of_inHand {s : State} {frame : FrameParts}
    (hhand : s.readLoop.inHand = some frame) (hpc : s.dispatches s.started = .unstarted) :
    InProgress m c peerId s s.started := by
  left
  intro incoming
  cases hloop : s.readLoop with
  | deliver frame' =>
    refine ⟨{ s with readLoop := .dispatch frame' }, [], ?_, ?_⟩
    · simp only [service, readLoop, hloop]
    · simp [rank, hpc, hloop, DispatchPc.rank]
  | dispatch frame' =>
    refine ⟨{ s with
      readLoop := .dispatched frame'
      started := s.started + 1
      dispatches := Function.update s.dispatches s.started (.check frame') }, [], ?_, ?_⟩
    · simp only [service, readLoop, hloop]
    · simp [rank, hpc, hloop, DispatchPc.rank]
  | _ =>
    rw [hloop] at hhand
    cases hhand

/-- **A service answers every call** in a run in which no goroutine tests the variable `transport`
before it is assigned. -/
theorem calls_answered {s : State} {tr : List Event}
    (h : (service m c peerId).Run (fun s _ i => AssignedBeforeTest s i) s tr) :
    CallsAnswered m c peerId s tr := by
  intro hopen d frame hframe hcall
  have hplaced := placed h
  obtain ⟨given, hlength, hgiven⟩ := hplaced.frames
  by_cases hd : d < s.started
  · have hdispatched := hplaced.dispatched d frame hd hframe
    cases hpc : s.dispatches d with
    | unstarted =>
      rw [hpc] at hdispatched
      exact hdispatched.elim
    | returned =>
      rw [hpc] at hdispatched
      rcases hdispatched with hclosed | hkind | hanswered
      · rw [hopen] at hclosed
        cases hclosed
      · exact absurd hcall hkind
      · exact Or.inr hanswered
    | close =>
      rw [hpc] at hdispatched
      exact Or.inl ⟨inProgress_of_started (by rw [hpc]; nofun) (by rw [hpc]; nofun), hdispatched⟩
    | _ =>
      rw [hpc] at hdispatched
      exact Or.inl ⟨inProgress_of_started (by rw [hpc]; nofun) (by rw [hpc]; nofun), hdispatched.2⟩
  · -- the loop still has the frame
    rw [hgiven, List.getElem?_append_right (by omega)] at hframe
    cases hhand : s.readLoop.inHand with
    | none =>
      rw [hhand] at hframe
      cases hframe
    | some frame' =>
      have hlast : d = s.started := by
        rw [hhand, Option.toList_some] at hframe
        have hzero := List.getElem?_eq_some_iff.mp hframe
        have hlt := hzero.1
        rw [List.length_singleton] at hlt
        omega
      subst hlast
      obtain ⟨hpc, hreplies⟩ := hplaced.unstarted _ le_rfl
      exact Or.inl ⟨inProgress_of_inHand hhand hpc, hreplies⟩

/-! ### A call right behind the acknowledgement -/

section Sample

open MsgPack (Value)
open Router (msgPackSerde)

/-- Bodies as msgpack maps; the arguments of a call are not looked at. -/
def valueCodec : BodyCodec Value where
  decodeCall bytes :=
    match ((MsgPack.fromSlice bytes).bind fun v => v.field "function").bind Router.strValue with
    | some function => .ok ⟨function, []⟩
    | none => .error "msgpack: invalid call body"
  encodeResponse result := .ok (MsgPack.encode (.map [(.str "result", result)]))
  encodeError body := .ok (MsgPack.encode (.map [(.str "code", .str body.code),
    (.str "message", .str body.message), (.str "kind", .str body.kind)]))

/-- The service with the library of the samples. -/
def localService : TransitionSystem State (Input Value) Event :=
  service (Bindings.rmpMsgpack msgPackSerde) valueCodec "service"

/-- The connection yields a call. -/
def reads : Input Value := .readLoop (.binary (Router.callBytes "caller" "service"))

/-- The first goroutine goes on; the worker returns nil and the write succeeds. -/
def dispatches : Input Value := .dispatch 0 (.ok .nil) (.ok ())

/-- `RunService` goes on. -/
def mains : Input Value := .main false

/-- The goroutine tests the variable after it was assigned: the call is answered. -/
theorem calls_answered_of_late_test : ∃ s tr,
    localService.Run (fun s _ i => AssignedBeforeTest s i) s tr ∧ s.closed = false ∧
    (framesRead tr).length = 1 ∧ (replies 0 tr).length = 1 ∧
    CallsAnswered (Bindings.rmpMsgpack msgPackSerde) valueCodec "service" s tr := by
  obtain ⟨s, tr, hrun, hp⟩ :=
    localService.exists_run_of_exec (fun s _ i => AssignedBeforeTest s i)
      [mains, reads, reads, reads, mains, dispatches, dispatches, dispatches, dispatches]
      (fun s tr => s.closed = false ∧ (framesRead tr).length = 1 ∧ (replies 0 tr).length = 1)
      (by decide +kernel)
  obtain ⟨hopen, hread, hreplied⟩ := of_decide_eq_true hp
  exact ⟨s, tr, hrun, hopen, hread, hreplied, calls_answered hrun⟩

/-- The goroutine tests the variable before it is assigned: the call is lost, on an open
connection. -/
theorem call_lost_of_early_test :
    ¬ ∀ s tr, localService.Reachable s tr →
      CallsAnswered (Bindings.rmpMsgpack msgPackSerde) valueCodec "service" s tr := by
  obtain ⟨s, tr, hrun, hp⟩ :=
    localService.exists_reachable_of_exec [mains, reads, reads, reads, dispatches, mains]
      (fun s tr => s.closed = false ∧ s.dispatches 0 = .returned ∧ replies 0 tr = [] ∧
        (framesRead tr)[0]?.map (fun frame => frame.envelope.kind) = some kindCall)
      (by decide +kernel)
  obtain ⟨hopen, hreturned, hnone, hread⟩ := of_decide_eq_true hp
  intro h
  obtain ⟨frame, hframe, hcall⟩ := Option.map_eq_some_iff.mp hread
  have hdone : rank s 0 = 0 := by
    rw [rank_of_started (by rw [hreturned]; nofun), hreturned]
    rfl
  rcases h s tr hrun hopen 0 frame hframe hcall with ⟨hprogress, -⟩ | ⟨envelope, hreply, -⟩
  · -- there is nothing left to do for the frame
    rcases hprogress with hloop | hdispatch
    · obtain ⟨s', evs, -, hrank⟩ := hloop .text
      omega
    · obtain ⟨s', evs, -, hrank⟩ := hdispatch (.ok .nil) (.ok ())
      omega
  · rw [hnone] at hreply
    cases hreply

end Sample

end Multifrost.Go.Service
