import Multifrost.Golang.Safety.Delivered

/-!
# The answers of a Go transport

A request returns what it receives from its channel.  What is in a channel is a reply that carries no
frame, from `cancelPending`, or the reply that `deliverPending` made of a frame with the message id
of the request (`Answer`): the entries of the map are under the message ids of their requests, and
the loop sends to the channel that it took out of the map with the frame in its hand.  `Changes`
lists what a step can do to all that.
-/

namespace Multifrost.Go.Transport

open Bindings (ErrorBody)
open Router (FrameParts)

variable {m : Msgpack} {decodeErrorBody : Bytes → Except Failure ErrorBody}
  {req : ReqId → Request} {closing : Nat → Option Failure}

/-! ### What is seen of a run -/

/-- The frame that `readLoop` reads in a step. -/
def readFrame (m : Msgpack) (s : State) : Input → List FrameParts
  | .readLoop (.binary bytes) =>
    match s.readLoop, decodeFrame m bytes with
    | .read, .ok frame => [frame]
    | _, _ => []
  | _ => []

/-- The frames that are read in a run, in order. -/
def framesRead (tr : List (FrameParts ⊕ Event)) : List FrameParts := tr.filterMap Sum.getLeft?

/-- The frame of a reply that is sent to a request. -/
def Event.answer : Event → Option FrameParts
  | .sent _ _ reply => reply.frame
  | _ => none

/-- The frames that requests are answered with, in order. -/
def answers (tr : List Event) : List FrameParts := tr.filterMap Event.answer

theorem answers_append (tr evs : List Event) : answers (tr ++ evs) = answers tr ++ answers evs :=
  List.filterMap_append

/-- The reply has no frame, or is made of one that was read and has the message id of the request. -/
def Answer (decodeErrorBody : Bytes → Except Failure ErrorBody) (req : ReqId → Request)
    (read : List FrameParts) (r : ReqId) (reply : Reply) : Prop :=
  ∀ frame, reply.frame = some frame →
    frame ∈ read ∧ frame.envelope.msgId = key req r ∧ reply = replyOf decodeErrorBody frame

theorem Answer.append {read : List FrameParts} {r : ReqId} {reply : Reply}
    (h : Answer decodeErrorBody req read r reply) (more : List FrameParts) :
    Answer decodeErrorBody req (read ++ more) r reply := by
  intro frame hframe
  obtain ⟨hread, h⟩ := h frame hframe
  exact ⟨List.mem_append_left _ hread, h⟩

/-! ### Channels -/

/-- No entry is new, and no reply with a frame. -/
structure Quiet (t t' : Shared) (evs : List Event) : Prop where
  lookup : ∀ k r, t'.pending.lookup k = some r → t.pending.lookup k = some r
  buffer : ∀ r reply, (t'.chan r).buffer = some reply → reply.frame ≠ none →
    (t.chan r).buffer = some reply
  answers : answers evs = []

theorem quiet_same {t : Shared} {evs : List Event} (h : answers evs = []) : Quiet t t evs :=
  ⟨fun _ _ => id, fun _ _ h _ => h, h⟩

theorem Quiet.refl {t : Shared} : Quiet t t [] := quiet_same rfl

theorem Quiet.of_untouched {t t' : Shared} {evs : List Event} (h : Untouched t t' evs) :
    Quiet t t' evs := by
  refine ⟨fun k r hk => ?_, fun r reply hr _ => ?_, ?_⟩
  · rwa [h.pending] at hk
  · rwa [h.chan] at hr
  · rw [h.evs]
    rfl

/-- One round of the loop in `cancelPending` puts nothing but its reply into a buffer. -/
theorem buffer_cancelEntry {p : Party} {reply : Reply} {chan : ReqId → Channel Reply} {q r : ReqId}
    {a : Reply} (h : ((cancelEntry p reply chan q).1 r).buffer = some a) :
    (chan r).buffer = some a ∨ a = reply := by
  by_cases hrq : r = q
  · subst hrq
    -- closing leaves the buffer as it is
    have hclose : ∀ (chan' : ReqId → Channel Reply) (c : Channel Reply),
        (chan' r).close = .done c → (Function.update chan' r c r).buffer = (chan' r).buffer := by
      intro chan' c hc
      rw [Function.update_self]
      exact Channel.buffer_of_close hc
    have hsend : ∀ c, (chan r).send reply = .done c →
        (Function.update chan r c r).buffer = some reply := by
      intro c hc
      rw [Function.update_self]
      exact Channel.buffer_of_send hc
    unfold cancelEntry at h
    dsimp only at h
    cases hs : (chan r).send reply with
    | done c =>
      rw [hs] at h
      dsimp only at h
      right
      split at h
      · rename_i c' hc'
        exact (Option.some.inj ((hsend c hs).symm.trans ((hclose _ c' hc').symm.trans h))).symm
      · exact (Option.some.inj ((hsend c hs).symm.trans h)).symm
    | _ =>
      rw [hs] at h
      dsimp only at h
      left
      split at h
      · rename_i c' hc'
        exact (hclose _ c' hc').symm.trans h
      · exact h
  · rw [cancelEntry_of_ne hrq] at h
    exact Or.inl h

theorem buffer_cancelEntries {p : Party} {reply : Reply} {r : ReqId} {a : Reply} {rs : List ReqId} :
    ∀ {chan : ReqId → Channel Reply}, ((cancelEntries p reply rs chan).1 r).buffer = some a →
      (chan r).buffer = some a ∨ a = reply := by
  induction rs with
  | nil => exact fun h => Or.inl h
  | cons q rs ih =>
    intro chan h
    rcases ih h with h | h
    · exact buffer_cancelEntry h
    · exact Or.inr h

theorem answers_cancelEntry {p : Party} {reply : Reply} {chan : ReqId → Channel Reply} {r : ReqId}
    (h : reply.frame = none) : answers (cancelEntry p reply chan r).2 = [] := by
  unfold cancelEntry
  dsimp only
  split <;> split <;> simp [answers, Event.answer, h]

theorem answers_cancelEntries {p : Party} {reply : Reply} (h : reply.frame = none)
    {rs : List ReqId} : ∀ {chan : ReqId → Channel Reply},
      answers (cancelEntries p reply rs chan).2 = [] := by
  induction rs with
  | nil => exact rfl
  | cons r rs ih =>
    intro chan
    show answers (_ ++ _) = []
    rw [answers_append, answers_cancelEntry h, List.nil_append]
    exact ih

theorem quiet_cancelPending {p : Party} {err : Option Failure} {t : Shared} :
    Quiet t (cancelPending p err t).1 (cancelPending p err t).2 := by
  refine ⟨fun k r hk => ?_, fun r reply hr hframe => ?_, ?_⟩
  · rw [cancelPending, AList.lookup_empty] at hk
    cases hk
  · refine (buffer_cancelEntries hr).resolve_right ?_
    rintro rfl
    exact hframe rfl
  · show answers (_ ++ [.drained]) = []
    rw [answers_append, answers_cancelEntries rfl]
    rfl

theorem quiet_closeWithError {p : Party} {err : Option Failure} {t t' : Shared} {pc : ClosePc}
    {pc' : Option ClosePc} {evs : List Event}
    (h : closeWithError p err t pc = some (t', pc', evs)) : Quiet t t' evs := by
  rcases closeWithError_cases h with huntouched | ⟨rfl, rfl⟩
  · exact .of_untouched huntouched
  · exact quiet_cancelPending

theorem quiet_writeBinary {p : Party} {written : Except String Unit} {t t' : Shared} {pc : WritePc}
    {next : Writing} {evs : List Event} (h : writeBinary p written t pc = some (t', next, evs)) :
    Quiet t t' evs := by
  rcases writeBinary_cases h with huntouched | ⟨err, rfl, rfl⟩
  · exact .of_untouched huntouched
  · exact quiet_cancelPending

/-! ### Steps -/

/-- The frame that a request has returned. -/
def RequestPc.frame? : RequestPc → Option FrameParts
  | .returned frame _ => frame
  | _ => none

theorem returned_of_frame {pc : RequestPc} {frame : FrameParts} (h : pc.frame? = some frame) :
    ∃ err, pc = .returned (some frame) err := by
  cases pc with
  | returned frame' err =>
    obtain rfl : frame' = some frame := h
    exact ⟨err, rfl⟩
  | _ => cases h

/-- The loop has a frame in its hand, or a reply. -/
def ReadPc.carries : ReadPc → Bool
  | .deliver _ | .send .. => true
  | _ => false

/-- The loop takes no frame and no channel in its hand, and no request returns a frame. -/
structure NoNews (s s' : State) : Prop where
  deliver : ∀ frame, s'.readLoop = .deliver frame → s.readLoop = .deliver frame
  send : ∀ r reply, s'.readLoop = .send r reply → s.readLoop = .send r reply
  returned : ∀ r frame err, s'.requests r = .returned (some frame) err →
    s.requests r = .returned (some frame) err

/-- What a step does to the map, the channels, the loop and the requests. -/
inductive Changes (m : Msgpack) (decodeErrorBody : Bytes → Except Failure ErrorBody)
    (req : ReqId → Request) (s : State) (i : Input) (s' : State) (evs : List Event) : Prop
  | quiet (hquiet : Quiet s.shared s'.shared evs) (hnews : NoNews s s')
  /-- a request makes its entry and its channel -/
  | opens {r : ReqId} (hpending : s'.shared.pending = s.shared.pending.insert (key req r) r)
      (hchan : s'.shared.chan = Function.update s.shared.chan r .fresh) (hnews : NoNews s s')
      (hevs : evs = [])
  | reads {frame : FrameParts} (hpc : s.readLoop = .read) (hread : readFrame m s i = [frame])
      (h : s' = { s with readLoop := .deliver frame }) (hevs : evs = [])
  | delivers {frame : FrameParts} {r : ReqId} (hpc : s.readLoop = .deliver frame)
      (hlookup : s.shared.pending.lookup frame.envelope.msgId = some r)
      (hquiet : Quiet s.shared s'.shared evs) (hrequests : s'.requests = s.requests)
      (hpc' : s'.readLoop = .send r (replyOf decodeErrorBody frame))
  | fills {r : ReqId} {reply : Reply} {c : Channel Reply} (hpc : s.readLoop = .send r reply)
      (hc : c.buffer = some reply) (hpending : s'.shared.pending = s.shared.pending)
      (hchan : s'.shared.chan = Function.update s.shared.chan r c)
      (hrequests : s'.requests = s.requests) (hpc' : s'.readLoop = .closeChan r)
      (hevs : evs = [.sent .readLoop r reply])
  | receives {r : ReqId} {reply : Reply} (hbuffer : (s.shared.chan r).buffer = some reply)
      (hquiet : Quiet s.shared s'.shared evs) (hloop : s'.readLoop = s.readLoop)
      (hrequests : s'.requests = Function.update s.requests r (.returned reply.frame reply.err))

/-- A request moves on and returns no frame. -/
theorem noNews_request {s : State} {r : ReqId} {t : Shared} {pc : RequestPc}
    (hpc : pc.frame? = none) :
    NoNews s { s with shared := t, requests := Function.update s.requests r pc } := by
  refine ⟨fun _ => id, fun _ _ => id, fun q frame err hq => ?_⟩
  by_cases hqr : q = r
  · subst hqr
    dsimp only at hq
    rw [Function.update_self] at hq
    rw [hq] at hpc
    cases hpc
  · dsimp only at hq
    rwa [Function.update_of_ne hqr] at hq

/-- The loop moves on with nothing in its hand. -/
theorem noNews_readLoop {s : State} {t : Shared} {pc : ReadPc} (hpc : pc.carries = false) :
    NoNews s { s with shared := t, readLoop := pc } := by
  refine ⟨fun frame h => ?_, fun r reply h => ?_, fun _ _ _ => id⟩
  · obtain rfl : pc = .deliver frame := h
    cases hpc
  · obtain rfl : pc = .send r reply := h
    cases hpc

theorem noNews_same {s : State} {t : Shared} {sends : Nat → SendPc}
    {closers : Nat → Option ClosePc} :
    NoNews s { s with shared := t, sends := sends, closers := closers } :=
  ⟨fun _ => id, fun _ _ => id, fun _ _ _ => id⟩

theorem quiet_erase {t : Shared} {k : String} {evs : List Event} (h : answers evs = []) :
    Quiet t { t with pending := t.pending.erase k } evs :=
  ⟨fun _ _ => lookup_of_lookup_erase, fun _ _ h _ => h, h⟩

/-- A channel gets another state with a buffer that holds no more. -/
theorem quiet_update {t : Shared} {r : ReqId} {c : Channel Reply} {evs : List Event}
    (h : c.buffer = none ∨ c.buffer = (t.chan r).buffer) (hevs : answers evs = []) :
    Quiet t { t with chan := Function.update t.chan r c } evs := by
  refine ⟨fun _ _ => id, fun q reply hq _ => ?_, hevs⟩
  by_cases hqr : q = r
  · subst hqr
    dsimp only at hq
    rw [Function.update_self] at hq
    rcases h with hnone | hsame
    · rw [hnone] at hq
      cases hq
    · rwa [hsame] at hq
  · dsimp only at hq
    rwa [Function.update_of_ne hqr] at hq

theorem changes_request {s : State} {i : Input} {r : ReqId} {written : Except String Unit}
    {taken : Case} {t : Shared} {pc : RequestPc} {evs : List Event}
    (h : request m (req r) r written taken s.shared (s.requests r) = some (t, pc, evs)) :
    Changes m decodeErrorBody req s i
      { s with shared := t, requests := Function.update s.requests r pc } evs := by
  generalize s.requests r = before at h
  cases before with
  | start =>
    simp only [request] at h
    split_ifs at h <;> cases h <;> exact .quiet .refl (noNews_request rfl)
  | insert =>
    cases h
    exact .opens rfl rfl (noNews_request rfl) rfl
  | encode =>
    simp only [request] at h
    split at h <;> cases h <;> exact .quiet .refl (noNews_request rfl)
  | write pc =>
    obtain ⟨⟨t₁, next, evs₁⟩, hwrite, heq⟩ := Option.map_eq_some_iff.mp h
    rcases next with pc₁ | ⟨err | u⟩ <;> cases heq <;>
      exact .quiet (quiet_writeBinary hwrite) (noNews_request rfl)
  | select =>
    cases taken with
    | reply =>
      obtain ⟨⟨a, c⟩, hreceive, heq⟩ := Option.map_eq_some_iff.mp h
      cases heq
      obtain ⟨hbuffer, hempty⟩ := Channel.buffer_of_receive hreceive
      cases a with
      | some reply => exact .receives hbuffer (quiet_update (Or.inl hempty) rfl) rfl rfl
      | none => exact .quiet (quiet_update (Or.inl hempty) rfl) (noNews_request rfl)
    | done err =>
      cases h
      exact .quiet .refl (noNews_request rfl)
    | closed =>
      simp only [request] at h
      split_ifs at h
      cases h
      exact .quiet .refl (noNews_request rfl)
  | remove err =>
    cases h
    refine .quiet (quiet_erase ?_) (noNews_request rfl)
    unfold removePending
    cases s.shared.pending.lookup (req r).envelope.msgId <;> rfl
  | returned frame err => cases h

theorem changes_readLoop {s : State} {incoming : Incoming} {t : Shared} {pc : ReadPc}
    {evs : List Event}
    (h : readLoop m decodeErrorBody incoming s.shared s.readLoop = some (t, pc, evs)) :
    Changes m decodeErrorBody req s (.readLoop incoming) { s with shared := t, readLoop := pc }
      evs := by
  cases hpc : s.readLoop with
  | read =>
    rw [hpc] at h
    simp only [readLoop] at h
    split at h
    · split at h <;> cases h
      · rename_i bytes frame hframe
        exact .reads hpc (by simp only [readFrame, hpc, hframe]) rfl rfl
      · exact .quiet .refl (noNews_readLoop rfl)
    all_goals
      cases h
      exact .quiet .refl (noNews_readLoop rfl)
  | deliver frame =>
    rw [hpc] at h
    simp only [readLoop] at h
    split at h
    · rename_i r hlookup
      cases h
      exact .delivers hpc hlookup (quiet_erase rfl) rfl rfl
    · cases h
      exact .quiet .refl (noNews_readLoop rfl)
  | send r reply =>
    rw [hpc] at h
    simp only [readLoop] at h
    split at h
    · rename_i c hc
      cases h
      exact .fills hpc (Channel.buffer_of_send hc) rfl rfl rfl rfl rfl
    · cases h
    · cases h
      exact .quiet (quiet_same rfl) (noNews_readLoop rfl)
  | closeChan r =>
    rw [hpc] at h
    simp only [readLoop] at h
    split at h
    · rename_i c hc
      cases h
      exact .quiet (quiet_update (Or.inr (Channel.buffer_of_close hc)) rfl)
        (noNews_readLoop rfl)
    · cases h
      exact .quiet (quiet_same rfl) (noNews_readLoop rfl)
  | dispatch frame =>
    rw [hpc] at h
    simp only [readLoop] at h
    split_ifs at h <;> cases h <;> exact .quiet .refl (noNews_readLoop rfl)
  | close err pc =>
    rw [hpc] at h
    obtain ⟨⟨t₁, pc₁, evs₁⟩, hclose, heq⟩ := Option.map_eq_some_iff.mp h
    cases pc₁ <;> cases heq <;>
      exact .quiet (quiet_closeWithError hclose) (noNews_readLoop rfl)
  | deferred pc =>
    rw [hpc] at h
    obtain ⟨⟨t₁, pc₁, evs₁⟩, hclose, heq⟩ := Option.map_eq_some_iff.mp h
    cases pc₁ <;> cases heq <;>
      exact .quiet (quiet_closeWithError hclose) (noNews_readLoop rfl)
  | returned =>
    rw [hpc] at h
    cases h

theorem changes_of_step {s s' : State} {i : Input} {evs : List Event}
    (h : (transport m decodeErrorBody req closing).step i s = some (s', evs)) :
    Changes m decodeErrorBody req s i s' evs := by
  cases i with
  | request r written taken =>
    obtain ⟨⟨t, pc, evs'⟩, hstep, heq⟩ := Option.map_eq_some_iff.mp h
    cases heq
    exact changes_request hstep
  | send d written =>
    obtain ⟨⟨t, pc, evs'⟩, hstep, heq⟩ := Option.map_eq_some_iff.mp h
    cases heq
    cases hpc : s.sends d with
    | write pc =>
      rw [hpc] at hstep
      obtain ⟨⟨t₁, next, evs₁⟩, hwrite, heq⟩ := Option.map_eq_some_iff.mp hstep
      cases next <;> cases heq <;> exact .quiet (quiet_writeBinary hwrite) noNews_same
    | returned result =>
      rw [hpc] at hstep
      cases hstep
  | close k =>
    obtain ⟨pc, -, hstep⟩ := Option.bind_eq_some_iff.mp h
    obtain ⟨⟨t, pc', evs'⟩, hclose, heq⟩ := Option.map_eq_some_iff.mp hstep
    cases heq
    exact .quiet (quiet_closeWithError hclose) noNews_same
  | readLoop incoming =>
    obtain ⟨⟨t, pc, evs'⟩, hstep, heq⟩ := Option.map_eq_some_iff.mp h
    cases heq
    exact changes_readLoop hstep

/-! ### Runs -/

variable (decodeErrorBody req) in
/-- Whatever a frame passes on its way to a request, it is an answer to that request. -/
structure Answered (read : List FrameParts) (s : State) : Prop where
  keyed : ∀ k r, s.shared.pending.lookup k = some r → k = key req r
  hand : ∀ frame, s.readLoop = .deliver frame → frame ∈ read
  sending : ∀ r reply, s.readLoop = .send r reply → Answer decodeErrorBody req read r reply
  buffer : ∀ r reply, (s.shared.chan r).buffer = some reply →
    Answer decodeErrorBody req read r reply
  returned : ∀ r frame err, s.requests r = .returned (some frame) err →
    Answer decodeErrorBody req read r ⟨some frame, err⟩

section Answered

variable {read : List FrameParts} {s s' : State} {i : Input} {evs : List Event}

/-- More frames are read. -/
theorem Answered.append (h : Answered decodeErrorBody req read s) (more : List FrameParts) :
    Answered decodeErrorBody req (read ++ more) s where
  keyed := h.keyed
  hand frame hpc := List.mem_append_left _ (h.hand frame hpc)
  sending r reply hpc := (h.sending r reply hpc).append more
  buffer r reply hr := (h.buffer r reply hr).append more
  returned r frame err hpc := (h.returned r frame err hpc).append more

/-- A reply that a quiet step leaves in a buffer is an answer. -/
theorem Answered.buffer_of_quiet (h : Answered decodeErrorBody req read s)
    (hquiet : Quiet s.shared s'.shared evs) {r : ReqId} {reply : Reply}
    (hr : (s'.shared.chan r).buffer = some reply) : Answer decodeErrorBody req read r reply := by
  intro frame hframe
  have hsome : reply.frame ≠ none := by
    rw [hframe]
    nofun
  exact h.buffer r reply (hquiet.buffer r reply hr hsome) frame hframe

theorem Answered.step (h : Answered decodeErrorBody req read s)
    (hs : Changes m decodeErrorBody req s i s' evs) :
    Answered decodeErrorBody req (read ++ readFrame m s i) s' := by
  have hmore := h.append (readFrame m s i)
  cases hs with
  | quiet hquiet hnews =>
    exact ⟨fun k r hk => h.keyed k r (hquiet.lookup k r hk),
      fun frame hpc => hmore.hand frame (hnews.deliver frame hpc),
      fun r reply hpc => hmore.sending r reply (hnews.send r reply hpc),
      fun r reply hr => hmore.buffer_of_quiet hquiet hr,
      fun r frame err hpc => hmore.returned r frame err (hnews.returned r frame err hpc)⟩
  | @opens r hpending hchan hnews hevs =>
    refine ⟨fun k q hk => ?_, fun frame hpc => hmore.hand frame (hnews.deliver frame hpc),
      fun q reply hpc => hmore.sending q reply (hnews.send q reply hpc), fun q reply hq => ?_,
      fun q frame err hpc => hmore.returned q frame err (hnews.returned q frame err hpc)⟩
    · rw [hpending] at hk
      by_cases hkey : k = key req r
      · subst hkey
        rw [AList.lookup_insert] at hk
        rw [Option.some.inj hk]
      · rw [AList.lookup_insert_ne hkey] at hk
        exact h.keyed k q hk
    · rw [hchan] at hq
      by_cases hqr : q = r
      · subst hqr
        rw [Function.update_self] at hq
        cases hq
      · rw [Function.update_of_ne hqr] at hq
        exact hmore.buffer q reply hq
  | @reads frame hpc hread heq hevs =>
    subst heq
    refine ⟨h.keyed, fun frame' hframe' => ?_, nofun, hmore.buffer, hmore.returned⟩
    cases hframe'
    rw [hread]
    exact List.mem_append_right _ (List.mem_singleton_self _)
  | @delivers frame r hpc hlookup hquiet hrequests hpc' =>
    refine ⟨fun k q hk => h.keyed k q (hquiet.lookup k q hk), fun frame' hframe' => ?_,
      fun q reply hreply => ?_, fun q reply hq => hmore.buffer_of_quiet hquiet hq,
      hrequests ▸ hmore.returned⟩
    · rw [hpc'] at hframe'
      cases hframe'
    · rw [hpc'] at hreply
      cases hreply
      intro frame' hframe'
      obtain rfl : frame = frame' := Option.some.inj hframe'
      exact ⟨hmore.hand frame hpc, h.keyed _ r hlookup, rfl⟩
  | @fills r reply c hpc hc hpending hchan hrequests hpc' hevs =>
    refine ⟨hpending ▸ h.keyed, fun frame hframe => ?_, fun q reply' hreply => ?_,
      fun q reply' hq => ?_, hrequests ▸ hmore.returned⟩
    · rw [hpc'] at hframe
      cases hframe
    · rw [hpc'] at hreply
      cases hreply
    · rw [hchan] at hq
      by_cases hqr : q = r
      · subst hqr
        rw [Function.update_self, hc] at hq
        cases hq
        exact hmore.sending q reply hpc
      · rw [Function.update_of_ne hqr] at hq
        exact hmore.buffer q reply' hq
  | @receives r reply hbuffer hquiet hloop hrequests =>
    refine ⟨fun k q hk => h.keyed k q (hquiet.lookup k q hk), hloop ▸ hmore.hand,
      hloop ▸ hmore.sending, fun q reply' hq => hmore.buffer_of_quiet hquiet hq,
      fun q frame err hq => ?_⟩
    rw [hrequests] at hq
    by_cases hqr : q = r
    · subst hqr
      rw [Function.update_self] at hq
      obtain ⟨hframe, rfl⟩ := RequestPc.returned.inj hq
      rw [← hframe]
      exact hmore.buffer q reply hbuffer
    · rw [Function.update_of_ne hqr] at hq
      exact hmore.returned q frame err hq

end Answered

/-! ### Frames are used once -/

/-- The frame that the loop has in its hand. -/
def ReadPc.frames : ReadPc → List FrameParts
  | .deliver frame => [frame]
  | .send _ reply => reply.frame.toList
  | _ => []

theorem frames_of_noNews {s s' : State} (h : NoNews s s') :
    s'.readLoop.frames.Sublist s.readLoop.frames := by
  cases hpc : s'.readLoop with
  | deliver frame => rw [h.deliver frame hpc]
  | send r reply => rw [h.send r reply hpc]
  | _ => exact List.nil_sublist _

/-- An answer is the frame in the loop's hand, and a frame comes there when it is read. -/
theorem frames_step {s s' : State} {i : Input} {evs : List Event}
    (hs : Changes m decodeErrorBody req s i s' evs) :
    (answers evs ++ s'.readLoop.frames).Sublist (s.readLoop.frames ++ readFrame m s i) := by
  cases hs with
  | quiet hquiet hnews =>
    rw [hquiet.answers, List.nil_append]
    exact (frames_of_noNews hnews).trans (List.sublist_append_left _ _)
  | opens _ _ hnews hevs =>
    rw [hevs]
    exact (frames_of_noNews hnews).trans (List.sublist_append_left _ _)
  | @reads frame hpc hread heq hevs =>
    rw [hevs, hread, heq]
    exact List.sublist_append_right _ _
  | @delivers frame r hpc hlookup hquiet hrequests hpc' =>
    rw [hquiet.answers, hpc, hpc']
    exact List.sublist_append_left [frame] _
  | @fills r reply c hpc hc hpending hchan hrequests hpc' hevs =>
    have hanswers : answers evs = reply.frame.toList := by
      rw [hevs]
      unfold answers Event.answer
      cases hframe : reply.frame <;> simp [hframe]
    rw [hanswers, hpc, hpc']
    show (reply.frame.toList ++ []).Sublist (reply.frame.toList ++ _)
    rw [List.append_nil]
    exact List.sublist_append_left _ _
  | receives _ hquiet hloop _ =>
    rw [hquiet.answers, hloop]
    exact List.sublist_append_left _ _

/-- What is sent to a request is an answer to it. -/
theorem sent_step {read : List FrameParts} {s s' : State} {i : Input} {evs : List Event} {p : Party}
    {r : ReqId} {reply : Reply} (h : Answered decodeErrorBody req read s)
    (hs : Changes m decodeErrorBody req s i s' evs) (hmem : .sent p r reply ∈ evs) :
    Answer decodeErrorBody req read r reply := by
  have hempty : answers evs = [] → Answer decodeErrorBody req read r reply := by
    intro hnone frame hframe
    have hmem' : frame ∈ answers evs := List.mem_filterMap.mpr ⟨_, hmem, hframe⟩
    rw [hnone] at hmem'
    cases hmem'
  cases hs with
  | quiet hquiet _ => exact hempty hquiet.answers
  | opens _ _ _ hevs => exact hempty (by rw [hevs]; rfl)
  | reads _ _ _ hevs => exact hempty (by rw [hevs]; rfl)
  | delivers _ _ hquiet _ _ => exact hempty hquiet.answers
  | fills hpc _ _ _ _ _ hevs =>
    rw [hevs, List.mem_singleton] at hmem
    cases hmem
    exact h.sending r reply hpc
  | receives _ hquiet _ _ => exact hempty hquiet.answers

/-- **The answers of concurrent requests.**  A request that returns a frame returns one that was read
and has its message id, with the error that this frame stands for.  Whatever is sent to a request is
such an answer, and no frame that is read is sent twice. -/
theorem replies_correlated {s : State} {tr : List (FrameParts ⊕ Event)}
    (h : ((transport m decodeErrorBody req closing).observed (readFrame m)).Reachable s tr) :
    (∀ r frame err, s.requests r = .returned (some frame) err →
      frame ∈ framesRead tr ∧ frame.envelope.msgId = key req r ∧
        err = (replyOf decodeErrorBody frame).err) ∧
    (∀ p r reply, .sent p r reply ∈ tr.filterMap Sum.getRight? →
      Answer decodeErrorBody req (framesRead tr) r reply) ∧
    (answers (tr.filterMap Sum.getRight?)).Sublist (framesRead tr) := by
  suffices hinv : Answered decodeErrorBody req (framesRead tr) s ∧
      (∀ p r reply, .sent p r reply ∈ tr.filterMap Sum.getRight? →
        Answer decodeErrorBody req (framesRead tr) r reply) ∧
      (answers (tr.filterMap Sum.getRight?) ++ s.readLoop.frames).Sublist (framesRead tr) by
    obtain ⟨hanswered, hsent, hsub⟩ := hinv
    refine ⟨fun r frame err hreturned => ?_, hsent, (List.sublist_append_left _ _).trans hsub⟩
    obtain ⟨hread, hid, hreply⟩ := hanswered.returned r frame err hreturned frame rfl
    exact ⟨hread, hid, congrArg Reply.err hreply⟩
  refine TransitionSystem.Reachable.invariant
    (T := (transport m decodeErrorBody req closing).observed (readFrame m))
    (P := fun s tr => Answered decodeErrorBody req (framesRead tr) s ∧
      (∀ p r reply, .sent p r reply ∈ tr.filterMap Sum.getRight? →
        Answer decodeErrorBody req (framesRead tr) r reply) ∧
      (answers (tr.filterMap Sum.getRight?) ++ s.readLoop.frames).Sublist (framesRead tr)) ?_ ?_ h
  · refine ⟨⟨fun k r hk => ?_, nofun, nofun, nofun, nofun⟩, nofun, List.nil_sublist _⟩
    exact absurd (AList.lookup_empty k ▸ hk) nofun
  · intro s s' tr evs i _ hs ih
    obtain ⟨hanswered, hsent, hsub⟩ := ih
    obtain ⟨evs₀, hs₀, rfl⟩ := TransitionSystem.step_observed.mp hs
    have hchanges := changes_of_step hs₀
    unfold framesRead at *
    rw [TransitionSystem.filterMap_getLeft_observed, TransitionSystem.filterMap_getRight_observed,
      answers_append]
    refine ⟨hanswered.step hchanges, fun p r reply hmem => ?_, ?_⟩
    · rcases List.mem_append.mp hmem with hmem | hmem
      · exact (hsent p r reply hmem).append _
      · exact (sent_step hanswered hchanges hmem).append _
    · have hstep := (List.Sublist.refl (answers (tr.filterMap Sum.getRight?))).append
        (frames_step hchanges)
      rw [← List.append_assoc, ← List.append_assoc] at hstep
      exact hstep.trans (hsub.append (List.Sublist.refl _))

section Sample

open Router (msgPackSerde)

/-- Two requests, answered in the other order; a response that nobody asked for comes first. -/
theorem replies_correlated_two : ∃ s tr frame err,
    (localTransport.observed (readFrame (Bindings.rmpMsgpack msgPackSerde))).Reachable s tr ∧
    s.requests 1 = .returned (some frame) err ∧ frame.envelope.msgId = localId 1 ∧
    (framesRead tr).length = 3 ∧ (answers (tr.filterMap Sum.getRight?)).length = 2 ∧
    (answers (tr.filterMap Sum.getRight?)).Sublist (framesRead tr) := by
  obtain ⟨s, tr, hrun, hp⟩ :=
    (localTransport.observed (readFrame (Bindings.rmpMsgpack msgPackSerde))).exists_reachable_of_exec
      (List.replicate 8 (requests 0) ++ List.replicate 8 (requests 1) ++
        List.replicate 3 (responds 2) ++ List.replicate 4 (responds 1) ++
        List.replicate 4 (responds 0) ++ [requests 1])
      (fun s tr => (s.requests 1).frame?.isSome ∧ (framesRead tr).length = 3 ∧
        (answers (tr.filterMap Sum.getRight?)).length = 2) (by decide +kernel)
  obtain ⟨hreturned, hread, hanswers⟩ := of_decide_eq_true hp
  obtain ⟨frame, hframe⟩ := Option.isSome_iff_exists.mp hreturned
  obtain ⟨err, hpc⟩ := returned_of_frame hframe
  obtain ⟨hown, -, hsub⟩ := replies_correlated hrun
  obtain ⟨-, hid, -⟩ := hown 1 frame err hpc
  exact ⟨s, tr, frame, err, hrun, hpc, hid, hread, hanswers, hsub⟩

end Sample

end Multifrost.Go.Transport
