import Multifrost.Router.Sample
import Multifrost.Rust.Safety.CallerStep

/-!
# The answers of the caller transport

A frame that `inbound_loop` decodes goes to the request whose entry is under the frame's message id,
if there is one.  The entry is taken out of the map with it, and its channel carries one answer, so
that neither a frame nor a request is used twice, whatever else happens to the map in between:
entries that are replaced, entries of requests that have timed out, and the drain at the end.
-/

namespace Multifrost.Rust.CallerTransport

open Router (FrameParts Message RmpSerde)

variable {m : RmpSerde} {config : Config} {request : ReqId → Request}

/-! ### What is seen of a run -/

/-- The frame that `inbound_loop` reads in a step. -/
def readFrame (m : RmpSerde) (s : State) : Input → List FrameParts
  | .inbound (some (.ok (.binary bytes))) _ =>
    match s.inbound, decodeFrame m bytes with
    | .next, .ok frame => [frame]
    | _, _ => []
  | _ => []

/-- The frames that are read in a run, in order. -/
def framesRead (tr : List (FrameParts ⊕ Event)) : List FrameParts := tr.filterMap Sum.getLeft?

/-- The frame of an event by which a request is answered. -/
def Event.answer : Event → Option FrameParts
  | .completed _ (.ok frame) => some frame
  | _ => none

/-- The frames by which requests are answered, in order. -/
def answers (tr : List Event) : List FrameParts := tr.filterMap Event.answer

/-- The result of an event that completes the request `r`. -/
def Event.completion (r : ReqId) : Event → Option (Except MultifrostError FrameParts)
  | .completed q result => if q = r then some result else none
  | _ => none

theorem completed_of_completion {r : ReqId} {e : Event} {result : Except MultifrostError FrameParts}
    (h : e.completion r = some result) : e = .completed r result := by
  cases e with
  | sent frame => cases h
  | completed q result' =>
    simp only [Event.completion] at h
    split_ifs at h with hq
    rw [hq, Option.some.inj h]

/-- All results that reach the request `r`, in order. -/
def completions (r : ReqId) (tr : List Event) : List (Except MultifrostError FrameParts) :=
  tr.filterMap (Event.completion r)

theorem completions_append (r : ReqId) (tr evs : List Event) :
    completions r (tr ++ evs) = completions r tr ++ completions r evs :=
  List.filterMap_append

/-- The events of a step that leaves the channel of `r` alone say nothing to `r`. -/
theorem completions_append_of_nil {r : ReqId} {tr evs : List Event} (h : completions r evs = []) :
    completions r (tr ++ evs) = completions r tr := by
  rw [completions_append, h, List.append_nil]

/-! ### Entries -/

theorem keyed_requestStep {r : ReqId} {sent : Except String Unit} {closed : Bool}
    {pending pending' : Pending} {pc pc' : RequestPc} {evs : List Event}
    (h : RequestStep config (request r) r sent closed pending pc pending' pc' evs)
    (hkeyed : pending.Keyed (key request)) : pending'.Keyed (key request) := by
  cases h with
  | inserted => exact hkeyed.insert
  | removed => exact hkeyed.remove
  | _ => exact hkeyed

theorem keyed_inboundStep {message : Option (Except String Message)} {closed closed' : Bool}
    {pending pending' : Pending} {pc pc' : InboundPc} {evs : List Event}
    (h : InboundStep m config message closed pending pc closed' pending' pc' evs)
    (hkeyed : pending.Keyed (key request)) : pending'.Keyed (key request) := by
  cases h with
  | delivered htake => exact (hkeyed.take htake).send
  | fails hr => exact hkeyed.send
  | drains => exact PendingMap.Keyed.drain
  | _ => exact hkeyed

/-- In every run the entries are under the message ids of their requests. -/
theorem keyed {s : State} {tr : List Event}
    (h : (callerTransport m config request).Reachable s tr) :
    s.pending.Keyed (key request) := by
  refine TransitionSystem.Reachable.invariant
    (P := fun s _ => s.pending.Keyed (key request)) PendingMap.keyed_empty ?_ h
  intro s s' tr evs i _ hs ih
  cases step_of_callerTransport hs with
  | request hstep => exact keyed_requestStep hstep ih
  | inbound hstep => exact keyed_inboundStep hstep ih
  | abort hrequested hawaits => exact ih
  | disconnect hstep => exact ih

/-! ### Channels -/

/-- What a step can do to the channel of `r`, with the events that tell. -/
inductive ChanStep (request : ReqId → Request) (r : ReqId) (s s' : State) (evs : List Event) : Prop
  | fades (h : (s.pending.chan r).Fades (s'.pending.chan r)) (hevs : completions r evs = [])
  | opens (h : s.requests r = .insert) (h' : s'.requests r = .send)
      (hchan : s'.pending.chan r = .pending) (hevs : evs = [])
  | answers {result : Except MultifrostError FrameParts} (h : s.pending.chan r = .pending)
      (hchan : s'.pending.chan r = .sent result) (hevs : completions r evs = [result])
      (hpc : s'.requests = s.requests)
      (hid : ∀ frame, result = .ok frame → frame.envelope.msgId = key request r)

/-- An answer that is sent to `q` reaches `q` if `q` can still receive, and nobody else. -/
theorem chanStep_complete {q r : ReqId} {s s' : State} {pending : Pending}
    {result : Except MultifrostError FrameParts} (hbefore : pending.chan = s.pending.chan)
    (hafter : s'.pending = (complete pending q result).1) (hpc : s'.requests = s.requests)
    (hid : ∀ frame, result = .ok frame → frame.envelope.msgId = key request q) :
    ChanStep request r s s' (complete pending q result).2 := by
  have hchan : s'.pending.chan r = (pending.send q result).chan r := by
    rw [hafter]
    rfl
  by_cases hqr : r = q
  · subst hqr
    rw [PendingMap.chan_send_self, hbefore] at hchan
    by_cases hpending : s.pending.chan r = .pending
    · rw [hpending] at hchan
      refine ChanStep.answers hpending hchan ?_ hpc hid
      simp [complete, hbefore, hpending, completions, Event.completion]
    · have hsame : (s.pending.chan r).send result = s.pending.chan r := by
        cases hc : s.pending.chan r with
        | pending => exact absurd hc hpending
        | sent a => rfl
        | closed => rfl
      refine ChanStep.fades (Or.inl (hchan.trans hsame)) ?_
      simp [complete, hbefore, hpending, completions]
  · rw [PendingMap.chan_send_of_ne hqr, hbefore] at hchan
    refine ChanStep.fades (Or.inl hchan) ?_
    unfold complete
    split_ifs
    · simp [completions, Event.completion, Ne.symm hqr]
    · rfl

theorem chanStep_requestStep {q r : ReqId} {s : State} {sent : Except String Unit}
    {pending : Pending} {pc : RequestPc} {evs : List Event}
    (h : RequestStep config (request q) q sent s.closed s.pending (s.requests q) pending pc evs) :
    ChanStep request r s { s with pending := pending, requests := Function.update s.requests q pc }
      evs := by
  generalize hpc : s.requests q = before at h
  cases h with
  | inserted =>
    by_cases hqr : r = q
    · subst hqr
      exact ChanStep.opens hpc (Function.update_self ..) PendingMap.chan_insert_self rfl
    · exact ChanStep.fades (PendingMap.fades_insert hqr) rfl
  | removed =>
    exact ChanStep.fades (PendingMap.fades_remove.trans PendingMap.fades_drop) rfl
  | elapsed => exact ChanStep.fades PendingMap.fades_drop rfl
  | _ => exact ChanStep.fades Oneshot.Fades.rfl rfl

theorem chanStep_inboundStep {r : ReqId} {s : State} {message : Option (Except String Message)}
    {closed : Bool} {pending : Pending} {pc : InboundPc} {evs : List Event}
    (h : InboundStep m config message s.closed s.pending s.inbound closed pending pc evs)
    (hkeyed : s.pending.Keyed (key request)) :
    ChanStep request r s { s with closed := closed, pending := pending, inbound := pc } evs := by
  generalize s.inbound = before at h
  cases h with
  | @delivered frame q pending' htake =>
    obtain ⟨hlookup, rfl⟩ := PendingMap.take_eq_some.mp htake
    refine chanStep_complete rfl rfl rfl ?_
    intro frame' hframe
    cases hframe
    exact hkeyed _ _ hlookup
  | fails hr => exact chanStep_complete rfl rfl rfl nofun
  | _ => exact ChanStep.fades Oneshot.Fades.rfl rfl

/-- All that a `disconnect` does to be seen is to send a frame. -/
theorem events_of_disconnect {msgId : String} {ts : Float64} {sent : Except String Unit}
    {task abort task' abort' : Bool} {pc pc' : DisconnectPc} {evs : List Event}
    (h : disconnect m config msgId ts sent task abort pc = some (task', abort', pc', evs)) :
    evs = [] ∨ ∃ frame, evs = [.sent frame] := by
  cases pc with
  | start =>
    simp only [disconnect] at h
    split at h <;> cases h <;> exact Or.inl rfl
  | send frame =>
    cases sent <;> cases h
    · exact Or.inl rfl
    · exact Or.inr ⟨frame, rfl⟩
  | take =>
    cases h
    exact Or.inl rfl
  | returned result => cases h

theorem chanStep_step {r : ReqId} {s s' : State} {i : Input} {evs : List Event}
    (h : Step m config request s i s' evs) (hkeyed : s.pending.Keyed (key request)) :
    ChanStep request r s s' evs := by
  cases h with
  | request hstep => exact chanStep_requestStep hstep
  | inbound hstep => exact chanStep_inboundStep hstep hkeyed
  | abort hrequested hawaits => exact ChanStep.fades Oneshot.Fades.rfl rfl
  | @disconnect d msgId ts sent task abort pc evs hstep =>
    refine ChanStep.fades Oneshot.Fades.rfl ?_
    rcases events_of_disconnect hstep with rfl | ⟨frame, rfl⟩ <;> rfl

/-! ### Requests -/

/-- A request that has no entry yet. -/
def RequestPc.early : RequestPc → Bool
  | .start | .insert => true
  | _ => false

/-- The channel of a request, the answers it was given and what it returned agree. -/
structure Answering (request : ReqId → Request) (r : ReqId) (s : State) (tr : List Event) : Prop where
  /-- The channel is opened with the entry. -/
  closed : (s.requests r).early = true → s.pending.chan r = .closed
  /-- A request that can still be answered has not been. -/
  unanswered : (s.requests r).early = true ∨ s.pending.chan r = .pending → completions r tr = []
  once : (completions r tr).length ≤ 1
  sent : ∀ result, s.pending.chan r = .sent result → result ∈ completions r tr
  returned : ∀ frame, s.requests r = .returned (.ok frame) → .ok frame ∈ completions r tr
  msgId : ∀ frame, .ok frame ∈ completions r tr → frame.envelope.msgId = key request r

theorem answering_init {r : ReqId} :
    Answering request r (callerTransport m config request).init [] where
  closed _ := rfl
  unanswered _ := rfl
  once := Nat.zero_le 1
  sent _ h := nomatch h
  returned _ h := nomatch h
  msgId _ h := nomatch h

/-- A request returns a frame only when it is in its channel, and never goes back before its entry
is made. -/
theorem requests_of_step {r : ReqId} {s s' : State} {i : Input} {evs : List Event}
    (h : Step m config request s i s' evs) :
    ((s'.requests r).early = true → (s.requests r).early = true) ∧
    ∀ frame, s'.requests r = .returned (.ok frame) →
      s.requests r = .returned (.ok frame) ∨ s.pending.chan r = .sent (.ok frame) := by
  cases h with
  | @request q sent elapsed pending pc evs hstep =>
    by_cases hq : r = q
    · subst hq
      simp only [Function.update_self]
      generalize s.requests r = before at hstep
      cases hstep with
      | @answered result hreceived =>
        refine ⟨nofun, ?_⟩
        intro frame hframe
        cases hframe
        right
        cases hchan : s.pending.chan r with
        | sent result =>
          rw [hchan] at hreceived
          rw [Option.some.inj hreceived]
        | _ =>
          rw [hchan] at hreceived
          cases hreceived
      | passed hopen => exact ⟨fun _ => rfl, nofun⟩
      | _ => exact ⟨nofun, nofun⟩
    · simp only [Function.update_of_ne hq]
      exact ⟨id, fun _ => Or.inl⟩
  | _ => exact ⟨id, fun _ => Or.inl⟩

theorem Answering.of_step {r : ReqId} {s s' : State} {i : Input} {tr evs : List Event}
    (ih : Answering request r s tr) (hkeyed : s.pending.Keyed (key request))
    (h : Step m config request s i s' evs) : Answering request r s' (tr ++ evs) := by
  obtain ⟨hearly, hreturned⟩ := requests_of_step (r := r) h
  have hbefore : ∀ frame, s'.requests r = .returned (.ok frame) → .ok frame ∈ completions r tr := by
    intro frame hframe
    rcases hreturned frame hframe with hframe | hsent
    · exact ih.returned frame hframe
    · exact ih.sent _ hsent
  cases chanStep_step (r := r) h hkeyed with
  | fades hchan hevs =>
    have hsame : completions r (tr ++ evs) = completions r tr := completions_append_of_nil hevs
    constructor
    · exact fun hpc => hchan.closed (ih.closed (hearly hpc))
    · intro hopen
      rw [hsame]
      exact ih.unanswered (hopen.imp hearly hchan.pending)
    · rw [hsame]
      exact ih.once
    · intro result hsent
      rw [hsame]
      exact ih.sent result (hchan.sent hsent)
    · rw [hsame]
      exact hbefore
    · rw [hsame]
      exact ih.msgId
  | opens hpc hpc' hchan hevs =>
    subst hevs
    rw [List.append_nil]
    have hnone : completions r tr = [] := ih.unanswered (Or.inl (by rw [hpc]; rfl))
    constructor
    · intro hearly'
      rw [hpc'] at hearly'
      cases hearly'
    · exact fun _ => hnone
    · exact ih.once
    · intro result hsent
      rw [hchan] at hsent
      cases hsent
    · exact hbefore
    · exact ih.msgId
  | @answers result hpending hchan hevs hpc hid =>
    have hnone : completions r tr = [] := ih.unanswered (Or.inr hpending)
    have hone : completions r (tr ++ evs) = [result] := by
      rw [completions_append, hnone, hevs, List.nil_append]
    have hlate : (s'.requests r).early = false := by
      -- a request without an entry has no open channel
      rw [hpc, Bool.eq_false_iff]
      intro hearly'
      rw [ih.closed hearly'] at hpending
      cases hpending
    constructor
    · intro hearly'
      rw [hlate] at hearly'
      cases hearly'
    · rintro (hearly' | hopen)
      · rw [hlate] at hearly'
        cases hearly'
      · rw [hchan] at hopen
        cases hopen
    · rw [hone]
      exact Nat.le_refl 1
    · intro result' hsent
      rw [hchan] at hsent
      rw [hone, Oneshot.sent.inj hsent]
      exact List.mem_singleton_self _
    · intro frame hframe
      rw [completions_append]
      exact List.mem_append_left _ (hbefore frame hframe)
    · intro frame hframe
      rw [hone, List.mem_singleton] at hframe
      exact hid frame hframe.symm

theorem answering {r : ReqId} {s : State} {tr : List Event}
    (h : (callerTransport m config request).Reachable s tr) : Answering request r s tr := by
  refine TransitionSystem.Reachable.invariant
    (P := fun s tr => Answering request r s tr) answering_init ?_ h
  intro s s' tr evs i hreach hs ih
  exact ih.of_step (keyed hreach) (step_of_callerTransport hs)

/-! ### Frames -/

/-- The frame that `inbound_loop` has in hand. -/
def InboundPc.inHand : InboundPc → List FrameParts
  | .deliver frame => [frame]
  | _ => []

theorem answers_complete (pending : Pending) (r : ReqId)
    (result : Except MultifrostError FrameParts) :
    (answers (complete pending r result).2).Sublist (answers [.completed r result]) := by
  unfold complete
  split_ifs
  · exact List.Sublist.refl _
  · exact List.nil_sublist _

/-- A frame that is read is taken in hand, and an answer is the frame in hand. -/
theorem answers_inboundStep {s : State} {message : Option (Except String Message)} {pick : Nat}
    {closed : Bool} {pending : Pending} {pc : InboundPc} {evs : List Event}
    (h : InboundStep m config message s.closed s.pending s.inbound closed pending pc evs) :
    (answers evs ++ pc.inHand).Sublist
      (s.inbound.inHand ++ readFrame m s (.inbound message pick)) := by
  generalize hpc : s.inbound = before at h
  cases h with
  | @decoded bytes frame hmessage hd =>
    subst hmessage
    have hread : readFrame m s (.inbound (some (.ok (.binary bytes))) pick) = [frame] := by
      simp only [readFrame, hpc, hd]
    rw [hread]
    exact List.Sublist.refl _
  | delivered htake =>
    simp only [InboundPc.inHand, List.append_nil]
    exact (answers_complete _ _ _).trans (List.sublist_append_left _ _)
  | fails hr =>
    simp only [InboundPc.inHand, List.append_nil]
    exact (answers_complete _ _ _).trans (List.nil_sublist _)
  | _ => exact List.nil_sublist _

theorem answers_step {s s' : State} {i : Input} {evs : List Event}
    (h : Step m config request s i s' evs) :
    (answers evs ++ s'.inbound.inHand).Sublist (s.inbound.inHand ++ readFrame m s i) := by
  cases h with
  | request hstep =>
    have hevs : answers evs = [] := by
      generalize s.requests _ = before at hstep
      cases hstep <;> rfl
    rw [hevs]
    exact List.sublist_append_left _ _
  | inbound hstep => exact answers_inboundStep hstep
  | abort hrequested hawaits => exact List.nil_sublist _
  | disconnect hstep =>
    have hevs : answers evs = [] := by
      rcases events_of_disconnect hstep with rfl | ⟨frame, rfl⟩ <;> rfl
    rw [hevs]
    exact List.sublist_append_left _ _

/-- The frames that requests were answered with, and the one in hand, were read in this order. -/
theorem answers_sublist {s : State} {tr : List (FrameParts ⊕ Event)}
    (h : ((callerTransport m config request).observed (readFrame m)).Reachable s tr) :
    (answers (tr.filterMap Sum.getRight?) ++ s.inbound.inHand).Sublist (framesRead tr) := by
  refine TransitionSystem.Reachable.invariant
    (P := fun s tr => (answers (tr.filterMap Sum.getRight?) ++ s.inbound.inHand).Sublist
      (framesRead tr)) (List.Sublist.refl _) ?_ h
  intro s s' tr evs i _ hs ih
  obtain ⟨evs₀, hs₀, rfl⟩ := TransitionSystem.step_observed.mp hs
  have hstep := answers_step (step_of_callerTransport hs₀)
  rw [TransitionSystem.filterMap_getRight_observed, framesRead,
    TransitionSystem.filterMap_getLeft_observed, answers, List.filterMap_append, List.append_assoc]
  refine (hstep.append_left _).trans ?_
  rw [← List.append_assoc]
  exact ih.append_right _

/-! ### Correlation -/

/-- **Requests and answers belong together**, in every state of every run: a request that returns a
frame has been answered with it, and it has the message id of the request; the answers are frames
that were read, each used once; no request is completed twice; and a frame whose message id has no
entry is dropped, and the loop goes on. -/
theorem requests_correlated {s : State} {tr : List (FrameParts ⊕ Event)}
    (h : ((callerTransport m config request).observed (readFrame m)).Reachable s tr) :
    (∀ r frame, s.requests r = .returned (.ok frame) →
      frame.envelope.msgId = (request r).msgId ∧ Sum.inr (.completed r (.ok frame)) ∈ tr) ∧
    (answers (tr.filterMap Sum.getRight?)).Sublist (framesRead tr) ∧
    (∀ r, (completions r (tr.filterMap Sum.getRight?)).length ≤ 1) ∧
    ∀ frame message pick, s.inbound = .deliver frame →
      s.pending.entries.lookup frame.envelope.msgId = none →
      (callerTransport m config request).step (.inbound message pick) s =
        some ({ s with inbound := .next }, []) := by
  have hreach := h.of_observed
  refine ⟨?_, ?_, fun r => (answering hreach).once, ?_⟩
  · intro r frame hreturned
    have hmem := (answering hreach).returned frame hreturned
    refine ⟨(answering hreach).msgId frame hmem, ?_⟩
    obtain ⟨e, he, hcompletion⟩ := List.mem_filterMap.mp hmem
    obtain ⟨e', he', heq⟩ := List.mem_filterMap.mp he
    rw [← completed_of_completion hcompletion, ← Sum.getRight?_eq_some_iff.mp heq]
    exact he'
  · exact (List.sublist_append_left _ _).trans (answers_sublist h)
  · intro frame message pick hpc hlookup
    have htake : s.pending.take frame.envelope.msgId = none := PendingMap.take_eq_none.mpr hlookup
    simp only [callerTransport, inboundLoop, hpc, htake, Option.map_some]

section Sample

open Router (Envelope kindResponse msgPackSerde protocolVersion)

/-- A caller without a request timeout. -/
def quietCaller : Config := ⟨"caller", "ws://127.0.0.1:9981", none⟩

/-- Requests with ids of their own. -/
def quietRequest (r : ReqId) : Request := ⟨[], toString r⟩

/-- The response to the request with an id. -/
def quietResponse (msgId : String) : FrameParts :=
  ⟨⟨protocolVersion, kindResponse, msgId, "service", "caller", .one⟩, []⟩

/-- The loop takes a step; a message is the response to the request with this id. -/
def responds (msgId : String) : Input :=
  .inbound (some (.ok (.binary
    ((encodeFrame msgPackSerde (quietResponse msgId).envelope []).toOption.getD [])))) 0

/-- Two requests, answered in the other order; a response nobody asked for comes first. -/
theorem requests_correlated_two : ∃ s tr,
    ((callerTransport msgPackSerde quietCaller quietRequest).observed
      (readFrame msgPackSerde)).Reachable s tr ∧
    s.requests 1 = .returned (.ok (quietResponse "1")) ∧
    (quietResponse "1").envelope.msgId = (quietRequest 1).msgId ∧
    (framesRead tr).length = 3 ∧
    (answers (tr.filterMap Sum.getRight?)).Sublist (framesRead tr) := by
  obtain ⟨s, tr, hrun, hp⟩ :=
    ((callerTransport msgPackSerde quietCaller quietRequest).observed
      (readFrame msgPackSerde)).exists_reachable_of_exec
      ([0, 1, 0, 1, 0, 1].map (fun r => Input.request r (.ok ()) false) ++
        [responds "2", responds "2", responds "1", responds "1", responds "0", responds "0",
          .request 1 (.ok ()) false])
      (fun s tr => s.requests 1 = .returned (.ok (quietResponse "1")) ∧ (framesRead tr).length = 3)
      (by decide +kernel)
  obtain ⟨hreturned, hread⟩ := of_decide_eq_true hp
  obtain ⟨hid, hanswers, -⟩ := requests_correlated hrun
  exact ⟨s, tr, hrun, hreturned, (hid 1 _ hreturned).1, hread, hanswers⟩

end Sample

end Multifrost.Rust.CallerTransport
