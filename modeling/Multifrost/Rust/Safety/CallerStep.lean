import Multifrost.Rust.CallerTransport

/-!
# The steps of the caller transport

What each party of the transport can do in one step, one constructor for a branch of the source,
and the first invariant of its runs: the sender of an open channel is in the pending map, or among
those that `inbound_loop` has drained and not used yet.
-/

namespace Multifrost.Rust.CallerTransport

open Router (FrameParts Message RmpSerde)

variable {m : RmpSerde} {config : Config} {request : ReqId → Request}

/-! ### One party -/

/-- The steps of a `send_and_wait`. -/
inductive RequestStep (config : Config) (req : Request) (r : ReqId) (sent : Except String Unit)
    (closed : Bool) (pending : Pending) : RequestPc → Pending → RequestPc → List Event → Prop
  | refused (h : closed = true) : RequestStep config req r sent closed pending .start pending
      (.returned (.error (.routerUnavailable config.routerEndpoint))) []
  | passed (h : closed = false) : RequestStep config req r sent closed pending .start pending
      .insert []
  | inserted : RequestStep config req r sent closed pending .insert (pending.insert req.msgId r)
      .send []
  | sent (h : sent = .ok ()) : RequestStep config req r sent closed pending .send pending .wait
      [.sent req.frame]
  | sendFailed {text : String} (h : sent = .error text) :
      RequestStep config req r sent closed pending .send pending (.remove (.webSocketError text)) []
  | removed {err : MultifrostError} : RequestStep config req r sent closed pending (.remove err)
      ((pending.remove req.msgId).drop r) (.returned (.error err)) []
  | answered {result : Except MultifrostError FrameParts}
      (h : received config (pending.chan r) = some result) :
      RequestStep config req r sent closed pending .wait pending (.returned result) []
  | elapsed (h : pending.chan r = .pending) (hs : config.requestTimeout.isSome = true) :
      RequestStep config req r sent closed pending .wait (pending.drop r)
        (.returned (.error .timeoutError)) []

theorem received_eq_none {config : Config} {c : Oneshot (Except MultifrostError FrameParts)} :
    received config c = none ↔ c = .pending := by
  cases c <;> simp [received]

theorem requestStep_of_sendAndWait {req : Request} {r : ReqId} {sent : Except String Unit}
    {elapsed closed : Bool} {pending pending' : Pending} {pc pc' : RequestPc} {evs : List Event}
    (h : sendAndWait config req r sent elapsed closed pending pc = some (pending', pc', evs)) :
    RequestStep config req r sent closed pending pc pending' pc' evs := by
  cases pc with
  | start =>
    cases closed <;> cases h
    · exact .passed rfl
    · exact .refused rfl
  | insert =>
    cases h
    exact .inserted
  | send =>
    cases sent <;> cases h
    · exact .sendFailed rfl
    · exact .sent rfl
  | remove err =>
    cases h
    exact .removed
  | wait =>
    simp only [sendAndWait] at h
    split at h
    · rename_i result hresult
      cases h
      exact .answered hresult
    · rename_i hnone
      split_ifs at h with helapsed
      cases h
      exact .elapsed (received_eq_none.mp hnone) (Bool.and_eq_true_iff.mp helapsed).1
  | returned result => cases h

/-- The steps of `inbound_loop`. -/
inductive InboundStep (m : RmpSerde) (config : Config) (message : Option (Except String Message))
    (closed : Bool) (pending : Pending) : InboundPc → Bool → Pending → InboundPc → List Event → Prop
  | decoded {bytes : Bytes} {frame : FrameParts} (h : message = some (.ok (.binary bytes)))
      (hd : decodeFrame m bytes = .ok frame) :
      InboundStep m config message closed pending .next closed pending (.deliver frame) []
  | skipped {bytes : Bytes} {err : MultifrostError} (h : message = some (.ok (.binary bytes)))
      (hd : decodeFrame m bytes = .error err) :
      InboundStep m config message closed pending .next closed pending .next []
  | ended (h : ∀ bytes, message ≠ some (.ok (.binary bytes))) :
      InboundStep m config message closed pending .next closed pending .close []
  | delivered {frame : FrameParts} {r : ReqId} {pending' : Pending}
      (h : pending.take frame.envelope.msgId = some (r, pending')) :
      InboundStep m config message closed pending (.deliver frame) closed
        (complete pending' r (.ok frame)).1 .next (complete pending' r (.ok frame)).2
  | unmatched {frame : FrameParts} (h : pending.take frame.envelope.msgId = none) :
      InboundStep m config message closed pending (.deliver frame) closed pending .next []
  | closes : InboundStep m config message closed pending .close true pending .drain []
  | drains : InboundStep m config message closed pending .drain closed pending.drain
      (.fail pending.senders) []
  | fails {senders : List ReqId} {r : ReqId} (h : r ∈ senders) :
      InboundStep m config message closed pending (.fail senders) closed
        (complete pending r (.error (.routerUnavailable config.routerEndpoint))).1
        (.fail (senders.erase r))
        (complete pending r (.error (.routerUnavailable config.routerEndpoint))).2
  | returns : InboundStep m config message closed pending (.fail []) closed pending .returned []

theorem inboundStep_of_inboundLoop {message : Option (Except String Message)} {pick : Nat}
    {closed closed' : Bool} {pending pending' : Pending} {pc pc' : InboundPc} {evs : List Event}
    (h : inboundLoop m config message pick closed pending pc = some (closed', pending', pc', evs)) :
    InboundStep m config message closed pending pc closed' pending' pc' evs := by
  cases pc with
  | next =>
    simp only [inboundLoop] at h
    split at h
    · rename_i bytes
      cases hd : decodeFrame m bytes with
      | ok frame =>
        rw [hd] at h
        cases h
        exact .decoded rfl hd
      | error err =>
        rw [hd] at h
        cases h
        exact .skipped rfl hd
    · rename_i hother
      cases h
      exact .ended hother
  | deliver frame =>
    simp only [inboundLoop] at h
    split at h
    · rename_i r taken htake
      cases h
      exact .delivered htake
    · rename_i htake
      cases h
      exact .unmatched htake
  | close =>
    cases h
    exact .closes
  | drain =>
    cases h
    exact .drains
  | fail senders =>
    cases senders with
    | nil =>
      cases h
      exact .returns
    | cons sender senders =>
      obtain ⟨r, hr, heq⟩ := Option.map_eq_some_iff.mp h
      cases heq
      exact .fails (List.mem_of_getElem? hr)
  | returned => cases h
  | aborted => cases h

/-! ### The transport -/

/-- The steps of the transport; a `disconnect` changes neither the closed flag nor the map. -/
inductive Step (m : RmpSerde) (config : Config) (request : ReqId → Request) (s : State) :
    Input → State → List Event → Prop
  | request {r : ReqId} {sent : Except String Unit} {elapsed : Bool} {pending : Pending}
      {pc : RequestPc} {evs : List Event}
      (h : RequestStep config (request r) r sent s.closed s.pending (s.requests r) pending pc evs) :
      Step m config request s (.request r sent elapsed)
        { s with pending := pending, requests := Function.update s.requests r pc } evs
  | inbound {message : Option (Except String Message)} {pick : Nat} {closed : Bool}
      {pending : Pending} {pc : InboundPc} {evs : List Event}
      (h : InboundStep m config message s.closed s.pending s.inbound closed pending pc evs) :
      Step m config request s (.inbound message pick)
        { s with closed := closed, pending := pending, inbound := pc } evs
  | abort (h : s.abortRequested = true) (ha : s.inbound.awaits = true) :
      Step m config request s .abort { s with inbound := .aborted } []
  | disconnect {d : Nat} {msgId : String} {ts : Float64} {sent : Except String Unit}
      {task abort : Bool} {pc : DisconnectPc} {evs : List Event}
      (h : disconnect m config msgId ts sent s.inboundTask s.abortRequested (s.disconnects d) =
        some (task, abort, pc, evs)) :
      Step m config request s (.disconnect d msgId ts sent)
        { s with
            inboundTask := task, abortRequested := abort
            disconnects := Function.update s.disconnects d pc } evs

theorem step_of_callerTransport {s s' : State} {i : Input} {evs : List Event}
    (h : (callerTransport m config request).step i s = some (s', evs)) :
    Step m config request s i s' evs := by
  cases i with
  | request r sent elapsed =>
    obtain ⟨⟨pending, pc, evs'⟩, hstep, heq⟩ := Option.map_eq_some_iff.mp h
    cases heq
    exact .request (requestStep_of_sendAndWait hstep)
  | inbound message pick =>
    obtain ⟨⟨closed, pending, pc, evs'⟩, hstep, heq⟩ := Option.map_eq_some_iff.mp h
    cases heq
    exact .inbound (inboundStep_of_inboundLoop hstep)
  | abort =>
    simp only [callerTransport] at h
    split_ifs at h with habort
    cases h
    obtain ⟨hrequested, hawaits⟩ := Bool.and_eq_true_iff.mp habort
    exact .abort hrequested hawaits
  | disconnect d msgId ts sent =>
    obtain ⟨⟨task, abort, pc, evs'⟩, hstep, heq⟩ := Option.map_eq_some_iff.mp h
    cases heq
    exact .disconnect hstep

/-! ### No sender is lost -/

/-- The senders that `inbound_loop` has in hand. -/
def InboundPc.senders : InboundPc → List ReqId
  | .fail senders => senders
  | _ => []

/-- The key of a request. -/
def key (request : ReqId → Request) (r : ReqId) : String := (request r).msgId

theorem owned_requestStep {r : ReqId} {sent : Except String Unit} {closed : Bool}
    {pending pending' : Pending} {pc pc' : RequestPc} {evs : List Event} {taken : List ReqId}
    (h : RequestStep config (request r) r sent closed pending pc pending' pc' evs)
    (howned : pending.Owned (key request) taken) : pending'.Owned (key request) taken := by
  cases h with
  | inserted => exact howned.insert
  | removed =>
    -- a sender is lost with its channel: the request is gone
    apply PendingMap.Owned.drop
    exact howned.remove.mono (List.subset_cons_self r taken)
  | elapsed => exact (howned.mono (List.subset_cons_self r taken)).drop
  | _ => exact howned

theorem owned_inboundStep {message : Option (Except String Message)} {closed closed' : Bool}
    {pending pending' : Pending} {pc pc' : InboundPc} {evs : List Event}
    (h : InboundStep m config message closed pending pc closed' pending' pc' evs)
    (howned : pending.Owned (key request) pc.senders) :
    pending'.Owned (key request) pc'.senders := by
  cases h with
  | delivered htake => exact (howned.take htake).send
  | drains => exact howned.drain
  -- the sender that is used leaves the list
  | fails hr =>
    apply PendingMap.Owned.send
    exact howned.mono (List.perm_cons_erase hr).subset
  | _ => exact howned

/-- In every run the sender of an open channel is in the map, or in the hands of the loop. -/
theorem owned {C : State → List Event → Input → Prop} {s : State} {tr : List Event}
    (h : (callerTransport m config request).Run C s tr) :
    s.pending.Owned (key request) s.inbound.senders := by
  refine TransitionSystem.Run.invariant
    (P := fun s _ => s.pending.Owned (key request) s.inbound.senders) PendingMap.owned_empty ?_ h
  intro s s' tr evs i _ _ hs ih
  cases step_of_callerTransport hs with
  | request hstep => exact owned_requestStep hstep ih
  | inbound hstep => exact owned_inboundStep hstep ih
  | abort hrequested hawaits =>
    -- where the loop awaits it has no sender in hand
    have hsenders : s.inbound.senders = [] := by
      cases hpc : s.inbound with
      | fail senders =>
        rw [hpc] at hawaits
        cases hawaits
      | _ => rfl
    rw [hsenders] at ih
    exact ih
  | disconnect hstep => exact ih

end Multifrost.Rust.CallerTransport
