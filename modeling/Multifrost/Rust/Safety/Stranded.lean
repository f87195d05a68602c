import Multifrost.Router.Sample
import Multifrost.Rust.Safety.CallerStep

/-!
# Requests at the end of the inbound loop

When `inbound_loop` ends it sets the closed flag and fails every request in the pending map.  A
request that comes later is refused at its check of the flag.  The two locks are taken one after
the other, though, and a request that has passed the check may insert its entry after the map was
drained: nobody will answer that entry.  The request still fails if its frame cannot be sent; if
the frame goes out, the request waits for good, unless it has a timeout.

The loop ends at the first message that is not binary, so that the connection may be in order and
such a frame does go out.
-/

namespace Multifrost.Rust.CallerTransport

open Router (FrameParts Message RmpSerde)

variable {m : RmpSerde} {config : Config} {request : ReqId → Request}

/-- `inbound_loop` has drained the map. -/
def InboundPc.drained : InboundPc → Bool
  | .fail _ | .returned => true
  | _ => false

/-- Once `inbound_loop` has returned, a request that has not started will be refused, and one that
waits has an answer: its entry is out of the map, and its receiver yields without a timer. -/
def NoneStranded (config : Config) (request : ReqId → Request) (s : State) : Prop :=
  s.inbound = .returned → ∀ r,
    (s.requests r = .start → s.closed = true) ∧
    (s.requests r = .wait → s.pending.entries.lookup (key request r) ≠ some r ∧
      ∃ result, received config (s.pending.chan r) = some result)

/-- No frame is sent for a request whose entry is in a map that has been drained. -/
def NotSentLate (request : ReqId → Request) (s : State) : Input → Prop
  | .request r (.ok ()) _ => s.requests r = .send → s.inbound.drained = true →
      s.pending.entries.lookup (key request r) ≠ some r
  | _ => True

instance (s : State) : ∀ i, Decidable (NotSentLate request s i)
  | .request _ (.ok ()) _ => inferInstanceAs (Decidable (_ = _ → _ = _ → _ ≠ _))
  | .request _ (.error _) _ | .inbound .. | .abort | .disconnect .. =>
    inferInstanceAs (Decidable True)

/-! ### The invariant -/

/-- What holds of the transport from the end of the loop on. -/
structure Settled (request : ReqId → Request) (s : State) : Prop where
  /-- The flag is set before the map is drained. -/
  closed : s.inbound = .drain ∨ s.inbound.drained = true → s.closed = true
  /-- Once the map is drained, no request that waits has an entry. -/
  waiting : s.inbound.drained = true → ∀ r, s.requests r = .wait →
    s.pending.entries.lookup (key request r) ≠ some r

/-- There is nothing to show before the loop has set the flag. -/
theorem Settled.of_not_closing {s : State} (hdrain : s.inbound ≠ .drain)
    (hdrained : s.inbound.drained = false) : Settled request s := by
  constructor
  · rintro (hbefore | hafter)
    · exact absurd hbefore hdrain
    · rw [hdrained] at hafter
      cases hafter
  · intro hafter
    rw [hdrained] at hafter
    cases hafter

/-- A request that is put to wait has just sent its frame; any other step of a request adds an entry
at most for itself. -/
theorem lookup_of_requestStep {r q : ReqId} {sent : Except String Unit} {closed : Bool}
    {pending pending' : Pending} {pc pc' : RequestPc} {evs : List Event} {k : String}
    (h : RequestStep config (request r) r sent closed pending pc pending' pc' evs) (hq : q ≠ r)
    (hlookup : pending'.entries.lookup k = some q) : pending.entries.lookup k = some q := by
  cases h with
  | inserted => exact (PendingMap.lookup_of_lookup_insert hlookup).resolve_left hq
  | removed => exact PendingMap.lookup_of_lookup_remove hlookup
  | _ => exact hlookup

theorem sent_of_requestStep {r : ReqId} {sent : Except String Unit} {closed : Bool}
    {pending pending' : Pending} {pc : RequestPc} {evs : List Event}
    (h : RequestStep config (request r) r sent closed pending pc pending' .wait evs) :
    pc = .send ∧ sent = .ok () ∧ pending' = pending := by
  cases h with
  | sent hsent => exact ⟨rfl, hsent, rfl⟩

theorem Settled.of_requestStep {s : State} {r : ReqId} {sent : Except String Unit} {elapsed : Bool}
    {pending : Pending} {pc : RequestPc} {evs : List Event}
    (hs : Settled request s) (hc : NotSentLate request s (.request r sent elapsed))
    (h : RequestStep config (request r) r sent s.closed s.pending (s.requests r) pending pc evs) :
    Settled request
      { s with pending := pending, requests := Function.update s.requests r pc } := by
  refine ⟨hs.closed, ?_⟩
  intro hdrained q hwait hlookup
  by_cases hq : q = r
  · subst hq
    have hpc : pc = .wait := (Function.update_self ..).symm.trans hwait
    subst hpc
    obtain ⟨hsend, rfl, rfl⟩ := sent_of_requestStep h
    exact hc hsend hdrained hlookup
  · have hbefore : s.requests q = .wait := (Function.update_of_ne hq ..).symm.trans hwait
    exact hs.waiting hdrained q hbefore (lookup_of_requestStep h hq hlookup)

theorem Settled.of_inboundStep {s : State} {message : Option (Except String Message)} {closed : Bool}
    {pending : Pending} {pc : InboundPc} {evs : List Event} (hs : Settled request s)
    (h : InboundStep m config message s.closed s.pending s.inbound closed pending pc evs) :
    Settled request { s with closed := closed, pending := pending, inbound := pc } := by
  generalize hbefore : s.inbound = before at h
  cases h with
  | closes =>
    refine ⟨fun _ => rfl, ?_⟩
    intro hdrained
    cases hdrained
  | drains =>
    refine ⟨fun _ => hs.closed (Or.inl hbefore), ?_⟩
    -- the map is empty
    intro _ q _ hlookup
    rw [PendingMap.drain, AList.lookup_empty] at hlookup
    cases hlookup
  | fails hr =>
    have hdrained : s.inbound.drained = true := by rw [hbefore]; rfl
    exact ⟨fun _ => hs.closed (Or.inr hdrained), fun _ => hs.waiting hdrained⟩
  | returns =>
    have hdrained : s.inbound.drained = true := by rw [hbefore]; rfl
    exact ⟨fun _ => hs.closed (Or.inr hdrained), fun _ => hs.waiting hdrained⟩
  | _ =>
    -- the loop goes on, or has yet to set the flag
    exact Settled.of_not_closing (by rintro ⟨⟩) rfl

theorem settled {s : State} {tr : List Event}
    (h : (callerTransport m config request).Run (fun s _ i => NotSentLate request s i) s tr) :
    Settled request s := by
  refine TransitionSystem.Run.invariant (P := fun s _ => Settled request s) ?_ ?_ h
  · exact Settled.of_not_closing nofun rfl
  · intro s s' tr evs i _ hc hs ih
    cases step_of_callerTransport hs with
    | request hstep => exact ih.of_requestStep hc hstep
    | inbound hstep => exact ih.of_inboundStep hstep
    | abort hrequested hawaits => exact Settled.of_not_closing nofun rfl
    | disconnect hstep => exact ⟨ih.closed, ih.waiting⟩

/-- **No request is stranded** in a run in which no frame is sent for an entry that was made after
the map was drained. -/
theorem none_stranded {s : State} {tr : List Event}
    (h : (callerTransport m config request).Run (fun s _ i => NotSentLate request s i) s tr) :
    NoneStranded config request s := by
  intro hreturned r
  have hdrained : s.inbound.drained = true := by rw [hreturned]; rfl
  have hs := settled h
  refine ⟨fun _ => hs.closed (Or.inr hdrained), fun hwait => ?_⟩
  have hlookup := hs.waiting hdrained r hwait
  refine ⟨hlookup, ?_⟩
  have hchan : s.pending.chan r ≠ .pending := by
    intro hpending
    rcases owned h r hpending with hentry | hmem
    · exact hlookup hentry
    · rw [hreturned] at hmem
      cases hmem
  exact Option.ne_none_iff_exists'.mp (mt received_eq_none.mp hchan)

/-! ### Two ends of the loop -/

section Sample

open Router (msgPackSerde)

/-- A caller without a request timeout. -/
def localCaller : Config := ⟨"caller", "ws://127.0.0.1:9981", none⟩

/-- Requests with ids of their own. -/
def localRequest (r : ReqId) : Request := ⟨[], toString r⟩

/-- The request `r` takes a step; its frame can be sent. -/
def requests (r : ReqId) : Input := .request r (.ok ()) false

/-- The loop takes a step; a message is a ping. -/
def loops : Input := .inbound (some (.ok .ping)) 0

/-- A request that waits when the ping comes is failed by the loop. -/
theorem none_stranded_of_early_entry : ∃ s tr,
    (callerTransport msgPackSerde localCaller localRequest).Run
      (fun s _ i => NotSentLate localRequest s i) s tr ∧
    s.inbound = .returned ∧ s.requests 0 = .wait ∧ NoneStranded localCaller localRequest s := by
  obtain ⟨s, tr, hrun, hp⟩ :=
    (callerTransport msgPackSerde localCaller localRequest).exists_run_of_exec
      (fun s _ i => NotSentLate localRequest s i)
      [requests 0, requests 0, requests 0, loops, loops, loops, loops, loops]
      (fun s _ => s.inbound = .returned ∧ s.requests 0 = .wait) (by decide +kernel)
  obtain ⟨hreturned, hwait⟩ := of_decide_eq_true hp
  exact ⟨s, tr, hrun, hreturned, hwait, none_stranded hrun⟩

/-- A request that has passed the check before the ping, and inserts its entry after the drain, is
stranded. -/
theorem stranded_of_late_entry :
    ¬ ∀ s tr, (callerTransport msgPackSerde localCaller localRequest).Reachable s tr →
      NoneStranded localCaller localRequest s := by
  obtain ⟨s, tr, hrun, hp⟩ :=
    (callerTransport msgPackSerde localCaller localRequest).exists_reachable_of_exec
      [requests 0, loops, loops, loops, loops, requests 0, requests 0]
      (fun s _ => s.inbound = .returned ∧ s.requests 0 = .wait ∧ s.pending.chan 0 = .pending)
      (by decide +kernel)
  obtain ⟨hreturned, hwait, hchan⟩ := of_decide_eq_true hp
  intro h
  obtain ⟨-, result, hresult⟩ := ((h s tr hrun hreturned) 0).2 hwait
  rw [received_eq_none.mpr hchan] at hresult
  cases hresult

end Sample

end Multifrost.Rust.CallerTransport
