import Multifrost.Rust.Safety.Correlation
import Multifrost.Rust.Safety.Stranded

/-!
# Requests after a disconnect

`disconnect` sends a frame and aborts the task of `inbound_loop`.  That task is the only one that
sets the closed flag and fails the requests in the map, and it does so when its connection ends.  A
`disconnect` that comes before takes both away: the requests that wait are left to their timers,
and later ones are not refused.  Where the loop has drained the map by then, everything is resolved
without another message.
-/

namespace Multifrost.Rust.CallerTransport

open Router (FrameParts Message RmpSerde routerPeerId)

variable {m : RmpSerde} {config : Config} {request : ReqId → Request}

/-- The next step of a `disconnect` is its last. -/
def DisconnectPc.last (m : RmpSerde) (config : Config) (msgId : String) (ts : Float64) :
    DisconnectPc → Bool
  | .start =>
    !(encodeFrame m (buildDisconnectEnvelope config.peerId routerPeerId msgId ts) []).isOk
  | .send _ => false
  | .take => true
  | .returned _ => false

/-- No `disconnect` returns before the map is drained, and no frame is sent after that for a request
whose entry is in the map. -/
def StopsDrained (m : RmpSerde) (config : Config) (request : ReqId → Request) (s : State) :
    Input → Prop
  | .disconnect d msgId ts _ =>
    (s.disconnects d).last m config msgId ts = true → s.inbound.drained = true
  | i => NotSentLate request s i

instance (s : State) : ∀ i, Decidable (StopsDrained m config request s i)
  | .disconnect .. => inferInstanceAs (Decidable (_ = _ → _ = _))
  | .request r sent elapsed =>
    inferInstanceAs (Decidable (NotSentLate request s (.request r sent elapsed)))
  | .inbound .. | .abort => inferInstanceAs (Decidable True)

/-- The loop takes a step. -/
def Input.isInbound : Input → Bool
  | .inbound .. => true
  | _ => false

/-- Everything is resolved, or will be, whatever comes from the connection. -/
structure Resolved (m : RmpSerde) (config : Config) (request : ReqId → Request) (s : State) :
    Prop where
  /-- A request that starts is refused. -/
  refused : ∀ r sent elapsed, s.requests r = .start →
    (callerTransport m config request).step (.request r sent elapsed) s =
      some ({ s with
        requests := Function.update s.requests r
          (.returned (.error (.routerUnavailable config.routerEndpoint))) }, [])
  /-- The loop takes so many steps and no more; then the receiver of a request that waits yields what
  was in it, or an error. -/
  finishes : ∀ is tr s', (callerTransport m config request).Path (fun _ i => i.isInbound = true)
      s is tr s' →
    is.length ≤ s.inbound.senders.length + 1 ∧
    ((∀ i : Input, i.isInbound = true → (callerTransport m config request).step i s' = none) →
      ∀ r, s.requests r = .wait → ∃ result,
        received config (s'.pending.chan r) = some result ∧
        (received config (s.pending.chan r) = some result ∨
          result = .error (.routerUnavailable config.routerEndpoint)))
  /-- An entry is that of a request whose frame has not been sent. -/
  entries : ∀ k r, s.pending.entries.lookup k = some r →
    s.requests r = .send ∨ ∃ err, s.requests r = .remove err

/-- Once a `disconnect` has returned, everything is resolved. -/
def StopResolves (m : RmpSerde) (config : Config) (request : ReqId → Request) (s : State) : Prop :=
  ∀ d result, s.disconnects d = .returned result → Resolved m config request s

/-! ### The drained map -/

/-- What the guard keeps of the transport. -/
structure Stopped (s : State) : Prop where
  drained : ∀ d result, s.disconnects d = .returned result → s.inbound.drained = true
  abort : s.abortRequested = true → s.inbound.drained = true
  entries : s.inbound.drained = true → ∀ k r, s.pending.entries.lookup k = some r →
    s.requests r = .send ∨ ∃ err, s.requests r = .remove err

theorem awaits_of_drained {pc : InboundPc} (h : pc.drained = true) : pc.awaits = false := by
  cases pc with
  | fail senders => rfl
  | returned => rfl
  | _ => cases h

/-- The loop does not go back. -/
theorem drained_of_inboundStep {message : Option (Except String Message)} {closed closed' : Bool}
    {pending pending' : Pending} {pc pc' : InboundPc} {evs : List Event}
    (h : InboundStep m config message closed pending pc closed' pending' pc' evs)
    (hdrained : pc.drained = true) : pc'.drained = true := by
  cases h <;> first
    | rfl
    | cases hdrained

/-- Once the map is drained the loop makes no entry. -/
theorem lookup_of_inboundStep {message : Option (Except String Message)} {closed closed' : Bool}
    {pending pending' : Pending} {pc pc' : InboundPc} {evs : List Event}
    (h : InboundStep m config message closed pending pc closed' pending' pc' evs)
    (hdrained : pc'.drained = true) :
    (pc.drained = true ∧ pending'.entries = pending.entries) ∨ pending'.entries = ∅ := by
  cases h with
  | drains => exact Or.inr rfl
  | fails _ => exact Or.inl ⟨rfl, rfl⟩
  | returns => exact Or.inl ⟨rfl, rfl⟩
  | _ => cases hdrained

theorem entries_of_requestStep {s : State} {r : ReqId} {sent : Except String Unit} {elapsed : Bool}
    {pending : Pending} {pc : RequestPc} {evs : List Event} (hs : Stopped s)
    (hkeyed : s.pending.Keyed (key request))
    (hc : NotSentLate request s (.request r sent elapsed))
    (h : RequestStep config (request r) r sent s.closed s.pending (s.requests r) pending pc evs)
    (hdrained : s.inbound.drained = true) {k : String} {q : ReqId}
    (hlookup : pending.entries.lookup k = some q) :
    Function.update s.requests r pc q = .send ∨
      ∃ err, Function.update s.requests r pc q = .remove err := by
  by_cases hq : q = r
  · subst hq
    rw [Function.update_self]
    have hbefore := hs.entries hdrained k q
    generalize hpc : s.requests q = before at h
    cases h with
    | inserted => exact Or.inl rfl
    | sendFailed _ => exact Or.inr ⟨_, rfl⟩
    | sent hsent =>
      subst hsent
      rw [hkeyed _ _ hlookup] at hlookup
      exact absurd hlookup (hc hpc hdrained)
    | removed =>
      have hkey := hkeyed _ _ (PendingMap.lookup_of_lookup_remove hlookup)
      rw [hkey] at hlookup
      exact absurd (PendingMap.lookup_remove_self.symm.trans hlookup) (by simp)
    | refused _ | passed _ | answered _ | elapsed _ _ =>
      rcases hbefore hlookup with hsend | ⟨err, hremove⟩
      · rw [hpc] at hsend
        cases hsend
      · rw [hpc] at hremove
        cases hremove
  · rw [Function.update_of_ne hq]
    exact hs.entries hdrained k q (lookup_of_requestStep h hq hlookup)

/-- A `disconnect` that returns, or asks for the task to be cancelled, has taken its last step. -/
theorem last_of_disconnect {msgId : String} {ts : Float64} {sent : Except String Unit}
    {task abort task' abort' : Bool} {pc pc' : DisconnectPc} {evs : List Event}
    (h : disconnect m config msgId ts sent task abort pc = some (task', abort', pc', evs))
    (hlast : pc.last m config msgId ts = false) :
    abort' = abort ∧ ∀ result, pc' ≠ .returned result := by
  cases pc with
  | start =>
    cases hencode : encodeFrame m (buildDisconnectEnvelope config.peerId routerPeerId msgId ts)
        [] with
    | ok frame =>
      simp only [disconnect, hencode, Option.some.injEq, Prod.mk.injEq] at h
      obtain ⟨-, rfl, rfl, -⟩ := h
      exact ⟨rfl, by rintro _ ⟨⟩⟩
    | error err =>
      simp only [DisconnectPc.last, hencode] at hlast
      cases hlast
  | send frame =>
    cases h
    exact ⟨rfl, by rintro _ ⟨⟩⟩
  | take => cases hlast
  | returned result => cases h

theorem stopped {s : State} {tr : List Event}
    (h : (callerTransport m config request).Run (fun s _ i => StopsDrained m config request s i)
      s tr) : Stopped s := by
  refine TransitionSystem.Run.invariant (P := fun s _ => Stopped s) ?_ ?_ h
  · exact ⟨by rintro _ _ ⟨⟩, by rintro ⟨⟩, by rintro ⟨⟩⟩
  intro s s' tr evs i hrun hguard hs ih
  cases step_of_callerTransport hs with
  | request hstep =>
    exact ⟨ih.drained, ih.abort, fun hdrained k q hlookup =>
      entries_of_requestStep ih (keyed hrun.reachable) hguard hstep hdrained hlookup⟩
  | inbound hstep =>
    refine ⟨fun d result hd => drained_of_inboundStep hstep (ih.drained d result hd),
      fun habort => drained_of_inboundStep hstep (ih.abort habort), fun hdrained k q hlookup => ?_⟩
    rcases lookup_of_inboundStep hstep hdrained with ⟨hbefore, hentries⟩ | hentries
    · dsimp only at hlookup
      rw [hentries] at hlookup
      exact ih.entries hbefore k q hlookup
    · dsimp only at hlookup
      rw [hentries, AList.lookup_empty] at hlookup
      cases hlookup
  | abort hrequested hawaits =>
    -- the task was asked to stop when the loop no longer awaited anything
    rw [awaits_of_drained (ih.abort hrequested)] at hawaits
    cases hawaits
  | @disconnect d msgId ts sent task abort pc evs hstep =>
    cases hlast : (s.disconnects d).last m config msgId ts with
    | true =>
      have hdrained := hguard hlast
      exact ⟨fun _ _ _ => hdrained, fun _ => hdrained, ih.entries⟩
    | false =>
      obtain ⟨rfl, hnot⟩ := last_of_disconnect hstep hlast
      refine ⟨fun e result he => ?_, ih.abort, ih.entries⟩
      dsimp only at he
      by_cases hed : e = d
      · subst hed
        rw [Function.update_self] at he
        exact absurd he (hnot result)
      · rw [Function.update_of_ne hed] at he
        exact ih.drained e result he

/-! ### The loop after the drain -/

/-- The steps that the loop has before it. -/
def InboundPc.stepsLeft : InboundPc → Nat
  | .fail senders => senders.length + 1
  | _ => 0

theorem stepsLeft_le (pc : InboundPc) : pc.stepsLeft ≤ pc.senders.length + 1 := by
  cases pc <;> simp [InboundPc.stepsLeft, InboundPc.senders]

/-- What the loop has done from `s` on, when it had drained the map. -/
structure Finishing (config : Config) (request : ReqId → Request) (s : State) (steps : Nat)
    (s' : State) : Prop where
  drained : s'.inbound.drained = true
  steps : steps + s'.inbound.stepsLeft = s.inbound.stepsLeft
  entries : s'.pending.entries = s.pending.entries
  owned : s'.pending.Owned (key request) s'.inbound.senders
  chan : ∀ r, s'.pending.chan r = s.pending.chan r ∨
    s'.pending.chan r = .sent (.error (.routerUnavailable config.routerEndpoint))

theorem Finishing.inboundStep {s s' : State} {steps : Nat} (h : Finishing config request s steps s')
    {message : Option (Except String Message)} {closed : Bool} {pending : Pending} {pc : InboundPc}
    {evs : List Event}
    (hstep : InboundStep m config message s'.closed s'.pending s'.inbound closed pending pc evs) :
    Finishing config request s (steps + 1)
      { s' with closed := closed, pending := pending, inbound := pc } := by
  have howned := owned_inboundStep hstep h.owned
  have hdrained := h.drained
  have hsteps := h.steps
  generalize s'.inbound = before at hstep hdrained hsteps
  cases hstep with
  | @fails senders r hr =>
    refine ⟨rfl, ?_, h.entries, howned, fun q => ?_⟩
    · have hlength := List.length_erase_of_mem hr
      have hpos := List.length_pos_of_mem hr
      simp only [InboundPc.stepsLeft] at hsteps ⊢
      omega
    · by_cases hq : q = r
      · subst hq
        have hchan := PendingMap.chan_send_self (t := s'.pending) (r := q)
          (a := .error (.routerUnavailable config.routerEndpoint))
        rcases h.chan q with hbefore | hsent
        · cases hc : s.pending.chan q with
          | pending =>
            rw [hbefore, hc] at hchan
            exact Or.inr hchan
          | sent result =>
            rw [hbefore, hc] at hchan
            exact Or.inl hchan
          | closed =>
            rw [hbefore, hc] at hchan
            exact Or.inl hchan
        · rw [hsent] at hchan
          exact Or.inr hchan
      · have hchan : (complete s'.pending r
            (.error (.routerUnavailable config.routerEndpoint))).1.chan q = s'.pending.chan q :=
          PendingMap.chan_send_of_ne hq
        dsimp only
        rw [hchan]
        exact h.chan q
  | returns =>
    refine ⟨rfl, ?_, h.entries, howned, h.chan⟩
    simp only [InboundPc.stepsLeft, List.length_nil] at hsteps ⊢
    omega
  | _ => cases hdrained

theorem finishing {s s' : State} {is : List Input} {tr : List Event}
    (hdrained : s.inbound.drained = true)
    (howned : s.pending.Owned (key request) s.inbound.senders)
    (h : (callerTransport m config request).Path (fun _ i => i.isInbound = true) s is tr s') :
    Finishing config request s is.length s' := by
  refine TransitionSystem.Path.invariant
    (P := fun is _ s' => Finishing config request s is.length s')
    ⟨hdrained, Nat.zero_add _, rfl, howned, fun _ => Or.inl rfl⟩ ?_ h
  intro is tr evs s₁ s₂ i _ hi hs ih
  rw [List.length_append, List.length_singleton]
  cases step_of_callerTransport hs with
  | inbound hstep => exact ih.inboundStep hstep
  | request hstep => cases hi
  | abort hrequested hawaits => cases hi
  | disconnect hstep => cases hi

/-- A loop that can take no step has no sender in hand. -/
theorem senders_of_stuck {s : State}
    (h : ∀ i : Input, i.isInbound = true → (callerTransport m config request).step i s = none) :
    s.inbound.senders = [] := by
  cases hpc : s.inbound with
  | fail senders =>
    cases senders with
    | nil => rfl
    | cons sender senders =>
      have hstuck := h (.inbound none 0) rfl
      simp [callerTransport, inboundLoop, hpc] at hstuck
  | _ => rfl

/-! ### The end of a transport -/

/-- **A stop resolves everything**, in any run in which no `disconnect` returns before `inbound_loop`
has drained the map and no frame is sent after that for a request whose entry is in the map. -/
theorem stop_resolves {s : State} {tr : List Event}
    (h : (callerTransport m config request).Run (fun s _ i => StopsDrained m config request s i)
      s tr) : StopResolves m config request s := by
  intro d result hreturned
  have hstopped := stopped h
  have hdrained := hstopped.drained d result hreturned
  have hlate : (callerTransport m config request).Run (fun s _ i => NotSentLate request s i)
      s tr := by
    refine h.mono fun s tr i hi => ?_
    cases i with
    | disconnect d msgId ts sent => trivial
    | _ => exact hi
  have hsettled : Settled request s := settled hlate
  refine ⟨fun r sent elapsed hstart => ?_, fun is tr' s' hpath => ?_, hstopped.entries hdrained⟩
  · have hclosed := hsettled.closed (Or.inr hdrained)
    simp [callerTransport, sendAndWait, hstart, hclosed]
  · have hfinishing := finishing hdrained (owned h) hpath
    refine ⟨?_, fun hstuck r hwait => ?_⟩
    · have hsteps := hfinishing.steps
      have hleft := stepsLeft_le s.inbound
      omega
    · have hsenders := senders_of_stuck hstuck
      have hchan : s'.pending.chan r ≠ .pending := by
        intro hpending
        rcases hfinishing.owned r hpending with hlookup | hmem
        · rw [hfinishing.entries] at hlookup
          exact hsettled.waiting hdrained r hwait hlookup
        · rw [hsenders] at hmem
          cases hmem
      obtain ⟨result, hresult⟩ := Option.ne_none_iff_exists'.mp (mt received_eq_none.mp hchan)
      refine ⟨result, hresult, ?_⟩
      rcases hfinishing.chan r with hsame | hsent
      · rw [hsame] at hresult
        exact Or.inl hresult
      · rw [hsent] at hresult
        exact Or.inr (Option.some.inj hresult).symm

section Sample

open Router (msgPackSerde)

def DisconnectPc.hasReturned : DisconnectPc → Bool
  | .returned _ => true
  | _ => false

theorem returned_of_hasReturned {pc : DisconnectPc} (h : pc.hasReturned = true) :
    ∃ result, pc = .returned result := by
  cases pc with
  | returned result => exact ⟨result, rfl⟩
  | _ => cases h

/-- A `disconnect` takes a step; its frame can be sent. -/
def disconnects : Input := .disconnect 0 "m" .one (.ok ())

/-- The connection has ended and the requests have been failed when the handle is stopped. -/
theorem stop_resolves_of_ended : ∃ s tr,
    (callerTransport msgPackSerde localCaller localRequest).Run
      (fun s _ i => StopsDrained msgPackSerde localCaller localRequest s i) s tr ∧
    s.requests 0 = .wait ∧ s.inbound = .fail [0] ∧
    Resolved msgPackSerde localCaller localRequest s := by
  have hexec : (callerTransport msgPackSerde localCaller localRequest).exec
      (fun s _ i => StopsDrained msgPackSerde localCaller localRequest s i)
      (callerTransport msgPackSerde localCaller localRequest).init []
      [requests 0, requests 0, requests 0, loops, loops, loops, disconnects, disconnects,
        disconnects] = some _ := rfl
  have hrun := TransitionSystem.Run.exec TransitionSystem.Run.init hexec
  exact ⟨_, _, hrun, rfl, rfl, stop_resolves hrun 0 _ rfl⟩

/-- A request waits when the handle is stopped: its entry stays, and nobody is left to answer. -/
theorem unresolved_of_abort :
    ¬ ∀ s tr, (callerTransport msgPackSerde localCaller localRequest).Reachable s tr →
      StopResolves msgPackSerde localCaller localRequest s := by
  obtain ⟨s, tr, hrun, hp⟩ :=
    (callerTransport msgPackSerde localCaller localRequest).exists_reachable_of_exec
      [requests 0, requests 0, requests 0, disconnects, disconnects, disconnects, .abort]
      (fun s _ => s.inbound = .aborted ∧ s.requests 0 = .wait ∧ s.pending.chan 0 = .pending ∧
        (s.disconnects 0).hasReturned = true) (by decide +kernel)
  obtain ⟨haborted, hwait, hchan, hreturned⟩ := of_decide_eq_true hp
  intro h
  obtain ⟨result, hresult⟩ := returned_of_hasReturned hreturned
  have hfinishes := (h s tr hrun 0 result hresult).finishes [] [] s TransitionSystem.Path.nil
  have hstuck : ∀ i : Input, i.isInbound = true →
      (callerTransport msgPackSerde localCaller localRequest).step i s = none := by
    intro i hi
    cases i with
    | inbound message pick => simp [callerTransport, inboundLoop, haborted]
    | _ => cases hi
  obtain ⟨answer, hanswer, -⟩ := hfinishes.2 hstuck 0 hwait
  rw [hchan] at hanswer
  cases hanswer

end Sample

end Multifrost.Rust.CallerTransport
