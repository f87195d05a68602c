import Multifrost.Rust.Safety.Correlation

/-!
# The entries of the pending map

The entry of a request leaves the map with its answer, after a failed send, or in the drain at the
end of `inbound_loop`.  A request that times out takes nothing away: its entry stays for as long as
no answer comes and the loop runs.  In a run in which no request times out before its entry has been
taken, an entry is that of a request in progress.
-/

namespace Multifrost.Rust.CallerTransport

open Router (FrameParts Message RmpSerde)

variable {m : RmpSerde} {config : Config} {request : ReqId → Request}

/-- The request has been made and has not returned. -/
def RequestPc.inProgress : RequestPc → Bool
  | .start | .returned _ => false
  | _ => true

/-- The request has made its entry and has not returned. -/
def RequestPc.entered : RequestPc → Bool
  | .send | .remove _ | .wait => true
  | _ => false

theorem RequestPc.inProgress_of_entered {pc : RequestPc} (h : pc.entered = true) :
    pc.inProgress = true := by
  cases pc <;> first
    | rfl
    | cases h

/-- A request that has returned has no entry, and the map is no larger than the number of requests in
progress. -/
def NoneOutlives (request : ReqId → Request) (s : State) : Prop :=
  (∀ r result, s.requests r = .returned result →
    s.pending.entries.lookup (request r).msgId = none) ∧
  ∀ requests : Finset ReqId, (∀ r, (s.requests r).inProgress = true → r ∈ requests) →
    s.pending.entries.keys.length ≤ requests.card

/-- No request times out while its entry is in the map. -/
def TakenBeforeTimeout (config : Config) (request : ReqId → Request) (s : State) : Input → Prop
  | .request r _ true => s.requests r = .wait → config.requestTimeout.isSome = true →
      s.pending.entries.lookup (key request r) ≠ some r
  | _ => True

instance (s : State) : ∀ i, Decidable (TakenBeforeTimeout config request s i)
  | .request _ _ true => inferInstanceAs (Decidable (_ = _ → _ = _ → _ ≠ _))
  | .request _ _ false | .inbound .. | .abort | .disconnect .. => inferInstanceAs (Decidable True)

/-! ### The invariant -/

structure Tracked (s : State) : Prop where
  /-- An entry is that of a request in progress, and nothing has been sent to it. -/
  entered : ∀ k r, s.pending.entries.lookup k = some r →
    (s.requests r).entered = true ∧ s.pending.chan r = .pending
  /-- A sender that the loop has in hand is not in the map and will not be put there again. -/
  taken : ∀ r ∈ s.inbound.senders, (s.requests r).early = false ∧
    ∀ k, s.pending.entries.lookup k ≠ some r

theorem RequestPc.early_of_entered {pc : RequestPc} (h : pc.entered = true) :
    pc.early = false := by
  cases pc <;> first
    | rfl
    | cases h

/-- A request that has no entry is not found in the map. -/
theorem Tracked.lookup_ne {s : State} (h : Tracked s) {r : ReqId}
    (hr : (s.requests r).entered = false) (k : String) : s.pending.entries.lookup k ≠ some r := by
  intro hlookup
  have hentered := (h.entered k r hlookup).1
  rw [hr] at hentered
  cases hentered

/-- A request goes on; what it does to the map leaves the entries of the others as they are. -/
theorem Tracked.of_request {s : State} (h : Tracked s) {r : ReqId} {pending : Pending}
    {pc : RequestPc} (hself : ∀ k, pending.entries.lookup k = some r →
      pc.entered = true ∧ pending.chan r = .pending)
    (hothers : ∀ k q, q ≠ r → pending.entries.lookup k = some q →
      s.pending.entries.lookup k = some q ∧ pending.chan q = s.pending.chan q)
    (hearly : pc.early = true → (s.requests r).early = true)
    (htaken : r ∈ s.inbound.senders → ∀ k, pending.entries.lookup k ≠ some r) :
    Tracked { s with pending := pending, requests := Function.update s.requests r pc } := by
  refine ⟨fun k q hlookup => ?_, fun q hq => ?_⟩
  · dsimp only at hlookup ⊢
    by_cases hqr : q = r
    · subst hqr
      rw [Function.update_self]
      exact hself k hlookup
    · rw [Function.update_of_ne hqr]
      obtain ⟨hbefore, hchan⟩ := hothers k q hqr hlookup
      rw [hchan]
      exact h.entered k q hbefore
  · obtain ⟨hnot, hlookup⟩ := h.taken q hq
    dsimp only
    by_cases hqr : q = r
    · subst hqr
      rw [Function.update_self]
      refine ⟨?_, htaken hq⟩
      by_contra hpc
      rw [hearly (Bool.not_eq_false _ ▸ hpc)] at hnot
      cases hnot
    · rw [Function.update_of_ne hqr]
      exact ⟨hnot, fun k hk => hlookup k (hothers k q hqr hk).1⟩

/-- A request that goes on with nothing in its channel has timed out. -/
theorem elapsed_of_wait {s : State} {r : ReqId} {sent : Except String Unit} {elapsed : Bool}
    {o : State × List Event}
    (h : (callerTransport m config request).step (.request r sent elapsed) s = some o)
    (hwait : s.requests r = .wait) (hchan : s.pending.chan r = .pending) :
    elapsed = true ∧ config.requestTimeout.isSome = true := by
  obtain ⟨o', hstep, -⟩ := Option.map_eq_some_iff.mp h
  simp only [hwait, sendAndWait, hchan, received] at hstep
  split_ifs at hstep with helapsed
  obtain ⟨hsome, htrue⟩ := Bool.and_eq_true_iff.mp helapsed
  exact ⟨htrue, hsome⟩

theorem Tracked.requestStep {s : State} (h : Tracked s) (hkeyed : s.pending.Keyed (key request))
    (hinj : Function.Injective (key request)) {r : ReqId} {sent : Except String Unit}
    {pending : Pending} {pc : RequestPc} {evs : List Event}
    (hstep : RequestStep config (request r) r sent s.closed s.pending (s.requests r) pending pc evs)
    (htimeout : s.requests r = .wait → s.pending.chan r = .pending →
      s.pending.entries.lookup (key request r) ≠ some r) :
    Tracked { s with pending := pending, requests := Function.update s.requests r pc } := by
  have hsame : ∀ k q, q ≠ r → s.pending.entries.lookup k = some q →
      s.pending.entries.lookup k = some q ∧ s.pending.chan q = s.pending.chan q :=
    fun k q _ hk => ⟨hk, rfl⟩
  generalize hpc : s.requests r = before at hstep
  cases hstep with
  | refused _ | passed _ =>
    have hnone := h.lookup_ne (r := r) (by rw [hpc]; rfl)
    exact h.of_request (fun k hk => absurd hk (hnone k)) hsame (fun _ => by rw [hpc]; rfl)
      fun _ => hnone
  | inserted =>
    -- the key of the request is that of no other, so that nothing is replaced
    have hfree : ∀ q, q ≠ r → s.pending.entries.lookup (key request r) ≠ some q :=
      fun q hq hk => hq (hinj (hkeyed _ _ hk)).symm
    refine h.of_request (fun k _ => ⟨rfl, PendingMap.chan_insert_self⟩) (fun k q hq hk => ?_)
      (fun hearly => by cases hearly) (fun hmem => ?_)
    · have hbefore := (PendingMap.lookup_of_lookup_insert hk).resolve_left hq
      exact ⟨hbefore, PendingMap.chan_insert_of_lookup_ne hq (hfree q hq)⟩
    · have hlate := (h.taken r hmem).1
      rw [hpc] at hlate
      cases hlate
  | sent _ | sendFailed _ =>
    refine h.of_request (fun k hk => ⟨rfl, (h.entered k r hk).2⟩) hsame
      (fun hearly => by cases hearly) fun hmem => (h.taken r hmem).2
  | removed =>
    have hself : ∀ k, ((s.pending.remove (request r).msgId).drop r).entries.lookup k ≠ some r := by
      intro k hk
      have hkey : k = key request r := hkeyed _ _ (PendingMap.lookup_of_lookup_remove hk)
      rw [hkey] at hk
      exact absurd (PendingMap.lookup_remove_self.symm.trans hk) (by simp)
    refine h.of_request (fun k hk => absurd hk (hself k)) (fun k q hq hk => ?_)
      (fun hearly => by cases hearly) fun _ => hself
    have hbefore := PendingMap.lookup_of_lookup_remove hk
    refine ⟨hbefore, (PendingMap.chan_drop_of_ne hq).trans ?_⟩
    apply PendingMap.chan_remove_of_lookup_ne
    intro hother
    exact hq (hinj (hkeyed _ _ hother)).symm
  | answered hreceived =>
    have hnone : ∀ k, s.pending.entries.lookup k ≠ some r := by
      intro k hk
      rw [(h.entered k r hk).2] at hreceived
      cases hreceived
    exact h.of_request (fun k hk => absurd hk (hnone k)) hsame (fun hearly => by cases hearly)
      fun _ => hnone
  | elapsed hchan _ =>
    have hnone : ∀ k, s.pending.entries.lookup k ≠ some r := by
      intro k hk
      rw [hkeyed _ _ hk] at hk
      exact htimeout hpc hchan hk
    exact h.of_request (fun k hk => absurd hk (hnone k))
      (fun k q hq hk => ⟨hk, PendingMap.chan_drop_of_ne hq⟩) (fun hearly => by cases hearly)
      fun _ => hnone

/-- The loop uses a sender that is not in the map. -/
theorem Tracked.complete {s : State} {pending : Pending} {r : ReqId}
    {result : Except MultifrostError FrameParts} {pc : InboundPc} {closed : Bool}
    (hentered : ∀ k q, pending.entries.lookup k = some q →
      q ≠ r ∧ (s.requests q).entered = true ∧ pending.chan q = .pending)
    (htaken : ∀ q ∈ pc.senders, (s.requests q).early = false ∧
      ∀ k, pending.entries.lookup k ≠ some q) :
    Tracked { s with
      closed := closed, pending := (CallerTransport.complete pending r result).1, inbound := pc } := by
  refine ⟨fun k q hk => ?_, htaken⟩
  obtain ⟨hq, hpc, hchan⟩ := hentered k q hk
  exact ⟨hpc, (PendingMap.chan_send_of_ne hq).trans hchan⟩

theorem Tracked.inboundStep {s : State} (h : Tracked s) (hkeyed : s.pending.Keyed (key request))
    {message : Option (Except String Message)} {closed : Bool} {pending : Pending} {pc : InboundPc}
    {evs : List Event}
    (hstep : InboundStep m config message s.closed s.pending s.inbound closed pending pc evs) :
    Tracked { s with closed := closed, pending := pending, inbound := pc } := by
  generalize hpc : s.inbound = before at hstep
  cases hstep with
  | @delivered frame r pending' htake =>
    obtain ⟨hlookup, rfl⟩ := PendingMap.take_eq_some.mp htake
    refine Tracked.complete (fun k q hk => ?_) (by simp [InboundPc.senders])
    have hbefore := PendingMap.lookup_of_lookup_erase hk
    refine ⟨?_, h.entered k q hbefore⟩
    rintro rfl
    have hkey : k = frame.envelope.msgId := (hkeyed _ _ hbefore).trans (hkeyed _ _ hlookup).symm
    rw [hkey, AList.lookup_erase] at hk
    cases hk
  | drains =>
    refine ⟨fun k q hk => ?_, fun q hq => ?_⟩
    · rw [PendingMap.drain, AList.lookup_empty] at hk
      cases hk
    · obtain ⟨e, he, rfl⟩ := List.mem_map.mp hq
      have hentered := h.entered e.1 e.2 (AList.mem_lookup_iff.mpr he)
      refine ⟨RequestPc.early_of_entered hentered.1, fun k hk => ?_⟩
      rw [PendingMap.drain, AList.lookup_empty] at hk
      cases hk
  | @fails senders r hr =>
    have htaken := h.taken
    rw [hpc] at htaken
    refine Tracked.complete (fun k q hk => ⟨?_, h.entered k q hk⟩)
      fun q hq => htaken q (List.mem_of_mem_erase hq)
    rintro rfl
    exact (htaken q hr).2 k hk
  | _ => exact ⟨h.entered, by simp [InboundPc.senders]⟩

theorem tracked (hinj : Function.Injective (key request)) {s : State} {tr : List Event}
    (h : (callerTransport m config request).Run
      (fun s _ i => TakenBeforeTimeout config request s i) s tr) : Tracked s := by
  refine TransitionSystem.Run.invariant (P := fun s _ => Tracked s)
    ⟨fun k r hk => ?_, by simp [callerTransport, InboundPc.senders]⟩ ?_ h
  · rw [callerTransport, PendingMap.empty, AList.lookup_empty] at hk
    cases hk
  intro s s' tr evs i hrun hguard hs ih
  have hkeyed := keyed hrun.reachable
  cases step_of_callerTransport hs with
  | @request r sent elapsed _ _ _ hstep =>
    refine ih.requestStep hkeyed hinj hstep fun hwait hchan => ?_
    obtain ⟨rfl, hsome⟩ := elapsed_of_wait hs hwait hchan
    exact hguard hwait hsome
  | inbound hstep => exact ih.inboundStep hkeyed hstep
  | abort hrequested hawaits => exact ⟨ih.entered, by simp [InboundPc.senders]⟩
  | disconnect hstep => exact ⟨ih.entered, ih.taken⟩

/-! ### No entry outlives its request -/

/-- **No entry outlives its request**, in any run in which no request times out before its entry has
been taken out of the map: whatever a request returns with, its entry is gone, and the map is no
larger than the number of requests in progress. -/
theorem none_outlives (hinj : Function.Injective fun r => (request r).msgId) {s : State}
    {tr : List Event} (h : (callerTransport m config request).Run
      (fun s _ i => TakenBeforeTimeout config request s i) s tr) : NoneOutlives request s := by
  have htracked := tracked hinj h
  have hkeyed := keyed h.reachable
  refine ⟨fun r result hreturned => ?_, fun requests hmem => ?_⟩
  · refine Option.eq_none_iff_forall_ne_some.mpr fun q hq => ?_
    have hqr : q = r := (hinj (hkeyed _ _ hq)).symm
    have hentered := (htracked.entered _ q hq).1
    rw [hqr, hreturned] at hentered
    cases hentered
  · refine hkeyed.length_keys_le fun k r hk => ?_
    exact hmem r (RequestPc.inProgress_of_entered (htracked.entered k r hk).1)

section Sample

open Router (msgPackSerde)

/-- A caller whose requests may take five seconds. -/
def hastyCaller : Config := { quietCaller with requestTimeout := some (5 * 10 ^ 9) }

theorem msgId_quietRequest_injective : Function.Injective fun r => (quietRequest r).msgId := by
  intro q r h
  have hdigits : Nat.toDigits 10 q = Nat.toDigits 10 r := by
    rw [← Nat.toList_repr, ← Nat.toList_repr]
    exact congrArg String.toList h
  rw [← Nat.ofDigitChars_ten_toDigits (n := q), hdigits, Nat.ofDigitChars_ten_toDigits]

/-- Two requests wait; the first is answered. -/
theorem none_outlives_two : Function.Injective (fun r => (quietRequest r).msgId) ∧ ∃ s tr,
    (callerTransport msgPackSerde hastyCaller quietRequest).Run
      (fun s _ i => TakenBeforeTimeout hastyCaller quietRequest s i) s tr ∧
    s.requests 0 = .returned (.ok (quietResponse "0")) ∧
    s.pending.entries.lookup "1" = some 1 ∧ NoneOutlives quietRequest s := by
  obtain ⟨s, tr, hrun, hp⟩ :=
    (callerTransport msgPackSerde hastyCaller quietRequest).exists_run_of_exec
      (fun s _ i => TakenBeforeTimeout hastyCaller quietRequest s i)
      ([0, 1, 0, 1, 0, 1].map (fun r => Input.request r (.ok ()) false) ++
        [responds "0", responds "0", .request 0 (.ok ()) true])
      (fun s _ => s.requests 0 = .returned (.ok (quietResponse "0")) ∧
        s.pending.entries.lookup "1" = some 1) (by decide +kernel)
  obtain ⟨hreturned, hlookup⟩ := of_decide_eq_true hp
  exact ⟨msgId_quietRequest_injective, s, tr, hrun, hreturned, hlookup,
    none_outlives msgId_quietRequest_injective hrun⟩

/-- A request to which nothing comes times out, and leaves its entry behind. -/
theorem outlives_of_timeout :
    ¬ ∀ s tr, (callerTransport msgPackSerde hastyCaller quietRequest).Reachable s tr →
      NoneOutlives quietRequest s := by
  obtain ⟨s, tr, hrun, hp⟩ :=
    (callerTransport msgPackSerde hastyCaller quietRequest).exists_reachable_of_exec
      ([0, 0, 0].map (fun r => Input.request r (.ok ()) false) ++ [.request 0 (.ok ()) true])
      (fun s _ => s.requests 0 = .returned (.error .timeoutError) ∧
        s.pending.entries.lookup "0" = some 0) (by decide +kernel)
  obtain ⟨hreturned, hlookup⟩ := of_decide_eq_true hp
  intro h
  have hnone := (h s tr hrun).1 0 _ hreturned
  exact absurd (hlookup.symm.trans hnone) (by simp)

end Sample

end Multifrost.Rust.CallerTransport
