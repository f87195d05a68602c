import Multifrost.Golang.Safety.PendingProgress

/-!
# Replies that were delivered

`deliverPending` takes a channel out of the map, puts the reply into it and closes it.  From then on
nobody touches the channel but its request, whatever happens to the transport.  The request waits for
more than its channel, though: where the transport has been closed in the meantime, or the context is
done, its `select` may take either case, and `writeBinary` does not look for a reply at all.  A
request that does not give up while the reply is there returns it.
-/

namespace Multifrost.Go.Transport

open Bindings (ErrorBody)
open Router (FrameParts)

variable {m : Msgpack} {decodeErrorBody : Bytes → Except Failure ErrorBody}
  {req : ReqId → Request} {closing : Nat → Option Failure}

/-! ### Giving up -/

/-- The write fails with the next step, or has failed. -/
def WritePc.fails (written : Except String Unit) (t : Shared) : WritePc → Bool
  | .start | .locked => t.closed
  | .lock => false
  | .write => !written.isOk
  | .close .. => true
  | .unlock result => !result.isOk

/-- The request gives up with the next step. -/
def RequestPc.givesUp (m : Msgpack) (req : Request) (written : Except String Unit) (taken : Case)
    (t : Shared) : RequestPc → Bool
  | .encode => !(encodeFrame m req.envelope req.bodyBytes).isOk
  | .write pc => pc.fails written t
  | .select => taken != .reply
  | _ => false

/-- The request `r` does not give up. -/
def KeepsOn (m : Msgpack) (req : ReqId → Request) (r : ReqId) (s : State) : Input → Prop
  | .request q written taken =>
    q = r → (s.requests r).givesUp m (req r) written taken s.shared = false
  | _ => True

instance (r : ReqId) (s : State) : ∀ i, Decidable (KeepsOn m req r s i)
  | .request .. => inferInstanceAs (Decidable (_ = _ → _ = _))
  | .send .. | .close .. | .readLoop .. => inferInstanceAs (Decidable True)

def WritePc.onCourse : WritePc → Bool
  | .close .. => false
  | .unlock result => result.isOk
  | _ => true

/-- The request has made its entry and has not given up. -/
def RequestPc.onCourse : RequestPc → Bool
  | .encode | .select => true
  | .write pc => pc.onCourse
  | _ => false

/-! ### Channels that are not in the map -/

/-- A step that makes no entry for `r` and does not touch its channel unless it is in the map. -/
structure Spares (r : ReqId) (t t' : Shared) : Prop where
  lookup : ∀ k, t'.pending.lookup k = some r → t.pending.lookup k = some r
  buffer : (∀ k, t.pending.lookup k ≠ some r) → (t'.chan r).buffer = (t.chan r).buffer

theorem Spares.of_untouched {r : ReqId} {t t' : Shared} {evs : List Event}
    (h : Untouched t t' evs) : Spares r t t' := by
  refine ⟨fun k hk => ?_, fun _ => ?_⟩
  · rwa [h.pending] at hk
  · rw [h.chan]

theorem cancelEntry_of_ne {p : Party} {reply : Reply} {chan : ReqId → Channel Reply} {q r : ReqId}
    (h : r ≠ q) : (cancelEntry p reply chan q).1 r = chan r := by
  have hself : ∀ (chan' : ReqId → Channel Reply) (c : Channel Reply), chan' r = chan r →
      Function.update chan' q c r = chan r :=
    fun chan' c hr => (Function.update_of_ne h ..).trans hr
  unfold cancelEntry
  dsimp only
  split <;> split <;> first
    | exact hself _ _ (hself _ _ rfl)
    | exact hself _ _ rfl
    | rfl

theorem cancelEntries_of_notMem {p : Party} {reply : Reply} {r : ReqId} {rs : List ReqId} :
    ∀ {chan : ReqId → Channel Reply}, r ∉ rs → (cancelEntries p reply rs chan).1 r = chan r := by
  induction rs with
  | nil => exact fun _ => rfl
  | cons q rs ih =>
    intro chan hr
    obtain ⟨hrq, hr⟩ := not_or.mp (mt List.mem_cons.mpr hr)
    exact (ih hr).trans (cancelEntry_of_ne hrq)

theorem spares_cancelPending {p : Party} {err : Option Failure} {t : Shared} {r : ReqId} :
    Spares r t (cancelPending p err t).1 := by
  refine ⟨fun k hk => ?_, fun hnone => ?_⟩
  · rw [cancelPending, AList.lookup_empty] at hk
    cases hk
  · have hr : r ∉ t.pending.entries.map Sigma.snd := by
      intro hmem
      obtain ⟨k, hk⟩ := mem_entries.mp hmem
      exact hnone k hk
    exact congrArg Channel.buffer (cancelEntries_of_notMem hr)

theorem spares_closeWithError {p : Party} {err : Option Failure} {t t' : Shared} {pc : ClosePc}
    {pc' : Option ClosePc} {evs : List Event} {r : ReqId}
    (h : closeWithError p err t pc = some (t', pc', evs)) : Spares r t t' := by
  rcases closeWithError_cases h with huntouched | ⟨rfl, -⟩
  · exact .of_untouched huntouched
  · exact spares_cancelPending

theorem spares_writeBinary {p : Party} {written : Except String Unit} {t t' : Shared} {pc : WritePc}
    {next : Writing} {evs : List Event} {r : ReqId}
    (h : writeBinary p written t pc = some (t', next, evs)) : Spares r t t' := by
  rcases writeBinary_cases h with huntouched | ⟨err, rfl, -⟩
  · exact .of_untouched huntouched
  · exact spares_cancelPending

theorem lookup_of_lookup_erase {pending : AList fun _ : String => ReqId} {k k' : String} {r : ReqId}
    (h : (pending.erase k).lookup k' = some r) : pending.lookup k' = some r := by
  by_cases hk : k' = k
  · subst hk
    rw [AList.lookup_erase] at h
    cases h
  · rwa [AList.lookup_erase_ne hk] at h

/-- Another request spares `r`, whatever it does. -/
theorem spares_request {q r : ReqId} {written : Except String Unit} {taken : Case} {t t' : Shared}
    {pc pc' : RequestPc} {evs : List Event} (hq : r ≠ q)
    (h : request m (req q) q written taken t pc = some (t', pc', evs)) : Spares r t t' := by
  cases pc with
  | start =>
    simp only [request] at h
    split_ifs at h <;> cases h <;> exact ⟨fun _ => id, fun _ => rfl⟩
  | insert =>
    cases h
    refine ⟨fun k hk => ?_, fun _ => congrArg Channel.buffer (Function.update_of_ne hq ..)⟩
    by_cases hkey : k = (req q).envelope.msgId
    · subst hkey
      rw [AList.lookup_insert] at hk
      exact absurd (Option.some.inj hk).symm hq
    · rwa [AList.lookup_insert_ne hkey] at hk
  | encode =>
    simp only [request] at h
    split at h <;> cases h <;> exact ⟨fun _ => id, fun _ => rfl⟩
  | write pc =>
    obtain ⟨⟨t₁, next, evs₁⟩, hwrite, heq⟩ := Option.map_eq_some_iff.mp h
    rcases next with pc₁ | ⟨err | u⟩ <;> cases heq <;> exact spares_writeBinary hwrite
  | select =>
    cases taken with
    | reply =>
      obtain ⟨⟨reply, c⟩, -, heq⟩ := Option.map_eq_some_iff.mp h
      cases heq
      exact ⟨fun _ => id, fun _ => congrArg Channel.buffer (Function.update_of_ne hq ..)⟩
    | done err =>
      cases h
      exact ⟨fun _ => id, fun _ => rfl⟩
    | closed =>
      simp only [request] at h
      split_ifs at h
      cases h
      exact ⟨fun _ => id, fun _ => rfl⟩
  | remove err =>
    cases h
    exact ⟨fun _ => lookup_of_lookup_erase, fun _ => rfl⟩
  | returned frame err => cases h

/-- The loop spares `r` unless it is about to send to it. -/
theorem spares_readLoop {r : ReqId} {incoming : Incoming} {t t' : Shared} {pc pc' : ReadPc}
    {evs : List Event} (hr : ∀ reply, pc ≠ .send r reply)
    (h : readLoop m decodeErrorBody incoming t pc = some (t', pc', evs)) : Spares r t t' := by
  have hsame : ∀ {t' : Shared}, t' = t → Spares r t t' := by
    rintro t' rfl
    exact ⟨fun _ => id, fun _ => rfl⟩
  cases pc with
  | read =>
    simp only [readLoop] at h
    split at h
    · split at h <;> cases h <;> exact hsame rfl
    all_goals
      cases h
      exact hsame rfl
  | deliver frame =>
    simp only [readLoop] at h
    split at h <;> cases h
    · exact ⟨fun _ => lookup_of_lookup_erase, fun _ => rfl⟩
    · exact hsame rfl
  | send q reply =>
    have hq : r ≠ q := by
      rintro rfl
      exact hr reply rfl
    simp only [readLoop] at h
    split at h <;> cases h
    · exact ⟨fun _ => id, fun _ => congrArg Channel.buffer (Function.update_of_ne hq ..)⟩
    · exact hsame rfl
  | closeChan q =>
    simp only [readLoop] at h
    split at h <;> cases h
    · rename_i c hclose
      refine ⟨fun _ => id, fun _ => ?_⟩
      by_cases hq : r = q
      · -- what is in a channel stays when it is closed
        subst hq
        dsimp only
        rw [Function.update_self]
        unfold Channel.close at hclose
        split_ifs at hclose
        cases hclose
        rfl
      · exact congrArg Channel.buffer (Function.update_of_ne hq ..)
    · exact hsame rfl
  | dispatch frame =>
    simp only [readLoop] at h
    split_ifs at h <;> cases h <;> exact hsame rfl
  | close err pc =>
    obtain ⟨⟨t₁, pc₁, evs₁⟩, hclose, heq⟩ := Option.map_eq_some_iff.mp h
    cases pc₁ <;> cases heq <;> exact spares_closeWithError hclose
  | deferred pc =>
    obtain ⟨⟨t₁, pc₁, evs₁⟩, hclose, heq⟩ := Option.map_eq_some_iff.mp h
    cases pc₁ <;> cases heq <;> exact spares_closeWithError hclose
  | returned => cases h

theorem lookup_readLoop {r : ReqId} {incoming : Incoming} {t t' : Shared} {pc pc' : ReadPc}
    {evs : List Event} (h : readLoop m decodeErrorBody incoming t pc = some (t', pc', evs))
    {k : String}
    (hk : t'.pending.lookup k = some r) : t.pending.lookup k = some r := by
  by_cases hsend : ∃ reply, pc = .send r reply
  · obtain ⟨reply, rfl⟩ := hsend
    simp only [readLoop] at h
    split at h <;> cases h <;> exact hk
  · refine (spares_readLoop (fun reply hpc => ?_) h).lookup k hk
    exact hsend ⟨reply, hpc⟩

/-! ### The channel in the hand of the loop -/

/-- A step of the system, seen from the request `r`: it is its own, or one that spares it. -/
theorem step_cases {s s' : State} {i : Input} {evs : List Event} {r : ReqId}
    (h : (transport m decodeErrorBody req closing).step i s = some (s', evs)) :
    (∃ written taken t pc, i = .request r written taken ∧
      request m (req r) r written taken s.shared (s.requests r) = some (t, pc, evs) ∧
      s' = s.moveRequest r t pc) ∨
    s'.requests r = s.requests r ∧
      (∀ k, s'.shared.pending.lookup k = some r → s.shared.pending.lookup k = some r) ∧
      ((∀ reply, s.readLoop ≠ .send r reply) → Spares r s.shared s'.shared) := by
  have hspares : ∀ {s' : State}, s'.requests r = s.requests r → Spares r s.shared s'.shared →
      s'.requests r = s.requests r ∧
      (∀ k, s'.shared.pending.lookup k = some r → s.shared.pending.lookup k = some r) ∧
      ((∀ reply, s.readLoop ≠ .send r reply) → Spares r s.shared s'.shared) :=
    fun hsame hspares => ⟨hsame, hspares.lookup, fun _ => hspares⟩
  cases i with
  | request q written taken =>
    obtain ⟨⟨t', pc', evs'⟩, hstep, heq⟩ := Option.map_eq_some_iff.mp h
    cases heq
    by_cases hq : r = q
    · subst hq
      exact Or.inl ⟨written, taken, t', pc', rfl, hstep, rfl⟩
    · exact Or.inr (hspares (moveRequest_of_ne hq s t' pc') (spares_request hq hstep))
  | send d written =>
    obtain ⟨⟨t', pc', evs'⟩, hstep, heq⟩ := Option.map_eq_some_iff.mp h
    cases heq
    cases hpc : s.sends d with
    | write pc =>
      rw [hpc] at hstep
      obtain ⟨⟨t₁, next, evs₁⟩, hwrite, heq⟩ := Option.map_eq_some_iff.mp hstep
      cases next <;> cases heq <;> exact Or.inr (hspares rfl (spares_writeBinary hwrite))
    | returned result =>
      rw [hpc] at hstep
      cases hstep
  | close k =>
    obtain ⟨pc, -, hstep⟩ := Option.bind_eq_some_iff.mp h
    obtain ⟨⟨t', pc', evs'⟩, hclose, heq⟩ := Option.map_eq_some_iff.mp hstep
    cases heq
    exact Or.inr (hspares rfl (spares_closeWithError hclose))
  | readLoop incoming =>
    obtain ⟨⟨t', pc', evs'⟩, hstep, heq⟩ := Option.map_eq_some_iff.mp h
    cases heq
    exact Or.inr ⟨rfl, fun k => lookup_readLoop hstep, fun hsend => spares_readLoop hsend hstep⟩

/-- The loop has a channel in hand that it had before, or has just taken it out of the map. -/
theorem send_of_step {s s' : State} {i : Input} {evs : List Event} {r : ReqId} {reply : Reply}
    (h : (transport m decodeErrorBody req closing).step i s = some (s', evs))
    (hread : s'.readLoop = .send r reply) :
    s.readLoop = .send r reply ∧ (∀ incoming, i ≠ .readLoop incoming) ∨
    ∃ k, s.shared.pending.lookup k = some r ∧ s'.shared.pending = s.shared.pending.erase k ∧
      s'.requests = s.requests := by
  cases i with
  | request q written taken =>
    obtain ⟨⟨t', pc', evs'⟩, hstep, heq⟩ := Option.map_eq_some_iff.mp h
    cases heq
    exact Or.inl ⟨hread, by rintro _ ⟨⟩⟩
  | send d written =>
    obtain ⟨⟨t', pc', evs'⟩, hstep, heq⟩ := Option.map_eq_some_iff.mp h
    cases heq
    exact Or.inl ⟨hread, by rintro _ ⟨⟩⟩
  | close k =>
    obtain ⟨pc, -, hstep⟩ := Option.bind_eq_some_iff.mp h
    obtain ⟨⟨t', pc', evs'⟩, hclose, heq⟩ := Option.map_eq_some_iff.mp hstep
    cases heq
    exact Or.inl ⟨hread, by rintro _ ⟨⟩⟩
  | readLoop incoming =>
    obtain ⟨⟨t', pc', evs'⟩, hstep, heq⟩ := Option.map_eq_some_iff.mp h
    cases heq
    obtain rfl : pc' = .send r reply := hread
    right
    cases hpc : s.readLoop with
    | deliver frame =>
      rw [hpc] at hstep
      simp only [readLoop] at hstep
      split at hstep
      · rename_i q hlookup
        cases hstep
        exact ⟨frame.envelope.msgId, hlookup, rfl, rfl⟩
      · cases hstep
    | read =>
      rw [hpc] at hstep
      simp only [readLoop] at hstep
      split at hstep
      · split at hstep <;> cases hstep
      all_goals cases hstep
    | send q reply' =>
      rw [hpc] at hstep
      simp only [readLoop] at hstep
      split at hstep <;> cases hstep
    | closeChan q =>
      rw [hpc] at hstep
      simp only [readLoop] at hstep
      split at hstep <;> cases hstep
    | dispatch frame =>
      rw [hpc] at hstep
      simp only [readLoop] at hstep
      split_ifs at hstep <;> cases hstep
    | close err pc =>
      rw [hpc] at hstep
      obtain ⟨⟨t₁, pc₁, evs₁⟩, -, heq⟩ := Option.map_eq_some_iff.mp hstep
      cases pc₁ <;> cases heq
    | deferred pc =>
      rw [hpc] at hstep
      obtain ⟨⟨t₁, pc₁, evs₁⟩, -, heq⟩ := Option.map_eq_some_iff.mp hstep
      cases pc₁ <;> cases heq
    | returned =>
      rw [hpc] at hstep
      cases hstep

/-- A request makes one entry, under its own id, and never goes back before it. -/
theorem own_step {r : ReqId} {written : Except String Unit} {taken : Case} {t t' : Shared}
    {pc pc' : RequestPc} {evs : List Event}
    (h : request m (req r) r written taken t pc = some (t', pc', evs)) :
    (pc'.early = true → pc.early = true) ∧
    ∀ k, t'.pending.lookup k = some r →
      t.pending.lookup k = some r ∨ pc.early = true ∧ pc'.early = false ∧ k = key req r := by
  cases pc with
  | start =>
    simp only [request] at h
    split_ifs at h <;> cases h <;> exact ⟨fun _ => rfl, fun k hk => Or.inl hk⟩
  | insert =>
    cases h
    refine ⟨fun _ => rfl, fun k hk => ?_⟩
    by_cases hkey : k = key req r
    · exact Or.inr ⟨rfl, rfl, hkey⟩
    · exact Or.inl ((AList.lookup_insert_ne hkey).symm.trans hk)
  | encode =>
    simp only [request] at h
    split at h <;> cases h <;> exact ⟨by rintro ⟨⟩, fun k hk => Or.inl hk⟩
  | write pc =>
    obtain ⟨⟨t₁, next, evs₁⟩, hwrite, heq⟩ := Option.map_eq_some_iff.mp h
    have hspares := spares_writeBinary (r := r) hwrite
    rcases next with pc₁ | ⟨err | u⟩ <;> cases heq <;>
      exact ⟨by rintro ⟨⟩, fun k hk => Or.inl (hspares.lookup k hk)⟩
  | select =>
    cases taken with
    | reply =>
      obtain ⟨⟨reply, c⟩, -, heq⟩ := Option.map_eq_some_iff.mp h
      cases heq
      exact ⟨by rintro ⟨⟩, fun k hk => Or.inl hk⟩
    | done err =>
      cases h
      exact ⟨by rintro ⟨⟩, fun k hk => Or.inl hk⟩
    | closed =>
      simp only [request] at h
      split_ifs at h
      cases h
      exact ⟨by rintro ⟨⟩, fun k hk => Or.inl hk⟩
  | remove err =>
    cases h
    exact ⟨by rintro ⟨⟩, fun k hk => Or.inl (lookup_of_lookup_erase hk)⟩
  | returned frame err => cases h

/-- The channel that the loop is about to send to is not in the map, and never will be. -/
structure Handed (req : ReqId → Request) (s : State) : Prop where
  entry : ∀ k r, s.shared.pending.lookup k = some r → k = key req r ∧ (s.requests r).early = false
  hand : ∀ r reply, s.readLoop = .send r reply →
    (s.requests r).early = false ∧ ∀ k, s.shared.pending.lookup k ≠ some r

theorem early_of_step {s s' : State} {i : Input} {evs : List Event} {r : ReqId}
    (h : (transport m decodeErrorBody req closing).step i s = some (s', evs))
    (hlate : (s.requests r).early = false) : (s'.requests r).early = false := by
  rcases step_cases (r := r) h with ⟨written, taken, t, pc, rfl, hstep, rfl⟩ | ⟨hsame, -, -⟩
  · rw [moveRequest_self]
    refine eq_false_of_ne_true fun hpc => Bool.false_ne_true ?_
    exact hlate.symm.trans ((own_step hstep).1 hpc)
  · rw [hsame]
    exact hlate

/-- An entry was there before, or is made by its request. -/
theorem lookup_of_step {s s' : State} {i : Input} {evs : List Event} {r : ReqId} {k : String}
    (h : (transport m decodeErrorBody req closing).step i s = some (s', evs))
    (hk : s'.shared.pending.lookup k = some r) :
    s.shared.pending.lookup k = some r ∨
    (s.requests r).early = true ∧ (s'.requests r).early = false ∧ k = key req r := by
  rcases step_cases (r := r) h with ⟨written, taken, t, pc, rfl, hstep, rfl⟩ | ⟨-, hlookup, -⟩
  · rw [moveRequest_self]
    exact (own_step hstep).2 k hk
  · exact Or.inl (hlookup k hk)

theorem handed {s : State} {tr : List Event}
    (h : (transport m decodeErrorBody req closing).Reachable s tr) : Handed req s := by
  refine TransitionSystem.Reachable.invariant (P := fun s _ => Handed req s)
    ⟨fun k r hk => ?_, fun r reply => by rintro ⟨⟩⟩ ?_ h
  · rw [transport, AList.lookup_empty] at hk
    cases hk
  intro s s' tr evs i _ hs ih
  refine ⟨fun k r hk => ?_, fun r reply hread => ?_⟩
  · rcases lookup_of_step hs hk with hbefore | ⟨-, hlate, hkey⟩
    · obtain ⟨hkey, hlate⟩ := ih.entry k r hbefore
      exact ⟨hkey, early_of_step hs hlate⟩
    · exact ⟨hkey, hlate⟩
  · rcases send_of_step hs hread with ⟨hbefore, -⟩ | ⟨k, hlookup, hpending, hrequests⟩
    · obtain ⟨hlate, hnone⟩ := ih.hand r reply hbefore
      refine ⟨early_of_step hs hlate, fun k hk => ?_⟩
      rcases lookup_of_step hs hk with hk | ⟨hearly, -⟩
      · exact hnone k hk
      · exact Bool.false_ne_true (hlate.symm.trans hearly)
    · obtain ⟨hkey, hlate⟩ := ih.entry k r hlookup
      rw [hrequests, hpending]
      refine ⟨hlate, fun k' hk' => ?_⟩
      -- the request had one entry
      have hkey' := (ih.entry k' r (lookup_of_lookup_erase hk')).1
      rw [hkey', ← hkey, AList.lookup_erase] at hk'
      cases hk'

/-! ### The reply in its channel -/

/-- The reply is in the channel of a request that has not given up, or the request has returned it. -/
inductive Holding (r : ReqId) (reply : Reply) (s : State) : Prop
  | waits (hcourse : (s.requests r).onCourse = true)
      (hbuffer : (s.shared.chan r).buffer = some reply)
      (hentry : ∀ k, s.shared.pending.lookup k ≠ some r)
      (hread : ∀ reply, s.readLoop ≠ .send r reply)
  | returned (h : s.requests r = .returned reply.frame reply.err)

/-- The write of a request that does not give up leaves the channels alone. -/
theorem writeBinary_onCourse {p : Party} {written : Except String Unit} {t t' : Shared}
    {pc : WritePc}
    {next : Writing} {evs : List Event} (h : writeBinary p written t pc = some (t', next, evs))
    (hfails : pc.fails written t = false) :
    (∃ pc', next = .goes pc' ∧ pc'.onCourse = true) ∨ next = .returned (.ok ()) := by
  cases pc with
  | start =>
    simp only [writeBinary, show t.closed = false from hfails] at h
    cases h
    exact Or.inl ⟨_, rfl, rfl⟩
  | lock =>
    simp only [writeBinary] at h
    split at h <;> cases h
    exact Or.inl ⟨_, rfl, rfl⟩
  | locked =>
    simp only [writeBinary, show t.closed = false from hfails] at h
    cases h
    exact Or.inl ⟨_, rfl, rfl⟩
  | write =>
    cases written with
    | ok u =>
      cases h
      exact Or.inl ⟨_, rfl, rfl⟩
    | error err => cases hfails
  | close err pc => cases hfails
  | unlock result =>
    cases result with
    | ok u =>
      cases h
      exact Or.inr rfl
    | error err => cases hfails

theorem receive_of_buffer {c : Channel Reply} {reply : Reply} (h : c.buffer = some reply) :
    c.receive = some (some reply, { c with buffer := none }) := by
  rw [Channel.receive, h]

/-- A request that does not give up goes on, or returns what is in its channel. -/
theorem own_step_of_keepsOn {r : ReqId} {written : Except String Unit} {taken : Case}
    {t t' : Shared} {pc pc' : RequestPc} {evs : List Event} {reply : Reply}
    (h : request m (req r) r written taken t pc = some (t', pc', evs))
    (hcourse : pc.onCourse = true)
    (hgivesUp : pc.givesUp m (req r) written taken t = false)
    (hbuffer : (t.chan r).buffer = some reply) :
    pc'.onCourse = true ∧ Spares r t t' ∨ pc' = .returned reply.frame reply.err := by
  cases pc with
  | encode =>
    simp only [request] at h
    cases hencode : encodeFrame m (req r).envelope (req r).bodyBytes with
    | ok bytes =>
      rw [hencode] at h
      cases h
      exact Or.inl ⟨rfl, fun _ => id, fun _ => rfl⟩
    | error err =>
      simp only [RequestPc.givesUp, hencode] at hgivesUp
      cases hgivesUp
  | write pc =>
    obtain ⟨⟨t₁, next, evs₁⟩, hwrite, heq⟩ := Option.map_eq_some_iff.mp h
    have hspares := spares_writeBinary (r := r) hwrite
    rcases writeBinary_onCourse hwrite hgivesUp with ⟨pc₁, rfl, hpc₁⟩ | rfl
    · cases heq
      exact Or.inl ⟨hpc₁, hspares⟩
    · cases heq
      exact Or.inl ⟨rfl, hspares⟩
  | select =>
    cases taken with
    | reply =>
      simp only [request, receive_of_buffer hbuffer, Option.map_some] at h
      cases h
      exact Or.inr rfl
    | done err => cases hgivesUp
    | closed => cases hgivesUp
  | _ => cases hcourse

theorem Holding.step {r : ReqId} {reply : Reply} {s s' : State} {i : Input} {evs : List Event}
    (h : Holding r reply s) (hkeeps : KeepsOn m req r s i)
    (hs : (transport m decodeErrorBody req closing).step i s = some (s', evs)) :
    Holding r reply s' := by
  cases h with
  | waits hcourse hbuffer hentry hread =>
    have hread' : ∀ reply, s'.readLoop ≠ .send r reply := by
      intro reply' hsend
      rcases send_of_step hs hsend with ⟨hbefore, -⟩ | ⟨k, hlookup, -, -⟩
      · exact hread reply' hbefore
      · exact hentry k hlookup
    have hspared : ∀ {t : Shared}, Spares r s.shared t →
        (t.chan r).buffer = some reply ∧ ∀ k, t.pending.lookup k ≠ some r :=
      fun hspares => ⟨(hspares.buffer hentry).trans hbuffer,
        fun k hk => hentry k (hspares.lookup k hk)⟩
    rcases step_cases (r := r) hs with ⟨written, taken, t, pc, rfl, hstep, rfl⟩ | ⟨hsame, -, hspares⟩
    · rcases own_step_of_keepsOn hstep hcourse (hkeeps rfl) hbuffer with
        ⟨hcourse', hspares⟩ | rfl
      · obtain ⟨hbuffer', hentry'⟩ := hspared hspares
        exact .waits (by rw [moveRequest_self]; exact hcourse') hbuffer' hentry' hread'
      · exact .returned (moveRequest_self ..)
    · obtain ⟨hbuffer', hentry'⟩ := hspared (hspares hread)
      exact .waits (by rw [hsame]; exact hcourse) hbuffer' hentry' hread'
  | returned hreturned =>
    rcases step_cases (r := r) hs with ⟨written, taken, t, pc, rfl, hstep, rfl⟩ | ⟨hsame, -, -⟩
    · rw [hreturned] at hstep
      cases hstep
    · exact .returned (hsame.trans hreturned)

/-- `deliverPending` has put a reply into the channel of a request that has not given up. -/
theorem holding_of_sent {s s' : State} {tr : List Event} {incoming : Incoming} {r : ReqId}
    {reply : Reply} (h : (transport m decodeErrorBody req closing).Reachable s tr)
    (hread : s.readLoop = .send r reply)
    (hs : (transport m decodeErrorBody req closing).step (.readLoop incoming) s =
      some (s', [.sent .readLoop r reply]))
    (hcourse : (s.requests r).onCourse = true) : Holding r reply s' := by
  obtain ⟨-, hnone⟩ := (handed h).hand r reply hread
  obtain ⟨⟨t', pc', evs'⟩, hstep, heq⟩ := Option.map_eq_some_iff.mp hs
  rw [hread] at hstep
  simp only [readLoop] at hstep
  split at hstep
  · rename_i c hsend
    cases hstep
    cases heq
    refine .waits hcourse ?_ hnone (by rintro _ ⟨⟩)
    dsimp only
    rw [Function.update_self]
    unfold Channel.send at hsend
    split_ifs at hsend
    split at hsend <;> cases hsend
    rfl
  · cases hstep
  · cases hstep
    cases heq

/-! ### Replies and what is returned -/

/-- **A reply that was delivered is returned**, if its request has not given up when it is delivered,
and does not give up afterwards: neither by another case of its `select` nor by a failed write.  Once
it is at its `select`, the case of the reply is ready. -/
theorem delivered_returned {s s₁ s₂ : State} {tr tr' : List Event} {incoming : Incoming} {r : ReqId}
    {reply : Reply} {is : List Input}
    (h : (transport m decodeErrorBody req closing).Reachable s tr)
    (hread : s.readLoop = .send r reply)
    (hs : (transport m decodeErrorBody req closing).step (.readLoop incoming) s =
      some (s₁, [.sent .readLoop r reply]))
    (hcourse : (s.requests r).onCourse = true)
    (hpath : (transport m decodeErrorBody req closing).Path (KeepsOn m req r) s₁ is tr' s₂) :
    (∀ frame err, s₂.requests r = .returned frame err → frame = reply.frame ∧ err = reply.err) ∧
    (s₂.requests r = .select → ∀ written, ∃ s₃,
      (transport m decodeErrorBody req closing).step (.request r written .reply) s₂ =
        some (s₃, []) ∧
      s₃.requests r = .returned reply.frame reply.err) := by
  have hholding : Holding r reply s₂ :=
    TransitionSystem.Path.invariant (P := fun _ _ s => Holding r reply s)
      (holding_of_sent h hread hs hcourse) (fun _ hkeeps hs ih => ih.step hkeeps hs) hpath
  refine ⟨fun frame err hreturned => ?_, fun hselect written => ?_⟩
  · cases hholding with
    | waits hcourse _ _ _ =>
      rw [hreturned] at hcourse
      cases hcourse
    | returned hreply =>
      rw [hreturned] at hreply
      cases hreply
      exact ⟨rfl, rfl⟩
  · cases hholding with
    | waits _ hbuffer _ _ =>
      have hstep : (transport m decodeErrorBody req closing).step (.request r written .reply) s₂ =
          some (s₂.moveRequest r
            { s₂.shared with
              chan := Function.update s₂.shared.chan r { s₂.shared.chan r with buffer := none } }
            (.returned reply.frame reply.err), []) := by
        simp only [transport, request, hselect, receive_of_buffer hbuffer, Option.map_some,
          Option.getD_some]
        rfl
      exact ⟨_, hstep, moveRequest_self ..⟩
    | returned hreply =>
      rw [hselect] at hreply
      cases hreply

section Sample

/-- The loop is about to send a frame to `r`. -/
def ReadPc.sendsTo (r : ReqId) : ReadPc → Bool
  | .send q reply => q == r && reply.frame.isSome
  | _ => false

theorem send_of_sendsTo {r : ReqId} {pc : ReadPc} (h : pc.sendsTo r = true) :
    ∃ reply, pc = .send r reply ∧ reply.frame ≠ none := by
  cases pc with
  | send q reply =>
    obtain ⟨hq, hframe⟩ := Bool.and_eq_true_iff.mp h
    rw [beq_iff_eq.mp hq]
    exact ⟨reply, rfl, Option.isSome_iff_ne_none.mp hframe⟩
  | _ => cases h

theorem step_of_send {s s₁ : State} {tr evs : List Event} {incoming : Incoming} {r : ReqId}
    {reply : Reply} (hinj : Function.Injective (key req))
    (h : (transport m decodeErrorBody req closing).Reachable s tr)
    (hread : s.readLoop = .send r reply)
    (hs : (transport m decodeErrorBody req closing).step (.readLoop incoming) s = some (s₁, evs)) :
    evs = [.sent .readLoop r reply] := by
  simp only [transport, readLoop, hread, ((safe hinj h).fresh_of_send hread).1, Channel.send_fresh,
    Option.map_some] at hs
  cases hs
  rfl

/-- The request has returned, with a frame or without. -/
def RequestPc.returnedFrame (some? : Bool) : RequestPc → Bool
  | .returned frame _ => frame.isSome == some?
  | _ => false

theorem returned_of_returnedFrame {some? : Bool} {pc : RequestPc}
    (h : pc.returnedFrame some? = true) :
    ∃ frame err, pc = .returned frame err ∧ frame.isSome = some? := by
  cases pc with
  | returned frame err => exact ⟨frame, err, rfl, beq_iff_eq.mp h⟩
  | _ => cases h

/-- A request has sent its frame and waits, and the loop has its reply in hand. -/
def replied : List Input := List.replicate 8 (requests 0) ++ [responds 0, responds 0]

/-- The loop closes the channel; the connection fails, and the loop closes the transport. -/
def breaks : List Input := List.replicate 5 (.readLoop (.failed "EOF"))

/-- The transport is closed before the request gets to its reply, which it takes nevertheless. -/
theorem delivered_returned_of_closed : ∃ s tr s₁ is tr' s₂ reply,
    localTransport.Reachable s tr ∧ s.shared.closed = false ∧ s.readLoop = .send 0 reply ∧
    localTransport.Path
      (KeepsOn (Bindings.rmpMsgpack Router.msgPackSerde) localRequest 0) s₁ is tr' s₂ ∧
    s₂.shared.closed = true ∧ reply.frame ≠ none ∧
    s₂.requests 0 = .returned reply.frame reply.err := by
  obtain ⟨s, tr, hrun, hp⟩ := localTransport.exists_reachable_of_exec replied
    (fun s _ => s.readLoop.sendsTo 0 && (s.requests 0).onCourse && !s.shared.closed &&
      ((localTransport.step (responds 0) s).any fun r =>
        (localTransport.exec (fun s _ i => KeepsOn (Bindings.rmpMsgpack Router.msgPackSerde)
          localRequest 0 s i) r.1 [] (breaks ++ [requests 0])).any fun q =>
            q.1.shared.closed && (q.1.requests 0).returnedFrame true)) (by decide +kernel)
  rw [Bool.and_eq_true, Bool.and_eq_true, Bool.and_eq_true, Bool.not_eq_true'] at hp
  obtain ⟨⟨⟨hsends, hcourse⟩, hopen⟩, hexec⟩ := hp
  obtain ⟨reply, hread, hframe⟩ := send_of_sendsTo hsends
  obtain ⟨s₁, evs, s₂, tr', hs, hpath, hend⟩ := TransitionSystem.exists_path_of_exec
    (T := localTransport)
    (C := fun s i => KeepsOn (Bindings.rmpMsgpack Router.msgPackSerde) localRequest 0 s i)
    (responds 0) (breaks ++ [requests 0])
    (fun s _ => s.shared.closed && (s.requests 0).returnedFrame true) hexec
  rw [Bool.and_eq_true] at hend
  obtain ⟨frame, err, hreturned, -⟩ := returned_of_returnedFrame hend.2
  have hevs := step_of_send localRequest_injective hrun hread hs
  subst hevs
  obtain ⟨rfl, rfl⟩ := (delivered_returned hrun hread hs hcourse hpath).1 frame err hreturned
  exact ⟨s, tr, s₁, _, tr', s₂, reply, hrun, hopen, hread, hpath, hend.1, hframe, hreturned⟩

/-- The reply is in the channel and the transport is closed: the `select` takes the other case. -/
theorem lost_of_closed : ¬ ∀ (s s₁ s₂ : State) (tr tr' : List Event) (incoming : Incoming)
    (r : ReqId) (reply : Reply) (is : List Input), localTransport.Reachable s tr →
    s.shared.closed = false → s.readLoop = .send r reply → (s.requests r).onCourse = true →
    localTransport.step (.readLoop incoming) s = some (s₁, [.sent .readLoop r reply]) →
    localTransport.Path (fun _ _ => True) s₁ is tr' s₂ →
    ∀ frame err, s₂.requests r = .returned frame err → frame = reply.frame ∧ err = reply.err := by
  obtain ⟨s, tr, hrun, hp⟩ := localTransport.exists_reachable_of_exec replied
    (fun s _ => s.readLoop.sendsTo 0 && (s.requests 0).onCourse && !s.shared.closed &&
      ((localTransport.step (responds 0) s).any fun r =>
        (localTransport.exec (fun _ _ _ => True) r.1 []
          (breaks ++ [.request 0 (.ok ()) .closed, requests 0])).any fun q =>
            (q.1.requests 0).returnedFrame false)) (by decide +kernel)
  rw [Bool.and_eq_true, Bool.and_eq_true, Bool.and_eq_true, Bool.not_eq_true'] at hp
  obtain ⟨⟨⟨hsends, hcourse⟩, hopen⟩, hexec⟩ := hp
  obtain ⟨reply, hread, hframe⟩ := send_of_sendsTo hsends
  obtain ⟨s₁, evs, s₂, tr', hs, hpath, hend⟩ := TransitionSystem.exists_path_of_exec
    (T := localTransport) (C := fun _ _ => True) (responds 0)
    (breaks ++ [.request 0 (.ok ()) .closed, requests 0])
    (fun s _ => (s.requests 0).returnedFrame false) hexec
  obtain ⟨frame, err, hreturned, hnone⟩ := returned_of_returnedFrame hend
  have hevs := step_of_send localRequest_injective hrun hread hs
  subst hevs
  intro h
  obtain ⟨hsame, -⟩ := h s s₁ s₂ tr tr' _ 0 reply _ hrun hopen hread hcourse hs hpath frame err hreturned
  rw [hsame, Option.isSome_eq_false_iff, Option.isNone_iff_eq_none] at hnone
  exact hframe hnone

end Sample

end Multifrost.Go.Transport
