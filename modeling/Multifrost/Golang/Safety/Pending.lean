import Mathlib.Logic.Relation
import Multifrost.Bindings.Split
import Multifrost.Golang.Transport

/-!
# The pending map of the Go transport

A reply channel is sent to and closed by whoever took it out of the map, once, and the request takes
its own entry out unless somebody else has: so that no channel is closed twice or sent to after its
close, no sender blocks, and no entry outlives its request.  A request that makes its entry after the
map was drained finds the transport closed where it waits.

`Life` says for one request where its entry and its channel are; every step keeps it.
-/

namespace Multifrost.Go.Transport

open Bindings (ErrorBody)
open Router (FrameParts)

variable {m : Msgpack} {decodeErrorBody : Bytes → Except Failure ErrorBody}
  {req : ReqId → Request} {closing : Nat → Option Failure}

/-- The key of a request. -/
def key (req : ReqId → Request) (r : ReqId) : String := (req r).envelope.msgId

/-! ### What is seen of a channel -/

def Event.remover (r : ReqId) : Event → Option Party
  | .removed p q => if q = r then some p else none
  | _ => none

def Event.sender (r : ReqId) : Event → Option Party
  | .sent p q _ => if q = r then some p else none
  | _ => none

/-- Who has taken the channel of `r` out of the map. -/
def removers (r : ReqId) (tr : List Event) : List Party := tr.filterMap (Event.remover r)

/-- Who has sent to the channel of `r`. -/
def senders (r : ReqId) (tr : List Event) : List Party := tr.filterMap (Event.sender r)

theorem removers_append (r : ReqId) (tr evs : List Event) :
    removers r (tr ++ evs) = removers r tr ++ removers r evs := List.filterMap_append

theorem senders_append (r : ReqId) (tr evs : List Event) :
    senders r (tr ++ evs) = senders r tr ++ senders r evs := List.filterMap_append

/-- Events that say nothing of `r`. -/
structure Silent (r : ReqId) (evs : List Event) : Prop where
  removers : removers r evs = []
  senders : senders r evs = []

theorem silent_nil {r : ReqId} : Silent r [] := ⟨rfl, rfl⟩

/-! ### Cancelling -/

/-- An entry whose channel was never used is given its reply, and its channel is closed. -/
theorem cancelEntry_fresh {p : Party} {reply : Reply} {chan : ReqId → Channel Reply} {r : ReqId}
    (h : chan r = .fresh) :
    cancelEntry p reply chan r =
      (Function.update chan r ⟨some reply, true⟩, [.sent p r reply, .closed p r, .removed p r]) := by
  simp [cancelEntry, h, Channel.send, Channel.close, Channel.fresh]

/-- The events of one round are about its own channel. -/
theorem seen_cancelEntry (p : Party) (q r : ReqId) (reply : Reply) :
    removers r [.sent p q reply, .closed p q, .removed p q] = (if q = r then [p] else []) ∧
      senders r [.sent p q reply, .closed p q, .removed p q] = if q = r then [p] else [] := by
  by_cases h : q = r
  · simp [removers, senders, List.filterMap_cons, Event.remover, Event.sender, h]
  · simp [removers, senders, List.filterMap_cons, Event.remover, Event.sender, h]

/-- What cancelling does to the channels that are in the map, and to those that are not. -/
structure Cancelled (p : Party) (rs : List ReqId) (chan chan' : ReqId → Channel Reply)
    (evs : List Event) : Prop where
  within : ∀ r ∈ rs, removers r evs = [p] ∧ senders r evs = [p]
  beyond : ∀ r, r ∉ rs → chan' r = chan r ∧ Silent r evs
  calm : .panicked ∉ evs

theorem cancelled_cancelEntries (p : Party) (reply : Reply) {rs : List ReqId} :
    ∀ {chan : ReqId → Channel Reply}, rs.Nodup → (∀ r ∈ rs, chan r = .fresh) →
      Cancelled p rs chan (cancelEntries p reply rs chan).1 (cancelEntries p reply rs chan).2 := by
  induction rs with
  | nil =>
    intro chan _ _
    exact ⟨nofun, fun r _ => ⟨rfl, silent_nil⟩, nofun⟩
  | cons q rs ih =>
    intro chan hnodup hfresh
    obtain ⟨hq, hnodup⟩ := List.nodup_cons.mp hnodup
    have hne : ∀ r ∈ rs, r ≠ q := by
      rintro r hr rfl
      exact hq hr
    have hrest : ∀ r ∈ rs, Function.update chan q (⟨some reply, true⟩ : Channel Reply) r = .fresh := by
      intro r hr
      rw [Function.update_of_ne (hne r hr)]
      exact hfresh r (List.mem_cons_of_mem q hr)
    obtain ⟨hwithin, hbeyond, hcalm⟩ := ih hnodup hrest
    simp only [cancelEntries, cancelEntry_fresh (hfresh q List.mem_cons_self)]
    refine ⟨fun r hr => ?_, fun r hr => ?_, ?_⟩
    · rw [removers_append, senders_append, (seen_cancelEntry p q r reply).1,
        (seen_cancelEntry p q r reply).2]
      rcases List.mem_cons.mp hr with rfl | hr
      · obtain ⟨-, hremovers, hsenders⟩ := hbeyond r hq
        rw [hremovers, hsenders, if_pos rfl]
        exact ⟨rfl, rfl⟩
      · obtain ⟨hremovers, hsenders⟩ := hwithin r hr
        rw [hremovers, hsenders, if_neg (Ne.symm (hne r hr))]
        exact ⟨rfl, rfl⟩
    · obtain ⟨hrq, hr⟩ := not_or.mp (mt List.mem_cons.mpr hr)
      obtain ⟨hchan, hremovers, hsenders⟩ := hbeyond r hr
      refine ⟨hchan.trans (Function.update_of_ne hrq ..), ?_, ?_⟩
      · rw [removers_append, (seen_cancelEntry p q r reply).1, hremovers, if_neg (Ne.symm hrq)]
        rfl
      · rw [senders_append, (seen_cancelEntry p q r reply).2, hsenders, if_neg (Ne.symm hrq)]
        rfl
    · simpa using hcalm

/-! ### Sections of the code that leave the map alone -/

/-- A step that neither touches the map nor a channel. -/
structure Untouched (t t' : Shared) (evs : List Event) : Prop where
  pending : t'.pending = t.pending
  chan : t'.chan = t.chan
  evs : evs = []

/-- The only step of a close that touches the map is `cancelPending`. -/
theorem closeWithError_cases {p : Party} {err : Option Failure} {t t' : Shared} {pc : ClosePc}
    {pc' : Option ClosePc} {evs : List Event}
    (h : closeWithError p err t pc = some (t', pc', evs)) :
    Untouched t t' evs ∨
      t' = (cancelPending p err t).1 ∧ evs = (cancelPending p err t).2 := by
  cases pc with
  | enter =>
    simp only [closeWithError] at h
    split at h
    · cases h
      exact Or.inl ⟨rfl, rfl, rfl⟩
    · cases h
    · cases h
      exact Or.inl ⟨rfl, rfl, rfl⟩
  | cancel =>
    cases h
    exact Or.inr ⟨rfl, rfl⟩
  | _ =>
    cases h
    exact Or.inl ⟨rfl, rfl, rfl⟩

theorem writeBinary_cases {p : Party} {written : Except String Unit} {t t' : Shared} {pc : WritePc}
    {next : Writing} {evs : List Event}
    (h : writeBinary p written t pc = some (t', next, evs)) :
    Untouched t t' evs ∨
      ∃ err, t' = (cancelPending p err t).1 ∧ evs = (cancelPending p err t).2 := by
  cases pc with
  | close err pc =>
    obtain ⟨⟨t₁, pc₁, evs₁⟩, hclose, heq⟩ := Option.map_eq_some_iff.mp h
    have hsame : t₁ = t' ∧ evs₁ = evs := by
      cases pc₁ <;> cases heq <;> exact ⟨rfl, rfl⟩
    obtain ⟨rfl, rfl⟩ := hsame
    exact (closeWithError_cases hclose).imp_right fun hcancel => ⟨some err, hcancel⟩
  | lock =>
    simp only [writeBinary] at h
    split at h <;> cases h
    exact Or.inl ⟨rfl, rfl, rfl⟩
  | write =>
    cases written <;> cases h <;> exact Or.inl ⟨rfl, rfl, rfl⟩
  | unlock result =>
    cases h
    exact Or.inl ⟨rfl, rfl, rfl⟩
  | _ =>
    simp only [writeBinary] at h
    split_ifs at h <;> cases h <;> exact Or.inl ⟨rfl, rfl, rfl⟩

/-! ### The life of a request -/

/-- The request has not made its entry. -/
def RequestPc.early : RequestPc → Bool
  | .start | .insert => true
  | _ => false

/-- The request has made its entry and has not returned. -/
def RequestPc.holds : RequestPc → Bool
  | .encode | .write _ | .select | .remove _ => true
  | _ => false

/-- The channel that the loop has taken out of the map. -/
def ReadPc.hand : ReadPc → Option ReqId
  | .send r _ | .closeChan r => some r
  | _ => none

/-- Where the entry and the channel of a request are. -/
inductive Life (req : ReqId → Request) (r : ReqId) (s : State) (tr : List Event) : Prop
  /-- There is no entry yet. -/
  | absent (hentry : s.shared.pending.lookup (key req r) = none) (hhand : s.readLoop.hand ≠ some r)
      (hremovers : removers r tr = []) (hsenders : senders r tr = [])
  | pending (hpc : (s.requests r).holds = true)
      (hentry : s.shared.pending.lookup (key req r) = some r) (hchan : s.shared.chan r = .fresh)
      (hhand : s.readLoop.hand ≠ some r) (hremovers : removers r tr = [])
      (hsenders : senders r tr = [])
  /-- The loop has taken the entry and is about to send. -/
  | taken {reply : Reply} (hpc : (s.requests r).early = false) (hread : s.readLoop = .send r reply)
      (hentry : s.shared.pending.lookup (key req r) = none) (hchan : s.shared.chan r = .fresh)
      (hremovers : removers r tr = [.readLoop]) (hsenders : senders r tr = [])
  /-- The loop has sent and is about to close. -/
  | answered (hpc : (s.requests r).early = false) (hread : s.readLoop = .closeChan r)
      (hentry : s.shared.pending.lookup (key req r) = none)
      (hopen : (s.shared.chan r).closed = false)
      (hremovers : removers r tr = [.readLoop]) (hsenders : senders r tr = [.readLoop])
  /-- The entry is gone, and nobody will touch the channel but its request. -/
  | settled {p : Party} (hpc : (s.requests r).early = false)
      (hentry : s.shared.pending.lookup (key req r) = none) (hhand : s.readLoop.hand ≠ some r)
      (hremovers : removers r tr = [p]) (hsenders : senders r tr = [] ∨ senders r tr = [p])

/-- The key of a request is used for its own entry only. -/
theorem Life.lookup_eq_none {r : ReqId} {s : State} {tr : List Event} (h : Life req r s tr)
    (hne : s.shared.pending.lookup (key req r) ≠ some r) :
    s.shared.pending.lookup (key req r) = none := by
  cases h with
  | pending _ hentry _ _ _ _ => exact absurd hentry hne
  | absent hentry _ _ _ => exact hentry
  | taken _ _ hentry _ _ _ => exact hentry
  | answered _ _ hentry _ _ _ => exact hentry
  | settled _ hentry _ _ _ => exact hentry

/-- The map and the channels, in every state of a run. -/
structure Safe (req : ReqId → Request) (s : State) (tr : List Event) : Prop where
  /-- An entry is under the id of its request. -/
  keyed : ∀ k r, s.shared.pending.lookup k = some r → k = key req r
  life : ∀ r, Life req r s tr
  calm : .panicked ∉ tr

/-- The life of a request goes on as long as its entry, its channel and the events about it stay,
and neither the request nor the loop does anything that matters to it. -/
theorem Life.of_same {r : ReqId} {s s' : State} {tr evs : List Event} (h : Life req r s tr)
    (hentry : s'.shared.pending.lookup (key req r) = s.shared.pending.lookup (key req r))
    (hchan : s'.shared.chan r = s.shared.chan r) (hevs : Silent r evs)
    (hread : s'.readLoop = s.readLoop ∨ s.readLoop.hand ≠ some r ∧ s'.readLoop.hand ≠ some r)
    (hearly : (s.requests r).early = false → (s'.requests r).early = false)
    (hholds : s.shared.pending.lookup (key req r) = some r → (s.requests r).holds = true →
      (s'.requests r).holds = true) : Life req r s' (tr ++ evs) := by
  have hremovers : removers r (tr ++ evs) = removers r tr := by
    rw [removers_append, hevs.removers, List.append_nil]
  have hsenders : senders r (tr ++ evs) = senders r tr := by
    rw [senders_append, hevs.senders, List.append_nil]
  have hhand : s.readLoop.hand ≠ some r → s'.readLoop.hand ≠ some r := by
    intro hne
    rcases hread with hread | ⟨-, hread⟩
    · rwa [hread]
    · exact hread
  have hsame : s.readLoop.hand = some r → s'.readLoop = s.readLoop :=
    fun hr => hread.resolve_right fun hne => hne.1 hr
  cases h with
  | absent hentry₀ hhand₀ hremovers₀ hsenders₀ =>
    exact .absent (hentry.trans hentry₀) (hhand hhand₀) (hremovers.trans hremovers₀)
      (hsenders.trans hsenders₀)
  | pending hpc hentry₀ hchan₀ hhand₀ hremovers₀ hsenders₀ =>
    exact .pending (hholds hentry₀ hpc) (hentry.trans hentry₀) (hchan.trans hchan₀) (hhand hhand₀)
      (hremovers.trans hremovers₀) (hsenders.trans hsenders₀)
  | taken hpc hread₀ hentry₀ hchan₀ hremovers₀ hsenders₀ =>
    have hsend := hsame (by rw [hread₀]; rfl)
    exact .taken (hearly hpc) (hsend.trans hread₀) (hentry.trans hentry₀) (hchan.trans hchan₀)
      (hremovers.trans hremovers₀) (hsenders.trans hsenders₀)
  | answered hpc hread₀ hentry₀ hopen hremovers₀ hsenders₀ =>
    have hclose := hsame (by rw [hread₀]; rfl)
    exact .answered (hearly hpc) (hclose.trans hread₀) (hentry.trans hentry₀) (by rw [hchan]; exact hopen)
      (hremovers.trans hremovers₀) (hsenders.trans hsenders₀)
  | settled hpc hentry₀ hhand₀ hremovers₀ hsenders₀ =>
    exact .settled (hearly hpc) (hentry.trans hentry₀) (hhand hhand₀) (hremovers.trans hremovers₀)
      (by rw [hsenders]; exact hsenders₀)

/-! ### Steps that close or write -/

theorem early_of_holds {pc : RequestPc} (h : pc.holds = true) : pc.early = false := by
  cases pc with
  | start => cases h
  | insert => cases h
  | _ => rfl

/-- The requests whose channels are in the map. -/
theorem mem_entries {t : Shared} {r : ReqId} :
    r ∈ t.pending.entries.map Sigma.snd ↔ ∃ k, t.pending.lookup k = some r := by
  rw [List.mem_map]
  constructor
  · rintro ⟨⟨k, r'⟩, hmem, rfl⟩
    exact ⟨k, AList.mem_lookup_iff.mpr hmem⟩
  · rintro ⟨k, hlookup⟩
    exact ⟨⟨k, r⟩, AList.mem_lookup_iff.mp hlookup, rfl⟩

theorem Safe.nodup {s : State} {tr : List Event} (h : Safe req s tr) :
    (s.shared.pending.entries.map Sigma.snd).Nodup := by
  refine List.Nodup.map_on ?_ s.shared.pending.nodupKeys.nodup
  rintro ⟨k, r⟩ hk ⟨k', r'⟩ hk' heq
  obtain rfl : r = r' := heq
  rw [h.keyed k r (AList.mem_lookup_iff.mpr hk), h.keyed k' r (AList.mem_lookup_iff.mpr hk')]

/-- An entry of the map belongs to a request whose channel was never used. -/
theorem Safe.entry {s : State} {tr : List Event} (h : Safe req s tr) {r : ReqId}
    (hr : s.shared.pending.lookup (key req r) = some r) :
    (s.requests r).holds = true ∧ s.shared.chan r = .fresh ∧ s.readLoop.hand ≠ some r ∧
      removers r tr = [] ∧ senders r tr = [] := by
  cases h.life r with
  | pending hpc hentry hchan hhand hremovers hsenders =>
    exact ⟨hpc, hchan, hhand, hremovers, hsenders⟩
  | absent hentry _ _ _ => rw [hentry] at hr; cases hr
  | taken _ _ hentry _ _ _ => rw [hentry] at hr; cases hr
  | answered _ _ hentry _ _ _ => rw [hentry] at hr; cases hr
  | settled _ hentry _ _ _ => rw [hentry] at hr; cases hr

/-- Nobody whose place matters to the map moves. -/
structure Steady (s s' : State) : Prop where
  readLoop : s'.readLoop = s.readLoop ∨ s.readLoop.hand = none ∧ s'.readLoop.hand = none
  early : ∀ r, (s.requests r).early = false → (s'.requests r).early = false
  holds : ∀ r, (s.requests r).holds = true → (s'.requests r).holds = true

theorem Steady.hand {s s' : State} (h : Steady s s') (r : ReqId) :
    s'.readLoop = s.readLoop ∨ s.readLoop.hand ≠ some r ∧ s'.readLoop.hand ≠ some r := by
  refine h.readLoop.imp_right ?_
  rintro ⟨hnone, hnone'⟩
  rw [hnone, hnone']
  exact ⟨nofun, nofun⟩

theorem Safe.of_untouched {s s' : State} {tr evs : List Event} (h : Safe req s tr)
    (hstep : Untouched s.shared s'.shared evs) (hsteady : Steady s s') : Safe req s' (tr ++ evs) := by
  obtain ⟨hpending, hchan, rfl⟩ := hstep
  refine ⟨?_, fun r => ?_, ?_⟩
  · rw [hpending]
    exact h.keyed
  · exact (h.life r).of_same (by rw [hpending]) (by rw [hchan]) silent_nil (hsteady.hand r)
      (hsteady.early r) fun _ => hsteady.holds r
  · rw [List.append_nil]
    exact h.calm

theorem Safe.of_cancel {s s' : State} {tr : List Event} {p : Party} {err : Option Failure}
    (h : Safe req s tr) (hshared : s'.shared = (cancelPending p err s.shared).1)
    (hsteady : Steady s s') : Safe req s' (tr ++ (cancelPending p err s.shared).2) := by
  have hfresh : ∀ r ∈ s.shared.pending.entries.map Sigma.snd, s.shared.chan r = .fresh := by
    intro r hr
    obtain ⟨k, hk⟩ := mem_entries.mp hr
    rw [h.keyed k r hk] at hk
    exact (h.entry hk).2.1
  obtain ⟨hwithin, hbeyond, hcalm⟩ := cancelled_cancelEntries p
    ⟨none, some (err.getD s.shared.transportClosedError)⟩ h.nodup hfresh
  have hempty : ∀ k, s'.shared.pending.lookup k = none := by
    intro k
    rw [hshared]
    exact AList.lookup_empty k
  refine ⟨fun k r hk => ?_, fun r => ?_, ?_⟩
  · rw [hempty] at hk
    cases hk
  · by_cases hr : r ∈ s.shared.pending.entries.map Sigma.snd
    · -- the request was pending, and its channel is sent to and closed here
      obtain ⟨k, hk⟩ := mem_entries.mp hr
      rw [h.keyed k r hk] at hk
      obtain ⟨hholds, -, hhand, hremovers, hsenders⟩ := h.entry hk
      refine .settled (p := p) (hsteady.early r (early_of_holds hholds)) (hempty _) ?_ ?_ (Or.inr ?_)
      · rcases hsteady.hand r with hread | ⟨-, hread⟩
        · rwa [hread]
        · exact hread
      · rw [removers_append, hremovers, cancelPending, removers_append, (hwithin r hr).1]
        rfl
      · rw [senders_append, hsenders, cancelPending, senders_append, (hwithin r hr).2]
        rfl
    · obtain ⟨hchan, hsilent⟩ := hbeyond r hr
      have hnone : s.shared.pending.lookup (key req r) ≠ some r :=
        fun hlookup => hr (mem_entries.mpr ⟨_, hlookup⟩)
      refine (h.life r).of_same ?_ ?_ ⟨?_, ?_⟩ (hsteady.hand r) (hsteady.early r)
        fun _ => hsteady.holds r
      · rw [hempty]
        exact ((h.life r).lookup_eq_none hnone).symm
      · rw [hshared]
        exact hchan
      · rw [cancelPending, removers_append, hsilent.removers]
        rfl
      · rw [cancelPending, senders_append, hsilent.senders]
        rfl
  · intro hmem
    rw [cancelPending, List.mem_append, List.mem_append] at hmem
    rcases hmem with hmem | hmem | hmem
    · exact h.calm hmem
    · exact hcalm hmem
    · cases hmem with
      | tail _ hmem => cases hmem

theorem Safe.of_closeWithError {s s' : State} {tr evs : List Event} {p : Party}
    {err : Option Failure} {t' : Shared} {pc : ClosePc} {pc' : Option ClosePc} (h : Safe req s tr)
    (hclose : closeWithError p err s.shared pc = some (t', pc', evs)) (hshared : s'.shared = t')
    (hsteady : Steady s s') : Safe req s' (tr ++ evs) := by
  subst hshared
  rcases closeWithError_cases hclose with huntouched | ⟨hcancel, rfl⟩
  · exact h.of_untouched huntouched hsteady
  · exact h.of_cancel hcancel hsteady

theorem Safe.of_writeBinary {s s' : State} {tr evs : List Event} {p : Party}
    {written : Except String Unit} {t' : Shared} {pc : WritePc} {next : Writing} (h : Safe req s tr)
    (hwrite : writeBinary p written s.shared pc = some (t', next, evs)) (hshared : s'.shared = t')
    (hsteady : Steady s s') : Safe req s' (tr ++ evs) := by
  subst hshared
  rcases writeBinary_cases hwrite with huntouched | ⟨err, hcancel, rfl⟩
  · exact h.of_untouched huntouched hsteady
  · exact h.of_cancel hcancel hsteady

/-! ### Steps of requests -/

/-- The state after a step of the request `r`. -/
def State.moveRequest (s : State) (r : ReqId) (t : Shared) (pc : RequestPc) : State :=
  { s with shared := t, requests := Function.update s.requests r pc }

theorem moveRequest_self (s : State) (r : ReqId) (t : Shared) (pc : RequestPc) :
    (s.moveRequest r t pc).requests r = pc := Function.update_self ..

theorem moveRequest_of_ne {q r : ReqId} (h : q ≠ r) (s : State) (t : Shared) (pc : RequestPc) :
    (s.moveRequest r t pc).requests q = s.requests q := Function.update_of_ne h ..

/-- A request goes on without touching its entry. -/
theorem steady_moveRequest {s : State} {r : ReqId} {t : Shared} {pc : RequestPc}
    (hearly : (s.requests r).early = false → pc.early = false)
    (hholds : (s.requests r).holds = true → pc.holds = true) : Steady s (s.moveRequest r t pc) := by
  refine ⟨Or.inl rfl, fun q => ?_, fun q => ?_⟩
  · by_cases hq : q = r
    · subst hq
      rw [moveRequest_self]
      exact hearly
    · rw [moveRequest_of_ne hq]
      exact id
  · by_cases hq : q = r
    · subst hq
      rw [moveRequest_self]
      exact hholds
    · rw [moveRequest_of_ne hq]
      exact id

/-- A step of the request `r` leaves the life of another request alone if it leaves its entry and its
channel alone. -/
theorem Life.of_other {q r : ReqId} {s : State} {t : Shared} {pc : RequestPc} {tr evs : List Event}
    (h : Life req q s tr) (hq : q ≠ r)
    (hentry : t.pending.lookup (key req q) = s.shared.pending.lookup (key req q))
    (hchan : t.chan q = s.shared.chan q) (hevs : Silent q evs) :
    Life req q (s.moveRequest r t pc) (tr ++ evs) := by
  refine h.of_same hentry hchan hevs (Or.inl rfl) ?_ fun _ => ?_
  · rw [moveRequest_of_ne hq]
    exact id
  · rw [moveRequest_of_ne hq]
    exact id

theorem Safe.of_insert {s : State} {tr : List Event} {r : ReqId} (h : Safe req s tr)
    (hinj : Function.Injective (key req)) (hpc : s.requests r = .insert) :
    Safe req (s.moveRequest r { s.shared with
      pending := s.shared.pending.insert (key req r) r
      chan := Function.update s.shared.chan r .fresh } .encode) (tr ++ []) := by
  refine ⟨fun k q hk => ?_, fun q => ?_, ?_⟩
  · by_cases hkey : k = key req r
    · subst hkey
      have hself : (s.shared.pending.insert (key req r) r).lookup (key req r) = some r :=
        AList.lookup_insert _
      rw [← Option.some.inj (hself.symm.trans hk)]
    · exact h.keyed k q ((AList.lookup_insert_ne hkey).symm.trans hk)
  · by_cases hq : q = r
    · subst hq
      rw [List.append_nil]
      -- a request that has no entry yet is absent
      cases h.life q with
      | absent hentry hhand hremovers hsenders =>
        exact .pending (by rw [moveRequest_self]; rfl) (AList.lookup_insert _)
          (Function.update_self ..) hhand hremovers hsenders
      | pending hearly _ _ _ _ _ => rw [hpc] at hearly; cases hearly
      | taken hearly _ _ _ _ _ => rw [hpc] at hearly; cases hearly
      | answered hearly _ _ _ _ _ => rw [hpc] at hearly; cases hearly
      | settled hearly _ _ _ _ => rw [hpc] at hearly; cases hearly
    · exact (h.life q).of_other hq (AList.lookup_insert_ne fun hkey => hq (hinj hkey))
        (Function.update_of_ne hq ..) silent_nil
  · rw [List.append_nil]
    exact h.calm

/-- The receiver of a reply leaves the channel as open as it was. -/
theorem closed_of_receive {c c' : Channel Reply} {reply : Option Reply}
    (h : c.receive = some (reply, c')) : c'.closed = c.closed := by
  unfold Channel.receive at h
  split at h
  · cases h
    rfl
  · split_ifs at h
    cases h
    rfl

theorem Safe.of_receive {s : State} {tr : List Event} {r : ReqId} {reply : Option Reply}
    {c : Channel Reply} {pc : RequestPc} (h : Safe req s tr) (hpc : s.requests r = .select)
    (hpc' : pc.early = false) (hreceive : (s.shared.chan r).receive = some (reply, c)) :
    Safe req (s.moveRequest r { s.shared with chan := Function.update s.shared.chan r c } pc)
      (tr ++ []) := by
  refine ⟨h.keyed, fun q => ?_, ?_⟩
  · by_cases hq : q = r
    · subst hq
      rw [List.append_nil]
      have hearly : ((s.moveRequest q { s.shared with chan := Function.update s.shared.chan q c }
          pc).requests q).early = false := by
        rw [moveRequest_self]
        exact hpc'
      cases h.life q with
      | absent hentry hhand hremovers hsenders => exact .absent hentry hhand hremovers hsenders
      -- there is nothing to receive before the loop or a close has sent
      | pending _ _ hchan _ _ _ =>
        rw [hchan, Channel.receive_fresh] at hreceive
        cases hreceive
      | taken _ _ _ hchan _ _ =>
        rw [hchan, Channel.receive_fresh] at hreceive
        cases hreceive
      | answered _ hread hentry hopen hremovers hsenders =>
        have hchan : Function.update s.shared.chan q c q = c := Function.update_self ..
        refine .answered hearly hread hentry ?_ hremovers hsenders
        dsimp only [State.moveRequest]
        rw [hchan, closed_of_receive hreceive]
        exact hopen
      | settled _ hentry hhand hremovers hsenders =>
        exact .settled hearly hentry hhand hremovers hsenders
    · exact (h.life q).of_other hq rfl (Function.update_of_ne hq ..) silent_nil
  · rw [List.append_nil]
    exact h.calm

theorem Safe.of_remove {s : State} {tr : List Event} {r : ReqId} {pc : RequestPc}
    (h : Safe req s tr) (hinj : Function.Injective (key req)) (hpc : (s.requests r).early = false)
    (hpc' : pc.early = false) :
    Safe req (s.moveRequest r (removePending (.request r) (key req r) s.shared).1 pc)
      (tr ++ (removePending (.request r) (key req r) s.shared).2) := by
  have hgone : (s.shared.pending.erase (key req r)).lookup (key req r) = none :=
    AList.lookup_erase _ _
  have hevs : (removePending (.request r) (key req r) s.shared).2 =
      if s.shared.pending.lookup (key req r) = some r then [.removed (.request r) r] else [] := by
    unfold removePending
    cases hlookup : s.shared.pending.lookup (key req r) with
    | none => rfl
    | some q =>
      obtain rfl : r = q := hinj (h.keyed _ q hlookup)
      rw [if_pos rfl]
  refine ⟨fun k q hk => ?_, fun q => ?_, ?_⟩
  · by_cases hkey : k = key req r
    · subst hkey
      rw [State.moveRequest, removePending] at hk
      exact absurd (hgone.symm.trans hk) nofun
    · exact h.keyed k q ((AList.lookup_erase_ne hkey).symm.trans hk)
  · by_cases hq : q = r
    · subst hq
      by_cases hentry : s.shared.pending.lookup (key req q) = some q
      · obtain ⟨-, -, hhand, hremovers, hsenders⟩ := h.entry hentry
        rw [hevs, if_pos hentry]
        refine .settled (p := .request q) (by rw [moveRequest_self]; exact hpc') hgone hhand ?_
          (Or.inl ?_)
        · rw [removers_append, hremovers]
          simp [removers, Event.remover]
        · rw [senders_append, hsenders]
          rfl
      · rw [hevs, if_neg hentry]
        have hnone := (h.life q).lookup_eq_none hentry
        refine (h.life q).of_same (hgone.trans hnone.symm) rfl silent_nil (Or.inl rfl) ?_ ?_
        · intro _
          rw [moveRequest_self]
          exact hpc'
        · exact fun hpending => absurd hpending hentry
    · refine (h.life q).of_other hq (AList.lookup_erase_ne fun hkey => hq (hinj hkey)) rfl ?_
      rw [hevs]
      split_ifs
      · exact ⟨by simp [removers, Event.remover, Ne.symm hq], rfl⟩
      · exact silent_nil
  · rw [hevs]
    split_ifs
    · simpa using h.calm
    · simpa using h.calm

theorem safe_request {s : State} {tr evs : List Event} {r : ReqId} {written : Except String Unit}
    {taken : Case} {t' : Shared} {pc' : RequestPc} (h : Safe req s tr)
    (hinj : Function.Injective (key req))
    (hs : request m (req r) r written taken s.shared (s.requests r) = some (t', pc', evs)) :
    Safe req (s.moveRequest r t' pc') (tr ++ evs) := by
  cases hpc : s.requests r with
  | start =>
    rw [hpc] at hs
    simp only [request] at hs
    have hsteady : ∀ pc, Steady s (s.moveRequest r s.shared pc) := fun pc =>
      steady_moveRequest (by rw [hpc]; nofun) (by rw [hpc]; nofun)
    split_ifs at hs <;> cases hs <;> exact h.of_untouched ⟨rfl, rfl, rfl⟩ (hsteady _)
  | insert =>
    rw [hpc] at hs
    cases hs
    exact h.of_insert hinj hpc
  | encode =>
    rw [hpc] at hs
    simp only [request] at hs
    split at hs <;> cases hs <;>
      exact h.of_untouched ⟨rfl, rfl, rfl⟩ (steady_moveRequest (fun _ => rfl) fun _ => rfl)
  | write pc =>
    rw [hpc] at hs
    obtain ⟨⟨t₁, next, evs₁⟩, hwrite, heq⟩ := Option.map_eq_some_iff.mp hs
    rcases next with pc₁ | ⟨err | u⟩ <;> cases heq <;>
      exact h.of_writeBinary hwrite rfl (steady_moveRequest (fun _ => rfl) fun _ => rfl)
  | select =>
    rw [hpc] at hs
    cases taken with
    | reply =>
      obtain ⟨⟨reply, c⟩, hreceive, heq⟩ := Option.map_eq_some_iff.mp hs
      cases heq
      exact h.of_receive hpc rfl hreceive
    | done err =>
      cases hs
      exact h.of_untouched ⟨rfl, rfl, rfl⟩ (steady_moveRequest (fun _ => rfl) fun _ => rfl)
    | closed =>
      simp only [request] at hs
      split_ifs at hs
      cases hs
      exact h.of_untouched ⟨rfl, rfl, rfl⟩ (steady_moveRequest (fun _ => rfl) fun _ => rfl)
  | remove err =>
    rw [hpc] at hs
    cases hs
    exact h.of_remove hinj (by rw [hpc]; rfl) rfl
  | returned frame err =>
    rw [hpc] at hs
    cases hs

/-! ### Steps of the loop -/

/-- The state after a step of the loop. -/
def State.moveLoop (s : State) (t : Shared) (pc : ReadPc) : State :=
  { s with shared := t, readLoop := pc }

theorem steady_moveLoop {s : State} {t : Shared} {pc : ReadPc} (hhand : s.readLoop.hand = none)
    (hhand' : pc.hand = none) : Steady s (s.moveLoop t pc) :=
  ⟨Or.inr ⟨hhand, hhand'⟩, fun _ => id, fun _ => id⟩

/-- A step of the loop about the channel of `q` leaves the life of another request alone. -/
theorem Life.of_loop {q r : ReqId} {s : State} {t : Shared} {pc : ReadPc} {tr evs : List Event}
    (h : Life req r s tr) (hr : r ≠ q) (hhand : s.readLoop.hand = none ∨ s.readLoop.hand = some q)
    (hhand' : pc.hand = none ∨ pc.hand = some q)
    (hentry : t.pending.lookup (key req r) = s.shared.pending.lookup (key req r))
    (hchan : t.chan r = s.shared.chan r) (hevs : Silent r evs) :
    Life req r (s.moveLoop t pc) (tr ++ evs) := by
  have hne : ∀ hand : Option ReqId, hand = none ∨ hand = some q → hand ≠ some r := by
    rintro hand (rfl | rfl)
    · nofun
    · exact fun heq => hr (Option.some.inj heq).symm
  exact h.of_same hentry hchan hevs (Or.inr ⟨hne _ hhand, hne _ hhand'⟩) id fun _ => id

theorem Safe.of_deliver {s : State} {tr : List Event} {frame : FrameParts} {q : ReqId}
    {reply : Reply} (h : Safe req s tr) (hinj : Function.Injective (key req))
    (hpc : s.readLoop = .deliver frame)
    (hlookup : s.shared.pending.lookup frame.envelope.msgId = some q) :
    Safe req (s.moveLoop
        { s.shared with pending := s.shared.pending.erase frame.envelope.msgId } (.send q reply))
      (tr ++ [.removed .readLoop q]) := by
  have hkey : frame.envelope.msgId = key req q := h.keyed _ q hlookup
  rw [hkey] at hlookup ⊢
  have hgone : (s.shared.pending.erase (key req q)).lookup (key req q) = none :=
    AList.lookup_erase _ _
  refine ⟨fun k r hk => ?_, fun r => ?_, ?_⟩
  · by_cases hkq : k = key req q
    · subst hkq
      exact absurd (hgone.symm.trans hk) nofun
    · exact h.keyed k r ((AList.lookup_erase_ne hkq).symm.trans hk)
  · by_cases hr : r = q
    · subst hr
      obtain ⟨hholds, hchan, -, hremovers, hsenders⟩ := h.entry hlookup
      refine .taken (early_of_holds hholds) rfl hgone hchan ?_ ?_
      · rw [removers_append, hremovers]
        simp [removers, Event.remover]
      · rw [senders_append, hsenders]
        rfl
    · refine (h.life r).of_loop hr (Or.inl (by rw [hpc]; rfl)) (Or.inr rfl)
        (AList.lookup_erase_ne fun heq => hr (hinj heq)) rfl ⟨?_, rfl⟩
      simp [removers, Event.remover, Ne.symm hr]
  · simpa using h.calm

/-- The channel that the loop sends to was never used. -/
theorem Safe.fresh_of_send {s : State} {tr : List Event} {q : ReqId} {reply : Reply}
    (h : Safe req s tr) (hpc : s.readLoop = .send q reply) :
    s.shared.chan q = .fresh ∧ (s.requests q).early = false ∧
      s.shared.pending.lookup (key req q) = none ∧ removers q tr = [.readLoop] ∧
      senders q tr = [] := by
  cases h.life q with
  | taken hearly _ hentry hchan hremovers hsenders =>
    exact ⟨hchan, hearly, hentry, hremovers, hsenders⟩
  | answered _ hread _ _ _ _ => rw [hread] at hpc; cases hpc
  | absent _ hhand _ _ => exact absurd (by rw [hpc]; rfl) hhand
  | pending _ _ _ hhand _ _ => exact absurd (by rw [hpc]; rfl) hhand
  | settled _ _ hhand _ _ => exact absurd (by rw [hpc]; rfl) hhand

/-- The channel that the loop closes is open. -/
theorem Safe.open_of_closeChan {s : State} {tr : List Event} {q : ReqId} (h : Safe req s tr)
    (hpc : s.readLoop = .closeChan q) :
    (s.shared.chan q).closed = false ∧ (s.requests q).early = false ∧
      s.shared.pending.lookup (key req q) = none ∧ removers q tr = [.readLoop] ∧
      senders q tr = [.readLoop] := by
  cases h.life q with
  | answered hearly _ hentry hopen hremovers hsenders =>
    exact ⟨hopen, hearly, hentry, hremovers, hsenders⟩
  | taken _ hread _ _ _ _ => rw [hread] at hpc; cases hpc
  | absent _ hhand _ _ => exact absurd (by rw [hpc]; rfl) hhand
  | pending _ _ _ hhand _ _ => exact absurd (by rw [hpc]; rfl) hhand
  | settled _ _ hhand _ _ => exact absurd (by rw [hpc]; rfl) hhand

theorem Safe.of_send {s : State} {tr : List Event} {q : ReqId} {reply : Reply} (h : Safe req s tr)
    (hpc : s.readLoop = .send q reply) :
    Safe req (s.moveLoop
        { s.shared with chan := Function.update s.shared.chan q ⟨some reply, false⟩ } (.closeChan q))
      (tr ++ [.sent .readLoop q reply]) := by
  obtain ⟨-, hearly, hentry, hremovers, hsenders⟩ := h.fresh_of_send hpc
  refine ⟨h.keyed, fun r => ?_, ?_⟩
  · by_cases hr : r = q
    · subst hr
      have hself : Function.update s.shared.chan r (⟨some reply, false⟩ : Channel Reply) r =
          ⟨some reply, false⟩ := Function.update_self ..
      refine .answered hearly rfl hentry ?_ ?_ ?_
      · dsimp only [State.moveLoop]
        rw [hself]
      · rw [removers_append, hremovers]
        rfl
      · rw [senders_append, hsenders]
        simp [senders, Event.sender]
    · refine (h.life r).of_loop hr (Or.inr (by rw [hpc]; rfl)) (Or.inr rfl) rfl
        (Function.update_of_ne hr ..) ⟨rfl, ?_⟩
      simp [senders, Event.sender, Ne.symm hr]
  · simpa using h.calm

theorem Safe.of_closeChan {s : State} {tr : List Event} {q : ReqId} {c : Channel Reply}
    (h : Safe req s tr) (hpc : s.readLoop = .closeChan q) :
    Safe req (s.moveLoop { s.shared with chan := Function.update s.shared.chan q c } .read)
      (tr ++ [.closed .readLoop q]) := by
  obtain ⟨-, hearly, hentry, hremovers, hsenders⟩ := h.open_of_closeChan hpc
  refine ⟨h.keyed, fun r => ?_, ?_⟩
  · by_cases hr : r = q
    · subst hr
      refine .settled (p := .readLoop) hearly hentry nofun ?_ (Or.inr ?_)
      · rw [removers_append, hremovers]
        rfl
      · rw [senders_append, hsenders]
        rfl
    · exact (h.life r).of_loop hr (Or.inr (by rw [hpc]; rfl)) (Or.inl rfl) rfl
        (Function.update_of_ne hr ..) ⟨rfl, rfl⟩
  · simpa using h.calm

theorem safe_readLoop {s : State} {tr evs : List Event} {incoming : Incoming} {t' : Shared}
    {pc' : ReadPc} (h : Safe req s tr) (hinj : Function.Injective (key req))
    (hs : readLoop m decodeErrorBody incoming s.shared s.readLoop = some (t', pc', evs)) :
    Safe req (s.moveLoop t' pc') (tr ++ evs) := by
  have hidle : ∀ pc, s.readLoop.hand = none → ReadPc.hand pc = none →
      Safe req (s.moveLoop s.shared pc) (tr ++ []) := fun pc hhand hhand' =>
    h.of_untouched ⟨rfl, rfl, rfl⟩ (steady_moveLoop hhand hhand')
  cases hpc : s.readLoop with
  | read =>
    rw [hpc] at hs hidle
    simp only [readLoop] at hs
    split at hs
    · split at hs <;> cases hs <;> exact hidle _ rfl rfl
    all_goals
      cases hs
      exact hidle _ rfl rfl
  | deliver frame =>
    rw [hpc] at hs hidle
    simp only [readLoop] at hs
    split at hs
    · rename_i q hlookup
      cases hs
      exact h.of_deliver hinj hpc hlookup
    · cases hs
      exact hidle _ rfl rfl
  | send q reply =>
    rw [hpc] at hs
    simp only [readLoop, (h.fresh_of_send hpc).1, Channel.send_fresh] at hs
    cases hs
    exact h.of_send hpc
  | closeChan q =>
    rw [hpc] at hs
    simp only [readLoop, Channel.close_of_open (h.open_of_closeChan hpc).1] at hs
    cases hs
    exact h.of_closeChan hpc
  | dispatch frame =>
    rw [hpc] at hs hidle
    simp only [readLoop] at hs
    split_ifs at hs <;> cases hs <;> exact hidle _ rfl rfl
  | close err pc =>
    rw [hpc] at hs
    obtain ⟨⟨t₁, pc₁, evs₁⟩, hclose, heq⟩ := Option.map_eq_some_iff.mp hs
    cases pc₁ <;> cases heq <;>
      exact h.of_closeWithError hclose rfl (steady_moveLoop (by rw [hpc]; rfl) rfl)
  | deferred pc =>
    rw [hpc] at hs
    obtain ⟨⟨t₁, pc₁, evs₁⟩, hclose, heq⟩ := Option.map_eq_some_iff.mp hs
    cases pc₁ <;> cases heq <;>
      exact h.of_closeWithError hclose rfl (steady_moveLoop (by rw [hpc]; rfl) rfl)
  | returned =>
    rw [hpc] at hs
    cases hs

theorem safe {s : State} {tr : List Event} (hinj : Function.Injective (key req))
    (h : (transport m decodeErrorBody req closing).Reachable s tr) : Safe req s tr := by
  refine TransitionSystem.Reachable.invariant (P := Safe req) ?_ ?_ h
  · exact ⟨nofun, fun r => .absent rfl nofun rfl rfl, nofun⟩
  · intro s s' tr evs i _ hs ih
    cases i with
    | request r written taken =>
      obtain ⟨⟨t', pc', evs'⟩, hstep, heq⟩ := Option.map_eq_some_iff.mp hs
      cases heq
      exact safe_request ih hinj hstep
    | send d written =>
      obtain ⟨⟨t', pc', evs'⟩, hstep, heq⟩ := Option.map_eq_some_iff.mp hs
      cases heq
      cases hpc : s.sends d with
      | write pc =>
        rw [hpc] at hstep
        obtain ⟨⟨t₁, next, evs₁⟩, hwrite, heq⟩ := Option.map_eq_some_iff.mp hstep
        have hsteady : ∀ t sends, Steady s { s with shared := t, sends := sends } :=
          fun t sends => ⟨Or.inl rfl, fun _ => id, fun _ => id⟩
        cases next <;> cases heq <;> exact ih.of_writeBinary hwrite rfl (hsteady _ _)
      | returned result =>
        rw [hpc] at hstep
        cases hstep
    | close k =>
      obtain ⟨pc, hpc, hstep⟩ := Option.bind_eq_some_iff.mp hs
      obtain ⟨⟨t', pc', evs'⟩, hclose, heq⟩ := Option.map_eq_some_iff.mp hstep
      cases heq
      exact ih.of_closeWithError hclose rfl ⟨Or.inl rfl, fun _ => id, fun _ => id⟩
    | readLoop incoming =>
      obtain ⟨⟨t', pc', evs'⟩, hstep, heq⟩ := Option.map_eq_some_iff.mp hs
      cases heq
      exact safe_readLoop ih hinj hstep

end Multifrost.Go.Transport
