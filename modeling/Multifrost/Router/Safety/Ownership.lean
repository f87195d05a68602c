import Multifrost.Router.Safety.Forwarding

/-!
# Who owns an entry

`remove_by_peer_id` takes an id and no owner, and a connection runs it up to twice for its own id,
and once for the id of every target to which a send fails.  When the id is registered again in
between, the removal hits the record of somebody else (`foreign_eviction`), whose connection then
goes on sending under an id it no longer has in the registry (`former_owner_speaks`).

The runs without this defect are those in which an id is registered only when no connection is
left that is going to remove it, and a send under an id that has passed to another connection does
not fail (`NoReuse`).  There the invariant `RemovesOwn` holds: what a connection is going to remove
is its own record, or the record of the sink to which it could not send.  It gives both
`no_foreign_eviction` and, when moreover no send to a connection in its message loop fails,
`current_owner_speaks`.
-/

namespace Multifrost.Router

open TransitionSystem

variable {m : RmpSerde}

/-! ### What a connection is going to remove -/

/-- The ids connection `c` is going to remove, each with the sink on whose behalf: its own id, and
the id of a target to which it could not send. -/
def Pc.removes (c : ConnId) (pc : Pc m) : List (String × PeerSender) :=
  (pc.session.map fun me => (me.peerId, c)).toList ++ pc.evicting.toList

theorem Pc.mem_removes {c : ConnId} {pc : Pc m} {x : String} {owner : PeerSender} :
    (x, owner) ∈ pc.removes c ↔
      (∃ me, pc.session = some me ∧ me.peerId = x ∧ c = owner) ∨
        pc.evicting = some (x, owner) := by
  unfold Pc.removes
  rw [List.mem_append, Option.mem_toList, Option.mem_toList, Option.map_eq_some_iff]
  simp only [Prod.mk.injEq]

/-- A connection that removes anything is registered. -/
theorem Pc.session_of_mem_removes {c : ConnId} {pc : Pc m} {x : String} {owner : PeerSender}
    (h : (x, owner) ∈ pc.removes c) : ∃ me, pc.session = some me := by
  rcases Pc.mem_removes.mp h with ⟨me, hme, -⟩ | hx
  · exact ⟨me, hme⟩
  · cases pc with
    | evict r target => exact ⟨r.me, rfl⟩
    | _ => cases hx

/-- What a connection is going to remove after a step it was going to remove before, or the step
is a failed send, or it registers the id. -/
theorem Step.removes_new {i : Input} {reg reg' : PeerRegistry} {pc pc' : Pc m}
    {evs : List (Event m)} (h : Step m i reg pc reg' pc' evs) {x : String} {owner : PeerSender}
    (hx : (x, owner) ∈ pc'.removes i.conn) :
    (x, owner) ∈ pc.removes i.conn ∨
      (pc.sending = some (x, owner) ∧ i.ok = false) ∨
      ∃ e b, evs = [.registered i.conn e b] ∧ x = b.peerId ∧ owner = i.conn := by
  rcases Pc.mem_removes.mp hx with ⟨me, hme, rfl, rfl⟩ | hevict
  · rcases h.session_new hme with hold | ⟨e, b, rfl, rfl⟩
    · exact Or.inl (Pc.mem_removes.mpr (Or.inl ⟨me, hold, rfl, rfl⟩))
    · exact Or.inr (Or.inr ⟨e, b, rfl, rfl, rfl⟩)
  · obtain ⟨hsending, hok, -⟩ := h.evicting_new hevict
    exact Or.inr (Or.inl ⟨hsending, hok⟩)

/-- A removal removes what the connection was going to remove: at the end of its own message loop,
or after a failed send. -/
theorem Step.removed_cases {i : Input} {reg reg' : PeerRegistry} {pc pc' : Pc m}
    {evs : List (Event m)} (h : Step m i reg pc reg' pc' evs) {c : ConnId} {x : String}
    {owner : PeerSender} {record : Option PeerRecord}
    (hmem : .removed c x owner record ∈ evs) :
    record = reg.peers x ∧ (x, owner) ∈ pc.removes i.conn ∧
      (owner = i.conn ∧ pc'.finished = true ∨ pc.evicting = some (x, owner)) := by
  cases h with
  | evicted hq =>
    simp only [List.mem_singleton, Event.removed.injEq] at hmem
    obtain ⟨-, rfl, rfl, rfl⟩ := hmem
    exact ⟨rfl, Pc.mem_removes.mpr (Or.inr rfl), Or.inr rfl⟩
  | disconnected hpc =>
    simp only [List.mem_singleton, Event.removed.injEq] at hmem
    obtain ⟨-, rfl, rfl, rfl⟩ := hmem
    refine ⟨rfl, Pc.mem_removes.mpr (Or.inl ⟨_, rfl, rfl, rfl⟩), Or.inl ⟨rfl, ?_⟩⟩
    obtain ⟨f, rfl⟩ | ⟨res, rfl⟩ := hpc <;> rfl
  | cleaned =>
    simp only [List.mem_singleton, Event.removed.injEq] at hmem
    obtain ⟨-, rfl, rfl, rfl⟩ := hmem
    exact ⟨rfl, Pc.mem_removes.mpr (Or.inl ⟨_, rfl, rfl, rfl⟩), Or.inl ⟨rfl, rfl⟩⟩
  | first | message =>
    unfold receivedEvent at hmem
    split at hmem <;> simp at hmem
  | rejected hevs => rcases hevs with rfl | rfl <;> simp at hmem
  | _ => simp at hmem

/-- An entry lasts, with its owner, until it is removed. -/
theorem Step.peers_kept {i : Input} {reg reg' : PeerRegistry} {pc pc' : Pc m}
    {evs : List (Event m)} (h : Step m i reg pc reg' pc' evs) {x : String} {record : PeerRecord}
    (hx : reg.peers x = some record) :
    (∃ new, reg'.peers x = some new ∧ new.sender = record.sender) ∨
      ∃ owner, .removed i.conn x owner (some record) ∈ evs := by
  -- a removal of another id leaves the entry alone, one of this id is recorded
  have hremove : ∀ y owner, (∃ new, (reg.removeByPeerId y).1.peers x = some new ∧
      new.sender = record.sender) ∨ ∃ owner', .removed i.conn x owner' (some record) ∈
        [(.removed i.conn y owner (reg.peers y) : Event m)] := by
    intro y owner
    by_cases hy : x = y
    · subst hy
      exact Or.inr ⟨owner, by rw [hx]; exact List.mem_singleton.mpr rfl⟩
    · refine Or.inl ⟨record, ?_, rfl⟩
      rw [PeerRegistry.removeByPeerId_peers, if_neg hy]
      exact hx
  cases h with
  | inserted hfree =>
    refine Or.inl ⟨record, ?_, rfl⟩
    have hne : x ≠ _ := fun heq => by
      rw [heq, hfree] at hx
      cases hx
    dsimp only
    rw [Function.update_of_ne hne]
    exact hx
  | marked =>
    refine Or.inl ?_
    rw [PeerRegistry.markHeartbeat_peers]
    split_ifs with hme
    · rw [← hme, hx]
      exact ⟨_, rfl, rfl⟩
    · exact ⟨record, hx, rfl⟩
  | evicted => exact hremove _ _
  | disconnected => exact hremove _ _
  | cleaned => exact hremove _ _
  | _ => exact Or.inl ⟨record, hx, rfl⟩

/-! ### The invariant -/

/-- The step does not register an id that some connection is going to remove, and it is not a
failed send under an id that has passed to another connection. -/
def NoReuse (s : State m) (tr : List (Event m)) (i : Input) : Prop :=
  (∀ b ∈ (s.conns i.conn).registering, s.registry.peers b.peerId = none →
    ∀ e ∈ tr, ∀ p ∈ (s.conns e.conn).removes e.conn, p.1 ≠ b.peerId) ∧
  ∀ p ∈ (s.conns i.conn).sending, i.ok = false →
    ∀ record ∈ s.registry.peers p.1, record.sender = p.2

instance (s : State m) (tr : List (Event m)) (i : Input) : Decidable (NoReuse s tr i) :=
  inferInstanceAs (Decidable ((∀ b ∈ (s.conns i.conn).registering, _ → _) ∧
    ∀ p ∈ (s.conns i.conn).sending, _ → _))

/-- What a connection is going to remove is the record of the sink on whose behalf it does so. -/
def RemovesOwn (s : State m) : Prop :=
  ∀ c x owner record, (x, owner) ∈ (s.conns c).removes c →
    s.registry.peers x = some record → record.sender = owner

theorem removesOwn {s : State m} {tr : List (Event m)} (h : (serve m).Run NoReuse s tr) :
    RemovesOwn s := by
  refine h.invariant (P := fun s _ => RemovesOwn s) ?_ ?_
  · intro c x owner record _ hx
    cases hx
  · intro s s' tr evs i hrun hguard hs ih c x owner record hmem hx
    obtain ⟨pc, hstep, hconns⟩ := step_of_serve hs
    rw [hconns, Function.update_apply] at hmem
    rcases hstep.peers_eq_some hx with ⟨old, hold, hsender, -⟩ |
      ⟨e, b, rfl, rfl, hsender, -, -, -, hpc⟩
    · -- the entry was there: only the mover may have a new removal, after a failed send
      rw [hsender]
      split_ifs at hmem with hc
      · subst hc
        rcases hstep.removes_new hmem with hmem | ⟨hsending, hok⟩ | ⟨e, b, rfl, rfl, -⟩
        · exact ih i.conn x owner old hmem hold
        · exact hguard.2 _ hsending hok old hold
        · obtain ⟨-, -, hfree, -⟩ := hstep.insert_of_registered (List.mem_singleton.mpr rfl)
          rw [hfree] at hold
          cases hold
      · exact ih c x owner old hmem hold
    · -- the entry is new: by the guard nobody else is going to remove it
      obtain ⟨-, -, hfree, -⟩ := hstep.insert_of_registered (List.mem_singleton.mpr rfl)
      rw [hsender]
      split_ifs at hmem with hc
      · subst hc
        rcases hstep.removes_new hmem with hmem | ⟨hsending, -⟩ | ⟨-, -, -, -, howner⟩
        · rw [hpc] at hmem
          cases hmem
        · rw [hpc] at hsending
          cases hsending
        · exact howner.symm
      · obtain ⟨me, hme⟩ := Pc.session_of_mem_removes hmem
        obtain ⟨e', b', hreg, -⟩ := sessionsRegistered hrun.reachable c me hme
        have hb : b ∈ (s.conns i.conn).registering := by rw [hpc]; rfl
        exact absurd rfl (hguard.1 b hb hfree _ hreg _ hmem)

/-- A connection removes its target's id only after a failed send to it. -/
theorem sendFailed_of_evicting {s : State m} {tr : List (Event m)}
    (h : (serve m).Reachable s tr) :
    ∀ c p, (s.conns c).evicting = some p → .sendFailed c p.2 ∈ tr := by
  refine conn_invariant Pc.evicting (fun tr c p => .sendFailed c p.2 ∈ tr) rfl
    (fun _ hp => List.mem_append_left _ hp) ?_ h
  intro i s reg' pc tr evs p _ _ hstep hp
  obtain ⟨-, -, rfl⟩ := hstep.evicting_new hp
  exact Or.inr (List.mem_append_right _ (List.mem_singleton.mpr rfl))

/-! ### The end of a message loop -/

/-- A connection that has left its message loop does not enter it again. -/
theorem Step.finished_of_finished {i : Input} {reg reg' : PeerRegistry} {pc pc' : Pc m}
    {evs : List (Event m)} (h : Step m i reg pc reg' pc' evs) (hpc : pc.finished = true) :
    pc'.finished = true := by
  cases h with
  | replied h =>
    obtain ⟨rfl, rfl⟩ | ⟨rfl, rfl⟩ := h
    · cases hpc
    · rfl
  | ownSendFailed | cleaned => rfl
  | answered h => obtain ⟨e, b, rfl⟩ | ⟨r, -, rfl | rfl | rfl | rfl⟩ := h <;> cases hpc
  | _ => cases hpc

/-- A connection that has left its message loop stays out of it. -/
theorem finished_step {i : Input} {s s' : State m} {evs : List (Event m)} {c : ConnId}
    (hs : (serve m).step i s = some (s', evs)) (hc : (s.conns c).finished = true) :
    (s'.conns c).finished = true := by
  obtain ⟨pc, hstep, hconns⟩ := step_of_serve hs
  rw [hconns, Function.update_apply]
  split_ifs with heq
  · subst heq
    exact hstep.finished_of_finished hc
  · exact hc

/-! ### No foreign eviction -/

/-- Every removal removes, if anything, the record of the sink on whose behalf it is executed. -/
def EvictsOwn (tr : List (Event m)) : Prop :=
  ∀ c x owner record, .removed c x owner (some record) ∈ tr → record.sender = owner

/-- A registered connection that is in its message loop, and no send to whose sink has failed, has
its registry entry. -/
def StaysRegistered (s : State m) (tr : List (Event m)) : Prop :=
  ∀ c e b, .registered c e b ∈ tr → (s.conns c).finished = false →
    (∀ c', .sendFailed c' c ∉ tr) →
    ∃ record, s.registry.peers b.peerId = some record ∧ record.sender = c

theorem evictsOwn {s : State m} {tr : List (Event m)} (h : (serve m).Run NoReuse s tr) :
    EvictsOwn tr := by
  intro c x owner record hmem
  refine h.forall_mem (Q := fun e => e = .removed c x owner (some record) →
    record.sender = owner) ?_ _ hmem rfl
  rintro s s' tr evs i hrun - hs e hmem rfl
  obtain ⟨pc, hstep, -⟩ := step_of_serve hs
  obtain ⟨hrecord, hremoves, -⟩ := hstep.removed_cases hmem
  exact removesOwn hrun i.conn x owner record hremoves hrecord.symm

theorem staysRegistered {s : State m} {tr : List (Event m)} (h : (serve m).Run NoReuse s tr) :
    StaysRegistered s tr := by
  refine h.invariant (P := StaysRegistered) ?_ ?_
  · intro c e b hmem
    cases hmem
  · intro s s' tr evs i hrun _ hs ih c e b hmem hloop hsent
    obtain ⟨pc, hstep, hconns⟩ := step_of_serve hs
    rcases List.mem_append.mp hmem with hmem | hmem
    · have hbefore : (s.conns c).finished = false := by
        by_contra hfin
        rw [Bool.not_eq_false] at hfin
        rw [finished_step hs hfin] at hloop
        cases hloop
      obtain ⟨record, hrecord, hsender⟩ := ih c e b hmem hbefore
        fun c' hc' => hsent c' (List.mem_append_left _ hc')
      rcases hstep.peers_kept hrecord with ⟨new, hnew, hsame⟩ | ⟨owner, hremoved⟩
      · exact ⟨new, hnew, hsame.trans hsender⟩
      · -- the entry is removed: on behalf of `c` itself, which then ends or had a failed send
        obtain ⟨-, hremoves, hwhy⟩ := hstep.removed_cases hremoved
        have howner : owner = c := by
          rw [← hsender]
          exact (removesOwn hrun i.conn _ owner record hremoves hrecord).symm
        rcases hwhy with ⟨hself, hfin⟩ | hevict
        · rw [hconns, ← howner, hself, Function.update_self, hfin] at hloop
          cases hloop
        · have hfailed := sendFailed_of_evicting hrun.reachable i.conn _ hevict
          rw [howner] at hfailed
          exact absurd (List.mem_append_left _ hfailed) (hsent i.conn)
    · obtain ⟨rfl, -⟩ := hstep.insert_of_registered hmem
      exact hstep.peers_of_registered hmem

/-- **No foreign eviction**, in every run in which no id is registered while a connection is left
that is going to remove it, and no send under an id that has passed to another connection fails:
each removal removes the record of the sink it is executed for, and a
connection keeps its entry for as long as it is in its message loop and no send to it fails. -/
theorem no_foreign_eviction {s : State m} {tr : List (Event m)}
    (h : (serve m).Run NoReuse s tr) : EvictsOwn tr ∧ StaysRegistered s tr :=
  ⟨evictsOwn h, staysRegistered h⟩

/-- Connection `0` disconnects, and its id is registered again once it has returned. -/
theorem no_foreign_eviction_of_reconnect : ∃ s tr, (serve msgPackSerde).Run NoReuse s tr ∧
    (∃ e b, .registered 1 e b ∈ tr ∧ b.peerId = "x") ∧ EvictsOwn tr ∧ StaysRegistered s tr := by
  obtain ⟨s, tr, hrun, hp⟩ := (serve msgPackSerde).exists_run_of_exec NoReuse
    (join 0 "x" .service ++ [recv 0 (plainBytes "disconnect" "x" "router"), go 0, go 0, go 0] ++
      join 1 "x" .service)
    (fun s _ => (s.conns 1).session == some ⟨"x", .service⟩) (by decide +kernel)
  obtain ⟨e, b, hmem, hid, -⟩ := sessionsRegistered hrun.reachable 1 _ (beq_iff_eq.mp hp)
  exact ⟨s, tr, hrun, ⟨e, b, hmem, hid⟩, no_foreign_eviction hrun⟩

/-- Connection `0` disconnects, connection `1` registers the id that is now free, and the cleanup
of connection `0` removes the record of connection `1`, which is in its message loop. -/
theorem foreign_eviction :
    ∃ s tr, (serve msgPackSerde).Reachable s tr ∧ ¬ EvictsOwn tr ∧ ¬ StaysRegistered s tr := by
  obtain ⟨s, tr, hrun, hp⟩ := (serve msgPackSerde).exists_reachable_of_exec
    (join 0 "x" .service ++ [recv 0 (plainBytes "disconnect" "x" "router"), go 0] ++
      join 1 "x" .service ++ [go 0, go 0])
    (fun s tr => (s.registry.peers "x").isNone && (s.conns 1).session == some ⟨"x", .service⟩ &&
      !(s.conns 1).finished && tr.all (fun | .sendFailed _ _ => false | _ => true) &&
      tr.any (fun
        | .removed 0 "x" 0 record => record.map PeerRecord.sender == some 1
        | _ => false))
    (by decide +kernel)
  simp only [Bool.and_eq_true, beq_iff_eq, Bool.not_eq_true', List.all_eq_true, List.any_eq_true,
    Option.isNone_iff_eq_none] at hp
  obtain ⟨⟨⟨⟨hnone, hsession⟩, hloop⟩, hsent⟩, e, he, hremoved⟩ := hp
  refine ⟨s, tr, hrun, ?_, ?_⟩
  · intro h
    split at hremoved
    · rename_i removed
      obtain ⟨record, rfl, hsender⟩ := Option.map_eq_some_iff.mp (beq_iff_eq.mp hremoved)
      rw [h 0 "x" 0 record he] at hsender
      cases hsender
    · cases hremoved
  · intro h
    obtain ⟨e, b, hmem, hid, -⟩ := sessionsRegistered hrun 1 _ hsession
    obtain ⟨record, hrecord, -⟩ := h 1 e b hmem hloop
      fun c' hc' => Bool.false_ne_true (hsent _ hc')
    rw [hid, hnone] at hrecord
    cases hrecord

/-! ### The current owner speaks -/

/-- The connections whose frames with origin `x` were forwarded, in order. -/
def speakers (m : RmpSerde) (x : String) (tr : List (Event m)) : List ConnId :=
  tr.filterMap fun
    | .wrote c _ (.forwarded raw) =>
      match decodeFrame m raw with
      | .ok parts => if parts.envelope.fromPeer = x then some c else none
      | .error _ => none
    | _ => none

@[simp] theorem speakers_append (x : String) (tr evs : List (Event m)) :
    speakers m x (tr ++ evs) = speakers m x tr ++ speakers m x evs :=
  List.filterMap_append

theorem mem_speakers {x : String} {tr : List (Event m)} {c : ConnId} :
    c ∈ speakers m x tr ↔ ∃ sink raw parts, .wrote c sink (.forwarded raw) ∈ tr ∧
      decodeFrame m raw = .ok parts ∧ parts.envelope.fromPeer = x := by
  unfold speakers
  rw [List.mem_filterMap]
  constructor
  · rintro ⟨e, he, h⟩
    cases e with
    | wrote c' sink out =>
      cases out with
      | generated f => cases h
      | forwarded raw =>
        cases hd : decodeFrame m raw with
        | error e => simp [hd] at h
        | ok parts =>
          simp only [hd, Option.ite_none_right_eq_some, Option.some.injEq] at h
          obtain ⟨hx, rfl⟩ := h
          exact ⟨sink, raw, parts, he, hd, hx⟩
    | _ => cases h
  · rintro ⟨sink, raw, parts, he, hd, hx⟩
    exact ⟨_, he, by simp [hd, hx]⟩

/-- A step forwards at most one frame, and it does so for a connection in its message loop. -/
theorem Step.speakers_eq {i : Input} {reg reg' : PeerRegistry} {pc pc' : Pc m}
    {evs : List (Event m)} (h : Step m i reg pc reg' pc' evs) (x : String) :
    speakers m x evs = [] ∨ speakers m x evs = [i.conn] ∧ pc.finished = false := by
  cases h with
  | forwarded =>
    rename_i r target
    cases hd : decodeFrame m r.raw with
    | error e => exact Or.inl (by simp [speakers, hd])
    | ok parts =>
      by_cases hx : parts.envelope.fromPeer = x
      · exact Or.inr ⟨by simp [speakers, hd, hx], rfl⟩
      · exact Or.inl (by simp [speakers, hd, hx])
  | first | message =>
    unfold receivedEvent
    split <;> exact Or.inl rfl
  | rejected hevs => rcases hevs with rfl | rfl <;> exact Or.inl rfl
  | _ => exact Or.inl rfl

/-- The send of the step does not fail while the connection it sends to is in its message loop. -/
def FailsFinished (s : State m) (_ : List (Event m)) (i : Input) : Prop :=
  ∀ p ∈ (s.conns i.conn).sending, i.ok = false → (s.conns p.2).finished = true

instance (s : State m) (tr : List (Event m)) (i : Input) : Decidable (FailsFinished s tr i) :=
  inferInstanceAs (Decidable (∀ p ∈ (s.conns i.conn).sending, _ → _))

/-- A send fails on the connection's own sink, which ends it, or to the target of a frame. -/
theorem Step.sendFailed_cases {i : Input} {reg reg' : PeerRegistry} {pc pc' : Pc m}
    {evs : List (Event m)} (h : Step m i reg pc reg' pc' evs) {c : ConnId} {sink : PeerSender}
    (hmem : .sendFailed c sink ∈ evs) :
    sink = i.conn ∧ pc'.finished = true ∨
      ∃ x, pc.sending = some (x, sink) ∧ i.ok = false := by
  cases h with
  | forwardFailed hok =>
    simp only [List.mem_singleton, Event.sendFailed.injEq] at hmem
    obtain ⟨-, rfl⟩ := hmem
    exact Or.inr ⟨_, rfl, hok⟩
  | ownSendFailed =>
    simp only [List.mem_singleton, Event.sendFailed.injEq] at hmem
    exact Or.inl ⟨hmem.2, rfl⟩
  | rejected hevs =>
    rcases hevs with rfl | rfl
    · simp at hmem
    · simp only [List.mem_singleton, Event.sendFailed.injEq] at hmem
      exact Or.inl ⟨hmem.2, rfl⟩
  | first | message =>
    unfold receivedEvent at hmem
    split at hmem <;> simp at hmem
  | _ => simp at hmem

theorem finished_of_sendFailed {s : State m} {tr : List (Event m)}
    (h : (serve m).Run FailsFinished s tr) :
    ∀ c sink, .sendFailed c sink ∈ tr → (s.conns sink).finished = true := by
  refine h.invariant (P := fun s tr =>
    ∀ c sink, .sendFailed c sink ∈ tr → (s.conns sink).finished = true) ?_ ?_
  · intro c sink hmem
    cases hmem
  · intro s s' tr evs i _ hguard hs ih c sink hmem
    rcases List.mem_append.mp hmem with hmem | hmem
    · exact finished_step hs (ih c sink hmem)
    · obtain ⟨pc, hstep, hconns⟩ := step_of_serve hs
      rcases hstep.sendFailed_cases hmem with ⟨rfl, hfin⟩ | ⟨x, hsending, hok⟩
      · rw [hconns, Function.update_self]
        exact hfin
      · exact finished_step hs (hguard _ hsending hok)

/-- What is forwarded next comes from the connection that the registry has under its origin. -/
def ForwardsForOwner (s : State m) : Prop :=
  ∀ i s' evs c sink raw parts, (serve m).step i s = some (s', evs) →
    .wrote c sink (.forwarded raw) ∈ evs → decodeFrame m raw = .ok parts →
    ∃ record, s.registry.peers parts.envelope.fromPeer = some record ∧ record.sender = c

/-- The periods in which two connections have traffic forwarded under one id do not overlap. -/
def SpeaksAlone (tr : List (Event m)) : Prop :=
  ∀ x c d, c ≠ d → ¬ [c, d, c].Sublist (speakers m x tr)

/-- A connection that has lost its entry has left its message loop. -/
def SilentOnceRemoved (s : State m) (tr : List (Event m)) : Prop :=
  ∀ c e b, .registered c e b ∈ tr →
    (∀ record, s.registry.peers b.peerId = some record → record.sender ≠ c) →
    (s.conns c).finished = true

section Owners

variable {s : State m} {tr : List (Event m)}
  (h : (serve m).Run (fun s tr i => NoReuse s tr i ∧ FailsFinished s tr i) s tr)
include h

theorem silentOnceRemoved : SilentOnceRemoved s tr := by
  intro c e b hmem hlost
  by_contra hloop
  rw [Bool.not_eq_true] at hloop
  obtain ⟨record, hrecord, hsender⟩ :=
    staysRegistered (h.mono fun _ _ _ hg => hg.1) c e b hmem hloop fun c' hfailed => by
      rw [finished_of_sendFailed (h.mono fun _ _ _ hg => hg.2) c' c hfailed] at hloop
      cases hloop
  exact hlost record hrecord hsender

theorem forwardsForOwner : ForwardsForOwner s := by
  intro i s' evs c sink raw parts hs hmem hparts
  obtain ⟨-, r, hpc, hsound, -, henvelope⟩ := forward_of_step h.reachable hs hmem hparts
  have hsession : (s.conns c).session = some r.me := by rw [hpc]; rfl
  obtain ⟨e, b, hreg, hid, -⟩ := sessionsRegistered h.reachable c r.me hsession
  rw [← henvelope, hsound.source, ← hid]
  by_contra hlost
  push Not at hlost
  -- a connection that forwards a frame is in its message loop
  have hfin := silentOnceRemoved h c e b hreg hlost
  rw [hpc] at hfin
  cases hfin

omit h in
/-- A connection speaks under the id it registered. -/
theorem registered_of_mem_speakers (h : (serve m).Reachable s tr) {x : String} {c : ConnId}
    (hc : c ∈ speakers m x tr) : ∃ e b, .registered c e b ∈ tr ∧ b.peerId = x := by
  obtain ⟨sink, raw, parts, hmem, hd, hx⟩ := mem_speakers.mp hc
  obtain ⟨before, after, htr⟩ := List.append_of_mem hmem
  rcases authentic h before _ after htr c sink _ rfl with ⟨f, hf⟩ |
    ⟨raw', parts', e, b, hout, -, hreg, hd', hfrom, -⟩
  · cases hf
  · obtain rfl := Outbound.forwarded.inj hout
    rw [hd] at hd'
    obtain rfl := Except.ok.inj hd'
    refine ⟨e, b, ?_, hfrom.symm.trans hx⟩
    rw [htr]
    exact List.mem_append_left _ hreg

/-- A connection after which another has spoken under the same id has left its message loop. -/
theorem finished_of_spoken :
    ∀ x c d, c ≠ d → [c, d].Sublist (speakers m x tr) → (s.conns c).finished = true := by
  refine h.invariant (P := fun s tr => ∀ x c d, c ≠ d → [c, d].Sublist (speakers m x tr) →
    (s.conns c).finished = true) ?_ ?_
  · intro x c d _ hsub
    cases hsub
  · intro s s' tr evs i hrun _ hs ih x c d hne hsub
    obtain ⟨pc, hstep, -⟩ := step_of_serve hs
    refine finished_step hs ?_
    rw [speakers_append] at hsub
    rcases hstep.speakers_eq x with hnone | ⟨hone, -⟩
    · rw [hnone, List.append_nil] at hsub
      exact ih x c d hne hsub
    · rw [hone] at hsub
      rcases sublist_concat_cases (l := [c]) hsub with hsub | ⟨rfl, hc⟩
      · exact ih x c d hne hsub
      · -- the mover speaks under `x`, so the entry is its own and not that of `c`
        have hd : i.conn ∈ speakers m x evs := by rw [hone]; exact List.mem_singleton.mpr rfl
        obtain ⟨sink, raw, parts, hmem, hparts, rfl⟩ := mem_speakers.mp hd
        obtain ⟨record, hrecord, hsender⟩ :=
          forwardsForOwner hrun i s' evs i.conn sink raw parts hs hmem hparts
        obtain ⟨e, b, hreg, hid⟩ :=
          registered_of_mem_speakers hrun.reachable (List.singleton_sublist.mp hc)
        refine silentOnceRemoved hrun c e b hreg fun record' hrecord' hc' => hne ?_
        rw [hid, hrecord] at hrecord'
        obtain rfl := Option.some.inj hrecord'
        exact hc'.symm.trans hsender

theorem speaksAlone : SpeaksAlone tr := by
  refine h.invariant (P := fun _ tr => SpeaksAlone tr) ?_ ?_
  · intro x c d _ hsub
    cases hsub
  · intro s s' tr evs i hrun _ hs ih x c d hne hsub
    obtain ⟨pc, hstep, -⟩ := step_of_serve hs
    rw [speakers_append] at hsub
    rcases hstep.speakers_eq x with hnone | ⟨hone, hloop⟩
    · rw [hnone, List.append_nil] at hsub
      exact ih x c d hne hsub
    · rw [hone] at hsub
      rcases sublist_concat_cases (l := [c, d]) hsub with hsub | ⟨rfl, hsub⟩
      · exact ih x c d hne hsub
      · rw [finished_of_spoken hrun x i.conn d hne hsub] at hloop
        cases hloop

/-- **The current owner speaks**, in every run in which no removal can hit another's record and no
send to a connection in its message loop fails: a frame is forwarded only for the connection that
the registry has under its origin, no two connections are forwarded under one id in overlapping
periods, and a connection that has lost its entry has left its message loop. -/
theorem current_owner_speaks : ForwardsForOwner s ∧ SpeaksAlone tr ∧ SilentOnceRemoved s tr :=
  ⟨forwardsForOwner h, speaksAlone h, silentOnceRemoved h⟩

end Owners

/-- A caller speaks, leaves and comes back on another connection; a send to its first connection
fails only after that has returned. -/
theorem current_owner_speaks_of_reconnect : ∃ s tr,
    (serve msgPackSerde).Run (fun s tr i => NoReuse s tr i ∧ FailsFinished s tr i) s tr ∧
    speakers msgPackSerde "a" tr = [0, 2] ∧ (∃ c, .sendFailed c 0 ∈ tr) ∧
    ForwardsForOwner s ∧ SpeaksAlone tr := by
  obtain ⟨s, tr, hrun, hp⟩ := (serve msgPackSerde).exists_run_of_exec
    (fun s tr i => NoReuse s tr i ∧ FailsFinished s tr i)
    (join 0 "a" .caller ++ join 1 "b" .service ++
      [recv 0 (callBytes "a" "b"), go 0, go 0, go 0, go 0,
        recv 1 (plainBytes "response" "b" "a"), go 1, go 1, go 0, go 0, fail 1, go 1, go 1] ++
      join 2 "a" .caller ++ [recv 2 (callBytes "a" "b"), go 2, go 2, go 2, go 2])
    (fun _ tr => speakers msgPackSerde "a" tr == [0, 2] &&
      tr.any (fun | .sendFailed 1 0 => true | _ => false)) (by decide +kernel)
  simp only [Bool.and_eq_true, beq_iff_eq, List.any_eq_true] at hp
  obtain ⟨hspeakers, e, he, hfailed⟩ := hp
  split at hfailed
  · obtain ⟨hfor, halone, -⟩ := current_owner_speaks hrun
    exact ⟨s, tr, hrun, hspeakers, ⟨1, he⟩, hfor, halone⟩
  · cases hfailed

/-- A send to connection `0` fails and its entry is removed; connection `2` registers the id, and
from then on both have calls forwarded under it. -/
theorem former_owner_speaks : ∃ s tr, (serve msgPackSerde).Reachable s tr ∧
    ¬ ForwardsForOwner s ∧ ¬ SpeaksAlone tr ∧ ¬ SilentOnceRemoved s tr := by
  obtain ⟨s, tr, hrun, hp⟩ := (serve msgPackSerde).exists_reachable_of_exec
    (join 0 "a" .caller ++ join 1 "b" .service ++
      [recv 1 (plainBytes "response" "b" "a"), go 1, go 1, fail 1, go 1, go 1] ++
      join 2 "a" .caller ++
      [recv 0 (callBytes "a" "b"), go 0, go 0, go 0, go 0,
        recv 2 (callBytes "a" "b"), go 2, go 2, go 2, go 2,
        recv 0 (callBytes "a" "b"), go 0, go 0, go 0, go 0,
        recv 0 (callBytes "a" "b"), go 0, go 0, go 0])
    (fun s tr => speakers msgPackSerde "a" tr == [0, 2, 0] &&
      (s.registry.peers "a").map PeerRecord.sender == some 2 &&
      (s.conns 0).session == some ⟨"a", .caller⟩ && !(s.conns 0).finished &&
      ((serve msgPackSerde).step (go 0) s).any (fun r => speakers msgPackSerde "a" r.2 == [0]))
    (by decide +kernel)
  simp only [Bool.and_eq_true, beq_iff_eq, Bool.not_eq_true'] at hp
  obtain ⟨⟨⟨⟨hspeakers, hentry⟩, hsession⟩, hloop⟩, hnext⟩ := hp
  obtain ⟨record, hrecord, hsender⟩ := Option.map_eq_some_iff.mp hentry
  refine ⟨s, tr, hrun, ?_, ?_, ?_⟩
  · intro h
    obtain ⟨⟨s', evs⟩, hs, hevs⟩ := (Option.any_eq_true _ _).mp hnext
    have hmem : 0 ∈ speakers msgPackSerde "a" evs := by
      rw [beq_iff_eq.mp hevs]
      exact List.mem_singleton.mpr rfl
    obtain ⟨sink, raw, parts, hwrote, hparts, hfrom⟩ := mem_speakers.mp hmem
    obtain ⟨record', hrecord', hsender'⟩ := h (go 0) s' evs 0 sink raw parts hs hwrote hparts
    rw [hfrom, hrecord] at hrecord'
    obtain rfl := Option.some.inj hrecord'
    rw [hsender] at hsender'
    cases hsender'
  · intro h
    refine h "a" 0 2 (by decide) ?_
    rw [hspeakers]
  · intro h
    obtain ⟨e, b, hmem, hid, -⟩ := sessionsRegistered hrun 0 _ hsession
    have hfin := h 0 e b hmem fun record' hrecord' hzero => by
      rw [hid, hrecord] at hrecord'
      obtain rfl := Option.some.inj hrecord'
      rw [hsender] at hzero
      cases hzero
    rw [hloop] at hfin
    cases hfin

end Multifrost.Router
