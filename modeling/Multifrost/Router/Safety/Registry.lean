import Multifrost.Router.Sample
import Multifrost.Router.Safety.Step

/-!
# Soundness of the registry

Every entry of the registry belongs to a connection that registered under its id and is still
running, and a connection that has returned has no entry (`registry_soundness`).  The invariant is
`EntriesOwned`: the sender of an entry is a connection whose current session is the entry's id and
class.  It survives every step because an entry is only ever inserted under the session of the
connection that inserts it (`Step.peers_eq_some`), and a connection drops its session only in the
step that removes its id (`Step.session_eq`).
-/

namespace Multifrost.Router

variable {m : RmpSerde}

/-! ### How a step changes sessions and entries -/

/-- An entry after a step was there before, with the same owner, or the step registered it. -/
theorem Step.peers_eq_some {i : Input} {reg reg' : PeerRegistry} {pc pc' : Pc m}
    {evs : List (Event m)} (h : Step m i reg pc reg' pc' evs) {x : String} {record : PeerRecord}
    (hx : reg'.peers x = some record) :
    (∃ old, reg.peers x = some old ∧ record.sender = old.sender ∧
        record.peerClass = old.peerClass ∧ record.connected = old.connected) ∨
      ∃ e b, evs = [.registered i.conn e b] ∧ x = b.peerId ∧ record.sender = i.conn ∧
        record.peerClass = b.peerClass ∧ record.connected = true ∧
        pc'.session = some ⟨b.peerId, b.peerClass⟩ ∧ pc = .insert e b := by
  have hremove : ∀ y, (reg.removeByPeerId y).1.peers x = some record → ∃ old,
      reg.peers x = some old ∧ record.sender = old.sender ∧
        record.peerClass = old.peerClass ∧ record.connected = old.connected := by
    intro y hy
    rw [PeerRegistry.removeByPeerId_peers] at hy
    split_ifs at hy
    exact ⟨record, hy, rfl, rfl, rfl⟩
  cases h with
  | inserted hfree hpc =>
    rename_i envelope register
    dsimp only at hx
    rw [Function.update_apply] at hx
    split_ifs at hx with heq
    · obtain rfl := Option.some.inj hx
      refine Or.inr ⟨envelope, register, rfl, heq, rfl, rfl, rfl, ?_, rfl⟩
      rcases hpc with ⟨f, rfl, -, -⟩ | ⟨e, rfl⟩ <;> rfl
    · exact Or.inl ⟨record, hx, rfl, rfl, rfl⟩
  | marked =>
    obtain ⟨old, hold, h1, h2, h3, -⟩ := PeerRegistry.markHeartbeat_eq_some hx
    exact Or.inl ⟨old, hold, h1, h2, h3⟩
  | evicted => exact Or.inl (hremove _ hx)
  | disconnected => exact Or.inl (hremove _ hx)
  | cleaned => exact Or.inl (hremove _ hx)
  | _ => exact Or.inl ⟨record, hx, rfl, rfl, rfl⟩

/-- A session lasts until the step that returns, and that step removes its id. -/
theorem Step.session_eq {i : Input} {reg reg' : PeerRegistry} {pc pc' : Pc m}
    {evs : List (Event m)} (h : Step m i reg pc reg' pc' evs) {me : Session}
    (hs : pc.session = some me) :
    pc'.session = some me ∨ (pc'.isReturned = true ∧ reg'.peers me.peerId = none) := by
  cases h with
  | handshake | first | inserted | duplicate | rejected => cases hs
  | ownSendFailed hpc =>
    obtain ⟨f, rfl | ⟨after, rfl⟩⟩ := hpc <;> exact Or.inl hs
  | message hq =>
    obtain rfl := Option.some.inj hs
    exact Or.inl hq.session
  | routed hr hpc =>
    obtain ⟨rfl, -⟩ | ⟨rfl, -⟩ | ⟨rfl, -⟩ := hpc <;> exact Or.inl hs
  | replied hpc =>
    obtain ⟨-, rfl⟩ | ⟨-, rfl⟩ := hpc <;> exact Or.inl hs
  | answered hpc hq =>
    rw [hq.session, ← hs]
    obtain ⟨e, b, rfl⟩ | ⟨r, rfl, rfl | rfl | rfl | rfl⟩ := hpc <;> exact Or.inl rfl
  | evicted hq =>
    obtain rfl := Option.some.inj hs
    exact Or.inl hq.session
  | disconnected hpc =>
    obtain ⟨f, rfl⟩ | ⟨res, rfl⟩ := hpc <;> exact Or.inl hs
  | cleaned =>
    obtain rfl := Option.some.inj hs
    exact Or.inr ⟨rfl, by simp⟩
  | acked | marked | heartbeatRouted | delivered | found | resolved | forwarded | forwardFailed =>
    exact Or.inl hs

/-- A session after a step was there before, or the step registered it. -/
theorem Step.session_new {i : Input} {reg reg' : PeerRegistry} {pc pc' : Pc m}
    {evs : List (Event m)} (h : Step m i reg pc reg' pc' evs) {me : Session}
    (hs : pc'.session = some me) :
    pc.session = some me ∨ ∃ e b, evs = [.registered i.conn e b] ∧ me = ⟨b.peerId, b.peerClass⟩ := by
  by_cases hpc : pc.session = none
  -- before the registration only the insert gives a session
  · cases h with
    | handshake h =>
      obtain rfl | ⟨res, rfl⟩ := h <;> cases hs
    | first h =>
      obtain ⟨e, b, rfl⟩ | ⟨f, rfl⟩ | ⟨res, rfl⟩ := h <;> cases hs
    | inserted hfree h =>
      obtain ⟨f, rfl, -, -⟩ | ⟨e, rfl⟩ := h <;>
        exact Or.inr ⟨_, _, rfl, (Option.some.inj hs).symm⟩
    | duplicate h =>
      obtain ⟨f, rfl⟩ | ⟨res, rfl⟩ := h <;> cases hs
    | rejected => cases hs
    | ownSendFailed h =>
      obtain ⟨f, rfl | ⟨after, rfl⟩⟩ := h <;> cases hpc
    | answered h =>
      obtain ⟨e, b, rfl⟩ | ⟨r, rfl, rfl | rfl | rfl | rfl⟩ := h <;> cases hpc
    | _ => cases hpc
  -- afterwards the session is kept, unless the step returns
  · obtain ⟨me', hme⟩ := Option.ne_none_iff_exists'.mp hpc
    rcases h.session_eq hme with hs' | ⟨hret, -⟩
    · rw [hs'] at hs
      exact Or.inl (hme.trans hs)
    · cases pc' <;> cases hret
      cases hs

/-- A register frame is accepted by the insert of the connection that sent it, under a free id. -/
theorem Step.insert_of_registered {i : Input} {reg reg' : PeerRegistry} {pc pc' : Pc m}
    {evs : List (Event m)} (h : Step m i reg pc reg' pc' evs) {c : ConnId} {e : Envelope}
    {b : RegisterBody} (hmem : .registered c e b ∈ evs) :
    c = i.conn ∧ pc = .insert e b ∧ reg.peers b.peerId = none ∧
      pc'.session = some ⟨b.peerId, b.peerClass⟩ := by
  cases h with
  | inserted hfree hpc =>
    simp only [List.mem_singleton, Event.registered.injEq] at hmem
    obtain ⟨rfl, rfl, rfl⟩ := hmem
    refine ⟨rfl, rfl, hfree, ?_⟩
    obtain ⟨f, rfl, -, -⟩ | ⟨e, rfl⟩ := hpc <;> rfl
  | first | message =>
    unfold receivedEvent at hmem
    split at hmem <;> simp at hmem
  | rejected hevs => rcases hevs with rfl | rfl <;> simp at hmem
  | _ => simp at hmem

/-- A connection that has returned does not move. -/
theorem Step.running {i : Input} {reg reg' : PeerRegistry} {pc pc' : Pc m}
    {evs : List (Event m)} (h : Step m i reg pc reg' pc' evs) : pc.isReturned = false := by
  cases h with
  | ownSendFailed hpc => obtain ⟨f, rfl | ⟨after, rfl⟩⟩ := hpc <;> rfl
  | answered hpc => obtain ⟨e, b, rfl⟩ | ⟨r, -, rfl | rfl | rfl | rfl⟩ := hpc <;> rfl
  | _ => rfl

/-- The insert leaves the entry of the connection behind. -/
theorem Step.peers_of_registered {i : Input} {reg reg' : PeerRegistry} {pc pc' : Pc m}
    {evs : List (Event m)} (h : Step m i reg pc reg' pc' evs) {c : ConnId} {e : Envelope}
    {b : RegisterBody} (hmem : .registered c e b ∈ evs) :
    ∃ record, reg'.peers b.peerId = some record ∧ record.sender = i.conn := by
  cases h with
  | inserted =>
    simp only [List.mem_singleton, Event.registered.injEq] at hmem
    obtain ⟨rfl, rfl, rfl⟩ := hmem
    exact ⟨_, Function.update_self .., rfl⟩
  | first | message =>
    unfold receivedEvent at hmem
    split at hmem <;> simp at hmem
  | rejected hevs => rcases hevs with rfl | rfl <;> simp at hmem
  | _ => simp at hmem

/-! ### The invariant -/

/-- The owner of every entry is a connection whose session is the entry's id and class. -/
def EntriesOwned (s : State m) : Prop :=
  ∀ x record, s.registry.peers x = some record →
    record.connected = true ∧ (s.conns record.sender).session = some ⟨x, record.peerClass⟩

/-- Every session goes back to an accepted register frame. -/
def SessionsRegistered (s : State m) (tr : List (Event m)) : Prop :=
  ∀ c me, (s.conns c).session = some me →
    ∃ e b, .registered c e b ∈ tr ∧ b.peerId = me.peerId ∧ b.peerClass = me.peerClass

theorem EntriesOwned.step {i : Input} {s s' : State m} {evs : List (Event m)}
    (h : EntriesOwned s) (hs : (serve m).step i s = some (s', evs)) : EntriesOwned s' := by
  obtain ⟨pc, hstep, hconns⟩ := step_of_serve hs
  intro x record hx
  rw [hconns, Function.update_apply]
  rcases hstep.peers_eq_some hx with ⟨old, hold, hsender, hclass, hconnected⟩ |
    ⟨e, b, -, rfl, hsender, hclass, hconnected, hsession, -⟩
  · obtain ⟨h1, h2⟩ := h x old hold
    refine ⟨by rw [hconnected, h1], ?_⟩
    rw [hsender, hclass]
    split_ifs with hc
    · -- the owner itself moves: it keeps its session or removes exactly this entry
      rw [hc] at h2
      rcases hstep.session_eq h2 with h3 | ⟨-, h3⟩
      · exact h3
      · rw [h3] at hx
        cases hx
    · exact h2
  · refine ⟨hconnected, ?_⟩
    rw [if_pos hsender, hclass]
    exact hsession

theorem entriesOwned {s : State m} {tr : List (Event m)} (h : (serve m).Reachable s tr) :
    EntriesOwned s := by
  refine h.invariant (P := fun s _ => EntriesOwned s) ?_ fun _ hs ih => ih.step hs
  intro x record hx
  cases hx

theorem sessionsRegistered {s : State m} {tr : List (Event m)} (h : (serve m).Reachable s tr) :
    SessionsRegistered s tr := by
  refine conn_invariant Pc.session (fun tr c me => ∃ e b, .registered c e b ∈ tr ∧
    b.peerId = me.peerId ∧ b.peerClass = me.peerClass) rfl ?_ ?_ h
  · rintro tr c me evs ⟨e, b, hmem, hb⟩
    exact ⟨e, b, List.mem_append_left _ hmem, hb⟩
  · intro i s reg' pc tr evs me _ _ hstep hme
    rcases hstep.session_new hme with hold | ⟨e, b, rfl, rfl⟩
    · exact Or.inl hold
    · exact Or.inr ⟨e, b, List.mem_append_right _ (List.mem_singleton.mpr rfl), rfl, rfl⟩

/-- A connection whose register frame was accepted has this session until it returns. -/
def RegistrationsKept (s : State m) (tr : List (Event m)) : Prop :=
  ∀ c e b, .registered c e b ∈ tr →
    (s.conns c).session = some ⟨b.peerId, b.peerClass⟩ ∨ (s.conns c).isReturned = true

theorem registrationsKept {s : State m} {tr : List (Event m)} (h : (serve m).Reachable s tr) :
    RegistrationsKept s tr := by
  refine h.invariant (P := RegistrationsKept) ?_ ?_
  · intro c e b hmem
    cases hmem
  · intro s s' tr evs i _ hs ih c e b hmem
    obtain ⟨pc, hstep, hconns⟩ := step_of_serve hs
    rw [hconns, Function.update_apply]
    rcases List.mem_append.mp hmem with hmem | hmem
    · split_ifs with hc
      · subst hc
        rcases ih i.conn e b hmem with hsession | hret
        · exact (hstep.session_eq hsession).imp id And.left
        · rw [hstep.running] at hret
          cases hret
      · exact ih c e b hmem
    · obtain ⟨rfl, -, -, hsession⟩ := hstep.insert_of_registered hmem
      rw [if_pos rfl]
      exact Or.inl hsession

/-- A connection without a session leaves the registry alone, unless the step registers it. -/
theorem Step.registry_eq {i : Input} {reg reg' : PeerRegistry} {pc pc' : Pc m}
    {evs : List (Event m)} (h : Step m i reg pc reg' pc' evs) (hs : pc.session = none)
    (hevs : ∀ e b, .registered i.conn e b ∉ evs) : reg' = reg := by
  cases h with
  | inserted => exact absurd (List.mem_singleton.mpr rfl) (hevs _ _)
  | ownSendFailed | answered => rfl
  | handshake | first | duplicate | rejected => rfl
  | _ => cases hs

/-! ### The registry is sound -/

/-- **Registry soundness.**  In every reachable state: every entry is connected and is owned by
the sink of a connection that registered with this id and class and has not returned; no sink owns
two entries; a connection that has returned owns none; and no step of a connection whose register
frame was not accepted changes the registry. -/
theorem registry_soundness {s : State m} {tr : List (Event m)} (h : (serve m).Reachable s tr) :
    (∀ x record, s.registry.peers x = some record →
      record.connected = true ∧ (s.conns record.sender).isReturned = false ∧
      ∃ e b, .registered record.sender e b ∈ tr ∧ b.peerId = x ∧
        b.peerClass = record.peerClass) ∧
    (∀ x y record record', s.registry.peers x = some record →
      s.registry.peers y = some record' → record.sender = record'.sender → x = y) ∧
    (∀ c, (s.conns c).isReturned = true →
      ∀ x record, s.registry.peers x = some record → record.sender ≠ c) ∧
    (∀ i s' evs, (serve m).step i s = some (s', evs) →
      (∀ e b, .registered i.conn e b ∉ tr ++ evs) → s'.registry = s.registry) := by
  have howned := entriesOwned h
  have hsessions := sessionsRegistered h
  have hrunning : ∀ x record, s.registry.peers x = some record →
      (s.conns record.sender).isReturned = false := by
    intro x record hx
    have hsession := (howned x record hx).2
    cases hpc : s.conns record.sender <;> rw [hpc] at hsession <;> first | rfl | cases hsession
  refine ⟨?_, ?_, ?_, ?_⟩
  · intro x record hx
    obtain ⟨hconnected, hsession⟩ := howned x record hx
    exact ⟨hconnected, hrunning x record hx, hsessions _ _ hsession⟩
  · intro x y record record' hx hy hsender
    have h1 := (howned x record hx).2
    have h2 := (howned y record' hy).2
    rw [hsender, h2] at h1
    exact (congrArg Session.peerId (Option.some.inj h1)).symm
  · rintro c hc x record hx rfl
    rw [hrunning x record hx] at hc
    cases hc
  · intro i s' evs hs hevs
    obtain ⟨pc, hstep, -⟩ := step_of_serve hs
    refine hstep.registry_eq ?_ fun e b he => hevs e b (List.mem_append_right _ he)
    cases hsession : (s.conns i.conn).session with
    | none => rfl
    | some me =>
      obtain ⟨e, b, hmem, -⟩ := hsessions _ _ hsession
      exact absurd (List.mem_append_left _ hmem) (hevs e b)

/-- Connection `0` serves `"a"`, connection `1` is refused the same id, and connection `2`
registers as `"b"` and closes: the entry of `"a"` is that of connection `0`, and neither of the
connections that have returned owns an entry. -/
theorem registry_soundness_after_close : ∃ s tr, (serve msgPackSerde).Reachable s tr ∧
    (s.registry.peers "a").map PeerRecord.sender = some 0 ∧
    (∀ x record, s.registry.peers x = some record → record.sender ≠ 1) ∧
    ∀ x record, s.registry.peers x = some record → record.sender ≠ 2 := by
  obtain ⟨s, tr, hrun, hp⟩ := (serve msgPackSerde).exists_reachable_of_exec
    (join 0 "a" .service ++ join 1 "a" .caller ++ join 2 "b" .caller ++ [go 2, go 2])
    (fun s _ => (s.registry.peers "a").map PeerRecord.sender == some 0 &&
      (s.conns 1).isReturned && (s.conns 2).isReturned) (by decide +kernel)
  simp only [Bool.and_eq_true, beq_iff_eq] at hp
  have hsound := registry_soundness hrun
  exact ⟨s, tr, hrun, hp.1.1, hsound.2.2.1 1 hp.1.2, hsound.2.2.1 2 hp.2⟩

end Multifrost.Router
