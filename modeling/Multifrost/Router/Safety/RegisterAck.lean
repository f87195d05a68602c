import Multifrost.Router.Safety.Forwarding

/-!
# The acknowledgement of a registration

A peer takes the first frame it receives for the router's answer to its register frame.  The
router makes the peer routable before it answers: `insert_live_peer` and `send_register_ack` are
two awaits, and a connection that looks the peer up in between writes its frame to the sink first
(`register_ack_overtaken`).

In the runs in which a lookup only finds connections that have written their acknowledgement
(`FindsAcked`), the acknowledgement is the first frame on every sink (`register_ack_first`).
-/

namespace Multifrost.Router

open TransitionSystem

variable {m : RmpSerde}

/-! ### What is written to a sink -/

/-- The frames written to a sink, in order, with the connections that wrote them. -/
def writesTo (sink : PeerSender) (tr : List (Event m)) : List (ConnId × Outbound m) :=
  tr.filterMap fun
    | .wrote c sink' out => if sink' = sink then some (c, out) else none
    | _ => none

@[simp] theorem writesTo_append (sink : PeerSender) (tr evs : List (Event m)) :
    writesTo sink (tr ++ evs) = writesTo sink tr ++ writesTo sink evs :=
  List.filterMap_append

/-- The frame answers the register envelope `e` of the connection that writes it. -/
def IsRegisterAck (e : Envelope) (f : RouterFrame m) : Prop :=
  f.envelope.kind = kindResponse ∧ f.envelope.msgId = e.msgId

/-- The connection has no session yet. -/
def Pc.unregistered : Pc m → Bool
  | .accept | .first | .insert .. | .reject _ => true
  | _ => false

/-- The registration `e` was accepted and its acknowledgement is the next thing the connection
writes, or was given up. -/
inductive Pc.AwaitsAck (e : Envelope) : Pc m → Prop
  | ack (me : Session) {f : RouterFrame m} (h : IsRegisterAck e f) : AwaitsAck e (.ack me f)
  | cleanup (me : Session) (result : Except RouterError Unit) : AwaitsAck e (.cleanup me result)
  | returned (result : Except RouterError Unit) : AwaitsAck e (.returned result)

/-- A step writes nothing, a frame of the router to the connection's own sink, or the frame it
forwards to the sink it has found. -/
theorem Step.writesTo_cases {i : Input} {reg reg' : PeerRegistry} {pc pc' : Pc m}
    {evs : List (Event m)} (h : Step m i reg pc reg' pc' evs) (sink : PeerSender) :
    writesTo sink evs = [] ∨ sink = i.conn ∨ ∃ x, pc.target = some (x, sink) := by
  have hown : ∀ out, writesTo sink [(.wrote i.conn i.conn out : Event m)] = [] ∨
      sink = i.conn := by
    intro out
    by_cases hs : i.conn = sink
    · exact Or.inr hs.symm
    · exact Or.inl (by simp [writesTo, hs])
  cases h with
  | forwarded =>
    rename_i r target
    by_cases hs : target = sink
    · subst hs
      exact Or.inr (Or.inr ⟨_, rfl⟩)
    · exact Or.inl (by simp [writesTo, hs])
  | rejected hevs =>
    rcases hevs with rfl | rfl
    · exact (hown _).imp_right Or.inl
    · exact Or.inl rfl
  | acked | replied => exact (hown _).imp_right Or.inl
  | first | message =>
    unfold receivedEvent
    split <;> exact Or.inl rfl
  | _ => exact Or.inl rfl

/-- A connection is without a session from the start, and writes nothing as long as it stays so. -/
theorem Step.unregistered_of_unregistered {i : Input} {reg reg' : PeerRegistry} {pc pc' : Pc m}
    {evs : List (Event m)} (h : Step m i reg pc reg' pc' evs) (hpc' : pc'.unregistered = true) :
    pc.unregistered = true ∧ ∀ sink, writesTo sink evs = [] := by
  cases h with
  | handshake | duplicate => exact ⟨rfl, fun _ => rfl⟩
  | first =>
    refine ⟨rfl, fun sink => ?_⟩
    unfold receivedEvent
    split <;> rfl
  | inserted _ hpc => obtain ⟨f, rfl, -, -⟩ | ⟨e, rfl⟩ := hpc <;> cases hpc'
  | replied hpc => obtain ⟨-, rfl⟩ | ⟨-, rfl⟩ := hpc <;> cases hpc'
  | disconnected hpc => obtain ⟨f, rfl⟩ | ⟨res, rfl⟩ := hpc <;> cases hpc'
  | routed _ hpc => obtain ⟨rfl, -⟩ | ⟨rfl, -⟩ | ⟨rfl, -⟩ := hpc <;> cases hpc'
  | message hq | evicted hq => cases hq <;> cases hpc'
  | answered _ hq => cases hq <;> cases hpc'
  | _ => cases hpc'

/-- A connection that owes an acknowledgement writes it, or writes nothing. -/
theorem Step.awaitsAck {i : Input} {reg reg' : PeerRegistry} {pc pc' : Pc m}
    {evs : List (Event m)} (h : Step m i reg pc reg' pc' evs) {e : Envelope}
    (hpc : pc.AwaitsAck e) :
    pc'.AwaitsAck e ∧ (∀ sink, writesTo sink evs = []) ∨
      ∃ f, evs = [.wrote i.conn i.conn (.generated f)] ∧ IsRegisterAck e f := by
  cases h with
  | acked =>
    cases hpc with
    | ack me hf => exact Or.inr ⟨_, rfl, hf⟩
  | ownSendFailed => exact Or.inl ⟨.cleanup _ _, fun _ => rfl⟩
  | cleaned => exact Or.inl ⟨.returned _, fun _ => rfl⟩
  | answered h => obtain ⟨e, b, rfl⟩ | ⟨r, -, rfl | rfl | rfl | rfl⟩ := h <;> cases hpc
  | _ => cases hpc

/-- An accepted registration is followed by its acknowledgement. -/
theorem Step.awaitsAck_of_registered {i : Input} {reg reg' : PeerRegistry} {pc pc' : Pc m}
    {evs : List (Event m)} (h : Step m i reg pc reg' pc' evs) {c : ConnId} {e : Envelope}
    {b : RegisterBody} (hmem : .registered c e b ∈ evs) :
    pc'.AwaitsAck e ∧ ∀ sink, writesTo sink evs = [] := by
  cases h with
  | inserted hfree hpc =>
    simp only [List.mem_singleton, Event.registered.injEq] at hmem
    obtain ⟨rfl, rfl, rfl⟩ := hmem
    refine ⟨?_, fun _ => rfl⟩
    obtain ⟨f, rfl, hf⟩ | ⟨e, rfl⟩ := hpc
    · exact .ack _ hf
    · exact .cleanup _ _
  | first | message =>
    unfold receivedEvent at hmem
    split at hmem <;> simp at hmem
  | rejected hevs => rcases hevs with rfl | rfl <;> simp at hmem
  | _ => simp at hmem

/-! ### The invariant -/

/-- A connection has written to its own sink. -/
def Acked (c : ConnId) (tr : List (Event m)) : Prop := ∃ w ∈ writesTo c tr, w.1 = c

instance (c : ConnId) (tr : List (Event m)) : Decidable (Acked c tr) :=
  inferInstanceAs (Decidable (∃ w ∈ writesTo c tr, w.1 = c))

/-- The lookup of the step finds no connection that has yet to write its acknowledgement. -/
def FindsAcked (s : State m) (tr : List (Event m)) (i : Input) : Prop :=
  ∀ r ∈ (s.conns i.conn).resolving, ∀ record ∈ s.registry.peers r.envelope.toPeer,
    Acked record.sender tr

instance (s : State m) (tr : List (Event m)) (i : Input) : Decidable (FindsAcked s tr i) :=
  inferInstanceAs (Decidable (∀ r ∈ (s.conns i.conn).resolving, _))

theorem Acked.append {c : ConnId} {tr : List (Event m)} (h : Acked c tr)
    (evs : List (Event m)) : Acked c (tr ++ evs) := by
  obtain ⟨w, hw, hc⟩ := h
  refine ⟨w, ?_, hc⟩
  rw [writesTo_append]
  exact List.mem_append_left _ hw

/-- The sinks that frames are sent to are acknowledged. -/
theorem acked_of_target {s : State m} {tr : List (Event m)} (h : (serve m).Run FindsAcked s tr) :
    ∀ c p, (s.conns c).target = some p → Acked p.2 tr := by
  refine conn_invariant Pc.target (fun tr _ p => Acked p.2 tr) rfl (fun evs hp => hp.append evs)
    ?_ h
  intro i s reg' pc tr evs p _ hguard hstep hp
  rcases hstep.target_new hp with hold | ⟨r, record, hpc, hto, hrecord, hsender⟩
  · exact Or.inl hold
  · right
    rw [← hsender]
    rw [← hto] at hrecord
    have hresolving : (s.conns i.conn).resolving = some r := by rw [hpc]; rfl
    exact (hguard r hresolving record hrecord).append evs

/-- Nothing is written to the sink of a connection before it is registered, and then the first
frame is its acknowledgement. -/
def AckPending (s : State m) (tr : List (Event m)) : Prop :=
  ∀ c, ((s.conns c).unregistered = true → writesTo c tr = []) ∧
    ∀ e b, .registered c e b ∈ tr →
      writesTo c tr = [] ∧ (s.conns c).AwaitsAck e ∨
        ∃ f rest, writesTo c tr = (c, .generated f) :: rest ∧ IsRegisterAck e f

/-- Another connection writes to a sink only what it forwards, and then the sink is acknowledged. -/
theorem writesTo_of_ne {i : Input} {s s' : State m} {tr evs : List (Event m)}
    (h : (serve m).Run FindsAcked s tr) (hs : (serve m).step i s = some (s', evs)) {c : ConnId}
    (hc : c ≠ i.conn) (hnone : writesTo c tr = []) : writesTo c (tr ++ evs) = [] := by
  obtain ⟨pc, hstep, -⟩ := step_of_serve hs
  rw [writesTo_append, hnone, List.nil_append]
  rcases hstep.writesTo_cases c with hevs | hself | ⟨x, ht⟩
  · exact hevs
  · exact absurd hself hc
  · obtain ⟨w, hw, -⟩ := acked_of_target h i.conn (x, c) ht
    rw [hnone] at hw
    cases hw

theorem ackPending {s : State m} {tr : List (Event m)} (h : (serve m).Run FindsAcked s tr) :
    AckPending s tr := by
  refine h.invariant (P := AckPending) ?_ ?_
  · intro c
    exact ⟨fun _ => rfl, fun e b hmem => by cases hmem⟩
  · intro s s' tr evs i hrun _ hs ih c
    obtain ⟨pc, hstep, hconns⟩ := step_of_serve hs
    obtain ⟨ihunregistered, ihregistered⟩ := ih c
    by_cases hc : c = i.conn
    -- the owner of the sink moves: it writes its acknowledgement or nothing
    · subst hc
      rw [hconns, Function.update_self]
      constructor
      · intro hpc
        obtain ⟨hbefore, hevs⟩ := hstep.unregistered_of_unregistered hpc
        rw [writesTo_append, hevs, List.append_nil]
        exact ihunregistered hbefore
      · intro e b hmem
        rw [writesTo_append]
        rcases List.mem_append.mp hmem with hmem | hmem
        · rcases ihregistered e b hmem with ⟨hnone, hawaits⟩ | ⟨f, rest, hfirst, hack⟩
          · rw [hnone, List.nil_append]
            rcases hstep.awaitsAck hawaits with ⟨hstill, hevs⟩ | ⟨f, rfl, hack⟩
            · exact Or.inl ⟨hevs _, hstill⟩
            · exact Or.inr ⟨f, [], by simp [writesTo], hack⟩
          · exact Or.inr ⟨f, rest ++ writesTo i.conn evs, by rw [hfirst]; rfl, hack⟩
        · -- the registration is new: nothing has been written to the sink so far
          obtain ⟨-, hpc, -, -⟩ := hstep.insert_of_registered hmem
          obtain ⟨hawaits, hevs⟩ := hstep.awaitsAck_of_registered hmem
          have hnew : (s.conns i.conn).unregistered = true := by rw [hpc]; rfl
          rw [ihunregistered hnew, hevs]
          exact Or.inl ⟨rfl, hawaits⟩
    -- another connection moves: it writes to the sink only when that is acknowledged
    · rw [hconns, Function.update_of_ne hc]
      constructor
      · intro hpc
        exact writesTo_of_ne hrun hs hc (ihunregistered hpc)
      · intro e b hmem
        have hold : .registered c e b ∈ tr := by
          rcases List.mem_append.mp hmem with hmem | hmem
          · exact hmem
          · exact absurd (hstep.conn_eq _ hmem) hc
        rcases ihregistered e b hold with ⟨hnone, hawaits⟩ | ⟨f, rest, hfirst, hack⟩
        · exact Or.inl ⟨writesTo_of_ne hrun hs hc hnone, hawaits⟩
        · refine Or.inr ⟨f, rest ++ writesTo c evs, ?_, hack⟩
          rw [writesTo_append, hfirst]
          rfl

/-! ### The acknowledgement comes first -/

/-- The first frame on the sink of a connection whose register frame was accepted, if there is
one, is written by the connection itself and is the router's acknowledgement of that frame. -/
def AckFirst (tr : List (Event m)) : Prop :=
  ∀ c e b, .registered c e b ∈ tr → ∀ w ∈ (writesTo c tr).head?, w.1 = c ∧
    ∃ f, w.2 = .generated f ∧ f.envelope.kind = kindResponse ∧
      f.envelope.fromPeer = routerPeerId ∧ f.envelope.msgId = e.msgId

/-- **The acknowledgement comes first**, in every run in which a lookup finds only connections
that have written their acknowledgement. -/
theorem register_ack_first {s : State m} {tr : List (Event m)}
    (h : (serve m).Run FindsAcked s tr) : AckFirst tr := by
  intro c e b hmem w hw
  rcases (ackPending h c).2 e b hmem with ⟨hnone, -⟩ | ⟨f, rest, hfirst, hkind, hid⟩
  · rw [hnone] at hw
    cases hw
  · rw [hfirst] at hw
    obtain rfl := Option.some.inj hw
    exact ⟨rfl, f, rfl, hkind, f.fromRouter, hid⟩

/-- A service is called once it has its acknowledgement. -/
theorem register_ack_first_of_call : ∃ s tr, (serve msgPackSerde).Run FindsAcked s tr ∧
    (writesTo 1 tr).map Prod.fst = [1, 0] ∧ AckFirst tr := by
  obtain ⟨s, tr, hrun, hp⟩ := (serve msgPackSerde).exists_run_of_exec FindsAcked
    (join 0 "a" .caller ++ join 1 "b" .service ++
      [recv 0 (callBytes "a" "b"), go 0, go 0, go 0, go 0])
    (fun _ tr => (writesTo 1 tr).map Prod.fst == [1, 0]) (by decide +kernel)
  exact ⟨s, tr, hrun, beq_iff_eq.mp hp, register_ack_first hrun⟩

/-- A caller calls the service between the insert and the acknowledgement of connection `1`. -/
theorem register_ack_overtaken :
    ¬ ∀ s tr, (serve msgPackSerde).Reachable s tr → AckFirst tr := by
  obtain ⟨s, tr, hrun, hp⟩ := (serve msgPackSerde).exists_reachable_of_exec
    (join 0 "a" .caller ++ [go 1, recv 1 (registerBytes "b" .service), go 1,
      recv 0 (callBytes "a" "b"), go 0, go 0, go 0, go 0, go 1])
    (fun s tr => (s.conns 1).session == some ⟨"b", .service⟩ &&
      (writesTo 1 tr).map Prod.fst == [0, 1]) (by decide +kernel)
  simp only [Bool.and_eq_true, beq_iff_eq] at hp
  obtain ⟨hsession, hwrites⟩ := hp
  intro h
  obtain ⟨e, b, hmem, -⟩ := sessionsRegistered hrun 1 _ hsession
  obtain ⟨w, ws, hfirst, hw, -⟩ := List.map_eq_cons_iff.mp hwrites
  have hone := (h s tr hrun 1 e b hmem w (by rw [hfirst]; rfl)).1
  rw [hw] at hone
  cases hone

end Multifrost.Router
