import Multifrost.Router.Safety.Registry

/-!
# Integrity of forwarding

Everything the router writes is a frame of its own or a frame that a registered connection sent
(`forwarding_integrity`).  The bytes of such a frame are those that were received; its envelope
names the connection's own peer id as its origin, and the class of the connection may originate
its kind.  The frames forwarded on behalf of a connection are a sublist of the frames received on
it: none is forwarded twice, and the order is kept.

The invariant is `Ordered`: the forwarded frames of a connection, followed by the one it is about
to forward, are a sublist of its received frames.  The message loop reads the next frame only when
it is done with the last one, so a step extends both sides at the end (`Step.sublist`).
-/

namespace Multifrost.Router

open TransitionSystem

variable {m : RmpSerde}

/-! ### The frames of a trace -/

/-- The connection whose task emits the event. -/
def Event.conn : Event m → ConnId
  | .received c _ | .registered c _ _ | .wrote c _ _ | .sendFailed c _ | .removed c _ _ _ => c

/-- The binary messages received on a connection, in order. -/
def receivedOn (c : ConnId) (tr : List (Event m)) : List Bytes :=
  tr.filterMap fun
    | .received c' raw => if c' = c then some raw else none
    | _ => none

/-- The frames forwarded by the task of a connection, in order, with the sinks they went to. -/
def forwardedFrom (c : ConnId) (tr : List (Event m)) : List (PeerSender × Bytes) :=
  tr.filterMap fun
    | .wrote c' sink (.forwarded raw) => if c' = c then some (sink, raw) else none
    | _ => none

/-- The frames forwarded by the task of a connection to one sink, in order. -/
def forwardedTo (c : ConnId) (sink : PeerSender) (tr : List (Event m)) : List Bytes :=
  ((forwardedFrom c tr).filter fun p => p.1 = sink).map Prod.snd

@[simp] theorem receivedOn_append (c : ConnId) (tr evs : List (Event m)) :
    receivedOn c (tr ++ evs) = receivedOn c tr ++ receivedOn c evs :=
  List.filterMap_append

@[simp] theorem forwardedFrom_append (c : ConnId) (tr evs : List (Event m)) :
    forwardedFrom c (tr ++ evs) = forwardedFrom c tr ++ forwardedFrom c evs :=
  List.filterMap_append

theorem mem_receivedOn {c : ConnId} {tr : List (Event m)} {raw : Bytes} :
    raw ∈ receivedOn c tr ↔ .received c raw ∈ tr := by
  unfold receivedOn
  rw [List.mem_filterMap]
  constructor
  · rintro ⟨e, he, h⟩
    cases e <;> simp only [reduceCtorEq, Option.ite_none_right_eq_some, Option.some.injEq] at h
    obtain ⟨rfl, rfl⟩ := h
    exact he
  · intro h
    exact ⟨_, h, by simp⟩

theorem mem_forwardedFrom {c : ConnId} {tr : List (Event m)} {sink : PeerSender} {raw : Bytes} :
    (sink, raw) ∈ forwardedFrom c tr ↔ .wrote c sink (.forwarded raw) ∈ tr := by
  unfold forwardedFrom
  rw [List.mem_filterMap]
  constructor
  · rintro ⟨e, he, h⟩
    cases e with
    | wrote c' sink' out =>
      cases out with
      | generated f => cases h
      | forwarded raw' =>
        simp only [Option.ite_none_right_eq_some, Option.some.injEq, Prod.mk.injEq] at h
        obtain ⟨rfl, rfl, rfl⟩ := h
        exact he
    | _ => cases h
  · intro h
    exact ⟨_, h, by simp⟩

/-- Another connection's events concern neither list. -/
theorem receivedOn_eq_nil {c : ConnId} {evs : List (Event m)} (h : ∀ e ∈ evs, e.conn ≠ c) :
    receivedOn c evs = [] := by
  unfold receivedOn
  rw [List.filterMap_eq_nil_iff]
  intro e he
  have hc := h e he
  cases e <;> first | rfl | exact if_neg hc

theorem forwardedFrom_eq_nil {c : ConnId} {evs : List (Event m)} (h : ∀ e ∈ evs, e.conn ≠ c) :
    forwardedFrom c evs = [] := by
  unfold forwardedFrom
  rw [List.filterMap_eq_nil_iff]
  intro e he
  have hc := h e he
  cases e with
  | wrote c' sink out => cases out <;> first | rfl | exact if_neg hc
  | _ => rfl

theorem receivedEvent_conn (c : ConnId) (next : Next) :
    ∀ e ∈ receivedEvent m c next, e.conn = c := by
  unfold receivedEvent
  split <;> simp [Event.conn]

/-- A read writes nothing. -/
theorem forwardedFrom_receivedEvent (c c' : ConnId) (next : Next) :
    forwardedFrom c (receivedEvent m c' next) = [] := by
  unfold receivedEvent
  split <;> rfl

/-- The events of a step are those of the connection that moves. -/
theorem Step.conn_eq {i : Input} {reg reg' : PeerRegistry} {pc pc' : Pc m}
    {evs : List (Event m)} (h : Step m i reg pc reg' pc' evs) : ∀ e ∈ evs, e.conn = i.conn := by
  cases h with
  | first | message => exact receivedEvent_conn _ _
  | rejected hevs => rcases hevs with rfl | rfl <;> simp [Event.conn]
  | _ => simp [Event.conn]

/-! ### The invariant -/

/-- The frame a connection is about to forward. -/
def Pc.pending (pc : Pc m) : List Bytes := (pc.route.map Route.raw).toList

/-- A step appends what it forwards and what it receives. -/
theorem Step.sublist {i : Input} {reg reg' : PeerRegistry} {pc pc' : Pc m}
    {evs : List (Event m)} (h : Step m i reg pc reg' pc' evs) {sent got : List Bytes}
    (hsub : (sent ++ pc.pending).Sublist got) :
    (sent ++ (forwardedFrom i.conn evs).map Prod.snd ++ pc'.pending).Sublist
      (got ++ receivedOn i.conn evs) := by
  -- unless the step routes or forwards a frame, it can only drop the pending one
  have hdrop : forwardedFrom i.conn evs = [] → pc'.route = none ∨ pc'.route = pc.route →
      (sent ++ (forwardedFrom i.conn evs).map Prod.snd ++ pc'.pending).Sublist
        (got ++ receivedOn i.conn evs) := by
    intro hf hp
    rw [hf, List.map_nil, List.append_nil]
    refine List.Sublist.trans ?_ (hsub.trans (List.sublist_append_left _ _))
    refine (List.Sublist.refl sent).append ?_
    unfold Pc.pending
    rcases hp with hp | hp
    · rw [hp]; exact List.nil_sublist _
    · rw [hp]
  cases h with
  | routed hr hpc =>
    rename_i r
    have hpending : pc'.pending = [r.raw] := by
      obtain ⟨rfl, -⟩ | ⟨rfl, -⟩ | ⟨rfl, -⟩ := hpc <;> rfl
    rw [hpending]
    simpa [forwardedFrom, receivedOn, Pc.pending, Pc.route] using
      hsub.append (List.Sublist.refl [r.raw])
  | forwarded =>
    simpa [forwardedFrom, receivedOn, Pc.pending, Pc.route] using hsub
  | first hpc =>
    refine hdrop (forwardedFrom_receivedEvent ..) (Or.inl ?_)
    obtain ⟨e, b, rfl⟩ | ⟨f, rfl⟩ | ⟨res, rfl⟩ := hpc <;> rfl
  | message hq => exact hdrop (forwardedFrom_receivedEvent ..) (Or.inl hq.route)
  | handshake hpc =>
    refine hdrop rfl (Or.inl ?_)
    obtain rfl | ⟨res, rfl⟩ := hpc <;> rfl
  | inserted _ hpc =>
    refine hdrop rfl (Or.inl ?_)
    obtain ⟨f, rfl, -, -⟩ | ⟨e, rfl⟩ := hpc <;> rfl
  | duplicate hpc =>
    refine hdrop rfl (Or.inl ?_)
    obtain ⟨f, rfl⟩ | ⟨res, rfl⟩ := hpc <;> rfl
  | rejected hevs =>
    refine hdrop ?_ (Or.inl rfl)
    obtain rfl | rfl := hevs <;> rfl
  | replied hpc =>
    refine hdrop rfl (Or.inl ?_)
    obtain ⟨-, rfl⟩ | ⟨-, rfl⟩ := hpc <;> rfl
  | disconnected hpc =>
    refine hdrop rfl (Or.inl ?_)
    obtain ⟨f, rfl⟩ | ⟨res, rfl⟩ := hpc <;> rfl
  | answered _ hq => exact hdrop rfl (Or.inl hq.route)
  | evicted hq => exact hdrop rfl (Or.inl hq.route)
  | acked | ownSendFailed | forwardFailed | cleaned => exact hdrop rfl (Or.inl rfl)
  | marked | heartbeatRouted | delivered | found | resolved => exact hdrop rfl (Or.inr rfl)

/-- The frames forwarded so far and the one about to be are a sublist of those received. -/
def Ordered (s : State m) (tr : List (Event m)) : Prop :=
  ∀ c, ((forwardedFrom c tr).map Prod.snd ++ (s.conns c).pending).Sublist (receivedOn c tr)

theorem ordered {s : State m} {tr : List (Event m)} (h : (serve m).Reachable s tr) :
    Ordered s tr := by
  refine h.invariant (P := Ordered) (fun c => List.Sublist.refl _) ?_
  intro s s' tr evs i _ hs ih c
  obtain ⟨pc, hstep, hconns⟩ := step_of_serve hs
  -- the events are those of the mover, so that the lists of the others stay as they are
  rw [receivedOn_append, forwardedFrom_append, List.map_append, hconns, Function.update_apply]
  split_ifs with hc
  · subst hc
    exact hstep.sublist (ih i.conn)
  · have hne : ∀ e ∈ evs, e.conn ≠ c := fun e he => by
      rw [hstep.conn_eq e he]
      exact Ne.symm hc
    rw [receivedOn_eq_nil hne, forwardedFrom_eq_nil hne]
    simpa using ih c

/-- A routed frame has passed the checks of the message loop. -/
def RoutesSound (s : State m) : Prop := ∀ c r, (s.conns c).route = some r → r.Sound m

theorem Step.route_sound {i : Input} {reg reg' : PeerRegistry} {pc pc' : Pc m}
    {evs : List (Event m)} (h : Step m i reg pc reg' pc' evs) {r : Route}
    (hr : pc'.route = some r) : pc.route = some r ∨ r.Sound m := by
  have hframe : pc'.holdsFrame = true := by
    cases pc' <;> first | rfl | cases hr
  cases h.routing hframe with
  | routed hsound hpc =>
    obtain ⟨rfl, -⟩ | ⟨rfl, -⟩ | ⟨rfl, -⟩ := hpc <;>
      exact Or.inr (Option.some.inj hr ▸ hsound)
  | forwardFailed => cases hr
  | _ => exact Or.inl hr

theorem routesSound {s : State m} {tr : List (Event m)} (h : (serve m).Reachable s tr) :
    RoutesSound s :=
  conn_invariant Pc.route (fun _ _ r => r.Sound m) rfl (fun _ hr => hr)
    (fun _ _ hstep hr => hstep.route_sound hr) h

/-- A frame is forwarded by a connection that holds it and has looked up the sink. -/
theorem Step.forward_of_wrote {i : Input} {reg reg' : PeerRegistry} {pc pc' : Pc m}
    {evs : List (Event m)} (h : Step m i reg pc reg' pc' evs) {c : ConnId} {sink : PeerSender}
    {raw : Bytes} (he : .wrote c sink (.forwarded raw) ∈ evs) :
    c = i.conn ∧ reg' = reg ∧ ∃ r, pc = .forward r sink ∧ pc' = .loop r.me ∧ raw = r.raw := by
  cases h with
  | forwarded =>
    simp only [List.mem_singleton, Event.wrote.injEq, Outbound.forwarded.injEq] at he
    obtain ⟨rfl, rfl, rfl⟩ := he
    exact ⟨rfl, rfl, _, rfl, rfl, rfl⟩
  | first | message =>
    unfold receivedEvent at he
    split at he <;> simp at he
  | rejected hevs => rcases hevs with rfl | rfl <;> simp at he
  | _ => simp at he

/-- A frame that a step of the router forwards has passed the checks of the message loop. -/
theorem forward_of_step {i : Input} {s s' : State m} {tr evs : List (Event m)}
    (h : (serve m).Reachable s tr) (hs : (serve m).step i s = some (s', evs)) {c : ConnId}
    {sink : PeerSender} {raw : Bytes} {parts : FrameParts}
    (hmem : .wrote c sink (.forwarded raw) ∈ evs) (hparts : decodeFrame m raw = .ok parts) :
    c = i.conn ∧ ∃ r, s.conns c = .forward r sink ∧ r.Sound m ∧ r.raw = raw ∧
      r.envelope = parts.envelope := by
  obtain ⟨pc, hstep, -⟩ := step_of_serve hs
  obtain ⟨rfl, -, r, hpc, -, rfl⟩ := hstep.forward_of_wrote hmem
  have hroute : (s.conns i.conn).route = some r := by rw [hpc]; rfl
  have hsound : r.Sound m := routesSound h i.conn r hroute
  obtain ⟨bodyBytes, hdecoded⟩ := hsound.decoded
  rw [hdecoded] at hparts
  obtain rfl := Except.ok.inj hparts
  exact ⟨rfl, r, hpc, hsound, rfl, rfl⟩

/-- The same for the frames forwarded in a run. -/
theorem sound_of_forwarded {s : State m} {tr : List (Event m)} (h : (serve m).Reachable s tr) :
    ∀ c sink raw parts, .wrote c sink (.forwarded raw) ∈ tr → decodeFrame m raw = .ok parts →
      ∃ r : Route, r.Sound m ∧ r.envelope = parts.envelope := by
  intro c sink raw parts hmem
  refine h.forall_mem (Q := fun e => e = .wrote c sink (.forwarded raw) →
    decodeFrame m raw = .ok parts → ∃ r : Route, r.Sound m ∧ r.envelope = parts.envelope)
    ?_ _ hmem rfl
  rintro s s' tr evs i hreach - hs e hmem rfl hparts
  obtain ⟨-, r, -, hsound, -, henvelope⟩ := forward_of_step hreach hs hmem hparts
  exact ⟨r, hsound, henvelope⟩

/-- A connection comes to send a frame to the sink that the lookup has found. -/
theorem Step.sending_new {i : Input} {reg reg' : PeerRegistry} {pc pc' : Pc m}
    {evs : List (Event m)} (h : Step m i reg pc reg' pc' evs) {p : String × PeerSender}
    (hp : pc'.sending = some p) :
    ∃ r record, pc = .targetSender r ∧ pc' = .forward r p.2 ∧ r.envelope.toPeer = p.1 ∧
      reg.peers p.1 = some record ∧ record.sender = p.2 := by
  cases pc' with
  | forward r target =>
    obtain rfl := Option.some.inj hp
    cases h.routing rfl with
    | routed _ hpc => obtain ⟨hpc, -⟩ | ⟨hpc, -⟩ | ⟨hpc, -⟩ := hpc <;> cases hpc
    | resolved hx => exact ⟨_, _, rfl, rfl, rfl, hx, rfl⟩
  | _ => cases hp

/-- A connection comes to remove its target's id by a failed send. -/
theorem Step.evicting_new {i : Input} {reg reg' : PeerRegistry} {pc pc' : Pc m}
    {evs : List (Event m)} (h : Step m i reg pc reg' pc' evs) {p : String × PeerSender}
    (hp : pc'.evicting = some p) :
    pc.sending = some p ∧ i.ok = false ∧ evs = [.sendFailed i.conn p.2] := by
  cases pc' with
  | evict r target =>
    obtain rfl := Option.some.inj hp
    cases h.routing rfl with
    | routed _ hpc => obtain ⟨hpc, -⟩ | ⟨hpc, -⟩ | ⟨hpc, -⟩ := hpc <;> cases hpc
    | forwardFailed hok => exact ⟨rfl, hok, rfl⟩
  | _ => cases hp

/-- A connection holds the sink it has found under the id its frame is addressed to. -/
theorem Step.target_new {i : Input} {reg reg' : PeerRegistry} {pc pc' : Pc m}
    {evs : List (Event m)} (h : Step m i reg pc reg' pc' evs) {p : String × PeerSender}
    (hp : pc'.target = some p) :
    pc.target = some p ∨ ∃ r record, pc = .targetSender r ∧ r.envelope.toPeer = p.1 ∧
      reg.peers p.1 = some record ∧ record.sender = p.2 := by
  cases pc' with
  | forward r target =>
    obtain ⟨r', record, hpc, -, hto, hrecord, hsender⟩ := h.sending_new hp
    exact Or.inr ⟨r', record, hpc, hto, hrecord, hsender⟩
  | evict r target =>
    obtain ⟨hsending, -⟩ := h.evicting_new hp
    cases pc with
    | forward r target => exact Or.inl hsending
    | _ => cases hsending
  | _ => cases hp

/-! ### Forwarding integrity -/

/-- What the router writes is its own, or a frame received before on the connection that forwards
it, whose registration was accepted and allows this origin and kind. -/
def Authentic (m : RmpSerde) (before : List (Event m)) (e : Event m) : Prop :=
  ∀ c sink out, e = .wrote c sink out →
    (∃ f, out = .generated f) ∨
    ∃ raw parts envelope register, out = .forwarded raw ∧ .received c raw ∈ before ∧
      .registered c envelope register ∈ before ∧ decodeFrame m raw = .ok parts ∧
      parts.envelope.fromPeer = register.peerId ∧
      (parts.envelope.kind = kindCall → register.peerClass = .caller) ∧
      (parts.envelope.kind = kindResponse ∨ parts.envelope.kind = kindError →
        register.peerClass = .service)

/-- The classes that may originate a kind. -/
theorem Route.Sound.origin {r : Route} (h : r.Sound m) :
    (r.envelope.kind = kindCall → r.me.peerClass = .caller) ∧
      (r.envelope.kind = kindResponse ∨ r.envelope.kind = kindError →
        r.me.peerClass = .service) := by
  rw [h.kind_eq]
  rcases h.class_rule with ⟨hk, hc⟩ | ⟨hk, hc⟩ | hk
  · refine ⟨fun _ => hc, fun h => ?_⟩
    rw [hk] at h
    exact absurd h (by decide)
  · refine ⟨fun h => ?_, fun _ => hc⟩
    rw [h] at hk
    exact absurd hk (by decide)
  · rw [hk]
    exact ⟨fun h => absurd h (by decide), fun h => absurd h (by decide)⟩

theorem authentic {s : State m} {tr : List (Event m)} (h : (serve m).Reachable s tr) :
    Historic (Authentic m) tr := by
  refine h.invariant (P := fun _ tr => Historic (Authentic m) tr) historic_nil ?_
  intro s s' tr evs i hreach hs ih
  obtain ⟨pc, hstep, -⟩ := step_of_serve hs
  refine historic_append ih ?_
  rintro before e after rfl c sink out rfl
  cases out with
  | generated f => exact Or.inl ⟨f, rfl⟩
  | forwarded raw =>
    obtain ⟨rfl, -, r, hpc, -, rfl⟩ :=
      hstep.forward_of_wrote (List.mem_append_right before List.mem_cons_self)
    have hroute : (s.conns i.conn).route = some r := by rw [hpc]; rfl
    have hsession : (s.conns i.conn).session = some r.me := by rw [hpc]; rfl
    have hsound : r.Sound m := routesSound hreach i.conn r hroute
    obtain ⟨bodyBytes, hdecoded⟩ := hsound.decoded
    obtain ⟨envelope, register, hmem, hid, hclass⟩ :=
      sessionsRegistered hreach i.conn r.me hsession
    -- the frame in hand is the last element of the sublist, hence among the received ones
    have hreceived : .received i.conn r.raw ∈ tr := by
      refine mem_receivedOn.mp ((ordered hreach i.conn).subset ?_)
      rw [hpc]
      exact List.mem_append_right _ (List.mem_singleton.mpr rfl)
    refine Or.inr ⟨r.raw, ⟨r.envelope, bodyBytes⟩, envelope, register, rfl,
      List.mem_append_left _ hreceived, List.mem_append_left _ hmem, hdecoded, ?_, ?_, ?_⟩
    · rw [hid]; exact hsound.source
    · rw [hclass]; exact hsound.origin.1
    · rw [hclass]; exact hsound.origin.2

/-- **Forwarding integrity.**  In every run, every frame written to a sink is a frame of the
router itself, or the bytes of a frame received before on the connection `c` that forwards it,
where `c` registered under the origin the frame names and with a class that may send its kind.
The frames forwarded on behalf of `c`, to all sinks together, are a sublist of the frames received
on `c`, so that each is forwarded at most once and to one sink; and so are, in the order in which
`c` sent them, those that went to one sink. -/
theorem forwarding_integrity {s : State m} {tr : List (Event m)} (h : (serve m).Reachable s tr) :
    Historic (Authentic m) tr ∧
    (∀ c, ((forwardedFrom c tr).map Prod.snd).Sublist (receivedOn c tr)) ∧
    (∀ c sink, (forwardedTo c sink tr).Sublist (receivedOn c tr)) := by
  have hall : ∀ c, ((forwardedFrom c tr).map Prod.snd).Sublist (receivedOn c tr) :=
    fun c => (List.sublist_append_left _ _).trans (ordered h c)
  refine ⟨authentic h, hall, fun c sink => ?_⟩
  exact ((List.filter_sublist).map Prod.snd).trans (hall c)

/-- A caller sends two calls to a service, which answers one of them: the three frames are
forwarded, those of the caller in order. -/
theorem forwarding_integrity_of_two_calls : ∃ s tr, (serve msgPackSerde).Reachable s tr ∧
    forwardedTo 0 1 tr = [plainBytes "call" "a" "b", callBytes "a" "b"] ∧
    forwardedTo 1 0 tr = [plainBytes "response" "b" "a"] ∧
    (forwardedTo 0 1 tr).Sublist (receivedOn 0 tr) := by
  obtain ⟨s, tr, hrun, hp⟩ := (serve msgPackSerde).exists_reachable_of_exec
    (join 0 "a" .caller ++ join 1 "b" .service ++
      [recv 0 (plainBytes "call" "a" "b"), go 0, go 0, go 0, go 0,
        recv 1 (plainBytes "response" "b" "a"), recv 0 (callBytes "a" "b"), go 0, go 1, go 0,
        go 1, go 0, go 0, go 1])
    (fun _ tr => forwardedTo 0 1 tr == [plainBytes "call" "a" "b", callBytes "a" "b"] &&
      forwardedTo 1 0 tr == [plainBytes "response" "b" "a"]) (by decide +kernel)
  simp only [Bool.and_eq_true, beq_iff_eq] at hp
  exact ⟨s, tr, hrun, hp.1, hp.2, (forwarding_integrity hrun).2.2 0 1⟩

end Multifrost.Router
