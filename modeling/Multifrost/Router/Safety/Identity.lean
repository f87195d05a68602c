import Multifrost.Router.Safety.Forwarding

/-!
# Who speaks as the router

A receiver takes a frame whose origin is `"router"` for one of the router's own.  Nothing in the
registration keeps a peer from taking that id: `validate_register_envelope` compares it with the
envelope only, so a peer that registers as `"router"` has its frames forwarded under the router's
name and receives the heartbeats addressed to the router (`router_identity_forged`).

As long as no such registration is made, the router's identity is safe (`router_identity`): the
id then never enters the registry, so no frame is forwarded to it, and no forwarded frame can
carry it, since its origin is the id of the connection that sent it.
-/

namespace Multifrost.Router

open TransitionSystem

variable {m : RmpSerde}

/-- No frame of a peer is delivered under the router's name, and no heartbeat for the router is
delivered to a peer. -/
def RouterGenuine (tr : List (Event m)) : Prop :=
  ∀ c sink raw parts, .wrote c sink (.forwarded raw) ∈ tr → decodeFrame m raw = .ok parts →
    parts.envelope.fromPeer ≠ routerPeerId ∧
    (parts.envelope.kind = kindHeartbeat → parts.envelope.toPeer ≠ routerPeerId)

/-- The step does not register a peer under the id of the router. -/
def NotAsRouter (s : State m) (_ : List (Event m)) (i : Input) : Prop :=
  (s.conns i.conn).registering.map RegisterBody.peerId ≠ some routerPeerId

instance (s : State m) (tr : List (Event m)) (i : Input) : Decidable (NotAsRouter s tr i) :=
  inferInstanceAs (Decidable (_ ≠ _))

theorem registered_ne_router {s : State m} {tr : List (Event m)}
    (h : (serve m).Run NotAsRouter s tr) :
    ∀ c e b, .registered c e b ∈ tr → b.peerId ≠ routerPeerId := by
  intro c e b hmem
  refine h.forall_mem (Q := fun ev => ev = .registered c e b → b.peerId ≠ routerPeerId)
    ?_ _ hmem rfl
  rintro s s' tr evs i - hguard hs ev hmem rfl hb
  obtain ⟨pc, hstep, -⟩ := step_of_serve hs
  obtain ⟨-, hpc, -, -⟩ := hstep.insert_of_registered hmem
  apply hguard
  rw [hpc]
  exact congrArg some hb

/-- The router's id is in nobody's registry entry. -/
theorem peers_router_eq_none {s : State m} {tr : List (Event m)}
    (h : (serve m).Run NotAsRouter s tr) : s.registry.peers routerPeerId = none := by
  cases hx : s.registry.peers routerPeerId with
  | none => rfl
  | some record =>
    obtain ⟨-, hsession⟩ := entriesOwned h.reachable _ record hx
    obtain ⟨e, b, hmem, hid, -⟩ := sessionsRegistered h.reachable _ _ hsession
    exact absurd hid (registered_ne_router h _ e b hmem)

/-- No connection finds a sink under the router's id. -/
theorem target_ne_router {s : State m} {tr : List (Event m)}
    (h : (serve m).Run NotAsRouter s tr) :
    ∀ c p, (s.conns c).target = some p → p.1 ≠ routerPeerId := by
  refine conn_invariant Pc.target (fun _ _ p => p.1 ≠ routerPeerId) rfl (fun _ hp => hp) ?_ h
  intro i s reg' pc tr evs p hrun _ hstep hp
  rcases hstep.target_new hp with hold | ⟨r, record, -, -, hx, -⟩
  · exact Or.inl hold
  · refine Or.inr fun hrouter => ?_
    rw [hrouter, peers_router_eq_none hrun] at hx
    cases hx

/-- **The router's identity is not forged** in a run in which no peer registers under the id of
the router. -/
theorem router_identity {s : State m} {tr : List (Event m)}
    (h : (serve m).Run NotAsRouter s tr) : RouterGenuine tr := by
  intro c sink raw parts hmem
  refine h.forall_mem (Q := fun e => e = .wrote c sink (.forwarded raw) →
    decodeFrame m raw = .ok parts → parts.envelope.fromPeer ≠ routerPeerId ∧
      (parts.envelope.kind = kindHeartbeat → parts.envelope.toPeer ≠ routerPeerId)) ?_ _ hmem rfl
  rintro s s' tr evs i hrun - hs e hmem rfl hparts
  obtain ⟨-, r, hpc, hsound, -, henvelope⟩ := forward_of_step hrun.reachable hs hmem hparts
  rw [← henvelope]
  constructor
  · -- the origin is the id of the session, which goes back to a registration
    have hsession : (s.conns c).session = some r.me := by rw [hpc]; rfl
    obtain ⟨e, b, hb, hid, -⟩ := sessionsRegistered hrun.reachable c r.me hsession
    rw [hsound.source, ← hid]
    exact registered_ne_router hrun c e b hb
  · -- a heartbeat is forwarded to a peer found under its target
    intro _
    have htarget : (s.conns c).target = some (r.envelope.toPeer, sink) := by rw [hpc]; rfl
    exact target_ne_router hrun c _ htarget

/-- A heartbeat between two peers is forwarded, and the one for the router is not. -/
theorem router_identity_of_heartbeats : ∃ s tr, (serve msgPackSerde).Run NotAsRouter s tr ∧
    forwardedFrom 0 tr = [(1, plainBytes "heartbeat" "a" "b")] ∧
    receivedOn 0 tr = [registerBytes "a" .caller, plainBytes "heartbeat" "a" "router",
      plainBytes "heartbeat" "a" "b"] ∧ RouterGenuine tr := by
  obtain ⟨s, tr, hrun, hp⟩ := (serve msgPackSerde).exists_run_of_exec NotAsRouter
    (join 0 "a" .caller ++ join 1 "b" .service ++
      [recv 0 (plainBytes "heartbeat" "a" "router"), go 0, go 0, go 0,
        recv 0 (plainBytes "heartbeat" "a" "b"), go 0, go 0, go 0, go 0, go 0])
    (fun _ tr => forwardedFrom 0 tr == [(1, plainBytes "heartbeat" "a" "b")] &&
      receivedOn 0 tr == [registerBytes "a" .caller, plainBytes "heartbeat" "a" "router",
        plainBytes "heartbeat" "a" "b"]) (by decide +kernel)
  simp only [Bool.and_eq_true, beq_iff_eq] at hp
  exact ⟨s, tr, hrun, hp.1, hp.2, router_identity hrun⟩

/-- A service that registers as `"router"` has an error under that name delivered to a caller. -/
theorem router_identity_forged :
    ¬ ∀ s tr, (serve msgPackSerde).Reachable s tr → RouterGenuine tr := by
  obtain ⟨s, tr, hrun, hp⟩ := (serve msgPackSerde).exists_reachable_of_exec
    (join 0 "router" .service ++ join 1 "a" .caller ++
      [recv 0 (plainBytes "error" "router" "a"), go 0, go 0, go 0, go 0])
    (fun _ tr => (forwardedFrom 0 tr).any fun p =>
      ((decodeFrame msgPackSerde p.2).toOption.map fun parts => parts.envelope.fromPeer)
        == some routerPeerId) (by decide +kernel)
  intro h
  rw [List.any_eq_true] at hp
  obtain ⟨⟨sink, raw⟩, hmem, hfrom⟩ := hp
  have hwrote := mem_forwardedFrom.mp hmem
  cases hd : decodeFrame msgPackSerde raw with
  | error e =>
    rw [hd] at hfrom
    cases hfrom
  | ok parts =>
    rw [hd] at hfrom
    have hrouter : parts.envelope.fromPeer = routerPeerId := by
      simpa [Except.toOption] using hfrom
    exact (h s tr hrun 0 sink raw parts hwrote hd).1 hrouter

end Multifrost.Router
