import Multifrost.Router.Safety.Forwarding

/-!
# No call comes back to its sender

A peer may address a frame to its own id.  A call or an error is rejected then, when the router reads
the class of the target.  But the class, the existence and the sink of a target are read in three
awaits, between which ids may be removed and registered anew, and it has to be said that no such change
leads a call back to the connection it came from: a connection registers once, so an id that is not its
own when the class is read cannot become its own later.  Responses are routed without a look at the
class, and heartbeats may go to anyone: these do come back (`own_frames`).
-/

namespace Multifrost.Router

open TransitionSystem

variable {m : RmpSerde}

/-- The frame may only go to the other class. -/
def Route.crosses (r : Route) : Prop := r.kind = kindCall ∨ r.kind = kindError

/-- What a connection has found for a frame that crosses is not the connection itself. -/
def Pc.Elsewhere (c : ConnId) (reg : PeerRegistry) : Pc m → Prop
  | .markHeartbeat r | .heartbeatTarget r => r.kind = kindHeartbeat
  | .targetExists r | .targetSender r => r.crosses →
    ∀ record, reg.peers r.envelope.toPeer = some record → record.sender ≠ c
  | .forward r target => r.crosses → target ≠ c
  | _ => True

/-- The class that a call or an error is delivered to is not that of its sender. -/
theorem Route.Sound.peerClass_ne {r : Route} (h : r.Sound m) (hcrosses : r.crosses)
    {found : PeerClass} (hdeliver : decideRouteTarget r.kind (some found) = .deliver) :
    found ≠ r.me.peerClass := by
  rintro rfl
  rcases hcrosses with hcall | herror
  · have hcaller : r.me.peerClass = .caller := h.origin.1 (h.kind_eq.trans hcall)
    rw [hcaller, hcall] at hdeliver
    cases hdeliver
  · have hservice : r.me.peerClass = .service := h.origin.2 (.inr (h.kind_eq.trans herror))
    rw [hservice, herror] at hdeliver
    cases hdeliver

/-- **One await** of the connection itself. -/
theorem Pc.Elsewhere.step {i : Input} {s : State m} {reg' : PeerRegistry} {pc' : Pc m}
    {evs : List (Event m)} (howned : EntriesOwned s) (hsound : RoutesSound s)
    (h : (s.conns i.conn).Elsewhere i.conn s.registry)
    (hstep : Step m i s.registry (s.conns i.conn) reg' pc' evs) : pc'.Elsewhere i.conn reg' := by
  generalize hpc : s.conns i.conn = pc at h hstep
  cases hstep with
  | routed hr hstarts =>
    obtain ⟨rfl, hkind⟩ | ⟨rfl, -⟩ | ⟨rfl, hkind⟩ := hstarts
    · exact hkind
    · trivial
    · intro hcrosses
      rw [Route.crosses, hkind] at hcrosses
      exact absurd hcrosses (by decide)
  | marked => exact h
  | @heartbeatRouted r hexists =>
    intro hcrosses
    have hkind : r.kind = kindHeartbeat := h
    rw [Route.crosses, hkind] at hcrosses
    exact absurd hcrosses (by decide)
  | @delivered r hdeliver =>
    intro hcrosses record hrecord hsender
    obtain ⟨-, hsession⟩ := howned _ record hrecord
    rw [hsender, hpc] at hsession
    have hme : r.me = ⟨r.envelope.toPeer, record.peerClass⟩ := Option.some.inj hsession
    have hroute : (s.conns i.conn).route = some r := by rw [hpc]; rfl
    have hclass : s.registry.snapshotPeerClass r.envelope.toPeer = some record.peerClass := by
      rw [PeerRegistry.snapshotPeerClass, hrecord]
      rfl
    rw [hclass] at hdeliver
    exact (hsound i.conn r hroute).peerClass_ne hcrosses hdeliver (by rw [hme])
  | found hexists => exact h
  | resolved hrecord => exact fun hcrosses => h hcrosses _ hrecord
  | handshake hpc' => obtain rfl | ⟨res, rfl⟩ := hpc' <;> trivial
  | first hpc' => obtain ⟨e, b, rfl⟩ | ⟨f, rfl⟩ | ⟨res, rfl⟩ := hpc' <;> trivial
  | inserted _ hpc' => obtain ⟨f, rfl, -, -⟩ | ⟨e, rfl⟩ := hpc' <;> trivial
  | duplicate hpc' => obtain ⟨f, rfl⟩ | ⟨res, rfl⟩ := hpc' <;> trivial
  | replied hpc' => obtain ⟨-, rfl⟩ | ⟨-, rfl⟩ := hpc' <;> trivial
  | disconnected hpc' => obtain ⟨f, rfl⟩ | ⟨res, rfl⟩ := hpc' <;> trivial
  | message hq => cases hq <;> trivial
  | answered _ hq => cases hq <;> trivial
  | evicted hq => cases hq <;> trivial
  | rejected | acked | ownSendFailed | forwarded | forwardFailed | cleaned => trivial

/-- Another connection registers for itself only. -/
theorem Pc.Elsewhere.of_ne {i : Input} {reg reg' : PeerRegistry} {pc pc' : Pc m} {c : ConnId}
    {pc₀ : Pc m} {evs : List (Event m)} (h : pc₀.Elsewhere c reg) (hc : i.conn ≠ c)
    (hstep : Step m i reg pc reg' pc' evs) : pc₀.Elsewhere c reg' := by
  have hpeers : ∀ x, (∀ record, reg.peers x = some record → record.sender ≠ c) →
      ∀ record, reg'.peers x = some record → record.sender ≠ c := by
    intro x hold record hrecord
    rcases hstep.peers_eq_some hrecord with ⟨old, hx, hsender, -⟩ | ⟨e, b, -, -, hsender, -⟩
    · rw [hsender]
      exact hold old hx
    · rw [hsender]
      exact hc
  cases pc₀ with
  | targetExists r => exact fun hcrosses => hpeers _ (h hcrosses)
  | targetSender r => exact fun hcrosses => hpeers _ (h hcrosses)
  | _ => exact h

theorem elsewhere {s : State m} {tr : List (Event m)} (h : (serve m).Reachable s tr) :
    ∀ c, (s.conns c).Elsewhere c s.registry := by
  refine h.invariant (P := fun s _ => ∀ c, (s.conns c).Elsewhere c s.registry) (fun c => trivial) ?_
  intro s s' tr evs i hreach hs ih c
  obtain ⟨pc, hstep, hconns⟩ := step_of_serve hs
  rw [hconns, Function.update_apply]
  split_ifs with hc
  · subst hc
    exact (ih i.conn).step (entriesOwned hreach) (routesSound hreach) hstep
  · exact (ih c).of_ne (Ne.symm hc) hstep

/-- A call or an error is never written to the connection that it was received on. -/
theorem not_wrote_back {s : State m} {tr : List (Event m)} (h : (serve m).Reachable s tr)
    {c : ConnId} {raw : Bytes} {parts : FrameParts} (hparts : decodeFrame m raw = .ok parts)
    (hkind : parts.envelope.kind = kindCall ∨ parts.envelope.kind = kindError) :
    .wrote c c (.forwarded raw) ∉ tr := by
  intro hmem
  refine h.forall_mem (Q := fun e => e ≠ .wrote c c (.forwarded raw)) ?_ _ hmem rfl
  rintro s s' tr evs i hreach - hs e he rfl
  obtain ⟨rfl, r, hpc, hsound, -, henvelope⟩ := forward_of_step hreach hs he hparts
  have helsewhere := elsewhere hreach i.conn
  rw [hpc] at helsewhere
  refine helsewhere ?_ rfl
  rw [Route.crosses, ← hsound.kind_eq, henvelope]
  exact hkind

/-- **Only responses and heartbeats come back.**  Of the frames that the router forwards to the
connection they were received on, each is a response or a heartbeat, whatever registrations and removals
go on meanwhile. -/
theorem own_frames {s : State m} {tr : List (Event m)} (h : (serve m).Reachable s tr) :
    ∀ c raw, .wrote c c (.forwarded raw) ∈ tr → ∃ parts, decodeFrame m raw = .ok parts ∧
      (parts.envelope.kind = kindResponse ∨ parts.envelope.kind = kindHeartbeat) := by
  intro c raw hmem
  obtain ⟨before, after, htrace⟩ := List.append_of_mem hmem
  rcases authentic h before _ after htrace c c _ rfl with ⟨f, hf⟩ |
    ⟨raw', parts, envelope, register, hout, -, -, hparts, -⟩
  · cases hf
  obtain rfl := Outbound.forwarded.inj hout
  obtain ⟨r, hsound, henvelope⟩ := sound_of_forwarded h c c raw parts hmem hparts
  have hback : ¬ (parts.envelope.kind = kindCall ∨ parts.envelope.kind = kindError) :=
    fun hkind => not_wrote_back h hparts hkind hmem
  have hrule := hsound.class_rule
  rw [← hsound.kind_eq, henvelope] at hrule
  refine ⟨parts, hparts, ?_⟩
  rcases hrule with ⟨hcall, -⟩ | ⟨hresponse | herror, -⟩ | hheartbeat
  · exact absurd (Or.inl hcall) hback
  · exact Or.inl hresponse
  · exact absurd (Or.inr herror) hback
  · exact Or.inr hheartbeat

/-- A service sends itself an error, which is rejected, and a response, which comes back. -/
theorem own_frames_response : ∃ s tr, (serve msgPackSerde).Reachable s tr ∧
    .received 0 (plainBytes "error" "a" "a") ∈ tr ∧
    forwardedFrom 0 tr = [(0, plainBytes "response" "a" "a")] ∧
    ∃ parts, decodeFrame msgPackSerde (plainBytes "response" "a" "a") = .ok parts ∧
      (parts.envelope.kind = kindResponse ∨ parts.envelope.kind = kindHeartbeat) := by
  obtain ⟨s, tr, hrun, hp⟩ := (serve msgPackSerde).exists_reachable_of_exec
    (join 0 "a" .service ++ [recv 0 (plainBytes "error" "a" "a"), go 0, go 0,
      recv 0 (plainBytes "response" "a" "a"), go 0, go 0, go 0])
    (fun _ tr => forwardedFrom 0 tr == [(0, plainBytes "response" "a" "a")] &&
      (receivedOn 0 tr).contains (plainBytes "error" "a" "a")) (by decide +kernel)
  simp only [Bool.and_eq_true, beq_iff_eq] at hp
  have hback : .wrote 0 0 (.forwarded (plainBytes "response" "a" "a")) ∈ tr := by
    rw [← mem_forwardedFrom, hp.1]
    exact List.mem_cons_self
  exact ⟨s, tr, hrun, mem_receivedOn.mp (List.contains_iff_mem.mp hp.2), hp.1,
    own_frames hrun 0 _ hback⟩

end Multifrost.Router
