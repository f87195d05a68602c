import Multifrost.Bindings.Envelope
import Multifrost.Router.Safety.Forwarding

/-!
# What the router forwards, and what the bindings read

The router checks the version of an envelope, its origin and the classes; the bindings check more.
A frame that passes the router and not the receiving binding ends the read loop of its receiver,
and `router_forwards_unreadable` is one: a call with the timestamp `0.0`, the value that the
router's and the Rust binding's own clocks fall back to.

`forwarded_readable_iff` says which frames these are.  Of the router's checks only the version and
the kinds matter, since every kind that is routed is one that the bindings know.
-/

namespace Multifrost.Bindings

open Router TransitionSystem

variable {m : RmpSerde}

/-- The four bindings accept the envelope. -/
def AcceptedByAll (e : Envelope) : Prop :=
  Go.validateEnvelope e = .ok () ∧ (∃ e', JavaScript.validateEnvelopeFields e = .ok e') ∧
    Php.validateEnvelope e = .ok () ∧ ∃ e', Python.validateEnvelopeMapping e = .ok e'

/-- The kinds of routed frames. -/
theorem kind_of_sound {r : Route} (h : r.Sound m) :
    r.envelope.kind = kindCall ∨ r.envelope.kind = kindResponse ∨
      r.envelope.kind = kindError ∨ r.envelope.kind = kindHeartbeat := by
  rw [h.kind_eq]
  rcases h.class_rule with ⟨hk, -⟩ | ⟨hk | hk, -⟩ | hk
  · exact Or.inl hk
  · exact Or.inr (Or.inl hk)
  · exact Or.inr (Or.inr (Or.inl hk))
  · exact Or.inr (Or.inr (Or.inr hk))

/-- The envelope of a forwarded frame has the protocol's version and a routed kind. -/
theorem envelope_of_forwarded {s : State m} {tr : List (Event m)} (h : (serve m).Reachable s tr) :
    ∀ c sink raw parts, .wrote c sink (.forwarded raw) ∈ tr → decodeFrame m raw = .ok parts →
      parts.envelope.v = protocolVersion ∧
      (parts.envelope.kind = kindCall ∨ parts.envelope.kind = kindResponse ∨
        parts.envelope.kind = kindError ∨ parts.envelope.kind = kindHeartbeat) := by
  intro c sink raw parts hmem hparts
  obtain ⟨r, hsound, henvelope⟩ := sound_of_forwarded h c sink raw parts hmem hparts
  refine ⟨v_of_decodeFrame hparts, ?_⟩
  rw [← henvelope]
  exact kind_of_sound hsound

/-- An envelope of the protocol's version and of a routed kind is accepted by all bindings exactly
when PHP accepts its strings and its timestamp is finite and positive. -/
theorem acceptedByAll_iff {e : Envelope} (hv : e.v = protocolVersion)
    (hk : e.kind = kindCall ∨ e.kind = kindResponse ∨ e.kind = kindError ∨
      e.kind = kindHeartbeat) :
    AcceptedByAll e ↔ (e.msgId ≠ "" ∧ e.msgId ≠ "0") ∧ (e.fromPeer ≠ "" ∧ e.fromPeer ≠ "0") ∧
      (e.toPeer ≠ "" ∧ e.toPeer ≠ "0") ∧ e.ts.isFinite = true ∧ e.ts.isPositive = true := by
  have hempty : ∀ s, Php.empty s = false ↔ s ≠ "" ∧ s ≠ "0" := by
    intro s
    simp [Php.empty]
  have hknown : e.kind ≠ "" ∧ JavaScript.isEnvelopeKind e.kind = true ∧ e.kind ∈ Php.validKinds := by
    generalize e.kind = kind at hk
    rcases hk with rfl | rfl | rfl | rfl <;> decide
  unfold AcceptedByAll
  rw [Go.validateEnvelope_eq_ok, JavaScript.validateEnvelopeFields_eq_ok,
    Php.validateEnvelope_eq_ok, Python.validateEnvelopeMapping_eq_ok, hempty, hempty, hempty]
  -- PHP asks for the most
  constructor
  · rintro ⟨-, -, ⟨-, -, hid, hfrom, hto, hts⟩, -⟩
    exact ⟨hid, hfrom, hto, hts⟩
  · rintro ⟨hid, hfrom, hto, hts⟩
    exact ⟨⟨hv, hknown.1, hid.1, hfrom.1, hto.1, hts⟩, ⟨hv, hknown.2.1, hts.1⟩,
      ⟨hv, hknown.2.2, hid, hfrom, hto, hts⟩, hv⟩

/-- **What the router forwards, the bindings can read** if and only if its strings are neither
empty nor `"0"` and its timestamp is finite and positive; this for every frame that is forwarded in
any run. -/
theorem forwarded_readable_iff {s : State m} {tr : List (Event m)}
    (h : (serve m).Reachable s tr) {c : ConnId} {sink : PeerSender} {raw : Bytes}
    {parts : FrameParts} (hmem : .wrote c sink (.forwarded raw) ∈ tr)
    (hparts : decodeFrame m raw = .ok parts) :
    AcceptedByAll parts.envelope ↔
      (parts.envelope.msgId ≠ "" ∧ parts.envelope.msgId ≠ "0") ∧
      (parts.envelope.fromPeer ≠ "" ∧ parts.envelope.fromPeer ≠ "0") ∧
      (parts.envelope.toPeer ≠ "" ∧ parts.envelope.toPeer ≠ "0") ∧
      parts.envelope.ts.isFinite = true ∧ parts.envelope.ts.isPositive = true := by
  obtain ⟨hv, hk⟩ := envelope_of_forwarded h c sink raw parts hmem hparts
  exact acceptedByAll_iff hv hk

/-- A call from `"a"` to `"b"` with the given timestamp. -/
def stampedCall (ts : Float64) : Bytes :=
  frameBytes (buildEnvelope kindCall "m" "a" "b" ts) [0x80]

/-- Connection `0` has the call of timestamp `ts` forwarded. -/
theorem exists_stampedCall (ts : Float64)
    (h : ((serve msgPackSerde).exec (fun _ _ _ => True) (serve msgPackSerde).init []
      (join 0 "a" .caller ++ join 1 "b" .service ++
        [recv 0 (stampedCall ts), go 0, go 0, go 0, go 0])).any (fun r =>
      forwardedFrom 0 r.2 == [(1, stampedCall ts)]) = true)
    (hd : (decodeFrame msgPackSerde (stampedCall ts)).toOption.map FrameParts.envelope =
      some (buildEnvelope kindCall "m" "a" "b" ts)) :
    ∃ s tr parts, (serve msgPackSerde).Reachable s tr ∧
      .wrote 0 1 (.forwarded (stampedCall ts)) ∈ tr ∧
      decodeFrame msgPackSerde (stampedCall ts) = .ok parts ∧
      parts.envelope = buildEnvelope kindCall "m" "a" "b" ts := by
  obtain ⟨s, tr, hrun, hp⟩ := (serve msgPackSerde).exists_reachable_of_exec _
    (fun _ tr => forwardedFrom 0 tr == [(1, stampedCall ts)]) h
  have hmem : (1, stampedCall ts) ∈ forwardedFrom 0 tr := by
    rw [beq_iff_eq.mp hp]
    exact List.mem_singleton.mpr rfl
  cases hparts : decodeFrame msgPackSerde (stampedCall ts) with
  | error e =>
    rw [hparts] at hd
    cases hd
  | ok parts =>
    rw [hparts] at hd
    exact ⟨s, tr, parts, hrun, mem_forwardedFrom.mp hmem, rfl, Option.some.inj hd⟩

/-- A call that is stamped with `1.0` is forwarded and read by all. -/
theorem forwarded_readable_of_call : ∃ s tr parts, (serve msgPackSerde).Reachable s tr ∧
    .wrote 0 1 (.forwarded (stampedCall .one)) ∈ tr ∧
    decodeFrame msgPackSerde (stampedCall .one) = .ok parts ∧ AcceptedByAll parts.envelope := by
  obtain ⟨s, tr, parts, hrun, hmem, hparts, henvelope⟩ :=
    exists_stampedCall .one (by decide +kernel) (by decide +kernel)
  refine ⟨s, tr, parts, hrun, hmem, hparts, (forwarded_readable_iff hrun hmem hparts).mpr ?_⟩
  rw [henvelope]
  decide

/-- A call that is stamped with `0.0` is forwarded, and not all bindings read it. -/
theorem router_forwards_unreadable :
    ¬ ∀ s tr, (serve msgPackSerde).Reachable s tr → ∀ c sink raw parts,
      .wrote c sink (.forwarded raw) ∈ tr → decodeFrame msgPackSerde raw = .ok parts →
      AcceptedByAll parts.envelope := by
  obtain ⟨s, tr, parts, hrun, hmem, hparts, henvelope⟩ :=
    exists_stampedCall .zero (by decide +kernel) (by decide +kernel)
  intro h
  obtain ⟨hgo, -⟩ := h s tr hrun 0 1 _ parts hmem hparts
  rw [henvelope] at hgo
  exact absurd hgo (by decide)

end Multifrost.Bindings
