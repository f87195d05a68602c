import Multifrost.Bindings.FrameRoundTrip
import Multifrost.Network.Node

/-!
# What goes over the links

A frame that one process has encoded means the same to all others, as long as it is shorter than
`2 ^ 32` bytes: the router and the binding decode it to the envelope and the body that went into it,
or do not decode it at all.  All that is asked of `rmp_serde` is that it reads an envelope as it has
written it (`ReadsBack`).
-/

namespace Multifrost.Network

open Router (Envelope FrameParts RmpSerde)
open Bindings (splitFrame splitFrame_eq_some toOption_eq_some)

/-- `rmp_serde` reads an envelope as it has written it. -/
def ReadsBack (m : RmpSerde) : Prop :=
  ∀ envelope bytes, m.envelopeToVecNamed envelope = .ok bytes → bytes.length < 2 ^ 32 →
    m.envelopeFromSlice bytes = .ok envelope

/-- The codec of the concrete runs does. -/
theorem readsBack_msgPackSerde : ReadsBack Router.msgPackSerde := by
  intro envelope bytes h hlength
  obtain rfl : MsgPack.encode envelope.toValue = bytes := Except.ok.inj h
  have hstr : ∀ s : String, s.utf8ByteSize ≤ (MsgPack.encodeStr s).length := by
    intro s
    rw [MsgPack.encodeStr, List.length_append, MsgPack.length_toUTF8]
    exact Nat.le_add_left ..
  have hkind := hstr envelope.kind
  have hid := hstr envelope.msgId
  have hfrom := hstr envelope.fromPeer
  have hto := hstr envelope.toPeer
  simp only [Envelope.toValue, MsgPack.encode, MsgPack.encodeMap, List.length_append] at hlength
  have hencodable : envelope.toValue.encodable = true :=
    Bindings.encodable_toValue (by omega) (by omega) (by omega) (by omega)
  have hread : ∀ bytes, Router.msgPackSerde.envelopeFromSlice bytes =
      Router.fromSliceWith Envelope.ofValue bytes := fun _ => rfl
  rw [hread, Router.fromSliceWith, MsgPack.fromSlice_encode hencodable, Option.bind_some,
    Bindings.ofValue_toValue]

variable {m : RmpSerde} {raw body : Bytes} {envelope : Envelope} {parts : FrameParts}

/-! ### Both codecs -/

/-- The frames of the router are encoded as those of the binding are. -/
theorem encodeFrame_of_router (h : Router.encodeFrame m envelope body = .ok raw) :
    Rust.encodeFrame m envelope body = .ok raw := by
  unfold Router.encodeFrame Router.encodeEnvelope at h
  unfold Rust.encodeFrame Rust.encodeEnvelope
  cases hbytes : m.envelopeToVecNamed envelope with
  | error text =>
    rw [hbytes] at h
    cases h
  | ok bytes =>
    rw [hbytes] at h
    obtain rfl := Except.ok.inj h
    rfl

/-- The two envelope decoders differ in their errors only. -/
theorem toOption_decodeEnvelope (bytes : Bytes) :
    (Router.decodeEnvelope m bytes).toOption = (Rust.decodeEnvelope m bytes).toOption := by
  unfold Router.decodeEnvelope Rust.decodeEnvelope
  cases m.envelopeFromSlice bytes with
  | error text => rfl
  | ok envelope =>
    show (if _ then _ else _ : Except Router.RouterError Envelope).toOption =
      (if _ then _ else _ : Except Rust.MultifrostError Envelope).toOption
    split_ifs <;> rfl

/-- The router and the binding decode the same frames, and alike. -/
theorem router_decodeFrame_iff :
    Router.decodeFrame m raw = .ok parts ↔ Rust.decodeFrame m raw = .ok parts := by
  have hrouter : (Router.decodeFrame m raw).toOption = _ := Bindings.routerDecoder_splits m raw
  have hrust : (Rust.decodeFrame m raw).toOption = _ := Bindings.rustDecoder_splits m raw
  rw [← toOption_eq_some, ← toOption_eq_some, hrouter, hrust]
  have henvelope : (Bindings.routerDecoder m).decodeEnvelope =
      (Bindings.rustDecoder m).decodeEnvelope := funext fun bytes => toOption_decodeEnvelope bytes
  rw [henvelope]

/-- A body is no longer than its frame. -/
theorem length_bodyBytes_le (h : Rust.decodeFrame m raw = .ok parts) :
    parts.bodyBytes.length ≤ raw.length := by
  have hrust : (Rust.decodeFrame m raw).toOption = _ := Bindings.rustDecoder_splits m raw
  rw [h] at hrust
  obtain ⟨⟨bytes, body⟩, hsplit, hdecoded⟩ := Option.bind_eq_some_iff.mp hrust.symm
  obtain ⟨envelope, -, rfl⟩ := Option.map_eq_some_iff.mp hdecoded
  obtain ⟨-, rfl⟩ := splitFrame_eq_some.mp hsplit
  simp only [List.length_append]
  omega

/-! ### What was encoded -/

/-- The parts of a frame that is short enough for its length prefix. -/
theorem splitFrame_of_encodeFrame (h : Rust.encodeFrame m envelope body = .ok raw)
    (hlength : raw.length < 2 ^ 32) :
    ∃ bytes, m.envelopeToVecNamed envelope = .ok bytes ∧ bytes.length < 2 ^ 32 ∧
      splitFrame raw = some (bytes, body) := by
  unfold Rust.encodeFrame Rust.encodeEnvelope at h
  cases hbytes : m.envelopeToVecNamed envelope with
  | error text =>
    rw [hbytes] at h
    cases h
  | ok bytes =>
    rw [hbytes] at h
    have hraw : Bytes.toBE 4 (bytes.length % 2 ^ 32) ++ bytes ++ body = raw := Except.ok.inj h
    have hshort : bytes.length < 2 ^ 32 := by
      rw [← hraw, List.length_append, List.length_append] at hlength
      omega
    rw [Nat.mod_eq_of_lt hshort] at hraw
    exact ⟨bytes, rfl, hshort, splitFrame_eq_some.mpr ⟨hshort, hraw.symm⟩⟩

/-- A frame comes from one envelope and one body. -/
theorem encodeFrame_injective (hm : ReadsBack m) {envelope' : Envelope} {body' : Bytes}
    (h : Rust.encodeFrame m envelope body = .ok raw)
    (h' : Rust.encodeFrame m envelope' body' = .ok raw) (hlength : raw.length < 2 ^ 32) :
    envelope = envelope' ∧ body = body' := by
  obtain ⟨bytes, hbytes, hshort, hsplit⟩ := splitFrame_of_encodeFrame h hlength
  obtain ⟨bytes', hbytes', -, hsplit'⟩ := splitFrame_of_encodeFrame h' hlength
  rw [hsplit] at hsplit'
  obtain ⟨rfl, rfl⟩ := Prod.mk.inj (Option.some.inj hsplit')
  have hread := hm envelope bytes hbytes hshort
  rw [hm envelope' bytes hbytes' hshort] at hread
  exact ⟨(Except.ok.inj hread).symm, rfl⟩

/-- A frame is decoded to what was encoded, if it is decoded. -/
theorem eq_of_decodeFrame (hm : ReadsBack m) (h : Rust.encodeFrame m envelope body = .ok raw)
    (hlength : raw.length < 2 ^ 32) (hparts : Rust.decodeFrame m raw = .ok parts) :
    parts = ⟨envelope, body⟩ := by
  obtain ⟨bytes, hbytes, hshort, hsplit⟩ := splitFrame_of_encodeFrame h hlength
  have hrust : (Rust.decodeFrame m raw).toOption = _ := Bindings.rustDecoder_splits m raw
  rw [hsplit, hparts] at hrust
  obtain ⟨envelope', hdecoded, rfl⟩ := Option.map_eq_some_iff.mp hrust.symm
  have hok : Rust.decodeEnvelope m bytes = .ok envelope' := toOption_eq_some.mp hdecoded
  unfold Rust.decodeEnvelope at hok
  rw [hm envelope bytes hbytes hshort] at hok
  change (if envelope.v ≠ Router.protocolVersion then _ else _) = _ at hok
  split_ifs at hok
  rw [Except.ok.inj hok]

end Multifrost.Network
