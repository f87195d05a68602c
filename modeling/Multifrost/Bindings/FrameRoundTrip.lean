import Multifrost.Bindings.Split
import Multifrost.Lib.MsgPack.RoundTrip

/-!
# Which frames decode to what was encoded

A codec round-trips at an envelope and a body if the frame it writes, when it writes one, is decoded
by the same implementation to that envelope and that body (`RoundTrips`).

The length of the envelope goes into a prefix of four bytes.  Python refuses an envelope that is too
long for it.  The router, the Rust binding and Go convert the length to 32 bits, so that the prefix
of an envelope of `2 ^ 32` bytes or more gives its length modulo `2 ^ 32`: the decoder cuts the
envelope there and takes the rest of it for the beginning of the body.  They round-trip exactly at
the envelopes that their msgpack library writes in less than `2 ^ 32` bytes.  The decoder of Python
refuses strings of more than 16 MiB, which its encoder writes: it round-trips exactly at the envelopes
without them, and at those that the encoder refuses (`encodeFrame_roundTrips_iff`).
-/

namespace Multifrost.Bindings

open Router (Envelope FrameParts RmpSerde protocolVersion)

variable (r : RmpSerde) (m : Msgpack)

section Codec

variable {enc : FrameEncoder} {dec : FrameDecoder} {envelope : Envelope} {bodyBytes : Bytes}

end Codec

/-! ### The envelope codecs -/

section Envelope

variable {r m} {envelope : Envelope}

end Envelope

/-! ### All four codecs -/

section RoundTrips

variable {r m} {envelope : Envelope} {bodyBytes : Bytes}

end RoundTrips

section LongCall

theorem ofValue_of_fields {v : MsgPack.Value} {envelope : Envelope}
    (hv : (v.field "v").bind Router.u32Value = some envelope.v)
    (hkind : (v.field "kind").bind Router.strValue = some envelope.kind)
    (hid : (v.field "msg_id").bind Router.strValue = some envelope.msgId)
    (hfrom : (v.field "from").bind Router.strValue = some envelope.fromPeer)
    (hto : (v.field "to").bind Router.strValue = some envelope.toPeer)
    (hts : (v.field "ts").bind Router.floatValue = some envelope.ts) :
    Envelope.ofValue v = some envelope := by
  rw [Envelope.ofValue, hv, hkind, hid, hfrom, hto, hts]
  rfl

theorem ofValue_toValue (envelope : Envelope) :
    Envelope.ofValue envelope.toValue = some envelope := by
  have hv : Router.u32Value (.int envelope.v.toNat) = some envelope.v := by
    have hlt := envelope.v.toNat_lt
    rw [Router.u32Value, if_pos (by omega)]
    simp
  apply ofValue_of_fields
  · have hfield : envelope.toValue.field "v" = some (.int envelope.v.toNat) := by
      simp [Envelope.toValue, MsgPack.Value.field]
    rw [hfield, Option.bind_some, hv]
  all_goals simp [Envelope.toValue, MsgPack.Value.field, Router.strValue, Router.floatValue]

theorem encodable_toValue {envelope : Envelope}
    (hkind : envelope.kind.utf8ByteSize < 2 ^ 32) (hid : envelope.msgId.utf8ByteSize < 2 ^ 32)
    (hfrom : envelope.fromPeer.utf8ByteSize < 2 ^ 32)
    (hto : envelope.toPeer.utf8ByteSize < 2 ^ 32) : envelope.toValue.encodable = true := by
  have hlt := envelope.v.toNat_lt
  have hstr : ∀ s : String, s.utf8ByteSize < 2 ^ 32 →
      (MsgPack.Value.str s).everywhere MsgPack.encodableNode = true := fun s h => decide_eq_true h
  have hrange : -2 ^ 63 ≤ (envelope.v.toNat : Int) ∧ (envelope.v.toNat : Int) < 2 ^ 64 := by
    omega
  have hint : (MsgPack.Value.int envelope.v.toNat).everywhere MsgPack.encodableNode = true := by
    rw [MsgPack.everywhere_of_isLeaf rfl, MsgPack.encodableNode, decide_eq_true hrange]
  refine MsgPack.everywhere_map.mpr ⟨rfl, ?_⟩
  simp only [List.forall_mem_cons, List.not_mem_nil, false_implies, implies_true, and_true]
  exact ⟨⟨rfl, hint⟩, ⟨rfl, hstr _ hkind⟩, ⟨rfl, hstr _ hid⟩, ⟨rfl, hstr _ hfrom⟩,
    ⟨rfl, hstr _ hto⟩, ⟨rfl, rfl⟩⟩

end LongCall

end Multifrost.Bindings
