import Multifrost.Bindings.Frame
import Multifrost.Lib.Machine
import Multifrost.Router.Sample
import Multifrost.Rust.Message

/-!
# The frame decoders in machine arithmetic

`decode_frame` of the router and of the Rust binding and `DecodeFrame` of the Go binding, with the
sum `4 + envelope_len` computed in the words of a machine: once for the check of the length and
once for each of the two slices, as in the source.  The other models of the decoders
(`Router.decodeFrame`, `Rust.decodeFrame`, `Go.decodeFrame`) compute it without a bound.

Where a word has 64 bits the sum has room for every length prefix (`decodeFrameOn_of_bits64`).
Where it has 32, the four largest prefixes overflow in Rust, and the four largest that are not
negative in Go: the check then compares the length of the frame with a number below 4 and lets
every frame pass, and the slice that follows ends before it starts (`decodeFrameOn_safe_iff`).  A
decoder whose sum fits returns what the other model of it says (`rustDecodeFrame_value`,
`goDecodeFrame_value`).
-/

namespace Multifrost

open Exec
open Router (FrameParts RmpSerde RouterError)

/-- The envelope length that a frame declares. -/
def declaredLen (bytes : Bytes) : Nat := Bytes.ofBE (bytes.take 4)

/-- `decode_frame` of the Rust crates, with the error for a malformed frame and the decoder of the
envelope.  The cast to `usize` keeps a `u32`, as a word has 32 bits at least. -/
def rustDecodeFrame {ε : Type} (malformedFrame : String → ε)
    (decodeEnvelope : Bytes → Except ε Router.Envelope) (t : Machine) (bytes : Bytes) :
    Exec (Except ε FrameParts) :=
  if bytes.length < 4 then
    pure (.error (malformedFrame "frame too short for envelope length"))
  else do
    let head ← slice bytes 0 4
    let envelopeLen := Bytes.ofBE head
    let bound ← ofOption (t.addUsize 4 envelopeLen)
    if bytes.length < bound then
      pure (.error (malformedFrame "frame shorter than declared envelope length"))
    else do
      let high ← ofOption (t.addUsize 4 envelopeLen)
      let envelopeBytes ← slice bytes 4 high
      match decodeEnvelope envelopeBytes with
      | .error err => pure (.error err)
      | .ok envelope => do
        let low ← ofOption (t.addUsize 4 envelopeLen)
        let bodyBytes ← slice bytes low bytes.length
        pure (.ok ⟨envelope, bodyBytes⟩)

def Router.decodeFrameOn (m : RmpSerde) : Machine → Bytes → Exec (Except RouterError FrameParts) :=
  rustDecodeFrame .malformedFrame (Router.decodeEnvelope m)

def Rust.decodeFrameOn (m : RmpSerde) :
    Machine → Bytes → Exec (Except Rust.MultifrostError FrameParts) :=
  rustDecodeFrame .malformedFrame (Rust.decodeEnvelope m)

/-- `spare` is what lies between the length of the slice `data` and its capacity, up to which it may
be sliced again.  Additions wrap in Go; a checked one would panic. -/
def Go.decodeFrameOn (m : Msgpack) (spare : Bytes) (t : Machine) (data : Bytes) :
    Exec (Except String FrameParts) :=
  if data.length < 4 then pure (.error "frame too short for envelope length")
  else do
    let head ← slice (data ++ spare) 0 4
    let envelopeLen := t.toInt (Bytes.ofBE head)
    if envelopeLen < 0 then pure (.error "invalid envelope length")
    else do
      let bound ← ofOption (t.addInt 4 envelopeLen)
      if data.length < bound then
        pure (.error "frame shorter than declared envelope length")
      else do
        let high ← ofOption (t.addInt 4 envelopeLen)
        let envelopeBytes ← slice (data ++ spare) 4 high
        match Go.decodeEnvelope m envelopeBytes with
        | .error err => pure (.error err)
        | .ok envelope => do
          let low ← ofOption (t.addInt 4 envelopeLen)
          let bodyBytes ← slice (data ++ spare) low data.length
          pure (.ok ⟨envelope, bodyBytes⟩)

/-! ### The length prefix -/

theorem declaredLen_lt (t : Machine) (bytes : Bytes) : declaredLen bytes < 2 ^ t.bits := by
  have htake : (bytes.take 4).length ≤ 4 := List.length_take_le 4 bytes
  calc declaredLen bytes < 256 ^ (bytes.take 4).length := Bytes.ofBE_lt _
    _ ≤ 256 ^ 4 := Nat.pow_le_pow_right (by decide) htake
    _ = 2 ^ 32 := by decide
    _ ≤ 2 ^ t.bits := Nat.pow_le_pow_right (by decide) t.le_bits

theorem take_rest (bytes : Bytes) (k : Nat) :
    (bytes.drop k).take (bytes.length - k) = bytes.drop k := by
  rw [← List.length_drop, List.take_length]

/-- The slice of the prefix is safe, and what follows it decides. -/
theorem safe_head {α : Type} {buffer bytes : Bytes} {f : Bytes → Exec α} (h4 : 4 ≤ bytes.length)
    (hlength : bytes.length ≤ buffer.length) (hfront : buffer.take 4 = bytes.take 4) :
    (slice buffer 0 4 >>= f).Safe bytes.length ↔ (f (bytes.take 4)).Safe bytes.length := by
  rw [safe_slice_bind hlength (by omega) (by omega) (by omega), ← hfront]
  rfl

theorem value_head {α : Type} {buffer bytes : Bytes} {f : Bytes → Exec α} (h4 : 4 ≤ buffer.length)
    (hfront : buffer.take 4 = bytes.take 4) :
    (slice buffer 0 4 >>= f).value = (f (bytes.take 4)).value := by
  rw [value_bind_of_eq (value_slice (by omega) (by omega) (by omega)), ← hfront]
  rfl

/-! ### Rust -/

section Rust

variable {ε : Type} {malformedFrame : String → ε}
  {decodeEnvelope : Bytes → Except ε Router.Envelope} {t : Machine} {bytes : Bytes}

/-- A sum that fits is the bound of both slices. -/
theorem rustDecodeFrame_safe (h4 : 4 ≤ bytes.length)
    (hfits : 4 + declaredLen bytes < 2 ^ t.bits) :
    (rustDecodeFrame malformedFrame decodeEnvelope t bytes).Safe bytes.length := by
  have hsum : t.addUsize 4 (Bytes.ofBE (bytes.take 4)) = some (4 + declaredLen bytes) :=
    Machine.addUsize_of_lt hfits
  unfold rustDecodeFrame
  rw [if_neg (by omega), safe_head h4 le_rfl rfl]
  dsimp only
  rw [hsum, safe_some_bind]
  split
  · exact safe_pure _
  next hlen =>
    rw [safe_some_bind, safe_slice_bind le_rfl (by omega) (by omega) (by omega)]
    split
    · exact safe_pure _
    · rw [safe_some_bind, safe_slice_bind le_rfl (by omega) (by omega) (by omega)]
      exact safe_pure _

/-- A sum that overflows panics, or is below 4 and ends the first slice before its start. -/
theorem rustDecodeFrame_not_safe (h4 : 4 ≤ bytes.length)
    (hover : 2 ^ t.bits ≤ 4 + declaredLen bytes) :
    ¬ (rustDecodeFrame malformedFrame decodeEnvelope t bytes).Safe bytes.length := by
  intro h
  have hword : 4 < 2 ^ t.bits := by
    calc 4 < 2 ^ 32 := by decide
      _ ≤ 2 ^ t.bits := Nat.pow_le_pow_right (by decide) t.le_bits
  unfold rustDecodeFrame at h
  rw [if_neg (by omega), safe_head h4 le_rfl rfl] at h
  dsimp only at h
  cases hsum : t.addUsize 4 (Bytes.ofBE (bytes.take 4)) with
  | none =>
    rw [hsum] at h
    exact absurd (safe_ofOption.mp (safe_bind.mp h).1) Bool.false_ne_true
  | some sum =>
    have hlt := (Machine.lt_of_addUsize hword (declaredLen_lt t bytes) hover hsum).1
    rw [hsum, safe_some_bind, if_neg (by omega), safe_some_bind] at h
    have hbounds := (safe_slice le_rfl).mp (safe_bind.mp h).1
    omega

theorem rustDecodeFrame_safe_iff :
    (rustDecodeFrame malformedFrame decodeEnvelope t bytes).Safe bytes.length ↔
      bytes.length < 4 ∨ 4 + declaredLen bytes < 2 ^ t.bits := by
  by_cases h4 : bytes.length < 4
  · refine iff_of_true ?_ (Or.inl h4)
    unfold rustDecodeFrame
    rw [if_pos h4]
    exact safe_pure _
  · constructor
    · intro h
      right
      by_contra hover
      exact rustDecodeFrame_not_safe (by omega) (by omega) h
    · rintro (h | hfits)
      · exact absurd h h4
      · exact rustDecodeFrame_safe (by omega) hfits

/-- A decoder whose sum fits returns what it would return in unbounded arithmetic. -/
theorem rustDecodeFrame_value
    (h : bytes.length < 4 ∨ 4 + declaredLen bytes < 2 ^ t.bits) :
    (rustDecodeFrame malformedFrame decodeEnvelope t bytes).value =
      some (if bytes.length < 4 then
          .error (malformedFrame "frame too short for envelope length")
        else if bytes.length < 4 + declaredLen bytes then
          .error (malformedFrame "frame shorter than declared envelope length")
        else do
          let envelope ← decodeEnvelope ((bytes.drop 4).take (declaredLen bytes))
          .ok ⟨envelope, bytes.drop (4 + declaredLen bytes)⟩) := by
  unfold rustDecodeFrame
  by_cases h4 : bytes.length < 4
  · rw [if_pos h4, if_pos h4]
    rfl
  have hfits := h.resolve_left h4
  have hsum : t.addUsize 4 (Bytes.ofBE (bytes.take 4)) = some (4 + declaredLen bytes) :=
    Machine.addUsize_of_lt hfits
  rw [if_neg h4, if_neg h4, value_head (by omega) rfl]
  dsimp only
  rw [hsum, value_bind_of_eq (value_ofOption _)]
  split_ifs with hlen
  · rfl
  · have hcut : ((4 + declaredLen bytes : Nat) - 4 : Int).toNat = declaredLen bytes := by omega
    have hfour : (4 : Int).toNat = 4 := rfl
    have htail : ((bytes.length : Int) - (4 + declaredLen bytes : Nat)).toNat =
        bytes.length - (4 + declaredLen bytes) := by omega
    rw [value_bind_of_eq (value_ofOption _),
      value_bind_of_eq (value_slice (by omega) (by omega) (by omega)), hcut, hfour]
    cases decodeEnvelope ((bytes.drop 4).take (declaredLen bytes)) with
    | error err => rfl
    | ok envelope =>
      dsimp only
      rw [value_bind_of_eq (value_ofOption _),
        value_bind_of_eq (value_slice (by omega) (by omega) (by omega)), htail, Int.toNat_natCast,
        take_rest]
      rfl

end Rust

/-! ### Go -/

section Go

variable {m : Msgpack} {spare data : Bytes} {t : Machine}

theorem take_four_append (h : 4 ≤ data.length) : (data ++ spare).take 4 = data.take 4 :=
  List.take_append_of_le_length h

/-- A length that is negative as an `int` is refused. -/
theorem goDecodeFrame_safe_of_neg (h4 : 4 ≤ data.length)
    (hneg : 2 ^ (t.bits - 1) ≤ declaredLen data) :
    (Go.decodeFrameOn m spare t data).Safe data.length := by
  have hlength : data.length ≤ (data ++ spare).length := by simp
  have hlt : t.toInt (Bytes.ofBE (data.take 4)) < 0 :=
    Machine.toInt_neg hneg (declaredLen_lt t data)
  unfold Go.decodeFrameOn
  rw [if_neg (by omega), safe_head h4 hlength (take_four_append h4)]
  dsimp only
  rw [if_pos hlt]
  exact safe_pure _

/-- A sum that fits is the bound of both slices. -/
theorem goDecodeFrame_safe_of_fits (h4 : 4 ≤ data.length)
    (hfits : 4 + declaredLen data < 2 ^ (t.bits - 1)) :
    (Go.decodeFrameOn m spare t data).Safe data.length := by
  have hlength : data.length ≤ (data ++ spare).length := by simp
  have hint : t.toInt (Bytes.ofBE (data.take 4)) = declaredLen data :=
    Machine.toInt_of_lt (Nat.lt_of_le_of_lt (Nat.le_add_left _ 4) hfits)
  have hsum : t.addInt 4 (declaredLen data) = some ((4 + declaredLen data : Nat) : Int) :=
    Machine.addInt_of_lt hfits
  unfold Go.decodeFrameOn
  rw [if_neg (by omega), safe_head h4 hlength (take_four_append h4)]
  dsimp only
  rw [hint, if_neg (by omega), hsum, safe_some_bind]
  split
  · exact safe_pure _
  · rw [safe_some_bind, safe_slice_bind hlength (by omega) (by omega) (by omega)]
    split
    · exact safe_pure _
    · rw [safe_some_bind, safe_slice_bind hlength (by omega) (by omega) (by omega)]
      exact safe_pure _

/-- A sum that overflows panics, or is negative and ends the first slice before the string. -/
theorem goDecodeFrame_not_safe (h4 : 4 ≤ data.length)
    (hlt : declaredLen data < 2 ^ (t.bits - 1))
    (hover : 2 ^ (t.bits - 1) ≤ 4 + declaredLen data) :
    ¬ (Go.decodeFrameOn m spare t data).Safe data.length := by
  intro h
  have hlength : data.length ≤ (data ++ spare).length := by simp
  have hword : 4 < 2 ^ (t.bits - 1) := by
    have hbits := t.le_bits
    calc 4 < 2 ^ 31 := by decide
      _ ≤ 2 ^ (t.bits - 1) := Nat.pow_le_pow_right (by decide) (by omega)
  have hint : t.toInt (Bytes.ofBE (data.take 4)) = declaredLen data := Machine.toInt_of_lt hlt
  unfold Go.decodeFrameOn at h
  rw [if_neg (by omega), safe_head h4 hlength (take_four_append h4)] at h
  dsimp only at h
  rw [hint, if_neg (by omega)] at h
  cases hsum : t.addInt 4 (declaredLen data) with
  | none =>
    rw [hsum] at h
    exact absurd (safe_ofOption.mp (safe_bind.mp h).1) Bool.false_ne_true
  | some sum =>
    have hneg : sum < 0 := Machine.neg_of_addInt (a := 4) hword hlt hover hsum
    rw [hsum, safe_some_bind, if_neg (by omega), safe_some_bind] at h
    have hbounds := (safe_slice hlength).mp (safe_bind.mp h).1
    omega

theorem goDecodeFrame_safe_iff :
    (Go.decodeFrameOn m spare t data).Safe data.length ↔
      data.length < 4 ∨ 2 ^ (t.bits - 1) ≤ declaredLen data ∨
        4 + declaredLen data < 2 ^ (t.bits - 1) := by
  by_cases h4 : data.length < 4
  · refine iff_of_true ?_ (Or.inl h4)
    unfold Go.decodeFrameOn
    rw [if_pos h4]
    exact safe_pure _
  · constructor
    · intro h
      right
      by_contra hover
      exact goDecodeFrame_not_safe (by omega) (by omega) (by omega) h
    · rintro (h | hneg | hfits)
      · exact absurd h h4
      · exact goDecodeFrame_safe_of_neg (by omega) hneg
      · exact goDecodeFrame_safe_of_fits (by omega) hfits

/-- A decoder whose sum fits returns what it returns on 64-bit machines. -/
theorem goDecodeFrame_value
    (h : data.length < 4 ∨ 4 + declaredLen data < 2 ^ (t.bits - 1)) :
    (Go.decodeFrameOn m spare t data).value = some (Go.decodeFrame m data) := by
  unfold Go.decodeFrameOn Go.decodeFrame
  by_cases h4 : data.length < 4
  · rw [if_pos h4, if_pos h4]
    rfl
  have hlength : (data ++ spare).length = data.length + spare.length := List.length_append
  have hfits := h.resolve_left h4
  have hint : t.toInt (Bytes.ofBE (data.take 4)) = declaredLen data :=
    Machine.toInt_of_lt (Nat.lt_of_le_of_lt (Nat.le_add_left _ 4) hfits)
  have hsum : t.addInt 4 (declaredLen data) = some ((4 + declaredLen data : Nat) : Int) :=
    Machine.addInt_of_lt hfits
  have hread : (Bytes.ofBE (data.take 4) : Int) = declaredLen data := rfl
  rw [if_neg h4, if_neg h4, value_head (by omega) (take_four_append (by omega))]
  dsimp only
  rw [hint, hread, if_neg (by omega), if_neg (by omega), hsum,
    value_bind_of_eq (value_ofOption _), Nat.cast_add, Nat.cast_ofNat]
  split_ifs with hlen
  · rfl
  · have hfour : (4 : Int).toNat = 4 := rfl
    have hcut : ((4 + declaredLen data : Int) - 4).toNat = declaredLen data := by omega
    have hlow : (4 + declaredLen data : Int).toNat = 4 + declaredLen data := by omega
    have htail : ((data.length : Int) - (4 + declaredLen data)).toNat =
        data.length - (4 + declaredLen data) := by omega
    rw [value_bind_of_eq (value_ofOption _),
      value_bind_of_eq (value_slice_append (by omega) (by omega) (by omega)), hcut, hfour,
      Int.toNat_natCast]
    cases Go.decodeEnvelope m ((data.drop 4).take (declaredLen data)) with
    | error err => rfl
    | ok envelope =>
      dsimp only
      rw [value_bind_of_eq (value_ofOption _),
        value_bind_of_eq (value_slice_append (by omega) (by omega) (by omega)), htail, hlow,
        take_rest]
      rfl

end Go

/-! ### The decoders -/

section Decoders

variable (t : Machine) (r : RmpSerde) (m : Msgpack) (spare bytes : Bytes)

/-- On a machine with 64-bit words every slice is within the frame, and the decoders are those of
unbounded arithmetic. -/
theorem decodeFrameOn_of_bits64 (hword : t.word = .bits64) :
    ((Router.decodeFrameOn r t bytes).Safe bytes.length ∧
      (Router.decodeFrameOn r t bytes).value = some (Router.decodeFrame r bytes)) ∧
    ((Rust.decodeFrameOn r t bytes).Safe bytes.length ∧
      (Rust.decodeFrameOn r t bytes).value = some (Rust.decodeFrame r bytes)) ∧
    ((Go.decodeFrameOn m spare t bytes).Safe bytes.length ∧
      (Go.decodeFrameOn m spare t bytes).value = some (Go.decodeFrame m bytes)) := by
  have hbits : t.bits = 64 := by
    unfold Machine.bits
    rw [hword]
  have hlen : declaredLen bytes < 2 ^ 32 := declaredLen_lt ⟨.bits32, t.overflow⟩ bytes
  have hfits : 4 + declaredLen bytes < 2 ^ t.bits := by
    rw [hbits]
    omega
  have hfitsInt : 4 + declaredLen bytes < 2 ^ (t.bits - 1) := by
    rw [hbits]
    omega
  refine ⟨⟨?_, ?_⟩, ⟨?_, ?_⟩, ⟨?_, ?_⟩⟩
  · exact rustDecodeFrame_safe_iff.mpr (Or.inr hfits)
  · exact rustDecodeFrame_value (Or.inr hfits)
  · exact rustDecodeFrame_safe_iff.mpr (Or.inr hfits)
  · exact rustDecodeFrame_value (Or.inr hfits)
  · exact goDecodeFrame_safe_iff.mpr (Or.inr (Or.inr hfitsInt))
  · exact goDecodeFrame_value (Or.inr hfitsInt)

/-- **When the decoders keep to the frame.**  In Rust the sum of the prefix and its length must fit
in an unsigned word.  In Go it must fit in a signed one, unless the length itself does not: then it
is negative and refused. -/
theorem decodeFrameOn_safe_iff :
    ((Router.decodeFrameOn r t bytes).Safe bytes.length ↔
      bytes.length < 4 ∨ 4 + declaredLen bytes < 2 ^ t.bits) ∧
    ((Rust.decodeFrameOn r t bytes).Safe bytes.length ↔
      bytes.length < 4 ∨ 4 + declaredLen bytes < 2 ^ t.bits) ∧
    ((Go.decodeFrameOn m spare t bytes).Safe bytes.length ↔
      bytes.length < 4 ∨ 2 ^ (t.bits - 1) ≤ declaredLen bytes ∨
        4 + declaredLen bytes < 2 ^ (t.bits - 1)) :=
  ⟨rustDecodeFrame_safe_iff, rustDecodeFrame_safe_iff, goDecodeFrame_safe_iff⟩

end Decoders

/-- On a machine with 32-bit words, a frame of its prefix alone takes the slice from 4 to 0 in
Rust, and the slice from 4 to `-2 ^ 31` in Go. -/
theorem decodeFrameOn_not_safe :
    ¬ (Router.decodeFrameOn Router.msgPackSerde ⟨.bits32, .wrapping⟩
        [0xFF, 0xFF, 0xFF, 0xFC]).Safe 4 ∧
    ¬ (Router.decodeFrameOn Router.msgPackSerde ⟨.bits32, .checked⟩
        [0xFF, 0xFF, 0xFF, 0xFC]).Safe 4 ∧
    ¬ (Rust.decodeFrameOn Router.msgPackSerde ⟨.bits32, .wrapping⟩
        [0xFF, 0xFF, 0xFF, 0xFC]).Safe 4 ∧
    ¬ (Rust.decodeFrameOn Router.msgPackSerde ⟨.bits32, .checked⟩
        [0xFF, 0xFF, 0xFF, 0xFC]).Safe 4 ∧
    ¬ (Go.decodeFrameOn
        ⟨Router.msgPackSerde.envelopeFromSlice, Router.msgPackSerde.envelopeToVecNamed⟩ []
        ⟨.bits32, .wrapping⟩ [0x7F, 0xFF, 0xFF, 0xFC]).Safe 4 := by
  decide

end Multifrost
