import Multifrost.Bindings.Frame
import Multifrost.Router.Sample
import Multifrost.Rust.Message

/-!
# All frame codecs split alike

The router and the five bindings each have a frame codec of their own.  `splitFrame` is what they
have in common: the four bytes of the prefix, the envelope of the length they give, and the rest.
It inverts the concatenation of the parts (`splitFrame_eq_some`).

Every decoder hands the first part of `splitFrame` to its envelope decoder and returns the second
one unchanged, whatever its msgpack library makes of the envelope; the equations are the lemmas
`splits` of the codecs.  JavaScript alone refuses an empty envelope itself, where the others leave
that to their library.
-/

namespace Multifrost.Bindings

open Router (Envelope FrameParts RmpSerde)

/-! ### The parts of a frame -/

/-- The envelope and the body of a frame; `none` when the string ends before the envelope does. -/
def splitFrame (bytes : Bytes) : Option (Bytes × Bytes) :=
  if bytes.length < 4 then none
  else if bytes.length < 4 + Bytes.ofBE (bytes.take 4) then none
  else some ((bytes.drop 4).take (Bytes.ofBE (bytes.take 4)),
    bytes.drop (4 + Bytes.ofBE (bytes.take 4)))

/-- The parts of a string make it up, with the length of the first as its prefix. -/
theorem splitFrame_eq_some {bytes envelopeBytes bodyBytes : Bytes} :
    splitFrame bytes = some (envelopeBytes, bodyBytes) ↔
      envelopeBytes.length < 2 ^ 32 ∧
        bytes = Bytes.toBE 4 envelopeBytes.length ++ envelopeBytes ++ bodyBytes := by
  constructor
  · intro h
    unfold splitFrame at h
    split_ifs at h with hshort hlen
    simp only [Option.some.injEq, Prod.mk.injEq] at h
    obtain ⟨henvelope, hbody⟩ := h
    -- the prefix has four bytes, and its number is the length of the envelope that is cut off
    have hfour : (bytes.take 4).length = 4 := by
      rw [List.length_take]
      omega
    have hlt : Bytes.ofBE (bytes.take 4) < 256 ^ (bytes.take 4).length := Bytes.ofBE_lt _
    have hlength : envelopeBytes.length = Bytes.ofBE (bytes.take 4) := by
      rw [← henvelope, List.length_take, List.length_drop]
      omega
    have hhead : Bytes.toBE 4 envelopeBytes.length = bytes.take 4 := by
      have hround := Bytes.toBE_ofBE (bytes.take 4)
      rw [hfour] at hround
      rw [hlength, hround]
    refine ⟨?_, ?_⟩
    · rw [hlength]
      rw [hfour] at hlt
      exact hlt
    · rw [hhead, ← henvelope, ← hbody, List.append_assoc, ← List.drop_drop,
        List.take_append_drop, List.take_append_drop]
  · rintro ⟨hlt, rfl⟩
    -- each cut ends where the parts meet
    have hfour : (Bytes.toBE 4 envelopeBytes.length).length = 4 := Bytes.length_toBE _ _
    have hhead : (Bytes.toBE 4 envelopeBytes.length ++ envelopeBytes ++ bodyBytes).take 4 =
        Bytes.toBE 4 envelopeBytes.length := by
      rw [List.append_assoc]
      exact List.take_left' hfour
    have hrest : (Bytes.toBE 4 envelopeBytes.length ++ envelopeBytes ++ bodyBytes).drop 4 =
        envelopeBytes ++ bodyBytes := by
      rw [List.append_assoc]
      exact List.drop_left' hfour
    have hread : Bytes.ofBE (Bytes.toBE 4 envelopeBytes.length) = envelopeBytes.length := by
      rw [Bytes.ofBE_toBE]
      exact Nat.mod_eq_of_lt hlt
    have hlength : (Bytes.toBE 4 envelopeBytes.length ++ envelopeBytes ++ bodyBytes).length =
        4 + envelopeBytes.length + bodyBytes.length := by
      rw [List.length_append, List.length_append, hfour]
    unfold splitFrame
    rw [hhead, hread, ← List.drop_drop, hrest, List.take_left, List.drop_left, hlength]
    have hshort : ¬ 4 + envelopeBytes.length + bodyBytes.length < 4 := by omega
    have hlen : ¬ 4 + envelopeBytes.length + bodyBytes.length < 4 + envelopeBytes.length := by
      omega
    rw [if_neg hshort, if_neg hlen]

/-- There are no parts exactly when the string ends before the envelope does. -/
theorem splitFrame_eq_none {bytes : Bytes} :
    splitFrame bytes = none ↔
      bytes.length < 4 ∨ bytes.length < 4 + Bytes.ofBE (bytes.take 4) := by
  unfold splitFrame
  split_ifs with hshort hlen <;> simp [*]

/-! ### Codecs -/

/-- A frame decoder and the envelope decoder it calls, up to the errors. -/
structure FrameDecoder where
  decodeEnvelope : Bytes → Option Envelope
  decodeFrame : Bytes → Option FrameParts

/-- A frame encoder and the envelope encoder it calls. -/
structure FrameEncoder where
  encodeEnvelope : Envelope → Option Bytes
  encodeFrame : Envelope → Bytes → Option Bytes

/-- The decoder hands the first part of a frame to its envelope decoder and returns the second. -/
def FrameDecoder.Splits (d : FrameDecoder) (bytes : Bytes) : Prop :=
  d.decodeFrame bytes = (splitFrame bytes).bind fun p =>
    (d.decodeEnvelope p.1).map fun envelope => ⟨envelope, p.2⟩

/-- A last step that cannot fail leaves the error as it is. -/
theorem toOption_bind_ok {ε α β : Type} (x : Except ε α) (f : α → β) :
    (x >>= fun a => Except.ok (f a)).toOption = x.toOption.map f := by
  cases x <;> rfl

theorem toOption_bind_eq_none {ε α β : Type} {x : Except ε α} (f : α → Except ε β)
    (hx : x.toOption = none) : (x >>= f).toOption = none := by
  cases x with
  | error e => rfl
  | ok a => cases hx

theorem toOption_eq_some {ε α : Type} {x : Except ε α} {a : α} :
    x.toOption = some a ↔ x = .ok a := by
  cases x <;> simp [Except.toOption]

theorem exists_of_toOption_bind {ε α β : Type} {x : Except ε α} {f : α → Except ε β} {b : β}
    (h : (x >>= f).toOption = some b) : ∃ a, x = .ok a ∧ f a = .ok b := by
  cases x with
  | error e => cases h
  | ok a => exact ⟨a, rfl, toOption_eq_some.mp h⟩

theorem toOption_mapError {ε ε' α : Type} (x : Except ε α) (f : ε → ε') :
    (x.mapError f).toOption = x.toOption := by
  cases x <;> rfl

variable (r : RmpSerde) (m : Msgpack)

def routerDecoder : FrameDecoder :=
  ⟨fun bytes => (Router.decodeEnvelope r bytes).toOption,
    fun bytes => (Router.decodeFrame r bytes).toOption⟩

def rustDecoder : FrameDecoder :=
  ⟨fun bytes => (Rust.decodeEnvelope r bytes).toOption,
    fun bytes => (Rust.decodeFrame r bytes).toOption⟩

def goDecoder : FrameDecoder :=
  ⟨fun data => (Go.decodeEnvelope m data).toOption, fun data => (Go.decodeFrame m data).toOption⟩

def javaScriptDecoder : FrameDecoder :=
  ⟨fun bytes => (JavaScript.decodeEnvelope m bytes).toOption,
    fun data => (JavaScript.toFrame m data).toOption⟩

def phpDecoder : FrameDecoder :=
  ⟨fun data => (Php.decodeEnvelope m data).toOption,
    fun data => (Php.decodeFrame m data).toOption⟩

def pythonDecoder : FrameDecoder :=
  ⟨fun data => (Python.decodeEnvelope m data).toOption,
    fun data => (Python.decodeFrame m data).toOption⟩

def routerEncoder : FrameEncoder :=
  ⟨fun envelope => (Router.encodeEnvelope r envelope).toOption,
    fun envelope body => (Router.encodeFrame r envelope body).toOption⟩

def rustEncoder : FrameEncoder :=
  ⟨fun envelope => (Rust.encodeEnvelope r envelope).toOption,
    fun envelope body => (Rust.encodeFrame r envelope body).toOption⟩

def goEncoder : FrameEncoder :=
  ⟨fun envelope => (Go.encodeEnvelope m envelope).toOption,
    fun envelope body => (Go.encodeFrame m envelope body).toOption⟩

def javaScriptEncoder : FrameEncoder :=
  ⟨fun envelope => (JavaScript.encodeEnvelope m envelope).toOption,
    fun envelope body => (JavaScript.encodeFrame m envelope body).toOption⟩

def phpEncoder : FrameEncoder :=
  ⟨fun envelope => (m.pack envelope).toOption,
    fun envelope body => (Php.encodeFrame m envelope body).toOption⟩

def pythonEncoder : FrameEncoder :=
  ⟨fun envelope => (Python.encodeEnvelope m envelope).toOption,
    fun envelope body => (Python.encodeFrame m envelope body).toOption⟩

/-! ### Every decoder splits -/

/-- The two length tests and the cut, as all decoders have them. -/
private theorem toOption_cut {ε : Type} (decode : Bytes → Except ε Envelope) (short long : ε)
    (bytes : Bytes) :
    (if bytes.length < 4 then .error short
      else if bytes.length < 4 + Bytes.ofBE (bytes.take 4) then .error long
      else do
        let envelope ← decode ((bytes.drop 4).take (Bytes.ofBE (bytes.take 4)))
        .ok ⟨envelope, bytes.drop (4 + Bytes.ofBE (bytes.take 4))⟩ :
      Except ε FrameParts).toOption =
    (splitFrame bytes).bind fun p =>
      (decode p.1).toOption.map fun envelope => ⟨envelope, p.2⟩ := by
  unfold splitFrame
  split_ifs with hshort hlen
  · rfl
  · rfl
  · exact toOption_bind_ok _ _

theorem routerDecoder_splits (bytes : Bytes) : (routerDecoder r).Splits bytes :=
  toOption_cut (Router.decodeEnvelope r) _ _ bytes

theorem rustDecoder_splits (bytes : Bytes) : (rustDecoder r).Splits bytes :=
  toOption_cut (Rust.decodeEnvelope r) _ _ bytes

theorem pythonDecoder_splits (bytes : Bytes) : (pythonDecoder m).Splits bytes :=
  toOption_cut (Python.decodeEnvelope m) _ _ bytes

/-- The length as an integer of 64 bits, which is never negative. -/
private theorem toOption_cut_int {ε : Type} (decode : Bytes → Except ε Envelope)
    (short negative long : ε) (bytes : Bytes) :
    (if bytes.length < 4 then .error short
      else
        let envelopeLen : Int := Bytes.ofBE (bytes.take 4)
        if envelopeLen < 0 then .error negative
        else if (bytes.length : Int) < 4 + envelopeLen then .error long
        else do
          let envelope ← decode ((bytes.drop 4).take envelopeLen.toNat)
          .ok ⟨envelope, bytes.drop (4 + envelopeLen.toNat)⟩ :
      Except ε FrameParts).toOption =
    (splitFrame bytes).bind fun p =>
      (decode p.1).toOption.map fun envelope => ⟨envelope, p.2⟩ := by
  have hsign : ¬ (Bytes.ofBE (bytes.take 4) : Int) < 0 := by omega
  have hlen : (bytes.length : Int) < 4 + (Bytes.ofBE (bytes.take 4) : Int) ↔
      bytes.length < 4 + Bytes.ofBE (bytes.take 4) := by omega
  simp only [hsign, hlen, if_false, Int.toNat_natCast]
  exact toOption_cut decode short long bytes

theorem goDecoder_splits (bytes : Bytes) : (goDecoder m).Splits bytes :=
  toOption_cut_int (Go.decodeEnvelope m) _ _ _ bytes

theorem phpDecoder_splits (bytes : Bytes) : (phpDecoder m).Splits bytes :=
  toOption_cut_int (Php.decodeEnvelope m) _ _ _ bytes

/-- JavaScript refuses an empty envelope before it looks at the length of the frame. -/
theorem javaScriptDecoder_eq_none {bytes : Bytes} (h : Bytes.ofBE (bytes.take 4) = 0) :
    (javaScriptDecoder m).decodeFrame bytes = none := by
  show (JavaScript.toFrame m bytes).toOption = none
  unfold JavaScript.toFrame JavaScript.decodeFrame JavaScript.readEnvelopeLength
  dsimp only
  rw [h, if_pos (Nat.le_refl 0)]
  split_ifs <;> rfl

theorem javaScriptDecoder_splits {bytes : Bytes} (h : Bytes.ofBE (bytes.take 4) ≠ 0) :
    (javaScriptDecoder m).Splits bytes := by
  have hpos : ¬ Bytes.ofBE (bytes.take 4) ≤ 0 := by omega
  show (JavaScript.toFrame m bytes).toOption = _
  unfold JavaScript.toFrame JavaScript.decodeFrame JavaScript.readEnvelopeLength splitFrame
  dsimp only
  split_ifs with hshort hlen
  · rfl
  · simp only [bind, Except.bind, if_pos hlen]
    rfl
  · simp only [bind, Except.bind, if_neg hlen]
    exact toOption_bind_ok _ _

/-! ### Every encoder concatenates -/

/-- An encoder puts the length of the envelope, the envelope and the body together. -/
def FrameEncoder.Concatenates (enc : FrameEncoder) : Prop :=
  ∀ envelope bodyBytes envelopeBytes, enc.encodeEnvelope envelope = some envelopeBytes →
    envelopeBytes.length < 2 ^ 32 →
    enc.encodeFrame envelope bodyBytes =
      some (Bytes.toBE 4 envelopeBytes.length ++ envelopeBytes ++ bodyBytes)

/-- An encoder whose prefix wraps at `2 ^ 32` writes the length as it is below. -/
private theorem encode_of_wrap {ε : Type} {x : Except ε Bytes} {envelopeBytes : Bytes}
    (hx : x = .ok envelopeBytes) (hlt : envelopeBytes.length < 2 ^ 32) (bodyBytes : Bytes) :
    (do
      let envelopeBytes ← x
      .ok (Bytes.toBE 4 (envelopeBytes.length % 2 ^ 32) ++ envelopeBytes ++ bodyBytes) :
      Except ε Bytes).toOption =
    some (Bytes.toBE 4 envelopeBytes.length ++ envelopeBytes ++ bodyBytes) := by
  rw [hx, toOption_bind_ok]
  show some (Bytes.toBE 4 (envelopeBytes.length % 2 ^ 32) ++ envelopeBytes ++ bodyBytes) = _
  rw [Nat.mod_eq_of_lt hlt]

theorem routerEncoder_concatenates : (routerEncoder r).Concatenates :=
  fun _ bodyBytes _ he hlt => encode_of_wrap (toOption_eq_some.mp he) hlt bodyBytes

theorem rustEncoder_concatenates : (rustEncoder r).Concatenates :=
  fun _ bodyBytes _ he hlt => encode_of_wrap (toOption_eq_some.mp he) hlt bodyBytes

theorem goEncoder_concatenates : (goEncoder m).Concatenates :=
  fun _ bodyBytes _ he hlt => encode_of_wrap (toOption_eq_some.mp he) hlt bodyBytes

theorem phpEncoder_concatenates : (phpEncoder m).Concatenates :=
  fun _ bodyBytes _ he hlt => encode_of_wrap (toOption_eq_some.mp he) hlt bodyBytes

theorem javaScriptEncoder_concatenates : (javaScriptEncoder m).Concatenates := by
  intro envelope bodyBytes envelopeBytes he hlt
  have hok : JavaScript.encodeEnvelope m envelope = .ok envelopeBytes := toOption_eq_some.mp he
  have hfits : ¬ 2 ^ 32 ≤ envelopeBytes.length := by omega
  show (JavaScript.encodeFrame m envelope bodyBytes).toOption = _
  unfold JavaScript.encodeFrame
  rw [hok]
  show (if 2 ^ 32 ≤ envelopeBytes.length then _ else _ : Except String Bytes).toOption = _
  rw [if_neg hfits]
  rfl

theorem pythonEncoder_concatenates : (pythonEncoder m).Concatenates := by
  intro envelope bodyBytes envelopeBytes he hlt
  have hok : Python.encodeEnvelope m envelope = .ok envelopeBytes := toOption_eq_some.mp he
  have hfits : ¬ envelopeBytes.length > 0xFFFFFFFF := by omega
  show (Python.encodeFrame m envelope bodyBytes).toOption = _
  unfold Python.encodeFrame
  rw [hok]
  show (if envelopeBytes.length > 0xFFFFFFFF then _ else _ : Except String Bytes).toOption = _
  rw [if_neg hfits]
  rfl

/-! ### All together -/

/-- The entry points of `rmp_serde` at the envelope. -/
def rmpMsgpack (r : RmpSerde) : Msgpack := ⟨r.envelopeFromSlice, r.envelopeToVecNamed⟩

/-- What the codecs rely on: the empty string is no document, and no document is empty. -/
structure Msgpack.Lawful (m : Msgpack) : Prop where
  unpack_nil : ∃ e, m.unpack [] = .error e
  pack_ne_nil : ∀ envelope bytes, m.pack envelope = .ok bytes → bytes ≠ []

theorem Msgpack.Lawful.toOption_unpack_nil {m : Msgpack} (h : Msgpack.Lawful m) :
    (m.unpack []).toOption = none := by
  obtain ⟨e, he⟩ := h.unpack_nil
  rw [he]
  rfl

/-- The msgpack libraries of the router and of the bindings. -/
structure Libraries where
  router : RmpSerde
  rust : RmpSerde
  go : Msgpack
  javaScript : Msgpack
  php : Msgpack
  python : Msgpack

structure Libraries.Lawful (l : Libraries) : Prop where
  router : Msgpack.Lawful (rmpMsgpack l.router)
  rust : Msgpack.Lawful (rmpMsgpack l.rust)
  go : Msgpack.Lawful l.go
  javaScript : Msgpack.Lawful l.javaScript
  php : Msgpack.Lawful l.php
  python : Msgpack.Lawful l.python

def decoders (l : Libraries) : List FrameDecoder :=
  [routerDecoder l.router, rustDecoder l.rust, pythonDecoder l.python,
    javaScriptDecoder l.javaScript, goDecoder l.go, phpDecoder l.php]

def encoders (l : Libraries) : List FrameEncoder :=
  [routerEncoder l.router, rustEncoder l.rust, pythonEncoder l.python,
    javaScriptEncoder l.javaScript, goEncoder l.go, phpEncoder l.php]

/-- Every decoder splits, except that JavaScript rejects an empty envelope. -/
theorem splits_or_of_mem {l : Libraries} {d : FrameDecoder} (hd : d ∈ decoders l)
    (bytes : Bytes) :
    d.Splits bytes ∨ Bytes.ofBE (bytes.take 4) = 0 ∧ d.decodeFrame bytes = none := by
  simp only [decoders, List.mem_cons, List.not_mem_nil, or_false] at hd
  rcases hd with rfl | rfl | rfl | rfl | rfl | rfl
  · exact Or.inl (routerDecoder_splits _ _)
  · exact Or.inl (rustDecoder_splits _ _)
  · exact Or.inl (pythonDecoder_splits _ _)
  · by_cases h : Bytes.ofBE (bytes.take 4) = 0
    · exact Or.inr ⟨h, javaScriptDecoder_eq_none _ h⟩
    · exact Or.inl (javaScriptDecoder_splits _ h)
  · exact Or.inl (goDecoder_splits _ _)
  · exact Or.inl (phpDecoder_splits _ _)

/-- No envelope decoder takes the empty string for an envelope. -/
theorem decodeEnvelope_nil {l : Libraries} (hl : l.Lawful) {d : FrameDecoder}
    (hd : d ∈ decoders l) : d.decodeEnvelope [] = none := by
  simp only [decoders, List.mem_cons, List.not_mem_nil, or_false] at hd
  rcases hd with rfl | rfl | rfl | rfl | rfl | rfl <;> refine toOption_bind_eq_none _ ?_
  · exact (toOption_mapError _ _).trans hl.router.toOption_unpack_nil
  · exact (toOption_mapError _ _).trans hl.rust.toOption_unpack_nil
  · exact toOption_bind_eq_none _ ((toOption_mapError _ _).trans hl.python.toOption_unpack_nil)
  · exact hl.javaScript.toOption_unpack_nil
  · exact (toOption_mapError _ _).trans hl.go.toOption_unpack_nil
  · exact hl.php.toOption_unpack_nil

theorem concatenates_of_mem {l : Libraries} {enc : FrameEncoder} (h : enc ∈ encoders l) :
    enc.Concatenates := by
  simp only [encoders, List.mem_cons, List.not_mem_nil, or_false] at h
  rcases h with rfl | rfl | rfl | rfl | rfl | rfl
  · exact routerEncoder_concatenates _
  · exact rustEncoder_concatenates _
  · exact pythonEncoder_concatenates _
  · exact javaScriptEncoder_concatenates _
  · exact goEncoder_concatenates _
  · exact phpEncoder_concatenates _

/-- A string that ends before its envelope is rejected by all, whatever their libraries do. -/
theorem decodeFrame_of_short {l : Libraries} {d : FrameDecoder} (hd : d ∈ decoders l)
    {bytes : Bytes} (h : splitFrame bytes = none) : d.decodeFrame bytes = none := by
  rcases splits_or_of_mem hd bytes with hsplits | ⟨-, hnone⟩
  · rw [hsplits, h]
    rfl
  · exact hnone

/-- A string that declares an empty envelope is rejected by all. -/
theorem decodeFrame_of_empty {l : Libraries} (hl : l.Lawful) {d : FrameDecoder}
    (hd : d ∈ decoders l) {bytes bodyBytes : Bytes}
    (h : splitFrame bytes = some ([], bodyBytes)) : d.decodeFrame bytes = none := by
  rcases splits_or_of_mem hd bytes with hsplits | ⟨-, hnone⟩
  · rw [hsplits, h]
    show (d.decodeEnvelope []).map _ = none
    rw [decodeEnvelope_nil hl hd]
    rfl
  · exact hnone

/-- A string with an envelope is split by all. -/
theorem decodeFrame_of_parts {l : Libraries} {d : FrameDecoder} (hd : d ∈ decoders l)
    {bytes envelopeBytes bodyBytes : Bytes} (hne : envelopeBytes ≠ [])
    (h : splitFrame bytes = some (envelopeBytes, bodyBytes)) :
    d.decodeFrame bytes =
      (d.decodeEnvelope envelopeBytes).map fun envelope => ⟨envelope, bodyBytes⟩ := by
  -- with an envelope the prefix is not zero, so that JavaScript splits too
  have hhead : Bytes.ofBE (bytes.take 4) ≠ 0 := by
    intro hzero
    unfold splitFrame at h
    split_ifs at h
    rw [hzero, List.take_zero] at h
    exact hne (congrArg Prod.fst (Option.some.inj h)).symm
  rcases splits_or_of_mem hd bytes with hsplits | ⟨hzero, -⟩
  · rw [hsplits, h]
    rfl
  · exact absurd hzero hhead

/-- The envelopes that are written are not empty. -/
theorem encodeEnvelope_ne_nil {l : Libraries} (hl : l.Lawful) {enc : FrameEncoder}
    (h : enc ∈ encoders l) {envelope : Envelope} {envelopeBytes : Bytes}
    (he : enc.encodeEnvelope envelope = some envelopeBytes) : envelopeBytes ≠ [] := by
  simp only [encoders, List.mem_cons, List.not_mem_nil, or_false] at h
  rcases h with rfl | rfl | rfl | rfl | rfl | rfl
  · have hpack := (toOption_mapError _ _).symm.trans he
    exact hl.router.pack_ne_nil _ _ (toOption_eq_some.mp hpack)
  · have hpack := (toOption_mapError _ _).symm.trans he
    exact hl.rust.pack_ne_nil _ _ (toOption_eq_some.mp hpack)
  · obtain ⟨validated, -, hpack⟩ := exists_of_toOption_bind he
    exact hl.python.pack_ne_nil _ _ hpack
  · obtain ⟨validated, -, hpack⟩ := exists_of_toOption_bind he
    exact hl.javaScript.pack_ne_nil _ _ hpack
  · obtain ⟨-, -, hpack⟩ := exists_of_toOption_bind he
    exact hl.go.pack_ne_nil _ _ hpack
  · exact hl.php.pack_ne_nil _ _ (toOption_eq_some.mp he)

/-- **All frame codecs split alike.**  Every byte string either ends before its envelope and is
rejected by all decoders whatever their msgpack libraries do, or declares an empty envelope and is
rejected by all, or has parts that make it up, and then every decoder hands exactly the first to
its envelope decoder and returns exactly the second.  And what any encoder writes for an envelope
shorter than `2 ^ 32` is split by every decoder into that envelope and that body. -/
theorem frame_codecs_agree :
    (∀ bytes : Bytes,
      ((bytes.length < 4 ∨ bytes.length < 4 + Bytes.ofBE (bytes.take 4)) ∧
        ∀ l, ∀ d ∈ decoders l, d.decodeFrame bytes = none) ∨
      (Bytes.ofBE (bytes.take 4) = 0 ∧
        ∀ l : Libraries, l.Lawful → ∀ d ∈ decoders l, d.decodeFrame bytes = none) ∨
      ∃ envelopeBytes bodyBytes, bytes = bytes.take 4 ++ envelopeBytes ++ bodyBytes ∧
        envelopeBytes.length = Bytes.ofBE (bytes.take 4) ∧ envelopeBytes ≠ [] ∧
        ∀ l, ∀ d ∈ decoders l, d.decodeFrame bytes =
          (d.decodeEnvelope envelopeBytes).map fun envelope => ⟨envelope, bodyBytes⟩) ∧
    ∀ l : Libraries, l.Lawful → ∀ enc ∈ encoders l, ∀ envelope bodyBytes envelopeBytes,
      enc.encodeEnvelope envelope = some envelopeBytes → envelopeBytes.length < 2 ^ 32 →
      ∃ frame, enc.encodeFrame envelope bodyBytes = some frame ∧
        ∀ l', ∀ d ∈ decoders l', d.decodeFrame frame =
          (d.decodeEnvelope envelopeBytes).map fun envelope => ⟨envelope, bodyBytes⟩ := by
  constructor
  · intro bytes
    cases hsplit : splitFrame bytes with
    | none =>
      exact Or.inl ⟨splitFrame_eq_none.mp hsplit, fun l d hd => decodeFrame_of_short hd hsplit⟩
    | some p =>
      obtain ⟨envelopeBytes, bodyBytes⟩ := p
      obtain ⟨hlt, hbytes⟩ := splitFrame_eq_some.mp hsplit
      have hhead : bytes.take 4 = Bytes.toBE 4 envelopeBytes.length := by
        rw [hbytes, List.append_assoc]
        exact List.take_left' (Bytes.length_toBE _ _)
      by_cases hne : envelopeBytes = []
      · subst hne
        refine Or.inr (Or.inl ⟨?_, fun l hl d hd => decodeFrame_of_empty hl hd hsplit⟩)
        rw [hhead, Bytes.ofBE_toBE]
        rfl
      · refine Or.inr (Or.inr ⟨envelopeBytes, bodyBytes, ?_, ?_, hne, fun l d hd =>
          decodeFrame_of_parts hd hne hsplit⟩)
        · rw [hhead]
          exact hbytes
        · rw [hhead, Bytes.ofBE_toBE]
          exact (Nat.mod_eq_of_lt hlt).symm
  · intro l hl enc henc envelope bodyBytes envelopeBytes he hlt
    have hne : envelopeBytes ≠ [] := encodeEnvelope_ne_nil hl henc he
    refine ⟨_, concatenates_of_mem henc envelope bodyBytes envelopeBytes he hlt, ?_⟩
    intro l' d hd
    exact decodeFrame_of_parts hd hne (splitFrame_eq_some.mpr ⟨hlt, rfl⟩)

/-- The libraries of `Router.Sample`, with a call and its answer: the frame that Go writes is split
by all six decoders, and the string of five zero bytes is rejected by all. -/
theorem frame_codecs_agree_of_call :
    let m := rmpMsgpack Router.msgPackSerde
    let l : Libraries := ⟨Router.msgPackSerde, Router.msgPackSerde, m, m, m, m⟩
    let envelope := Router.buildEnvelope Router.kindCall "m" "a" "b" .one
    (∃ frame, (goEncoder m).encodeFrame envelope [0x80] = some frame ∧ ∀ d ∈ decoders l,
      d.decodeFrame frame = (d.decodeEnvelope (MsgPack.encode envelope.toValue)).map
        fun envelope => ⟨envelope, [0x80]⟩) ∧
    ∀ d ∈ decoders l, d.decodeFrame [0, 0, 0, 0, 0] = none := by
  intro m l envelope
  have hm : Msgpack.Lawful m := by
    refine ⟨⟨_, rfl⟩, ?_⟩
    intro e bytes h
    obtain rfl := Except.ok.inj h
    exact List.cons_ne_nil _ _
  have hl : l.Lawful := ⟨hm, hm, hm, hm, hm, hm⟩
  obtain ⟨hdecode, hencode⟩ := frame_codecs_agree
  constructor
  · obtain ⟨frame, hframe, hsplit⟩ := hencode l hl (goEncoder m) (by simp [encoders, l]) envelope
      [0x80] (MsgPack.encode envelope.toValue) (by decide +kernel) (by decide +kernel)
    exact ⟨frame, hframe, fun d hd => hsplit l d hd⟩
  · intro d hd
    rcases hdecode [0, 0, 0, 0, 0] with ⟨hshort, -⟩ | ⟨-, hnone⟩ | ⟨_, _, -, hlength, hne, -⟩
    · exact absurd hshort (by decide)
    · exact hnone l hl d hd
    · exact absurd (List.eq_nil_of_length_eq_zero hlength) hne

end Multifrost.Bindings
