import Multifrost.Bindings.Envelope

/-!
# The frame codecs of the bindings

`EncodeFrame` and `DecodeFrame` in Go, `encodeFrame` and `decodeFrame` in JavaScript,
`FrameCodec::encodeFrame` and `FrameCodec::decodeFrame` in PHP, `encode_frame` and `decode_frame` in
Python, on 64-bit platforms.  The msgpack library of a binding is a parameter: its two entry points
at the record of the envelope, as in `Envelope`.  An error is its text.
-/

namespace Multifrost

open Router (Envelope FrameParts)

/-- A msgpack library, at the record of the envelope. -/
structure Msgpack where
  unpack : Bytes → Except String Envelope
  pack : Envelope → Except String Bytes

variable (m : Msgpack)

/-! ### Go -/

namespace Go

def encodeEnvelope (envelope : Envelope) : Except String Bytes := do
  validateEnvelope envelope
  m.pack envelope

def decodeEnvelope (data : Bytes) : Except String Envelope := do
  let envelope ← (m.unpack data).mapError ("decode envelope: " ++ ·)
  validateEnvelope envelope
  .ok envelope

/-- The prefix is `uint32(len(envelopeBytes))`, which wraps at `2^32`. -/
def encodeFrame (envelope : Envelope) (bodyBytes : Bytes) : Except String Bytes := do
  let envelopeBytes ← encodeEnvelope m envelope
  .ok (Bytes.toBE 4 (envelopeBytes.length % 2 ^ 32) ++ envelopeBytes ++ bodyBytes)

/-- The length is an `int`, which the source checks for its sign. -/
def decodeFrame (data : Bytes) : Except String FrameParts :=
  if data.length < 4 then .error "frame too short for envelope length"
  else
    let envelopeLen : Int := Bytes.ofBE (data.take 4)
    if envelopeLen < 0 then .error "invalid envelope length"
    else if (data.length : Int) < 4 + envelopeLen then
      .error "frame shorter than declared envelope length"
    else do
      let envelope ← decodeEnvelope m ((data.drop 4).take envelopeLen.toNat)
      .ok ⟨envelope, data.drop (4 + envelopeLen.toNat)⟩

end Go

/-! ### JavaScript -/

namespace JavaScript

structure FrameParts where
  envelopeBytes : Bytes
  bodyBytes : Bytes

def readEnvelopeLength (frame : Bytes) : Except String Nat :=
  if frame.length < 4 then .error "Frame too short to contain an envelope length"
  else
    let envelopeLength := Bytes.ofBE (frame.take 4)
    if envelopeLength ≤ 0 then .error "Frame declared an empty envelope"
    else .ok envelopeLength

def encodeEnvelope (envelope : Envelope) : Except String Bytes := do
  let envelope ← validateEnvelopeFields envelope
  m.pack envelope

def decodeEnvelope (bytes : Bytes) : Except String Envelope := do
  let value ← m.unpack bytes
  validateEnvelopeFields value

/-- `writeUInt32BE` throws on a length that does not fit. -/
def encodeFrame (envelope : Envelope) (bodyBytes : Bytes) : Except String Bytes := do
  let envelopeBytes ← encodeEnvelope m envelope
  if 2 ^ 32 ≤ envelopeBytes.length then .error "ERR_OUT_OF_RANGE"
  else .ok (Bytes.toBE 4 envelopeBytes.length ++ envelopeBytes ++ bodyBytes)

def decodeFrame (frame : Bytes) : Except String FrameParts := do
  let envelopeLength ← readEnvelopeLength frame
  if frame.length < 4 + envelopeLength then
    .error "Frame is shorter than its declared envelope length"
  else .ok ⟨(frame.drop 4).take envelopeLength, frame.drop (4 + envelopeLength)⟩

/-- What the transport makes of a binary message: the parts, with the envelope decoded. -/
def toFrame (data : Bytes) : Except String Router.FrameParts := do
  let parts ← decodeFrame data
  let envelope ← decodeEnvelope m parts.envelopeBytes
  .ok ⟨envelope, parts.bodyBytes⟩

end JavaScript

/-! ### PHP -/

namespace Php

/-- `Envelope::fromArray` of what the library decodes. -/
def decodeEnvelope (data : Bytes) : Except String Envelope := do
  let decoded ← m.unpack data
  validateEnvelope decoded
  .ok decoded

/-- There is no validation, and `pack('N', ..)` keeps the low 32 bits. -/
def encodeFrame (envelope : Envelope) (bodyBytes : Bytes) : Except String Bytes := do
  let envelopeBytes ← m.pack envelope
  .ok (Bytes.toBE 4 (envelopeBytes.length % 2 ^ 32) ++ envelopeBytes ++ bodyBytes)

def decodeFrame (data : Bytes) : Except String FrameParts :=
  if data.length < 4 then .error "frame too short for envelope length"
  else
    let envelopeLen : Int := Bytes.ofBE (data.take 4)
    if envelopeLen < 0 then .error "invalid envelope length"
    else if (data.length : Int) < 4 + envelopeLen then
      .error "frame shorter than declared envelope length"
    else do
      -- the body is cut off before the envelope is decoded
      let envelopeBytes := (data.drop 4).take envelopeLen.toNat
      let bodyBytes := data.drop (4 + envelopeLen.toNat)
      let envelope ← decodeEnvelope m envelopeBytes
      .ok ⟨envelope, bodyBytes⟩

end Php

/-! ### Python -/

namespace Python

def encodeEnvelope (envelope : Envelope) : Except String Bytes := do
  let validated ← validateEnvelopeMapping envelope
  m.pack validated

/-- `_MAX_BIN_LEN`. -/
def maxBinLen : Nat := 16 * 1024 * 1024

/-- `_MAX_STR_LEN`, in bytes of UTF-8. -/
def maxStrLen : Nat := 16 * 1024 * 1024

/-- `_MAX_ARRAY_LEN`. -/
def maxArrayLen : Nat := 100000

/-- `_MAX_MAP_LEN`. -/
def maxMapLen : Nat := 100000

/-- What the limits of `unpackb` come to at the record, a map of six entries: none of its strings is
too long. -/
def withinLimits (envelope : Envelope) : Bool :=
  [envelope.kind, envelope.msgId, envelope.fromPeer, envelope.toPeer].all
    fun s => decide (s.utf8ByteSize ≤ maxStrLen)

/-- `m.unpack` is `unpackb` without its limits; what stands beside the record it refuses itself. -/
def decodeMsgpack (data : Bytes) : Except String Envelope := do
  let mapping ← (m.unpack data).mapError ("failed to decode msgpack payload: " ++ ·)
  if withinLimits mapping then .ok mapping
  else
    .error (
      "failed to decode msgpack payload: exceeds max_str_len(" ++ toString maxStrLen ++ ")")

def decodeEnvelope (data : Bytes) : Except String Envelope := do
  let mapping ← decodeMsgpack m data
  validateEnvelopeMapping mapping

def encodeFrame (envelope : Envelope) (bodyBytes : Bytes) : Except String Bytes := do
  let envelopeBytes ← encodeEnvelope m envelope
  if envelopeBytes.length > 0xFFFFFFFF then .error "envelope too large for v5 frame"
  else .ok (Bytes.toBE 4 envelopeBytes.length ++ envelopeBytes ++ bodyBytes)

def decodeFrame (data : Bytes) : Except String FrameParts :=
  if data.length < 4 then .error "frame too short for envelope length"
  else
    let envelopeLen := Bytes.ofBE (data.take 4)
    if data.length < 4 + envelopeLen then .error "frame shorter than declared envelope length"
    else do
      let envelopeBytes := (data.drop 4).take envelopeLen
      let bodyBytes := data.drop (4 + envelopeLen)
      let envelope ← decodeEnvelope m envelopeBytes
      .ok ⟨envelope, bodyBytes⟩

end Python

end Multifrost
