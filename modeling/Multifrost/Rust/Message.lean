import Multifrost.Lib.MsgPack
import Multifrost.Router.Protocol
import Multifrost.Rust.Error

/-!
# The wire messages of the Rust binding

The frame codec of `rust/src/message.rs`.  It is written like the router's, over the same
`rmp_serde`, and returns the errors of the binding.  The body of an error is modelled down to the
msgpack value: what serde makes of a value for `ErrorBody` and for the untagged `WireValue`.
-/

namespace Multifrost.Rust

open Router (Envelope ErrorBody FrameParts RmpSerde WireValue protocolVersion)
open MsgPack (Value)

/-! ### Frames -/

section Frame

variable (m : RmpSerde)

def encodeEnvelope (envelope : Envelope) : Except MultifrostError Bytes :=
  (m.envelopeToVecNamed envelope).mapError .serializeError

def decodeEnvelope (bytes : Bytes) : Except MultifrostError Envelope := do
  let envelope ← (m.envelopeFromSlice bytes).mapError .malformedFrame
  if envelope.v ≠ protocolVersion then
    .error (.invalidProtocolKey ("v=" ++ toString envelope.v))
  else
    .ok envelope

/-- As in the router, the length prefix wraps at `2^32`. -/
def encodeFrame (envelope : Envelope) (bodyBytes : Bytes) : Except MultifrostError Bytes := do
  let envelopeBytes ← encodeEnvelope m envelope
  .ok (Bytes.toBE 4 (envelopeBytes.length % 2 ^ 32) ++ envelopeBytes ++ bodyBytes)

def decodeFrame (bytes : Bytes) : Except MultifrostError FrameParts :=
  if bytes.length < 4 then
    .error (.malformedFrame "frame too short for envelope length")
  else
    let envelopeLen := Bytes.ofBE (bytes.take 4)
    if bytes.length < 4 + envelopeLen then
      .error (.malformedFrame "frame shorter than declared envelope length")
    else do
      let envelope ← decodeEnvelope m ((bytes.drop 4).take envelopeLen)
      .ok ⟨envelope, bytes.drop (4 + envelopeLen)⟩

end Frame

/-! ### Dynamic values -/

/-- A `String`: serde also takes bytes that are UTF-8. -/
def string : Value → Option String
  | .str s => some s
  | .bin bs => String.fromUTF8? ⟨bs.toArray⟩
  | _ => none

/-- An integer from `lo` on and below `hi`. -/
def integer (lo hi : Int) : Value → Option Int
  | .int i => if lo ≤ i ∧ i < hi then some i else none
  | _ => none

/-- A `Vec<u8>` under `serde_bytes`, which takes strings and arrays of bytes as well. -/
def byteBuf : Value → Option Bytes
  | .str s => some s.toUTF8.toList
  | .bin bs => some bs
  | .array vs => vs.mapM fun v => (integer 0 (2 ^ 8) v).map fun i => UInt8.ofNat i.toNat
  | _ => none

def unit : Value → Option WireValue
  | .nil => some .nil
  | _ => none

def bool : Value → Option WireValue
  | .bool b => some (.bool b)
  | _ => none

def float : Value → Option WireValue
  | .float x => some (.float x)
  | _ => none

/-- The variants of `WireValue` before `Array`, in the order in which they are tried. -/
def scalar (v : Value) : Option WireValue :=
  [unit v, bool v, (integer (-2 ^ 63) (2 ^ 63) v).map fun i => .int (Int64.ofInt i),
    (integer 0 (2 ^ 64) v).map fun i => .uInt (UInt64.ofNat i.toNat), float v,
    (string v).map .text, (byteBuf v).map .binary].findSome? id

mutual

/-- What `#[serde(untagged)]` makes of a value: the first variant that takes it.  `Array` and `Map`
are vectors, of values and of pairs, and a vector is read from an array. -/
def wireValue : Value → Option WireValue
  | .array vs =>
    [scalar (.array vs), (wireValues vs).map .array, (wirePairs vs).map .map].findSome? id
  -- no variant takes a map
  | v => scalar v

def wireValues : List Value → Option (List WireValue)
  | [] => some []
  | v :: vs => do
    let w ← wireValue v
    let ws ← wireValues vs
    some (w :: ws)

/-- A pair is an array of two. -/
def wirePairs : List Value → Option (List (String × WireValue))
  | [] => some []
  | .array [k, v] :: vs => do
    let name ← string k
    let w ← wireValue v
    let ws ← wirePairs vs
    some ((name, w) :: ws)
  | _ :: _ => none

end

mutual

/-- What serde writes for a value: an untagged variant is written as what it holds, and a pair as an
array of two. -/
def serialize : WireValue → Value
  | .nil => .nil
  | .bool b => .bool b
  | .int i => .int i.toInt
  | .uInt n => .int n.toNat
  | .float x => .float x
  | .text s => .str s
  | .binary bs => .bin bs
  | .array ws => .array (serializeValues ws)
  | .map kws => .array (serializePairs kws)

def serializeValues : List WireValue → List Value
  | [] => []
  | w :: ws => serialize w :: serializeValues ws

def serializePairs : List (String × WireValue) → List Value
  | [] => []
  | (name, w) :: kws => .array [.str name, serialize w] :: serializePairs kws

end

/-! ### The body of an error -/

/-- What serde writes for the body: a field that is `None` is left out. -/
def serializeErrorBody (body : ErrorBody) : Value :=
  .ofEntries ([("code", .str body.code), ("message", .str body.message), ("kind", .str body.kind)] ++
    (body.stack.toList.map fun stack => ("stack", .str stack)) ++
    body.details.toList.map fun details => ("details", serialize details))

inductive ErrorField
  | code
  | message
  | kind
  | stack
  | details
  | ignore
deriving DecidableEq

def ErrorField.ofName : String → ErrorField
  | "code" => .code
  | "message" => .message
  | "kind" => .kind
  | "stack" => .stack
  | "details" => .details
  | _ => .ignore

/-- The name of a field; `ignore` stands for all other names. -/
def ErrorField.name : ErrorField → String
  | .code => "code"
  | .message => "message"
  | .kind => "kind"
  | .stack => "stack"
  | .details => "details"
  | .ignore => ""

def ErrorField.ofIndex : Nat → ErrorField
  | 0 => .code
  | 1 => .message
  | 2 => .kind
  | 3 => .stack
  | 4 => .details
  | _ => .ignore

/-- A key of the map: a name, the bytes of a name, or the index of a field. -/
def errorField : Value → Except String ErrorField
  | .str s => .ok (.ofName s)
  -- bytes that are no name are ignored like an unknown name
  | .bin bs => .ok (((String.fromUTF8? ⟨bs.toArray⟩).map ErrorField.ofName).getD .ignore)
  | .int i => if 0 ≤ i then .ok (.ofIndex i.toNat) else .error "invalid type: expected field identifier"
  | _ => .error "invalid type: expected field identifier"

def requireString (v : Value) : Except String String :=
  match string v with
  | some s => .ok s
  | none => .error "invalid type: expected a string"

def optionString : Value → Except String (Option String)
  | .nil => .ok none
  | v => (requireString v).map some

def optionWireValue : Value → Except String (Option WireValue)
  | .nil => .ok none
  | v =>
    match wireValue v with
    | some w => .ok (some w)
    | none => .error "data did not match any variant of untagged enum WireValue"

/-- The values stored under a field. -/
def valuesOf (field : ErrorField) (fields : List (ErrorField × Value)) : List Value :=
  fields.filterMap fun fv => if fv.1 = field then some fv.2 else none

/-- A field that has a default; no field may occur twice. -/
def optional {α : Type} (field : ErrorField) (read : Value → Except String α)
    (fields : List (ErrorField × Value)) : Except String (Option α) :=
  match valuesOf field fields with
  | [] => .ok none
  | [v] => (read v).map some
  | _ => .error ("duplicate field " ++ field.name)

def required {α : Type} (field : ErrorField) (read : Value → Except String α)
    (fields : List (ErrorField × Value)) : Except String α :=
  match valuesOf field fields with
  | [] => .error ("missing field " ++ field.name)
  | [v] => read v
  | _ => .error ("duplicate field " ++ field.name)

def visitMap (kvs : List (Value × Value)) : Except String ErrorBody := do
  let fields ← kvs.mapM fun kv => (errorField kv.1).map fun field => (field, kv.2)
  let code ← required .code requireString fields
  let message ← required .message requireString fields
  let kind ← required .kind requireString fields
  let stack ← optional .stack optionString fields
  let details ← optional .details optionWireValue fields
  .ok ⟨code, message, kind, stack.getD none, details.getD none⟩

/-- The fields in their order; the last two may be left out. -/
def visitSeq : List Value → Except String ErrorBody
  | c :: m :: k :: rest => do
    let code ← requireString c
    let message ← requireString m
    let kind ← requireString k
    match rest with
    | [] => .ok ⟨code, message, kind, none, none⟩
    | [s] => do
      let stack ← optionString s
      .ok ⟨code, message, kind, stack, none⟩
    | s :: d :: excess => do
      let stack ← optionString s
      let details ← optionWireValue d
      if excess = [] then .ok ⟨code, message, kind, stack, details⟩
      else .error "array had incorrect length, expected 5"
  | _ => .error "invalid length: expected struct ErrorBody with 5 elements"

def errorBody : Value → Except String ErrorBody
  | .map kvs => visitMap kvs
  | .array vs => visitSeq vs
  | _ => .error "invalid type: expected struct ErrorBody"

/-- `read` is the msgpack reader under `rmp_serde::from_slice`: the value at the front of a byte
string, within the reader's limit on nesting.  The texts of serde are cut to what they name, and of
several faults in one map the model may name another than serde does. -/
def decodeErrorBody (read : Bytes → Except String Value) (bytes : Bytes) :
    Except MultifrostError ErrorBody :=
  ((read bytes).bind errorBody).mapError .malformedFrame

end Multifrost.Rust
