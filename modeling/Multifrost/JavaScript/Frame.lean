import Multifrost.Lib.Float64
import Multifrost.Lib.MsgPack

/-!
# The body codec of the JavaScript binding

`encodeMsgpackValue` and `decodeMsgpackValue` of `javascript/src/frame.ts`.  The sanitizer goes through
arrays and plain objects.  The packer of the library goes through everything that has entries or
properties of its own.

The library is a parameter: which format a number gets, which integers are read as `number`, and what
becomes of keys that no property should have.
-/

namespace Multifrost.JavaScript

open MsgPack (Value)

/-! ### Values of the language -/

/-- The properties of an object are its own enumerable ones, in the order of `Object.entries`. -/
inductive JsValue
  | undefined
  | null
  | bool (b : Bool)
  | number (x : Float64)
  | bigint (i : Int)
  | string (s : String)
  | uint8Array (bs : Bytes)
  | array (vs : List JsValue)
  | object (properties : List (String × JsValue))
  | map (entries : List (JsValue × JsValue))
  | set (vs : List JsValue)
  | classInstance (properties : List (String × JsValue))

abbrev Properties := List (String × JsValue)

/-- A property of a value, as far as it is its own; reading one of `null` or `undefined` throws. -/
def JsValue.property (name : String) : JsValue → Option JsValue
  | .undefined | .null => none
  | .object ps | .classInstance ps => some ((ps.lookup name).getD .undefined)
  | _ => some .undefined

/-- `typeof value === "object"`, but for `null`. -/
def JsValue.isObject : JsValue → Bool
  | .uint8Array _ | .array _ | .object _ | .map _ | .set _ | .classInstance _ => true
  | _ => false

/-- `Number.isSafeInteger`. -/
def isSafeInteger (x : Float64) : Bool := x.isInteger && decide (|x.value| ≤ 2 ^ 53 - 1)

/-- The key that is no property: assigning it sets the prototype. -/
def protoKey : String := "__proto__"

/-- The position of a key that is an array index: decimal, without leading zeros, and below
`2 ^ 32 - 1`. -/
def arrayIndex (key : String) : Option Nat :=
  match key.toNat? with
  | some n => if toString n = key ∧ n < 2 ^ 32 - 1 then some n else none
  | none => none

/-- Whether one key is listed before another that was there earlier. -/
def precedes (key key' : String) : Bool :=
  match arrayIndex key, arrayIndex key' with
  | some n, some n' => decide (n < n')
  | some _, none => true
  | none, _ => false

/-- `object[key] = value`, where the key is no `__proto__`.  Keys that are array indices come first, in
their order, and the others in the order in which they were assigned. -/
def assign (properties : Properties) (property : String × JsValue) : Properties :=
  match properties with
  | [] => [property]
  | p :: ps =>
    if p.1 = property.1 then property :: ps
    else if precedes property.1 p.1 then property :: p :: ps
    else p :: assign ps property

/-- What a plain object is after `__proto__` and other properties have been assigned.  One that has got
another prototype is no plain object. -/
def withPrototype (assigned own : Properties) : JsValue :=
  if assigned.any fun p => p.1 = protoKey && p.2.isObject then .classInstance own else .object own

/-! ### The sanitizer -/

inductive RangeError
  | unsafeInteger
  | bigintOutOfRange
deriving DecidableEq, Repr

def RangeError.message : RangeError → String
  | .unsafeInteger =>
    "Unsafe integer numbers must be encoded as bigint or an explicit application string."
  | .bigintOutOfRange =>
    "BigInt values outside the signed int64 range must be encoded explicitly."

mutual

def sanitizeMsgpackValue : JsValue → Except RangeError JsValue
  | .number x =>
    if !x.isFinite then .ok .null
    else if x.isInteger && !isSafeInteger x then .error .unsafeInteger
    else .ok (.number x)
  | .bigint i => if i < -2 ^ 63 ∨ 2 ^ 63 - 1 < i then .error .bigintOutOfRange else .ok (.bigint i)
  | .array vs => do
    let vs ← sanitizeItems vs
    .ok (.array vs)
  | .object ps => do
    let ps ← sanitizeProperties ps
    -- the keys of an object are distinct and come in their order: no property overwrites another
    .ok (withPrototype ps (ps.filter fun p => p.1 ≠ protoKey))
  | value => .ok value

def sanitizeItems : List JsValue → Except RangeError (List JsValue)
  | [] => .ok []
  | v :: vs => do
    let v ← sanitizeMsgpackValue v
    let vs ← sanitizeItems vs
    .ok (v :: vs)

def sanitizeProperties : Properties → Except RangeError Properties
  | [] => .ok []
  | (key, v) :: ps => do
    let v ← sanitizeMsgpackValue v
    let ps ← sanitizeProperties ps
    .ok ((key, v) :: ps)

end

/-! ### The library -/

/-- `Packr`: what it writes for a number, for an integer that it may refuse, and for `undefined`. -/
structure Packr where
  number : Float64 → Value
  bigint : Int → Option Value
  undefined : Value

/-- The number that a value of the format denotes. -/
def number? : Value → Option ℚ
  | .int i => some i
  | .float x => if x.isFinite then some x.value else none
  | _ => none

/-- A number is written as an integer or a double of the same value, and a `bigint` within 64 bits,
signed or not. -/
structure Packr.Lawful (p : Packr) : Prop where
  number : ∀ x : Float64, x.isFinite = true → number? (p.number x) = some x.value
  bigint : ∀ i : Int, -2 ^ 63 ≤ i → i < 2 ^ 64 → p.bigint i = some (.int i)
  not_bigint : ∀ i : Int, i < -2 ^ 63 ∨ 2 ^ 64 ≤ i → p.bigint i = none

section Pack

variable (p : Packr)

mutual

/-- `MSGPACK_PACKER.pack`: maps and instances of classes are packed as the map of their entries or
their own properties. -/
def pack : JsValue → Option Value
  | .undefined => some p.undefined
  | .null => some .nil
  | .bool b => some (.bool b)
  | .number x => some (p.number x)
  | .bigint i => p.bigint i
  | .string s => some (.str s)
  | .uint8Array bs => some (.bin bs)
  | .array vs => (packItems vs).map .array
  | .object ps => (packProperties ps).map .ofEntries
  | .map kvs => (packEntries kvs).map .map
  | .set vs => (packItems vs).map .array
  | .classInstance ps => (packProperties ps).map .ofEntries

def packItems : List JsValue → Option (List Value)
  | [] => some []
  | v :: vs => do
    let v ← pack v
    let vs ← packItems vs
    some (v :: vs)

def packProperties : Properties → Option (List (String × Value))
  | [] => some []
  | (key, v) :: ps => do
    let v ← pack v
    let ps ← packProperties ps
    some ((key, v) :: ps)

def packEntries : List (JsValue × JsValue) → Option (List (Value × Value))
  | [] => some []
  | (k, v) :: kvs => do
    let k ← pack k
    let v ← pack v
    let kvs ← packEntries kvs
    some ((k, v) :: kvs)

end

end Pack

/-- `Unpackr` with `int64AsType: "auto"`: which integers are read as `number`, the property for a key,
and what becomes of the extensions that it takes; at any other it throws. -/
structure Unpackr where
  numbers : Int → Bool
  safeKey : Value → String
  takes : UInt8 → Bytes → Bool
  extension : UInt8 → Bytes → JsValue

/-- Integers outside the safe range are read as `bigint`; whether the two just next to it are is left
open.  The key `__proto__` may be renamed. -/
structure Unpackr.Lawful (u : Unpackr) : Prop where
  bigint : ∀ i : Int, 2 ^ 53 < i.natAbs → u.numbers i = false
  safeKey : ∀ s, s ≠ protoKey → u.safeKey (.str s) = s

section Unpack

variable (u : Unpackr)

mutual

/-- `MSGPACK_UNPACKER.unpack`, over a reader of the format, of a value all of whose extensions are
taken. -/
def unpack : Value → JsValue
  | .nil => .null
  | .bool b => .bool b
  | .int i => if u.numbers i then .number (.ofInt i) else .bigint i
  | .float x => .number x
  | .str s => .string s
  | .bin bs => .uint8Array bs
  | .array vs => .array (unpackItems vs)
  | .map kvs =>
    let ps := unpackEntries kvs
    withPrototype ps ((ps.filter fun p => p.1 ≠ protoKey).foldl assign [])
  | .ext type data => u.extension type data

def unpackItems : List Value → List JsValue
  | [] => []
  | v :: vs => unpack v :: unpackItems vs

def unpackEntries : List (Value × Value) → Properties
  | [] => []
  | (k, v) :: kvs => (u.safeKey k, unpack v) :: unpackEntries kvs

end

end Unpack

/-! ### The codec -/

/-- What an encoder throws. -/
inductive EncodeError
  | rangeError (e : RangeError)
  /-- The library refuses to pack the value. -/
  | packer
deriving DecidableEq, Repr

def encodeMsgpackValue (p : Packr) (value : JsValue) : Except EncodeError Value :=
  match sanitizeMsgpackValue value with
  | .error e => .error (.rangeError e)
  | .ok value =>
    match pack p value with
    | none => .error .packer
    | some w => .ok w

def decodeMsgpackValue (u : Unpackr) (w : Value) : JsValue := unpack u w

end Multifrost.JavaScript
