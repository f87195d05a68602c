import Multifrost.Lib.MsgPack
import Multifrost.Router.Protocol

/-!
# The service of the PHP binding

`FrameCodec::encode` and `FrameCodec::decode` of `php/src/Frame.php` with the call handler
`handleServiceCall` of `php/src/functions.php`.  The language has one type for strings of bytes and one
for lists and maps: an array has keys that are integers or strings, and a string that spells an integer
is turned into it.  The library tells the types of the format apart by the contents: a string is `str`
if it is UTF-8, and an array is an array if its keys are `0`, `1`, .. in order.

What the library reads and writes is a parameter, as `Value`.
-/

namespace Multifrost.Php.Service

open MsgPack (Value)
open Router (Envelope FrameParts kindError kindResponse protocolVersion)

/-! ### Values of the language -/

inductive Key
  | int (i : Int)
  | string (bs : Bytes)
deriving DecidableEq

inductive PhpValue
  | null
  | bool (b : Bool)
  | int (i : Int)
  | float (x : Float64)
  | string (bs : Bytes)
  | array (entries : List (Key × PhpValue))
  /-- an object of the library, for an extension -/
  | ext (type : UInt8) (data : Bytes)

abbrev Entries := List (Key × PhpValue)

/-- The integer that a string spells as a key, which is done without a sign `+`, without leading zeros
and within 64 bits. -/
def intKey (bs : Bytes) : Option Int :=
  let negative := bs.head? = some 0x2d
  let digits := if negative then bs.tail else bs
  let n : Nat := digits.foldl (fun n d => n * 10 + (d.toNat - 0x30)) 0
  if digits = [] ∨ ∃ d ∈ digits, d < 0x30 ∨ 0x39 < d then none
  -- this is so for `-0` too
  else if digits.head? = some 0x30 ∧ 1 < bs.length then none
  else if 19 < digits.length then none
  else if negative then if n ≤ 2 ^ 63 then some (-(n : Int)) else none
  else if n < 2 ^ 63 then some (n : Int) else none

/-- What a string is as a key. -/
def arrayKey (bs : Bytes) : Key :=
  match intKey bs with
  | some i => .int i
  | none => .string bs

/-- `$array[$key] = $value`. -/
def arraySet (key : Key) (value : PhpValue) : Entries → Entries
  | [] => [(key, value)]
  | entry :: entries =>
    if entry.1 = key then (key, value) :: entries else entry :: arraySet key value entries

/-- `$array[$key] ?? $default`. -/
def arrayGet (key : Key) (default : PhpValue) (entries : Entries) : PhpValue :=
  match entries.find? fun entry => entry.1 = key with
  | none | some (_, .null) => default
  | some (_, value) => value

/-- A string of the language from a literal. -/
def literal (s : String) : Bytes := s.toUTF8.toList

/-- `array_is_list`, from an index on. -/
def isListFrom : Nat → Entries → Bool
  | _, [] => true
  | i, (key, _) :: entries => decide (key = .int i) && isListFrom (i + 1) entries

/-- The elements of a list, with their indices. -/
def listEntries : Nat → List PhpValue → Entries
  | _, [] => []
  | i, v :: vs => (.int i, v) :: listEntries (i + 1) vs

/-! ### The codec -/

/-- The key of a map: an integer or a string of either type. -/
def mapKey : Value → Except String Key
  -- an integer that is too large for the language becomes a string
  | .int i => .ok (if i < 2 ^ 63 then .int i else arrayKey (literal (toString i)))
  | .str s => .ok (arrayKey (literal s))
  | .bin bs => .ok (arrayKey bs)
  | _ => .error "Unexpected map key"

mutual

/-- What the unpacker makes of a value. -/
def ofValue : Value → Except String PhpValue
  | .nil => .ok .null
  | .bool b => .ok (.bool b)
  | .int i => .ok (if i < 2 ^ 63 then .int i else .string (literal (toString i)))
  | .float x => .ok (.float x)
  | .str s => .ok (.string (literal s))
  | .bin bs => .ok (.string bs)
  | .array vs => do
    let vs ← ofValues vs
    .ok (.array (listEntries 0 vs))
  | .map kvs => do
    let entries ← ofEntries [] kvs
    .ok (.array entries)
  | .ext type data => .ok (.ext type data)

def ofValues : List Value → Except String (List PhpValue)
  | [] => .ok []
  | v :: vs => do
    let v ← ofValue v
    let vs ← ofValues vs
    .ok (v :: vs)

/-- The entries are assigned one after the other. -/
def ofEntries (entries : Entries) : List (Value × Value) → Except String Entries
  | [] => .ok entries
  | (k, v) :: kvs => do
    let key ← mapKey k
    let v ← ofValue v
    ofEntries (arraySet key v entries) kvs

end

/-- `DETECT_STR_BIN`. -/
def ofString (bs : Bytes) : Value :=
  match String.fromUTF8? ⟨bs.toArray⟩ with
  | some s => .str s
  | none => .bin bs

def ofKey : Key → Value
  | .int i => .int i
  | .string bs => ofString bs

mutual

/-- What the packer makes of a value, under `DETECT_STR_BIN | DETECT_ARR_MAP`. -/
def toValue : PhpValue → Value
  | .null => .nil
  | .bool b => .bool b
  | .int i => .int i
  | .float x => .float x
  | .string bs => ofString bs
  | .array entries =>
    if isListFrom 0 entries then .array (toValues entries) else .map (toEntries entries)
  | .ext type data => .ext type data

def toValues : Entries → List Value
  | [] => []
  | (_, v) :: entries => toValue v :: toValues entries

def toEntries : Entries → List (Value × Value)
  | [] => []
  | (key, v) :: entries => (ofKey key, toValue v) :: toEntries entries

end

/-- The library, up to `Value`, and the cast of what is no string to a string, which an object has
not. -/
structure Library where
  unpack : Bytes → Except String Value
  pack : Value → Except String Bytes
  castToString : PhpValue → Except String Bytes

variable (lib : Library)

/-- `FrameCodec::encode`. -/
def encode (value : PhpValue) : Except String Bytes := lib.pack (toValue value)

/-- `FrameCodec::decode`. -/
def decode (data : Bytes) : Except String PhpValue := do
  let value ← lib.unpack data
  ofValue value

/-- An array from literals. -/
def ofLiterals (entries : List (String × PhpValue)) : PhpValue :=
  .array (entries.map fun entry => (.string (literal entry.1), entry.2))

/-! ### Calls -/

/-- What is not decided here: `PeerTransport::send`, and the clock when the response and the error are
built. -/
structure Incoming where
  send : Envelope → Bytes → Except String Unit
  responseTime : Float64
  errorTime : Float64

/-- What the handling of a call has sent, and whether it has closed the transport. -/
structure Handled where
  sent : List (Envelope × Bytes)
  closed : Bool
deriving DecidableEq

variable (x : Incoming) (peerId : String)

def responseEnvelope (frame : FrameParts) : Envelope :=
  ⟨protocolVersion, kindResponse, frame.envelope.msgId, peerId, frame.envelope.fromPeer,
    x.responseTime⟩

def errorEnvelope (requestEnvelope : Envelope) : Envelope :=
  ⟨protocolVersion, kindError, requestEnvelope.msgId, peerId, requestEnvelope.fromPeer, x.errorTime⟩

/-- The encoding of the body is not in the `try` block. -/
def sendServiceError (requestEnvelope : Envelope) (code message kind : String) :
    Except String Handled := do
  let errorBody ← encode lib (ofLiterals [("code", .string (literal code)),
    ("message", .string (literal message)), ("kind", .string (literal kind))])
  match x.send (errorEnvelope x peerId requestEnvelope) errorBody with
  | .ok () => .ok ⟨[(errorEnvelope x peerId requestEnvelope, errorBody)], false⟩
  | .error _ => .ok ⟨[], true⟩

/-- The name of the function: `(string) ($decoded['function'] ?? '')`. -/
def functionName (decoded : Entries) : Except String Bytes :=
  match arrayGet (.string (literal "function")) (.string []) decoded with
  | .string bs => .ok bs
  | value => lib.castToString value

/-- A call with an array for its body.  The worker takes an array. -/
def callWorker (worker : Bytes → Entries → Except String PhpValue) (frame : FrameParts)
    (decoded : Entries) : Except String Handled := do
  let function ← functionName lib decoded
  match arrayGet (.string (literal "args")) (.array []) decoded with
  | .array args =>
    let result ← worker function args
    let responseBody ← encode lib (ofLiterals [("result", result)])
    x.send (responseEnvelope x peerId frame) responseBody
    .ok ⟨[(responseEnvelope x peerId frame, responseBody)], false⟩
  | _ => .error "handleCall(): Argument #2 ($args) must be of type array"

/-- The `try` block of `handleServiceCall`. -/
def tryCall (worker : Bytes → Entries → Except String PhpValue) (frame : FrameParts) :
    Except String Handled := do
  match ← decode lib frame.bodyBytes with
  | .array decoded => callWorker lib x peerId worker frame decoded
  | _ =>
    sendServiceError lib x peerId frame.envelope "malformed_call_body" "call body must be an object"
      "protocol"

def handleServiceCall (worker : Bytes → Entries → Except String PhpValue) (frame : FrameParts) :
    Except String Handled :=
  match tryCall lib x peerId worker frame with
  | .ok handled => .ok handled
  | .error message =>
    sendServiceError lib x peerId frame.envelope "remote_call_error" message "application"

end Multifrost.Php.Service
