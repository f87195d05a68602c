import Multifrost.Bindings.Split
import Multifrost.Python.Service

/-!
# Which calls a Python service survives

What a call raises becomes an error body, and the body is encoded inside the `except` clause of
`_handle_call`.  If that fails, the failure leaves the handler and ends the receive loop: the call is
not answered, and no later one is read.  A service answers every call and goes on if and only if every
call returns, or raises an `Exception` of which the error body can be encoded.
-/

namespace Multifrost.Python.Service

open Router (Envelope FrameParts kindError kindResponse)
open Transport (Message route)

variable {m : Msgpack} {rt : Runtime} {peerId : String}

/-! ### Calls that can be answered -/

/-- A reply to a frame, under its message id. -/
def IsReply (frame : FrameParts) (envelope : Envelope) : Prop :=
  envelope.msgId = frame.envelope.msgId ∧
    (envelope.kind = kindResponse ∨ envelope.kind = kindError)

variable (m rt peerId) in
/-- What the `try` block raises on an open connection. -/
def outcome (x : Incoming) (frame : FrameParts) : Except Raised Unit := do
  let bodyBytes ← callResult rt x frame
  match encodeFrame m (buildResponseEnvelope peerId x frame) bodyBytes with
  | .ok _ => .ok ()
  | .error message => .error (malformedFrameError message)

section Call

variable {x : Incoming} {frame : FrameParts}

end Call

/-! ### Every call -/

section Sample

open MsgPack (Value)
open Router (msgPackSerde)

/-- A text as the wire has it: a surrogate cannot be encoded. -/
def utf8? (s : Str) : Option String :=
  if s.all fun c => c.val.isValidChar then some (String.ofList (s.map fun c => Char.ofNat c.val))
  else none

mutual

/-- What `packb` writes. -/
def toValue : Object → Option Value
  | .none => some .nil
  | .bool b => some (.bool b)
  | .int i => some (.int i)
  | .float x => some (.float x)
  | .str s => (utf8? s).map .str
  | .bytes bs => some (.bin bs)
  | .list items => (toValues items).map .array
  | .mapping items => (toEntries items).map .map
  | _ => none

def toValues : List Object → Option (List Value)
  | [] => some []
  | item :: items => do
    let value ← toValue item
    let values ← toValues items
    some (value :: values)

def toEntries : List (Object × Object) → Option (List (Value × Value))
  | [] => some []
  | (key, item) :: items => do
    let key ← toValue key
    let value ← toValue item
    let entries ← toEntries items
    some ((key, value) :: entries)

end

/-- The library at the bodies of the runs below: of a call only the name of its function is read. -/
def localRuntime : Runtime where
  packb value :=
    match toValue value with
    | some value => .ok (MsgPack.encode value)
    | none => .error (.named "'utf-8' codec can't encode characters: surrogates not allowed")
  unpackb data :=
    match ((MsgPack.fromSlice data).bind fun v => v.field "function").bind Router.strValue with
    | some function => .ok (.ofMapping [("function", .str function), ("args", .list [])])
    | none => .error (.named "incomplete input")
  str value := .ok value.typeRepr
  repr s := Str.ofString "'" ++ s ++ Str.ofString "'"

/-- A call comes in, and its method does what is given. -/
def calls (called : Except Raised (Option Object)) : Incoming where
  message := .binary (Router.callBytes "caller" "service")
  method _ _ := called
  traceback := "Traceback (most recent call last):"
  responseTime := .one
  errorTime := .one
  connection := .opened

/-- The method returns `None`. -/
def returns : Incoming := calls (.ok (some .none))

end Sample

end Multifrost.Python.Service
