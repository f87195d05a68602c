import Multifrost.Bindings.RouterPort
import Multifrost.Python.Transport

/-!
# The service of the Python binding

The receive loop of a service, with the call handler `_handle_call` of
`python/src/multifrost/service.py` and the encoders of `python/src/multifrost/frame.py`.  The loop
handles one call after the other, so that a service is a function of the messages and of what the
methods make of the calls.  The msgpack library and the text forms of objects are parameters.
-/

namespace Multifrost.Python.Service

open Router (Envelope FrameParts kindError kindResponse protocolVersion)
open Transport (Message route)

/-! ### Objects and exceptions -/

/-- The code points of a `str`; a surrogate may stand alone. -/
abbrev Str := List (Fin 0x110000)

def Str.ofString (s : String) : Str := s.toList.map fun c => Fin.ofNat 0x110000 c.toNat

instance : Coe String Str := ⟨Str.ofString⟩

mutual

/-- What a method can be given or return. -/
inductive Object
  | none
  | bool (b : Bool)
  | int (i : Int)
  | float (x : Float64)
  | str (s : Str)
  | bytes (bs : Bytes)
  | bytearray (bs : Bytes)
  | mapping (items : List (Object × Object))
  | list (items : List Object)
  | tuple (items : List Object)
  /-- an object with a method `to_mapping` or an attribute `value` -/
  | converted (type : Str) (inner : Object)
  /-- one of which that method or attribute raises -/
  | broken (type : Str) (err : Raised)
  | other (type : Str)

/-- What can be raised. -/
inductive Raised
  | remoteCallError (code message kind details stack : Object)
  /-- another `Exception`, with what its `__str__` returns or raises -/
  | exception (type : Str) (text : Except Raised Str)
  /-- no `Exception`: a `SystemExit`, a `KeyboardInterrupt`, a `CancelledError` -/
  | baseException

end

def Object.isNone : Object → Bool
  | .none => true
  | _ => false

/-- The name of the type of an object. -/
def Object.typeName : Object → Str
  | .none => "NoneType"
  | .bool _ => "bool"
  | .int _ => "int"
  | .float _ => "float"
  | .str _ => "str"
  | .bytes _ => "bytes"
  | .bytearray _ => "bytearray"
  | .mapping _ => "dict"
  | .list _ => "list"
  | .tuple _ => "tuple"
  | .converted type _ | .broken type _ | .other type => type

/-- `repr(type(value))`. -/
def Object.typeRepr (value : Object) : Str :=
  Str.ofString "<class '" ++ value.typeName ++ Str.ofString "'>"

def malformedFrameError (message : Str) : Raised := .exception "MalformedFrameError" (.ok message)

def transportError (message : Str) : Raised := .exception "TransportError" (.ok message)

/-! ### Encoding -/

/-- What the library raises: one of the errors that `encode_msgpack` and `decode_msgpack` name, or
another one. -/
inductive PackError
  | named (message : Str)
  | other (err : Raised)

/-- The msgpack library, and the built-in `str` and `repr`. -/
structure Runtime where
  packb : Object → Except PackError Bytes
  unpackb : Bytes → Except PackError Object
  str : Object → Except Raised Str
  repr : Str → Str

def int64Min : Int := -2 ^ 63

def int64Max : Int := 2 ^ 63 - 1

/-- `repr` of a float that is not finite. -/
def reprNonFinite (x : Float64) : String :=
  if x.isNaN then "nan" else if x.leZero then "-inf" else "inf"

/-- What the interpreter raises for an integer that it does not convert to or from text. -/
def maxStrDigitsError : Raised :=
  .exception "ValueError" (.ok (Str.ofString
    ("Exceeds the limit (" ++ toString maxStrDigits ++ " digits) for integer string conversion; " ++
      "use sys.set_int_max_str_digits() to increase the limit")))

/-- The integer has more digits than the interpreter converts. -/
def tooLong (i : Int) : Bool := decide (10 ^ maxStrDigits ≤ i.natAbs)

/-- An integer in an f-string, which is its `str`. -/
def formatInt (i : Int) : Except Raised Str :=
  if tooLong i then .error maxStrDigitsError else .ok (Str.ofString (toString i))

mutual

/-- `_normalize_msgpack_value`. -/
def normalizeMsgpackValue : Object → Except Raised Object
  | .none => .ok .none
  | .str s => .ok (.str s)
  | .bytes bs => .ok (.bytes bs)
  | .bytearray bs => .ok (.bytes bs)
  | .bool b => .ok (.bool b)
  | .int i =>
    if i < int64Min ∨ int64Max < i then
      -- the message is formatted before the error is raised
      match formatInt i with
      | .ok text =>
        .error (malformedFrameError
          (Str.ofString "integer value outside portable int64 range: " ++ text))
      | .error err => .error err
    else .ok (.int i)
  | .float x =>
    if x.isFinite then .ok (.float x)
    else .error (malformedFrameError
      (("non-finite floats are not allowed on the generic wire path: " ++ reprNonFinite x : String)))
  | .mapping items =>
    match normalizeItems items with
    | .ok normalized => .ok (.mapping normalized)
    | .error err => .error err
  | .list items | .tuple items =>
    match normalizeList items with
    | .ok normalized => .ok (.list normalized)
    | .error err => .error err
  | .converted _ inner => normalizeMsgpackValue inner
  | .broken _ err => .error err
  | .other type =>
    .error (malformedFrameError
      (Str.ofString "unsupported msgpack value type: " ++ (Object.other type).typeRepr))

def normalizeItems : List (Object × Object) → Except Raised (List (Object × Object))
  | [] => .ok []
  | (.str key, item) :: items => do
    let item ← normalizeMsgpackValue item
    let items ← normalizeItems items
    .ok ((.str key, item) :: items)
  | (key, _) :: _ =>
    .error (malformedFrameError
      (Str.ofString "msgpack map keys must be strings, got " ++ key.typeRepr))

def normalizeList : List Object → Except Raised (List Object)
  | [] => .ok []
  | item :: items => do
    let item ← normalizeMsgpackValue item
    let items ← normalizeList items
    .ok (item :: items)

end

variable (m : Msgpack) (rt : Runtime) (peerId : String)

def encodeMsgpack (value : Object) : Except Raised Bytes := do
  let normalized ← normalizeMsgpackValue value
  match rt.packb normalized with
  | .ok data => .ok data
  | .error (.named message) =>
    .error (malformedFrameError (Str.ofString "failed to encode msgpack payload: " ++ message))
  | .error (.other err) => .error err

def decodeMsgpack (data : Bytes) : Except Raised Object :=
  match rt.unpackb data with
  | .ok value => .ok value
  | .error (.named message) =>
    .error (malformedFrameError (Str.ofString "failed to decode msgpack payload: " ++ message))
  | .error (.other err) => .error err

/-- A dictionary with the keys of a body. -/
def Object.ofMapping (items : List (String × Object)) : Object :=
  .mapping (items.map fun item => (.str item.1, item.2))

/-! ### Calls -/

structure CallBody where
  function : Str
  args : List Object
  callNamespace : Option Str

/-- The built-in `list`. -/
def Object.toList : Object → Except Raised (List Object)
  | .list items | .tuple items => .ok items
  | .mapping items => .ok (items.map Prod.fst)
  | .str s => .ok (s.map fun c => .str [c])
  | .bytes bs | .bytearray bs => .ok (bs.map fun b => .int b.toNat)
  | value =>
    .error (.exception "TypeError" (.ok (Str.ofString "'" ++ value.typeName ++
      Str.ofString "' object is not iterable")))

/-- The built-in `str`, which leaves a text as it is. -/
def toStr (value : Object) : Except Raised Str :=
  match value with
  | .str s => .ok s
  | value => rt.str value

/-- `mapping.get(key)`. -/
def get (items : List (Object × Object)) (key : String) : Option Object :=
  items.findSome? fun item =>
    match item.1 with
    | .str s => if s = Str.ofString key then some item.2 else none
    | _ => none

/-- `CallBody.from_mapping`. -/
def CallBody.fromMapping (items : List (Object × Object)) : Except Raised CallBody := do
  let args := (get items "args").getD (.list [])
  let ns := (get items "namespace").getD .none
  let function ← match get items "function" with
    | some function => toStr rt function
    | none => .error (.exception "KeyError" (.ok "'function'"))
  let args ← args.toList
  let ns ← if ns.isNone then .ok none else (toStr rt ns).map some
  .ok ⟨function, args, ns⟩

/-- A `RemoteCallError` of the library. -/
def libraryError (code : String) (message : Str) : Raised :=
  .remoteCallError (.str code) (.str message) (.str "library") .none .none

def decodeCallBody (bodyBytes : Bytes) : Except Raised CallBody := do
  let payload ← decodeMsgpack rt bodyBytes
  match payload with
  | .mapping items => CallBody.fromMapping rt items
  | payload =>
    .error (libraryError "invalid_call_body"
      (Str.ofString "invalid call body type: " ++ payload.typeRepr))

/-- `str.strip`. -/
def strip (s : Str) : Str :=
  let isBlank (c : Fin 0x110000) : Bool := isStripped (Char.ofNat c)
  ((s.dropWhile isBlank).reverse.dropWhile isBlank).reverse

/-- `method` is the method of the worker: `none` if there is none that can be called. -/
def invokeServiceMethod (method : Str → List Object → Except Raised (Option Object))
    (callBody : CallBody) : Except Raised Object :=
  let functionName := strip callBody.function
  if functionName = [] then
    .error (libraryError "function_not_found" "call body is missing a function name")
  else if (Str.ofString "_").isPrefixOf functionName then
    .error (libraryError "private_method"
      (Str.ofString "refusing to call private method " ++ rt.repr functionName))
  else do
    match ← method functionName callBody.args with
    | some result => .ok result
    | none =>
      .error (libraryError "function_not_found"
        (Str.ofString "service method " ++ rt.repr functionName ++ Str.ofString " was not found"))

/-! ### Replies -/

/-- The transport while a call is handled: somebody may have called `close`, or the connection is
gone. -/
inductive Connection
  | opened
  | inactive
  | closed
deriving DecidableEq

/-- A message, and what happens while it is handled: what the method does, the text of
`traceback.format_exc`, and the clock when the response and the error are built. -/
structure Incoming where
  message : Message
  method : Str → List Object → Except Raised (Option Object)
  traceback : Str
  responseTime : Float64
  errorTime : Float64
  connection : Connection

/-- `transport.send`; the second component is what goes out. -/
def send (connection : Connection) (envelope : Envelope) (bodyBytes : Bytes) :
    Except Raised Unit × List Envelope :=
  if connection = .inactive then (.error (transportError "transport is not active"), [])
  else
    match encodeFrame m envelope bodyBytes with
    | .error message => (.error (malformedFrameError message), [])
    | .ok _ =>
      if connection = .closed then
        (.error (transportError "failed to send websocket frame"), [])
      else (.ok (), [envelope])

def buildResponseEnvelope (x : Incoming) (frame : FrameParts) : Envelope :=
  ⟨protocolVersion, kindResponse, frame.envelope.msgId, peerId, frame.envelope.fromPeer,
    x.responseTime⟩

def buildErrorEnvelope (x : Incoming) (frame : FrameParts) : Envelope :=
  ⟨protocolVersion, kindError, frame.envelope.msgId, peerId, frame.envelope.fromPeer, x.errorTime⟩

/-- `ErrorBody.to_mapping`: what is `None` is left out. -/
def errorBody (code message kind details stack : Object) : Object :=
  .ofMapping ([("code", code), ("message", message), ("kind", kind)] ++
    (if stack.isNone then [] else [("stack", stack)]) ++
    if details.isNone then [] else [("details", details)])

/-- `_send_remote_error`. -/
def sendRemoteError (x : Incoming) (frame : FrameParts) (body : Object) :
    Except Raised Unit × List Envelope :=
  match encodeMsgpack rt body with
  | .error err => (.error err, [])
  | .ok bodyBytes => send m x.connection (buildErrorEnvelope peerId x frame) bodyBytes

/-- The body of the response to a call. -/
def callResult (x : Incoming) (frame : FrameParts) : Except Raised Bytes := do
  let callBody ← decodeCallBody rt frame.bodyBytes
  let result ← invokeServiceMethod rt x.method callBody
  encodeMsgpack rt (.ofMapping [("result", result)])

/-- The `try` block of `_handle_call`. -/
def tryCall (x : Incoming) (frame : FrameParts) : Except Raised Unit × List Envelope :=
  match callResult rt x frame with
  | .error err => (.error err, [])
  | .ok bodyBytes => send m x.connection (buildResponseEnvelope peerId x frame) bodyBytes

/-- The body of the error that an `Exception` of the worker becomes. -/
def applicationError (type message traceback : Str) : Object :=
  errorBody (.str "application_error") (.str message) (.str "application")
    (.ofMapping [("type", .str type)]) (.str traceback)

/-- `_handle_call`. -/
def handleCall (x : Incoming) (frame : FrameParts) : Except Raised Unit × List Envelope :=
  match tryCall m rt peerId x frame with
  | (.ok (), sent) => (.ok (), sent)
  | (.error (.remoteCallError code message kind details stack), sent) =>
    let o := sendRemoteError m rt peerId x frame (errorBody code message kind details stack)
    (o.1, sent ++ o.2)
  | (.error (.exception type text), sent) =>
    match text with
    | .error err => (.error err, sent)
    | .ok message =>
      let o := sendRemoteError m rt peerId x frame (applicationError type message x.traceback)
      (o.1, sent ++ o.2)
  | (.error .baseException, sent) => (.error .baseException, sent)

/-! ### The receive loop -/

/-- `str(err)` in the `except` clause of the loop. -/
def closeReason : Raised → Except Raised Str
  | .remoteCallError _ message _ _ _ => toStr rt message
  | .exception _ text => text
  | .baseException => .error .baseException

end Multifrost.Python.Service
