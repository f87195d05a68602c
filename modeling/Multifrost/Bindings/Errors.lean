import Multifrost.Bindings.Frame
import Multifrost.JavaScript.Frame
import Multifrost.Lib.MsgPack.Tree
import Multifrost.Rust.CallerTransport

/-!
# The errors of the bindings on the wire

Both ends of an error frame.  A caller makes an error of its language from the body:
`decode_router_or_peer_error` in Rust (`Rust.CallerTransport`), `errorFromBody` in JavaScript,
`ErrorFromWire` in Go, `errorFromWire` in PHP, `error_from_body` in Python.  A service makes a body
from what went wrong with a call: `handle_call_frame` in Rust, `handleCallFrame` in JavaScript,
`handleServiceCall` in Go and PHP, `_handle_call` in Python.

A body reaches a caller as bytes.  `read` is the reader of the format under its msgpack library, and
what the library then takes for the types of the language is said here.
-/

namespace Multifrost

open MsgPack (Value)

/-- The body of an error as Go, PHP and Python hold it; details that are absent are nil. -/
structure Bindings.ErrorBody where
  code : String
  message : String
  kind : String
  stack : Option String
  details : Value

open Bindings (ErrorBody)

/-- `ErrorBody.to_mapping` of Python: what is absent is left out. -/
def Python.toMapping (body : ErrorBody) : List (String × Value) :=
  [("code", .str body.code), ("message", .str body.message), ("kind", .str body.kind)] ++
    (match body.stack with
      | some stack => [("stack", .str stack)]
      | none => []) ++
    match body.details with
    | .nil => []
    | details => [("details", details)]

/-! ### Callers -/

namespace JavaScript

/-- The whole body is kept as the details. -/
inductive MultifrostError
  | routerError (message : String) (details : JsValue)
  | remoteCallError (message : String) (details : JsValue)

/-- `value === text`. -/
def isText (text : String) : JsValue → Bool
  | .string s => s = text
  | _ => false

/-- `text` is what `Error` makes of a message, which may throw, as reading a property may. -/
def errorFromBody (text : JsValue → Option String) (body : JsValue) : Option MultifrostError := do
  let kind ← body.property "kind"
  let message ← body.property "message"
  let message ← text message
  if isText "application" kind || isText "service" kind then some (.remoteCallError message body)
  else some (.routerError message body)

/-- An extension that the library takes. -/
def takenNode (u : Unpackr) : Value → Bool
  | .ext type data => u.takes type data
  | _ => true

/-- `decodeBody` and `errorFromBody`; the library throws at an extension that it does not take. -/
def errorFromFrame (read : Bytes → Except String Value) (u : Unpackr)
    (text : JsValue → Option String) (bodyBytes : Bytes) : Option MultifrostError := do
  let value ← (read bodyBytes).toOption
  if value.everywhere (takenNode u) then errorFromBody text (unpack u value) else none

end JavaScript

namespace Go

inductive Error
  | routerError (origin code message : String)
  | remoteCallError (origin message : String)

/-- `DecodeString`.  A string of the language may hold any bytes; here those that are no UTF-8 are cut
to a character that stands for them. -/
def decodeString : Value → Except String String
  | .nil => .ok ""
  | .str s => .ok s
  | .bin bs => .ok ((String.fromUTF8? ⟨bs.toArray⟩).getD "\uFFFD")
  | _ => .error "msgpack: invalid code decoding string/bytes length"

/-- A field that is a pointer to a string. -/
def decodeStringPtr : Value → Except String (Option String)
  | .nil => .ok none
  | v => (decodeString v).map some

/-- What `DecodeInterface` takes: maps from strings, and times of the extensions. -/
def interfaceNode : Value → Bool
  | .map kvs => kvs.all fun kv => (decodeString kv.1).isOk
  | .ext type data => type = 0xff && (data.length = 4 || data.length = 8 || data.length = 12)
  | _ => true

def decodeInterface (v : Value) : Except String Value :=
  if v.everywhere interfaceNode then .ok v else .error "msgpack: unknown ext id"

/-- The next entry of the map; what is stored under another name is skipped. -/
def decodeField (body : ErrorBody) (name : String) (v : Value) : Except String ErrorBody :=
  match name with
  | "code" => (decodeString v).map fun code => { body with code := code }
  | "message" => (decodeString v).map fun message => { body with message := message }
  | "kind" => (decodeString v).map fun kind => { body with kind := kind }
  | "stack" => (decodeStringPtr v).map fun stack => { body with stack := stack }
  | "details" => (decodeInterface v).map fun details => { body with details := details }
  | _ => .ok body

def decodeEntry (body : ErrorBody) (entry : Value × Value) : Except String ErrorBody := do
  let name ← decodeString entry.1
  decodeField body name entry.2

/-- `Unmarshal` to an `ErrorBody`, from a map or from the fields in their order. -/
def unmarshalErrorBody : Value → Except String ErrorBody
  | .nil | .array [] => .ok ⟨"", "", "", none, .nil⟩
  | .map kvs => kvs.foldlM decodeEntry ⟨"", "", "", none, .nil⟩
  | .array [code, message, kind, stack, details] => do
    let code ← decodeString code
    let message ← decodeString message
    let kind ← decodeString kind
    let stack ← decodeStringPtr stack
    let details ← decodeInterface details
    .ok ⟨code, message, kind, stack, details⟩
  | .array _ => .error "msgpack: number of fields in array-encoded struct has changed"
  | _ => .error "msgpack: invalid code decoding map length"

def decodeWireErrorBody (read : Bytes → Except String Value) (bodyBytes : Bytes) :
    Except Error ErrorBody :=
  ((read bodyBytes).bind unmarshalErrorBody).mapError
    (.routerError "protocol" "malformed_error_body")

def errorFromWire (body : ErrorBody) : Error :=
  match body.kind with
  | "protocol" => .routerError "protocol" body.code body.message
  | "router" | "library" => .routerError "router" body.code body.message
  | "application" | "remote" => .remoteCallError "remote" body.message
  | _ => .routerError "router" body.code body.message

/-- An error frame, as it is returned. -/
def errorFromFrame (read : Bytes → Except String Value) (bodyBytes : Bytes) : Error :=
  match decodeWireErrorBody read bodyBytes with
  | .ok body => errorFromWire body
  | .error err => err

end Go

namespace Php

/-- Maps that the library unpacks: the key of an array is an integer or a string. -/
def mapKeyNode : Value → Bool
  | .map kvs => kvs.all fun kv =>
    match kv.1 with
    | .int _ | .str _ | .bin _ => true
    | _ => false
  | _ => true

mutual

/-- What the library makes of integers that are too large for the language. -/
def bigIntAsStr : Value → Value
  | .int i => if i < 2 ^ 63 then .int i else .str (toString i)
  | .array vs => .array (bigIntsAsStr vs)
  | .map kvs => .map (bigIntEntries kvs)
  | v => v

def bigIntsAsStr : List Value → List Value
  | [] => []
  | v :: vs => bigIntAsStr v :: bigIntsAsStr vs

def bigIntEntries : List (Value × Value) → List (Value × Value)
  | [] => []
  | (k, v) :: kvs => (bigIntAsStr k, bigIntAsStr v) :: bigIntEntries kvs

end

inductive MultifrostException
  | routerError (errorCode message : String)
  | remoteCallError (message : String)

def errorFromWire (body : ErrorBody) : MultifrostException :=
  match body.kind with
  | "protocol" => .routerError body.code body.message
  | "router" | "library" => .routerError body.code body.message
  | "application" | "remote" => .remoteCallError body.message
  | _ => .routerError body.code body.message

end Php

namespace Python

inductive ErrorOrigin
  | router
  | remote
deriving DecidableEq

/-- Both classes keep the whole body. -/
inductive MultifrostError
  | routerError (body : ErrorBody) (origin : ErrorOrigin)
  | remoteCallError (body : ErrorBody) (origin : ErrorOrigin)

def errorFromBody (body : ErrorBody) (origin : ErrorOrigin) : MultifrostError :=
  if origin = .router then .routerError body origin else .remoteCallError body origin

/-- The data of a timestamp, whose nanoseconds make less than a second. -/
def isTimestamp (data : Bytes) : Bool :=
  data.length = 4 || data.length = 8 && Bytes.ofBE data / 2 ^ 34 < 10 ^ 9 ||
    data.length = 12 && Bytes.ofBE (data.take 4) < 10 ^ 9

/-- What `unpackb` takes under the limits that it is given, and with `strict_map_key`. -/
def unpackbNode : Value → Bool
  | .str s => s.utf8ByteSize ≤ maxStrLen
  | .bin bs => bs.length ≤ maxBinLen
  | .array vs => vs.length ≤ maxArrayLen
  | .map kvs => kvs.length ≤ maxMapLen && kvs.all fun kv =>
    match kv.1 with
    | .str _ | .bin _ => true
    | _ => false
  | .ext type data => type ≠ 0xff || isTimestamp data
  | _ => true

def isKey (name : String) : Value → Bool
  | .str s => s = name
  | _ => false

/-- `mapping[name]`; of two entries with one key the last one stays. -/
def getItem (kvs : List (Value × Value)) (name : String) : Option Value :=
  (kvs.reverse.find? fun kv => isKey name kv.1).map Prod.snd

section Frame

variable (str : Value → String)

/-- `str(value)`; `str` is that of what is no string. -/
def toStr : Value → String
  | .str s => s
  | v => str v

/-- `str(mapping[name])`. -/
def strItem (kvs : List (Value × Value)) (name : String) : Except String String :=
  match getItem kvs name with
  | some v => .ok (toStr str v)
  | none => .error ("KeyError: " ++ name)

/-- `ErrorBody.from_mapping`. -/
def fromMapping (kvs : List (Value × Value)) : Except String ErrorBody := do
  let code ← strItem str kvs "code"
  let message ← strItem str kvs "message"
  let kind ← strItem str kvs "kind"
  let stack :=
    match getItem kvs "stack" with
    | none | some .nil => none
    | some stack => some (toStr str stack)
  .ok ⟨code, message, kind, stack, (getItem kvs "details").getD .nil⟩

/-- `_error_from_frame`, which looks at the sender; what it raises itself is its text. -/
def errorFromFrame (read : Bytes → Except String Value) (fromPeer : String) (bodyBytes : Bytes) :
    Except String MultifrostError := do
  let payload ← read bodyBytes
  if payload.everywhere unpackbNode then
    match payload with
    | .map kvs =>
      let body ← fromMapping str kvs
      .ok (errorFromBody body (if fromPeer = Router.routerPeerId then .router else .remote))
    | _ => .error "invalid error body type"
  else .error "failed to decode msgpack payload"

end Frame

end Python

/-! ### Services -/

namespace Rust

/-- What may go wrong with a call. -/
inductive CallFailure
  | malformedCall (err : String)
  | invalidNamespace (ns : String)
  | application (err : String)

def CallFailure.toErrorBody : CallFailure → ErrorBody
  | .malformedCall err => ⟨"malformed_call", err, "protocol", none, .nil⟩
  | .invalidNamespace ns =>
    ⟨"invalid_namespace", "unsupported namespace: " ++ ns, "protocol", none, .nil⟩
  | .application err => ⟨"application_error", err, "application", none, .nil⟩

end Rust

namespace JavaScript

/-- The properties of an error body as the service makes it; `none` is `undefined`. -/
abbrev ErrorProperties := List (String × Option Value)

def toErrorBody (message kind code : String) (details : Option Value) : ErrorProperties :=
  [("code", some (.str code)), ("message", some (.str message)), ("kind", some (.str kind)),
    ("stack", none), ("details", details)]

/-- `error` is what the worker throws. -/
inductive CallFailure
  | malformedCall (message : String)
  | invalidNamespace (ns : String)
  | application (message : String) (error : Option Value)

def CallFailure.toErrorBody : CallFailure → ErrorProperties
  | .malformedCall message => JavaScript.toErrorBody message "application" "malformed_call" none
  | .invalidNamespace ns =>
    JavaScript.toErrorBody ("unsupported namespace: " ++ ns) "application" "invalid_namespace" none
  | .application message error =>
    JavaScript.toErrorBody message "application" "application_error" error

end JavaScript

namespace Go

inductive CallFailure
  | malformedCallBody (err : String)
  | remoteCallError (err : String)
  | malformedResponseBody (err : String)

def CallFailure.toErrorBody : CallFailure → ErrorBody
  | .malformedCallBody err => ⟨"malformed_call_body", err, "protocol", none, .nil⟩
  | .remoteCallError err => ⟨"remote_call_error", err, "application", none, .nil⟩
  | .malformedResponseBody err => ⟨"malformed_response_body", err, "protocol", none, .nil⟩

end Go

namespace Php

inductive CallFailure
  | malformedCallBody
  | remoteCallError (message : String)

def CallFailure.toErrorBody : CallFailure → ErrorBody
  | .malformedCallBody =>
    ⟨"malformed_call_body", "call body must be an object", "protocol", none, .nil⟩
  | .remoteCallError message => ⟨"remote_call_error", message, "application", none, .nil⟩

end Php

namespace Python

/-- `raised` is a `RemoteCallError` of the worker's own making.  The arguments of `invalidCallBody`,
`privateMethod` and `functionNotFound` are the `repr` of a type or of a name. -/
inductive CallFailure
  | invalidCallBody (type : String)
  | missingFunctionName
  | privateMethod (name : String)
  | functionNotFound (name : String)
  | raised (err : ErrorBody)
  | exception (type message traceback : String)

def CallFailure.toErrorBody : CallFailure → ErrorBody
  | .invalidCallBody type =>
    ⟨"invalid_call_body", "invalid call body type: " ++ type, "library", none, .nil⟩
  | .missingFunctionName =>
    ⟨"function_not_found", "call body is missing a function name", "library", none, .nil⟩
  | .privateMethod name =>
    ⟨"private_method", "refusing to call private method " ++ name, "library", none, .nil⟩
  | .functionNotFound name =>
    ⟨"function_not_found", "service method " ++ name ++ " was not found", "library", none, .nil⟩
  | .raised err => err
  | .exception type message traceback =>
    ⟨"application_error", message, "application", some traceback, .ofEntries [("type", .str type)]⟩

end Python

/-- A call that fails in a service of one of the bindings. -/
inductive Bindings.ServiceFailure
  | rust (failure : Rust.CallFailure)
  | javaScript (failure : JavaScript.CallFailure)
  | go (failure : Go.CallFailure)
  | php (failure : Php.CallFailure)
  | python (failure : Python.CallFailure)

/-- The entries of the body that a service sends; `undefined` is what the JavaScript library writes for
`undefined`. -/
def Bindings.ServiceFailure.entries (undefined : Value) : ServiceFailure → List (String × Value)
  | .rust failure => Python.toMapping failure.toErrorBody
  | .javaScript failure => failure.toErrorBody.map fun p => (p.1, p.2.getD undefined)
  | .go failure => Python.toMapping failure.toErrorBody
  | .php failure => Python.toMapping failure.toErrorBody
  | .python failure => Python.toMapping failure.toErrorBody

end Multifrost
