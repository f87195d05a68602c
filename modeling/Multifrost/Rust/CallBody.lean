import Multifrost.Rust.Message
import Multifrost.Rust.Service

/-!
# The body of a call in the Rust binding

What serde makes of a msgpack value for `CallBody`, whose arguments are values of `serde_json`, and
what it writes of such a value for `ResponseBody`.  The msgpack reader and writer under `rmp_serde`
are parameters, as for `decodeErrorBody`.
-/

namespace Multifrost.Rust

open MsgPack (Value)
open Service (CallBody CallSerde ResponseBody)

/-! ### Values of `serde_json` -/

/-- `serde_json::Value`.  A number is kept as `u64`, as a negative `i64` or as `f64`, and an object is
sorted by its keys. -/
inductive JsonValue
  | null
  | bool (b : Bool)
  | posInt (n : UInt64)
  | negInt (i : Int64)
  | float (x : Float64)
  | string (s : String)
  | array (vs : List JsonValue)
  | object (entries : List (String × JsonValue))

/-- `BTreeMap::insert`. -/
def insertEntry (key : String) (v : JsonValue) :
    List (String × JsonValue) → List (String × JsonValue)
  | [] => [(key, v)]
  | entry :: entries =>
    if key < entry.1 then (key, v) :: entry :: entries
    else if key = entry.1 then (key, v) :: entries
    else entry :: insertEntry key v entries

mutual

/-- The visitor of `serde_json::Value`. -/
def jsonValue : Value → Except String JsonValue
  | .nil => .ok .null
  | .bool b => .ok (.bool b)
  | .int i => .ok (if 0 ≤ i then .posInt (UInt64.ofNat i.toNat) else .negInt (Int64.ofInt i))
  | .float x => .ok (if x.isFinite then .float x else .null)
  | .str s => .ok (.string s)
  | .bin _ => .error "invalid type: byte array, expected any valid JSON value"
  | .array vs => do
    let vs ← jsonValues vs
    .ok (.array vs)
  | .map [] => .ok (.object [])
  -- the first key is classified before the map is made
  | .map ((.str key, v) :: kvs) => do
    let v ← jsonValue v
    let entries ← jsonEntries [(key, v)] kvs
    .ok (.object entries)
  | .map _ => .error "invalid type, expected a string key"
  | .ext .. => .error "invalid type: newtype struct, expected any valid JSON value"

def jsonValues : List Value → Except String (List JsonValue)
  | [] => .ok []
  | v :: vs => do
    let v ← jsonValue v
    let vs ← jsonValues vs
    .ok (v :: vs)

/-- The entries are inserted one after the other. -/
def jsonEntries (entries : List (String × JsonValue)) :
    List (Value × Value) → Except String (List (String × JsonValue))
  | [] => .ok entries
  | (k, v) :: kvs => do
    let key ← requireString k
    let v ← jsonValue v
    jsonEntries (insertEntry key v entries) kvs

end

mutual

/-- What serde writes for a `serde_json::Value`. -/
def jsonToValue : JsonValue → Value
  | .null => .nil
  | .bool b => .bool b
  | .posInt n => .int n.toNat
  | .negInt i => .int i.toInt
  | .float x => .float x
  | .string s => .str s
  | .array vs => .array (jsonToValues vs)
  | .object entries => .map (jsonToEntries entries)

def jsonToValues : List JsonValue → List Value
  | [] => []
  | v :: vs => jsonToValue v :: jsonToValues vs

def jsonToEntries : List (String × JsonValue) → List (Value × Value)
  | [] => []
  | (key, v) :: entries => (.str key, jsonToValue v) :: jsonToEntries entries

end

/-! ### Structures -/

section Derive

variable (names : List String)

/-- The field that a key of a map stands for: a name, the bytes of a name, or the index of a field;
`none` for a key that is ignored. -/
def fieldName : Value → Except String (Option String)
  | .str s => .ok ((some s).filter (· ∈ names))
  | .bin bs => .ok ((String.fromUTF8? ⟨bs.toArray⟩).filter (· ∈ names))
  | .int i =>
    if 0 ≤ i then .ok names[i.toNat]? else .error "invalid type: expected field identifier"
  | _ => .error "invalid type: expected field identifier"

/-- The fields of a structure that is given by a map. -/
def fieldValues (kvs : List (Value × Value)) : Except String (List (Option String × Value)) :=
  kvs.mapM fun kv => (fieldName names kv.1).map fun name => (name, kv.2)

/-- The values stored under a field. -/
def valuesUnder (name : String) (fields : List (Option String × Value)) : List Value :=
  fields.filterMap fun field => if field.1 = some name then some field.2 else none

/-- A field that has a default; no field may occur twice. -/
def optionalField {α : Type} (name : String) (read : Value → Except String α)
    (fields : List (Option String × Value)) : Except String (Option α) :=
  match valuesUnder name fields with
  | [] => .ok none
  | [v] => (read v).map some
  | _ => .error ("duplicate field " ++ name)

def requiredField {α : Type} (name : String) (read : Value → Except String α)
    (fields : List (Option String × Value)) : Except String α :=
  match valuesUnder name fields with
  | [] => .error ("missing field " ++ name)
  | [v] => read v
  | _ => .error ("duplicate field " ++ name)

end Derive

/-! ### Calls and responses -/

/-- A `Vec<serde_json::Value>`. -/
def requireArgs : Value → Except String (List JsonValue)
  | .array vs => jsonValues vs
  | _ => .error "invalid type: expected a sequence"

/-- `CallBody` from a map. -/
def callBodyOfMap (kvs : List (Value × Value)) : Except String (CallBody JsonValue) := do
  let fields ← fieldValues ["function", "args", "namespace"] kvs
  let function ← requiredField "function" requireString fields
  let args ← optionalField "args" requireArgs fields
  let ns ← optionalField "namespace" optionString fields
  .ok ⟨function, args.getD [], ns.getD none⟩

/-- `CallBody` from its fields in their order; the last two may be left out. -/
def callBodyOfSeq : List Value → Except String (CallBody JsonValue)
  | [] => .error "invalid length 0, expected struct CallBody with 3 elements"
  | [f] => do
    let function ← requireString f
    .ok ⟨function, [], none⟩
  | [f, a] => do
    let function ← requireString f
    let args ← requireArgs a
    .ok ⟨function, args, none⟩
  | f :: a :: n :: excess => do
    let function ← requireString f
    let args ← requireArgs a
    let ns ← optionString n
    if excess = [] then .ok ⟨function, args, ns⟩
    else .error "array had incorrect length, expected 3"

def callBody : Value → Except String (CallBody JsonValue)
  | .map kvs => callBodyOfMap kvs
  | .array vs => callBodyOfSeq vs
  | _ => .error "invalid type: expected struct CallBody"

/-- `rmp_serde` over a msgpack reader and a msgpack writer. -/
def callSerde (read : Bytes → Except String Value) (write : Value → Except String Bytes) :
    CallSerde JsonValue where
  callBodyFromSlice bytes := (read bytes).bind callBody
  responseBodyToVecNamed body := write (.map [(.str "result", jsonToValue body.result)])
  errorBodyToVecNamed body := write (serializeErrorBody body)

end Multifrost.Rust
