import Multifrost.Bindings.RouterPort
import Multifrost.Lib.Json
import Multifrost.Rust.RouterBootstrap

/-!
# The lock file in all bindings

What each binding writes into the bootstrap lock, and what its lock evaluator makes of a lock file:
`evaluate_existing_lock` in Rust, `evaluateExistingLock` in JavaScript, Go and PHP,
`_evaluate_existing_lock` in Python.  Rust and Go read the text into a record and fail on a field of
another type; the others look the fields up in whatever the text holds.

A lock file is a `Json`, and the texts that the bindings write are objects, given by their `Fields`.
Times are rationals, in seconds, and as in `Rust.RouterBootstrap` the rounding of doubles is not
modelled.  `platform` says which processes are alive; the probes are those of POSIX.
-/

namespace Multifrost

open Json (Fields)
open Rust (LockEvalResult LockFileData)

/-! ### Writers -/

namespace Bindings

/-- A process id: positive, and within a `pid_t`. -/
structure Pid where
  val : Nat
  pos : 0 < val
  lt : val < 2 ^ 31

/-- An update of the lock by its holder.  Only JavaScript may find no pid for the router it has
started. -/
inductive Update
  | routerPid (pid : Option Pid)
  | ready
  | failed

def pidOrNull : Option Pid → Json
  | some pid => .int pid.val
  | none => .null

/-- The field that an update sets. -/
def Update.field : Update → String × Json
  | .routerPid pid => ("router_pid", pidOrNull pid)
  | .ready => ("status", .str "ready")
  | .failed => ("status", .str "failed")

/-- Updates of a dynamic object, by `Object.assign`, `dict.update` or assignments to an array. -/
def assignAll (fields : Fields) (updates : List Update) : Fields :=
  updates.foldl (fun fields update => Json.assign update.field.1 update.field.2 fields) fields

/-- The lock of a dynamic binding when it has been acquired. -/
def newFields (pid : Pid) (port createdAtUnix expiresAtUnix : Json) (language : String) : Fields :=
  [("format", .str "v1"), ("pid", .int pid.val), ("router_pid", .null), ("port", port),
    ("created_at_unix", createdAtUnix), ("expires_at_unix", expiresAtUnix),
    ("status", .str "starting"), ("language", .str language)]

/-- A number that is written as an integer when it is one, up to the size from which exponents are
used. -/
def wholeOrFloat (q : ℚ) : Json :=
  if q.den = 1 ∧ |q| < 10 ^ 21 then .int q.num else .float q

end Bindings

open Bindings

namespace Rust

def LockFileData.toFields (data : LockFileData) : Fields :=
  [("format", .str data.format), ("pid", .int data.pid.toNat)] ++
    -- `skip_serializing_if` leaves the field out
    (match data.routerPid with
      | some pid => [("router_pid", .int pid.toNat)]
      | none => []) ++
    [("port", .int data.port.toNat), ("created_at_unix", .float data.createdAtUnix),
      ("expires_at_unix", .float data.expiresAtUnix), ("status", .str data.status),
      ("language", .str data.language)]

def LockFileData.update (data : LockFileData) : Update → LockFileData
  | .routerPid pid => { data with routerPid := pid.map fun p => UInt32.ofNat p.val }
  | .ready => { data with status := "ready" }
  | .failed => { data with status := "failed" }

def lockFields (pid : Pid) (port : UInt16) (staleAfter : Duration) (now : ℚ)
    (updates : List Update) : Fields :=
  (updates.foldl LockFileData.update
    (newLockFileData (UInt32.ofNat pid.val) port staleAfter now)).toFields

end Rust

namespace JavaScript

/-- `JSON.stringify` of a number. -/
def stringify : Number → Json
  | .finite q => wholeOrFloat q
  -- JSON has no numbers for the others
  | _ => .null

/-- `(Date.now() + timeoutMs) / 1000`. -/
def expiry (nowMs : ℚ) : Number → Number
  | .finite timeoutMs => .finite ((nowMs + timeoutMs) / 1000)
  | timeoutMs => timeoutMs

/-- `createdMs` and `nowMs` are two readings of the clock, and `port` and `timeoutMs` are the
options of the caller. -/
def lockFields (pid : Pid) (port : Option Number) (value : Option String) (createdMs nowMs : ℚ)
    (timeoutMs : Number) (updates : List Update) : Fields :=
  assignAll (newFields pid (stringify (.finite (resolveRouterPort port value)))
    (stringify (.finite (createdMs / 1000))) (stringify (expiry nowMs timeoutMs)) "javascript")
    updates

end JavaScript

namespace Python

/-- `json.dumps` of a float. -/
def dumps : Double.Value → Json
  | .nan => .nan
  | .infinite negative => .infinity negative
  | .finite q => .float q

/-- `time.time() + self.timeout`. -/
def expiry (now : ℚ) : Double.Value → Double.Value
  | .finite timeout => .finite (now + timeout)
  | timeout => timeout

def lockFields (pid : Pid) (port : Int) (created now : ℚ) (timeout : Double.Value)
    (updates : List Update) : Fields :=
  assignAll (newFields pid (.int port) (dumps (.finite created)) (dumps (expiry now timeout))
    "python") updates

end Python

namespace Go

structure RouterLockData where
  format : String
  pid : Int
  routerPid : Option Int
  port : Int
  createdAtUnix : ℚ
  expiresAtUnix : ℚ
  status : String
  language : String

def RouterLockData.toFields (data : RouterLockData) : Fields :=
  [("format", .str data.format), ("pid", .int data.pid),
    ("router_pid", match data.routerPid with
      | some pid => .int pid
      | none => .null),
    ("port", .int data.port), ("created_at_unix", wholeOrFloat data.createdAtUnix),
    ("expires_at_unix", wholeOrFloat data.expiresAtUnix), ("status", .str data.status),
    ("language", .str data.language)]

def RouterLockData.updateFields (data : RouterLockData) : Update → RouterLockData
  | .routerPid pid => { data with routerPid := pid.map fun p => (p.val : Int) }
  | .ready => { data with status := "ready" }
  | .failed => { data with status := "failed" }

def newRouterLockData (pid : Pid) (port : Int64) (now : ℚ) : RouterLockData :=
  ⟨"v1", pid.val, none, port.toInt, now, now + 10, "starting", "go"⟩

def lockFields (pid : Pid) (port : Int64) (now : ℚ) (updates : List Update) : Fields :=
  (updates.foldl RouterLockData.updateFields (newRouterLockData pid port now)).toFields

end Go

namespace Php

def lockFields (pid : Pid) (port : Int64) (now : ℚ) (updates : List Update) : Fields :=
  assignAll (newFields pid (.int port.toInt) (wholeOrFloat now) (wholeOrFloat (now + 10)) "php")
    updates

end Php

/-! ### Readers -/

/-- A field that is the string `s`. -/
def Bindings.isStr (s : String) : Option Json → Bool
  | some (.str t) => t == s
  | _ => false

namespace Rust

/-- An unsigned integer below `bound`. -/
def unsigned (bound : Nat) : Json → Option Nat
  | .int n => if 0 ≤ n ∧ n < bound then some n.toNat else none
  | _ => none

def u32 : Json → Option Nat := unsigned (2 ^ 32)

def u16 : Json → Option Nat := unsigned (2 ^ 16)

def text : Json → Option String
  | .str s => some s
  | _ => none

/-- An `Option<u32>`, which may be absent. -/
def optionU32 : Option Json → Option (Option UInt32)
  | none => some none
  | some .null => some none
  | some v => (u32 v).map fun n => some (UInt32.ofNat n)

/-- What `#[serde(default)]` makes of a string. -/
def textOrDefault : Option Json → Option String
  | none => some ""
  | some v => text v

/-- `serde_json::from_str::<LockFileData>` of an object. -/
def lockFileData (fields : Fields) : Option LockFileData :=
  if Json.standardFields fields then do
    let format ← (fields.lookup "format").bind text
    let pid ← (fields.lookup "pid").bind u32
    let routerPid ← optionU32 (fields.lookup "router_pid")
    let port ← (fields.lookup "port").bind u16
    let createdAtUnix ← (fields.lookup "created_at_unix").bind Json.number?
    let expiresAtUnix ← (fields.lookup "expires_at_unix").bind Json.number?
    let status ← (fields.lookup "status").bind text
    let language ← textOrDefault (fields.lookup "language")
    some ⟨format, UInt32.ofNat pid, routerPid, UInt16.ofNat port, createdAtUnix, expiresAtUnix,
      status, language⟩
  else none

def evaluateLock (fields : Fields) (now : ℚ) (platform : Nat → Bool) : LockEvalResult :=
  evaluateExistingLock (some (lockFileData fields)) now fun pid => platform pid.toNat

end Rust

namespace Go

/-- What folds to an upper-case letter: its lower case, the long s and the sign of the kelvin. -/
def foldRune (c : Char) : Char :=
  if c = Char.ofNat 0x17f then Char.ofNat 0x53
  else if c = Char.ofNat 0x212a then Char.ofNat 0x4b
  else c.toUpper

def foldName (key : String) : String := String.ofList (key.toList.map foldRune)

/-- The values that `json.Unmarshal` reads into a field, one after the other: the case of a key does not
matter. -/
def valuesOf (name : String) (fields : Fields) : List Json :=
  (fields.filter fun field => foldName field.1 = foldName name).map Prod.snd

/-- A field that is zero at first; null leaves it as it is. -/
def unmarshalField {α : Type} (zero : α) (read : Json → Option α) (values : List Json) : Option α :=
  values.foldlM (fun old value =>
    match value with
    | .null => some old
    | value => read value) zero

/-- A field that is a pointer; null makes it nil. -/
def unmarshalPointer {α : Type} (read : Json → Option α) (values : List Json) : Option (Option α) :=
  values.foldlM (fun _ value =>
    match value with
    | .null => some none
    | value => (read value).map some) none

def int : Json → Option Int
  | .int n => if -2 ^ 63 ≤ n ∧ n < 2 ^ 63 then some n else none
  | _ => none

def unmarshal (fields : Fields) : Option RouterLockData :=
  if Json.standardFields fields then do
    let format ← unmarshalField "" Rust.text (valuesOf "format" fields)
    let pid ← unmarshalField 0 int (valuesOf "pid" fields)
    let routerPid ← unmarshalPointer int (valuesOf "router_pid" fields)
    let port ← unmarshalField 0 int (valuesOf "port" fields)
    let createdAtUnix ← unmarshalField 0 Json.number? (valuesOf "created_at_unix" fields)
    let expiresAtUnix ← unmarshalField 0 Json.number? (valuesOf "expires_at_unix" fields)
    let status ← unmarshalField "" Rust.text (valuesOf "status" fields)
    let language ← unmarshalField "" Rust.text (valuesOf "language" fields)
    some ⟨format, pid, routerPid, port, createdAtUnix, expiresAtUnix, status, language⟩
  else none

def isProcessAlive (platform : Nat → Bool) (pid : Int) : Bool :=
  if pid ≤ 0 then false else platform pid.toNat

def evaluateExistingLock (fields : Fields) (now : ℚ) (platform : Nat → Bool) : LockEvalResult :=
  match unmarshal fields with
  | none => .reclaim
  | some lock =>
    if lock.format ≠ "v1" then .reclaim
    else if now > lock.expiresAtUnix then .reclaim
    else if !isProcessAlive platform lock.pid then .reclaim
    else if lock.status = "failed" then .reclaim
    else if lock.routerPid.any (isProcessAlive platform) then .skipSpawn
    else .wait

end Go

namespace JavaScript

mutual

/-- Values that convert to strings: the method of an object may be hidden by a field of its name. -/
def printable : Json → Bool
  | .obj fields => (fields.lookup "toString").isNone
  | .arr vs => printables vs
  | _ => true

def printables : List Json → Bool
  | [] => true
  | v :: vs => printable v && printables vs

end

section Evaluate

variable (stringToNumber : String → Number)

/-- `ToNumber`; `none` is a `TypeError`.  An array is joined with commas first, so that one of a
single value counts as that value, and `stringToNumber` is what the language makes of a string. -/
def toNumber : Json → Option Number
  | .null => some (.finite 0)
  | .bool b => some (.finite (if b then 1 else 0))
  | .int n => some (.finite n)
  | .float q => some (.finite q)
  | .nan => some .nan
  | .infinity negative => some (.infinite negative)
  | .str s => some (stringToNumber s)
  | .arr [] => some (.finite 0)
  -- `Number("true")` is not `Number(true)`
  | .arr [.bool _] => some .nan
  | .arr [v] => toNumber v
  | .arr (v :: w :: vs) => if printables (v :: w :: vs) then some .nan else none
  | .obj fields => if printable (.obj fields) then some .nan else none

/-- The number of a field; `undefined` is none. -/
def fieldNumber : Option Json → Option Number
  | none => some .nan
  | some v => toNumber stringToNumber v

def lessThan : Number → ℚ → Bool
  | .finite q, now => q < now
  | .infinite negative, _ => negative
  | .nan, _ => false

/-- `process.kill` throws for what is no 32-bit integer. -/
def isProcessAlive (platform : Nat → Bool) : Number → Bool
  | .finite q => if q ≤ 0 then false else q.den = 1 ∧ q < 2 ^ 31 ∧ platform q.num.toNat
  | _ => false

/-- The end of `evaluateExistingLock`, where the lock is valid. -/
def evaluateRouterPid (platform : Nat → Bool) : Option Json → Option LockEvalResult
  | none => some .wait
  | some .null => some .wait
  | some v => do
    let routerPid ← toNumber stringToNumber v
    if isProcessAlive platform routerPid then some .skipSpawn else some .wait

/-- `evaluateExistingLock` once there is an object. -/
def evaluateObject (fields : Fields) (now : ℚ) (platform : Nat → Bool) : Option LockEvalResult :=
  if !isStr "v1" (fields.lookup "format") then some .reclaim
  else do
    let expires ← fieldNumber stringToNumber (fields.lookup "expires_at_unix")
    if lessThan expires now then some .reclaim
    else do
      let pid ← fieldNumber stringToNumber (fields.lookup "pid")
      if !isProcessAlive platform pid then some .reclaim
      else if isStr "failed" (fields.lookup "status") then some .reclaim
      else evaluateRouterPid stringToNumber platform (fields.lookup "router_pid")

/-- `content` is `none` when the file cannot be read and `some none` when it is no text of JSON.
`none` is an exception. -/
def evaluateExistingLock (content : Option (Option Json)) (now : ℚ) (platform : Nat → Bool) :
    Option LockEvalResult :=
  match content with
  | some (some data) =>
    if !data.standard then some .reclaim
    else
      match data with
      -- a field of null cannot be read, and one of anything else but an object is undefined
      | .null => none
      | .obj fields => evaluateObject stringToNumber fields now platform
      | _ => some .reclaim
  | _ => some .reclaim

end Evaluate

end JavaScript

namespace Python

/-- `value < now`; `none` is a `TypeError`. -/
def lessThan : Json → ℚ → Option Bool
  | .bool b, now => some ((if b then (1 : ℚ) else 0) < now)
  | .int n, now => some ((n : ℚ) < now)
  | .float q, now => some (q < now)
  | .nan, _ => some false
  | .infinity negative, _ => some negative
  | _, _ => none

/-- `os.kill` takes integers of a C `int` only; `none` is its exception, or that of the comparison
with 0. -/
def isProcessAlive (platform : Nat → Bool) : Json → Option Bool
  -- a bool is an int
  | .bool b => some (b && platform 1)
  | .int n => if n ≤ 0 then some false else if n < 2 ^ 31 then some (platform n.toNat) else none
  | .float q => if q ≤ 0 then some false else none
  | .infinity true => some false
  | _ => none

/-- The end of `_evaluate_existing_lock`, where the lock is valid. -/
def evaluateRouterPid (platform : Nat → Bool) : Option Json → Option LockEvalResult
  | none => some .wait
  | some .null => some .wait
  | some v => do
    let alive ← isProcessAlive platform v
    if alive then some .skipSpawn else some .wait

/-- `_evaluate_existing_lock` once there is an object. -/
def evaluateObject (fields : Fields) (now : ℚ) (platform : Nat → Bool) : Option LockEvalResult :=
  if !isStr "v1" (fields.lookup "format") then some .reclaim
  else do
    -- `data.get` returns the default for a field that is absent, not for one that is null
    let expired ← lessThan ((fields.lookup "expires_at_unix").getD (.int 0)) now
    if expired then some .reclaim
    else do
      let alive ← isProcessAlive platform ((fields.lookup "pid").getD (.int 0))
      if !alive then some .reclaim
      else if isStr "failed" (fields.lookup "status") then some .reclaim
      else evaluateRouterPid platform (fields.lookup "router_pid")

/-- As in JavaScript; `json.loads` also reads the words for the doubles that are no numbers of
JSON. -/
def evaluateExistingLock (content : Option (Option Json)) (now : ℚ) (platform : Nat → Bool) :
    Option LockEvalResult :=
  match content with
  | some (some (.obj fields)) => evaluateObject fields now platform
  | _ => some .reclaim

end Python

namespace Php

section Evaluate

variable (stringLess : String → ℚ → Bool)

/-- `$value < $now`; `stringLess` is what the language makes of a string. -/
def lessThan : Json → ℚ → Bool
  | .bool b, now => !b && decide (now ≠ 0)
  | .int n, now => (n : ℚ) < now
  | .float q, now => q < now
  | .str s, now => stringLess s now
  | _, _ => false

def isProcessAlive (platform : Nat → Bool) (pid : Int) : Bool :=
  if pid ≤ 0 then false else platform pid.toNat

/-- `is_int`: larger integers are floats. -/
def isInt : Option Json → Option Int
  | some (.int n) => if -2 ^ 63 ≤ n ∧ n < 2 ^ 63 then some n else none
  | _ => none

/-- The end of `evaluateExistingLock`, where the lock is valid. -/
def evaluateRouterPid (platform : Nat → Bool) (field : Option Json) : LockEvalResult :=
  match isInt field with
  | none => .wait
  | some routerPid =>
    if 0 < routerPid ∧ isProcessAlive platform routerPid then .skipSpawn else .wait

def evaluateExistingLock (fields : Fields) (now : ℚ) (platform : Nat → Bool) : LockEvalResult :=
  if !Json.standardFields fields then .reclaim
  else if !isStr "v1" (fields.lookup "format") then .reclaim
  -- a field that is null is not set
  else if (fields.lookup "expires_at_unix").any fun v => lessThan stringLess v now then .reclaim
  else
    match isInt (fields.lookup "pid") with
    | none => .reclaim
    | some pid =>
      if !isProcessAlive platform pid then .reclaim
      else if isStr "failed" (fields.lookup "status") then .reclaim
      else evaluateRouterPid platform (fields.lookup "router_pid")

end Evaluate

end Php

end Multifrost
