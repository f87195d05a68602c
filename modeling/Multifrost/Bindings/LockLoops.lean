import Multifrost.Bindings.Bootstrap
import Multifrost.Bindings.LockContents
import Multifrost.Lib.RetryLoop

/-!
# The acquisition loops of all bindings

One turn of `acquire_lock` in Rust, `acquireStartupLock` in JavaScript, `acquireRouterLock` in Go,
`__aenter__` of `_StartupLock` in Python and `acquireLock` in PHP.  What a turn finds is decided by the
file system, by the other processes and by the clock, and is any `Turn`: nothing relates the file of one
turn to that of the next.

For Rust and Go a turn is what the steps of the models of a process do (`Rust.acquireLock_eq`,
`Go.acquireRouterLock_eq`).
-/

namespace Multifrost

open Json (Fields)
open Rust (LockEvalResult LockFileData)

namespace Bindings

/-- What comes of the exclusive create of the lock file and of the write into it. -/
inductive Create
  | created
  /-- the file has been created, and the write has failed -/
  | unwritten
  | alreadyExists
  /-- `EACCES` -/
  | denied
  | failed
deriving DecidableEq

/-- What a turn finds, where the lock file has a content in `γ`. -/
structure Turn (γ : Type) where
  /-- the clock of the deadline at the start of the turn -/
  start : Nat
  /-- the clock of the deadline when the turn compares it -/
  check : Nat
  create : Create
  content : γ
  /-- the time at which the content is evaluated -/
  now : ℚ
  platform : Nat → Bool
  /-- the removal of the file succeeds or finds none -/
  removed : Bool
  /-- the context is done -/
  cancelled : Bool

/-- How a loop ends. -/
inductive Acquired
  | lock
  | skipSpawn
  | timedOut (message : String)
  /-- any other error -/
  | error
deriving DecidableEq

def Acquired.isExpected : Acquired → Bool
  | .error => false
  | _ => true

end Bindings

open Bindings

namespace Rust

def evaluateTurn (t : Turn (Option (Option LockFileData))) : LockEvalResult :=
  evaluateExistingLock t.content t.now fun pid => t.platform pid.toNat

def acquireLock (deadline : Nat) (t : Turn (Option (Option LockFileData))) : Option Acquired :=
  match t.create with
  | .created => some .lock
  | .alreadyExists =>
    match evaluateTurn t with
    -- the error of the removal is ignored, and the deadline is not looked at
    | .reclaim => none
    | .skipSpawn => some .skipSpawn
    | .wait =>
      if deadline ≤ t.check then some (.timedOut "timed out waiting for router bootstrap lock")
      else none
  | _ => some .error

/-- How the loop goes on after the verdict, by the next operation of the process. -/
def Pc.acquired : Pc → Option Acquired
  | .returned (.error (.bootstrapFailure message)) => some (.timedOut message)
  | .returned _ => some .error
  | .skipWait _ => some .skipSpawn
  | _ => none

theorem acquireLock_eq (config : RouterBootstrapConfig) (i : Input) (deadline : Nat)
    (t : Turn (Option (Option LockFileData))) (hcreate : t.create = .alreadyExists)
    (hcheck : i.instant = t.check) :
    acquireLock deadline t = (onEvaluated config i deadline (evaluateTurn t)).acquired := by
  unfold acquireLock
  rw [hcreate]
  cases evaluateTurn t with
  | reclaim => rfl
  | skipSpawn => rfl
  | wait =>
    dsimp only [onEvaluated]
    rw [hcheck]
    split_ifs <;> rfl

end Rust

namespace JavaScript

section Acquire

variable (stringToNumber : String → Number)

/-- `none` is an exception. -/
def evaluateTurn (t : Turn (Option (Option Json))) : Option LockEvalResult :=
  evaluateExistingLock stringToNumber t.content t.now t.platform

/-- After a create that has failed. -/
def retryStartupLock (lockPath : String) (deadline : Nat) (t : Turn (Option (Option Json))) :
    Option Acquired :=
  match evaluateTurn stringToNumber t with
  | none => some .error
  | some .reclaim => none
  | some .skipSpawn => some .skipSpawn
  | some .wait =>
    if deadline ≤ t.check then
      some (.timedOut ("timed out waiting for router bootstrap lock at " ++ lockPath))
    else none

def acquireStartupLock (lockPath : String) (deadline : Nat) (t : Turn (Option (Option Json))) :
    Option Acquired :=
  match t.create with
  | .created => some .lock
  | .alreadyExists | .denied => retryStartupLock stringToNumber lockPath deadline t
  | .unwritten | .failed => some .error

end Acquire

end JavaScript

namespace Go

/-- The content is `none` if the file cannot be read or holds no object. -/
def evaluateTurn (t : Turn (Option Fields)) : LockEvalResult :=
  match t.content with
  | none => .reclaim
  | some fields => evaluateExistingLock fields t.now t.platform

def acquireRouterLock (deadline : Nat) (t : Turn (Option Fields)) : Option Acquired :=
  match t.create with
  -- the error of the write is ignored
  | .created | .unwritten => some .lock
  | .alreadyExists =>
    match evaluateTurn t with
    | .reclaim => none
    | .skipSpawn => some .skipSpawn
    | .wait =>
      if deadline < t.check then some (.timedOut "timed out waiting for router startup lock")
      else if t.cancelled then some .error
      else none
  | .denied | .failed => some .error

/-- How the loop goes on after the verdict, by the next operation of the process. -/
def Bootstrap.Pc.acquired : Bootstrap.Pc → Option Acquired
  | .returned (.error (.failed message)) => some (.timedOut message)
  | .returned _ => some .error
  | .skipWait _ => some .skipSpawn
  | _ => none

theorem acquireRouterLock_eq (i : Bootstrap.Input) (deadline : Nat) (t : Turn (Option Fields))
    (hcreate : t.create = .alreadyExists) (hcheck : i.instant = t.check)
    (hdone : i.done = t.cancelled) :
    acquireRouterLock deadline t = (Bootstrap.onEvaluated i deadline (evaluateTurn t)).acquired := by
  unfold acquireRouterLock
  rw [hcreate]
  cases evaluateTurn t with
  | reclaim => rfl
  | skipSpawn => rfl
  | wait =>
    dsimp only [Bootstrap.onEvaluated]
    rw [hcheck, hdone]
    split_ifs <;> rfl

end Go

namespace Python

/-- `none` is an exception. -/
def evaluateTurn (t : Turn Loaded) : Option LockEvalResult :=
  evaluateLoaded t.content t.now t.platform

/-- `__aenter__` -/
def aenter (deadline : Nat) (t : Turn Loaded) : Option Acquired :=
  match t.create with
  | .created => some .lock
  | .alreadyExists =>
    -- the deadline comes before the evaluation
    if deadline ≤ t.check then some (.timedOut "timed out waiting for router bootstrap lock")
    else
      match evaluateTurn t with
      | none => some .error
      -- only a `FileNotFoundError` is suppressed
      | some .reclaim => if t.removed then none else some .error
      | some .skipSpawn => some .skipSpawn
      | some .wait => none
  | .unwritten | .denied | .failed => some .error

end Python

namespace Php

section Acquire

variable (stringLess : String → ℚ → Bool)

/-- As in Go. -/
def evaluateTurn (t : Turn (Option Fields)) : LockEvalResult :=
  match t.content with
  | none => .reclaim
  | some fields => evaluateExistingLock stringLess fields t.now t.platform

def acquireLock (deadline : Nat) (t : Turn (Option Fields)) : Option Acquired :=
  if deadline ≤ t.start then some (.timedOut "timed out waiting for router startup lock")
  else
    match t.create with
    | .created | .unwritten => some .lock
    | _ =>
      match evaluateTurn stringLess t with
      | .reclaim => none
      | .skipSpawn => some .skipSpawn
      | .wait => none

end Acquire

end Php

end Multifrost
