import Multifrost.Bindings.LockFile
import Multifrost.Lib.SharedFile

/-!
# Bootstrapping the router from Go

`ensureRouter` and `acquireRouterLock` of `golang/router_bootstrap.go`, run by one process.  As in
`Rust.RouterBootstrap`, `Pc` says at which operation the process is, and `procStep` performs it and
runs the code up to the next one; what the environment decides is its `Input`.

What a lock file contains is a parameter, with the text that is read and written: so a content may
also say who has written it.
-/

namespace Multifrost

open Json (Fields)
open Rust (LockEvalResult ProcId)

/-! ### What is seen of the lock -/

namespace Bindings

/-- What a process of any binding does with the contents of the lock file. -/
inductive LockEvent (β : Type)
  /-- a content is written, into a new file or as an update -/
  | wrote (p : ProcId) (content : β)
  /-- because of a content the process leaves the spawning to its holder -/
  | skipped (p : ProcId) (content : β)
  /-- the router that the process has waited for has not become reachable -/
  | gaveUp (p : ProcId)

/-- What is seen of an evaluation. -/
def skippedBy {β : Type} (p : ProcId) (content : Option (Option β)) :
    LockEvalResult → List (LockEvent β)
  | .skipSpawn => content.join.toList.map (.skipped p)
  | _ => []

end Bindings

namespace Go.Bootstrap

open Bindings (Pid LockEvent skippedBy)

/-! ### Where a process is -/

/-- `time.Time`, in nanoseconds. -/
abbrev Instant := Nat

def routerBootstrapTimeout : Instant := 10 * 10 ^ 9

def routerEndpoint (port : Int64) : String := "ws://127.0.0.1:" ++ toString port.toInt

/-- What `BootstrapError` wraps. -/
inductive BootstrapError
  /-- an error of the operating system -/
  | os
  /-- `ctx.Err()` -/
  | context
  | failed (text : String)
deriving DecidableEq

def notReachable (port : Int64) : BootstrapError :=
  .failed ("router did not become reachable at " ++ routerEndpoint port ++ " within 10s")

/-- What follows `updateFields`: the return with the deferred release, or the readiness loop. -/
inductive AfterUpdate
  | release (result : Except BootstrapError Unit)
  | poll

/-- The operation a process performs next. -/
inductive Pc
  /-- the first `routerReachable` -/
  | start
  /-- `os.MkdirAll` of `acquireRouterLock` -/
  | mkdirAll
  /-- `os.OpenFile` with `O_EXCL`, with the deadline of `acquireRouterLock` -/
  | openExcl (deadline : Instant)
  /-- `file.Write` into the file just created -/
  | writeNew (fd : Nat)
  /-- `evaluateExistingLock` -/
  | evaluate (deadline : Instant)
  /-- `os.Remove` after "reclaim" -/
  | reclaim (deadline : Instant)
  /-- the loop that waits for another's router -/
  | skipWait (deadline : Instant)
  /-- `routerReachable` with the lock held -/
  | recheck (lock : RouterLockData)
  /-- `spawnRouterProcess` -/
  | spawn (lock : RouterLockData)
  /-- `os.WriteFile` of `updateFields`, up to the truncation -/
  | truncate (lock : RouterLockData) (after : AfterUpdate)
  /-- `os.WriteFile` of `updateFields`, the write -/
  | write (lock : RouterLockData) (fd : Nat) (after : AfterUpdate)
  /-- the readiness loop -/
  | poll (lock : RouterLockData) (deadline : Instant)
  /-- `os.Remove` of `release` -/
  | release (result : Except BootstrapError Unit)
  /-- `ensureRouter` has returned -/
  | returned (result : Except BootstrapError Unit)
  /-- the process has died -/
  | dead

/-! ### Steps -/

/-- The environment's part of a step. -/
structure Input where
  /-- the process that moves -/
  proc : ProcId
  /-- whether the operation on the file or the spawn succeeds -/
  ok : Bool := true
  /-- `routerReachable` -/
  reachable : Bool := false
  /-- `time.Now()`, for deadlines -/
  instant : Instant := 0
  /-- `time.Now()`, for the lock file -/
  now : ℚ := 0
  /-- the processes that are alive -/
  platform : Nat → Bool := fun _ => true
  /-- the pid of the router that is spawned -/
  child : Pid := ⟨1, by decide, by decide⟩
  /-- `ctx.Done()` is ready -/
  done : Bool := false
  /-- the process dies instead of going on -/
  dies : Bool := false

/-- What follows the verdict of `evaluateExistingLock`. -/
def onEvaluated (i : Input) (deadline : Instant) : LockEvalResult → Pc
  | .reclaim => .reclaim deadline
  | .skipSpawn => .skipWait (i.instant + routerBootstrapTimeout)
  | .wait =>
    if deadline < i.instant then
      .returned (.error (.failed "timed out waiting for router startup lock"))
    else if i.done then .returned (.error .context)
    else .openExcl deadline

/-- What follows an update. -/
def onUpdated (i : Input) (lock : RouterLockData) : AfterUpdate → Pc
  | .release result => .release result
  | .poll => .poll lock (i.instant + routerBootstrapTimeout)

section ProcStep

variable {β : Type} (text : β → Fields) (file : Fields → β)

/-- `evaluateExistingLock` of the content at the path. -/
def evaluateContent (i : Input) : Option (Option β) → LockEvalResult
  | some (some content) => evaluateExistingLock (text content) i.now i.platform
  | _ => .reclaim

/-- One operation of a process, and the code after it up to the next one.  The errors of writing,
updating and removing the lock file are ignored by the source. -/
def procStep (port : Int64) (pid : Pid) (i : Input) (fs : SharedFile β) :
    Pc → Option (SharedFile β × Pc × List (LockEvent β))
  | .start => some (fs, if i.reachable then .returned (.ok ()) else .mkdirAll, [])
  | .mkdirAll =>
    some (fs, if i.ok then .openExcl (i.instant + routerBootstrapTimeout)
      else .returned (.error .os), [])
  | .openExcl deadline =>
    if i.ok then
      match fs.createNew with
      | some (fd, fs') => some (fs', .writeNew fd, [])
      | none => some (fs, .evaluate deadline, [])
    else some (fs, .returned (.error .os), [])
  | .writeNew fd =>
    let lock := newRouterLockData pid port i.now
    let content := file lock.toFields
    -- there is a guard even if nothing was written
    if i.ok then some (fs.write fd content, .recheck lock, [.wrote i.proc content])
    else some (fs, .recheck lock, [])
  | .evaluate deadline =>
    let result := evaluateContent text i fs.read
    some (fs, onEvaluated i deadline result, skippedBy i.proc fs.read result)
  | .reclaim deadline => some (if i.ok then fs.remove else fs, .openExcl deadline, [])
  | .skipWait deadline =>
    if i.instant < deadline then
      if i.reachable then some (fs, .returned (.ok ()), [])
      else if i.done then some (fs, .returned (.error .context), [])
      else some (fs, .skipWait deadline, [])
    else some (fs, .returned (.error (notReachable port)), [.gaveUp i.proc])
  | .recheck lock =>
    some (fs, if i.reachable then .truncate { lock with status := "ready" } (.release (.ok ()))
      else .spawn lock, [])
  | .spawn lock =>
    some (fs, if i.ok then .truncate { lock with routerPid := some i.child.val } .poll
      else .truncate { lock with status := "failed" } (.release (.error .os)), [])
  | .truncate lock after =>
    -- by path: this is whatever file the path names now, or a new one
    if i.ok then some (fs.openTruncate.2, .write lock fs.openTruncate.1 after, [])
    else some (fs, onUpdated i lock after, [])
  | .write lock fd after =>
    let content := file lock.toFields
    if i.ok then some (fs.write fd content, onUpdated i lock after, [.wrote i.proc content])
    else some (fs, onUpdated i lock after, [])
  | .poll lock deadline =>
    some (fs, if i.reachable then .truncate { lock with status := "ready" } (.release (.ok ()))
      else if deadline < i.instant then
        .truncate { lock with status := "failed" } (.release (.error (notReachable port)))
      else if i.done then .truncate { lock with status := "failed" } (.release (.error .context))
      else .poll lock deadline, [])
  | .release result =>
    -- by path again
    some (if i.ok then fs.remove else fs, .returned result, [])
  | .returned _ => none
  | .dead => none

end ProcStep

end Go.Bootstrap

end Multifrost
