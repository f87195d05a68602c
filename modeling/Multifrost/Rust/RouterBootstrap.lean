import Mathlib.Algebra.Group.Nat.Defs
import Mathlib.Data.Rat.Defs
import Multifrost.Lib.SharedFile
import Multifrost.Lib.TransitionSystem
import Multifrost.Rust.Error

/-!
# Bootstrapping the router

`bootstrap_router` of `rust/src/router_bootstrap.rs`, run by any number of processes that share one
lock path.  A process that does not reach the router creates the lock file exclusively, writes its
`LockFileData` into it, spawns the router and waits for it; when the file exists it evaluates the
content and removes it, waits, or leaves the spawning to the holder.

`Pc` says at which operation a process is, and `procStep` performs it and runs the code up to the
next one.  Creating, writing, reading, truncating and removing the lock file are separate
operations: `AcquiredLock::update` is `std::fs::write`, which opens the path, truncates it and then
writes, and dropping the guard removes the path.  What the environment decides in a step is its
`Input`.

A file's content is what `serde_json::from_str` makes of it: `none` for the empty file, and the
record for its JSON text.  Times of the system clock are rationals, in seconds, and the rounding of
`f64` is not modelled; `Instant`s and `Duration`s are in nanoseconds.
-/

namespace Multifrost.Rust

/-! ### Configuration -/

abbrev Instant := Nat

def Duration.fromSecs (n : Nat) : Duration := n * 10 ^ 9

def Duration.asSecs (d : Duration) : ℚ := (d : ℚ) / 10 ^ 9

structure RouterEndpointConfig where
  host : String
  port : UInt16

def RouterEndpointConfig.wsUrl (e : RouterEndpointConfig) : String :=
  "ws://" ++ e.host ++ ":" ++ toString e.port

structure RouterBootstrapConfig where
  endpoint : RouterEndpointConfig
  readinessTimeout : Duration

/-! ### The lock file -/

structure LockFileData where
  format : String
  pid : UInt32
  routerPid : Option UInt32
  port : UInt16
  createdAtUnix : ℚ
  expiresAtUnix : ℚ
  status : String
  language : String
deriving DecidableEq

inductive LockEvalResult
  | reclaim
  | skipSpawn
  | wait
deriving DecidableEq

/-- `platform` is what the operating system says about a pid. -/
def isProcessAlive (platform : UInt32 → Bool) (pid : UInt32) : Bool :=
  if pid = 0 then false else platform pid

/-- The six rules; `content` is `none` when the file cannot be read and `some none` when it does
not parse. -/
def evaluateExistingLock (content : Option (Option LockFileData)) (now : ℚ)
    (platform : UInt32 → Bool) : LockEvalResult :=
  match content with
  | none => .reclaim
  | some none => .reclaim
  | some (some lock) =>
    if lock.format ≠ "v1" then .reclaim
    else if lock.expiresAtUnix < now then .reclaim
    else if !isProcessAlive platform lock.pid then .reclaim
    else if lock.status = "failed" then .reclaim
    else if lock.routerPid.any (isProcessAlive platform) then .skipSpawn
    else .wait

/-- What `acquire_lock` writes into a file it has created. -/
def newLockFileData (pid : UInt32) (port : UInt16) (staleAfter : Duration) (now : ℚ) :
    LockFileData :=
  ⟨"v1", pid, none, port, now, now + staleAfter.asSecs, "starting", "rust"⟩

/-! ### Where a process is -/

/-- What follows an update of the lock file: the end of `bootstrap_router`, or the readiness
loop. -/
inductive AfterUpdate
  | drop (result : Except MultifrostError Unit)
  | poll (child : UInt32)

/-- The operation a process performs next. -/
inductive Pc
  /-- the first `router_is_reachable` -/
  | start
  /-- `create_dir_all` of `acquire_lock` -/
  | createDir
  /-- `OpenOptions::create_new`, with the deadline of `acquire_lock` -/
  | createNew (deadline : Instant)
  /-- `file.write_all` into the file just created -/
  | writeNew (fd : Nat)
  /-- `evaluate_existing_lock` -/
  | evaluate (deadline : Instant)
  /-- `remove_file` after `Reclaim` -/
  | reclaim (deadline : Instant)
  /-- the loop that waits for another's router -/
  | skipWait (deadline : Instant)
  /-- `router_is_reachable` with the lock held -/
  | recheck (lock : LockFileData)
  /-- `spawn_router_process` -/
  | spawn (lock : LockFileData)
  /-- `std::fs::write` of `update`, up to the truncation -/
  | truncate (lock : LockFileData) (after : AfterUpdate)
  /-- `std::fs::write` of `update`, the write -/
  | write (lock : LockFileData) (fd : Nat) (after : AfterUpdate)
  /-- the readiness loop -/
  | poll (lock : LockFileData) (child : UInt32) (deadline : Instant)
  /-- `remove_file` of the guard's `drop` -/
  | drop (result : Except MultifrostError Unit)
  /-- `bootstrap_router` has returned -/
  | returned (result : Except MultifrostError Unit)
  /-- the process has died -/
  | dead

/-- `acquire_lock` has returned the guard, and the guard is not dropped. -/
def Pc.holding : Pc → Bool
  | .recheck _ | .spawn _ | .truncate .. | .write .. | .poll .. | .drop _ => true
  | _ => false

/-! ### Steps -/

abbrev ProcId := Nat

inductive Event
  | created (p : ProcId)
  | evaluated (p : ProcId) (result : LockEvalResult)
  | reclaimed (p : ProcId)
  | acquired (p : ProcId)
  | spawned (p : ProcId) (child : UInt32)
  | released (p : ProcId)
deriving DecidableEq

def Event.proc : Event → ProcId
  | .created p | .evaluated p _ | .reclaimed p | .acquired p | .spawned p _ | .released p => p

/-- The environment's part of a step. -/
structure Input where
  /-- the process that moves -/
  proc : ProcId
  /-- whether the operation on the file or the spawn succeeds -/
  ok : Bool := true
  /-- `router_is_reachable` -/
  reachable : Bool := false
  /-- `Instant::now()` -/
  instant : Instant := 0
  /-- `SystemTime::now()` -/
  now : ℚ := 0
  /-- `platform_is_process_alive` -/
  platform : UInt32 → Bool := fun _ => true
  /-- the pid of the router that is spawned -/
  child : UInt32 := 1
  /-- the process dies instead of going on -/
  dies : Bool := false

/-- What follows the verdict of `evaluate_existing_lock`. -/
def onEvaluated (config : RouterBootstrapConfig) (i : Input) (deadline : Instant) :
    LockEvalResult → Pc
  | .reclaim => .reclaim deadline
  | .skipSpawn => .skipWait (i.instant + config.readinessTimeout)
  | .wait =>
    if deadline ≤ i.instant then
      .returned (.error (.bootstrapFailure "timed out waiting for router bootstrap lock"))
    else .createNew deadline

/-- What follows an update. -/
def onUpdated (config : RouterBootstrapConfig) (i : Input) (lock : LockFileData) :
    AfterUpdate → Pc
  | .drop result => .drop result
  | .poll child => .poll lock child (i.instant + config.readinessTimeout)

/-- One operation of a process, and the code after it up to the next one.  The errors of `update`,
of both removals and of the removal of a reclaimed file are ignored by the source. -/
def procStep (config : RouterBootstrapConfig) (pid : UInt32) (i : Input)
    (fs : SharedFile LockFileData) : Pc → Option (SharedFile LockFileData × Pc × List Event)
  | .start => some (fs, if i.reachable then .returned (.ok ()) else .createDir, [])
  | .createDir =>
    some (fs, if i.ok then .createNew (i.instant + Duration.fromSecs 10)
      else .returned (.error .io), [])
  | .createNew deadline =>
    if i.ok then
      match fs.createNew with
      | some (fd, fs') => some (fs', .writeNew fd, [.created i.proc])
      | none => some (fs, .evaluate deadline, [])
    else some (fs, .returned (.error .io), [])
  | .writeNew fd =>
    if i.ok then
      let data := newLockFileData pid config.endpoint.port (Duration.fromSecs 10) i.now
      some (fs.write fd data, .recheck data, [.acquired i.proc])
    -- there is no guard yet, and the empty file stays
    else some (fs, .returned (.error .io), [])
  | .evaluate deadline =>
    let result := evaluateExistingLock fs.read i.now i.platform
    some (fs, onEvaluated config i deadline result, [.evaluated i.proc result])
  | .reclaim deadline =>
    some (if i.ok then fs.remove else fs, .createNew deadline, [.reclaimed i.proc])
  | .skipWait deadline =>
    some (fs, if i.instant < deadline then
        if i.reachable then .returned (.ok ()) else .skipWait deadline
      else .returned (.error (.bootstrapFailure
        "timeout waiting for router to become reachable (skip_spawn)")), [])
  | .recheck lock =>
    some (fs, if i.reachable then .truncate { lock with status := "ready" } (.drop (.ok ()))
      else .spawn lock, [])
  | .spawn lock =>
    if i.ok then
      some (fs, .truncate { lock with routerPid := some i.child } (.poll i.child),
        [.spawned i.proc i.child])
    else some (fs, .drop (.error .spawn), [])
  | .truncate lock after =>
    -- by path: this is whatever file the path names now, or a new one
    if i.ok then some (fs.openTruncate.2, .write lock fs.openTruncate.1 after, [])
    else some (fs, onUpdated config i lock after, [])
  | .write lock fd after =>
    some (if i.ok then fs.write fd lock else fs, onUpdated config i lock after, [])
  | .poll lock child deadline =>
    some (fs, if i.reachable then .truncate { lock with status := "ready" } (.drop (.ok ()))
      else if deadline ≤ i.instant then
        .truncate { lock with status := "failed" } (.drop (.error
          (.routerNotReachable config.endpoint.wsUrl config.readinessTimeout)))
      else .poll lock child deadline, [])
  | .drop result =>
    -- by path again
    some (if i.ok then fs.remove else fs, .returned result, [.released i.proc])
  | .returned _ => none
  | .dead => none

/-- The lock path, and where each process is. -/
structure State where
  fs : SharedFile LockFileData
  procs : ProcId → Pc

/-- Any number of processes that bootstrap with one lock path, each with its own configuration and
pid. -/
def bootstrapRouter (config : ProcId → RouterBootstrapConfig) (pid : ProcId → UInt32) :
    TransitionSystem State Input Event where
  init := ⟨SharedFile.empty, fun _ => .start⟩
  step i s :=
    if i.dies then some (⟨s.fs, Function.update s.procs i.proc .dead⟩, [])
    else (procStep (config i.proc) (pid i.proc) i s.fs (s.procs i.proc)).map fun r =>
      (⟨r.1, Function.update s.procs i.proc r.2.1⟩, r.2.2)

end Multifrost.Rust
