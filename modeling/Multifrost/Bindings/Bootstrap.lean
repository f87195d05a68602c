import Multifrost.Golang.RouterBootstrap

/-!
# Processes of several bindings at one lock path

`bootstrap` are any number of Rust and Go processes, each with its own port, that bootstrap with one
lock file.  A content of the file is its text and who has written it; what a process does depends on
the text only.

`Rust.procStepOn` is the code of `Rust.procStep` over a file that is written in several bindings
(`procStepOn_eq`).
-/

namespace Multifrost

open Bindings (LockEvent Pid skippedBy)
open Json (Fields)
open Rust (LockEvalResult ProcId)

/-! ### Rust -/

namespace Rust

section ProcStepOn

variable {β : Type} (decode : β → Option LockFileData) (encode : LockFileData → β)

/-- `procStep` where contents are decoded when they are read, and encoded when they are written. -/
def procStepOn (config : RouterBootstrapConfig) (pid : UInt32) (i : Input) (fs : SharedFile β) :
    Pc → Option (SharedFile β × Pc × List (LockEvent β))
  | .start => some (fs, if i.reachable then .returned (.ok ()) else .createDir, [])
  | .createDir =>
    some (fs, if i.ok then .createNew (i.instant + Duration.fromSecs 10)
      else .returned (.error .io), [])
  | .createNew deadline =>
    if i.ok then
      match fs.createNew with
      | some (fd, fs') => some (fs', .writeNew fd, [])
      | none => some (fs, .evaluate deadline, [])
    else some (fs, .returned (.error .io), [])
  | .writeNew fd =>
    let data := newLockFileData pid config.endpoint.port (Duration.fromSecs 10) i.now
    if i.ok then some (fs.write fd (encode data), .recheck data, [.wrote i.proc (encode data)])
    else some (fs, .returned (.error .io), [])
  | .evaluate deadline =>
    let result := evaluateExistingLock (fs.read.map fun content => content.bind decode) i.now
      i.platform
    some (fs, onEvaluated config i deadline result, skippedBy i.proc fs.read result)
  | .reclaim deadline => some (if i.ok then fs.remove else fs, .createNew deadline, [])
  | .skipWait deadline =>
    if i.instant < deadline then
      some (fs, if i.reachable then .returned (.ok ()) else .skipWait deadline, [])
    else some (fs, .returned (.error (.bootstrapFailure
      "timeout waiting for router to become reachable (skip_spawn)")), [.gaveUp i.proc])
  | .recheck lock =>
    some (fs, if i.reachable then .truncate { lock with status := "ready" } (.drop (.ok ()))
      else .spawn lock, [])
  | .spawn lock =>
    some (fs, if i.ok then .truncate { lock with routerPid := some i.child } (.poll i.child)
      else .drop (.error .spawn), [])
  | .truncate lock after =>
    if i.ok then some (fs.openTruncate.2, .write lock fs.openTruncate.1 after, [])
    else some (fs, onUpdated config i lock after, [])
  | .write lock fd after =>
    if i.ok then
      some (fs.write fd (encode lock), onUpdated config i lock after, [.wrote i.proc (encode lock)])
    else some (fs, onUpdated config i lock after, [])
  | .poll lock child deadline =>
    some (fs, if i.reachable then .truncate { lock with status := "ready" } (.drop (.ok ()))
      else if deadline ≤ i.instant then
        .truncate { lock with status := "failed" } (.drop (.error
          (.routerNotReachable config.endpoint.wsUrl config.readinessTimeout)))
      else .poll lock child deadline, [])
  | .drop result => some (if i.ok then fs.remove else fs, .returned result, [])
  | .returned _ => none
  | .dead => none

end ProcStepOn

/-- Where the contents are records, a process moves as it does among its likes. -/
theorem procStepOn_eq (config : RouterBootstrapConfig) (pid : UInt32) (i : Input)
    (fs : SharedFile LockFileData) (pc : Pc) :
    (procStepOn some id config pid i fs pc).map (fun r => (r.1, r.2.1)) =
      (procStep config pid i fs pc).map fun r => (r.1, r.2.1) := by
  cases pc with
  | createNew deadline =>
    unfold procStepOn procStep
    dsimp only
    split_ifs
    · cases fs.createNew <;> rfl
    · rfl
  | writeNew | spawn | truncate | write =>
    unfold procStepOn procStep
    dsimp only
    split_ifs <;> rfl
  | skipWait deadline =>
    unfold procStepOn procStep
    dsimp only
    split_ifs <;> rfl
  | evaluate deadline =>
    have hread : (fs.read.map fun content => content.bind some) = fs.read := by
      cases fs.read with
      | none => rfl
      | some content => cases content <;> rfl
    unfold procStepOn procStep
    dsimp only
    rw [hread]
    rfl
  | _ => rfl

end Rust

/-! ### Both bindings -/

namespace Bindings

/-- A content of the lock file. -/
structure Written where
  writer : ProcId
  text : Fields

/-- A process that bootstraps a router. -/
inductive Bootstrapper
  | rust (config : Rust.RouterBootstrapConfig)
  | go (port : Int64)

/-- The port on which it expects the router. -/
def Bootstrapper.port : Bootstrapper → Int
  | .rust config => config.endpoint.port.toNat
  | .go port => port.toInt

inductive Pc
  | rust (pc : Rust.Pc)
  | go (pc : Go.Bootstrap.Pc)

def Bootstrapper.start : Bootstrapper → Pc
  | .rust _ => .rust .start
  | .go _ => .go .start

def Pc.dead : Pc → Pc
  | .rust _ => .rust .dead
  | .go _ => .go .dead

abbrev Input := Go.Bootstrap.Input

/-- The environment as a Rust process sees it. -/
def rustInput (i : Input) : Rust.Input where
  proc := i.proc
  ok := i.ok
  reachable := i.reachable
  instant := i.instant
  now := i.now
  platform pid := i.platform pid.toNat
  child := UInt32.ofNat i.child.val
  dies := i.dies

def procStep (b : Bootstrapper) (pid : Pid) (i : Input) (fs : SharedFile Written) :
    Pc → Option (SharedFile Written × Pc × List (LockEvent Written))
  | .rust pc =>
    match b with
    | .rust config =>
      (Rust.procStepOn (fun content => Rust.lockFileData content.text)
        (fun data => ⟨i.proc, data.toFields⟩) config (UInt32.ofNat pid.val) (rustInput i) fs pc).map
        fun r => (r.1, .rust r.2.1, r.2.2)
    | .go _ => none
  | .go pc =>
    match b with
    | .rust _ => none
    | .go port =>
      (Go.Bootstrap.procStep Written.text (fun text => ⟨i.proc, text⟩) port pid i fs pc).map
        fun r => (r.1, .go r.2.1, r.2.2)

/-- The lock path, and where each process is. -/
structure State where
  fs : SharedFile Written
  procs : ProcId → Pc

/-- Any number of processes of both bindings. -/
def bootstrap (b : ProcId → Bootstrapper) (pid : ProcId → Pid) :
    TransitionSystem State Input (LockEvent Written) where
  init := ⟨SharedFile.empty, fun p => (b p).start⟩
  step i s :=
    if i.dies then some (⟨s.fs, Function.update s.procs i.proc (s.procs i.proc).dead⟩, [])
    else (procStep (b i.proc) (pid i.proc) i s.fs (s.procs i.proc)).map fun r =>
      (⟨r.1, Function.update s.procs i.proc r.2.1⟩, r.2.2)

end Bindings

end Multifrost
