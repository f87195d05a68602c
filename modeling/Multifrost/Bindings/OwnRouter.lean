import Multifrost.Bindings.Bootstrap
import Multifrost.Rust.Safety.LockExclusion

/-!
# Waiting for the router of one's own port

A process that finds a lock in force with a live router leaves the spawning to the holder and waits
for the router of its own port.  Nothing compares the ports: so a process may wait for a router that
somebody else starts on another port, until it gives up (`skipped_other_port`).

`waitsForOwn_iff` says in which runs all wait for their own router: exactly those in which every lock
that is found in force with a live router names the port of the process that finds it.  For by
`Provenance` the field `port` of a content is the port of the process that wrote it.
-/

namespace Multifrost

/-- The data of the guard. -/
def Go.Bootstrap.Pc.lock : Go.Bootstrap.Pc → Option Go.RouterLockData
  | .recheck lock | .spawn lock | .truncate lock _ | .write lock _ _ | .poll lock _ => some lock
  | _ => none

namespace Bindings

open Json (Fields)
open Rust (LockEvalResult ProcId)
open TransitionSystem

variable {b : ProcId → Bootstrapper} {pid : ProcId → Pid}

/-! ### Locks -/

/-- The field `port` of a text. -/
def portField (text : Fields) : Option Int :=
  match text.lookup "port" with
  | some (.int n) => some n
  | _ => none

/-- The text is a lock that has not expired or failed, with a live holder and a live router. -/
def Bootstrapper.inForce (b : Bootstrapper) (text : Fields) (now : ℚ) (platform : Nat → Bool) :
    Bool :=
  match b with
  | .rust _ =>
    match Rust.lockFileData text with
    | none => false
    | some lock => decide (lock.format = "v1") && !decide (lock.expiresAtUnix < now) &&
        Rust.isProcessAlive (fun pid => platform pid.toNat) lock.pid &&
        !decide (lock.status = "failed") &&
        lock.routerPid.any (Rust.isProcessAlive fun pid => platform pid.toNat)
  | .go _ =>
    match Go.unmarshal text with
    | none => false
    | some lock => decide (lock.format = "v1") && !decide (now > lock.expiresAtUnix) &&
        Go.isProcessAlive platform lock.pid && !decide (lock.status = "failed") &&
        lock.routerPid.any (Go.isProcessAlive platform)

theorem rust_skipSpawn_iff (config : Rust.RouterBootstrapConfig) (content : Written) (now : ℚ)
    (platform : Nat → Bool) :
    Rust.evaluateExistingLock (some (Rust.lockFileData content.text)) now
        (fun pid => platform pid.toNat) = .skipSpawn ↔
      (Bootstrapper.rust config).inForce content.text now platform = true := by
  unfold Bootstrapper.inForce Rust.evaluateExistingLock
  cases Rust.lockFileData content.text with
  | none => simp
  | some lock =>
    dsimp only
    split_ifs <;> simp_all

theorem go_skipSpawn_iff (port : Int64) (content : Written) (now : ℚ) (platform : Nat → Bool) :
    Go.evaluateExistingLock content.text now platform = .skipSpawn ↔
      (Bootstrapper.go port).inForce content.text now platform = true := by
  unfold Bootstrapper.inForce Go.evaluateExistingLock
  cases Go.unmarshal content.text with
  | none => simp
  | some lock =>
    dsimp only
    split_ifs <;> simp_all

theorem portField_rust (data : Rust.LockFileData) :
    portField data.toFields = some (data.port.toNat : Int) := by
  obtain ⟨format, pid, routerPid, port, createdAtUnix, expiresAtUnix, status, language⟩ := data
  cases routerPid <;> rfl

theorem portField_go (data : Go.RouterLockData) : portField data.toFields = some data.port := rfl

/-! ### What a step can do -/

/-- The port in the data of the guard. -/
def Pc.lockPort : Pc → Option Int
  | .rust pc => pc.lock.map fun lock => lock.port.toNat
  | .go pc => pc.lock.map fun lock => lock.port

/-- The process is about to evaluate the lock file. -/
def Pc.evaluating : Pc → Bool
  | .rust (.evaluate _) | .go (.evaluate _) => true
  | _ => false

/-- The process waits for another's router. -/
def Pc.waiting : Pc → Bool
  | .rust (.skipWait _) | .go (.skipWait _) => true
  | _ => false

/-- One operation of a process: the file, the next operation and what is seen. -/
inductive Move (b : Bootstrapper) (i : Input) (fs : SharedFile Written) (pc : Pc) :
    SharedFile Written → Pc → List (LockEvent Written) → Prop
  | quiet {fs' : SharedFile Written} {pc' : Pc}
      (hfiles : ∀ f w, fs'.files f = some w → fs.files f = some w)
      (hport : ∀ n, pc'.lockPort = some n → n = b.port ∨ pc.lockPort = some n)
      (hwait : pc'.waiting = true → pc.waiting = true)
      (hforce : pc.evaluating = true → ∀ w, fs.read = some (some w) →
        b.inForce w.text i.now i.platform = false) : Move b i fs pc fs' pc' []
  | wrote {fd : Nat} {text : Fields} {pc' : Pc}
      (htext : portField text = some b.port ∨ ∃ n, portField text = some n ∧ pc.lockPort = some n)
      (hport : ∀ n, pc'.lockPort = some n → portField text = some n)
      (hwait : pc'.waiting = false) (heval : pc.evaluating = false) :
      Move b i fs pc (fs.write fd ⟨i.proc, text⟩) pc' [.wrote i.proc ⟨i.proc, text⟩]
  | skipped {w : Written} {pc' : Pc} (hread : fs.read = some (some w))
      (hforce : b.inForce w.text i.now i.platform = true) (heval : pc.evaluating = true)
      (hport : pc'.lockPort = none) : Move b i fs pc fs pc' [.skipped i.proc w]
  | gaveUp {pc' : Pc} (hwaiting : pc.waiting = true) (hport : pc'.lockPort = none)
      (hwait : pc'.waiting = false) (heval : pc.evaluating = false) :
      Move b i fs pc fs pc' [.gaveUp i.proc]

section Moves

variable {i : Input} {fs fs' : SharedFile Written} {evs : List (LockEvent Written)}

/-- A step that evaluates nothing and leaves the contents alone. -/
theorem Move.idle {b : Bootstrapper} {pc pc' : Pc}
    (hfiles : ∀ f w, fs'.files f = some w → fs.files f = some w)
    (hport : ∀ n, pc'.lockPort = some n → pc.lockPort = some n)
    (hwait : pc'.waiting = true → pc.waiting = true) (heval : pc.evaluating = false) :
    Move b i fs pc fs' pc' [] := by
  refine .quiet hfiles (fun n hn => Or.inr (hport n hn)) hwait fun h => ?_
  rw [heval] at h
  cases h

/-- A step that evaluates nothing, leaves the file alone and goes where nothing is waited for. -/
theorem Move.kept {b : Bootstrapper} {pc pc' : Pc}
    (hport : ∀ n, pc'.lockPort = some n → pc.lockPort = some n) (hwait : pc'.waiting = false)
    (heval : pc.evaluating = false) : Move b i fs pc fs pc' [] := by
  refine .idle (fun _ _ h => h) hport (fun h => ?_) heval
  rw [hwait] at h
  cases h

/-- An evaluation that finds no content. -/
theorem Move.unread {b : Bootstrapper} {pc pc' : Pc} (hread : ∀ w, fs.read ≠ some (some w))
    (hport : ∀ n, pc'.lockPort = some n → pc.lockPort = some n)
    (hwait : pc'.waiting = true → pc.waiting = true) : Move b i fs pc fs pc' [] :=
  .quiet (fun _ _ h => h) (fun n hn => Or.inr (hport n hn)) hwait fun _ w hw => absurd hw (hread w)

/-- An evaluation of a content, with its verdict. -/
theorem Move.judged {b : Bootstrapper} {pc pc' : Pc} {w : Written} {result : LockEvalResult}
    (hread : fs.read = some (some w)) (heval : pc.evaluating = true)
    (hskip : result = .skipSpawn ↔ b.inForce w.text i.now i.platform = true)
    (hport : pc'.lockPort = none) (hwait : result ≠ .skipSpawn → pc'.waiting = false) :
    Move b i fs pc fs pc' (skippedBy i.proc (some (some w)) result) := by
  have hquiet : result ≠ .skipSpawn → Move b i fs pc fs pc' [] := by
    intro hne
    refine .quiet (fun _ _ h => h) (fun n h => ?_) (fun h => ?_) fun _ w' hw' => ?_
    · rw [hport] at h
      cases h
    · rw [hwait hne] at h
      cases h
    · obtain rfl : w = w' := by simpa using hread.symm.trans hw'
      exact Bool.eq_false_iff.mpr fun hforce => hne (hskip.mpr hforce)
  cases result with
  | skipSpawn => exact .skipped hread (hskip.mp rfl) heval hport
  | reclaim => exact hquiet nofun
  | wait => exact hquiet nofun

theorem rust_onEvaluated (config : Rust.RouterBootstrapConfig) (i : Rust.Input)
    (deadline : Rust.Instant) (result : LockEvalResult) :
    (Pc.rust (Rust.onEvaluated config i deadline result)).lockPort = none ∧
      (result ≠ .skipSpawn →
        (Pc.rust (Rust.onEvaluated config i deadline result)).waiting = false) := by
  cases result with
  | reclaim => exact ⟨rfl, fun _ => rfl⟩
  | skipSpawn => exact ⟨rfl, fun h => absurd rfl h⟩
  | wait =>
    unfold Rust.onEvaluated
    dsimp only
    split_ifs <;> exact ⟨rfl, fun _ => rfl⟩

theorem go_onEvaluated (i : Input) (deadline : Go.Bootstrap.Instant) (result : LockEvalResult) :
    (Pc.go (Go.Bootstrap.onEvaluated i deadline result)).lockPort = none ∧
      (result ≠ .skipSpawn →
        (Pc.go (Go.Bootstrap.onEvaluated i deadline result)).waiting = false) := by
  cases result with
  | reclaim => exact ⟨rfl, fun _ => rfl⟩
  | skipSpawn => exact ⟨rfl, fun h => absurd rfl h⟩
  | wait =>
    unfold Go.Bootstrap.onEvaluated
    dsimp only
    split_ifs <;> exact ⟨rfl, fun _ => rfl⟩

theorem files_remove {β : Type} {fs : SharedFile β} {ok : Bool} {f : Nat} {w : β}
    (h : (if ok = true then fs.remove else fs).files f = some w) : fs.files f = some w := by
  split_ifs at h <;> exact h

/-- After an update a Rust process has the same data or none. -/
theorem rust_onUpdated (config : Rust.RouterBootstrapConfig) (i : Rust.Input)
    (lock : Rust.LockFileData) (after : Rust.AfterUpdate) :
    (∀ n, (Pc.rust (Rust.onUpdated config i lock after)).lockPort = some n →
        some (lock.port.toNat : Int) = some n) ∧
      (Pc.rust (Rust.onUpdated config i lock after)).waiting = false := by
  cases after with
  | drop result => exact ⟨fun n h => (by cases h), rfl⟩
  | poll child => exact ⟨fun n h => h, rfl⟩

/-- **Inversion** of the operations of a Rust process. -/
theorem rust_move {config : Rust.RouterBootstrapConfig} {pid : UInt32} {pc pc' : Rust.Pc}
    (h : Rust.procStepOn (fun content : Written => Rust.lockFileData content.text)
      (fun data => ⟨i.proc, data.toFields⟩) config pid (rustInput i) fs pc = some (fs', pc', evs)) :
    Move (.rust config) i fs (.rust pc) fs' (.rust pc') evs := by
  cases pc with
  | start | createDir | recheck lock | poll lock child deadline =>
    simp only [Rust.procStepOn, Option.some.injEq, Prod.mk.injEq] at h
    obtain ⟨rfl, rfl, rfl⟩ := h
    refine .idle (fun _ _ h => h) ?_ ?_ rfl
    · split_ifs <;> exact fun n h => h
    · split_ifs <;> exact fun h => h
  | createNew deadline =>
    simp only [Rust.procStepOn] at h
    split_ifs at h
    · cases hc : fs.createNew with
      | none =>
        rw [hc] at h
        simp only [Option.some.injEq, Prod.mk.injEq] at h
        obtain ⟨rfl, rfl, rfl⟩ := h
        exact .kept (fun n h => h) rfl rfl
      | some r =>
        obtain ⟨fd, fs₁⟩ := r
        rw [hc] at h
        simp only [Option.some.injEq, Prod.mk.injEq] at h
        obtain ⟨rfl, rfl, rfl⟩ := h
        exact .idle (fun _ _ h => SharedFile.files_createNew_eq_some hc h) (fun n h => h)
          (fun h => h) rfl
    · simp only [Option.some.injEq, Prod.mk.injEq] at h
      obtain ⟨rfl, rfl, rfl⟩ := h
      exact .kept (fun n h => h) rfl rfl
  | writeNew fd =>
    simp only [Rust.procStepOn] at h
    split_ifs at h <;> simp only [Option.some.injEq, Prod.mk.injEq] at h <;>
      obtain ⟨rfl, rfl, rfl⟩ := h
    · refine .wrote (Or.inl (portField_rust _)) (fun n hn => ?_) rfl rfl
      rw [portField_rust]
      exact hn
    · exact .kept (fun n h => h) rfl rfl
  | evaluate deadline =>
    simp only [Rust.procStepOn, Option.some.injEq, Prod.mk.injEq] at h
    obtain ⟨rfl, rfl, rfl⟩ := h
    rcases hread : fs.read with - | - | w
    · exact .unread (fun w hw => by cases hread.symm.trans hw) (fun n h => h) (fun h => h)
    · exact .unread (fun w hw => by cases hread.symm.trans hw) (fun n h => h) (fun h => h)
    · have hskip := rust_skipSpawn_iff config w i.now i.platform
      obtain ⟨hport, hwait⟩ := rust_onEvaluated config (rustInput i) deadline
        (Rust.evaluateExistingLock (some (Rust.lockFileData w.text)) i.now (rustInput i).platform)
      exact .judged hread rfl hskip hport hwait
  | reclaim deadline =>
    simp only [Rust.procStepOn, Option.some.injEq, Prod.mk.injEq] at h
    obtain ⟨rfl, rfl, rfl⟩ := h
    exact .idle (fun _ _ h => files_remove h) (fun n h => h) (fun h => h) rfl
  | skipWait deadline =>
    simp only [Rust.procStepOn] at h
    split_ifs at h <;> simp only [Option.some.injEq, Prod.mk.injEq] at h <;>
      obtain ⟨rfl, rfl, rfl⟩ := h
    · exact .idle (fun _ _ h => h) (fun n h => h) (fun _ => rfl) rfl
    · exact .idle (fun _ _ h => h) (fun n h => h) (fun _ => rfl) rfl
    · exact .gaveUp rfl rfl rfl rfl
  | spawn lock =>
    simp only [Rust.procStepOn, Option.some.injEq, Prod.mk.injEq] at h
    obtain ⟨rfl, rfl, rfl⟩ := h
    refine .idle (fun _ _ h => h) ?_ ?_ rfl
    · split_ifs
      · exact fun n h => h
      · exact fun n h => by cases h
    · split_ifs <;> exact fun h => h
  | truncate lock after =>
    obtain ⟨hport, hwait⟩ := rust_onUpdated config (rustInput i) lock after
    simp only [Rust.procStepOn] at h
    split_ifs at h <;> simp only [Option.some.injEq, Prod.mk.injEq] at h <;>
      obtain ⟨rfl, rfl, rfl⟩ := h
    · exact .idle (fun _ _ h => SharedFile.files_openTruncate_eq_some h) (fun n h => h)
        (fun h => h) rfl
    · exact .kept hport hwait rfl
  | write lock fd after =>
    obtain ⟨hport, hwait⟩ := rust_onUpdated config (rustInput i) lock after
    simp only [Rust.procStepOn] at h
    split_ifs at h <;> simp only [Option.some.injEq, Prod.mk.injEq] at h <;>
      obtain ⟨rfl, rfl, rfl⟩ := h
    · refine .wrote (Or.inr ⟨_, portField_rust lock, rfl⟩) (fun n hn => ?_) hwait rfl
      rw [portField_rust]
      exact hport n hn
    · exact .kept hport hwait rfl
  | drop result =>
    simp only [Rust.procStepOn, Option.some.injEq, Prod.mk.injEq] at h
    obtain ⟨rfl, rfl, rfl⟩ := h
    exact .idle (fun _ _ h => files_remove h) (fun n h => by cases h) (fun h => by cases h) rfl
  | returned result => cases h
  | dead => cases h

/-- After an update a Go process has the same data or none. -/
theorem go_onUpdated (i : Input) (lock : Go.RouterLockData) (after : Go.Bootstrap.AfterUpdate) :
    (∀ n, (Pc.go (Go.Bootstrap.onUpdated i lock after)).lockPort = some n → some lock.port = some n) ∧
      (Pc.go (Go.Bootstrap.onUpdated i lock after)).waiting = false := by
  cases after with
  | release result => exact ⟨fun n h => (by cases h), rfl⟩
  | poll => exact ⟨fun n h => h, rfl⟩

/-- **Inversion** of the operations of a Go process. -/
theorem go_move {port : Int64} {pid : Pid} {pc pc' : Go.Bootstrap.Pc}
    (h : Go.Bootstrap.procStep Written.text (fun text => ⟨i.proc, text⟩) port pid i fs pc =
      some (fs', pc', evs)) : Move (.go port) i fs (.go pc) fs' (.go pc') evs := by
  cases pc with
  | start | mkdirAll | recheck lock | spawn lock | poll lock deadline =>
    simp only [Go.Bootstrap.procStep, Option.some.injEq, Prod.mk.injEq] at h
    obtain ⟨rfl, rfl, rfl⟩ := h
    refine .idle (fun _ _ h => h) ?_ ?_ rfl
    · split_ifs <;> exact fun n h => h
    · split_ifs <;> exact fun h => h
  | openExcl deadline =>
    simp only [Go.Bootstrap.procStep] at h
    split_ifs at h
    · cases hc : fs.createNew with
      | none =>
        rw [hc] at h
        simp only [Option.some.injEq, Prod.mk.injEq] at h
        obtain ⟨rfl, rfl, rfl⟩ := h
        exact .kept (fun n h => h) rfl rfl
      | some r =>
        obtain ⟨fd, fs₁⟩ := r
        rw [hc] at h
        simp only [Option.some.injEq, Prod.mk.injEq] at h
        obtain ⟨rfl, rfl, rfl⟩ := h
        exact .idle (fun _ _ h => SharedFile.files_createNew_eq_some hc h) (fun n h => h)
          (fun h => h) rfl
    · simp only [Option.some.injEq, Prod.mk.injEq] at h
      obtain ⟨rfl, rfl, rfl⟩ := h
      exact .kept (fun n h => h) rfl rfl
  | writeNew fd =>
    simp only [Go.Bootstrap.procStep] at h
    split_ifs at h <;> simp only [Option.some.injEq, Prod.mk.injEq] at h <;>
      obtain ⟨rfl, rfl, rfl⟩ := h
    · refine .wrote (Or.inl (portField_go _)) (fun n hn => ?_) rfl rfl
      rw [portField_go]
      exact hn
    · refine .quiet (fun _ _ h => h) (fun n hn => ?_) (fun h => h) nofun
      exact Or.inl (Option.some.inj hn).symm
  | evaluate deadline =>
    simp only [Go.Bootstrap.procStep, Option.some.injEq, Prod.mk.injEq] at h
    obtain ⟨rfl, rfl, rfl⟩ := h
    rcases hread : fs.read with - | - | w
    · exact .unread (fun w hw => by cases hread.symm.trans hw) (fun n h => h) (fun h => h)
    · exact .unread (fun w hw => by cases hread.symm.trans hw) (fun n h => h) (fun h => h)
    · have hskip := go_skipSpawn_iff port w i.now i.platform
      obtain ⟨hport, hwait⟩ := go_onEvaluated i deadline
        (Go.evaluateExistingLock w.text i.now i.platform)
      exact .judged hread rfl hskip hport hwait
  | reclaim deadline =>
    simp only [Go.Bootstrap.procStep, Option.some.injEq, Prod.mk.injEq] at h
    obtain ⟨rfl, rfl, rfl⟩ := h
    exact .idle (fun _ _ h => files_remove h) (fun n h => h) (fun h => h) rfl
  | skipWait deadline =>
    simp only [Go.Bootstrap.procStep] at h
    split_ifs at h <;> simp only [Option.some.injEq, Prod.mk.injEq] at h <;>
      obtain ⟨rfl, rfl, rfl⟩ := h
    · exact .idle (fun _ _ h => h) (fun n h => h) (fun _ => rfl) rfl
    · exact .idle (fun _ _ h => h) (fun n h => h) (fun _ => rfl) rfl
    · exact .idle (fun _ _ h => h) (fun n h => h) (fun _ => rfl) rfl
    · exact .gaveUp rfl rfl rfl rfl
  | truncate lock after =>
    obtain ⟨hport, hwait⟩ := go_onUpdated i lock after
    simp only [Go.Bootstrap.procStep] at h
    split_ifs at h <;> simp only [Option.some.injEq, Prod.mk.injEq] at h <;>
      obtain ⟨rfl, rfl, rfl⟩ := h
    · exact .idle (fun _ _ h => SharedFile.files_openTruncate_eq_some h) (fun n h => h)
        (fun h => h) rfl
    · exact .kept hport hwait rfl
  | write lock fd after =>
    obtain ⟨hport, hwait⟩ := go_onUpdated i lock after
    simp only [Go.Bootstrap.procStep] at h
    split_ifs at h <;> simp only [Option.some.injEq, Prod.mk.injEq] at h <;>
      obtain ⟨rfl, rfl, rfl⟩ := h
    · exact .wrote (Or.inr ⟨_, portField_go lock, rfl⟩) hport hwait rfl
    · exact .kept hport hwait rfl
  | release result =>
    simp only [Go.Bootstrap.procStep, Option.some.injEq, Prod.mk.injEq] at h
    obtain ⟨rfl, rfl, rfl⟩ := h
    exact .idle (fun _ _ h => files_remove h) (fun n h => by cases h) (fun h => by cases h) rfl
  | returned result => cases h
  | dead => cases h

end Moves

/-- A step of the system is the death of a process or one of its operations. -/
theorem move_of_step {i : Input} {s s' : State} {evs : List (LockEvent Written)}
    (h : (bootstrap b pid).step i s = some (s', evs)) :
    ∃ pc, s'.procs = Function.update s.procs i.proc pc ∧
      (i.dies = true ∧ pc = (s.procs i.proc).dead ∧ s'.fs = s.fs ∧ evs = [] ∨
        i.dies = false ∧ Move (b i.proc) i s.fs (s.procs i.proc) s'.fs pc evs) := by
  simp only [bootstrap] at h
  split_ifs at h with hdies
  · simp only [Option.some.injEq, Prod.mk.injEq] at h
    obtain ⟨rfl, rfl⟩ := h
    exact ⟨_, rfl, Or.inl ⟨hdies, rfl, rfl, rfl⟩⟩
  · obtain ⟨⟨fs, pc, evs'⟩, hp, hs⟩ := Option.map_eq_some_iff.mp h
    simp only [Prod.mk.injEq] at hs
    obtain ⟨rfl, rfl⟩ := hs
    refine ⟨pc, rfl, Or.inr ⟨Bool.eq_false_iff.mpr hdies, ?_⟩⟩
    generalize s.procs i.proc = old at hp
    unfold procStep at hp
    cases old with
    | rust old =>
      cases hb : b i.proc with
      | rust config =>
        rw [hb] at hp
        obtain ⟨⟨fs₁, pc₁, evs₁⟩, hstep, heq⟩ := Option.map_eq_some_iff.mp hp
        simp only [Prod.mk.injEq] at heq
        obtain ⟨rfl, rfl, rfl⟩ := heq
        exact rust_move hstep
      | go port =>
        rw [hb] at hp
        cases hp
    | go old =>
      cases hb : b i.proc with
      | rust config =>
        rw [hb] at hp
        cases hp
      | go port =>
        rw [hb] at hp
        obtain ⟨⟨fs₁, pc₁, evs₁⟩, hstep, heq⟩ := Option.map_eq_some_iff.mp hp
        simp only [Prod.mk.injEq] at heq
        obtain ⟨rfl, rfl, rfl⟩ := heq
        exact go_move hstep

/-! ### Who wrote what -/

/-- Every content was written by the process that it names, with the port of that process; the guards
have the ports of their processes; and who waits has skipped. -/
structure Provenance (b : ProcId → Bootstrapper) (s : State) (tr : List (LockEvent Written)) :
    Prop where
  written : ∀ f w, s.fs.files f = some w →
    .wrote w.writer w ∈ tr ∧ portField w.text = some (b w.writer).port
  held : ∀ p n, (s.procs p).lockPort = some n → n = (b p).port
  waiting : ∀ p, (s.procs p).waiting = true → ∃ w, .skipped p w ∈ tr

theorem lockPort_dead (pc : Pc) : pc.dead.lockPort = none := by
  cases pc <;> rfl

theorem waiting_dead (pc : Pc) : pc.dead.waiting = false := by
  cases pc <;> rfl

theorem Provenance.step {i : Input} {s s' : State} {tr evs : List (LockEvent Written)}
    (h : Provenance b s tr) (hs : (bootstrap b pid).step i s = some (s', evs)) :
    Provenance b s' (tr ++ evs) := by
  obtain ⟨pc, hprocs, hmove⟩ := move_of_step hs
  -- the other processes are where they were, and the trace only grows
  have hrest : (∀ f w, s'.fs.files f = some w →
        .wrote w.writer w ∈ tr ++ evs ∧ portField w.text = some (b w.writer).port) →
      (∀ n, pc.lockPort = some n → n = (b i.proc).port) →
      (pc.waiting = true → ∃ w, .skipped i.proc w ∈ tr ++ evs) → Provenance b s' (tr ++ evs) := by
    intro hwritten hheld hwaiting
    refine ⟨hwritten, fun p n hp => ?_, fun p hp => ?_⟩
    · rw [hprocs, Function.update_apply] at hp
      split_ifs at hp with hself
      · rw [hself]
        exact hheld n hp
      · exact h.held p n hp
    · rw [hprocs, Function.update_apply] at hp
      split_ifs at hp with hself
      · rw [hself]
        exact hwaiting hp
      · obtain ⟨w, hw⟩ := h.waiting p hp
        exact ⟨w, List.mem_append_left _ hw⟩
  have hbefore : ∀ f w, s.fs.files f = some w →
      .wrote w.writer w ∈ tr ++ evs ∧ portField w.text = some (b w.writer).port := by
    intro f w hf
    obtain ⟨hmem, hport⟩ := h.written f w hf
    exact ⟨List.mem_append_left _ hmem, hport⟩
  have hheld := h.held i.proc
  have hwaits := h.waiting i.proc
  rcases hmove with ⟨-, rfl, hfs, rfl⟩ | ⟨-, hmove⟩
  · refine hrest (hfs ▸ hbefore) (fun n hn => ?_) fun hw => ?_
    · rw [lockPort_dead] at hn
      cases hn
    · rw [waiting_dead] at hw
      cases hw
  · generalize s.procs i.proc = old at hmove hheld hwaits
    generalize hfs : s'.fs = fs' at hmove hrest
    cases hmove with
    | quiet hfiles hport hwait =>
      refine hrest (fun f w hf => hbefore f w (hfiles f w hf)) (fun n hn => ?_) fun hw => ?_
      · rcases hport n hn with hown | hold
        · exact hown
        · exact hheld n hold
      · obtain ⟨w, hw⟩ := hwaits (hwait hw)
        exact ⟨w, List.mem_append_left _ hw⟩
    | @wrote fd text _ htext hport hwait =>
      have hown : portField text = some (b i.proc).port := by
        rcases htext with hown | ⟨n, hn, hold⟩
        · exact hown
        · rw [hn, hheld n hold]
      refine hrest (fun f w hf => ?_) (fun n hn => ?_) fun hw => ?_
      · rw [SharedFile.files_write] at hf
        split_ifs at hf
        · obtain rfl := Option.some.inj hf
          exact ⟨List.mem_append_right _ (List.mem_singleton.mpr rfl), hown⟩
        · exact hbefore f w hf
      · exact Option.some.inj ((hport n hn).symm.trans hown)
      · rw [hwait] at hw
        cases hw
    | skipped _ _ _ hport =>
      refine hrest (hfs ▸ hbefore) (fun n hn => ?_) fun _ => ?_
      · rw [hport] at hn
        cases hn
      · exact ⟨_, List.mem_append_right _ (List.mem_singleton.mpr rfl)⟩
    | gaveUp _ hport hwait =>
      refine hrest (hfs ▸ hbefore) (fun n hn => ?_) fun hw => ?_
      · rw [hport] at hn
        cases hn
      · rw [hwait] at hw
        cases hw

theorem provenance {s : State} {tr : List (LockEvent Written)}
    (h : (bootstrap b pid).Reachable s tr) : Provenance b s tr := by
  refine h.invariant (P := Provenance b) ?_ fun _ hs ih => ih.step hs
  refine ⟨fun f w hf => (by cases hf), fun p n hp => ?_, fun p hp => ?_⟩
  · change (b p).start.lockPort = some n at hp
    cases hb : b p <;> rw [hb] at hp <;> cases hp
  · change (b p).start.waiting = true at hp
    cases hb : b p <;> rw [hb] at hp <;> cases hp

/-! ### Own routers -/

/-- If the step evaluates a lock that is in force with a live router, its field `port` is the port of the
process. -/
def OwnPort (b : ProcId → Bootstrapper) (s : State) (_ : List (LockEvent Written)) (i : Input) :
    Prop :=
  i.dies = false → (s.procs i.proc).evaluating = true → ∀ w ∈ s.fs.read.join,
    (b i.proc).inForce w.text i.now i.platform = true →
    portField w.text = some (b i.proc).port

instance (s : State) (tr : List (LockEvent Written)) (i : Input) : Decidable (OwnPort b s tr i) :=
  inferInstanceAs (Decidable (_ → _ → ∀ w ∈ s.fs.read.join, _ → _ = _))

/-- The content was written by a process with the same port. -/
def WrittenForOwn (b : ProcId → Bootstrapper) (before : List (LockEvent Written)) (p : ProcId)
    (w : Written) : Prop :=
  .wrote w.writer w ∈ before ∧ (b w.writer).port = (b p).port

/-- Who skips or gives up has left the spawning to a process with the same port. -/
def WaitsForOwn (b : ProcId → Bootstrapper) (before : List (LockEvent Written)) :
    LockEvent Written → Prop
  | .wrote _ _ => True
  | .skipped p w => WrittenForOwn b before p w
  | .gaveUp p => ∃ w, .skipped p w ∈ before ∧ WrittenForOwn b before p w

theorem read_written {s : State} {tr : List (LockEvent Written)} (h : Provenance b s tr)
    {w : Written} (hread : s.fs.read = some (some w)) :
    .wrote w.writer w ∈ tr ∧ portField w.text = some (b w.writer).port := by
  obtain ⟨f, -, hfile⟩ := Option.map_eq_some_iff.mp hread
  exact h.written f w hfile

/-- One step, after a history in which all have waited for their own. -/
theorem waitsForOwn_step {i : Input} {s s' : State} {tr evs : List (LockEvent Written)}
    (h : Provenance b s tr) (hguard : OwnPort b s tr i)
    (hs : (bootstrap b pid).step i s = some (s', evs)) (htr : Historic (WaitsForOwn b) tr) :
    Historic (WaitsForOwn b) (tr ++ evs) := by
  obtain ⟨pc, -, ⟨-, -, -, rfl⟩ | ⟨hlive, hmove⟩⟩ := move_of_step hs
  · rwa [List.append_nil]
  · unfold OwnPort at hguard
    have hwaits := h.waiting i.proc
    generalize s.procs i.proc = old at hmove hguard hwaits
    generalize s'.fs = fs' at hmove
    cases hmove with
    | quiet => rwa [List.append_nil]
    | wrote => exact historic_append_singleton.mpr ⟨htr, trivial⟩
    | @skipped w _ hread hforce heval =>
      refine historic_append_singleton.mpr ⟨htr, ?_⟩
      obtain ⟨hmem, hport⟩ := read_written h hread
      have hjoin : w ∈ s.fs.read.join := by
        rw [hread]
        rfl
      exact ⟨hmem, Option.some.inj (hport.symm.trans (hguard hlive heval w hjoin hforce))⟩
    | gaveUp hwaiting =>
      refine historic_append_singleton.mpr ⟨htr, ?_⟩
      obtain ⟨w, hw⟩ := hwaits hwaiting
      obtain ⟨before, after, rfl⟩ := List.append_of_mem hw
      obtain ⟨hmem, hport⟩ := htr before _ after rfl
      exact ⟨w, hw, List.mem_append_left _ hmem, hport⟩

/-- A step after which all have waited for their own is one in which the ports agree. -/
theorem ownPort_of_waitsForOwn {i : Input} {s s' : State} {tr evs : List (LockEvent Written)}
    (h : Provenance b s tr) (hs : (bootstrap b pid).step i s = some (s', evs))
    (htr : Historic (WaitsForOwn b) (tr ++ evs)) : OwnPort b s tr i := by
  intro hlive heval w hjoin hforce
  have hread : s.fs.read = some (some w) := Option.join_eq_some_iff.mp hjoin
  obtain ⟨hmem, hport⟩ := read_written h hread
  obtain ⟨pc, -, ⟨hdies, -⟩ | ⟨-, hmove⟩⟩ := move_of_step hs
  · cases hlive.symm.trans hdies
  · generalize s.procs i.proc = old at hmove heval
    generalize s'.fs = fs' at hmove
    cases hmove with
    | quiet _ _ _ hno => cases hforce.symm.trans (hno heval w hread)
    | wrote _ _ _ hnot | gaveUp _ _ _ hnot => cases heval.symm.trans hnot
    | @skipped w' _ hread' =>
      obtain rfl : w = w' := by simpa using hread.symm.trans hread'
      obtain ⟨-, hown⟩ := htr tr (.skipped i.proc w) [] rfl
      rw [hport, hown]

/-- **Who waits, waits for the router of its own port.**  In a run of any processes, everybody that skips
the spawning has evaluated a lock of a process with the same port, and so has everybody that gives up
waiting, if and only if every evaluation that finds a lock in force with a live router finds its own port
there. -/
theorem waitsForOwn_iff (b : ProcId → Bootstrapper) (pid : ProcId → Pid) {s : State}
    {tr : List (LockEvent Written)} (h : (bootstrap b pid).Reachable s tr) :
    Historic (WaitsForOwn b) tr ↔ (bootstrap b pid).Run (OwnPort b) s tr := by
  constructor
  · intro htr
    unfold Reachable at h
    induction h with
    | init => exact Run.init
    | @step _ _ tr evs _ hrun _ hs ih =>
      have hbefore : Historic (WaitsForOwn b) tr := by
        intro before e after heq
        exact htr before e (after ++ evs) (by rw [heq, List.append_assoc, List.cons_append])
      exact (ih hbefore).step (ownPort_of_waitsForOwn (provenance hrun) hs htr) hs
  · intro hrun
    refine hrun.invariant (P := fun _ tr => Historic (WaitsForOwn b) tr) historic_nil ?_
    intro s s' tr evs i hrun hguard hs htr
    exact waitsForOwn_step (provenance hrun.reachable) hguard hs htr

/-! ### Two processes -/

/-- A Rust process that expects the router on port 9981, and Go processes. -/
def rustAndGo (port : Int64) : ProcId → Bootstrapper
  | 0 => .rust ⟨⟨"127.0.0.1", 9981⟩, Rust.Duration.fromSecs 10⟩
  | _ => .go port

/-- The pids of the runs below. -/
def localPids (p : ProcId) : Pid := ⟨p % 1000 + 100, by omega, by omega⟩

/-- Process `p` performs its next operation. -/
def move (p : ProcId) : Input := { proc := p }

/-- Process `0` writes the pid of its router into the lock, and process `1` evaluates it and waits in
vain. -/
def waitInVain : List Input :=
  List.replicate 8 (move 0) ++ List.replicate 4 (move 1) ++ [{ proc := 1, instant := 10 ^ 11 }]

def isSkipped (p q : ProcId) : LockEvent Written → Bool
  | .skipped p' w => p' == p && w.writer == q
  | _ => false

def isGaveUp (p : ProcId) : LockEvent Written → Bool
  | .gaveUp p' => p' == p
  | _ => false

/-- With one port, process `1` has waited for the router of its port. -/
theorem waitsForOwn_of_one_port : ∃ s tr,
    (bootstrap (rustAndGo 9981) localPids).Reachable s tr ∧ tr.any (isSkipped 1 0) = true ∧
      Historic (WaitsForOwn (rustAndGo 9981)) tr := by
  obtain ⟨s, tr, hrun, hskipped⟩ := (bootstrap (rustAndGo 9981) localPids).exists_run_of_exec
    (OwnPort (rustAndGo 9981)) waitInVain (fun _ tr => tr.any (isSkipped 1 0)) (by decide +kernel)
  exact ⟨s, tr, hrun.reachable, hskipped, (waitsForOwn_iff _ _ hrun.reachable).mpr hrun⟩

/-- With two, it gives up waiting because of a router that process `0` starts on the other port. -/
theorem skipped_other_port : ∃ s tr w,
    (bootstrap (rustAndGo 9982) localPids).Reachable s tr ∧ .skipped 1 w ∈ tr ∧ .gaveUp 1 ∈ tr ∧
      (rustAndGo 9982 w.writer).port = 9981 ∧ (rustAndGo 9982 1).port = 9982 := by
  obtain ⟨s, tr, hrun, hp⟩ := (bootstrap (rustAndGo 9982) localPids).exists_reachable_of_exec
    waitInVain (fun _ tr => tr.any (isSkipped 1 0) && tr.any (isGaveUp 1)) (by decide +kernel)
  obtain ⟨hskipped, hgaveUp⟩ := Bool.and_eq_true_iff.mp hp
  obtain ⟨e, hmem, he⟩ := List.any_eq_true.mp hskipped
  obtain ⟨e', hmem', he'⟩ := List.any_eq_true.mp hgaveUp
  cases e with
  | skipped p w =>
    obtain ⟨hp, hw⟩ := Bool.and_eq_true_iff.mp he
    obtain rfl := beq_iff_eq.mp hp
    have hwriter : w.writer = 0 := beq_iff_eq.mp hw
    cases e' with
    | gaveUp p' =>
      obtain rfl := beq_iff_eq.mp he'
      refine ⟨s, tr, w, hrun, hmem, hmem', ?_, rfl⟩
      rw [hwriter]
      rfl
    | _ => cases he'
  | _ => cases he

end Bindings

end Multifrost
