import Multifrost.Golang.Safety.Pending

/-!
# Requests on a closed Go transport

A request on a transport whose `t.closed` is closed can always go on, or waits for somebody who can:
for the holder of `writeMu`, or for the call that runs `closedOnce`, on which the holder may wait in
turn.  A request has no loops, so that it comes nearer to its end with each step.
-/

namespace Multifrost.Go.Transport

open Bindings (ErrorBody)
open Router (FrameParts)

variable {m : Msgpack} {decodeErrorBody : Bytes → Except Failure ErrorBody}
  {req : ReqId → Request} {closing : Nat → Option Failure}

/-! ### Who has which lock -/

def WritePc.closePc : WritePc → Option ClosePc
  | .close _ pc => some pc
  | _ => none

/-- Where a party is in `writeBinary`. -/
def writePc (s : State) : Party → Option WritePc
  | .request r =>
    match s.requests r with
    | .write pc => some pc
    | _ => none
  | .send d =>
    match s.sends d with
    | .write pc => some pc
    | .returned _ => none
  | .close _ | .readLoop => none

/-- Where a party is in `closeWithError`. -/
def closePc (s : State) : Party → Option ClosePc
  | .close k => s.closers k
  | .readLoop =>
    match s.readLoop with
    | .close _ pc | .deferred pc => some pc
    | _ => none
  | p => (writePc s p).bind WritePc.closePc

/-- The parts of `writeBinary` under `writeMu`. -/
def WritePc.holding : WritePc → Bool
  | .start | .lock => false
  | _ => true

/-- Whoever runs `closedOnce` is inside it. -/
def RunnerOk (once : Once) (p : Party) (pc : Option ClosePc) : Prop :=
  once = .running p → ∃ pc', pc = some pc' ∧ pc' ≠ .enter

/-- Whoever holds `writeMu` is under it. -/
def HolderOk (mu : Option Party) (p : Party) (pc : Option WritePc) : Prop :=
  mu = some p → ∃ pc', pc = some pc' ∧ pc'.holding = true

structure Locks (s : State) : Prop where
  runner : ∀ p, RunnerOk s.shared.closedOnce p (closePc s p)
  holder : ∀ p, HolderOk s.shared.writeMu p (writePc s p)

/-- What a step of `p` does to the locks: it takes none from another, and gives none to another. -/
structure OwnLocks (p : Party) (t t' : Shared) : Prop where
  closedOnce : ∀ q, q ≠ p → t'.closedOnce = .running q → t.closedOnce = .running q
  writeMu : ∀ q, q ≠ p → t'.writeMu = some q → t.writeMu = some q

theorem OwnLocks.of_same {p : Party} {t t' : Shared} (honce : t'.closedOnce = t.closedOnce)
    (hmu : t'.writeMu = t.writeMu) : OwnLocks p t t' := by
  constructor
  · intro q _ hq
    rwa [← honce]
  · intro q _ hq
    rwa [← hmu]

theorem closeWithError_locks {p : Party} {err : Option Failure} {t t' : Shared} {pc : ClosePc}
    {pc' : Option ClosePc} {evs : List Event}
    (h : closeWithError p err t pc = some (t', pc', evs)) (hrunner : RunnerOk t.closedOnce p (some pc)) :
    OwnLocks p t t' ∧ t'.writeMu = t.writeMu ∧ RunnerOk t'.closedOnce p pc' := by
  have hinside : pc ≠ .enter → ∀ pc₁, pc₁ ≠ ClosePc.enter → RunnerOk t.closedOnce p (some pc₁) :=
    fun _ pc₁ hpc₁ _ => ⟨pc₁, rfl, hpc₁⟩
  cases pc with
  | enter =>
    simp only [closeWithError] at h
    split at h
    · cases h
      refine ⟨⟨fun q hq heq => ?_, fun q _ => id⟩, rfl, fun _ => ⟨.store, rfl, ?_⟩⟩
      · exact absurd (Once.running.inj heq).symm hq
      · rintro ⟨⟩
    · cases h
    · rename_i hdone
      cases h
      refine ⟨.of_same rfl rfl, rfl, fun hrunning => ?_⟩
      rw [hdone] at hrunning
      cases hrunning
  | leave =>
    cases h
    exact ⟨⟨fun q _ => by rintro ⟨⟩, fun q _ => id⟩, rfl, by rintro ⟨⟩⟩
  | _ =>
    cases h
    exact ⟨.of_same rfl rfl, rfl, hinside (by rintro ⟨⟩) _ (by rintro ⟨⟩)⟩

/-- Where a call of `writeBinary` goes on. -/
def Writing.writePc : Writing → Option WritePc
  | .goes pc => some pc
  | .returned _ => none

theorem writeBinary_locks {p : Party} {written : Except String Unit} {t t' : Shared} {pc : WritePc}
    {next : Writing} {evs : List Event}
    (h : writeBinary p written t pc = some (t', next, evs))
    (hrunner : RunnerOk t.closedOnce p pc.closePc) (hholder : HolderOk t.writeMu p (some pc)) :
    OwnLocks p t t' ∧ RunnerOk t'.closedOnce p (next.writePc.bind WritePc.closePc) ∧
      HolderOk t'.writeMu p next.writePc := by
  -- outside of `closeWithError` the party does not run `closedOnce`
  have hout : pc.closePc = none → ∀ pc', RunnerOk t.closedOnce p pc' := by
    intro hnone pc' hrunning
    obtain ⟨pc₁, hsome, -⟩ := hrunner hrunning
    rw [hnone] at hsome
    cases hsome
  cases pc with
  | start =>
    have hfree : ∀ pc', HolderOk t.writeMu p pc' := by
      intro pc' hmu
      obtain ⟨pc₁, hsome, hholding⟩ := hholder hmu
      cases hsome
      cases hholding
    simp only [writeBinary] at h
    split_ifs at h <;> cases h <;> exact ⟨.of_same rfl rfl, hout rfl _, hfree _⟩
  | lock =>
    simp only [writeBinary] at h
    split at h <;> cases h
    refine ⟨⟨fun q _ => id, fun q hq heq => ?_⟩, hout rfl _, fun _ => ⟨.locked, rfl, rfl⟩⟩
    exact absurd (Option.some.inj heq).symm hq
  | locked =>
    simp only [writeBinary] at h
    split_ifs at h <;> cases h <;> exact ⟨.of_same rfl rfl, hout rfl _, fun _ => ⟨_, rfl, rfl⟩⟩
  | write =>
    cases written <;> cases h <;> exact ⟨.of_same rfl rfl, hout rfl _, fun _ => ⟨_, rfl, rfl⟩⟩
  | close err pc =>
    obtain ⟨⟨t₁, pc₁, evs₁⟩, hclose, heq⟩ := Option.map_eq_some_iff.mp h
    obtain ⟨hown, hmu, hrunner'⟩ := closeWithError_locks hclose hrunner
    cases pc₁ <;> cases heq <;> exact ⟨hown, hrunner', fun _ => ⟨_, rfl, rfl⟩⟩
  | unlock result =>
    cases h
    exact ⟨⟨fun q _ => id, fun q _ => by rintro ⟨⟩⟩, hout rfl _, by rintro ⟨⟩⟩

/-- A step of `p` keeps the locks of all in order if it keeps those of `p`. -/
theorem Locks.of_step {p : Party} {s s' : State} (h : Locks s) (hown : OwnLocks p s.shared s'.shared)
    (hclose : ∀ q, q ≠ p → closePc s' q = closePc s q)
    (hwrite : ∀ q, q ≠ p → writePc s' q = writePc s q)
    (hrunner : RunnerOk s'.shared.closedOnce p (closePc s' p))
    (hholder : HolderOk s'.shared.writeMu p (writePc s' p)) : Locks s' := by
  refine ⟨fun q => ?_, fun q => ?_⟩
  · by_cases hq : q = p
    · subst hq
      exact hrunner
    · intro hrunning
      rw [hclose q hq]
      exact h.runner q (hown.closedOnce q hq hrunning)
  · by_cases hq : q = p
    · subst hq
      exact hholder
    · intro hmu
      rw [hwrite q hq]
      exact h.holder q (hown.writeMu q hq hmu)

/-- A party that is in neither section has no lock, and a step that changes none gives it none. -/
theorem Locks.free {p : Party} {s : State} (t' : Shared) (h : Locks s) (hclose : closePc s p = none)
    (hwrite : writePc s p = none) (honce : t'.closedOnce = s.shared.closedOnce)
    (hmu : t'.writeMu = s.shared.writeMu) (pc : Option ClosePc) (pc' : Option WritePc) :
    RunnerOk t'.closedOnce p pc ∧ HolderOk t'.writeMu p pc' := by
  constructor
  · intro hrunning
    obtain ⟨pc₁, hsome, -⟩ := h.runner p (honce ▸ hrunning)
    rw [hclose] at hsome
    cases hsome
  · intro hheld
    obtain ⟨pc₁, hsome, -⟩ := h.holder p (hmu ▸ hheld)
    rw [hwrite] at hsome
    cases hsome

/-- A step of `writeBinary`, by a request or a `send`. -/
theorem Locks.of_writeBinary {p : Party} {s s' : State} {written : Except String Unit}
    {pc : WritePc} {next : Writing} {evs : List Event} (h : Locks s)
    (hp : ∀ s, closePc s p = (writePc s p).bind WritePc.closePc) (hbefore : writePc s p = some pc)
    (hwrite : writeBinary p written s.shared pc = some (s'.shared, next, evs))
    (hafter : writePc s' p = next.writePc) (hclose : ∀ q, q ≠ p → closePc s' q = closePc s q)
    (hother : ∀ q, q ≠ p → writePc s' q = writePc s q) : Locks s' := by
  have hrunner₀ := h.runner p
  have hholder₀ := h.holder p
  rw [hp, hbefore, Option.bind_some] at hrunner₀
  rw [hbefore] at hholder₀
  obtain ⟨hown, hrunner, hholder⟩ := writeBinary_locks hwrite hrunner₀ hholder₀
  refine h.of_step hown hclose hother ?_ ?_
  · rw [hp, hafter]
    exact hrunner
  · rw [hafter]
    exact hholder

/-- A step of `closeWithError`, by the loop or by one of the others; where the call returns, the party
may go on anywhere. -/
theorem Locks.of_closeWithError {p : Party} {s s' : State} {err : Option Failure} {pc : ClosePc}
    {pc' : Option ClosePc} {evs : List Event} (h : Locks s) (hp : ∀ s, writePc s p = none)
    (hbefore : closePc s p = some pc)
    (hstep : closeWithError p err s.shared pc = some (s'.shared, pc', evs))
    (hafter : pc' = none ∨ closePc s' p = pc') (hclose : ∀ q, q ≠ p → closePc s' q = closePc s q)
    (hother : ∀ q, q ≠ p → writePc s' q = writePc s q) : Locks s' := by
  have hrunner₀ := h.runner p
  rw [hbefore] at hrunner₀
  obtain ⟨hown, hmu, hrunner⟩ := closeWithError_locks hstep hrunner₀
  refine h.of_step hown hclose hother ?_ ?_
  · rcases hafter with rfl | hafter
    · intro hrunning
      obtain ⟨pc₁, hsome, -⟩ := hrunner hrunning
      cases hsome
    · rw [hafter]
      exact hrunner
  · rw [hmu, hp, ← hp s]
    exact h.holder p

/-! ### Steps -/

theorem writePc_moveRequest {r : ReqId} {q : Party} (hq : q ≠ .request r) (s : State) (t : Shared)
    (pc : RequestPc) : writePc (s.moveRequest r t pc) q = writePc s q := by
  cases q with
  | request r' =>
    have hr : r' ≠ r := fun heq => hq (congrArg Party.request heq)
    simp only [writePc, moveRequest_of_ne hr]
  | _ => rfl

theorem closePc_moveRequest {r : ReqId} {q : Party} (hq : q ≠ .request r) (s : State) (t : Shared)
    (pc : RequestPc) : closePc (s.moveRequest r t pc) q = closePc s q := by
  cases q with
  | request r' => simp only [closePc, writePc_moveRequest hq]
  | _ => rfl

theorem locks_request {s : State} {evs : List Event} {r : ReqId} {written : Except String Unit}
    {taken : Case} {t' : Shared} {pc' : RequestPc} (h : Locks s)
    (hs : request m (req r) r written taken s.shared (s.requests r) = some (t', pc', evs)) :
    Locks (s.moveRequest r t' pc') := by
  -- a request that is not writing changes no lock
  have hfree : writePc s (.request r) = none → t'.closedOnce = s.shared.closedOnce →
      t'.writeMu = s.shared.writeMu → Locks (s.moveRequest r t' pc') := by
    intro hnone honce hmu
    have hclose : closePc s (.request r) = none := by simp only [closePc, hnone, Option.bind_none]
    obtain ⟨hrunner, hholder⟩ := h.free t' hclose hnone honce hmu
      (closePc (s.moveRequest r t' pc') (.request r)) (writePc (s.moveRequest r t' pc') (.request r))
    exact h.of_step (p := .request r) (.of_same honce hmu)
      (fun q hq => closePc_moveRequest hq s t' pc') (fun q hq => writePc_moveRequest hq s t' pc')
      hrunner hholder
  cases hpc : s.requests r with
  | write pc =>
    rw [hpc] at hs
    obtain ⟨⟨t₁, next, evs₁⟩, hwrite, heq⟩ := Option.map_eq_some_iff.mp hs
    have hafter : t' = t₁ ∧ writePc (s.moveRequest r t' pc') (.request r) = next.writePc := by
      rcases next with pc₁ | ⟨err | u⟩ <;> cases heq <;>
        exact ⟨rfl, by simp only [writePc, moveRequest_self, Writing.writePc]⟩
    obtain ⟨rfl, hafter⟩ := hafter
    exact h.of_writeBinary (p := .request r) (fun _ => rfl) (by simp only [writePc, hpc]) hwrite
      hafter (fun q hq => closePc_moveRequest hq s t' pc')
      fun q hq => writePc_moveRequest hq s t' pc'
  | start =>
    rw [hpc] at hs
    simp only [request] at hs
    split_ifs at hs <;> cases hs <;> exact hfree (by simp only [writePc, hpc]) rfl rfl
  | insert =>
    rw [hpc] at hs
    cases hs
    exact hfree (by simp only [writePc, hpc]) rfl rfl
  | encode =>
    rw [hpc] at hs
    simp only [request] at hs
    split at hs <;> cases hs <;> exact hfree (by simp only [writePc, hpc]) rfl rfl
  | select =>
    rw [hpc] at hs
    cases taken with
    | reply =>
      obtain ⟨⟨reply, c⟩, hreceive, heq⟩ := Option.map_eq_some_iff.mp hs
      cases heq
      exact hfree (by simp only [writePc, hpc]) rfl rfl
    | done err =>
      cases hs
      exact hfree (by simp only [writePc, hpc]) rfl rfl
    | closed =>
      simp only [request] at hs
      split_ifs at hs
      cases hs
      exact hfree (by simp only [writePc, hpc]) rfl rfl
  | remove err =>
    rw [hpc] at hs
    cases hs
    exact hfree (by simp only [writePc, hpc]) rfl rfl
  | returned frame err =>
    rw [hpc] at hs
    cases hs

theorem locks_send {s : State} {evs : List Event} {d : Nat} {written : Except String Unit}
    {t' : Shared} {pc' : SendPc} (h : Locks s)
    (hs : send d written s.shared (s.sends d) = some (t', pc', evs)) :
    Locks { s with shared := t', sends := Function.update s.sends d pc' } := by
  have hself : Function.update s.sends d pc' d = pc' := Function.update_self ..
  have hother : ∀ q, q ≠ .send d →
      writePc { s with shared := t', sends := Function.update s.sends d pc' } q = writePc s q := by
    intro q hq
    cases q with
    | send d' =>
      have hd : d' ≠ d := fun heq => hq (congrArg Party.send heq)
      simp only [writePc, Function.update_of_ne hd]
    | _ => rfl
  cases hpc : s.sends d with
  | returned result =>
    rw [hpc] at hs
    cases hs
  | write pc =>
    rw [hpc] at hs
    obtain ⟨⟨t₁, next, evs₁⟩, hwrite, heq⟩ := Option.map_eq_some_iff.mp hs
    have hafter : t' = t₁ ∧ writePc { s with shared := t', sends := Function.update s.sends d pc' }
        (.send d) = next.writePc := by
      cases next <;> cases heq <;> exact ⟨rfl, by simp only [writePc, hself, Writing.writePc]⟩
    obtain ⟨rfl, hafter⟩ := hafter
    refine h.of_writeBinary (p := .send d) (fun _ => rfl) (by simp only [writePc, hpc]) hwrite
      hafter (fun q hq => ?_) hother
    cases q with
    | close k => rfl
    | readLoop => rfl
    | _ => simp only [closePc, hother _ hq]

theorem locks_close {s : State} {evs : List Event} {k : Nat} {pc : ClosePc} {pc' : Option ClosePc}
    {t' : Shared} (h : Locks s) (hpc : s.closers k = some pc)
    (hs : closeWithError (.close k) (closing k) s.shared pc = some (t', pc', evs)) :
    Locks { s with shared := t', closers := Function.update s.closers k pc' } := by
  refine h.of_closeWithError (p := .close k) (fun _ => rfl) hpc hs (Or.inr ?_) (fun q hq => ?_)
    fun q hq => ?_
  · exact Function.update_self ..
  · cases q with
    | close k' =>
      have hk : k' ≠ k := fun heq => hq (congrArg Party.close heq)
      exact Function.update_of_ne hk ..
    | _ => rfl
  · cases q <;> rfl

theorem locks_readLoop {s : State} {evs : List Event} {incoming : Incoming} {t' : Shared}
    {pc' : ReadPc} (h : Locks s)
    (hs : readLoop m decodeErrorBody incoming s.shared s.readLoop = some (t', pc', evs)) :
    Locks (s.moveLoop t' pc') := by
  have hclose : ∀ q, q ≠ .readLoop → closePc (s.moveLoop t' pc') q = closePc s q := by
    intro q hq
    cases q with
    | readLoop => exact absurd rfl hq
    | _ => rfl
  have hwrite : ∀ q, q ≠ .readLoop → writePc (s.moveLoop t' pc') q = writePc s q := by
    intro q _
    cases q <;> rfl
  -- outside of `closeWithError` the loop changes no lock
  have hfree : closePc s .readLoop = none → t'.closedOnce = s.shared.closedOnce →
      t'.writeMu = s.shared.writeMu → Locks (s.moveLoop t' pc') := by
    intro hnone honce hmu
    obtain ⟨hrunner, hholder⟩ := h.free t' hnone rfl honce hmu
      (closePc (s.moveLoop t' pc') .readLoop) none
    exact h.of_step (p := .readLoop) (.of_same honce hmu) hclose hwrite hrunner hholder
  -- inside of it, the loop goes on there or has left it
  have hclosing : ∀ {err : Option Failure} {pc : ClosePc}
      {f : Shared × Option ClosePc × List Event → Shared × ReadPc × List Event},
      closePc s .readLoop = some pc →
      (∀ t₁ pc₁ evs₁, (f (t₁, pc₁, evs₁)).1 = t₁ ∧ (pc₁ = none ∨
        closePc (s.moveLoop t' (f (t₁, pc₁, evs₁)).2.1) .readLoop = pc₁)) →
      (closeWithError .readLoop err s.shared pc).map f = some (t', pc', evs) →
      Locks (s.moveLoop t' pc') := by
    intro err pc f hbefore hf hmap
    obtain ⟨⟨t₁, pc₁, evs₁⟩, hstep, heq⟩ := Option.map_eq_some_iff.mp hmap
    obtain ⟨hshared, hafter⟩ := hf t₁ pc₁ evs₁
    rw [heq] at hshared hafter
    obtain rfl : t' = t₁ := hshared
    exact h.of_closeWithError (p := .readLoop) (fun _ => rfl) hbefore hstep hafter hclose hwrite
  cases hpc : s.readLoop with
  | close err pc =>
    rw [hpc] at hs
    refine hclosing (by simp only [closePc, hpc]) (fun t₁ pc₁ evs₁ => ?_) hs
    cases pc₁ with
    | none => exact ⟨rfl, Or.inl rfl⟩
    | some pc₁ => exact ⟨rfl, Or.inr rfl⟩
  | deferred pc =>
    rw [hpc] at hs
    refine hclosing (by simp only [closePc, hpc]) (fun t₁ pc₁ evs₁ => ?_) hs
    cases pc₁ with
    | none => exact ⟨rfl, Or.inl rfl⟩
    | some pc₁ => exact ⟨rfl, Or.inr rfl⟩
  | read =>
    rw [hpc] at hs
    simp only [readLoop] at hs
    split at hs
    · split at hs <;> cases hs <;> exact hfree (by simp only [closePc, hpc]) rfl rfl
    all_goals
      cases hs
      exact hfree (by simp only [closePc, hpc]) rfl rfl
  | returned =>
    rw [hpc] at hs
    cases hs
  | dispatch frame =>
    rw [hpc] at hs
    simp only [readLoop] at hs
    split_ifs at hs <;> cases hs <;> exact hfree (by simp only [closePc, hpc]) rfl rfl
  | send q reply =>
    rw [hpc] at hs
    simp only [readLoop] at hs
    split at hs <;> cases hs <;> exact hfree (by simp only [closePc, hpc]) rfl rfl
  | _ =>
    rw [hpc] at hs
    simp only [readLoop] at hs
    split at hs <;> cases hs <;> exact hfree (by simp only [closePc, hpc]) rfl rfl

theorem locks {s : State} {tr : List Event}
    (h : (transport m decodeErrorBody req closing).Reachable s tr) : Locks s := by
  refine TransitionSystem.Reachable.invariant (P := fun s _ => Locks s) ?_ ?_ h
  · constructor
    · intro p hrunning
      cases hrunning
    · intro p hheld
      cases hheld
  intro s s' tr evs i _ hs ih
  cases i with
  | request r written taken =>
    obtain ⟨⟨t', pc', evs'⟩, hstep, heq⟩ := Option.map_eq_some_iff.mp hs
    cases heq
    exact locks_request ih hstep
  | send d written =>
    obtain ⟨⟨t', pc', evs'⟩, hstep, heq⟩ := Option.map_eq_some_iff.mp hs
    cases heq
    exact locks_send ih hstep
  | close k =>
    obtain ⟨pc, hpc, hstep⟩ := Option.bind_eq_some_iff.mp hs
    obtain ⟨⟨t', pc', evs'⟩, hclose, heq⟩ := Option.map_eq_some_iff.mp hstep
    cases heq
    exact locks_close ih hpc hclose
  | readLoop incoming =>
    obtain ⟨⟨t', pc', evs'⟩, hstep, heq⟩ := Option.map_eq_some_iff.mp hs
    cases heq
    exact locks_readLoop ih hstep

/-! ### Going on -/

def Input.party : Input → Party
  | .request r _ _ => .request r
  | .send d _ => .send d
  | .close k => .close k
  | .readLoop _ => .readLoop

/-- The loop waits for a message. -/
def ReadPc.reading : ReadPc → Bool
  | .read => true
  | _ => false

/-- The step needs no message, and no context that ends. -/
def Unaided (s : State) : Input → Prop
  | .request _ _ (.done _) => False
  | .readLoop _ => s.readLoop.reading = false
  | _ => True

/-- A party can take a step by itself. -/
def Enabled (m : Msgpack) (decodeErrorBody : Bytes → Except Failure ErrorBody)
    (req : ReqId → Request) (closing : Nat → Option Failure) (s : State) (p : Party) : Prop :=
  ∃ i s' evs, i.party = p ∧ Unaided s i ∧
    (transport m decodeErrorBody req closing).step i s = some (s', evs)

/-- A party waits for the holder of `writeMu`, or for the call that runs `closedOnce`. -/
def WaitsFor (s : State) (p q : Party) : Prop :=
  writePc s p = some .lock ∧ s.shared.writeMu = some q ∨
  closePc s p = some .enter ∧ s.shared.closedOnce = .running q

theorem closeWithError_enabled (p : Party) (err : Option Failure) {t : Shared} {pc : ClosePc}
    (h : pc = .enter → ∀ q, t.closedOnce ≠ .running q) :
    ∃ t' pc' evs, closeWithError p err t pc = some (t', pc', evs) := by
  cases pc with
  | enter =>
    simp only [closeWithError]
    cases honce : t.closedOnce with
    | running q => exact absurd honce (h rfl q)
    | idle => exact ⟨_, _, _, rfl⟩
    | done => exact ⟨_, _, _, rfl⟩
  | _ => exact ⟨_, _, _, rfl⟩

theorem writeBinary_enabled {p : Party} {t : Shared} {pc : WritePc}
    (hlock : pc = .lock → t.writeMu = none)
    (honce : pc.closePc = some .enter → ∀ q, t.closedOnce ≠ .running q) :
    ∃ t' next evs, writeBinary p (.ok ()) t pc = some (t', next, evs) := by
  cases pc with
  | start =>
    simp only [writeBinary]
    split_ifs <;> exact ⟨_, _, _, rfl⟩
  | lock =>
    simp only [writeBinary, hlock rfl]
    exact ⟨_, _, _, rfl⟩
  | locked =>
    simp only [writeBinary]
    split_ifs <;> exact ⟨_, _, _, rfl⟩
  | write => exact ⟨_, _, _, rfl⟩
  | close err pc =>
    obtain ⟨t', pc', evs, hclose⟩ := closeWithError_enabled p (some err)
      fun hpc : pc = .enter => honce (congrArg some hpc)
    simp only [writeBinary, hclose, Option.map_some]
    cases pc' <;> exact ⟨_, _, _, rfl⟩
  | unlock result => exact ⟨_, _, _, rfl⟩

section Enabled

variable {s : State}

theorem enabled_of_write {p : Party} {pc : WritePc} (hpc : writePc s p = some pc)
    (hlock : pc = .lock → s.shared.writeMu = none)
    (honce : pc.closePc = some .enter → ∀ q, s.shared.closedOnce ≠ .running q) :
    Enabled m decodeErrorBody req closing s p := by
  obtain ⟨t', next, evs, hwrite⟩ := writeBinary_enabled (p := p) hlock honce
  cases p with
  | request r =>
    cases hr : s.requests r with
    | write pc' =>
      simp only [writePc, hr, Option.some.injEq] at hpc
      subst hpc
      refine ⟨.request r (.ok ()) .closed, ?_⟩
      simp only [transport, request, hr, hwrite, Option.map_some]
      exact ⟨_, _, rfl, trivial, rfl⟩
    | _ =>
      simp only [writePc, hr] at hpc
      cases hpc
  | send d =>
    cases hd : s.sends d with
    | write pc' =>
      simp only [writePc, hd, Option.some.injEq] at hpc
      subst hpc
      refine ⟨.send d (.ok ()), ?_⟩
      simp only [transport, send, hd, hwrite, Option.map_some]
      exact ⟨_, _, rfl, trivial, rfl⟩
    | returned result =>
      simp only [writePc, hd] at hpc
      cases hpc
  | close k => cases hpc
  | readLoop => cases hpc

theorem enabled_of_close {p : Party} {pc : ClosePc} (hpc : closePc s p = some pc)
    (honce : pc = .enter → ∀ q, s.shared.closedOnce ≠ .running q) :
    Enabled m decodeErrorBody req closing s p := by
  have hwriting : (writePc s p).bind WritePc.closePc = some pc →
      Enabled m decodeErrorBody req closing s p := by
    intro hbind
    obtain ⟨wpc, hwrite, hclose⟩ := Option.bind_eq_some_iff.mp hbind
    refine enabled_of_write hwrite ?_ ?_
    · rintro rfl
      cases hclose
    · intro henter
      rw [hclose] at henter
      exact honce (Option.some.inj henter)
  cases p with
  | request r => exact hwriting hpc
  | send d => exact hwriting hpc
  | close k =>
    obtain ⟨t', pc', evs, hclose⟩ := closeWithError_enabled (.close k) (closing k) honce
    have hk : s.closers k = some pc := hpc
    refine ⟨.close k, ?_⟩
    simp only [transport, hk, Option.bind_some, hclose, Option.map_some]
    exact ⟨_, _, rfl, trivial, rfl⟩
  | readLoop =>
    cases hloop : s.readLoop with
    | close err pc' =>
      simp only [closePc, hloop, Option.some.injEq] at hpc
      subst hpc
      obtain ⟨t', pc'', evs, hclose⟩ := closeWithError_enabled .readLoop (some err) honce
      refine ⟨.readLoop .text, ?_⟩
      simp only [transport, readLoop, hloop, hclose, Option.map_some]
      exact ⟨_, _, rfl, by rw [Unaided, hloop]; rfl, rfl⟩
    | deferred pc' =>
      simp only [closePc, hloop, Option.some.injEq] at hpc
      subst hpc
      obtain ⟨t', pc'', evs, hclose⟩ := closeWithError_enabled .readLoop none honce
      refine ⟨.readLoop .text, ?_⟩
      simp only [transport, readLoop, hloop, hclose, Option.map_some]
      exact ⟨_, _, rfl, by rw [Unaided, hloop]; rfl, rfl⟩
    | _ =>
      simp only [closePc, hloop] at hpc
      cases hpc

/-- The call that runs `closedOnce` is inside it, where nothing holds it up. -/
theorem enabled_of_running (h : Locks s) {q : Party} (hrunning : s.shared.closedOnce = .running q) :
    Enabled m decodeErrorBody req closing s q := by
  obtain ⟨pc, hpc, hne⟩ := h.runner q hrunning
  exact enabled_of_close hpc fun henter => absurd henter hne

variable (m decodeErrorBody req closing) in
/-- Whoever is in `writeBinary` and need not wait for the mutex can go on, or waits for the call that
runs `closedOnce`. -/
theorem goes_on_of_write (h : Locks s) {p : Party} {pc : WritePc} (hpc : writePc s p = some pc)
    (hclose : closePc s p = pc.closePc) (hlock : pc = .lock → s.shared.writeMu = none) :
    ∃ q, Relation.ReflTransGen (WaitsFor s) p q ∧ Enabled m decodeErrorBody req closing s q := by
  by_cases hwait : pc.closePc = some .enter ∧ ∃ q, s.shared.closedOnce = .running q
  · obtain ⟨henter, q, hrunning⟩ := hwait
    exact ⟨q, .single (Or.inr ⟨hclose.trans henter, hrunning⟩), enabled_of_running h hrunning⟩
  · refine ⟨p, .refl, enabled_of_write hpc hlock fun henter q hrunning => ?_⟩
    exact hwait ⟨henter, q, hrunning⟩

/-- The parties that write close inside of it. -/
theorem closePc_of_writePc {p : Party} {pc : WritePc} (h : writePc s p = some pc) :
    closePc s p = pc.closePc := by
  cases p with
  | close k => cases h
  | readLoop => cases h
  | _ =>
    simp only [closePc, h]
    rfl

theorem request_goes_on (h : Locks s) (hclosed : s.shared.closed = true) {r : ReqId}
    (hrunning : ∀ frame err, s.requests r ≠ .returned frame err) :
    ∃ q, Relation.ReflTransGen (WaitsFor s) (.request r) q ∧
      Enabled m decodeErrorBody req closing s q := by
  -- outside of `writeBinary` the request goes on by itself
  have hself : ∀ t' pc' evs, request m (req r) r (.ok ()) .closed s.shared (s.requests r) =
      some (t', pc', evs) → ∃ q, Relation.ReflTransGen (WaitsFor s) (.request r) q ∧
        Enabled m decodeErrorBody req closing s q := by
    intro t' pc' evs hstep
    refine ⟨.request r, .refl, .request r (.ok ()) .closed, ?_⟩
    simp only [transport, hstep, Option.map_some]
    exact ⟨_, _, rfl, trivial, rfl⟩
  cases hpc : s.requests r with
  | start =>
    refine hself s.shared (.returned none (some s.shared.transportClosedError)) [] ?_
    rw [hpc]
    simp only [request, hclosed, if_true]
  | insert =>
    rw [hpc] at hself
    exact hself _ _ _ rfl
  | encode =>
    rw [hpc] at hself
    cases hencode : encodeFrame m (req r).envelope (req r).bodyBytes with
    | ok bytes => exact hself s.shared (.write .start) [] (by simp only [request, hencode])
    | error err => exact hself s.shared (.remove (.encode err)) [] (by simp only [request, hencode])
  | write pc =>
    have hwrite : writePc s (.request r) = some pc := by simp only [writePc, hpc]
    cases hmu : s.shared.writeMu with
    | none => exact goes_on_of_write _ _ _ _ h hwrite (closePc_of_writePc hwrite) fun _ => hmu
    | some w =>
      by_cases hlock : pc = .lock
      · subst hlock
        -- the holder of the mutex is under it, so that it does not wait for it
        obtain ⟨pcw, hpcw, hholding⟩ := h.holder w hmu
        obtain ⟨q, hchain, henabled⟩ := goes_on_of_write m decodeErrorBody req closing h
          hpcw (closePc_of_writePc hpcw) (by
            rintro rfl
            cases hholding)
        exact ⟨q, .head (Or.inl ⟨hwrite, hmu⟩) hchain, henabled⟩
      · exact goes_on_of_write _ _ _ _ h hwrite (closePc_of_writePc hwrite) fun heq => absurd heq hlock
  | select =>
    refine hself s.shared (.remove s.shared.transportClosedError) [] ?_
    rw [hpc]
    simp only [request, hclosed, if_true]
  | remove err =>
    rw [hpc] at hself
    exact hself _ _ _ rfl
  | returned frame err => exact absurd hpc (hrunning frame err)

end Enabled

/-! ### Coming nearer to the end -/

def ClosePc.rank : ClosePc → Nat
  | .enter => 5
  | .store => 4
  | .closeClosed => 3
  | .cancel => 2
  | .closeConn => 1
  | .leave => 0

def WritePc.rank : WritePc → Nat
  | .start => 11
  | .lock => 10
  | .locked => 9
  | .write => 8
  | .close _ pc => 2 + pc.rank
  | .unlock _ => 1

/-- How far a request is from its end. -/
def RequestPc.rank : RequestPc → Nat
  | .start => 17
  | .insert => 16
  | .encode => 15
  | .write pc => 2 + pc.rank
  | .select => 2
  | .remove _ => 1
  | .returned .. => 0

theorem closeWithError_rank {p : Party} {err : Option Failure} {t t' : Shared} {pc pc' : ClosePc}
    {evs : List Event} (h : closeWithError p err t pc = some (t', some pc', evs)) :
    pc'.rank < pc.rank := by
  cases pc with
  | enter =>
    simp only [closeWithError] at h
    split at h <;> cases h
    decide
  | leave => cases h
  | _ =>
    cases h
    decide

theorem writeBinary_rank {p : Party} {written : Except String Unit} {t t' : Shared}
    {pc pc' : WritePc} {evs : List Event}
    (h : writeBinary p written t pc = some (t', .goes pc', evs)) : pc'.rank < pc.rank := by
  cases pc with
  | close err pc =>
    obtain ⟨⟨t₁, pc₁, evs₁⟩, hclose, heq⟩ := Option.map_eq_some_iff.mp h
    cases pc₁ with
    | none =>
      cases heq
      simp only [WritePc.rank]
      omega
    | some pc₁ =>
      cases heq
      have hlt := closeWithError_rank hclose
      simp only [WritePc.rank]
      omega
  | unlock result => cases h
  | lock =>
    simp only [writeBinary] at h
    split at h <;> cases h
    simp [WritePc.rank]
  | write =>
    cases written <;> cases h <;> simp [WritePc.rank, ClosePc.rank]
  | _ =>
    simp only [writeBinary] at h
    split_ifs at h <;> cases h <;> simp [WritePc.rank]

theorem request_rank {req : Request} {r : ReqId} {written : Except String Unit} {taken : Case}
    {t t' : Shared} {pc pc' : RequestPc} {evs : List Event}
    (h : request m req r written taken t pc = some (t', pc', evs)) : pc'.rank < pc.rank := by
  cases pc with
  | write pc =>
    obtain ⟨⟨t₁, next, evs₁⟩, hwrite, heq⟩ := Option.map_eq_some_iff.mp h
    have hpos : 0 < pc.rank := by
      cases pc with
      | close err pc =>
        simp only [WritePc.rank]
        omega
      | _ => simp [WritePc.rank]
    rcases next with pc₁ | ⟨err | u⟩
    · cases heq
      have hlt := writeBinary_rank hwrite
      simp only [RequestPc.rank]
      omega
    all_goals
      cases heq
      simp only [RequestPc.rank]
      omega
  | start =>
    simp only [request] at h
    split_ifs at h <;> cases h <;> simp [RequestPc.rank]
  | insert =>
    cases h
    simp [RequestPc.rank]
  | encode =>
    simp only [request] at h
    split at h <;> cases h <;> simp [RequestPc.rank, WritePc.rank]
  | select =>
    cases taken with
    | reply =>
      obtain ⟨o, -, heq⟩ := Option.map_eq_some_iff.mp h
      cases heq
      simp [RequestPc.rank]
    | done err =>
      cases h
      simp [RequestPc.rank]
    | closed =>
      simp only [request] at h
      split_ifs at h
      cases h
      simp [RequestPc.rank]
  | remove err =>
    cases h
    simp [RequestPc.rank]
  | returned frame err => cases h

/-! ### The pending map is safe -/

/-- **The pending map of the transport is safe**, in every state of every run of requests with ids of
their own: nothing panics, and the loop's send does not block; a channel is sent to at most once, by
the party that took it out of the map; a request that has returned has no entry; and on a closed
transport every request that has not returned can go on by itself, or waits for somebody who can,
and each of its steps brings it nearer to its return. -/
theorem pending_safe {s : State} {tr : List Event} (hinj : Function.Injective (key req))
    (h : (transport m decodeErrorBody req closing).Reachable s tr) :
    .panicked ∉ tr ∧
    (∀ r reply, s.readLoop = .send r reply → ∃ c, (s.shared.chan r).send reply = .done c) ∧
    (∀ r, (senders r tr).length ≤ 1 ∧ ∀ p ∈ senders r tr, removers r tr = [p]) ∧
    (∀ r frame err, s.requests r = .returned frame err →
      s.shared.pending.lookup (key req r) = none) ∧
    (s.shared.closed = true → ∀ r, (∀ frame err, s.requests r ≠ .returned frame err) →
      ∃ q, Relation.ReflTransGen (WaitsFor s) (.request r) q ∧
        Enabled m decodeErrorBody req closing s q) ∧
    ∀ r written taken s' evs,
      (transport m decodeErrorBody req closing).step (.request r written taken) s = some (s', evs) →
      (s'.requests r).rank < (s.requests r).rank := by
  have hsafe := safe hinj h
  refine ⟨hsafe.calm, ?_, ?_, ?_, fun hclosed r => request_goes_on (locks h) hclosed, ?_⟩
  · intro r reply hpc
    rw [(hsafe.fresh_of_send hpc).1]
    exact ⟨_, Channel.send_fresh reply⟩
  · intro r
    have hone : ∀ p, senders r tr = [p] → removers r tr = [p] →
        (senders r tr).length ≤ 1 ∧ ∀ p ∈ senders r tr, removers r tr = [p] := by
      intro p hsenders hremovers
      rw [hsenders, hremovers]
      refine ⟨le_rfl, fun q hq => ?_⟩
      rw [List.mem_singleton.mp hq]
    have hnone : senders r tr = [] →
        (senders r tr).length ≤ 1 ∧ ∀ p ∈ senders r tr, removers r tr = [p] := by
      intro hsenders
      rw [hsenders]
      exact ⟨Nat.zero_le 1, nofun⟩
    cases hsafe.life r with
    | absent _ _ _ hsenders => exact hnone hsenders
    | pending _ _ _ _ _ hsenders => exact hnone hsenders
    | taken _ _ _ _ _ hsenders => exact hnone hsenders
    | answered _ _ _ _ hremovers hsenders => exact hone _ hsenders hremovers
    | settled _ _ _ hremovers hsenders =>
      rcases hsenders with hsenders | hsenders
      · exact hnone hsenders
      · exact hone _ hsenders hremovers
  · intro r frame err hreturned
    refine (hsafe.life r).lookup_eq_none fun hentry => ?_
    have hholds := (hsafe.entry hentry).1
    rw [hreturned] at hholds
    cases hholds
  · intro r written taken s' evs hs
    obtain ⟨⟨t', pc', evs'⟩, hstep, heq⟩ := Option.map_eq_some_iff.mp hs
    cases heq
    show (Function.update s.requests r pc' r).rank < _
    rw [Function.update_self]
    exact request_rank hstep

section Sample

open Router (kindCall kindResponse msgPackSerde protocolVersion)

/-- The id of a request: as many letters as there were requests before it, and one. -/
def localId (r : ReqId) : String := String.ofList (List.replicate (r + 1) 'x')

def localRequest (r : ReqId) : Request :=
  ⟨⟨protocolVersion, kindCall, localId r, "caller", "service", .one⟩, []⟩

theorem localRequest_injective : Function.Injective (key localRequest) := by
  intro r q h
  have hlist : List.replicate (r + 1) 'x' = List.replicate (q + 1) 'x' := String.ofList_injective h
  have hlength := congrArg List.length hlist
  rw [List.length_replicate, List.length_replicate] at hlength
  exact Nat.succ.inj hlength

/-- The transport with the library of the samples; no body of an error is read. -/
def localTransport : TransitionSystem State Input Event :=
  transport (Bindings.rmpMsgpack msgPackSerde) (fun _ => .error .transportClosed) localRequest
    fun _ => none

/-- The request `r` takes a step; its frame can be written, and it takes a reply if there is one. -/
def requests (r : ReqId) : Input := .request r (.ok ()) .reply

/-- The loop takes a step; a message is the response to the request `r`. -/
def responds (r : ReqId) : Input :=
  .readLoop (.binary ((encodeFrame (Bindings.rmpMsgpack msgPackSerde)
    ⟨protocolVersion, kindResponse, localId r, "service", "caller", .one⟩ []).toOption.getD []))

/-- The transport is closed from outside. -/
def closes : Input := .close 0

/-- The first of two requests is answered, and the second is still waiting when the transport is
closed under it. -/
theorem pending_safe_two : ∃ s tr, localTransport.Reachable s tr ∧
    (match s.requests 0 with
      | .returned (some _) none => true
      | _ => false) = true ∧
    s.shared.closed = true ∧ (senders 0 tr).length = 1 ∧ .panicked ∉ tr := by
  obtain ⟨s, tr, hrun, hp⟩ := localTransport.exists_reachable_of_exec
    (List.replicate 8 (requests 0) ++ List.replicate 8 (requests 1) ++
      [responds 0, responds 0, responds 0, requests 0, responds 0] ++ List.replicate 4 closes)
    (fun s tr => (match s.requests 0 with
      | .returned (some _) none => true
      | _ => false) && s.shared.closed && (senders 0 tr).length == 1) (by decide +kernel)
  rw [Bool.and_eq_true, Bool.and_eq_true] at hp
  obtain ⟨⟨hreturned, hclosed⟩, hsent⟩ := hp
  obtain ⟨hcalm, -⟩ := pending_safe localRequest_injective hrun
  exact ⟨s, tr, hrun, hreturned, hclosed, beq_iff_eq.mp hsent, hcalm⟩

end Sample

end Multifrost.Go.Transport
