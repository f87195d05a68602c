import Mathlib.Tactic.Common

/-!
# Channels with a buffer for one value

`Channel α` is a buffered channel of capacity one that can be closed, seen from its operations: a
send to a closed channel panics and so does a second close, a send to a full channel blocks, and
what is in the buffer is still received after the channel was closed.
-/

structure Channel (α : Type*) where
  buffer : Option α
  closed : Bool
deriving DecidableEq

namespace Channel

variable {α : Type*}

/-- A channel that was just made. -/
def fresh : Channel α := ⟨none, false⟩

/-- What an operation of a sender comes to. -/
inductive Outcome (α : Type*)
  | done (c : Channel α)
  | blocks
  | panics

def send (c : Channel α) (a : α) : Outcome α :=
  if c.closed then .panics
  else
    match c.buffer with
    | none => .done { c with buffer := some a }
    | some _ => .blocks

def close (c : Channel α) : Outcome α :=
  if c.closed then .panics else .done { c with closed := true }

/-- What a receiver gets, if it gets anything: `none` is the zero value, which a closed channel
yields when its buffer is empty. -/
def receive (c : Channel α) : Option (Option α × Channel α) :=
  match c.buffer with
  | some a => some (some a, { c with buffer := none })
  | none => if c.closed then some (none, c) else none

theorem send_fresh (a : α) : (fresh : Channel α).send a = .done ⟨some a, false⟩ := rfl

theorem close_of_open {c : Channel α} (h : c.closed = false) :
    c.close = .done { c with closed := true } := by
  rw [close, h]
  rfl

/-- What is sent is in the buffer. -/
theorem buffer_of_send {c c' : Channel α} {a : α} (h : c.send a = .done c') :
    c'.buffer = some a := by
  unfold send at h
  split at h
  · cases h
  · split at h <;> cases h
    rfl

theorem buffer_of_close {c c' : Channel α} (h : c.close = .done c') : c'.buffer = c.buffer := by
  unfold close at h
  split at h <;> cases h
  rfl

/-- What is received was in the buffer, and leaves it empty. -/
theorem buffer_of_receive {c c' : Channel α} {a : Option α} (h : c.receive = some (a, c')) :
    c.buffer = a ∧ c'.buffer = none := by
  unfold receive at h
  split at h
  · cases h
    exact ⟨‹_›, rfl⟩
  · split at h <;> cases h
    exact ⟨‹_›, ‹_›⟩

/-- Nothing is received from a channel that was just made. -/
theorem receive_fresh : (fresh : Channel α).receive = none := rfl

end Channel
