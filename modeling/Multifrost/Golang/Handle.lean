import Mathlib.Logic.Function.Basic
import Multifrost.Lib.TransitionSystem

/-!
# The caller handle of the Go binding

`Start` and `Stop` of `Handle` in `golang/connection.go`.  Any number of calls of both run side by
side.  One step is a section under `h.mu`, the bootstrap of the router, the dial with its
registration, the query for the target, or a call on a transport.
-/

namespace Multifrost.Go.Handle

/-- The calls of `Start`.  A call dials one transport at most, which goes by the same number. -/
abbrev StartId := Nat

abbrev StopId := Nat

inductive StartPc
  | unstarted
  /-- `ensureRouter` -/
  | ensure
  /-- `dialPeerTransport` -/
  | dial
  /-- `transport.queryGet` -/
  | validate
  /-- `transport.closeWithError` -/
  | close
  /-- the second section under `h.mu` -/
  | store
  | returned
deriving DecidableEq

inductive StopPc
  | unstarted
  /-- `transport.disconnect` -/
  | disconnect (t : StartId)
  /-- `transport.closeWithError` -/
  | close (t : StartId)
  | returned
deriving DecidableEq

structure State where
  started : Bool
  transport : Option StartId
  starts : StartId → StartPc
  stops : StopId → StopPc
  /-- the transports that are dialed and registered -/
  dialed : StartId → Bool
  /-- the transports that are closed -/
  closed : StartId → Bool

/-- What comes next; `ok` is whether it succeeds. -/
inductive Input
  | start (k : StartId)
  | ensured (k : StartId) (ok : Bool)
  | dialed (k : StartId) (ok : Bool)
  | validated (k : StartId) (ok : Bool)
  | closes (k : StartId)
  | store (k : StartId)
  | stop (j : StopId)
  | stopping (j : StopId)
  /-- the transport closes itself -/
  | fails (t : StartId)

def State.setStart (s : State) (k : StartId) (pc : StartPc) : State :=
  { s with starts := Function.update s.starts k pc }

def State.setStop (s : State) (j : StopId) (pc : StopPc) : State :=
  { s with stops := Function.update s.stops j pc }

def State.setClosed (s : State) (t : StartId) : State :=
  { s with closed := Function.update s.closed t true }

/-- A handle of which nothing has been called yet; `validate` is whether there is a target and the
option `ValidateTarget`. -/
def handle (validate : Bool) : TransitionSystem State Input Empty where
  init := ⟨false, none, fun _ => .unstarted, fun _ => .unstarted, fun _ => false, fun _ => false⟩
  step
    | .start k, s =>
      if s.starts k = .unstarted then
        if s.started then some (s.setStart k .returned, []) else some (s.setStart k .ensure, [])
      else none
    | .ensured k ok, s =>
      if s.starts k = .ensure then some (s.setStart k (if ok then .dial else .returned), []) else none
    | .dialed k ok, s =>
      if s.starts k = .dial then
        if ok then
          some ({ s with dialed := Function.update s.dialed k true }.setStart k
            (if validate then .validate else .store), [])
        else some (s.setStart k .returned, [])
      else none
    | .validated k ok, s =>
      if s.starts k = .validate then some (s.setStart k (if ok then .store else .close), []) else none
    | .closes k, s =>
      if s.starts k = .close then some ((s.setClosed k).setStart k .returned, []) else none
    | .store k, s =>
      if s.starts k = .store then
        some ({ s with transport := some k, started := true }.setStart k .returned, [])
      else none
    | .stop j, s =>
      if s.stops j = .unstarted then
        match s.transport with
        | some t =>
          if s.started then
            some ({ s with started := false, transport := none }.setStop j (.disconnect t), [])
          else some (s.setStop j .returned, [])
        | none => some (s.setStop j .returned, [])
      else none
    | .stopping j, s =>
      match s.stops j with
      | .disconnect t => some (s.setStop j (.close t), [])
      | .close t => some ((s.setClosed t).setStop j .returned, [])
      | _ => none
    | .fails t, s => if s.dialed t then some (s.setClosed t, []) else none

end Multifrost.Go.Handle
