import Multifrost.JavaScript.Handle

/-!
# The steps of a JavaScript handle

`Step cfg s i o` lists what an input can do in the state `s`, one constructor for a branch of the
source; `step_of_handle` says that there are no others.
-/

namespace Multifrost.JavaScript.Handle

variable {cfg : Config}

/-- The listeners of the transport are on its socket. -/
def State.Listens (s : State) (t : StartId) : Prop :=
  (s.transports t).listening = true ∧ (s.transports t).closeEmitted = false

inductive Step (cfg : Config) (s : State) : Input → State × List Event → Prop
  /-- `start` finds a transport -/
  | startReturns {k : StartId} (h : s.starts k = .unstarted)
      (hstarted : s.started = true ∧ s.transport.isSome = true) :
      Step cfg s (.start k) (s.setStart k .returned, [])
  | start {k : StartId} (h : s.starts k = .unstarted)
      (hstarted : ¬ (s.started = true ∧ s.transport.isSome = true)) :
      Step cfg s (.start k) (s.setStart k .bootstrap, [])
  | bootstrapped {k : StartId} (h : s.starts k = .bootstrap) :
      Step cfg s (.bootstrapped k true) ({ s with callerPeerId := true }.setStart k .connect, [])
  | bootstrapThrows {k : StartId} (h : s.starts k = .bootstrap) :
      Step cfg s (.bootstrapped k false) (s.setStart k .thrown, [])
  | registered {k : StartId} (h : s.starts k = .connect) :
      Step cfg s (.registered k true)
        ((s.setTransport k fun transport => { transport with listening := true }).setStart k
          .attached, [])
  | connectThrows {k : StartId} (h : s.starts k = .connect) :
      Step cfg s (.registered k false) (failStart k s)
  | activated {k : StartId} (h : s.starts k = .attached) :
      Step cfg s (.activated k)
        ((s.setTransport k fun transport => { transport with active := true }).setStart k
          .connected, [])
  | assigned {k : StartId} (h : s.starts k = .connected) :
      Step cfg s (.assigned k)
        ({ s with transport := some k, started := true }.setStart k
          (if cfg.eager then .validate else .returned), [])
  | validated {k : StartId} (h : s.starts k = .validate) :
      Step cfg s (.validated k true) (s.setStart k .returned, [])
  | validateThrows {k : StartId} (h : s.starts k = .validate) :
      Step cfg s (.validated k false) (failStart k s)
  | startThrows {k : StartId} (h : s.starts k = .stop) (hstop : s.stops (.start k) = .returned) :
      Step cfg s (.startThrows k) (s.setStart k .thrown, [])
  | stop {n : Nat} (h : s.stops (.user n) = .unstarted) :
      Step cfg s (.stop n) (beginStop (.user n) s)
  | stopSent {w : Stopper} {t : StartId} (h : s.stops w = .send t) :
      Step cfg s (.stopSent w) ((closeTransport t s).setStop w (.close t), [])
  | stopClosed {w : Stopper} {t : StartId} (h : s.stops w = .close t) :
      Step cfg s (.stopClosed w)
        ((rejectAllPending (.stop w) s).1.setStop w .returned, (rejectAllPending (.stop w) s).2)
  | message {t : StartId} {incoming : Incoming} (h : s.Listens t) :
      Step cfg s (.message t incoming) (message cfg t incoming s)
  | socketClosed {t : StartId} (h : s.Listens t) :
      Step cfg s (.socketClosed t) (rejectAllPending (.closed t) (s.setTransport t fun transport =>
        { transport with closed := true, active := false, closeEmitted := true }))
  | socketError {t : StartId} (h : s.Listens t) : Step cfg s (.socketError t) (failTransport t s)
  | request {r : ReqId} {encoded : Bool} (h : (s.requests r).outcome = .unsent) :
      Step cfg s (.request r encoded) (sendRequest cfg r encoded s)
  | requestSent {r : ReqId} (h : (s.requests r).sending = true) :
      Step cfg s (.requestSent r true) (s.setRequest r fun q => { q with sending := false }, [])
  | sendFails {r : ReqId} (h : (s.requests r).sending = true) :
      Step cfg s (.requestSent r false)
        (reject r .sendFailure (clearTimeout r
          { s.setRequest r fun q => { q with sending := false } with
            pendingRequests := s.pendingRequests.erase (cfg.msgId r) }))
  | timeout {r : ReqId} (h : (s.requests r).timer = true) :
      Step cfg s (.timeout r)
        (reject r .timeout
          (clearTimeout r { s with pendingRequests := s.pendingRequests.erase (cfg.msgId r) }))

theorem step_of_handle {s : State} {i : Input} {o : State × List Event}
    (hs : (handle cfg).step i s = some o) : Step cfg s i o := by
  cases i with
  | start k =>
    simp only [handle] at hs
    split_ifs at hs with hpc hstarted <;> cases hs
    · exact .startReturns hpc hstarted
    · exact .start hpc hstarted
  | bootstrapped k ok =>
    simp only [handle] at hs
    split_ifs at hs with hpc hok <;> cases hs
    · subst hok
      exact .bootstrapped hpc
    · rw [eq_false_of_ne_true hok]
      exact .bootstrapThrows hpc
  | registered k ok =>
    simp only [handle] at hs
    split_ifs at hs with hpc hok <;> cases hs
    · subst hok
      exact .registered hpc
    · rw [eq_false_of_ne_true hok]
      exact .connectThrows hpc
  | activated k =>
    simp only [handle] at hs
    split_ifs at hs with hpc
    cases hs
    exact .activated hpc
  | assigned k =>
    simp only [handle] at hs
    by_cases hpc : s.starts k = .connected
    · rw [if_pos hpc] at hs
      cases hs
      exact .assigned hpc
    · rw [if_neg hpc] at hs
      cases hs
  | validated k ok =>
    simp only [handle] at hs
    split_ifs at hs with hpc hok <;> cases hs
    · subst hok
      exact .validated hpc
    · rw [eq_false_of_ne_true hok]
      exact .validateThrows hpc
  | startThrows k =>
    simp only [handle] at hs
    split_ifs at hs with hpc
    cases hs
    exact .startThrows hpc.1 hpc.2
  | stop n =>
    simp only [handle] at hs
    split_ifs at hs with hpc
    cases hs
    exact .stop hpc
  | stopSent w =>
    simp only [handle] at hs
    split at hs <;> cases hs
    exact .stopSent ‹_›
  | stopClosed w =>
    simp only [handle] at hs
    split at hs <;> cases hs
    exact .stopClosed ‹_›
  | message t incoming =>
    simp only [handle] at hs
    split_ifs at hs with hlistens
    cases hs
    exact .message hlistens
  | socketClosed t =>
    simp only [handle] at hs
    split_ifs at hs with hlistens
    cases hs
    exact .socketClosed hlistens
  | socketError t =>
    simp only [handle] at hs
    split_ifs at hs with hlistens
    cases hs
    exact .socketError hlistens
  | request r encoded =>
    simp only [handle] at hs
    split_ifs at hs with hunsent
    cases hs
    exact .request hunsent
  | requestSent r ok =>
    simp only [handle] at hs
    split_ifs at hs with hsending hok <;> cases hs
    · subst hok
      exact .requestSent hsending
    · rw [eq_false_of_ne_true hok]
      exact .sendFails hsending
  | timeout r =>
    simp only [handle] at hs
    split_ifs at hs with htimer
    cases hs
    exact .timeout htimer

end Multifrost.JavaScript.Handle
