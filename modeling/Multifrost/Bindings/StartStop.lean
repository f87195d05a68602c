import Multifrost.Golang.Safety.StartStop
import Multifrost.JavaScript.Safety.Restart
import Multifrost.JavaScript.Safety.StartStop

/-!
# Transports under concurrent starts and stops

Neither the handle of Go nor that of JavaScript looks again for a transport when it stores its own.
Of two overlapping starts, the one that stores last overwrites the transport of the other, which
nobody closes.  That is the only way to lose one: in a run in which a start finds no open transport
where it stores its own, a transport is closed, in the handle, or in the hands of a call.
-/

namespace Multifrost.Bindings

open TransitionSystem (Run)

/-- **No transport is lost** in a run in which a start finds no open transport where it stores its
own, with any options. -/
theorem transports_kept_or_closed (validate : Bool) (cfg : JavaScript.Handle.Config) :
    (∀ s tr, (Go.Handle.handle validate).Run (fun s _ i => Go.Handle.StoresOnce s i) s tr →
      Go.Handle.NoLeak validate s) ∧
    (∀ s tr,
      (JavaScript.Handle.handle cfg).Run (fun s _ i => JavaScript.Handle.AssignsOnce s i) s tr →
        JavaScript.Handle.NoLeak cfg s) := by
  constructor
  · intro s tr h
    exact Go.Handle.noLeak (Go.Handle.inv h)
  · intro s tr h
    exact JavaScript.Handle.noLeak (JavaScript.Handle.inv h)

/-- Two overlapping starts; the first transport is closed before the second is stored. -/
theorem transports_kept_or_closed_two :
    (∃ s tr, (Go.Handle.handle false).Run (fun s _ i => Go.Handle.StoresOnce s i) s tr ∧
      s.transport = some 1 ∧ Go.Handle.NoLeak false s) ∧
    (∃ s tr, (JavaScript.Handle.handle JavaScript.Handle.localConfig).Run
        (fun s _ i => JavaScript.Handle.AssignsOnce s i) s tr ∧
      s.transport = some 1 ∧ JavaScript.Handle.NoLeak JavaScript.Handle.localConfig s) := by
  obtain ⟨hgo, hjavaScript⟩ := transports_kept_or_closed false JavaScript.Handle.localConfig
  constructor
  · obtain ⟨s, tr, hrun, hp⟩ := (Go.Handle.handle false).exists_run_of_exec
      (fun s _ i => Go.Handle.StoresOnce s i)
      [.start 0, .ensured 0 true, .start 1, .ensured 1 true, .dialed 0 true, .dialed 1 true,
        .store 0, .stop 0, .stopping 0, .stopping 0, .store 1]
      (fun s _ => s.transport = some 1) (by decide +kernel)
    exact ⟨s, tr, hrun, of_decide_eq_true hp, hgo s tr hrun⟩
  · obtain ⟨s, tr, hrun, hp⟩ :=
      (JavaScript.Handle.handle JavaScript.Handle.localConfig).exists_run_of_exec
      (fun s _ i => JavaScript.Handle.AssignsOnce s i)
      (.start 1 :: JavaScript.Handle.connects 0 ++ JavaScript.Handle.stops 0 ++
        [.bootstrapped 1 true, .registered 1 true, .activated 1, .assigned 1])
      (fun s _ => s.transport = some 1) (by decide +kernel)
    exact ⟨s, tr, hrun, of_decide_eq_true hp, hjavaScript s tr hrun⟩

/-- Two overlapping starts both store their transport, and the first one stays open. -/
theorem transport_lost_by_overlap :
    (¬ ∀ validate s tr, (Go.Handle.handle validate).Reachable s tr → Go.Handle.NoLeak validate s) ∧
    (¬ ∀ cfg s tr, (JavaScript.Handle.handle cfg).Reachable s tr →
      JavaScript.Handle.NoLeak cfg s) := by
  constructor
  · intro hall
    have hexec : (Go.Handle.handle false).exec (fun _ _ _ => True) (Go.Handle.handle false).init []
        [.start 0, .ensured 0 true, .start 1, .ensured 1 true, .dialed 0 true, .dialed 1 true,
          .store 0, .store 1] = some _ := rfl
    have hleak := hall _ _ _ (Run.exec Run.init hexec)
    have hlost := hleak.1 ⟨fun | 0 | 1 => rfl | _ + 2 => rfl, fun _ => rfl⟩ 0 rfl
    rcases hlost with hclosed | ⟨hslot, -⟩
    · cases hclosed
    · cases hslot
  · intro hall
    have hexec : JavaScript.Handle.localHandle.exec (fun _ _ _ => True)
        JavaScript.Handle.localHandle.init []
        ([.start 1, .bootstrapped 1 true, .registered 1 true, .activated 1] ++
          JavaScript.Handle.connects 0 ++ [.assigned 1]) = some _ := rfl
    have hleak := hall _ _ _ (Run.exec Run.init hexec)
    have hlost := hleak.1 ⟨fun | 0 | 1 => rfl | _ + 2 => rfl, fun _ => rfl⟩ 0 rfl
    rcases hlost with hclosed | ⟨hslot, -⟩
    · cases hclosed
    · cases hslot

end Multifrost.Bindings
