import Mathlib.Data.Nat.Find
import Mathlib.Order.WellFounded
import Mathlib.Tactic.Common

/-!
# Loops that retry until a deadline

A loop makes one turn after the other.  What a turn `t k` brings is decided from outside, and
`body (t k)` is what it comes to: `none` if the loop goes on, and a result if it returns.

`EndsBy` says that the loop returns, with a good result, and that at most one of its turns starts
late.  Where the clock goes on, this is so if and only if no late turn goes on and no turn returns
anything else (`endsBy_iff`).
-/

namespace RetryLoop

variable {τ ρ : Type*}

/-- The turns before have not ended the loop. -/
def Starts (body : τ → Option ρ) (t : Nat → τ) (k : Nat) : Prop := ∀ j < k, body (t j) = none

structure EndsBy (late : Nat → Prop) (good : ρ → Prop) (body : τ → Option ρ) (t : Nat → τ) : Prop
    where
  one_late : ∀ j k, Starts body t j → Starts body t k → late j → late k → j = k
  returns : ∃ k r, Starts body t k ∧ body (t k) = some r ∧ good r

section EndsBy

variable {late : Nat → Prop} {good : ρ → Prop} {body : τ → Option ρ} {t : Nat → τ}

theorem Starts.succ {k : Nat} (h : Starts body t k) (hk : body (t k) = none) :
    Starts body t (k + 1) := by
  intro j hj
  rcases Nat.lt_succ_iff_lt_or_eq.mp hj with hlt | rfl
  · exact h j hlt
  · exact hk

/-- The loop returns in one turn only. -/
theorem Starts.eq {j k : Nat} (hj : Starts body t j) (hk : Starts body t k)
    (hjr : body (t j) ≠ none) (hkr : body (t k) ≠ none) : j = k := by
  rcases Nat.lt_trichotomy j k with hlt | heq | hlt
  · exact absurd (hk j hlt) hjr
  · exact heq
  · exact absurd (hj k hlt) hkr

/-- If some turn would return, the first such turn starts. -/
theorem exists_starts (h : ∃ k, body (t k) ≠ none) : ∃ k, Starts body t k ∧ body (t k) ≠ none := by
  classical
  refine ⟨Nat.find h, fun j hj => ?_, Nat.find_spec h⟩
  by_contra hne
  exact Nat.find_min h hj hne

theorem endsBy_iff (hpass : ∃ k, late k) (hmono : ∀ k, late k → late (k + 1)) :
    EndsBy late good body t ↔ ∀ k, Starts body t k →
      (late k → body (t k) ≠ none) ∧ ∀ r, body (t k) = some r → good r := by
  constructor
  · intro h k hk
    constructor
    · intro hlate hnone
      have hnext := h.one_late k (k + 1) hk (hk.succ hnone) hlate (hmono k hlate)
      omega
    · intro r hr
      obtain ⟨k', r', hk', hr', hgood⟩ := h.returns
      obtain rfl : k = k' := hk.eq hk' (by rw [hr]; exact nofun) (by rw [hr']; exact nofun)
      obtain rfl : r = r' := Option.some.inj (hr.symm.trans hr')
      exact hgood
  · intro h
    have hends : ∃ k, body (t k) ≠ none := by
      obtain ⟨k, hlate⟩ := hpass
      by_contra hnever
      have hall : ∀ j, body (t j) = none := fun j => by
        by_contra hne
        exact hnever ⟨j, hne⟩
      exact (h k fun j _ => hall j).1 hlate (hall k)
    have hlast : ∀ j k, Starts body t k → late j → ¬ j < k := fun j k hk hlate hlt =>
      (h j fun i hi => hk i (hi.trans hlt)).1 hlate (hk j hlt)
    refine ⟨fun j k hj hk hlate hlate' => ?_, ?_⟩
    · have hjk := hlast j k hk hlate
      have hkj := hlast k j hj hlate'
      omega
    · obtain ⟨k, hk, hne⟩ := exists_starts hends
      obtain ⟨r, hr⟩ := Option.ne_none_iff_exists'.mp hne
      exact ⟨k, r, hk, hr, (h k hk).2 r hr⟩

end EndsBy

/-- A clock that goes on passes every deadline. -/
theorem exists_late {clock : Nat → Nat} (h : ∀ k, clock k < clock (k + 1)) (deadline : Nat) :
    ∃ k, deadline < clock k := by
  have hmono : StrictMono clock := strictMono_nat_of_lt_succ h
  have hle : deadline + 1 ≤ clock (deadline + 1) := hmono.le_apply
  exact ⟨deadline + 1, by omega⟩

end RetryLoop
