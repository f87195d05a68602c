import Mathlib.Data.List.DropRight
import Mathlib.Data.List.Sort
import Mathlib.Order.Bounds.Defs

/-!
# The last samples, and their percentiles

`Samples.last cap xs` are the last samples of `xs`, no more of them than the bound `cap`, if there
is one.  A `Buffer` that takes samples at its end and drops the first one when it has grown too
long holds just these (`Buffer.push_lastOf`).

A sample is the `p`-th percentile of samples (`IsPercentile`) when no more than `p` hundredths of
them are less than it, and more than `p` hundredths of them are not above it.  There is one at most
(`IsPercentile.unique`), and it stands in the sorted samples where `p` hundredths of them are before
it (`isPercentile_getElem`).
-/

namespace Samples

/-! ### The last samples -/

section Last

variable {L : Type*} (cap : Option ℕ) (xs : List L) (x : L)

def last : List L :=
  match cap with
  | none => xs
  | some cap => xs.rtake cap

@[simp]
theorem last_nil : last cap ([] : List L) = [] := by
  cases cap with
  | none => rfl
  | some cap => exact List.rtake_nil cap

/-- One more sample, where there is room for it. -/
theorem rtake_concat_of_lt {cap : ℕ} (h : (xs.rtake cap).length < cap) :
    (xs ++ [x]).rtake cap = xs.rtake cap ++ [x] := by
  rw [List.rtake, List.length_drop] at h
  have hall : xs.length < cap := by omega
  have hnone : xs.length - cap = 0 := by omega
  have hnone' : (xs ++ [x]).length - cap = 0 := by
    rw [List.length_append, List.length_singleton]
    omega
  rw [List.rtake, List.rtake, hnone, hnone', List.drop_zero, List.drop_zero]

/-- One more sample, for which the first one is dropped. -/
theorem rtake_concat_of_le {cap : ℕ} (h : cap ≤ (xs.rtake cap).length) :
    (xs ++ [x]).rtake cap = (xs.rtake cap ++ [x]).tail := by
  rw [List.rtake, List.length_drop] at h
  have hlength : (xs ++ [x]).length - cap = xs.length - cap + 1 := by
    rw [List.length_append, List.length_singleton]
    omega
  have happend : xs.drop (xs.length - cap) ++ [x] = (xs ++ [x]).drop (xs.length - cap) :=
    (List.drop_append_of_le_length (Nat.sub_le _ _)).symm
  rw [List.rtake, List.rtake, happend, List.tail_drop, hlength]

/-- Samples in their order, with room for `cap` of them. -/
structure Buffer (L : Type*) where
  cap : Option ℕ
  held : List L

/-- One more sample.  The first one is dropped when they have grown too many. -/
def Buffer.push (b : Buffer L) (x : L) : Buffer L :=
  let held := b.held ++ [x]
  if b.cap.any (· < held.length) then { b with held := held.tail } else { b with held }

def Buffer.clear (b : Buffer L) : Buffer L := { b with held := [] }

/-- The buffer with the last samples of `xs`. -/
def Buffer.lastOf : Buffer L := ⟨cap, last cap xs⟩

@[simp]
theorem Buffer.clear_lastOf : (lastOf cap xs).clear = lastOf cap [] := by
  simp only [clear, lastOf, last_nil]

/-- A buffer keeps the last samples. -/
theorem Buffer.push_lastOf : (lastOf cap xs).push x = lastOf cap (xs ++ [x]) := by
  unfold push lastOf
  dsimp only
  cases cap with
  | none => rfl
  | some cap =>
    simp only [last, Option.any_some, decide_eq_true_eq, List.length_append, List.length_singleton]
    split_ifs with hfull
    · rw [rtake_concat_of_le xs x (by omega)]
    · rw [rtake_concat_of_lt xs x (by omega)]

end Last

/-! ### Percentiles -/

variable {L : Type*} [LinearOrder L]

structure IsPercentile (p : ℕ) (xs : List L) (v : L) : Prop where
  mem : v ∈ xs
  below : 100 * xs.countP (· < v) ≤ p * xs.length
  upto : p * xs.length < 100 * xs.countP (· ≤ v)

variable {p : ℕ} {xs ys : List L} {v w : L}

theorem IsPercentile.perm (h : IsPercentile p xs v) (hperm : xs.Perm ys) : IsPercentile p ys v where
  mem := hperm.mem_iff.mp h.mem
  below := by
    rw [← hperm.countP_eq, ← hperm.length_eq]
    exact h.below
  upto := by
    rw [← hperm.countP_eq, ← hperm.length_eq]
    exact h.upto

/-- What is not above a sample is below every greater one. -/
theorem IsPercentile.le (hv : IsPercentile p xs v) (hw : IsPercentile p xs w) : w ≤ v := by
  by_contra hnot
  have hlt : v < w := lt_of_not_ge hnot
  have hmono : xs.countP (· ≤ v) ≤ xs.countP (· < w) := by
    apply List.countP_mono_left
    intro x _ hx
    exact decide_eq_true (lt_of_le_of_lt (of_decide_eq_true hx) hlt)
  have hupto := hv.upto
  have hbelow := hw.below
  omega

theorem IsPercentile.unique (hv : IsPercentile p xs v) (hw : IsPercentile p xs w) : v = w :=
  le_antisymm (hw.le hv) (hv.le hw)

section Sorted

variable (hsorted : xs.SortedLE) {i : ℕ} (hi : i < xs.length)

include hsorted

/-- What is less than a sample comes before it. -/
theorem countP_lt_getElem_le : xs.countP (· < xs[i]) ≤ i := by
  have hafter : (xs.drop i).countP (· < xs[i]) = 0 := by
    rw [List.countP_eq_zero]
    intro x hx
    obtain ⟨j, hj, rfl⟩ := List.mem_iff_getElem.mp hx
    rw [List.getElem_drop, decide_eq_true_eq, not_lt]
    exact hsorted.getElem_le_getElem_of_le (Nat.le_add_right i j)
  calc xs.countP (· < xs[i])
      = (xs.take i).countP (· < xs[i]) + (xs.drop i).countP (· < xs[i]) := by
        rw [← List.countP_append, List.take_append_drop]
    _ ≤ (xs.take i).length := by
        rw [hafter, Nat.add_zero]
        exact List.countP_le_length
    _ ≤ i := List.length_take_le i xs

/-- What comes before a sample is not above it. -/
theorem lt_countP_le_getElem : i < xs.countP (· ≤ xs[i]) := by
  have hupto : (xs.take (i + 1)).countP (· ≤ xs[i]) = (xs.take (i + 1)).length := by
    rw [List.countP_eq_length]
    intro x hx
    obtain ⟨j, hj, rfl⟩ := List.mem_iff_getElem.mp hx
    rw [List.length_take] at hj
    rw [List.getElem_take, decide_eq_true_eq]
    exact hsorted.getElem_le_getElem_of_le (by omega)
  have hall : (xs.take (i + 1)).countP (· ≤ xs[i]) ≤ xs.countP (· ≤ xs[i]) :=
    (List.take_sublist (i + 1) xs).countP_le
  rw [hupto, List.length_take] at hall
  omega

/-- Where the `p`-th percentile stands in sorted samples. -/
theorem isPercentile_getElem (h : i = p * xs.length / 100) : IsPercentile p xs xs[i] where
  mem := List.getElem_mem hi
  below := by
    have hle := countP_lt_getElem_le hsorted hi
    omega
  upto := by
    have hlt := lt_countP_le_getElem hsorted hi
    omega

theorem isLeast_head (h : 0 < xs.length) : IsLeast {x | x ∈ xs} xs[0] := by
  refine ⟨List.getElem_mem h, ?_⟩
  intro x hx
  obtain ⟨j, hj, rfl⟩ := List.mem_iff_getElem.mp hx
  exact hsorted.getElem_le_getElem_of_le (Nat.zero_le j)

theorem isGreatest_last (h : xs.length - 1 < xs.length) :
    IsGreatest {x | x ∈ xs} xs[xs.length - 1] := by
  refine ⟨List.getElem_mem h, ?_⟩
  intro x hx
  obtain ⟨j, hj, rfl⟩ := List.mem_iff_getElem.mp hx
  exact hsorted.getElem_le_getElem_of_le (by omega)

end Sorted

end Samples
