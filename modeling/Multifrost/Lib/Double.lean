import Mathlib.Algebra.Order.Floor.Ring
import Mathlib.Data.Int.Log
import Mathlib.Data.Rat.Floor
import Mathlib.Tactic.Linarith
import Mathlib.Tactic.Positivity
import Mathlib.Tactic.NormNum

/-!
# Rounding to double precision

`Double.nearest q` is the double nearest to a rational `q ≥ 0`, ties to even, as a rational again.
The exponent is not bounded above, so that a `q` that overflows is one whose `nearest q` is
`Double.overflow` or more.

The number is the multiple of `Double.ulp q` nearest to `q`.  What later proofs need of it is when
it reaches a given number: `le_nearest_iff` says that `N ≤ nearest q` exactly when `q` is at least
half a unit below `N`, for the numbers `N` to which a tie goes (`natCast_le_nearest_iff` for whole
numbers, `zpow_le_nearest_iff` for powers of two), and `nearest_natCast` that whole numbers below
`2^53` are kept.  Rounding does not change the whole part of a number that is far enough below the
next one (`floor_nearest_eq`).
-/

namespace Double

/-- The nearest integer, ties to even. -/
def roundEven (x : ℚ) : ℤ :=
  if x - ⌊x⌋ < 1 / 2 then ⌊x⌋
  else if 1 / 2 < x - ⌊x⌋ then ⌊x⌋ + 1
  else if Even ⌊x⌋ then ⌊x⌋ else ⌊x⌋ + 1

/-- The distance of two neighbouring doubles at `q`. -/
def ulp (q : ℚ) : ℚ := 2 ^ max (Int.log 2 q - 52) (-1074)

/-- The double nearest to `q`. -/
def nearest (q : ℚ) : ℚ := roundEven (q / ulp q) * ulp q

/-- The power of two that is too large for a double; `nearest q` stands for infinity from it on. -/
def overflow : ℚ := 2 ^ (1024 : ℤ)

/-- What a double stands for. -/
inductive Value
  | nan
  | infinite (negative : Bool)
  | finite (q : ℚ)

/-! ### Integers -/

theorem roundEven_intCast (n : ℤ) : roundEven n = n := by
  simp [roundEven]

theorem floor_le_roundEven (x : ℚ) : ⌊x⌋ ≤ roundEven x := by
  unfold roundEven
  split_ifs <;> omega

theorem roundEven_le_floor_add_one (x : ℚ) : roundEven x ≤ ⌊x⌋ + 1 := by
  unfold roundEven
  split_ifs <;> omega

theorem le_roundEven {n : ℤ} {x : ℚ} (h : (n : ℚ) ≤ x) : n ≤ roundEven x :=
  le_trans (Int.le_floor.mpr h) (floor_le_roundEven x)

theorem roundEven_le {n : ℤ} {x : ℚ} (h : x ≤ n) : roundEven x ≤ n := by
  rcases lt_or_eq_of_le h with hlt | rfl
  · have hfloor : ⌊x⌋ < n := Int.floor_lt.mpr hlt
    have hround := roundEven_le_floor_add_one x
    omega
  · exact le_of_eq (roundEven_intCast n)

/-- A tie goes to an even number. -/
theorem le_roundEven_iff {n : ℤ} (hn : Even n) {x : ℚ} :
    n ≤ roundEven x ↔ (n : ℚ) - 1 / 2 ≤ x := by
  have hlow := Int.floor_le x
  have hhigh := Int.lt_floor_add_one x
  rcases lt_trichotomy n (⌊x⌋ + 1) with hlt | heq | hgt
  · -- `n` is at most `x`
    have hn' : n ≤ ⌊x⌋ := by omega
    have hcast : (n : ℚ) ≤ ⌊x⌋ := by exact_mod_cast hn'
    exact iff_of_true (le_trans hn' (floor_le_roundEven x)) (by linarith)
  · -- `n` is the next integer, and the one below it is odd
    subst heq
    have hodd : ¬ Even ⌊x⌋ := Int.not_even_iff_odd.mpr (by
      simpa using hn.sub_odd odd_one)
    push_cast
    unfold roundEven
    split_ifs with h1 h2
    · exact iff_of_false (by omega) (by linarith)
    · exact iff_of_true (by omega) (by linarith)
    · exact iff_of_true (by omega) (by linarith)
  · -- `n` is out of reach
    have hn' : ⌊x⌋ + 2 ≤ n := by omega
    have hcast : (⌊x⌋ : ℚ) + 2 ≤ n := by exact_mod_cast hn'
    have hround := roundEven_le_floor_add_one x
    exact iff_of_false (by omega) (by linarith)

/-! ### Doubles -/

theorem ulp_pos (q : ℚ) : 0 < ulp q := zpow_pos (by norm_num) _

theorem ulp_eq {q : ℚ} {k : ℤ} (hk : Int.log 2 q = k) (h : -1022 ≤ k) :
    ulp q = 2 ^ (k - 52) := by
  unfold ulp
  rw [hk, max_eq_left (by omega)]

/-- What is a multiple of the unit at `q` and not above `q` is not above its double. -/
theorem le_nearest {q : ℚ} {n : ℤ} (h : n * ulp q ≤ q) : n * ulp q ≤ nearest q := by
  have hround : n ≤ roundEven (q / ulp q) := le_roundEven ((le_div_iff₀ (ulp_pos q)).mpr h)
  exact mul_le_mul_of_nonneg_right (by exact_mod_cast hround) (le_of_lt (ulp_pos q))

theorem nearest_le {q : ℚ} {n : ℤ} (h : q ≤ n * ulp q) : nearest q ≤ n * ulp q := by
  have hround : roundEven (q / ulp q) ≤ n := roundEven_le ((div_le_iff₀ (ulp_pos q)).mpr h)
  exact mul_le_mul_of_nonneg_right (by exact_mod_cast hround) (le_of_lt (ulp_pos q))

theorem two_zpow_add_mul (a : ℤ) (n : ℕ) : ((2 ^ n : ℤ) : ℚ) * 2 ^ a = 2 ^ (a + n) := by
  rw [zpow_add₀ (by norm_num), zpow_natCast, mul_comm]
  push_cast
  rfl

/-- A power of two is a multiple of the unit of every number below it. -/
theorem nearest_le_zpow {q : ℚ} {k : ℤ} (hk : Int.log 2 q < k) (hlow : -1022 ≤ k)
    (h : q ≤ 2 ^ k) : nearest q ≤ 2 ^ k := by
  have hexp : max (Int.log 2 q - 52) (-1074) ≤ k := by omega
  obtain ⟨n, hn⟩ := Int.le.dest hexp
  have hpow : ((2 ^ n : ℤ) : ℚ) * ulp q = 2 ^ k := by
    rw [ulp, two_zpow_add_mul, hn]
  rw [← hpow] at h ⊢
  exact nearest_le h

/-- **When the nearest double reaches `N`**: `N` is in the upper part of a binade `(2^k, 2^(k+1)]`
and an even multiple of its unit, so that a tie goes to it. -/
theorem le_nearest_iff {q N : ℚ} {k n : ℤ} (hq : 0 < q) (hk : -1021 ≤ k) (hlow : 2 ^ k < N)
    (hhigh : N ≤ 2 ^ (k + 1)) (hn : Even n) (hN : N = n * 2 ^ (k - 52)) :
    N ≤ nearest q ↔ N - 2 ^ (k - 53) ≤ q := by
  have hself : (2 : ℚ) ^ Int.log 2 q ≤ q := by
    exact_mod_cast Int.zpow_log_le_self (by norm_num : 1 < 2) hq
  have hsucc : q < 2 ^ (Int.log 2 q + 1) := by
    exact_mod_cast Int.lt_zpow_succ_log_self (by norm_num : 1 < 2) q
  have hhalf : (2 : ℚ) ^ (k - 52) = 2 * 2 ^ (k - 53) := by
    rw [show k - 52 = 1 + (k - 53) by ring, zpow_add₀ (by norm_num), zpow_one]
  rcases lt_trichotomy (Int.log 2 q) k with hlt | heq | hgt
  · -- below the binade
    have hqk : q < 2 ^ k :=
      lt_of_lt_of_le hsucc (zpow_le_zpow_right₀ (by norm_num) (by omega))
    have hnear := nearest_le_zpow hlt (by omega) (le_of_lt hqk)
    have hmult : (2 : ℚ) ^ k = (2 ^ 52 : ℤ) * 2 ^ (k - 52) := by
      rw [two_zpow_add_mul]
      congr 1
      omega
    have hgap : (2 ^ 52 : ℤ) + 1 ≤ n := by
      rw [hN, hmult] at hlow
      have := lt_of_mul_lt_mul_right hlow (le_of_lt (zpow_pos (by norm_num) _))
      exact_mod_cast this
    have hpos : (0 : ℚ) < 2 ^ (k - 53) := zpow_pos (by norm_num) _
    have hstep : (2 : ℚ) ^ k + 2 ^ (k - 52) ≤ N := by
      have hcast : ((2 ^ 52 : ℤ) : ℚ) + 1 ≤ n := by exact_mod_cast hgap
      rw [hN, hmult]
      calc ((2 ^ 52 : ℤ) : ℚ) * 2 ^ (k - 52) + 2 ^ (k - 52)
          = (((2 ^ 52 : ℤ) : ℚ) + 1) * 2 ^ (k - 52) := by ring
        _ ≤ n * 2 ^ (k - 52) :=
          mul_le_mul_of_nonneg_right hcast (le_of_lt (zpow_pos (by norm_num) _))
    exact iff_of_false (by linarith) (by linarith)
  · -- in the binade the unit is that of `N`
    have hulp : ulp q = 2 ^ (k - 52) := ulp_eq heq (by omega)
    have hpos : (0 : ℚ) < 2 ^ (k - 52) := zpow_pos (by norm_num) _
    rw [nearest, hulp, hN, mul_le_mul_iff_left₀ hpos, Int.cast_le, le_roundEven_iff hn,
      le_div_iff₀ hpos, sub_mul]
    have : (1 : ℚ) / 2 * 2 ^ (k - 52) = 2 ^ (k - 53) := by linarith
    rw [this]
  · -- above the binade
    have hqN : (2 : ℚ) ^ (k + 1) ≤ 2 ^ Int.log 2 q :=
      zpow_le_zpow_right₀ (by norm_num) (by omega)
    have hulp : ((2 ^ 52 : ℤ) : ℚ) * ulp q = 2 ^ Int.log 2 q := by
      rw [ulp_eq rfl (by omega), two_zpow_add_mul]
      congr 1
      omega
    have hnear : (2 : ℚ) ^ Int.log 2 q ≤ nearest q := by
      rw [← hulp] at hself ⊢
      exact le_nearest hself
    have hpos : (0 : ℚ) < 2 ^ (k - 53) := zpow_pos (by norm_num) _
    exact iff_of_true (by linarith) (by linarith)

/-- The nearest double reaches a power of two from half a unit of the binade below it on. -/
theorem zpow_le_nearest_iff {q : ℚ} {k : ℤ} (hq : 0 < q) (hk : -1021 ≤ k) :
    2 ^ (k + 1) ≤ nearest q ↔ 2 ^ (k + 1) - 2 ^ (k - 53) ≤ q := by
  have hlow : (2 : ℚ) ^ k < 2 ^ (k + 1) := zpow_lt_zpow_right₀ (by norm_num) (by omega)
  have hmult : (2 : ℚ) ^ (k + 1) = (2 ^ 53 : ℤ) * 2 ^ (k - 52) := by
    rw [two_zpow_add_mul]
    congr 1
    omega
  exact le_nearest_iff hq hk hlow le_rfl ((even_two : Even (2 : ℤ)).pow_of_ne_zero (by norm_num)) hmult

theorem overflow_le_nearest_iff {q : ℚ} (hq : 0 < q) :
    overflow ≤ nearest q ↔ overflow - 2 ^ (970 : ℤ) ≤ q :=
  zpow_le_nearest_iff (k := 1023) hq (by norm_num)

theorem overflow_pos : 0 < overflow := zpow_pos (by norm_num) _

theorem nearest_zero : nearest 0 = 0 := by
  simp [nearest, roundEven]

/-- The same for a whole number `N` of at most 52 bits, and a `q` that may be zero. -/
theorem natCast_le_nearest_iff {q : ℚ} {N : ℕ} {k : ℤ} (hq : 0 ≤ q) (hk : -1021 ≤ k) (hk' : k < 52)
    (hlow : 2 ^ k < (N : ℚ)) (hhigh : (N : ℚ) ≤ 2 ^ (k + 1)) :
    (N : ℚ) ≤ nearest q ↔ (N : ℚ) - 2 ^ (k - 53) ≤ q := by
  rcases eq_or_lt_of_le hq with rfl | hpos
  · have hsmall : (2 : ℚ) ^ (k - 53) ≤ 2 ^ k := zpow_le_zpow_right₀ (by norm_num) (by omega)
    have hN : (0 : ℚ) < 2 ^ k := zpow_pos (by norm_num) _
    rw [nearest_zero]
    exact iff_of_false (by linarith) (by linarith)
  · obtain ⟨j, hj⟩ := Int.le.dest (show k + 1 ≤ 52 by omega)
    have hexp : k - 52 + ((j + 1 : ℕ) : ℤ) = 0 := by
      push_cast
      omega
    refine le_nearest_iff hpos hk hlow hhigh (n := (N * 2 ^ j) * 2) (even_two.mul_left _) ?_
    have hone := two_zpow_add_mul (k - 52) (j + 1)
    rw [hexp, zpow_zero] at hone
    push_cast at hone ⊢
    rw [pow_succ] at hone
    rw [mul_assoc (N : ℚ), mul_assoc (N : ℚ), hone, mul_one]

/-- Whole numbers below `2^53` are doubles. -/
theorem nearest_natCast {n : ℕ} (h : n < 2 ^ 53) : nearest n = n := by
  rcases Nat.eq_zero_or_pos n with rfl | hpos
  · exact_mod_cast nearest_zero
  · have hlog : Int.log 2 (n : ℚ) ≤ 52 := by
      rw [Int.log_natCast]
      have := Nat.log_lt_of_lt_pow hpos.ne' h
      omega
    have hexp : max (Int.log 2 (n : ℚ) - 52) (-1074) ≤ 0 := by omega
    obtain ⟨j, hj⟩ := Int.le.dest hexp
    have hone : ((2 ^ j : ℤ) : ℚ) * ulp n = 1 := by
      rw [ulp, two_zpow_add_mul, hj, zpow_zero]
    have hdiv : (n : ℚ) / ulp n = ((n * 2 ^ j : ℤ) : ℚ) := by
      rw [div_eq_iff (ulp_pos _).ne']
      push_cast at hone ⊢
      rw [mul_assoc, hone, mul_one]
    rw [nearest, hdiv, roundEven_intCast]
    push_cast at hone ⊢
    rw [mul_assoc, hone, mul_one]

/-- So is `2 ^ 53` itself. -/
theorem nearest_natCast_of_le {n : ℕ} (h : n ≤ 2 ^ 53) : nearest n = n := by
  rcases Nat.lt_or_eq_of_le h with hlt | rfl
  · exact nearest_natCast hlt
  · have hlargest : nearest (2 ^ 53) = 2 ^ 53 := by decide +kernel
    exact_mod_cast hlargest

/-! ### Whole parts -/

theorem nearest_nonneg {q : ℚ} (h : 0 ≤ q) : 0 ≤ nearest q := by
  have hzero : ((0 : ℤ) : ℚ) * ulp q ≤ nearest q := by
    apply le_nearest
    rw [Int.cast_zero, zero_mul]
    exact h
  rwa [Int.cast_zero, zero_mul] at hzero

/-- The binade below a whole number. -/
theorem exists_binade {N : ℕ} (hpos : 0 < N) (hle : N ≤ 2 ^ 52) :
    ∃ k : ℤ, -1021 ≤ k ∧ k < 52 ∧ 2 ^ k < (N : ℚ) ∧ (N : ℚ) ≤ 2 ^ (k + 1) := by
  have hclog : Nat.clog 2 N ≤ 52 := (Nat.clog_le_iff_le_pow (by decide)).mpr hle
  refine ⟨Nat.clog 2 N - 1, by omega, by omega, ?_, ?_⟩
  · rcases Nat.eq_zero_or_pos (Nat.clog 2 N) with hzero | hsome
    · rw [hzero]
      calc (2 : ℚ) ^ ((0 : ℕ) - 1 : ℤ) < 1 := by norm_num
        _ ≤ N := by exact_mod_cast hpos
    · have hlt : 2 ^ (Nat.clog 2 N - 1) < N := by
        by_contra hnot
        have := (Nat.clog_le_iff_le_pow (by decide : 1 < 2)).mpr (not_lt.mp hnot)
        omega
      have hcast : ((Nat.clog 2 N : ℤ) - 1) = ((Nat.clog 2 N - 1 : ℕ) : ℤ) := by omega
      rw [hcast, zpow_natCast]
      exact_mod_cast hlt
  · have hpow : N ≤ 2 ^ Nat.clog 2 N := Nat.le_pow_clog (by decide) N
    rw [sub_add_cancel, zpow_natCast]
    exact_mod_cast hpow

/-- Where rounding does not change the whole part. -/
theorem floor_nearest_eq {m : ℕ} {y : ℚ} (hm : m < 2 ^ 52) (hlow : m - m / 2 ^ 54 ≤ y)
    (hhigh : y ≤ m + 1 - (m + 1) / 2 ^ 53) : ⌊nearest y⌋ = m := by
  have hcast : (0 : ℚ) ≤ m := Nat.cast_nonneg m
  have hy : 0 ≤ y := by
    have : (m : ℚ) / 2 ^ 54 ≤ m := div_le_self hcast (by norm_num)
    linarith
  rw [Int.floor_eq_iff]
  constructor
  · rcases Nat.eq_zero_or_pos m with rfl | hpos
    · exact nearest_nonneg hy
    · obtain ⟨k, hk, hk', hlt, hle⟩ := exists_binade hpos (le_of_lt hm)
      apply (natCast_le_nearest_iff hy hk hk' hlt hle).mpr
      have hunit : (m : ℚ) / 2 ^ 54 ≤ 2 ^ (k - 53) := by
        rw [div_le_iff₀ (by norm_num)]
        calc (m : ℚ) ≤ 2 ^ (k + 1) := hle
          _ = 2 ^ (k - 53) * 2 ^ 54 := by
            rw [← zpow_natCast, ← zpow_add₀ (by norm_num)]
            congr 1
            norm_num
            ring
      linarith
  · obtain ⟨k, hk, hk', hlt, hle⟩ := exists_binade (Nat.succ_pos m) hm
    have hunit : (2 : ℚ) ^ (k - 53) < (m + 1) / 2 ^ 53 := by
      rw [lt_div_iff₀ (by norm_num)]
      calc (2 : ℚ) ^ (k - 53) * 2 ^ 53 = 2 ^ k := by
            rw [← zpow_natCast, ← zpow_add₀ (by norm_num)]
            congr 1
            norm_num
        _ < m + 1 := by exact_mod_cast hlt
    have hnot := (natCast_le_nearest_iff hy hk hk' hlt hle).not.mpr (by
      push_cast
      linarith)
    push_cast at hnot
    exact not_le.mp hnot

end Double
