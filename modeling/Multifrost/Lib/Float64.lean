import Mathlib.Data.Rat.Lemmas
import Mathlib.Tactic.FieldSimp
import Mathlib.Tactic.Linarith
import Mathlib.Tactic.NormNum
import Mathlib.Tactic.Positivity
import Multifrost.Lib.Binary

/-!
# The numbers that doubles denote

`Float64.value` is the number of a finite pattern: the significand with its hidden bit, times a power
of two.  `Float64.ofInt` is the double of an integer; from `-2 ^ 53` to `2 ^ 53` it denotes that integer
(`value_ofInt`).
-/

namespace Float64

/-- The significand with its hidden bit, which a subnormal pattern has not. -/
def mantissa (x : Float64) : Nat :=
  if x.exponent = 0 then x.significand.toNat else 2 ^ 52 + x.significand.toNat

/-- The exponent of the last bit of the significand. -/
def scale (x : Float64) : Int := max (x.exponent.toNat : Int) 1 - 1075

/-- What a finite pattern denotes. -/
def value (x : Float64) : ℚ := (if x.sign then -1 else 1) * x.mantissa * 2 ^ x.scale

/-- A finite number without a fractional part. -/
def isInteger (x : Float64) : Bool := x.isFinite && decide (x.value.den = 1)

/-! ### Patterns from their parts -/

/-- The pattern with the given sign, biased exponent and stored significand. -/
def ofParts (negative : Bool) (e s : Nat) : Float64 :=
  ⟨BitVec.ofNat 64 ((if negative then 2 ^ 63 else 0) + e * 2 ^ 52 + s)⟩

section Parts

variable {negative : Bool} {e s : Nat} (he : e < 2 ^ 11) (hs : s < 2 ^ 52)

include he hs

theorem toNat_ofParts :
    (ofParts negative e s).bits.toNat = (if negative then 2 ^ 63 else 0) + e * 2 ^ 52 + s := by
  rw [ofParts, BitVec.toNat_ofNat]
  apply Nat.mod_eq_of_lt
  split_ifs <;> omega

theorem sign_ofParts : (ofParts negative e s).sign = negative := by
  rw [sign, BitVec.msb_eq_decide, toNat_ofParts he hs]
  cases negative with
  | true => exact decide_eq_true (by simp only [if_true]; omega)
  | false => exact decide_eq_false (by simp only [Bool.false_eq_true, if_false]; omega)

theorem toNat_exponent_ofParts : (ofParts negative e s).exponent.toNat = e := by
  rw [exponent, BitVec.extractLsb'_toNat, toNat_ofParts he hs, Nat.shiftRight_eq_div_pow]
  split_ifs <;> omega

theorem toNat_significand_ofParts : (ofParts negative e s).significand.toNat = s := by
  rw [significand, BitVec.extractLsb'_toNat, toNat_ofParts he hs, Nat.shiftRight_eq_div_pow]
  split_ifs <;> omega

end Parts

/-! ### Integers -/

/-- The double of an integer; what does not fit the significand is cut off. -/
def ofInt (i : Int) : Float64 :=
  let n := i.natAbs
  let k := n.log2
  let m := if k ≤ 52 then n * 2 ^ (52 - k) else n / 2 ^ (k - 52)
  if n = 0 then zero else ofParts (decide (i < 0)) (k + 1023) (m - 2 ^ 52)

/-- The significand of an integer fills its 53 bits. -/
theorem significand_bounds {n : Nat} (hpos : n ≠ 0) (hle : n ≤ 2 ^ 53) :
    let k := n.log2
    let m := if k ≤ 52 then n * 2 ^ (52 - k) else n / 2 ^ (k - 52)
    2 ^ 52 ≤ m ∧ m < 2 ^ 53 ∧ k ≤ 53 ∧ (m : ℚ) * 2 ^ ((k : Int) - 52) = n := by
  intro k m
  have hlow : 2 ^ k ≤ n := Nat.log2_self_le hpos
  have hhigh : n < 2 ^ (k + 1) := Nat.lt_log2_self
  by_cases hk : k ≤ 52
  · have hm : m = n * 2 ^ (52 - k) := if_pos hk
    have hfill : 2 ^ k * 2 ^ (52 - k) = 2 ^ 52 := by
      rw [← pow_add]
      congr 1
      omega
    have hmul : 2 ^ k * 2 ^ (52 - k) ≤ n * 2 ^ (52 - k) := Nat.mul_le_mul_right _ hlow
    have hmul' : n * 2 ^ (52 - k) < 2 ^ (k + 1) * 2 ^ (52 - k) :=
      Nat.mul_lt_mul_of_pos_right hhigh (Nat.pow_pos (by decide))
    have hdouble : 2 ^ (k + 1) * 2 ^ (52 - k) = 2 * (2 ^ k * 2 ^ (52 - k)) := by ring
    refine ⟨by omega, by omega, by omega, ?_⟩
    have hscale : ((k : Int) - 52) = -((52 - k : Nat) : Int) := by omega
    rw [hm, hscale, zpow_neg, zpow_natCast]
    push_cast
    rw [mul_assoc, mul_inv_cancel₀ (by positivity), mul_one]
  · -- only `2 ^ 53` itself has more than 53 bits
    have hk53 : k = 53 := by
      by_contra hne
      have hpow : 2 ^ 54 ≤ 2 ^ k := Nat.pow_le_pow_right (by decide) (by omega)
      omega
    have hn : n = 2 ^ 53 := by
      rw [hk53] at hlow
      omega
    have hm : m = 2 ^ 52 := by
      have hcut : m = n / 2 ^ (k - 52) := if_neg hk
      rw [hcut, hn, hk53]
      norm_num
    refine ⟨by omega, by omega, by omega, ?_⟩
    rw [hm, hk53, hn]
    norm_num

/-- An integer of at most 53 bits is a double. -/
theorem value_ofInt {i : Int} (h : i.natAbs ≤ 2 ^ 53) :
    (ofInt i).value = i ∧ (ofInt i).isFinite = true := by
  by_cases hzero : i.natAbs = 0
  · have hi : i = 0 := Int.natAbs_eq_zero.mp hzero
    subst hi
    have hvalue : (ofInt 0).mantissa = 0 := by decide
    refine ⟨?_, by decide⟩
    rw [value, hvalue]
    simp
  · obtain ⟨hlow, hhigh, hk, hvalue⟩ := significand_bounds hzero h
    set k := i.natAbs.log2 with hkdef
    set m := if k ≤ 52 then i.natAbs * 2 ^ (52 - k) else i.natAbs / 2 ^ (k - 52) with hmdef
    have hof : ofInt i = ofParts (decide (i < 0)) (k + 1023) (m - 2 ^ 52) := if_neg hzero
    have he : k + 1023 < 2 ^ 11 := by omega
    have hs : m - 2 ^ 52 < 2 ^ 52 := by omega
    have hexponent : (ofParts (decide (i < 0)) (k + 1023) (m - 2 ^ 52)).exponent.toNat = k + 1023 :=
      toNat_exponent_ofParts he hs
    have hne : (ofInt i).exponent ≠ 0 := by
      intro hzero
      rw [hof] at hzero
      rw [hzero] at hexponent
      have : (0 : BitVec 11).toNat = 0 := rfl
      omega
    have hmantissa : (ofInt i).mantissa = m := by
      rw [mantissa, if_neg hne, hof, toNat_significand_ofParts he hs]
      omega
    have hscale : (ofInt i).scale = (k : Int) - 52 := by
      rw [scale, hof, hexponent]
      omega
    constructor
    · rw [value, hmantissa, hscale, mul_assoc, hvalue, hof, sign_ofParts he hs]
      by_cases hneg : i < 0
      · have hcast : (i.natAbs : ℚ) = -i := by
          rw [Nat.cast_natAbs, abs_of_neg hneg, Int.cast_neg]
        rw [hcast, if_pos (decide_eq_true hneg)]
        ring
      · have hcast : (i.natAbs : ℚ) = i := by
          rw [Nat.cast_natAbs, abs_of_nonneg (Int.not_lt.mp hneg)]
        rw [hcast, if_neg (by simpa using hneg), one_mul]
    · rw [isFinite, bne_iff_ne]
      intro hones
      rw [hof] at hones
      rw [hones] at hexponent
      have : (BitVec.allOnes 11).toNat = 2047 := rfl
      omega

theorem isInteger_ofInt {i : Int} (h : i.natAbs ≤ 2 ^ 53) : (ofInt i).isInteger = true := by
  obtain ⟨hvalue, hfinite⟩ := value_ofInt h
  rw [isInteger, hvalue, hfinite, Bool.true_and]
  exact decide_eq_true (Rat.den_intCast i)

end Float64
