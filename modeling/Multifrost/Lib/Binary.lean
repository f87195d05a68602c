import Mathlib.Algebra.Group.Int.Defs
import Mathlib.Algebra.Group.Nat.Defs
import Mathlib.Data.List.Basic
import Mathlib.Tactic.Ring
import Mathlib.Tactic.Common

/-!
# Byte strings, big-endian integers and double-precision patterns

`toBE k n` writes the low `8 k` bits of `n` as `k` bytes, most significant first, and `ofBE` reads
such a string back.

A `Float64` is a double given by its 64-bit pattern, so that every double is a value of the type,
the `NaN`s, the infinities and both zeros included.  The predicates are those of IEEE 754:
`isNaN`, `isInfinite` and `isFinite` split the patterns by exponent and significand, and
`leZero x` is the comparison `x ≤ 0`, which is false for a `NaN` and true for `-0`.
-/

abbrev Bytes := List UInt8

namespace Bytes

/-- The `k` low bytes of `n`, most significant first. -/
def toBE : Nat → Nat → Bytes
  | 0, _ => []
  | k + 1, n => UInt8.ofNat (n / 256 ^ k) :: toBE k n

/-- The natural number written by the bytes, most significant first. -/
def ofBE (bs : Bytes) : Nat := bs.foldl (fun n b => n * 256 + b.toNat) 0

theorem length_toBE (k n : Nat) : (toBE k n).length = k := by
  induction k with
  | zero => rfl
  | succ k ih =>
    show (toBE k n).length + 1 = k + 1
    rw [ih]

/-- Horner's scheme, started from an accumulator. -/
private theorem foldl_eq (bs : Bytes) (a : Nat) :
    bs.foldl (fun n b => n * 256 + b.toNat) a = a * 256 ^ bs.length + ofBE bs := by
  induction bs generalizing a with
  | nil => simp [ofBE]
  | cons b bs ih =>
    have hhead : ofBE (b :: bs) = b.toNat * 256 ^ bs.length + ofBE bs := by
      show bs.foldl _ (0 * 256 + b.toNat) = _
      rw [ih, Nat.zero_mul, Nat.zero_add]
    show bs.foldl _ (a * 256 + b.toNat) = a * 256 ^ (bs.length + 1) + ofBE (b :: bs)
    rw [ih, hhead, Nat.pow_succ]
    ring

theorem ofBE_cons (b : UInt8) (bs : Bytes) :
    ofBE (b :: bs) = b.toNat * 256 ^ bs.length + ofBE bs := by
  show bs.foldl _ (0 * 256 + b.toNat) = _
  rw [foldl_eq, Nat.zero_mul, Nat.zero_add]

/-- `k` bytes write a number below `256 ^ k`. -/
theorem ofBE_lt (bs : Bytes) : ofBE bs < 256 ^ bs.length := by
  induction bs with
  | nil => exact Nat.one_pos
  | cons b bs ih =>
    have hb : b.toNat + 1 ≤ 256 := b.toNat_lt
    have hmul : (b.toNat + 1) * 256 ^ bs.length ≤ 256 * 256 ^ bs.length :=
      Nat.mul_le_mul_right _ hb
    have hpow : 256 ^ (b :: bs).length = 256 * 256 ^ bs.length := by
      rw [List.length_cons, Nat.pow_succ, Nat.mul_comm]
    have hone : (b.toNat + 1) * 256 ^ bs.length = b.toNat * 256 ^ bs.length + 256 ^ bs.length :=
      Nat.succ_mul _ _
    rw [ofBE_cons, hpow]
    omega

/-- What is written in `k` bytes is read back modulo `256 ^ k`. -/
theorem ofBE_toBE (k n : Nat) : ofBE (toBE k n) = n % 256 ^ k := by
  induction k with
  | zero => rw [Nat.pow_zero, Nat.mod_one]; rfl
  | succ k ih =>
    have hbyte : (UInt8.ofNat (n / 256 ^ k)).toNat = n / 256 ^ k % 256 := UInt8.toNat_ofNat' ..
    show ofBE (UInt8.ofNat (n / 256 ^ k) :: toBE k n) = n % 256 ^ (k + 1)
    rw [ofBE_cons, ih, length_toBE, hbyte, Nat.mod_pow_succ]
    ring

/-- Only the low `8 k` bits are written. -/
private theorem toBE_add_mul (k a n : Nat) : toBE k (a * 256 ^ k + n) = toBE k n := by
  induction k generalizing a with
  | zero => rfl
  | succ k ih =>
    have hsplit : a * 256 ^ (k + 1) + n = a * 256 * 256 ^ k + n := by
      rw [Nat.pow_succ]
      ring
    have hbyte : (a * 256 * 256 ^ k + n) / 256 ^ k = a * 256 + n / 256 ^ k := by
      rw [Nat.add_comm, Nat.add_mul_div_right _ _ (Nat.pow_pos (by decide)), Nat.add_comm]
    have hwrap : UInt8.ofNat (a * 256 + n / 256 ^ k) = UInt8.ofNat (n / 256 ^ k) := by
      apply UInt8.toNat_inj.mp
      rw [UInt8.toNat_ofNat', UInt8.toNat_ofNat']
      omega
    show UInt8.ofNat ((a * 256 ^ (k + 1) + n) / 256 ^ k) :: toBE k (a * 256 ^ (k + 1) + n) = _
    rw [hsplit, hbyte, hwrap, ih]
    rfl

/-- A byte string is the writing of the number it denotes. -/
theorem toBE_ofBE (bs : Bytes) : toBE bs.length (ofBE bs) = bs := by
  induction bs with
  | nil => rfl
  | cons b bs ih =>
    have hdiv : ofBE (b :: bs) / 256 ^ bs.length = b.toNat := by
      rw [ofBE_cons, Nat.add_comm, Nat.add_mul_div_right _ _ (Nat.pow_pos (by decide)),
        Nat.div_eq_of_lt (ofBE_lt bs), Nat.zero_add]
    show UInt8.ofNat (ofBE (b :: bs) / 256 ^ bs.length) :: toBE bs.length (ofBE (b :: bs)) = _
    rw [hdiv, ofBE_cons, toBE_add_mul, ih, UInt8.ofNat_toNat]

end Bytes

/-- A double-precision number, as its IEEE 754 pattern. -/
structure Float64 where
  bits : BitVec 64
deriving DecidableEq

namespace Float64

/-- The sign bit. -/
def sign (x : Float64) : Bool := x.bits.msb

/-- The biased exponent. -/
def exponent (x : Float64) : BitVec 11 := x.bits.extractLsb' 52 11

/-- The stored part of the significand. -/
def significand (x : Float64) : BitVec 52 := x.bits.extractLsb' 0 52

def isNaN (x : Float64) : Bool := x.exponent == BitVec.allOnes 11 && x.significand != 0

def isInfinite (x : Float64) : Bool := x.exponent == BitVec.allOnes 11 && x.significand == 0

def isFinite (x : Float64) : Bool := x.exponent != BitVec.allOnes 11

/-- One of the two zeros. -/
def isZero (x : Float64) : Bool := x.exponent == 0 && x.significand == 0

/-- The comparison `x ≤ 0`. -/
def leZero (x : Float64) : Bool := !x.isNaN && (x.sign || x.isZero)

/-- The comparison `0 < x`. -/
def isPositive (x : Float64) : Bool := !x.isNaN && !x.sign && !x.isZero

/-- The zero with a clear sign bit. -/
def zero : Float64 := ⟨0⟩

/-- The double `1.0`. -/
def one : Float64 := ⟨0x3FF0000000000000⟩

/-- What is no `NaN`, not infinite and not at most zero is a finite positive number. -/
theorem isNaN_or_isInfinite_or_leZero (x : Float64) :
    (x.isNaN || x.isInfinite || x.leZero) = !(x.isFinite && x.isPositive) := by
  unfold leZero isPositive isFinite isNaN isInfinite bne
  cases x.exponent == BitVec.allOnes 11 <;> cases x.significand == 0 <;> cases x.sign <;>
    cases x.isZero <;> rfl

/-- The eight bytes of the pattern, most significant first. -/
def toBE (x : Float64) : Bytes := Bytes.toBE 8 x.bits.toNat

/-- The double with the given eight bytes. -/
def ofBE (bs : Bytes) : Float64 := ⟨BitVec.ofNat 64 (Bytes.ofBE bs)⟩

end Float64
