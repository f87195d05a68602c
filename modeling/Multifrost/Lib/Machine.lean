import Multifrost.Lib.Binary

/-!
# Machine words and the bounds of slices

A `Machine` has words of 32 or 64 bits and an addition that wraps or is checked: `addUsize` adds
unsigned words, which are natural numbers below `2 ^ bits`, and `addInt` signed ones, which are
integers from `-2 ^ (bits - 1)` on and below `2 ^ (bits - 1)`.  `none` is a panic.

An `Exec α` is what a function does that takes slices of a byte string: the bounds of the slices it
takes, in their order, and the value it returns, or `none` where it panics.  `e.Safe n` says that
it returns and that no bound is outside of a string of `n` bytes.  Safety is proved through the
parts of a function (`safe_bind`), down to its slices (`safe_slice`) and its additions
(`safe_ofOption`).
-/

inductive WordSize
  | bits32
  | bits64
deriving DecidableEq

inductive Overflow
  | wrapping
  | checked
deriving DecidableEq

structure Machine where
  word : WordSize
  overflow : Overflow
deriving DecidableEq

namespace Machine

/-- The number of bits of a word. -/
def bits (t : Machine) : Nat :=
  match t.word with
  | .bits32 => 32
  | .bits64 => 64

variable (t : Machine)

/-- The sum of two unsigned words. -/
def addUsize (a b : Nat) : Option Nat :=
  if a + b < 2 ^ t.bits then some (a + b)
  else
    match t.overflow with
    | .wrapping => some ((a + b) % 2 ^ t.bits)
    | .checked => none

/-- The signed word with the bits of an unsigned number. -/
def toInt (n : Nat) : Int := (n : Int).bmod (2 ^ t.bits)

/-- The sum of two signed words. -/
def addInt (a b : Int) : Option Int :=
  if -2 ^ (t.bits - 1) ≤ a + b ∧ a + b < 2 ^ (t.bits - 1) then some (a + b)
  else
    match t.overflow with
    | .wrapping => some ((a + b).bmod (2 ^ t.bits))
    | .checked => none

/-! ### Words -/

theorem le_bits : 32 ≤ t.bits := by
  unfold bits
  cases t.word <;> decide

/-- Half of the words of a machine are negative as signed ones. -/
theorem two_pow_bits : 2 ^ t.bits = 2 * 2 ^ (t.bits - 1) := by
  have hbits := t.le_bits
  rw [← Nat.pow_succ']
  congr 1
  omega

/-- The signed word with the bits of an unsigned one in the upper half. -/
theorem bmod_eq_sub {a : Int} (hle : (2 ^ (t.bits - 1) : Nat) ≤ a) (hlt : a < (2 ^ t.bits : Nat)) :
    a.bmod (2 ^ t.bits) = a - (2 ^ t.bits : Nat) := by
  have hbits := t.two_pow_bits
  rw [← Int.sub_bmod_right]
  apply Int.bmod_eq_of_le_mul_two <;> omega

variable {t} {a b : Nat}

theorem addUsize_of_lt (h : a + b < 2 ^ t.bits) : t.addUsize a b = some (a + b) := if_pos h

/-- A sum that overflows is less than what was added. -/
theorem lt_of_addUsize {sum : Nat} (ha : a < 2 ^ t.bits) (hb : b < 2 ^ t.bits)
    (h : 2 ^ t.bits ≤ a + b) (hsum : t.addUsize a b = some sum) : sum < a ∧ sum < b := by
  unfold addUsize at hsum
  rw [if_neg (by omega)] at hsum
  split at hsum
  · have hmod : (a + b) % 2 ^ t.bits = a + b - 2 ^ t.bits := by
      rw [Nat.mod_eq_sub_mod h, Nat.mod_eq_of_lt (by omega)]
    have hval := Option.some.inj hsum
    omega
  · cases hsum

theorem toInt_of_lt {n : Nat} (h : n < 2 ^ (t.bits - 1)) : t.toInt n = n := by
  have hbits := t.two_pow_bits
  apply Int.bmod_eq_of_le_mul_two <;> omega

/-- The upper half of the unsigned words are the negative ones. -/
theorem toInt_neg {n : Nat} (hle : 2 ^ (t.bits - 1) ≤ n) (hlt : n < 2 ^ t.bits) :
    t.toInt n < 0 := by
  have hval : t.toInt n = n - (2 ^ t.bits : Nat) :=
    t.bmod_eq_sub (Int.ofNat_le.mpr hle) (Int.ofNat_lt.mpr hlt)
  omega

theorem addInt_of_lt {a b : Nat} (h : a + b < 2 ^ (t.bits - 1)) :
    t.addInt a b = some ((a + b : Nat) : Int) := by
  have hpow : ((2 ^ (t.bits - 1) : Nat) : Int) = 2 ^ (t.bits - 1) := by push_cast; rfl
  have hin : -2 ^ (t.bits - 1) ≤ (a : Int) + b ∧ (a : Int) + b < 2 ^ (t.bits - 1) := by omega
  exact if_pos hin

/-- A sum of two numbers that are not negative wraps below zero. -/
theorem neg_of_addInt {a b : Nat} {sum : Int} (ha : a < 2 ^ (t.bits - 1))
    (hb : b < 2 ^ (t.bits - 1)) (h : 2 ^ (t.bits - 1) ≤ a + b)
    (hsum : t.addInt a b = some sum) : sum < 0 := by
  have hbits := t.two_pow_bits
  have hpow : ((2 ^ (t.bits - 1) : Nat) : Int) = 2 ^ (t.bits - 1) := by push_cast; rfl
  unfold addInt at hsum
  rw [if_neg (by omega)] at hsum
  split at hsum
  · have hval := t.bmod_eq_sub (a := (a : Int) + b) (by omega) (by omega)
    have hsum := Option.some.inj hsum
    omega
  · cases hsum

end Machine

/-! ### Functions that take slices -/

/-- The bounds of the slices that a function takes, and what it returns. -/
structure Exec (α : Type) where
  slices : List (Int × Int)
  value : Option α

namespace Exec

variable {α β : Type}

instance : Monad Exec where
  pure a := ⟨[], some a⟩
  bind e f :=
    match e.value with
    | none => ⟨e.slices, none⟩
    | some a => ⟨e.slices ++ (f a).slices, (f a).value⟩

/-- A part that takes no slices and may panic. -/
def ofOption (o : Option α) : Exec α := ⟨[], o⟩

/-- The bytes from `low` on and before `high`; there is a panic where the bounds are not in order or
not in the buffer. -/
def slice (buffer : Bytes) (low high : Int) : Exec Bytes :=
  ⟨[(low, high)],
    if 0 ≤ low ∧ low ≤ high ∧ high ≤ buffer.length then
      some ((buffer.drop low.toNat).take (high - low).toNat)
    else none⟩

/-- The function returns, and every slice is within a string of `n` bytes. -/
def Safe (e : Exec α) (n : Nat) : Prop :=
  e.value.isSome ∧ ∀ b ∈ e.slices, 0 ≤ b.1 ∧ b.1 ≤ b.2 ∧ b.2 ≤ n

instance (e : Exec α) (n : Nat) : Decidable (e.Safe n) :=
  inferInstanceAs (Decidable (_ ∧ _))

variable {n : Nat}

/-! #### Values -/

theorem value_ofOption (o : Option α) : (ofOption o).value = o := rfl

theorem value_bind (e : Exec α) (f : α → Exec β) :
    (e >>= f).value = e.value.bind fun a => (f a).value := by
  rcases e with ⟨slices, _ | a⟩ <;> rfl

/-- A part that returns hands its value on. -/
theorem value_bind_of_eq {e : Exec α} {f : α → Exec β} {a : α} (h : e.value = some a) :
    (e >>= f).value = (f a).value := by
  rw [value_bind, h, Option.bind_some]

theorem value_slice {buffer : Bytes} {low high : Int} (hlow : 0 ≤ low) (hhigh : low ≤ high)
    (hle : high ≤ buffer.length) :
    (slice buffer low high).value =
      some ((buffer.drop low.toNat).take (high - low).toNat) := if_pos ⟨hlow, hhigh, hle⟩

/-- A slice of the front of a buffer does not depend on the rest. -/
theorem value_slice_append {front spare : Bytes} {low high : Int} (hlow : 0 ≤ low)
    (hhigh : low ≤ high) (hle : high ≤ front.length) :
    (slice (front ++ spare) low high).value =
      some ((front.drop low.toNat).take (high - low).toNat) := by
  have hlength : (front ++ spare).length = front.length + spare.length := List.length_append
  rw [value_slice hlow hhigh (by omega), List.drop_append_of_le_length (by omega),
    List.take_append_of_le_length (by rw [List.length_drop]; omega)]

/-! #### Safety -/

theorem safe_pure (a : α) : (pure a : Exec α).Safe n :=
  ⟨rfl, fun _ hb => absurd hb List.not_mem_nil⟩

theorem safe_ofOption {o : Option α} : (ofOption o).Safe n ↔ o.isSome :=
  ⟨fun h => h.1, fun h => ⟨h, fun _ hb => absurd hb List.not_mem_nil⟩⟩

/-- A sequence is safe when its parts are, the second at the value of the first. -/
theorem safe_bind {e : Exec α} {f : α → Exec β} :
    (e >>= f).Safe n ↔ e.Safe n ∧ ∀ a, e.value = some a → (f a).Safe n := by
  rcases e with ⟨slices, _ | a⟩
  · exact iff_of_false (fun h => absurd h.1 Bool.false_ne_true)
      fun h => absurd h.1.1 Bool.false_ne_true
  · constructor
    · rintro ⟨hvalue, hslices⟩
      refine ⟨⟨rfl, fun b hb => hslices b (List.mem_append_left _ hb)⟩, ?_⟩
      intro a' ha
      obtain rfl := Option.some.inj ha
      exact ⟨hvalue, fun b hb => hslices b (List.mem_append_right _ hb)⟩
    · rintro ⟨⟨-, hslices⟩, h⟩
      obtain ⟨hvalue, hafter⟩ := h a rfl
      refine ⟨hvalue, fun b hb => ?_⟩
      rcases List.mem_append.mp hb with hb | hb
      · exact hslices b hb
      · exact hafter b hb

/-- What follows a safe part decides. -/
theorem safe_bind_of_eq {e : Exec α} {f : α → Exec β} {a : α} (he : e.Safe n)
    (h : e.value = some a) : (e >>= f).Safe n ↔ (f a).Safe n := by
  rw [safe_bind, h]
  constructor
  · intro hf
    exact hf.2 a rfl
  · intro hf
    refine ⟨he, fun a' ha => ?_⟩
    obtain rfl := Option.some.inj ha
    exact hf

theorem safe_some_bind {a : α} {f : α → Exec β} :
    (ofOption (some a) >>= f).Safe n ↔ (f a).Safe n :=
  safe_bind_of_eq (safe_ofOption.mpr rfl) rfl

/-- A slice is safe when its bounds are within the string, which may be the front of a longer
buffer. -/
theorem safe_slice {buffer : Bytes} {low high : Int} (hn : n ≤ buffer.length) :
    (slice buffer low high).Safe n ↔ 0 ≤ low ∧ low ≤ high ∧ high ≤ n := by
  constructor
  · intro h
    exact h.2 (low, high) List.mem_cons_self
  · rintro ⟨hlow, hhigh, hle⟩
    have hvalue : (slice buffer low high).value = some _ := value_slice hlow hhigh (by omega)
    refine ⟨by rw [hvalue]; rfl, fun b hb => ?_⟩
    obtain rfl := List.mem_singleton.mp hb
    exact ⟨hlow, hhigh, hle⟩

theorem safe_slice_bind {buffer : Bytes} {low high : Int} {f : Bytes → Exec β}
    (hn : n ≤ buffer.length) (hlow : 0 ≤ low) (hhigh : low ≤ high) (hle : high ≤ n) :
    (slice buffer low high >>= f).Safe n ↔
      (f ((buffer.drop low.toNat).take (high - low).toNat)).Safe n :=
  safe_bind_of_eq ((safe_slice hn).mpr ⟨hlow, hhigh, hle⟩)
    (value_slice hlow hhigh (by omega))

end Exec
