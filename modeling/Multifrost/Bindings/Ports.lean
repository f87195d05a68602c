import Multifrost.Bindings.RouterPort
import Mathlib.Tactic.NormNum

/-!
# The bindings on one port

The bindings agree on the port for a plain decimal number from 1 to 65535, and where each of them
ends at the default.  They read everything else differently: Rust takes no blanks and no suffix and
lets 0 through, JavaScript stops at the first character that is no digit and knows no upper bound,
Python takes blanks, underscores and the digits of every script, PHP takes fractions and exponents,
and only Go and PHP look at the range.
-/

namespace Multifrost.Bindings

/-- All bindings make the same port of the variable, and a router that is started with that port in
its variable takes it. -/
def PortsAgree (unicode : Char → Option Nat) (value : Option String) : Prop :=
  let port := Rust.routerPortFromEnv value
  JavaScript.resolveRouterPort none value = port ∧
  Python.routerPortFromEnv unicode value = port ∧
  Go.routerPortFromEnv value = port ∧
  Php.routerPortFromEnv value = port ∧
  Router.parsePort (some (toString port)) = .ok port

/-! ### The condition -/

/-- What follows a plus sign. -/
def unsigned : List Char → List Char
  | '+' :: s => s
  | s => s

/-- Decimal digits after at most a plus sign, for a number of 16 bits. -/
def Plain (s : List Char) : Prop :=
  unsigned s ≠ [] ∧ (unsigned s).all Char.isDigit ∧ decimal (unsigned s) < 2 ^ 16

instance (s : List Char) : Decidable (Plain s) := inferInstanceAs (Decidable (_ ∧ _ ∧ _))

/-- A string does not begin with a number, as JavaScript reads it, or with one that makes no
difference: a negative one, zero, the default, or one that is infinite as a double. -/
def JavaScriptIdle (s : List Char) : Prop :=
  let digits := (JavaScript.leadingInteger s).2
  (JavaScript.leadingInteger s).1 = true ∨ digits = [] ∨ decimal digits = 0 ∨
    decimal digits = defaultRouterPort ∨ Double.overflow - 2 ^ (970 : ℤ) ≤ decimal digits

/-- A string is no integer literal of Python, or one that is too long or the default. -/
def PythonIdle (unicode : Char → Option Nat) (s : List Char) : Prop :=
  ∀ number, Python.literal unicode s = some number → Python.maxStrDigits < number.2.length ∨
    (number.1 = false ∧ Python.value number.2 = defaultRouterPort)

/-- A string does not begin with a number, as PHP reads it, or with one that makes no difference: a
negative one, or one whose nearest double is below 1, or the default up to a fraction, or above
65535. -/
def PhpIdle (s : List Char) : Prop :=
  ∀ x, Php.numericString s = some x → x.negative = true ∨ x.magnitude < 1 - 2 ^ (-54 : ℤ) ∨
    (9981 - 2 ^ (-40 : ℤ) ≤ x.magnitude ∧ x.magnitude < 9982 - 2 ^ (-40 : ℤ)) ∨
    65536 - 2 ^ (-38 : ℤ) ≤ x.magnitude

/-- A plain number that is not 0, and not longer than Python reads unless it is the default; or no
plain number, and nothing in it that a binding would use. -/
def Unambiguous (unicode : Char → Option Nat) : Option String → Prop
  | none => True
  | some s =>
    if Plain s.toList then
      0 < decimal (unsigned s.toList) ∧
        ((unsigned s.toList).length ≤ Python.maxStrDigits ∨
          decimal (unsigned s.toList) = defaultRouterPort)
    else JavaScriptIdle s.toList ∧ PythonIdle unicode s.toList ∧ PhpIdle s.toList

/-! ### Rust and the router -/

theorem parseU16_of_plain {s : List Char} (h : Plain s) :
    Rust.parseU16 s = some (decimal (unsigned s)) := by
  unfold Rust.parseU16
  exact if_pos h

theorem parseU16_of_not_plain {s : List Char} (h : ¬ Plain s) : Rust.parseU16 s = none := by
  unfold Rust.parseU16
  exact if_neg h

theorem isDigit_bounds {c : Char} (h : c.isDigit = true) : 48 ≤ c.toNat ∧ c.toNat ≤ 57 := by
  simpa [Char.isDigit, UInt32.le_iff_toNat_le] using h

/-- A port in its decimal rendering is taken by the router. -/
theorem parsePort_toString {port : Nat} (hpos : 0 < port) (hlt : port < 2 ^ 16) :
    Router.parsePort (some (toString port)) = .ok port := by
  have htoList : (toString port).toList = Nat.toDigits 10 port := Nat.toList_repr
  have hdigits : ∀ c ∈ Nat.toDigits 10 port, c.isDigit = true := fun c hc =>
    Nat.isDigit_of_mem_toDigits (by norm_num) (by norm_num) hc
  have hunsigned : unsigned (Nat.toDigits 10 port) = Nat.toDigits 10 port := by
    unfold unsigned
    split
    · rename_i s heq
      have hplus := hdigits '+' (heq ▸ List.mem_cons_self)
      cases hplus
    · rfl
  have hdecimal : decimal (Nat.toDigits 10 port) = port := Nat.ofDigitChars_ten_toDigits
  have hplain : Plain (Nat.toDigits 10 port) := by
    refine ⟨?_, ?_, ?_⟩
    · rw [hunsigned]
      exact Nat.toDigits_ne_nil
    · rw [hunsigned, List.all_eq_true]
      exact hdigits
    · rw [hunsigned, hdecimal]
      exact hlt
  have hparse : Rust.parseU16 (toString port).toList = some port := by
    rw [htoList, parseU16_of_plain hplain, hunsigned, hdecimal]
  simp only [Router.parsePort, hparse]
  exact if_neg hpos.ne'

/-! ### JavaScript -/

/-- Large numbers stay large as doubles. -/
theorem two_zpow_le_nearest {n : Nat} (h : 2 ^ 53 ≤ n) : (2 : ℚ) ^ (53 : ℤ) ≤ Double.nearest n := by
  have hcast : (2 : ℚ) ^ (53 : ℤ) ≤ n := by exact_mod_cast h
  have hpos : (0 : ℚ) < n := lt_of_lt_of_le (by norm_num) hcast
  have hhalf : (0 : ℚ) < 2 ^ (52 - 53 : ℤ) := by norm_num
  refine (Double.zpow_le_nearest_iff (k := 52) hpos (by norm_num)).mpr ?_
  exact le_trans (sub_le_self _ (le_of_lt hhalf)) hcast

theorem nearest_eq_default_iff {n : Nat} :
    Double.nearest n = (defaultRouterPort : ℚ) ↔ n = defaultRouterPort := by
  rcases lt_or_ge n (2 ^ 53) with hlt | hge
  · rw [Double.nearest_natCast hlt, Nat.cast_inj]
  -- a number from `2^53` on may be rounded, but not down to a port
  · have hnear := two_zpow_le_nearest hge
    refine iff_of_false ?_ ?_
    · intro h
      rw [h] at hnear
      norm_num [defaultRouterPort] at hnear
    · rintro rfl
      norm_num [defaultRouterPort] at hge

theorem nearest_pos {n : Nat} (h : 0 < n) : 0 < Double.nearest n := by
  rcases lt_or_ge n (2 ^ 53) with hlt | hge
  · rw [Double.nearest_natCast hlt]
    exact_mod_cast h
  · exact lt_of_lt_of_le (by norm_num) (two_zpow_le_nearest hge)

theorem toRouterPort_some (s : String) (fallback : ℚ) :
    JavaScript.toRouterPort (some s) fallback =
      match JavaScript.parseInt s.toList with
      | .finite parsed => if 0 < parsed then parsed else fallback
      | _ => fallback := rfl

/-- The port of JavaScript is the default exactly for what it does not use. -/
theorem toRouterPort_eq_default_iff {s : String} :
    JavaScript.toRouterPort (some s) defaultRouterPort = (defaultRouterPort : ℚ) ↔
      JavaScriptIdle s.toList := by
  rw [toRouterPort_some, JavaScript.parseInt]
  unfold JavaScriptIdle JavaScript.ofDigits
  generalize JavaScript.leadingInteger s.toList = number
  obtain ⟨negative, digits⟩ := number
  dsimp only
  -- along the tests: no digits, zero, infinite, negative, and the positive rest
  by_cases hnil : digits = []
  · rw [if_pos hnil]
    exact iff_of_true rfl (Or.inr (Or.inl hnil))
  rw [if_neg hnil]
  rcases Nat.eq_zero_or_pos (decimal digits) with hzero | hpos
  · have hnear : Double.nearest (0 : ℕ) = 0 := by exact_mod_cast Double.nearest_zero
    rw [hzero, hnear, if_neg (not_le.mpr Double.overflow_pos)]
    refine iff_of_true ?_ (Or.inr (Or.inr (Or.inl rfl)))
    cases negative <;> simp
  have hnear := nearest_pos hpos
  have hover := Double.overflow_le_nearest_iff (q := decimal digits) (by exact_mod_cast hpos)
  by_cases hge : Double.overflow ≤ Double.nearest (decimal digits)
  · rw [if_pos hge]
    exact iff_of_true rfl (Or.inr (Or.inr (Or.inr (Or.inr (hover.mp hge)))))
  rw [if_neg hge, ← hover]
  cases negative with
  | true =>
    have hneg : ¬ (0 : ℚ) < -Double.nearest (decimal digits) := by linarith
    simp [hneg]
  | false => simp [hnear, hnil, hpos.ne', hge, nearest_eq_default_iff]

/-! ### PHP -/

theorem magnitude_nonneg (x : Php.Numeric) : 0 ≤ x.magnitude := by
  exact mul_nonneg (Nat.cast_nonneg _) (zpow_nonneg (by norm_num) _)

theorem magnitude_of_integer {x : Php.Numeric} (hf : x.fraction = none) (he : x.exponent = none) :
    x.magnitude = decimal x.whole := by
  simp [Php.Numeric.magnitude, hf, he]

/-- The integer of a number that is not negative reaches `N` when its nearest double does; an
integer is its own double here. -/
theorem le_toInt_iff {x : Php.Numeric} (hneg : x.negative = false) {N : ℕ} {k e : ℤ}
    (he : e = k - 53) (hk : -1021 ≤ k) (hk' : k < 52) (hlow : 2 ^ k < (N : ℚ))
    (hhigh : (N : ℚ) ≤ 2 ^ (k + 1)) :
    (N : ℤ) ≤ x.toInt ↔ (N : ℚ) - 2 ^ e ≤ x.magnitude := by
  subst he
  simp only [Php.Numeric.toInt, hneg, Bool.false_eq_true, if_false]
  split_ifs with hint
  -- an integer: below `N` it is at most `N - 1`, and half a unit is less than one
  · obtain ⟨hf, he, -, -⟩ := hint
    have hpos : (0 : ℚ) < 2 ^ (k - 53) := zpow_pos (by norm_num) _
    have hsmall : (2 : ℚ) ^ (k - 53) < 1 := zpow_lt_one_of_neg₀ (by norm_num) (by omega)
    rw [magnitude_of_integer hf he, Nat.cast_le]
    constructor
    · intro h
      have hcast : (N : ℚ) ≤ decimal x.whole := by exact_mod_cast h
      linarith
    · intro h
      have hcast : (N : ℚ) < decimal x.whole + 1 := by linarith
      exact Nat.lt_succ_iff.mp (by exact_mod_cast hcast)
  -- a double, by what the library says about ties
  · rw [← Double.natCast_le_nearest_iff (magnitude_nonneg x) hk hk' hlow hhigh]
    have hpow : (2 : ℚ) ^ (k + 1) ≤ 2 ^ (52 : ℤ) := zpow_le_zpow_right₀ (by norm_num) (by omega)
    have hN : (N : ℚ) ≤ 2 ^ 52 := le_trans hhigh hpow
    have hN' : N ≤ 2 ^ 52 := by exact_mod_cast hN
    simp only [Php.dvalToLvalCap, Bool.false_eq_true, if_false]
    split_ifs with hfits
    · exact Int.le_floor
    · have hlarge : (2 : ℚ) ^ 52 ≤ 2 ^ 63 := by norm_num
      exact iff_of_true (by omega) (le_trans hN (le_trans hlarge (not_lt.mp hfits)))

theorem toInt_nonpos {x : Php.Numeric} (hneg : x.negative = true) : x.toInt ≤ 0 := by
  have hnear : 0 ≤ Double.nearest x.magnitude := by
    have := Double.le_nearest (q := x.magnitude) (n := 0) (by simpa using magnitude_nonneg x)
    simpa using this
  have hfloor : 0 ≤ ⌊Double.nearest x.magnitude⌋ := Int.floor_nonneg.mpr hnear
  simp only [Php.Numeric.toInt, Php.dvalToLvalCap, hneg, if_true]
  split_ifs <;> omega

theorem phpPort_some (s : String) :
    Php.routerPortFromEnv (some s) =
      if 0 < Php.toInt s.toList ∧ Php.toInt s.toList ≤ 65535 then Php.toInt s.toList
      else defaultRouterPort := by
  by_cases hs : s = ""
  · subst hs
    rfl
  · exact if_neg hs

/-- The port of PHP is the default exactly for what it does not use. -/
theorem phpPort_eq_default_iff {s : String} :
    Php.routerPortFromEnv (some s) = (defaultRouterPort : ℤ) ↔ PhpIdle s.toList := by
  rw [phpPort_some]
  unfold PhpIdle Php.toInt
  cases hnum : Php.numericString s.toList with
  | none => simp
  | some x =>
    simp only [Option.some.injEq, forall_eq']
    cases hneg : x.negative with
    | true =>
      have hle := toInt_nonpos hneg
      refine iff_of_true (if_neg ?_) (Or.inl rfl)
      omega
    | false =>
      have h1 : (1 : ℤ) ≤ x.toInt ↔ 1 - 2 ^ (-54 : ℤ) ≤ x.magnitude := by
        simpa only [Nat.cast_one] using le_toInt_iff hneg (N := 1) (k := -1) (e := -54) rfl
          (by norm_num) (by norm_num) (by norm_num) (by norm_num)
      have h2 : (9981 : ℤ) ≤ x.toInt ↔ 9981 - 2 ^ (-40 : ℤ) ≤ x.magnitude := by
        simpa only [Nat.cast_ofNat] using le_toInt_iff hneg (N := 9981) (k := 13) (e := -40) rfl
          (by norm_num) (by norm_num) (by norm_num) (by norm_num)
      have h3 : (9982 : ℤ) ≤ x.toInt ↔ 9982 - 2 ^ (-40 : ℤ) ≤ x.magnitude := by
        simpa only [Nat.cast_ofNat] using le_toInt_iff hneg (N := 9982) (k := 13) (e := -40) rfl
          (by norm_num) (by norm_num) (by norm_num) (by norm_num)
      have h4 : (65536 : ℤ) ≤ x.toInt ↔ 65536 - 2 ^ (-38 : ℤ) ≤ x.magnitude := by
        simpa only [Nat.cast_ofNat] using le_toInt_iff hneg (N := 65536) (k := 15) (e := -38) rfl
          (by norm_num) (by norm_num) (by norm_num) (by norm_num)
      -- the bounds of the condition are those at which the integer becomes 1, 9981, 9982 and 65536
      rw [← not_le (b := x.magnitude), ← not_le (a := (9982 : ℚ) - 2 ^ (-40 : ℤ)), ← h1, ← h2, ← h3,
        ← h4, or_iff_right Bool.false_ne_true, show (defaultRouterPort : ℤ) = 9981 from rfl]
      split_ifs <;> omega

/-! ### Python -/

theorem blank_of_mem {l : List Nat} (hl : ∀ n ∈ l, n ≠ 43 ∧ ¬ (48 ≤ n ∧ n ≤ 57)) {c : Char}
    (h : c.toNat ∈ l) : c ≠ '+' ∧ ¬ c.isDigit = true := by
  obtain ⟨hplus, hdigit⟩ := hl _ h
  refine ⟨?_, fun hc => hdigit (isDigit_bounds hc)⟩
  rintro rfl
  exact hplus rfl

theorem blank_of_isStripped {c : Char} (h : Python.isStripped c = true) :
    c ≠ '+' ∧ ¬ c.isDigit = true := by
  rcases Bool.or_eq_true_iff.mp h with h | h
  · exact blank_of_mem (by decide) (of_decide_eq_true h)
  · exact blank_of_mem (by decide) (of_decide_eq_true h)

theorem separator_of_isStripped {c : Char} (h : Python.isStripped c = true)
    (hspace : Python.isSpace c = false) : c.toNat ∈ [0x1C, 0x1D, 0x1E, 0x1F] := by
  simpa [Python.isStripped, hspace] using h

/-- A string of blanks is no literal: what `int` does not skip are separators. -/
theorem literal_of_blank (unicode : Char → Option Nat) {s : List Char}
    (h : s.all Python.isStripped = true) : Python.literal unicode s = none := by
  unfold Python.literal
  have hhead := List.rdropWhile_prefix Python.isSpace (s.dropWhile Python.isSpace)
  generalize (s.dropWhile Python.isSpace).rdropWhile Python.isSpace = t at hhead ⊢
  cases t with
  | nil => rfl
  | cons c t =>
    obtain ⟨rest, hrest⟩ := hhead
    have hne : s.dropWhile Python.isSpace ≠ [] := by rw [← hrest]; simp
    have hc : (s.dropWhile Python.isSpace).head hne = c := by simp [← hrest]
    have hspace : Python.isSpace c = false := by
      rw [← hc]
      exact List.head_dropWhile_not ..
    have hmem : c ∈ s := by
      apply (List.dropWhile_suffix Python.isSpace).subset
      rw [← hrest]
      exact List.mem_cons_self
    -- the first character that `int` does not skip
    have hseparator := separator_of_isStripped (List.all_eq_true.mp h c hmem) hspace
    have hlow : c.toNat < 0x20 := (by decide : ∀ n ∈ [0x1C, 0x1D, 0x1E, 0x1F], n < 0x20) _ hseparator
    have hsign : sign (c :: t) = (false, c :: t) := by
      unfold sign
      split
      · rename_i heq
        cases heq
        exact absurd hlow (by decide)
      · rename_i heq
        cases heq
        exact absurd hlow (by decide)
      · rfl
    have hdigit : Python.digit unicode c = none := by
      unfold Python.digit
      rw [if_neg, if_pos (by omega)]
      intro hc
      have := isDigit_bounds hc
      omega
    simp [hsign, Python.digits, hdigit]

/-- The port of Python is the default exactly for what it does not use. -/
theorem pythonPort_eq_default_iff {unicode : Char → Option Nat} {s : String} :
    Python.routerPortFromEnv unicode (some s) = (defaultRouterPort : ℤ) ↔
      PythonIdle unicode s.toList := by
  unfold Python.routerPortFromEnv PythonIdle
  dsimp only
  split_ifs with hblank
  · simp [literal_of_blank unicode hblank]
  · unfold Python.int
    cases Python.literal unicode s.toList with
    | none => simp
    | some number =>
      obtain ⟨negative, digits⟩ := number
      simp only [Option.some.injEq, forall_eq']
      by_cases hlong : Python.maxStrDigits < digits.length
      · simp [hlong]
      rw [if_neg hlong, or_iff_right hlong, Option.getD_some]
      cases negative with
      | true =>
        refine iff_of_false ?_ (by simp)
        rw [if_pos rfl, show (defaultRouterPort : ℤ) = 9981 from rfl]
        omega
      | false => simp

/-! ### Go -/

/-- A string with a minus sign, or the sign is as in an unsigned number. -/
theorem sign_cases (s : List Char) :
    (∃ t, s = '-' :: t ∧ sign s = (true, t)) ∨ sign s = (false, unsigned s) := by
  unfold sign unsigned
  split
  · rename_i t
    exact Or.inl ⟨t, rfl, rfl⟩
  · exact Or.inr rfl
  · right
    split
    · rename_i t hminus hplus
      exact (hplus t rfl).elim
    · rfl

theorem goPort_some (s : String) :
    Go.routerPortFromEnv (some s) =
      match Go.atoi s.toList with
      | some port => if 0 < port ∧ port ≤ 65535 then port else defaultRouterPort
      | none => defaultRouterPort := rfl

/-- A port that Go takes from the variable is a plain number. -/
theorem goPort_of_not_plain {s : String} (h : ¬ Plain s.toList) :
    Go.routerPortFromEnv (some s) = defaultRouterPort := by
  rw [goPort_some]
  unfold Go.atoi
  rcases sign_cases s.toList with ⟨t, -, hsign⟩ | hsign
  · rw [hsign]
    split
    · rename_i port hport
      refine if_neg ?_
      simp only [if_true] at hport
      split_ifs at hport with hdigits hfits
      cases hport
      omega
    · rfl
  · rw [hsign]
    split
    · rename_i port hport
      refine if_neg ?_
      simp only [Bool.false_eq_true, if_false] at hport
      split_ifs at hport with hdigits hfits
      cases hport
      rintro ⟨-, hrange⟩
      exact h ⟨hdigits.1, hdigits.2, by omega⟩
    · rfl

/-! ### Plain numbers -/

section Plain

variable {s : List Char}

theorem Plain.isDigit (h : Plain s) : ∀ c ∈ unsigned s, c.isDigit = true :=
  List.all_eq_true.mp h.2.1

theorem Plain.mem (h : Plain s) : ∀ c ∈ s, c = '+' ∨ c.isDigit = true := by
  intro c hc
  have hdigits := h.isDigit
  unfold unsigned at hdigits
  split at hdigits
  · rcases List.mem_cons.mp hc with rfl | hc
    · exact Or.inl rfl
    · exact Or.inr (hdigits c hc)
  · exact Or.inr (hdigits c hc)

theorem Plain.ne_nil (h : Plain s) : s ≠ [] := by
  rintro rfl
  exact h.1 rfl

theorem Plain.sign_eq (h : Plain s) : sign s = (false, unsigned s) := by
  rcases sign_cases s with ⟨t, rfl, -⟩ | hsign
  · have hminus := h.isDigit '-' List.mem_cons_self
    cases hminus
  · exact hsign

/-- There are no blanks in a plain number. -/
theorem Plain.not_blank (h : Plain s) {p : Char → Bool}
    (hp : ∀ c, p c = true → c ≠ '+' ∧ ¬ c.isDigit = true) {c : Char} (hc : c ∈ s) :
    ¬ p c = true := by
  intro hblank
  obtain ⟨hplus, hdigit⟩ := hp c hblank
  rcases h.mem c hc with hc | hc
  · exact hplus hc
  · exact hdigit hc

/-- Nothing of a plain number is dropped as a blank. -/
theorem Plain.dropWhile_eq (h : Plain s) {p : Char → Bool}
    (hp : ∀ c, p c = true → c ≠ '+' ∧ ¬ c.isDigit = true) : s.dropWhile p = s := by
  rw [List.dropWhile_eq_self_iff]
  intro hl
  exact h.not_blank hp (List.getElem_mem hl)

theorem Plain.rdropWhile_eq (h : Plain s) {p : Char → Bool}
    (hp : ∀ c, p c = true → c ≠ '+' ∧ ¬ c.isDigit = true) : s.rdropWhile p = s := by
  rw [List.rdropWhile_eq_self_iff]
  intro hl
  exact h.not_blank hp (List.getLast_mem hl)

theorem Plain.takeWhile_eq (h : Plain s) : (unsigned s).takeWhile Char.isDigit = unsigned s :=
  List.takeWhile_eq_self_iff.mpr h.isDigit

theorem Plain.leadingInteger_eq (h : Plain s) :
    JavaScript.leadingInteger s = (false, unsigned s) := by
  have hblank : ∀ c, JavaScript.isWhiteSpace c = true → c ≠ '+' ∧ ¬ c.isDigit = true :=
    fun c hc => blank_of_mem (by decide) (of_decide_eq_true hc)
  unfold JavaScript.leadingInteger
  rw [h.dropWhile_eq hblank, h.sign_eq]
  exact congrArg (Prod.mk false) h.takeWhile_eq

theorem Plain.numericString_eq (h : Plain s) :
    Php.numericString s = some ⟨false, unsigned s, none, none⟩ := by
  have hblank : ∀ c, Php.isSpace c = true → c ≠ '+' ∧ ¬ c.isDigit = true :=
    fun c hc => blank_of_mem (by decide) (of_decide_eq_true hc)
  unfold Php.numericString
  rw [h.dropWhile_eq hblank, h.sign_eq]
  have hrest : (unsigned s).dropWhile Char.isDigit = [] := List.dropWhile_eq_nil_iff.mpr h.isDigit
  simp only [h.takeWhile_eq, hrest]
  exact if_neg fun hnil => h.1 hnil.1

theorem moreDigits_of_isDigit (unicode : Char → Option Nat) :
    ∀ {ds : List Char}, (∀ c ∈ ds, c.isDigit = true) →
      Python.moreDigits unicode ds = some (ds.map fun c => c.toNat - '0'.toNat)
  | [], _ => rfl
  | c :: ds, h => by
    have hc := h c List.mem_cons_self
    have hne : c ≠ '_' := by
      rintro rfl
      cases hc
    have ih := moreDigits_of_isDigit unicode fun d hd => h d (List.mem_cons_of_mem c hd)
    rw [Python.moreDigits.eq_3 unicode c ds (fun d t heq _ => hne heq)]
    simp [Python.digit, hc, ih]

theorem Plain.literal_eq (h : Plain s) (unicode : Char → Option Nat) :
    Python.literal unicode s =
      some (false, (unsigned s).map fun c => c.toNat - '0'.toNat) := by
  have hblank : ∀ c, Python.isSpace c = true → c ≠ '+' ∧ ¬ c.isDigit = true :=
    fun c hc => blank_of_mem (by decide) (of_decide_eq_true hc)
  unfold Python.literal
  rw [h.dropWhile_eq hblank, h.rdropWhile_eq hblank, h.sign_eq]
  have hdigits := h.isDigit
  have hne := h.1
  generalize unsigned s = ds at hdigits hne ⊢
  cases ds with
  | nil => exact absurd rfl hne
  | cons c ds =>
    have hc := hdigits c List.mem_cons_self
    have hmore := moreDigits_of_isDigit unicode fun d hd => hdigits d (List.mem_cons_of_mem c hd)
    simp [Python.digits, Python.digit, hc, hmore]

theorem value_map (ds : List Char) :
    Python.value (ds.map fun c => c.toNat - '0'.toNat) = decimal ds := by
  unfold Python.value decimal
  rw [List.foldl_map, Nat.ofDigitChars_eq_foldl]

/-- The ports of a plain number. -/
theorem Plain.javaScriptPort {s : String} (h : Plain s.toList) :
    JavaScript.toRouterPort (some s) defaultRouterPort =
      if 0 < decimal (unsigned s.toList) then (decimal (unsigned s.toList) : ℚ)
      else defaultRouterPort := by
  have hlt : decimal (unsigned s.toList) < 2 ^ 53 := lt_trans h.2.2 (by norm_num)
  have hsmall : ¬ Double.overflow ≤ (decimal (unsigned s.toList) : ℚ) := by
    have hcast : (decimal (unsigned s.toList) : ℚ) < 2 ^ (53 : ℤ) := by exact_mod_cast hlt
    exact not_le.mpr (lt_trans hcast (zpow_lt_zpow_right₀ (by norm_num) (by norm_num)))
  rw [toRouterPort_some, JavaScript.parseInt, h.leadingInteger_eq]
  simp only [JavaScript.ofDigits, if_neg h.1, Double.nearest_natCast hlt, if_neg hsmall]
  simp

theorem Plain.pythonPort {s : String} (h : Plain s.toList) (unicode : Char → Option Nat) :
    Python.routerPortFromEnv unicode (some s) =
      if (unsigned s.toList).length ≤ Python.maxStrDigits then (decimal (unsigned s.toList) : ℤ)
      else defaultRouterPort := by
  have hblank : ¬ s.toList.all Python.isStripped = true := by
    intro hall
    obtain ⟨c, t, hs⟩ := List.exists_cons_of_ne_nil h.ne_nil
    have hc : c ∈ s.toList := hs ▸ List.mem_cons_self
    exact h.not_blank (fun _ => blank_of_isStripped) hc (List.all_eq_true.mp hall c hc)
  unfold Python.routerPortFromEnv Python.int
  simp only [if_neg hblank, h.literal_eq, List.length_map, value_map]
  rcases le_or_gt (unsigned s.toList).length Python.maxStrDigits with hle | hgt
  · simp [hle, not_lt.mpr hle]
  · simp [hgt, not_le.mpr hgt]

theorem Plain.goPort {s : String} (h : Plain s.toList) :
    Go.routerPortFromEnv (some s) =
      if 0 < decimal (unsigned s.toList) then (decimal (unsigned s.toList) : ℤ)
      else defaultRouterPort := by
  have hlt : decimal (unsigned s.toList) < 2 ^ 16 := h.2.2
  rw [goPort_some]
  unfold Go.atoi
  rw [h.sign_eq]
  have hdigits : unsigned s.toList ≠ [] ∧ (unsigned s.toList).all Char.isDigit = true :=
    ⟨h.1, h.2.1⟩
  have hfits : -2 ^ 63 ≤ (decimal (unsigned s.toList) : ℤ) ∧
      (decimal (unsigned s.toList) : ℤ) < 2 ^ 63 := by omega
  simp only [Bool.false_eq_true, if_false, if_pos hdigits, if_pos hfits]
  split_ifs <;> omega

theorem Plain.phpPort {s : String} (h : Plain s.toList) :
    Php.routerPortFromEnv (some s) =
      if 0 < decimal (unsigned s.toList) then (decimal (unsigned s.toList) : ℤ)
      else defaultRouterPort := by
  have hlt : decimal (unsigned s.toList) < 2 ^ 16 := h.2.2
  have hint : Php.toInt s.toList = decimal (unsigned s.toList) := by
    unfold Php.toInt
    rw [h.numericString_eq]
    simp only [Php.Numeric.toInt, Bool.false_eq_true, if_false, true_and]
    rw [if_pos]
    omega
  rw [phpPort_some, hint]
  split_ifs <;> omega

end Plain

/-! ### All bindings -/

theorem rustPort_of_plain {s : String} (h : Plain s.toList) :
    Rust.routerPortFromEnv (some s) = decimal (unsigned s.toList) := by
  simp [Rust.routerPortFromEnv, parseU16_of_plain h]

theorem rustPort_of_not_plain {s : String} (h : ¬ Plain s.toList) :
    Rust.routerPortFromEnv (some s) = defaultRouterPort := by
  simp [Rust.routerPortFromEnv, parseU16_of_not_plain h]

theorem portsAgree_none (unicode : Char → Option Nat) : PortsAgree unicode none :=
  ⟨rfl, rfl, rfl, rfl, parsePort_toString (by decide) (by decide)⟩

theorem portsAgree_iff_of_plain (unicode : Char → Option Nat) {s : String} (h : Plain s.toList) :
    PortsAgree unicode (some s) ↔ 0 < decimal (unsigned s.toList) ∧
      ((unsigned s.toList).length ≤ Python.maxStrDigits ∨
        decimal (unsigned s.toList) = defaultRouterPort) := by
  have hlt := h.2.2
  simp only [PortsAgree, JavaScript.resolveRouterPort, rustPort_of_plain h, h.javaScriptPort,
    h.pythonPort, h.goPort, h.phpPort]
  rcases Nat.eq_zero_or_pos (decimal (unsigned s.toList)) with hzero | hpos
  · -- only Rust and Python let 0 through
    simp [hzero, defaultRouterPort]
  · simp only [hpos, if_true, true_and, parsePort_toString hpos hlt, and_true]
    split_ifs with hlong
    · exact iff_of_true rfl (Or.inl hlong)
    · rw [Nat.cast_inj, or_iff_right hlong]
      exact eq_comm

theorem portsAgree_iff_of_not_plain (unicode : Char → Option Nat) {s : String}
    (h : ¬ Plain s.toList) : PortsAgree unicode (some s) ↔
      JavaScriptIdle s.toList ∧ PythonIdle unicode s.toList ∧ PhpIdle s.toList := by
  have hport : Router.parsePort (some (toString defaultRouterPort)) = .ok defaultRouterPort :=
    parsePort_toString (by decide) (by decide)
  simp only [PortsAgree, JavaScript.resolveRouterPort, rustPort_of_not_plain h,
    goPort_of_not_plain h, hport, toRouterPort_eq_default_iff, pythonPort_eq_default_iff,
    phpPort_eq_default_iff, true_and, and_true]

/-- **When the bindings agree on the port.** -/
theorem portsAgree_iff (unicode : Char → Option Nat) (value : Option String) :
    PortsAgree unicode value ↔ Unambiguous unicode value := by
  cases value with
  | none => exact iff_of_true (portsAgree_none unicode) trivial
  | some s =>
    by_cases h : Plain s.toList
    · rw [portsAgree_iff_of_plain unicode h]
      exact (iff_of_eq (if_pos h)).symm
    · rw [portsAgree_iff_of_not_plain unicode h]
      exact (iff_of_eq (if_neg h)).symm

/-- Python takes a port that is too large, and Rust the default. -/
theorem not_portsAgree_of_large : ¬ ∀ unicode value, PortsAgree unicode value := by
  intro h
  have hpython := (h (fun _ => none) (some "65536")).2.1
  revert hpython
  decide

end Multifrost.Bindings
