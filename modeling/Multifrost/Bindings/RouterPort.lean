import Mathlib.Data.List.DropRight
import Mathlib.Data.List.TakeWhile
import Multifrost.Lib.Double
import Multifrost.Router.Protocol

/-!
# The port of the router

How each binding makes a port of the variable `MULTIFROST_ROUTER_PORT`: `router_port_from_env` in
Rust and Python, `resolveRouterPort` in JavaScript, `routerPortFromEnv` in Go and PHP; and
`parse_port` of the router itself.  A value is `none` when the variable is not set.

Each of them reads the number with its language's own reader of decimal numbers, and these are
given here as the languages define them.  A port is a `Nat`, an `Int` or, in JavaScript, whose
numbers are doubles, a rational.
-/

namespace Multifrost

def defaultRouterPort : Nat := 9981

/-- The number a string of decimal digits denotes. -/
def Bindings.decimal (digits : List Char) : Nat := Nat.ofDigitChars 10 digits 0

/-- Whether there is a minus sign, and what follows the sign. -/
def Bindings.sign : List Char → Bool × List Char
  | '-' :: s => (true, s)
  | '+' :: s => (false, s)
  | s => (false, s)

open Bindings (decimal sign)

/-! ### Rust and the router -/

namespace Rust

/-- `str::parse::<u16>`: no minus sign, no blanks. -/
def parseU16 (s : List Char) : Option Nat :=
  let digits := match s with
    | '+' :: s => s
    | s => s
  if digits ≠ [] ∧ digits.all Char.isDigit ∧ decimal digits < 2 ^ 16 then some (decimal digits)
  else none

def routerPortFromEnv (value : Option String) : Nat :=
  (value.bind fun s => parseU16 s.toList).getD defaultRouterPort

end Rust

/-- `parse_port`, in `router/src/config.rs`. -/
def Router.parsePort : Option String → Except Router.RouterError Nat
  | some raw =>
    match Rust.parseU16 raw.toList with
    | some port => if port = 0 then .error (.invalidPort raw) else .ok port
    | none => .error (.invalidPort raw)
  | none => .ok defaultRouterPort

/-! ### JavaScript -/

namespace JavaScript

/-- All numbers of the language are doubles. -/
abbrev Number := Double.Value

/-- The white space and the line terminators of the language. -/
def isWhiteSpace (c : Char) : Bool :=
  c.toNat ∈ [0x09, 0x0A, 0x0B, 0x0C, 0x0D, 0x20, 0xA0, 0x1680, 0x2000, 0x2001, 0x2002, 0x2003,
    0x2004, 0x2005, 0x2006, 0x2007, 0x2008, 0x2009, 0x200A, 0x2028, 0x2029, 0x202F, 0x205F, 0x3000,
    0xFEFF]

/-- The sign and the digits at the start of a string, after white space. -/
def leadingInteger (s : List Char) : Bool × List Char :=
  let signed := sign (s.dropWhile isWhiteSpace)
  (signed.1, signed.2.takeWhile Char.isDigit)

/-- The number that a sign and digits denote. -/
def ofDigits (negative : Bool) (digits : List Char) : Number :=
  if digits = [] then .nan
  else
    let x := Double.nearest (decimal digits)
    if Double.overflow ≤ x then .infinite negative else .finite (if negative then -x else x)

/-- `Number.parseInt(value, 10)`; what follows the digits is ignored. -/
def parseInt (s : List Char) : Number :=
  ofDigits (leadingInteger s).1 (leadingInteger s).2

def toRouterPort (value : Option String) (fallback : ℚ) : ℚ :=
  match value with
  | none => fallback
  | some s =>
    match parseInt s.toList with
    | .finite parsed => if 0 < parsed then parsed else fallback
    | _ => fallback

/-- `port` is the option of that name. -/
def resolveRouterPort (port : Option Number) (value : Option String) : ℚ :=
  match port with
  -- an option that is no positive number is passed over
  | some (.finite p) => if 0 < p then p else toRouterPort value defaultRouterPort
  | _ => toRouterPort value defaultRouterPort

end JavaScript

/-! ### Python -/

namespace Python

/-- The blanks that `int` skips. -/
def isSpace (c : Char) : Bool :=
  c.toNat ∈ [0x09, 0x0A, 0x0B, 0x0C, 0x0D, 0x20, 0x85, 0xA0, 0x1680, 0x2000, 0x2001, 0x2002, 0x2003,
    0x2004, 0x2005, 0x2006, 0x2007, 0x2008, 0x2009, 0x200A, 0x2028, 0x2029, 0x202F, 0x205F, 0x3000]

/-- `str.isspace`, by which `str.strip` goes, also takes the four separators of ASCII. -/
def isStripped (c : Char) : Bool := isSpace c || c.toNat ∈ [0x1C, 0x1D, 0x1E, 0x1F]

/-- The longest integer `int` reads: `sys.int_info.default_max_str_digits`. -/
def maxStrDigits : Nat := 4300

section Int

variable (unicode : Char → Option Nat)

/-- The value of a decimal digit; `unicode` gives that of the digits beyond ASCII, of which every
version of the language knows more. -/
def digit (c : Char) : Option Nat :=
  if c.isDigit then some (c.toNat - '0'.toNat)
  else if c.toNat < 0x7F then none
  else unicode c

/-- The digits after the first, with single underscores between them. -/
def moreDigits : List Char → Option (List Nat)
  | [] => some []
  -- an underscore needs a digit on both sides
  | '_' :: c :: s => do
    let d ← digit unicode c
    let ds ← moreDigits s
    some (d :: ds)
  | c :: s => do
    let d ← digit unicode c
    let ds ← moreDigits s
    some (d :: ds)

def digits : List Char → Option (List Nat)
  | [] => none
  | c :: s => do
    let d ← digit unicode c
    let ds ← moreDigits unicode s
    some (d :: ds)

/-- The sign and the digits of an integer literal, which may have blanks around it. -/
def literal (s : List Char) : Option (Bool × List Nat) :=
  let signed := sign ((s.dropWhile isSpace).rdropWhile isSpace)
  (digits unicode signed.2).map fun ds => (signed.1, ds)

def value (ds : List Nat) : Nat := ds.foldl (fun n d => 10 * n + d) 0

/-- `int(value)`; `none` is a `ValueError`. -/
def int (s : List Char) : Option Int :=
  match literal unicode s with
  | some (negative, ds) =>
    if maxStrDigits < ds.length then none
    else some (if negative then -(value ds : Int) else value ds)
  | none => none

def routerPortFromEnv (rawValue : Option String) : Int :=
  match rawValue with
  | none => defaultRouterPort
  | some s =>
    -- `raw_value.strip()` is empty
    if s.toList.all isStripped then defaultRouterPort
    else (int unicode s.toList).getD defaultRouterPort

end Int

end Python

/-! ### Go -/

namespace Go

/-- `strconv.Atoi`; `none` is an error. -/
def atoi (s : List Char) : Option Int :=
  let (negative, digits) := sign s
  if digits ≠ [] ∧ digits.all Char.isDigit then
    let n : Int := if negative then -(decimal digits : Int) else decimal digits
    if -2 ^ 63 ≤ n ∧ n < 2 ^ 63 then some n else none
  else none

def routerPortFromEnv (value : Option String) : Int :=
  match value.bind fun s => atoi s.toList with
  | some port => if 0 < port ∧ port ≤ 65535 then port else defaultRouterPort
  | none => defaultRouterPort

end Go

/-! ### PHP -/

namespace Php

def isSpace (c : Char) : Bool := c.toNat ∈ [0x09, 0x0A, 0x0B, 0x0C, 0x0D, 0x20]

/-- A decimal number; an integer has neither a point nor an exponent. -/
structure Numeric where
  negative : Bool
  whole : List Char
  fraction : Option (List Char)
  exponent : Option Int

/-- The fraction after the digits `whole`, and what follows it.  A point needs a digit on one of its
sides. -/
def fraction (whole s : List Char) : Option (List Char) × List Char :=
  match s with
  | '.' :: s =>
    if whole ≠ [] ∨ s.head?.any Char.isDigit then
      (some (s.takeWhile Char.isDigit), s.dropWhile Char.isDigit)
    else (none, '.' :: s)
  | s => (none, s)

/-- The exponent, as `zend_strtod` reads it: no larger one is told from `19999`. -/
def exponent : List Char → Option Int
  | c :: s =>
    if c = 'e' ∨ c = 'E' then
      let (negative, s) := sign s
      let digits := s.takeWhile Char.isDigit
      if digits = [] then none
      else
        let e : Int := min (decimal digits) 19999
        some (if negative then -e else e)
    else none
  | [] => none

/-- The number at the start of a string, after blanks. -/
def numericString (s : List Char) : Option Numeric :=
  let (negative, s) := sign (s.dropWhile isSpace)
  let whole := s.takeWhile Char.isDigit
  let (frac, s) := fraction whole (s.dropWhile Char.isDigit)
  if whole = [] ∧ frac = none then none else some ⟨negative, whole, frac, exponent s⟩

/-- The number without its sign. -/
def Numeric.magnitude (x : Numeric) : ℚ :=
  decimal (x.whole ++ x.fraction.getD []) * 10 ^ (x.exponent.getD 0 - (x.fraction.getD []).length)

/-- `zend_dval_to_lval_cap` of a double with the magnitude `x`. -/
def dvalToLvalCap (negative : Bool) (x : ℚ) : Int :=
  if negative then if x ≤ 2 ^ 63 then -⌊x⌋ else -2 ^ 63
  else if x < 2 ^ 63 then ⌊x⌋ else 2 ^ 63 - 1

/-- The integer of a number: that of an integer that fits, or that of the nearest double. -/
def Numeric.toInt (x : Numeric) : Int :=
  let n : Int := if x.negative then -(decimal x.whole : Int) else decimal x.whole
  if x.fraction = none ∧ x.exponent = none ∧ -2 ^ 63 ≤ n ∧ n < 2 ^ 63 then n
  -- everything else goes through a double, which is cut towards zero
  else dvalToLvalCap x.negative (Double.nearest x.magnitude)

/-- `(int) $value`. -/
def toInt (s : List Char) : Int :=
  match numericString s with
  | none => 0
  | some x => x.toInt

def routerPortFromEnv (value : Option String) : Int :=
  match value with
  | none => defaultRouterPort
  | some s =>
    if s = "" then defaultRouterPort
    else
      let port := toInt s.toList
      if 0 < port ∧ port ≤ 65535 then port else defaultRouterPort

end Php

end Multifrost
