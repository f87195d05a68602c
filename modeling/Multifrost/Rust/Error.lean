import Mathlib.Tactic.Common

/-!
# The errors of the Rust binding

The variants of `MultifrostError` that the modelled functions return, with what they carry.
-/

namespace Multifrost.Rust

/-- A span of time, in nanoseconds. -/
abbrev Duration := Nat

/-- `routerNotReachable` is the `BootstrapFailure` of a readiness timeout; the source renders its
arguments into the text. -/
inductive MultifrostError
  | io
  | spawn
  | bootstrapFailure (message : String)
  | routerNotReachable (url : String) (timeout : Duration)
  | serializeError (message : String)
  | webSocketError (message : String)
  | timeoutError
  | invalidMessage (message : String)
  | malformedFrame (message : String)
  | routerUnavailable (message : String)
  | registerRejected (message : String)
  | invalidProtocolKey (value : String)
  | remoteCallError (message : String)
deriving DecidableEq

end Multifrost.Rust
