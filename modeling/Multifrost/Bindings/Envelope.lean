import Multifrost.Router.Protocol

/-!
# The envelope validation of the bindings

A binding checks the envelope of every frame it reads: `ValidateEnvelope` in Go,
`validateEnvelopeFields` in JavaScript, `Protocol::validateEnvelope` in PHP and
`validate_envelope_mapping` in Python.  They are written here over the record of the six fields as
the msgpack libraries decode it.  The record has them all, at their types, so that the tests of the
dynamic languages for a missing field and for the type of a field do not occur: what remains of
Python's function is the check of the version, and of JavaScript's the checks of the version, the
kind and the timestamp.

Each validator has one lemma, which says when it accepts.
-/

namespace Multifrost

open Router

/-! ### Go -/

namespace Go

def validateEnvelope (envelope : Envelope) : Except String Unit :=
  if envelope.v ≠ protocolVersion then
    .error ("invalid protocol version: " ++ toString envelope.v)
  else if envelope.kind = "" then .error "missing envelope kind"
  else if envelope.msgId = "" then .error "missing envelope msg_id"
  else if envelope.fromPeer = "" then .error "missing envelope from"
  else if envelope.toPeer = "" then .error "missing envelope to"
  else if envelope.ts.isNaN || envelope.ts.isInfinite || envelope.ts.leZero then
    .error "invalid envelope ts"
  else .ok ()

theorem validateEnvelope_eq_ok (e : Envelope) :
    validateEnvelope e = .ok () ↔ e.v = protocolVersion ∧ e.kind ≠ "" ∧ e.msgId ≠ "" ∧
      e.fromPeer ≠ "" ∧ e.toPeer ≠ "" ∧ e.ts.isFinite = true ∧ e.ts.isPositive = true := by
  unfold validateEnvelope
  rw [Float64.isNaN_or_isInfinite_or_leZero]
  split_ifs with hv hkind hid hfrom hto hts
  · exact iff_of_false (by simp) fun h => hv h.1
  · exact iff_of_false (by simp) fun h => h.2.1 hkind
  · exact iff_of_false (by simp) fun h => h.2.2.1 hid
  · exact iff_of_false (by simp) fun h => h.2.2.2.1 hfrom
  · exact iff_of_false (by simp) fun h => h.2.2.2.2.1 hto
  · refine iff_of_false (by simp) fun h => ?_
    rw [h.2.2.2.2.2.1, h.2.2.2.2.2.2] at hts
    cases hts
  · rw [Bool.not_eq_true, Bool.not_eq_false', Bool.and_eq_true] at hts
    exact iff_of_true rfl ⟨not_not.mp hv, hkind, hid, hfrom, hto, hts⟩

end Go

/-! ### JavaScript -/

namespace JavaScript

/-- `isNumber` at a number. -/
def isNumber (x : Float64) : Bool := x.isFinite

def isEnvelopeKind (value : String) : Bool :=
  value == kindRegister || value == kindQuery || value == kindCall || value == kindResponse ||
    value == kindError || value == kindHeartbeat || value == kindDisconnect

/-- `requireField` at a field with the given value. -/
def requireField {α : Type} (value : α) (key : String) (predicate : α → Bool) :
    Except String α :=
  if predicate value then .ok value
  else .error ("Invalid or missing envelope field: " ++ key)

def validateEnvelopeFields (value : Envelope) : Except String Envelope := do
  if value.v ≠ protocolVersion then
    .error ("Unsupported protocol version: " ++ toString value.v)
  else
    let kind ← requireField value.kind "kind" isEnvelopeKind
    let ts ← requireField value.ts "ts" isNumber
    .ok ⟨value.v, kind, value.msgId, value.fromPeer, value.toPeer, ts⟩

theorem validateEnvelopeFields_eq_ok (e : Envelope) :
    (∃ e', validateEnvelopeFields e = .ok e') ↔
      e.v = protocolVersion ∧ isEnvelopeKind e.kind = true ∧ e.ts.isFinite = true := by
  unfold validateEnvelopeFields requireField isNumber
  by_cases hv : e.v = protocolVersion
  · by_cases hk : isEnvelopeKind e.kind = true
    · by_cases hts : e.ts.isFinite = true <;> simp [hv, hk, hts, bind, Except.bind]
    · simp [hv, hk, bind, Except.bind]
  · simp [hv]

end JavaScript

/-! ### PHP -/

namespace Php

/-- `empty` at a string, which holds of the string `"0"` too. -/
def empty (s : String) : Bool := s == "" || s == "0"

def validKinds : List String :=
  [kindRegister, kindQuery, kindCall, kindResponse, kindError, kindHeartbeat, kindDisconnect]

def validateEnvelope (env : Envelope) : Except String Unit :=
  if env.v ≠ protocolVersion then .error ("invalid protocol version: " ++ toString env.v)
  else if empty env.kind || !validKinds.contains env.kind then
    .error ("invalid or missing envelope kind: " ++ env.kind)
  else if empty env.msgId then .error "missing envelope msg_id"
  else if empty env.fromPeer then .error "missing envelope from"
  else if empty env.toPeer then .error "missing envelope to"
  else if env.ts.isNaN || env.ts.isInfinite || env.ts.leZero then
    .error "invalid envelope ts value"
  else .ok ()

theorem validateEnvelope_eq_ok (e : Envelope) :
    validateEnvelope e = .ok () ↔ e.v = protocolVersion ∧ e.kind ∈ validKinds ∧
      empty e.msgId = false ∧ empty e.fromPeer = false ∧ empty e.toPeer = false ∧
      e.ts.isFinite = true ∧ e.ts.isPositive = true := by
  -- the emptiness test of the kind is covered by the list of kinds
  have hkinds : e.kind ∈ validKinds → empty e.kind = false := by
    generalize e.kind = kind
    intro h
    simp only [validKinds, List.mem_cons, List.not_mem_nil, or_false] at h
    rcases h with rfl | rfl | rfl | rfl | rfl | rfl | rfl <;> decide
  unfold validateEnvelope
  rw [Float64.isNaN_or_isInfinite_or_leZero]
  split_ifs with hv hkind hid hfrom hto hts
  · exact iff_of_false (by simp) fun h => hv h.1
  · refine iff_of_false (by simp) fun h => ?_
    rw [hkinds h.2.1] at hkind
    simp [h.2.1] at hkind
  · exact iff_of_false (by simp) fun h => Bool.false_ne_true (h.2.2.1.symm.trans hid)
  · exact iff_of_false (by simp) fun h => Bool.false_ne_true (h.2.2.2.1.symm.trans hfrom)
  · exact iff_of_false (by simp) fun h => Bool.false_ne_true (h.2.2.2.2.1.symm.trans hto)
  · refine iff_of_false (by simp) fun h => ?_
    rw [h.2.2.2.2.2.1, h.2.2.2.2.2.2] at hts
    cases hts
  · rw [Bool.not_eq_true, Bool.not_eq_false', Bool.and_eq_true] at hts
    have hmem : e.kind ∈ validKinds := by
      by_contra hnot
      simp [hnot] at hkind
    exact iff_of_true rfl ⟨not_not.mp hv, hmem, Bool.not_eq_true _ ▸ hid,
      Bool.not_eq_true _ ▸ hfrom, Bool.not_eq_true _ ▸ hto, hts⟩

end Php

/-! ### Python -/

namespace Python

def validateEnvelopeMapping (mapping : Envelope) : Except String Envelope :=
  if mapping.v ≠ protocolVersion then
    .error ("unsupported protocol version: " ++ toString mapping.v)
  else .ok mapping

theorem validateEnvelopeMapping_eq_ok (e : Envelope) :
    (∃ e', validateEnvelopeMapping e = .ok e') ↔ e.v = protocolVersion := by
  unfold validateEnvelopeMapping
  split_ifs with hv
  · exact iff_of_false (by simp) hv
  · exact iff_of_true ⟨e, rfl⟩ (not_not.mp hv)

end Python

end Multifrost
