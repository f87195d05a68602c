import Multifrost.JavaScript.Frame
import Multifrost.Lib.MsgPack.Tree

/-!
# What the sanitizer of the JavaScript binding lets through

The sanitizer stops at maps, sets and instances of classes, which the packer goes through.  What is in
them is packed as it is: so nothing but portable numbers is packed if and only if the sanitizer throws,
the packer throws, or all numbers that the sanitizer did not look at are portable
(`emitsPortable_iff`).
-/

namespace Multifrost.JavaScript

open MsgPack (Value)

/-! ### Trees -/

/-- A value that is no container. -/
def JsValue.isLeaf : JsValue → Bool
  | .array _ | .object _ | .map _ | .set _ | .classInstance _ => false
  | _ => true

/-- Induction over a value and all that is in it. -/
@[elab_as_elim]
theorem JsValue.treeInduction {P : JsValue → Prop} (leaf : ∀ v : JsValue, v.isLeaf = true → P v)
    (array : ∀ vs, (∀ v ∈ vs, P v) → P (.array vs))
    (object : ∀ ps, (∀ p ∈ ps, P p.2) → P (.object ps))
    (map : ∀ kvs, (∀ kv ∈ kvs, P kv.1 ∧ P kv.2) → P (.map kvs))
    (set : ∀ vs, (∀ v ∈ vs, P v) → P (.set vs))
    (classInstance : ∀ ps, (∀ p ∈ ps, P p.2) → P (.classInstance ps)) (v : JsValue) : P v := by
  refine @JsValue.rec P (fun vs => ∀ v ∈ vs, P v) (fun ps => ∀ p ∈ ps, P p.2)
    (fun kvs => ∀ kv ∈ kvs, P kv.1 ∧ P kv.2) (fun p => P p.2) (fun kv => P kv.1 ∧ P kv.2)
    (leaf _ rfl) (leaf _ rfl) (fun _ => leaf _ rfl) (fun _ => leaf _ rfl) (fun _ => leaf _ rfl)
    (fun _ => leaf _ rfl) (fun _ => leaf _ rfl) array object map set classInstance
    (List.forall_mem_nil _) ?_ (List.forall_mem_nil _) ?_ (List.forall_mem_nil _) ?_
    (fun _ _ h => h) (fun _ _ hk hv => ⟨hk, hv⟩) v
  · intro v vs hv hvs
    exact List.forall_mem_cons.mpr ⟨hv, hvs⟩
  · intro p ps hp hps
    exact List.forall_mem_cons.mpr ⟨hp, hps⟩
  · intro kv kvs hkv hkvs
    exact List.forall_mem_cons.mpr ⟨hkv, hkvs⟩

mutual

/-- `q` holds of everything in a value that is no container, the keys of maps included. -/
def JsValue.everywhere (q : JsValue → Bool) : JsValue → Bool
  | .array vs | .set vs => everywhereItems q vs
  | .object ps | .classInstance ps => everywhereProperties q ps
  | .map kvs => everywhereEntries q kvs
  | v => q v

def everywhereItems (q : JsValue → Bool) : List JsValue → Bool
  | [] => true
  | v :: vs => v.everywhere q && everywhereItems q vs

def everywhereProperties (q : JsValue → Bool) : Properties → Bool
  | [] => true
  | (_, v) :: ps => v.everywhere q && everywhereProperties q ps

def everywhereEntries (q : JsValue → Bool) : List (JsValue × JsValue) → Bool
  | [] => true
  | (k, v) :: kvs => k.everywhere q && v.everywhere q && everywhereEntries q kvs

end

mutual

/-- `q` holds of everything that the sanitizer does not look at and the packer does: what is in maps,
sets and instances of classes. -/
def JsValue.unseen (q : JsValue → Bool) : JsValue → Bool
  | .array vs => unseenItems q vs
  | .object ps => unseenProperties q ps
  | .map kvs => everywhereEntries q kvs
  | .set vs => everywhereItems q vs
  | .classInstance ps => everywhereProperties q ps
  | _ => true

def unseenItems (q : JsValue → Bool) : List JsValue → Bool
  | [] => true
  | v :: vs => v.unseen q && unseenItems q vs

/-- What is assigned to `__proto__` is not packed. -/
def unseenProperties (q : JsValue → Bool) : Properties → Bool
  | [] => true
  | (key, v) :: ps => (decide (key = protoKey) || v.unseen q) && unseenProperties q ps

end

/-- A number that only a `bigint` should be. -/
def unsafeInteger (x : Float64) : Bool := x.isInteger && !isSafeInteger x

mutual

/-- Through arrays and plain objects there is an unsafe integer or a `bigint` of more than 64 bits. -/
def JsValue.rejected : JsValue → Bool
  | .number x => unsafeInteger x
  | .bigint i => decide (i < -2 ^ 63 ∨ 2 ^ 63 - 1 < i)
  | .array vs => rejectedItems vs
  | .object ps => rejectedProperties ps
  | _ => false

def rejectedItems : List JsValue → Bool
  | [] => false
  | v :: vs => v.rejected || rejectedItems vs

def rejectedProperties : Properties → Bool
  | [] => false
  | (_, v) :: ps => v.rejected || rejectedProperties ps

end

section Trees

variable {q : JsValue → Bool}

theorem everywhereItems_iff {vs : List JsValue} :
    everywhereItems q vs = true ↔ ∀ v ∈ vs, v.everywhere q = true := by
  induction vs with
  | nil => simp [everywhereItems]
  | cons v vs ih => simp [everywhereItems, ih]

theorem everywhereProperties_iff {ps : Properties} :
    everywhereProperties q ps = true ↔ ∀ p ∈ ps, p.2.everywhere q = true := by
  induction ps with
  | nil => simp [everywhereProperties]
  | cons p ps ih => simp [everywhereProperties, ih]

theorem everywhereEntries_iff {kvs : List (JsValue × JsValue)} :
    everywhereEntries q kvs = true ↔
      ∀ kv ∈ kvs, kv.1.everywhere q = true ∧ kv.2.everywhere q = true := by
  induction kvs with
  | nil => simp [everywhereEntries]
  | cons kv kvs ih => simp [everywhereEntries, ih, and_assoc]

theorem everywhere_of_isLeaf {v : JsValue} (h : v.isLeaf = true) : v.everywhere q = q v := by
  cases v <;> first | rfl | cases h

theorem unseen_of_isLeaf {v : JsValue} (h : v.isLeaf = true) : v.unseen q = true := by
  cases v <;> first | rfl | cases h

theorem rejectedItems_iff {vs : List JsValue} :
    rejectedItems vs = true ↔ ∃ v ∈ vs, v.rejected = true := by
  induction vs with
  | nil => simp [rejectedItems]
  | cons v vs ih => simp [rejectedItems, ih]

theorem rejectedProperties_iff {ps : Properties} :
    rejectedProperties ps = true ↔ ∃ p ∈ ps, p.2.rejected = true := by
  induction ps with
  | nil => simp [rejectedProperties]
  | cons p ps ih => simp [rejectedProperties, ih]

end Trees

/-! ### The sanitizer -/

/-- What the sanitizer returns, if it returns. -/
def sanitized (v : JsValue) : Option JsValue := (sanitizeMsgpackValue v).toOption

theorem sanitizeItems_toOption (vs : List JsValue) :
    (sanitizeItems vs).toOption = vs.mapM sanitized := by
  induction vs with
  | nil => rfl
  | cons v vs ih =>
    rw [List.mapM_cons, ← ih, sanitized, sanitizeItems]
    cases sanitizeMsgpackValue v with
    | error e => rfl
    | ok w => cases sanitizeItems vs <;> rfl

theorem sanitizeProperties_toOption (ps : Properties) :
    (sanitizeProperties ps).toOption = ps.mapM fun p => (sanitized p.2).map fun w => (p.1, w) := by
  induction ps with
  | nil => rfl
  | cons p ps ih =>
    rw [List.mapM_cons, ← ih, sanitized, sanitizeProperties]
    cases sanitizeMsgpackValue p.2 with
    | error e => rfl
    | ok w => cases sanitizeProperties ps <;> rfl

theorem sanitized_array (vs : List JsValue) :
    sanitized (.array vs) = (vs.mapM sanitized).map .array := by
  rw [← sanitizeItems_toOption, sanitized, sanitizeMsgpackValue]
  cases sanitizeItems vs <;> rfl

theorem sanitized_object (ps : Properties) :
    sanitized (.object ps) = (ps.mapM fun p => (sanitized p.2).map fun w => (p.1, w)).map fun ps =>
      withPrototype ps (ps.filter fun p => p.1 ≠ protoKey) := by
  rw [← sanitizeProperties_toOption, sanitized, sanitizeMsgpackValue]
  cases sanitizeProperties ps <;> rfl

theorem everywhere_withPrototype {q : JsValue → Bool} (assigned own : Properties) :
    (withPrototype assigned own).everywhere q = everywhereProperties q own := by
  unfold withPrototype
  split_ifs <;> rfl

theorem unsafeInteger_iff (x : Float64) :
    unsafeInteger x = true ↔ x.isFinite = true ∧ (x.isInteger && !isSafeInteger x) = true := by
  have hfinite : x.isInteger = true → x.isFinite = true := by
    intro h
    rw [Float64.isInteger, Bool.and_eq_true] at h
    exact h.1
  rw [unsafeInteger, Bool.and_eq_true]
  exact ⟨fun h => ⟨hfinite h.1, h⟩, fun h => h.2⟩

theorem exists_map_eq_some {α β : Type} {x : Option α} {f : α → β} :
    (∃ b, x.map f = some b) ↔ ∃ a, x = some a := by
  cases x <;> simp

/-- The sanitizer returns if and only if nothing is rejected. -/
theorem exists_sanitized_iff (v : JsValue) :
    (∃ w, sanitized v = some w) ↔ v.rejected = false := by
  induction v using JsValue.treeInduction with
  | array vs ih =>
    have hnone : (JsValue.array vs).rejected = false ↔ ∀ v ∈ vs, v.rejected = false := by
      rw [JsValue.rejected, Bool.eq_false_iff, ne_eq, rejectedItems_iff]
      simp
    rw [hnone, sanitized_array, exists_map_eq_some, MsgPack.exists_mapM_eq_some]
    exact forall₂_congr ih
  | object ps ih =>
    have hnone : (JsValue.object ps).rejected = false ↔ ∀ p ∈ ps, p.2.rejected = false := by
      rw [JsValue.rejected, Bool.eq_false_iff, ne_eq, rejectedProperties_iff]
      simp
    rw [hnone, sanitized_object, exists_map_eq_some, MsgPack.exists_mapM_eq_some]
    exact forall₂_congr fun p hp => exists_map_eq_some.trans (ih p hp)
  | map kvs => exact iff_of_true ⟨_, rfl⟩ rfl
  | set vs => exact iff_of_true ⟨_, rfl⟩ rfl
  | classInstance ps => exact iff_of_true ⟨_, rfl⟩ rfl
  | leaf v hleaf =>
    cases v with
    | number x =>
      rw [JsValue.rejected, Bool.eq_false_iff, ne_eq, unsafeInteger_iff, sanitized,
        sanitizeMsgpackValue]
      split_ifs with hfinite hunsafe
      · exact iff_of_true ⟨_, rfl⟩ fun h => by simp [h.1] at hfinite
      · exact iff_of_false (fun ⟨_, h⟩ => by cases h) (not_not.mpr ⟨by simpa using hfinite, hunsafe⟩)
      · exact iff_of_true ⟨_, rfl⟩ fun h => hunsafe h.2
    | bigint i =>
      rw [JsValue.rejected, sanitized, sanitizeMsgpackValue]
      split_ifs with hrange
      · exact iff_of_false (fun ⟨_, h⟩ => by cases h) fun h => of_decide_eq_false h hrange
      · exact iff_of_true ⟨_, rfl⟩ (decide_eq_false hrange)
    | undefined | null | bool _ | string _ | uint8Array _ => exact iff_of_true ⟨_, rfl⟩ rfl
    | _ => cases hleaf

/-- What the sanitizer does not look at is as it was, and the rest is what it lets through. -/
theorem everywhere_sanitized {q : JsValue → Bool}
    (hleaf : ∀ v w : JsValue, v.isLeaf = true → sanitized v = some w → w.everywhere q = true)
    {v w : JsValue} (h : sanitized v = some w) : w.everywhere q = v.unseen q := by
  induction v using JsValue.treeInduction generalizing w with
  | array vs ih =>
    rw [sanitized_array] at h
    obtain ⟨ws, hws, rfl⟩ := Option.map_eq_some_iff.mp h
    rw [JsValue.everywhere, JsValue.unseen]
    have hall := MsgPack.mapM_eq_some_iff.mp hws
    clear h hws
    induction hall with
    | nil => rfl
    | cons hw _ ihs =>
      rw [everywhereItems, unseenItems, ih _ List.mem_cons_self hw,
        ihs fun v hv => ih v (List.mem_cons_of_mem _ hv)]
  | object ps ih =>
    rw [sanitized_object] at h
    obtain ⟨qs, hqs, rfl⟩ := Option.map_eq_some_iff.mp h
    rw [everywhere_withPrototype, JsValue.unseen]
    have hall := MsgPack.mapM_eq_some_iff.mp hqs
    clear h hqs
    induction hall with
    | nil => rfl
    | @cons p _ ps qs hp _ ihs =>
      obtain ⟨w, hw, rfl⟩ := Option.map_eq_some_iff.mp hp
      have hps := ihs fun p hp => ih p (List.mem_cons_of_mem _ hp)
      have hv := ih p List.mem_cons_self hw
      by_cases hproto : p.1 = protoKey
      · rw [List.filter_cons_of_neg (by simpa using hproto), unseenProperties,
          decide_eq_true hproto, Bool.true_or, Bool.true_and]
        exact hps
      · rw [List.filter_cons_of_pos (by simpa using hproto), everywhereProperties, unseenProperties,
          decide_eq_false hproto, Bool.false_or, hv, hps]
  | map kvs =>
    obtain rfl := Option.some.inj h
    rfl
  | set vs =>
    obtain rfl := Option.some.inj h
    rfl
  | classInstance ps =>
    obtain rfl := Option.some.inj h
    rfl
  | leaf v hv => rw [hleaf v w hv h, unseen_of_isLeaf hv]

/-! ### The packer -/

/-- A number that the other bindings read. -/
def portableNumber : JsValue → Bool
  | .number x => x.isFinite && !unsafeInteger x
  | .bigint i => decide (-2 ^ 63 ≤ i ∧ i < 2 ^ 63)
  | _ => true

/-- An integer of 64 bits, signed or not. -/
def packable : JsValue → Bool
  | .bigint i => decide (-2 ^ 63 ≤ i ∧ i < 2 ^ 64)
  | _ => true

theorem packItems_eq_mapM (p : Packr) (vs : List JsValue) : packItems p vs = vs.mapM (pack p) := by
  induction vs with
  | nil => rfl
  | cons v vs ih =>
    rw [List.mapM_cons, ← ih]
    rfl

theorem packProperties_eq_mapM (p : Packr) (ps : Properties) :
    packProperties p ps = ps.mapM fun q => (pack p q.2).map fun w => (q.1, w) := by
  induction ps with
  | nil => rfl
  | cons q ps ih =>
    rw [List.mapM_cons, ← ih, packProperties]
    cases pack p q.2 <;> rfl

theorem packEntries_eq_mapM (p : Packr) (kvs : List (JsValue × JsValue)) :
    packEntries p kvs =
      kvs.mapM fun kv => (pack p kv.1).bind fun k => (pack p kv.2).map fun v => (k, v) := by
  induction kvs with
  | nil => rfl
  | cons kv kvs ih =>
    rw [List.mapM_cons, ← ih, packEntries]
    cases pack p kv.1 with
    | none => rfl
    | some k => cases pack p kv.2 <;> rfl

theorem exists_pack_iff {p : Packr} (hp : p.Lawful) (v : JsValue) :
    (∃ w, pack p v = some w) ↔ v.everywhere packable = true := by
  induction v using JsValue.treeInduction with
  | array vs ih | set vs ih =>
    rw [pack, exists_map_eq_some, packItems_eq_mapM, MsgPack.exists_mapM_eq_some,
      JsValue.everywhere, everywhereItems_iff]
    exact forall₂_congr ih
  | object ps ih | classInstance ps ih =>
    rw [pack, exists_map_eq_some, packProperties_eq_mapM, MsgPack.exists_mapM_eq_some,
      JsValue.everywhere, everywhereProperties_iff]
    exact forall₂_congr fun q hq => exists_map_eq_some.trans (ih q hq)
  | map kvs ih =>
    rw [pack, exists_map_eq_some, packEntries_eq_mapM, MsgPack.exists_mapM_eq_some,
      JsValue.everywhere, everywhereEntries_iff]
    refine forall₂_congr fun kv hkv => ?_
    obtain ⟨hk, hv⟩ := ih kv hkv
    rw [← hk, ← hv]
    cases pack p kv.1 with
    | none => simp
    | some k => cases pack p kv.2 <;> simp
  | leaf v hleaf =>
    rw [everywhere_of_isLeaf hleaf]
    cases v with
    | bigint i =>
      rw [pack, packable, decide_eq_true_iff]
      by_cases hrange : -2 ^ 63 ≤ i ∧ i < 2 ^ 64
      · exact iff_of_true ⟨_, hp.bigint i hrange.1 hrange.2⟩ hrange
      · refine iff_of_false ?_ hrange
        rw [hp.not_bigint i (by omega)]
        rintro ⟨w, hw⟩
        cases hw
    | undefined | null | bool _ | number _ | string _ | uint8Array _ => exact iff_of_true ⟨_, rfl⟩ rfl
    | _ => cases hleaf

/-! ### The encoder -/

/-- The encoder throws, or packs a value without a number that is not portable. -/
def EmitsPortable (p : Packr) (v : JsValue) : Prop :=
  (∃ e, encodeMsgpackValue p v = .error e) ∨
    ∃ w x, sanitizeMsgpackValue v = .ok w ∧ pack p w = some x ∧ encodeMsgpackValue p v = .ok x ∧
      w.everywhere portableNumber = true

theorem portableNumber_of_sanitized {v w : JsValue} (hleaf : v.isLeaf = true)
    (h : sanitized v = some w) : w.everywhere portableNumber = true := by
  cases v with
  | number x =>
    rw [sanitized, sanitizeMsgpackValue] at h
    split_ifs at h with hfinite hunsafe
    · obtain rfl := Option.some.inj h
      rfl
    · cases h
    · obtain rfl := Option.some.inj h
      show (x.isFinite && !unsafeInteger x) = true
      rw [unsafeInteger, Bool.eq_false_iff.mpr hunsafe]
      simpa using hfinite
  | bigint i =>
    rw [sanitized, sanitizeMsgpackValue] at h
    split_ifs at h with hrange
    · cases h
    · obtain rfl := Option.some.inj h
      exact decide_eq_true (by omega)
  | undefined | null | bool _ | string _ | uint8Array _ =>
    obtain rfl := Option.some.inj h
    rfl
  | _ => cases hleaf

theorem packable_of_portableNumber {v : JsValue} (h : portableNumber v = true) :
    packable v = true := by
  cases v with
  | bigint i =>
    have hrange := of_decide_eq_true h
    exact decide_eq_true (by omega)
  | _ => rfl

theorem everywhere_mono {q r : JsValue → Bool} (hqr : ∀ v, q v = true → r v = true) (v : JsValue)
    (h : v.everywhere q = true) : v.everywhere r = true := by
  induction v using JsValue.treeInduction with
  | array vs ih | set vs ih =>
    rw [JsValue.everywhere, everywhereItems_iff] at h ⊢
    exact fun v hv => ih v hv (h v hv)
  | object ps ih | classInstance ps ih =>
    rw [JsValue.everywhere, everywhereProperties_iff] at h ⊢
    exact fun p hp => ih p hp (h p hp)
  | map kvs ih =>
    rw [JsValue.everywhere, everywhereEntries_iff] at h ⊢
    exact fun kv hkv => ⟨(ih kv hkv).1 (h kv hkv).1, (ih kv hkv).2 (h kv hkv).2⟩
  | leaf v hleaf =>
    rw [everywhere_of_isLeaf hleaf] at h ⊢
    exact hqr v h

/-- **What the encoder emits.**  Only portable numbers are packed if and only if the sanitizer throws,
the packer does, or all numbers in maps, sets and instances of classes are portable. -/
theorem emitsPortable_iff {p : Packr} (hp : p.Lawful) (v : JsValue) :
    EmitsPortable p v ↔
      v.rejected = true ∨ v.unseen packable = false ∨ v.unseen portableNumber = true := by
  have hpackable : ∀ v w : JsValue, v.isLeaf = true → sanitized v = some w →
      w.everywhere packable = true := fun v w hleaf h =>
    everywhere_mono (fun _ => packable_of_portableNumber) w (portableNumber_of_sanitized hleaf h)
  cases hsan : sanitizeMsgpackValue v with
  | error e =>
    have hthrows : encodeMsgpackValue p v = .error (.rangeError e) := by
      rw [encodeMsgpackValue, hsan]
    refine iff_of_true (Or.inl ⟨_, hthrows⟩) (Or.inl ?_)
    by_contra hrejected
    obtain ⟨w, hw⟩ := (exists_sanitized_iff v).mpr (Bool.eq_false_iff.mpr hrejected)
    rw [sanitized, hsan] at hw
    cases hw
  | ok w =>
    have hw : sanitized v = some w := by
      rw [sanitized, hsan]
      rfl
    have hrejected : v.rejected = false := (exists_sanitized_iff v).mp ⟨w, hw⟩
    rw [hrejected, ← everywhere_sanitized hpackable hw,
      ← everywhere_sanitized (fun _ _ => portableNumber_of_sanitized) hw]
    cases hx : pack p w with
    | none =>
      have hthrows : encodeMsgpackValue p v = .error .packer := by
        simp only [encodeMsgpackValue, hsan, hx]
      refine iff_of_true (Or.inl ⟨_, hthrows⟩) (Or.inr (Or.inl ?_))
      rw [Bool.eq_false_iff]
      intro hall
      obtain ⟨x, hsome⟩ := (exists_pack_iff hp w).mpr hall
      cases hx.symm.trans hsome
    | some x =>
      have hencode : encodeMsgpackValue p v = .ok x := by
        simp only [encodeMsgpackValue, hsan, hx]
      have hfits : w.everywhere packable = true := (exists_pack_iff hp w).mp ⟨x, hx⟩
      rw [hfits]
      constructor
      · rintro (⟨e, he⟩ | ⟨w', x', hw', -, -, hportable⟩)
        · cases hencode.symm.trans he
        · obtain rfl := Except.ok.inj (hsan.symm.trans hw')
          exact Or.inr (Or.inr hportable)
      · rintro (h | h | hportable)
        · cases h
        · cases h
        · exact Or.inr ⟨w, x, hsan, hx, hencode, hportable⟩

/-! ### A library -/

/-- The library writes integers of up to 32 bits as such and other numbers as doubles. -/
def msgpackr : Packr where
  number x :=
    if x.isInteger && decide (-2 ^ 31 ≤ x.value ∧ x.value < 2 ^ 32) then .int x.value.num
    else .float x
  bigint i := if -2 ^ 63 ≤ i ∧ i < 2 ^ 64 then some (.int i) else none
  undefined := .nil

theorem msgpackr_lawful : msgpackr.Lawful where
  number x hfinite := by
    unfold msgpackr
    dsimp only
    split_ifs with hint
    · have hden : x.value.den = 1 := by
        rw [Float64.isInteger, Bool.and_eq_true, Bool.and_eq_true] at hint
        exact of_decide_eq_true hint.1.2
      exact congrArg some (Rat.den_eq_one_iff _ |>.mp hden)
    · rw [number?, if_pos hfinite]
  bigint i hlow hhigh := if_pos ⟨hlow, hhigh⟩
  not_bigint i h := if_neg (by omega)

/-- A NaN in a list becomes `null`, and a `bigint` in a map within a list is packed. -/
theorem emitsPortable_nested :
    EmitsPortable msgpackr (.array [.number ⟨0x7FF8000000000000⟩, .object [("a", .bigint 3)],
      .map [(.string "k", .set [.bigint (-5)])]]) :=
  (emitsPortable_iff msgpackr_lawful _).mpr (Or.inr (Or.inr (by decide)))

/-- A NaN in a map is packed. -/
theorem not_emitsPortable_map :
    ¬ EmitsPortable msgpackr (.map [(.string "x", .number ⟨0x7FF8000000000000⟩)]) := by
  rw [emitsPortable_iff msgpackr_lawful]
  decide

end Multifrost.JavaScript
