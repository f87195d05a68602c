import Multifrost.JavaScript.Safety.Sanitize

/-!
# What the JavaScript binding passes on

A portable value that is decoded and encoded again comes out with the same numbers, texts, lists and
keys, if no number in it is an unsafe integer and no key is `__proto__` (`echo_iff`).  An unsafe
integer is refused: doubles have no type of their own in the language, so the sanitizer takes a large
one for an integer that has lost digits (`decode_encode`).

The depth of the stack is not modelled.
-/

namespace Multifrost.JavaScript

open MsgPack (Value Echo echoEntries)

/-- Numbers are the same if they denote the same. -/
def SameNumber (v w : Value) : Prop :=
  match number? v with
  | some q => number? w = some q
  | none => w = v

/-- A number that is no unsafe integer once it has been read. -/
def numberPasses (u : Unpackr) : Value → Bool
  | .int i => !(u.numbers i && decide (2 ^ 53 ≤ i.natAbs))
  | .float x => !unsafeInteger x
  | _ => true

/-- A map without the key `__proto__`. -/
def protoFree : Value → Bool
  | .map kvs => kvs.all fun kv =>
    match kv.1 with
    | .str s => decide (s ≠ protoKey)
    | _ => true
  | _ => true

/-! ### Objects -/

theorem assign_perm (es : Properties) (p : String × JsValue) (h : p.1 ∉ es.map Prod.fst) :
    (assign es p).Perm (p :: es) := by
  induction es with
  | nil => exact .refl _
  | cons e es ih =>
    rw [List.map_cons, List.mem_cons, not_or] at h
    rw [assign, if_neg (Ne.symm h.1)]
    split_ifs
    · exact .refl _
    · exact ((ih h.2).cons e).trans (.swap _ _ _)

theorem mem_keys_assign {es : Properties} {p : String × JsValue} {key : String}
    (h : key ∈ (assign es p).map Prod.fst) : key = p.1 ∨ key ∈ es.map Prod.fst := by
  induction es with
  | nil => exact List.mem_cons.mp h
  | cons e es ih =>
    rw [assign] at h
    split_ifs at h with hkey
    · rw [List.map_cons, List.mem_cons] at h ⊢
      exact h.imp_right Or.inr
    · exact List.mem_cons.mp h
    · rw [List.map_cons, List.mem_cons] at h ⊢
      rcases h with h | h
      · exact Or.inr (Or.inl h)
      · exact (ih h).imp_right Or.inr

theorem mem_keys_foldl_assign {ps es : Properties} {key : String}
    (h : key ∈ (ps.foldl assign es).map Prod.fst) :
    key ∈ ps.map Prod.fst ∨ key ∈ es.map Prod.fst := by
  induction ps generalizing es with
  | nil => exact Or.inr h
  | cons p ps ih =>
    rw [List.map_cons, List.mem_cons]
    rcases ih h with h | h
    · exact Or.inl (Or.inr h)
    · exact (mem_keys_assign h).imp_left Or.inl

section Unpack

variable {u : Unpackr}

theorem unpackItems_eq_map (vs : List Value) : unpackItems u vs = vs.map (unpack u) := by
  induction vs with
  | nil => rfl
  | cons v vs ih => rw [unpackItems, ih, List.map_cons]

theorem unpackEntries_eq_map (kvs : List (Value × Value)) :
    unpackEntries u kvs = kvs.map fun kv => (u.safeKey kv.1, unpack u kv.2) := by
  induction kvs with
  | nil => rfl
  | cons kv kvs ih => rw [unpackEntries, ih, List.map_cons]

theorem protoFree_ofEntries {es : List (String × Value)} :
    protoFree (.ofEntries es) = true ↔ ∀ e ∈ es, e.1 ≠ protoKey := by
  simp [protoFree, Value.ofEntries]

/-- A map is read as a plain object with its keys, in the order of the language. -/
theorem unpack_ofEntries (hu : u.Lawful) {es : List (String × Value)}
    (hnodup : (es.map Prod.fst).Nodup) (hproto : protoFree (.ofEntries es) = true) :
    ∃ ps, unpack u (.ofEntries es) = .object ps ∧ ps.Perm (es.map fun e => (e.1, unpack u e.2)) := by
  have hkeys := protoFree_ofEntries.mp hproto
  set qs : Properties := es.map fun e => (e.1, unpack u e.2) with hqs
  have hread : unpackEntries u (es.map fun e => (Value.str e.1, e.2)) = qs := by
    rw [unpackEntries_eq_map, List.map_map]
    refine List.map_congr_left fun e he => ?_
    show (u.safeKey (.str e.1), unpack u e.2) = _
    rw [hu.safeKey e.1 (hkeys e he)]
  have hne : ∀ p ∈ qs, p.1 ≠ protoKey := by
    intro p hp
    obtain ⟨e, he, rfl⟩ := List.mem_map.mp hp
    exact hkeys e he
  have hown : (qs.filter fun p => p.1 ≠ protoKey) = qs :=
    List.filter_eq_self.mpr fun p hp => decide_eq_true (hne p hp)
  have hplain : (qs.any fun p => p.1 = protoKey && p.2.isObject) = false := by
    rw [List.any_eq_false]
    intro p hp
    simp [hne p hp]
  have hdistinct : ((qs ++ []).map Prod.fst).Nodup := by
    rw [List.append_nil, hqs, List.map_map]
    exact hnodup
  have hperm := MsgPack.foldl_insert_perm assign_perm hdistinct
  rw [List.append_nil] at hperm
  refine ⟨_, ?_, hperm⟩
  show withPrototype (unpackEntries u _) (List.foldl assign [] _) = _
  rw [hread, withPrototype, hplain, hown]
  rfl

end Unpack

/-! ### What a value is packed as -/

section Repack

variable (p : Packr)

/-- What the encoder makes of a value, if it does not throw. -/
def repack (v : JsValue) : Option Value := (sanitized v).bind (pack p)

theorem toOption_encodeMsgpackValue (v : JsValue) :
    (encodeMsgpackValue p v).toOption = repack p v := by
  rw [repack, sanitized, encodeMsgpackValue]
  cases sanitizeMsgpackValue v with
  | error e => rfl
  | ok w =>
    show _ = pack p w
    dsimp only
    cases pack p w <;> rfl

theorem repack_array (vs : List JsValue) :
    repack p (.array vs) = (vs.mapM (repack p)).map .array := by
  have hall : ((vs.mapM sanitized).bind fun ws => ws.mapM (pack p)) = vs.mapM (repack p) :=
    MsgPack.mapM_bind_mapM
  rw [← hall, repack, sanitized_array]
  cases vs.mapM sanitized with
  | none => rfl
  | some ws =>
    show pack p (.array ws) = _
    rw [pack, packItems_eq_mapM]
    rfl

theorem repack_object {ps : Properties} (hproto : ∀ q ∈ ps, q.1 ≠ protoKey) :
    repack p (.object ps) =
      (ps.mapM fun q => (repack p q.2).map fun w => (q.1, w)).map .ofEntries := by
  have hall : (ps.mapM fun q => (repack p q.2).map fun w => (q.1, w)) =
      (ps.mapM fun q => (sanitized q.2).map fun w => (q.1, w)).bind fun qs =>
        qs.mapM fun q => (pack p q.2).map fun w => (q.1, w) := by
    rw [MsgPack.mapM_bind_mapM]
    congr 1
    funext q
    rw [repack]
    cases sanitized q.2 <;> rfl
  rw [hall, repack, sanitized_object]
  cases hqs : ps.mapM fun q => (sanitized q.2).map fun w => (q.1, w) with
  | none => rfl
  | some qs =>
    have hkeys : qs.map Prod.fst = ps.map Prod.fst := MsgPack.mapM_entries_keys hqs
    have hown : (qs.filter fun q => q.1 ≠ protoKey) = qs := by
      refine List.filter_eq_self.mpr fun q hq => decide_eq_true ?_
      have hmem : q.1 ∈ ps.map Prod.fst := hkeys ▸ List.mem_map_of_mem hq
      obtain ⟨q', hq', heq⟩ := List.mem_map.mp hmem
      exact heq ▸ hproto q' hq'
    show pack p (withPrototype qs (qs.filter fun q => q.1 ≠ protoKey)) = _
    rw [hown, withPrototype]
    split_ifs <;>
    · rw [pack, packProperties_eq_mapM]
      rfl

/-- No key that is packed is `__proto__`. -/
theorem repack_withPrototype {assigned own : Properties} (hown : protoKey ∉ own.map Prod.fst)
    {w : Value} (h : repack p (withPrototype assigned own) = some w) :
    ∃ ls : List (String × Value), w = .ofEntries ls ∧ protoKey ∉ ls.map Prod.fst := by
  unfold withPrototype at h
  split_ifs at h
  · obtain ⟨ls, hls, rfl⟩ := Option.map_eq_some_iff.mp h
    rw [packProperties_eq_mapM] at hls
    refine ⟨ls, rfl, ?_⟩
    rw [MsgPack.mapM_entries_keys hls]
    exact hown
  · have hproto : ∀ q ∈ own, q.1 ≠ protoKey := fun q hq heq =>
      hown (heq ▸ List.mem_map_of_mem hq)
    rw [repack_object p hproto] at h
    obtain ⟨ls, hls, rfl⟩ := Option.map_eq_some_iff.mp h
    refine ⟨ls, rfl, ?_⟩
    rw [MsgPack.mapM_entries_keys hls]
    exact hown

end Repack

/-! ### Numbers -/

theorem number?_of_finite {x : Float64} (h : x.isFinite = true) :
    number? (.float x) = some x.value := if_pos h

theorem unsafeInteger_ofInt {i : Int} (h : i.natAbs ≤ 2 ^ 53) :
    unsafeInteger (.ofInt i) = decide (2 ^ 53 ≤ i.natAbs) := by
  have hint := Float64.isInteger_ofInt h
  have hbound : |((i : Int) : ℚ)| ≤ 2 ^ 53 - 1 ↔ ¬ 2 ^ 53 ≤ i.natAbs := by
    have habs : |((i : Int) : ℚ)| = (i.natAbs : ℚ) := by rw [Nat.cast_natAbs, Int.cast_abs]
    rw [habs, not_le, Nat.lt_iff_add_one_le, le_sub_iff_add_le]
    exact_mod_cast Iff.rfl
  rw [unsafeInteger, isSafeInteger, hint, (Float64.value_ofInt h).1, Bool.true_and, Bool.true_and,
    decide_eq_decide.mpr hbound, decide_not, Bool.not_not]

/-- A finite number is written with its value, unless it is an unsafe integer. -/
theorem repack_number {p : Packr} (hp : p.Lawful) {x : Float64} (hfinite : x.isFinite = true) :
    (unsafeInteger x = true → repack p (.number x) = none) ∧
      (unsafeInteger x = false →
        ∃ w, repack p (.number x) = some w ∧ number? w = some x.value) := by
  have hsan : sanitized (.number x) = if unsafeInteger x then none else some (.number x) := by
    rw [sanitized, sanitizeMsgpackValue, hfinite]
    show (if (x.isInteger && !isSafeInteger x) = true then .error .unsafeInteger
      else .ok (.number x) : Except RangeError JsValue).toOption = _
    rw [unsafeInteger]
    split_ifs <;> rfl
  constructor
  · intro hunsafe
    rw [repack, hsan, if_pos hunsafe]
    rfl
  · intro hsafe
    refine ⟨p.number x, ?_, hp.number x hfinite⟩
    rw [repack, hsan, if_neg (Bool.eq_false_iff.mp hsafe)]
    rfl

/-! ### The echo -/

section Echo

variable {p : Packr} {u : Unpackr}

/-- A node that comes back. -/
def passes (u : Unpackr) (v : Value) : Bool := numberPasses u v && protoFree v

theorem sameNumber_of_not_number {v w : Value} (h : number? v = none) :
    SameNumber v w ↔ w = v := by
  rw [SameNumber, h]

theorem sameNumber_of_number {v w : Value} {q : ℚ} (h : number? v = some q) :
    SameNumber v w ↔ number? w = some q := by
  rw [SameNumber, h]

/-- A number that does not pass is rejected, and everything else that is no container comes back. -/
theorem repack_unpack_leaf (hp : p.Lawful) (hu : u.Lawful) {v : Value} (hleaf : v.isLeaf = true)
    (hsafe : v.safe = true) :
    (numberPasses u v = false → (unpack u v).rejected = true) ∧
      (numberPasses u v = true → ∃ w, repack p (unpack u v) = some w ∧ SameNumber v w) := by
  cases v with
  | ext type data => cases hsafe
  | nil | bool _ | str _ | bin _ =>
    refine ⟨fun h => (by cases h), fun _ => ⟨_, rfl, ?_⟩⟩
    exact (sameNumber_of_not_number rfl).mpr rfl
  | float x =>
    have hfinite : x.isFinite = true := hsafe
    have hpasses : numberPasses u (.float x) = !unsafeInteger x := rfl
    rw [hpasses]
    constructor
    · intro h
      show unsafeInteger x = true
      simpa using h
    · intro h
      obtain ⟨w, hw, hsame⟩ := (repack_number hp hfinite).2 (by simpa using h)
      exact ⟨w, hw, (sameNumber_of_number (number?_of_finite hfinite)).mpr hsame⟩
  | int i =>
    have hrange : -2 ^ 63 ≤ i ∧ i < 2 ^ 63 := of_decide_eq_true hsafe
    cases hnumber : u.numbers i with
    | false =>
      have hunpack : unpack u (.int i) = .bigint i := by rw [unpack, hnumber]; rfl
      have hpasses : numberPasses u (.int i) = true := by rw [numberPasses, hnumber]; rfl
      have hsan : sanitized (.bigint i) = some (.bigint i) := by
        rw [sanitized, sanitizeMsgpackValue, if_neg (by omega)]
        rfl
      refine ⟨fun h => (by cases hpasses.symm.trans h), fun _ => ⟨.int i, ?_, ?_⟩⟩
      · rw [hunpack, repack, hsan]
        exact hp.bigint i hrange.1 (by omega)
      · exact (sameNumber_of_number rfl).mpr rfl
    | true =>
      have hle : i.natAbs ≤ 2 ^ 53 := by
        by_contra hlt
        cases hnumber.symm.trans (hu.bigint i (by omega))
      have hunpack : unpack u (.int i) = .number (.ofInt i) := by rw [unpack, hnumber]; rfl
      have hpasses : numberPasses u (.int i) = !unsafeInteger (.ofInt i) := by
        rw [numberPasses, hnumber, unsafeInteger_ofInt hle]
        rfl
      obtain ⟨hvalue, hfinite⟩ := Float64.value_ofInt hle
      rw [hpasses, hunpack]
      constructor
      · intro h
        show unsafeInteger (.ofInt i) = true
        simpa using h
      · intro h
        obtain ⟨w, hw, hsame⟩ := (repack_number hp hfinite).2 (by simpa using h)
        rw [hvalue] at hsame
        exact ⟨w, hw, (sameNumber_of_number rfl).mpr hsame⟩
  | array _ | map _ => cases hleaf

theorem echo (hp : p.Lawful) (hu : u.Lawful) :
    Echo SameNumber (passes u) fun v => repack p (unpack u v) where
  leaf v hleaf hsafe := by
    have hpasses : passes u v = numberPasses u v := by
      rw [passes]
      cases v with
      | map _ => cases hleaf
      | _ => exact Bool.and_true _
    obtain ⟨hrejected, hreturns⟩ := repack_unpack_leaf hp hu hleaf hsafe
    rw [hpasses]
    refine ⟨?_, hreturns⟩
    rintro ⟨w, hw, -⟩
    by_contra hnot
    obtain ⟨w', hsan, -⟩ := Option.bind_eq_some_iff.mp hw
    have hnone := (exists_sanitized_iff _).mp ⟨w', hsan⟩
    cases hnone.symm.trans (hrejected (Bool.eq_false_iff.mpr hnot))
  array vs := by
    show repack p (.array (unpackItems u vs)) = _
    rw [unpackItems_eq_map, repack_array, List.mapM_map]
    rfl
  ok_array _ := rfl
  ok_str _ := rfl
  map es hnodup hok := by
    obtain ⟨ps, hps, hperm⟩ := unpack_ofEntries (u := u) hu hnodup hok
    have hproto : ∀ q ∈ ps, q.1 ≠ protoKey := by
      intro q hq
      obtain ⟨e, he, rfl⟩ := List.mem_map.mp (hperm.mem_iff.mp hq)
      exact protoFree_ofEntries.mp hok e he
    have hentries : echoEntries (fun v => repack p (unpack u v)) es =
        (es.map fun e => (e.1, unpack u e.2)).mapM fun q =>
          (repack p q.2).map fun w => (q.1, w) := by
      rw [List.mapM_map]
      rfl
    have hrepack := repack_object p hproto
    rw [← hps] at hrepack
    rw [hentries]
    cases hls : (es.map fun e => (e.1, unpack u e.2)).mapM fun q =>
        (repack p q.2).map fun w => (q.1, w) with
    | none =>
      show repack p (unpack u (.ofEntries es)) = none
      rw [hrepack, MsgPack.mapM_eq_none_of_perm hperm hls]
      rfl
    | some ls =>
      obtain ⟨ls', hperm', hls'⟩ := MsgPack.mapM_of_perm hperm hls
      refine ⟨ls', hperm', ?_⟩
      rw [hrepack, hls']
      rfl
  not_map es hnodup hok w hw hagrees := by
    have hown : protoKey ∉ (((unpackEntries u (es.map fun e => (Value.str e.1, e.2))).filter
        fun p => p.1 ≠ protoKey).foldl assign []).map Prod.fst := by
      intro hmem
      rcases mem_keys_foldl_assign hmem with h | h
      · obtain ⟨q, hq, heq⟩ := List.mem_map.mp h
        exact of_decide_eq_true (List.mem_filter.mp hq).2 heq
      · cases h
    obtain ⟨ls, rfl, hls⟩ := repack_withPrototype p hown hw
    obtain ⟨ls', heq, -, hall⟩ := MsgPack.agrees_ofEntries.mp hagrees
    have hproto : ∃ e ∈ es, e.1 = protoKey := by
      have hnot : ¬ ∀ e ∈ es, e.1 ≠ protoKey := fun h =>
        Bool.eq_false_iff.mp hok (protoFree_ofEntries.mpr h)
      push Not at hnot
      exact hnot
    obtain ⟨e, he, hkey⟩ := hproto
    obtain ⟨w', hmem, -⟩ := hall e he
    rw [← Value.map.inj heq, List.mem_map] at hmem
    obtain ⟨l, hl, hl'⟩ := hmem
    have hname : l.1 = e.1 := Value.str.inj (Prod.mk.inj hl').1
    exact hls (hkey ▸ hname ▸ List.mem_map_of_mem hl)

/-- A value comes back if and only if no number in it is an unsafe integer and no key is `__proto__`. -/
theorem echo_iff (hp : p.Lawful) (hu : u.Lawful) {w : Value} (hw : w.safe = true) :
    (∃ w', encodeMsgpackValue p (decodeMsgpackValue u w) = .ok w' ∧ w.Agrees SameNumber w') ↔
      w.everywhere (passes u) = true := by
  rw [← (echo hp hu).agrees_iff hw]
  refine exists_congr fun w' => and_congr_left fun _ => ?_
  rw [← toOption_encodeMsgpackValue, decodeMsgpackValue]
  cases encodeMsgpackValue p (unpack u w) <;> simp [Except.toOption]

/-! ### The errors -/

theorem sanitizeItems_error {vs : List JsValue} {e : RangeError}
    (h : sanitizeItems vs = .error e) : ∃ v ∈ vs, sanitizeMsgpackValue v = .error e := by
  induction vs with
  | nil => cases h
  | cons v vs ih =>
    rw [sanitizeItems] at h
    cases hv : sanitizeMsgpackValue v with
    | error e' =>
      rw [hv] at h
      have herror : e' = e := Except.error.inj h
      exact ⟨v, List.mem_cons_self, hv.trans (congrArg Except.error herror)⟩
    | ok w =>
      cases hvs : sanitizeItems vs with
      | error e' =>
        rw [hv, hvs] at h
        obtain ⟨v', hv', herror⟩ := ih (hvs.trans h)
        exact ⟨v', List.mem_cons_of_mem _ hv', herror⟩
      | ok ws =>
        rw [hv, hvs] at h
        cases h

theorem sanitizeProperties_error {ps : Properties} {e : RangeError}
    (h : sanitizeProperties ps = .error e) :
    ∃ q ∈ ps, sanitizeMsgpackValue q.2 = .error e := by
  induction ps with
  | nil => cases h
  | cons q ps ih =>
    rw [sanitizeProperties] at h
    cases hv : sanitizeMsgpackValue q.2 with
    | error e' =>
      rw [hv] at h
      have herror : e' = e := Except.error.inj h
      exact ⟨q, List.mem_cons_self, hv.trans (congrArg Except.error herror)⟩
    | ok w =>
      cases hvs : sanitizeProperties ps with
      | error e' =>
        rw [hv, hvs] at h
        obtain ⟨q', hq', herror⟩ := ih (hvs.trans h)
        exact ⟨q', List.mem_cons_of_mem _ hq', herror⟩
      | ok ws =>
        rw [hv, hvs] at h
        cases h

theorem error_of_array {vs : List JsValue} {e : RangeError}
    (h : sanitizeMsgpackValue (.array vs) = .error e) :
    ∃ v ∈ vs, sanitizeMsgpackValue v = .error e := by
  refine sanitizeItems_error ?_
  rw [sanitizeMsgpackValue] at h
  cases hvs : sanitizeItems vs with
  | error e' =>
    rw [hvs] at h
    exact congrArg Except.error (Except.error.inj h)
  | ok ws =>
    rw [hvs] at h
    cases h

theorem error_of_object {ps : Properties} {e : RangeError}
    (h : sanitizeMsgpackValue (.object ps) = .error e) :
    ∃ q ∈ ps, sanitizeMsgpackValue q.2 = .error e := by
  refine sanitizeProperties_error ?_
  rw [sanitizeMsgpackValue] at h
  cases hps : sanitizeProperties ps with
  | error e' =>
    rw [hps] at h
    exact congrArg Except.error (Except.error.inj h)
  | ok qs =>
    rw [hps] at h
    cases h

/-- A `bigint` that comes from the wire fits 64 bits. -/
theorem sanitize_unpack_error (hu : u.Lawful) {w : Value} (hw : w.safe = true)
    (hproto : w.everywhere protoFree = true) {e : RangeError}
    (h : sanitizeMsgpackValue (unpack u w) = .error e) : e = .unsafeInteger := by
  revert hproto h
  refine Value.safeInduction ?_ ?_ ?_ w hw
  · intro v hleaf hsafe _ h
    have hnumber : ∀ x, sanitizeMsgpackValue (.number x) = .error e → e = .unsafeInteger := by
      intro x h
      rw [sanitizeMsgpackValue] at h
      split_ifs at h
      exact (Except.error.inj h).symm
    cases v with
    | int i =>
      have hrange : -2 ^ 63 ≤ i ∧ i < 2 ^ 63 := of_decide_eq_true hsafe
      rw [unpack] at h
      split_ifs at h
      · exact hnumber _ h
      · rw [sanitizeMsgpackValue, if_neg (by omega)] at h
        cases h
    | float x => exact hnumber x h
    | nil | bool _ | str _ | bin _ => cases h
    | array _ | map _ => cases hleaf
    | ext type data => cases hsafe
  · intro vs ih hproto h
    rw [unpack, unpackItems_eq_map] at h
    obtain ⟨_, hmem, herror⟩ := error_of_array h
    obtain ⟨v, hv, rfl⟩ := List.mem_map.mp hmem
    exact (ih v hv).2 ((MsgPack.everywhere_array.mp hproto).2 v hv) herror
  · intro es hnodup ih hproto h
    obtain ⟨hmap, hvalues⟩ := (MsgPack.everywhere_ofEntries fun _ => rfl).mp hproto
    obtain ⟨ps, hps, hperm⟩ := unpack_ofEntries (u := u) hu hnodup hmap
    rw [hps] at h
    obtain ⟨q, hq, herror⟩ := error_of_object h
    obtain ⟨e', he', rfl⟩ := List.mem_map.mp (hperm.mem_iff.mp hq)
    exact (ih e' he').2 (hvalues e' he') herror

/-- An unsafe integer is found wherever it is. -/
theorem rejected_unpack (hp : p.Lawful) (hu : u.Lawful) {w : Value} (hw : w.safe = true)
    (hproto : w.everywhere protoFree = true) (h : w.everywhere (numberPasses u) = false) :
    (unpack u w).rejected = true := by
  revert hproto h
  refine Value.safeInduction ?_ ?_ ?_ w hw
  · intro v hleaf hsafe _ h
    rw [MsgPack.everywhere_of_isLeaf hleaf] at h
    exact (repack_unpack_leaf hp hu hleaf hsafe).1 h
  · intro vs ih hproto h
    rw [Bool.eq_false_iff, ne_eq, MsgPack.everywhere_array, not_and] at h
    have hnot := h rfl
    push Not at hnot
    obtain ⟨v, hv, hfails⟩ := hnot
    rw [unpack, JsValue.rejected, unpackItems_eq_map, rejectedItems_iff]
    refine ⟨unpack u v, List.mem_map_of_mem hv, ?_⟩
    exact (ih v hv).2 ((MsgPack.everywhere_array.mp hproto).2 v hv) (Bool.eq_false_iff.mpr hfails)
  · intro es hnodup ih hproto h
    obtain ⟨hmap, hvalues⟩ := (MsgPack.everywhere_ofEntries fun _ => rfl).mp hproto
    rw [Bool.eq_false_iff, ne_eq, MsgPack.everywhere_ofEntries fun _ => rfl, not_and] at h
    have hnot := h rfl
    push Not at hnot
    obtain ⟨e, he, hfails⟩ := hnot
    obtain ⟨ps, hps, hperm⟩ := unpack_ofEntries (u := u) hu hnodup hmap
    rw [hps, JsValue.rejected, rejectedProperties_iff]
    refine ⟨(e.1, unpack u e.2), hperm.mem_iff.mpr (List.mem_map_of_mem he), ?_⟩
    exact (ih e he).2 (hvalues e he) (Bool.eq_false_iff.mpr hfails)

/-- **What a JavaScript peer passes on.**  A portable value without the key `__proto__` comes back with
the same numbers, texts, lists and keys, if no double in it is an unsafe integer and no integer next to
the safe range is read as a `number`; otherwise the encoder throws the `RangeError` for unsafe
integers. -/
theorem encode_decode (hp : p.Lawful) (hu : u.Lawful) {w : Value} (hw : w.safe = true)
    (hproto : w.everywhere protoFree = true) :
    (w.everywhere (numberPasses u) = true →
      ∃ w', encodeMsgpackValue p (decodeMsgpackValue u w) = .ok w' ∧ w.Agrees SameNumber w') ∧
    (w.everywhere (numberPasses u) = false →
      encodeMsgpackValue p (decodeMsgpackValue u w) = .error (.rangeError .unsafeInteger)) := by
  constructor
  · intro hnumbers
    exact (echo_iff hp hu hw).mpr ((MsgPack.everywhere_and w).mpr ⟨hnumbers, hproto⟩)
  · intro hnumbers
    have hrejected := rejected_unpack hp hu hw hproto hnumbers
    cases hsan : sanitizeMsgpackValue (unpack u w) with
    | error e =>
      rw [encodeMsgpackValue, decodeMsgpackValue, hsan, sanitize_unpack_error hu hw hproto hsan]
    | ok v =>
      have hreturns : sanitized (unpack u w) = some v := by
        rw [sanitized, hsan]
        rfl
      cases hrejected.symm.trans ((exists_sanitized_iff _).mp ⟨v, hreturns⟩)

end Echo

/-! ### A library -/

/-- The library reads the integers next to the safe range as `number`, and renames `__proto__`. -/
def unpackr : Unpackr where
  numbers i := decide (i.natAbs ≤ 2 ^ 53)
  safeKey
    | .str s => if s = protoKey then "__proto_" else s
    | _ => ""
  takes type _ := decide (type = 0)
  extension _ _ := .undefined

theorem unpackr_lawful : unpackr.Lawful where
  bigint _ h := decide_eq_false (not_le.mpr h)
  safeKey _ h := if_neg h

/-- The largest integer comes back from within a map. -/
theorem encode_decode_nested :
    let w : Value := .ofEntries [("b", .array [.int (2 ^ 63 - 1), .int (-3), .bin [0]]),
      ("7", .ofEntries [("", .str "x")])]
    ∃ w', encodeMsgpackValue msgpackr (decodeMsgpackValue unpackr w) = .ok w' ∧
      w.Agrees SameNumber w' :=
  (encode_decode msgpackr_lawful unpackr_lawful (by decide) (by decide)).1 (by decide)

/-- The double `2 ^ 53` is refused. -/
theorem encode_decode_large :
    (Value.float (.ofInt (2 ^ 53))).safe = true ∧
      encodeMsgpackValue msgpackr (decodeMsgpackValue unpackr (.float (.ofInt (2 ^ 53)))) =
        .error (.rangeError .unsafeInteger) := by
  have hle : (2 ^ 53 : Int).natAbs ≤ 2 ^ 53 := by decide
  obtain ⟨-, hfinite⟩ := Float64.value_ofInt hle
  have hunsafe : unsafeInteger (.ofInt (2 ^ 53)) = true := by
    rw [unsafeInteger_ofInt hle]
    decide
  have hrejects : sanitizeMsgpackValue (.number (.ofInt (2 ^ 53))) = .error .unsafeInteger := by
    rw [sanitizeMsgpackValue, hfinite]
    exact if_pos hunsafe
  have hdecode : decodeMsgpackValue unpackr (.float (.ofInt (2 ^ 53))) =
      .number (.ofInt (2 ^ 53)) := by
    rw [decodeMsgpackValue]
    rfl
  refine ⟨hfinite, ?_⟩
  rw [hdecode, encodeMsgpackValue, hrejects]

end Multifrost.JavaScript
