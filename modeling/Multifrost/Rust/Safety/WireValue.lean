import Multifrost.Lib.MsgPack.RoundTrip
import Multifrost.Rust.Safety.ErrorBody

/-!
# Which wire values survive a round trip

`WireValue` is untagged: what is written of a value does not name its variant, and the first variant
that takes it is the one that is read.  Five of the nine variants are taken by an earlier one, in part
or altogether: an unsigned number that fits `i64` is read as `Int`, bytes that are UTF-8 as `Text`, an
array of small numbers as `Binary` and so is the empty one, and a map, which is written as an array of
pairs, as `Array`.  `stable` says for each value whether that happens anywhere in it, and
`wireValue_serialize` that a value is read back exactly if it does not.
-/

namespace Multifrost.Rust

open MsgPack (Value)
open Router (WireValue)

/-! ### Stable values -/

/-- A number that is a byte. -/
def isByte : WireValue → Bool
  | .int i => decide (0 ≤ i.toInt ∧ i.toInt < 2 ^ 8)
  | .uInt n => decide (n.toNat < 2 ^ 8)
  | _ => false

mutual

/-- No earlier variant takes the value, or any that is in it. -/
def stable : WireValue → Bool
  | .uInt n => decide (2 ^ 63 ≤ n.toNat)
  | .binary bs => (String.fromUTF8? ⟨bs.toArray⟩).isNone
  | .array ws => !ws.all isByte && stableAll ws
  | .map _ => false
  | _ => true

def stableAll : List WireValue → Bool
  | [] => true
  | w :: ws => stable w && stableAll ws

end

/-! ### Numbers and bytes -/

theorem integer_of_mem {lo hi i : Int} (h : lo ≤ i ∧ i < hi) : integer lo hi (.int i) = some i :=
  if_pos h

theorem integer_of_not_mem {lo hi i : Int} (h : ¬ (lo ≤ i ∧ i < hi)) :
    integer lo hi (.int i) = none :=
  if_neg h

theorem scalar_int (i : Int64) : scalar (.int i.toInt) = some (.int i) := by
  have hint : integer (-2 ^ 63) (2 ^ 63) (.int i.toInt) = some i.toInt :=
    integer_of_mem ⟨i.le_toInt, i.toInt_lt⟩
  unfold scalar unit bool
  rw [hint, Option.map_some, Int64.ofInt_toInt]
  rfl

/-- An unsigned number is read as a signed one, if it is small enough. -/
theorem scalar_uInt (n : UInt64) :
    scalar (.int n.toNat) =
      some (if 2 ^ 63 ≤ n.toNat then .uInt n else .int (Int64.ofInt n.toNat)) := by
  have hlt := n.toNat_lt
  unfold scalar unit bool
  by_cases h : 2 ^ 63 ≤ n.toNat
  · have hint : integer (-2 ^ 63) (2 ^ 63) (.int n.toNat) = none :=
      integer_of_not_mem (by omega)
    have huint : integer 0 (2 ^ 64) (.int n.toNat) = some (n.toNat : Int) :=
      integer_of_mem (by omega)
    rw [hint, huint, Option.map_some, if_pos h, Int.toNat_natCast, UInt64.ofNat_toNat]
    rfl
  · have hint : integer (-2 ^ 63) (2 ^ 63) (.int n.toNat) = some (n.toNat : Int) :=
      integer_of_mem (by omega)
    rw [hint, if_neg h]
    rfl

theorem scalar_binary (bs : Bytes) :
    scalar (.bin bs) = some (((String.fromUTF8? ⟨bs.toArray⟩).map .text).getD (.binary bs)) := by
  have hstring : string (.bin bs) = String.fromUTF8? ⟨bs.toArray⟩ := rfl
  rw [scalar, hstring]
  cases String.fromUTF8? ⟨bs.toArray⟩ <;> rfl

theorem isSome_integer (lo hi i : Int) :
    (integer lo hi (.int i)).isSome = decide (lo ≤ i ∧ i < hi) := by
  by_cases h : lo ≤ i ∧ i < hi
  · rw [integer_of_mem h, decide_eq_true h]
    rfl
  · rw [integer_of_not_mem h, decide_eq_false h]
    rfl

/-- The elements that are read as bytes. -/
theorem integer_serialize (w : WireValue) :
    (integer 0 (2 ^ 8) (serialize w)).isSome = isByte w := by
  cases w with
  | int i => exact isSome_integer 0 (2 ^ 8) i.toInt
  | uInt n => exact (isSome_integer 0 (2 ^ 8) n.toNat).trans (decide_eq_decide.mpr (by omega))
  | _ => rfl

theorem byteBuf_serializeValues (ws : List WireValue) :
    (byteBuf (.array (serializeValues ws))).isSome = ws.all isByte := by
  induction ws with
  | nil => rfl
  | cons w ws ih =>
    rw [List.all_cons, ← ih, ← integer_serialize, serializeValues]
    simp only [byteBuf, List.mapM_cons]
    cases integer 0 (2 ^ 8) (serialize w) with
    | none => rfl
    | some i =>
      cases (serializeValues ws).mapM fun v =>
        (integer 0 (2 ^ 8) v).map fun i => UInt8.ofNat i.toNat <;> rfl

/-- An array is read as bytes, as an array or as a map. -/
theorem wireValue_array (vs : List Value) :
    wireValue (.array vs) = [(byteBuf (.array vs)).map .binary, (wireValues vs).map .array,
      (wirePairs vs).map .map].findSome? id := by
  simp [wireValue, scalar, unit, bool, float, integer, string]

/-! ### Every value is read as something -/

/-- Induction over a value and all that is in it. -/
@[elab_as_elim]
theorem wireInduction {P : WireValue → Prop} (nil : P .nil) (bool : ∀ b, P (.bool b))
    (int : ∀ i, P (.int i)) (uInt : ∀ n, P (.uInt n)) (float : ∀ x, P (.float x))
    (text : ∀ s, P (.text s)) (binary : ∀ bs, P (.binary bs))
    (array : ∀ ws, (∀ w ∈ ws, P w) → P (.array ws))
    (map : ∀ kws : List (String × WireValue), (∀ kw ∈ kws, P kw.2) → P (.map kws))
    (w : WireValue) : P w := by
  refine @WireValue.rec P (fun ws => ∀ w ∈ ws, P w) (fun kws => ∀ kw ∈ kws, P kw.2)
    (fun kw => P kw.2) nil bool int uInt float text binary array map ?_ ?_ ?_ ?_ ?_ w
  · exact List.forall_mem_nil _
  · intro w ws hw hws
    exact List.forall_mem_cons.mpr ⟨hw, hws⟩
  · exact List.forall_mem_nil _
  · intro kw kws hkw hkws
    exact List.forall_mem_cons.mpr ⟨hkw, hkws⟩
  · exact fun _ _ hw => hw

theorem wireValues_isSome {vs : List Value} (h : ∀ v ∈ vs, (wireValue v).isSome = true) :
    ∃ ws, wireValues vs = some ws := by
  induction vs with
  | nil => exact ⟨[], rfl⟩
  | cons v vs ih =>
    obtain ⟨hv, hvs⟩ := List.forall_mem_cons.mp h
    obtain ⟨w, hw⟩ := Option.isSome_iff_exists.mp hv
    obtain ⟨ws, hws⟩ := ih hvs
    refine ⟨w :: ws, ?_⟩
    rw [wireValues, hw, hws]
    rfl

theorem isSome_wireValue_array {vs : List Value} (h : ∀ v ∈ vs, (wireValue v).isSome = true) :
    (wireValue (.array vs)).isSome = true := by
  obtain ⟨ws, hws⟩ := wireValues_isSome h
  rw [wireValue_array, hws]
  cases byteBuf (.array vs) <;> rfl

theorem mem_serializeValues {ws : List WireValue} {v : Value} (h : v ∈ serializeValues ws) :
    ∃ w ∈ ws, v = serialize w := by
  induction ws with
  | nil => cases h
  | cons w ws ih =>
    rcases List.mem_cons.mp h with rfl | h
    · exact ⟨w, List.mem_cons_self, rfl⟩
    · obtain ⟨w', hw', rfl⟩ := ih h
      exact ⟨w', List.mem_cons_of_mem w hw', rfl⟩

theorem mem_serializePairs {kws : List (String × WireValue)} {v : Value}
    (h : v ∈ serializePairs kws) :
    ∃ kw ∈ kws, v = .array [.str kw.1, serialize kw.2] := by
  induction kws with
  | nil => cases h
  | cons kw kws ih =>
    rcases List.mem_cons.mp h with rfl | h
    · exact ⟨kw, List.mem_cons_self, rfl⟩
    · obtain ⟨kw', hkw', rfl⟩ := ih h
      exact ⟨kw', List.mem_cons_of_mem kw hkw', rfl⟩

theorem isSome_wireValue_serialize (w : WireValue) : (wireValue (serialize w)).isSome = true := by
  induction w using wireInduction with
  | nil => rfl
  | bool b => rfl
  | int i => exact Option.isSome_iff_exists.mpr ⟨_, scalar_int i⟩
  | uInt n => exact Option.isSome_iff_exists.mpr ⟨_, scalar_uInt n⟩
  | float x => rfl
  | text s => rfl
  | binary bs => exact Option.isSome_iff_exists.mpr ⟨_, scalar_binary bs⟩
  | array ws ih =>
    refine isSome_wireValue_array fun v hv => ?_
    obtain ⟨w, hw, rfl⟩ := mem_serializeValues hv
    exact ih w hw
  | map kws ih =>
    refine isSome_wireValue_array fun v hv => ?_
    obtain ⟨kw, hkw, rfl⟩ := mem_serializePairs hv
    -- a pair is an array itself
    refine isSome_wireValue_array fun v hv => ?_
    rcases List.mem_pair.mp hv with rfl | rfl
    · rfl
    · exact ih kw hkw

/-! ### Which values are read back -/

theorem wireValues_serializeValues_iff {ws : List WireValue}
    (h : ∀ w ∈ ws, wireValue (serialize w) = some w ↔ stable w = true) :
    wireValues (serializeValues ws) = some ws ↔ stableAll ws = true := by
  induction ws with
  | nil => exact iff_of_true rfl rfl
  | cons w ws ih =>
    obtain ⟨hw, hws⟩ := List.forall_mem_cons.mp h
    rw [stableAll, Bool.and_eq_true, ← hw, ← ih hws, serializeValues, wireValues]
    constructor
    · intro h
      obtain ⟨w', hw', h⟩ := Option.bind_eq_some_iff.mp h
      obtain ⟨ws', hws', h⟩ := Option.bind_eq_some_iff.mp h
      obtain ⟨rfl, rfl⟩ := List.cons.inj (Option.some.inj h)
      exact ⟨hw', hws'⟩
    · rintro ⟨hw, hws⟩
      rw [hw, hws]
      rfl

/-- An array that is written is read as bytes or as an array. -/
theorem wireValue_serialize_array (ws : List WireValue) :
    (∃ bs, ws.all isByte = true ∧ wireValue (serialize (.array ws)) = some (.binary bs)) ∨
      (ws.all isByte = false ∧
        wireValue (serialize (.array ws)) = (wireValues (serializeValues ws)).map .array) := by
  have hbytes := byteBuf_serializeValues ws
  rw [serialize, wireValue_array]
  cases hbuf : byteBuf (.array (serializeValues ws)) with
  | some bs =>
    rw [hbuf] at hbytes
    exact Or.inl ⟨bs, hbytes.symm, rfl⟩
  | none =>
    rw [hbuf] at hbytes
    refine Or.inr ⟨hbytes.symm, ?_⟩
    obtain ⟨ws', hws'⟩ : ∃ ws', wireValues (serializeValues ws) = some ws' := by
      refine wireValues_isSome fun v hv => ?_
      obtain ⟨w, -, rfl⟩ := mem_serializeValues hv
      exact isSome_wireValue_serialize w
    rw [hws']
    rfl

/-- A map is never read as a map. -/
theorem wireValue_serialize_map (kws : List (String × WireValue)) :
    wireValue (serialize (.map kws)) ≠ some (.map kws) := by
  obtain ⟨ws, hws⟩ : ∃ ws, wireValues (serializePairs kws) = some ws := by
    refine wireValues_isSome fun v hv => ?_
    obtain ⟨kw, -, rfl⟩ := mem_serializePairs hv
    refine isSome_wireValue_array fun v hv => ?_
    rcases List.mem_pair.mp hv with rfl | rfl
    · rfl
    · exact isSome_wireValue_serialize kw.2
  rw [serialize, wireValue_array, hws]
  cases byteBuf (.array (serializePairs kws)) with
  | some bs =>
    show some (WireValue.binary bs) ≠ _
    simp
  | none =>
    show some (WireValue.array ws) ≠ _
    simp

/-- **A value is read back exactly if it is stable.** -/
theorem wireValue_serialize (w : WireValue) :
    wireValue (serialize w) = some w ↔ stable w = true := by
  induction w using wireInduction with
  | nil => exact iff_of_true rfl rfl
  | bool b => exact iff_of_true rfl rfl
  | int i => exact iff_of_true (scalar_int i) rfl
  | uInt n =>
    have hread : wireValue (serialize (.uInt n)) = _ := scalar_uInt n
    rw [hread, stable, decide_eq_true_iff]
    split_ifs with h
    · exact iff_of_true rfl h
    · refine iff_of_false ?_ h
      simp
  | float x => exact iff_of_true rfl rfl
  | text s => exact iff_of_true rfl rfl
  | binary bs =>
    have hread : wireValue (serialize (.binary bs)) = _ := scalar_binary bs
    rw [hread, stable]
    cases String.fromUTF8? ⟨bs.toArray⟩ <;> simp
  | array ws ih =>
    have hall := wireValues_serializeValues_iff ih
    rw [stable]
    rcases wireValue_serialize_array ws with ⟨bs, hbytes, hread⟩ | ⟨hbytes, hread⟩
    · rw [hread, hbytes]
      simp
    · rw [hread, hbytes, Bool.not_false, Bool.true_and, ← hall, Option.map_eq_some_iff]
      constructor
      · rintro ⟨ws', hws', h⟩
        rw [hws', WireValue.array.inj h]
      · intro h
        exact ⟨ws, h, rfl⟩
  | map kws _ => exact iff_of_false (wireValue_serialize_map kws) Bool.false_ne_true

/-! ### On the wire -/

section Wire

variable (write : Value → Except String Bytes) (read : Bytes → Except String Value)

/-- `rmp_serde::to_vec_named` at a wire value, over a msgpack writer. -/
def wireValueToVecNamed (w : WireValue) : Except String Bytes := write (serialize w)

/-- `rmp_serde::from_slice` at a wire value, over a msgpack reader. -/
def wireValueFromSlice (bytes : Bytes) : Except String WireValue := do
  let value ← read bytes
  match wireValue value with
  | some w => .ok w
  | none => .error "data did not match any variant of untagged enum WireValue"

variable {write read}

theorem wireValueFromSlice_eq {w : WireValue} {bytes : Bytes}
    (hread : read bytes = .ok (serialize w)) :
    wireValueFromSlice read bytes = .ok w ↔ wireValue (serialize w) = some w := by
  rw [wireValueFromSlice, hread]
  show (match wireValue (serialize w) with
    | some w => .ok w
    | none => .error _ : Except String WireValue) = .ok w ↔ _
  cases wireValue (serialize w) <;> simp

/-- **Which wire values survive a hop.**  Where the msgpack reader reads the document that the writer
wrote of a wire value, decoding gives the wire value back if and only if it is stable. -/
theorem wireValueFromSlice_iff (w : WireValue) (bytes : Bytes)
    (hwrite : wireValueToVecNamed write w = .ok bytes)
    (hread : ∀ value, write value = .ok bytes → read bytes = .ok value) :
    wireValueFromSlice read bytes = .ok w ↔ stable w = true :=
  (wireValueFromSlice_eq (hread _ hwrite)).trans (wireValue_serialize w)

end Wire

/-- `MsgPack` as a library. -/
def writeMsgPack (value : Value) : Except String Bytes :=
  if value.encodable then .ok (MsgPack.encode value) else .error "value out of range"

def readMsgPack (bytes : Bytes) : Except String Value :=
  match MsgPack.fromSlice bytes with
  | some value => .ok value
  | none => .error "invalid msgpack document"

theorem readMsgPack_writeMsgPack {value : Value} {bytes : Bytes}
    (h : writeMsgPack value = .ok bytes) : readMsgPack bytes = .ok value := by
  unfold writeMsgPack at h
  split_ifs at h with hencodable
  rw [readMsgPack, ← Except.ok.inj h, MsgPack.fromSlice_encode hencodable]

theorem wireValueToVecNamed_of_encodable {w : WireValue} (h : (serialize w).encodable = true) :
    wireValueToVecNamed writeMsgPack w = .ok (MsgPack.encode (serialize w)) := by
  rw [wireValueToVecNamed, writeMsgPack, if_pos h]

/-- The value is written, and what is read is something else. -/
def Changes (w : WireValue) : Prop :=
  ∃ bytes, wireValueToVecNamed writeMsgPack w = .ok bytes ∧
    wireValueFromSlice readMsgPack bytes ≠ .ok w

theorem changes_of_not_stable {w : WireValue} (hencodable : (serialize w).encodable = true)
    (hstable : stable w = false) : Changes w := by
  have hwrite := wireValueToVecNamed_of_encodable hencodable
  refine ⟨_, hwrite, fun h => ?_⟩
  have hread := readMsgPack_writeMsgPack hwrite
  rw [wireValueFromSlice_eq hread, wireValue_serialize, hstable] at h
  cases h

/-- A small unsigned number, bytes that are a text, an empty array and a map come back as something
else. -/
theorem wireValueFromSlice_other :
    Changes (.uInt 3) ∧ Changes (.binary [0x61]) ∧ Changes (.array []) ∧
      Changes (.map [("a", .int 1)]) :=
  ⟨changes_of_not_stable (by decide) (by decide),
    changes_of_not_stable (by decide) (by decide +kernel),
    changes_of_not_stable (by decide) (by decide), changes_of_not_stable (by decide) (by decide)⟩

/-- Nested lists of scalars come back. -/
theorem wireValueFromSlice_nested :
    let w : WireValue := .array [.text "x", .array [.int (-1), .float .one], .nil]
    ∃ bytes, wireValueToVecNamed writeMsgPack w = .ok bytes ∧
      wireValueFromSlice readMsgPack bytes = .ok w := by
  intro w
  have hwrite := wireValueToVecNamed_of_encodable (w := w) (by decide)
  exact ⟨_, hwrite, (wireValueFromSlice_iff w _ hwrite fun _ => readMsgPack_writeMsgPack).mpr
    (by decide)⟩

end Multifrost.Rust
