import Multifrost.Lib.MsgPack.Tree
import Multifrost.Rust.Message

/-!
# Which error bodies the Rust binding reads

`WireValue` has no variant that serde reads from a map: `Map` is a vector of pairs.  A value is
read iff no map and no extension occurs in it (`isSome_wireValue`), and so is the body of an error
with such details (`decodeErrorBody_iff`).
-/

namespace Multifrost.Rust

open MsgPack
open Router (ErrorBody WireValue)

/-! ### Dynamic values -/

/-- An integer of 64 bits, signed or unsigned. -/
def integerNode : Value → Bool
  | .int i => decide (-2 ^ 63 ≤ i ∧ i < 2 ^ 64)
  | _ => true

/-- What is no map and no extension. -/
def plainNode : Value → Bool
  | .map _ | .ext .. => false
  | _ => true

theorem isSome_wireValue_int {i : Int} (h : -2 ^ 63 ≤ i ∧ i < 2 ^ 64) :
    (wireValue (.int i)).isSome = true := by
  show (scalar (.int i)).isSome = true
  unfold scalar unit bool
  by_cases hsigned : i < 2 ^ 63
  · have hint : integer (-2 ^ 63) (2 ^ 63) (.int i) = some i := if_pos ⟨h.1, hsigned⟩
    rw [hint]
    rfl
  · have hint : integer (-2 ^ 63) (2 ^ 63) (.int i) = none := if_neg fun hi => hsigned hi.2
    have huint : integer 0 (2 ^ 64) (.int i) = some i := if_pos ⟨by omega, h.2⟩
    rw [hint, huint]
    rfl

theorem isSome_wireValue_bin (bs : Bytes) : (wireValue (.bin bs)).isSome = true := by
  have hstring : string (.bin bs) = String.fromUTF8? ⟨bs.toArray⟩ := rfl
  show (scalar (.bin bs)).isSome = true
  rw [scalar, hstring]
  cases String.fromUTF8? ⟨bs.toArray⟩ <;> rfl

theorem isSome_wireValue_of_string {v : Value} (h : (string v).isSome = true) :
    (wireValue v).isSome = true := by
  cases v with
  | str s => rfl
  | bin bs => exact isSome_wireValue_bin bs
  | _ => cases h

theorem isSome_wireValues {vs : List Value} :
    (wireValues vs).isSome = true ↔ ∀ v ∈ vs, (wireValue v).isSome = true := by
  induction vs with
  | nil => exact iff_of_true rfl (List.forall_mem_nil _)
  | cons v vs ih =>
    rw [List.forall_mem_cons, ← ih, wireValues]
    cases wireValue v with
    | none => simp
    | some w => cases wireValues vs <;> simp

/-- Only an array of numbers is a byte buffer. -/
theorem plain_of_byteBuf {vs : List Value} (h : (byteBuf (.array vs)).isSome = true) :
    ∀ v ∈ vs, v.everywhere plainNode = true := by
  induction vs with
  | nil => exact List.forall_mem_nil _
  | cons v vs ih =>
    simp only [byteBuf, List.mapM_cons] at h
    obtain ⟨bytes, hbytes⟩ := Option.isSome_iff_exists.mp h
    obtain ⟨b, hb, hrest⟩ := Option.bind_eq_some_iff.mp hbytes
    obtain ⟨bs, hbs, -⟩ := Option.bind_eq_some_iff.mp hrest
    obtain ⟨i, hi, -⟩ := Option.map_eq_some_iff.mp hb
    refine List.forall_mem_cons.mpr ⟨?_, ih (Option.isSome_iff_exists.mpr ⟨bs, hbs⟩)⟩
    cases v with
    | int i => rfl
    | _ => cases hi

/-- What is an array of pairs is an array. -/
theorem isSome_of_wirePairs {vs : List Value} (h : (wirePairs vs).isSome = true) :
    ∀ v ∈ vs, (wireValue v).isSome = true := by
  induction vs with
  | nil => exact List.forall_mem_nil _
  | cons pair vs ih =>
    rw [wirePairs.eq_def] at h
    split at h
    · rename_i heq
      cases heq
    · rename_i k v vs' heq
      cases heq
      obtain ⟨ps, hps⟩ := Option.isSome_iff_exists.mp h
      obtain ⟨name, hname, hrest⟩ := Option.bind_eq_some_iff.mp hps
      obtain ⟨w, hw, hrest⟩ := Option.bind_eq_some_iff.mp hrest
      obtain ⟨ws, hws, -⟩ := Option.bind_eq_some_iff.mp hrest
      refine List.forall_mem_cons.mpr ⟨?_, ih (Option.isSome_iff_exists.mpr ⟨ws, hws⟩)⟩
      have hpair : (wireValues [k, v]).isSome = true := by
        refine isSome_wireValues.mpr (List.forall_mem_cons.mpr ⟨?_, List.forall_mem_cons.mpr
          ⟨?_, List.forall_mem_nil _⟩⟩)
        · exact isSome_wireValue_of_string (Option.isSome_iff_exists.mpr ⟨name, hname⟩)
        · exact Option.isSome_iff_exists.mpr ⟨w, hw⟩
      simp [wireValue, hpair]
    · cases h

/-- **A value is read iff it has no map and no extension.** -/
theorem isSome_wireValue (v : Value) (h : v.everywhere integerNode = true) :
    (wireValue v).isSome = v.everywhere plainNode := by
  induction v using Value.treeInduction with
  | nil => rfl
  | bool b => rfl
  | int i => exact isSome_wireValue_int (of_decide_eq_true h)
  | float x => rfl
  | str s => rfl
  | bin bs => exact isSome_wireValue_bin bs
  | array vs ih =>
    have hsome : (wireValue (.array vs)).isSome = true ↔ (byteBuf (.array vs)).isSome = true ∨
        (wireValues vs).isSome = true ∨ (wirePairs vs).isSome = true := by
      simp [wireValue, scalar, unit, bool, float, integer, string]
    have helems : ∀ v ∈ vs, ((wireValue v).isSome = true ↔ v.everywhere plainNode = true) :=
      fun v hv => Bool.eq_iff_iff.mp (ih v hv ((everywhere_array.mp h).2 v hv))
    have hplain : (Value.array vs).everywhere plainNode = true ↔
        ∀ v ∈ vs, v.everywhere plainNode = true := everywhere_array.trans (and_iff_right rfl)
    rw [Bool.eq_iff_iff, hsome, hplain]
    constructor
    · rintro (hbytes | hvalues | hpairs)
      · exact plain_of_byteBuf hbytes
      · exact fun v hv => (helems v hv).mp (isSome_wireValues.mp hvalues v hv)
      · exact fun v hv => (helems v hv).mp (isSome_of_wirePairs hpairs v hv)
    · exact fun hall => Or.inr (Or.inl (isSome_wireValues.mpr fun v hv =>
        (helems v hv).mpr (hall v hv)))
  | map kvs => rfl
  | ext type data => rfl

/-! ### Portable values -/

theorem portable_array {vs : List Value} :
    (Value.array vs).portable = true ↔ ∀ v ∈ vs, v.portable = true := by
  show portableAll vs = true ↔ _
  induction vs with
  | nil => simp [portableAll]
  | cons v vs ih => rw [portableAll, Bool.and_eq_true, ih, List.forall_mem_cons]

theorem mapFree_array {vs : List Value} :
    (Value.array vs).mapFree = true ↔ ∀ v ∈ vs, v.mapFree = true := by
  show mapFreeAll vs = true ↔ _
  induction vs with
  | nil => simp [mapFreeAll]
  | cons v vs ih => rw [mapFreeAll, Bool.and_eq_true, ih, List.forall_mem_cons]

/-- The entries of a portable map are portable. -/
theorem portable_of_mem {kvs : List (Value × Value)} (h : (Value.map kvs).portable = true)
    {kv : Value × Value} (hkv : kv ∈ kvs) : kv.1.portable = true ∧ kv.2.portable = true := by
  have hall : portableEntries kvs = true := h
  clear h
  induction kvs with
  | nil => cases hkv
  | cons kv' kvs ih =>
    obtain ⟨k, v⟩ := kv'
    cases k with
    | str s =>
      obtain ⟨hv, hkvs⟩ := Bool.and_eq_true_iff.mp hall
      rcases List.mem_cons.mp hkv with rfl | hkv
      · exact ⟨rfl, hv⟩
      · exact ih hkv hkvs
    | _ => cases hall

theorem integer_of_portable (v : Value) (h : v.portable = true) :
    v.everywhere integerNode = true := by
  induction v using Value.treeInduction with
  | int i =>
    have hi : -2 ^ 63 ≤ i ∧ i < 2 ^ 63 := of_decide_eq_true h
    exact decide_eq_true (by omega)
  | array vs ih =>
    exact everywhere_array.mpr ⟨rfl, fun v hv => ih v hv (portable_array.mp h v hv)⟩
  | map kvs ih =>
    refine everywhere_map.mpr ⟨rfl, fun kv hkv => ?_⟩
    obtain ⟨hk, hv⟩ := portable_of_mem h hkv
    exact ⟨(ih kv hkv).1 hk, (ih kv hkv).2 hv⟩
  | _ => rfl

/-- A portable value has no extension. -/
theorem plain_of_portable (v : Value) (h : v.portable = true) :
    v.everywhere plainNode = v.mapFree := by
  induction v using Value.treeInduction with
  | array vs ih =>
    rw [Bool.eq_iff_iff, everywhere_array, mapFree_array]
    refine (and_iff_right rfl).trans (forall₂_congr fun v hv => ?_)
    exact Bool.eq_iff_iff.mp (ih v hv (portable_array.mp h v hv))
  | ext type data => cases h
  | _ => rfl

/-! ### The body of an error -/

/-- A map with strings for `code`, `message` and `kind`, a string or nil for `stack`, and a portable
value for `details`; the last two may be absent, which is as if they were nil. -/
structure IsErrorBody (kvs : List (String × Value)) (code message kind : String)
    (stack : Option String) (details : Value) : Prop where
  nodup : (kvs.map Prod.fst).Nodup
  code_eq : kvs.lookup "code" = some (.str code)
  message_eq : kvs.lookup "message" = some (.str message)
  kind_eq : kvs.lookup "kind" = some (.str kind)
  stack_eq : (kvs.lookup "stack").getD .nil = stack.elim .nil .str
  details_eq : (kvs.lookup "details").getD .nil = details
  portable : details.portable

/-- The fields of a map from strings. -/
def fieldsOf (kvs : List (String × Value)) : List (ErrorField × Value) :=
  kvs.map fun kv => (ErrorField.ofName kv.1, kv.2)

theorem mapM_errorField (kvs : List (String × Value)) :
    (kvs.map fun kv => (Value.str kv.1, kv.2)).mapM
        (fun kv => (errorField kv.1).map fun field => (field, kv.2)) =
      .ok (fieldsOf kvs) := by
  induction kvs with
  | nil => rfl
  | cons kv kvs ih =>
    rw [List.map_cons, List.mapM_cons, ih]
    rfl

theorem ofName_eq_iff {field : ErrorField} (h : field ≠ .ignore) (k : String) :
    ErrorField.ofName k = field ↔ k = field.name := by
  constructor
  · intro hk
    subst hk
    unfold ErrorField.ofName at h ⊢
    split at h
    · rfl
    · rfl
    · rfl
    · rfl
    · rfl
    · exact absurd rfl h
  · intro hk
    subst hk
    cases field with
    | ignore => exact absurd rfl h
    | _ => rfl

/-- A field holds what is stored under its name. -/
theorem valuesOf_map {kvs : List (String × Value)} (hnodup : (kvs.map Prod.fst).Nodup)
    {field : ErrorField} (hfield : field ≠ .ignore) :
    valuesOf field (fieldsOf kvs) = (kvs.lookup field.name).toList := by
  induction kvs with
  | nil => rfl
  | cons kv kvs ih =>
    obtain ⟨k, v⟩ := kv
    obtain ⟨hnotMem, hnodup⟩ := List.nodup_cons.mp hnodup
    have ih := ih hnodup
    have hname := ofName_eq_iff hfield k
    unfold valuesOf fieldsOf at ih ⊢
    rw [List.map_cons, List.filterMap_cons, ih, Entries.lookup_cons]
    by_cases hk : k = field.name
    · rw [if_pos (hname.mpr hk), if_pos hk.symm, Entries.lookup_eq_none (hk ▸ hnotMem)]
      rfl
    · rw [if_neg (fun h => hk (hname.mp h)), if_neg fun h => hk h.symm]

section

variable {α : Type} {kvs : List (String × Value)} (hnodup : (kvs.map Prod.fst).Nodup)
  (field : ErrorField) (hfield : field ≠ .ignore)

include hnodup hfield

theorem required_map (read : Value → Except String α) {v : Value}
    (hv : kvs.lookup field.name = some v) :
    required field read (fieldsOf kvs) = read v := by
  unfold required
  rw [valuesOf_map hnodup hfield, hv]
  rfl

/-- A field that is absent is read as nil, where nil stands for the default. -/
theorem optional_map (read : Value → Except String (Option α)) (hnil : read .nil = .ok none) :
    (optional field read (fieldsOf kvs)).map (·.getD none) =
      read ((kvs.lookup field.name).getD .nil) := by
  unfold optional
  rw [valuesOf_map hnodup hfield]
  cases kvs.lookup field.name with
  | none => exact hnil.symm
  | some v =>
    show ((read v).map some).map _ = read v
    cases read v <;> rfl

end

theorem optionString_elim (stack : Option String) :
    optionString (stack.elim .nil .str) = .ok stack := by
  cases stack <;> rfl

/-- A map with strings for `code`, `message` and `kind`. -/
structure IsErrorMap (kvs : List (String × Value)) (code message kind : String) : Prop where
  nodup : (kvs.map Prod.fst).Nodup
  code_eq : kvs.lookup "code" = some (.str code)
  message_eq : kvs.lookup "message" = some (.str message)
  kind_eq : kvs.lookup "kind" = some (.str kind)

theorem IsErrorBody.isErrorMap {kvs : List (String × Value)} {code message kind : String}
    {stack : Option String} {details : Value}
    (h : IsErrorBody kvs code message kind stack details) : IsErrorMap kvs code message kind :=
  ⟨h.nodup, h.code_eq, h.message_eq, h.kind_eq⟩

/-- Such a map is read iff its stack and its details are; what is absent is as if it were nil. -/
theorem errorBody_ofEntries {kvs : List (String × Value)} {code message kind : String}
    (h : IsErrorMap kvs code message kind) :
    errorBody (.ofEntries kvs) =
      (optionString ((kvs.lookup "stack").getD .nil)).bind fun stack =>
        (optionWireValue ((kvs.lookup "details").getD .nil)).map fun details =>
          ⟨code, message, kind, stack, details⟩ := by
  have hcode := required_map h.nodup .code (by decide) requireString h.code_eq
  have hmessage := required_map h.nodup .message (by decide) requireString h.message_eq
  have hkind := required_map h.nodup .kind (by decide) requireString h.kind_eq
  have hstack := optional_map h.nodup .stack (by decide) optionString rfl
  have hdetails := optional_map h.nodup .details (by decide) optionWireValue rfl
  rw [show ErrorField.stack.name = "stack" from rfl] at hstack
  rw [show ErrorField.details.name = "details" from rfl] at hdetails
  show visitMap (kvs.map fun kv => (Value.str kv.1, kv.2)) = _
  unfold visitMap
  rw [mapM_errorField, ← hstack, ← hdetails]
  -- the three required fields, then the two that have a default
  show (required .code requireString (fieldsOf kvs)).bind _ = _
  rw [hcode]
  show (required .message requireString (fieldsOf kvs)).bind _ = _
  rw [hmessage]
  show (required .kind requireString (fieldsOf kvs)).bind _ = _
  rw [hkind]
  cases optional .stack optionString (fieldsOf kvs) with
  | error e => rfl
  | ok s => cases optional .details optionWireValue (fieldsOf kvs) <;> rfl

theorem exists_optionWireValue {v : Value} (h : v.everywhere integerNode = true) :
    (∃ d, optionWireValue v = .ok d) ↔ v.everywhere plainNode = true := by
  have hsome := isSome_wireValue v h
  unfold optionWireValue
  split
  · exact ⟨fun _ => rfl, fun _ => ⟨_, rfl⟩⟩
  · rw [← hsome]
    cases wireValue v with
    | none => simp
    | some w => simp

theorem decodeErrorBody_of_isErrorMap {read : Bytes → Except String Value} {bytes : Bytes}
    {kvs : List (String × Value)} {code message kind : String}
    (h : IsErrorMap kvs code message kind) (hread : read bytes = .ok (.ofEntries kvs)) :
    decodeErrorBody read bytes =
      ((optionString ((kvs.lookup "stack").getD .nil)).bind fun stack =>
        (optionWireValue ((kvs.lookup "details").getD .nil)).map fun details =>
          (⟨code, message, kind, stack, details⟩ : ErrorBody)).mapError .malformedFrame := by
  unfold decodeErrorBody
  rw [hread]
  show (errorBody (.ofEntries kvs)).mapError _ = _
  rw [errorBody_ofEntries h]

theorem decodeErrorBody_ofEntries {read : Bytes → Except String Value} {bytes : Bytes}
    {kvs : List (String × Value)} {code message kind : String} {stack : Option String}
    {details : Value} (h : IsErrorBody kvs code message kind stack details)
    (hread : read bytes = .ok (.ofEntries kvs)) :
    decodeErrorBody read bytes = ((optionWireValue details).map fun d =>
      (⟨code, message, kind, stack, d⟩ : ErrorBody)).mapError .malformedFrame := by
  rw [decodeErrorBody_of_isErrorMap h.isErrorMap hread, h.stack_eq, h.details_eq,
    optionString_elim]
  rfl

/-- **The Rust binding reads an error body iff its details have no map.**  What it then reports is
what the service wrote. -/
theorem decodeErrorBody_iff (read : Bytes → Except String Value) (bytes : Bytes)
    {kvs : List (String × Value)} {code message kind : String} {stack : Option String}
    {details : Value} (h : IsErrorBody kvs code message kind stack details)
    (hread : read bytes = .ok (.ofEntries kvs)) :
    (∃ body, decodeErrorBody read bytes = .ok body ∧ body.code = code ∧ body.message = message ∧
      body.kind = kind ∧ body.stack = stack) ↔ details.mapFree := by
  rw [← plain_of_portable details h.portable,
    ← exists_optionWireValue (integer_of_portable details h.portable),
    decodeErrorBody_ofEntries h hread]
  cases optionWireValue details with
  | error e =>
    constructor
    · rintro ⟨_, hbody, -⟩
      cases hbody
    · rintro ⟨_, hd⟩
      cases hd
  | ok d => exact ⟨fun _ => ⟨d, rfl⟩, fun _ => ⟨_, rfl, rfl, rfl, rfl, rfl⟩⟩

/-- What a service sends for an exception `ValueError("boom")`, with the type of the exception as
its details, as the Python binding does. -/
def valueErrorEntries (details : Value) : List (String × Value) :=
  [("code", .str "application_error"), ("message", .str "boom"), ("kind", .str "application"),
    ("stack", .str "Traceback"), ("details", details)]

theorem isErrorBody_valueErrorEntries {details : Value} (h : details.portable) :
    IsErrorBody (valueErrorEntries details) "application_error" "boom" "application"
      (some "Traceback") details where
  nodup := by
    show ["code", "message", "kind", "stack", "details"].Nodup
    decide
  code_eq := rfl
  message_eq := rfl
  kind_eq := rfl
  stack_eq := rfl
  details_eq := rfl
  portable := h

/-- A msgpack reader, at one document. -/
def readDocument (v : Value) (bytes : Bytes) : Except String Value :=
  if bytes = encode v then .ok v else .error "another document"

/-- Details that name the type of the exception make the body unreadable. -/
theorem decodeErrorBody_of_map :
    let details : Value := .ofEntries [("type", .str "ValueError")]
    let v : Value := .ofEntries (valueErrorEntries details)
    IsErrorBody (valueErrorEntries details) "application_error" "boom" "application"
      (some "Traceback") details ∧
    readDocument v (encode v) = .ok v ∧
    ¬ ∃ body, decodeErrorBody (readDocument v) (encode v) = .ok body := by
  intro details v
  have hread : readDocument v (encode v) = .ok v := if_pos rfl
  refine ⟨isErrorBody_valueErrorEntries rfl, hread, ?_⟩
  rintro ⟨body, hbody⟩
  unfold decodeErrorBody at hbody
  rw [hread] at hbody
  cases hbody

/-- With an array for the details, the body is read. -/
theorem decodeErrorBody_of_array :
    let details : Value := .array [.str "ValueError", .int 3]
    let v : Value := .ofEntries (valueErrorEntries details)
    ∃ body, decodeErrorBody (readDocument v) (encode v) = .ok body ∧
      body.code = "application_error" ∧ body.message = "boom" ∧ body.kind = "application" ∧
      body.stack = some "Traceback" := by
  intro details v
  exact (decodeErrorBody_iff (readDocument v) (encode v) (isErrorBody_valueErrorEntries rfl)
    (if_pos rfl)).mpr rfl

end Multifrost.Rust
