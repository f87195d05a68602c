import Multifrost.Rust.CallBody
import Multifrost.Rust.Safety.WireValue

/-!
# Which arguments a Rust service accepts and echoes

The arguments of a call are values of `serde_json`, which has no bytes.  A value of the safe subset
goes through `serde_json::Value` and comes out as it was, the keys of its maps sorted, exactly if there
is no binary data anywhere in it (`jsonEcho`).  So the body of a call decodes, with arguments that are
echoed as they came, if and only if none of them has binary data in it; otherwise the call is answered
as malformed.
-/

namespace Multifrost.Rust

open MsgPack (Echo Value echoEntries)
open Router (FrameParts RmpSerde)
open Service (CallBody CallSerde Environment World decodeCallBody encodeResponseBody
  handleCallFrame sendError)

/-- Not binary data. -/
def notBin : Value → Bool
  | .bin _ => false
  | _ => true

/-- What a service writes of an argument that it has read. -/
def jsonRoundTrip (v : Value) : Option Value := (jsonValue v).toOption.map jsonToValue

/-! ### Maps -/

theorem insertEntry_perm {key : String} (v : JsonValue) {entries : List (String × JsonValue)}
    (h : key ∉ entries.map Prod.fst) : (insertEntry key v entries).Perm ((key, v) :: entries) := by
  induction entries with
  | nil => exact .refl _
  | cons entry entries ih =>
    rw [List.map_cons, List.mem_cons, not_or] at h
    rw [insertEntry]
    split_ifs with hlt heq
    · exact .refl _
    · exact absurd heq h.1
    · exact ((ih h.2).cons entry).trans (.swap _ _ _)

/-- The entries of a map from strings, with their values read. -/
def readEntries (es : List (String × Value)) : Option (List (String × JsonValue)) :=
  es.mapM fun e => (jsonValue e.2).toOption.map fun v => (e.1, v)

theorem readEntries_cons (e : String × Value) (es : List (String × Value)) :
    readEntries (e :: es) = (jsonValue e.2).toOption.bind fun v =>
      (readEntries es).map fun ps => (e.1, v) :: ps :=
  MsgPack.mapM_cons_map e

theorem jsonEntries_eq (es : List (String × Value)) (entries : List (String × JsonValue)) :
    (jsonEntries entries (es.map fun e => (.str e.1, e.2))).toOption =
      (readEntries es).map fun ps =>
        ps.foldl (fun entries p => insertEntry p.1 p.2 entries) entries := by
  induction es generalizing entries with
  | nil => rfl
  | cons e es ih =>
    rw [readEntries_cons, List.map_cons, jsonEntries]
    show ((jsonValue e.2).bind fun v => jsonEntries (insertEntry e.1 v entries)
      (es.map fun e => (.str e.1, e.2))).toOption = _
    cases jsonValue e.2 with
    | error err => rfl
    | ok v =>
      show (jsonEntries (insertEntry e.1 v entries)
        (es.map fun e => (.str e.1, e.2))).toOption = _
      rw [ih]
      show _ = ((readEntries es).map fun ps => (e.1, v) :: ps).map _
      cases readEntries es <;> rfl

theorem jsonValue_ofEntries (es : List (String × Value)) :
    (jsonValue (.ofEntries es)).toOption = (readEntries es).map fun ps =>
      .object (ps.foldl (fun entries p => insertEntry p.1 p.2 entries) []) := by
  cases es with
  | nil => rfl
  | cons e es =>
    have hcons : jsonValue (.ofEntries (e :: es)) = (jsonValue e.2).bind fun v =>
        (jsonEntries [(e.1, v)] (es.map fun e => (.str e.1, e.2))).bind fun entries =>
          .ok (JsonValue.object entries) := by
      rw [Value.ofEntries, List.map_cons, jsonValue]
      rfl
    rw [hcons, MsgPack.toOption_bind, readEntries_cons, Option.map_bind]
    refine congrArg (Option.bind _) (funext fun v => ?_)
    rw [MsgPack.toOption_bind, jsonEntries_eq]
    cases readEntries es <;> rfl

theorem jsonToEntries_eq_map (entries : List (String × JsonValue)) :
    jsonToEntries entries = entries.map fun e => (.str e.1, jsonToValue e.2) := by
  induction entries with
  | nil => rfl
  | cons e entries ih => rw [jsonToEntries, ih, List.map_cons]

theorem jsonToValue_object (entries : List (String × JsonValue)) :
    jsonToValue (.object entries) = .ofEntries (entries.map fun e => (e.1, jsonToValue e.2)) := by
  rw [jsonToValue, jsonToEntries_eq_map, Value.ofEntries, List.map_map]
  rfl

theorem echoEntries_eq (es : List (String × Value)) :
    echoEntries jsonRoundTrip es =
      (readEntries es).map fun ps => ps.map fun p => (p.1, jsonToValue p.2) := by
  rw [readEntries, ← MsgPack.mapM_option_map, echoEntries]
  congr 1
  funext e
  rw [jsonRoundTrip, Option.map_map, Option.map_map]
  rfl

theorem keys_readEntries {es : List (String × Value)} {ps : List (String × JsonValue)}
    (h : readEntries es = some ps) : ps.map Prod.fst = es.map Prod.fst :=
  MsgPack.mapM_entries_keys (g := fun v => (jsonValue v).toOption) h

/-- A map from distinct keys comes out with its keys sorted. -/
theorem jsonRoundTrip_ofEntries {es : List (String × Value)} (h : (es.map Prod.fst).Nodup) :
    match echoEntries jsonRoundTrip es with
    | some ls => ∃ ls' : List (String × Value), ls'.Perm ls ∧
        jsonRoundTrip (.ofEntries es) = some (.ofEntries ls')
    | none => jsonRoundTrip (.ofEntries es) = none := by
  rw [echoEntries_eq, jsonRoundTrip, jsonValue_ofEntries]
  cases hread : readEntries es with
  | none => rfl
  | some ps =>
    have hnodup : ((ps ++ []).map Prod.fst).Nodup := by
      rw [List.append_nil, keys_readEntries hread]
      exact h
    have hperm := MsgPack.foldl_insert_perm (fun _ p => insertEntry_perm p.2) hnodup
    rw [List.append_nil] at hperm
    refine ⟨_, hperm.map fun p => (p.1, jsonToValue p.2), ?_⟩
    show some (jsonToValue (.object _)) = _
    rw [jsonToValue_object]

/-! ### The round trip of an argument -/

theorem jsonValues_eq_mapM (vs : List Value) :
    (jsonValues vs).toOption = vs.mapM fun v => (jsonValue v).toOption := by
  induction vs with
  | nil => rfl
  | cons v vs ih =>
    rw [List.mapM_cons, ← ih, jsonValues]
    cases jsonValue v with
    | error err => rfl
    | ok v => cases jsonValues vs <;> rfl

theorem jsonToValues_eq_map (js : List JsonValue) : jsonToValues js = js.map jsonToValue := by
  induction js with
  | nil => rfl
  | cons j js ih => rw [jsonToValues, ih, List.map_cons]

theorem jsonRoundTrip_array (vs : List Value) :
    jsonRoundTrip (.array vs) = (vs.mapM jsonRoundTrip).map .array := by
  have hall : vs.mapM jsonRoundTrip = (jsonValues vs).toOption.map (List.map jsonToValue) := by
    rw [jsonValues_eq_mapM]
    exact MsgPack.mapM_option_map
  rw [hall, jsonRoundTrip, jsonValue]
  cases jsonValues vs with
  | error err => rfl
  | ok js =>
    show some (jsonToValue (.array js)) = some (.array (js.map jsonToValue))
    rw [jsonToValue, jsonToValues_eq_map]

theorem jsonRoundTrip_int {i : Int} (h : -2 ^ 63 ≤ i ∧ i < 2 ^ 63) :
    jsonRoundTrip (.int i) = some (.int i) := by
  rw [jsonRoundTrip, jsonValue]
  by_cases hsign : 0 ≤ i
  · rw [if_pos hsign]
    have hfits : (UInt64.ofNat i.toNat).toNat = i.toNat := UInt64.toNat_ofNat_of_lt' (by
      show i.toNat < 2 ^ 64
      omega)
    show some (Value.int ((UInt64.ofNat i.toNat).toNat : Int)) = _
    rw [hfits, Int.toNat_of_nonneg hsign]
  · rw [if_neg hsign]
    show some (Value.int (Int64.ofInt i).toInt) = _
    rw [Int64.toInt_ofInt_of_le h.1 h.2]

/-- **What `serde_json::Value` keeps of a value** is everything but binary data. -/
theorem jsonEcho : Echo (· = ·) notBin jsonRoundTrip where
  leaf v hleaf hsafe := by
    cases v with
    | nil => exact iff_of_true ⟨_, rfl, rfl⟩ rfl
    | bool b => exact iff_of_true ⟨_, rfl, rfl⟩ rfl
    | int i => exact iff_of_true ⟨_, jsonRoundTrip_int (of_decide_eq_true hsafe), rfl⟩ rfl
    | float x =>
      have hfinite : x.isFinite = true := hsafe
      refine iff_of_true ⟨.float x, ?_, rfl⟩ rfl
      rw [jsonRoundTrip, jsonValue, if_pos hfinite]
      rfl
    | str s => exact iff_of_true ⟨_, rfl, rfl⟩ rfl
    | bin bs =>
      refine iff_of_false ?_ Bool.false_ne_true
      rintro ⟨w, hw, -⟩
      cases hw
    | array vs => cases hleaf
    | map kvs => cases hleaf
    | ext type data => cases hsafe
  array := jsonRoundTrip_array
  ok_array _ := rfl
  ok_str _ := rfl
  map es hnodup _ := jsonRoundTrip_ofEntries hnodup
  not_map _ _ h := by cases h

/-- What is read at all has no binary data in it. -/
theorem notBin_of_jsonRoundTrip (v : Value) (hsafe : v.safe = true)
    (h : (jsonRoundTrip v).isSome = true) : v.everywhere notBin = true := by
  revert h
  refine Value.safeInduction ?_ ?_ ?_ v hsafe
  · intro v hleaf _ h
    rw [MsgPack.everywhere_of_isLeaf hleaf]
    cases v with
    | bin bs => cases h
    | _ => rfl
  · intro vs ih h
    rw [jsonRoundTrip_array, Option.isSome_map] at h
    obtain ⟨ws, hws⟩ := Option.isSome_iff_exists.mp h
    refine MsgPack.everywhere_array.mpr ⟨rfl, fun v hv => (ih v hv).2 ?_⟩
    obtain ⟨w, hw⟩ := MsgPack.exists_mapM_eq_some.mp ⟨ws, hws⟩ v hv
    exact Option.isSome_iff_exists.mpr ⟨w, hw⟩
  · intro es _ ih h
    rw [jsonRoundTrip, jsonValue_ofEntries, Option.isSome_map, Option.isSome_map] at h
    obtain ⟨ps, hps⟩ := Option.isSome_iff_exists.mp h
    refine (MsgPack.everywhere_ofEntries fun _ => rfl).mpr ⟨rfl, fun e he => (ih e he).2 ?_⟩
    obtain ⟨p, hp⟩ := MsgPack.exists_mapM_eq_some.mp ⟨ps, hps⟩ e he
    obtain ⟨j, hj, -⟩ := Option.map_eq_some_iff.mp hp
    exact Option.isSome_iff_exists.mpr ⟨_, by rw [jsonRoundTrip, hj]; rfl⟩

/-! ### The body of a call -/

/-- A map with a string for `function`, an array of safe values for `args`, and a string or nil for
`namespace`, which may be absent.  Other keys are allowed. -/
structure IsCallBody (kvs : List (String × Value)) (function : String) (args : List Value)
    (callNamespace : Option String) : Prop where
  nodup : (kvs.map Prod.fst).Nodup
  function_eq : kvs.lookup "function" = some (.str function)
  args_eq : kvs.lookup "args" = some (.array args)
  namespace_eq : (kvs.lookup "namespace").getD .nil = callNamespace.elim .nil .str
  safe : ∀ v ∈ args, v.safe = true

section Fields

variable {names : List String} {kvs : List (String × Value)}

/-- The keys that name fields, with what is stored under them. -/
def fieldsIn (names : List String) (kvs : List (String × Value)) : List (Option String × Value) :=
  kvs.map fun kv => ((some kv.1).filter (· ∈ names), kv.2)

theorem fieldValues_map (kvs : List (String × Value)) :
    fieldValues names (kvs.map fun kv => (.str kv.1, kv.2)) = .ok (fieldsIn names kvs) := by
  induction kvs with
  | nil => rfl
  | cons kv kvs ih =>
    rw [fieldValues] at ih ⊢
    rw [List.map_cons, List.mapM_cons, ih]
    rfl

theorem valuesUnder_fieldsIn (hnodup : (kvs.map Prod.fst).Nodup) {name : String}
    (hname : name ∈ names) :
    valuesUnder name (fieldsIn names kvs) = (kvs.lookup name).toList := by
  induction kvs with
  | nil => rfl
  | cons kv kvs ih =>
    obtain ⟨hnotMem, hnodup⟩ := List.nodup_cons.mp hnodup
    have ih := ih hnodup
    rw [valuesUnder, fieldsIn] at ih ⊢
    obtain ⟨key, v⟩ := kv
    rw [List.map_cons, List.filterMap_cons, ih, Entries.lookup_cons]
    by_cases hkey : name = key
    · subst hkey
      have hfield : (some name).filter (· ∈ names) = some name := by
        rw [Option.filter_some, if_pos (decide_eq_true hname)]
      simp only [hfield, if_true]
      rw [Entries.lookup_eq_none hnotMem]
      rfl
    · have hfield : (some key).filter (· ∈ names) ≠ some name := by
        rw [Option.filter_some]
        split_ifs with h
        · exact fun heq => hkey (Option.some.inj heq).symm
        · exact nofun
      simp only [hfield, hkey, if_false]

theorem requiredField_fieldsIn (hnodup : (kvs.map Prod.fst).Nodup) {name : String}
    (hname : name ∈ names) {α : Type} (read : Value → Except String α) {v : Value}
    (hv : kvs.lookup name = some v) : requiredField name read (fieldsIn names kvs) = read v := by
  rw [requiredField, valuesUnder_fieldsIn hnodup hname, hv]
  rfl

theorem optionalField_fieldsIn (hnodup : (kvs.map Prod.fst).Nodup) {name : String}
    (hname : name ∈ names) {α : Type} (read : Value → Except String α) :
    optionalField name read (fieldsIn names kvs) =
      match kvs.lookup name with
      | none => .ok none
      | some v => (read v).map some := by
  rw [optionalField, valuesUnder_fieldsIn hnodup hname]
  cases kvs.lookup name <;> rfl

end Fields

section Decode

variable {kvs : List (String × Value)} {function : String} {args : List Value}
  {callNamespace : Option String}

/-- The namespace of the call, which is `None` where it is absent or nil. -/
theorem namespace_fieldsIn (h : IsCallBody kvs function args callNamespace) :
    (optionalField "namespace" optionString
      (fieldsIn ["function", "args", "namespace"] kvs)).map (·.getD none) =
        .ok callNamespace := by
  have hns := h.namespace_eq
  rw [optionalField_fieldsIn h.nodup (by simp)]
  cases hlookup : kvs.lookup "namespace" with
  | none =>
    rw [hlookup] at hns
    cases callNamespace with
    | none => rfl
    | some ns => cases hns
  | some v =>
    rw [hlookup] at hns
    have hv : v = callNamespace.elim .nil .str := hns
    rw [hv]
    cases callNamespace <;> rfl

/-- Such a body is read if its arguments are. -/
theorem callBody_ofEntries (h : IsCallBody kvs function args callNamespace) :
    callBody (.ofEntries kvs) =
      (jsonValues args).map fun js => ⟨function, js, callNamespace⟩ := by
  have hfunction : requiredField "function" requireString
      (fieldsIn ["function", "args", "namespace"] kvs) = .ok function :=
    requiredField_fieldsIn h.nodup (by simp) requireString h.function_eq
  have hargs : optionalField "args" requireArgs (fieldsIn ["function", "args", "namespace"] kvs) =
      match kvs.lookup "args" with
      | none => .ok none
      | some v => (requireArgs v).map some :=
    optionalField_fieldsIn h.nodup (by simp) requireArgs
  have hns := namespace_fieldsIn h
  rw [h.args_eq] at hargs
  show callBodyOfMap (kvs.map fun kv => (Value.str kv.1, kv.2)) = _
  rw [callBodyOfMap, fieldValues_map]
  show (requiredField "function" requireString _).bind _ = _
  rw [hfunction]
  show (optionalField "args" requireArgs _).bind _ = _
  rw [hargs]
  show ((jsonValues args).map some).bind _ = _
  cases jsonValues args with
  | error err => rfl
  | ok js =>
    show (optionalField "namespace" optionString _).bind _ = _
    cases hopt : optionalField "namespace" optionString
        (fieldsIn ["function", "args", "namespace"] kvs) with
    | error err =>
      rw [hopt] at hns
      cases hns
    | ok ns =>
      rw [hopt] at hns
      obtain rfl := Except.ok.inj hns
      rfl

end Decode

/-! ### Echoes -/

/-- The body of a response with `j` as its result is the map from `result` to something that denotes
`v`. -/
def Echoes (read : Bytes → Except String Value) (v : Value) (j : JsonValue) : Prop :=
  ∃ w, v.Agrees (· = ·) w ∧ ∀ write, encodeResponseBody (callSerde read write) ⟨j⟩ =
    (write (.ofEntries [("result", w)])).mapError .serializeError

theorem echoes_of_agrees {read : Bytes → Except String Value} {v : Value} {j : JsonValue}
    (h : v.Agrees (· = ·) (jsonToValue j)) : Echoes read v j :=
  ⟨_, h, fun _ => rfl⟩

/-- The arguments are read, and each as something that is written as it was, exactly if none of them
has binary data in it. -/
theorem jsonValues_agree_iff {args : List Value} (hsafe : ∀ v ∈ args, v.safe = true) :
    (∃ js, jsonValues args = .ok js ∧
      List.Forall₂ (fun v j => v.Agrees (· = ·) (jsonToValue j)) args js) ↔
      ∀ v ∈ args, v.everywhere notBin = true := by
  have hone : ∀ v ∈ args, (∃ j, (jsonValue v).toOption = some j ∧
      v.Agrees (· = ·) (jsonToValue j)) ↔ v.everywhere notBin = true := by
    intro v hv
    rw [← jsonEcho.agrees_iff (hsafe v hv)]
    simp only [jsonRoundTrip, Option.map_eq_some_iff]
    constructor
    · rintro ⟨j, hj, hagrees⟩
      exact ⟨_, ⟨j, hj, rfl⟩, hagrees⟩
    · rintro ⟨_, ⟨j, hj, rfl⟩, hagrees⟩
      exact ⟨j, hj, hagrees⟩
  rw [← forall₂_congr hone, ← MsgPack.exists_mapM_iff, ← jsonValues_eq_mapM]
  cases jsonValues args <;> simp [Except.toOption]

theorem notBin_of_jsonValues {args : List Value} (hsafe : ∀ v ∈ args, v.safe = true)
    {js : List JsonValue} (h : jsonValues args = .ok js) :
    ∀ v ∈ args, v.everywhere notBin = true := by
  have hmapM : args.mapM (fun v => (jsonValue v).toOption) = some js := by
    rw [← jsonValues_eq_mapM, h]
    rfl
  intro v hv
  obtain ⟨j, hj⟩ := MsgPack.exists_mapM_eq_some.mp ⟨js, hmapM⟩ v hv
  exact notBin_of_jsonRoundTrip v (hsafe v hv)
    (Option.isSome_iff_exists.mpr ⟨_, by rw [jsonRoundTrip, hj]; rfl⟩)

/-- Without an error in the arguments there is none in the body. -/
theorem decodeCallBody_ofEntries {read : Bytes → Except String Value}
    {write : Value → Except String Bytes} {bytes : Bytes} {kvs : List (String × Value)}
    {function : String} {args : List Value} {callNamespace : Option String}
    (h : IsCallBody kvs function args callNamespace) (hread : read bytes = .ok (.ofEntries kvs)) :
    decodeCallBody (callSerde read write) bytes =
      ((jsonValues args).map fun js => (⟨function, js, callNamespace⟩ : CallBody JsonValue)).mapError
        ("Malformed frame: " ++ ·) := by
  rw [← callBody_ofEntries h]
  show ((read bytes).bind callBody).mapError _ = _
  rw [hread]
  rfl

theorem handleCallFrame_of_error {ω : Type} {m : RmpSerde} {c : CallSerde JsonValue}
    {env : Environment JsonValue ω} {peerId : String} {frame : FrameParts} {w : World ω}
    {text : String} (h : decodeCallBody c frame.bodyBytes = .error text) :
    handleCallFrame m c env peerId frame w =
      sendError m c env peerId frame.envelope.fromPeer frame.envelope.msgId "malformed_call"
        "protocol" text none w := by
  rw [handleCallFrame, h]

/-- **Which arguments a Rust service accepts and echoes.**  The body of a call with safe arguments
decodes, and every one of the arguments is written as it came in the body of a response, if and only
if no argument has binary data in it.  Otherwise the call is answered as malformed. -/
theorem decodeCallBody_echoes_iff {ω : Type} (read : Bytes → Except String Value)
    (write : Value → Except String Bytes) (bytes : Bytes) {kvs : List (String × Value)}
    {function : String} {args : List Value} {callNamespace : Option String}
    (h : IsCallBody kvs function args callNamespace) (hread : read bytes = .ok (.ofEntries kvs)) :
    ((∃ js, decodeCallBody (callSerde read write) bytes = .ok ⟨function, js, callNamespace⟩ ∧
        List.Forall₂ (Echoes read) args js) ↔ ∀ v ∈ args, v.everywhere notBin = true) ∧
    ((¬ ∀ v ∈ args, v.everywhere notBin = true) →
      ∀ (m : RmpSerde) (env : Environment JsonValue ω) (peerId : String) (frame : FrameParts)
        (w : World ω), frame.bodyBytes = bytes →
        ∃ text, handleCallFrame m (callSerde read write) env peerId frame w =
          sendError m (callSerde read write) env peerId frame.envelope.fromPeer
            frame.envelope.msgId "malformed_call" "protocol" text none w) := by
  have hdecode : decodeCallBody (callSerde read write) bytes = _ := decodeCallBody_ofEntries h hread
  refine ⟨⟨?_, ?_⟩, ?_⟩
  · rintro ⟨js, hjs, -⟩
    rw [hdecode] at hjs
    cases hargs : jsonValues args with
    | error err =>
      rw [hargs] at hjs
      cases hjs
    | ok js => exact notBin_of_jsonValues h.safe hargs
  · intro hbin
    obtain ⟨js, hjs, hagree⟩ := (jsonValues_agree_iff h.safe).mpr hbin
    refine ⟨js, ?_, hagree.imp fun v j => echoes_of_agrees⟩
    rw [hdecode, hjs]
    rfl
  · intro hbin m env peerId frame w hframe
    subst hframe
    cases hargs : jsonValues args with
    | error err =>
      rw [hargs] at hdecode
      exact ⟨_, handleCallFrame_of_error hdecode⟩
    | ok js => exact absurd (notBin_of_jsonValues h.safe hargs) hbin

section Sample

/-- The body of a call of `echo` with one argument. -/
def echoCall (v : Value) : List (String × Value) :=
  [("function", .str "echo"), ("args", .array [v])]

theorem isCallBody_echoCall {v : Value} (h : v.safe = true) :
    IsCallBody (echoCall v) "echo" [v] none where
  nodup := by
    show ["function", "args"].Nodup
    decide
  function_eq := rfl
  args_eq := rfl
  namespace_eq := rfl
  safe := by
    intro w hw
    rw [List.mem_singleton.mp hw]
    exact h

theorem readMsgPack_echoCall {v : Value} (h : (Value.ofEntries (echoCall v)).encodable = true) :
    readMsgPack (MsgPack.encode (.ofEntries (echoCall v))) = .ok (.ofEntries (echoCall v)) := by
  rw [readMsgPack, MsgPack.fromSlice_encode h]

/-- Two bytes of binary data as the argument: the call is malformed. -/
theorem decodeCallBody_of_bin :
    let kvs := echoCall (.bin [1, 2])
    let bytes := MsgPack.encode (.ofEntries kvs)
    IsCallBody kvs "echo" [.bin [1, 2]] none ∧ readMsgPack bytes = .ok (.ofEntries kvs) ∧
      ¬ ∃ body, decodeCallBody (callSerde readMsgPack writeMsgPack) bytes = .ok body := by
  intro kvs bytes
  have hbody : IsCallBody kvs "echo" [.bin [1, 2]] none := isCallBody_echoCall rfl
  have hread : readMsgPack bytes = .ok (.ofEntries kvs) := readMsgPack_echoCall (by decide)
  refine ⟨hbody, hread, ?_⟩
  rintro ⟨body, h⟩
  rw [decodeCallBody_ofEntries hbody hread] at h
  cases h

/-- A map whose keys are not sorted is echoed. -/
theorem decodeCallBody_echoes_of_map :
    let v : Value := .ofEntries [("b", .int (-1)), ("a", .array [.float .one, .nil])]
    let bytes := MsgPack.encode (.ofEntries (echoCall v))
    ∃ js, decodeCallBody (callSerde readMsgPack writeMsgPack) bytes = .ok ⟨"echo", js, none⟩ ∧
      List.Forall₂ (Echoes readMsgPack) [v] js := by
  intro v bytes
  have hread := readMsgPack_echoCall (v := v) (by decide)
  have hiff := (decodeCallBody_echoes_iff (ω := Unit) readMsgPack writeMsgPack bytes
    (isCallBody_echoCall (v := v) (by decide)) hread).1
  refine hiff.mpr fun w hw => ?_
  rw [List.mem_singleton.mp hw]
  decide

end Sample

end Multifrost.Rust
