import Multifrost.Lib.MsgPack.RoundTrip
import Multifrost.Php.Service

/-!
# Which values a PHP service echoes with their types

A value goes through the types of the language and back.  What it was on the wire is guessed from its
contents, and three kinds of nodes come back as something else: binary data that is UTF-8 as a string,
the empty map as the empty array, and a map with a key that spells an integer as an array or as a map
with an integer for a key.  Every other value comes back as it was (`phpEcho`), and so does the first
argument of a call to a service that returns it (`handleServiceCall_echo_iff`).
-/

namespace Multifrost.Php.Service

open MsgPack (Echo Value echoEntries)
open Router (Envelope FrameParts)

/-- The node comes back as what it was. -/
def keepsType : Value → Bool
  | .bin bs => (String.fromUTF8? ⟨bs.toArray⟩).isNone
  | .map kvs => !kvs.isEmpty && kvs.all fun kv =>
    match kv.1 with
    | .str s => (intKey (literal s)).isNone
    | _ => true
  | _ => true

/-- What the codec makes of a value that it reads and writes again. -/
def phpRoundTrip (v : Value) : Option Value := (ofValue v).toOption.map toValue

theorem phpRoundTrip_of_ofValue {v : Value} {value : PhpValue} (h : ofValue v = .ok value) :
    phpRoundTrip v = some (toValue value) := by
  rw [phpRoundTrip, h]
  rfl

/-! ### Strings and keys -/

theorem ofString_literal (s : String) : ofString (literal s) = .str s := by
  rw [ofString, literal, MsgPack.fromUTF8_toUTF8]

theorem literal_injective {s t : String} (h : literal s = literal t) : s = t := by
  have hstr : Value.str s = .str t := by
    rw [← ofString_literal, h, ofString_literal]
  exact Value.str.inj hstr

/-- Only the bytes of a string are taken for it. -/
theorem eq_literal_of_ofString {bs : Bytes} {s : String} (h : ofString bs = .str s) :
    bs = literal s := by
  unfold ofString at h
  split at h
  · rename_i t ht
    obtain rfl := Value.str.inj h
    unfold String.fromUTF8? at ht
    split_ifs at ht with hvalid
    rw [← Option.some.inj ht, literal, String.toUTF8_eq_toByteArray, MsgPack.toList_eq]
    rfl
  · cases h

theorem arrayKey_eq_string_iff {s t : String} (ht : intKey (literal t) = none) :
    arrayKey (literal s) = .string (literal t) ↔ s = t := by
  unfold arrayKey
  constructor
  · intro h
    split at h
    · cases h
    · exact literal_injective (Key.string.inj h)
  · rintro rfl
    rw [ht]

/-! ### Arrays -/

theorem isListFrom_listEntries (vs : List PhpValue) (i : Nat) :
    isListFrom i (listEntries i vs) = true := by
  induction vs generalizing i with
  | nil => rfl
  | cons v vs ih => rw [listEntries, isListFrom, ih, decide_eq_true rfl, Bool.true_and]

theorem toValues_listEntries (vs : List PhpValue) (i : Nat) :
    toValues (listEntries i vs) = vs.map toValue := by
  induction vs generalizing i with
  | nil => rfl
  | cons v vs ih => rw [listEntries, toValues, ih, List.map_cons]

theorem ofValues_eq_mapM (vs : List Value) :
    (ofValues vs).toOption = vs.mapM fun v => (ofValue v).toOption := by
  induction vs with
  | nil => rfl
  | cons v vs ih =>
    rw [List.mapM_cons, ← ih, ofValues]
    cases ofValue v with
    | error err => rfl
    | ok v => cases ofValues vs <;> rfl

theorem phpRoundTrip_array (vs : List Value) :
    phpRoundTrip (.array vs) = (vs.mapM phpRoundTrip).map .array := by
  have hall : vs.mapM phpRoundTrip = (ofValues vs).toOption.map (List.map toValue) := by
    rw [ofValues_eq_mapM]
    exact MsgPack.mapM_option_map
  rw [hall, phpRoundTrip, ofValue]
  cases ofValues vs with
  | error err => rfl
  | ok ws =>
    show some (toValue (.array (listEntries 0 ws))) = some (.array (ws.map toValue))
    rw [toValue, if_pos (isListFrom_listEntries ws 0), toValues_listEntries]

/-! ### Maps -/

/-- The value under a key. -/
def get? (key : Key) (entries : Entries) : Option PhpValue :=
  (entries.find? fun entry => entry.1 = key).map Prod.snd

theorem get?_arraySet (key key' : Key) (value : PhpValue) (entries : Entries) :
    get? key (arraySet key' value entries) = if key' = key then some value else get? key entries := by
  induction entries with
  | nil =>
    rw [arraySet, get?, List.find?_cons]
    by_cases h : key' = key <;> simp [h, get?]
  | cons entry entries ih =>
    rw [get?] at ih ⊢
    rw [arraySet]
    split_ifs with heq hkey hkey
    · rw [List.find?_cons]
      simp [hkey]
    · rw [List.find?_cons, get?, List.find?_cons]
      have hne : ¬ entry.1 = key := fun h => hkey (heq ▸ h)
      simp [hkey, hne]
    · rw [List.find?_cons]
      have hne : ¬ entry.1 = key := fun h => heq (h.trans hkey.symm)
      simp only [hne, decide_false]
      rw [ih, if_pos hkey]
    · rw [List.find?_cons, get?, List.find?_cons]
      by_cases hentry : entry.1 = key
      · simp [hentry]
      · simp only [hentry, decide_false]
        rw [ih, if_neg hkey, get?]

/-- A key that is new goes to the end. -/
theorem arraySet_of_not_mem {key : Key} (value : PhpValue) {entries : Entries}
    (h : key ∉ entries.map Prod.fst) : arraySet key value entries = entries ++ [(key, value)] := by
  induction entries with
  | nil => rfl
  | cons entry entries ih =>
    rw [List.map_cons, List.mem_cons, not_or] at h
    rw [arraySet, if_neg (fun heq => h.1 heq.symm), ih h.2, List.cons_append]

theorem mem_arraySet {key : Key} {value : PhpValue} {entries : Entries} {entry : Key × PhpValue}
    (h : entry ∈ arraySet key value entries) : entry.1 = key ∨ entry ∈ entries := by
  induction entries with
  | nil => exact Or.inl (congrArg Prod.fst (List.mem_singleton.mp h))
  | cons entry' entries ih =>
    rw [arraySet] at h
    split_ifs at h with heq
    · rcases List.mem_cons.mp h with rfl | h
      · exact Or.inl rfl
      · exact Or.inr (List.mem_cons_of_mem _ h)
    · rcases List.mem_cons.mp h with rfl | h
      · exact Or.inr List.mem_cons_self
      · exact (ih h).imp_right (List.mem_cons_of_mem _)

theorem ofEntries_cons (entries : Entries) (e : String × Value) (es : List (String × Value)) :
    ofEntries entries ((e :: es).map fun e => (.str e.1, e.2)) = (ofValue e.2).bind fun v =>
      ofEntries (arraySet (arrayKey (literal e.1)) v entries) (es.map fun e => (.str e.1, e.2)) :=
  rfl

/-- The entries of a map from strings, with their values read. -/
def readEntries (es : List (String × Value)) : Option Entries :=
  es.mapM fun e => (ofValue e.2).toOption.map fun v => (.string (literal e.1), v)

theorem readEntries_cons (e : String × Value) (es : List (String × Value)) :
    readEntries (e :: es) = (ofValue e.2).toOption.bind fun v =>
      (readEntries es).map fun entries => (.string (literal e.1), v) :: entries :=
  MsgPack.mapM_cons_map e

/-- Distinct strings that spell no integers are the keys of the array, in their order. -/
theorem ofEntries_eq {es : List (String × Value)} (hnodup : (es.map Prod.fst).Nodup)
    (hkeys : ∀ e ∈ es, intKey (literal e.1) = none) (entries : Entries)
    (hnew : ∀ e ∈ es, .string (literal e.1) ∉ entries.map Prod.fst) :
    (ofEntries entries (es.map fun e => (.str e.1, e.2))).toOption =
      (readEntries es).map fun read => entries ++ read := by
  induction es generalizing entries with
  | nil =>
    show some entries = some (entries ++ [])
    rw [List.append_nil]
  | cons e es ih =>
    obtain ⟨hkey, hkeys⟩ := List.forall_mem_cons.mp hkeys
    obtain ⟨hfresh, hnew⟩ := List.forall_mem_cons.mp hnew
    rw [List.map_cons, List.nodup_cons] at hnodup
    have harray : arrayKey (literal e.1) = .string (literal e.1) :=
      (arrayKey_eq_string_iff hkey).mpr rfl
    rw [ofEntries_cons, MsgPack.toOption_bind, readEntries_cons, Option.map_bind]
    refine congrArg (Option.bind _) (funext fun v => ?_)
    rw [harray, arraySet_of_not_mem v hfresh, ih hnodup.2 hkeys]
    · cases readEntries es with
      | none => rfl
      | some read =>
        show some (entries ++ [(Key.string (literal e.1), v)] ++ read) = some _
        rw [List.append_assoc]
        rfl
    · intro e' he'
      rw [List.map_append, List.mem_append, not_or]
      refine ⟨hnew e' he', ?_⟩
      intro hmem
      have heq : Key.string (literal e'.1) = .string (literal e.1) := List.mem_singleton.mp hmem
      have hname := literal_injective (Key.string.inj heq)
      exact hnodup.1 (hname ▸ List.mem_map_of_mem he')

theorem toEntries_eq_map (entries : Entries) :
    toEntries entries = entries.map fun entry => (ofKey entry.1, toValue entry.2) := by
  induction entries with
  | nil => rfl
  | cons entry entries ih => rw [toEntries, ih, List.map_cons]

theorem echoEntries_eq (es : List (String × Value)) :
    (echoEntries phpRoundTrip es).map (fun ls => ls.map fun l => (Value.str l.1, l.2)) =
      (readEntries es).map toEntries := by
  rw [funext toEntries_eq_map, echoEntries, readEntries, ← MsgPack.mapM_option_map,
    ← MsgPack.mapM_option_map]
  congr 1
  funext e
  rw [phpRoundTrip]
  cases (ofValue e.2).toOption with
  | none => rfl
  | some v =>
    show some (Value.str e.1, toValue v) = some (ofString (literal e.1), toValue v)
    rw [ofString_literal]

/-- A map with a key, all of whose keys are strings that spell no integers, comes back as it was. -/
theorem phpRoundTrip_ofEntries {es : List (String × Value)} (hnodup : (es.map Prod.fst).Nodup)
    (hne : es ≠ []) (hkeys : ∀ e ∈ es, intKey (literal e.1) = none) :
    phpRoundTrip (.ofEntries es) = (echoEntries phpRoundTrip es).map .ofEntries := by
  have hread := ofEntries_eq hnodup hkeys [] fun e _ => List.not_mem_nil
  have hvalue : (ofValue (.ofEntries es)).toOption =
      (readEntries es).map fun read => .array ([] ++ read) := by
    rw [Value.ofEntries, ofValue]
    show ((ofEntries [] (es.map fun e => (.str e.1, e.2))).bind fun entries =>
      Except.ok (PhpValue.array entries)).toOption = _
    rw [MsgPack.toOption_bind, hread]
    cases readEntries es <;> rfl
  have hecho : (echoEntries phpRoundTrip es).map Value.ofEntries =
      (readEntries es).map fun read => .map (toEntries read) := by
    have h := congrArg (Option.map Value.map) (echoEntries_eq es)
    rw [Option.map_map, Option.map_map] at h
    exact h
  rw [phpRoundTrip, hvalue, hecho, Option.map_map]
  cases hes : readEntries es with
  | none => rfl
  | some read =>
    -- the first key is a string, so that the array is no list
    obtain ⟨e, es', rfl⟩ := List.exists_cons_of_ne_nil hne
    rw [readEntries_cons] at hes
    obtain ⟨v, -, hes⟩ := Option.bind_eq_some_iff.mp hes
    obtain ⟨read', -, rfl⟩ := Option.map_eq_some_iff.mp hes
    have hlist : isListFrom 0 ((Key.string (literal e.1), v) :: read') = false := by
      rw [isListFrom, decide_eq_false (by simp), Bool.false_and]
    show some (toValue (.array ((Key.string (literal e.1), v) :: read'))) = _
    rw [toValue, hlist, if_neg Bool.false_ne_true]
    rfl

/-- No key of an array spells an integer. -/
def ProperKeys (entries : Entries) : Prop :=
  ∀ entry ∈ entries, ∀ bs, entry.1 = .string bs → intKey bs = none

theorem intKey_of_arrayKey {bs bs' : Bytes} (h : arrayKey bs = .string bs') : intKey bs' = none := by
  unfold arrayKey at h
  split at h
  · cases h
  · rename_i hnone
    rw [← Key.string.inj h]
    exact hnone

theorem properKeys_ofEntries {es : List (String × Value)} {entries entries' : Entries}
    (hentries : ProperKeys entries)
    (h : ofEntries entries (es.map fun e => (.str e.1, e.2)) = .ok entries') :
    ProperKeys entries' := by
  induction es generalizing entries with
  | nil =>
    obtain rfl := Except.ok.inj h
    exact hentries
  | cons e es ih =>
    rw [ofEntries_cons] at h
    cases hv : ofValue e.2 with
    | error err =>
      rw [hv] at h
      cases h
    | ok v =>
      rw [hv] at h
      refine ih (fun entry hentry bs hbs => ?_) h
      rcases mem_arraySet hentry with hkey | hmem
      · exact intKey_of_arrayKey (hkey.symm.trans hbs)
      · exact hentries entry hmem bs hbs

/-- A key that spells an integer is not there any more. -/
theorem not_agrees_of_intKey {es : List (String × Value)} {e : String × Value} (he : e ∈ es)
    (hkey : intKey (literal e.1) ≠ none) {w : Value} (h : phpRoundTrip (.ofEntries es) = some w) :
    ¬ (Value.ofEntries es).Agrees (· = ·) w := by
  intro hagrees
  obtain ⟨ls, rfl, -, hall⟩ := MsgPack.agrees_ofEntries.mp hagrees
  obtain ⟨w', hmem, -⟩ := hall e he
  rw [phpRoundTrip, Value.ofEntries, ofValue] at h
  cases hread : ofEntries [] (es.map fun e => (.str e.1, e.2)) with
  | error err =>
    rw [hread] at h
    cases h
  | ok entries =>
    rw [hread] at h
    have hproper : ProperKeys entries :=
      properKeys_ofEntries (fun _ hentry => absurd hentry List.not_mem_nil) hread
    have hvalue : toValue (.array entries) = .map ls := Option.some.inj h
    rw [toValue] at hvalue
    split_ifs at hvalue
    rw [← Value.map.inj hvalue, toEntries_eq_map, List.mem_map] at hmem
    obtain ⟨entry, hentry, hpair⟩ := hmem
    have hname : ofKey entry.1 = .str e.1 := (Prod.mk.inj hpair).1
    cases hentryKey : entry.1 with
    | int i =>
      rw [hentryKey] at hname
      cases hname
    | string bs =>
      rw [hentryKey] at hname
      have hbs : bs = literal e.1 := eq_literal_of_ofString hname
      exact hkey (hbs ▸ hproper entry hentry bs hentryKey)

/-! ### The round trip of a value -/

theorem keepsType_ofEntries (es : List (String × Value)) :
    keepsType (.ofEntries es) = true ↔ es ≠ [] ∧ ∀ e ∈ es, intKey (literal e.1) = none := by
  rw [Value.ofEntries, keepsType, Bool.and_eq_true, List.all_map, List.all_eq_true]
  refine and_congr ?_ (forall₂_congr fun e _ => Option.isNone_iff_eq_none)
  cases es <;> simp

/-- **What the codec of the PHP binding keeps of a value** is everything but binary data that is UTF-8,
empty maps and keys that spell integers. -/
theorem phpEcho : Echo (· = ·) keepsType phpRoundTrip where
  leaf v hleaf hsafe := by
    cases v with
    | nil => exact iff_of_true ⟨_, rfl, rfl⟩ rfl
    | bool b => exact iff_of_true ⟨_, rfl, rfl⟩ rfl
    | int i =>
      have hrange : -2 ^ 63 ≤ i ∧ i < 2 ^ 63 := of_decide_eq_true hsafe
      refine iff_of_true ⟨.int i, ?_, rfl⟩ rfl
      rw [phpRoundTrip, ofValue, if_pos hrange.2]
      rfl
    | float x => exact iff_of_true ⟨_, rfl, rfl⟩ rfl
    | str s => exact iff_of_true ⟨_, rfl, (ofString_literal s).symm⟩ rfl
    | bin bs =>
      have hround : phpRoundTrip (.bin bs) = some (ofString bs) := rfl
      rw [hround, keepsType, ofString]
      cases String.fromUTF8? ⟨bs.toArray⟩ <;> simp
    | array vs => cases hleaf
    | map kvs => cases hleaf
    | ext type data => cases hsafe
  array := phpRoundTrip_array
  ok_array _ := rfl
  ok_str _ := rfl
  map es hnodup hok := by
    obtain ⟨hne, hkeys⟩ := (keepsType_ofEntries es).mp hok
    rw [phpRoundTrip_ofEntries hnodup hne hkeys]
    cases echoEntries phpRoundTrip es with
    | none => rfl
    | some ls => exact ⟨ls, .refl ls, rfl⟩
  not_map es _ hok w hw := by
    by_cases hne : es = []
    · subst hne
      obtain rfl := Option.some.inj hw
      intro hagrees
      obtain ⟨ls, hls, -⟩ := MsgPack.agrees_ofEntries.mp hagrees
      cases hls
    · obtain ⟨e, he, hkey⟩ : ∃ e ∈ es, intKey (literal e.1) ≠ none := by
        by_contra hnone
        push Not at hnone
        rw [(keepsType_ofEntries es).mpr ⟨hne, hnone⟩] at hok
        cases hok
      exact not_agrees_of_intKey he hkey hw

/-! ### The body of a call -/

/-- Every safe value has a value of the language. -/
theorem exists_ofValue (v : Value) (h : v.safe = true) : ∃ value, ofValue v = .ok value := by
  refine Value.safeInduction ?_ ?_ ?_ v h
  · intro v hleaf _
    cases v with
    | array vs => cases hleaf
    | map kvs => cases hleaf
    | _ => exact ⟨_, rfl⟩
  · intro vs ih
    have hall : ∃ values, ofValues vs = .ok values := by
      induction vs with
      | nil => exact ⟨[], rfl⟩
      | cons v vs ih' =>
        obtain ⟨hv, hvs⟩ := List.forall_mem_cons.mp ih
        obtain ⟨value, hvalue⟩ := hv.2
        obtain ⟨values, hvalues⟩ := ih' hvs
        refine ⟨value :: values, ?_⟩
        rw [ofValues, hvalue, hvalues]
        rfl
    obtain ⟨values, hvalues⟩ := hall
    refine ⟨.array (listEntries 0 values), ?_⟩
    rw [ofValue, hvalues]
    rfl
  · intro es hnodup ih
    clear hnodup
    have hall : ∀ entries, ∃ read, ofEntries entries (es.map fun e => (.str e.1, e.2)) = .ok read := by
      induction es with
      | nil => exact fun entries => ⟨entries, rfl⟩
      | cons e es ih' =>
        obtain ⟨he, hes⟩ := List.forall_mem_cons.mp ih
        obtain ⟨value, hvalue⟩ := he.2
        intro entries
        obtain ⟨read, hread⟩ := ih' hes (arraySet (arrayKey (literal e.1)) value entries)
        refine ⟨read, ?_⟩
        rw [ofEntries_cons, hvalue]
        exact hread
    obtain ⟨read, hread⟩ := hall []
    refine ⟨.array read, ?_⟩
    rw [Value.ofEntries, ofValue, hread]
    rfl

/-- What is stored under a name that spells no integer is found there. -/
theorem get?_ofEntries {es : List (String × Value)} (hnodup : (es.map Prod.fst).Nodup)
    {name : String} (hname : intKey (literal name) = none) {entries read : Entries}
    (h : ofEntries entries (es.map fun e => (.str e.1, e.2)) = .ok read) :
    (name ∉ es.map Prod.fst → get? (.string (literal name)) read =
      get? (.string (literal name)) entries) ∧
    ∀ v, (name, v) ∈ es →
      ∃ value, ofValue v = .ok value ∧ get? (.string (literal name)) read = some value := by
  induction es generalizing entries with
  | nil =>
    obtain rfl := Except.ok.inj h
    exact ⟨fun _ => rfl, fun v hv => absurd hv List.not_mem_nil⟩
  | cons e es ih =>
    rw [List.map_cons, List.nodup_cons] at hnodup
    rw [ofEntries_cons] at h
    cases hvalue : ofValue e.2 with
    | error err =>
      rw [hvalue] at h
      cases h
    | ok value =>
      rw [hvalue] at h
      obtain ⟨hother, hfound⟩ := ih hnodup.2 h
      refine ⟨fun hnot => ?_, fun v hv => ?_⟩
      · rw [List.map_cons, List.mem_cons, not_or] at hnot
        have hkey : arrayKey (literal e.1) ≠ .string (literal name) :=
          fun heq => hnot.1 ((arrayKey_eq_string_iff hname).mp heq).symm
        rw [hother hnot.2, get?_arraySet, if_neg hkey]
      · rcases List.mem_cons.mp hv with heq | hmem
        · have hname' : e.1 = name := congrArg Prod.fst heq.symm
          have hkey : arrayKey (literal e.1) = .string (literal name) :=
            (arrayKey_eq_string_iff hname).mpr hname'
          have hfresh : name ∉ es.map Prod.fst := hname' ▸ hnodup.1
          refine ⟨value, ?_, ?_⟩
          · rw [← hvalue, ← heq]
          · rw [hother hfresh, get?_arraySet, if_pos hkey]
        · exact hfound v hmem

/-- A map from distinct strings with an array for `args` that is not empty. -/
structure IsCallBody (kvs : List (String × Value)) (function : String) (w : Value)
    (rest : List Value) : Prop where
  safe : (Value.ofEntries kvs).safe = true
  function_mem : ("function", .str function) ∈ kvs
  args_mem : ("args", .array (w :: rest)) ∈ kvs

/-- A worker that returns its first argument. -/
def echo (_ : Bytes) (args : Entries) : Except String PhpValue := .ok (arrayGet (.int 0) .null args)

theorem arrayGet_eq (key : Key) (default : PhpValue) (entries : Entries) :
    arrayGet key default entries = match get? key entries with
      | none | some .null => default
      | some value => value := by
  unfold arrayGet get?
  cases entries.find? fun entry => entry.1 = key with
  | none => rfl
  | some entry =>
    obtain ⟨_, value⟩ := entry
    cases value <;> rfl

theorem toValue_ofLiterals_result (value : PhpValue) :
    toValue (ofLiterals [("result", value)]) = .ofEntries [("result", toValue value)] := by
  have hlist : isListFrom 0 [(Key.string (literal "result"), value)] = false := by
    rw [isListFrom, decide_eq_false (by simp), Bool.false_and]
  show toValue (.array [(Key.string (literal "result"), value)]) = _
  rw [toValue, hlist, if_neg Bool.false_ne_true, toEntries, toEntries, ofKey, ofString_literal]
  rfl

/-- The worker gets the arguments, and what it returns goes into the response. -/
theorem handleServiceCall_echo {kvs : List (String × Value)} {function : String} {w : Value}
    {rest : List Value} (h : IsCallBody kvs function w rest) :
    ∃ value, ofValue w = .ok value ∧
      ∀ (lib : Library) (x : Incoming) (peerId : String) (frame : FrameParts) (bytes : Bytes),
        lib.unpack frame.bodyBytes = .ok (.ofEntries kvs) →
        lib.pack (.ofEntries [("result", toValue value)]) = .ok bytes →
        x.send (responseEnvelope x peerId frame) bytes = .ok () →
        handleServiceCall lib x peerId echo frame =
          .ok ⟨[(responseEnvelope x peerId frame, bytes)], false⟩ := by
  obtain ⟨body, hbody⟩ := exists_ofValue _ h.safe
  have hnodup := (MsgPack.safe_ofEntries.mp h.safe).1
  rw [Value.ofEntries, ofValue] at hbody
  cases hread : ofEntries [] (kvs.map fun e => (.str e.1, e.2)) with
  | error err =>
    rw [hread] at hbody
    cases hbody
  | ok decoded =>
    -- the arguments are a list that starts with what `w` has become
    have hname : intKey (literal "args") = none := by decide +kernel
    have hfunctionName : intKey (literal "function") = none := by decide +kernel
    obtain ⟨args, hargs, hget⟩ := (get?_ofEntries hnodup hname hread).2 _ h.args_mem
    obtain ⟨name, hname, hgetName⟩ :=
      (get?_ofEntries hnodup hfunctionName hread).2 _ h.function_mem
    obtain rfl : .string (literal function) = name := Except.ok.inj hname
    rw [ofValue, ofValues] at hargs
    cases hw : ofValue w with
    | error err =>
      rw [hw] at hargs
      cases hargs
    | ok value =>
      rw [hw] at hargs
      cases hrest : ofValues rest with
      | error err =>
        rw [hrest] at hargs
        cases hargs
      | ok values =>
        rw [hrest] at hargs
        obtain rfl := Except.ok.inj hargs
        refine ⟨value, rfl, fun lib x peerId frame bytes hunpack hpack hsend => ?_⟩
        have hdecode : decode lib frame.bodyBytes = .ok (.array decoded) := by
          rw [decode, hunpack]
          show ofValue (.ofEntries kvs) = _
          rw [Value.ofEntries, ofValue, hread]
          rfl
        have hfunction : functionName lib decoded = .ok (literal function) := by
          rw [functionName, arrayGet_eq, hgetName]
        have hfirst : echo (literal function) (listEntries 0 (value :: values)) = .ok value := by
          rw [echo, arrayGet_eq, listEntries, get?, List.find?_cons]
          cases value <;> simp
        have hresponse : encode lib (ofLiterals [("result", value)]) = .ok bytes := by
          rw [encode, toValue_ofLiterals_result, hpack]
        have htry : tryCall lib x peerId echo frame =
            .ok ⟨[(responseEnvelope x peerId frame, bytes)], false⟩ := by
          rw [tryCall, hdecode]
          show callWorker lib x peerId echo frame decoded = _
          rw [callWorker, hfunction]
          dsimp only [bind, Except.bind]
          rw [arrayGet_eq, hget]
          dsimp only
          rw [hfirst]
          dsimp only
          rw [hresponse]
          dsimp only
          rw [hsend]
        rw [handleServiceCall, htry]

/-- **Which values a PHP service echoes with their types.**  A service that returns its first argument
answers a call with a response that has a value as its result, and that value denotes the argument,
with the type of every node, if and only if the argument has no binary data that is UTF-8, no empty map
and no key that spells an integer anywhere. -/
theorem handleServiceCall_echo_iff {kvs : List (String × Value)} {function : String} {w : Value}
    {rest : List Value} (h : IsCallBody kvs function w rest) :
    ∃ result, (∀ (lib : Library) (x : Incoming) (peerId : String) (frame : FrameParts)
        (bytes : Bytes), lib.unpack frame.bodyBytes = .ok (.ofEntries kvs) →
        lib.pack (.ofEntries [("result", result)]) = .ok bytes →
        x.send (responseEnvelope x peerId frame) bytes = .ok () →
        handleServiceCall lib x peerId echo frame =
          .ok ⟨[(responseEnvelope x peerId frame, bytes)], false⟩) ∧
      (w.Agrees (· = ·) result ↔ w.everywhere keepsType = true) := by
  obtain ⟨value, hvalue, hanswer⟩ := handleServiceCall_echo h
  refine ⟨toValue value, hanswer, ?_⟩
  have hsafe : w.safe = true := by
    have hargs := (MsgPack.safe_ofEntries.mp h.safe).2 _ h.args_mem
    exact MsgPack.safe_array.mp hargs w List.mem_cons_self
  rw [← phpEcho.agrees_iff hsafe, phpRoundTrip_of_ofValue hvalue]
  constructor
  · intro hagrees
    exact ⟨_, rfl, hagrees⟩
  · rintro ⟨result, hresult, hagrees⟩
    rw [Option.some.inj hresult]
    exact hagrees

section Sample

/-- The body of a call with one argument. -/
def echoCall (w : Value) : List (String × Value) :=
  [("function", .str "echo"), ("args", .array [w])]

theorem isCallBody_echoCall {w : Value} (h : w.safe = true) :
    IsCallBody (echoCall w) "echo" w [] where
  safe := by
    refine MsgPack.safe_ofEntries.mpr ⟨(by decide : ["function", "args"].Nodup), ?_⟩
    simp only [echoCall, List.forall_mem_cons, List.not_mem_nil, false_implies, implies_true,
      and_true]
    exact ⟨rfl, MsgPack.safe_array.mpr fun v hv => List.mem_singleton.mp hv ▸ h⟩
  function_mem := List.mem_cons_self
  args_mem := List.mem_cons_of_mem _ List.mem_cons_self

/-- The service answers a call with the argument `w`, and the result denotes something else. -/
def EchoesOther (w : Value) : Prop :=
  IsCallBody (echoCall w) "echo" w [] ∧
    ∃ result, (∀ (lib : Library) (x : Incoming) (peerId : String) (frame : FrameParts)
        (bytes : Bytes), lib.unpack frame.bodyBytes = .ok (.ofEntries (echoCall w)) →
        lib.pack (.ofEntries [("result", result)]) = .ok bytes →
        x.send (responseEnvelope x peerId frame) bytes = .ok () →
        handleServiceCall lib x peerId echo frame =
          .ok ⟨[(responseEnvelope x peerId frame, bytes)], false⟩) ∧
      ¬ w.Agrees (· = ·) result

theorem echoesOther_of_not_keepsType {w : Value} (hsafe : w.safe = true)
    (hkeeps : w.everywhere keepsType = false) : EchoesOther w := by
  have hbody := isCallBody_echoCall hsafe
  obtain ⟨value, hvalue, hanswer⟩ := handleServiceCall_echo hbody
  refine ⟨hbody, toValue value, hanswer, fun hagrees => ?_⟩
  have hround := phpRoundTrip_of_ofValue hvalue
  rw [(phpEcho.agrees_iff hsafe).mp ⟨_, hround, hagrees⟩] at hkeeps
  cases hkeeps

/-- A byte that is a letter, the empty map and a key that spells an integer come back as something
else. -/
theorem handleServiceCall_echo_other :
    EchoesOther (.bin [0x61]) ∧ EchoesOther (.ofEntries []) ∧
      EchoesOther (.ofEntries [("1", .nil)]) :=
  ⟨echoesOther_of_not_keepsType (by decide) (by decide +kernel),
    echoesOther_of_not_keepsType (by decide) (by decide +kernel),
    echoesOther_of_not_keepsType (by decide) (by decide +kernel)⟩

/-- A map with a list and a byte that is no letter comes back as it was. -/
theorem handleServiceCall_echo_map :
    let w : Value := .ofEntries [("a", .array [.int 1, .array []]), ("b", .bin [0xff])]
    ∃ result, (∀ (lib : Library) (x : Incoming) (peerId : String) (frame : FrameParts)
        (bytes : Bytes), lib.unpack frame.bodyBytes = .ok (.ofEntries (echoCall w)) →
        lib.pack (.ofEntries [("result", result)]) = .ok bytes →
        x.send (responseEnvelope x peerId frame) bytes = .ok () →
        handleServiceCall lib x peerId echo frame =
          .ok ⟨[(responseEnvelope x peerId frame, bytes)], false⟩) ∧
      w.Agrees (· = ·) result := by
  intro w
  obtain ⟨result, hanswer, hiff⟩ := handleServiceCall_echo_iff (isCallBody_echoCall
    (show w.safe = true by decide))
  exact ⟨result, hanswer, hiff.mpr (by decide +kernel)⟩

end Sample

end Multifrost.Php.Service
