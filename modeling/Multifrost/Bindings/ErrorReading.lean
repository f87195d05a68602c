import Multifrost.JavaScript.Safety.Echo
import Multifrost.Php.Transport
import Multifrost.Rust.Safety.ErrorBody

/-!
# What the callers read of the body of an error

A map with strings for `code`, `message` and `kind`, which may hold anything else as well.  For each
binding: when its caller reads such a map, and that it then sees these strings.
-/

namespace Multifrost

open Entries (lookup_cons)
open MsgPack (Value)
open Rust (IsErrorMap)

variable {read : Bytes → Except String Value} {bodyBytes : Bytes}
  {kvs : List (String × Value)} {code message kind : String}

/-- Nil, a string, or bytes that are one. -/
def Bindings.isTextOrNil : Value → Bool
  | .nil | .str _ => true
  | .bin bs => (String.fromUTF8? ⟨bs.toArray⟩).isSome
  | _ => false

open Bindings (isTextOrNil)

/-! ### Rust -/

namespace Rust

theorem exists_optionString {v : Value} :
    (∃ stack, optionString v = .ok stack) ↔ isTextOrNil v = true := by
  cases v with
  | nil => exact ⟨fun _ => rfl, fun _ => ⟨none, rfl⟩⟩
  | str s => exact ⟨fun _ => rfl, fun _ => ⟨some s, rfl⟩⟩
  | bin bs =>
    have hread : optionString (.bin bs) = (requireString (.bin bs)).map some := rfl
    have hstring : string (.bin bs) = String.fromUTF8? ⟨bs.toArray⟩ := rfl
    rw [hread, requireString, hstring, isTextOrNil]
    cases String.fromUTF8? ⟨bs.toArray⟩ <;> simp [Except.map]
  | _ =>
    refine ⟨?_, fun h => by cases h⟩
    rintro ⟨stack, hstack⟩
    cases hstack

end Rust

/-! ### JavaScript -/

namespace JavaScript

variable {u : Unpackr} {name : String}

theorem lookup_assign (ps : Properties) (key : String) (v : JsValue) :
    (assign ps (key, v)).lookup name = if name = key then some v else ps.lookup name := by
  induction ps with
  | nil => exact lookup_cons name (key, v) []
  | cons p ps ih =>
    obtain ⟨key', v'⟩ := p
    rw [assign]
    by_cases hkey : key' = key
    · subst hkey
      rw [if_pos rfl, lookup_cons, lookup_cons]
      split_ifs <;> rfl
    · rw [if_neg hkey]
      by_cases hprecedes : precedes key key' = true
      · rw [if_pos hprecedes, lookup_cons]
      · rw [if_neg hprecedes, lookup_cons, lookup_cons, ih]
        by_cases hname : name = key
        · rw [if_neg fun h => hkey (h.symm.trans hname), if_pos hname, if_pos hname]
        · rw [if_neg hname, if_neg hname]

/-- An entry with another name, be it `__proto__`, does not get in the way. -/
theorem lookup_foldl_assign (hu : u.Lawful) (hname : name ≠ protoKey)
    (hproto : u.safeKey (.str protoKey) ≠ name) (hnodup : (kvs.map Prod.fst).Nodup)
    (ps : Properties) :
    (((kvs.map fun e => (u.safeKey (.str e.1), unpack u e.2)).filter fun p =>
        p.1 ≠ protoKey).foldl assign ps).lookup name =
      ((kvs.lookup name).map (unpack u)).or (ps.lookup name) := by
  induction kvs generalizing ps with
  | nil => rfl
  | cons e kvs ih =>
    obtain ⟨key, v⟩ := e
    obtain ⟨hnotMem, hnodup⟩ := List.nodup_cons.mp hnodup
    have ih := ih hnodup
    rw [List.map_cons, lookup_cons]
    by_cases hkey : name = key
    -- the names are distinct, and no later entry has this one
    · subst hkey
      have hown : decide (u.safeKey (.str name) ≠ protoKey) = true := by
        rw [hu.safeKey name hname]
        exact decide_eq_true hname
      rw [List.filter_cons, if_pos hown, List.foldl_cons, ih, lookup_assign, hu.safeKey name hname,
        Entries.lookup_eq_none hnotMem, if_pos rfl, if_pos rfl]
      rfl
    -- `__proto__` is left out, or goes by the name that the library gives it
    · have hsafe : name ≠ u.safeKey (.str key) := by
        by_cases h : key = protoKey
        · exact h ▸ hproto.symm
        · exact (hu.safeKey key h).symm ▸ hkey
      rw [if_neg hkey]
      by_cases h : u.safeKey (.str key) = protoKey
      · rw [List.filter_cons, if_neg (by simp [h]), ih]
      · rw [List.filter_cons, if_pos (decide_eq_true h), List.foldl_cons, ih, lookup_assign,
          if_neg hsafe]

theorem property_withPrototype (assigned own : Properties) :
    (withPrototype assigned own).property name = some ((own.lookup name).getD .undefined) := by
  unfold withPrototype
  split_ifs <;> rfl

/-- A property is what the map has under its name. -/
theorem property_unpack (hu : u.Lawful) (hname : name ≠ protoKey)
    (hproto : u.safeKey (.str protoKey) ≠ name) (hnodup : (kvs.map Prod.fst).Nodup) :
    (unpack u (.ofEntries kvs)).property name =
      some (((kvs.lookup name).map (unpack u)).getD .undefined) := by
  have hentries : unpackEntries u (kvs.map fun e => (Value.str e.1, e.2)) =
      kvs.map fun e => (u.safeKey (.str e.1), unpack u e.2) := by
    rw [unpackEntries_eq_map, List.map_map]
    rfl
  show (withPrototype _ (List.foldl assign [] _)).property name = _
  rw [property_withPrototype, hentries, lookup_foldl_assign hu hname hproto hnodup]
  cases kvs.lookup name <;> rfl

/-- The library reads the map iff it takes the extensions in it. -/
theorem errorFromFrame_ofEntries {text : JsValue → Option String} (hu : u.Lawful)
    (hkind : u.safeKey (.str protoKey) ≠ "kind") (hmessage : u.safeKey (.str protoKey) ≠ "message")
    (htext : text (.string message) = some message) (h : IsErrorMap kvs code message kind)
    (hread : read bodyBytes = .ok (.ofEntries kvs)) :
    errorFromFrame read u text bodyBytes =
      if (Value.ofEntries kvs).everywhere (takenNode u) then
        some (if kind = "application" ∨ kind = "service" then
          .remoteCallError message (unpack u (.ofEntries kvs))
        else .routerError message (unpack u (.ofEntries kvs)))
      else none := by
  have hkindOf := property_unpack hu (by decide) hkind h.nodup
  have hmessageOf := property_unpack hu (by decide) hmessage h.nodup
  rw [h.kind_eq] at hkindOf
  rw [h.message_eq] at hmessageOf
  have hbody : errorFromBody text (unpack u (.ofEntries kvs)) =
      some (if kind = "application" ∨ kind = "service" then
        .remoteCallError message (unpack u (.ofEntries kvs))
      else .routerError message (unpack u (.ofEntries kvs))) := by
    unfold errorFromBody
    rw [hkindOf, hmessageOf]
    show (text (.string message)).bind _ = _
    rw [htext]
    show (if isText "application" (.string kind) || isText "service" (.string kind) then _ else _) =
      _
    unfold isText
    by_cases hkind : kind = "application" ∨ kind = "service" <;> simp [hkind]
  unfold errorFromFrame
  rw [hread]
  show (if _ then errorFromBody text (unpack u (.ofEntries kvs)) else none) = _
  rw [hbody]

end JavaScript

/-! ### Go -/

namespace Go

theorem exists_decodeStringPtr {v : Value} (h : isTextOrNil v = true) :
    ∃ stack, decodeStringPtr v = .ok stack := by
  cases v with
  | nil => exact ⟨none, rfl⟩
  | str s => exact ⟨some s, rfl⟩
  | bin bs => exact ⟨_, rfl⟩
  | _ => cases h

/-- What `decodeField` takes under a name. -/
structure Field (name : String) (v : Value) : Prop where
  string : name = "code" ∨ name = "message" ∨ name = "kind" → ∃ s, v = .str s
  stack : name = "stack" → ∃ stack, decodeStringPtr v = .ok stack
  details : name = "details" → v.everywhere interfaceNode = true

theorem exists_decodeField {name : String} {v : Value} (h : Field name v)
    (body : Bindings.ErrorBody) :
    ∃ body', decodeField body name v = .ok body' ∧
      (∀ s, name = "kind" → v = .str s → body'.kind = s) ∧
      (name ≠ "kind" → body'.kind = body.kind) := by
  unfold decodeField
  split
  · obtain ⟨s, rfl⟩ := h.string (.inl rfl)
    exact ⟨_, rfl, fun _ heq => absurd heq (by decide), fun _ => rfl⟩
  · obtain ⟨s, rfl⟩ := h.string (.inr (.inl rfl))
    exact ⟨_, rfl, fun _ heq => absurd heq (by decide), fun _ => rfl⟩
  · obtain ⟨s, rfl⟩ := h.string (.inr (.inr rfl))
    exact ⟨_, rfl, fun s' _ heq => Value.str.inj heq, fun hne => absurd rfl hne⟩
  · obtain ⟨stack, hstack⟩ := h.stack rfl
    rw [hstack]
    exact ⟨_, rfl, fun _ heq => absurd heq (by decide), fun _ => rfl⟩
  · rw [decodeInterface, if_pos (h.details rfl)]
    exact ⟨_, rfl, fun _ heq => absurd heq (by decide), fun _ => rfl⟩
  · rename_i hkind _ _
    exact ⟨_, rfl, fun _ heq => absurd heq hkind, fun _ => rfl⟩

/-- The entries one after the other: none but the one under `kind` sets the kind. -/
theorem exists_foldlM_decodeEntry (hnodup : (kvs.map Prod.fst).Nodup)
    (h : ∀ e ∈ kvs, Field e.1 e.2) (body : Bindings.ErrorBody) :
    ∃ body', (kvs.map fun e => (Value.str e.1, e.2)).foldlM decodeEntry body = .ok body' ∧
      (∀ s, kvs.lookup "kind" = some (.str s) → body'.kind = s) ∧
      (kvs.lookup "kind" = none → body'.kind = body.kind) := by
  induction kvs generalizing body with
  | nil => exact ⟨body, rfl, fun _ hs => (nomatch hs), fun _ => rfl⟩
  | cons e kvs ih =>
    obtain ⟨name, v⟩ := e
    obtain ⟨hnotMem, hnodup⟩ := List.nodup_cons.mp hnodup
    obtain ⟨hfield, hfields⟩ := List.forall_mem_cons.mp h
    obtain ⟨body', hbody', hset, hkeep⟩ := exists_decodeField hfield body
    obtain ⟨body'', hbody'', hset', hkeep'⟩ := ih hnodup hfields body'
    refine ⟨body'', ?_, ?_, ?_⟩
    · rw [List.map_cons, List.foldlM_cons]
      show (decodeField body name v).bind _ = _
      rw [hbody']
      exact hbody''
    · intro s hs
      rw [lookup_cons] at hs
      split_ifs at hs with hname
      · subst hname
        rw [hkeep' (Entries.lookup_eq_none hnotMem)]
        exact hset s rfl (Option.some.inj hs)
      · exact hset' s hs
    · intro hnone
      rw [lookup_cons] at hnone
      split_ifs at hnone with hname
      rw [hkeep' hnone, hkeep fun heq => hname heq.symm]

/-- The fields of an error are those that Go takes. -/
theorem field_of_isErrorMap (h : IsErrorMap kvs code message kind)
    (hstack : isTextOrNil ((kvs.lookup "stack").getD .nil) = true)
    (hdetails : ((kvs.lookup "details").getD .nil).everywhere interfaceNode = true) :
    ∀ e ∈ kvs, Field e.1 e.2 := by
  rintro ⟨name, v⟩ he
  have hlookup : kvs.lookup name = some v := Entries.lookup_of_mem h.nodup he
  refine ⟨?_, ?_, ?_⟩
  · rintro (rfl | rfl | rfl)
    · exact ⟨code, Option.some.inj (hlookup.symm.trans h.code_eq)⟩
    · exact ⟨message, Option.some.inj (hlookup.symm.trans h.message_eq)⟩
    · exact ⟨kind, Option.some.inj (hlookup.symm.trans h.kind_eq)⟩
  · rintro rfl
    rw [hlookup] at hstack
    exact exists_decodeStringPtr hstack
  · rintro rfl
    rw [hlookup] at hdetails
    exact hdetails

theorem exists_decodeWireErrorBody (h : IsErrorMap kvs code message kind)
    (hread : read bodyBytes = .ok (.ofEntries kvs))
    (hstack : isTextOrNil ((kvs.lookup "stack").getD .nil) = true)
    (hdetails : ((kvs.lookup "details").getD .nil).everywhere interfaceNode = true) :
    ∃ body, decodeWireErrorBody read bodyBytes = .ok body ∧ body.kind = kind := by
  obtain ⟨body, hbody, hkind, -⟩ := exists_foldlM_decodeEntry h.nodup
    (field_of_isErrorMap h hstack hdetails) ⟨"", "", "", none, .nil⟩
  refine ⟨body, ?_, hkind kind h.kind_eq⟩
  unfold decodeWireErrorBody
  rw [hread]
  show ((kvs.map fun e => (Value.str e.1, e.2)).foldlM decodeEntry _).mapError _ = _
  rw [hbody]
  rfl

end Go

/-! ### PHP -/

namespace Php

open PeerTransport (Libraries)

theorem bigIntEntries_eq_map (kvs : List (Value × Value)) :
    bigIntEntries kvs = kvs.map fun kv => (bigIntAsStr kv.1, bigIntAsStr kv.2) := by
  induction kvs with
  | nil => rfl
  | cons kv kvs ih => rw [bigIntEntries, ih, List.map_cons]

theorem arrayGet_ofEntries (hnodup : (kvs.map Prod.fst).Nodup) (name : String) :
    PeerTransport.arrayGet (bigIntAsStr (.ofEntries kvs)) name =
      (kvs.lookup name).map bigIntAsStr := by
  have hentries : bigIntAsStr (.ofEntries kvs) =
      .ofEntries (kvs.map fun e => (e.1, bigIntAsStr e.2)) := by
    show Value.map (bigIntEntries _) = .map _
    rw [bigIntEntries_eq_map, List.map_map, List.map_map]
    rfl
  have hnodup' : ((kvs.map fun e => (e.1, bigIntAsStr e.2)).map Prod.fst).Nodup := by
    rw [List.map_map]
    exact hnodup
  have hkey : ∀ s, PeerTransport.isKey name (.str s) = true ↔ s = name := fun s => beq_iff_eq
  rw [hentries]
  show ((List.map _ _).reverse.find? _).map Prod.snd = _
  rw [MsgPack.find?_reverse_entries hnodup' hkey]
  exact Entries.lookup_map bigIntAsStr name

theorem getSet_str (hnodup : (kvs.map Prod.fst).Nodup) {name s : String}
    (hs : kvs.lookup name = some (.str s)) :
    PeerTransport.getSet (bigIntAsStr (.ofEntries kvs)) name = some (.str s) := by
  rw [PeerTransport.getSet, arrayGet_ofEntries hnodup, hs]
  rfl

/-- What is text or nothing has a string. -/
theorem exists_toTextSet (l : Libraries) (hnodup : (kvs.map Prod.fst).Nodup) {name : String}
    (h : isTextOrNil ((kvs.lookup name).getD .nil) = true) :
    ∃ text, PeerTransport.toTextSet l
      (PeerTransport.getSet (bigIntAsStr (.ofEntries kvs)) name) = .ok text := by
  rw [PeerTransport.getSet, arrayGet_ofEntries hnodup]
  cases hlookup : kvs.lookup name with
  | none => exact ⟨none, rfl⟩
  | some v =>
    rw [hlookup] at h
    cases v with
    | nil => exact ⟨none, rfl⟩
    | str s => exact ⟨some s, rfl⟩
    | bin bs => exact ⟨_, rfl⟩
    | _ => cases h

theorem exists_decodeErrorBody (l : Libraries) (h : IsErrorMap kvs code message kind)
    (hdecode : l.decode bodyBytes = .ok (bigIntAsStr (.ofEntries kvs)))
    (hstack : isTextOrNil ((kvs.lookup "stack").getD .nil) = true) :
    ∃ stack details,
      PeerTransport.decodeErrorBody l bodyBytes = .ok ⟨code, message, kind, stack, details⟩ := by
  obtain ⟨stack, hstack⟩ := exists_toTextSet l h.nodup hstack
  refine ⟨stack, (PeerTransport.getSet (bigIntAsStr (.ofEntries kvs)) "details").getD .nil, ?_⟩
  unfold PeerTransport.decodeErrorBody PeerTransport.decodeBody
  rw [hdecode]
  show (PeerTransport.toText l (Option.getD (PeerTransport.getSet _ "code") _)).bind _ = _
  rw [getSet_str h.nodup h.code_eq]
  show (PeerTransport.toText l (Option.getD (PeerTransport.getSet _ "message") _)).bind _ = _
  rw [getSet_str h.nodup h.message_eq]
  show (PeerTransport.toText l (Option.getD (PeerTransport.getSet _ "kind") _)).bind _ = _
  rw [getSet_str h.nodup h.kind_eq]
  show (PeerTransport.toTextSet l _).bind _ = _
  rw [hstack]
  rfl

end Php

/-! ### Python -/

namespace Python

variable {str : Value → String}

theorem getItem_ofEntries (hnodup : (kvs.map Prod.fst).Nodup) (name : String) :
    getItem (kvs.map fun e => (Value.str e.1, e.2)) name = kvs.lookup name := by
  have hkey : ∀ s, isKey name (.str s) = true ↔ s = name := fun _ => decide_eq_true_iff
  exact MsgPack.find?_reverse_entries hnodup hkey

theorem strItem_ofEntries (hnodup : (kvs.map Prod.fst).Nodup) {name s : String}
    (hs : kvs.lookup name = some (.str s)) :
    strItem str (kvs.map fun e => (Value.str e.1, e.2)) name = .ok s := by
  rw [strItem, getItem_ofEntries hnodup, hs]
  rfl

theorem exists_fromMapping (h : IsErrorMap kvs code message kind) :
    ∃ stack details, fromMapping str (kvs.map fun e => (Value.str e.1, e.2)) =
      .ok ⟨code, message, kind, stack, details⟩ := by
  unfold fromMapping
  rw [strItem_ofEntries h.nodup h.code_eq, strItem_ofEntries h.nodup h.message_eq,
    strItem_ofEntries h.nodup h.kind_eq]
  exact ⟨_, _, rfl⟩

/-- The library reads the map iff it is within the limits. -/
theorem exists_errorFromFrame {fromPeer : String} (h : IsErrorMap kvs code message kind)
    (hread : read bodyBytes = .ok (.ofEntries kvs)) :
    ∃ body, errorFromFrame str read fromPeer bodyBytes =
      if (Value.ofEntries kvs).everywhere unpackbNode then
        .ok (errorFromBody body (if fromPeer = Router.routerPeerId then .router else .remote))
      else .error "failed to decode msgpack payload" := by
  obtain ⟨stack, details, hbody⟩ := exists_fromMapping h
  refine ⟨⟨code, message, kind, stack, details⟩, ?_⟩
  unfold errorFromFrame
  rw [hread]
  show (if _ then (fromMapping str
    (kvs.map fun e : String × Value => (Value.str e.1, e.2))).bind _ else _) = _
  rw [hbody]
  rfl

end Python

end Multifrost
