import Mathlib.Data.List.Perm.Basic
import Multifrost.Lib.Entries
import Multifrost.Lib.MsgPack

/-!
# Values as trees

`v.everywhere p` is a condition on every node of a value, and `v.safe` the one that most languages
agree on: 64-bit integers, finite doubles, and maps from distinct strings.

`v.Agrees R w` says that `w` denotes what `v` does: arrays element by element, maps in any order of
their keys, and everything else by `R`.  A codec that takes a value apart and puts it together again
is an `Echo`, with a condition `ok` on a single node.  It is enough to say what the codec does at
each node (`Echo.agrees_iff`): what it gives back agrees with the value if and only if the condition
holds everywhere.
-/

namespace MsgPack

/-! ### Induction -/

/-- Induction over a value and all that is in it. -/
@[elab_as_elim]
theorem Value.treeInduction {P : Value → Prop} (nil : P .nil) (bool : ∀ b, P (.bool b))
    (int : ∀ i, P (.int i)) (float : ∀ x, P (.float x)) (str : ∀ s, P (.str s))
    (bin : ∀ bs, P (.bin bs)) (array : ∀ vs, (∀ v ∈ vs, P v) → P (.array vs))
    (map : ∀ kvs, (∀ kv ∈ kvs, P kv.1 ∧ P kv.2) → P (.map kvs))
    (ext : ∀ type data, P (.ext type data)) (v : Value) : P v := by
  refine @Value.rec P (fun vs => ∀ v ∈ vs, P v) (fun kvs => ∀ kv ∈ kvs, P kv.1 ∧ P kv.2)
    (fun kv => P kv.1 ∧ P kv.2) nil bool int float str bin array map ext ?_ ?_ ?_ ?_ ?_ v
  · intro v hv
    cases hv
  · intro v vs hv hvs
    exact List.forall_mem_cons.mpr ⟨hv, hvs⟩
  · intro kv hkv
    cases hkv
  · intro kv kvs hkv hkvs
    exact List.forall_mem_cons.mpr ⟨hkv, hkvs⟩
  · intro k v hk hv
    exact ⟨hk, hv⟩

/-! ### Conditions on every node -/

mutual

/-- `p` holds of a value and of all that is in it, the keys of maps included. -/
def Value.everywhere (p : Value → Bool) : Value → Bool
  | .array vs => p (.array vs) && everywhereAll p vs
  | .map kvs => p (.map kvs) && everywhereEntries p kvs
  | v => p v

def everywhereAll (p : Value → Bool) : List Value → Bool
  | [] => true
  | v :: vs => v.everywhere p && everywhereAll p vs

def everywhereEntries (p : Value → Bool) : List (Value × Value) → Bool
  | [] => true
  | (k, v) :: kvs => k.everywhere p && v.everywhere p && everywhereEntries p kvs

end

section Everywhere

variable {p : Value → Bool}

theorem everywhereAll_iff {vs : List Value} :
    everywhereAll p vs = true ↔ ∀ v ∈ vs, v.everywhere p = true := by
  induction vs with
  | nil => simp [everywhereAll]
  | cons v vs ih => simp [everywhereAll, ih]

theorem everywhereEntries_iff {kvs : List (Value × Value)} :
    everywhereEntries p kvs = true ↔
      ∀ kv ∈ kvs, kv.1.everywhere p = true ∧ kv.2.everywhere p = true := by
  induction kvs with
  | nil => simp [everywhereEntries]
  | cons kv kvs ih => simp [everywhereEntries, ih, and_assoc]

theorem everywhere_array {vs : List Value} :
    (Value.array vs).everywhere p = true ↔
      p (.array vs) = true ∧ ∀ v ∈ vs, v.everywhere p = true := by
  rw [Value.everywhere, Bool.and_eq_true, everywhereAll_iff]

theorem everywhere_map {kvs : List (Value × Value)} :
    (Value.map kvs).everywhere p = true ↔ p (.map kvs) = true ∧
      ∀ kv ∈ kvs, kv.1.everywhere p = true ∧ kv.2.everywhere p = true := by
  rw [Value.everywhere, Bool.and_eq_true, everywhereEntries_iff]

/-- A map from strings. -/
theorem everywhere_ofEntries (hstr : ∀ s, p (.str s) = true) {es : List (String × Value)} :
    (Value.ofEntries es).everywhere p = true ↔
      p (.ofEntries es) = true ∧ ∀ e ∈ es, e.2.everywhere p = true := by
  have hkey : ∀ s, (Value.str s).everywhere p = true := hstr
  rw [Value.ofEntries, everywhere_map]
  simp only [List.forall_mem_map, hkey, true_and]

/-- A weaker condition holds where a stronger one does. -/
theorem everywhere_imp {q : Value → Bool} (hpq : ∀ v, p v = true → q v = true) {v : Value}
    (h : v.everywhere p = true) : v.everywhere q = true := by
  induction v using Value.treeInduction with
  | array vs ih =>
    obtain ⟨hnode, hall⟩ := everywhere_array.mp h
    exact everywhere_array.mpr ⟨hpq _ hnode, fun v hv => ih v hv (hall v hv)⟩
  | map kvs ih =>
    obtain ⟨hnode, hall⟩ := everywhere_map.mp h
    exact everywhere_map.mpr ⟨hpq _ hnode, fun kv hkv =>
      ⟨(ih kv hkv).1 (hall kv hkv).1, (ih kv hkv).2 (hall kv hkv).2⟩⟩
  | _ => exact hpq _ h

theorem everywhere_and {q : Value → Bool} (v : Value) :
    v.everywhere (fun w => p w && q w) = true ↔
      v.everywhere p = true ∧ v.everywhere q = true := by
  induction v using Value.treeInduction with
  | array vs ih =>
    rw [everywhere_array, everywhere_array, everywhere_array, Bool.and_eq_true,
      forall₂_congr ih]
    constructor
    · rintro ⟨⟨hp, hq⟩, hall⟩
      exact ⟨⟨hp, fun v hv => (hall v hv).1⟩, hq, fun v hv => (hall v hv).2⟩
    · rintro ⟨⟨hp, hps⟩, hq, hqs⟩
      exact ⟨⟨hp, hq⟩, fun v hv => ⟨hps v hv, hqs v hv⟩⟩
  | map kvs ih =>
    rw [everywhere_map, everywhere_map, everywhere_map, Bool.and_eq_true,
      forall₂_congr fun kv hkv => and_congr (ih kv hkv).1 (ih kv hkv).2]
    constructor
    · rintro ⟨⟨hp, hq⟩, hall⟩
      exact ⟨⟨hp, fun kv hkv => ⟨(hall kv hkv).1.1, (hall kv hkv).2.1⟩⟩, hq,
        fun kv hkv => ⟨(hall kv hkv).1.2, (hall kv hkv).2.2⟩⟩
    · rintro ⟨⟨hp, hps⟩, hq, hqs⟩
      exact ⟨⟨hp, hq⟩, fun kv hkv =>
        ⟨⟨(hps kv hkv).1, (hqs kv hkv).1⟩, (hps kv hkv).2, (hqs kv hkv).2⟩⟩
  | _ => exact Bool.and_eq_true _ _ |>.to_iff

end Everywhere

/-! ### Safe values -/

/-- The names of the keys, if all of them are strings. -/
def keyNames : List (Value × Value) → Option (List String)
  | [] => some []
  | (.str name, _) :: kvs => (keyNames kvs).map (name :: ·)
  | _ :: _ => none

def safeNode : Value → Bool
  | .int i => decide (-2 ^ 63 ≤ i ∧ i < 2 ^ 63)
  | .float x => x.isFinite
  | .map kvs => (keyNames kvs).any fun names => decide names.Nodup
  | .ext .. => false
  | _ => true

/-- Built of nil, booleans, 64-bit integers, finite doubles, strings, binary data, arrays, and maps from
distinct strings. -/
def Value.safe (v : Value) : Bool := v.everywhere safeNode

/-- A value that is no container. -/
def Value.isLeaf : Value → Bool
  | .array _ | .map _ => false
  | _ => true

theorem everywhere_of_isLeaf {p : Value → Bool} {v : Value} (h : v.isLeaf = true) :
    v.everywhere p = p v := by
  cases v <;> first | rfl | cases h

theorem exists_ofEntries {kvs : List (Value × Value)} {names : List String}
    (h : keyNames kvs = some names) :
    ∃ es, Value.map kvs = .ofEntries es ∧ es.map Prod.fst = names := by
  induction kvs generalizing names with
  | nil =>
    obtain rfl := Option.some.inj h
    exact ⟨[], rfl, rfl⟩
  | cons kv kvs ih =>
    obtain ⟨k, v⟩ := kv
    cases k with
    | str name =>
      obtain ⟨rest, hrest, rfl⟩ := Option.map_eq_some_iff.mp h
      obtain ⟨es, hes, rfl⟩ := ih hrest
      refine ⟨(name, v) :: es, ?_, rfl⟩
      have hkvs : kvs = es.map fun e => (Value.str e.1, e.2) := Value.map.inj hes
      rw [hkvs]
      rfl
    | _ => cases h

theorem keyNames_ofEntries (es : List (String × Value)) :
    keyNames (es.map fun e => (Value.str e.1, e.2)) = some (es.map Prod.fst) := by
  induction es with
  | nil => rfl
  | cons e es ih =>
    rw [List.map_cons, keyNames, ih]
    rfl

theorem safe_ofEntries {es : List (String × Value)} :
    (Value.ofEntries es).safe = true ↔
      (es.map Prod.fst).Nodup ∧ ∀ e ∈ es, e.2.safe = true := by
  have hnode : safeNode (.ofEntries es) = true ↔ (es.map Prod.fst).Nodup := by
    rw [Value.ofEntries, safeNode, keyNames_ofEntries]
    simp
  rw [Value.safe, everywhere_ofEntries (fun _ => rfl), hnode]
  rfl

theorem safe_array {vs : List Value} :
    (Value.array vs).safe = true ↔ ∀ v ∈ vs, v.safe = true := by
  rw [Value.safe, everywhere_array]
  exact and_iff_right rfl

/-! ### Entries under names -/

/-- A map from distinct strings has one entry under a name, from the front or from the back. -/
theorem find?_reverse_entries {es : List (String × Value)} (hnodup : (es.map Prod.fst).Nodup)
    {isKey : Value → Bool} {name : String} (hkey : ∀ s, isKey (.str s) = true ↔ s = name) :
    ((es.map fun e => (Value.str e.1, e.2)).reverse.find? fun kv => isKey kv.1).map Prod.snd =
      es.lookup name := by
  induction es with
  | nil => rfl
  | cons e es ih =>
    obtain ⟨k, v⟩ := e
    obtain ⟨hnotMem, hnodup⟩ := List.nodup_cons.mp hnodup
    rw [List.map_cons, List.reverse_cons, List.find?_append, Option.map_or, ih hnodup,
      List.find?_singleton, Entries.lookup_cons]
    by_cases hk : name = k
    · subst hk
      rw [Entries.lookup_eq_none hnotMem, if_pos rfl, if_pos ((hkey name).mpr rfl)]
      rfl
    · rw [if_neg hk, if_neg fun h => hk ((hkey k).mp h).symm]
      exact Option.or_none

/-- Induction over a safe value, whose maps are given by names. -/
@[elab_as_elim]
theorem Value.safeInduction {P : Value → Prop}
    (leaf : ∀ v : Value, v.isLeaf = true → v.safe = true → P v)
    (array : ∀ vs, (∀ v ∈ vs, v.safe = true ∧ P v) → P (.array vs))
    (map : ∀ es : List (String × Value), (es.map Prod.fst).Nodup →
      (∀ e ∈ es, e.2.safe = true ∧ P e.2) → P (.ofEntries es))
    (v : Value) (h : v.safe = true) : P v := by
  induction v using Value.treeInduction with
  | array vs ih =>
    have hvs := safe_array.mp h
    exact array vs fun v hv => ⟨hvs v hv, ih v hv (hvs v hv)⟩
  | map kvs ih =>
    have hnode : safeNode (.map kvs) = true := (everywhere_map.mp h).1
    obtain ⟨names, hnames, -⟩ := Option.any_eq_true _ _ |>.mp hnode
    obtain ⟨es, hes, -⟩ := exists_ofEntries hnames
    have hkvs : kvs = es.map fun e => (Value.str e.1, e.2) := Value.map.inj hes
    rw [hes] at h ⊢
    obtain ⟨hnodup, hsafe⟩ := safe_ofEntries.mp h
    refine map es hnodup fun e he => ⟨hsafe e he, (ih (.str e.1, e.2) ?_).2 (hsafe e he)⟩
    rw [hkvs]
    exact List.mem_map_of_mem he
  | nil => exact leaf _ rfl h
  | bool b => exact leaf _ rfl h
  | int i => exact leaf _ rfl h
  | float x => exact leaf _ rfl h
  | str s => exact leaf _ rfl h
  | bin bs => exact leaf _ rfl h
  | ext type data => exact leaf _ rfl h

/-! ### Agreement -/

mutual

/-- `w` has the shape of `v`, and leaves that are related.  A map has as many entries as the other, and
the keys of the other; that makes the keys the same, if they are distinct. -/
def Value.Agrees (R : Value → Value → Prop) : Value → Value → Prop
  | .array vs, w => ∃ ws, w = .array ws ∧ AgreesAll R vs ws
  | .map kvs, w => ∃ ls, w = .map ls ∧ ls.length = kvs.length ∧ AgreesEntries R kvs ls
  | v, w => R v w

def AgreesAll (R : Value → Value → Prop) : List Value → List Value → Prop
  | [], ws => ws = []
  | v :: vs, ws => ∃ w ws', ws = w :: ws' ∧ v.Agrees R w ∧ AgreesAll R vs ws'

def AgreesEntries (R : Value → Value → Prop) :
    List (Value × Value) → List (Value × Value) → Prop
  | [], _ => True
  | (k, v) :: kvs, ls => (∃ w, (k, w) ∈ ls ∧ v.Agrees R w) ∧ AgreesEntries R kvs ls

end

section Agrees

variable {R : Value → Value → Prop}

theorem agreesAll_iff {vs ws : List Value} :
    AgreesAll R vs ws ↔ List.Forall₂ (Value.Agrees R) vs ws := by
  induction vs generalizing ws with
  | nil => rw [AgreesAll, List.forall₂_nil_left_iff]
  | cons v vs ih =>
    rw [AgreesAll, List.forall₂_cons_left_iff]
    constructor
    · rintro ⟨w, ws', rfl, hv, hvs⟩
      exact ⟨w, ws', hv, ih.mp hvs, rfl⟩
    · rintro ⟨w, ws', hv, hvs, rfl⟩
      exact ⟨w, ws', rfl, hv, ih.mpr hvs⟩

theorem agreesEntries_iff {kvs ls : List (Value × Value)} :
    AgreesEntries R kvs ls ↔ ∀ kv ∈ kvs, ∃ w, (kv.1, w) ∈ ls ∧ kv.2.Agrees R w := by
  induction kvs with
  | nil => simp [AgreesEntries]
  | cons kv kvs ih => rw [AgreesEntries, ih, List.forall_mem_cons]

theorem agrees_of_isLeaf {v w : Value} (h : v.isLeaf = true) : v.Agrees R w ↔ R v w := by
  cases v <;> first | rfl | cases h

theorem agrees_array {vs : List Value} {w : Value} :
    (Value.array vs).Agrees R w ↔ ∃ ws, w = .array ws ∧ List.Forall₂ (Value.Agrees R) vs ws := by
  simp only [Value.Agrees, agreesAll_iff]

theorem agrees_ofEntries {es : List (String × Value)} {w : Value} :
    (Value.ofEntries es).Agrees R w ↔ ∃ ls, w = .map ls ∧ ls.length = es.length ∧
      ∀ e ∈ es, ∃ w, (Value.str e.1, w) ∈ ls ∧ e.2.Agrees R w := by
  simp only [Value.ofEntries, Value.Agrees, agreesEntries_iff, List.length_map,
    List.forall_mem_map]

end Agrees

/-! ### Codecs -/

section Traverse

variable {α β : Type*} {f : α → Option β} {xs : List α}

theorem mapM_eq_some_iff {ys : List β} :
    xs.mapM f = some ys ↔ List.Forall₂ (fun x y => f x = some y) xs ys := by
  induction xs generalizing ys with
  | nil =>
    rw [List.mapM_nil, List.forall₂_nil_left_iff]
    exact ⟨fun h => (Option.some.inj h).symm, fun h => congrArg some h.symm⟩
  | cons x xs ih =>
    rw [List.mapM_cons, List.forall₂_cons_left_iff]
    constructor
    · intro h
      obtain ⟨y, hy, h⟩ := Option.bind_eq_some_iff.mp h
      obtain ⟨ys', hys', h⟩ := Option.bind_eq_some_iff.mp h
      exact ⟨y, ys', hy, ih.mp hys', (Option.some.inj h).symm⟩
    · rintro ⟨y, ys', hy, hys', rfl⟩
      rw [hy, ih.mpr hys']
      rfl

/-- All elements are mapped to something of interest if and only if each of them is. -/
theorem exists_mapM_iff {Q : α → β → Prop} :
    (∃ ys, xs.mapM f = some ys ∧ List.Forall₂ Q xs ys) ↔
      ∀ x ∈ xs, ∃ y, f x = some y ∧ Q x y := by
  constructor
  · rintro ⟨ys, hys, hQ⟩ x hx
    have hf := mapM_eq_some_iff.mp hys
    clear hys
    induction hf with
    | nil => cases hx
    | cons hy hys ih =>
      rw [List.forall₂_cons] at hQ
      rcases List.mem_cons.mp hx with rfl | hx
      · exact ⟨_, hy, hQ.1⟩
      · exact ih hQ.2 hx
  · intro h
    induction xs with
    | nil => exact ⟨[], rfl, .nil⟩
    | cons x xs ih =>
      obtain ⟨hx, hxs⟩ := List.forall_mem_cons.mp h
      obtain ⟨y, hy, hQ⟩ := hx
      obtain ⟨ys, hys, hQs⟩ := ih hxs
      refine ⟨y :: ys, ?_, .cons hQ hQs⟩
      rw [List.mapM_cons, hy, hys]
      rfl

theorem exists_mapM_eq_some :
    (∃ ys, xs.mapM f = some ys) ↔ ∀ x ∈ xs, ∃ y, f x = some y := by
  have hall := @exists_mapM_iff α β f xs fun _ _ => True
  constructor
  · rintro ⟨ys, hys⟩ x hx
    have htriv : List.Forall₂ (fun (_ : α) (_ : β) => True) xs ys :=
      (mapM_eq_some_iff.mp hys).imp fun _ _ _ => trivial
    obtain ⟨y, hy, -⟩ := hall.mp ⟨ys, hys, htriv⟩ x hx
    exact ⟨y, hy⟩
  · intro h
    obtain ⟨ys, hys, -⟩ := hall.mpr fun x hx => (h x hx).imp fun _ hy => ⟨hy, trivial⟩
    exact ⟨ys, hys⟩

/-- Mapping twice is mapping once. -/
theorem mapM_bind_mapM {γ : Type*} {g : β → Option γ} :
    ((xs.mapM f).bind fun ys => ys.mapM g) = xs.mapM fun x => (f x).bind g := by
  induction xs with
  | nil => rfl
  | cons x xs ih =>
    simp only [List.mapM_cons]
    rw [← ih]
    cases f x with
    | none => rfl
    | some y =>
      cases hxs : xs.mapM f with
      | none =>
        show none = (g y).bind fun _ => none
        cases g y <;> rfl
      | some ys =>
        show (y :: ys).mapM g = _
        rw [List.mapM_cons]
        rfl

theorem mapM_option_map {γ : Type*} {g : β → γ} :
    (xs.mapM fun x => (f x).map g) = (xs.mapM f).map (List.map g) := by
  induction xs with
  | nil => rfl
  | cons x xs ih =>
    rw [List.mapM_cons, List.mapM_cons, ih]
    cases f x with
    | none => rfl
    | some y => cases xs.mapM f <;> rfl

theorem mapM_cons_map {γ : Type*} {g : α → β → γ} (x : α) :
    ((x :: xs).mapM fun x => (f x).map (g x)) =
      (f x).bind fun y => (xs.mapM fun x => (f x).map (g x)).map fun zs => g x y :: zs := by
  rw [List.mapM_cons]
  cases f x with
  | none => rfl
  | some y =>
    show ((xs.mapM fun x => (f x).map (g x)).bind fun zs => some (g x y :: zs)) = _
    cases xs.mapM fun x => (f x).map (g x) <;> rfl

theorem toOption_bind {ε : Type*} (x : Except ε α) (g : α → Except ε β) :
    (x.bind g).toOption = x.toOption.bind fun a => (g a).toOption := by
  cases x <;> rfl

/-- What is stored under names is mapped, and the names stay. -/
theorem mapM_entries_keys {κ : Type*} {g : α → Option β} {es : List (κ × α)} {ls : List (κ × β)}
    (h : (es.mapM fun e => (g e.2).map fun b => (e.1, b)) = some ls) :
    ls.map Prod.fst = es.map Prod.fst := by
  have hall := mapM_eq_some_iff.mp h
  clear h
  induction hall with
  | nil => rfl
  | cons hl _ ih =>
    obtain ⟨_, -, rfl⟩ := Option.map_eq_some_iff.mp hl
    rw [List.map_cons, List.map_cons, ih]

/-- Elements in another order are mapped to what they were, in another order. -/
theorem mapM_of_perm {xs' : List α} {ys : List β} (hperm : xs'.Perm xs) (h : xs.mapM f = some ys) :
    ∃ ys' : List β, ys'.Perm ys ∧ xs'.mapM f = some ys' := by
  obtain ⟨ys', hall, hperm'⟩ :=
    List.perm_comp_forall₂ hperm (mapM_eq_some_iff.mp h)
  exact ⟨ys', hperm', mapM_eq_some_iff.mpr hall⟩

theorem mapM_eq_none_of_perm {xs' : List α} (hperm : xs'.Perm xs) (h : xs.mapM f = none) :
    xs'.mapM f = none := by
  cases h' : xs'.mapM f with
  | none => rfl
  | some ys' =>
    obtain ⟨ys, -, hys⟩ := mapM_of_perm hperm.symm h'
    cases h.symm.trans hys

/-- Inserting what is not there yet, one after the other, gives what was inserted and what was there. -/
theorem foldl_insert_perm {insert : List (α × β) → α × β → List (α × β)}
    (hinsert : ∀ es p, p.1 ∉ es.map Prod.fst → (insert es p).Perm (p :: es))
    {ps es : List (α × β)} (h : ((ps ++ es).map Prod.fst).Nodup) :
    (ps.foldl insert es).Perm (ps ++ es) := by
  induction ps generalizing es with
  | nil => exact .refl _
  | cons p ps ih =>
    rw [List.cons_append, List.map_cons, List.nodup_cons, List.map_append, List.mem_append,
      not_or] at h
    obtain ⟨⟨hps, hes⟩, hnodup⟩ := h
    have hmiddle : (ps ++ insert es p).Perm (p :: ps ++ es) :=
      ((hinsert es p hes).append_left ps).trans List.perm_middle
    refine (ih ?_).trans hmiddle
    refine (hmiddle.map Prod.fst).nodup_iff.mpr ?_
    rw [List.cons_append, List.map_cons, List.nodup_cons, List.map_append, List.mem_append, not_or]
    exact ⟨⟨hps, hes⟩, hnodup⟩

end Traverse

/-- The values of the entries, changed by `f`. -/
def echoEntries (f : Value → Option Value) (es : List (String × Value)) :
    Option (List (String × Value)) :=
  es.mapM fun e => (f e.2).map fun w => (e.1, w)

/-- `f` reads a value and writes it again, or fails.  It goes through arrays and maps, and at a node
that is not `ok` it fails or writes something else. -/
structure Echo (R : Value → Value → Prop) (ok : Value → Bool) (f : Value → Option Value) :
    Prop where
  leaf : ∀ v : Value, v.isLeaf = true → v.safe = true →
    ((∃ w, f v = some w ∧ R v w) ↔ ok v = true)
  array : ∀ vs, f (.array vs) = (vs.mapM f).map .array
  ok_array : ∀ vs, ok (.array vs) = true
  ok_str : ∀ s, ok (.str s) = true
  /-- The entries of a map may come in another order. -/
  map : ∀ es : List (String × Value), (es.map Prod.fst).Nodup → ok (.ofEntries es) = true →
    match echoEntries f es with
    | some ls => ∃ ls' : List (String × Value), ls'.Perm ls ∧ f (.ofEntries es) = some (.ofEntries ls')
    | none => f (.ofEntries es) = none
  not_map : ∀ es : List (String × Value), (es.map Prod.fst).Nodup → ok (.ofEntries es) = false →
    ∀ w, f (.ofEntries es) = some w → ¬ (Value.ofEntries es).Agrees R w

section EchoEntries

variable {f : Value → Option Value} {es ls : List (String × Value)}

theorem length_echoEntries (h : echoEntries f es = some ls) : ls.length = es.length :=
  (mapM_eq_some_iff.mp h).length_eq.symm

/-- What is stored under the names is changed by `f`, as far as it goes. -/
theorem mem_echoEntries (hnodup : (es.map Prod.fst).Nodup) (h : echoEntries f es = some ls)
    {e : String × Value} (he : e ∈ es) {w : Value} : (e.1, w) ∈ ls ↔ f e.2 = some w := by
  have hall := mapM_eq_some_iff.mp h
  clear h
  induction hall with
  | nil => cases he
  | @cons e' l es ls hl hall ih =>
    obtain ⟨w', hw', rfl⟩ := Option.map_eq_some_iff.mp hl
    rw [List.map_cons, List.nodup_cons] at hnodup
    have hnames : ls.map Prod.fst = es.map Prod.fst :=
      mapM_entries_keys (mapM_eq_some_iff.mpr hall)
    rw [List.mem_cons]
    rcases List.mem_cons.mp he with rfl | he
    · have hout : (e.1, w) ∉ ls := fun hmem =>
        hnodup.1 (hnames ▸ List.mem_map.mpr ⟨(e.1, w), hmem, rfl⟩)
      rw [hw', or_iff_left hout, Prod.mk.injEq, Option.some_inj, eq_self, true_and, eq_comm]
    · have hne : (e.1, w) ≠ (e'.1, w') := by
        intro heq
        have hname : e.1 = e'.1 := (Prod.mk.inj heq).1
        exact hnodup.1 (hname ▸ List.mem_map_of_mem he)
      rw [or_iff_right hne]
      exact ih hnodup.2 he

theorem exists_echoEntries (h : ∀ e ∈ es, ∃ w, f e.2 = some w) :
    ∃ ls, echoEntries f es = some ls := by
  refine exists_mapM_eq_some.mpr fun e he => ?_
  obtain ⟨w, hw⟩ := h e he
  exact ⟨(e.1, w), by rw [hw]; rfl⟩

end EchoEntries

/-- A codec gives back what it got if and only if every node is one that it gives back. -/
theorem Echo.agrees_iff {R : Value → Value → Prop} {ok : Value → Bool}
    {f : Value → Option Value} (hf : Echo R ok f) {v : Value} (hv : v.safe = true) :
    (∃ w, f v = some w ∧ v.Agrees R w) ↔ v.everywhere ok = true := by
  refine Value.safeInduction ?_ ?_ ?_ v hv
  · intro v hleaf hsafe
    simp only [agrees_of_isLeaf hleaf, everywhere_of_isLeaf hleaf]
    exact hf.leaf v hleaf hsafe
  · intro vs ih
    have helems : (∃ w, f (.array vs) = some w ∧ (Value.array vs).Agrees R w) ↔
        ∃ ws, vs.mapM f = some ws ∧ List.Forall₂ (Value.Agrees R) vs ws := by
      simp only [hf.array, agrees_array, Option.map_eq_some_iff]
      constructor
      · rintro ⟨_, ⟨ws, hws, rfl⟩, ws', heq, hall⟩
        obtain rfl := Value.array.inj heq
        exact ⟨ws, hws, hall⟩
      · rintro ⟨ws, hws, hall⟩
        exact ⟨_, ⟨ws, hws, rfl⟩, ws, rfl, hall⟩
    rw [helems, exists_mapM_iff, everywhere_array, and_iff_right (hf.ok_array vs)]
    exact forall₂_congr fun v hv => (ih v hv).2
  · intro es hnodup ih
    rw [everywhere_ofEntries hf.ok_str]
    cases hok : ok (.ofEntries es) with
    | false =>
      refine iff_of_false ?_ fun h => Bool.false_ne_true h.1
      rintro ⟨w, hw, hagrees⟩
      exact hf.not_map es hnodup hok w hw hagrees
    | true =>
      have hmap := hf.map es hnodup hok
      rw [and_iff_right rfl, ← forall₂_congr fun e he => (ih e he).2]
      constructor
      · rintro ⟨w, hw, hagrees⟩ e he
        cases hls : echoEntries f es with
        | none =>
          rw [hls] at hmap
          have hnone : f (.ofEntries es) = none := hmap
          rw [hnone] at hw
          cases hw
        | some ls =>
          rw [hls] at hmap
          obtain ⟨ls', hperm, hsome⟩ := hmap
          rw [hsome] at hw
          obtain rfl := Option.some.inj hw
          obtain ⟨ls'', heq, -, hall⟩ := agrees_ofEntries.mp hagrees
          obtain ⟨w', hmem, hw'⟩ := hall e he
          rw [← Value.map.inj heq, List.mem_map] at hmem
          obtain ⟨l, hl, hl'⟩ := hmem
          obtain ⟨hname, rfl⟩ := Prod.mk.inj hl'
          have hl : (e.1, l.2) ∈ ls := by
            rw [← Value.str.inj hname]
            exact hperm.mem_iff.mp hl
          exact ⟨l.2, (mem_echoEntries hnodup hls he).mp hl, hw'⟩
      · intro h
        obtain ⟨ls, hls⟩ := exists_echoEntries fun e he => (h e he).imp fun _ hw => hw.1
        rw [hls] at hmap
        obtain ⟨ls', hperm, hsome⟩ := hmap
        refine ⟨.ofEntries ls', hsome, agrees_ofEntries.mpr ⟨_, rfl, ?_, fun e he => ?_⟩⟩
        · rw [List.length_map, hperm.length_eq, length_echoEntries hls]
        · obtain ⟨w, hw, hagrees⟩ := h e he
          refine ⟨w, ?_, hagrees⟩
          have hmem : (e.1, w) ∈ ls' :=
            hperm.mem_iff.mpr ((mem_echoEntries hnodup hls he).mpr hw)
          exact List.mem_map_of_mem hmem

end MsgPack
