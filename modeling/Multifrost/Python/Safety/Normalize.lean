import Mathlib.Data.ENat.Basic
import Multifrost.Lib.MsgPack.RoundTrip
import Multifrost.Python.Safety.ServiceReplies

/-!
# What the encoder of the Python binding lets through

`normalizeMsgpackValue` goes over a tree of built-in objects before it is packed.  It refuses an
integer beyond 64 bits, a float that is not finite or a key that is no `str` anywhere in the tree
(`Object.offends`), and otherwise returns the tree with its bytearrays and tuples replaced
(`Object.plain`), which is all that `msgpack` has types for (`Object.portable`).  So what is encoded
comes back as that tree, as far as the library is faithful to such trees within the limits of the
decoder.

The refusal is a `MalformedFrameError`, with the integer in its message.  The interpreter has no text
for an integer of more than 4300 digits: if the traversal meets one before anything else that offends
(`Object.longIntFirst`), what is raised is the `ValueError` of the message.

The stack and the memory of the interpreter are not modelled.
-/

namespace Multifrost.Python.Service

/-! ### Trees -/

/-- An object that is no container. -/
def Object.isLeaf : Object → Bool
  | .mapping _ | .list _ | .tuple _ => false
  | _ => true

/-- Induction over an object and all that is in it. -/
@[elab_as_elim]
theorem Object.treeInduction {P : Object → Prop} (leaf : ∀ v : Object, v.isLeaf = true → P v)
    (mapping : ∀ items, (∀ item ∈ items, P item.1 ∧ P item.2) → P (.mapping items))
    (list : ∀ items, (∀ item ∈ items, P item) → P (.list items))
    (tuple : ∀ items, (∀ item ∈ items, P item) → P (.tuple items)) (v : Object) : P v := by
  refine @Object.rec P (fun _ => True) (fun items => ∀ item ∈ items, P item.1 ∧ P item.2)
    (fun items => ∀ item ∈ items, P item) (fun _ => True) (fun item => P item.1 ∧ P item.2)
    (leaf _ rfl) (fun _ => leaf _ rfl) (fun _ => leaf _ rfl) (fun _ => leaf _ rfl)
    (fun _ => leaf _ rfl) (fun _ => leaf _ rfl) (fun _ => leaf _ rfl) mapping list tuple
    (fun _ _ _ => leaf _ rfl) (fun _ _ _ => leaf _ rfl) (fun _ => leaf _ rfl)
    (fun _ _ _ _ _ _ _ _ _ _ => trivial) (fun _ _ _ => trivial) trivial ?_ ?_ ?_ ?_
    (fun _ _ => trivial) (fun _ => trivial) ?_ v
  · exact List.forall_mem_nil _
  · intro item items hitem hitems
    exact List.forall_mem_cons.mpr ⟨hitem, hitems⟩
  · exact List.forall_mem_nil _
  · intro item items hitem hitems
    exact List.forall_mem_cons.mpr ⟨hitem, hitems⟩
  · intro key item hkey hitem
    exact ⟨hkey, hitem⟩

mutual

/-- `p` holds of an object and of all that is in it, the keys of mappings included. -/
def Object.everywhere (p : Object → Bool) : Object → Bool
  | .mapping items => p (.mapping items) && everywhereItems p items
  | .list items => p (.list items) && everywhereList p items
  | .tuple items => p (.tuple items) && everywhereList p items
  | v => p v

def everywhereItems (p : Object → Bool) : List (Object × Object) → Bool
  | [] => true
  | (key, item) :: items => key.everywhere p && item.everywhere p && everywhereItems p items

def everywhereList (p : Object → Bool) : List Object → Bool
  | [] => true
  | item :: items => item.everywhere p && everywhereList p items

end

mutual

/-- Bytearrays become bytes and tuples become lists. -/
def Object.plain : Object → Object
  | .bytearray bs => .bytes bs
  | .mapping items => .mapping (plainItems items)
  | .list items | .tuple items => .list (plainList items)
  | v => v

def plainItems : List (Object × Object) → List (Object × Object)
  | [] => []
  | (key, item) :: items => (key.plain, item.plain) :: plainItems items

def plainList : List Object → List Object
  | [] => []
  | item :: items => item.plain :: plainList items

end

mutual

/-- How many containers are inside one another. -/
def Object.depth : Object → Nat
  | .mapping items => depthItems items + 1
  | .list items | .tuple items => depthList items + 1
  | _ => 0

def depthItems : List (Object × Object) → Nat
  | [] => 0
  | (key, item) :: items => max (max key.depth item.depth) (depthItems items)

def depthList : List Object → Nat
  | [] => 0
  | item :: items => max item.depth (depthList items)

end

section Everywhere

variable {p q r : Object → Bool}

theorem everywhereItems_iff {items : List (Object × Object)} :
    everywhereItems p items = true ↔
      ∀ item ∈ items, item.1.everywhere p = true ∧ item.2.everywhere p = true := by
  induction items with
  | nil => simp [everywhereItems]
  | cons item items ih => simp [everywhereItems, ih, and_assoc]

theorem everywhereList_iff {items : List Object} :
    everywhereList p items = true ↔ ∀ item ∈ items, item.everywhere p = true := by
  induction items with
  | nil => simp [everywhereList]
  | cons item items ih => simp [everywhereList, ih]

theorem everywhere_mapping {items : List (Object × Object)} :
    (Object.mapping items).everywhere p = true ↔ p (.mapping items) = true ∧
      ∀ item ∈ items, item.1.everywhere p = true ∧ item.2.everywhere p = true := by
  rw [Object.everywhere, Bool.and_eq_true, everywhereItems_iff]

theorem everywhere_list {items : List Object} :
    (Object.list items).everywhere p = true ↔
      p (.list items) = true ∧ ∀ item ∈ items, item.everywhere p = true := by
  rw [Object.everywhere, Bool.and_eq_true, everywhereList_iff]

theorem everywhere_tuple {items : List Object} :
    (Object.tuple items).everywhere p = true ↔
      p (.tuple items) = true ∧ ∀ item ∈ items, item.everywhere p = true := by
  rw [Object.everywhere, Bool.and_eq_true, everywhereList_iff]

theorem everywhere_of_isLeaf {v : Object} (h : v.isLeaf = true) : v.everywhere p = p v := by
  cases v <;> first | rfl | cases h

theorem plainItems_eq_map (items : List (Object × Object)) :
    plainItems items = items.map fun item => (item.1.plain, item.2.plain) := by
  induction items with
  | nil => rfl
  | cons item items ih => rw [plainItems, ih, List.map_cons]

theorem plainList_eq_map (items : List Object) : plainList items = items.map Object.plain := by
  induction items with
  | nil => rfl
  | cons item items ih => rw [plainList, ih, List.map_cons]

/-- What holds of every node of a tree makes something hold of every node of the plain one. -/
theorem everywhere_plain (hpqr : ∀ w : Object, p w = true → q w = true → r w.plain = true)
    (v : Object) (hp : v.everywhere p = true) (hq : v.everywhere q = true) :
    v.plain.everywhere r = true := by
  induction v using Object.treeInduction with
  | leaf v hleaf =>
    have hplain : v.plain.isLeaf = true := by
      cases v <;> first | rfl | cases hleaf
    rw [everywhere_of_isLeaf hleaf] at hp hq
    rw [everywhere_of_isLeaf hplain]
    exact hpqr v hp hq
  | mapping items ih =>
    obtain ⟨hpnode, hpitems⟩ := everywhere_mapping.mp hp
    obtain ⟨hqnode, hqitems⟩ := everywhere_mapping.mp hq
    have hnode := hpqr _ hpnode hqnode
    rw [Object.plain] at hnode ⊢
    refine everywhere_mapping.mpr ⟨hnode, ?_⟩
    rw [plainItems_eq_map, List.forall_mem_map]
    intro item hitem
    exact ⟨(ih item hitem).1 (hpitems item hitem).1 (hqitems item hitem).1,
      (ih item hitem).2 (hpitems item hitem).2 (hqitems item hitem).2⟩
  | list items ih =>
    obtain ⟨hpnode, hpitems⟩ := everywhere_list.mp hp
    obtain ⟨hqnode, hqitems⟩ := everywhere_list.mp hq
    have hnode := hpqr _ hpnode hqnode
    rw [Object.plain] at hnode ⊢
    refine everywhere_list.mpr ⟨hnode, ?_⟩
    rw [plainList_eq_map, List.forall_mem_map]
    exact fun item hitem => ih item hitem (hpitems item hitem) (hqitems item hitem)
  | tuple items ih =>
    obtain ⟨hpnode, hpitems⟩ := everywhere_tuple.mp hp
    obtain ⟨hqnode, hqitems⟩ := everywhere_tuple.mp hq
    have hnode := hpqr _ hpnode hqnode
    rw [Object.plain] at hnode ⊢
    refine everywhere_list.mpr ⟨hnode, ?_⟩
    rw [plainList_eq_map, List.forall_mem_map]
    exact fun item hitem => ih item hitem (hpitems item hitem) (hqitems item hitem)

theorem everywhere_mono (hpq : ∀ w, p w = true → q w = true) (v : Object)
    (h : v.everywhere p = true) : v.everywhere q = true := by
  induction v using Object.treeInduction with
  | leaf v hleaf =>
    rw [everywhere_of_isLeaf hleaf] at h ⊢
    exact hpq v h
  | mapping items ih =>
    obtain ⟨hnode, hitems⟩ := everywhere_mapping.mp h
    exact everywhere_mapping.mpr ⟨hpq _ hnode, fun item hitem =>
      ⟨(ih item hitem).1 (hitems item hitem).1, (ih item hitem).2 (hitems item hitem).2⟩⟩
  | list items ih =>
    obtain ⟨hnode, hitems⟩ := everywhere_list.mp h
    exact everywhere_list.mpr ⟨hpq _ hnode, fun item hitem => ih item hitem (hitems item hitem)⟩
  | tuple items ih =>
    obtain ⟨hnode, hitems⟩ := everywhere_tuple.mp h
    exact everywhere_tuple.mpr ⟨hpq _ hnode, fun item hitem => ih item hitem (hitems item hitem)⟩

end Everywhere

theorem plain_plain (v : Object) : v.plain.plain = v.plain := by
  induction v using Object.treeInduction with
  | leaf v hleaf => cases v <;> first | rfl | cases hleaf
  | mapping items ih =>
    rw [Object.plain, Object.plain, plainItems_eq_map, plainItems_eq_map, List.map_map]
    refine congrArg Object.mapping (List.map_congr_left fun item hitem => ?_)
    show (item.1.plain.plain, item.2.plain.plain) = (item.1.plain, item.2.plain)
    rw [(ih item hitem).1, (ih item hitem).2]
  | list items ih =>
    rw [Object.plain, Object.plain, plainList_eq_map, plainList_eq_map, List.map_map]
    exact congrArg Object.list (List.map_congr_left ih)
  | tuple items ih =>
    rw [Object.plain, Object.plain, plainList_eq_map, plainList_eq_map, List.map_map]
    exact congrArg Object.list (List.map_congr_left ih)

theorem depthList_plain {items : List Object} (h : ∀ item ∈ items, item.plain.depth = item.depth) :
    depthList (plainList items) = depthList items := by
  induction items with
  | nil => rfl
  | cons item items ih =>
    obtain ⟨hitem, hitems⟩ := List.forall_mem_cons.mp h
    rw [plainList, depthList, depthList, hitem, ih hitems]

theorem depthItems_plain {items : List (Object × Object)}
    (h : ∀ item ∈ items, item.1.plain.depth = item.1.depth ∧ item.2.plain.depth = item.2.depth) :
    depthItems (plainItems items) = depthItems items := by
  induction items with
  | nil => rfl
  | cons item items ih =>
    obtain ⟨hitem, hitems⟩ := List.forall_mem_cons.mp h
    rw [plainItems, depthItems, depthItems, hitem.1, hitem.2, ih hitems]

theorem depth_plain (v : Object) : v.plain.depth = v.depth := by
  induction v using Object.treeInduction with
  | leaf v hleaf => cases v <;> first | rfl | cases hleaf
  | mapping items ih => rw [Object.plain, Object.depth, Object.depth, depthItems_plain ih]
  | list items ih => rw [Object.plain, Object.depth, Object.depth, depthList_plain ih]
  | tuple items ih => rw [Object.plain, Object.depth, Object.depth, depthList_plain ih]

/-! ### Kinds of trees -/

def Object.isStr : Object → Bool
  | .str _ => true
  | _ => false

/-- The keys of a dictionary that are strings. -/
def strKeys (items : List (Object × Object)) : List Str :=
  items.filterMap fun item =>
    match item.1 with
    | .str s => some s
    | _ => none

/-- An object of one of the built-in types.  A dictionary has no key twice. -/
def basicNode : Object → Bool
  | .mapping items => decide (strKeys items).Nodup
  | .converted _ _ | .broken _ _ | .other _ => false
  | _ => true

/-- An object that is not refused for itself. -/
def soundNode : Object → Bool
  | .int i => decide (int64Min ≤ i ∧ i ≤ int64Max)
  | .float x => x.isFinite
  | .mapping items => items.all fun item => item.1.isStr
  | _ => true

/-- An object of which there is something on the wire. -/
def portableNode : Object → Bool
  | .none | .bool _ | .str _ | .bytes _ | .list _ => true
  | .int i => decide (int64Min ≤ i ∧ i ≤ int64Max)
  | .float x => x.isFinite
  | .mapping items => decide (strKeys items).Nodup && items.all fun item => item.1.isStr
  | _ => false

/-- Built of `None`, `bool`, `int`, `float`, `str`, `bytes`, `bytearray`, `list`, `tuple` and `dict`. -/
def Object.basic (v : Object) : Bool := v.everywhere basicNode

/-- Somewhere there is an integer beyond 64 bits, a float that is not finite or a key that is no
string. -/
def Object.offends (v : Object) : Bool := !v.everywhere soundNode

/-- Built of `None`, `bool`, 64-bit `int`, finite `float`, `str`, `bytes`, `list` and `dict` from
`str`. -/
def Object.portable (v : Object) : Bool := v.everywhere portableNode

mutual

/-- In the order of the traversal, an integer of more than 4300 digits comes before all else that
offends. -/
def Object.longIntFirst : Object → Bool
  | .int i => tooLong i
  | .mapping items => longIntFirstItems items
  | .list items | .tuple items => longIntFirstList items
  | _ => false

/-- The key of an item is looked at before its value. -/
def longIntFirstItems : List (Object × Object) → Bool
  | [] => false
  | (key, item) :: items =>
    key.isStr && (item.longIntFirst || (item.everywhere soundNode && longIntFirstItems items))

def longIntFirstList : List Object → Bool
  | [] => false
  | item :: items => item.longIntFirst || (item.everywhere soundNode && longIntFirstList items)

end

theorem all_isStr_iff {items : List (Object × Object)} :
    (items.all fun item => item.1.isStr) = true ↔ ∀ item ∈ items, ∃ s, item.1 = .str s := by
  rw [List.all_eq_true]
  refine forall₂_congr fun item _ => ?_
  cases item.1 <;> simp [Object.isStr]

/-- Keys that are strings are as they were. -/
theorem keys_plainItems {items : List (Object × Object)}
    (h : ∀ item ∈ items, ∃ s, item.1 = .str s) :
    (plainItems items).map Prod.fst = items.map Prod.fst := by
  rw [plainItems_eq_map, List.map_map]
  refine List.map_congr_left fun item hitem => ?_
  obtain ⟨s, hs⟩ := h item hitem
  show item.1.plain = item.1
  rw [hs]
  rfl

theorem strKeys_congr {items items' : List (Object × Object)}
    (h : items.map Prod.fst = items'.map Prod.fst) : strKeys items = strKeys items' := by
  have hmap : ∀ items, strKeys items = (items.map Prod.fst).filterMap fun key =>
      match key with
      | .str s => some s
      | _ => none := by
    intro items
    rw [List.filterMap_map]
    rfl
  rw [hmap, hmap, h]

theorem portableNode_plain (w : Object) (hbasic : basicNode w = true)
    (hsound : soundNode w = true) : portableNode w.plain = true := by
  cases w with
  | mapping items =>
    have hkeys := all_isStr_iff.mp hsound
    have hplain := keys_plainItems hkeys
    have hnodup : (strKeys (plainItems items)).Nodup := by
      rw [strKeys_congr hplain]
      exact of_decide_eq_true hbasic
    have hall : ((plainItems items).all fun item => item.1.isStr) = true := by
      rw [plainItems_eq_map, all_isStr_iff, List.forall_mem_map]
      intro item hitem
      obtain ⟨s, hs⟩ := hkeys item hitem
      exact ⟨s, by rw [hs]; rfl⟩
    rw [Object.plain, portableNode, decide_eq_true hnodup, hall]
    rfl
  | int i => exact hsound
  | float x => exact hsound
  | none | bool _ | str _ | bytes _ | bytearray _ | list _ | tuple _ => rfl
  | converted _ _ | broken _ _ | other _ => cases hbasic

theorem soundNode_of_portableNode (w : Object) (h : portableNode w = true) :
    soundNode w = true := by
  cases w with
  | mapping items => exact (Bool.and_eq_true_iff.mp h).2
  | int i => exact h
  | float x => exact h
  | none | bool _ | str _ | bytes _ | list _ => rfl
  | bytearray _ | tuple _ | converted _ _ | broken _ _ | other _ => rfl

theorem basicNode_of_portableNode (w : Object) (h : portableNode w = true) :
    basicNode w = true := by
  cases w with
  | mapping items => exact (Bool.and_eq_true_iff.mp h).1
  | none | bool _ | int _ | float _ | str _ | bytes _ | list _ => rfl
  | bytearray _ | tuple _ => rfl
  | converted _ _ | broken _ _ | other _ => cases h

/-- The plain tree of one that is not refused is portable. -/
theorem portable_plain {v : Object} (hbasic : v.basic = true) (hsound : v.offends = false) :
    v.plain.portable = true :=
  everywhere_plain portableNode_plain v hbasic (by rwa [Object.offends, Bool.not_eq_false'] at hsound)

/-! ### The normaliser -/

/-- What is raised at a tree that offends; `long` tells whether an integer that is too long for its
message comes first. -/
inductive Refusal : Bool → Raised → Prop
  | long : Refusal true maxStrDigitsError
  | malformed (message : Str) : Refusal false (malformedFrameError message)

/-- A part of a tree is normalised, or the tree is refused at it. -/
inductive Settled {α : Type} (sound long : Bool) (normalized : Except Raised α) (plain : α) : Prop
  | returns (hsound : sound = true) (hlong : long = false) (hok : normalized = .ok plain)
  | refuses (hsound : sound = false) (err : Raised) (herr : Refusal long err)
      (herror : normalized = .error err)

/-- It returns the plain tree, or refuses it. -/
def Settles (v : Object) : Prop :=
  Settled (v.everywhere soundNode) v.longIntFirst (normalizeMsgpackValue v) v.plain

/-- An integer of 64 bits has a text. -/
theorem not_tooLong_of_int64 {i : Int} (h : int64Min ≤ i ∧ i ≤ int64Max) :
    tooLong i = false := by
  have hpow : 10 ^ 20 ≤ 10 ^ maxStrDigits := Nat.pow_le_pow_right (by decide) (by decide)
  have hsmall : i.natAbs ≤ 2 ^ 63 := by
    unfold int64Min int64Max at h
    omega
  exact decide_eq_false fun hle => absurd ((hpow.trans hle).trans hsmall) (by decide)

theorem settles_int (i : Int) : Settles (.int i) := by
  rw [Settles, everywhere_of_isLeaf rfl, Object.longIntFirst, normalizeMsgpackValue]
  by_cases h : i < int64Min ∨ int64Max < i
  · rw [if_pos h]
    have hsound : soundNode (.int i) = false := decide_eq_false (by omega)
    rw [formatInt]
    cases tooLong i with
    | true => exact .refuses hsound maxStrDigitsError .long rfl
    | false => exact .refuses hsound _ (.malformed _) rfl
  · rw [if_neg h]
    have hrange : int64Min ≤ i ∧ i ≤ int64Max := by omega
    exact .returns (decide_eq_true hrange) (not_tooLong_of_int64 hrange) rfl

theorem settles_leaf {v : Object} (hleaf : v.isLeaf = true) (hbasic : basicNode v = true) :
    Settles v := by
  cases v with
  | int i => exact settles_int i
  | float x =>
    rw [Settles, normalizeMsgpackValue]
    by_cases h : x.isFinite = true
    · rw [if_pos h]
      exact .returns h rfl rfl
    · rw [if_neg h]
      exact .refuses (Bool.eq_false_of_not_eq_true h) _ (.malformed _) rfl
  | none => exact .returns rfl rfl rfl
  | bool b => exact .returns rfl rfl rfl
  | str s => exact .returns rfl rfl rfl
  | bytes bs => exact .returns rfl rfl rfl
  | bytearray bs => exact .returns rfl rfl rfl
  | mapping items => cases hleaf
  | list items => cases hleaf
  | tuple items => cases hleaf
  | converted type inner => cases hbasic
  | broken type err => cases hbasic
  | other type => cases hbasic

/-- The first element that is refused decides. -/
theorem normalizeList_settled {items : List Object} (h : ∀ item ∈ items, Settles item) :
    Settled (everywhereList soundNode items) (longIntFirstList items) (normalizeList items)
      (plainList items) := by
  induction items with
  | nil => exact .returns rfl rfl rfl
  | cons item items ih =>
    obtain ⟨hitem, hitems⟩ := List.forall_mem_cons.mp h
    rw [everywhereList, longIntFirstList, normalizeList, plainList]
    cases hitem with
    | returns hsound hlong hok =>
      rw [hsound, hlong, hok, Bool.true_and, Bool.true_and, Bool.false_or]
      cases ih hitems with
      | returns hsound hlong hok => exact .returns hsound hlong (by rw [hok]; rfl)
      | refuses hsound err herr herror => exact .refuses hsound err herr (by rw [herror]; rfl)
    | refuses hsound err herr herror =>
      rw [hsound, herror, Bool.false_and, Bool.false_and, Bool.or_false]
      exact .refuses rfl err herr rfl

theorem normalizeItems_of_not_str {key : Object} (hkey : key.isStr = false) (item : Object)
    (items : List (Object × Object)) :
    ∃ message, normalizeItems ((key, item) :: items) = .error (malformedFrameError message) := by
  cases key with
  | str s => cases hkey
  | _ => exact ⟨_, rfl⟩

/-- A key that is no string is refused before its value is looked at. -/
theorem normalizeItems_settled {items : List (Object × Object)}
    (h : ∀ item ∈ items, Settles item.1 ∧ Settles item.2) :
    Settled ((items.all fun item => item.1.isStr) && everywhereItems soundNode items)
      (longIntFirstItems items) (normalizeItems items) (plainItems items) := by
  induction items with
  | nil => exact .returns rfl rfl rfl
  | cons item items ih =>
    obtain ⟨hitem, hitems⟩ := List.forall_mem_cons.mp h
    obtain ⟨key, value⟩ := item
    cases hkey : key.isStr with
    | false =>
      obtain ⟨message, herror⟩ := normalizeItems_of_not_str hkey value items
      rw [List.all_cons, longIntFirstItems, hkey, herror]
      exact .refuses rfl _ (.malformed message) rfl
    | true =>
      obtain ⟨s, rfl⟩ : ∃ s, key = .str s := by
        cases key <;> first | exact ⟨_, rfl⟩ | cases hkey
      have hname : (Object.str s).everywhere soundNode = true := rfl
      rw [List.all_cons, hkey, everywhereItems, longIntFirstItems, hkey, normalizeItems, plainItems,
        hname, Bool.true_and, Bool.true_and, Bool.true_and, Bool.and_left_comm]
      cases hitem.2 with
      | returns hsound hlong hok =>
        rw [hsound, hlong, hok, Bool.true_and, Bool.true_and, Bool.false_or]
        cases ih hitems with
        | returns hsound hlong hok => exact .returns hsound hlong (by rw [hok]; rfl)
        | refuses hsound err herr herror => exact .refuses hsound err herr (by rw [herror]; rfl)
      | refuses hsound err herr herror =>
        rw [hsound, herror, Bool.false_and, Bool.false_and, Bool.or_false]
        exact .refuses rfl err herr rfl

theorem settles_list {items : List Object} (h : ∀ item ∈ items, Settles item) :
    Settles (.list items) := by
  have hnode : soundNode (.list items) = true := rfl
  rw [Settles, Object.everywhere, Object.longIntFirst, normalizeMsgpackValue, Object.plain, hnode,
    Bool.true_and]
  cases normalizeList_settled h with
  | returns hsound hlong hok => exact .returns hsound hlong (by rw [hok])
  | refuses hsound err herr herror => exact .refuses hsound err herr (by rw [herror])

/-- A tuple is normalised as a list. -/
theorem settles_tuple_iff {items : List Object} : Settles (.tuple items) ↔ Settles (.list items) :=
  Iff.rfl

/-- **The normaliser settles** on every tree of built-in objects. -/
theorem settles (v : Object) (hbasic : v.basic = true) : Settles v := by
  induction v using Object.treeInduction with
  | leaf v hleaf =>
    refine settles_leaf hleaf ?_
    rw [Object.basic, everywhere_of_isLeaf hleaf] at hbasic
    exact hbasic
  | mapping items ih =>
    have hitems := (everywhere_mapping.mp hbasic).2
    have hsettled := normalizeItems_settled fun item hitem =>
      ⟨(ih item hitem).1 (hitems item hitem).1, (ih item hitem).2 (hitems item hitem).2⟩
    rw [Settles, Object.everywhere, Object.longIntFirst, normalizeMsgpackValue, Object.plain,
      soundNode]
    cases hsettled with
    | returns hsound hlong hok => exact .returns hsound hlong (by rw [hok])
    | refuses hsound err herr herror => exact .refuses hsound err herr (by rw [herror])
  | list items ih =>
    have hitems := (everywhere_list.mp hbasic).2
    exact settles_list fun item hitem => ih item hitem (hitems item hitem)
  | tuple items ih =>
    have hitems := (everywhere_tuple.mp hbasic).2
    exact settles_tuple_iff.mpr (settles_list fun item hitem => ih item hitem (hitems item hitem))

/-- What is plain and not refused stays as it is. -/
theorem normalizeMsgpackValue_of_portable {v : Object} (h : v.portable = true) :
    normalizeMsgpackValue v = .ok v.plain := by
  have hbasic : v.basic = true := everywhere_mono basicNode_of_portableNode v h
  have hsound : v.everywhere soundNode = true := everywhere_mono soundNode_of_portableNode v h
  cases settles v hbasic with
  | returns _ _ hok => exact hok
  | refuses hnot _ _ _ =>
    rw [hsound] at hnot
    cases hnot

/-! ### The codec -/

/-- What the decoder takes of one object; a string is measured in UTF-8. -/
def limitNode : Object → Bool
  | .str s => (utf8? s).all fun text => decide (text.utf8ByteSize ≤ maxStrLen)
  | .bytes bs | .bytearray bs => decide (bs.length ≤ maxBinLen)
  | .list items | .tuple items => decide (items.length ≤ maxArrayLen)
  | .mapping items => decide (items.length ≤ maxMapLen)
  | _ => true

def encodableNode : Object → Bool
  | .str s => (utf8? s).isSome
  | _ => true

/-- Everything is within the limits of the decoder. -/
def Object.withinLimits (v : Object) : Bool := v.everywhere limitNode

/-- No string has a lone surrogate. -/
def Object.encodable (v : Object) : Bool := v.everywhere encodableNode

/-- The library packs portable trees, and unpacks them as they were, within the limits of the
decoder.  `nest` is the depth that it goes to. -/
structure Faithful (rt : Runtime) (nest : ℕ∞) : Prop where
  packb : ∀ v : Object, v.portable = true → v.encodable = true → v.withinLimits = true →
    v.depth ≤ nest → ∃ data, rt.packb v = .ok data
  unpackb : ∀ v : Object, v.portable = true → v.encodable = true → v.withinLimits = true →
    v.depth ≤ nest → ∀ data, rt.packb v = .ok data → rt.unpackb data = .ok v

theorem limitNode_plain (w : Object) (h : limitNode w = true) (_ : limitNode w = true) :
    limitNode w.plain = true := by
  cases w with
  | mapping items =>
    rw [Object.plain, limitNode, plainItems_eq_map, List.length_map]
    exact h
  | list items =>
    rw [Object.plain, limitNode, plainList_eq_map, List.length_map]
    exact h
  | tuple items =>
    rw [Object.plain, limitNode, plainList_eq_map, List.length_map]
    exact h
  | none | bool _ | int _ | float _ | str _ | bytes _ | bytearray _ => exact h
  | converted _ _ | broken _ _ | other _ => rfl

theorem encodableNode_plain (w : Object) (h : encodableNode w = true)
    (_ : encodableNode w = true) : encodableNode w.plain = true := by
  cases w with
  | str s => exact h
  | _ => rfl

theorem decodeMsgpack_encodeMsgpack {rt : Runtime} {nest : ℕ∞} (hrt : Faithful rt nest)
    {v : Object} (hnormal : normalizeMsgpackValue v = .ok v.plain)
    (hportable : v.plain.portable = true) (hencodable : v.encodable = true)
    (hlimits : v.withinLimits = true) (hdepth : v.depth ≤ nest) :
    ∃ data, encodeMsgpack rt v = .ok data ∧ decodeMsgpack rt data = .ok v.plain := by
  have hencodable' : v.plain.encodable = true :=
    everywhere_plain encodableNode_plain v hencodable hencodable
  have hlimits' : v.plain.withinLimits = true :=
    everywhere_plain limitNode_plain v hlimits hlimits
  have hdepth' : v.plain.depth ≤ nest := by
    rw [depth_plain]
    exact hdepth
  obtain ⟨data, hpack⟩ := hrt.packb _ hportable hencodable' hlimits' hdepth'
  have hunpack := hrt.unpackb _ hportable hencodable' hlimits' hdepth' data hpack
  refine ⟨data, ?_, ?_⟩
  · simp only [encodeMsgpack, hnormal, hpack, bind, Except.bind]
  · rw [decodeMsgpack, hunpack]

theorem maxStrDigitsError_ne (message : Str) : maxStrDigitsError ≠ malformedFrameError message := by
  intro h
  injection h with htype
  exact absurd htype (by decide)

/-- The normaliser raises a `MalformedFrameError` at what offends, and at nothing else. -/
def RaisesMalformed (v : Object) : Prop :=
  (∃ message, normalizeMsgpackValue v = .error (malformedFrameError message)) ↔ v.offends = true

theorem raisesMalformed_iff {v : Object} (h : Settles v) :
    RaisesMalformed v ↔ v.longIntFirst = false := by
  unfold RaisesMalformed
  cases h with
  | returns hsound hlong hok =>
    refine iff_of_true ?_ hlong
    rw [hok, Object.offends, hsound]
    exact iff_of_false (fun ⟨_, h⟩ => nomatch h) Bool.false_ne_true
  | refuses hsound err herr herror =>
    have hoffends : v.offends = true := by rw [Object.offends, hsound]; rfl
    rw [herror, iff_true_right hoffends]
    generalize v.longIntFirst = long at herr
    cases herr with
    | malformed message => exact iff_of_true ⟨message, rfl⟩ rfl
    | long =>
      refine iff_of_false ?_ (by decide)
      rintro ⟨message, hmessage⟩
      exact maxStrDigitsError_ne message (Except.error.inj hmessage)

/-- **The encoder lets through what is portable.**  Of a tree of built-in objects, the normaliser
raises a `MalformedFrameError` if something in it offends, and only then, if and only if the traversal
does not meet an integer of more than 4300 digits before all else that offends.  A tree that does not
offend becomes the plain tree, which is portable.  What is returned, is returned again.  And a tree that
does not offend comes back from the codec as the plain one. -/
theorem normalizeMsgpackValue_spec (v : Object) (hbasic : v.basic = true) :
    (RaisesMalformed v ↔ v.longIntFirst = false) ∧
    (v.offends = false → normalizeMsgpackValue v = .ok v.plain ∧ v.plain.portable = true) ∧
    (∀ w, normalizeMsgpackValue v = .ok w → normalizeMsgpackValue w = .ok w) ∧
    ∀ rt nest, Faithful rt nest → v.offends = false → v.encodable = true →
      v.withinLimits = true → v.depth ≤ nest →
      ∃ data, encodeMsgpack rt v = .ok data ∧ decodeMsgpack rt data = .ok v.plain := by
  have hsettles := settles v hbasic
  refine ⟨raisesMalformed_iff hsettles, ?_⟩
  cases hsettles with
  | returns hsound hlong hok =>
    have hoffends : v.offends = false := by rw [Object.offends, hsound]; rfl
    have hportable := portable_plain hbasic hoffends
    refine ⟨fun _ => ⟨hok, hportable⟩, ?_, ?_⟩
    · intro w hw
      rw [hok] at hw
      obtain rfl := Except.ok.inj hw
      rw [normalizeMsgpackValue_of_portable hportable, plain_plain]
    · exact fun rt nest hrt _ hencodable hlimits hdepth =>
        decodeMsgpack_encodeMsgpack hrt hok hportable hencodable hlimits hdepth
  | refuses hnot err herr herror =>
    have hoffends : v.offends = true := by rw [Object.offends, hnot]; rfl
    refine ⟨?_, ?_, ?_⟩
    · intro h
      rw [hoffends] at h
      cases h
    · intro w hw
      rw [herror] at hw
      cases hw
    · intro rt nest hrt h
      rw [hoffends] at h
      cases h

/-- An integer of more than 4300 digits offends, but its refusal is a `ValueError`. -/
theorem not_malformed_of_tooLong {i : Int} (hlong : tooLong i = true) :
    (Object.int i).basic = true ∧ (Object.int i).offends = true ∧
      normalizeMsgpackValue (.int i) = .error maxStrDigitsError ∧ ¬ RaisesMalformed (.int i) := by
  have hsettles := settles_int i
  have hfirst : ¬ RaisesMalformed (.int i) := by
    rw [raisesMalformed_iff hsettles, Object.longIntFirst, hlong]
    exact fun h => Bool.noConfusion h
  cases hsettles with
  | returns hsound hnot hok =>
    rw [Object.longIntFirst, hlong] at hnot
    cases hnot
  | refuses hsound err herr herror =>
    rw [Object.longIntFirst, hlong] at herr
    cases herr
    exact ⟨rfl, by rw [Object.offends, hsound]; rfl, herror, hfirst⟩

theorem tooLong_ten_pow : tooLong (10 ^ maxStrDigits) = true := by
  have hten : (10 : Int).natAbs = 10 := rfl
  rw [tooLong, decide_eq_true_eq, Int.natAbs_pow, hten]

/-- The least integer of 4301 digits. -/
theorem longInt_not_malformed :
    (Object.int (10 ^ maxStrDigits)).basic = true ∧
      (Object.int (10 ^ maxStrDigits)).offends = true ∧
      normalizeMsgpackValue (.int (10 ^ maxStrDigits)) = .error maxStrDigitsError ∧
      ¬ RaisesMalformed (.int (10 ^ maxStrDigits)) :=
  not_malformed_of_tooLong tooLong_ten_pow

section Sample

open MsgPack (Value)

mutual

/-- What `unpackb` returns; an extension is a named tuple. -/
def ofValue : Value → Object
  | .nil => .none
  | .bool b => .bool b
  | .int i => .int i
  | .float x => .float x
  | .str s => .str (Str.ofString s)
  | .bin bs => .bytes bs
  | .array vs => .list (ofValues vs)
  | .map kvs => .mapping (ofEntries kvs)
  | .ext type data => .tuple [.int type.toInt8.toInt, .bytes data]

def ofValues : List Value → List Object
  | [] => []
  | v :: vs => ofValue v :: ofValues vs

def ofEntries : List (Value × Value) → List (Object × Object)
  | [] => []
  | (k, v) :: kvs => (ofValue k, ofValue v) :: ofEntries kvs

end

/-- The library at trees of any depth. -/
def treeRuntime : Runtime where
  packb := localRuntime.packb
  unpackb data :=
    match MsgPack.fromSlice data with
    | some value => .ok (ofValue value)
    | none => .error (.named "incomplete input")
  str := localRuntime.str
  repr := localRuntime.repr

theorem ofString_of_utf8 {s : Str} {text : String} (h : utf8? s = some text) :
    Str.ofString text = s := by
  unfold utf8? at h
  split_ifs at h with hvalid
  obtain rfl := Option.some.inj h
  rw [List.all_eq_true] at hvalid
  rw [Str.ofString, String.toList_ofList, List.map_map]
  refine (List.map_congr_left fun c hc => ?_).trans (List.map_id s)
  have hchar : c.val.isValidChar := of_decide_eq_true (hvalid c hc)
  apply Fin.ext
  have htoNat : (Char.ofNat c.val).toNat = c.val := by
    rw [Char.ofNat, dif_pos hchar]
    rfl
  show (Char.ofNat c.val).toNat % 0x110000 = c.val
  rw [htoNat, Nat.mod_eq_of_lt c.isLt]

/-- A portable tree is written and read back. -/
def Recovered (v : Object) : Prop :=
  ∃ value, toValue v = some value ∧ ofValue value = v ∧ value.encodable = true

theorem toValues_recovered {items : List Object} (h : ∀ item ∈ items, Recovered item) :
    ∃ values, toValues items = some values ∧ ofValues values = items ∧
      values.length = items.length ∧ ∀ value ∈ values, value.encodable = true := by
  induction items with
  | nil => exact ⟨[], rfl, rfl, rfl, List.forall_mem_nil _⟩
  | cons item items ih =>
    obtain ⟨hitem, hitems⟩ := List.forall_mem_cons.mp h
    obtain ⟨value, hvalue, hback, hencodable⟩ := hitem
    obtain ⟨values, hvalues, hbacks, hlen, hall⟩ := ih hitems
    refine ⟨value :: values, ?_, ?_, ?_, List.forall_mem_cons.mpr ⟨hencodable, hall⟩⟩
    · rw [toValues, hvalue, hvalues]
      rfl
    · rw [ofValues, hback, hbacks]
    · rw [List.length_cons, List.length_cons, hlen]

theorem toEntries_recovered {items : List (Object × Object)}
    (h : ∀ item ∈ items, Recovered item.1 ∧ Recovered item.2) :
    ∃ entries, toEntries items = some entries ∧ ofEntries entries = items ∧
      entries.length = items.length ∧
      ∀ entry ∈ entries, entry.1.encodable = true ∧ entry.2.encodable = true := by
  induction items with
  | nil => exact ⟨[], rfl, rfl, rfl, List.forall_mem_nil _⟩
  | cons item items ih =>
    obtain ⟨hitem, hitems⟩ := List.forall_mem_cons.mp h
    obtain ⟨key, item⟩ := item
    obtain ⟨⟨name, hname, hnameBack, hnameEncodable⟩, value, hvalue, hback, hencodable⟩ := hitem
    obtain ⟨entries, hentries, hbacks, hlen, hall⟩ := ih hitems
    refine ⟨(name, value) :: entries, ?_, ?_, ?_,
      List.forall_mem_cons.mpr ⟨⟨hnameEncodable, hencodable⟩, hall⟩⟩
    · rw [toEntries, hname, hvalue, hentries]
      rfl
    · rw [ofEntries, hnameBack, hback, hbacks]
    · rw [List.length_cons, List.length_cons, hlen]

theorem recovered_leaf {v : Object} (hleaf : v.isLeaf = true) (hportable : portableNode v = true)
    (hencodable : encodableNode v = true) (hlimit : limitNode v = true) : Recovered v := by
  cases v with
  | none => exact ⟨.nil, rfl, rfl, rfl⟩
  | bool b => exact ⟨.bool b, rfl, rfl, rfl⟩
  | int i =>
    have hrange : int64Min ≤ i ∧ i ≤ int64Max := of_decide_eq_true hportable
    have hfits : -2 ^ 63 ≤ i ∧ i < 2 ^ 64 := by
      unfold int64Min int64Max at hrange
      omega
    refine ⟨.int i, rfl, rfl, ?_⟩
    rw [Value.encodable, MsgPack.everywhere_of_isLeaf rfl, MsgPack.encodableNode,
      decide_eq_true hfits]
  | float x => exact ⟨.float x, rfl, rfl, rfl⟩
  | str s =>
    obtain ⟨text, htext⟩ := Option.isSome_iff_exists.mp hencodable
    have hsize : text.utf8ByteSize ≤ maxStrLen := by
      rw [limitNode, htext] at hlimit
      exact of_decide_eq_true hlimit
    have hfits : text.utf8ByteSize < 2 ^ 32 := lt_of_le_of_lt hsize (by decide)
    refine ⟨.str text, ?_, ?_, decide_eq_true hfits⟩
    · rw [toValue, htext]
      rfl
    · rw [ofValue, ofString_of_utf8 htext]
  | bytes bs =>
    have hsize : bs.length ≤ maxBinLen := of_decide_eq_true hlimit
    have hfits : bs.length < 2 ^ 32 := lt_of_le_of_lt hsize (by decide)
    exact ⟨.bin bs, rfl, rfl, decide_eq_true hfits⟩
  | mapping items => cases hleaf
  | list items => cases hleaf
  | tuple items => cases hleaf
  | bytearray _ | converted _ _ | broken _ _ | other _ => cases hportable

theorem recovered (v : Object) (hportable : v.portable = true) (hencodable : v.encodable = true)
    (hlimits : v.withinLimits = true) : Recovered v := by
  induction v using Object.treeInduction with
  | leaf v hleaf =>
    rw [Object.portable, everywhere_of_isLeaf hleaf] at hportable
    rw [Object.encodable, everywhere_of_isLeaf hleaf] at hencodable
    rw [Object.withinLimits, everywhere_of_isLeaf hleaf] at hlimits
    exact recovered_leaf hleaf hportable hencodable hlimits
  | mapping items ih =>
    obtain ⟨hlimit, hlimits⟩ := everywhere_mapping.mp hlimits
    have hitems := (everywhere_mapping.mp hportable).2
    have hnames := (everywhere_mapping.mp hencodable).2
    obtain ⟨entries, hentries, hback, hlen, hall⟩ := toEntries_recovered fun item hitem =>
      ⟨(ih item hitem).1 (hitems item hitem).1 (hnames item hitem).1 (hlimits item hitem).1,
        (ih item hitem).2 (hitems item hitem).2 (hnames item hitem).2 (hlimits item hitem).2⟩
    have hsize : items.length ≤ maxMapLen := of_decide_eq_true hlimit
    have hfits : entries.length < 2 ^ 32 := by
      rw [hlen]
      exact lt_of_le_of_lt hsize (by decide)
    refine ⟨.map entries, ?_, ?_, MsgPack.everywhere_map.mpr ⟨decide_eq_true hfits, hall⟩⟩
    · rw [toValue, hentries]
      rfl
    · rw [ofValue, hback]
  | list items ih =>
    obtain ⟨hlimit, hlimits⟩ := everywhere_list.mp hlimits
    have hitems := (everywhere_list.mp hportable).2
    have hnames := (everywhere_list.mp hencodable).2
    obtain ⟨values, hvalues, hback, hlen, hall⟩ := toValues_recovered fun item hitem =>
      ih item hitem (hitems item hitem) (hnames item hitem) (hlimits item hitem)
    have hsize : items.length ≤ maxArrayLen := of_decide_eq_true hlimit
    have hfits : values.length < 2 ^ 32 := by
      rw [hlen]
      exact lt_of_le_of_lt hsize (by decide)
    refine ⟨.array values, ?_, ?_, MsgPack.everywhere_array.mpr ⟨decide_eq_true hfits, hall⟩⟩
    · rw [toValue, hvalues]
      rfl
    · rw [ofValue, hback]
  | tuple items _ => cases (everywhere_tuple.mp hportable).1

theorem faithful_treeRuntime : Faithful treeRuntime ⊤ where
  packb v hportable hencodable hlimits _ := by
    obtain ⟨value, hvalue, -, -⟩ := recovered v hportable hencodable hlimits
    refine ⟨MsgPack.encode value, ?_⟩
    show (match toValue v with
      | some value => .ok (MsgPack.encode value)
      | none => .error _ : Except PackError Bytes) = _
    rw [hvalue]
  unpackb v hportable hencodable hlimits _ data hpack := by
    obtain ⟨value, hvalue, hback, hfits⟩ := recovered v hportable hencodable hlimits
    have hdata : MsgPack.encode value = data := by
      have hpack' : (match toValue v with
        | some value => .ok (MsgPack.encode value)
        | none => .error (.named "'utf-8' codec can't encode characters: surrogates not allowed") :
          Except PackError Bytes) = .ok data := hpack
      rw [hvalue] at hpack'
      exact Except.ok.inj hpack'
    show (match MsgPack.fromSlice data with
      | some value => .ok (ofValue value)
      | none => .error _ : Except PackError Object) = _
    rw [← hdata, MsgPack.fromSlice_encode hfits]
    show Except.ok (ofValue value) = Except.ok v
    rw [hback]

/-- A dictionary with a tuple in it, and a bytearray in the tuple. -/
def nested : Object :=
  .mapping [(.str "a", .tuple [.int (-1), .bytearray [1, 2], .float .one]), (.str "b", .none)]

/-- It comes back with a list and with bytes. -/
theorem normalizeMsgpackValue_spec_nested :
    ∃ data, encodeMsgpack treeRuntime nested = .ok data ∧
      decodeMsgpack treeRuntime data = .ok (.mapping
        [(.str "a", .list [.int (-1), .bytes [1, 2], .float .one]), (.str "b", .none)]) :=
  (normalizeMsgpackValue_spec nested (by decide)).2.2.2 treeRuntime ⊤ faithful_treeRuntime
    (by decide) (by decide) (by decide) le_top

end Sample

end Multifrost.Python.Service
