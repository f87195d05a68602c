import Mathlib.Data.Rat.Defs
import Multifrost.Lib.Entries

/-!
# JSON texts

`Json` is a JSON text up to white space and the spelling of its strings and numbers.  A number is
told from another by its value and by whether it is written as an integer, without a fraction and an
exponent, for typed readers make that distinction.  Some libraries write and read words for the
doubles that JSON has no number for; these are `nan` and `infinity`, and a text without them is
`standard`.

The fields of an object have distinct keys.  `Json.assign` sets one of them, and what it leaves of
the others is said by `lookup_assign`.
-/

inductive Json
  | null
  | bool (b : Bool)
  | int (n : Int)
  | float (q : ℚ)
  | nan
  | infinity (negative : Bool)
  | str (s : String)
  | arr (vs : List Json)
  | obj (fields : List (String × Json))

namespace Json

open Entries (lookup_cons)

abbrev Fields := List (String × Json)

mutual

/-- A text that every parser takes. -/
def standard : Json → Bool
  | .nan => false
  | .infinity _ => false
  | .arr vs => standardValues vs
  | .obj fields => standardFields fields
  | .null => true
  | .bool _ => true
  | .int _ => true
  | .float _ => true
  | .str _ => true

def standardValues : List Json → Bool
  | [] => true
  | v :: vs => v.standard && standardValues vs

def standardFields : Fields → Bool
  | [] => true
  | field :: fields => field.2.standard && standardFields fields

end

/-- The value of a number. -/
def number? : Json → Option ℚ
  | .int n => some n
  | .float q => some q
  | _ => none

/-- Set a field, in its place or at the end. -/
def assign (name : String) (value : Json) : Fields → Fields
  | [] => [(name, value)]
  | field :: fields =>
    if field.1 = name then (name, value) :: fields else field :: assign name value fields

theorem lookup_assign (name key : String) (value : Json) (fields : Fields) :
    (assign name value fields).lookup key =
      if key = name then some value else fields.lookup key := by
  induction fields with
  | nil => rw [assign, lookup_cons]
  | cons field fields ih =>
    unfold assign
    split_ifs with hfield hkey hkey
    · rw [lookup_cons, if_pos hkey]
    · rw [lookup_cons, if_neg hkey, lookup_cons, hfield, if_neg hkey]
    · rw [lookup_cons, ih, if_pos hkey, if_neg]
      exact fun h => hfield (h.symm.trans hkey)
    · rw [lookup_cons, lookup_cons, ih, if_neg hkey]

/-- Setting a field keeps the keys distinct, and adds at most its name. -/
theorem keys_assign (name : String) (value : Json) {fields : Fields}
    (h : (fields.map Prod.fst).Nodup) :
    ((assign name value fields).map Prod.fst).Nodup ∧
      ∀ key ∈ (assign name value fields).map Prod.fst, key = name ∨ key ∈ fields.map Prod.fst := by
  induction fields with
  | nil => simp [assign]
  | cons field fields ih =>
    obtain ⟨hnotMem, hnodup⟩ := List.nodup_cons.mp h
    obtain ⟨ihnodup, ihmem⟩ := ih hnodup
    unfold assign
    split_ifs with hfield
    · subst hfield
      exact ⟨h, fun key hkey => Or.inr hkey⟩
    · rw [List.map_cons, List.map_cons]
      refine ⟨List.nodup_cons.mpr ⟨fun hmem => ?_, ihnodup⟩, fun key hkey => ?_⟩
      · exact (ihmem _ hmem).elim hfield hnotMem
      · rcases List.mem_cons.mp hkey with rfl | hkey
        · exact Or.inr (List.mem_cons_self ..)
        · exact (ihmem key hkey).imp_right (List.mem_cons_of_mem _)

/-- The fields of a standard text are standard. -/
theorem standard_of_lookup {key : String} {value : Json} {fields : Fields}
    (h : standardFields fields = true) (hlookup : fields.lookup key = some value) :
    value.standard = true := by
  induction fields with
  | nil => cases hlookup
  | cons field fields ih =>
    obtain ⟨hfield, hfields⟩ := Bool.and_eq_true_iff.mp h
    rw [lookup_cons] at hlookup
    split_ifs at hlookup with hkey
    · rw [← Option.some.inj hlookup]
      exact hfield
    · exact ih hfields hlookup

/-- A standard value keeps a text as standard as it was. -/
theorem standardFields_assign {name : String} {value : Json} {fields : Fields}
    (hvalue : value.standard = true) (h : standardFields fields = true) :
    standardFields (assign name value fields) = true := by
  induction fields with
  | nil => simp [assign, standardFields, hvalue]
  | cons field fields ih =>
    obtain ⟨hfield, hfields⟩ := Bool.and_eq_true_iff.mp h
    unfold assign
    split_ifs
    · exact Bool.and_eq_true_iff.mpr ⟨hvalue, hfields⟩
    · exact Bool.and_eq_true_iff.mpr ⟨hfield, ih hfields⟩

end Json
