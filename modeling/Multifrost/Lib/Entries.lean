import Mathlib.Tactic.Common

/-!
# Entries under keys

What `List.lookup` finds in a list of entries.  Of several entries with one key it finds the first;
where the keys are distinct, it finds each of them.
-/

namespace Entries

variable {κ α β : Type} [BEq κ] [LawfulBEq κ] {entries : List (κ × α)} {key : κ}

theorem lookup_eq_none (h : key ∉ entries.map Prod.fst) : entries.lookup key = none := by
  rw [List.lookup_eq_none_iff]
  intro entry hentry
  rw [bne_iff_ne]
  exact fun heq => h (List.mem_map.mpr ⟨entry, hentry, heq.symm⟩)

variable [DecidableEq κ]

theorem lookup_cons (key : κ) (entry : κ × α) (entries : List (κ × α)) :
    (entry :: entries).lookup key = if key = entry.1 then some entry.2 else entries.lookup key := by
  obtain ⟨k, v⟩ := entry
  by_cases h : key = k
  · subst h
    rw [List.lookup_cons_self, if_pos rfl]
  · have hkey : (key == k) = false := beq_eq_false_iff_ne.mpr h
    rw [List.lookup_cons, hkey, if_neg h]

theorem lookup_of_mem (hnodup : (entries.map Prod.fst).Nodup) {v : α} (h : (key, v) ∈ entries) :
    entries.lookup key = some v := by
  induction entries with
  | nil => cases h
  | cons entry entries ih =>
    obtain ⟨hnotMem, hnodup⟩ := List.nodup_cons.mp hnodup
    rw [lookup_cons]
    rcases List.mem_cons.mp h with rfl | hmem
    · exact if_pos rfl
    · rw [if_neg fun hkey => hnotMem (List.mem_map.mpr ⟨_, hmem, hkey⟩)]
      exact ih hnodup hmem

theorem lookup_map (f : α → β) (key : κ) :
    (entries.map fun entry => (entry.1, f entry.2)).lookup key = (entries.lookup key).map f := by
  induction entries with
  | nil => rfl
  | cons entry entries ih =>
    rw [List.map_cons, lookup_cons, lookup_cons, ih]
    split_ifs <;> rfl

end Entries
